import StorageBackend.CommandLine.Run
import StorageBackend.Proofs.Api.Recognition
import StorageBackend.Proofs.Credentials.Alike

/-!
# Secrecy of the credentials

On two clusters that differ in the texts stored as parts of S3 credentials a resolution makes the
same reads at the same instants, writes the same log, and ends at the same instant with the same
error or with configurations that differ in the two keys only. `resolution_hides_credentials` is the
main statement; if the same texts are empty on both clusters, it goes as far as the output of the
program.
-/

namespace StorageBackend.Resolver

open Cluster (Client)
open Credentials (ClientsAlike CredentialsAlike)

/-- S3 configurations that differ at most in their keys, which `P` relates. -/
inductive ConfigsAlike (P : String → String → Prop) : ResolvedConfig → ResolvedConfig → Prop where
  | s3 (first second : S3Credentials) (h : CredentialsAlike P first second) :
      ConfigsAlike P ⟨.s3 first⟩ ⟨.s3 second⟩

/-- Any two texts. -/
def AnyTexts (_ _ : String) : Prop := True

/-- Two texts of which both or none are empty. -/
def SameEmptiness (text other : String) : Prop := text = "" ↔ other = ""

/-- The installation configuration that is read now is for Google's platform. -/
def OnGcp {σ : Type} (client : Client σ) (budget : Nat) (now : Instant) (state : σ) : Prop :=
  ∃ config : InstallConfig,
    (InstallConfig.read client).Gives budget now state config ∧ config.platformType = .gcp

variable {σ τ : Type} {R : σ → τ → Prop} {P : String → String → Prop}
  {settings : ResolverSettings} {first : Client σ} {second : Client τ}

/-! ## Resolutions -/

/-- The installation configuration is the same. -/
theorem read_alike {sources : CredentialSources} (h : ClientsAlike sources P R first second) :
    Activity.Alike R Eq (InstallConfig.read first) (InstallConfig.read second) := by
  refine Activity.bind_alike (Activity.reading_alike h.installConfig) fun found other hfound => ?_
  obtain rfl : found = other := by
    cases hfound with
    | none => rfl
    | some heq => rw [heq]
  have hdecoded : Activity.Alike R Eq (Activity.done (InstallConfig.ofConfigMap found))
      (Activity.done (InstallConfig.ofConfigMap found)) := by
    apply Activity.done_alike
    cases InstallConfig.ofConfigMap found with
    | ok config => exact .ok rfl
    | error error => exact .error error
  refine Activity.bind_alike hdecoded fun config other hconfig => ?_
  cases hconfig
  exact Activity.bind_alike (Activity.log_alike _) fun _ _ _ => Activity.done_alike (.ok rfl)

section Resolutions

variable (hrefl : ∀ text, P text text) (h : ClientsAlike settings.sources P R first second)

include hrefl h

/-- The S3 configurations that are found differ in the keys only. -/
theorem s3_config_alike (config : InstallConfig) :
    Activity.Alike R (ConfigsAlike P) (s3Config first settings config)
      (s3Config second settings config) := by
  refine Activity.bind_alike (Credentials.find_s3_alike hrefl h settings.poll config.awsRegion)
    fun credentials other hcredentials => ?_
  rw [hcredentials.region]
  refine Activity.bind_alike (Activity.log_alike _) fun _ _ _ => ?_
  exact Activity.done_alike (.ok (.s3 _ _ hcredentials))

/-- So do those of the way for AWS. -/
theorem aws_config_alike :
    Activity.Alike R (ConfigsAlike P) (awsConfig first settings) (awsConfig second settings) := by
  refine Activity.bind_alike (read_alike h) fun config other hconfig => ?_
  cases hconfig
  exact s3_config_alike hrefl h config

/-- The storage is S3 on both clusters or, on Google's platform, Google cloud storage without
credentials on both. -/
theorem resolve_alike {budget : Nat} {now : Instant} {s : σ} {t : τ} (hstate : R s t) :
    Option.Rel
      (Outcome.Alike R fun x y =>
        ConfigsAlike P x y ∨ OnGcp first budget now s ∧ x = gcsConfig ∧ y = gcsConfig)
      (resolve first settings budget now s) (resolve second settings budget now t) := by
  refine Activity.bind_alike_at (read_alike h budget now s t hstate)
    fun config other hconfig hread => ?_
  cases hconfig
  refine Activity.bind_alike (Activity.log_alike _) fun _ _ _ => ?_
  -- the platform comes from the configuration, which holds no credentials
  cases hplatform : config.platformType with
  | aws => exact (s3_config_alike hrefl h config).mono fun _ _ => .inl
  | gcp => exact Activity.done_alike (.ok (.inr ⟨⟨config, hread, hplatform⟩, rfl, rfl⟩))
  | _ => exact Activity.done_alike (.error _)

end Resolutions

/-! ## Summaries and output -/

/-- Every text is as empty as itself. -/
theorem same_emptiness_refl (text : String) : SameEmptiness text text := Iff.rfl

/-- Texts that are not empty are alike in this. -/
theorem same_emptiness_of_ne {text other : String} (htext : text ≠ "") (hother : other ≠ "") :
    SameEmptiness text other :=
  ⟨fun h => absurd h htext, fun h => absurd h hother⟩

/-- The test for the empty text tells such texts not apart. -/
theorem is_empty_eq {text other : String} (h : SameEmptiness text other) :
    text.isEmpty = other.isEmpty := by
  rw [Bool.eq_iff_iff, String.isEmpty_iff, String.isEmpty_iff]
  exact h

/-- A summary tells of a key only whether it is empty. -/
theorem summary_eq {x y : ResolvedConfig} (h : ConfigsAlike SameEmptiness x y) :
    x.summary = y.summary := by
  obtain ⟨first, second, haccess, hsecret, hbucket, hregion⟩ := h
  simp only [ResolvedConfig.summary, StorageConfig.summary, StorageConfig.kind,
    is_empty_eq haccess, is_empty_eq hsecret, hbucket, hregion]

section Summaries

variable (h : ClientsAlike settings.sources SameEmptiness R first second)

include h

/-- The summaries of the way for AWS are the same. -/
theorem aws_config_summary_alike :
    Activity.Alike R (fun x y => x.summary = y.summary) (awsConfig first settings)
      (awsConfig second settings) :=
  (aws_config_alike same_emptiness_refl h).mono fun _ _ => summary_eq

/-- So are those of a resolution, on every platform. -/
theorem resolve_summary_alike :
    Activity.Alike R (fun x y => x.summary = y.summary) (resolve first settings)
      (resolve second settings) := by
  intro budget now s t hstate
  refine Activity.outcomes_mono (resolve_alike same_emptiness_refl h hstate) fun x y hxy => ?_
  rcases hxy with hxy | ⟨-, rfl, rfl⟩
  · exact summary_eq hxy
  · rfl

end Summaries

/-- What a run shows: its exit code, its output, its complaint and its log. -/
def shown (result : CommandLine.Result) : UInt32 × String × Option String × List Json.Value :=
  (result.exitCode, result.output, result.complaint, result.log)

section Output

open CommandLine (Invocation Talk Task World execute printed)

variable {R : Talk → Talk → Prop}
  (h : ClientsAlike settings.sources SameEmptiness R CommandLine.client CommandLine.client)

/-- Printing alike summaries. -/
theorem printed_alike {first second : Activity Talk ResolvedConfig}
    (h : Activity.Alike R (fun x y => x.summary = y.summary) first second) :
    Activity.Alike R Eq (do return printed (← first).summary.toJson)
      (do return printed (← second).summary.toJson) := by
  refine Activity.bind_alike h fun x y hxy => ?_
  rw [hxy]
  exact Activity.done_alike (.ok rfl)

include h in
/-- Both tasks give the same output. -/
theorem task_alike {task : Task} (htask : task = .resolve settings ∨ task = .resolveAws settings) :
    Activity.Alike R Eq task.activity task.activity := by
  rcases htask with rfl | rfl
  · exact printed_alike (resolve_summary_alike h)
  · exact printed_alike (aws_config_summary_alike h)

include h in
/-- Runs of the program on both clusters show the same. -/
theorem execute_alike {invocation : Invocation}
    (htask : invocation.task = .resolve settings ∨ invocation.task = .resolveAws settings)
    {world : World} {cluster : Api.Routes} (hstart : R ⟨world.cluster, []⟩ ⟨cluster, []⟩) :
    (execute world invocation).map shown =
      (execute { world with cluster := cluster } invocation).map shown := by
  have haccess : CommandLine.access { world with cluster := cluster } invocation =
      CommandLine.access world invocation := rfl
  unfold execute
  rw [haccess]
  cases CommandLine.access world invocation with
  | error obstacle =>
    cases hobstacle : obstacle.error? <;> simp only [hobstacle]
  | ok _ =>
    rcases (task_alike h htask).outcomes CommandLine.budget 0 hstart with
      ⟨ha, hb⟩ | ⟨a, b, ha, hb, hresult, -, -, htrace⟩
    · simp only [ha, hb]
      rfl
    · have hlog : CommandLine.logLines { world with cluster := cluster } invocation b.trace =
          CommandLine.logLines world invocation a.trace := by
        rw [htrace]
        rfl
      simp only [ha, hb, Option.bind_eq_bind, Option.bind_some, hlog]
      rcases hresult.values_or_error with ⟨x, _, hx, hy, rfl⟩ | ⟨error, hx, hy⟩
      · rw [hx, hy]
        rfl
      · rw [hx, hy]
        rfl

end Output

/-! ## What may be known of the credentials -/

/-- A resolution tells nothing of the texts stored as parts of S3 credentials but in the two keys of
the configuration that it gives. On clusters that answer alike but for these texts it shows the same
trace, ends at the same instant, and gives the same error or configurations that differ in the keys
only: S3 on both clusters or, by `resolve` on Google's platform, Google cloud storage on both. If
the same texts are empty on both clusters, the summaries are the same, and so is all that a run of
the program shows. -/
theorem resolution_hides_credentials (settings : ResolverSettings) :
    (∀ {σ τ : Type} (first : Client σ) (second : Client τ) (R : σ → τ → Prop),
      ClientsAlike settings.sources AnyTexts R first second →
        (∀ budget now s t, R s t →
          Option.Rel
            (Outcome.Alike R fun x y =>
              ConfigsAlike AnyTexts x y ∨ OnGcp first budget now s ∧ x = gcsConfig ∧ y = gcsConfig)
            (resolve first settings budget now s) (resolve second settings budget now t)) ∧
        Activity.Alike R (ConfigsAlike AnyTexts) (awsConfig first settings)
          (awsConfig second settings)) ∧
    (∀ {σ τ : Type} (first : Client σ) (second : Client τ) (R : σ → τ → Prop),
      ClientsAlike settings.sources SameEmptiness R first second →
        Activity.Alike R (fun x y => x.summary = y.summary) (resolve first settings)
          (resolve second settings) ∧
        Activity.Alike R (fun x y => x.summary = y.summary) (awsConfig first settings)
          (awsConfig second settings)) ∧
    (∀ R : CommandLine.Talk → CommandLine.Talk → Prop,
      ClientsAlike settings.sources SameEmptiness R CommandLine.client CommandLine.client →
        ∀ (world : CommandLine.World) (cluster : Api.Routes) (invocation : CommandLine.Invocation),
          invocation.task = .resolve settings ∨ invocation.task = .resolveAws settings →
          R ⟨world.cluster, []⟩ ⟨cluster, []⟩ →
            (CommandLine.execute world invocation).map shown =
              (CommandLine.execute { world with cluster := cluster } invocation).map shown) :=
  ⟨fun _ _ _ h =>
      ⟨fun _ _ _ _ hstate => resolve_alike (fun _ => trivial) h hstate,
        aws_config_alike (fun _ => trivial) h⟩,
    fun _ _ _ h => ⟨resolve_summary_alike h, aws_config_summary_alike h⟩,
    fun _ h _ _ _ htask hstart => execute_alike h htask hstart⟩

/-- A cluster with an installation configuration and a user who has stored two keys. -/
def userClient (installConfig accessKey secretKey : String) : Client Unit where
  configMap _ _ _ state :=
    ⟨.ok (some ⟨none, none, some [("install-config", installConfig)]⟩), ⟨0⟩, state, []⟩
  secret _ _ _ state :=
    ⟨.ok (some ⟨none, none, some
      [("REGISTRY_STORAGE_S3_ACCESSKEY", Text.Utf8.encode accessKey),
        ("REGISTRY_STORAGE_S3_SECRETKEY", Text.Utf8.encode secretKey)]⟩), ⟨0⟩, state, []⟩

/-- Such clusters differ in the keys of their users only. -/
theorem user_clients_alike (sources : CredentialSources) (installConfig a b c d : String)
    (haccess : P a c) (hsecret : P b d) :
    ClientsAlike sources P (fun _ _ => True) (userClient installConfig a b)
      (userClient installConfig c d) := by
  have hread : ∀ now s t,
      ((userClient installConfig a b).secret sources.ns sources.userSecret now s).Alike
        (fun _ _ => True) (Credentials.SecretsAlike P)
        ((userClient installConfig c d).secret sources.ns sources.userSecret now t) := by
    refine fun _ _ _ => ⟨.ok (.some ⟨rfl, rfl, .some ?_⟩), rfl, trivial, rfl⟩
    exact .cons (.credential _ _ _ (by decide) haccess)
      (.cons (.credential _ _ _ (by decide) hsecret) .nil)
  exact ⟨fun _ _ _ _ => ⟨.ok (.some rfl), rfl, trivial, rfl⟩, fun now s t _ => hread now s t,
    fun now s t _ => hread now s t⟩

/-- An installation configuration for AWS. -/
def awsText : String := "\x7b\"platform\":\x7b\"aws\":\x7b\x7d\x7d\x7d"

/-- An installation configuration for Google's platform. -/
def gcpText : String := "\x7b\"platform\":\x7b\"gcp\":\x7b\x7d\x7d\x7d"

/-! ### Two users behind an interface -/

/-- A config map with an installation configuration for AWS, as the interface gives it. -/
def awsResponse : Api.Response where
  code := 200
  body := Text.Utf8.encode
    "\x7b\"data\":\x7b\"install-config\":\"platform: \x7baws: \x7b\x7d\x7d\"\x7d\x7d"

/-- The secret of a user with two keys in Base64. -/
def userResponse (accessKey secretKey : String) : Api.Response where
  code := 200
  body := Text.Utf8.encode <|
    "\x7b\"data\":\x7b\"REGISTRY_STORAGE_S3_ACCESSKEY\":\"" ++ accessKey ++
      "\",\"REGISTRY_STORAGE_S3_SECRETKEY\":\"" ++ secretKey ++ "\"\x7d\x7d"

/-- The config map with the installation configuration. -/
def configObject : ObjectRef :=
  ⟨.configMap, InstallConfig.sourceNamespace, InstallConfig.sourceName⟩

/-- The secret of the user. -/
def userObject : ObjectRef :=
  ⟨.secret, CredentialSources.default.ns, CredentialSources.default.userSecret⟩

/-- The cluster of this user, on AWS. -/
def userRoutes (accessKey secretKey : String) : Api.Routes :=
  [(Api.address configObject, [awsResponse]),
    (Api.address userObject, [userResponse accessKey secretKey])]

/-- Two runs that have sent the same, to the clusters of two users. -/
def SameSent (first second : CommandLine.Talk) : Prop :=
  first.sent = second.sent ∧ first.state = userRoutes "YQ==" "Yg==" ∧
    second.state = userRoutes "Yw==" "ZA=="

/-- The secret of the first of these users. -/
def firstSecret : Cluster.Secret :=
  ⟨none, none, some [("REGISTRY_STORAGE_S3_ACCESSKEY", Text.Utf8.encode "a"),
    ("REGISTRY_STORAGE_S3_SECRETKEY", Text.Utf8.encode "b")]⟩

/-- The secret of the second user. -/
def secondSecret : Cluster.Secret :=
  ⟨none, none, some [("REGISTRY_STORAGE_S3_ACCESSKEY", Text.Utf8.encode "c"),
    ("REGISTRY_STORAGE_S3_SECRETKEY", Text.Utf8.encode "d")]⟩

/-- A read behind the interfaces of the two users looks the same if the responses to it say the
same, but for objects that `Q` relates. -/
theorem routed_alike {α : Type} {Q : α → α → Prop} (read : Json.Reader α) {object : ObjectRef}
    (hobject : Api.Addressable object) (event : Log.Event) {response other : Api.Response}
    (hfirst : (userRoutes "YQ==" "Yg==").respond (Api.address object) =
      (response, userRoutes "YQ==" "Yg=="))
    (hsecond : (userRoutes "Yw==" "ZA==").respond (Api.address object) =
      (other, userRoutes "Yw==" "ZA=="))
    {found found' : Except Error (Option α)} {log : List Log.Event}
    (hresponse : Api.settled event (response.decode read) = (found, log))
    (hother : Api.settled event (other.decode read) = (found', log))
    (h : ResultsAlike (Option.Rel Q) found found') (now : Instant) {s t : CommandLine.Talk}
    (hstate : SameSent s t) :
    (Api.answer Api.routed read object event now s).Alike SameSent Q
      (Api.answer Api.routed read object event now t) := by
  obtain ⟨routes, sent⟩ := s
  obtain ⟨others, sent⟩ := t
  obtain ⟨rfl, rfl, rfl⟩ := hstate
  obtain ⟨hsendable, hpath⟩ := hobject.sendable
  rw [← hpath] at hfirst hsecond
  rw [Api.routed_answer read hsendable event hfirst, Api.routed_answer read hsendable event hsecond,
    hresponse, hother]
  exact ⟨h, rfl, ⟨rfl, rfl, rfl⟩, rfl⟩

/-- The secrets of the two users differ in the keys only. -/
theorem user_secrets_alike : Credentials.SecretsAlike SameEmptiness firstSecret secondSecret := by
  refine ⟨rfl, rfl, .some ?_⟩
  exact .cons (.credential _ _ _ (by decide) (same_emptiness_of_ne (by decide) (by decide)))
    (.cons (.credential _ _ _ (by decide) (same_emptiness_of_ne (by decide) (by decide))) .nil)

/-- The clusters of the two users answer alike but for the keys. -/
theorem user_routes_alike :
    ClientsAlike CredentialSources.default SameEmptiness SameSent CommandLine.client
      CommandLine.client := by
  have hconfigMap : ∀ ns name now (talk : CommandLine.Talk),
      CommandLine.client.configMap ns name now talk =
        Api.answer Api.routed Api.configMap ⟨.configMap, ns, name⟩ (.configMapNotFound ns name) now
          talk := fun _ _ _ _ => rfl
  have hsecret : ∀ ns name now (talk : CommandLine.Talk),
      CommandLine.client.secret ns name now talk =
        Api.answer Api.routed Api.secret ⟨.secret, ns, name⟩ (.secretNotFound ns name) now
          talk := fun _ _ _ _ => rfl
  have haws : awsResponse.decode Api.configMap =
      .ok ⟨none, none, some [("install-config", "platform: \x7baws: \x7b\x7d\x7d")]⟩ := by
    decide +kernel
  have hfirst : (userResponse "YQ==" "Yg==").decode Api.secret = .ok firstSecret := by
    decide +kernel
  have hsecond : (userResponse "Yw==" "ZA==").decode Api.secret = .ok secondSecret := by
    decide +kernel
  have hnowhere : Api.Routes.nowhere.decode Api.secret =
      .error (.refused ⟨"Failure", "not found", "NotFound", 404⟩) := by
    decide +kernel
  have huserNe : Api.address configObject ≠ Api.address userObject := by decide +kernel
  refine ⟨fun now s t hstate => ?_, fun now s t hstate => ?_, fun now s t hstate => ?_⟩
  · rw [hconfigMap, hconfigMap]
    exact routed_alike Api.configMap (by decide +kernel) _ Api.Routes.respond_cons_self
      Api.Routes.respond_cons_self (congrArg (Api.settled _) haws) (congrArg (Api.settled _) haws)
      (.ok (.some rfl)) now hstate
  · rw [hsecret, hsecret]
    exact routed_alike Api.secret (by decide +kernel) _
      (Api.Routes.respond_cons_of_ne huserNe _ Api.Routes.respond_cons_self)
      (Api.Routes.respond_cons_of_ne huserNe _ Api.Routes.respond_cons_self)
      (congrArg (Api.settled _) hfirst) (congrArg (Api.settled _) hsecond)
      (.ok (.some user_secrets_alike)) now hstate
  · rw [hsecret, hsecret]
    exact routed_alike Api.secret (by decide +kernel) _
      (Api.Routes.respond_cons_of_ne (by decide +kernel) _
        (Api.Routes.respond_cons_of_ne (by decide +kernel) _ rfl))
      (Api.Routes.respond_cons_of_ne (by decide +kernel) _
        (Api.Routes.respond_cons_of_ne (by decide +kernel) _ rfl))
      (congrArg (Api.settled _) hnowhere) (congrArg (Api.settled _) hnowhere) (.ok .none) now hstate

/-- The world of the first user, with a client configuration that leads to the cluster. -/
def userWorld : CommandLine.World where
  environment := []
  file _ := some <|
    "\x7bclusters: [\x7bname: c, cluster: \x7bserver: h\x7d\x7d], " ++
      "contexts: [\x7bname: c, context: \x7bcluster: c\x7d\x7d], current-context: c\x7d"
  output _ _ := none
  now := 0
  cluster := userRoutes "YQ==" "Yg=="

/-- A run that looks for the storage and writes its log line by line. -/
def resolveRun : CommandLine.Invocation := ⟨.resolve default, some "config", true⟩

/-- What a resolution shows does not tell two users apart, and yet it finds their keys: neither its
outcome, if only one of the users has stored an empty key, nor its summary, if both have stored two
keys, nor a run of the program, which says that there are credentials. -/
theorem user_keys_hidden :
    (Option.Rel
        (Outcome.Alike (fun _ _ => True) fun x y =>
          ConfigsAlike AnyTexts x y ∨
            OnGcp (userClient awsText "a" "b") 1 0 () ∧ x = gcsConfig ∧ y = gcsConfig)
        (resolve (userClient awsText "a" "b") default 1 0 ())
        (resolve (userClient awsText "c" "") default 1 0 ()) ∧
      Activity.Alike (fun _ _ => True) (ConfigsAlike AnyTexts)
        (awsConfig (userClient awsText "a" "b") default)
        (awsConfig (userClient awsText "c" "") default) ∧
      (resolve (userClient awsText "a" "b") default 1 0 ()).map (·.result.toOption) =
        some (some ⟨.s3 ⟨"a", "b", "", ""⟩⟩) ∧
      (awsConfig (userClient awsText "a" "b") default 1 0 ()).map (·.result.toOption) =
        some (some ⟨.s3 ⟨"a", "b", "", ""⟩⟩) ∧
      (awsConfig (userClient awsText "c" "") default 1 0 ()).map (·.result.toOption) =
        some (some ⟨.s3 ⟨"c", "", "", ""⟩⟩)) ∧
    (Activity.Alike (fun _ _ => True) (fun x y => x.summary = y.summary)
        (resolve (userClient awsText "a" "b") default)
        (resolve (userClient awsText "c" "d") default) ∧
      Activity.Alike (fun _ _ => True) (fun x y => x.summary = y.summary)
        (awsConfig (userClient awsText "a" "b") default)
        (awsConfig (userClient awsText "c" "d") default) ∧
      (resolve (userClient awsText "c" "d") default 1 0 ()).map (·.result.toOption) =
        some (some ⟨.s3 ⟨"c", "d", "", ""⟩⟩)) ∧
    (CommandLine.execute userWorld resolveRun).map shown =
        (CommandLine.execute { userWorld with cluster := userRoutes "Yw==" "ZA==" }
          resolveRun).map shown ∧
      (CommandLine.execute userWorld resolveRun).map (·.output) =
        some "\x7b\n  \"type\": \"s3\",\n  \"hasCredentials\": true\n\x7d\n" := by
  obtain ⟨halike, hsummary, hshown⟩ := resolution_hides_credentials default
  have hany : ClientsAlike _ AnyTexts _ _ _ :=
    user_clients_alike CredentialSources.default awsText "a" "b" "c" "" trivial trivial
  have hboth : ClientsAlike _ SameEmptiness _ _ _ :=
    user_clients_alike CredentialSources.default awsText "a" "b" "c" "d"
      (same_emptiness_of_ne (by decide) (by decide)) (same_emptiness_of_ne (by decide) (by decide))
  refine ⟨⟨?_, ?_, by decide +kernel, by decide +kernel, by decide +kernel⟩,
    ⟨?_, ?_, by decide +kernel⟩, ?_, by decide +kernel⟩
  · exact (halike _ _ _ hany).1 1 0 () () trivial
  · exact (halike _ _ _ hany).2
  · exact (hsummary _ _ _ hboth).1
  · exact (hsummary _ _ _ hboth).2
  · exact hshown SameSent user_routes_alike userWorld _ resolveRun (.inl rfl) ⟨rfl, rfl, rfl⟩

/-- A resolution that succeeds does not always give S3: on Google's platform it gives Google cloud
storage, even to users who have stored keys for S3. -/
theorem success_is_not_always_s3 :
    ¬ ∀ (settings : ResolverSettings) (first second : Client Unit) (R : Unit → Unit → Prop),
      ClientsAlike settings.sources AnyTexts R first second →
        Activity.Alike R (ConfigsAlike AnyTexts) (resolve first settings)
          (resolve second settings) := by
  intro hclaim
  have hgcp : (resolve (userClient gcpText "a" "b") default 1 0 ()).map (·.result.toOption) =
      some (some gcsConfig) := by decide +kernel
  have halike := hclaim default _ _ _
    (user_clients_alike _ gcpText "a" "b" "c" "d" trivial trivial)
  rcases halike.outcomes 1 0 (s := ()) (t := ()) trivial with ⟨ha, -⟩ | ⟨a, b, ha, -, hresult, -⟩
  · rw [ha] at hgcp
    cases hgcp
  · rw [ha, Option.map_some] at hgcp
    rcases hresult.values_or_error with ⟨x, y, hx, -, hxy⟩ | ⟨error, hx, -⟩
    · rw [hx] at hgcp
      cases hgcp
      cases hxy
    · rw [hx] at hgcp
      cases hgcp

end StorageBackend.Resolver
