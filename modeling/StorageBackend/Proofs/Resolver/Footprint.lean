import StorageBackend.Proofs.Activity.Follows
import StorageBackend.Proofs.Credentials.Search
import StorageBackend.Proofs.Resolver.EntryPoints
import StorageBackend.Session

/-!
# The footprint of a resolution

What the outcome of a resolution depends on: the entry with the installation configuration and, on
AWS, two entries of one or two secrets, as they are at the instants at which they are read. Two
histories of a cluster that agree on these, counted from two instants at the same place of the
millisecond grid, have the same resolution, however they differ elsewhere. `resolve_eq_of_footprint`
is the main statement.

The cluster in memory answers a limited number of reads, and the clock ends somewhere. A resolution
that runs into either depends on more than its footprint, so both have to be far enough.
-/

namespace StorageBackend

open Cluster (ConfigMap Object Secret Timeline Windowed)
open Credentials (secretRef)
open InstallConfig (Holds sourceRef)
open Resolver (awsText)

/-! ## What a cluster in memory shows -/

/-- The entries of a secret under two keys. -/
def CredentialKeys.entries (keys : CredentialKeys) (secret : Secret) :
    Option (List UInt8) × Option (List UInt8) where
  fst := secret.entry? keys.access
  snd := secret.entry? keys.secret

namespace Cluster.Timeline

/-- What a read of an object shows at an instant if it is answered. -/
def shows (timeline : Timeline) (things : Timeline → Windowed α) (object : ObjectRef)
    (now : Instant) : Except Error (Option α) :=
  match timeline.failures.at? object now with
  | some error => .error error
  | none => .ok ((things timeline).at? object now)

/-- The cluster after some reads, with a number of them still to be answered. -/
def Answers (timeline : Timeline) (reads : Nat) (state : Timeline) : Prop :=
  ∃ left, reads ≤ left ∧ state = { timeline with readsLeft := left }

/-- A read that is answered shows the object and uses up one of the reads that are left. -/
theorem reading_of_answers {things : Timeline → Windowed α}
    (hthings : ∀ timeline left, things { timeline with readsLeft := left } = things timeline)
    (object : ObjectRef) (budget : Nat) (now : Instant) {timeline state : Timeline} {reads : Nat}
    (h : timeline.Answers (reads + 1) state) :
    ∃ next, reading object (answer things object) budget now state =
        some ⟨timeline.shows things object now, now, next, [.read object]⟩ ∧
      timeline.Answers reads next := by
  obtain ⟨left, hleft, rfl⟩ := h
  cases left with
  | zero => cases hleft
  | succ left =>
    refine ⟨{ timeline with readsLeft := left }, ?_, left, Nat.le_of_succ_le_succ hleft, rfl⟩
    unfold reading answer shows
    rw [hthings]
    rfl

/-- The entry with the installation configuration at an instant, if there is one and it can be
read. -/
def installEntry (timeline : Timeline) (now : Instant) :
    Except Error (Option (Option String)) :=
  (timeline.shows Timeline.configMaps sourceRef now).map
    (Option.map fun configMap => configMap.entry? "install-config")

/-- The two entries of a secret at an instant, if there is such a secret and it can be read. -/
def keyEntries (timeline : Timeline) (ns name : String) (keys : CredentialKeys) (now : Instant) :
    Except Error (Option (Option (List UInt8) × Option (List UInt8))) :=
  (timeline.shows Timeline.secrets (secretRef ns name) now).map
    (Option.map keys.entries)

/-- The installation configuration at an instant is for AWS. -/
def OnAws (timeline : Timeline) (now : Instant) : Prop :=
  ∃ config, Holds (timeline.shows Timeline.configMaps sourceRef now) config ∧
    config.platformType = .aws

end Cluster.Timeline

/-- Two clusters that show the same of what a resolution reads, counted from two instants: the
installation configuration and the user's keys at these instants and, for some time, the
installer's ones. What is not read need not be the same. -/
structure SameFootprint (sources : CredentialSources) (length : Nat) (now otherNow : Instant)
    (timeline other : Timeline) : Prop where
  phase : now % Duration.perMilli = otherNow % Duration.perMilli
  installEntry : timeline.installEntry now = other.installEntry otherNow
  user : timeline.OnAws now →
    timeline.keyEntries sources.ns sources.userSecret .user now =
      other.keyEntries sources.ns sources.userSecret .user otherNow
  installer : timeline.OnAws now →
    timeline.keyEntries sources.ns sources.userSecret .user now = .ok none →
    ∀ elapsed ≤ length,
      timeline.keyEntries sources.ns sources.installerSecret .installer (now + elapsed) =
        other.keyEntries sources.ns sources.installerSecret .installer (otherNow + elapsed)

/-- Nothing ends a run early: all its reads are answered, and the clock goes on long enough after
its last instant. -/
structure Unhindered (policy : PollPolicy) (timeline : Timeline) (trace : List Step)
    (last : Instant) : Prop where
  reads : (Activity.reads trace).length ≤ timeline.readsLeft
  fits : policy.FitsAt last

/-- Outcomes that are the same but for the instants at which the runs have begun, and for the states
of their clusters. -/
structure Outcome.SameSince {σ τ α : Type} (now otherNow : Instant) (first : Outcome σ α)
    (second : Outcome τ α) : Prop where
  result : first.result = second.result
  trace : first.trace = second.trace
  elapsed : ∃ elapsed, first.now = now + elapsed ∧ second.now = otherNow + elapsed

/-- Results that show the same through a view, as related results. -/
theorem results_alike_of_view_eq {α β γ : Type} {view : α → γ} {otherView : β → γ}
    {first : Except Error (Option α)} {second : Except Error (Option β)}
    (h : first.map (Option.map view) = second.map (Option.map otherView)) :
    ResultsAlike (Option.Rel fun x y => view x = otherView y) first second := by
  cases first with
  | error error =>
    cases second with
    | error other =>
      cases h
      exact .error error
    | ok y? => cases h
  | ok x? =>
    cases second with
    | error other => cases h
    | ok y? =>
      cases x? with
      | none =>
        cases y? with
        | none => exact .ok .none
        | some y => cases h
      | some x =>
        cases y? with
        | none => cases h
        | some y => exact .ok (.some (Option.some.inj (Except.ok.inj h)))

/-! ## Reads in two clusters -/

section Reads

variable (now otherNow : Instant) (length : Nat) (timeline other : Timeline)

/-- Two clusters in memory as worlds. -/
def timelines : Worlds Timeline Timeline where
  base := now
  otherBase := otherNow
  length := length
  Related reads s t := timeline.Answers reads s ∧ other.Answers reads t

variable {now otherNow length timeline other} {α : Type} {Q : α → α → Prop}

/-- Reads follow each other if they show related objects while the clusters are looked at. -/
theorem reading_follows {things : Timeline → Windowed α} {object : ObjectRef} {elapsed : Nat}
    (hthings : ∀ timeline left, things { timeline with readsLeft := left } = things timeline)
    (h : elapsed ≤ length → ResultsAlike (Option.Rel Q)
      (timeline.shows things object (now + elapsed))
      (other.shows things object (otherNow + elapsed))) :
    Activity.Follows (timelines now otherNow length timeline other)
      (fun later x y => later = elapsed ∧
        timeline.shows things object (now + elapsed) = .ok x ∧ Option.Rel Q x y)
      elapsed (Cluster.reading object (Timeline.answer things object))
      (Cluster.reading object (Timeline.answer things object)) := by
  intro budget reads s t outcome houtcome hend hstate
  have hreads : Activity.reads outcome.trace = [object] := by
    cases houtcome
    simp
  rw [hreads] at hstate
  obtain ⟨next, hfirst, hnext⟩ :=
    Timeline.reading_of_answers hthings object budget (now + elapsed) hstate.1
  obtain ⟨otherNext, hsecond, hotherNext⟩ :=
    Timeline.reading_of_answers hthings object budget (otherNow + elapsed) hstate.2
  obtain rfl := Option.some.inj (hfirst.symm.trans houtcome)
  refine ⟨_, elapsed, hsecond, rfl, rfl, ?_, rfl, hnext, hotherNext⟩
  show ResultsAlike _ (timeline.shows things object (now + elapsed))
    (other.shows things object (otherNow + elapsed))
  rcases (h (Nat.le_of_add_le_add_left hend)).values_or_error with
    ⟨x, y, hx, hy, hxy⟩ | ⟨error, hx, hy⟩
  · rw [hx, hy]
    exact .ok ⟨rfl, rfl, hxy⟩
  · rw [hx, hy]
    exact .error error

/-! ## Resolutions in two clusters -/

/-- Whatever configuration is read, the config map holds it. -/
theorem holds_of_config_map {found : Option ConfigMap} {config : InstallConfig}
    (h : InstallConfig.ofConfigMap found = .ok config) : Holds (.ok found) config := by
  unfold InstallConfig.ofConfigMap at h
  cases found with
  | none => cases h
  | some configMap =>
    cases hentry : configMap.entry? InstallConfig.sourceKey with
    | none =>
      simp only [hentry] at h
      cases h
    | some text =>
      simp only [hentry] at h
      cases hdecode : InstallConfig.decode text with
      | error reason =>
        rw [hdecode] at h
        cases h
      | ok found =>
        rw [hdecode] at h
        cases h
        exact .entry configMap text config hentry hdecode

/-- Config maps with the same entry give the same configuration or the same error. -/
theorem of_config_map_eq {found otherFound : Option ConfigMap}
    (h : Option.Rel (fun x y : ConfigMap => x.entry? "install-config" = y.entry? "install-config")
      found otherFound) :
    InstallConfig.ofConfigMap found = InstallConfig.ofConfigMap otherFound := by
  cases h with
  | none => rfl
  | some hentry =>
    unfold InstallConfig.ofConfigMap
    simp only [InstallConfig.sourceKey, hentry]

/-- Secrets with the same two entries give the same credentials or the same error. -/
theorem of_secret_eq {secret otherSecret : Secret} {keys : CredentialKeys}
    (h : keys.entries secret = keys.entries otherSecret) (ns name : String)
    (region : Option String) :
    Credentials.ofSecret secret ns name keys region =
      Credentials.ofSecret otherSecret ns name keys region := by
  obtain ⟨haccess, hsecret⟩ := Prod.mk.inj h
  unfold Credentials.ofSecret Credentials.requiredText
  rw [haccess, hsecret]

/-- A result is like itself. -/
theorem results_alike_refl {α : Type} (result : Except Error α) :
    ResultsAlike Eq result result := by
  cases result with
  | ok value => exact .ok rfl
  | error error => exact .error error

/-- The same installation configuration is read. -/
theorem read_follows (h : timeline.installEntry now = other.installEntry otherNow) :
    Activity.Follows (timelines now otherNow length timeline other)
      (fun later config otherConfig => later = 0 ∧ config = otherConfig ∧
        Holds (timeline.shows Timeline.configMaps sourceRef now) config) 0
      (InstallConfig.read Timeline.client) (InstallConfig.read Timeline.client) := by
  refine Activity.bind_follows
    (reading_follows (fun _ _ => rfl) fun _ => results_alike_of_view_eq h) ?_ ?_
  · exact fun _ => Activity.bind_forward (Activity.done_forward _) fun _ =>
      Activity.bind_forward (Activity.log_forward _) fun _ => Activity.done_forward _
  · rintro later found otherFound ⟨rfl, hfound, halike⟩
    have hdecoded : Activity.Follows (timelines now otherNow length timeline other)
        (fun later config otherConfig => later = 0 ∧ config = otherConfig ∧
          Holds (timeline.shows Timeline.configMaps sourceRef now) config) 0
        (Activity.done (InstallConfig.ofConfigMap found))
        (Activity.done (InstallConfig.ofConfigMap otherFound)) := by
      apply Activity.done_follows
      rw [← of_config_map_eq halike]
      cases hconfig : InstallConfig.ofConfigMap found with
      | error error => exact .error error
      | ok config => exact .ok ⟨rfl, rfl, hfound ▸ holds_of_config_map hconfig⟩
    refine Activity.bind_follows hdecoded ?_ ?_
    · exact fun _ => Activity.bind_forward (Activity.log_forward _) fun _ =>
        Activity.done_forward _
    · rintro later config otherConfig ⟨rfl, rfl, hholds⟩
      refine Activity.bind_follows (Activity.log_follows _ 0) (fun _ => Activity.done_forward _) ?_
      rintro later _ _ rfl
      exact Activity.done_follows (.ok ⟨rfl, rfl, hholds⟩)

section Secrets

variable {sources : CredentialSources} {policy : PollPolicy} (region : Option String)

/-- How a search goes on after the read of the user's secret. -/
def searchAfter {σ : Type} (client : Cluster.Client σ) (sources : CredentialSources)
    (policy : PollPolicy) (region : Option String) (found : Option Secret) :
    Activity σ S3Credentials :=
  match found with
  | some secret => do
    Activity.log (.userSecret sources.ns sources.userSecret)
    Activity.done (Credentials.ofSecret secret sources.ns sources.userSecret .user region)
  | none => do
    Activity.log (.awaitingInstaller sources.ns sources.installerSecret)
    Credentials.installerSearch client sources policy region

/-- The search for the installer's secret does not turn the clock back. -/
theorem installer_search_forward {σ : Type} (client : Cluster.Client σ) :
    (Credentials.installerSearch client sources policy region).Forward :=
  Activity.bind_forward (Poll.await_forward _ _ (Activity.reading_forward _ _)) fun _ =>
    Activity.bind_forward (Activity.log_forward _) fun _ => Activity.done_forward _

/-- Nor does what follows the read of the user's secret. -/
theorem search_after_forward {σ : Type} (client : Cluster.Client σ) (found : Option Secret) :
    (searchAfter client sources policy region found).Forward := by
  cases found with
  | some secret =>
    exact Activity.bind_forward (Activity.log_forward _) fun _ => Activity.done_forward _
  | none =>
    exact Activity.bind_forward (Activity.log_forward _) fun _ =>
      installer_search_forward region client

/-- What is in a secret that is found. -/
theorem of_secret_follows {keys : CredentialKeys} {secret otherSecret : Secret} (event : Log.Event)
    (h : keys.entries secret = keys.entries otherSecret) (name : String) (elapsed : Nat) :
    Activity.Follows (timelines now otherNow length timeline other) (fun _ => Eq) elapsed
      (do Activity.log event
          Activity.done (Credentials.ofSecret secret sources.ns name keys region))
      (do Activity.log event
          Activity.done (Credentials.ofSecret otherSecret sources.ns name keys region)) := by
  refine Activity.bind_follows (Activity.log_follows event elapsed)
    (fun _ => Activity.done_forward _) fun later _ _ _ => Activity.done_follows ?_
  rw [of_secret_eq h]
  exact results_alike_refl _

/-- The wait for the installer's secret finds the same credentials. -/
theorem installer_search_follows
    (hmove : Poll.Movable (timelines now otherNow length timeline other) policy)
    (hinstaller : ∀ elapsed ≤ length,
      timeline.keyEntries sources.ns sources.installerSecret .installer (now + elapsed) =
        other.keyEntries sources.ns sources.installerSecret .installer (otherNow + elapsed))
    (elapsed : Nat) :
    Activity.Follows (timelines now otherNow length timeline other) (fun _ => Eq) elapsed
      (Credentials.installerSearch Timeline.client sources policy region)
      (Credentials.installerSearch Timeline.client sources policy region) := by
  have hcheck (elapsed : Nat) : Activity.Follows (timelines now otherNow length timeline other)
      (fun _ => Option.Rel fun x y : Secret =>
        CredentialKeys.installer.entries x = CredentialKeys.installer.entries y) elapsed
      (Timeline.client.readSecret sources.ns sources.installerSecret)
      (Timeline.client.readSecret sources.ns sources.installerSecret) := by
    refine (reading_follows (fun _ _ => rfl) fun helapsed =>
      results_alike_of_view_eq (hinstaller elapsed helapsed)).mono ?_
    exact fun _ _ _ h => h.2.2
  refine Activity.bind_follows
    (Poll.await_follows hmove (Activity.reading_forward _ _) hcheck elapsed) ?_ ?_
  · exact fun _ => Activity.bind_forward (Activity.log_forward _) fun _ => Activity.done_forward _
  · exact fun later _ _ hentries => of_secret_follows region _ hentries _ later

/-- A search finds the same credentials. -/
theorem find_s3_follows (hmove : Poll.Movable (timelines now otherNow length timeline other) policy)
    (huser : timeline.keyEntries sources.ns sources.userSecret .user now =
      other.keyEntries sources.ns sources.userSecret .user otherNow)
    (hinstaller : timeline.keyEntries sources.ns sources.userSecret .user now = .ok none →
      ∀ elapsed ≤ length,
        timeline.keyEntries sources.ns sources.installerSecret .installer (now + elapsed) =
          other.keyEntries sources.ns sources.installerSecret .installer (otherNow + elapsed)) :
    Activity.Follows (timelines now otherNow length timeline other) (fun _ => Eq) 0
      (Credentials.findS3 Timeline.client sources policy region)
      (Credentials.findS3 Timeline.client sources policy region) := by
  refine Activity.bind_follows
    (reading_follows (fun _ _ => rfl) fun _ => results_alike_of_view_eq huser)
    (search_after_forward region Timeline.client) ?_
  rintro later found otherFound ⟨rfl, hfound, halike⟩
  cases halike with
  | some hentries => exact of_secret_follows region _ hentries _ 0
  | none =>
    have habsent : timeline.keyEntries sources.ns sources.userSecret .user now = .ok none := by
      rw [Timeline.keyEntries, show timeline.shows Timeline.secrets
        (secretRef sources.ns sources.userSecret) now = .ok none from hfound]
      rfl
    exact Activity.bind_follows (Activity.log_follows _ 0)
      (fun _ => installer_search_forward region Timeline.client) fun later _ _ _ =>
        installer_search_follows region hmove (hinstaller habsent) later

end Secrets

/-- The clock never goes back in what follows the reading of the installation configuration. -/
theorem on_platform_forward {σ : Type} (client : Cluster.Client σ) (settings : ResolverSettings)
    (config : InstallConfig) : (Resolver.onPlatform client settings config).Forward := by
  unfold Resolver.onPlatform
  cases config.platformType with
  | aws =>
    refine Activity.bind_forward (Activity.bind_forward (Activity.reading_forward _ _)
      (search_after_forward config.awsRegion client)) fun _ => ?_
    exact Activity.bind_forward (Activity.log_forward _) fun _ => Activity.done_forward _
  | _ => exact Activity.done_forward _

/-- The clock never goes back in a resolution. -/
theorem resolve_forward {σ : Type} (settings : ResolverSettings) (client : Cluster.Client σ) :
    (Resolver.resolve client settings).Forward := by
  have hread : (InstallConfig.read client).Forward := by
    refine Activity.bind_forward (Activity.reading_forward _ _) fun _ => ?_
    exact Activity.bind_forward (Activity.done_forward _) fun _ =>
      Activity.bind_forward (Activity.log_forward _) fun _ => Activity.done_forward _
  exact Activity.bind_forward hread fun config =>
    Activity.bind_forward (Activity.log_forward _) fun _ =>
      on_platform_forward client settings config

/-- A resolution gives the same storage. -/
theorem resolve_follows {settings : ResolverSettings}
    (hmove : Poll.Movable (timelines now otherNow length timeline other) settings.poll)
    (h : SameFootprint settings.sources length now otherNow timeline other) :
    Activity.Follows (timelines now otherNow length timeline other) (fun _ => Eq) 0
      (Resolver.resolve Timeline.client settings) (Resolver.resolve Timeline.client settings) := by
  refine Activity.bind_follows (read_follows h.installEntry)
    (fun config => Activity.bind_forward (Activity.log_forward _) fun _ =>
      on_platform_forward Timeline.client settings config) ?_
  rintro later config _ ⟨rfl, rfl, hholds⟩
  refine Activity.bind_follows (Activity.log_follows _ 0)
    (fun _ => on_platform_forward Timeline.client settings config) ?_
  rintro later _ _ rfl
  cases hcase : config.platformType with
  | aws =>
    have hon : timeline.OnAws now := ⟨config, hholds, hcase⟩
    refine Activity.bind_follows
      (find_s3_follows config.awsRegion hmove (h.user hon) (h.installer hon)) ?_ ?_
    · exact fun _ => Activity.bind_forward (Activity.log_forward _) fun _ =>
        Activity.done_forward _
    · rintro later credentials _ rfl
      exact Activity.bind_follows (Activity.log_follows _ later)
        (fun _ => Activity.done_forward _) fun _ _ _ _ => Activity.done_follows (.ok rfl)
  | _ => exact Activity.done_follows (results_alike_refl _)

end Reads

/-! ## Sessions -/

namespace Session

/-- Where a session stands after a history: the instant, and what the cluster is then. -/
def reached (history : List (Outcome Timeline Reply)) (start : Instant × Timeline) :
    Instant × Timeline :=
  history.foldl (fun _ outcome => (outcome.now, outcome.state)) start

/-- Commands after others are carried out where these have led. -/
theorem run_append (settings : ResolverSettings) (before after : List Command) :
    ∀ start : Instant × Timeline,
      run settings (before ++ after) start =
        (run settings before start).bind fun history =>
          (run settings after (reached history start)).map (history ++ ·) := by
  induction before with
  | nil =>
    intro start
    show _ = (run settings after start).map _
    exact Option.map_id'.symm
  | cons command before ih =>
    rintro ⟨now, timeline⟩
    rw [List.cons_append, run, run]
    cases command.activity settings budget now timeline with
    | none => rfl
    | some outcome =>
      simp only [ih, Option.map_bind, Option.bind_map]
      refine congrArg _ (funext fun history => ?_)
      exact Option.map_map _ _ _

/-- A session stands where its last command has led. -/
theorem reached_concat (history : List (Outcome Timeline Reply)) (last : Outcome Timeline Reply)
    (start : Instant × Timeline) :
    reached (history ++ [last]) start = (last.now, last.state) := by
  rw [reached, List.foldl_concat]

/-- A resolution as the only command. -/
theorem run_resolve (settings : ResolverSettings) (now : Instant) (timeline : Timeline) :
    run settings [.resolve] (now, timeline) =
      (Resolver.resolve Timeline.client settings budget now timeline).map fun outcome =>
        [{ outcome with result := outcome.result.map Reply.resolved }] := by
  have hcommand : Command.activity settings .resolve budget now timeline =
      (Resolver.resolve Timeline.client settings budget now timeline).map fun outcome =>
        { outcome with result := outcome.result.map Reply.resolved } := Activity.map_apply _
  rw [run, hcommand]
  cases Resolver.resolve Timeline.client settings budget now timeline with
  | none => rfl
  | some outcome => rfl

end Session

/-! ## What a resolution depends on -/

/-- Wherever two clusters show the same footprint, a resolution that is not hindered gives the same
result, with the same reads and the same log and in the same time. -/
theorem resolve_same_since {settings : ResolverSettings} {budget : Nat} {now otherNow : Instant}
    {timeline other : Timeline} {outcome : Outcome Timeline ResolvedConfig}
    (h : Resolver.resolve Timeline.client settings budget now timeline = some outcome)
    (hsame : SameFootprint settings.sources (outcome.now - now) now otherNow timeline other)
    (hfirst : Unhindered settings.poll timeline outcome.trace outcome.now)
    (hsecond : Unhindered settings.poll other outcome.trace (otherNow + (outcome.now - now))) :
    ∃ otherOutcome,
      Resolver.resolve Timeline.client settings budget otherNow other = some otherOutcome ∧
        outcome.SameSince now otherNow otherOutcome := by
  have hend : now + (outcome.now - now) = outcome.now :=
    Nat.add_sub_cancel' (resolve_forward settings Timeline.client _ _ _ _ h)
  have hmove : Poll.Movable (timelines now otherNow (outcome.now - now) timeline other)
      settings.poll := by
    refine ⟨hsame.phase, ?_, hsecond.fits⟩
    show settings.poll.FitsAt (now + (outcome.now - now))
    rw [hend]
    exact hfirst.fits
  have hstate : (timelines now otherNow (outcome.now - now) timeline other).Related
      (0 + (Activity.reads outcome.trace).length) timeline other := by
    rw [Nat.zero_add]
    exact ⟨⟨_, hfirst.reads, rfl⟩, ⟨_, hsecond.reads, rfl⟩⟩
  obtain ⟨otherOutcome, elapsed, hother, hfollows⟩ :=
    resolve_follows hmove hsame budget 0 timeline other outcome h (Nat.le_of_eq hend.symm) hstate
  refine ⟨otherOutcome, hother, ?_, hfollows.trace, elapsed, hfollows.now, hfollows.otherNow⟩
  rcases hfollows.result.values_or_error with ⟨_, _, hx, hy, rfl⟩ | ⟨error, hx, hy⟩
  · rw [hx, hy]
  · rw [hx, hy]

/-- A resolution depends on its footprint only, at any two points and so after any two histories: on
the place of the instant on the millisecond grid, the entry with the installation configuration and,
if this is for AWS, on what the user's secret shows at that instant, presence, failure and two
entries, and, if there is no such secret, on what the installer's one shows from then on until the
resolution ends. Where two points agree on these, the resolutions have the same result, the same
reads and log, and take the same time, provided that neither runs into the end of the clock or the
limit of the reads. -/
theorem resolve_eq_of_footprint (settings : ResolverSettings) :
    (∀ (budget : Nat) (now otherNow : Instant) (timeline other : Timeline)
        (outcome : Outcome Timeline ResolvedConfig),
      Resolver.resolve Timeline.client settings budget now timeline = some outcome →
      SameFootprint settings.sources (outcome.now - now) now otherNow timeline other →
      Unhindered settings.poll timeline outcome.trace outcome.now →
      Unhindered settings.poll other outcome.trace (otherNow + (outcome.now - now)) →
      ∃ otherOutcome,
        Resolver.resolve Timeline.client settings budget otherNow other = some otherOutcome ∧
          outcome.SameSince now otherNow otherOutcome) ∧
    (∀ (commands otherCommands : List Command) (start otherStart : Instant × Timeline)
        (history otherHistory : List (Outcome Timeline Reply)) (reply : Outcome Timeline Reply),
      let point := Session.reached history start
      let otherPoint := Session.reached otherHistory otherStart
      Session.run settings commands start = some history →
      Session.run settings otherCommands otherStart = some otherHistory →
      Session.run settings (commands ++ [.resolve]) start = some (history ++ [reply]) →
      SameFootprint settings.sources (reply.now - point.1) point.1 otherPoint.1 point.2
        otherPoint.2 →
      Unhindered settings.poll point.2 reply.trace reply.now →
      Unhindered settings.poll otherPoint.2 reply.trace
        (otherPoint.1 + (reply.now - point.1)) →
      ∃ otherReply,
        Session.run settings (otherCommands ++ [.resolve]) otherStart =
            some (otherHistory ++ [otherReply]) ∧
          reply.SameSince point.1 otherPoint.1 otherReply) := by
  refine ⟨fun budget now otherNow timeline other outcome => resolve_same_since, ?_⟩
  intro commands otherCommands start otherStart history otherHistory reply point otherPoint
    hhistory hotherHistory hrun hsame hfirst hsecond
  have hlast (start : Instant × Timeline) {commands : List Command}
      {history : List (Outcome Timeline Reply)}
      (h : Session.run settings commands start = some history) :
      Session.run settings (commands ++ [.resolve]) start =
        (Resolver.resolve Timeline.client settings Session.budget
          (Session.reached history start).1 (Session.reached history start).2).map fun outcome =>
            history ++ [{ outcome with result := outcome.result.map Reply.resolved }] := by
    rw [Session.run_append, h, Option.bind_some, Session.run_resolve, Option.map_map]
    rfl
  rw [hlast start hhistory] at hrun
  obtain ⟨outcome, houtcome, hreply⟩ := Option.map_eq_some_iff.mp hrun
  obtain rfl := List.singleton_inj.mp (List.append_cancel_left hreply)
  obtain ⟨otherOutcome, hother, hresult, htrace, helapsed⟩ :=
    resolve_same_since houtcome hsame hfirst hsecond
  rw [hlast otherStart hotherHistory, hother]
  exact ⟨_, rfl, congrArg (Except.map Reply.resolved) hresult, htrace, helapsed⟩

/-- A secret of the installer with two keys and maybe more. -/
def lateSecret (more : List (String × List UInt8)) : Secret :=
  ⟨none, none, some (("aws_access_key_id", Text.Utf8.encode "a") ::
    ("aws_secret_access_key", Text.Utf8.encode "b") :: more)⟩

/-- A cluster on AWS whose installer is one second late. -/
def lateInstaller (more : List (String × List UInt8)) : List Command :=
  [.putConfigMap "kube-system" "cluster-config-v1" ⟨none, none, some [("install-config", awsText)]⟩
      ⟨⟨0⟩, none⟩,
    .putSecret "openshift-image-registry" "installer-cloud-credentials" (lateSecret more)
      ⟨.ofSeconds 1, none⟩]

/-- What the cluster is after these commands at an instant. -/
def lateTimeline (now : Instant) (more : List (String × List UInt8)) (reads : Nat) : Timeline where
  configMaps := [(sourceRef, ⟨some now, none⟩, ⟨none, none, some [("install-config", awsText)]⟩)]
  secrets := [(⟨.secret, "openshift-image-registry", "installer-cloud-credentials"⟩,
    ⟨some (now + Duration.perSecond), none⟩, lateSecret more)]
  failures := []
  readsLeft := reads

/-- Wherever such a cluster begins, and whatever more its secret holds, it shows the same. -/
theorem late_footprint {now otherNow : Instant}
    (hphase : now % Duration.perMilli = otherNow % Duration.perMilli)
    (more otherMore : List (String × List UInt8)) (reads otherReads length : Nat) :
    SameFootprint CredentialSources.default length now otherNow (lateTimeline now more reads)
      (lateTimeline otherNow otherMore otherReads) := by
  have hconfig (now : Instant) (more : List (String × List UInt8)) (reads : Nat) :
      (lateTimeline now more reads).installEntry now = .ok (some (some awsText)) := by
    have hopen : (Cluster.Window.mk (some now) none).contains now = true := by
      simp [Cluster.Window.contains]
    show Except.map _ (Except.ok (if (Cluster.Window.mk (some now) none).contains now = true then _
      else none)) = _
    rw [if_pos hopen]
    rfl
  have hkeys (now elapsed : Nat) (more : List (String × List UInt8)) (reads : Nat) :
      (lateTimeline now more reads).keyEntries "openshift-image-registry"
          "installer-cloud-credentials" .installer (now + elapsed) =
        .ok (if Duration.perSecond ≤ elapsed then
          some (some (Text.Utf8.encode "a"), some (Text.Utf8.encode "b")) else none) := by
    have hopen : (Cluster.Window.mk (some (now + Duration.perSecond)) none).contains
        (now + elapsed) = true ↔ Duration.perSecond ≤ elapsed := by
      simp [Cluster.Window.contains]
    show Except.map _ (Except.ok (if (Cluster.Window.mk (some (now + Duration.perSecond))
      none).contains (now + elapsed) = true then _ else none)) = _
    by_cases h : Duration.perSecond ≤ elapsed
    · rw [if_pos (hopen.mpr h), if_pos h]
      rfl
    · rw [if_neg (mt hopen.mp h), if_neg h]
      rfl
  refine ⟨hphase, ?_, fun _ => rfl, fun _ _ elapsed _ => ?_⟩
  · rw [hconfig, hconfig]
  · exact (hkeys now elapsed more reads).trans (hkeys otherNow elapsed otherMore otherReads).symm

/-- The end of a session in which the configuration and the secret of the installer were put. -/
def lateEnd (now : Instant) (more : List (String × List UInt8)) (reads : Nat) :
    Outcome Timeline Reply :=
  ⟨.ok .nothing, now, lateTimeline now more reads, []⟩

/-- A cluster that has waited and been asked before finds the late keys in the same time, with the
same reads, as one that has just been started. -/
theorem late_keys_found_again :
    ∃ history reply,
      Session.run default (.resolve :: .advance (.ofSeconds 7) ::
        lateInstaller [("extra", [0])] ++ [.resolve]) Session.start = some (history ++ [reply]) ∧
      reply.now = 8 * Duration.perSecond ∧ (Activity.reads reply.trace).length = 4 := by
  obtain ⟨early, hearly⟩ : ∃ early, Session.run default (lateInstaller []) Session.start =
      some (early ++ [lateEnd 0 [] Session.readLimit]) := ⟨[_], rfl⟩
  obtain ⟨later, hlater⟩ : ∃ later,
      Session.run default (.resolve :: .advance (.ofSeconds 7) :: lateInstaller [("extra", [0])])
        Session.start = some (later ++
          [lateEnd (7 * Duration.perSecond) [("extra", [0])] (Session.readLimit - 1)]) :=
    ⟨[_, _, _], rfl⟩
  have hreply : (Session.run default [.resolve] (0, lateTimeline 0 [] Session.readLimit)).map
      (List.map fun reply => (reply.now, (Activity.reads reply.trace).length)) =
        some [(Duration.perSecond, 4)] := by decide +kernel
  obtain ⟨replies, hrun, hreplies⟩ := Option.map_eq_some_iff.mp hreply
  obtain ⟨reply, rfl, hshown⟩ := List.map_eq_singleton_iff.mp hreplies
  obtain ⟨hnow, hreads⟩ := Prod.mk.inj hshown
  have hfirst : Session.run default (lateInstaller [] ++ [.resolve]) Session.start =
      some (early ++ [lateEnd 0 [] Session.readLimit] ++ [reply]) := by
    rw [Session.run_append, hearly, Option.bind_some, Session.reached_concat]
    exact congrArg (Option.map _) hrun
  have hagain := (resolve_eq_of_footprint default).2 (lateInstaller [])
    (.resolve :: .advance (.ofSeconds 7) :: lateInstaller [("extra", [0])]) Session.start
    Session.start _ _ reply hearly hlater hfirst
  rw [Session.reached_concat, Session.reached_concat, hnow] at hagain
  obtain ⟨otherReply, hother, -, htrace, elapsed, helapsed, hotherNow⟩ :=
    hagain (late_footprint (by decide) _ _ _ _ _)
      ⟨by rw [hreads]; decide, fun _ => by decide +kernel, fun _ => by decide +kernel⟩
      ⟨by rw [hreads]; decide, fun _ => by decide +kernel, fun _ => by decide +kernel⟩
  refine ⟨_, otherReply, hother, ?_, htrace ▸ hreads⟩
  have hseconds : Duration.perSecond = elapsed :=
    (hnow.symm.trans helapsed).trans (Nat.zero_add elapsed)
  rw [hotherNow, ← hseconds]
  rfl

end StorageBackend
