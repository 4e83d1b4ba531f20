import StorageBackend.Proofs.Api.SecretBody
import StorageBackend.Proofs.Api.Waiting

/-!
# From the bytes of a response to the credentials

The keys of a user travel from a response to the credentials byte for byte: through a JSON text,
Base64 and the reading of bytes as a text nothing is lost, added or trimmed. What are no texts is
refused, and the error names the secret and the first of the two keys. `keys_conveyed` says so for
any bytes, and for both secrets.
-/

namespace StorageBackend.Api

open Cluster (Secret)
open Credentials (secretRef userRead)
open InstallConfig (Holds sourceRead sourceRef)
open Resolver (resolve)
open Text.Utf8 (encode)

variable {σ : Type}

/-- The pairs have a value under a key: it is the one in the last pair with this key. -/
def Maps {α : Type} (pairs : List (String × α)) (key : String) (value : α) : Prop :=
  ∃ before after, pairs = before ++ (key, value) :: after ∧ key ∉ after.map Prod.fst

/-- What a resolution gives for the bytes under the two keys of a secret: credentials with the texts
that have exactly these bytes, or the error about the first bytes that are no text. -/
inductive Conveyed (ns name : String) (keys : CredentialKeys) (region : Option String)
    (access secret : List UInt8) : Except Error ResolvedConfig → Prop where
  | texts (accessKey secretKey : String) (haccess : encode accessKey = access)
      (hsecret : encode secretKey = secret) :
      Conveyed ns name keys region access secret
        (.ok ⟨.s3 ⟨accessKey, secretKey, "", region.getD ""⟩⟩)
  | noAccessKey (h : ∀ text, encode text ≠ access) :
      Conveyed ns name keys region access secret
        (.error (.invalidSecretValue (ns ++ "/" ++ name) keys.access))
  | noSecretKey (accessKey : String) (haccess : encode accessKey = access)
      (h : ∀ text, encode text ≠ secret) :
      Conveyed ns name keys region access secret
        (.error (.invalidSecretValue (ns ++ "/" ++ name) keys.secret))

section

variable {ns name : String} {keys : CredentialKeys} {region : Option String}
  {access secret : List UInt8}

/-- A secret with these bytes gives what is conveyed of them. -/
theorem conveyed_of_entries {object : Secret} (haccess : object.entry? keys.access = some access)
    (hsecret : object.entry? keys.secret = some secret) :
    Conveyed ns name keys region access secret
      ((Credentials.ofSecret object ns name keys region).map fun credentials =>
        ⟨.s3 credentials⟩) := by
  have hreading := Credentials.of_secret_iff.mp
    (rfl : Credentials.ofSecret object ns name keys region = _)
  generalize Credentials.ofSecret object ns name keys region = result at hreading ⊢
  cases hreading with
  | complete accessKey secretKey hfirst hsecond =>
    exact .texts accessKey secretKey (Option.some.inj (hfirst.symm.trans haccess))
      (Option.some.inj (hsecond.symm.trans hsecret))
  | noAccessKey error hdefect =>
    cases hdefect with
    | absent hnone =>
      rw [haccess] at hnone
      cases hnone
    | malformed bytes hentry hbytes =>
      obtain rfl : access = bytes := Option.some.inj (haccess.symm.trans hentry)
      exact .noAccessKey hbytes
  | noSecretKey accessKey error hfirst hdefect =>
    have hencode := Option.some.inj (hfirst.symm.trans haccess)
    cases hdefect with
    | absent hnone =>
      rw [hsecret] at hnone
      cases hnone
    | malformed bytes hentry hbytes =>
      obtain rfl : secret = bytes := Option.some.inj (hsecret.symm.trans hentry)
      exact .noSecretKey accessKey hencode hbytes

/-- What a response carries under a key is the entry of the secret that it tells. -/
theorem entry_of_maps {entries : List (String × List UInt8)} {object : Secret} {key : String}
    {value : List UInt8} (hdata : object.data = some (Entries.ofList entries))
    (h : Maps entries key value) : object.entry? key = some value := by
  obtain ⟨before, after, rfl, hlast⟩ := h
  rw [Cluster.Object.entry?, hdata]
  exact Entries.find_of_list before after value hlast

end

section

variable (transport : Transport σ) (settings : ResolverSettings) (start : Turn σ)

/-- A resolution takes the credentials of a user's secret that is there. -/
theorem resolve_of_user_secret {config : InstallConfig} {object : Secret}
    (hholds : Holds (sourceRead (client transport) start.now start.conversation).result config)
    (hplatform : config.platformType = .aws)
    (huser : (userRead (client transport) settings.sources
      (sourceRead (client transport) start.now start.conversation).now
      (sourceRead (client transport) start.now start.conversation).state).result =
        .ok (some object))
    (budget : Nat) :
    ∃ outcome,
      resolve (client transport) settings budget start.now start.conversation = some outcome ∧
      outcome.result = (Credentials.ofSecret object settings.sources.ns settings.sources.userSecret
        .user config.awsRegion).map fun credentials => ⟨.s3 credentials⟩ := by
  obtain ⟨search, hsearch, hresult⟩ : ∃ search,
      Resolver.followingSearch (client transport) settings config budget start.now
        start.conversation = some search ∧
      search.result = Credentials.ofSecret object settings.sources.ns settings.sources.userSecret
        .user config.awsRegion :=
    (Credentials.find_s3_of_user_secret budget huser).imp fun _ h => ⟨h.1, h.2.2⟩
  rw [Resolver.resolve_of_aws hholds hplatform, hsearch]
  refine ⟨_, rfl, ?_⟩
  show search.result.map _ = _
  rw [hresult]

/-- For all bytes under the two keys: a resolution that is answered with a configuration for AWS and
then with a secret of the user that carries these bytes gives credentials with the texts that have
exactly these bytes, or the error about the first of them that are no text. So it does for the
installer's secret, if there is none of the user and this one has come in time. -/
theorem keys_conveyed {config : InstallConfig} (entries : List (String × List UInt8))
    (access secret : List UInt8)
    (hholds : Holds (sourceRead (client transport) start.now start.conversation).result config)
    (hplatform : config.platformType = .aws) :
    (∀ response, Sendable (secretRef settings.sources.ns settings.sources.userSecret) →
      ((start.ask transport sourceRef).reply transport
        (secretRef settings.sources.ns settings.sources.userSecret)).response = .ok response →
      Carries entries response → Maps entries "REGISTRY_STORAGE_S3_ACCESSKEY" access →
      Maps entries "REGISTRY_STORAGE_S3_SECRETKEY" secret → ∀ budget,
      ∃ outcome,
        resolve (client transport) settings budget start.now start.conversation = some outcome ∧
        Conveyed settings.sources.ns settings.sources.userSecret .user config.awsRegion access
          secret outcome.result) ∧
    ∀ n response, Reachable settings.sources →
      IsNotFound ((start.ask transport sourceRef).reply transport
        (secretRef settings.sources.ns settings.sources.userSecret)).response →
      (∀ k < n, GoesOn transport settings start k) →
      installerReply transport settings start n = .ok response →
      Carries entries response → Maps entries "aws_access_key_id" access →
      Maps entries "aws_secret_access_key" secret → ∀ budget, n < budget →
      ∃ outcome,
        resolve (client transport) settings budget start.now start.conversation = some outcome ∧
        Conveyed settings.sources.ns settings.sources.installerSecret .installer config.awsRegion
          access secret outcome.result := by
  refine ⟨fun response hsendable hreply hcarries haccess hsecret budget => ?_,
    fun n response hreach hnone hbefore hreply hcarries haccess hsecret budget hbudget => ?_⟩
  · obtain ⟨object, htold, hdata⟩ := told_secret hcarries
    obtain ⟨-, -, hfound⟩ := user_read_over transport start hsendable
    rw [hreply] at hfound
    have huser := told_unique hfound htold
    obtain ⟨outcome, houtcome, hresult⟩ :=
      resolve_of_user_secret transport settings start hholds hplatform huser budget
    refine ⟨outcome, houtcome, ?_⟩
    rw [hresult]
    exact conveyed_of_entries (entry_of_maps hdata haccess) (entry_of_maps hdata hsecret)
  · obtain ⟨object, htold, hdata⟩ := told_secret hcarries
    have hlast : IsLastCheck transport settings start n := by
      refine ⟨hbefore, fun hgoes => ?_⟩
      have hnot := hgoes.1
      rw [hreply] at hnot
      cases told_unique htold (.notFound response hnot)
    have hover := resolve_of_last transport start hreach hholds hplatform hnone hlast budget
    rw [if_pos hbudget] at hover
    obtain ⟨outcome, found, houtcome, -, -, -, hfound, hresult⟩ := hover
    rw [hreply] at hfound
    obtain rfl := told_unique hfound htold
    refine ⟨outcome, houtcome, ?_⟩
    rw [hresult]
    exact conveyed_of_entries (entry_of_maps hdata haccess) (entry_of_maps hdata hsecret)

end

/-! ## Keys with white space, and bytes that are no text -/

/-- A secret of the interface with some data. -/
def secretTerm (entries : List (String × List UInt8)) : Json.Term :=
  .object ([("apiVersion", .string "v1"), ("kind", .string "Secret"),
    ("metadata", .object [("name", .string "keys")])] ++
    ("data", dataTerm entries) :: [("type", .string "Opaque")])

/-- A response with such a secret. -/
def secretResponse (entries : List (String × List UInt8)) : Response :=
  respond 200 (String.ofList (secretTerm entries).compact)

/-- Such a response carries the data. -/
theorem secret_response_carries (entries : List (String × List UInt8)) :
    Carries entries (secretResponse entries) := by
  have hsecret : IsSecret entries (secretTerm entries) := by
    refine .object _ _ (fun member hmember shape hshape => ?_)
      (fun member hmember shape hshape => ?_) (by decide)
    · simp only [List.mem_cons, List.not_mem_nil, or_false] at hmember
      rcases hmember with rfl | rfl | rfl
      · cases hshape
        rfl
      · cases hshape
        rfl
      · cases hshape
        refine .inr ⟨nofun, _, rfl, fun member hmember shape hshape => ?_⟩
        obtain rfl := List.mem_singleton.mp hmember
        cases hshape
        exact .inr ⟨nofun, _, rfl⟩
    · obtain rfl := List.mem_singleton.mp hmember
      cases hshape
      exact .inr ⟨nofun, _, rfl⟩
  refine .body _ _ [] _ [] rfl hsecret (Json.renders_compact _) Json.space_nil Json.space_nil ?_
  rw [List.nil_append, List.append_nil]
  rfl

/-- Keys of a user with white space around them, and another entry. -/
def spacedKeys : List (String × List UInt8) :=
  [("REGISTRY_STORAGE_S3_ACCESSKEY", encode "AK "), ("comment", [0xff]),
    ("REGISTRY_STORAGE_S3_SECRETKEY", encode "\ts\n")]

/-- Keys of the installer, one of which is an overlong form. -/
def overlongKeys : List (String × List UInt8) :=
  [("aws_secret_access_key", encode "s"), ("aws_access_key_id", [0xc0, 0xaf])]

/-- The keys of a user. -/
def userScript : Turn (Script (Except String Response × Duration)) where
  now := 0
  conversation :=
    { state := [(1, .ok (respond 200 awsBody), ⟨0⟩),
        (1, .ok (secretResponse spacedKeys), .ofSeconds 2)]
      sent := [] }

/-- No keys of a user, and those of the installer when they are asked for again. Every response
takes two seconds. -/
def installerScript : Turn (Script (Except String Response × Duration)) where
  now := 0
  conversation :=
    { state := [(1, .ok (respond 200 awsBody), .ofSeconds 2),
        (2, .ok (respond 404 ""), .ofSeconds 2),
        (1, .ok (secretResponse overlongKeys), .ofSeconds 2)]
      sent := [] }

/-- The white space of the user's keys is kept, and the installer's first key is refused. -/
theorem spaced_keys_conveyed :
    (∃ outcome region,
      resolve (client scripted) default 0 userScript.now userScript.conversation = some outcome ∧
      outcome.result = .ok ⟨.s3 ⟨"AK ", "\ts\n", "", region⟩⟩) ∧
    ∃ outcome,
      resolve (client scripted) default 2 installerScript.now installerScript.conversation =
        some outcome ∧
      outcome.result = .error (.invalidSecretValue
        "openshift-image-registry/installer-cloud-credentials" "aws_access_key_id") := by
  constructor
  · obtain ⟨config, hholds, hplatform⟩ := aws_body_holds _ _
    obtain ⟨huser, -⟩ := keys_conveyed scripted default userScript spacedKeys (encode "AK ")
      (encode "\ts\n") hholds hplatform
    obtain ⟨outcome, houtcome, hconveyed⟩ := huser (secretResponse spacedKeys)
      default_reachable.user rfl (secret_response_carries spacedKeys)
      ⟨[], _, rfl, by decide⟩ ⟨spacedKeys.take 2, [], rfl, by decide⟩ 0
    refine ⟨outcome, config.awsRegion.getD "", houtcome, ?_⟩
    generalize outcome.result = result at hconveyed ⊢
    cases hconveyed with
    | texts accessKey secretKey haccess hsecret =>
      rw [Text.Utf8.encode_injective haccess, Text.Utf8.encode_injective hsecret]
    | noAccessKey h => exact absurd rfl (h "AK ")
    | noSecretKey accessKey haccess h => exact absurd rfl (h "\ts\n")
  · obtain ⟨config, hholds, hplatform⟩ := aws_body_holds _ _
    obtain ⟨-, hinstaller⟩ := keys_conveyed scripted default installerScript overlongKeys
      [0xc0, 0xaf] (encode "s") hholds hplatform
    have hnotFound : IsNotFound (.ok (respond 404 "")) := ⟨_, "", rfl, rfl, by decide +kernel⟩
    have hfirst : installerReply scripted default installerScript 0 = .ok (respond 404 "") := rfl
    obtain ⟨outcome, houtcome, hconveyed⟩ := hinstaller 1 (secretResponse overlongKeys)
      default_reachable hnotFound
      (fun k hk => by
        obtain rfl : k = 0 := Nat.lt_one_iff.mp hk
        exact ⟨hfirst ▸ hnotFound, fun _ => by decide +kernel⟩)
      rfl (secret_response_carries overlongKeys) ⟨overlongKeys.take 1, [], rfl, by decide⟩
      ⟨[], _, rfl, by decide⟩ 2 (by decide)
    have hnoText : ∀ text, encode text ≠ [0xc0, 0xaf] := by
      intro text htext
      have hdecode := Text.Utf8.decode_eq_ok_iff.mpr htext
      cases hdecode
    refine ⟨outcome, houtcome, ?_⟩
    generalize outcome.result = result at hconveyed ⊢
    cases hconveyed with
    | noAccessKey h => rfl
    | texts accessKey secretKey haccess hsecret => exact absurd haccess (hnoText accessKey)
    | noSecretKey accessKey haccess h => exact absurd haccess (hnoText accessKey)

end StorageBackend.Api
