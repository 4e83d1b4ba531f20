import Mathlib.Data.List.Forall2
import StorageBackend.InstallConfig.Source
import StorageBackend.Proofs.Activity.Alike
import StorageBackend.Proofs.Credentials.Entry

/-!
# Clusters that differ in their credentials

Two clusters that answer alike but for the texts stored as parts of S3 credentials. `find_s3_alike`
says that a search for credentials looks the same on both of them: which texts are stored shows in
the credentials that are found, and nowhere else.
-/

namespace StorageBackend.Credentials

open Cluster (Answer Client Secret)
open Text.Utf8 (encode)

/-- The keys under which parts of S3 credentials stand, in the user's and the installer's secret. -/
def keys : List String :=
  [CredentialKeys.user.access, CredentialKeys.user.secret, CredentialKeys.installer.access,
    CredentialKeys.installer.secret]

/-- The same entry, or two entries for the same part of credentials whose texts `P` relates. -/
inductive EntriesAlike (P : String → String → Prop) :
    String × List UInt8 → String × List UInt8 → Prop where
  | same (entry : String × List UInt8) : EntriesAlike P entry entry
  | credential (key text other : String) (hkey : key ∈ keys) (h : P text other) :
      EntriesAlike P (key, encode text) (key, encode other)

/-- Secrets that differ at most in the texts stored as parts of credentials. -/
structure SecretsAlike (P : String → String → Prop) (first second : Secret) : Prop where
  name : first.name = second.name
  ns : first.ns = second.ns
  data : Option.Rel (List.Forall₂ (EntriesAlike P)) first.data second.data

/-- Clients that answer the reads of a resolution alike, again and again, but for the texts stored
as parts of credentials. `R` relates their states at any time. -/
structure ClientsAlike {σ τ : Type} (sources : CredentialSources) (P : String → String → Prop)
    (R : σ → τ → Prop) (first : Client σ) (second : Client τ) : Prop where
  installConfig : ∀ now s t, R s t →
    (first.configMap InstallConfig.sourceNamespace InstallConfig.sourceName now s).Alike R Eq
      (second.configMap InstallConfig.sourceNamespace InstallConfig.sourceName now t)
  userSecret : ∀ now s t, R s t →
    (first.secret sources.ns sources.userSecret now s).Alike R (SecretsAlike P)
      (second.secret sources.ns sources.userSecret now t)
  installerSecret : ∀ now s t, R s t →
    (first.secret sources.ns sources.installerSecret now s).Alike R (SecretsAlike P)
      (second.secret sources.ns sources.installerSecret now t)

/-- Credentials that differ at most in their keys, which `P` relates. -/
structure CredentialsAlike (P : String → String → Prop) (first second : S3Credentials) :
    Prop where
  accessKey : P first.accessKey second.accessKey
  secretKey : P first.secretKey second.secretKey
  bucket : first.bucket = second.bucket
  region : first.region = second.region

variable {P : String → String → Prop}

/-! ## Secrets -/

/-- Under every key there is the same value, or two texts that `P` relates. -/
theorem find_alike {first second : Entries (List UInt8)}
    (h : List.Forall₂ (EntriesAlike P) first second) (key : String) :
    first.find? key = second.find? key ∨ ∃ text other, P text other ∧
      first.find? key = some (encode text) ∧ second.find? key = some (encode other) := by
  -- on both lists at once: related entries have the same key, so the same entry is found
  induction h with
  | nil => exact .inl rfl
  | @cons entry other first second hentry _ ih =>
    cases hentry with
    | same =>
      by_cases hkey : entry.1 = key
      · simp [Entries.find?, hkey]
      · simpa [Entries.find?, hkey] using ih
    | credential k text other _ hP =>
      by_cases hkey : k = key
      · exact .inr ⟨text, other, hP, if_pos hkey, if_pos hkey⟩
      · simpa [Entries.find?, hkey] using ih

/-- Secrets that are alike have the same entry under a key, or two texts that `P` relates. -/
theorem entry_alike {first second : Secret} (h : SecretsAlike P first second) (key : String) :
    first.entry? key = second.entry? key ∨ ∃ text other, P text other ∧
      first.entry? key = some (encode text) ∧ second.entry? key = some (encode other) := by
  unfold Cluster.Object.entry?
  rcases none_or_related h.data with ⟨hfirst, hsecond⟩ | ⟨entries, others, hfirst, hsecond, hall⟩
  · rw [hfirst, hsecond]
    exact .inl rfl
  · rw [hfirst, hsecond]
    exact find_alike hall key

section Reading

variable (hrefl : ∀ text, P text text) {first second : Secret} (ns name : String)

include hrefl

/-- Every defect of an entry shows in both secrets. -/
theorem required_text_alike (h : SecretsAlike P first second) (key : String) :
    ResultsAlike P (requiredText first ns name key) (requiredText second ns name key) := by
  rcases entry_alike h key with hsame | ⟨text, other, hP, hfirst, hsecond⟩
  · have heq : requiredText first ns name key = requiredText second ns name key := by
      rw [requiredText, hsame, requiredText]
    rw [heq]
    cases requiredText second ns name key with
    | ok text => exact .ok (hrefl text)
    | error error => exact .error error
  · rw [required_text_eq_ok_iff.mpr hfirst, required_text_eq_ok_iff.mpr hsecond]
    exact .ok hP

/-- Secrets that are alike give credentials that are alike, or the same error. -/
theorem of_secret_alike (h : SecretsAlike P first second) (keys : CredentialKeys)
    (region : Option String) :
    ResultsAlike (CredentialsAlike P) (ofSecret first ns name keys region)
      (ofSecret second ns name keys region) := by
  unfold ofSecret
  rcases (required_text_alike hrefl ns name h keys.access).values_or_error with
    ⟨accessKey, otherAccess, hfirst, hsecond, haccess⟩ | ⟨error, hfirst, hsecond⟩
  · rw [hfirst, hsecond]
    rcases (required_text_alike hrefl ns name h keys.secret).values_or_error with
      ⟨secretKey, otherSecret, hfirst, hsecond, hsecret⟩ | ⟨error, hfirst, hsecond⟩
    · rw [hfirst, hsecond]
      exact .ok ⟨haccess, hsecret, rfl, rfl⟩
    · rw [hfirst, hsecond]
      exact .error error
  · rw [hfirst, hsecond]
    exact .error error

end Reading

/-! ## Searches -/

variable {σ τ : Type} {R : σ → τ → Prop} {sources : CredentialSources} {first : Client σ}
  {second : Client τ}

/-- A search for credentials looks the same on both clusters. -/
theorem find_s3_alike (hrefl : ∀ text, P text text)
    (h : ClientsAlike sources P R first second) (policy : PollPolicy) (region : Option String) :
    Activity.Alike R (CredentialsAlike P) (findS3 first sources policy region)
      (findS3 second sources policy region) := by
  refine Activity.bind_alike (Activity.reading_alike h.userSecret) fun found other hfound => ?_
  cases hfound with
  | some hsecrets =>
    refine Activity.bind_alike (Activity.log_alike _) fun _ _ _ => ?_
    exact Activity.done_alike (of_secret_alike hrefl _ _ hsecrets _ _)
  | none =>
    have hwait : Activity.Alike R (SecretsAlike P)
        (waitForSecret first policy sources.ns sources.installerSecret)
        (waitForSecret second policy sources.ns sources.installerSecret) :=
      Poll.await_alike (Activity.reading_alike h.installerSecret)
    refine Activity.bind_alike (Activity.log_alike _) fun _ _ _ => ?_
    refine Activity.bind_alike hwait fun secret other hsecrets => ?_
    refine Activity.bind_alike (Activity.log_alike _) fun _ _ _ => ?_
    exact Activity.done_alike (of_secret_alike hrefl _ _ hsecrets _ _)

end StorageBackend.Credentials
