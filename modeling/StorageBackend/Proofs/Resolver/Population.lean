import StorageBackend.Proofs.Resolver.EntryPoints
import StorageBackend.Storage.Summary

/-!
# Populated credentials

S3 credentials are the texts of two entries of one secret. A resolution that finds less than these
two texts fails, but a text may be empty: an entry of no bytes is accepted. `credentials_of_entries`
says where the credentials of a resolution come from and when its summary calls them present,
`resolution_accepts_empty_key` that a resolution can succeed without this.
-/

namespace StorageBackend

open Cluster (Client Secret)
open Text.Utf8 (encode encode_eq_nil_iff)

variable {σ : Type} {client : Client σ} {settings : ResolverSettings} {budget : Nat}
  {now : Instant} {state : σ}

namespace Credentials

/-- The secret that a search takes its credentials from, and the keys under which they stand. -/
inductive Chosen (client : Client σ) (sources : CredentialSources) (policy : PollPolicy)
    (now : Instant) (state : σ) : Secret → CredentialKeys → Prop where
  /-- The user's secret exists. -/
  | user (secret : Secret)
      (huser : (userRead client sources now state).result = .ok (some secret)) :
      Chosen client sources policy now state secret .user
  /-- There is no user's secret, and the wait for the installer's one ends with it. -/
  | installer (n : Nat) (secret : Secret)
      (huser : (userRead client sources now state).result = .ok none)
      (hlast : IsLeast {k | (installerCourse client sources policy now state).Settles k} n)
      (hfound : (installerCourse client sources policy now state).found n = .ok (some secret)) :
      Chosen client sources policy now state secret .installer

/-- Both parts of the credentials are whole entries of the secret that is chosen. -/
theorem entries_of_find_s3 {sources : CredentialSources} {policy : PollPolicy}
    {region : Option String} {search : Outcome σ S3Credentials} {credentials : S3Credentials}
    (h : findS3 client sources policy region budget now state = some search)
    (hresult : search.result = .ok credentials) :
    ∃ secret keys, Chosen client sources policy now state secret keys ∧
      secret.entry? keys.access = some (encode credentials.accessKey) ∧
      secret.entry? keys.secret = some (encode credentials.secretKey) := by
  obtain ⟨checks, -, hsearch⟩ := search_of_find_s3 h
  rw [hresult] at hsearch
  cases hsearch with
  | userFound secret _ huser hreading =>
    cases hreading with
    | complete accessKey secretKey haccess hsecret =>
      exact ⟨secret, .user, .user secret huser, haccess, hsecret⟩
  | installerFound n secret _ huser hlast hfound hreading =>
    cases hreading with
    | complete accessKey secretKey haccess hsecret =>
      exact ⟨secret, .installer, .installer n secret huser hlast hfound, haccess, hsecret⟩

end Credentials

namespace Resolver

/-- S3 as the result of a search comes with what the search has found. -/
theorem of_search_eq_s3 {search : Outcome σ S3Credentials} {credentials : S3Credentials}
    (h : (ofSearch search).result = .ok ⟨.s3 credentials⟩) : search.result = .ok credentials := by
  change search.result.map _ = _ at h
  cases hresult : search.result with
  | error error =>
    rw [hresult] at h
    cases h
  | ok found =>
    rw [hresult] at h
    cases h
    rfl

/-- S3 is the result of a search that follows the reading. -/
theorem search_of_resolution {outcome : Outcome σ ResolvedConfig} {credentials : S3Credentials}
    (h : resolve client settings budget now state = some outcome ∨
      awsConfig client settings budget now state = some outcome)
    (hresult : outcome.result = .ok ⟨.s3 credentials⟩) :
    ∃ config search, followingSearch client settings config budget now state = some search ∧
      search.result = .ok credentials := by
  rcases InstallConfig.holds_or_lacks (InstallConfig.sourceRead client now state).result with
    ⟨config, hholds⟩ | ⟨error, hlacks⟩
  · rcases h with h | h
    · by_cases hplatform : config.platformType = .aws
      · rw [resolve_of_aws hholds hplatform] at h
        obtain ⟨search, hsearch, rfl⟩ := Option.map_eq_some_iff.mp h
        exact ⟨config, search, hsearch, of_search_eq_s3 hresult⟩
      · -- elsewhere the result is not S3
        obtain ⟨other, hother, hotherResult, -, -⟩ :=
          resolve_of_other settings budget hholds hplatform
        obtain rfl : other = outcome := Option.some.inj (hother.symm.trans h)
        rw [hresult, otherResult] at hotherResult
        split at hotherResult
        · cases hotherResult
        · cases hotherResult
    · rw [aws_config_of_holds hholds] at h
      obtain ⟨search, hsearch, rfl⟩ := Option.map_eq_some_iff.mp h
      exact ⟨config, search, hsearch, of_search_eq_s3 hresult⟩
  · rw [resolve_of_lacks hlacks, aws_config_of_lacks hlacks, or_self] at h
    cases h
    cases hresult

/-- S3 credentials always come from both entries of the secret that is chosen, each of them there
and a text, so a resolution that finds less fails. The summary calls the credentials present exactly
if neither entry is empty, which nothing makes sure of. -/
theorem credentials_of_entries (client : Client σ) (settings : ResolverSettings) (budget : Nat)
    (now : Instant) (state : σ) {outcome : Outcome σ ResolvedConfig} {credentials : S3Credentials}
    (h : resolve client settings budget now state = some outcome ∨
      awsConfig client settings budget now state = some outcome)
    (hresult : outcome.result = .ok ⟨.s3 credentials⟩) :
    ∃ secret keys,
      Credentials.Chosen client settings.sources settings.poll
        (InstallConfig.sourceRead client now state).now
        (InstallConfig.sourceRead client now state).state secret keys ∧
      secret.entry? keys.access = some (encode credentials.accessKey) ∧
      secret.entry? keys.secret = some (encode credentials.secretKey) ∧
      ((ResolvedConfig.mk (.s3 credentials)).summary.hasCredentials = true ↔
        secret.entry? keys.access ≠ some [] ∧ secret.entry? keys.secret ≠ some []) := by
  obtain ⟨config, search, hsearch, hfound⟩ := search_of_resolution h hresult
  obtain ⟨secret, keys, hchosen, haccess, hsecret⟩ :=
    Credentials.entries_of_find_s3 hsearch hfound
  refine ⟨secret, keys, hchosen, haccess, hsecret, ?_⟩
  have hnonEmpty (text : String) : some (encode text) ≠ some [] ↔ text.isEmpty = false := by
    rw [Ne, Option.some_inj, encode_eq_nil_iff, ← String.isEmpty_iff, Bool.not_eq_true]
  rw [haccess, hsecret, hnonEmpty, hnonEmpty]
  show (!credentials.accessKey.isEmpty && !credentials.secretKey.isEmpty) = true ↔ _
  rw [Bool.and_eq_true, Bool.not_eq_true', Bool.not_eq_true']

/-- What a resolution finds of a user who has stored an empty access key. -/
theorem empty_access_key_found :
    (resolve (userClient awsText "" "b") default 1 0 ()).map (·.result.toOption) =
      some (some ⟨.s3 ⟨"", "b", "", ""⟩⟩) := by
  decide +kernel

/-- The credentials of such a user are what stands in the secret, and they are not all present. -/
theorem empty_access_key_chosen :
    ∃ secret keys,
      Credentials.Chosen (userClient awsText "" "b") CredentialSources.default default 0 () secret
        keys ∧
      secret.entry? keys.access = some [] := by
  obtain ⟨outcome, houtcome, hresult⟩ := Option.map_eq_some_iff.mp empty_access_key_found
  rw [Activity.to_option_eq_some_iff] at hresult
  obtain ⟨secret, keys, hchosen, haccess, -⟩ :=
    credentials_of_entries (userClient awsText "" "b") default 1 0 () (.inl houtcome) hresult
  exact ⟨secret, keys, hchosen, haccess⟩

/-- A resolution can succeed without populated credentials. -/
theorem resolution_accepts_empty_key :
    ¬ ∀ (settings : ResolverSettings) (client : Client Unit) (budget : Nat) (now : Instant)
        (outcome : Outcome Unit ResolvedConfig) (credentials : S3Credentials),
      resolve client settings budget now () = some outcome →
        outcome.result = .ok ⟨.s3 credentials⟩ →
          credentials.accessKey ≠ "" ∧ credentials.secretKey ≠ "" := by
  intro hclaim
  obtain ⟨outcome, houtcome, hresult⟩ := Option.map_eq_some_iff.mp empty_access_key_found
  rw [Activity.to_option_eq_some_iff] at hresult
  exact (hclaim _ _ _ _ outcome _ houtcome hresult).1 rfl

end Resolver

end StorageBackend
