import StorageBackend.Proofs.Credentials.Entry
import StorageBackend.Proofs.Credentials.Wait

/-!
# The search for S3 credentials

The rules of the search, as what can be observed of it: the secrets that are read, in order, and the
result. `find_s3_iff_search` says that the search does exactly what these rules allow, for a client
whose answers depend on the clock and on everything it has been asked before.

The rules count the checks of the wait for the installer's secret, because an activity has an
outcome only if its waits stay within their budget. A search whose wait never settles has no outcome
and no rule.
-/

namespace StorageBackend.Credentials

open Cluster (Client Secret)
open Poll (Course)

variable {σ : Type} (client : Client σ) (sources : CredentialSources) (policy : PollPolicy)
  (region : Option String) (now : Instant) (state : σ)

/-- The read of the user's secret, with which every search begins. -/
def userRead : Outcome σ (Option Secret) :=
  secretRead client sources.ns sources.userSecret now state

/-- The wait for the installer's secret, which begins where the read of the user's secret ends. -/
def installerCourse : Course σ Secret :=
  secretCourse client policy sources.ns sources.installerSecret
    (userRead client sources now state).now (userRead client sources now state).state

/-- The reads of a search whose wait makes a number of checks. -/
def searchReads (checks : Nat) : List ObjectRef :=
  secretRef sources.ns sources.userSecret ::
    List.replicate checks (secretRef sources.ns sources.installerSecret)

/-- The number of checks of the wait for the installer's secret and the result of a search. -/
inductive Search : Nat → Except Error S3Credentials → Prop where
  /-- The first read fails, and its error is the result. -/
  | userFails (error : Error)
      (huser : (userRead client sources now state).result = .error error) :
      Search 0 (.error error)
  /-- The user's secret exists. It counts, whatever is in it. -/
  | userFound (secret : Secret) (result : Except Error S3Credentials)
      (huser : (userRead client sources now state).result = .ok (some secret))
      (hreading : Reading secret sources.ns sources.userSecret
        ⟨"REGISTRY_STORAGE_S3_ACCESSKEY", "REGISTRY_STORAGE_S3_SECRETKEY"⟩ region result) :
      Search 0 result
  /-- A check of the wait for the installer's secret fails, and its error is the result. -/
  | installerFails (n : Nat) (error : Error)
      (huser : (userRead client sources now state).result = .ok none)
      (hlast : IsLeast {k | (installerCourse client sources policy now state).Settles k} n)
      (hfound : (installerCourse client sources policy now state).found n = .error error) :
      Search (n + 1) (.error error)
  /-- The installer's secret exists at last. -/
  | installerFound (n : Nat) (secret : Secret) (result : Except Error S3Credentials)
      (huser : (userRead client sources now state).result = .ok none)
      (hlast : IsLeast {k | (installerCourse client sources policy now state).Settles k} n)
      (hfound : (installerCourse client sources policy now state).found n = .ok (some secret))
      (hreading : Reading secret sources.ns sources.installerSecret
        ⟨"aws_access_key_id", "aws_secret_access_key"⟩ region result) :
      Search (n + 1) result
  /-- The wait runs out of time. -/
  | installerLate (n : Nat)
      (huser : (userRead client sources now state).result = .ok none)
      (hlast : IsLeast {k | (installerCourse client sources policy now state).Settles k} n)
      (hfound : (installerCourse client sources policy now state).found n = .ok none) :
      Search (n + 1) (.error (.timeout
        ("secret " ++ (sources.ns ++ "/" ++ sources.installerSecret))
        ⟨(installerCourse client sources policy now state).ends n -
          (installerCourse client sources policy now state).start⟩))

/-- What a search does when the user's secret does not exist. -/
def installerSearch : Activity σ S3Credentials := do
  let secret ← waitForSecret client policy sources.ns sources.installerSecret
  Activity.log (.installerSecret sources.ns sources.installerSecret)
  Activity.done (ofSecret secret sources.ns sources.installerSecret .installer region)

variable {client sources policy region now state}

/-! ## The read of the user's secret -/

/-- A search ends with the error of its first read. -/
theorem find_s3_of_user_error (budget : Nat) {error : Error}
    (huser : (userRead client sources now state).result = .error error) :
    ∃ outcome, findS3 client sources policy region budget now state = some outcome ∧
      Activity.reads outcome.trace = searchReads sources 0 ∧ outcome.result = .error error :=
  ⟨_, Activity.bind_of_error (read_secret_apply client _ _ now state budget) huser,
    reads_secret_read client _ _ now state, rfl⟩

/-- A search takes what is in the user's secret. -/
theorem find_s3_of_user_secret (budget : Nat) {secret : Secret}
    (huser : (userRead client sources now state).result = .ok (some secret)) :
    ∃ outcome, findS3 client sources policy region budget now state = some outcome ∧
      Activity.reads outcome.trace = searchReads sources 0 ∧
      outcome.result = ofSecret secret sources.ns sources.userSecret .user region := by
  refine ⟨_, Activity.bind_of_ok (read_secret_apply client _ _ now state budget) huser, ?_, rfl⟩
  rw [Activity.reads_append, reads_secret_read]
  rfl

/-- Without a user's secret a search goes on with the installer's one. -/
theorem find_s3_of_user_none (budget : Nat)
    (huser : (userRead client sources now state).result = .ok none) :
    findS3 client sources policy region budget now state =
      (installerSearch client sources policy region budget
        (userRead client sources now state).now (userRead client sources now state).state).map
        fun outcome =>
          { outcome with
            trace := (userRead client sources now state).trace ++
              .log (.awaitingInstaller sources.ns sources.installerSecret) :: outcome.trace } := by
  rw [findS3, Activity.bind_of_ok (read_secret_apply client _ _ now state budget) huser]
  show ((Activity.log (.awaitingInstaller sources.ns sources.installerSecret) >>= fun _ =>
    installerSearch client sources policy region) budget _ _).map _ = _
  rw [Activity.log_bind, Option.map_map]
  rfl

/-! ## The wait for the installer's secret -/

variable (region) in
/-- A search whose wait settles reads the installer's secret once for every check of the wait, and
takes what is in the secret that the wait gives. -/
theorem installer_search_of_settles {n budget : Nat}
    (hlast : IsLeast {k | (installerCourse client sources policy now state).Settles k} n)
    (hbudget : n < budget) :
    ∃ outcome, installerSearch client sources policy region budget
        (userRead client sources now state).now (userRead client sources now state).state =
          some outcome ∧
      Activity.reads outcome.trace =
        List.replicate (n + 1) (secretRef sources.ns sources.installerSecret) ∧
      outcome.now = (installerCourse client sources policy now state).ends n ∧
      outcome.state = ((installerCourse client sources policy now state).outcome n).state ∧
      outcome.result = (do
        let secret ← (installerCourse client sources policy now state).result n
        ofSecret secret sources.ns sources.installerSecret .installer region) := by
  let course := installerCourse client sources policy now state
  have hwait : waitForSecret client policy sources.ns sources.installerSecret budget
      (userRead client sources now state).now (userRead client sources now state).state =
        some (course.report n).outcome := by
    have hrun : course.run budget = some (course.report n) :=
      (course.run_eq hlast budget).trans (if_pos hbudget)
    exact (wait_for_secret_apply ..).trans (congrArg (Option.map Report.outcome) hrun)
  have hreads : Activity.reads (course.report n).outcome.trace =
      List.replicate (n + 1) (secretRef sources.ns sources.installerSecret) :=
    reads_report client policy _ _ _ _ n
  cases hresult : course.result n with
  | error error => exact ⟨_, Activity.bind_of_error hwait hresult, hreads, rfl, rfl, rfl⟩
  | ok secret =>
    refine ⟨_, Activity.bind_of_ok hwait hresult, ?_, rfl, rfl, rfl⟩
    rw [Activity.reads_append, hreads]
    exact List.append_nil _

/-- A search is not over before its wait is. -/
theorem installer_search_eq_none {budget : Nat}
    (hrun : (installerCourse client sources policy now state).run budget = none) :
    installerSearch client sources policy region budget (userRead client sources now state).now
      (userRead client sources now state).state = none := by
  apply Activity.bind_of_none
  exact (wait_for_secret_apply ..).trans (congrArg (Option.map Report.outcome) hrun)

/-! ## Whole searches -/

variable (region) in
/-- A search whose wait settles with the check number `n` needs `n + 1` checks. -/
theorem find_s3_of_last {n : Nat} (huser : (userRead client sources now state).result = .ok none)
    (hlast : IsLeast {k | (installerCourse client sources policy now state).Settles k} n)
    (budget : Nat) :
    if n + 1 ≤ budget then
      ∃ outcome, findS3 client sources policy region budget now state = some outcome ∧
        Activity.reads outcome.trace = searchReads sources (n + 1) ∧
        outcome.result = (do
          let secret ← (installerCourse client sources policy now state).result n
          ofSecret secret sources.ns sources.installerSecret .installer region)
    else findS3 client sources policy region budget now state = none := by
  rw [find_s3_of_user_none budget huser]
  by_cases hbudget : n + 1 ≤ budget
  · obtain ⟨outcome, houtcome, hreads, -, -, hresult⟩ :=
      installer_search_of_settles region hlast hbudget
    rw [if_pos hbudget, houtcome]
    refine ⟨_, rfl, ?_, hresult⟩
    rw [Activity.reads_append, Activity.reads_cons_log, hreads, userRead, reads_secret_read]
    rfl
  · rw [if_neg hbudget, installer_search_eq_none]
    · rfl
    · rw [Course.run_eq hlast]
      exact if_neg hbudget

/-- A search by the rules is carried out if it may make enough checks, and not before. -/
theorem find_s3_of_search {checks : Nat} {result : Except Error S3Credentials}
    (h : Search client sources policy region now state checks result) (budget : Nat) :
    if checks ≤ budget then
      ∃ outcome, findS3 client sources policy region budget now state = some outcome ∧
        Activity.reads outcome.trace = searchReads sources checks ∧ outcome.result = result
    else findS3 client sources policy region budget now state = none := by
  cases h with
  | userFails error huser => exact find_s3_of_user_error budget huser
  | userFound secret result huser hreading =>
    rw [← of_secret_iff] at hreading
    exact hreading ▸ find_s3_of_user_secret budget huser
  | installerFails n error huser hlast hfound =>
    have h := find_s3_of_last region huser hlast budget
    rwa [Course.result, hfound] at h
  | installerFound n secret result huser hlast hfound hreading =>
    have h := find_s3_of_last region huser hlast budget
    rw [Course.result, hfound] at h
    rw [← of_secret_iff] at hreading
    exact hreading ▸ h
  | installerLate n huser hlast hfound =>
    have h := find_s3_of_last region huser hlast budget
    rwa [Course.result, hfound] at h

/-- Either the rules tell how a search goes, or its wait never ends. -/
theorem search_or_never (client : Client σ) (sources : CredentialSources) (policy : PollPolicy)
    (region : Option String) (now : Instant) (state : σ) :
    (∃ checks result, Search client sources policy region now state checks result) ∨
      ∀ budget, findS3 client sources policy region budget now state = none := by
  cases huser : (userRead client sources now state).result with
  | error error => exact .inl ⟨0, _, .userFails error huser⟩
  | ok secret? =>
    cases secret? with
    | some secret => exact .inl ⟨0, _, .userFound secret _ huser (of_secret_iff.mp rfl)⟩
    | none =>
      let course := installerCourse client sources policy now state
      rcases course.last_or_never with ⟨n, hlast⟩ | hnever
      · left
        cases hfound : course.found n with
        | error error => exact ⟨n + 1, _, .installerFails n error huser hlast hfound⟩
        | ok secret? =>
          cases secret? with
          | some secret =>
            exact ⟨n + 1, _,
              .installerFound n secret _ huser hlast hfound (of_secret_iff.mp rfl)⟩
          | none => exact ⟨n + 1, _, .installerLate n huser hlast hfound⟩
      · right
        intro budget
        rw [find_s3_of_user_none budget huser, installer_search_eq_none]
        · rfl
        · exact course.run_eq_none hnever budget

/-- A search with an outcome goes by the rules. -/
theorem search_of_find_s3 {budget : Nat} {outcome : Outcome σ S3Credentials}
    (h : findS3 client sources policy region budget now state = some outcome) :
    ∃ checks, Activity.reads outcome.trace = searchReads sources checks ∧
      Search client sources policy region now state checks outcome.result := by
  rcases search_or_never client sources policy region now state with
    ⟨checks, result, hsearch⟩ | hnever
  · have hfound := find_s3_of_search hsearch budget
    split at hfound
    · obtain ⟨other, hother, hreads, rfl⟩ := hfound
      obtain rfl : other = outcome := Option.some.inj (hother.symm.trans h)
      exact ⟨checks, hreads, hsearch⟩
    · rw [h] at hfound
      cases hfound
  · rw [hnever budget] at h
    cases h

/-- A search shows exactly what the rules say: it reads the secrets in the order of the rules, as
often as the rules say and no others, and gives their result. -/
theorem find_s3_iff_search (client : Client σ) (sources : CredentialSources) (policy : PollPolicy)
    (region : Option String) (now : Instant) (state : σ) (budget : Nat) (reads : List ObjectRef)
    (result : Except Error S3Credentials) :
    (∃ outcome, findS3 client sources policy region budget now state = some outcome ∧
        Activity.reads outcome.trace = reads ∧ outcome.result = result) ↔
      ∃ checks ≤ budget, reads = searchReads sources checks ∧
        Search client sources policy region now state checks result := by
  constructor
  · rintro ⟨outcome, houtcome, rfl, rfl⟩
    -- an outcome leaves out a wait that never ends, and a run has no other outcome
    rcases search_or_never client sources policy region now state with
      ⟨checks, result, hsearch⟩ | hnever
    · have h := find_s3_of_search hsearch budget
      split at h
      · obtain ⟨other, hother, hreads, hresult⟩ := h
        obtain rfl : outcome = other := Option.some.inj (houtcome.symm.trans hother)
        exact ⟨checks, ‹_›, hreads, hresult ▸ hsearch⟩
      · rw [houtcome] at h
        cases h
    · rw [hnever budget] at houtcome
      cases houtcome
  · rintro ⟨checks, hchecks, rfl, hsearch⟩
    have h := find_s3_of_search hsearch budget
    rwa [if_pos hchecks] at h

end StorageBackend.Credentials
