import StorageBackend.Proofs.Credentials.Search
import StorageBackend.Proofs.InstallConfig.Reading
import StorageBackend.Proofs.Resolver.Secrecy

/-!
# The ways into a resolution

A resolution by platform, one for AWS in any case, and the configuration for Google's platform are
three ways in. They share the reading of the installation configuration and the search for
credentials, and part where the platform is looked at. `entry_points_agree` says where they do the
same and what each of them does elsewhere, for a client that may answer whatever it likes.
-/

namespace StorageBackend

open Cluster (Client)
open InstallConfig (Holds Lacks sourceRead sourceRef)

/-- Runs with the same result, the same reads and the same end. Their logs may differ. -/
structure Outcome.SameRun {σ α : Type} (first second : Outcome σ α) : Prop where
  result : first.result = second.result
  reads : Activity.reads first.trace = Activity.reads second.trace
  now : first.now = second.now
  state : first.state = second.state

namespace Resolver

variable {σ : Type} {client : Client σ} {settings : ResolverSettings} {budget : Nat}
  {now : Instant} {state : σ} {config : InstallConfig}

/-! ## The search for credentials as part of a resolution -/

/-- What is seen of a search as part of a resolution: its credentials are told about. -/
def ofSearch (search : Outcome σ S3Credentials) : Outcome σ ResolvedConfig where
  result := search.result.map fun credentials => ⟨.s3 credentials⟩
  now := search.now
  state := search.state
  trace := search.trace ++
    match search.result with
    | .ok credentials => [.log (.resolvedS3 credentials.region)]
    | .error _ => []

/-- S3 is what the search for credentials finds. -/
theorem s3_config_apply (client : Client σ) (settings : ResolverSettings) (config : InstallConfig)
    (budget : Nat) (now : Instant) (state : σ) :
    s3Config client settings config budget now state =
      (Credentials.findS3 client settings.sources settings.poll config.awsRegion budget now
        state).map ofSearch := by
  unfold s3Config
  cases hsearch : Credentials.findS3 client settings.sources settings.poll config.awsRegion budget
    now state with
  | none => exact Activity.bind_of_none hsearch
  | some search =>
    cases hresult : search.result with
    | error error =>
      rw [Activity.bind_of_error hsearch hresult, Option.map_some, ofSearch, hresult]
      exact congrArg some (by simp only [List.append_nil, Except.map])
    | ok credentials =>
      rw [Activity.bind_of_ok hsearch hresult, Option.map_some, ofSearch, hresult]
      rfl

/-- Being told about does not change what a search reads. -/
theorem reads_of_search (search : Outcome σ S3Credentials) :
    Activity.reads (ofSearch search).trace = Activity.reads search.trace := by
  unfold ofSearch
  cases search.result with
  | error error => simp only [List.append_nil]
  | ok credentials => simp [Activity.reads]

/-- A block's region is what is looked for, and it may be empty. -/
theorem aws_region_getD (config : InstallConfig) :
    config.awsRegion.getD "" = (config.platform.aws.map AwsPlatform.region).getD "" := by
  unfold InstallConfig.awsRegion
  cases config.platform.aws with
  | none => rfl
  | some aws =>
    show (nonEmpty? aws.region).getD "" = aws.region
    unfold nonEmpty?
    by_cases hempty : aws.region.isEmpty = true
    · rw [if_pos hempty, Option.getD_none, String.isEmpty_iff.mp hempty]
    · rw [if_neg hempty, Option.getD_some]

/-- Without a block for AWS the platform is another one. -/
theorem platform_type_eq_aws_iff (config : InstallConfig) :
    config.platformType = .aws ↔ config.platform.aws.isSome = true := by
  unfold InstallConfig.platformType
  constructor
  · intro h
    by_contra hnone
    simp only [if_neg hnone] at h
    repeat' split at h
    all_goals cases h
  · intro h
    simp only [if_pos h]

/-- A search reads secrets only, and its credentials have the region that it was given. -/
theorem search_shape {region : Option String} {search : Outcome σ S3Credentials}
    (h : Credentials.findS3 client settings.sources settings.poll region budget now state =
      some search) :
    (∀ object ∈ Activity.reads search.trace, object.kind = .secret) ∧
      ∀ credentials, search.result = .ok credentials → credentials.region = region.getD "" := by
  obtain ⟨checks, hreads, hsearch⟩ := Credentials.search_of_find_s3 h
  refine ⟨fun object hobject => ?_, fun credentials hcredentials => ?_⟩
  · rw [hreads, Credentials.searchReads, List.mem_cons] at hobject
    rcases hobject with rfl | hobject
    · rfl
    · rw [List.eq_of_mem_replicate hobject]
      rfl
  · rw [hcredentials] at hsearch
    cases hsearch with
    | userFound secret _ _ hreading =>
      cases hreading with
      | complete => rfl
    | installerFound n secret _ _ _ _ hreading =>
      cases hreading with
      | complete => rfl

/-! ## Resolutions after the reading -/

/-- Without an installation configuration the way for AWS ends with the error that says what is
wrong. -/
theorem aws_config_of_lacks {error : Error}
    (h : Lacks (sourceRead client now state).result error) :
    awsConfig client settings budget now state =
      some ⟨.error error, (sourceRead client now state).now, (sourceRead client now state).state,
        (sourceRead client now state).trace⟩ :=
  Activity.bind_of_error (InstallConfig.read_of_lacks budget h) rfl

/-- So does a resolution. -/
theorem resolve_of_lacks {error : Error} (h : Lacks (sourceRead client now state).result error) :
    resolve client settings budget now state =
      some ⟨.error error, (sourceRead client now state).now, (sourceRead client now state).state,
        (sourceRead client now state).trace⟩ :=
  Activity.bind_of_error (InstallConfig.read_of_lacks budget h) rfl

/-- What is seen before the storage is looked for. -/
def sourceTrace (client : Client σ) (now : Instant) (state : σ) (config : InstallConfig) :
    List Step :=
  (sourceRead client now state).trace ++
    [.log (.decodedConfig config.metadata.name config.platformType config.region)]

/-- Up to the end of the reading there is one read. -/
theorem reads_source_trace (client : Client σ) (now : Instant) (state : σ)
    (config : InstallConfig) :
    Activity.reads (sourceTrace client now state config) = [sourceRef] := by
  rw [sourceTrace, Activity.reads_append, InstallConfig.reads_source_read]
  rfl

/-- The search for credentials that follows the reading. -/
def followingSearch (client : Client σ) (settings : ResolverSettings) (config : InstallConfig)
    (budget : Nat) (now : Instant) (state : σ) : Option (Outcome σ S3Credentials) :=
  Credentials.findS3 client settings.sources settings.poll config.awsRegion budget
    (sourceRead client now state).now (sourceRead client now state).state

/-- With an installation configuration the way for AWS is the search for credentials. -/
theorem aws_config_of_holds (h : Holds (sourceRead client now state).result config) :
    awsConfig client settings budget now state =
      (followingSearch client settings config budget now state).map fun search =>
        { ofSearch search with
          trace := sourceTrace client now state config ++ (ofSearch search).trace } := by
  unfold awsConfig
  rw [Activity.bind_of_ok (InstallConfig.read_of_holds budget h) rfl, s3_config_apply,
    Option.map_map]
  rfl

/-- How a resolution goes on after it has told which platform it is for. -/
def onPlatform (client : Client σ) (settings : ResolverSettings) (config : InstallConfig) :
    Activity σ ResolvedConfig :=
  match config.platformType with
  | .aws => s3Config client settings config
  | .gcp => return gcsConfig
  | other => Activity.done (.error (.unsupportedPlatform other.name))

/-- With an installation configuration a resolution goes by its platform. -/
theorem resolve_of_holds (h : Holds (sourceRead client now state).result config) :
    resolve client settings budget now state =
      (onPlatform client settings config budget (sourceRead client now state).now
        (sourceRead client now state).state).map fun outcome =>
          { outcome with
            trace := sourceTrace client now state config ++
              .log (.resolving config.platformType) :: outcome.trace } := by
  unfold resolve
  rw [Activity.bind_of_ok (InstallConfig.read_of_holds budget h) rfl, Activity.log_bind,
    Option.map_map]
  rfl

/-- On AWS a resolution goes on with the search for credentials. -/
theorem resolve_of_aws (h : Holds (sourceRead client now state).result config)
    (hplatform : config.platformType = .aws) :
    resolve client settings budget now state =
      (followingSearch client settings config budget now state).map fun search =>
        { ofSearch search with
          trace := sourceTrace client now state config ++
            .log (.resolving config.platformType) :: (ofSearch search).trace } := by
  have hsearch : onPlatform client settings config = s3Config client settings config := by
    unfold onPlatform
    rw [hplatform]
  rw [resolve_of_holds h, hsearch, s3_config_apply, Option.map_map]
  rfl

/-- The result on a platform without a search for credentials. -/
def otherResult (platform : PlatformType) : Except Error ResolvedConfig :=
  if platform = .gcp then .ok gcsConfig else .error (.unsupportedPlatform platform.name)

variable (settings budget) in
/-- On any other platform the result is known after the reading. -/
theorem resolve_of_other (h : Holds (sourceRead client now state).result config)
    (hplatform : config.platformType ≠ .aws) :
    ∃ outcome, resolve client settings budget now state = some outcome ∧
      outcome.result = otherResult config.platformType ∧
      Activity.reads outcome.trace = [sourceRef] ∧
      outcome.now = (sourceRead client now state).now := by
  have hdone : onPlatform client settings config =
      Activity.done (otherResult config.platformType) := by
    unfold onPlatform
    cases hcase : config.platformType with
    | aws => exact absurd hcase hplatform
    | _ => rfl
  rw [resolve_of_holds h, hdone]
  refine ⟨_, rfl, rfl, ?_, rfl⟩
  rw [Activity.reads_append, reads_source_trace]
  rfl

/-- After the config map a resolution reads secrets only. -/
theorem reads_of_resolution {outcome : Outcome σ ResolvedConfig}
    (h : resolve client settings budget now state = some outcome ∨
      awsConfig client settings budget now state = some outcome) :
    ∃ secrets, Activity.reads outcome.trace = sourceRef :: secrets ∧
      ∀ object ∈ secrets, object.kind = .secret := by
  rcases InstallConfig.holds_or_lacks (sourceRead client now state).result with
    ⟨config, hholds⟩ | ⟨error, hlacks⟩
  · -- the reads of a search come after the one read before it
    have hsearch : ∀ {search : Outcome σ S3Credentials} {trace : List Step},
        followingSearch client settings config budget now state = some search →
        Activity.reads trace = Activity.reads search.trace →
        ∃ secrets, Activity.reads (sourceTrace client now state config ++ trace) =
          sourceRef :: secrets ∧ ∀ object ∈ secrets, object.kind = .secret := by
      intro search trace hsearch htrace
      refine ⟨Activity.reads search.trace, ?_, (search_shape hsearch).1⟩
      rw [Activity.reads_append, reads_source_trace, htrace]
      rfl
    rcases h with h | h
    · by_cases hplatform : config.platformType = .aws
      · rw [resolve_of_aws hholds hplatform] at h
        obtain ⟨search, hfound, rfl⟩ := Option.map_eq_some_iff.mp h
        exact hsearch hfound (reads_of_search search)
      · obtain ⟨other, hother, -, hreads, -⟩ :=
          resolve_of_other settings budget hholds hplatform
        obtain rfl : other = outcome := Option.some.inj (hother.symm.trans h)
        exact ⟨[], hreads, nofun⟩
    · rw [aws_config_of_holds hholds] at h
      obtain ⟨search, hfound, rfl⟩ := Option.map_eq_some_iff.mp h
      exact hsearch hfound (reads_of_search search)
  · refine ⟨[], ?_, nofun⟩
    rw [resolve_of_lacks hlacks, aws_config_of_lacks hlacks, or_self] at h
    cases h
    exact InstallConfig.reads_source_read client now state

/-- On AWS both resolutions do the same, apart from what is told about the platform. -/
theorem same_run_on_aws (h : Holds (sourceRead client now state).result config)
    (hplatform : config.platformType = .aws) :
    Option.Rel Outcome.SameRun (resolve client settings budget now state)
      (awsConfig client settings budget now state) := by
  rw [resolve_of_aws h hplatform, aws_config_of_holds h]
  cases followingSearch client settings config budget now state with
  | none => exact .none
  | some search =>
    refine .some ⟨rfl, ?_, rfl, rfl⟩
    simp only [Activity.reads_append, Activity.reads_cons_log]

/-- The resolution for AWS looks for credentials, whatever the platform is. -/
theorem aws_config_after_search (h : Holds (sourceRead client now state).result config) :
    Option.Rel (fun outcome search =>
        outcome.result = search.result.map (fun credentials => ⟨.s3 credentials⟩) ∧
        Activity.reads outcome.trace = sourceRef :: Activity.reads search.trace ∧
        outcome.now = search.now)
      (awsConfig client settings budget now state)
      (followingSearch client settings config budget now state) := by
  rw [aws_config_of_holds h]
  cases followingSearch client settings config budget now state with
  | none => exact .none
  | some search =>
    refine .some ⟨rfl, ?_, rfl⟩
    show Activity.reads (_ ++ _) = _
    rw [Activity.reads_append, reads_source_trace, reads_of_search]
    rfl

/-- The resolution for AWS gives S3 in the region of the block for AWS. -/
theorem s3_of_aws_config (h : Holds (sourceRead client now state).result config)
    {outcome : Outcome σ ResolvedConfig} {storage : ResolvedConfig}
    (houtcome : awsConfig client settings budget now state = some outcome)
    (hstorage : outcome.result = .ok storage) :
    ∃ credentials, storage = ⟨.s3 credentials⟩ ∧
      credentials.region = (config.platform.aws.map AwsPlatform.region).getD "" := by
  rw [aws_config_of_holds h] at houtcome
  obtain ⟨search, hsearch, rfl⟩ := Option.map_eq_some_iff.mp houtcome
  change search.result.map _ = .ok storage at hstorage
  cases hresult : search.result with
  | error error =>
    rw [hresult] at hstorage
    cases hstorage
  | ok credentials =>
    rw [hresult] at hstorage
    cases hstorage
    have hregion := (search_shape hsearch).2 credentials hresult
    exact ⟨credentials, rfl, hregion.trans (aws_region_getD config)⟩

/-- Without a block for AWS there is no region. -/
theorem no_region_elsewhere (h : config.platformType ≠ .aws) :
    (config.platform.aws.map AwsPlatform.region).getD "" = "" := by
  rw [Ne, platform_type_eq_aws_iff, Bool.not_eq_true, Option.isSome_eq_false_iff,
    Option.isNone_iff_eq_none] at h
  rw [h]
  rfl

/-! ## Where the ways agree -/

/-- All ways into a resolution read the installation configuration first, with a single read of its
config map, and after it secrets only. Where the answer lacks a configuration both resolutions end
after this read with the same error. On AWS they do the same: the same result, reads and time. On
Google's platform a resolution by platform gives what `gcsConfig` is, on every other one an error
with the platform's name, both without any further read or wait, while the one for AWS looks for
credentials in any case. What this search finds is S3 in the region of the block for AWS, which is
empty where there is no block. -/
theorem entry_points_agree (client : Client σ) (settings : ResolverSettings) (budget : Nat)
    (now : Instant) (state : σ) :
    let source := sourceRead client now state
    let resolved := resolve client settings budget now state
    let onAws := awsConfig client settings budget now state
    ((∃ config, Holds source.result config) ∨ ∃ error, Lacks source.result error) ∧
    (∀ outcome, resolved = some outcome ∨ onAws = some outcome →
      ∃ secrets, Activity.reads outcome.trace = sourceRef :: secrets ∧
        ∀ object ∈ secrets, object.kind = .secret) ∧
    (∀ error, Lacks source.result error →
      ∃ outcome, resolved = some outcome ∧ onAws = some outcome ∧
        outcome.result = .error error ∧ Activity.reads outcome.trace = [sourceRef] ∧
        outcome.now = source.now) ∧
    (∀ config, Holds source.result config →
      (config.platformType = .aws → Option.Rel Outcome.SameRun resolved onAws) ∧
      (config.platformType = .gcp →
        ∃ outcome, resolved = some outcome ∧ outcome.result = .ok gcsConfig ∧
          Activity.reads outcome.trace = [sourceRef] ∧ outcome.now = source.now) ∧
      (config.platformType ≠ .aws → config.platformType ≠ .gcp →
        ∃ outcome, resolved = some outcome ∧
          outcome.result = .error (.unsupportedPlatform config.platformType.name) ∧
          Activity.reads outcome.trace = [sourceRef] ∧ outcome.now = source.now) ∧
      Option.Rel (fun outcome search =>
          outcome.result = search.result.map (fun credentials => ⟨.s3 credentials⟩) ∧
          Activity.reads outcome.trace = sourceRef :: Activity.reads search.trace ∧
          outcome.now = search.now)
        onAws
        (Credentials.findS3 client settings.sources settings.poll config.awsRegion budget
          source.now source.state) ∧
      (∀ outcome storage, onAws = some outcome → outcome.result = .ok storage →
        ∃ credentials, storage = ⟨.s3 credentials⟩ ∧
          credentials.region = (config.platform.aws.map AwsPlatform.region).getD "" ∧
          (config.platformType ≠ .aws → credentials.region = ""))) := by
  intro source resolved onAws
  refine ⟨InstallConfig.holds_or_lacks _, fun _ => reads_of_resolution, fun error h => ?_,
    fun config h => ?_⟩
  · exact ⟨_, resolve_of_lacks h, aws_config_of_lacks h, rfl,
      InstallConfig.reads_source_read client now state, rfl⟩
  refine ⟨same_run_on_aws h, fun hplatform => ?_, fun hnotAws hnotGcp => ?_,
    aws_config_after_search h, fun outcome storage houtcome hstorage => ?_⟩
  · obtain ⟨outcome, houtcome, hresult, hrest⟩ :=
      resolve_of_other settings budget h (by rw [hplatform]; nofun)
    rw [hplatform] at hresult
    exact ⟨outcome, houtcome, hresult, hrest⟩
  · obtain ⟨outcome, houtcome, hresult, hrest⟩ :=
      resolve_of_other settings budget h hnotAws
    rw [otherResult, if_neg hnotGcp] at hresult
    exact ⟨outcome, houtcome, hresult, hrest⟩
  · obtain ⟨credentials, hs3, hregion⟩ := s3_of_aws_config h houtcome hstorage
    exact ⟨credentials, hs3, hregion, fun hplatform =>
      hregion.trans (no_region_elsewhere hplatform)⟩

/-- On Google's platform the ways part: a user's keys are left alone by `resolve` and found by
`awsConfig`. -/
theorem ways_part_on_gcp :
    (∃ outcome, resolve (userClient gcpText "a" "b") default 1 0 () = some outcome ∧
      outcome.result = .ok gcsConfig ∧ Activity.reads outcome.trace = [sourceRef]) ∧
    (∃ outcome credentials, awsConfig (userClient gcpText "a" "b") default 1 0 () = some outcome ∧
      outcome.result = .ok ⟨.s3 credentials⟩ ∧ credentials.accessKey = "a" ∧
      credentials.region = "") := by
  obtain ⟨-, -, -, hagree⟩ := entry_points_agree (userClient gcpText "a" "b") default 1 0 ()
  have hplatform : (InstallConfig.decode gcpText).toOption.map InstallConfig.platformType =
      some .gcp := by decide +kernel
  obtain ⟨config, hconfig, hgcp⟩ := Option.map_eq_some_iff.mp hplatform
  rw [Activity.to_option_eq_some_iff] at hconfig
  obtain ⟨-, hresolve, -, -, hregion⟩ :=
    hagree config (.entry _ gcpText config (by decide +kernel) hconfig)
  obtain ⟨resolved, hresolved, hgcs, hreads, -⟩ := hresolve hgcp
  have hkeys : (awsConfig (userClient gcpText "a" "b") default 1 0 ()).map (·.result.toOption) =
      some (some ⟨.s3 ⟨"a", "b", "", ""⟩⟩) := by decide +kernel
  obtain ⟨outcome, houtcome, hresult⟩ := Option.map_eq_some_iff.mp hkeys
  rw [Activity.to_option_eq_some_iff] at hresult
  obtain ⟨credentials, hstorage, -, hregion⟩ := hregion outcome _ houtcome hresult
  cases hstorage
  exact ⟨⟨resolved, hresolved, hgcs, hreads⟩, outcome, _, houtcome, hresult, rfl,
    hregion (by rw [hgcp]; decide)⟩

end Resolver

end StorageBackend
