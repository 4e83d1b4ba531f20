import StorageBackend.Proofs.Api.Recognition
import StorageBackend.Proofs.Poll.Deadline
import StorageBackend.Proofs.Resolver.EntryPoints

/-!
# Resolutions that wait behind an interface

A resolution on AWS that finds no secret of a user asks for the installer's secret again and again.
What it sends, how long it goes on and what it gives is settled by the replies and the time that
they take: `resolve_of_last` is the whole resolution for a wait whose last request is known.
-/

namespace StorageBackend.Api

open Cluster (Secret)
open Credentials (installerCourse searchReads secretCourse secretRead secretRef userRead)
open InstallConfig (Holds sourceRead sourceRef)
open Poll (Course)
open Resolver (resolve)
open Text.Utf8 (encode)

variable {σ : Type}

/-- The config map with the installation configuration can be asked for. -/
theorem source_sendable : Sendable sourceRef := by
  have haddressable : Addressable sourceRef := by decide +kernel
  exact haddressable.sendable.1

/-! ## The wait -/

/-- The turn at the end of a pause. -/
def Turn.pause (turn : Turn σ) (length : Duration) : Turn σ :=
  { turn with now := Clock.wake turn.now length }

section

variable (transport : Transport σ) (settings : ResolverSettings) (start : Turn σ)

/-- The turn at which the check number `k` of the wait for the installer's secret is made. The
configuration and the user's secret have been asked for before, and after every check there is a
pause. -/
def installerTurn : Nat → Turn σ
  | 0 => (start.ask transport sourceRef).ask transport
      (secretRef settings.sources.ns settings.sources.userSecret)
  | k + 1 => ((installerTurn k).ask transport
      (secretRef settings.sources.ns settings.sources.installerSecret)).pause settings.poll.interval

/-- The reply to the check number `k`. -/
def installerReply (k : Nat) : Except String Response :=
  ((installerTurn transport settings start k).reply transport
    (secretRef settings.sources.ns settings.sources.installerSecret)).response

/-- The turn at which this reply has come. -/
def installerReplied (k : Nat) : Turn σ :=
  (installerTurn transport settings start k).ask transport
    (secretRef settings.sources.ns settings.sources.installerSecret)

/-- When the wait begins: the replies before it have come. -/
def waitStart : Instant := (installerTurn transport settings start 0).now

/-- The wait goes on after the check number `k`: there is no such secret yet, and when this has been
told a pause is over before the deadline or at it, if there is a deadline. -/
def GoesOn (k : Nat) : Prop :=
  IsNotFound (installerReply transport settings start k) ∧
    (waitStart transport settings start + settings.poll.timeout.nanos < Clock.horizon →
      (installerReplied transport settings start k).now + settings.poll.interval.nanos ≤
        waitStart transport settings start + settings.poll.timeout.nanos)

/-- The check number `n` is the last one. -/
def IsLastCheck (n : Nat) : Prop :=
  (∀ k < n, GoesOn transport settings start k) ∧ ¬ GoesOn transport settings start n

/-- The wait for the installer's secret, from the turn at which it begins. -/
def waitCourse : Course (Conversation σ) Secret :=
  secretCourse (client transport) settings.poll settings.sources.ns
    settings.sources.installerSecret (waitStart transport settings start)
    (installerTurn transport settings start 0).conversation

/-- Before a check of the wait, every request has been sent once, in order. -/
theorem sent_installer_turn (k : Nat) :
    (installerTurn transport settings start k).conversation.sent =
      ((sourceRef :: searchReads settings.sources k).map path).reverse ++
        start.conversation.sent := by
  induction k with
  | zero => rfl
  | succ k ih =>
    have hreads : sourceRef :: searchReads settings.sources (k + 1) =
        (sourceRef :: searchReads settings.sources k) ++
          [secretRef settings.sources.ns settings.sources.installerSecret] := by
      rw [searchReads, searchReads, List.replicate_succ']
      rfl
    rw [hreads, List.map_append, List.reverse_append, List.append_assoc, ← ih]
    rfl

/-- So it is when the reply to a check has come. -/
theorem sent_installer_replied (k : Nat) :
    (installerReplied transport settings start k).conversation.sent =
      ((sourceRef :: searchReads settings.sources (k + 1)).map path).reverse ++
        start.conversation.sent :=
  sent_installer_turn transport settings start (k + 1)

end

/-- The result of a resolution whose wait has ended with a finding after some time. -/
def installerResult (settings : ResolverSettings) (config : InstallConfig) (waited : Duration) :
    Except Error (Option Secret) → Except Error ResolvedConfig
  | .ok (some secret) =>
    (Credentials.ofSecret secret settings.sources.ns settings.sources.installerSecret .installer
      config.awsRegion).map fun credentials => ⟨.s3 credentials⟩
  | .ok none =>
    .error (.timeout (Credentials.waitOperation settings.sources.ns
      settings.sources.installerSecret) waited)
  | .error error => .error error

/-- The secrets that are asked for on AWS can be asked for. -/
structure Reachable (sources : CredentialSources) : Prop where
  user : Sendable (secretRef sources.ns sources.userSecret)
  installer : Sendable (secretRef sources.ns sources.installerSecret)

/-- The usual secrets can be asked for. -/
theorem default_reachable : Reachable CredentialSources.default := by
  have huser : Addressable (secretRef CredentialSources.default.ns
      CredentialSources.default.userSecret) := by decide +kernel
  have hinstaller : Addressable (secretRef CredentialSources.default.ns
      CredentialSources.default.installerSecret) := by decide +kernel
  exact ⟨huser.sendable.1, hinstaller.sendable.1⟩

section

variable (transport : Transport σ) (turn : Turn σ)

/-- The read of the configuration asks for it once, takes as long as the reply, and finds what it
tells. -/
theorem source_read_over :
    (sourceRead (client transport) turn.now turn.conversation).now =
        (turn.ask transport sourceRef).now ∧
      (sourceRead (client transport) turn.now turn.conversation).state =
        (turn.ask transport sourceRef).conversation ∧
      Told configMap (turn.reply transport sourceRef).response
        (sourceRead (client transport) turn.now turn.conversation).result := by
  have hasks := config_map_asks transport source_sendable turn
  simp only [sourceRead, hasks.state, hasks.took]
  exact ⟨rfl, rfl, hasks.told⟩

/-- So does the read of a secret. -/
theorem secret_read_over {ns name : String} (h : Sendable (secretRef ns name)) :
    (secretRead (client transport) ns name turn.now turn.conversation).now =
        (turn.ask transport (secretRef ns name)).now ∧
      (secretRead (client transport) ns name turn.now turn.conversation).state =
        (turn.ask transport (secretRef ns name)).conversation ∧
      Told secret (turn.reply transport (secretRef ns name)).response
        (secretRead (client transport) ns name turn.now turn.conversation).result := by
  have hasks := secret_asks transport h turn
  exact ⟨congrArg (fun took : Duration => turn.now + took.nanos) hasks.took, hasks.state,
    hasks.told⟩

/-- Behind the configuration, the read of the user's secret finds what the reply to it tells. -/
theorem user_read_over {sources : CredentialSources}
    (h : Sendable (secretRef sources.ns sources.userSecret)) :
    let found := sourceRead (client transport) turn.now turn.conversation
    let asked := turn.ask transport sourceRef
    (userRead (client transport) sources found.now found.state).now =
        (asked.ask transport (secretRef sources.ns sources.userSecret)).now ∧
      (userRead (client transport) sources found.now found.state).state =
        (asked.ask transport (secretRef sources.ns sources.userSecret)).conversation ∧
      Told secret (asked.reply transport (secretRef sources.ns sources.userSecret)).response
        (userRead (client transport) sources found.now found.state).result := by
  intro found asked
  obtain ⟨hnow, hstate, -⟩ := source_read_over transport turn
  rw [hnow, hstate]
  exact secret_read_over transport asked h

end

section

variable (transport : Transport σ) {settings : ResolverSettings} (start : Turn σ)
  (hreach : Reachable settings.sources)

include hreach

/-- The wait begins when the replies to two requests have come. -/
theorem installer_course_eq :
    installerCourse (client transport) settings.sources settings.poll
        (sourceRead (client transport) start.now start.conversation).now
        (sourceRead (client transport) start.now start.conversation).state =
      waitCourse transport settings start := by
  obtain ⟨hnow, hstate, -⟩ := user_read_over transport start hreach.user
  rw [installerCourse, hnow, hstate]
  rfl

/-- Every check of the wait is one more request. -/
theorem wait_place (k : Nat) :
    (waitCourse transport settings start).place k =
      ((installerTurn transport settings start k).now,
        (installerTurn transport settings start k).conversation) := by
  induction k with
  | zero => rfl
  | succ k ih =>
    obtain ⟨hnow, hstate, -⟩ := secret_read_over transport
      (installerTurn transport settings start k) hreach.installer
    rw [Course.place, ih]
    exact Prod.ext (congrArg (Clock.wake · settings.poll.interval) hnow) hstate

/-- What a check of the wait finds is what the reply to it tells, and it ends with this reply. -/
theorem wait_outcome (k : Nat) :
    (waitCourse transport settings start).ends k =
        (installerReplied transport settings start k).now ∧
      ((waitCourse transport settings start).outcome k).state =
        (installerReplied transport settings start k).conversation ∧
      Told secret (installerReply transport settings start k)
        ((waitCourse transport settings start).found k) := by
  have hover := secret_read_over transport (installerTurn transport settings start k)
    hreach.installer
  rw [Course.ends, Course.found, Course.outcome, wait_place transport start hreach]
  exact hover

/-- The wait goes on exactly as long as its checks do not settle it. -/
theorem wait_settles_iff (k : Nat) :
    (waitCourse transport settings start).Settles k ↔ ¬ GoesOn transport settings start k := by
  obtain ⟨hends, -, htold⟩ := wait_outcome transport start hreach k
  rw [Course.Settles, Ne, told_none_iff htold, Course.IsLate, hends, GoesOn, not_and_or,
    Classical.not_imp, Nat.not_le]
  rfl

/-- The last check is the first that settles the wait. -/
theorem wait_is_least {n : Nat} (h : IsLastCheck transport settings start n) :
    IsLeast {k | (waitCourse transport settings start).Settles k} n := by
  have hsettles := wait_settles_iff transport start hreach
  refine ⟨(hsettles n).mpr h.2, fun k hk => Nat.le_of_not_lt fun hlt => ?_⟩
  exact (hsettles k).mp hk (h.1 k hlt)

/-- With a pause and a deadline the wait has a last check. -/
theorem exists_last_check (hpause : 0 < settings.poll.interval.nanos)
    (hdeadline :
      waitStart transport settings start + settings.poll.timeout.nanos < Clock.horizon) :
    ∃ n ≤ settings.poll.timeout.nanos / settings.poll.interval.nanos,
      IsLastCheck transport settings start n := by
  let course := waitCourse transport settings start
  have hbounded : course.IsBounded := hdeadline
  have hforward : ∀ k, course.begins k ≤ course.ends k := fun k => by
    rw [Course.begins, wait_place transport start hreach,
      (wait_outcome transport start hreach k).1]
    exact Nat.le_add_right _ _
  have hsettles := wait_settles_iff transport start hreach
  obtain ⟨n, hleast, hn⟩ := Course.exists_last hbounded hforward hpause
  refine ⟨n, hn, fun k hk => ?_, (hsettles n).mp hleast.1⟩
  refine not_not.mp fun hstops => Nat.not_le.mpr hk (hleast.2 ?_)
  exact (hsettles k).mpr hstops

/-! ## The resolution -/

variable {config : InstallConfig}
  (hholds : Holds (sourceRead (client transport) start.now start.conversation).result config)
  (hplatform : config.platformType = .aws)
  (hnone : IsNotFound ((start.ask transport sourceRef).reply transport
    (secretRef settings.sources.ns settings.sources.userSecret)).response)

include hnone

/-- The user's secret is not there. -/
theorem user_read_none :
    (userRead (client transport) settings.sources
      (sourceRead (client transport) start.now start.conversation).now
      (sourceRead (client transport) start.now start.conversation).state).result = .ok none := by
  obtain ⟨-, -, htold⟩ := user_read_over transport start hreach.user
  exact (told_none_iff htold).mpr hnone

include hholds hplatform

/-- A resolution whose wait has a last check sends one request for every check, ends with the reply
to the last one, and gives what it tells. -/
theorem resolve_of_last {n : Nat} (hlast : IsLastCheck transport settings start n)
    (budget : Nat) :
    if n < budget then
      ∃ outcome found,
        resolve (client transport) settings budget start.now start.conversation = some outcome ∧
        outcome.now = (installerReplied transport settings start n).now ∧
        outcome.state = (installerReplied transport settings start n).conversation ∧
        outcome.state.sent =
          ((sourceRef :: searchReads settings.sources (n + 1)).map path).reverse ++
            start.conversation.sent ∧
        Told secret (installerReply transport settings start n) found ∧
        outcome.result = installerResult settings config
          ⟨outcome.now - waitStart transport settings start⟩ found
    else resolve (client transport) settings budget start.now start.conversation = none := by
  have hcourse := installer_course_eq transport start hreach
  have huser := user_read_none transport start hreach hnone
  have hleast := wait_is_least transport start hreach hlast
  rw [← hcourse] at hleast
  rw [Resolver.resolve_of_aws hholds hplatform, Resolver.followingSearch,
    Credentials.find_s3_of_user_none budget huser]
  by_cases hbudget : n < budget
  · obtain ⟨search, hsearch, -, hnow, hstate, hresult⟩ :=
      Credentials.installer_search_of_settles config.awsRegion hleast hbudget
    obtain ⟨hends, hasked, htold⟩ := wait_outcome transport start hreach n
    rw [hcourse] at hnow hstate hresult
    have hconversation := hstate.trans hasked
    rw [if_pos hbudget, hsearch]
    refine ⟨_, _, rfl, hnow.trans hends, hconversation, ?_, htold, ?_⟩
    · show search.state.sent = _
      rw [hconversation, sent_installer_replied]
    · show search.result.map _ = installerResult settings config ⟨search.now - _⟩ _
      rw [hresult, hnow, Course.result]
      cases (waitCourse transport settings start).found n with
      | error error => rfl
      | ok secret? =>
        cases secret? with
        | none => rfl
        | some secret => rfl
  · rw [if_neg hbudget, Credentials.installer_search_eq_none]
    · rfl
    · rw [Course.run_eq hleast]
      exact if_neg hbudget

/-- A resolution whose wait has no last check is never over. -/
theorem resolve_of_endless (hnever : ∀ k, GoesOn transport settings start k) (budget : Nat) :
    resolve (client transport) settings budget start.now start.conversation = none := by
  have huser := user_read_none transport start hreach hnone
  rw [Resolver.resolve_of_aws hholds hplatform, Resolver.followingSearch,
    Credentials.find_s3_of_user_none budget huser, Credentials.installer_search_eq_none]
  · rfl
  · rw [installer_course_eq transport start hreach]
    refine Course.run_eq_none (fun k hsettles => ?_) budget
    exact (wait_settles_iff transport start hreach k).mp hsettles (hnever k)

end

/-! ## A configuration for AWS -/

/-- A response with a text. -/
def respond (code : UInt16) (body : String) : Response := ⟨code, encode body⟩

/-- A configuration for AWS. -/
def awsConfigText : String := "platform: \x7baws: \x7b\x7d\x7d"

/-- A config map with this configuration. -/
def awsBody : String :=
  "\x7b\"data\":\x7b\"install-config\":\"" ++ awsConfigText ++ "\"\x7d\x7d"

/-- A script that begins with this config map begins with a configuration for AWS. -/
theorem aws_body_holds (took : Duration) (rest : Script (Except String Response × Duration)) :
    ∃ config,
      Holds (sourceRead (client scripted) 0
        ⟨(1, .ok (respond 200 awsBody), took) :: rest, []⟩).result config ∧
      config.platformType = .aws := by
  obtain ⟨-, -, htold⟩ :=
    source_read_over scripted ⟨0, (1, .ok (respond 200 awsBody), took) :: rest, []⟩
  have hentry : (Json.Reader.run configMap awsBody.toList).toOption.bind
      (fun object => object.entry? "install-config") = some awsConfigText := by decide +kernel
  have hplatform : (InstallConfig.decode awsConfigText).toOption.map
      InstallConfig.platformType = some .aws := by decide +kernel
  obtain ⟨object, hread, hentry⟩ := Option.bind_eq_some_iff.mp hentry
  obtain ⟨config, hconfig, hplatform⟩ := Option.map_eq_some_iff.mp hplatform
  rw [Activity.to_option_eq_some_iff] at hread hconfig
  refine ⟨config, ?_, hplatform⟩
  rw [told_unique htold (.object (respond 200 awsBody) awsBody object rfl rfl hread)]
  exact .entry object awsConfigText config hentry hconfig

end StorageBackend.Api
