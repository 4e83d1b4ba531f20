import StorageBackend.CommandLine.Parse
import StorageBackend.Proofs.Basic

/-!
# Numbers on the command line

A setting that takes a number has a range, and every value that is given for it lies in this range,
whether it comes from the command line or from the environment. The main statement is
`in_limits_of_admits`: whatever command line is accepted, the pause and the timeout of its wait are
within their ranges.
-/

namespace StorageBackend.CommandLine

/-- Every value that is given under a name is a whole number in a range. -/
def GivenWithin (name : String) (low high : Nat) (given : Given) : Prop :=
  ∀ value, (name, value) ∈ given → ∃ n, wholeNumber value = .ok n ∧ low ≤ n ∧ n ≤ high

/-- Among these settings the name stands for a number in a range, if for any setting. -/
def NamesNumber (settings : List Setting) (name : String) (low high : Nat) : Prop :=
  ∀ setting ∈ settings, setting.name = name → setting.domain = .number low high

instance (settings : List Setting) (name : String) (low high : Nat) :
    Decidable (NamesNumber settings name low high) :=
  inferInstanceAs (Decidable (∀ setting ∈ settings, _))

variable {name : String} {low high : Nat} {given before after : Given} {settings : List Setting}
  {setting : Setting} {value : String}

/-- Where nothing is given, nothing is out of range. -/
theorem given_within_nil : GivenWithin name low high [] := nofun

/-- What is given in two parts is in range if both parts are. -/
theorem given_within_append (h : GivenWithin name low high given)
    (hbefore : GivenWithin name low high before) :
    GivenWithin name low high (given ++ before) := by
  intro value hmem
  rcases List.mem_append.mp hmem with hmem | hmem
  · exact h value hmem
  · exact hbefore value hmem

/-- A value about which there is no complaint is in the range of its setting. -/
theorem number_of_no_complaint (hdomain : setting.domain = .number low high)
    (h : complaintAbout setting value = none) :
    ∃ n, wholeNumber value = .ok n ∧ low ≤ n ∧ n ≤ high := by
  simp only [complaintAbout, hdomain] at h
  cases hnumber : wholeNumber value with
  | error reason => simp [hnumber] at h
  | ok n =>
    by_cases hrange : low ≤ n ∧ n ≤ high
    · exact ⟨n, rfl, hrange⟩
    · simp [hnumber, hrange] at h

/-- A setting that is given is put in front of the ones before it. -/
theorem give_eq_ok (h : give given setting value = .ok after) :
    after = (setting.name, value) :: given := by
  unfold give at h
  split at h
  · cases h
  · exact (Except.ok.inj h).symm

/-- Giving another setting leaves this one in range. -/
theorem given_within_give (hgiven : GivenWithin name low high given) (hname : setting.name ≠ name)
    (h : give given setting value = .ok after) : GivenWithin name low high after := by
  rw [give_eq_ok h]
  intro other hmem
  rcases List.mem_cons.mp hmem with heq | hmem
  · exact absurd (Prod.mk.inj heq).1.symm hname
  · exact hgiven other hmem

/-- A setting whose domain is the range stays in it when it is checked. -/
theorem given_within_give_checked (hgiven : GivenWithin name low high given)
    (hsetting : setting.name = name → setting.domain = .number low high)
    (h : giveChecked given setting value = .ok after) : GivenWithin name low high after := by
  unfold giveChecked at h
  cases hcomplaint : complaintAbout setting value with
  | some complaint =>
    rw [hcomplaint] at h
    cases h
  | none =>
    rw [hcomplaint] at h
    rw [give_eq_ok h]
    intro other hmem
    rcases List.mem_cons.mp hmem with heq | hmem
    · obtain ⟨hname, rfl⟩ := Prod.mk.inj heq
      exact number_of_no_complaint (hsetting hname.symm) hcomplaint
    · exact hgiven other hmem

/-! ## Command lines -/

/-- A setting that is found under a name is a number if the name stands for one. -/
theorem number_of_find (hnumber : NamesNumber settings name low high) {key : String}
    (h : settings.find? (fun setting => setting.name == key) = some setting)
    (hname : setting.name = name) : setting.domain = .number low high :=
  hnumber setting (List.mem_of_find?_eq_some h) hname

/-- Reading options keeps to the range: an option is either checked or a flag. -/
theorem given_within_read {side : Side} (hnumber : NamesNumber side.settings name low high)
    {arguments rest : List String} (hgiven : GivenWithin name low high given)
    (h : side.read given arguments = .ok (after, rest)) : GivenWithin name low high after := by
  fun_induction side.read given arguments with
  | case1 given | case3 given | case4 given =>
    obtain ⟨rfl, -⟩ := Prod.mk.inj (Except.ok.inj h)
    exact hgiven
  | case2 | case5 | case6 | case9 | case11 => cases h
  | case7 given _ _ _ key setting hfind value _ ih
  | case10 given _ _ key setting hfind _ _ value _ _ _ ih =>
    obtain ⟨next, hgive, hrest⟩ := exists_of_bind_eq_ok h
    have hnext := given_within_give_checked hgiven (number_of_find hnumber hfind) hgive
    exact ih next hnext hrest
  | case8 given _ _ _ key setting hfind hflag _ ih =>
    obtain ⟨next, hgive, hrest⟩ := exists_of_bind_eq_ok h
    have hname : setting.name ≠ name := by
      intro hname
      rw [number_of_find hnumber hfind hname] at hflag
      cases hflag
    exact ih next (given_within_give hgiven hname hgive) hrest

/-- Reading the environment keeps to the range. -/
theorem given_within_environment {environment : Environment}
    (hnumber : NamesNumber settings name low high) (hgiven : GivenWithin name low high given)
    (h : fromEnvironment environment given settings = .ok after) :
    GivenWithin name low high after := by
  fun_induction fromEnvironment environment given settings with
  | case1 given =>
    cases h
    exact hgiven
  | case2 given setting rest value _ _ ih =>
    obtain ⟨next, hgive, hrest⟩ := exists_of_bind_eq_ok h
    have hnext := given_within_give_checked hgiven (hnumber setting List.mem_cons_self) hgive
    exact ih next (fun other hother => hnumber other (List.mem_cons_of_mem _ hother)) hnext hrest
  | case3 given setting rest _ ih =>
    exact ih (fun other hother => hnumber other (List.mem_cons_of_mem _ hother)) hgiven h

/-- A command runs with values that keep to every range that the values in front of it keep to. -/
theorem given_within_parse {command : Command} {environment : Environment}
    {arguments : List String} {invocation : Invocation}
    (h : command.parse environment before arguments = .ok invocation) :
    ∃ given, invocation.task = taskOf command given ∧
      ∀ name low high, NamesNumber (command.settings ++ shared) name low high →
        GivenWithin name low high before → GivenWithin name low high given := by
  unfold Command.parse at h
  obtain ⟨⟨given, rest⟩, hread, h⟩ := exists_of_bind_eq_ok h
  -- Nothing may be left behind the options; all ways to succeed go on with the environment.
  have hall : ∃ all, fromEnvironment environment (given ++ before)
      ((command.settings.filter fun setting => !shared.contains setting) ++ shared) = .ok all ∧
        invocation.task = taskOf command all := by
    dsimp only at h
    split at h
    · obtain ⟨-, -, h⟩ := exists_of_bind_eq_ok h
      obtain ⟨all, hall, h⟩ := exists_of_bind_eq_ok h
      cases h
      exact ⟨all, hall, rfl⟩
    · split at h
      · obtain ⟨-, -, h⟩ := exists_of_bind_eq_ok h
        obtain ⟨all, hall, h⟩ := exists_of_bind_eq_ok h
        cases h
        exact ⟨all, hall, rfl⟩
      · cases h
      · cases h
  obtain ⟨all, hall, htask⟩ := hall
  refine ⟨all, htask, fun name low high hcommand hbefore => ?_⟩
  have hside : NamesNumber (command.side environment).settings name low high :=
    fun setting hsetting => hcommand setting (List.mem_append_left _ hsetting)
  have hgiven := given_within_read hside given_within_nil hread
  refine given_within_environment ?_ (given_within_append hgiven hbefore) hall
  intro setting hsetting
  refine hcommand setting ?_
  rcases List.mem_append.mp hsetting with hsetting | hsetting
  · exact List.mem_append_left _ (List.mem_filter.mp hsetting).1
  · exact List.mem_append_right _ hsetting

/-- Every command line that is accepted runs a command with values in the ranges. -/
theorem given_within_invocation {environment : Environment} {arguments : List String}
    {invocation : Invocation} (h : parse environment arguments = .ok invocation) :
    ∃ command ∈ commands, ∃ given, invocation.task = taskOf command given ∧
      ∀ name low high, NamesNumber (command.settings ++ shared) name low high →
        GivenWithin name low high given := by
  unfold parse at h
  obtain ⟨⟨before, rest⟩, hread, h⟩ := exists_of_bind_eq_ok h
  have hbefore : ∀ name low high, NamesNumber (front environment).settings name low high →
      GivenWithin name low high before := fun name low high hshared =>
    given_within_read hshared given_within_nil hread
  dsimp only at h
  split at h
  · obtain ⟨given, -, h⟩ := exists_of_bind_eq_ok h
    cases h
  · split at h
    · split at h
      · obtain ⟨given, -, h⟩ := exists_of_bind_eq_ok h
        cases h
      · split at h <;> cases h
    · split at h
      · rename_i command hfind
        obtain ⟨given, htask, hgiven⟩ := given_within_parse h
        refine ⟨command, List.mem_of_find?_eq_some hfind, given, htask, ?_⟩
        intro name low high hcommand
        have hshared : NamesNumber (front environment).settings name low high :=
          fun setting hsetting => hcommand setting (List.mem_append_right _ hsetting)
        exact hgiven name low high hcommand (hbefore name low high hshared)
      · split at h <;> cases h

/-! ## Waits -/

/-- The seconds of a setting with a range are in the range, if its initial value is. -/
theorem seconds_in_range (command : Command) (hgiven : GivenWithin name low high given)
    (hinitial : ∃ n, wholeNumber (valueOf command [] name) = .ok n ∧ low ≤ n ∧ n ≤ high) :
    ∃ n, secondsOf command given name = .ofSeconds n ∧ low ≤ n ∧ n ≤ high := by
  have hvalue : ∃ n, wholeNumber (valueOf command given name) = .ok n ∧ low ≤ n ∧ n ≤ high := by
    cases hlookup : given.lookup name with
    | none =>
      have hsame : valueOf command given name = valueOf command [] name := by
        simp [valueOf, hlookup]
      rwa [hsame]
    | some value =>
      have hsame : valueOf command given name = value := by simp [valueOf, hlookup]
      obtain ⟨first, last, hsplit, -⟩ := List.lookup_eq_some_iff.mp hlookup
      rw [hsame]
      exact hgiven value (hsplit ▸ by simp)
  obtain ⟨n, hn, hrange⟩ := hvalue
  refine ⟨n, ?_, hrange⟩
  rw [secondsOf, hn]
  rfl

/-- The policies of the waits that can be asked for on a command line. -/
def Admits (policy : PollPolicy) : Prop :=
  ∃ environment arguments invocation settings,
    parse environment arguments = .ok invocation ∧
      (invocation.task = .resolve settings ∨ invocation.task = .resolveAws settings) ∧
      settings.poll = policy

/-- A pause of a second up to an hour, and a timeout of a second up to a day. -/
def InLimits (policy : PollPolicy) : Prop :=
  ∃ pause limit, policy = ⟨.ofSeconds pause, .ofSeconds limit⟩ ∧
    (1 ≤ pause ∧ pause ≤ longestInterval) ∧ 1 ≤ limit ∧ limit ≤ longestTimeout

/-- Whatever command line is accepted, its wait keeps to the limits. -/
theorem in_limits_of_admits {policy : PollPolicy} (h : Admits policy) : InLimits policy := by
  obtain ⟨environment, arguments, invocation, settings, hparse, htask, rfl⟩ := h
  obtain ⟨command, hcommand, given, hgiven, hwithin⟩ := given_within_invocation hparse
  rw [hgiven] at htask
  simp only [commands, List.mem_cons, List.not_mem_nil, or_false] at hcommand
  rcases hcommand with rfl | rfl
  · have hpause := hwithin "poll-interval-secs" 1 longestInterval (by decide)
    have hlimit := hwithin "poll-timeout-secs" 1 longestTimeout (by decide)
    obtain ⟨pause, hpause, hpauseRange⟩ :=
      seconds_in_range resolve hpause ⟨1, rfl, by decide⟩
    obtain ⟨limit, hlimit, hlimitRange⟩ :=
      seconds_in_range resolve hlimit ⟨300, rfl, by decide⟩
    have hpoll : settings.poll = ⟨secondsOf resolve given "poll-interval-secs",
        secondsOf resolve given "poll-timeout-secs"⟩ := by
      unfold taskOf at htask
      rw [if_neg (by decide)] at htask
      split at htask
      · rcases htask with htask | htask <;> cases htask
        rfl
      · split at htask
        · rcases htask with htask | htask <;> cases htask
        · rcases htask with htask | htask <;> cases htask
          rfl
    rw [hpoll, hpause, hlimit]
    exact ⟨pause, limit, rfl, hpauseRange, hlimitRange⟩
  · rcases htask with htask | htask <;> cases htask

end StorageBackend.CommandLine
