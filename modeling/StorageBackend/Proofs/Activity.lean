import StorageBackend.Cluster.Client

/-!
# Running activities

What an activity leaves behind that is put together from others, and what can be seen in a trace
that is put together from others. Proofs about activities use these lemmas and do not open `bind`.
-/

namespace StorageBackend.Activity

variable {σ α β : Type} {first : Activity σ α} {second : α → Activity σ β} {budget : Nat}
  {now : Instant} {state : σ}

/-! ## One activity after another -/

/-- What follows an activity without an outcome has none. -/
theorem bind_of_none (h : first budget now state = none) :
    (first >>= second) budget now state = none := by
  show andThen first second budget now state = none
  rw [andThen, h]

/-- Nothing is done after an error. -/
theorem bind_of_error {outcome : Outcome σ α} {error : Error}
    (h : first budget now state = some outcome) (hresult : outcome.result = .error error) :
    (first >>= second) budget now state =
      some ⟨.error error, outcome.now, outcome.state, outcome.trace⟩ := by
  obtain ⟨result, later, next, trace⟩ := outcome
  cases hresult
  show andThen first second budget now state = _
  rw [andThen, h]

/-- The second activity goes on where the first one has ended. -/
theorem bind_of_ok {outcome : Outcome σ α} {value : α}
    (h : first budget now state = some outcome) (hresult : outcome.result = .ok value) :
    (first >>= second) budget now state =
      (second value budget outcome.now outcome.state).map fun rest =>
        { rest with trace := outcome.trace ++ rest.trace } := by
  obtain ⟨result, later, next, trace⟩ := outcome
  cases hresult
  show andThen first second budget now state = _
  rw [andThen, h]

/-- Whatever is done in sequence ends with an error of the first activity, or where the second one
ends. -/
theorem bind_eq_some {outcome : Outcome σ β}
    (h : (first >>= second) budget now state = some outcome) :
    ∃ before, first budget now state = some before ∧
      ((∃ error, before.result = .error error ∧
          outcome = ⟨.error error, before.now, before.state, before.trace⟩) ∨
        ∃ value rest, before.result = .ok value ∧
          second value budget before.now before.state = some rest ∧
          outcome = { rest with trace := before.trace ++ rest.trace }) := by
  cases hfirst : first budget now state with
  | none =>
    rw [bind_of_none hfirst] at h
    cases h
  | some before =>
    refine ⟨before, rfl, ?_⟩
    cases hresult : before.result with
    | error error =>
      rw [bind_of_error hfirst hresult] at h
      exact .inl ⟨error, rfl, (Option.some.inj h).symm⟩
    | ok value =>
      rw [bind_of_ok hfirst hresult] at h
      obtain ⟨rest, hrest, rfl⟩ := Option.map_eq_some_iff.mp h
      exact .inr ⟨value, rest, rfl, hrest, rfl⟩

/-- Writing to the log takes no time and cannot fail. -/
theorem log_bind (event : Log.Event) (rest : Unit → Activity σ β) :
    (log event >>= rest) budget now state =
      (rest () budget now state).map fun outcome =>
        { outcome with trace := .log event :: outcome.trace } :=
  bind_of_ok (rfl : log event budget now state = some _) rfl

/-- Only the value of an outcome is mapped. -/
theorem map_apply (f : α → β) :
    (f <$> first) budget now state =
      (first budget now state).map fun outcome =>
        { outcome with result := outcome.result.map f } := by
  show (first >>= fun value => pure (f value)) budget now state = _
  cases hfirst : first budget now state with
  | none => exact bind_of_none hfirst
  | some outcome =>
    cases hresult : outcome.result with
    | error error =>
      rw [bind_of_error hfirst hresult, Option.map_some, hresult]
      rfl
    | ok value =>
      rw [bind_of_ok hfirst hresult, Option.map_some, hresult]
      exact congrArg some (by simp only [List.append_nil, Except.map])

/-- A result seen as an option is a value if it is a value at all. -/
theorem to_option_eq_some_iff {ε : Type} {result : Except ε α} {value : α} :
    result.toOption = some value ↔ result = .ok value := by
  cases result <;> simp [Except.toOption]

/-! ## Traces -/

/-- A read is the first of the reads. -/
@[simp]
theorem reads_cons_read (object : ObjectRef) (trace : List Step) :
    reads (.read object :: trace) = object :: reads trace := rfl

/-- What is written to the log is no read. -/
@[simp]
theorem reads_cons_log (event : Log.Event) (trace : List Step) :
    reads (.log event :: trace) = reads trace := rfl

/-- The reads of one trace come before those of the trace behind it. -/
@[simp]
theorem reads_append (first second : List Step) :
    reads (first ++ second) = reads first ++ reads second :=
  List.filterMap_append

/-- A log has no reads. -/
@[simp]
theorem reads_map_log (events : List Log.Event) : reads (events.map .log) = [] := by
  simp [reads]

/-- What is read in parts of a trace, one after the other. -/
theorem reads_flatMap {ι : Type} (indices : List ι) (part : ι → List Step) :
    reads (indices.flatMap part) = indices.flatMap fun i => reads (part i) := by
  induction indices with
  | nil => rfl
  | cons i indices ih => rw [List.flatMap_cons, reads_append, ih, List.flatMap_cons]

/-- What one trace writes comes before what the trace behind it writes. -/
@[simp]
theorem logged_append (first second : List Step) :
    logged (first ++ second) = logged first ++ logged second :=
  List.filterMap_append

end StorageBackend.Activity
