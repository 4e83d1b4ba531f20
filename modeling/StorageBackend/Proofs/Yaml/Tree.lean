import StorageBackend.Proofs.Yaml.Events
import StorageBackend.Yaml.Reader

/-!
# Trees in YAML

A YAML reader follows a reader of trees if it gives the same for the events of a tree, and leaves
what is behind them. Every reader that a configuration is described with does (`text_follows` and
the lemmas after it), so a whole configuration does, too. Where a field is given twice the error has
a place, of which nothing is said.
-/

namespace StorageBackend.Yaml

open Schema (Field Format)
open StorageBackend.Tree (Member Node Phrase Refusal)

/-! ## Readers that follow trees -/

/-- What a YAML reader gives in front of some events, next to what a reader of trees gives. Nothing
is said where the tree does not fit. -/
inductive Shows {α : Type} (rest : Position) :
    Except Refusal α → Except Error (α × Position) → Prop where
  | ok (value : α) : Shows rest (.ok value) (.ok (value, rest))
  | repeated (key : String) (place : Option Path) :
      Shows rest (.error (.repeated key)) (.error (.shape place (.duplicateField key)))
  | misfit (result : Except Error (α × Position)) : Shows rest (.error .misfit) result

/-- A YAML reader that reads a tree from its events as a reader of trees does, where this many
collections may still be opened. -/
def Reader.Follows {α : Type} (depth : Nat) (read : Reader α) (tree : Tree.Reader α) : Prop :=
  ∀ node, Writable node → ∀ context nesting path rest followed, depth ≤ nesting →
    Shows ⟨rest, followed⟩ (tree node)
      (read context nesting path ⟨nodeEvents node ++ rest, followed⟩)

variable {α β σ : Type} {depth : Nat}

/-- What follows is shown behind what comes first. -/
theorem Shows.bind {middle rest : Position} {first : Except Refusal α}
    {result : Except Error (α × Position)} (h : Shows middle first result)
    {next : α → Except Refusal β} {after : α × Position → Except Error (β × Position)}
    (hnext : ∀ value, Shows rest (next value) (after (value, middle))) :
    Shows rest (first >>= next) (result >>= after) := by
  cases h with
  | ok value => exact hnext value
  | repeated key place => exact .repeated key place
  | misfit result => exact .misfit _

/-- A place may be added. -/
theorem Shows.located {rest : Position} {first : Except Refusal α}
    {result : Except Error (α × Position)} (h : Shows rest first result) (path : Path) :
    Shows rest first (located path result) := by
  cases h with
  | ok value => exact .ok value
  | repeated key place =>
    cases place with
    | none => exact .repeated key (some path)
    | some place => exact .repeated key (some place)
  | misfit result => exact .misfit _

/-! ## Texts, nulls and empty mappings -/

/-- Changing what has been read follows the tree if the reading does. -/
theorem map_follows {read : Reader α} {tree : Tree.Reader α} (h : read.Follows depth tree)
    (f : α → β) :
    (Format.map f read : Reader β).Follows depth (Format.map f tree : Tree.Reader β) := by
  intro node hnode context nesting path rest followed hdepth
  have hfirst := h node hnode context nesting path rest followed hdepth
  show Shows _ (f <$> tree node) (read context nesting path _ >>= _)
  rw [← bind_pure_comp]
  exact hfirst.bind fun value => .ok (f value)

/-- Texts are read as in the tree. -/
theorem text_follows :
    (Format.text : Reader String).Follows depth (Format.text : Tree.Reader String) := by
  intro node _ context nesting path rest followed _
  cases node with
  | null word => exact .misfit _
  | block block => exact .misfit _
  | text phrase =>
    rw [nodeEvents]
    exact .ok phrase.string

/-- A phrase that can be written is not taken for null. -/
theorem not_null_of_writable {phrase : Phrase} (h : WritablePhrase phrase) :
    Scalar.isNull ⟨none, phrase.text, !phrase.quoted⟩ = .ok false := by
  rcases Bool.eq_false_or_eq_true phrase.quoted with hquoted | hquoted
  · rw [hquoted]
    rfl
  · obtain ⟨c, rest, htext, -⟩ := (h.plain hquoted).start
    have hnull := (h.plain hquoted).notNull
    rw [htext] at hnull
    rw [hquoted, htext]
    simp [Scalar.isNull, hnull]

/-- The words for null are null if they are plain. -/
theorem is_null_word (word : Tree.NullWord) : Scalar.isNull ⟨none, word.text, true⟩ = .ok true := by
  cases word <;> rfl

/-- A scalar is a value unless it is null. -/
theorem optional_scalar (read : Reader α) (context : Context) (nesting : Nat) (path : Path)
    (content : Scalar) (rest : Events) (followed : Nat) :
    optional read context nesting path ⟨.scalar none content :: rest, followed⟩ =
      match content.isNull with
      | .error error => .error (.shape none error)
      | .ok true => .ok (none, ⟨rest, followed⟩)
      | .ok false => (do
        let (value, position) ←
          read context nesting path ⟨.scalar none content :: rest, followed⟩
        .ok (some value, position)) := rfl

/-- A mapping is a value that is there. -/
theorem optional_mapping (read : Reader α) (context : Context) (nesting : Nat) (path : Path)
    (rest : Events) (followed : Nat) :
    optional read context nesting path ⟨.mappingStart none none :: rest, followed⟩ =
      (do
        let (value, position) ←
          read context nesting path ⟨.mappingStart none none :: rest, followed⟩
        .ok (some value, position)) := rfl

/-- Optional values are read as in the tree if the values are. -/
theorem optional_follows {read : Reader α} {tree : Tree.Reader α} (h : read.Follows depth tree) :
    (Format.optional read : Reader (Option α)).Follows depth
      (Format.optional tree : Tree.Reader (Option α)) := by
  intro node hnode context nesting path rest followed hdepth
  have hfirst := h node hnode context nesting path rest followed hdepth
  show Shows _ _ (optional read context nesting path _)
  cases node with
  | null word =>
    rw [nodeEvents, List.singleton_append, optional_scalar, is_null_word]
    exact .ok none
  | text phrase =>
    rw [Writable] at hnode
    rw [nodeEvents, List.singleton_append, phraseEvent] at hfirst ⊢
    rw [optional_scalar, not_null_of_writable hnode]
    show Shows _ (some <$> tree (.text phrase)) _
    rw [← bind_pure_comp]
    exact hfirst.bind fun value => .ok (some value)
  | block block =>
    rw [nodeEvents, List.cons_append] at hfirst ⊢
    rw [optional_mapping]
    show Shows _ (some <$> tree (.block block)) _
    rw [← bind_pure_comp]
    exact hfirst.bind fun value => .ok (some value)

/-- A mapping without members, of any shape. -/
theorem free_follows :
    (Format.free : Reader Json.Value).Follows (depth + 1)
      (Format.free : Tree.Reader Json.Value) := by
  intro node hnode context nesting path rest followed hdepth
  cases node with
  | null word => exact .misfit _
  | text phrase => exact .misfit _
  | block block =>
    cases block with
    | cons member block => exact .misfit _
    | nil =>
      obtain ⟨nesting, rfl⟩ :=
        Nat.exists_eq_add_of_le' (Nat.le_trans (Nat.le_add_left 1 depth) hdepth)
      rw [nodeEvents, memberEvents]
      exact .ok (Json.Value.object [])

/-! ## Mappings -/

/-- The end of a mapping is found. -/
theorem entries_end (expected : Bool → String) (entry : σ → String → Except Error (Reader σ))
    (context : Context) (nesting : Nat) (path : Path) (fuel : Nat) (first : Bool) (state : σ)
    (rest : Events) (followed : Nat) :
    entriesFrom expected entry context nesting path (fuel + 1) first state
      ⟨.mappingEnd :: rest, followed⟩ = .ok (state, ⟨rest, followed⟩) := rfl

/-- An entry is read, and then the ones behind it. -/
theorem entries_entry (expected : Bool → String) (entry : σ → String → Except Error (Reader σ))
    (context : Context) (nesting : Nat) (path : Path) (fuel : Nat) (first : Bool) (state : σ)
    (key : Phrase) (rest : Events) (followed : Nat) :
    entriesFrom expected entry context nesting path (fuel + 1) first state
        ⟨phraseEvent key :: rest, followed⟩ =
      (do
        let read ← entry state key.string
        let (state, position) ← read context nesting (.key key.string :: path) ⟨rest, followed⟩
        entriesFrom expected entry context nesting path fuel false state position) := rfl

/-- The entries of a record are read one after the other. -/
theorem members_follow {fields : List (Field Reader σ)} {trees : List (Field Tree.Reader σ)}
    (h : Tree.FieldsRelated (Reader.Follows depth) fields trees) {nesting : Nat}
    (hdepth : depth ≤ nesting) (expected : Bool → String) (context : Context) (path : Path)
    (rest : Events) (followed : Nat) :
    ∀ block, WritableMembers block → ∀ (first : Bool) (state : σ × List String) (fuel : Nat),
      (memberEvents block : Events).length < fuel →
        Shows ⟨rest, followed⟩ (Tree.members trees state block)
          (entriesFrom expected (recordEntry fields) context nesting path fuel first state
            ⟨memberEvents block ++ .mappingEnd :: rest, followed⟩) := by
  intro block
  induction block with
  | nil =>
    intro _ first state fuel hfuel
    cases fuel with
    | zero => cases hfuel
    | succ fuel =>
      rw [memberEvents, List.nil_append, entries_end]
      exact .ok state
  | cons member block ih =>
    obtain ⟨key, node⟩ := member
    intro hblock first state fuel hfuel
    rw [WritableMembers] at hblock
    obtain ⟨-, hnode, hrest⟩ := hblock
    cases fuel with
    | zero => cases hfuel
    | succ fuel =>
      have hless : (memberEvents block : Events).length < fuel := by
        rw [memberEvents] at hfuel
        simp only [List.length_cons, List.length_append] at hfuel
        omega
      rw [memberEvents, List.cons_append, List.append_assoc, entries_entry, Tree.members]
      rcases h.find key.string with ⟨hfield, htree⟩ | ⟨field, tree, hfield, htree, hfollows⟩
      · -- Under an unknown key the tree admits a text only, which is a single event to pass over.
        rw [htree, recordEntry, hfield]
        cases node with
        | null word => exact .misfit _
        | block inner => exact .misfit _
        | text phrase =>
          rw [nodeEvents]
          exact ih hrest false state fuel hless
      · rw [htree, recordEntry, hfield]
        by_cases hgiven : state.2.contains key.string = true
        · simp only [if_pos hgiven]
          exact .repeated key.string none
        · simp only [if_neg hgiven]
          have hshows := hfollows node hnode context nesting (.key key.string :: path)
            (memberEvents block ++ .mappingEnd :: rest) followed hdepth
          show Shows _ _ ((field.read context nesting _ _ >>= _) >>= _)
          rw [bind_assoc]
          exact hshows.bind fun change =>
            ih hrest false (change state.1, key.string :: state.2) fuel hless

/-- The entries of a record are read behind the beginning of its mapping. -/
theorem record_mapping (name : String) (initial : σ) (fields : List (Field Reader σ))
    (context : Context) (nesting : Nat) (path : Path) (rest : Events) (followed : Nat) :
    record name initial fields context (nesting + 1) path
        ⟨.mappingStart none none :: rest, followed⟩ =
      located path (do
        let (state, position) ←
          entriesFrom (fun _ => "field identifier") (recordEntry fields) context nesting path
            (rest.length + 1) true (initial, []) ⟨rest, followed⟩
        .ok (state.1, position)) := rfl

/-- A record is read from a mapping, if one more collection may be opened. -/
theorem record_follows {fields : List (Field Reader σ)} {trees : List (Field Tree.Reader σ)}
    (h : Tree.FieldsRelated (Reader.Follows depth) fields trees) (name : String) (initial : σ) :
    (Format.record name initial fields : Reader σ).Follows (depth + 1)
      (Format.record name initial trees : Tree.Reader σ) := by
  intro node hnode context nesting path rest followed hdepth
  cases node with
  | null word => exact .misfit _
  | text phrase => exact .misfit _
  | block block =>
    obtain ⟨nesting, rfl⟩ :=
      Nat.exists_eq_add_of_le' (Nat.le_trans (Nat.le_add_left 1 depth) hdepth)
    rw [Writable] at hnode
    have hless : (memberEvents block : Events).length <
        (memberEvents block ++ .mappingEnd :: rest : Events).length + 1 := by
      rw [List.length_append]
      omega
    have hshows := members_follow h (Nat.le_of_succ_le_succ hdepth)
      (fun _ => "field identifier") context path rest followed block hnode true (initial, []) _
      hless
    show Shows _ (Prod.fst <$> Tree.members trees (initial, []) block)
      (record name initial fields context (nesting + 1) path _)
    rw [nodeEvents, List.cons_append, List.append_assoc, List.singleton_append, record_mapping,
      ← bind_pure_comp]
    exact Shows.located (hshows.bind fun state => .ok state.1) path

/-- Everything that is described for all formats is read as from trees. -/
def correspondence : Tree.Correspondence Reader where
  Follows := Reader.Follows
  map := map_follows
  text := text_follows
  free := free_follows
  optional := optional_follows
  record := record_follows

/-! ## Whole texts -/

/-- A document in which a block is written is read like the block. -/
theorem run_follows {read : Reader α} {tree : Tree.Reader α} (h : read.Follows depth tree)
    (hdepth : depth ≤ maxNesting) {block : List Member} (hblock : WritableMembers block)
    (hnonempty : block ≠ []) (newline : Bool) :
    (∀ value, tree (.block block) = .ok value →
        read.run (documentText block newline) = .ok value) ∧
      ∀ key, tree (.block block) = .error (.repeated key) →
        ∃ place, read.run (documentText block newline) =
          .error (.shape place (.duplicateField key)) := by
  have hrun : read.run (documentText block newline) =
      read.runDocument ⟨nodeEvents (.block block), true⟩ := by
    rw [Reader.run, document_of_text hblock hnonempty newline]
  have hshows := h (.block block) hblock
    ⟨nodeEvents (.block block), (nodeEvents (.block block) : Events).length * followsPerEvent⟩
    maxNesting [] [] 0 hdepth
  rw [List.append_nil] at hshows
  rw [hrun, Reader.runDocument]
  constructor
  · intro value hvalue
    rw [hvalue] at hshows
    generalize read _ maxNesting [] ⟨nodeEvents (.block block), 0⟩ = result at hshows ⊢
    cases hshows
    rfl
  · intro key hkey
    rw [hkey] at hshows
    generalize read _ maxNesting [] ⟨nodeEvents (.block block), 0⟩ = result at hshows ⊢
    cases hshows with
    | repeated key place => exact ⟨place, rfl⟩

end StorageBackend.Yaml
