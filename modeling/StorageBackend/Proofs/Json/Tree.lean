import StorageBackend.Json.Reader
import StorageBackend.Proofs.Json.Literal
import StorageBackend.Proofs.Json.Structure
import StorageBackend.Proofs.Tree.Basic

/-!
# Trees in JSON

`Writes` says which texts hold a tree in JSON, with any space between the lexemes. A JSON reader
follows a reader of trees if it gives the same for all texts of a tree, and leaves what is behind
them. Every reader that a configuration is described with does (`text_follows` and the lemmas after
it), so a whole configuration does, too.
-/

namespace StorageBackend.Json

open Schema (Field Format)
open StorageBackend.Tree (Member Node Refusal)

/-! ## Texts of trees -/

mutual

/-- The texts that hold a tree, without any space around them. -/
inductive Writes : Node → List Char → Prop where
  | null (word : Tree.NullWord) : Writes (.null word) ['n', 'u', 'l', 'l']
  | text (phrase : Tree.Phrase) : Writes (.text phrase) (stringLiteral phrase.text)
  | block (block : List Member) (text : List Char) (h : WritesMembers true block text) :
      Writes (.block block) ('\x7b' :: text)

/-- The texts that hold the members of a block and its end. -/
inductive WritesMembers : (first : Bool) → List Member → List Char → Prop where
  | close (first : Bool) (space : List Char) (h : IsSpace space) :
      WritesMembers first [] (space ++ ['\x7d'])
  | member (first : Bool) (key : Tree.Phrase) (node : Node) (rest : List Member)
      (lead before after value text : List Char) (hlead : Lead first lead)
      (hbefore : IsSpace before) (hafter : IsSpace after) (hvalue : Writes node value)
      (hrest : WritesMembers false rest text) :
      WritesMembers first ((key, node) :: rest)
        (lead ++ stringLiteral key.text ++ before ++ ':' :: (after ++ value ++ text))

end

mutual

/-- The text of a tree without any space. -/
def compact : Node → List Char
  | .null _ => ['n', 'u', 'l', 'l']
  | .text phrase => stringLiteral phrase.text
  | .block block => '\x7b' :: compactMembers true block

/-- The text of the members of a block and its end without any space. -/
def compactMembers : (first : Bool) → List Member → List Char
  | _, [] => ['\x7d']
  | first, (key, node) :: rest =>
    (if first then [] else [',']) ++ stringLiteral key.text ++
      ':' :: (compact node ++ compactMembers false rest)

end

mutual

/-- Every tree has a text. -/
theorem writes_compact (node : Node) : Writes node (compact node) := by
  match node with
  | .null word =>
    rw [compact]
    exact .null word
  | .text phrase =>
    rw [compact]
    exact .text phrase
  | .block block =>
    rw [compact]
    exact .block block _ (writes_compact_members true block)

/-- A block written without space is a text of it. -/
theorem writes_compact_members (first : Bool) (block : List Member) :
    WritesMembers first block (compactMembers first block) := by
  match block with
  | [] =>
    rw [compactMembers]
    exact .close first [] space_nil
  | (key, node) :: rest =>
    have hlead : Lead first (if first then [] else [',']) := by
      cases first with
      | true => exact .first [] space_nil
      | false => exact .next [] [] space_nil space_nil
    have hmember := WritesMembers.member first key node rest _ [] [] _ _ hlead space_nil space_nil
      (writes_compact node) (writes_compact_members false rest)
    rw [compactMembers]
    rwa [List.append_nil, List.nil_append] at hmember

end

/-! ## Readers that follow trees -/

/-- What a JSON reader gives in front of a text, next to what a reader of trees gives. Nothing is
said where the tree does not fit. -/
inductive Shows {α : Type} (rest : List Char) :
    Except Refusal α → Except Error (α × List Char) → Prop where
  | ok (value : α) : Shows rest (.ok value) (.ok (value, rest))
  | repeated (key : String) :
      Shows rest (.error (.repeated key)) (.error (.shape (.duplicateField key)))
  | misfit (result : Except Error (α × List Char)) : Shows rest (.error .misfit) result

/-- A JSON reader that reads a tree from all its texts as a reader of trees does, where this many
objects may still be opened. -/
def Reader.Follows {α : Type} (depth : Nat) (read : Reader α) (tree : Tree.Reader α) : Prop :=
  ∀ node text, Writes node text → ∀ nesting space rest, depth ≤ nesting → IsSpace space →
    Shows rest (tree node) (read nesting (space ++ (text ++ rest)))

variable {α β σ : Type} {depth : Nat}

/-- What follows is shown behind what comes first. -/
theorem Shows.bind {middle rest : List Char} {first : Except Refusal α}
    {result : Except Error (α × List Char)} (h : Shows middle first result)
    {next : α → Except Refusal β} {after : α × List Char → Except Error (β × List Char)}
    (hnext : ∀ value, Shows rest (next value) (after (value, middle))) :
    Shows rest (first >>= next) (result >>= after) := by
  cases h with
  | ok value => exact hnext value
  | repeated key => exact .repeated key
  | misfit result => exact .misfit _

/-- The text of a tree does not begin with space. -/
theorem Writes.head {node : Node} {text : List Char} (h : Writes node text) :
    ∃ c rest, text = c :: rest ∧ isSpace c = false ∧
      (c = 'n' ↔ ∃ word, node = .null word) := by
  cases h with
  | null word => exact ⟨'n', _, rfl, rfl, fun _ => ⟨word, rfl⟩, fun _ => rfl⟩
  | text phrase => exact ⟨'"', _, rfl, rfl, nofun, nofun⟩
  | block block text h => exact ⟨'\x7b', _, rfl, rfl, nofun, nofun⟩

/-! ## Texts, nulls and empty objects -/

/-- Changing what has been read follows the tree if the reading does. -/
theorem map_follows {read : Reader α} {tree : Tree.Reader α} (h : read.Follows depth tree)
    (f : α → β) :
    (Format.map f read : Reader β).Follows depth (Format.map f tree : Tree.Reader β) := by
  intro node text hwrites nesting space rest hdepth hspace
  have hfirst := h node text hwrites nesting space rest hdepth hspace
  show Shows rest (f <$> tree node) (read nesting _ >>= _)
  rw [← bind_pure_comp]
  exact hfirst.bind fun value => .ok (f value)

/-- Texts are read as in the tree. -/
theorem text_follows :
    (Format.text : Reader String).Follows depth (Format.text : Tree.Reader String) := by
  intro node text hwrites nesting space rest _ hspace
  cases hwrites with
  | null word => exact .misfit _
  | block block text h => exact .misfit _
  | text phrase =>
    show Shows rest (.ok phrase.string) (scanString "a string" _)
    have hskip : skipSpace (space ++ (stringLiteral phrase.text ++ rest)) =
        '"' :: (phrase.text.flatMap escapedChar ++ '"' :: rest) := by
      rw [string_literal_append]
      exact skip_space_append hspace rfl _
    rw [scanString, hskip]
    simp only [if_true]
    rw [string_tail_literal]
    exact .ok _

/-- Optional values are read as in the tree if the values are. -/
theorem optional_follows {read : Reader α} {tree : Tree.Reader α} (h : read.Follows depth tree) :
    (Format.optional read : Reader (Option α)).Follows depth
      (Format.optional tree : Tree.Reader (Option α)) := by
  intro node text hwrites nesting space rest hdepth hspace
  obtain ⟨c, others, htext, hc, hnull⟩ := hwrites.head
  have hskip : skipSpace (space ++ (text ++ rest)) = text ++ rest := by
    rw [htext]
    exact skip_space_append hspace hc _
  show Shows rest _ (scanOptional (read nesting) _)
  rw [scanOptional, hskip, htext]
  -- The first letter is all that the reader looks at, and only the word for null begins with it.
  by_cases hname : c = 'n'
  · obtain ⟨word, rfl⟩ := hnull.mp hname
    cases hwrites
    cases htext
    exact .ok none
  · have hread : (Format.optional tree : Tree.Reader (Option α)) node = some <$> tree node := by
      cases node with
      | null word => exact absurd (hnull.mpr ⟨word, rfl⟩) hname
      | text phrase => rfl
      | block block => rfl
    have hfirst := h node text hwrites nesting [] rest hdepth nofun
    rw [List.nil_append, htext] at hfirst
    simp only [List.cons_append, if_neg hname]
    rw [hread, ← bind_pure_comp]
    exact hfirst.bind fun value => .ok (some value)

/-! ## Objects -/

/-- An object without members, of any shape. -/
theorem free_follows :
    (Format.free : Reader Value).Follows (depth + 1) (Format.free : Tree.Reader Value) := by
  intro node text hwrites nesting space rest hdepth hspace
  cases hwrites with
  | null word => exact .misfit _
  | text phrase => exact .misfit _
  | block block text h =>
    cases h with
    | member => exact .misfit _
    | close _ inner hinner =>
      obtain ⟨nesting, rfl⟩ :=
        Nat.exists_eq_add_of_le' (Nat.le_trans (Nat.le_add_left 1 depth) hdepth)
      show Shows rest (.ok (.object [])) (value (nesting + 1) _)
      rw [value, valueWith, List.cons_append, skip_space_append hspace rfl]
      have hdigit : Text.isDigit '\x7b' = false := by decide
      simp only [Char.reduceEq, if_false, if_true, hdigit, Bool.false_eq_true, members]
      rw [List.append_assoc, List.singleton_append, members_close hinner]
      exact .ok _

/-- A text that nobody asks for is passed over. -/
theorem skip_value_text {space : List Char} (h : IsSpace space) (text rest : List Char) :
    skipValue (space ++ (stringLiteral text ++ rest)) = .ok rest := by
  have hdigit : Text.isDigit '"' = false := by decide
  rw [skipValue, string_literal_append, skipFrom, skip_space_append h rfl]
  simp only [Char.reduceEq, if_false, if_true, hdigit, Bool.false_eq_true]
  rw [skip_string_literal]
  rfl

/-- The members of a record are read one after the other. -/
theorem members_follow {fields : List (Field Reader σ)} {trees : List (Field Tree.Reader σ)}
    (h : Tree.FieldsRelated (Reader.Follows depth) fields trees) {nesting : Nat}
    (hdepth : depth ≤ nesting) :
    ∀ (block : List Member) (first : Bool) (text : List Char), WritesMembers first block text →
      ∀ (state : σ × List String) (fuel : Nat) (rest : List Char), (text ++ rest).length < fuel →
        Shows rest (Tree.members trees state block)
          (membersFrom (recordMember fields nesting) fuel first state (text ++ rest)) := by
  intro block
  induction block with
  | nil =>
    intro first text hwrites state fuel rest hfuel
    cases hwrites with
    | close _ space hspace =>
      obtain ⟨fuel, rfl⟩ := Nat.exists_eq_add_of_lt hfuel
      rw [List.append_assoc, List.singleton_append, members_close hspace]
      exact .ok state
  | cons member block ih =>
    intro first text hwrites state fuel rest hfuel
    cases hwrites with
    | member _ key node block lead before after value text hlead hbefore hafter hvalue hrest =>
      have htext : lead ++ stringLiteral key.text ++ before ++ ':' :: (after ++ value ++ text) ++
          rest = lead ++ '"' :: (key.text.flatMap escapedChar ++
            '"' :: (before ++ ':' :: (after ++ (value ++ (text ++ rest))))) := by
        simp [string_literal_append]
      rw [htext] at hfuel ⊢
      cases fuel with
      | zero => cases hfuel
      | succ fuel =>
        have hless : (text ++ rest).length < fuel := by
          simp only [List.length_append, List.length_cons] at hfuel ⊢
          omega
        have hstring : String.ofList key.text = key.string := rfl
        rw [members_member _ hlead (escaped_spells key.text) hbefore, hstring, Tree.members]
        rcases h.find key.string with ⟨hfield, htree⟩ | ⟨field, tree, hfield, htree, hfollows⟩
        · -- Under an unknown key the tree admits a text only, and texts are passed over.
          have hread : recordMember fields nesting state key.string =
              .ok fun text => skipValue text >>= fun rest => .ok (state, rest) := by
            rw [recordMember, findField, hfield]
          rw [htree, hread]
          cases node with
          | null word => exact .misfit _
          | block inner => exact .misfit _
          | text phrase =>
            cases hvalue
            show Shows rest _ ((skipValue _ >>= _) >>= _)
            rw [skip_value_text hafter]
            exact ih false text hrest state fuel rest hless
        · rw [htree, recordMember, findField, hfield]
          by_cases hgiven : state.2.contains key.string = true
          · simp only [if_pos hgiven]
            exact .repeated key.string
          · simp only [if_neg hgiven]
            have hshows := hfollows node value hvalue nesting after (text ++ rest) hdepth hafter
            show Shows rest _ ((field.read nesting _ >>= _) >>= _)
            rw [bind_assoc]
            exact hshows.bind fun change =>
              ih false text hrest (change state.1, key.string :: state.2) fuel rest hless

/-- A record is read from an object, if one more may be opened. -/
theorem record_follows {fields : List (Field Reader σ)} {trees : List (Field Tree.Reader σ)}
    (h : Tree.FieldsRelated (Reader.Follows depth) fields trees) (name : String) (initial : σ) :
    (Format.record name initial fields : Reader σ).Follows (depth + 1)
      (Format.record name initial trees : Tree.Reader σ) := by
  intro node text hwrites nesting space rest hdepth hspace
  cases hwrites with
  | null word => exact .misfit _
  | text phrase => exact .misfit _
  | block block text hmembers =>
    obtain ⟨nesting, rfl⟩ :=
      Nat.exists_eq_add_of_le' (Nat.le_trans (Nat.le_add_left 1 depth) hdepth)
    have hshows := members_follow h (Nat.le_of_succ_le_succ hdepth) block true text hmembers
      (initial, []) _ rest (Nat.lt_succ_self _)
    show Shows rest (Prod.fst <$> Tree.members trees (initial, []) block)
      (record name initial fields (nesting + 1) _)
    rw [record, List.cons_append, skip_space_append hspace rfl]
    simp only [Char.reduceEq, if_false, if_true, members]
    rw [← bind_pure_comp]
    exact hshows.bind fun state => .ok state.1

/-- Everything that is described for all formats is read as from trees. -/
def correspondence : Tree.Correspondence Reader where
  Follows := Reader.Follows
  map := map_follows
  text := text_follows
  free := free_follows
  optional := optional_follows
  record := record_follows

/-! ## Whole texts -/

/-- A whole text is read like the tree that it holds. -/
theorem run_follows {read : Reader α} {tree : Tree.Reader α} (h : read.Follows depth tree)
    (hdepth : depth ≤ maxNesting) {node : Node} {text : List Char} (hwrites : Writes node text) :
    (∀ value, tree node = .ok value → read.run text = .ok value) ∧
      ∀ key, tree node = .error (.repeated key) →
        read.run text = .error (.shape (.duplicateField key)) := by
  have hshows := h node text hwrites maxNesting [] [] hdepth nofun
  rw [List.append_nil, List.nil_append] at hshows
  unfold Reader.run
  constructor
  · intro value hvalue
    rw [hvalue] at hshows
    generalize read maxNesting text = result at hshows ⊢
    cases hshows
    rfl
  · intro key hkey
    rw [hkey] at hshows
    generalize read maxNesting text = result at hshows ⊢
    cases hshows
    rfl

end StorageBackend.Json
