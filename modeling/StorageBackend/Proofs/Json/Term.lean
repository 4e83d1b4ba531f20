import StorageBackend.Json.Value
import StorageBackend.Proofs.Json.Literal
import StorageBackend.Proofs.Json.Numeral
import StorageBackend.Proofs.Json.Structure

/-!
# JSON texts

A term is what a JSON text says: the numbers with their digits, the strings as the characters that
they stand for, the members of objects in the order in which they are written. `Renders` says which
texts hold a term: any space may stand between the lexemes, and strings may be spelled in any way.
The first character of a text tells what kind of term follows (`Renders.head`). The readers of lists
and objects go through such a text term by term (`RendersItems.read_cons`,
`RendersMembers.read_cons`).
-/

namespace StorageBackend.Json

open Text (isDigit)

/-- What a JSON text says. -/
inductive Term where
  | null
  | boolean (value : Bool)
  | number (numeral : Numeral)
  | string (content : String)
  | array (items : List Term)
  | object (members : List (String × Term))

mutual

/-- The texts that hold a term, without any space around them. -/
inductive Renders : Term → List Char → Prop where
  | null : Renders .null ['n', 'u', 'l', 'l']
  | yes : Renders (.boolean true) ['t', 'r', 'u', 'e']
  | no : Renders (.boolean false) ['f', 'a', 'l', 's', 'e']
  | number (numeral : Numeral) : Renders (.number numeral) numeral.text
  | string (content : String) (spelling : List Char) (h : Spells content.toList spelling) :
      Renders (.string content) ('"' :: (spelling ++ ['"']))
  | array (items : List Term) (text : List Char) (h : RendersItems true items text) :
      Renders (.array items) ('[' :: text)
  | object (members : List (String × Term)) (text : List Char)
      (h : RendersMembers true members text) : Renders (.object members) ('\x7b' :: text)

/-- The texts that hold items of a list and its end. -/
inductive RendersItems : (first : Bool) → List Term → List Char → Prop where
  | close (first : Bool) (space : List Char) (h : IsSpace space) :
      RendersItems first [] (space ++ [']'])
  | item (first : Bool) (term : Term) (items : List Term) (lead value text : List Char)
      (hlead : Lead first lead) (hvalue : Renders term value)
      (hrest : RendersItems false items text) :
      RendersItems first (term :: items) (lead ++ (value ++ text))

/-- The texts that hold members of an object and its end. -/
inductive RendersMembers : (first : Bool) → List (String × Term) → List Char → Prop where
  | close (first : Bool) (space : List Char) (h : IsSpace space) :
      RendersMembers first [] (space ++ ['\x7d'])
  | member (first : Bool) (key : String) (term : Term) (members : List (String × Term))
      (lead spelling before after value text : List Char) (hlead : Lead first lead)
      (hkey : Spells key.toList spelling) (hbefore : IsSpace before) (hafter : IsSpace after)
      (hvalue : Renders term value) (hrest : RendersMembers false members text) :
      RendersMembers first ((key, term) :: members)
        (lead ++ '"' :: (spelling ++ '"' :: (before ++ ':' :: (after ++ (value ++ text)))))

end

/-! ## Texts without space -/

mutual

/-- The text of a term without any space. -/
def Term.compact : Term → List Char
  | .null => ['n', 'u', 'l', 'l']
  | .boolean true => ['t', 'r', 'u', 'e']
  | .boolean false => ['f', 'a', 'l', 's', 'e']
  | .number numeral => numeral.text
  | .string content => '"' :: (content.toList.flatMap escapedChar ++ ['"'])
  | .array items => '[' :: Term.compactItems true items
  | .object members => '\x7b' :: Term.compactMembers true members

/-- The text of items and the end of their list without any space. -/
def Term.compactItems : (first : Bool) → List Term → List Char
  | _, [] => [']']
  | first, term :: items =>
    (if first then [] else [',']) ++ (term.compact ++ Term.compactItems false items)

/-- The text of members and the end of their object without any space. -/
def Term.compactMembers : (first : Bool) → List (String × Term) → List Char
  | _, [] => ['\x7d']
  | first, (key, term) :: members =>
    (if first then [] else [',']) ++ '"' :: (key.toList.flatMap escapedChar ++
      '"' :: ':' :: (term.compact ++ Term.compactMembers false members))

end

/-- Nothing leads to the first item, and a comma to a further one. -/
theorem lead_compact (first : Bool) : Lead first (if first then [] else [',']) := by
  cases first with
  | true => exact .first [] space_nil
  | false => exact .next [] [] space_nil space_nil

mutual

/-- Every term has a text. -/
theorem renders_compact (term : Term) : Renders term term.compact := by
  match term with
  | .null =>
    rw [Term.compact]
    exact .null
  | .boolean true =>
    rw [Term.compact]
    exact .yes
  | .boolean false =>
    rw [Term.compact]
    exact .no
  | .number numeral =>
    rw [Term.compact]
    exact .number numeral
  | .string content =>
    rw [Term.compact]
    exact .string content _ (escaped_spells content.toList)
  | .array items =>
    rw [Term.compact]
    exact .array items _ (renders_compact_items true items)
  | .object members =>
    rw [Term.compact]
    exact .object members _ (renders_compact_members true members)

/-- Items written without space are a text of the items. -/
theorem renders_compact_items (first : Bool) (items : List Term) :
    RendersItems first items (Term.compactItems first items) := by
  match items with
  | [] =>
    rw [Term.compactItems]
    exact .close first [] space_nil
  | term :: items =>
    rw [Term.compactItems]
    exact .item first term items _ _ _ (lead_compact first) (renders_compact term)
      (renders_compact_items false items)

/-- Members written without space are a text of the members. -/
theorem renders_compact_members (first : Bool) (members : List (String × Term)) :
    RendersMembers first members (Term.compactMembers first members) := by
  match members with
  | [] =>
    rw [Term.compactMembers]
    exact .close first [] space_nil
  | (key, term) :: members =>
    rw [Term.compactMembers]
    exact .member first key term members _ _ [] [] _ _ (lead_compact first)
      (escaped_spells key.toList) space_nil space_nil (renders_compact term)
      (renders_compact_members false members)

end

/-! ## First characters -/

/-- What the first character of a text tells about its term. -/
structure Heads (term : Term) (c : Char) : Prop where
  notSpace : isSpace c = false
  notEnd : c ≠ ']'
  null : c = 'n' ↔ term = .null
  string : c = '"' ↔ ∃ content, term = .string content
  array : c = '[' ↔ ∃ items, term = .array items
  object : c = '\x7b' ↔ ∃ members, term = .object members

/-- A digit is no mark that is no digit. -/
theorem digit_ne {c mark : Char} (h : isDigit c = true) (hmark : isDigit mark = false) :
    c ≠ mark := by
  rintro rfl
  rw [h] at hmark
  cases hmark

/-- A digit is not white space. -/
theorem space_digit {c : Char} (h : isDigit c = true) : isSpace c = false := by
  have hblank : c ≠ ' ' := digit_ne h rfl
  have hbreak : c ≠ '\n' := digit_ne h rfl
  have htab : c ≠ '\t' := digit_ne h rfl
  have hreturn : c ≠ '\r' := digit_ne h rfl
  simp [isSpace, hblank, hbreak, htab, hreturn]

/-- A number begins with a digit behind its sign. -/
theorem Numeral.magnitude_head (numeral : Numeral) :
    ∃ c rest, numeral.magnitude = c :: rest ∧ isDigit c = true := by
  have hdigits := to_digits_is_digit numeral.whole
  rw [Numeral.magnitude]
  cases hwhole : Nat.toDigits 10 numeral.whole with
  | nil => exact absurd hwhole Nat.toDigits_ne_nil
  | cons c rest =>
    rw [hwhole] at hdigits
    exact ⟨c, _, rfl, hdigits c List.mem_cons_self⟩

/-- The text of a term does not begin with space, and its first character shows what it is. -/
theorem Renders.head {term : Term} {text : List Char} (h : Renders term text) :
    ∃ c rest, text = c :: rest ∧ Heads term c := by
  cases h with
  | null =>
    exact ⟨'n', _, rfl, rfl, nofun, ⟨fun _ => rfl, fun _ => rfl⟩, ⟨nofun, nofun⟩, ⟨nofun, nofun⟩,
      ⟨nofun, nofun⟩⟩
  | yes =>
    exact ⟨'t', _, rfl, rfl, nofun, ⟨nofun, nofun⟩, ⟨nofun, nofun⟩, ⟨nofun, nofun⟩,
      ⟨nofun, nofun⟩⟩
  | no =>
    exact ⟨'f', _, rfl, rfl, nofun, ⟨nofun, nofun⟩, ⟨nofun, nofun⟩, ⟨nofun, nofun⟩,
      ⟨nofun, nofun⟩⟩
  | number numeral =>
    obtain ⟨c, rest, hmagnitude, hc⟩ := numeral.magnitude_head
    rw [Numeral.text]
    cases numeral.negative with
    | true =>
      exact ⟨'-', _, rfl, rfl, nofun, ⟨nofun, nofun⟩, ⟨nofun, nofun⟩, ⟨nofun, nofun⟩,
        ⟨nofun, nofun⟩⟩
    | false =>
      have hnull : c ≠ 'n' := digit_ne hc rfl
      have hquote : c ≠ '"' := digit_ne hc rfl
      have hbracket : c ≠ '[' := digit_ne hc rfl
      have hbrace : c ≠ '\x7b' := digit_ne hc rfl
      exact ⟨c, rest, hmagnitude, space_digit hc, digit_ne hc rfl,
        ⟨fun h => absurd h hnull, nofun⟩, ⟨fun h => absurd h hquote, nofun⟩,
        ⟨fun h => absurd h hbracket, nofun⟩, ⟨fun h => absurd h hbrace, nofun⟩⟩
  | string content spelling h =>
    exact ⟨'"', _, rfl, rfl, nofun, ⟨nofun, nofun⟩, ⟨fun _ => ⟨content, rfl⟩, fun _ => rfl⟩,
      ⟨nofun, nofun⟩, ⟨nofun, nofun⟩⟩
  | array items text h =>
    exact ⟨'[', _, rfl, rfl, nofun, ⟨nofun, nofun⟩, ⟨nofun, nofun⟩,
      ⟨fun _ => ⟨items, rfl⟩, fun _ => rfl⟩, ⟨nofun, nofun⟩⟩
  | object members text h =>
    exact ⟨'\x7b', _, rfl, rfl, nofun, ⟨nofun, nofun⟩, ⟨nofun, nofun⟩, ⟨nofun, nofun⟩,
      ⟨fun _ => ⟨members, rfl⟩, fun _ => rfl⟩⟩

/-- A text of a string is a quote and what is read behind it as the content. -/
theorem Renders.string_tail {content : String} {text : List Char}
    (h : Renders (.string content) text) :
    ∃ tail, text = '"' :: tail ∧
      ∀ rest, stringTail (tail ++ rest) = .ok (content.toList, rest) := by
  cases h with
  | string _ spelling hspells =>
    refine ⟨spelling ++ ['"'], rfl, fun rest => ?_⟩
    rw [List.append_assoc]
    exact string_tail_spells hspells rest

/-! ## Items and members one after the other -/

variable {α σ : Type}

/-- The end of a list is read behind its last item. -/
theorem RendersItems.read_nil {first : Bool} {text : List Char} (h : RendersItems first [] text)
    (item : Scan α) {fuel : Nat} {rest : List Char} (hfuel : (text ++ rest).length < fuel) :
    itemsFrom item fuel first (text ++ rest) = .ok ([], rest) := by
  cases h with
  | close _ space hspace =>
    obtain ⟨fuel, rfl⟩ := Nat.exists_eq_add_of_lt hfuel
    rw [List.append_assoc]
    exact items_close item hspace _ first rest

/-- An item is read, and then the ones behind it with less fuel. -/
theorem RendersItems.read_cons {first : Bool} {term : Term} {items : List Term}
    {text : List Char} (h : RendersItems first (term :: items) text) (item : Scan α) {fuel : Nat}
    {rest : List Char} (hfuel : (text ++ rest).length < fuel) :
    ∃ value behind less, Renders term value ∧ RendersItems false items behind ∧
      (behind ++ rest).length < less ∧
      itemsFrom item fuel first (text ++ rest) =
        (do
          let (found, text) ← item (value ++ (behind ++ rest))
          let (others, text) ← itemsFrom item less false text
          .ok (found :: others, text)) := by
  cases h with
  | item _ _ _ lead value behind hlead hvalue hrest =>
    obtain ⟨c, others, rfl, hheads⟩ := hvalue.head
    cases fuel with
    | zero => cases hfuel
    | succ fuel =>
      refine ⟨c :: others, behind, fuel, hvalue, hrest, ?_, ?_⟩
      · simp only [List.length_append, List.length_cons] at hfuel ⊢
        omega
      · rw [List.append_assoc, List.append_assoc, List.cons_append,
          items_item item hlead hheads.notSpace hheads.notEnd]

/-- The end of an object is read behind its last member. -/
theorem RendersMembers.read_nil {first : Bool} {text : List Char}
    (h : RendersMembers first [] text) (read : σ → String → Except Error (Scan σ)) (state : σ)
    {fuel : Nat} {rest : List Char} (hfuel : (text ++ rest).length < fuel) :
    membersFrom read fuel first state (text ++ rest) = .ok (state, rest) := by
  cases h with
  | close _ space hspace =>
    obtain ⟨fuel, rfl⟩ := Nat.exists_eq_add_of_lt hfuel
    rw [List.append_assoc]
    exact members_close hspace _ first state rest

/-- A member is read, and then the ones behind it with less fuel. -/
theorem RendersMembers.read_cons {first : Bool} {key : String} {term : Term}
    {members : List (String × Term)} {text : List Char}
    (h : RendersMembers first ((key, term) :: members) text)
    (read : σ → String → Except Error (Scan σ)) (state : σ) {fuel : Nat} {rest : List Char}
    (hfuel : (text ++ rest).length < fuel) :
    ∃ space value behind less, IsSpace space ∧ Renders term value ∧
      RendersMembers false members behind ∧ (behind ++ rest).length < less ∧
      membersFrom read fuel first state (text ++ rest) =
        (do
          let scan ← read state key
          let (state, text) ← scan (space ++ (value ++ (behind ++ rest)))
          membersFrom read less false state text) := by
  cases h with
  | member _ _ _ _ lead spelling before after value behind hlead hkey hbefore hafter hvalue hrest =>
    have htext : lead ++ '"' :: (spelling ++ '"' :: (before ++
        ':' :: (after ++ (value ++ behind)))) ++ rest =
        lead ++ '"' :: (spelling ++ '"' :: (before ++
          ':' :: (after ++ (value ++ (behind ++ rest))))) := by simp
    cases fuel with
    | zero => cases hfuel
    | succ fuel =>
      refine ⟨after, value, behind, fuel, hafter, hvalue, hrest, ?_, ?_⟩
      · simp only [List.length_append, List.length_cons] at hfuel ⊢
        omega
      · rw [htext, members_member read hlead hkey hbefore, String.ofList_toList]

end StorageBackend.Json
