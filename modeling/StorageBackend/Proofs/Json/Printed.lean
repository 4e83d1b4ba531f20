import StorageBackend.Json.Printer
import StorageBackend.Proofs.Json.FreeValue

/-!
# Printed values

A value is printed without any space or with a line for every part, and both texts say the same
(`renders_compact_listed`, `renders_pretty_listed`): whoever reads them gets the value back. The
members of an object stand in the text in the order in which they were listed, so a reader that
keeps this order gets them as they were (`ReadBack.compact`, `ReadBack.pretty`).
-/

namespace StorageBackend.Json

/-! ## What is printed -/

mutual

/-- The value that is printed as a term. Members stay in their order, and none is replaced. -/
def Term.listed : Term → Value
  | .null => .null
  | .boolean value => .boolean value
  | .number numeral => .integer numeral.toInt
  | .string content => .string content
  | .array items => .array (listedItems items)
  | .object members => .object (listedMembers members)

/-- The values that are printed as items. -/
def listedItems : List Term → List Value
  | [] => []
  | term :: items => term.listed :: listedItems items

/-- The values that are printed as members, with their keys. -/
def listedMembers : List (String × Term) → List (String × Value)
  | [] => []
  | (key, term) :: members => (key, term.listed) :: listedMembers members

end

/-- An integer is printed as its numeral. -/
theorem renders_to_string {numeral : Numeral} (h : numeral.IsInteger) :
    Renders (.number numeral) (toString numeral.toInt).toList := by
  suffices hsame : (toString numeral.toInt).toList = numeral.text by
    rw [hsame]
    exact .number numeral
  have hmagnitude : numeral.magnitude = Nat.toDigits 10 numeral.whole := by
    rw [Numeral.magnitude, Numeral.tail, h.fraction, h.exponent]
    exact List.append_nil _
  rw [Numeral.text, Numeral.toInt, hmagnitude]
  cases hnegative : numeral.negative with
  | true =>
    obtain ⟨n, hwhole⟩ := Nat.exists_eq_add_of_lt (h.negative hnegative).1
    rw [hwhole, Nat.zero_add, if_pos rfl, if_pos rfl]
    show ("-" ++ Nat.repr (n + 1)).toList = _
    rw [String.toList_append, Nat.toList_repr]
    rfl
  | false =>
    rw [if_neg Bool.false_ne_true, if_neg Bool.false_ne_true]
    exact Nat.toList_repr

/-! ## Separators -/

/-- What is printed in front of a part: a comma, if there is another part before it. -/
def comma (first : Bool) : List Char := if first then [] else [',']

/-- A comma with space behind it leads to a further item, and space alone to the first. -/
theorem lead_comma (first : Bool) {space : List Char} (h : IsSpace space) :
    Lead first (comma first ++ space) := by
  cases first with
  | true => exact .first space h
  | false => exact .next [] space space_nil h

/-- A line break and the margin behind it are white space. -/
theorem space_line_break (level : Nat) : IsSpace (Value.lineBreak level) := by
  intro c hc
  rcases List.mem_cons.mp hc with rfl | hc
  · rfl
  · rw [List.eq_of_mem_replicate hc]
    rfl

/-- A member with a printed key. -/
theorem RendersMembers.printed {first : Bool} {key : String} {term : Term}
    {members : List (String × Term)} {lead after value text : List Char} (hlead : Lead first lead)
    (hafter : IsSpace after) (hvalue : Renders term value)
    (hrest : RendersMembers false members text) :
    RendersMembers first ((key, term) :: members)
      (lead ++ (stringLiteral key.toList ++ ':' :: (after ++ (value ++ text)))) := by
  rw [string_literal_append]
  exact .member first key term members lead _ [] after value text hlead
    (escaped_spells key.toList) space_nil hafter hvalue hrest

/-! ## Without space -/

mutual

/-- Printed without any space, a value says what its term says. -/
theorem renders_compact_listed (term : Term) (h : term.Integral) :
    Renders term term.listed.compact := by
  match term with
  | .null => exact .null
  | .boolean true => exact .yes
  | .boolean false => exact .no
  | .number numeral => exact renders_to_string h
  | .string content => exact .string content _ (escaped_spells content.toList)
  | .array [] => exact .array [] _ (.close true [] space_nil)
  | .array (item :: items) =>
    exact .array _ _ (renders_compact_listed_items true (item :: items) nofun h)
  | .object [] => exact .object [] _ (.close true [] space_nil)
  | .object (member :: members) =>
    exact .object _ _ (renders_compact_listed_members true (member :: members) nofun h)

/-- Items without space between them are a text of the items. -/
theorem renders_compact_listed_items (first : Bool) (items : List Term) (hne : items ≠ [])
    (h : IntegralItems items) :
    RendersItems first items
      (comma first ++ (Value.compactItems (listedItems items) ++ [']'])) := by
  have hlead := lead_comma first space_nil
  match items with
  | [] => exact absurd rfl hne
  | [item] =>
    simpa [listedItems, Value.compactItems] using RendersItems.item first item [] _ _ _ hlead
      (renders_compact_listed item h.1) (.close false [] space_nil)
  | item :: next :: rest =>
    have hrest := renders_compact_listed_items false (next :: rest) nofun h.2
    simpa [comma, listedItems, Value.compactItems] using
      RendersItems.item first item (next :: rest) _ _ _ hlead (renders_compact_listed item h.1)
        hrest

/-- Members without space between them are a text of the members. -/
theorem renders_compact_listed_members (first : Bool) (members : List (String × Term))
    (hne : members ≠ []) (h : IntegralMembers members) :
    RendersMembers first members
      (comma first ++ (Value.compactMembers (listedMembers members) ++ ['\x7d'])) := by
  have hlead := lead_comma first space_nil
  match members with
  | [] => exact absurd rfl hne
  | [(key, term)] =>
    simpa [listedMembers, Value.compactMembers] using
      RendersMembers.printed hlead space_nil (renders_compact_listed term h.1)
        (.close false [] space_nil)
  | (key, term) :: next :: rest =>
    have hrest := renders_compact_listed_members false (next :: rest) nofun h.2
    simpa [comma, listedMembers, Value.compactMembers] using
      RendersMembers.printed hlead space_nil (renders_compact_listed term h.1) hrest

end

/-! ## With a line for every part -/

mutual

/-- Printed with a line for every part, a value says what its term says. -/
theorem renders_pretty_listed (term : Term) (level : Nat) (h : term.Integral) :
    Renders term (term.listed.prettyAt level) := by
  match term with
  | .null => exact .null
  | .boolean true => exact .yes
  | .boolean false => exact .no
  | .number numeral => exact renders_to_string h
  | .string content => exact .string content _ (escaped_spells content.toList)
  | .array [] => exact .array [] _ (.close true [] space_nil)
  | .array (item :: items) =>
    have hitems := renders_pretty_listed_items true (item :: items) level nofun h
    simpa [Term.listed, listedItems, Value.prettyAt, comma] using Renders.array _ _ hitems
  | .object [] => exact .object [] _ (.close true [] space_nil)
  | .object ((key, value) :: members) =>
    have hmembers := renders_pretty_listed_members true ((key, value) :: members) level nofun h
    simpa [Term.listed, listedMembers, Value.prettyAt, comma] using Renders.object _ _ hmembers

/-- Items on lines of their own are a text of the items. -/
theorem renders_pretty_listed_items (first : Bool) (items : List Term) (level : Nat)
    (hne : items ≠ []) (h : IntegralItems items) :
    RendersItems first items
      (comma first ++ (Value.prettyItems (level + 1) (listedItems items) ++
        (Value.lineBreak level ++ [']']))) := by
  have hlead := lead_comma first (space_line_break (level + 1))
  match items with
  | [] => exact absurd rfl hne
  | [item] =>
    simpa [listedItems, Value.prettyItems] using RendersItems.item first item [] _ _ _ hlead
      (renders_pretty_listed item (level + 1) h.1) (.close false _ (space_line_break level))
  | item :: next :: rest =>
    have hrest := renders_pretty_listed_items false (next :: rest) level nofun h.2
    simpa [comma, listedItems, Value.prettyItems] using
      RendersItems.item first item (next :: rest) _ _ _ hlead
        (renders_pretty_listed item (level + 1) h.1) hrest

/-- Members on lines of their own are a text of the members. -/
theorem renders_pretty_listed_members (first : Bool) (members : List (String × Term)) (level : Nat)
    (hne : members ≠ []) (h : IntegralMembers members) :
    RendersMembers first members
      (comma first ++ (Value.prettyMembers (level + 1) (listedMembers members) ++
        (Value.lineBreak level ++ ['\x7d']))) := by
  have hlead := lead_comma first (space_line_break (level + 1))
  have hblank : IsSpace [' '] := by simp [IsSpace, isSpace]
  match members with
  | [] => exact absurd rfl hne
  | [(key, term)] =>
    simpa [listedMembers, Value.prettyMembers] using
      RendersMembers.printed hlead hblank (renders_pretty_listed term (level + 1) h.1)
        (.close false _ (space_line_break level))
  | (key, term) :: next :: rest =>
    have hrest := renders_pretty_listed_members false (next :: rest) level nofun h.2
    simpa [comma, listedMembers, Value.prettyMembers] using
      RendersMembers.printed hlead hblank (renders_pretty_listed term (level + 1) h.1) hrest

end

/-! ## Reading it back -/

/-- Reads a member and puts it behind the ones before it. -/
def appendMember (members : List (String × Value)) (key : String) (value : Value) :
    List (String × Value) :=
  members ++ [(key, value)]

/-- Reads an object. Its members stay in the order of the text, also those with the same key. -/
def memberList : Reader (List (String × Value)) := fun nesting text =>
  match skipSpace text with
  | [] => .error .endOfValue
  | c :: rest =>
    if c = '\x7b' then
      match nesting with
      | 0 => .error .recursionLimit
      | nesting + 1 => members (foldMember appendMember (value nesting)) [] rest
    else .error (mismatch "map" (c :: rest))

/-- Members that are put behind one another stay in their order. -/
theorem foldl_append_member (members found : List (String × Value)) :
    members.foldl (fun found (key, value) => appendMember found key value) found =
      found ++ members := by
  induction members generalizing found with
  | nil => exact (List.append_nil found).symm
  | cons member members ih =>
    exact (ih (found ++ [member])).trans (List.append_assoc found [member] members)

/-- The members of an object are read in the order of the text. -/
theorem run_member_list {members : List (String × Term)} {text : List Char}
    (h : Renders (.object members) text) (hdepth : (Term.object members).depth ≤ maxNesting)
    (hintegral : IntegralMembers members) :
    Reader.run memberList text = .ok (valuesOfMembers members) := by
  cases h with
  | object _ text hmembers =>
    -- inside the object one list or object less may be opened
    have hread := members_fold appendMember (value_reads 126) members hmembers
      (Nat.le_of_succ_le_succ hdepth) hintegral [] (Nat.lt_succ_self (text ++ []).length)
    rw [foldl_append_member, List.append_nil] at hread
    show (membersFrom (foldMember appendMember (value 126)) _ true [] text >>= _) = _
    rw [hread]
    rfl

/-- A text is a JSON object with these members in this order, and is read as such. -/
structure ReadBack (members : List (String × Value)) (text : List Char) : Prop where
  valid : ∃ terms, Renders (.object terms) text
  ordered : Reader.run memberList text = .ok members
  value : Reader.run value text = .ok (.object (Entries.ofList members))

section

variable {members : List (String × Term)} (hdepth : (Term.object members).depth ≤ maxNesting)
  (hintegral : IntegralMembers members)

include hdepth hintegral

/-- Any text of an object is read back to the members of the object, if these are not nested too
deeply and have no fractions. -/
theorem ReadBack.of_renders {text : List Char} (h : Renders (.object members) text) :
    ReadBack (valuesOfMembers members) text where
  valid := ⟨members, h⟩
  ordered := run_member_list h hdepth hintegral
  value := run_value h hdepth hintegral

/-- An object is read back from the text without any space. -/
theorem ReadBack.compact :
    ReadBack (valuesOfMembers members) (Value.object (listedMembers members)).compact :=
  .of_renders hdepth hintegral (renders_compact_listed (.object members) hintegral)

/-- An object is read back from the text with a line for every part. -/
theorem ReadBack.pretty :
    ReadBack (valuesOfMembers members) (Value.object (listedMembers members)).pretty :=
  .of_renders hdepth hintegral (renders_pretty_listed (.object members) 0 hintegral)

end

end StorageBackend.Json
