import StorageBackend.Text.Quoted

/-!
# Layout of nested values

A value shown to a person is an atom, a named wrapper around one value, or a named record of
fields. `Layout.inline` writes it on one line, `Layout.indented` gives every part a line of its
own, indented by four spaces per level.
-/

namespace StorageBackend.Text

/-- A value to be shown. -/
inductive Layout where
  /-- A text that is written as it is. -/
  | atom (text : String)
  /-- One value under a name: `Some(5)`. -/
  | wrapped (name : String) (content : Layout)
  /-- Named fields under a name: `Point { x: 1, y: 2 }`. -/
  | record (name : String) (fields : List (String × Layout))

namespace Layout

/-- A quoted text. -/
def text (value : String) : Layout := .atom (quoted value)

/-- An optional value. -/
def optional (show? : α → Layout) : Option α → Layout
  | none => .atom "None"
  | some value => .wrapped "Some" (show? value)

mutual

/-- A value on one line. -/
def inline : Layout → List Char
  | .atom text => text.toList
  | .wrapped name content => name.toList ++ '(' :: (inline content ++ [')'])
  | .record name fields => name.toList ++ " \x7b ".toList ++ inlineFields fields ++ " \x7d".toList

/-- Fields on one line, separated by commas. -/
def inlineFields : List (String × Layout) → List Char
  | [] => []
  | [(key, value)] => key.toList ++ ": ".toList ++ inline value
  | (key, value) :: rest =>
    key.toList ++ ": ".toList ++ inline value ++ ", ".toList ++ inlineFields rest

end

/-- The spaces in front of a line at nesting level `level`. -/
def margin (level : Nat) : List Char := List.replicate (4 * level) ' '

mutual

/-- A value at nesting level `level`, every part of it on a line of its own. The first line has no
margin. -/
def indentedAt (level : Nat) : Layout → List Char
  | .atom text => text.toList
  | .wrapped name content =>
    name.toList ++ "(\n".toList ++ margin (level + 1) ++ indentedAt (level + 1) content ++
      ",\n".toList ++ margin level ++ [')']
  | .record name fields =>
    name.toList ++ " \x7b\n".toList ++ indentedFields (level + 1) fields ++ margin level ++ ['\x7d']

/-- Fields at nesting level `level`, each on a line that ends in a comma. -/
def indentedFields (level : Nat) : List (String × Layout) → List Char
  | [] => []
  | (key, value) :: rest =>
    margin level ++ key.toList ++ ": ".toList ++ indentedAt level value ++ ",\n".toList ++
      indentedFields level rest

end

/-- A value with every part on a line of its own. -/
def indented (layout : Layout) : List Char := indentedAt 0 layout

/-- A value on one line, as a string. -/
def line (layout : Layout) : String := String.ofList layout.inline

/-- A value with every part on a line of its own, as a string. -/
def block (layout : Layout) : String := String.ofList layout.indented

end Layout

end StorageBackend.Text
