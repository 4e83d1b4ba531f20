import StorageBackend.Json.Error
import StorageBackend.Json.Value

/-!
# Writing JSON

`Value.compact` writes a value without any space, `Value.pretty` gives every part of a list or an
object a line of its own, indented by two spaces per level. Members are written in the order in
which they are listed.
-/

namespace StorageBackend.Json

/-- One character as it stands in a JSON string. -/
def escapedChar (c : Char) : List Char :=
  if c = '"' then ['\\', '"']
  else if c = '\\' then ['\\', '\\']
  else if c = '\x08' then ['\\', 'b']
  else if c = '\x0c' then ['\\', 'f']
  else if c = '\n' then ['\\', 'n']
  else if c = '\r' then ['\\', 'r']
  else if c = '\t' then ['\\', 't']
  else if c.val < 0x20 then
    ['\\', 'u', '0', '0', Nat.digitChar (c.toNat / 16), Nat.digitChar (c.toNat % 16)]
  else [c]

/-- A text as a JSON string. -/
def stringLiteral (text : List Char) : List Char :=
  '"' :: (text.flatMap escapedChar ++ ['"'])

namespace Value

/-- A value without parts. Doubles that are not finite have no JSON form and are written as null. -/
def scalar : Value → List Char
  | .boolean true => "true".toList
  | .boolean false => "false".toList
  | .integer value => (toString value).toList
  | .real value => if value.isFinite then (wording.real.write value).toList else "null".toList
  | .string value => stringLiteral value.toList
  | _ => "null".toList

mutual

/-- A value without any space. -/
def compact : Value → List Char
  | .array items => '[' :: (compactItems items ++ [']'])
  | .object members => '\x7b' :: (compactMembers members ++ ['\x7d'])
  | value => scalar value

/-- Items separated by commas. -/
def compactItems : List Value → List Char
  | [] => []
  | [item] => compact item
  | item :: rest => compact item ++ ',' :: compactItems rest

/-- Members separated by commas. -/
def compactMembers : List (String × Value) → List Char
  | [] => []
  | [(key, value)] => stringLiteral key.toList ++ ':' :: compact value
  | (key, value) :: rest =>
    stringLiteral key.toList ++ ':' :: compact value ++ ',' :: compactMembers rest

end

/-- A line break and the spaces in front of a line at nesting level `level`. -/
def lineBreak (level : Nat) : List Char := '\n' :: List.replicate (2 * level) ' '

mutual

/-- A value at nesting level `level`, every part on a line of its own. The first line has no
margin. -/
def prettyAt (level : Nat) : Value → List Char
  | .array [] => ['[', ']']
  | .array items => '[' :: (prettyItems (level + 1) items ++ lineBreak level ++ [']'])
  | .object [] => ['\x7b', '\x7d']
  | .object members => '\x7b' :: (prettyMembers (level + 1) members ++ lineBreak level ++ ['\x7d'])
  | value => scalar value

/-- Items at nesting level `level`, each on a line of its own. -/
def prettyItems (level : Nat) : List Value → List Char
  | [] => []
  | [item] => lineBreak level ++ prettyAt level item
  | item :: rest => lineBreak level ++ prettyAt level item ++ ',' :: prettyItems level rest

/-- Members at nesting level `level`, each on a line of its own. -/
def prettyMembers (level : Nat) : List (String × Value) → List Char
  | [] => []
  | [(key, value)] =>
    lineBreak level ++ stringLiteral key.toList ++ ':' :: ' ' :: prettyAt level value
  | (key, value) :: rest =>
    lineBreak level ++ stringLiteral key.toList ++ ':' :: ' ' :: prettyAt level value ++
      ',' :: prettyMembers level rest

end

/-- A value with every part on a line of its own. -/
def pretty (value : Value) : List Char := prettyAt 0 value

end Value

end StorageBackend.Json
