import StorageBackend.Decimal.Shortest
import StorageBackend.Text.Quoted

/-!
# Errors about the shape of a document

A well-formed document may still hold something else than what is asked of it. `ShapeError` says
what was found and what was expected; `Wording` holds the few words in which formats differ.
-/

namespace StorageBackend.Schema

open Decimal (Binary64 FloatStyle)

/-- What stands in a document at a place. -/
inductive Found where
  /-- A value without content. -/
  | unit
  | boolean (value : Bool)
  /-- An integer of at most 64 bits. -/
  | integer (value : Int)
  /-- An integer of more than 64 and at most 128 bits. -/
  | wideInteger (value : Int)
  | real (value : Binary64)
  | string (value : String)
  | sequence
  | map
  /-- A value with a tag of the document's own. -/
  | tagged

/-- The words of one format. -/
structure Wording where
  /-- The name of a value without content. -/
  unit : String
  /-- How doubles are written. -/
  real : FloatStyle

/-- What was found, in words. -/
def Found.text (wording : Wording) : Found → String
  | .unit => wording.unit
  | .boolean value => "boolean `" ++ (if value then "true" else "false") ++ "`"
  | .integer value => "integer `" ++ toString value ++ "`"
  | .wideInteger value =>
    "integer `" ++ toString value ++ "` as " ++ (if value < 0 then "i128" else "u128")
  | .real value => "floating point `" ++ wording.real.write value ++ "`"
  | .string value => "string " ++ Text.quoted value
  | .sequence => "sequence"
  | .map => "map"
  | .tagged => "enum"

/-- What is wrong with the shape of a document. -/
inductive ShapeError where
  /-- A value of the wrong type. -/
  | invalidType (found : Found) (expected : String)
  /-- A value of the right type that is not admitted. -/
  | invalidValue (found : Found) (expected : String)
  /-- A field that is given twice. -/
  | duplicateField (name : String)
  /-- A required field that is not given. -/
  | missingField (name : String)
  /-- A name that is none of the admitted ones. -/
  | unknownVariant (name : String) (admitted : List String)

/-- Names in backticks, separated by commas. -/
def quotedNames (names : List String) : String :=
  ", ".intercalate (names.map fun name => "`" ++ name ++ "`")

/-- What is wrong, in words. -/
def ShapeError.text (wording : Wording) : ShapeError → String
  | .invalidType found expected =>
    "invalid type: " ++ found.text wording ++ ", expected " ++ expected
  | .invalidValue found expected =>
    "invalid value: " ++ found.text wording ++ ", expected " ++ expected
  | .duplicateField name => "duplicate field `" ++ name ++ "`"
  | .missingField name => "missing field `" ++ name ++ "`"
  | .unknownVariant name admitted =>
    "unknown variant `" ++ name ++ "`, expected one of " ++ quotedNames admitted

end StorageBackend.Schema
