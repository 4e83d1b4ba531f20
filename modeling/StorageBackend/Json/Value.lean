import StorageBackend.Basic
import StorageBackend.Decimal.Binary64

/-!
# JSON values

The members of an object are kept in the order of their keys, each key once.
-/

namespace StorageBackend.Json

open Decimal (Binary64)

/-- A JSON value. -/
inductive Value where
  | null
  | boolean (value : Bool)
  /-- An integer in the range of a signed or unsigned 64-bit number. -/
  | integer (value : Int)
  /-- Any other number. -/
  | real (value : Binary64)
  | string (value : String)
  | array (items : List Value)
  | object (members : List (String × Value))

/-- A number in a JSON text. -/
inductive Number where
  | integer (value : Int)
  | real (value : Binary64)

/-- A number as a value. -/
def Number.toValue : Number → Value
  | .integer value => .integer value
  | .real value => .real value

end StorageBackend.Json
