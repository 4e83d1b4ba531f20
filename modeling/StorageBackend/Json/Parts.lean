import StorageBackend.Basic
import StorageBackend.Json.Reader

/-!
# Parts of JSON documents

Readers for truth values, integers, lists and dictionaries, and for objects that do not mind a
member given twice: the last one counts.
-/

namespace StorageBackend.Json

open Schema (Field Found)
open Text (isDigit)

/-- A value of any shape, of which only the form is checked. -/
def anything : Reader Unit := fun _ text => do .ok ((), ← skipValue text)

/-- A truth value. -/
def boolean : Reader Bool := fun _ text =>
  match skipSpace text with
  | [] => .error .endOfValue
  | c :: rest =>
    if c = 't' then do .ok (true, ← nameTail ['r', 'u', 'e'] rest)
    else if c = 'f' then do .ok (false, ← nameTail ['a', 'l', 's', 'e'] rest)
    else .error (mismatch "a boolean" (c :: rest))

/-- An integer in a range; `expected` says in words what it is for. -/
def integerIn (low high : Int) (expected : String) : Reader Int := fun _ text =>
  let check (found : Number × List Char) : Except Error (Int × List Char) :=
    match found with
    | (.real value, _) => .error (.shape (.invalidType (.real value) expected))
    | (.integer value, rest) =>
      if low ≤ value ∧ value ≤ high then .ok (value, rest)
      else .error (.shape (.invalidValue (.integer value) expected))
  match skipSpace text with
  | [] => .error .endOfValue
  | c :: rest =>
    if c = '-' then do check (← number true rest)
    else if isDigit c then do check (← number false (c :: rest))
    else .error (mismatch expected (c :: rest))

/-- A signed integer of 64 bits. -/
def int64 : Reader Int := integerIn (-(twoTo 63 : Int)) (twoTo 63 - 1) "i64"

/-- An unsigned integer of 16 bits. -/
def uint16 : Reader Int := integerIn 0 (twoTo 16 - 1) "u16"

/-- What `read` reads, if `refine` does not refuse it. -/
def refined (read : Reader α) (refine : α → Option β) : Reader β := fun nesting text => do
  let (value, rest) ← read nesting text
  match refine value with
  | some value => .ok (value, rest)
  | none => .error .refused

/-- A list. -/
def list (item : Reader α) : Reader (List α) := fun nesting text =>
  match skipSpace text with
  | [] => .error .endOfValue
  | c :: rest =>
    if c = '[' then
      match nesting with
      | 0 => .error .recursionLimit
      | nesting + 1 => items (item nesting) rest
    else .error (mismatch "a sequence" (c :: rest))

/-- An object; the key of a member chooses how it changes the state. -/
def objectWith (expected : String) (initial : σ) (member : String → Reader (σ → σ)) : Reader σ :=
  fun nesting text =>
    match skipSpace text with
    | [] => .error .endOfValue
    | c :: rest =>
      if c = '\x7b' then
        match nesting with
        | 0 => .error .recursionLimit
        | nesting + 1 =>
          let step (state : σ) (key : String) : Except Error (Scan σ) :=
            .ok fun text => do
              let (change, text) ← member key nesting text
              .ok (change state, text)
          members step initial rest
      else .error (mismatch expected (c :: rest))

/-- Values under keys of any name; of a key given twice the last value counts. -/
def dictionary (value : Reader α) : Reader (Entries α) :=
  objectWith "a map" [] fun key nesting text => do
    let (value, rest) ← value nesting text
    .ok (fun entries : Entries α => entries.insert key value, rest)

/-- An object with known fields; of a field given twice the last value counts. Unknown members are
passed over. -/
def lenientRecord (name : String) (initial : σ) (fields : List (Field Reader σ)) : Reader σ :=
  objectWith ("struct " ++ name) initial fun key =>
    match findField fields key with
    | some field => field.read
    | none => fun nesting text => do
      let (_, rest) ← anything nesting text
      .ok (id, rest)

end StorageBackend.Json
