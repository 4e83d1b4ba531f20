import StorageBackend.Text.Base64
import StorageBackend.Text.Basic
import StorageBackend.Text.Utf8

/-!
# Sections of armoured text

An armoured text has sections between a line that begins one and a line that ends it. Both name what
the section is; its contents are in Base64. Headers may stand in front of them, with an empty line
between. What is outside of the sections does not count, nor does a section without an end.

Main definition: `Pem.sections?`.
-/

namespace StorageBackend.Text.Pem

/-- A section: what it is, and its contents. -/
structure Section where
  label : String
  contents : List UInt8
deriving DecidableEq

/-- Looks for a marker, of which `left` is still to come, and gives what is before it and behind it;
`seen` holds what has been read, last byte first. What turns out not to be the marker is passed over
with the byte that shows it. -/
def untilFrom (marker : List UInt8) (left seen : List UInt8) :
    List UInt8 → Option (List UInt8 × List UInt8)
  | [] => if left.isEmpty then some ((seen.drop marker.length).reverse, []) else none
  | b :: rest =>
    match left with
    | [] => some ((seen.drop marker.length).reverse, b :: rest)
    | m :: left => untilFrom marker (if b = m then left else marker) (b :: seen) rest

/-- What is before a marker and what is behind it. -/
def until? (marker : String) (bytes : List UInt8) : Option (List UInt8 × List UInt8) :=
  untilFrom (Utf8.encode marker) (Utf8.encode marker) [] bytes

/-- Passes over spaces, tabs and line ends. -/
def skipSpace (bytes : List UInt8) : List UInt8 :=
  bytes.dropWhile fun b => b == 0x20 || b == 0x09 || b == 0x0a || b == 0x0d

/-- The parts of a section as they are written. -/
structure Raw where
  label : List UInt8
  body : List UInt8
  /-- The label in the line that ends the section. -/
  endLabel : List UInt8

/-- The first section and what follows it. -/
def raw? (bytes : List UInt8) : Option (Raw × List UInt8) := do
  let (_, bytes) ← until? "-----BEGIN " bytes
  let (label, bytes) ← until? "-----" bytes
  let (body, bytes) ← until? "-----END " (skipSpace bytes)
  let (endLabel, bytes) ← until? "-----" bytes
  some (⟨label, body, endLabel⟩, skipSpace bytes)

/-- The headers and the contents in the body of a section. -/
def splitBody (body : List UInt8) : List UInt8 × List UInt8 :=
  ((until? "\n\n" body).orElse fun _ => until? "\r\n\r\n" body).getD ([], body)

/-- Whether every line is a header: a name and a value with a colon between them. -/
def areHeaders (text : String) : Bool :=
  (text.splitOn "\n").all fun line => line.isEmpty || line == "\r" || line.toList.contains ':'

/-- The section that is written so. Its labels have to be the same, and not empty. -/
def Raw.section? (raw : Raw) : Option Section := do
  let label ← (Utf8.decode raw.label).toOption
  let endLabel ← (Utf8.decode raw.endLabel).toOption
  let (headers, data) := splitBody raw.body
  let data ← (Utf8.decode data).toOption
  let contents ← Base64.decodeChars (data.toList.filter fun c => !isBlank c)
  let headers ← (Utf8.decode headers).toOption
  if label.isEmpty || label ≠ endLabel || !areHeaders headers then none
  else some ⟨label, contents⟩

/-- The sections of a text, as they are written. Every section has more than one byte, so a `fuel`
of the number of bytes is enough. -/
def raws : (fuel : Nat) → List UInt8 → List Raw
  | 0, _ => []
  | fuel + 1, bytes =>
    match raw? bytes with
    | some (raw, rest) => raw :: raws fuel rest
    | none => []

/-- The sections of a text, unless one of them is malformed. -/
def sections? (bytes : List UInt8) : Option (List Section) :=
  (raws bytes.length bytes).mapM Raw.section?

end StorageBackend.Text.Pem
