/-!
# The form of certificates

A certificate is a tree of tagged elements, each with a length in front of it in the shortest form.
`isCertificate` looks at the outline of a certificate of version 3: who it names, what it states and
how it is signed are not checked, only that these parts are there.
-/

namespace StorageBackend.Text.Certificate

/-- An element: its tag and its contents. -/
structure Element where
  tag : UInt8
  contents : List UInt8
deriving DecidableEq

/-- The number that bytes stand for, most significant first. -/
def ofBytes (bytes : List UInt8) : Nat := bytes.foldl (fun n b => n * 256 + b.toNat) 0

/-- Reads a length. One below 128 is a byte of its own; others have up to four bytes, of which the
first is not zero. -/
def length? (bytes : List UInt8) : Option (Nat × List UInt8) :=
  match bytes with
  | [] => none
  | b :: rest =>
    if b < 0x80 then some (b.toNat, rest)
    else
      let count := b.toNat - 0x80
      let digits := rest.take count
      let length := ofBytes digits
      let isShortest := digits.head? ≠ some 0 && 128 ≤ length
      if 1 ≤ count && count ≤ 4 && digits.length = count && isShortest then
        some (length, rest.drop count)
      else none

/-- Reads an element. -/
def element? (bytes : List UInt8) : Option (Element × List UInt8) :=
  match bytes with
  | [] => none
  | tag :: rest =>
    match length? rest with
    | none => none
    | some (length, rest) =>
      if tag.toNat % 32 = 31 || rest.length < length then none
      else some (⟨tag, rest.take length⟩, rest.drop length)

/-- Reads elements up to the end. Every one has at least two bytes, so a `fuel` of the number of
bytes is enough. -/
def elementsFrom : (fuel : Nat) → List UInt8 → Option (List Element)
  | _, [] => some []
  | 0, _ :: _ => none
  | fuel + 1, bytes => do
    let (element, rest) ← element? bytes
    let elements ← elementsFrom fuel rest
    some (element :: elements)

/-- The elements that bytes consist of. -/
def elements? (bytes : List UInt8) : Option (List Element) := elementsFrom bytes.length bytes

/-- The tag of integers. -/
def integer : UInt8 := 0x02

/-- The tag of strings of bits. -/
def bits : UInt8 := 0x03

/-- The tag of sequences. -/
def sequence : UInt8 := 0x30

/-- The tag of the version. -/
def version : UInt8 := 0xa0

/-- The tag of the extensions. -/
def extensions : UInt8 := 0xa3

/-- Whether an element holds the number of version 3. -/
def isVersion3 (element : Element) : Bool :=
  element.tag == version && elements? element.contents == some [⟨integer, [2]⟩]

/-- Whether an element holds a sequence of extensions, and nothing else. -/
def isExtensions (element : Element) : Bool :=
  element.tag == extensions &&
    match elements? element.contents with
    | some [list] =>
      list.tag == sequence &&
        ((elements? list.contents).map fun all => all.all (·.tag == sequence)).getD false
    | _ => false

/-- Whether elements are what a certificate states: the version, a number, the algorithm of the
signature, the issuer, the validity, the subject and its key, and extensions if there are any. -/
def isStatement (algorithm : Element) : List Element → Bool
  | version :: number :: signature :: issuer :: validity :: subject :: key :: rest =>
    isVersion3 version && number.tag == integer && signature == algorithm &&
      [issuer, validity, subject, key].all (·.tag == sequence) &&
      (rest.isEmpty || (rest.length = 1 && rest.all isExtensions))
  | _ => false

/-- Whether bytes have the outline of a certificate: the statement, the algorithm of the signature
and the signature, which is a whole number of bytes. -/
def isCertificate (bytes : List UInt8) : Bool :=
  match elements? bytes with
  | some [outer] =>
    outer.tag == sequence &&
      match elements? outer.contents with
      | some [statement, algorithm, signature] =>
        statement.tag == sequence && algorithm.tag == sequence && signature.tag == bits &&
          signature.contents.head? == some 0 &&
          ((elements? statement.contents).map (isStatement algorithm)).getD false
      | _ => false
  | _ => false

end StorageBackend.Text.Certificate
