/-!
# Addresses

An address is a path, or an authority, or both behind a scheme. The authority may name a user and a
port; brackets surround a host that has colons of its own. A number sign and what follows it is not
part of an address that is sent.

Main definition: `Uri.parse?`.
-/

namespace StorageBackend.Api

/-- An address. What it does not have is empty. -/
structure Uri where
  scheme : String
  authority : String
  /-- The path with the query. -/
  path : String
deriving DecidableEq, Inhabited

namespace Uri

/-- The bytes that an address may have. -/
def longest : Nat := 65534

/-- The characters that a scheme may have. -/
def longestScheme : Nat := 64

/-! ## Paths -/

/-- Whether a character may stand in the path of an address. -/
def isPathChar (c : Char) : Bool :=
  let n := c.toNat
  n == 0x21 || (0x24 ≤ n && n ≤ 0x3b) || n == 0x3d || (0x40 ≤ n && n ≤ 0x5f) ||
    (0x61 ≤ n && n ≤ 0x7a) || n == 0x7c || 0x7e ≤ n || c == '"' || c == '\x7b' || c == '\x7d'

/-- Whether a character may stand in the query of an address. -/
def isQueryChar (c : Char) : Bool :=
  let n := c.toNat
  n == 0x21 || (0x24 ≤ n && n ≤ 0x3b) || n == 0x3d || 0x3f ≤ n

/-- The part of a path that is sent, unless there is a character in it that may not be. -/
def sentPart (inQuery : Bool) : List Char → Option (List Char)
  | [] => some []
  | c :: rest =>
    if c = '#' then some []
    else if !inQuery && c == '?' then (c :: ·) <$> sentPart true rest
    else if if inQuery then isQueryChar c else isPathChar c then (c :: ·) <$> sentPart inQuery rest
    else none

/-! ## Schemes -/

/-- Whether a character is a letter or a digit of ASCII. -/
def isAlphanumeric (c : Char) : Bool :=
  ('a' ≤ c && c ≤ 'z') || ('A' ≤ c && c ≤ 'Z') || ('0' ≤ c && c ≤ '9')

/-- Whether a character may stand in a scheme. -/
def isSchemeChar (c : Char) : Bool := isAlphanumeric c || ['+', '-', '.', '~'].contains c

/-- The scheme and what follows it, if there is one. -/
def scheme? (text : List Char) : Option (List Char × List Char) :=
  match text.dropWhile isSchemeChar with
  | ':' :: '/' :: '/' :: rest => some (text.takeWhile isSchemeChar, rest)
  | _ => none

/-! ## Authorities -/

/-- Whether a character may stand in an authority. Percent signs are looked at apart. -/
def isAuthorityChar (c : Char) : Bool :=
  isAlphanumeric c || "!$&'()*+,-.:;=@[]_~".toList.contains c

/-- What is known about an authority that has been read so far. -/
structure AuthorityScan where
  /-- The colons behind the user and behind the brackets. -/
  colons : Nat
  /-- Whether there has been an opening bracket. -/
  opened : Bool
  /-- Whether there has been a closing bracket. -/
  closed : Bool
  /-- Whether there is a percent sign behind the user and behind the brackets. -/
  percent : Bool

/-- At most this many colons may follow one another without a user or a bracket between them. -/
def mostColons : Nat := 8

/-- Reads a character of an authority. -/
def AuthorityScan.step (scan : AuthorityScan) (c : Char) : Option AuthorityScan :=
  if c = ':' then
    if scan.colons < mostColons then some { scan with colons := scan.colons + 1 } else none
  else if c = '[' then
    if scan.percent || scan.opened then none else some { scan with opened := true }
  else if c = ']' then
    if !scan.opened || scan.closed then none
    else some { scan with closed := true, colons := 0, percent := false }
  else if c = '@' then some { scan with colons := 0, percent := false }
  else if c = '%' then some { scan with percent := true }
  else if isAuthorityChar c then some scan
  else none

/-- Whether a text is an authority: its brackets match, there is at most one colon for the port,
only the user may be written with percent signs, and something follows the user. The empty text is
one. -/
def isAuthority (text : List Char) : Bool :=
  match text.foldlM AuthorityScan.step ⟨0, false, false, false⟩ with
  | some scan =>
    scan.opened == scan.closed && scan.colons ≤ 1 && text.getLast? ≠ some '@' && !scan.percent
  | none => false

/-- Whether a character ends an authority. -/
def endsAuthority (c : Char) : Bool := c == '/' || c == '?' || c == '#'

/-! ## Addresses -/

/-- Reads the characters of an address. An authority has to follow a scheme, and only a scheme lets
a path follow an authority. -/
def ofChars? (text : List Char) : Option Uri :=
  match text with
  | [] => none
  | ['*'] => some ⟨"", "", "*"⟩
  | '/' :: _ => do some ⟨"", "", String.ofList (← sentPart false text)⟩
  | _ =>
    let (scheme, behind) := (scheme? text).getD ([], text)
    let authority := behind.takeWhile fun c => !endsAuthority c
    let rest := behind.dropWhile fun c => !endsAuthority c
    if longestScheme < scheme.length || authority.isEmpty || !isAuthority authority then none
    else if (scheme? text).isNone && !rest.isEmpty then none
    else do
      let path ← sentPart false rest
      some ⟨String.ofList scheme, String.ofList authority, String.ofList path⟩

/-- Reads an address. -/
def parse? (text : String) : Option Uri :=
  if longest < text.utf8ByteSize then none else ofChars? text.toList

end Uri

end StorageBackend.Api
