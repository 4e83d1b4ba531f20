/-!
# UTF-8

`Utf8.decode` reads bytes as text and says where and how far a malformed sequence reaches. Overlong
forms, surrogates, numbers above `0x10ffff` and sequences that are cut short are malformed.
-/

namespace StorageBackend.Text.Utf8

/-- Where the first malformed sequence begins and how many bytes belong to it. Without a length the
bytes end inside a sequence that could still have become well-formed. -/
structure Malformed where
  index : Nat
  length : Option Nat
deriving DecidableEq

/-- The reason in words. -/
def Malformed.message (m : Malformed) : String :=
  match m.length with
  | some length =>
    "invalid utf-8 sequence of " ++ toString length ++ " bytes from index " ++ toString m.index
  | none => "incomplete utf-8 byte sequence from index " ++ toString m.index

/-- Whether a byte continues a sequence. -/
def isContinuation (b : UInt8) : Bool := 0x80 ≤ b && b ≤ 0xbf

/-- The second bytes that may follow the first byte of a sequence of three or four bytes, as an
inclusive range. It leaves out overlong forms, surrogates and numbers above `0x10ffff`. -/
def secondRange (a : UInt8) : UInt8 × UInt8 :=
  if a = 0xe0 then (0xa0, 0xbf)
  else if a = 0xed then (0x80, 0x9f)
  else if a = 0xf0 then (0x90, 0xbf)
  else if a = 0xf4 then (0x80, 0x8f)
  else (0x80, 0xbf)

/-- Whether `b` may be the second byte after `a`. -/
def isSecond (a b : UInt8) : Bool := (secondRange a).1 ≤ b && b ≤ (secondRange a).2

/-- The payload of a continuation byte. -/
def payload (b : UInt8) : Nat := b.toNat % 64

/-- Reads the bytes that begin at `index` as text. -/
def decodeFrom (index : Nat) : List UInt8 → Except Malformed (List Char)
  | [] => .ok []
  | a :: rest =>
    if a < 0x80 then (Char.ofNat a.toNat :: ·) <$> decodeFrom (index + 1) rest
    else if 0xc2 ≤ a && a ≤ 0xdf then
      match rest with
      | [] => .error ⟨index, none⟩
      | b :: rest =>
        if !isContinuation b then .error ⟨index, some 1⟩
        else (Char.ofNat ((a.toNat % 32) * 64 + payload b) :: ·) <$> decodeFrom (index + 2) rest
    else if 0xe0 ≤ a && a ≤ 0xef then
      match rest with
      | [] => .error ⟨index, none⟩
      | b :: rest =>
        if !isSecond a b then .error ⟨index, some 1⟩
        else
          match rest with
          | [] => .error ⟨index, none⟩
          | c :: rest =>
            if !isContinuation c then .error ⟨index, some 2⟩
            else
              (Char.ofNat (((a.toNat % 16) * 64 + payload b) * 64 + payload c) :: ·) <$>
                decodeFrom (index + 3) rest
    else if 0xf0 ≤ a && a ≤ 0xf4 then
      match rest with
      | [] => .error ⟨index, none⟩
      | b :: rest =>
        if !isSecond a b then .error ⟨index, some 1⟩
        else
          match rest with
          | [] => .error ⟨index, none⟩
          | c :: rest =>
            if !isContinuation c then .error ⟨index, some 2⟩
            else
              match rest with
              | [] => .error ⟨index, none⟩
              | d :: rest =>
                if !isContinuation d then .error ⟨index, some 3⟩
                else
                  (Char.ofNat ((((a.toNat % 8) * 64 + payload b) * 64 + payload c) * 64 + payload d)
                    :: ·) <$> decodeFrom (index + 4) rest
    else .error ⟨index, some 1⟩

/-- Reads bytes as text. -/
def decode (bytes : List UInt8) : Except Malformed String :=
  String.ofList <$> decodeFrom 0 bytes

/-- The bytes of a text. -/
def encode (text : String) : List UInt8 := text.toList.flatMap String.utf8EncodeChar

end StorageBackend.Text.Utf8
