import StorageBackend.Text.Base64

/-!
# Bytes in Base64

`encode` is the standard spelling of bytes: every three of them as four digits, and one or two at
the end padded to four characters. `decode_encode` says that all bytes are read back from it.
-/

namespace StorageBackend.Text.Base64

/-- The digits in the order of the numbers that they stand for. -/
def alphabet : List Char :=
  "ABCDEFGHIJKLMNOPQRSTUVWXYZabcdefghijklmnopqrstuvwxyz0123456789+/".toList

/-- The digit for a number below 64. -/
def digit (n : Nat) : Char := alphabet.getD n '='

/-- The characters that bytes are spelled with. -/
def encodeChars : List UInt8 → List Char
  | [] => []
  | [a] => [digit (a.toNat / 4), digit (a.toNat % 4 * 16), '=', '=']
  | [a, b] =>
    [digit (a.toNat / 4), digit (a.toNat % 4 * 16 + b.toNat / 16), digit (b.toNat % 16 * 4), '=']
  | a :: b :: c :: rest =>
    digit (a.toNat / 4) :: digit (a.toNat % 4 * 16 + b.toNat / 16) ::
      digit (b.toNat % 16 * 4 + c.toNat / 64) :: digit (c.toNat % 64) :: encodeChars rest

/-- Bytes in Base64, with padding. -/
def encode (bytes : List UInt8) : String := String.ofList (encodeChars bytes)

/-- A digit stands for its number, and it is no padding. -/
theorem digit_class {n : Nat} (h : n < 64) : digitValue? (digit n) = some n ∧ digit n ≠ '=' := by
  have hall : ∀ m < 64, digitValue? (digit m) = some m ∧ digit m ≠ '=' := by decide +kernel
  exact hall n h

/-- Digits are read as the bytes that their numbers are parts of. -/
theorem decode_group_digits {x y z w : Nat} (hx : x < 64) (hy : y < 64) (hz : z < 64)
    (hw : w < 64) :
    decodeGroup (digit x) (digit y) (digit z) (digit w) =
      some [UInt8.ofNat (x * 4 + y / 16), UInt8.ofNat (y % 16 * 16 + z / 4),
        UInt8.ofNat (z % 4 * 64 + w)] := by
  rw [decodeGroup, (digit_class hx).1, (digit_class hy).1, (digit_class hz).1, (digit_class hw).1]
  rfl

/-- Two digits before the padding are read as one byte, if the second one has no bits left. -/
theorem decode_padded_two {x y : Nat} (hx : x < 64) (hy : y < 64) (hzero : y % 16 = 0) :
    decodePadded (digit x) (digit y) '=' = some [UInt8.ofNat (x * 4 + y / 16)] := by
  rw [decodePadded, (digit_class hx).1, (digit_class hy).1]
  exact if_pos hzero

/-- Three digits before the padding are read as two bytes, if the third one has no bits left. -/
theorem decode_padded_one {x y z : Nat} (hx : x < 64) (hy : y < 64) (hz : z < 64)
    (hzero : z % 4 = 0) :
    decodePadded (digit x) (digit y) (digit z) =
      some [UInt8.ofNat (x * 4 + y / 16), UInt8.ofNat (y % 16 * 16 + z / 4)] := by
  obtain ⟨hvalue, hpadding⟩ := digit_class hz
  rw [decodePadded, (digit_class hx).1, (digit_class hy).1]
  show (if digit z = '=' then _ else digitValue? (digit z) >>= _) = _
  rw [if_neg hpadding, hvalue]
  exact if_pos hzero

/-- A byte is put together from its parts. -/
theorem byte_of_parts (byte : UInt8) {n : Nat} (h : n = byte.toNat) : UInt8.ofNat n = byte := by
  rw [h, UInt8.ofNat_toNat]

/-- What has been written in Base64 is read back, whatever the number of bytes. -/
theorem decode_chars_encode_chars (bytes : List UInt8) :
    decodeChars (encodeChars bytes) = some bytes := by
  fun_induction encodeChars bytes with
  | case1 => rfl
  | case2 a =>
    have ha := a.toNat_lt
    show decodePadded _ _ '=' = _
    rw [decode_padded_two (by omega) (by omega) (by omega), byte_of_parts a (by omega)]
  | case3 a b =>
    have ha := a.toNat_lt
    have hb := b.toNat_lt
    show decodePadded _ _ _ = _
    rw [decode_padded_one (by omega) (by omega) (by omega) (by omega),
      byte_of_parts a (by omega), byte_of_parts b (by omega)]
  | case4 a b c rest ih =>
    have ha := a.toNat_lt
    have hb := b.toNat_lt
    have hc := c.toNat_lt
    have hlast : c.toNat % 64 < 64 := Nat.mod_lt _ (by decide)
    show (if digit (c.toNat % 64) = '=' then _
      else decodeGroup _ _ _ _ >>= fun group => decodeChars _ >>= fun others => _) = _
    rw [if_neg (digit_class hlast).2,
      decode_group_digits (by omega) (by omega) (by omega) hlast, ih,
      byte_of_parts a (by omega), byte_of_parts b (by omega),
      byte_of_parts c (by omega)]
    rfl

/-- All bytes are read back from their spelling. -/
theorem decode_encode (bytes : List UInt8) : decode (encode bytes) = some bytes := by
  rw [decode, encode, String.toList_ofList]
  exact decode_chars_encode_chars bytes

end StorageBackend.Text.Base64
