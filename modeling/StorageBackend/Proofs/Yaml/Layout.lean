import StorageBackend.Proofs.Tree.Basic
import StorageBackend.Yaml.Resolution

/-!
# How trees are written in YAML

Trees are written in the block style: every member has a line of its own, indented by two spaces for
every block around it. Texts stand in double quotes, or plain if nothing in them could be taken for
something else. `Writable` says which trees can be written so.
-/

namespace StorageBackend.Yaml

open StorageBackend.Tree (Member Node NullWord Phrase)

/-! ## Phrases -/

/-- A character as it is written in double quotes. -/
def quotedChar (c : Char) : List Char := if c = '"' ∨ c = '\\' then ['\\', c] else [c]

/-- A phrase as it is written. -/
def phraseText (phrase : Phrase) : List Char :=
  if phrase.quoted then '"' :: (phrase.text.flatMap quotedChar ++ ['"']) else phrase.text

/-- A quoted phrase is written character by character, between quotes. -/
theorem phrase_text_quoted {phrase : Phrase} (h : phrase.quoted = true) :
    phraseText phrase = '"' :: (phrase.text.flatMap quotedChar ++ ['"']) := if_pos h

/-- A plain phrase is written as it is. -/
theorem phrase_text_plain {phrase : Phrase} (h : phrase.quoted = false) :
    phraseText phrase = phrase.text := by
  rw [phraseText, h]
  rfl

/-- Whether a character is a letter of ASCII. -/
def isLetter (c : Char) : Bool := ('a' ≤ c && c ≤ 'z') || ('A' ≤ c && c ≤ 'Z')

/-- Whether a text may begin with a character if it is written without quotes. -/
def isPlainStart (c : Char) : Bool := isLetter c || Text.isDigit c

/-- Whether a character may stand further on in a text that is written without quotes. -/
def isPlainChar (c : Char) : Bool := isPlainStart c || c == '-' || c == '.'

/-- Whether a character is a printable one of ASCII. -/
def isPrintable (c : Char) : Bool := 0x20 ≤ c.toNat && c.toNat ≤ 0x7e

/-- Texts that may be written without quotes. -/
structure IsPlain (text : List Char) : Prop where
  start : ∃ c rest, text = c :: rest ∧ isPlainStart c = true
  rest : ∀ c ∈ text, isPlainChar c = true
  notNull : isNullName text = false

/-- Phrases that can be written. -/
structure WritablePhrase (phrase : Phrase) : Prop where
  printable : ∀ c ∈ phrase.text, isPrintable c = true
  plain : phrase.quoted = false → IsPlain phrase.text

/-- The longest name of a member. -/
def maxKeyLength : Nat := 100

/-- Phrases that can be written as the name of a member. -/
structure WritableKey (phrase : Phrase) : Prop where
  letters : ∀ c ∈ phrase.text, isLetter c = true
  nonempty : phrase.text ≠ []
  length : phrase.text.length ≤ maxKeyLength

/-- Whether a text can be written as the name of a member. -/
def isKey (text : List Char) : Bool :=
  text.all isLetter && !text.isEmpty && text.length ≤ maxKeyLength

/-- The check for names of members is right. -/
theorem writable_key_of_is_key {phrase : Phrase} (h : isKey phrase.text = true) :
    WritableKey phrase := by
  simp only [isKey, Bool.and_eq_true, Bool.not_eq_true', decide_eq_true_eq] at h
  obtain ⟨⟨hletters, hnonempty⟩, hlength⟩ := h
  exact ⟨List.all_eq_true.mp hletters, List.isEmpty_eq_false_iff.mp hnonempty, hlength⟩

/-! ## Trees -/

mutual

/-- Trees that can be written. -/
def Writable : Node → Prop
  | .null _ => True
  | .text phrase => WritablePhrase phrase
  | .block block => WritableMembers block

/-- Members that can be written. -/
def WritableMembers : List Member → Prop
  | [] => True
  | (key, node) :: rest => WritableKey key ∧ Writable node ∧ WritableMembers rest

end

/-- The beginning of a line inside a number of blocks. -/
def lineStart (level : Nat) : List Char := '\n' :: List.replicate (2 * level) ' '

/-- A word with the space in front of it. Nothing needs no space. -/
def spaced (word : List Char) : List Char := if word = [] then [] else ' ' :: word

mutual

/-- What is written behind the colon of a member inside `level` blocks. -/
def valueText (level : Nat) : Node → List Char
  | .null word => spaced word.text
  | .text phrase => ' ' :: phraseText phrase
  | .block [] => [' ', '\x7b', '\x7d']
  | .block (member :: block) => linesText (level + 1) (member :: block)

/-- The lines of the members of a block inside `level` blocks, each with the line break in front of
it. -/
def linesText (level : Nat) : List Member → List Char
  | [] => []
  | (key, node) :: rest =>
    lineStart level ++ (phraseText key ++ ':' :: (valueText level node ++ linesText level rest))

end

/-- A document: the lines of its members without the line break in front of the first one, and maybe
another one at the end. -/
def documentText (block : List Member) (newline : Bool) : List Char :=
  (linesText 0 block).tail ++ (if newline then ['\n'] else [])

end StorageBackend.Yaml
