import StorageBackend.InstallConfig.Decode

/-!
# The format of a configuration

What stands behind the white space in front of a text decides how the text is read: as JSON if it
is a brace, and as YAML if it is anything else.
-/

namespace StorageBackend.InstallConfig

variable {text others : List Char} {c : Char}

/-- White space is dropped up to the first other character. -/
theorem trim_start_of_blank {space : List Char} (hspace : ∀ d ∈ space, Text.isBlank d = true)
    (hc : Text.isBlank c = false) (rest : List Char) :
    Text.trimStart (space ++ c :: rest) = c :: rest :=
  (List.dropWhile_append_of_pos hspace).trans
    (List.dropWhile_cons_of_neg (Bool.eq_false_iff.mp hc))

/-- The beginning of a text that is not blank stays where it is with more text behind. -/
theorem trim_start_append (h : Text.trimStart text = c :: others) (more : List Char) :
    Text.trimStart (text ++ more) = c :: (others ++ more) := by
  rw [Text.trimStart] at h ⊢
  rw [List.dropWhile_append, h]
  rfl

/-- A text that begins with a brace is read as JSON. -/
theorem decode_of_brace (h : Text.trimStart text = '\x7b' :: others) :
    decode (String.ofList text) = ofJson ('\x7b' :: others) := by
  rw [decode, String.toList_ofList, h]
  rfl

/-- A text that begins with anything else is read as YAML. -/
theorem decode_of_other (h : Text.trimStart text = c :: others) (hbrace : c ≠ '\x7b') :
    decode (String.ofList text) = ofYaml (c :: others) := by
  rw [decode, String.toList_ofList, h]
  exact if_neg hbrace

end StorageBackend.InstallConfig
