import StorageBackend.Proofs.Yaml.Layout
import StorageBackend.Yaml.TokenStream

/-!
# Reading written phrases

A phrase is read back from the way it is written: in quotes up to the closing one
(`double_quoted_written`), plain up to the colon behind a key (`plain_from_colon`), to the next line
(`plain_from_line`), or to the end of the document (`plain_from_nil`, `plain_from_last_break`).
-/

namespace StorageBackend.Yaml

open StorageBackend.Tree (NullWord Phrase)

/-! ## Classes of characters -/

/-- What holds of all ASCII characters holds of every character below 128. -/
theorem of_ascii {P : Char → Prop} (h : ∀ n < 128, P (Char.ofNat n)) {c : Char}
    (hc : c.toNat < 128) : P c := by
  have hchar := h c.toNat hc
  rwa [Char.ofNat_toNat] at hchar

/-- A character below one of ASCII is one of ASCII. -/
theorem ascii_of_le {c d : Char} (h : c ≤ d) (hd : d.toNat < 128) : c.toNat < 128 :=
  Nat.lt_of_le_of_lt (UInt32.le_iff_toNat_le.mp h) hd

/-- Whether a character may stand in something that is written without quotes: a text, or a word for
null. -/
def isSolid (c : Char) : Bool := isPlainChar c || c == '~'

/-- What is written without quotes is ASCII. -/
theorem ascii_of_solid {c : Char} (h : isSolid c = true) : c.toNat < 128 := by
  simp only [isSolid, isPlainChar, isPlainStart, isLetter, Text.isDigit, Bool.or_eq_true,
    Bool.and_eq_true, decide_eq_true_eq, beq_iff_eq] at h
  rcases h with ((((⟨-, h⟩ | ⟨-, h⟩) | ⟨-, h⟩) | rfl) | rfl) | rfl
  · exact ascii_of_le h (by decide)
  · exact ascii_of_le h (by decide)
  · exact ascii_of_le h (by decide)
  · decide
  · decide
  · decide

/-- Printable characters are ASCII. -/
theorem ascii_of_printable {c : Char} (h : isPrintable c = true) : c.toNat < 128 := by
  simp only [isPrintable, Bool.and_eq_true, decide_eq_true_eq] at h
  omega

/-- A plain scalar goes on with such a character. -/
theorem solid_class {c : Char} (h : isSolid c = true) :
    isBlank c = false ∧ isBreak c = false ∧ c ≠ ':' ∧ isPrintable c = true :=
  of_ascii (P := fun c => isSolid c = true →
    isBlank c = false ∧ isBreak c = false ∧ c ≠ ':' ∧ isPrintable c = true) (by decide)
    (ascii_of_solid h) h

/-- A printable character is on its line, takes one byte, and may stand in a text. -/
theorem printable_class {c : Char} (h : isPrintable c = true) :
    isBreak c = false ∧ c.utf8Size = 1 ∧ isAllowed c = true ∧ (isBlank c = true → c = ' ') :=
  of_ascii (P := fun c => isPrintable c = true →
    isBreak c = false ∧ c.utf8Size = 1 ∧ isAllowed c = true ∧ (isBlank c = true → c = ' '))
    (by decide) (ascii_of_printable h) h

/-! ## Places -/

/-- The place behind a number of bytes on the same line, with a character for each. -/
def Mark.after (mark : Mark) (count : Nat) : Mark :=
  ⟨mark.offset + count, mark.line, mark.column + count⟩

/-- A space takes one byte. -/
theorem Mark.right_space_after (mark : Mark) (count : Nat) :
    (mark.right ' ').after count = mark.after (count + 1) := by
  have hsize : ' '.utf8Size = 1 := rfl
  simp only [Mark.right, Mark.after, hsize, Mark.mk.injEq, true_and]
  omega

/-- Printable characters are passed one byte and one column at a time. -/
theorem Mark.foldl_right {text : List Char} (h : ∀ c ∈ text, isPrintable c = true) (mark : Mark) :
    text.foldl Mark.right mark = mark.after text.length := by
  induction text generalizing mark with
  | nil => rfl
  | cons c text ih =>
    have hsize := (printable_class (h c List.mem_cons_self)).2.1
    rw [List.foldl_cons, ih fun d hd => h d (List.mem_cons_of_mem c hd), Mark.right, hsize]
    simp only [Mark.after, List.length_cons, Mark.mk.injEq, true_and]
    omega

/-! ## Plain scalars -/

/-- In a block no colon is ambiguous. -/
theorem ambiguous_colon_block (text : List Char) : ambiguousColon false text = false := by
  unfold ambiguousColon
  split
  · rfl
  · rfl

/-- A plain scalar goes on through characters that mean nothing else. -/
theorem plain_from_chars {margin : Nat} {text : List Char}
    (h : ∀ c ∈ text, isSolid c = true) (done : List Char) (mark : Mark) (rest : List Char) :
    plainFrom false margin done none mark (text ++ rest) =
      plainFrom false margin (text.reverse ++ done) none (text.foldl Mark.right mark) rest := by
  induction text generalizing done mark with
  | nil => rfl
  | cons c text ih =>
    obtain ⟨hblank, hbreak, hcolon, -⟩ := solid_class (h c List.mem_cons_self)
    have hends : endsPlain false (c :: (text ++ rest)) = false := by
      simp [endsPlain, hcolon]
    have hstep : plainFrom false margin done none mark (c :: (text ++ rest)) =
        plainFrom false margin (c :: done) none (mark.right c) (text ++ rest) := by
      rw [plainFrom.eq_def]
      simp [hblank, hbreak, ambiguous_colon_block, hends]
    rw [List.cons_append, hstep, ih fun d hd => h d (List.mem_cons_of_mem c hd)]
    simp

/-- A plain scalar ends before a colon with a gap behind it. -/
theorem plain_from_colon (margin : Nat) (done : List Char) (mark : Mark) {rest : List Char}
    (h : atGap rest = true) :
    plainFrom false margin done none mark (':' :: rest) =
      some (done.reverse, ⟨':' :: rest, mark⟩, false) := by
  rw [plainFrom.eq_def]
  simp [isBlank, isBreak, ambiguous_colon_block, endsPlain, h, plainFrom.stop]

/-- Spaces at the beginning of a line are passed over. -/
theorem plain_from_spaces (margin : Nat) (done : List Char) {gap : Gap} (hgap : gap.broken = true)
    (count : Nat) (mark : Mark) (rest : List Char) :
    plainFrom false margin done (some gap) mark (List.replicate count ' ' ++ rest) =
      plainFrom false margin done (some gap) (mark.after count) rest := by
  induction count generalizing mark with
  | zero => rfl
  | succ count ih =>
    have hstep : plainFrom false margin done (some gap) mark
        (' ' :: (List.replicate count ' ' ++ rest)) =
          plainFrom false margin done (some gap) (mark.right ' ')
            (List.replicate count ' ' ++ rest) := by
      rw [plainFrom.eq_def]
      simp [isBlank, hgap, Gap.blank]
    rw [List.replicate_succ, List.cons_append, hstep, ih, Mark.right_space_after]

/-- A plain scalar ends before a line that belongs to a block further out. -/
theorem plain_from_line {margin column : Nat} (hcolumn : column < margin) (done : List Char)
    (mark : Mark) {c : Char} (hblank : isBlank c = false) (hbreak : isBreak c = false)
    (rest : List Char) :
    plainFrom false margin done none mark ('\n' :: (List.replicate column ' ' ++ c :: rest)) =
      some (done.reverse, ⟨c :: rest, (mark.newLine 1).after column⟩, true) := by
  have hstep : plainFrom false margin done none mark
      ('\n' :: (List.replicate column ' ' ++ c :: rest)) =
        plainFrom false margin done (some ((Gap.none).newLine '\n')) (mark.newLine 1)
          (List.replicate column ' ' ++ c :: rest) := by
    rw [plainFrom.eq_def]
    simp [isBlank, isBreak]
    rfl
  rw [hstep, plain_from_spaces margin done rfl, plainFrom.eq_def]
  have hstop : ((mark.newLine 1).after column).column < margin := by
    simpa [Mark.after, Mark.newLine] using hcolumn
  simp [hblank, hbreak, hstop, plainFrom.stop]
  rfl

/-- A plain scalar ends with the text. -/
theorem plain_from_nil (margin : Nat) (done : List Char) (mark : Mark) :
    plainFrom false margin done none mark [] = some (done.reverse, ⟨[], mark⟩, false) := rfl

/-- A plain scalar ends with the line break at the end of the text. -/
theorem plain_from_last_break (margin : Nat) (done : List Char) (mark : Mark) :
    plainFrom false margin done none mark ['\n'] =
      some (done.reverse, ⟨[], mark.newLine 1⟩, true) := by
  rw [plainFrom.eq_def]
  simp [isBlank, isBreak]
  rfl

/-! ## Scalars in double quotes -/

/-- Documents are separated at the beginning of a line only. -/
theorem not_at_separator {mark : Mark} (h : mark.column ≠ 0) (text : List Char) :
    atSeparator text mark = false := by
  simp [atSeparator, atDocumentLine, h]

/-- A character is read back from the way it is written. The white space before it turns out to be
inside the scalar; a blank may still be followed by a line break. -/
theorem double_quoted_from_char {c : Char} (hc : isPrintable c = true) (fuel : Nat)
    (done : List Char) {gap : Gap} (hgap : gap.broken = false) {mark : Mark}
    (hmark : mark.column ≠ 0) (rest : List Char) :
    ∃ next blanks, blanks.broken = false ∧
      blanks.reversed ++ next = c :: (gap.reversed ++ done) ∧
      doubleQuotedFrom (fuel + 1) done gap ⟨quotedChar c ++ rest, mark⟩ =
        doubleQuotedFrom fuel next blanks ⟨rest, (quotedChar c).foldl Mark.right mark⟩ := by
  obtain ⟨hbreak, -, -, hblank⟩ := printable_class hc
  have hseparator := not_at_separator hmark
  have hreversed : gap.reversed = gap.blanks := by simp [Gap.reversed, hgap]
  by_cases hspace : isBlank c = true
  · obtain rfl := hblank hspace
    refine ⟨done, gap.blank ' ', ?_, ?_, ?_⟩
    · simp [Gap.blank, hgap]
    · simp [Gap.blank, Gap.reversed, hgap]
    · show doubleQuotedFrom (fuel + 1) done gap ⟨' ' :: rest, mark⟩ = _
      rw [doubleQuotedFrom]
      rfl
  · -- Any other character ends the gap before it, escaped or not.
    rw [Bool.not_eq_true] at hspace
    refine ⟨c :: (gap.reversed ++ done), Gap.none, rfl, rfl, ?_⟩
    by_cases hescape : c = '"' ∨ c = '\\'
    · have hshort : shortEscape? c = some c := by
        rcases hescape with rfl | rfl
        · rfl
        · rfl
      have hslash : isBlank '\\' = false ∧ isBreak '\\' = false := by decide
      rw [quotedChar, if_pos hescape]
      simp only [List.cons_append, List.nil_append]
      rw [doubleQuotedFrom]
      simp [hslash, hseparator, hbreak, hshort]
    · have hchar := hescape
      rw [not_or] at hchar
      rw [quotedChar, if_neg hescape]
      simp only [List.cons_append, List.nil_append]
      rw [doubleQuotedFrom]
      simp [hspace, hseparator, hbreak, hchar]

/-- Moving on a line does not lead back to its beginning. -/
theorem Mark.column_foldl_right (text : List Char) (mark : Mark) :
    (text.foldl Mark.right mark).column = mark.column + text.length := by
  induction text generalizing mark with
  | nil => rfl
  | cons c text ih =>
    rw [List.foldl_cons, ih, List.length_cons]
    show mark.column + 1 + text.length = _
    omega

/-- A text is read back up to the closing quote. -/
theorem double_quoted_from_written {text : List Char} (h : ∀ c ∈ text, isPrintable c = true)
    (rest : List Char) (fuel : Nat) (done : List Char) {gap : Gap} (hgap : gap.broken = false)
    {mark : Mark} (hmark : mark.column ≠ 0) :
    doubleQuotedFrom (fuel + text.length + 1) done gap
        ⟨text.flatMap quotedChar ++ '"' :: rest, mark⟩ =
      some ((text.reverse ++ (gap.reversed ++ done)).reverse,
        ⟨rest, (text.flatMap quotedChar ++ ['"']).foldl Mark.right mark⟩) := by
  induction text generalizing done gap mark with
  | nil =>
    have hquote : isBlank '"' = false ∧ isBreak '"' = false := by decide
    show doubleQuotedFrom (fuel + 1) done gap ⟨'"' :: rest, mark⟩ = _
    rw [doubleQuotedFrom]
    simp [hquote, not_at_separator hmark]
  | cons c text ih =>
    obtain ⟨next, blanks, hblanks, hnext, hstep⟩ := double_quoted_from_char
      (h c List.mem_cons_self) (fuel + text.length + 1) done hgap hmark
      (text.flatMap quotedChar ++ '"' :: rest)
    have hcolumn : ((quotedChar c).foldl Mark.right mark).column ≠ 0 := by
      rw [Mark.column_foldl_right]
      omega
    rw [List.flatMap_cons, List.append_assoc, List.length_cons, ← Nat.add_assoc, hstep,
      ih (fun d hd => h d (List.mem_cons_of_mem c hd)) next hblanks hcolumn, hnext]
    simp

/-- A character takes one or two places in quotes. -/
theorem length_quoted (text : List Char) :
    text.length ≤ (text.flatMap quotedChar).length ∧
      (text.flatMap quotedChar).length ≤ 2 * text.length := by
  induction text with
  | nil => exact ⟨Nat.le_refl 0, Nat.le_refl 0⟩
  | cons c text ih =>
    have hchar : 1 ≤ (quotedChar c).length ∧ (quotedChar c).length ≤ 2 := by
      unfold quotedChar
      split <;> simp
    rw [List.flatMap_cons, List.length_append, List.length_cons]
    omega

/-- A text in quotes is read back. -/
theorem double_quoted_written {text : List Char} (h : ∀ c ∈ text, isPrintable c = true)
    {mark : Mark} (hmark : mark.column ≠ 0) (rest : List Char) :
    doubleQuoted ⟨text.flatMap quotedChar ++ '"' :: rest, mark⟩ =
      some (text, ⟨rest, (text.flatMap quotedChar ++ ['"']).foldl Mark.right mark⟩) := by
  have hlength : text.length ≤ (text.flatMap quotedChar ++ '"' :: rest).length := by
    rw [List.length_append]
    exact Nat.le_add_right_of_le (length_quoted text).1
  obtain ⟨fuel, hfuel⟩ := Nat.exists_eq_add_of_le' hlength
  have hread :=
    double_quoted_from_written h rest fuel [] (show Gap.none.broken = false from rfl) hmark
  rw [doubleQuoted, hfuel, hread]
  simp [Gap.reversed, Gap.none]

/-! ## Phrases -/

/-- Whether something that is written without quotes may begin with a character. -/
def isFirst (c : Char) : Bool := isPlainStart c || c == '~'

/-- Phrases as they may stand in a document, words for null among them. -/
structure Legible (phrase : Phrase) : Prop where
  printable : ∀ c ∈ phrase.text, isPrintable c = true
  plain : phrase.quoted = false →
    (∃ c rest, phrase.text = c :: rest ∧ isFirst c = true) ∧ ∀ c ∈ phrase.text, isSolid c = true

/-- A character of a plain text may stand without quotes. -/
theorem solid_of_plain_char {c : Char} (h : isPlainChar c = true) : isSolid c = true := by
  rw [isSolid, h, Bool.true_or]

/-- What begins a plain text may be the first character without quotes. -/
theorem first_of_plain_start {c : Char} (h : isPlainStart c = true) : isFirst c = true := by
  rw [isFirst, h, Bool.true_or]

/-- A plain text may begin with a letter. -/
theorem plain_start_of_letter {c : Char} (h : isLetter c = true) : isPlainStart c = true := by
  rw [isPlainStart, h, Bool.true_or]

/-- What begins a plain text may stand further on in it, too. -/
theorem plain_char_of_start {c : Char} (h : isPlainStart c = true) : isPlainChar c = true := by
  rw [isPlainChar, h, Bool.true_or, Bool.true_or]

/-- The first character without quotes is ASCII. -/
theorem ascii_of_first {c : Char} (h : isFirst c = true) : c.toNat < 128 := by
  rw [isFirst, Bool.or_eq_true, beq_iff_eq] at h
  rcases h with h | rfl
  · exact ascii_of_solid (solid_of_plain_char (plain_char_of_start h))
  · decide

/-- A phrase that can be written is legible. -/
theorem WritablePhrase.legible {phrase : Phrase} (h : WritablePhrase phrase) : Legible phrase := by
  refine ⟨h.printable, fun hquoted => ?_⟩
  obtain ⟨c, rest, htext, hc⟩ := (h.plain hquoted).start
  exact ⟨⟨c, rest, htext, first_of_plain_start hc⟩,
    fun c hc => solid_of_plain_char ((h.plain hquoted).rest c hc)⟩

/-- So is a phrase that can be the name of a member. -/
theorem WritableKey.legible {phrase : Phrase} (h : WritableKey phrase) : Legible phrase := by
  have hsolid : ∀ c ∈ phrase.text, isSolid c = true := fun c hc =>
    solid_of_plain_char (plain_char_of_start (plain_start_of_letter (h.letters c hc)))
  refine ⟨fun c hc => (solid_class (hsolid c hc)).2.2.2, fun _ => ⟨?_, hsolid⟩⟩
  obtain ⟨c, rest, htext⟩ := List.exists_cons_of_ne_nil h.nonempty
  have hc : isLetter c = true := h.letters c (by rw [htext]; exact List.mem_cons_self)
  exact ⟨c, rest, htext, first_of_plain_start (plain_start_of_letter hc)⟩

/-- The words for null are written like phrases without quotes. -/
theorem legible_null {word : NullWord} (h : word.text ≠ []) : Legible ⟨word.text, false⟩ := by
  have hclass : word.text.all isPrintable = true ∧ word.text.all isSolid = true := by
    cases word <;> exact ⟨rfl, rfl⟩
  refine ⟨List.all_eq_true.mp hclass.1, fun _ => ⟨?_, List.all_eq_true.mp hclass.2⟩⟩
  cases word with
  | lower => exact ⟨'n', _, rfl, rfl⟩
  | capital => exact ⟨'N', _, rfl, rfl⟩
  | upper => exact ⟨'N', _, rfl, rfl⟩
  | tilde => exact ⟨'~', _, rfl, rfl⟩
  | nothing => exact absurd rfl h

/-- Everything that is written is printable. -/
theorem Legible.printable_text {phrase : Phrase} (h : Legible phrase) :
    ∀ c ∈ phraseText phrase, isPrintable c = true := by
  have hchars : ∀ c ∈ phrase.text.flatMap quotedChar, isPrintable c = true := by
    intro c hc
    obtain ⟨d, hd, hc⟩ := List.mem_flatMap.mp hc
    unfold quotedChar at hc
    split at hc
    · rcases List.mem_cons.mp hc with rfl | hc
      · rfl
      · obtain rfl := List.mem_singleton.mp hc
        exact h.printable c hd
    · obtain rfl := List.mem_singleton.mp hc
      exact h.printable c hd
  intro c hc
  unfold phraseText at hc
  split at hc
  · rcases List.mem_cons.mp hc with rfl | hc
    · rfl
    · rcases List.mem_append.mp hc with hc | hc
      · exact hchars c hc
      · obtain rfl := List.mem_singleton.mp hc
        rfl
  · exact h.printable c hc

/-- The name of a member is short, even with escapes and quotes. -/
theorem WritableKey.length_text {phrase : Phrase} (h : WritableKey phrase) :
    (phraseText phrase).length ≤ 2 * maxKeyLength + 2 := by
  have hquoted := (length_quoted phrase.text).2
  have hlength := h.length
  unfold phraseText
  split
  · simp only [List.length_cons, List.length_append, List.length_nil]
    omega
  · omega

/-- A phrase begins with a quote, or with a character that begins a plain scalar. -/
theorem Legible.head {phrase : Phrase} (h : Legible phrase) :
    ∃ c rest, phraseText phrase = c :: rest ∧ (c = '"' ∨ isFirst c = true) := by
  unfold phraseText
  cases hquoted : phrase.quoted with
  | true => exact ⟨'"', _, rfl, .inl rfl⟩
  | false =>
    obtain ⟨⟨c, rest, htext, hc⟩, -⟩ := h.plain hquoted
    exact ⟨c, rest, htext, .inr hc⟩

end StorageBackend.Yaml
