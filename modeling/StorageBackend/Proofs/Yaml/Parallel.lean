import StorageBackend.Yaml.Token

/-!
# Readers of tokens at two places

A text can stand further down: behind more bytes and lines, in the same column. Readings of it at
both places go in `Parallel`: both fail, or both give the same, and end where the same text is left.
Every reader of a token goes so, and it leaves no more than there was; `plain_parallel` says that
a plain scalar leaves less.
-/

namespace StorageBackend.Yaml

/-! ## Places further down -/

/-- Bytes and lines before a text. -/
structure Shift where
  bytes : Nat
  lines : Nat

section

variable (shift : Shift)

/-- The same column behind more bytes and lines. -/
def Mark.moved (mark : Mark) : Mark :=
  { mark with offset := mark.offset + shift.bytes, line := mark.line + shift.lines }

/-- The same text behind more bytes and lines. -/
def Cursor.moved (cursor : Cursor) : Cursor := ⟨cursor.text, cursor.mark.moved shift⟩

/-- The column is the same further down. -/
@[simp] theorem Mark.column_moved (mark : Mark) : (mark.moved shift).column = mark.column := rfl

/-- Going right is the same further down. -/
theorem Mark.right_moved (mark : Mark) (c : Char) :
    (mark.moved shift).right c = (mark.right c).moved shift := by
  simp only [Mark.right, Mark.moved, Mark.mk.injEq, and_true]
  exact Nat.add_right_comm _ _ _

/-- So is going to the next line. -/
theorem Mark.new_line_moved (mark : Mark) (size : Nat) :
    (mark.moved shift).newLine size = (mark.newLine size).moved shift := by
  simp only [Mark.newLine, Mark.moved, Mark.mk.injEq, and_true]
  exact ⟨Nat.add_right_comm _ _ _, Nat.add_right_comm _ _ _⟩

/-- So is going right behind several characters. -/
theorem Mark.foldl_right_moved (mark : Mark) (text : List Char) :
    text.foldl Mark.right (mark.moved shift) = (text.foldl Mark.right mark).moved shift := by
  induction text generalizing mark with
  | nil => rfl
  | cons c text ih => rw [List.foldl_cons, Mark.right_moved, ih, List.foldl_cons]

/-- The text is the same further down. -/
@[simp] theorem Cursor.text_moved (cursor : Cursor) : (cursor.moved shift).text = cursor.text := rfl

/-- The mark of a cursor moves with it. -/
@[simp] theorem Cursor.mark_moved (cursor : Cursor) :
    (cursor.moved shift).mark = cursor.mark.moved shift := rfl

/-- A cursor goes right in the same way further down. -/
theorem Cursor.right_moved (cursor : Cursor) (count : Nat) :
    (cursor.moved shift).right count = (cursor.right count).moved shift :=
  congrArg (Cursor.mk _) (Mark.foldl_right_moved shift _ _)

/-- A cursor passes over the same characters further down. -/
theorem Cursor.skip_while_moved (cursor : Cursor) (p : Char → Bool) :
    (cursor.moved shift).skipWhile p = (cursor.skipWhile p).moved shift :=
  Cursor.right_moved shift cursor _

/-- A line break is read in the same way further down. -/
theorem line_break_moved (text : List Char) (mark : Mark) :
    lineBreak text (mark.moved shift) =
      ((lineBreak text mark).1, (lineBreak text mark).2.1,
        (lineBreak text mark).2.2.moved shift) := by
  unfold lineBreak
  split
  · rw [Mark.new_line_moved]
  · split
    · rw [Mark.new_line_moved]
    · rfl
  · rfl

end

/-- Going right leaves no more of the text. -/
theorem length_right (cursor : Cursor) (count : Nat) :
    (cursor.right count).text.length ≤ cursor.text.length := (List.drop_sublist ..).length_le

/-- A character that is passed over is not left. -/
theorem length_right_succ (cursor : Cursor) (count : Nat) :
    (cursor.right (count + 1)).text.length ≤ cursor.text.length - 1 := by
  rw [Cursor.right, List.length_drop]
  exact Nat.sub_le_sub_left (Nat.le_add_left 1 count) _

/-- Reading a line break leaves no more of the text. -/
theorem length_line_break (text : List Char) (mark : Mark) :
    (lineBreak text mark).2.1.length ≤ text.length := by
  unfold lineBreak
  split
  · exact Nat.le_add_right _ 2
  · split
    · exact Nat.le_succ _
    · exact Nat.le_refl _
  · exact Nat.le_refl _

/-! ## Readings in parallel -/

/-- Two readings of a text, the other one further down: both fail, or both give the same but for the
place. `P` holds of what they give. -/
inductive Parallel {α : Type} (move : α → α) (P : α → Prop) : Option α → Option α → Prop where
  | none : Parallel move P none none
  | some (result : α) (h : P result) : Parallel move P (some result) (some (move result))

namespace Parallel

variable {α β : Type} {move : α → α} {P Q : α → Prop} {moveNext : β → β} {R : β → Prop}

/-- Readings that give the same but for the place are in parallel. -/
theorem some_of_eq {value other : α} (h : P value) (heq : other = move value) :
    Parallel move P (Option.some value) (Option.some other) := by
  rw [heq]
  exact .some value h

/-- What holds of the results in parallel may be said in a weaker way. -/
theorem mono {result other : Option α} (h : Parallel move P result other)
    (himp : ∀ value, P value → Q value) : Parallel move Q result other := by
  cases h with
  | none => exact .none
  | some value hvalue => exact .some value (himp value hvalue)

/-- What is left is bounded by any greater number. -/
theorem le {left : α → Nat} {m n : Nat} {result other : Option α}
    (h : Parallel move (fun value => left value ≤ m) result other) (hle : m ≤ n) :
    Parallel move (fun value => left value ≤ n) result other :=
  h.mono fun _ hvalue => Nat.le_trans hvalue hle

/-- Readings one after the other are in parallel if each of them is. -/
theorem bind {result other : Option α} (h : Parallel move P result other)
    {next otherNext : α → Option β}
    (hnext : ∀ value, P value → Parallel moveNext R (next value) (otherNext (move value))) :
    Parallel moveNext R (result >>= next) (other >>= otherNext) := by
  cases h with
  | none => exact .none
  | some value hvalue => exact hnext value hvalue

/-- What does not depend on the place is the same in both. -/
theorem bind_same {γ : Type} (result : Option γ) {next otherNext : γ → Option β}
    (hnext : ∀ value, Parallel moveNext R (next value) (otherNext value)) :
    Parallel moveNext R (result >>= next) (result >>= otherNext) := by
  cases result with
  | none => exact .none
  | some value => exact hnext value

/-- A choice that does not depend on the place is in parallel if both sides are. -/
theorem ite {c : Prop} [Decidable c] {first otherFirst second otherSecond : Option α}
    (hfirst : c → Parallel move P first otherFirst)
    (hsecond : ¬c → Parallel move P second otherSecond) :
    Parallel move P (if c then first else second) (if c then otherFirst else otherSecond) := by
  by_cases h : c
  · rw [if_pos h, if_pos h]
    exact hfirst h
  · rw [if_neg h, if_neg h]
    exact hsecond h

/-- What one reading gives is what the other one gives, moved. -/
theorem eq_map {result other : Option α} (h : Parallel move P result other) :
    other = result.map move := by
  cases h with
  | none => rfl
  | some => rfl

/-- The results of two readings, with where they come from. -/
theorem with_eq {result other : Option α} (h : Parallel move P result other) :
    Parallel move (fun value => P value ∧ result = Option.some value) result other := by
  cases h with
  | none => exact .none
  | some value hvalue => exact .some value ⟨hvalue, rfl⟩

/-- What is said of the results in parallel holds of the first reading. -/
theorem of_eq_some {result other : Option α} (h : Parallel move P result other) {value : α}
    (hresult : result = Option.some value) : P value := by
  cases h with
  | none => cases hresult
  | some value hvalue =>
    cases hresult
    exact hvalue

end Parallel

/-- Two readings of something, behind which at most `n` characters are left. -/
abbrev ParallelReading {α : Type} (shift : Shift) (n : Nat) :
    Option (α × Cursor) → Option (α × Cursor) → Prop :=
  Parallel (fun reading => (reading.1, reading.2.moved shift))
    (fun reading => reading.2.text.length ≤ n)

variable {shift : Shift}

/-! ## Plain scalars -/

/-- The lines of a plain scalar are read in the same way further down. -/
theorem plain_from_parallel (flow : Bool) (margin : Nat) (done : List Char) (gap : Option Gap)
    (mark : Mark) (text : List Char) :
    Parallel (fun (content, behind, broken) => (content, behind.moved shift, broken))
      (fun (_, behind, _) => behind.text.length ≤ text.length)
      (plainFrom flow margin done gap mark text)
      (plainFrom flow margin done gap (mark.moved shift) text) := by
  match text with
  | [] => exact .some _ (Nat.le_refl _)
  | c :: rest =>
    rw [plainFrom.eq_def, plainFrom.eq_def flow margin done gap (mark.moved shift)]
    refine .ite (fun _ => .ite (fun _ => .none) fun _ => ?_) fun _ => .ite (fun _ => ?_) fun _ =>
      .ite (fun _ => .some _ (Nat.le_refl _)) fun _ => .ite (fun _ => .none) fun _ =>
      .ite (fun _ => .some _ (Nat.le_refl _)) fun _ => ?_
    · rw [Mark.right_moved]
      exact (plain_from_parallel ..).le (Nat.le_succ _)
    · simp only [Mark.new_line_moved]
      split
      · exact (plain_from_parallel ..).le (Nat.le_add_right _ 2)
      · exact (plain_from_parallel ..).le (Nat.le_succ _)
    · rw [Mark.right_moved]
      exact (plain_from_parallel ..).le (Nat.le_succ _)
termination_by text.length

/-- A plain scalar takes a character that it does not end at. -/
theorem plain_parallel {flow : Bool} (margin : Nat) {c : Char} {rest : List Char}
    (hblank : isBlank c = false) (hbreak : isBreak c = false)
    (hends : endsPlain flow (c :: rest) = false) (mark : Mark) :
    Parallel (fun (content, behind, broken) => (content, behind.moved shift, broken))
      (fun (_, behind, _) => behind.text.length ≤ rest.length)
      (plain flow margin ⟨c :: rest, mark⟩) (plain flow margin ⟨c :: rest, mark.moved shift⟩) := by
  have hstep : ∀ mark, plain flow margin ⟨c :: rest, mark⟩ =
      if ambiguousColon flow (c :: rest) then none
      else plainFrom flow margin [c] none (mark.right c) rest := fun mark => by
    rw [plain, plainFrom.eq_def]
    simp [hblank, hbreak, hends]
  rw [hstep, hstep, Mark.right_moved]
  exact .ite (fun _ => .none) fun _ => plain_from_parallel ..

/-! ## Quoted scalars -/

/-- The rest of a scalar in double quotes is read in the same way further down: its escapes, its
gaps and its line breaks. -/
theorem double_quoted_from_parallel (fuel : Nat) (done : List Char) (gap : Gap) (text : List Char)
    (mark : Mark) :
    ParallelReading shift text.length (doubleQuotedFrom fuel done gap ⟨text, mark⟩)
      (doubleQuotedFrom fuel done gap ⟨text, mark.moved shift⟩) := by
  induction fuel generalizing done gap text mark with
  | zero => exact .none
  | succ fuel ih =>
    cases text with
    | nil => exact .none
    | cons c rest =>
      have hrest : ∀ done gap mark, ParallelReading shift (rest.length + 1)
          (doubleQuotedFrom fuel done gap ⟨rest, mark⟩)
          (doubleQuotedFrom fuel done gap ⟨rest, mark.moved shift⟩) :=
        fun done gap mark => (ih done gap rest mark).le (Nat.le_succ _)
      rw [doubleQuotedFrom, doubleQuotedFrom]
      simp only [line_break_moved, Mark.right_moved]
      refine .ite (fun _ => hrest ..) fun _ => .ite (fun _ => (ih ..).le (length_line_break ..))
        fun _ => .ite (fun _ => .none) fun _ => .ite (fun _ => .some _ (Nat.le_succ _)) fun _ =>
        .ite (fun _ => ?_) fun _ => hrest ..
      -- an escape takes at least one character more
      cases rest with
      | nil => exact .none
      | cons e others =>
        have hothers : ∀ count done gap mark, ParallelReading shift (others.length + 2)
            (doubleQuotedFrom fuel done gap ⟨others.drop count, mark⟩)
            (doubleQuotedFrom fuel done gap ⟨others.drop count, mark.moved shift⟩) :=
          fun count done gap mark => (ih done gap _ mark).le
            (Nat.le_trans (List.drop_sublist ..).length_le (Nat.le_add_right _ 2))
        refine .ite (fun _ => (ih ..).le (Nat.le_succ_of_le (length_line_break ..))) fun _ => ?_
        cases shortEscape? e with
        | some escaped => exact hothers 0 ..
        | none =>
          refine .bind_same (escapeWidth? e) fun width => .ite (fun _ => ?_) fun _ => .none
          refine .bind_same (hexChar? (others.take width)) fun escaped => ?_
          rw [Mark.foldl_right_moved]
          exact hothers ..

/-- So is a whole scalar in double quotes. -/
theorem double_quoted_parallel (cursor : Cursor) :
    ParallelReading shift cursor.text.length (doubleQuoted cursor)
      (doubleQuoted (cursor.moved shift)) := double_quoted_from_parallel ..

/-- So is the rest of a scalar in single quotes. -/
theorem single_quoted_from_parallel (fuel : Nat) (done : List Char) (gap : Gap) (text : List Char)
    (mark : Mark) :
    ParallelReading shift text.length (singleQuotedFrom fuel done gap ⟨text, mark⟩)
      (singleQuotedFrom fuel done gap ⟨text, mark.moved shift⟩) := by
  induction fuel generalizing done gap text mark with
  | zero => exact .none
  | succ fuel ih =>
    cases text with
    | nil => exact .none
    | cons c rest =>
      have hrest : ∀ done gap mark, ParallelReading shift (rest.length + 1)
          (singleQuotedFrom fuel done gap ⟨rest, mark⟩)
          (singleQuotedFrom fuel done gap ⟨rest, mark.moved shift⟩) :=
        fun done gap mark => (ih done gap rest mark).le (Nat.le_succ _)
      rw [singleQuotedFrom, singleQuotedFrom]
      simp only [line_break_moved, Mark.right_moved]
      refine .ite (fun _ => hrest ..) fun _ => .ite (fun _ => (ih ..).le (length_line_break ..))
        fun _ => .ite (fun _ => .none) fun _ => .ite (fun _ => ?_) fun _ => hrest ..
      split
      · exact (ih ..).le (Nat.le_add_right _ 2)
      · exact .some _ (Nat.le_succ _)

/-- So is a whole scalar in single quotes. -/
theorem single_quoted_parallel (cursor : Cursor) :
    ParallelReading shift cursor.text.length (singleQuoted cursor)
      (singleQuoted (cursor.moved shift)) := single_quoted_from_parallel ..

/-! ## Block scalars -/

/-- The rest of a line is passed over in the same way further down. -/
theorem rest_of_line_parallel (cursor : Cursor) :
    Parallel (Cursor.moved shift) (fun behind => behind.text.length ≤ cursor.text.length)
      (restOfLine cursor) (restOfLine (cursor.moved shift)) := by
  simp only [restOfLine, Cursor.skip_while_moved, Cursor.text_moved, Cursor.mark_moved,
    ← apply_ite (Cursor.moved shift), line_break_moved]
  have hblanks : (cursor.skipWhile isBlank).text.length ≤ cursor.text.length := length_right ..
  generalize cursor.skipWhile isBlank = blanks at hblanks ⊢
  have hcomment : (if blanks.text.head? = some '#' then blanks.skipWhile fun c => !isBreak c
      else blanks).text.length ≤ blanks.text.length := by
    split
    · exact length_right ..
    · exact Nat.le_refl _
  refine .ite (fun _ => .some _ ?_) fun _ => .none
  exact Nat.le_trans (length_line_break ..) (Nat.le_trans hcomment hblanks)

/-- Empty lines are passed over in the same way, and the same indentation is found in them. -/
theorem empty_lines_parallel (margin indent widest : Nat) (done : List Char) (mark : Mark)
    (text : List Char) :
    Parallel (fun (empties, indent, behind) => (empties, indent, behind.moved shift))
      (fun (_, _, behind) => behind.text.length ≤ text.length)
      (emptyLines margin indent widest done mark text)
      (emptyLines margin indent widest done (mark.moved shift) text) := by
  match text with
  | [] => exact .some _ (Nat.le_refl _)
  | c :: rest =>
    rw [emptyLines.eq_def, emptyLines.eq_def margin indent widest done (mark.moved shift)]
    refine .ite (fun _ => ?_) fun _ => .ite (fun _ => .none) fun _ => .ite (fun _ => ?_) fun _ =>
      .some _ (Nat.le_refl _)
    · rw [Mark.right_moved]
      exact (empty_lines_parallel ..).le (Nat.le_succ _)
    · simp only [Mark.new_line_moved]
      split
      · exact (empty_lines_parallel ..).le (Nat.le_add_right _ 2)
      · exact (empty_lines_parallel ..).le (Nat.le_succ _)
termination_by text.length

/-- The lines of a block scalar are read in the same way further down. -/
theorem block_lines_parallel (literal : Bool) (chomping : Chomping) (margin indent fuel : Nat)
    (done last empties : List Char) (blankBefore : Bool) (cursor : Cursor) :
    ParallelReading shift cursor.text.length
      (blockLines literal chomping margin indent fuel done last empties blankBefore cursor)
      (blockLines literal chomping margin indent fuel done last empties blankBefore
        (cursor.moved shift)) := by
  induction fuel generalizing done last empties blankBefore cursor with
  | zero => exact .none
  | succ fuel ih =>
    simp only [blockLines, Cursor.text_moved, Cursor.mark_moved, Mark.column_moved,
      Cursor.right_moved, line_break_moved]
    have hline := length_right cursor (cursor.text.takeWhile fun c => !isBreak c).length
    generalize cursor.right _ = behind at hline ⊢
    have hbehind := Nat.le_trans (length_line_break behind.text behind.mark) hline
    have hempty := @empty_lines_parallel shift margin indent 0 []
      (lineBreak behind.text behind.mark).2.2 (lineBreak behind.text behind.mark).2.1
    split
    · refine .ite (fun _ => ?_) fun _ => .some _ (Nat.le_refl _)
      generalize emptyLines _ _ _ _ (lineBreak _ _).2.2 _ = lines at hempty ⊢
      generalize emptyLines _ _ _ _ (Mark.moved _ _) _ = others at hempty ⊢
      cases hempty with
      | none => exact .none
      | some result hleft => exact (ih ..).le (Nat.le_trans hleft hbehind)
    · exact .some _ (Nat.le_refl _)

/-- So is a whole block scalar, from its indicators on. -/
theorem block_scalar_parallel (literal : Bool) (margin : Nat) (cursor : Cursor) :
    ParallelReading shift cursor.text.length (blockScalar literal margin cursor)
      (blockScalar literal margin (cursor.moved shift)) := by
  refine .bind_same _ fun (chomping, increment, rest) => ?_
  show Parallel _ _ (restOfLine _ >>= _) (restOfLine ((cursor.moved shift).right _) >>= _)
  rw [Cursor.right_moved]
  refine (rest_of_line_parallel _).bind fun behind hbehind => ?_
  refine (empty_lines_parallel ..).bind fun lines hlines => ?_
  refine (block_lines_parallel ..).le ?_
  exact Nat.le_trans hlines (Nat.le_trans hbehind (length_right ..))

/-! ## Anchors, tags and directives -/

/-- The name of an anchor or an alias is read in the same way further down. -/
theorem anchor_name_parallel (cursor : Cursor) :
    ParallelReading shift cursor.text.length (anchorName cursor)
      (anchorName (cursor.moved shift)) := by
  simp only [anchorName, Cursor.text_moved, Cursor.right_moved]
  exact .ite (fun _ => .none) fun _ => .some _ (length_right ..)

/-- So are the characters of a tag. -/
theorem uri_parallel (verbatim : Bool) (cursor : Cursor) :
    ParallelReading shift cursor.text.length (uri verbatim cursor)
      (uri verbatim (cursor.moved shift)) := by
  refine .bind_same _ fun (bytes, rest) => ?_
  simp only [Cursor.text_moved, Cursor.right_moved]
  exact .some _ (length_right ..)

/-- So is the handle of a tag, which takes a character at least. -/
theorem tag_handle_parallel (cursor : Cursor) :
    ParallelReading shift (cursor.text.length - 1) (tagHandle cursor)
      (tagHandle (cursor.moved shift)) := by
  simp only [tagHandle, Cursor.text_moved, Cursor.right_moved, Nat.add_comm 1]
  have hright := length_right_succ cursor
  split
  · exact .ite (fun _ => .some _ (Nat.le_trans (length_right ..) (hright _))) fun _ =>
      .some _ (hright _)
  · exact .none

/-- So is a number of a version. -/
theorem version_number_parallel (cursor : Cursor) :
    ParallelReading shift cursor.text.length (versionNumber cursor)
      (versionNumber (cursor.moved shift)) := by
  simp only [versionNumber, Cursor.text_moved, Cursor.right_moved]
  exact .ite (fun _ => .none) fun _ => .some _ (length_right ..)

/-- A tag takes at least one character. -/
theorem tag_parallel (flow : Bool) (cursor : Cursor) :
    ParallelReading shift (cursor.text.length - 1) (tag flow cursor)
      (tag flow (cursor.moved shift)) := by
  simp only [tag, Cursor.text_moved, Cursor.right_moved]
  -- All kinds of tags have to be closed by the same characters.
  have hclosed : ∀ (token : Token) (behind : Cursor),
      behind.text.length ≤ cursor.text.length - 1 →
      ParallelReading shift (cursor.text.length - 1)
        (if atGap behind.text || (flow && behind.text.head? = some ',') then some (token, behind)
          else none)
        (if atGap behind.text || (flow && behind.text.head? = some ',') then
          some (token, behind.moved shift) else none) :=
    fun token behind h => .ite (fun _ => .some (token, behind) h) fun _ => .none
  refine .ite (fun _ => ?_) fun _ => ?_
  · refine (uri_parallel true _).bind fun (bytes, behind) hbehind => ?_
    refine .ite (fun _ => .none) fun _ => ?_
    rw [Cursor.right_moved]
    exact hclosed _ _
      (Nat.le_trans (length_right ..) (Nat.le_trans hbehind (length_right_succ cursor 1)))
  · refine (tag_handle_parallel cursor).bind fun (handle, behind) hbehind => ?_
    refine .ite (fun _ => ?_) fun _ => ?_
    · refine (uri_parallel false behind).bind fun (bytes, last) hlast => ?_
      exact .ite (fun _ => .none) fun _ => hclosed _ _ (Nat.le_trans hlast hbehind)
    · refine (uri_parallel false behind).bind fun (bytes, last) hlast => ?_
      exact .ite (fun _ => hclosed _ _ (Nat.le_trans hlast hbehind)) fun _ =>
        hclosed _ _ (Nat.le_trans hlast hbehind)

/-- So is a directive. -/
theorem directive_parallel (cursor : Cursor) :
    ParallelReading shift cursor.text.length (directive cursor)
      (directive (cursor.moved shift)) := by
  simp only [directive, Cursor.text_moved, Cursor.right_moved, Cursor.skip_while_moved]
  have hname := length_right cursor (cursor.text.takeWhile isWordChar).length
  generalize cursor.right _ = name at hname ⊢
  have hvalue : (name.skipWhile isBlank).text.length ≤ cursor.text.length :=
    Nat.le_trans (length_right ..) hname
  refine .ite (fun _ => .none) fun _ => .ite (fun _ => ?_) fun _ => .ite (fun _ => ?_) fun _ =>
    .none
  · refine (version_number_parallel _).bind fun major hmajor => .ite (fun _ => .none) fun _ => ?_
    rw [Cursor.right_moved]
    refine (version_number_parallel _).bind fun minor hminor => ?_
    refine (rest_of_line_parallel _).bind fun last hlast => .some _ ?_
    exact Nat.le_trans hlast (Nat.le_trans hminor
      (Nat.le_trans (length_right ..) (Nat.le_trans hmajor hvalue)))
  · refine (tag_handle_parallel _).bind fun handle hhandle => .ite (fun _ => .none) fun _ => ?_
    rw [Cursor.skip_while_moved]
    refine (uri_parallel true _).bind fun stem hstem => .ite (fun _ => .none) fun _ => ?_
    refine (rest_of_line_parallel _).bind fun last hlast => .some _ ?_
    exact Nat.le_trans hlast (Nat.le_trans hstem
      (Nat.le_trans (length_right ..) (Nat.le_trans hhandle (Nat.le_trans (Nat.sub_le ..) hvalue))))

end StorageBackend.Yaml
