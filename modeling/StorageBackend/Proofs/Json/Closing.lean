import StorageBackend.Proofs.Json.Extent
import StorageBackend.Proofs.Json.FreeValue

/-!
# Lists and objects end with their own ends

A list ends with its bracket and an object with its brace, so the readers of both look no further
than their own end, and neither does the passing over a value that nobody asks for. The main
statements are `skip_value_passes` and `record_closes`: a record in braces ends with its closing
brace, whatever follows.
-/

namespace StorageBackend.Json

open Schema (Field Format)
open Text (isDigit)

variable {α β σ : Type}

/-! ## Between parts -/

/-- A way of passing over a text up to the character `mark`, whatever follows it. -/
def Marks (mark : Char) (pass : List Char → Except Error (List Char)) : Prop :=
  ∀ ⦃text rest⦄, pass text = .ok rest →
    mark :: rest <:+ text ∧ ∀ more, pass (text ++ more) = .ok (rest ++ more)

/-- Another item is found with more text behind as well, and so is the end of a list. -/
theorem next_item_more {first : Bool} {text : List Char} {found : Option (List Char)}
    (h : nextItem first text = .ok found) (more : List Char) :
    nextItem first (text ++ more) = .ok (found.map (· ++ more)) ∧
      ∀ item ∈ found, item <:+ text := by
  unfold nextItem at h
  split at h
  · cases h
  rename_i c others hskip
  have hsuffix := suffix_of_skip_space hskip
  rw [nextItem, skip_space_more hskip]
  simp only
  split at h
  · rename_i hclose
    cases h
    exact ⟨if_pos hclose, nofun⟩
  rename_i hclose
  rw [if_neg hclose]
  split at h
  · rename_i hfirst
    cases h
    refine ⟨if_pos hfirst, ?_⟩
    rintro item ⟨⟩
    exact hsuffix
  rename_i hfirst
  rw [if_neg hfirst]
  split at h
  · rename_i hcomma
    split at h
    · cases h
    rename_i d others hbehind
    split at h
    · cases h
    rename_i hend
    cases h
    rw [if_pos hcomma, skip_space_more hbehind]
    refine ⟨if_neg hend, ?_⟩
    rintro item ⟨⟩
    exact ((suffix_of_skip_space hbehind).trans (List.suffix_cons c _)).trans hsuffix
  · cases h

/-- Another key is found with more text behind as well, and so is the end of an object. -/
theorem next_key_more {first : Bool} {text : List Char} {found : Option (List Char)}
    (h : nextKey first text = .ok found) (more : List Char) :
    nextKey first (text ++ more) = .ok (found.map (· ++ more)) ∧
      ∀ key ∈ found, key <:+ text := by
  unfold nextKey at h
  split at h
  · cases h
  rename_i c others hskip
  have hsuffix := suffix_of_skip_space hskip
  rw [nextKey, skip_space_more hskip]
  simp only
  split at h
  · rename_i hclose
    cases h
    exact ⟨if_pos hclose, nofun⟩
  rename_i hclose
  rw [if_neg hclose]
  split at h
  · rename_i hfirst
    rw [if_pos hfirst]
    split at h
    · rename_i hquote
      cases h
      refine ⟨if_pos hquote, ?_⟩
      rintro key ⟨⟩
      exact (List.suffix_cons c _).trans hsuffix
    · cases h
  rename_i hfirst
  rw [if_neg hfirst]
  split at h
  · rename_i hcomma
    split at h
    · cases h
    rename_i d others hbehind
    split at h
    · rename_i hquote
      cases h
      rw [if_pos hcomma, skip_space_more hbehind]
      refine ⟨if_pos hquote, ?_⟩
      rintro key ⟨⟩
      exact (((List.suffix_cons d _).trans (suffix_of_skip_space hbehind)).trans
        (List.suffix_cons c _)).trans hsuffix
    · split at h
      · cases h
      · cases h
  · cases h

/-- A way of passing over space up to the character `mark`, and over nothing else. -/
theorem marks_of_eq {mark : Char} {pass : List Char → Except Error (List Char)} (empty : Error)
    (other : Char → List Char → Error)
    (hpass : ∀ text, pass text =
      match skipSpace text with
      | [] => .error empty
      | c :: rest => if c = mark then .ok rest else .error (other c rest)) : Marks mark pass := by
  intro text rest h
  rw [hpass] at h
  split at h
  · cases h
  rename_i c others hskip
  split at h
  · rename_i hmark
    cases h
    subst hmark
    refine ⟨suffix_of_skip_space hskip, fun more => ?_⟩
    rw [hpass, skip_space_more hskip]
    exact if_pos rfl
  · cases h

/-- The end of a list is passed over up to its bracket. -/
theorem list_end_marks : Marks ']' listEnd := by
  refine marks_of_eq .endOfList
    (fun c rest =>
      if c = ',' then
        (if (skipSpace rest).head? = some ']' then .trailingComma else .trailingCharacters)
      else .trailingCharacters) fun text => ?_
  unfold listEnd
  cases skipSpace text with
  | nil => rfl
  | cons c rest => simp only [apply_ite Except.error]

/-- The end of an object is passed over up to its brace. -/
theorem object_end_marks : Marks '\x7d' objectEnd := by
  refine marks_of_eq .endOfObject
    (fun c _ => if c = ',' then .trailingComma else .trailingCharacters) fun text => ?_
  unfold objectEnd
  cases skipSpace text with
  | nil => rfl
  | cons c rest => simp only [apply_ite Except.error]

/-- What is behind a key is passed over up to the colon. -/
theorem colon_marks : Marks ':' colon :=
  marks_of_eq .endOfObject (fun _ _ => .expectedColon) fun _ => rfl

/-! ## Items and members -/

/-- The items of a list are read up to its end, whatever follows. More fuel does not matter. -/
theorem items_from_closes {item : Scan α} (hitem : Steady item) {fuel : Nat} {first : Bool}
    {text rest : List Char} {values : List α}
    (h : itemsFrom item fuel first text = .ok (values, rest)) :
    ']' :: rest <:+ text ∧ ∀ more enough, fuel ≤ enough →
      itemsFrom item enough first (text ++ more) = .ok (values, rest ++ more) := by
  induction fuel generalizing first text values with
  | zero => cases h
  | succ fuel ih =>
    obtain ⟨found, hfound, h⟩ := exists_of_bind_eq_ok h
    cases found with
    | none =>
      obtain ⟨behind, hend, h⟩ := exists_of_bind_eq_ok h
      cases h
      obtain ⟨hsuffix, hmore⟩ := list_end_marks hend
      refine ⟨hsuffix, fun more enough hfuel => ?_⟩
      obtain ⟨enough, rfl⟩ := Nat.exists_eq_add_of_le' hfuel
      rw [← Nat.add_assoc, itemsFrom, (next_item_more hfound more).1]
      exact bind_of_eq_ok (hmore more) _
    | some start =>
      obtain ⟨⟨value, middle⟩, hvalue, h⟩ := exists_of_bind_eq_ok h
      obtain ⟨⟨others, behind⟩, hothers, h⟩ := exists_of_bind_eq_ok h
      cases h
      obtain ⟨hclose, hrest⟩ := ih hothers
      obtain ⟨hleft, hread⟩ := hitem hvalue
      have hstart := (next_item_more hfound []).2 start rfl
      refine ⟨(hclose.trans hleft).trans hstart, fun more enough hfuel => ?_⟩
      obtain ⟨enough, rfl⟩ := Nat.exists_eq_add_of_le' hfuel
      rw [← Nat.add_assoc, itemsFrom, (next_item_more hfound more).1]
      have hkept : _ ≠ [] := ne_nil_of_suffix hclose (List.cons_ne_nil _ _)
      refine (bind_of_eq_ok (hread hkept more) _).trans ?_
      exact bind_of_eq_ok (hrest more (enough + fuel) (Nat.le_add_left fuel enough)) _

/-- A list ends with its closing bracket. -/
theorem items_closes {item : Scan α} (hitem : Steady item) : Closes ']' (items item) := by
  intro text values rest h
  obtain ⟨hclose, hmore⟩ := items_from_closes hitem h
  refine ⟨hclose, fun more => hmore more _ ?_⟩
  rw [List.length_append]
  omega

/-- The members of an object are read up to its end, whatever follows, if the reader of each member
looks no further than it has to. More fuel does not matter. -/
theorem members_from_closes {member : σ → String → Except Error (Scan σ)}
    (hmember : ∀ state key read, member state key = .ok read → Steady read) {fuel : Nat}
    {first : Bool} {state final : σ} {text rest : List Char}
    (h : membersFrom member fuel first state text = .ok (final, rest)) :
    '\x7d' :: rest <:+ text ∧ ∀ more enough, fuel ≤ enough →
      membersFrom member enough first state (text ++ more) = .ok (final, rest ++ more) := by
  induction fuel generalizing first state text with
  | zero => cases h
  | succ fuel ih =>
    obtain ⟨found, hfound, h⟩ := exists_of_bind_eq_ok h
    cases found with
    | none =>
      obtain ⟨behind, hend, h⟩ := exists_of_bind_eq_ok h
      cases h
      obtain ⟨hsuffix, hmore⟩ := object_end_marks hend
      refine ⟨hsuffix, fun more enough hfuel => ?_⟩
      obtain ⟨enough, rfl⟩ := Nat.exists_eq_add_of_le' hfuel
      rw [← Nat.add_assoc, membersFrom, (next_key_more hfound more).1]
      exact bind_of_eq_ok (hmore more) _
    | some start =>
      obtain ⟨⟨key, behindKey⟩, hkey, h⟩ := exists_of_bind_eq_ok h
      obtain ⟨read, hread, h⟩ := exists_of_bind_eq_ok h
      obtain ⟨behindColon, hcolon, h⟩ := exists_of_bind_eq_ok h
      obtain ⟨⟨next, behind⟩, hvalue, h⟩ := exists_of_bind_eq_ok h
      obtain ⟨hclose, hrest⟩ := ih h
      obtain ⟨hleft, hvalueMore⟩ := hmember _ _ _ hread hvalue
      obtain ⟨hcolonSuffix, hcolonMore⟩ := colon_marks hcolon
      obtain ⟨hkeySuffix, hkeyMore⟩ := string_tail_closes hkey
      have hstart := (next_key_more hfound []).2 start rfl
      have hsuffix : behind <:+ text :=
        (((hleft.trans ((List.suffix_cons _ _).trans hcolonSuffix)).trans
          ((List.suffix_cons _ _).trans hkeySuffix))).trans hstart
      refine ⟨hclose.trans hsuffix, fun more enough hfuel => ?_⟩
      obtain ⟨enough, rfl⟩ := Nat.exists_eq_add_of_le' hfuel
      rw [← Nat.add_assoc, membersFrom, (next_key_more hfound more).1]
      refine (bind_of_eq_ok (hkeyMore more) _).trans ?_
      refine (bind_of_eq_ok hread _).trans ?_
      refine (bind_of_eq_ok (hcolonMore more) _).trans ?_
      have hleftover : behind ≠ [] := ne_nil_of_suffix hclose (List.cons_ne_nil _ _)
      refine (bind_of_eq_ok (hvalueMore hleftover more) _).trans ?_
      exact hrest more (enough + fuel) (Nat.le_add_left fuel enough)

/-- An object ends with its closing brace. -/
theorem members_closes {member : σ → String → Except Error (Scan σ)}
    (hmember : ∀ state key read, member state key = .ok read → Steady read) (initial : σ) :
    Closes '\x7d' (members member initial) := by
  intro text final rest h
  obtain ⟨hclose, hmore⟩ := members_from_closes hmember h
  refine ⟨hclose, fun more => hmore more _ ?_⟩
  rw [List.length_append]
  omega

/-! ## Values that nobody asks for -/

/-- A key is passed over with its colon. -/
theorem skip_key_passes (frame : Frame) : Passes frame.skipKey := by
  intro text rest h
  cases frame with
  | list =>
    cases h
    exact ⟨List.suffix_rfl, fun _ _ => rfl⟩
  | object =>
    unfold Frame.skipKey at h
    simp only at h
    split at h
    · cases h
    rename_i c others hskip
    split at h
    · rename_i hquote
      obtain ⟨behindKey, hkey, hcolon⟩ := exists_of_bind_eq_ok h
      obtain ⟨hcolonSuffix, hcolonMore⟩ := colon_marks hcolon
      obtain ⟨hkeySuffix, hkeyMore⟩ := skip_string_passes hkey
      refine ⟨((((List.suffix_cons _ _).trans hcolonSuffix).trans hkeySuffix).trans
        (List.suffix_cons c _)).trans (suffix_of_skip_space hskip), fun _ more => ?_⟩
      rw [Frame.skipKey, skip_space_more hskip]
      refine (if_pos hquote).trans ?_
      have hleftover := ne_nil_of_suffix hcolonSuffix (List.cons_ne_nil _ _)
      refine (bind_of_eq_ok (hkeyMore hleftover more) _).trans ?_
      exact hcolonMore more
    · cases h

/-- The rest of a value is passed over, and left the same with more text behind it. -/
def SkipsOn (fuel : Nat) (stage : Stage) (frames : List Frame) : Prop :=
  ∀ ⦃text rest⦄, skipFrom fuel stage frames text = .ok rest →
    rest <:+ text ∧ (rest ≠ [] → ∀ more enough, fuel ≤ enough →
      skipFrom enough stage frames (text ++ more) = .ok (rest ++ more))

/-- A step that passes over something and leaves the rest to the steps after it. -/
theorem SkipsOn.step {fuel : Nat} {stage next : Stage} {frames inner : List Frame}
    (hskips : SkipsOn fuel next inner) {pass : List Char → Except Error (List Char)}
    (hpass : Passes pass) {text start rest : List Char} (hstart : start <:+ text)
    (h : (pass start >>= skipFrom fuel next inner) = .ok rest)
    (hstep : ∀ enough more, skipFrom (enough + 1) stage frames (text ++ more) =
      (pass (start ++ more) >>= skipFrom enough next inner)) :
    rest <:+ text ∧ (rest ≠ [] → ∀ more enough, fuel + 1 ≤ enough →
      skipFrom enough stage frames (text ++ more) = .ok (rest ++ more)) := by
  obtain ⟨behind, hpassed, h⟩ := exists_of_bind_eq_ok h
  obtain ⟨hsuffix, hmore⟩ := hpass hpassed
  obtain ⟨hrest, hskip⟩ := hskips h
  refine ⟨(hrest.trans hsuffix).trans hstart, fun hne more enough hfuel => ?_⟩
  obtain ⟨enough, rfl⟩ := Nat.exists_eq_add_of_le' hfuel
  rw [← Nat.add_assoc, hstep, bind_of_eq_ok (hmore (ne_nil_of_suffix hrest hne) more)]
  exact hskip hne more (enough + fuel) (Nat.le_add_left fuel enough)

/-- Passing over nothing leaves the whole text. -/
theorem ok_passes : Passes .ok := by
  rintro text rest ⟨⟩
  exact ⟨List.suffix_rfl, fun _ _ => rfl⟩

/-- A text that needs no more to be passed over. -/
theorem skips_on_outside (fuel : Nat) {stage : Stage}
    (hstage : ∀ fuel text, skipFrom (fuel + 1) stage [] text = .ok text) :
    SkipsOn (fuel + 1) stage [] := by
  intro text rest h
  rw [hstage] at h
  cases h
  refine ⟨List.suffix_rfl, fun _ more enough hfuel => ?_⟩
  obtain ⟨enough, rfl⟩ := Nat.exists_eq_add_of_le' hfuel
  rw [← Nat.add_assoc, hstage]

/-- A value that nobody asks for is passed over the same with more text behind it: a number, a word
or a string at once, a list or an object by the steps that follow its opening. -/
theorem skips_on_value {fuel : Nat} {frames : List Frame}
    (ih : ∀ stage frames, SkipsOn fuel stage frames) : SkipsOn (fuel + 1) .value frames := by
  intro text rest h
  rw [skipFrom] at h
  split at h
  · cases h
  rename_i c others hskip
  have htext := suffix_of_skip_space hskip
  have hothers := (List.suffix_cons c others).trans htext
  have hstep : ∀ enough more, skipFrom (enough + 1) .value frames (text ++ more) =
      if c = 'n' then nameTail ['u', 'l', 'l'] (others ++ more) >>= skipFrom enough .after frames
      else if c = 't' then
        nameTail ['r', 'u', 'e'] (others ++ more) >>= skipFrom enough .after frames
      else if c = 'f' then
        nameTail ['a', 'l', 's', 'e'] (others ++ more) >>= skipFrom enough .after frames
      else if c = '-' then skipNumber (others ++ more) >>= skipFrom enough .after frames
      else if isDigit c then skipNumber (c :: others ++ more) >>= skipFrom enough .after frames
      else if c = '"' then skipString (others ++ more) >>= skipFrom enough .after frames
      else if c = '[' then skipFrom enough .opened (.list :: frames) (others ++ more)
      else if c = '\x7b' then skipFrom enough .opened (.object :: frames) (others ++ more)
      else .error .expectedValue := by
    intro enough more
    rw [skipFrom, skip_space_more hskip]
    rfl
  split_ifs at h hstep
  · exact (ih _ _).step (name_tail_passes _) hothers h hstep
  · exact (ih _ _).step (name_tail_passes _) hothers h hstep
  · exact (ih _ _).step (name_tail_passes _) hothers h hstep
  · exact (ih _ _).step skip_number_passes hothers h hstep
  · exact (ih _ _).step skip_number_passes htext h hstep
  · exact (ih _ _).step skip_string_passes hothers h hstep
  · exact (ih _ _).step ok_passes hothers h hstep
  · exact (ih _ _).step ok_passes hothers h hstep

/-- So is what follows the opening of a list or an object: its end, or its first part. -/
theorem skips_on_opened {fuel : Nat} {frames : List Frame}
    (ih : ∀ stage frames, SkipsOn fuel stage frames) : SkipsOn (fuel + 1) .opened frames := by
  cases frames with
  | nil => exact skips_on_outside fuel fun _ _ => rfl
  | cons frame outer =>
    intro text rest h
    rw [skipFrom] at h
    split at h
    · cases h
    rename_i c others hskip
    have htext := suffix_of_skip_space hskip
    have hothers := (List.suffix_cons c others).trans htext
    have hstep : ∀ enough more, skipFrom (enough + 1) .opened (frame :: outer) (text ++ more) =
        if c = frame.closing then skipFrom enough .after outer (others ++ more)
        else frame.skipKey (c :: others ++ more) >>= skipFrom enough .value (frame :: outer) := by
      intro enough more
      rw [skipFrom, skip_space_more hskip]
      rfl
    split_ifs at h hstep
    · exact (ih _ _).step ok_passes hothers h hstep
    · exact (ih _ _).step (skip_key_passes frame) htext h hstep

/-- So is what follows a part: the end of the innermost list or object, or its next part. -/
theorem skips_on_after {fuel : Nat} {frames : List Frame}
    (ih : ∀ stage frames, SkipsOn fuel stage frames) : SkipsOn (fuel + 1) .after frames := by
  cases frames with
  | nil => exact skips_on_outside fuel fun _ _ => rfl
  | cons frame outer =>
    intro text rest h
    rw [skipFrom] at h
    split at h
    · cases h
    rename_i c others hskip
    have hothers := (List.suffix_cons c others).trans (suffix_of_skip_space hskip)
    have hstep : ∀ enough more, skipFrom (enough + 1) .after (frame :: outer) (text ++ more) =
        if c = ',' then
          frame.skipKey (others ++ more) >>= skipFrom enough .value (frame :: outer)
        else if c = frame.closing then skipFrom enough .after outer (others ++ more)
        else .error frame.commaOrEnd := by
      intro enough more
      rw [skipFrom, skip_space_more hskip]
    split_ifs at h hstep
    · exact (ih _ _).step (skip_key_passes frame) hothers h hstep
    · exact (ih _ _).step ok_passes hothers h hstep

/-- Whatever stage it is at, the passing over a value looks no further than it has to. -/
theorem skips_on (fuel : Nat) (stage : Stage) (frames : List Frame) :
    SkipsOn fuel stage frames := by
  induction fuel generalizing stage frames with
  | zero => exact fun _ _ h => nomatch h
  | succ fuel ih =>
    cases stage with
    | value => exact skips_on_value ih
    | opened => exact skips_on_opened ih
    | after => exact skips_on_after ih

/-- A value that nobody asks for is passed over. -/
theorem skip_value_passes : Passes skipValue := by
  intro text rest h
  obtain ⟨hsuffix, hmore⟩ := skips_on _ _ _ h
  refine ⟨hsuffix, fun hrest more => hmore hrest more _ ?_⟩
  rw [List.length_append]
  omega

/-! ## Values of any shape -/

/-- Reading on behind what a steady reader has read. -/
theorem Steady.map {read : Scan α} (h : Steady read) (f : α → β) :
    Steady fun text => read text >>= fun (value, rest) => .ok (f value, rest) := by
  intro text value rest hread
  obtain ⟨⟨found, behind⟩, hfound, hvalue⟩ := exists_of_bind_eq_ok hread
  cases hvalue
  obtain ⟨hsuffix, hmore⟩ := h hfound
  exact ⟨hsuffix, fun hrest more => bind_of_eq_ok (hmore hrest more) _⟩

/-- What is passed over may stand for something. -/
theorem Passes.steady {pass : List Char → Except Error (List Char)} (h : Passes pass) (value : α) :
    Steady fun text => pass text >>= fun rest => .ok (value, rest) := by
  intro text found rest hread
  obtain ⟨behind, hpassed, hvalue⟩ := exists_of_bind_eq_ok hread
  cases hvalue
  obtain ⟨hsuffix, hmore⟩ := h hpassed
  exact ⟨hsuffix, fun hrest more => bind_of_eq_ok (hmore hrest more) _⟩

/-- A reader that goes on with another one behind some space. -/
theorem Steady.behind {read inner : Scan α} (hinner : Steady inner) {text start rest : List Char}
    {value : α} (hstart : start <:+ text) (h : inner start = .ok (value, rest))
    (hread : ∀ more, read (text ++ more) = inner (start ++ more)) :
    rest <:+ text ∧ (rest ≠ [] → ∀ more, read (text ++ more) = .ok (value, rest ++ more)) := by
  obtain ⟨hsuffix, hmore⟩ := hinner h
  exact ⟨hsuffix.trans hstart, fun hrest more => (hread more).trans (hmore hrest more)⟩

/-- A string is read no further than to its closing quote. -/
theorem scan_string_steady (expected : String) : Steady (scanString expected) := by
  intro text value rest h
  rw [scanString] at h
  split at h
  · cases h
  rename_i c others hskip
  split at h
  · rename_i hquote
    refine (string_tail_closes.steady.map String.ofList).behind
      ((List.suffix_cons c others).trans (suffix_of_skip_space hskip)) h fun more => ?_
    rw [scanString, skip_space_more hskip]
    exact if_pos hquote
  · cases h

/-- Null or a value is read no further than to its end. -/
theorem scan_optional_steady {read : Scan α} (hread : Steady read) :
    Steady (scanOptional read) := by
  intro text value rest h
  rw [scanOptional] at h
  split at h
  · obtain ⟨⟨found, behind⟩, hfound, hvalue⟩ := exists_of_bind_eq_ok h
    cases hvalue
    obtain rfl := List.suffix_nil.mp (hread hfound).1
    exact ⟨List.nil_suffix, fun hrest => absurd rfl hrest⟩
  rename_i c others hskip
  have htext := suffix_of_skip_space hskip
  split at h
  · rename_i hnull
    refine ((name_tail_passes ['u', 'l', 'l']).steady none).behind
      ((List.suffix_cons c others).trans htext) h fun more => ?_
    rw [scanOptional, skip_space_more hskip]
    exact if_pos hnull
  · rename_i hnull
    refine (hread.map some).behind htext h fun more => ?_
    rw [scanOptional, skip_space_more hskip]
    exact if_neg hnull

/-- The first character behind the space decides how a value is read. -/
theorem value_with_of_skip_space (inner : Option (Scan Value)) {text others : List Char} {c : Char}
    (hskip : skipSpace text = c :: others) :
    valueWith inner text =
      if c = 'n' then nameTail ['u', 'l', 'l'] others >>= fun rest => .ok (.null, rest)
      else if c = 't' then nameTail ['r', 'u', 'e'] others >>= fun rest => .ok (.boolean true, rest)
      else if c = 'f' then
        nameTail ['a', 'l', 's', 'e'] others >>= fun rest => .ok (.boolean false, rest)
      else if c = '-' then number true others >>= fun (n, rest) => .ok (n.toValue, rest)
      else if isDigit c then
        number false (c :: others) >>= fun (n, rest) => .ok (n.toValue, rest)
      else if c = '"' then
        stringTail others >>= fun (content, rest) => .ok (.string (String.ofList content), rest)
      else if c = '[' then
        match inner with
        | none => .error .recursionLimit
        | some inner => items inner others >>= fun (values, rest) => .ok (.array values, rest)
      else if c = '\x7b' then
        match inner with
        | none => .error .recursionLimit
        | some inner =>
          members (insertMember inner) [] others >>= fun (entries, rest) =>
            .ok (.object entries, rest)
      else .error .expectedValue := by
  rw [valueWith, hskip]
  rfl

/-- A value is read like this if the values inside it are. -/
theorem value_with_steady {inner : Option (Scan Value)}
    (hinner : ∀ read, inner = some read → Steady read) : Steady (valueWith inner) := by
  intro text result rest h
  cases hskip : skipSpace text with
  | nil =>
    rw [valueWith, hskip] at h
    cases h
  | cons c others =>
    have htext := suffix_of_skip_space hskip
    have hothers := (List.suffix_cons c others).trans htext
    have hread := fun more => value_with_of_skip_space inner (skip_space_more hskip more)
    rw [value_with_of_skip_space inner hskip] at h
    split_ifs at h hread
    · exact ((name_tail_passes _).steady Value.null).behind hothers h hread
    · exact ((name_tail_passes _).steady (Value.boolean true)).behind hothers h hread
    · exact ((name_tail_passes _).steady (Value.boolean false)).behind hothers h hread
    · exact ((number_steady true).map Number.toValue).behind hothers h hread
    · exact ((number_steady false).map Number.toValue).behind htext h hread
    · exact (string_tail_closes.steady.map fun content => .string (String.ofList content)).behind
        hothers h hread
    · cases inner with
      | none => cases h
      | some inner =>
        exact ((items_closes (hinner inner rfl)).steady.map Value.array).behind hothers h hread
    · cases inner with
      | none => cases h
      | some inner =>
        have hmembers : Closes '\x7d' (members (insertMember inner) []) := by
          refine members_closes ?_ []
          rintro entries key read ⟨⟩
          exact (hinner inner rfl).map fun value => Entries.insert entries key value
        exact (hmembers.steady.map Value.object).behind hothers h hread

/-- A value of any shape is read no further than to its end. -/
theorem value_steady (nesting : Nat) : Steady (value nesting) := by
  induction nesting with
  | zero => exact value_with_steady nofun
  | succ nesting ih =>
    refine value_with_steady ?_
    rintro read ⟨⟩
    exact ih

/-! ## Readers of descriptions -/

/-- A reader that looks no further than it has to, however many lists and objects may be opened. -/
def Reader.Steady (read : Reader α) : Prop := ∀ nesting, Json.Steady (read nesting)

/-- Changing what has been read looks no further. -/
theorem map_steady {read : Reader α} (h : read.Steady) (f : α → β) :
    (Format.map f read : Reader β).Steady := fun nesting => (h nesting).map f

/-- A text is read no further than to its closing quote. -/
theorem text_steady : (Format.text : Reader String).Steady := fun _ => scan_string_steady "a string"

/-- A value of any shape is read so, however deeply it may be nested. -/
theorem free_steady : (Format.free : Reader Value).Steady := value_steady

/-- An optional value is read no further than to its end. -/
theorem optional_steady {read : Reader α} (h : read.Steady) :
    (Format.optional read : Reader (Option α)).Steady :=
  fun nesting => scan_optional_steady (h nesting)

/-- A member of a record is read, or passed over if it is unknown. -/
theorem record_member_steady {fields : List (Field Reader σ)}
    (h : ∀ field ∈ fields, field.read.Steady) (nesting : Nat) (state : σ × List String)
    (key : String) (read : Scan (σ × List String))
    (hread : recordMember fields nesting state key = .ok read) : Json.Steady read := by
  unfold recordMember at hread
  split at hread
  · cases hread
    exact skip_value_passes.steady state
  · rename_i field hfield
    split at hread
    · cases hread
    cases hread
    exact (h field (List.mem_of_find?_eq_some hfield) nesting).map
      fun change => (change state.1, key :: state.2)

/-- A record that is written as a list ends with its closing bracket. -/
theorem record_items_closes {fields : List (Field Reader σ)}
    (h : ∀ field ∈ fields, field.read.Steady) (nesting : Nat) (first : Bool) (state : σ) :
    Closes ']' (recordItems nesting fields first state) := by
  induction fields generalizing first state with
  | nil =>
    intro text value rest hread
    obtain ⟨behind, hend, hvalue⟩ := exists_of_bind_eq_ok hread
    cases hvalue
    obtain ⟨hsuffix, hmore⟩ := list_end_marks hend
    exact ⟨hsuffix, fun more => bind_of_eq_ok (hmore more) _⟩
  | cons field fields ih =>
    intro text value rest hread
    obtain ⟨found, hfound, hread⟩ := exists_of_bind_eq_ok hread
    cases found with
    | none =>
      obtain ⟨behind, hend, hvalue⟩ := exists_of_bind_eq_ok hread
      cases hvalue
      obtain ⟨hsuffix, hmore⟩ := list_end_marks hend
      refine ⟨hsuffix, fun more => ?_⟩
      rw [recordItems, (next_item_more hfound more).1]
      exact bind_of_eq_ok (hmore more) _
    | some start =>
      obtain ⟨⟨change, middle⟩, hchange, hread⟩ := exists_of_bind_eq_ok hread
      obtain ⟨hclose, hrest⟩ :=
        ih (fun field hfield => h field (List.mem_cons_of_mem _ hfield)) _ _ hread
      obtain ⟨hleft, hmore⟩ := h field List.mem_cons_self nesting hchange
      have hstart := (next_item_more hfound []).2 start rfl
      refine ⟨(hclose.trans hleft).trans hstart, fun more => ?_⟩
      rw [recordItems, (next_item_more hfound more).1]
      have hkept : _ ≠ [] := ne_nil_of_suffix hclose (List.cons_ne_nil _ _)
      refine (bind_of_eq_ok (hmore hkept more) _).trans ?_
      exact hrest more

section

variable {fields : List (Field Reader σ)} (h : ∀ field ∈ fields, field.read.Steady) (name : String)
  (initial : σ)

include h

/-- A record in braces ends with its closing brace, whatever follows it. -/
theorem record_closes {nesting : Nat} {text others rest : List Char} {value : σ}
    (hbrace : skipSpace text = '\x7b' :: others)
    (hread : (Format.record name initial fields : Reader σ) nesting text = .ok (value, rest)) :
    '\x7d' :: rest <:+ text ∧ ∀ more,
      (Format.record name initial fields : Reader σ) nesting (text ++ more) =
        .ok (value, rest ++ more) := by
  have hothers := (List.suffix_cons _ _).trans (suffix_of_skip_space hbrace)
  cases nesting with
  | zero =>
    change record name initial fields 0 text = _ at hread
    rw [record, hbrace] at hread
    cases hread
  | succ nesting =>
    have hstep : ∀ more, (Format.record name initial fields : Reader σ) (nesting + 1)
        (text ++ more) =
          (members (recordMember fields nesting) (initial, []) (others ++ more) >>=
            fun found => .ok (found.1.1, found.2)) := by
      intro more
      show record name initial fields (nesting + 1) (text ++ more) = _
      rw [record, skip_space_more hbrace]
      rfl
    have hfirst := hstep []
    rw [List.append_nil, List.append_nil, hread] at hfirst
    obtain ⟨⟨state, behind⟩, hmembers, hvalue⟩ := exists_of_bind_eq_ok hfirst.symm
    cases hvalue
    obtain ⟨hclose, hmore⟩ := members_closes (record_member_steady h nesting) _ hmembers
    exact ⟨hclose.trans hothers, fun more => (hstep more).trans (bind_of_eq_ok (hmore more) _)⟩

/-- A record is read like this if its fields are. -/
theorem record_steady : (Format.record name initial fields : Reader σ).Steady := by
  intro nesting text value rest hread
  cases hskip : skipSpace text with
  | nil =>
    change record name initial fields nesting text = _ at hread
    rw [record, hskip] at hread
    cases hread
  | cons c others =>
    by_cases hbrace : c = '\x7b'
    · subst hbrace
      obtain ⟨hclose, hmore⟩ := record_closes h name initial hskip hread
      exact ⟨(List.suffix_cons _ _).trans hclose, fun _ => hmore⟩
    · change record name initial fields nesting text = _ at hread
      rw [record, hskip] at hread
      by_cases hbracket : c = '['
      · simp only [if_pos hbracket] at hread
        cases nesting with
        | zero => cases hread
        | succ nesting =>
          refine (record_items_closes h nesting true initial).steady.behind
            ((List.suffix_cons c others).trans (suffix_of_skip_space hskip)) hread fun more => ?_
          show record name initial fields (nesting + 1) (text ++ more) = _
          rw [record, skip_space_more hskip]
          exact if_pos hbracket
      · simp only [if_neg hbracket, if_neg hbrace] at hread
        cases hread

end

end StorageBackend.Json
