import StorageBackend.Proofs.Json.Term

/-!
# Values that are passed over

The reader that passes over values goes from the beginning of every term to what is behind it,
however deep the term is (`skip_value_renders`). It takes less than two steps for each character, so
its fuel is enough. `Passed` says this for a part of a text inside frames that are not closed yet;
the three theorems on terms, items and members follow the structure of the text.
-/

namespace StorageBackend.Json

open Text (isDigit)

/-- What comes next inside a frame: its first part or another one, or its end. -/
def Stage.inside (first : Bool) : Stage := if first then .opened else .after

/-- A text that is passed over from a stage on, with the frames that are closed in it. -/
def Passed (stage : Stage) (opened : List Frame) (text : List Char) : Prop :=
  ∃ steps, steps < 2 * text.length ∧ ∀ fuel frames rest, Apart rest →
    skipFrom (fuel + steps) stage (opened ++ frames) (text ++ rest) =
      skipFrom fuel .after frames rest

/-! ## What stands behind a value -/

/-- Space and what may stand behind a value may stand behind it together. -/
theorem apart_space {space : List Char} (h : IsSpace space) {text : List Char}
    (htext : Apart text) : Apart (space ++ text) := by
  cases space with
  | nil => exact htext
  | cons c space =>
    rintro d ⟨⟩
    exact .inl (h c List.mem_cons_self)

/-- A comma or the end of a list or an object may stand behind a value. -/
theorem apart_close {c : Char} (h : c ∈ [',', ']', '\x7d']) (rest : List Char) :
    Apart (c :: rest) := by
  rintro d ⟨⟩
  exact .inr h

/-- White space may stand behind a value. -/
theorem apart_of_is_space {space : List Char} (h : IsSpace space) : Apart space :=
  fun c hc => .inl (h c (List.mem_of_mem_head? hc))

/-- What leads to a further item may stand behind a value. -/
theorem apart_lead {lead : List Char} (h : Lead false lead) (text : List Char) :
    Apart (lead ++ text) := by
  cases h with
  | next before after hbefore hafter =>
    rw [List.append_assoc]
    exact apart_space hbefore (apart_close (by decide) _)

/-- Further items and the end of the list may stand behind a value. -/
theorem RendersItems.apart {items : List Term} {text : List Char}
    (h : RendersItems false items text) (rest : List Char) : Apart (text ++ rest) := by
  cases h with
  | close _ space hspace =>
    rw [List.append_assoc]
    exact apart_space hspace (apart_close (by decide) _)
  | item _ term items lead value text hlead _ _ =>
    rw [List.append_assoc]
    exact apart_lead hlead _

/-- Further members and the end of the object may stand behind a value. -/
theorem RendersMembers.apart {members : List (String × Term)} {text : List Char}
    (h : RendersMembers false members text) (rest : List Char) : Apart (text ++ rest) := by
  cases h with
  | close _ space hspace =>
    rw [List.append_assoc]
    exact apart_space hspace (apart_close (by decide) _)
  | member _ key term members lead spelling before after value text hlead _ _ _ _ _ =>
    rw [List.append_assoc]
    exact apart_lead hlead _

/-! ## Steps -/

/-- The end of a frame is found behind any space. -/
theorem skip_close {space : List Char} (h : IsSpace space) (frame : Frame) (first : Bool)
    (fuel : Nat) (frames : List Frame) (rest : List Char) :
    skipFrom (fuel + 1) (.inside first) (frame :: frames) (space ++ frame.closing :: rest) =
      skipFrom fuel .after frames rest := by
  have hclosing : isSpace frame.closing = false ∧ frame.closing ≠ ',' := by
    cases frame with
    | list => exact ⟨rfl, nofun⟩
    | object => exact ⟨rfl, nofun⟩
  cases first with
  | true =>
    show skipFrom (fuel + 1) .opened _ _ = _
    rw [skipFrom, skip_space_append h hclosing.1]
    exact if_pos rfl
  | false =>
    show skipFrom (fuel + 1) .after _ _ = _
    rw [skipFrom, skip_space_append h hclosing.1]
    exact (if_neg hclosing.2).trans (if_pos rfl)

/-- An item is found behind what stands in front of it. -/
theorem skip_item_lead {first : Bool} {lead : List Char} (h : Lead first lead) :
    ∃ space, IsSpace space ∧ space.length ≤ lead.length ∧
      ∀ fuel frames c text, isSpace c = false → c ≠ ']' →
        skipFrom (fuel + 1) (.inside first) (.list :: frames) (lead ++ c :: text) =
          skipFrom fuel .value (.list :: frames) (space ++ c :: text) := by
  cases h with
  | first space hspace =>
    refine ⟨[], space_nil, Nat.zero_le _, fun fuel frames c text hc hend => ?_⟩
    show skipFrom (fuel + 1) .opened _ _ = _
    rw [skipFrom, skip_space_append hspace hc]
    exact if_neg hend
  | next before after hbefore hafter =>
    refine ⟨after, hafter, ?_, fun fuel frames c text _ _ => ?_⟩
    · simp only [List.length_append, List.length_cons]
      omega
    · show skipFrom (fuel + 1) .after _ _ = _
      rw [skipFrom, List.append_assoc, List.cons_append, skip_space_append hbefore rfl]
      exact if_pos rfl

/-- The key of a member is passed over together with what stands around it. -/
theorem skip_member_key {first : Bool} {lead key spelling before : List Char}
    (hlead : Lead first lead) (hkey : Spells key spelling) (hbefore : IsSpace before) (fuel : Nat)
    (frames : List Frame) (text : List Char) :
    skipFrom (fuel + 1) (.inside first) (.object :: frames)
        (lead ++ '"' :: (spelling ++ '"' :: (before ++ ':' :: text))) =
      skipFrom fuel .value (.object :: frames) text := by
  have hskip : ∀ {space : List Char}, IsSpace space →
      Frame.skipKey .object (space ++ '"' :: (spelling ++ '"' :: (before ++ ':' :: text))) =
        .ok text := by
    intro space hspace
    rw [Frame.skipKey, skip_space_append hspace rfl]
    show (skipString _ >>= colon) = _
    rw [skip_string_spells hkey]
    exact colon_append hbefore text
  cases hlead with
  | first space hspace =>
    show skipFrom (fuel + 1) .opened _ _ = _
    rw [skipFrom, skip_space_append hspace rfl]
    refine (if_neg nofun).trans ?_
    have hkeySkipped := hskip space_nil
    rw [List.nil_append] at hkeySkipped
    rw [hkeySkipped]
    rfl
  | next lead after hlead hafter =>
    show skipFrom (fuel + 1) .after _ _ = _
    rw [skipFrom, List.append_assoc, List.cons_append, skip_space_append hlead rfl]
    refine (if_pos rfl).trans ?_
    rw [hskip hafter]
    rfl

/-! ## Terms, items and members -/

/-- A part of a frame is passed over after what stands in front of it, and then the others. -/
theorem Passed.part {stage : Stage} {frame : Frame} {value text whole : List Char}
    (hvalue : Passed .value [] value) (hrest : Passed .after [frame] text)
    (hapart : ∀ rest, Apart (text ++ rest)) (hlength : value.length + text.length ≤ whole.length)
    (hstep : ∀ fuel frames rest,
      skipFrom (fuel + 1) stage (frame :: frames) (whole ++ rest) =
        skipFrom fuel .value (frame :: frames) (value ++ (text ++ rest))) :
    Passed stage [frame] whole := by
  obtain ⟨first, hfirst, hvalue⟩ := hvalue
  obtain ⟨second, hsecond, hrest⟩ := hrest
  refine ⟨second + first + 1, by omega, fun fuel frames rest hends => ?_⟩
  have hfuel : fuel + (second + first + 1) = fuel + second + first + 1 := by omega
  rw [hfuel]
  calc
    skipFrom (fuel + second + first + 1) stage (frame :: frames) (whole ++ rest)
    _ = skipFrom (fuel + second + first) .value (frame :: frames) (value ++ (text ++ rest)) :=
      hstep _ _ _
    _ = skipFrom (fuel + second) .after (frame :: frames) (text ++ rest) :=
      hvalue _ _ _ (hapart rest)
    _ = skipFrom fuel .after frames rest := hrest _ _ _ hends

/-- A list or an object is passed over if its parts are, after the character that opens it. -/
theorem Passed.opened {frame : Frame} {c : Char} {space text : List Char}
    (h : Passed .opened [frame] text)
    (hstep : ∀ fuel frames rest,
      skipFrom (fuel + 1) .value frames (space ++ c :: rest) =
        skipFrom fuel .opened (frame :: frames) rest) :
    Passed .value [] (space ++ c :: text) := by
  obtain ⟨steps, hsteps, hparts⟩ := h
  refine ⟨steps + 1, ?_, fun fuel frames rest hends => ?_⟩
  · simp only [List.length_append, List.length_cons]
    omega
  · rw [List.append_assoc, List.cons_append, ← Nat.add_assoc]
    exact (hstep _ _ _).trans (hparts _ _ _ hends)

/-- The end of a list or an object is passed over in one step. -/
theorem close_passed {space : List Char} (h : IsSpace space) (frame : Frame) (first : Bool) :
    Passed (.inside first) [frame] (space ++ [frame.closing]) := by
  refine ⟨1, ?_, fun fuel frames rest _ => ?_⟩
  · rw [List.length_append, List.length_singleton]
    omega
  · rw [List.append_assoc]
    exact skip_close h frame first fuel frames rest

/-- A value without parts is passed over in one step. -/
theorem Passed.single {text : List Char} (h : text ≠ [])
    (hstep : ∀ fuel frames rest, Apart rest →
      skipFrom (fuel + 1) .value frames (text ++ rest) = skipFrom fuel .after frames rest) :
    Passed .value [] text := by
  have hlength := List.length_pos_iff.mpr h
  exact ⟨1, by omega, hstep⟩

/-- A numeral is passed over. -/
theorem number_passed (numeral : Numeral) {space : List Char} (h : IsSpace space) :
    Passed .value [] (space ++ numeral.text) := by
  obtain ⟨c, digits, hmagnitude, hc⟩ := numeral.magnitude_head
  have hskip : ∀ rest, Apart rest → skipNumber (c :: (digits ++ rest)) = .ok rest := by
    intro rest hends
    have hnumber := skip_number_magnitude numeral hends
    rwa [hmagnitude, List.cons_append] at hnumber
  rw [Numeral.text, hmagnitude]
  cases numeral.negative with
  | true =>
    refine Passed.single (by simp) fun fuel frames rest hends => ?_
    rw [List.append_assoc, skipFrom, if_pos rfl, List.cons_append, skip_space_append h rfl]
    simp only [Char.reduceEq, if_false, if_true, List.cons_append]
    rw [hskip rest hends]
    rfl
  | false =>
    refine Passed.single (by simp) fun fuel frames rest hends => ?_
    have hn : c ≠ 'n' := digit_ne hc rfl
    have ht : c ≠ 't' := digit_ne hc rfl
    have hf : c ≠ 'f' := digit_ne hc rfl
    have hsign : c ≠ '-' := digit_ne hc rfl
    rw [List.append_assoc, skipFrom, if_neg Bool.false_ne_true, List.cons_append,
      skip_space_append h (space_digit hc)]
    simp only [if_neg hn, if_neg ht, if_neg hf, if_neg hsign, hc, if_true]
    rw [hskip rest hends]
    rfl

mutual

/-- A term is passed over. -/
theorem term_passed (term : Term) {text : List Char} (h : Renders term text) {space : List Char}
    (hspace : IsSpace space) : Passed .value [] (space ++ text) := by
  have hquote : isDigit '"' = false := rfl
  have hbracket : isDigit '[' = false := rfl
  have hbrace : isDigit '\x7b' = false := rfl
  match term with
  | .null =>
    cases h
    refine Passed.single (by simp) fun fuel frames rest _ => ?_
    rw [List.append_assoc, List.cons_append, skipFrom, skip_space_append hspace rfl]
    rfl
  | .boolean value =>
    cases h with
    | yes =>
      refine Passed.single (by simp) fun fuel frames rest _ => ?_
      rw [List.append_assoc, List.cons_append, skipFrom, skip_space_append hspace rfl]
      rfl
    | no =>
      refine Passed.single (by simp) fun fuel frames rest _ => ?_
      rw [List.append_assoc, List.cons_append, skipFrom, skip_space_append hspace rfl]
      rfl
  | .number numeral =>
    cases h
    exact number_passed numeral hspace
  | .string content =>
    cases h with
    | string _ spelling hspells =>
      refine Passed.single (by simp) fun fuel frames rest _ => ?_
      have htext : space ++ '"' :: (spelling ++ ['"']) ++ rest =
          space ++ '"' :: (spelling ++ '"' :: rest) := by simp
      rw [htext, skipFrom, skip_space_append hspace rfl]
      simp only [Char.reduceEq, if_false, if_true, hquote, Bool.false_eq_true]
      rw [skip_string_spells hspells]
      rfl
  | .array items =>
    cases h with
    | array _ text hitems =>
      refine Passed.opened (items_passed items hitems) fun fuel frames rest => ?_
      rw [skipFrom, skip_space_append hspace rfl]
      simp only [Char.reduceEq, if_false, if_true, hbracket, Bool.false_eq_true]
  | .object members =>
    cases h with
    | object _ text hmembers =>
      refine Passed.opened (members_passed members hmembers) fun fuel frames rest => ?_
      rw [skipFrom, skip_space_append hspace rfl]
      simp only [Char.reduceEq, if_false, if_true, hbrace, Bool.false_eq_true]

/-- Items of a list are passed over with its end. -/
theorem items_passed (items : List Term) {first : Bool} {text : List Char}
    (h : RendersItems first items text) : Passed (.inside first) [.list] text := by
  match items with
  | [] =>
    cases h with
    | close _ space hspace => exact close_passed hspace .list first
  | term :: items =>
    cases h with
    | item _ _ _ lead value text hlead hvalue hrest =>
      obtain ⟨space, hspace, hlength, hstep⟩ := skip_item_lead hlead
      obtain ⟨c, others, rfl, hheads⟩ := hvalue.head
      refine Passed.part (term_passed term hvalue hspace) (items_passed items hrest) hrest.apart ?_
        fun fuel frames rest => ?_
      · simp only [List.length_append]
        omega
      · rw [List.append_assoc, List.append_assoc, List.append_assoc]
        exact hstep fuel frames c _ hheads.notSpace hheads.notEnd

/-- Members of an object are passed over with its end. -/
theorem members_passed (members : List (String × Term)) {first : Bool} {text : List Char}
    (h : RendersMembers first members text) : Passed (.inside first) [.object] text := by
  match members with
  | [] =>
    cases h with
    | close _ space hspace => exact close_passed hspace .object first
  | (key, term) :: members =>
    cases h with
    | member _ _ _ _ lead spelling before after value text hlead hkey hbefore hafter hvalue hrest =>
      refine Passed.part (term_passed term hvalue hafter) (members_passed members hrest)
        hrest.apart ?_ fun fuel frames rest => ?_
      · simp only [List.length_append, List.length_cons]
        omega
      · have htext : lead ++ '"' :: (spelling ++ '"' :: (before ++
            ':' :: (after ++ (value ++ text)))) ++ rest =
            lead ++ '"' :: (spelling ++ '"' :: (before ++
              ':' :: (after ++ value ++ (text ++ rest)))) := by simp
        rw [htext]
        exact skip_member_key hlead hkey hbefore fuel frames _

end

/-- A value that nobody asks for is passed over, whatever it is. -/
theorem skip_value_renders {term : Term} {text : List Char} (h : Renders term text)
    {space rest : List Char} (hspace : IsSpace space) (hends : Apart rest) :
    skipValue (space ++ (text ++ rest)) = .ok rest := by
  obtain ⟨steps, hsteps, hpassed⟩ := term_passed term h hspace
  rw [← List.append_assoc, skipValue]
  obtain ⟨fuel, hfuel⟩ : ∃ fuel,
      2 * (space ++ text ++ rest).length + 2 = fuel + 1 + steps := by
    refine ⟨2 * (space ++ text ++ rest).length + 1 - steps, ?_⟩
    rw [List.length_append]
    omega
  rw [hfuel]
  exact hpassed (fuel + 1) [] rest hends

end StorageBackend.Json
