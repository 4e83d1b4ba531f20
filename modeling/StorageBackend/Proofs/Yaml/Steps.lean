import StorageBackend.Proofs.Yaml.Parallel
import StorageBackend.Proofs.Yaml.Scanner

/-!
# Steps of the scanner at two places

Steps of the scanner go in parallel as well: wherever a text stands, a step gives the same tokens
(`step_parallel`), and so does a whole run (`run_moved`). A step that is not the last one leaves
less of the text, so a run needs no more fuel than there are characters (`run_enough`). Only a text
that could be read to its end has the token of the end (`whole_of_run`).
-/

namespace StorageBackend.Yaml

variable {shift : Shift}

/-! ## Scanners further down -/

/-- The same place for a key further down. -/
def KeyPlace.moved (shift : Shift) (place : KeyPlace) : KeyPlace :=
  { place with mark := place.mark.moved shift }

/-- How far a place is behind does not depend on where the text stands. -/
theorem KeyPlace.is_stale_moved (place : KeyPlace) (mark : Mark) :
    (place.moved shift).isStale (mark.moved shift) = place.isStale mark := by
  simp only [KeyPlace.isStale, KeyPlace.moved, Mark.moved, Nat.add_lt_add_iff_right,
    Nat.add_right_comm _ shift.bytes]

namespace Scanner

/-- The same state further down. -/
def moved (shift : Shift) (s : Scanner) : Scanner :=
  { s with
    cursor := s.cursor.moved shift
    places := s.places.map (Option.map (KeyPlace.moved shift)) }

/-- Whether a scanner is inside a flow collection does not depend on the place. -/
@[simp] theorem in_flow_moved (s : Scanner) : (s.moved shift).inFlow = s.inFlow :=
  congrArg (fun n => decide (n > 1)) (List.length_map _)

/-- The cursor of a scanner moves with it. -/
theorem cursor_moved (s : Scanner) : (s.moved shift).cursor = s.cursor.moved shift := rfl

/-- Whether a key may come does not depend on the place. -/
theorem key_allowed_moved (s : Scanner) : (s.moved shift).keyAllowed = s.keyAllowed := rfl

/-- The places for keys move with the scanner. -/
theorem places_moved (s : Scanner) :
    (s.moved shift).places = s.places.map (Option.map (KeyPlace.moved shift)) := rfl

/-- Whether the end of the text has been met. -/
def HasEnd (s : Scanner) : Prop := .streamEnd ∈ s.certain ∨ .streamEnd ∈ s.held

/-- What a step in the middle of a text leaves as it is. -/
structure Keeps (s t : Scanner) : Prop where
  whole : t.whole = s.whole
  ends : t.HasEnd → s.HasEnd

/-- A state at the same place of the text. -/
structure Stays (s t : Scanner) : Prop extends Keeps s t where
  cursor : t.cursor = s.cursor
  inFlow : t.inFlow = s.inFlow
  ended : t.ended = s.ended

/-- A state with less of the text. -/
structure Takes (s t : Scanner) : Prop extends Keeps s t where
  left : t.cursor.text.length ≤ s.cursor.text.length - 1

/-- Doing nothing leaves everything as it is. -/
theorem Keeps.refl (s : Scanner) : Keeps s s := ⟨rfl, id⟩

/-- What two steps leave as it is, they leave one after the other. -/
theorem Keeps.trans {s t u : Scanner} (h : Keeps s t) (hnext : Keeps t u) : Keeps s u :=
  ⟨hnext.whole.trans h.whole, h.ends ∘ hnext.ends⟩

/-- Doing nothing stays at the place. -/
theorem Stays.refl (s : Scanner) : Stays s s := ⟨.refl s, rfl, rfl, rfl⟩

/-- Two steps that stay at the place stay there one after the other. -/
theorem Stays.trans {s t u : Scanner} (h : Stays s t) (hnext : Stays t u) : Stays s u :=
  ⟨h.toKeeps.trans hnext.toKeeps, hnext.cursor.trans h.cursor, hnext.inFlow.trans h.inFlow,
    hnext.ended.trans h.ended⟩

/-- A token in the middle of a text is not its end. -/
theorem Keeps.push {s t u : Scanner} (h : Keeps s t) {token : Token} (htoken : token ≠ .streamEnd)
    (hwhole : u.whole = t.whole) (hcertain : u.certain = t.certain)
    (hheld : u.held = t.held ++ [token]) : Keeps s u := by
  refine ⟨hwhole.trans h.whole, fun hends => h.ends ?_⟩
  rw [HasEnd, hcertain, hheld, List.mem_append, List.mem_singleton] at hends
  exact hends.imp_right fun hends => hends.resolve_right htoken.symm

/-- Inserting a token other than the end leaves the rest as it is. -/
theorem insert_at_keeps (s : Scanner) (number : Nat) {token : Token} (htoken : token ≠ .streamEnd) :
    Keeps s (s.insertAt number token) := by
  refine ⟨rfl, fun hends => hends.imp_right fun hends => ?_⟩
  rcases List.mem_append.mp hends with hends | hends
  · exact List.mem_of_mem_take hends
  · exact List.mem_of_mem_drop ((List.mem_cons.mp hends).resolve_left htoken.symm)

/-- Two steps that stay at their places. -/
abbrev ParallelStay (shift : Shift) (s : Scanner) : Option Scanner → Option Scanner → Prop :=
  Parallel (moved shift) (Stays s)

/-- Two steps that take at least one character. -/
abbrev ParallelTake (shift : Shift) (s : Scanner) : Option Scanner → Option Scanner → Prop :=
  Parallel (moved shift) (Takes s)

/-- The place for a key is dropped in the same way further down. -/
theorem drop_place_parallel (s : Scanner) :
    ParallelStay shift s s.dropPlace (s.moved shift).dropPlace := by
  obtain ⟨cursor, whole, certain, count, held, indent, outer, places, keyAllowed, ended⟩ := s
  match places with
  | [] => exact .some _ (.refl _)
  | none :: places => exact .some _ (.refl _)
  | some place :: places => exact .ite (fun _ => .none) fun _ => .some _ ⟨⟨rfl, id⟩, rfl, rfl, rfl⟩

/-- A place for a key is noted in the same way further down. -/
theorem note_place_parallel (s : Scanner) :
    ParallelStay shift s s.notePlace (s.moved shift).notePlace := by
  refine .ite (fun _ => ?_) fun _ => .some _ (.refl s)
  refine (drop_place_parallel s).bind fun t ht => ?_
  obtain ⟨cursor, whole, certain, count, held, indent, outer, places, keyAllowed, ended⟩ := t
  cases places with
  | nil => exact .some_of_eq ⟨⟨ht.whole, ht.ends⟩, ht.cursor, ht.inFlow, ht.ended⟩ rfl
  | cons place places =>
    refine .some_of_eq ⟨⟨ht.whole, ht.ends⟩, ht.cursor, ht.inFlow, ht.ended⟩ ?_
    simp [moved, KeyPlace.moved, nextNumber, inFlow]

/-- A token is inserted in the same way further down. -/
theorem insert_at_moved (s : Scanner) (number : Nat) (token : Token) :
    (s.moved shift).insertAt number token = (s.insertAt number token).moved shift := rfl

/-- A block is opened in the same way further down. -/
theorem open_block_moved (s : Scanner) (column : Nat) (number : Option Nat) (token : Token) :
    (s.moved shift).openBlock column number token =
      (s.openBlock column number token).moved shift := by
  unfold openBlock
  rw [in_flow_moved, apply_ite (moved shift)]
  cases number with
  | none => rfl
  | some number => rfl

/-- Opening a block stays at the place. -/
theorem open_block_stays (s : Scanner) (column : Nat) (number : Option Nat) {token : Token}
    (htoken : token ≠ .streamEnd) : Stays s (s.openBlock column number token) := by
  unfold openBlock
  split
  · exact .refl s
  · cases number with
    | none => exact ⟨(Keeps.refl s).push htoken rfl rfl rfl, rfl, rfl, rfl⟩
    | some number =>
      have hinsert := insert_at_keeps s number htoken
      exact ⟨⟨hinsert.whole, hinsert.ends⟩, rfl, rfl, rfl⟩

/-- Blocks are closed in the same way further down. -/
theorem close_blocks_moved (s : Scanner) (column : Int) :
    (s.moved shift).closeBlocks column = (s.closeBlocks column).moved shift := by
  have hgo : ∀ outer s, closeBlocks.go (moved shift s) column outer =
      (closeBlocks.go s column outer).moved shift := by
    intro outer
    induction outer with
    | nil => exact fun _ => rfl
    | cons indent outer ih =>
      intro s
      rw [closeBlocks.go, closeBlocks.go, apply_ite (moved shift), ← ih]
      rfl
  unfold closeBlocks
  rw [in_flow_moved, apply_ite (moved shift)]
  exact congrArg _ (hgo s.outer s)

/-- Closing blocks stays at the place. -/
theorem close_blocks_stays (s : Scanner) (column : Int) : Stays s (s.closeBlocks column) := by
  have hgo : ∀ outer t, Stays s t → Stays s (closeBlocks.go t column outer) := by
    intro outer
    induction outer with
    | nil => exact fun _ h => h
    | cons indent outer ih =>
      intro t ht
      rw [closeBlocks.go]
      split
      · have hkeeps : Keeps s { t.push .blockEnd with indent := indent, outer := outer } :=
          ht.push (by decide : Token.blockEnd ≠ .streamEnd) rfl rfl rfl
        exact ih _ ⟨hkeeps, ht.cursor, ht.inFlow, ht.ended⟩
      · exact ht
  unfold closeBlocks
  split
  · exact .refl s
  · exact hgo _ s (.refl s)

/-- A look at every item is the same before and after a move that it does not notice. -/
theorem map_m_parallel {α : Type} {move : α → α} {look otherLook : α → Option α}
    (h : ∀ item, Parallel move (fun _ => True) (look item) (otherLook (move item)))
    (items : List α) :
    Parallel (List.map move) (fun kept => kept.length = items.length) (items.mapM look)
      ((items.map move).mapM otherLook) := by
  induction items with
  | nil => exact .some [] rfl
  | cons item items ih =>
    rw [List.map_cons, List.mapM_cons, List.mapM_cons]
    exact (h item).bind fun first _ => ih.bind fun kept hkept => .some _ (congrArg (· + 1) hkept)

/-- Places that are too far behind are dropped in the same way further down. -/
theorem drop_stale_parallel (s : Scanner) :
    ParallelStay shift s s.dropStale (s.moved shift).dropStale := by
  refine (map_m_parallel (fun place => ?_) s.places).bind fun places hplaces =>
    .some _ ⟨⟨rfl, id⟩, rfl, congrArg (fun n => decide (n > 1)) hplaces, rfl⟩
  cases place with
  | none => exact .some _ trivial
  | some place =>
    show Parallel _ _ _ (if (place.moved shift).isStale (s.cursor.mark.moved shift) then _ else _)
    rw [KeyPlace.is_stale_moved]
    exact .ite (fun _ => .ite (fun _ => .none) fun _ => .some _ trivial) fun _ => .some _ trivial

/-- A token is taken in the same way further down. -/
theorem take_moved (s : Scanner) (count : Nat) (token : Token) :
    (s.moved shift).take count token = (s.take count token).moved shift := by
  show Scanner.mk _ _ _ _ _ _ _ _ _ _ = _
  rw [moved, Cursor.right_moved]
  rfl

/-! ## Tokens -/

/-- A directive is not the end of the text. -/
theorem directive_ne_end {cursor behind : Cursor} {token : Token}
    (h : directive cursor = some (token, behind)) : token ≠ .streamEnd := by
  simp only [directive, Option.bind_eq_bind] at h
  grind [Option.bind_eq_some_iff]

/-- A tag is not the end of the text. -/
theorem tag_ne_end {flow : Bool} {cursor behind : Cursor} {token : Token}
    (h : tag flow cursor = some (token, behind)) : token ≠ .streamEnd := by
  simp only [tag, Option.bind_eq_bind] at h
  grind [Option.bind_eq_some_iff]

/-- A scalar is not the end of the text. -/
theorem scalar_ne_end (text : List Char) (plain : Bool) : Token.scalar text plain ≠ .streamEnd :=
  nofun

variable {s t : Scanner}

/-- A state behind a token of some characters. -/
theorem Stays.takes (h : Stays s t) {u : Scanner} {token : Token} (htoken : token ≠ .streamEnd)
    (count : Nat) (hwhole : u.whole = t.whole) (hcertain : u.certain = t.certain)
    (hheld : u.held = t.held ++ [token]) (hcursor : u.cursor = t.cursor.right (count + 1)) :
    Takes s u := by
  refine ⟨h.push htoken hwhole hcertain hheld, ?_⟩
  rw [hcursor, h.cursor]
  exact length_right_succ ..

/-- A token that is read behind its first character. -/
theorem push_reading {α : Type} (h : Stays s t) {read : Cursor → Option (α × Cursor)}
    (hread : ∀ cursor, ParallelReading shift cursor.text.length (read cursor)
      (read (cursor.moved shift))) {token : α → Token}
    (htoken : ∀ cursor content behind, read cursor = some (content, behind) →
      token content ≠ .streamEnd) (keyAllowed : Bool) :
    ParallelTake shift s
      (do
        let (content, cursor) ← read (t.cursor.right 1)
        some { t.push (token content) with cursor := cursor, keyAllowed := keyAllowed })
      (do
        let (content, cursor) ← read ((t.moved shift).cursor.right 1)
        some { (t.moved shift).push (token content) with
          cursor := cursor, keyAllowed := keyAllowed }) := by
  show Parallel _ _ _ (read ((t.cursor.moved shift).right 1) >>= _)
  rw [Cursor.right_moved]
  refine (hread _).with_eq.bind fun reading ⟨hleft, heq⟩ => .some_of_eq ⟨?_, ?_⟩ rfl
  · exact h.push (htoken _ _ _ heq) rfl rfl rfl
  · rw [h.cursor] at hleft
    exact Nat.le_trans hleft (length_right_succ ..)

variable (s)

/-- A line that separates documents is taken in the same way further down. -/
theorem take_separator_parallel {token : Token} (htoken : token ≠ .streamEnd) :
    ParallelTake shift s (s.takeSeparator token) ((s.moved shift).takeSeparator token) := by
  unfold takeSeparator
  rw [close_blocks_moved]
  refine (drop_place_parallel _).bind fun t ht => ?_
  have hstays := (close_blocks_stays s (-1)).trans ht
  refine .some_of_eq (hstays.takes htoken 2 rfl rfl rfl rfl) ?_
  rw [take_moved]
  rfl

/-- So is a directive. -/
theorem take_directive_parallel :
    ParallelTake shift s s.takeDirective (s.moved shift).takeDirective := by
  unfold takeDirective
  rw [close_blocks_moved]
  refine (drop_place_parallel _).bind fun t ht => ?_
  exact push_reading ((close_blocks_stays s (-1)).trans ht) directive_parallel
    (fun _ _ _ => directive_ne_end) false

/-- So is the opening bracket of a flow collection. -/
theorem take_flow_start_parallel {token : Token} (htoken : token ≠ .streamEnd) :
    ParallelTake shift s (s.takeFlowStart token) ((s.moved shift).takeFlowStart token) := by
  refine (note_place_parallel s).bind fun t ht =>
    .some_of_eq (ht.takes htoken 0 rfl rfl rfl rfl) ?_
  rw [take_moved]
  rfl

/-- So is the closing bracket of a flow collection. -/
theorem take_flow_end_parallel {token : Token} (htoken : token ≠ .streamEnd) :
    ParallelTake shift s (s.takeFlowEnd token) ((s.moved shift).takeFlowEnd token) := by
  refine (drop_place_parallel s).bind fun t ht =>
    .some_of_eq (ht.takes htoken 0 rfl rfl rfl rfl) ?_
  have hplaces : (if t.inFlow then (t.moved shift).places.tail else (t.moved shift).places) =
      (if t.inFlow then t.places.tail else t.places).map (Option.map (KeyPlace.moved shift)) := by
    rw [apply_ite (List.map _), List.map_tail]
    rfl
  rw [take_moved, in_flow_moved, hplaces]
  rfl

/-- So is a comma between the parts of a flow collection. -/
theorem take_flow_entry_parallel :
    ParallelTake shift s s.takeFlowEntry (s.moved shift).takeFlowEntry := by
  have htoken : Token.flowEntry ≠ .streamEnd := by decide
  refine (drop_place_parallel s).bind fun t ht =>
    .some_of_eq (ht.takes htoken 0 rfl rfl rfl rfl) ?_
  rw [take_moved]
  rfl

/-- What comes after a block has been opened where a key may begin. -/
theorem open_block_parallel {token : Token} (htoken : token ≠ .streamEnd)
    (next : Scanner → Option Scanner)
    (hnext : ∀ t, Stays s t → ParallelTake shift s (next t) (next (t.moved shift))) :
    ParallelTake shift s
      (if s.inFlow then next s
        else if s.keyAllowed then next (s.openBlock s.cursor.mark.column none token) else none)
      (if (s.moved shift).inFlow then next (s.moved shift)
        else if (s.moved shift).keyAllowed then
          next ((s.moved shift).openBlock (s.moved shift).cursor.mark.column none token)
        else none) := by
  rw [in_flow_moved, open_block_moved]
  exact .ite (fun _ => hnext s (.refl s)) fun _ =>
    .ite (fun _ => hnext _ (open_block_stays s _ _ htoken)) fun _ => .none

/-- So is the hyphen before an item. -/
theorem take_block_entry_parallel :
    ParallelTake shift s s.takeBlockEntry (s.moved shift).takeBlockEntry := by
  have htoken : Token.blockEntry ≠ .streamEnd := by decide
  refine open_block_parallel s (by decide : Token.blockSequenceStart ≠ .streamEnd) (fun t => do
    let t ← t.dropPlace
    some { t.take 1 .blockEntry with keyAllowed := true }) fun t ht => ?_
  refine (drop_place_parallel t).bind fun u hu =>
    .some_of_eq ((ht.trans hu).takes htoken 0 rfl rfl rfl rfl) ?_
  rw [take_moved]
  rfl

/-- So is the question mark before a key. -/
theorem take_key_parallel : ParallelTake shift s s.takeKey (s.moved shift).takeKey := by
  have htoken : Token.key ≠ .streamEnd := by decide
  refine open_block_parallel s (by decide : Token.blockMappingStart ≠ .streamEnd) (fun t => do
    let t ← t.dropPlace
    some { t.take 1 .key with keyAllowed := !t.inFlow }) fun t ht => ?_
  refine (drop_place_parallel t).bind fun u hu =>
    .some_of_eq ((ht.trans hu).takes htoken 0 rfl rfl rfl rfl) ?_
  rw [take_moved, in_flow_moved]
  rfl

/-- So is the colon before a value, with or without a place for a key before it. -/
theorem take_value_parallel : ParallelTake shift s s.takeValue (s.moved shift).takeValue := by
  have hmapping : Token.blockMappingStart ≠ .streamEnd := by decide
  have htoken : Token.value ≠ .streamEnd := by decide
  have hopen := @open_block_parallel shift s _ hmapping
    (fun t => some { t.take 1 .value with keyAllowed := !t.inFlow }) fun t ht => by
      refine .some_of_eq (ht.takes htoken 0 rfl rfl rfl rfl) ?_
      rw [take_moved, in_flow_moved]
      rfl
  unfold takeValue
  rw [places_moved]
  match s.places with
  | [] => exact hopen
  | none :: places => exact hopen
  | some place :: places =>
    have hkey := insert_at_keeps s place.number (by decide : Token.key ≠ .streamEnd)
    have hstays : Stays s (s.insertAt place.number .key) := ⟨hkey, rfl, rfl, rfl⟩
    have hblock := hstays.trans
      (open_block_stays _ place.mark.column (some place.number) hmapping)
    refine .some_of_eq (hblock.takes htoken 0 rfl rfl rfl rfl) ?_
    show Scanner.mk _ _ _ _ _ _ _ _ _ _ = _
    rw [insert_at_moved, open_block_moved, take_moved]
    rfl

/-- So is an anchor or an alias. -/
theorem take_anchor_parallel {token : List Char → Token}
    (htoken : ∀ name, token name ≠ .streamEnd) :
    ParallelTake shift s (s.takeAnchor token) ((s.moved shift).takeAnchor token) :=
  (note_place_parallel s).bind fun _ ht =>
    push_reading ht anchor_name_parallel (fun _ name _ _ => htoken name) false

/-- So is a tag. -/
theorem take_tag_parallel : ParallelTake shift s s.takeTag (s.moved shift).takeTag := by
  refine (note_place_parallel s).bind fun t ht => ?_
  rw [in_flow_moved]
  refine (tag_parallel _ _).with_eq.bind fun reading ⟨hleft, heq⟩ => .some_of_eq ⟨?_, ?_⟩ rfl
  · exact ht.push (tag_ne_end heq) rfl rfl rfl
  · exact ht.cursor ▸ hleft

/-- So is a block scalar. -/
theorem take_block_scalar_parallel (literal : Bool) :
    ParallelTake shift s (s.takeBlockScalar literal) ((s.moved shift).takeBlockScalar literal) :=
  (drop_place_parallel s).bind fun t ht =>
    push_reading ht (block_scalar_parallel literal t.margin)
      (fun _ text _ _ => scalar_ne_end text _) true

/-- So is a quoted scalar, if its text is read in the same way. -/
theorem take_quoted_parallel {read : Cursor → Option (List Char × Cursor)}
    (hread : ∀ cursor, ParallelReading shift cursor.text.length (read cursor)
      (read (cursor.moved shift))) :
    ParallelTake shift s (s.takeQuoted read) ((s.moved shift).takeQuoted read) :=
  (note_place_parallel s).bind fun _ ht =>
    push_reading ht hread (fun _ text _ _ => scalar_ne_end text _) false

/-- So is a plain scalar, which takes a character at least. -/
theorem take_plain_parallel {c : Char} {rest : List Char} (htext : s.cursor.text = c :: rest)
    (hblank : isBlank c = false) (hbreak : isBreak c = false)
    (hends : endsPlain s.inFlow (c :: rest) = false) :
    ParallelTake shift s s.takePlain (s.moved shift).takePlain := by
  refine (note_place_parallel s).bind fun t ht => ?_
  have hcursor : s.cursor = ⟨c :: rest, s.cursor.mark⟩ := congrArg (Cursor.mk · _) htext
  show Parallel _ _ (plain t.inFlow t.margin t.cursor >>= _)
    (plain (t.moved shift).inFlow t.margin (t.cursor.moved shift) >>= _)
  rw [in_flow_moved, ht.inFlow, ht.cursor, hcursor]
  refine (plain_parallel t.margin hblank hbreak hends _).bind fun reading hleft =>
    .some_of_eq ⟨?_, ?_⟩ rfl
  · exact ht.push (scalar_ne_end reading.1 true) rfl rfl rfl
  · rw [htext]
    exact hleft

/-- The end of the text is taken in the same way, and is the last token. -/
theorem take_end_parallel :
    Parallel (moved shift) (fun t => t.ended = true ∧ t.whole = s.whole) s.takeEnd
      (s.moved shift).takeEnd := by
  have hend : ∀ mark, Parallel (moved shift) (fun t => t.ended = true ∧ t.whole = s.whole)
      (do
        let t ← (closeBlocks { s with cursor := ⟨[], mark⟩ } (-1)).dropPlace
        some { t.push .streamEnd with keyAllowed := false, ended := true })
      (do
        let t ← (closeBlocks (moved shift { s with cursor := ⟨[], mark⟩ }) (-1)).dropPlace
        some { t.push .streamEnd with keyAllowed := false, ended := true }) := by
    intro mark
    rw [close_blocks_moved]
    refine (drop_place_parallel _).bind fun t ht => .some_of_eq ⟨rfl, ?_⟩ rfl
    exact ((close_blocks_stays { s with cursor := ⟨[], mark⟩ } (-1)).trans ht).whole
  simp only [takeEnd, cursor_moved, Cursor.mark_moved, Mark.column_moved, Mark.new_line_moved,
    ← apply_ite (Mark.moved shift)]
  exact hend _

/-- What a step does to a state: it goes on in the text, or it is the last one. The end is met only
if the text can be read up to it. -/
structure Advances (s t : Scanner) : Prop where
  whole : t.whole = s.whole
  ends : t.HasEnd → s.HasEnd ∨ s.whole = true
  goesOn : t.ended = true ∨ t.cursor.text.length < s.cursor.text.length

/-- A token is taken in parallel if space has been passed over before, and the text can be seen. -/
theorem take_token_parallel (hspace : ∀ c rest, s.cursor.text = c :: rest → isBreak c = false)
    (hsees : s.cursor.text = [] → s.whole = true) :
    Parallel (moved shift) (Advances s) s.takeToken (s.moved shift).takeToken := by
  unfold takeToken
  rw [in_flow_moved, cursor_moved, Cursor.text_moved, Cursor.mark_moved]
  match htext : s.cursor.text with
  | [] =>
    exact (take_end_parallel s).mono fun t ht => ⟨ht.2, fun _ => .inr (hsees htext), .inl ht.1⟩
  | c :: rest =>
    have htake : ∀ {result other : Option Scanner}, ParallelTake shift s result other →
        Parallel (moved shift) (Advances s) result other := by
      refine fun h => h.mono fun t ht => ⟨ht.whole, fun hends => .inl (ht.ends hends), .inr ?_⟩
      refine Nat.lt_of_le_of_lt ht.left ?_
      rw [htext]
      exact Nat.lt_succ_self _
    have hplain : isBlank c = false → endsPlain s.inFlow (c :: rest) = false →
        Parallel (moved shift) (Advances s) s.takePlain (s.moved shift).takePlain :=
      fun hblank hends => htake (take_plain_parallel s htext hblank (hspace c rest htext) hends)
    refine .ite (fun _ => htake (take_directive_parallel s)) fun _ =>
      .ite (fun _ => htake (take_separator_parallel s (by decide))) fun _ =>
      .ite (fun _ => htake (take_separator_parallel s (by decide))) fun _ =>
      .ite (fun _ => htake (take_flow_start_parallel s (by decide))) fun hbracket =>
      .ite (fun _ => htake (take_flow_start_parallel s (by decide))) fun hbrace =>
      .ite (fun _ => htake (take_flow_end_parallel s (by decide))) fun hclosed =>
      .ite (fun _ => htake (take_flow_end_parallel s (by decide))) fun hended =>
      .ite (fun _ => htake (take_flow_entry_parallel s)) fun hcomma =>
      .ite (fun _ => htake (take_block_entry_parallel s)) fun _ =>
      .ite (fun _ => htake (take_key_parallel s)) fun _ =>
      .ite (fun _ => htake (take_value_parallel s)) fun hvalue =>
      .ite (fun _ => htake (take_anchor_parallel s nofun)) fun _ =>
      .ite (fun _ => htake (take_anchor_parallel s nofun)) fun _ =>
      .ite (fun _ => htake (take_tag_parallel s)) fun _ =>
      .ite (fun _ => htake (take_block_scalar_parallel s _)) fun _ =>
      .ite (fun _ => htake (take_block_scalar_parallel s _)) fun _ =>
      .ite (fun _ => htake (take_quoted_parallel s single_quoted_parallel)) fun _ =>
      .ite (fun _ => htake (take_quoted_parallel s double_quoted_parallel)) fun _ => ?_
    -- What ends a plain scalar at once has been taken as another token.
    have hends : endsPlain s.inFlow (c :: rest) = false := by
      have hflow : isFlowIndicator c = false := by
        simp [isFlowIndicator, hbracket, hbrace, hclosed, hended, hcomma]
      rw [endsPlain, hflow, Bool.and_false, Bool.or_false, Bool.and_eq_false_imp]
      exact fun hcolon => Bool.eq_false_iff.mpr fun hgap =>
        hvalue ⟨beq_iff_eq.mp hcolon, .inr hgap⟩
    refine .ite (fun _ => .ite (fun hsign => hplain ?_ hends) fun _ => .none) fun _ =>
      .ite (fun _ => .none) fun hblank => hplain (Bool.eq_false_iff.mpr hblank) hends
    rcases hsign with rfl | rfl | rfl
    · rfl
    · rfl
    · rfl

/-! ## Steps -/

/-- Space, comments and line breaks are passed over in the same way further down. -/
theorem skip_space_parallel (allowed inFlow comment : Bool) (mark : Mark) (text : List Char) :
    skipSpace allowed inFlow comment (mark.moved shift) text =
      ((skipSpace allowed inFlow comment mark text).1,
        (skipSpace allowed inFlow comment mark text).2.moved shift) := by
  match text with
  | [] => rfl
  | c :: rest =>
    rw [skipSpace.eq_def, skipSpace.eq_def allowed inFlow comment mark]
    simp only [Mark.right_moved, Mark.new_line_moved, Mark.column_moved]
    split
    · split
      · exact skip_space_parallel ..
      · exact skip_space_parallel ..
    · split
      · exact skip_space_parallel ..
      · split
        · exact skip_space_parallel ..
        · rfl
termination_by text.length

/-- Space ends in front of what ends no line. -/
theorem skip_space_ends (allowed inFlow comment : Bool) (mark : Mark) (text : List Char) {c : Char}
    {rest : List Char} :
    (skipSpace allowed inFlow comment mark text).2.text = c :: rest → isBreak c = false := by
  intro h
  fun_induction skipSpace allowed inFlow comment mark text with
  | case1 => cases h
  | case2 _ _ _ _ _ _ ih => exact ih h
  | case3 _ _ _ _ _ _ _ _ ih => exact ih h
  | case4 _ _ _ _ _ _ _ ih => exact ih h
  | case5 _ _ _ _ _ _ _ _ ih => exact ih h
  | case6 _ _ _ _ _ hbreak =>
    cases h
    exact Bool.eq_false_iff.mpr hbreak

/-- A text that is seen to its end has an end. -/
theorem whole_of_sees (h : s.sees lookahead = true) (htext : s.cursor.text = []) :
    s.whole = true := by
  rw [sees, htext] at h
  simpa using h

/-- A token is taken as far as the text can be seen. -/
theorem look_parallel (hspace : ∀ c rest, s.cursor.text = c :: rest → isBreak c = false) :
    Parallel (moved shift) (Advances s)
      (if s.sees lookahead then do
        let t ← s.takeToken
        if t.sees 1 then some t else none
      else none)
      (if (s.moved shift).sees lookahead then do
        let t ← (s.moved shift).takeToken
        if t.sees 1 then some t else none
      else none) := by
  refine .ite (fun hsees => ?_) fun _ => .none
  exact (take_token_parallel s hspace (whole_of_sees s hsees)).bind fun t ht =>
    .ite (fun _ => .some t ht) fun _ => .none

/-- A step takes the same token further down. -/
theorem next_parallel : Parallel (moved shift) (Advances s) s.next (s.moved shift).next := by
  unfold next
  rw [cursor_moved, Cursor.text_moved, Cursor.mark_moved, key_allowed_moved, in_flow_moved,
    skip_space_parallel]
  have hlength := length_skip_space s.keyAllowed s.inFlow false s.cursor.mark s.cursor.text
  have hspace : ∀ c rest, (skipSpace s.keyAllowed s.inFlow false s.cursor.mark
      s.cursor.text).2.text = c :: rest → isBreak c = false := fun _ _ => skip_space_ends _ _ _ _ _
  generalize skipSpace s.keyAllowed s.inFlow false s.cursor.mark s.cursor.text = skipped
    at hlength hspace ⊢
  obtain ⟨allowed, cursor⟩ := skipped
  have hstale := @drop_stale_parallel shift { s with cursor := cursor, keyAllowed := allowed }
  refine Parallel.bind hstale fun t ht => ?_
  have hclosed := ht.trans (close_blocks_stays t cursor.mark.column)
  have hlook := @look_parallel shift (t.closeBlocks cursor.mark.column) (hclosed.cursor ▸ hspace)
  rw [← close_blocks_moved] at hlook
  refine hlook.mono fun u hu => ⟨hu.whole.trans hclosed.whole, fun hends => ?_, ?_⟩
  · exact (hu.ends hends).imp hclosed.ends hclosed.whole.symm.trans
  · refine hu.goesOn.imp_right fun hless => ?_
    rw [hclosed.cursor] at hless
    exact Nat.lt_of_lt_of_le hless hlength

/-- Tokens become certain in the same way further down. -/
theorem release_parallel : ParallelStay shift s s.release (s.moved shift).release := by
  refine (drop_stale_parallel s).bind fun t ht => ?_
  have hreleasable : (t.moved shift).releasable = t.releasable := by
    rw [releasable, places_moved, List.foldl_map]
    refine congrArg (fun f => t.places.foldl f t.held.length)
      (funext fun n => funext fun place => ?_)
    cases place with
    | none => rfl
    | some place => rfl
  refine .some_of_eq ⟨⟨ht.whole, fun hends => ht.ends ?_⟩, ht.cursor, ht.inFlow, ht.ended⟩ ?_
  · rcases hends with hends | hends
    · refine (List.mem_append.mp hends).symm.imp_right fun hends => ?_
      exact List.mem_of_mem_take (List.mem_reverse.mp hends)
    · exact .inr (List.mem_of_mem_drop hends)
  · rw [hreleasable]
    rfl

/-- A step reads the same wherever the text stands. -/
theorem step_parallel :
    Parallel (moved shift) (Advances s) (s.next.bind release)
      ((s.moved shift).next.bind release) := by
  refine (next_parallel s).bind fun t ht => (release_parallel t).mono fun u hu => ?_
  refine ⟨hu.whole.trans ht.whole, fun hends => ht.ends (hu.ends hends), ?_⟩
  rw [hu.ended, hu.cursor]
  exact ht.goesOn

/-- The tokens of a text do not depend on where it stands. -/
theorem run_moved (fuel : Nat) : (s.moved shift).run fuel = s.run fuel := by
  induction fuel generalizing s with
  | zero => rfl
  | succ fuel ih =>
    rw [run, run, (step_parallel s).eq_map]
    cases s.next.bind release with
    | none => rfl
    | some t =>
      show (if s.ended then _ else (t.moved shift).run fuel) = _
      rw [ih]
      rfl

variable {s}

/-- A scanner that has met the end gives the tokens that are certain. -/
theorem run_of_ended (h : s.ended = true) (fuel : Nat) : s.run fuel = s.certain.reverse := by
  cases fuel with
  | zero => rfl
  | succ fuel => exact if_pos h

/-- A step advances. -/
theorem advances_of_step (h : s.next.bind release = some t) : Advances s t :=
  (@step_parallel ⟨0, 0⟩ s).of_eq_some h

/-- A run takes no more steps than there are characters, and one for the end. -/
theorem run_enough {fuel other : Nat} (h : s.cursor.text.length < fuel)
    (hother : s.cursor.text.length < other) : s.run (fuel + 1) = s.run (other + 1) := by
  induction fuel generalizing s other with
  | zero => exact absurd h (Nat.not_lt_zero _)
  | succ fuel ih =>
    obtain ⟨other, rfl⟩ := Nat.exists_eq_add_of_lt (Nat.zero_lt_of_lt hother)
    rw [run, run]
    split
    · rfl
    · cases hstep : s.next.bind release with
      | none => rfl
      | some t =>
        rcases (advances_of_step hstep).goesOn with hended | hless
        · exact (run_of_ended hended _).trans (run_of_ended hended _).symm
        · exact ih (Nat.lt_of_lt_of_le hless (Nat.le_of_lt_succ h)) (by omega)

/-- The end is met only if the text can be read up to it. -/
theorem whole_of_run {fuel : Nat} (h : .streamEnd ∈ s.run fuel) : s.HasEnd ∨ s.whole = true := by
  induction fuel generalizing s with
  | zero => exact .inl (.inl (List.mem_reverse.mp h))
  | succ fuel ih =>
    rw [run] at h
    split at h
    · exact .inl (.inl (List.mem_reverse.mp h))
    · cases hstep : s.next.bind release with
      | none =>
        rw [hstep] at h
        exact .inl (.inl (List.mem_reverse.mp h))
      | some t =>
        rw [hstep] at h
        have hadvances := advances_of_step hstep
        exact (ih h).elim hadvances.ends fun hwhole => .inr (hadvances.whole ▸ hwhole)

end Scanner

end StorageBackend.Yaml
