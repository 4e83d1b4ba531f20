import StorageBackend.Proofs.Yaml.Scalar

/-!
# Steps of the scanner

A step of the scanner reads a token and releases what has become certain. `within` is the state of
the scanner inside block mappings that are indented by two spaces each; the lemmas say what the
parts of a step make of such a state. `Reaches` is about any number of steps, and `run_of_reaches`
about what the steps that remain give.
-/

namespace StorageBackend.Yaml

open StorageBackend.Tree (Phrase)

/-- The token of a phrase. -/
def phraseToken (phrase : Phrase) : Token := .scalar phrase.text !phrase.quoted

namespace Scanner

/-! ## Texts that can be read -/

/-- A text of allowed characters can be read to its end. -/
theorem readable_allowed {text : List Char} (h : ∀ c ∈ text, isAllowed c = true) :
    readable text = (text, true) := by
  have hfrom : ∀ done portion size,
      readableFrom done portion size text = ((portion ++ done).reverse ++ text, true) := by
    induction text with
    | nil =>
      intro done portion size
      rw [readableFrom, List.append_nil]
    | cons c text ih =>
      intro done portion size
      have hc : isAllowed c = true := h c List.mem_cons_self
      have hrest := ih fun d hd => h d (List.mem_cons_of_mem c hd)
      simp only [readableFrom, hc, if_true]
      split
      · rw [hrest]
        simp
      · rw [hrest]
        simp
  exact hfrom [] [] 0

/-! ## Space -/

/-- Space ends where a token begins. -/
theorem skip_space_stop (allowed inFlow : Bool) (mark : Mark) {c : Char}
    (h : isBreak c = false ∧ c ≠ ' ' ∧ c ≠ '\t' ∧ c ≠ byteOrderMark ∧ c ≠ '#') (rest : List Char) :
    skipSpace allowed inFlow false mark (c :: rest) = (allowed, ⟨c :: rest, mark⟩) := by
  obtain ⟨hbreak, hspace, htab, hmark, hcomment⟩ := h
  rw [skipSpace.eq_def]
  simp [hbreak, hspace, htab, hmark, hcomment]

/-- Behind a line break a key may begin. -/
theorem skip_space_break (allowed : Bool) (mark : Mark) (rest : List Char) :
    skipSpace allowed false false mark ('\n' :: rest) =
      skipSpace true false false (mark.newLine 1) rest := by
  have hbreak : isBreak '\n' = true := rfl
  rw [skipSpace.eq_def]
  simp only [hbreak, if_true, Bool.not_false, Bool.or_true]
  rfl

/-- Spaces are passed over one after the other. -/
theorem skip_space_spaces (allowed : Bool) (count : Nat) (mark : Mark) (rest : List Char) :
    skipSpace allowed false false mark (List.replicate count ' ' ++ rest) =
      skipSpace allowed false false (mark.after count) rest := by
  induction count generalizing mark with
  | zero => rfl
  | succ count ih =>
    have hstep : skipSpace allowed false false mark (' ' :: (List.replicate count ' ' ++ rest)) =
        skipSpace allowed false false (mark.right ' ') (List.replicate count ' ' ++ rest) := by
      rw [skipSpace.eq_def]
      simp [isBreak]
    rw [List.replicate_succ, List.cons_append, hstep, ih, Mark.right_space_after]

/-- Nothing is added by passing over space. -/
theorem length_skip_space (allowed inFlow comment : Bool) (mark : Mark) (text : List Char) :
    (skipSpace allowed inFlow comment mark text).2.text.length ≤ text.length := by
  fun_induction skipSpace allowed inFlow comment mark text with
  | case1 => exact Nat.le_refl 0
  | case2 _ _ _ _ _ _ ih => exact Nat.le_trans ih (Nat.le_add_right _ 2)
  | case3 _ _ _ _ _ _ _ _ ih => exact Nat.le_succ_of_le ih
  | case4 _ _ _ _ _ _ _ ih => exact Nat.le_succ_of_le ih
  | case5 _ _ _ _ _ _ _ _ ih => exact Nat.le_succ_of_le ih
  | case6 => exact Nat.le_refl _

/-! ## Blocks -/

/-- The indentation inside a number of blocks. -/
def indentOf : Nat → Int
  | 0 => -1
  | depth + 1 => ((2 * depth : Nat) : Int)

/-- The indentations of the blocks around. -/
def outerOf : Nat → List Int
  | 0 => []
  | depth + 1 => indentOf depth :: outerOf depth

/-- A scanner inside a number of block mappings. -/
def within (certain held : List Token) (depth : Nat) (place : Option KeyPlace) (keyAllowed : Bool)
    (cursor : Cursor) : Scanner where
  cursor := cursor
  whole := true
  certain := certain.reverse
  count := certain.length
  held := held
  indent := indentOf depth
  outer := outerOf depth
  places := [place]
  keyAllowed := keyAllowed
  ended := false

/-- Blocks are closed from the inside out, up to one that begins no further to the right. -/
theorem close_blocks_within (certain held : List Token) (depth : Nat) (place : Option KeyPlace)
    (allowed : Bool) (cursor : Cursor) (column : Int) :
    ∃ left ≤ depth, (left = 0 ∨ indentOf left ≤ column) ∧
      (left = depth ∨ column < indentOf (left + 1)) ∧
      (within certain held depth place allowed cursor).closeBlocks column =
        within certain (held ++ List.replicate (depth - left) .blockEnd) left place allowed
          cursor := by
  -- Every block that is closed adds a token to those held back, so the induction is over any.
  have hgo : ∀ depth held, ∃ left ≤ depth, (left = 0 ∨ indentOf left ≤ column) ∧
      (left = depth ∨ column < indentOf (left + 1)) ∧
      closeBlocks.go (within certain held depth place allowed cursor) column (outerOf depth) =
        within certain (held ++ List.replicate (depth - left) .blockEnd) left place allowed
          cursor := by
    intro depth
    induction depth with
    | zero =>
      intro held
      refine ⟨0, Nat.le_refl 0, .inl rfl, .inl rfl, ?_⟩
      simp [outerOf, closeBlocks.go]
    | succ depth ih =>
      intro held
      have hstep : closeBlocks.go (within certain held (depth + 1) place allowed cursor) column
          (outerOf (depth + 1)) =
            if indentOf (depth + 1) > column then
              closeBlocks.go (within certain (held ++ [.blockEnd]) depth place allowed cursor)
                column (outerOf depth)
            else within certain held (depth + 1) place allowed cursor := rfl
      by_cases hcolumn : indentOf (depth + 1) > column
      · obtain ⟨left, hle, hleft, hnext, hgo⟩ := ih (held ++ [.blockEnd])
        refine ⟨left, Nat.le_succ_of_le hle, hleft, .inr ?_, ?_⟩
        · rcases hnext with rfl | hnext
          · exact hcolumn
          · exact hnext
        · have hcount : depth + 1 - left = (depth - left) + 1 := by omega
          rw [hstep, if_pos hcolumn, hgo, hcount, List.replicate_succ, List.append_assoc]
          rfl
      · refine ⟨depth + 1, Nat.le_refl _, .inr (Int.not_lt.mp hcolumn), .inl rfl, ?_⟩
        rw [hstep, if_neg hcolumn, Nat.sub_self, List.replicate_zero, List.append_nil]
  exact hgo depth held

/-- In front of a member only the blocks around it stay open. -/
theorem close_blocks_at_level (certain held : List Token) {depth level : Nat} (h : level ≤ depth)
    (place : Option KeyPlace) (allowed : Bool) (cursor : Cursor) :
    (within certain held depth place allowed cursor).closeBlocks ((2 * level : Nat) : Int) =
      within certain (held ++ List.replicate (depth - (level + 1)) .blockEnd)
        (min depth (level + 1)) place allowed cursor := by
  obtain ⟨left, hle, hleft, hnext, hclose⟩ :=
    close_blocks_within certain held depth place allowed cursor ((2 * level : Nat) : Int)
  have hbelow : left ≤ level + 1 := by
    rcases hleft with rfl | hleft
    · exact Nat.zero_le _
    · cases left with
      | zero => exact Nat.zero_le _
      | succ left =>
        simp only [indentOf] at hleft
        omega
  have habove : left = depth ∨ level < left := by
    rcases hnext with hnext | hnext
    · exact .inl hnext
    · simp only [indentOf] at hnext
      omega
  have hmin : left = min depth (level + 1) := by omega
  have hcount : depth - left = depth - (level + 1) := by omega
  rw [hclose, hcount, hmin]

/-- At the end of a document all blocks are closed, in one go or in two. -/
theorem close_blocks_end (certain held : List Token) (depth : Nat) (place : Option KeyPlace)
    (allowed : Bool) (cursor : Cursor) (column : Nat) :
    ∃ left ≤ depth, (within certain held depth place allowed cursor).closeBlocks (column : Int) =
        within certain (held ++ List.replicate (depth - left) .blockEnd) left place allowed
          cursor ∧
      ∀ held cursor, (within certain held left place allowed cursor).closeBlocks (-1) =
        within certain (held ++ List.replicate left .blockEnd) 0 place allowed cursor := by
  obtain ⟨left, hle, -, -, hclose⟩ :=
    close_blocks_within certain held depth place allowed cursor column
  refine ⟨left, hle, hclose, fun held cursor => ?_⟩
  obtain ⟨last, -, hlast, -, hclose⟩ :=
    close_blocks_within certain held left place allowed cursor (-1)
  obtain rfl : last = 0 := by
    rcases hlast with hlast | hlast
    · exact hlast
    · cases last with
      | zero => rfl
      | succ last =>
        simp only [indentOf] at hlast
        omega
  exact hclose

/-- Further to the right no block is closed. -/
theorem close_blocks_right {s : Scanner} {column : Int} (h : s.indent ≤ column) :
    s.closeBlocks column = s := by
  have hgo : ∀ outer, closeBlocks.go s column outer = s := by
    intro outer
    cases outer with
    | nil => rfl
    | cons indent outer =>
      rw [closeBlocks.go, if_neg (Int.not_lt.mpr h)]
  rw [closeBlocks, hgo, ite_self]

/-- Behind a key no block around it is closed. -/
theorem close_blocks_inside (certain held : List Token) {depth level : Nat}
    (hdepth : depth ≤ level + 1) (place : Option KeyPlace) (allowed : Bool) {cursor : Cursor}
    (hcolumn : 2 * level ≤ cursor.mark.column) :
    (within certain held depth place allowed cursor).closeBlocks cursor.mark.column =
      within certain held depth place allowed cursor := by
  refine close_blocks_right ?_
  show indentOf depth ≤ (cursor.mark.column : Int)
  cases depth with
  | zero => exact Int.le_trans (by decide) (Int.natCast_nonneg _)
  | succ depth =>
    simp only [indentOf]
    omega

/-- Closing blocks does not change whether all of the text can be read. -/
theorem whole_close_blocks (s : Scanner) (column : Int) :
    (s.closeBlocks column).whole = s.whole := by
  have hgo : ∀ outer s, (closeBlocks.go s column outer).whole = s.whole := by
    intro outer
    induction outer with
    | nil => exact fun _ => rfl
    | cons indent outer ih =>
      intro s
      rw [closeBlocks.go]
      split
      · exact ih _
      · rfl
  unfold closeBlocks
  split
  · rfl
  · exact hgo _ s

/-! ## Places of keys -/

/-- What leaves every item as it is leaves all of them. -/
theorem map_fixed {α : Type} {f : α → Option α} {items : List α}
    (h : ∀ item ∈ items, f item = some item) : items.mapM f = some items := by
  induction items with
  | nil => rfl
  | cons item items ih =>
    rw [List.mapM_cons, h item List.mem_cons_self,
      ih fun item hitem => h item (List.mem_cons_of_mem _ hitem)]
    rfl

/-- Places that are not too far behind are kept. -/
theorem drop_stale_fresh {s : Scanner}
    (h : ∀ place, some place ∈ s.places → place.isStale s.cursor.mark = false) :
    s.dropStale = some s := by
  rw [dropStale, map_fixed]
  · rfl
  · intro place hplace
    cases place with
    | none => rfl
    | some place => simp [h place hplace]

/-- A place is not too far behind up to the length of the longest key. -/
theorem fresh_after {place : KeyPlace} {count : Nat} (h : count ≤ longestKey) :
    place.isStale (place.mark.after count) = false := by
  rw [KeyPlace.isStale, Bool.or_eq_false_iff]
  refine ⟨decide_eq_false (Nat.lt_irrefl _), decide_eq_false ?_⟩
  exact Nat.not_lt.mpr (Nat.add_le_add_left h _)

/-- Without any place for a key all tokens are released. -/
theorem release_all {s : Scanner} (h : ∀ place ∈ s.places, place = none) :
    s.release = some { s with
      certain := s.held.reverse ++ s.certain, count := s.count + s.held.length, held := [] } := by
  have hstale : s.dropStale = some s := drop_stale_fresh fun place hplace => nomatch h _ hplace
  have hall : s.releasable = s.held.length := by
    rw [releasable, List.eq_replicate_of_mem h]
    generalize s.places.length = count
    induction count with
    | zero => rfl
    | succ count ih => exact ih
  rw [release, hstale]
  show some _ = _
  rw [hall]
  simp

/-! ## Reading a phrase -/

/-- Reads a scalar: its text, what is left, and whether a key may begin there. -/
def readScalar (quoted : Bool) (margin : Nat) (cursor : Cursor) :
    Option (List Char × Cursor × Bool) :=
  if quoted then (doubleQuoted (cursor.right 1)).map fun (text, behind) => (text, behind, false)
  else plain false margin cursor

/-- A phrase in quotes is read up to the closing one. -/
theorem read_scalar_quoted {phrase : Phrase} (h : Legible phrase) (hquoted : phrase.quoted = true)
    (margin : Nat) (rest : List Char) (mark : Mark) :
    readScalar phrase.quoted margin ⟨phraseText phrase ++ rest, mark⟩ =
      some (phrase.text, ⟨rest, mark.after (phraseText phrase).length⟩, false) := by
  have htext := phrase_text_quoted hquoted
  have hcursor : Cursor.right ⟨phraseText phrase ++ rest, mark⟩ 1 =
      ⟨phrase.text.flatMap quotedChar ++ '"' :: rest, mark.right '"'⟩ := by
    rw [htext, Cursor.right]
    simp
  have hcolumn : (mark.right '"').column ≠ 0 := Nat.succ_ne_zero _
  rw [readScalar, if_pos hquoted, hcursor, double_quoted_written h.printable hcolumn,
    ← Mark.foldl_right h.printable_text mark, htext]
  rfl

/-- A phrase without quotes is read as far as a plain scalar goes. -/
theorem read_scalar_plain {phrase : Phrase} (h : Legible phrase) (hquoted : phrase.quoted = false)
    (margin : Nat) (rest : List Char) (mark : Mark) :
    readScalar phrase.quoted margin ⟨phraseText phrase ++ rest, mark⟩ =
      plainFrom false margin phrase.text.reverse none (mark.after phrase.text.length) rest := by
  rw [readScalar, hquoted, phrase_text_plain hquoted]
  show plainFrom false margin [] none mark (phrase.text ++ rest) = _
  rw [plain_from_chars (h.plain hquoted).2, Mark.foldl_right h.printable, List.append_nil]

/-- A key is read up to its colon. -/
theorem read_scalar_key {phrase : Phrase} (h : Legible phrase) (margin : Nat) {rest : List Char}
    (hgap : atGap rest = true) (mark : Mark) :
    readScalar phrase.quoted margin ⟨phraseText phrase ++ ':' :: rest, mark⟩ =
      some (phrase.text, ⟨':' :: rest, mark.after (phraseText phrase).length⟩, false) := by
  rcases Bool.eq_false_or_eq_true phrase.quoted with hquoted | hquoted
  · exact read_scalar_quoted h hquoted margin (':' :: rest) mark
  · rw [read_scalar_plain h hquoted, plain_from_colon _ _ _ hgap, List.reverse_reverse,
      phrase_text_plain hquoted]

/-! ## Single tokens -/

/-- The first character without quotes is neither an indicator nor a blank nor a dot. -/
theorem first_class {c : Char} (h : isFirst c = true) :
    isIndicator c = false ∧ isBlank c = false ∧ c ≠ '.' :=
  of_ascii (P := fun c => isFirst c = true → isIndicator c = false ∧ isBlank c = false ∧ c ≠ '.')
    (by decide) (ascii_of_first h) h

/-- What begins a plain scalar begins nothing else. -/
theorem take_token_first {s : Scanner} {c : Char} {rest : List Char}
    (htext : s.cursor.text = c :: rest) (hc : isFirst c = true) : s.takeToken = s.takePlain := by
  obtain ⟨hindicator, hblank, hdot⟩ := first_class hc
  -- All other tokens begin with an indicator, apart from the lines that separate documents.
  have hne : ∀ d, isIndicator d = true → c ≠ d := by
    rintro d hd rfl
    rw [hd] at hindicator
    cases hindicator
  have hdocument : ∀ d, c ≠ d → atDocumentLine d (c :: rest) s.cursor.mark = false := by
    intro d hd
    simp [atDocumentLine, hd]
  rw [takeToken]
  simp [htext, hindicator, hblank, hdocument '.' hdot, hdocument '-' (hne '-' rfl), hne '%' rfl,
    hne '[' rfl, hne '\x7b' rfl, hne ']' rfl, hne '\x7d' rfl, hne ',' rfl, hne '-' rfl, hne '?' rfl,
    hne ':' rfl, hne '*' rfl, hne '&' rfl, hne '!' rfl, hne '|' rfl, hne '>' rfl, hne '\x27' rfl,
    hne '"' rfl]

/-- A scalar is taken where a phrase begins, whether a key may begin there or not. -/
theorem take_phrase {s : Scanner} {phrase : Phrase} (h : Legible phrase) {rest : List Char}
    {mark : Mark} (hcursor : s.cursor = ⟨phraseText phrase ++ rest, mark⟩)
    {place : Option KeyPlace} (hnote : s.notePlace = some { s with places := [place] })
    {behind : Cursor} {broken : Bool}
    (hread : readScalar phrase.quoted s.margin s.cursor = some (phrase.text, behind, broken)) :
    s.takeToken = some { s with
      places := [place], held := s.held ++ [phraseToken phrase], cursor := behind,
      keyAllowed := broken } := by
  rcases Bool.eq_false_or_eq_true phrase.quoted with hquoted | hquoted
  · have htext : s.cursor.text = '"' :: (phrase.text.flatMap quotedChar ++ ['"'] ++ rest) := by
      rw [hcursor, phrase_text_quoted hquoted]
      rfl
    have htake : s.takeToken = s.takeQuoted doubleQuoted := by
      rw [takeToken]
      simp [htext, atDocumentLine]
    rw [readScalar, if_pos hquoted] at hread
    obtain ⟨⟨text, cursor⟩, hdouble, hresult⟩ := Option.map_eq_some_iff.mp hread
    cases hresult
    rw [htake, takeQuoted, hnote]
    show (doubleQuoted _ >>= _) = _
    rw [hdouble, phraseToken, hquoted]
    rfl
  · have htake : s.takeToken = s.takePlain := by
      obtain ⟨⟨c, others, htext, hc⟩, -⟩ := h.plain hquoted
      have hbegin : s.cursor.text = c :: (others ++ rest) := by
        rw [hcursor, phrase_text_plain hquoted, htext, List.cons_append]
      exact take_token_first hbegin hc
    rw [readScalar, hquoted] at hread
    rw [htake, takePlain, hnote]
    show (plain false s.margin s.cursor >>= _) = _
    rw [show plain false s.margin s.cursor = _ from hread, phraseToken, hquoted]
    rfl

/-- At a brace a flow mapping begins. -/
theorem take_token_open {s : Scanner} {rest : List Char} (htext : s.cursor.text = '\x7b' :: rest) :
    s.takeToken = s.takeFlowStart .flowMappingStart := by
  rw [takeToken]
  simp [htext, atDocumentLine]

/-- At the other brace a flow mapping ends. -/
theorem take_token_close {s : Scanner} {rest : List Char}
    (htext : s.cursor.text = '\x7d' :: rest) :
    s.takeToken = s.takeFlowEnd .flowMappingEnd := by
  rw [takeToken]
  simp [htext, atDocumentLine]

/-- A colon in front of a gap stands behind a key. -/
theorem take_token_colon {s : Scanner} {rest : List Char} (htext : s.cursor.text = ':' :: rest)
    (hgap : atGap rest = true) : s.takeToken = s.takeValue := by
  rw [takeToken]
  simp [htext, hgap, atDocumentLine]

/-! ## Keys -/

/-- Where a key may begin, its place is noted. -/
theorem note_place_within (certain held : List Token) (depth : Nat) (cursor : Cursor) :
    (within certain held depth none true cursor).notePlace =
      some (within certain held depth (some ⟨certain.length + held.length, cursor.mark,
        indentOf depth == (cursor.mark.column : Int)⟩) true cursor) := rfl

/-- The tokens before the place of a key are released. -/
theorem release_before_key {certain held : List Token} {token : Token} {depth : Nat}
    {place : KeyPlace} {allowed : Bool} {cursor : Cursor}
    (hnumber : place.number = certain.length + held.length)
    (hfresh : place.isStale cursor.mark = false) :
    (within certain (held ++ [token]) depth (some place) allowed cursor).release =
      some (within (certain ++ held) [token] depth (some place) allowed cursor) := by
  have hstale : (within certain (held ++ [token]) depth (some place) allowed cursor).dropStale =
      some (within certain (held ++ [token]) depth (some place) allowed cursor) := by
    refine drop_stale_fresh fun other hother => ?_
    obtain rfl := Option.some.inj (List.mem_singleton.mp hother)
    exact hfresh
  have hcount : (within certain (held ++ [token]) depth (some place) allowed cursor).releasable =
      held.length := by
    show min (held ++ [token]).length (place.number - certain.length) = held.length
    rw [hnumber, List.length_append, List.length_singleton]
    omega
  rw [release, hstale]
  show some _ = _
  rw [hcount]
  simp [within]

/-- A token in front of the held ones becomes the first of them. -/
theorem insert_first (certain held : List Token) (depth : Nat) (place : Option KeyPlace)
    (allowed : Bool) (cursor : Cursor) (token : Token) :
    (within certain held depth place allowed cursor).insertAt certain.length token =
      within certain (token :: held) depth place allowed cursor := by
  simp [insertAt, within]

/-- A key further to the right opens a block. -/
theorem open_block_first (certain held : List Token) (level : Nat) (place : Option KeyPlace)
    (allowed : Bool) (cursor : Cursor) (token : Token) :
    (within certain held level place allowed cursor).openBlock (2 * level) (some certain.length)
        token = within certain (token :: held) (level + 1) place allowed cursor := by
  have hright : ¬ ((2 * level : Nat) : Int) ≤ indentOf level := by
    cases level with
    | zero => decide
    | succ level =>
      simp only [indentOf]
      omega
  have hcondition : ((within certain held level place allowed cursor).inFlow ||
      ((2 * level : Nat) : Int) ≤ (within certain held level place allowed cursor).indent) =
        false := decide_eq_false hright
  rw [openBlock, hcondition, if_neg Bool.false_ne_true]
  exact insert_first certain held (level + 1) place allowed cursor token

/-- A key at the same column goes on with the block. -/
theorem open_block_next (certain held : List Token) (level : Nat) (place : Option KeyPlace)
    (allowed : Bool) (cursor : Cursor) (number : Option Nat) (token : Token) :
    (within certain held (level + 1) place allowed cursor).openBlock (2 * level) number token =
      within certain held (level + 1) place allowed cursor := by
  have hcondition : ((within certain held (level + 1) place allowed cursor).inFlow ||
      ((2 * level : Nat) : Int) ≤
        (within certain held (level + 1) place allowed cursor).indent) = true :=
    decide_eq_true (Int.le_refl _)
  rw [openBlock, if_pos hcondition]

/-- The colon shows that the scalar before it is a key. -/
theorem take_value_within (certain : List Token) (token : Token) (depth : Nat) (place : KeyPlace)
    (allowed : Bool) (cursor : Cursor) :
    (within certain [token] depth (some place) allowed cursor).takeValue =
      some { take (openBlock (insertAt (within certain [token] depth (some place) allowed cursor)
        place.number .key) place.mark.column (some place.number) .blockMappingStart) 1 .value with
          places := [none], keyAllowed := false } := rfl

/-- The first key of a block opens it. -/
theorem take_value_first {certain : List Token} {token : Token} {level : Nat} {place : KeyPlace}
    {allowed : Bool} {cursor : Cursor} (hnumber : place.number = certain.length)
    (hcolumn : place.mark.column = 2 * level) :
    (within certain [token] level (some place) allowed cursor).takeValue =
      some (within certain [.blockMappingStart, .key, token, .value] (level + 1) none false
        (cursor.right 1)) := by
  rw [take_value_within, hnumber, hcolumn, insert_first, open_block_first]
  rfl

/-- Another key of a block goes on with it. -/
theorem take_value_next {certain : List Token} {token : Token} {level : Nat} {place : KeyPlace}
    {allowed : Bool} {cursor : Cursor} (hnumber : place.number = certain.length)
    (hcolumn : place.mark.column = 2 * level) :
    (within certain [token] (level + 1) (some place) allowed cursor).takeValue =
      some (within certain [.key, token, .value] (level + 1) none false (cursor.right 1)) := by
  rw [take_value_within, hnumber, hcolumn, insert_first, open_block_next]
  rfl

/-- Without any place for a key everything is released. -/
theorem release_within (certain held : List Token) (depth : Nat) (allowed : Bool)
    (cursor : Cursor) :
    (within certain held depth none allowed cursor).release =
      some (within (certain ++ held) [] depth none allowed cursor) := by
  rw [release_all fun place hplace => List.mem_singleton.mp hplace]
  simp [within]

/-! ## Steps -/

/-- What a step does, as far as the text can be seen to its end. -/
theorem next_eq {s last : Scanner} {allowed : Bool} {behind : Cursor} (hwhole : s.whole = true)
    (hskip : skipSpace s.keyAllowed s.inFlow false s.cursor.mark s.cursor.text =
      (allowed, behind))
    (hfresh : ∀ place, some place ∈ s.places → place.isStale behind.mark = false)
    (htake : (closeBlocks { s with cursor := behind, keyAllowed := allowed }
      behind.mark.column).takeToken = some last)
    (hlast : last.whole = true) : s.next = some last := by
  -- The scanner stops where it cannot see far enough, which never happens once all has been read.
  have hsees : ∀ s : Scanner, s.whole = true → ∀ count, s.sees count = true := by
    intro s hs count
    rw [sees, hs, Bool.true_or]
  have hstale : dropStale { s with cursor := behind, keyAllowed := allowed } =
      some { s with cursor := behind, keyAllowed := allowed } := drop_stale_fresh hfresh
  have hclosed : (closeBlocks { s with cursor := behind, keyAllowed := allowed }
      behind.mark.column).sees lookahead = true :=
    hsees _ ((whole_close_blocks { s with cursor := behind, keyAllowed := allowed } _).trans
      hwhole) _
  rw [next, hskip]
  show (dropStale _ >>= _) = _
  rw [hstale]
  show (if _ then _ else _) = _
  rw [if_pos hclosed, htake]
  show (if _ then _ else _) = _
  rw [if_pos (hsees last hlast 1)]

/-- A step is made of passing over space, closing blocks, taking a token and releasing. -/
theorem step_within {certain held : List Token} {depth : Nat} {place : Option KeyPlace}
    {keyAllowed allowed : Bool} {cursor behind : Cursor} {closed taken last : Scanner}
    (hskip : skipSpace keyAllowed false false cursor.mark cursor.text = (allowed, behind))
    (hfresh : ∀ key, place = some key → key.isStale behind.mark = false)
    (hclose : (within certain held depth place allowed behind).closeBlocks behind.mark.column =
      closed)
    (htake : closed.takeToken = some taken) (hwhole : taken.whole = true)
    (hrelease : taken.release = some last) :
    (within certain held depth place keyAllowed cursor).next.bind release = some last := by
  have hplaces : ∀ key, some key ∈ (within certain held depth place keyAllowed cursor).places →
      key.isStale behind.mark = false := fun key hkey =>
    hfresh key (List.mem_singleton.mp hkey).symm
  have hnext := next_eq (s := within certain held depth place keyAllowed cursor) rfl hskip hplaces
    (hclose.symm ▸ htake) hwhole
  rw [hnext]
  exact hrelease

/-- The scanner gets from one state to another by steps that leave less and less text. -/
inductive Reaches : Scanner → Scanner → Prop where
  | refl (s : Scanner) : Reaches s s
  | step {s next last : Scanner} (hended : s.ended = false)
      (hnext : s.next.bind release = some next)
      (hless : next.cursor.text.length < s.cursor.text.length) (hrest : Reaches next last) :
      Reaches s last

/-- What is reached from a state that is reached is reached. -/
theorem Reaches.trans {s middle last : Scanner} (h : Reaches s middle)
    (hlast : Reaches middle last) : Reaches s last := by
  induction h with
  | refl => exact hlast
  | step hended hnext hless _ ih => exact .step hended hnext hless (ih hlast)

/-- A run goes through everything that is reached, and there is fuel left for the rest. -/
theorem run_of_reaches {s last : Scanner} (h : Reaches s last) :
    ∀ fuel, s.cursor.text.length + 2 ≤ fuel →
      ∃ left, last.cursor.text.length + 2 ≤ left ∧ s.run fuel = last.run left := by
  induction h with
  | refl s => exact fun fuel hfuel => ⟨fuel, hfuel, rfl⟩
  | @step s next last hended hnext hless _ ih =>
    intro fuel hfuel
    obtain ⟨fuel, rfl⟩ := Nat.exists_eq_add_of_le' (Nat.le_trans (Nat.le_add_left 1 _) hfuel)
    obtain ⟨left, hleft, hrun⟩ := ih fuel (by omega)
    refine ⟨left, hleft, ?_⟩
    rw [Scanner.run, if_neg (by rw [hended]; exact Bool.false_ne_true), hnext]
    exact hrun

end Scanner

end StorageBackend.Yaml
