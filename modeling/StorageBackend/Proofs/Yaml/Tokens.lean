import StorageBackend.Proofs.Yaml.Scanner

/-!
# The tokens of trees

`memberTokens` are the tokens of a block's members, and the scanner finds them in the document in
which the block is written (`tokens_document`). A line break means nothing by itself: only the next
line shows how many blocks have ended before it. `Between` is the state of the scanner behind a
member, with all that the next line will show about the blocks inside.
-/

namespace StorageBackend.Yaml

open StorageBackend.Tree (Member Node NullWord Phrase)

/-! ## Tokens -/

mutual

/-- The tokens of a tree. -/
def nodeTokens : Node → List Token
  | .null word => if word.text = [] then [] else [.scalar word.text true]
  | .text phrase => [phraseToken phrase]
  | .block [] => [.flowMappingStart, .flowMappingEnd]
  | .block (member :: block) =>
    .blockMappingStart :: (memberTokens (member :: block) ++ [.blockEnd])

/-- The tokens of the members of a block. -/
def memberTokens : List Member → List Token
  | [] => []
  | (key, node) :: rest =>
    .key :: phraseToken key :: .value :: (nodeTokens node ++ memberTokens rest)

end

/-! ## Characters -/

/-- A phrase with a space in front of it may stand in a YAML text. -/
theorem allowed_spaced {phrase : Phrase} (h : Legible phrase) :
    ∀ c ∈ ' ' :: phraseText phrase, isAllowed c = true := by
  intro c hc
  rcases List.mem_cons.mp hc with rfl | hc
  · rfl
  · exact (printable_class (h.printable_text c hc)).2.2.1

/-- So may the beginning of a line. -/
theorem allowed_line_start (level : Nat) : ∀ c ∈ lineStart level, isAllowed c = true := by
  intro c hc
  rcases List.mem_cons.mp hc with rfl | hc
  · rfl
  · obtain rfl := List.eq_of_mem_replicate hc
    rfl

mutual

/-- Everything that is written in a value may stand in a document. -/
theorem allowed_value (level : Nat) (node : Node) (h : Writable node) :
    ∀ c ∈ valueText level node, isAllowed c = true := by
  match node with
  | .null word =>
    rw [valueText, spaced]
    split
    · nofun
    · next hword => exact allowed_spaced (legible_null hword)
  | .text phrase =>
    rw [Writable] at h
    exact allowed_spaced h.legible
  | .block [] =>
    rw [valueText]
    exact List.all_eq_true.mp rfl
  | .block (member :: block) =>
    rw [Writable] at h
    rw [valueText]
    exact allowed_lines (level + 1) (member :: block) h

/-- Everything that is written in a block may stand in a document. -/
theorem allowed_lines (level : Nat) (block : List Member) (h : WritableMembers block) :
    ∀ c ∈ linesText level block, isAllowed c = true := by
  match block with
  | [] => nofun
  | (key, node) :: rest =>
    rw [WritableMembers] at h
    obtain ⟨hkey, hnode, hrest⟩ := h
    intro c hc
    rw [linesText] at hc
    rcases List.mem_append.mp hc with hc | hc
    · exact allowed_line_start level c hc
    · rcases List.mem_append.mp hc with hc | hc
      · exact allowed_spaced hkey.legible c (List.mem_cons_of_mem _ hc)
      · rcases List.mem_cons.mp hc with rfl | hc
        · rfl
        · rcases List.mem_append.mp hc with hc | hc
          · exact allowed_value level node hnode c hc
          · exact allowed_lines level rest hrest c hc

end

/-! ## What stands behind a member -/

/-- What stands behind a member: the end of the document, maybe with a line break before it, or
another line. -/
inductive Coming where
  | stop (newline : Bool)
  | line (level : Nat) (text : List Char)

/-- The text that comes. -/
def Coming.text : Coming → List Char
  | .stop newline => if newline then ['\n'] else []
  | .line level text => lineStart level ++ text

/-- Whether a line may begin with a character, behind its indentation. -/
def opensLine (c : Char) : Bool := c == '"' || isFirst c

/-- What may come behind a member inside a number of blocks. -/
def Coming.Behind (level : Nat) : Coming → Prop
  | .stop _ => True
  | .line outer text => outer ≤ level ∧ ∃ c rest, text = c :: rest ∧ opensLine c = true

/-- What may come behind a block may come behind a block inside it. -/
theorem Coming.Behind.mono {coming : Coming} {level inner : Nat} (h : coming.Behind level)
    (hle : level ≤ inner) : coming.Behind inner := by
  cases coming with
  | stop newline => trivial
  | line outer text => exact ⟨Nat.le_trans h.1 hle, h.2⟩

/-- The lines of a block, and what comes behind them. -/
def comingLines (level : Nat) : List Member → Coming → Coming
  | [], coming => coming
  | (key, node) :: rest, coming =>
    .line level
      (phraseText key ++ ':' :: (valueText level node ++ (comingLines level rest coming).text))

/-- The text of some members comes in front of what comes behind them. -/
theorem text_coming_lines (level : Nat) (block : List Member) (coming : Coming) :
    (comingLines level block coming).text = linesText level block ++ coming.text := by
  induction block with
  | nil => rfl
  | cons member block ih =>
    obtain ⟨key, node⟩ := member
    rw [comingLines, Coming.text, ih, linesText]
    simp

/-- Further members may come behind a member. -/
theorem Coming.Behind.lines {level : Nat} {block : List Member} (h : WritableMembers block)
    {coming : Coming} (hcoming : coming.Behind level) :
    (comingLines level block coming).Behind level := by
  cases block with
  | nil => exact hcoming
  | cons member block =>
    obtain ⟨key, node⟩ := member
    obtain ⟨c, rest, htext, hc⟩ := h.1.legible.head
    refine ⟨Nat.le_refl level, c, _, by rw [htext, List.cons_append], ?_⟩
    rw [opensLine, Bool.or_eq_true, beq_iff_eq]
    exact hc

/-- There is a gap behind every colon. -/
theorem gap_value {coming : Coming} {level : Nat} (node : Node) :
    atGap (valueText level node ++ coming.text) = true := by
  have hcoming : atGap coming.text = true := by
    cases coming with
    | stop newline => cases newline <;> rfl
    | line outer text => rfl
  cases node with
  | null word =>
    rw [valueText, spaced]
    split
    · exact hcoming
    · rfl
  | text phrase => rfl
  | block block =>
    cases block with
    | nil => rfl
    | cons member block => rfl

/-- What opens a line is ASCII. -/
theorem ascii_of_opens_line {c : Char} (h : opensLine c = true) : c.toNat < 128 := by
  rw [opensLine, Bool.or_eq_true, beq_iff_eq] at h
  rcases h with rfl | h
  · decide
  · exact ascii_of_first h

/-- A line does not begin with anything that the scanner passes over. -/
theorem opens_line_class {c : Char} (h : opensLine c = true) :
    isBlank c = false ∧ isBreak c = false ∧ c ≠ ' ' ∧ c ≠ '\t' ∧ c ≠ byteOrderMark ∧ c ≠ '#' :=
  of_ascii (P := fun c => opensLine c = true → isBlank c = false ∧ isBreak c = false ∧
    c ≠ ' ' ∧ c ≠ '\t' ∧ c ≠ byteOrderMark ∧ c ≠ '#') (by decide) (ascii_of_opens_line h) h

/-- A document begins with the key of its first member. -/
theorem document_text_cons (key : Phrase) (node : Node) (rest : List Member) (newline : Bool) :
    documentText ((key, node) :: rest) newline =
      phraseText key ++ ':' :: (valueText 0 node ++ (comingLines 0 rest (.stop newline)).text) := by
  rw [text_coming_lines]
  simp [documentText, linesText, lineStart, Coming.text]

/-- A document opens its first line with the key of a member. -/
theorem document_text_head {block : List Member} (h : WritableMembers block) (hblock : block ≠ [])
    (newline : Bool) :
    ∃ c rest, documentText block newline = c :: rest ∧ opensLine c = true := by
  have hbehind : (comingLines 0 block (.stop newline)).Behind 0 := .lines h trivial
  obtain ⟨⟨key, node⟩, rest, rfl⟩ := List.exists_cons_of_ne_nil hblock
  rw [document_text_cons]
  exact hbehind.2

namespace Scanner

/-- The scanner passes over space and arrives at what comes. -/
def Arrives (coming : Coming) (keyAllowed : Bool) (cursor : Cursor) : Prop :=
  match coming with
  | .stop _ => ∃ allowed mark,
      skipSpace keyAllowed false false cursor.mark cursor.text = (allowed, ⟨[], mark⟩)
  | .line level text => ∃ mark : Mark, mark.column = 2 * level ∧
      skipSpace keyAllowed false false cursor.mark cursor.text = (true, ⟨text, mark⟩)

/-- In front of what comes the scanner arrives at it. -/
theorem arrives_at {coming : Coming} {level : Nat} (h : coming.Behind level) (keyAllowed : Bool)
    (mark : Mark) : Arrives coming keyAllowed ⟨coming.text, mark⟩ := by
  cases coming with
  | stop newline =>
    cases newline with
    | false => exact ⟨keyAllowed, mark, by rw [Coming.text]; simp [skipSpace]⟩
    | true =>
      refine ⟨true, mark.newLine 1, ?_⟩
      show skipSpace _ _ _ _ ['\n'] = _
      rw [skip_space_break, skipSpace]
  | line level text =>
    obtain ⟨-, start, rest, rfl, hopens⟩ := h
    obtain ⟨-, hstart⟩ := opens_line_class hopens
    refine ⟨(mark.newLine 1).after (2 * level), ?_, ?_⟩
    · simp [Mark.after, Mark.newLine]
    · show skipSpace _ _ _ _ ('\n' :: (List.replicate (2 * level) ' ' ++ start :: rest)) = _
      rw [skip_space_break, skip_space_spaces, skip_space_stop _ _ _ hstart]

/-- A word without quotes ends where something comes, and is left there or behind the line break. -/
theorem plain_from_coming {coming : Coming} {level : Nat} (h : coming.Behind level)
    (done : List Char) (mark : Mark) :
    ∃ behind broken, plainFrom false (2 * level + 1) done none mark coming.text =
        some (done.reverse, behind, broken) ∧
      behind.text.length ≤ coming.text.length ∧ Arrives coming broken behind := by
  cases coming with
  | stop newline =>
    cases newline with
    | false =>
      exact ⟨_, _, plain_from_nil _ done mark, Nat.le_refl 0, false, mark, by rw [skipSpace]⟩
    | true =>
      exact ⟨_, _, plain_from_last_break _ done mark, Nat.zero_le 1, true, mark.newLine 1,
        by rw [skipSpace]⟩
  | line outer text =>
    obtain ⟨houter, start, rest, rfl, hopens⟩ := h
    obtain ⟨hblank, hstart⟩ := opens_line_class hopens
    have hcolumn : 2 * outer < 2 * level + 1 := by omega
    refine ⟨_, _, plain_from_line hcolumn done mark hblank hstart.1 rest, ?_,
      (mark.newLine 1).after (2 * outer), ?_, ?_⟩
    · simp [Coming.text]
    · simp [Mark.after, Mark.newLine]
    · exact skip_space_stop _ _ _ hstart rest

/-- A value is read up to what comes. -/
theorem read_scalar_value {phrase : Phrase} (h : Legible phrase) {coming : Coming} {level : Nat}
    (hcoming : coming.Behind level) (mark : Mark) :
    ∃ behind broken, readScalar phrase.quoted (2 * level + 1)
        ⟨phraseText phrase ++ coming.text, mark⟩ = some (phrase.text, behind, broken) ∧
      behind.text.length ≤ coming.text.length ∧ Arrives coming broken behind := by
  rcases Bool.eq_false_or_eq_true phrase.quoted with hquoted | hquoted
  · exact ⟨_, _, read_scalar_quoted h hquoted _ _ mark, Nat.le_refl _, arrives_at hcoming _ _⟩
  · obtain ⟨behind, broken, hplain, hlength, harrives⟩ :=
      plain_from_coming hcoming phrase.text.reverse (mark.after phrase.text.length)
    refine ⟨behind, broken, ?_, hlength, harrives⟩
    rw [read_scalar_plain h hquoted, hplain, List.reverse_reverse]

/-! ## Members -/

/-- What the first key at a level shows about the blocks in front of it: that it opens one, or how
many have ended. -/
def shown (level depth : Nat) : List Token :=
  if depth = level then [.blockMappingStart] else List.replicate (depth - (level + 1)) .blockEnd

/-- Up to a key: its text is held back, and its place is noted. -/
theorem key_step {key : Phrase} (h : WritableKey key) {rest : List Char}
    (hgap : atGap rest = true) {level depth : Nat} (hlevel : level ≤ depth) {keyAllowed : Bool}
    {cursor : Cursor} {mark : Mark} (hcolumn : mark.column = 2 * level)
    (hskip : skipSpace keyAllowed false false cursor.mark cursor.text =
      (true, ⟨phraseText key ++ ':' :: rest, mark⟩)) (certain : List Token) :
    ∃ place : KeyPlace, place.number = certain.length + (depth - (level + 1)) ∧
      place.mark = mark ∧
      (within certain [] depth none keyAllowed cursor).next.bind release =
        some (within (certain ++ List.replicate (depth - (level + 1)) .blockEnd)
          [phraseToken key] (min depth (level + 1)) (some place) false
          ⟨':' :: rest, mark.after (phraseText key).length⟩) := by
  have hclose := close_blocks_at_level certain [] hlevel none true
    ⟨phraseText key ++ ':' :: rest, mark⟩
  rw [List.nil_append, ← hcolumn] at hclose
  have htake := take_phrase h.legible rfl
    (note_place_within certain (List.replicate (depth - (level + 1)) .blockEnd)
      (min depth (level + 1)) ⟨phraseText key ++ ':' :: rest, mark⟩)
    (read_scalar_key h.legible _ hgap mark)
  -- The tokens of the blocks that have ended are released, since the key begins behind them.
  refine ⟨_, ?_, rfl, step_within hskip nofun hclose htake rfl (release_before_key rfl ?_)⟩
  · rw [List.length_replicate]
  · exact fresh_after (Nat.le_trans h.length_text (by decide))

/-- From a key on over its colon. -/
theorem colon_step (certain : List Token) (token : Token) {level left : Nat}
    (hleft : left = level ∨ left = level + 1) (place : KeyPlace) (mark : Mark) {rest : List Char}
    (hnumber : place.number = certain.length) (hcolumn : place.mark.column = 2 * level)
    (hfresh : place.isStale mark = false) (hmark : 2 * level ≤ mark.column)
    (hgap : atGap rest = true) :
    (within certain [token] left (some place) false ⟨':' :: rest, mark⟩).next.bind release =
      some (within (certain ++ (if left = level then [Token.blockMappingStart] else []) ++
        [.key, token, .value]) [] (level + 1) none false ⟨rest, mark.right ':'⟩) := by
  have hskip := skip_space_stop false false mark
    (show isBreak ':' = false ∧ ':' ≠ ' ' ∧ ':' ≠ '\t' ∧ ':' ≠ byteOrderMark ∧ ':' ≠ '#' by decide)
    rest
  have hclose : (within certain [token] left (some place) false ⟨':' :: rest, mark⟩).closeBlocks
      mark.column = _ :=
    close_blocks_inside certain [token] (show left ≤ level + 1 by omega) (some place) false hmark
  have hplaces : ∀ key, some place = some key → key.isStale mark = false := by
    rintro key hkey
    obtain rfl := Option.some.inj hkey
    exact hfresh
  have hcolon := take_token_colon (s := within certain [token] left (some place) false
    ⟨':' :: rest, mark⟩) rfl hgap
  rcases hleft with rfl | rfl
  · have htake := hcolon.trans (take_value_first hnumber hcolumn)
    rw [step_within hskip hplaces hclose htake rfl (release_within _ _ _ _ _), if_pos rfl]
    simp [Cursor.right]
  · have htake := hcolon.trans (take_value_next hnumber hcolumn)
    rw [step_within hskip hplaces hclose htake rfl (release_within _ _ _ _ _),
      if_neg (Nat.succ_ne_self level)]
    simp [Cursor.right]

/-- A key and its colon are read at the beginning of a line. -/
theorem key_scanned {key : Phrase} (h : WritableKey key) {rest : List Char}
    (hgap : atGap rest = true) {level depth : Nat} (hlevel : level ≤ depth) {keyAllowed : Bool}
    {cursor : Cursor} (harrives : Arrives (.line level (phraseText key ++ ':' :: rest)) keyAllowed
      cursor) (certain : List Token) :
    ∃ mark : Mark, 2 * level < mark.column ∧
      Reaches (within certain [] depth none keyAllowed cursor)
        (within (certain ++ shown level depth ++ [.key, phraseToken key, .value]) [] (level + 1)
          none false ⟨rest, mark⟩) := by
  obtain ⟨start, hcolumn, hskip⟩ := harrives
  obtain ⟨place, hnumber, hplace, hkey⟩ := key_step h hgap hlevel hcolumn hskip certain
  have hlength := length_skip_space keyAllowed false false cursor.mark cursor.text
  obtain ⟨c, others, htext, -⟩ := h.legible.head
  rw [hskip, htext] at hlength
  have hleft : min depth (level + 1) = level ∨ min depth (level + 1) = level + 1 := by omega
  have hcolon := colon_step (certain ++ List.replicate (depth - (level + 1)) .blockEnd)
    (phraseToken key) hleft place (start.after (phraseText key).length)
    (by rw [hnumber, List.length_append, List.length_replicate]) (by rw [hplace, hcolumn])
    (by rw [← hplace]; exact fresh_after (Nat.le_trans h.length_text (by decide)))
    (by simp [Mark.after, hcolumn]) hgap
  -- What the key closes and what its colon opens is shown together: one of the two is nothing.
  have hshown : List.replicate (depth - (level + 1)) Token.blockEnd ++
      (if min depth (level + 1) = level then [Token.blockMappingStart] else []) =
        shown level depth := by
    unfold shown
    by_cases hdepth : depth = level
    · rw [if_pos hdepth, if_pos (by omega), hdepth]
      simp
    · rw [if_neg hdepth, if_neg (by omega), List.append_nil]
  refine ⟨(start.after (phraseText key).length).right ':', ?_, ?_⟩
  · simp only [Mark.right, Mark.after]
    omega
  · rw [← hshown, ← List.append_assoc]
    refine .step rfl hkey ?_ (.step rfl hcolon ?_ (.refl _))
    · simp only [within, List.length_cons, List.length_append] at hlength ⊢
      omega
    · exact Nat.lt_succ_self _

/-! ## Values -/

/-- The scanner behind a member, or behind the beginning of a block: `ended` more blocks are open
than there will be when the next line has shown that they have ended. -/
inductive Between (depth : Nat) (coming : Coming) : List Token → Scanner → Prop where
  | mk (certain : List Token) (ended : Nat) (keyAllowed : Bool) (cursor : Cursor)
      (h : Arrives coming keyAllowed cursor) :
      Between depth coming (certain ++ List.replicate ended .blockEnd)
        (within certain [] (depth + ended) none keyAllowed cursor)

/-- Nothing has ended yet. -/
theorem Between.here {depth : Nat} {coming : Coming} {certain : List Token} {keyAllowed : Bool}
    {cursor : Cursor} (h : Arrives coming keyAllowed cursor) :
    Between depth coming certain (within certain [] depth none keyAllowed cursor) := by
  have hbetween : Between depth coming _ _ := .mk certain 0 keyAllowed cursor h
  rwa [List.replicate_zero, List.append_nil] at hbetween

/-- Seen from further out, one more block has ended. -/
theorem Between.outside {depth : Nat} {coming : Coming} {tokens : List Token} {s : Scanner}
    (h : Between (depth + 1) coming tokens s) : Between depth coming (tokens ++ [.blockEnd]) s := by
  cases h with
  | mk certain ended keyAllowed cursor h =>
    have hbetween : Between depth coming _ _ := .mk certain (ended + 1) keyAllowed cursor h
    rw [List.replicate_succ'] at hbetween
    rwa [List.append_assoc, Nat.add_assoc, Nat.add_comm 1 ended]

/-- A phrase is read as a value. -/
theorem phrase_scanned {phrase : Phrase} (h : Legible phrase) {coming : Coming} {level : Nat}
    (hcoming : coming.Behind level) {mark : Mark} (hmark : 2 * level < mark.column)
    (certain : List Token) :
    ∃ last, Reaches (within certain [] (level + 1) none false
        ⟨' ' :: (phraseText phrase ++ coming.text), mark⟩) last ∧
      Between (level + 1) coming (certain ++ [phraseToken phrase]) last := by
  obtain ⟨behind, broken, hread, hlength, harrives⟩ :=
    read_scalar_value h hcoming (mark.after 1)
  obtain ⟨c, others, htext, hc⟩ := h.head
  have hopens : opensLine c = true := by
    rcases hc with rfl | hc
    · rfl
    · rw [opensLine, hc, Bool.or_true]
  have hskip : skipSpace false false false mark (' ' :: (phraseText phrase ++ coming.text)) =
      (false, ⟨phraseText phrase ++ coming.text, mark.after 1⟩) := by
    rw [htext, List.cons_append]
    exact (skip_space_spaces false 1 mark _).trans
      (skip_space_stop _ _ _ (opens_line_class hopens).2 _)
  have hcolumn : 2 * level ≤ (mark.after 1).column := Nat.le_succ_of_le (Nat.le_of_lt hmark)
  have hclose : (within certain [] (level + 1) none false
      ⟨phraseText phrase ++ coming.text, mark.after 1⟩).closeBlocks (mark.after 1).column = _ :=
    close_blocks_inside certain [] (Nat.le_refl _) none false hcolumn
  have htake := take_phrase (s := within certain [] (level + 1) none false
    ⟨phraseText phrase ++ coming.text, mark.after 1⟩) h rfl rfl hread
  have hstep : (within certain [] (level + 1) none false
      ⟨' ' :: (phraseText phrase ++ coming.text), mark⟩).next.bind release = _ :=
    step_within hskip nofun hclose htake rfl
      (release_within certain [phraseToken phrase] (level + 1) broken behind)
  refine ⟨_, .step rfl hstep ?_ (.refl _), .here harrives⟩
  simp only [within, List.length_cons, List.length_append]
  omega

/-- The scanner behind an opening brace. -/
def braced (certain : List Token) (depth : Nat) (cursor : Cursor) : Scanner :=
  { within certain [] depth none true cursor with places := [none, none] }

/-- Over the opening brace of an empty block. -/
theorem open_step {level : Nat} {mark : Mark} (hmark : 2 * level < mark.column)
    (certain : List Token) (rest : List Char) :
    (within certain [] (level + 1) none false ⟨' ' :: '\x7b' :: rest, mark⟩).next.bind release =
      some (braced (certain ++ [.flowMappingStart]) (level + 1)
        ⟨rest, (mark.after 1).right '\x7b'⟩) := by
  have hskip : skipSpace false false false mark (' ' :: '\x7b' :: rest) =
      (false, ⟨'\x7b' :: rest, mark.after 1⟩) :=
    (skip_space_spaces false 1 mark _).trans (skip_space_stop _ _ _ (by decide) _)
  have hcolumn : 2 * level ≤ (mark.after 1).column := Nat.le_succ_of_le (Nat.le_of_lt hmark)
  have hclose : (within certain [] (level + 1) none false
      ⟨'\x7b' :: rest, mark.after 1⟩).closeBlocks (mark.after 1).column = _ :=
    close_blocks_inside certain [] (Nat.le_refl _) none false hcolumn
  have htake : (within certain [] (level + 1) none false
      ⟨'\x7b' :: rest, mark.after 1⟩).takeToken =
        some { within certain [.flowMappingStart] (level + 1) none true
          ⟨rest, (mark.after 1).right '\x7b'⟩ with places := [none, none] } :=
    take_token_open rfl
  refine step_within hskip nofun hclose htake rfl ?_
  rw [release_all (by simp)]
  simp [braced, within]

/-- Over the closing brace of an empty block. -/
theorem close_step (certain : List Token) (depth : Nat) (rest : List Char) (mark : Mark) :
    (braced certain depth ⟨'\x7d' :: rest, mark⟩).next.bind release =
      some (within (certain ++ [.flowMappingEnd]) [] depth none false
        ⟨rest, mark.right '\x7d'⟩) := by
  have hskip := skip_space_stop true true mark
    (show isBreak '\x7d' = false ∧ '\x7d' ≠ ' ' ∧ '\x7d' ≠ '\t' ∧ '\x7d' ≠ byteOrderMark ∧
      '\x7d' ≠ '#' by decide) rest
  have htake : (braced certain depth ⟨'\x7d' :: rest, mark⟩).takeToken =
      some (within certain [.flowMappingEnd] depth none false ⟨rest, mark.right '\x7d'⟩) :=
    take_token_close rfl
  have hnext : (braced certain depth ⟨'\x7d' :: rest, mark⟩).next = _ :=
    next_eq rfl hskip (by simp [braced]) htake rfl
  rw [hnext]
  exact release_within _ _ _ _ _

/-- An empty block is read as a value. -/
theorem braces_scanned {coming : Coming} {level : Nat} (hcoming : coming.Behind level) {mark : Mark}
    (hmark : 2 * level < mark.column) (certain : List Token) :
    ∃ last, Reaches (within certain [] (level + 1) none false
        ⟨' ' :: '\x7b' :: '\x7d' :: coming.text, mark⟩) last ∧
      Between (level + 1) coming (certain ++ [.flowMappingStart, .flowMappingEnd]) last := by
  have hopen := open_step hmark certain ('\x7d' :: coming.text)
  have hclose := close_step (certain ++ [.flowMappingStart]) (level + 1) coming.text
    ((mark.after 1).right '\x7b')
  rw [List.append_assoc] at hclose
  have hless : coming.text.length + 1 < coming.text.length + 3 := by omega
  exact ⟨_, .step rfl hopen hless (.step rfl hclose (Nat.lt_succ_self _) (.refl _)),
    .here (arrives_at hcoming _ _)⟩

/-! ## Blocks -/

mutual

/-- A value is read behind the colon. -/
theorem value_scanned (level : Nat) (node : Node) (h : Writable node) {coming : Coming}
    (hcoming : coming.Behind level) {mark : Mark} (hmark : 2 * level < mark.column)
    (certain : List Token) :
    ∃ last, Reaches (within certain [] (level + 1) none false
        ⟨valueText level node ++ coming.text, mark⟩) last ∧
      Between (level + 1) coming (certain ++ nodeTokens node) last := by
  match node with
  | .null word =>
    rw [valueText, nodeTokens, spaced]
    by_cases hword : word.text = []
    · rw [if_pos hword, if_pos hword, List.append_nil]
      exact ⟨_, .refl _, .here (arrives_at hcoming _ _)⟩
    · rw [if_neg hword, if_neg hword]
      exact phrase_scanned (legible_null hword) hcoming hmark certain
  | .text phrase =>
    rw [valueText, nodeTokens]
    rw [Writable] at h
    exact phrase_scanned h.legible hcoming hmark certain
  | .block [] =>
    rw [valueText, nodeTokens]
    exact braces_scanned hcoming hmark certain
  | .block (member :: block) =>
    rw [Writable] at h
    have hbehind := Coming.Behind.lines h (hcoming.mono (Nat.le_succ level))
    obtain ⟨last, hreaches, hbetween⟩ := lines_scanned (level + 1) (member :: block) h
      (hcoming.mono (Nat.le_succ level)) (Nat.le_refl (level + 1)) (fun _ => List.cons_ne_nil _ _)
      (arrives_at hbehind false mark) certain
    rw [valueText, nodeTokens, ← text_coming_lines]
    refine ⟨last, hreaches, ?_⟩
    -- Behind its last member the block has ended, but only what comes shows it.
    have houtside := hbetween.outside
    rw [shown, if_pos rfl] at houtside
    simpa using houtside

/-- The lines of a block are read, where a line may begin. -/
theorem lines_scanned (level : Nat) (block : List Member) (h : WritableMembers block)
    {coming : Coming} (hcoming : coming.Behind level) {depth : Nat} (hlevel : level ≤ depth)
    (hfirst : depth = level → block ≠ []) {keyAllowed : Bool} {cursor : Cursor}
    (harrives : Arrives (comingLines level block coming) keyAllowed cursor)
    (certain : List Token) :
    ∃ last, Reaches (within certain [] depth none keyAllowed cursor) last ∧
      Between (level + 1) coming (certain ++ shown level depth ++ memberTokens block) last := by
  match block with
  | [] =>
    have hdepth : depth ≠ level := fun hdepth => hfirst hdepth rfl
    refine ⟨_, .refl _, ?_⟩
    have hbetween : Between (level + 1) coming _ _ :=
      .mk certain (depth - (level + 1)) keyAllowed cursor harrives
    rw [Nat.add_sub_cancel' (by omega)] at hbetween
    rwa [shown, if_neg hdepth, memberTokens, List.append_nil]
  | (key, node) :: rest =>
    rw [WritableMembers] at h
    obtain ⟨hkey, hnode, hrest⟩ := h
    rw [comingLines] at harrives
    have hbehind := Coming.Behind.lines hrest hcoming
    obtain ⟨mark, hmark, hreaches⟩ :=
      key_scanned hkey (gap_value node) hlevel harrives certain
    obtain ⟨next, hvalue, hbetween⟩ := value_scanned level node hnode hbehind hmark
      (certain ++ shown level depth ++ [.key, phraseToken key, .value])
    -- The value leaves blocks open that the next key closes, so the lines behind start from there.
    generalize htokens : certain ++ shown level depth ++ [.key, phraseToken key, .value] ++
      nodeTokens node = tokens at hbetween
    cases hbetween with
    | mk certain ended keyAllowed cursor harrives =>
      obtain ⟨last, hlines, hlast⟩ := lines_scanned level rest hrest hcoming
        (show level ≤ level + 1 + ended by omega) (fun hdepth => by omega) harrives certain
      refine ⟨last, (hreaches.trans hvalue).trans hlines, ?_⟩
      rw [shown, if_neg (by omega), Nat.add_sub_cancel_left, ← htokens] at hlast
      rw [memberTokens]
      simpa using hlast

end

/-! ## Documents -/

/-- Behind the last member all blocks end, and the text with them. -/
theorem end_step {newline : Bool} {tokens : List Token} {s : Scanner}
    (h : Between 0 (.stop newline) tokens s) (fuel : Nat) :
    s.run (fuel + 2) = tokens ++ [.streamEnd] := by
  cases h with
  | mk certain ended keyAllowed cursor harrives =>
    rw [Nat.zero_add]
    obtain ⟨allowed, mark, hskip⟩ := harrives
    obtain ⟨left, hleft, hclose, hall⟩ :=
      close_blocks_end certain [] ended none allowed ⟨[], mark⟩ mark.column
    rw [List.nil_append] at hclose
    generalize hends : List.replicate (ended - left) Token.blockEnd = ends at hclose
    have htake : (within certain ends left none allowed ⟨[], mark⟩).takeToken =
        some { within certain (ends ++ List.replicate left .blockEnd ++ [.streamEnd]) 0 none false
          ⟨[], if mark.column = 0 then mark else mark.newLine 0⟩ with ended := true } := by
      show (dropPlace (closeBlocks (within certain ends left none allowed _) (-1)) >>= _) = _
      rw [hall]
      rfl
    have hblocks : ends ++ List.replicate left Token.blockEnd =
        List.replicate ended .blockEnd := by
      rw [← hends, List.replicate_append_replicate, Nat.sub_add_cancel hleft]
    have hstep : (within certain [] ended none keyAllowed cursor).next.bind release = _ :=
      step_within hskip nofun hclose htake rfl
        (release_all fun place hplace => List.mem_singleton.mp hplace)
    rw [hblocks] at hstep
    rw [Scanner.run, if_neg (by exact Bool.false_ne_true), hstep]
    simp [Scanner.run, within]

/-- A document begins with its first line. -/
theorem arrives_at_document {block : List Member} (h : WritableMembers block) (hblock : block ≠ [])
    (newline : Bool) : Arrives (comingLines 0 block (.stop newline)) true
      ⟨documentText block newline, Mark.start⟩ := by
  obtain ⟨c, others, htext, hopens⟩ := document_text_head h hblock newline
  obtain ⟨⟨key, node⟩, rest, rfl⟩ := List.exists_cons_of_ne_nil hblock
  have hline := document_text_cons key node rest newline
  refine ⟨Mark.start, rfl, ?_⟩
  rw [← hline, htext]
  exact skip_space_stop _ _ _ (opens_line_class hopens).2 _

end Scanner

/-- The tokens of a document are those of its block. -/
theorem tokens_document {block : List Member} (h : WritableMembers block) (hblock : block ≠ [])
    (newline : Bool) :
    tokens (documentText block newline) =
      .blockMappingStart :: (memberTokens block ++ [.blockEnd, .streamEnd]) := by
  have hallowed : ∀ c ∈ documentText block newline, isAllowed c = true := by
    intro c hc
    rcases List.mem_append.mp hc with hc | hc
    · exact allowed_lines 0 block h c (List.mem_of_mem_tail hc)
    · cases newline with
      | false => cases hc
      | true =>
        obtain rfl := List.mem_singleton.mp hc
        rfl
  have harrives := Scanner.arrives_at_document h hblock newline
  obtain ⟨last, hreaches, hbetween⟩ := Scanner.lines_scanned 0 block h
    (show (Coming.stop newline).Behind 0 from trivial) (Nat.le_refl 0) (fun _ => hblock) harrives []
  have hstart : Scanner.start (documentText block newline) true =
      Scanner.within [] [] 0 none true ⟨documentText block newline, Mark.start⟩ := rfl
  obtain ⟨fuel, hfuel, hrun⟩ := Scanner.run_of_reaches hreaches _ (Nat.le_refl _)
  obtain ⟨fuel, rfl⟩ := Nat.exists_eq_add_of_le' (Nat.le_trans (Nat.le_add_left 2 _) hfuel)
  rw [tokens, Scanner.readable_allowed hallowed]
  show (Scanner.start _ true).run _ = _
  rw [hstart]
  refine hrun.trans ((Scanner.end_step hbetween.outside fuel).trans ?_)
  simp [Scanner.shown]

end StorageBackend.Yaml
