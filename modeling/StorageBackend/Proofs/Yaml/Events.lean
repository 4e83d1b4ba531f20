import StorageBackend.Proofs.Yaml.Tokens
import StorageBackend.Yaml.Document

/-!
# The events of trees

`nodeEvents` are the events of a tree. A document in which a block is written has these events, and
there is no other document behind it (`document_of_text`).
-/

namespace StorageBackend.Yaml

open StorageBackend.Tree (Member Node NullWord Phrase)

/-! ## Events -/

section

variable {α : Type}

/-- The event of a phrase. -/
def phraseEvent (phrase : Phrase) : Event α := .scalar none ⟨none, phrase.text, !phrase.quoted⟩

mutual

/-- The events of a tree. -/
def nodeEvents : Node → List (Event α)
  | .null word => [.scalar none ⟨none, word.text, true⟩]
  | .text phrase => [phraseEvent phrase]
  | .block block => .mappingStart none none :: (memberEvents block ++ [.mappingEnd])

/-- The events of the members of a block. -/
def memberEvents : List Member → List (Event α)
  | [] => []
  | (key, node) :: rest => phraseEvent key :: (nodeEvents node ++ memberEvents rest)

end

end

/-! ## From tokens to events -/

/-- Events with the names of their anchors. -/
abbrev RawEvents := List (Event (List Char))

/-- Events in front of what is read behind them. -/
def eventsBefore (before : RawEvents) (read : RawEvents × Option (List Token)) :
    RawEvents × Option (List Token) :=
  (before ++ read.1, read.2)

/-- Events in front of others come one part after the other. -/
theorem events_before_append (first second : RawEvents) (read : RawEvents × Option (List Token)) :
    eventsBefore first (eventsBefore second read) = eventsBefore (first ++ second) read := by
  rw [eventsBefore, eventsBefore, eventsBefore, List.append_assoc]

/-- An event is read, and then the ones behind it. -/
theorem events_step {handles : Handles} {expectation : Expectation}
    {next following : List Expectation} {tokens rest : List Token} {event : Event (List Char)}
    (h : step handles expectation next tokens = some (event, following, rest)) (fuel : Nat) :
    events handles (fuel + 1) (expectation :: next) tokens =
      eventsBefore [event] (events handles fuel following rest) := by
  rw [events, h]
  rfl

/-- A key is read where one may be. -/
theorem step_key (handles : Handles) (next : List Expectation) (key : Phrase)
    (tokens : List Token) :
    step handles .blockKey next (.key :: phraseToken key :: tokens) =
      some (phraseEvent key, .blockValue :: next, tokens) := by
  simp [step, nodeOrEmpty, node, properties, resolveTag, phraseToken, phraseEvent]

/-- A value is left out in front of another key and of the end of the block. -/
theorem step_nothing (handles : Handles) (next : List Expectation) {token : Token}
    (h : token = .key ∨ token = .blockEnd) (tokens : List Token) :
    step handles .blockValue next (.value :: token :: tokens) =
      some (emptyScalar, .blockKey :: next, token :: tokens) := by
  rcases h with rfl | rfl
  · rfl
  · rfl

/-- Behind the colon of a member a scalar is its value. -/
theorem step_scalar (handles : Handles) (next : List Expectation) (text : List Char)
    (plain : Bool) (tokens : List Token) :
    step handles .blockValue next (.value :: .scalar text plain :: tokens) =
      some (.scalar none ⟨none, text, plain⟩, .blockKey :: next, tokens) := by
  simp [step, nodeOrEmpty, node, properties, resolveTag]

/-- What stands behind a member in its block: another member, or the end. -/
theorem member_tokens_head (block : List Member) (rest : List Token) :
    ∃ token tokens, memberTokens block ++ .blockEnd :: rest = token :: tokens ∧
      (token = .key ∨ token = .blockEnd) := by
  cases block with
  | nil => exact ⟨.blockEnd, rest, rfl, .inr rfl⟩
  | cons member block => exact ⟨.key, _, rfl, .inl rfl⟩

mutual

/-- A value is read behind the colon. -/
theorem events_value (handles : Handles) (node : Node) (next : List Expectation) (fuel : Nat)
    {tokens : List Token}
    (htokens : ∃ token rest, tokens = token :: rest ∧ (token = .key ∨ token = .blockEnd)) :
    events handles (fuel + (nodeEvents node : RawEvents).length) (.blockValue :: next)
        (.value :: (nodeTokens node ++ tokens)) =
      eventsBefore (nodeEvents node) (events handles fuel (.blockKey :: next) tokens) := by
  match node with
  | .null word =>
    rw [nodeTokens, nodeEvents]
    by_cases hword : word.text = []
    · obtain ⟨token, rest, rfl, htoken⟩ := htokens
      rw [if_pos hword, hword]
      exact events_step (step_nothing handles next htoken rest) fuel
    · rw [if_neg hword]
      exact events_step (step_scalar handles next _ _ tokens) fuel
  | .text phrase =>
    rw [nodeTokens, nodeEvents]
    exact events_step (step_scalar handles next _ _ tokens) fuel
  | .block [] =>
    have hopen : step handles .blockValue next
        (.value :: .flowMappingStart :: .flowMappingEnd :: tokens) =
          some (.mappingStart none none, .flowKey true :: .blockKey :: next,
            .flowMappingEnd :: tokens) := rfl
    have hclose : step handles (.flowKey true) (.blockKey :: next) (.flowMappingEnd :: tokens) =
        some (.mappingEnd, .blockKey :: next, tokens) := rfl
    rw [nodeTokens, nodeEvents, memberEvents]
    exact (events_step hopen (fuel + 1)).trans
      (congrArg _ (events_step hclose fuel) |>.trans (events_before_append _ _ _))
  | .block (member :: block) =>
    have hopen : step handles .blockValue next
        (.value :: .blockMappingStart :: (memberTokens (member :: block) ++ .blockEnd :: tokens)) =
          some (.mappingStart none none, .blockKey :: .blockKey :: next,
            memberTokens (member :: block) ++ .blockEnd :: tokens) := by
      simp [step, nodeOrEmpty, Yaml.node, properties, resolveTag]
    have hclose : step handles .blockKey (.blockKey :: next) (.blockEnd :: tokens) =
        some (.mappingEnd, .blockKey :: next, tokens) := rfl
    have hlength : fuel + (nodeEvents (.block (member :: block)) : RawEvents).length =
        (fuel + 1 + (memberEvents (member :: block) : RawEvents).length) + 1 := by
      simp only [nodeEvents, List.length_cons, List.length_append, List.length_nil]
      omega
    have htext : nodeTokens (.block (member :: block)) ++ tokens =
        .blockMappingStart :: (memberTokens (member :: block) ++ .blockEnd :: tokens) := by
      rw [nodeTokens]
      simp
    rw [hlength, htext, events_step hopen, events_members handles (member :: block),
      events_step hclose, events_before_append, events_before_append, nodeEvents]
    simp

/-- The members of a block are read one after the other. -/
theorem events_members (handles : Handles) (block : List Member) (next : List Expectation)
    (fuel : Nat) (rest : List Token) :
    events handles (fuel + (memberEvents block : RawEvents).length) (.blockKey :: next)
        (memberTokens block ++ .blockEnd :: rest) =
      eventsBefore (memberEvents block)
        (events handles fuel (.blockKey :: next) (.blockEnd :: rest)) := by
  match block with
  | [] => rfl
  | (key, node) :: block =>
    have hlength : fuel + (memberEvents ((key, node) :: block) : RawEvents).length =
        (fuel + (memberEvents block : RawEvents).length +
          (nodeEvents node : RawEvents).length) + 1 := by
      simp only [memberEvents, List.length_cons, List.length_append]
      omega
    have htext : memberTokens ((key, node) :: block) ++ .blockEnd :: rest =
        .key :: phraseToken key ::
          .value :: (nodeTokens node ++ (memberTokens block ++ .blockEnd :: rest)) := by
      rw [memberTokens]
      simp
    rw [hlength, htext, events_step (step_key handles next key _),
      events_value handles node next _ (member_tokens_head block rest),
      events_members handles block next fuel rest, events_before_append, events_before_append,
      memberEvents]
    simp

end

mutual

/-- A node that is left out has an event without a token. -/
theorem length_node_events (node : Node) :
    (nodeEvents node : RawEvents).length ≤ (nodeTokens node).length + 1 := by
  match node with
  | .null word =>
    rw [nodeEvents]
    exact Nat.succ_le_succ (Nat.zero_le _)
  | .text phrase =>
    rw [nodeEvents]
    exact Nat.succ_le_succ (Nat.zero_le _)
  | .block [] =>
    rw [nodeEvents, nodeTokens, memberEvents]
    exact Nat.le_succ 2
  | .block (member :: block) =>
    have hmembers := length_member_events (member :: block)
    rw [nodeEvents, nodeTokens]
    simp only [List.length_cons, List.length_append, List.length_nil]
    omega

/-- There are not more events than tokens. -/
theorem length_member_events (block : List Member) :
    (memberEvents block : RawEvents).length ≤ (memberTokens block).length := by
  match block with
  | [] => exact Nat.le_refl 0
  | (key, node) :: block =>
    have hnode := length_node_events node
    have hmembers := length_member_events block
    rw [memberEvents, memberTokens]
    simp only [List.length_cons, List.length_append]
    omega

end

/-! ## Documents -/

/-- The tokens of a block are those of a single document. -/
theorem documents_from_block (block : List Member) (fuel : Nat) :
    documentsFrom (fuel + 2) true
        (.blockMappingStart :: (memberTokens block ++ [.blockEnd, .streamEnd])) =
      [⟨nodeEvents (.block block), true⟩] := by
  have hopen : step defaultHandles .blockNode []
      (.blockMappingStart :: (memberTokens block ++ [.blockEnd, .streamEnd])) =
        some (.mappingStart none none, [.blockKey],
          memberTokens block ++ [.blockEnd, .streamEnd]) := by
    simp [step, Yaml.node, properties, resolveTag]
  have hclose : step defaultHandles .blockKey [] [.blockEnd, .streamEnd] =
      some (.mappingEnd, [], [.streamEnd]) := rfl
  have hlength := length_member_events block
  -- There is fuel for every event, since there are not more events than tokens.
  obtain ⟨left, hleft⟩ : ∃ left, 4 * (Token.blockMappingStart ::
      (memberTokens block ++ [.blockEnd, .streamEnd])).length + 4 =
        (left + 1 + 1 + (memberEvents block : RawEvents).length) + 1 := by
    refine ⟨4 * (memberTokens block).length + 13 - (memberEvents block : RawEvents).length, ?_⟩
    simp only [List.length_cons, List.length_append, List.length_nil]
    omega
  have hevents : events defaultHandles (4 * (Token.blockMappingStart ::
      (memberTokens block ++ [.blockEnd, .streamEnd])).length + 4) [.blockNode]
        (.blockMappingStart :: (memberTokens block ++ [.blockEnd, .streamEnd])) =
          (nodeEvents (.block block), some [.streamEnd]) := by
    rw [hleft, events_step hopen, events_members, events_step hclose, nodeEvents]
    simp [eventsBefore, events]
  have hend : documentsFrom (fuel + 1) false [.streamEnd] = [] := rfl
  rw [documentsFrom]
  simp [Token.isDirective, hevents, hend, -List.length_cons, -List.length_append]

/-- The events of a document in which a block is written. -/
theorem documents_document {block : List Member} (h : WritableMembers block) (hblock : block ≠ [])
    (newline : Bool) :
    documents (documentText block newline) = [⟨nodeEvents (.block block), true⟩] := by
  have hfrom := documents_from_block block
    (tokens (documentText block newline)).length
  rw [← tokens_document h hblock newline] at hfrom
  simp only [documents, hfrom]

mutual

/-- Without anchors there is nothing to number. -/
theorem number_node (known : List (List Char × Nat)) (node : Node) (rest : RawEvents) :
    numberEvents known (nodeEvents node ++ rest) =
      (nodeEvents node ++ (numberEvents known rest).1, (numberEvents known rest).2) := by
  match node with
  | .null word =>
    rw [nodeEvents, nodeEvents]
    rfl
  | .text phrase =>
    rw [nodeEvents, nodeEvents]
    rfl
  | .block block =>
    have hmembers := number_members known block (.mappingEnd :: rest)
    rw [nodeEvents, nodeEvents, List.cons_append, List.append_assoc, List.singleton_append,
      numberEvents]
    simp only [numberAnchor]
    rw [hmembers, numberEvents]
    simp

/-- The events of a block are numbered as they are: there are no anchors and no aliases in them. -/
theorem number_members (known : List (List Char × Nat)) (block : List Member) (rest : RawEvents) :
    numberEvents known (memberEvents block ++ rest) =
      (memberEvents block ++ (numberEvents known rest).1, (numberEvents known rest).2) := by
  match block with
  | [] => rfl
  | (key, node) :: block =>
    have hnode := number_node known node (memberEvents block ++ rest)
    have hmembers := number_members known block rest
    rw [memberEvents, memberEvents, List.cons_append, List.append_assoc, phraseEvent, numberEvents]
    simp only [numberAnchor]
    rw [hnode, hmembers, phraseEvent]
    simp

end

/-- A document in which a block is written has the events of the block. -/
theorem document_of_text {block : List Member} (h : WritableMembers block) (hblock : block ≠ [])
    (newline : Bool) :
    Document.ofText (documentText block newline) = [⟨nodeEvents (.block block), true⟩] := by
  have hnumber := number_node [] (.block block) []
  rw [List.append_nil] at hnumber
  rw [Document.ofText, documents_document h hblock]
  show [Document.ofRaw ⟨nodeEvents (.block block), true⟩] = _
  rw [Document.ofRaw]
  simp only [hnumber]
  simp [numberEvents]

end StorageBackend.Yaml
