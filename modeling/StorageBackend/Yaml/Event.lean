import StorageBackend.Yaml.TokenStream

/-!
# From tokens to events

Events describe the nodes of a document in order: scalars, aliases, and the beginnings and ends of
sequences and mappings. `Step` reads one event; what may come next is a stack of `Expectation`s.
Nodes that are left out are empty plain scalars.

Main definition: `documents`.
-/

namespace StorageBackend.Yaml

/-- The bytes of a tag. -/
abbrev Tag := List UInt8

/-- A scalar node. -/
structure Scalar where
  tag : Option Tag
  text : List Char
  plain : Bool
deriving DecidableEq

/-- A part of a document; `α` is how anchors are named. -/
inductive Event (α : Type) where
  | scalar (anchor : Option α) (content : Scalar)
  | sequenceStart (anchor : Option α) (tag : Option Tag)
  | sequenceEnd
  | mappingStart (anchor : Option α) (tag : Option Tag)
  | mappingEnd
  | alias (target : α)
  /-- The only event of a text without documents. -/
  | nothing
deriving DecidableEq

/-- What may come next inside a document. -/
inductive Expectation where
  /-- The root, or nothing. -/
  | root
  /-- A node in a block. -/
  | blockNode
  /-- An item of a block sequence, or its end. -/
  | blockItem
  /-- An item of a sequence that is not indented, or something else. -/
  | flatItem
  /-- A key of a block mapping, or its end. -/
  | blockKey
  /-- A value of a block mapping, or nothing. -/
  | blockValue
  /-- An item of a flow sequence, or its end. -/
  | flowItem (first : Bool)
  /-- The key, the value and the end of a mapping of one pair inside a flow sequence. -/
  | pairKey
  | pairValue
  | pairEnd
  /-- A key of a flow mapping, or its end. -/
  | flowKey (first : Bool)
  /-- A value of a flow mapping, or nothing. -/
  | flowValue
  /-- The value of a key without any indicator. -/
  | noValue
deriving DecidableEq

/-- Abbreviations of tags: each handle with what it stands for. -/
abbrev Handles := List (List Char × List UInt8)

/-- An empty plain scalar. -/
def emptyScalar : Event (List Char) := .scalar none ⟨none, [], true⟩

/-- One event, what may come next, and the tokens that are left. -/
abbrev Step := Event (List Char) × List Expectation × List Token

/-- The anchor and the tag of a node, in either order. A tag is its handle and the rest. -/
structure Properties where
  anchor : Option (List Char)
  tag : Option (List Char × List UInt8)

/-- Reads the properties of a node. -/
def properties : List Token → Properties × List Token
  | .anchor name :: .tag handle rest :: tokens => (⟨some name, some (handle, rest)⟩, tokens)
  | .anchor name :: tokens => (⟨some name, none⟩, tokens)
  | .tag handle rest :: .anchor name :: tokens => (⟨some name, some (handle, rest)⟩, tokens)
  | .tag handle rest :: tokens => (⟨none, some (handle, rest)⟩, tokens)
  | tokens => (⟨none, none⟩, tokens)

/-- The tag that a handle and the rest stand for. A tag without a handle stands for itself; a handle
has to be known. -/
def resolveTag (handles : Handles) : Option (List Char × List UInt8) → Option (Option Tag)
  | none => some none
  | some ([], rest) => some (some rest)
  | some (handle, rest) => (handles.lookup handle).map fun stem => some (stem ++ rest)

/-- Reads the first event of a node. Block collections are admitted in a block only, and items that
are not indented only as the value or the key of a block mapping. -/
def node (handles : Handles) (block flat : Bool) (next : List Expectation) (tokens : List Token) :
    Option Step :=
  match tokens with
  | .alias name :: tokens => some (.alias name, next, tokens)
  | tokens => do
    let (properties, tokens) := properties tokens
    let tag ← resolveTag handles properties.tag
    match tokens with
    | [] => none
    | token :: rest =>
      if flat ∧ token = .blockEntry then
        some (.sequenceStart properties.anchor tag, .flatItem :: next, token :: rest)
      else
        match token with
        | .scalar text plain => some (.scalar properties.anchor ⟨tag, text, plain⟩, next, rest)
        | .flowSequenceStart =>
          some (.sequenceStart properties.anchor tag, .flowItem true :: next, rest)
        | .flowMappingStart =>
          some (.mappingStart properties.anchor tag, .flowKey true :: next, rest)
        | token =>
          if block ∧ token = .blockSequenceStart then
            some (.sequenceStart properties.anchor tag, .blockItem :: next, rest)
          else if block ∧ token = .blockMappingStart then
            some (.mappingStart properties.anchor tag, .blockKey :: next, rest)
          else if properties.anchor.isSome ∨ tag.isSome then
            some (.scalar properties.anchor ⟨tag, [], true⟩, next, token :: rest)
          else none

/-- Reads a node, unless one of the tokens in `absent` comes next: then the node is left out. -/
def nodeOrEmpty (handles : Handles) (block flat : Bool) (absent : List Token)
    (next : List Expectation) (tokens : List Token) : Option Step :=
  match tokens with
  | [] => none
  | token :: _ =>
    if token ∈ absent then some (emptyScalar, next, tokens)
    else node handles block flat next tokens

/-- Whether a token is a directive. -/
def Token.isDirective : Token → Bool
  | .version _ _ => true
  | .tagHandle _ _ => true
  | _ => false

/-- Reads an item of a flow sequence or a mapping of one pair, behind the comma. -/
def flowItem (handles : Handles) (next : List Expectation) (tokens : List Token) : Option Step :=
  match tokens with
  | [] => none
  | .key :: tokens => some (.mappingStart none none, .pairKey :: .flowItem false :: next, tokens)
  | .flowSequenceEnd :: tokens => some (.sequenceEnd, next, tokens)
  | tokens => node handles false false (.flowItem false :: next) tokens

/-- Reads a key of a flow mapping, behind the comma. -/
def flowKey (handles : Handles) (next : List Expectation) (tokens : List Token) : Option Step :=
  match tokens with
  | [] => none
  | .key :: tokens =>
    nodeOrEmpty handles false false [.value, .flowEntry, .flowMappingEnd] (.flowValue :: next)
      tokens
  | .flowMappingEnd :: tokens => some (.mappingEnd, next, tokens)
  | tokens => node handles false false (.noValue :: next) tokens

/-- Reads the next event of a document. `next` is what may follow behind it. -/
def step (handles : Handles) (expectation : Expectation) (next : List Expectation)
    (tokens : List Token) : Option Step :=
  match expectation, tokens with
  | _, [] => none
  | .root, token :: _ =>
    if token.isDirective ∨ token ∈ [Token.documentStart, .documentEnd, .streamEnd] then
      some (emptyScalar, next, tokens)
    else node handles true false next tokens
  | .blockNode, tokens => node handles true false next tokens
  | .blockItem, .blockEntry :: tokens =>
    nodeOrEmpty handles true false [.blockEntry, .blockEnd] (.blockItem :: next) tokens
  | .blockItem, .blockEnd :: tokens => some (.sequenceEnd, next, tokens)
  | .blockItem, _ => none
  | .flatItem, .blockEntry :: tokens =>
    nodeOrEmpty handles true false [.blockEntry, .key, .value, .blockEnd] (.flatItem :: next) tokens
  | .flatItem, tokens => some (.sequenceEnd, next, tokens)
  | .blockKey, .key :: tokens =>
    nodeOrEmpty handles true true [.key, .value, .blockEnd] (.blockValue :: next) tokens
  | .blockKey, .blockEnd :: tokens => some (.mappingEnd, next, tokens)
  | .blockKey, _ => none
  | .blockValue, .value :: tokens =>
    nodeOrEmpty handles true true [.key, .value, .blockEnd] (.blockKey :: next) tokens
  | .blockValue, tokens => some (emptyScalar, .blockKey :: next, tokens)
  | .flowItem _, .flowSequenceEnd :: tokens => some (.sequenceEnd, next, tokens)
  | .flowItem true, tokens => flowItem handles next tokens
  | .flowItem false, .flowEntry :: tokens => flowItem handles next tokens
  | .flowItem false, _ => none
  | .pairKey, token :: rest =>
    if token ∈ [Token.value, .flowEntry, .flowSequenceEnd] then
      -- the token is lost
      some (emptyScalar, .pairValue :: next, rest)
    else node handles false false (.pairValue :: next) tokens
  | .pairValue, .value :: tokens =>
    nodeOrEmpty handles false false [.flowEntry, .flowSequenceEnd] (.pairEnd :: next) tokens
  | .pairValue, tokens => some (emptyScalar, .pairEnd :: next, tokens)
  | .pairEnd, tokens => some (.mappingEnd, next, tokens)
  | .flowKey _, .flowMappingEnd :: tokens => some (.mappingEnd, next, tokens)
  | .flowKey true, tokens => flowKey handles next tokens
  | .flowKey false, .flowEntry :: tokens => flowKey handles next tokens
  | .flowKey false, _ => none
  | .flowValue, .value :: tokens =>
    nodeOrEmpty handles false false [.flowEntry, .flowMappingEnd] (.flowKey false :: next) tokens
  | .flowValue, tokens => some (emptyScalar, .flowKey false :: next, tokens)
  | .noValue, tokens => some (emptyScalar, .flowKey false :: next, tokens)

/-- Reads the events of a document, as far as it is well-formed: the events, and the tokens behind
the document if it is complete. No token leads to more than three events, so a `fuel` above four
times their number is enough. -/
def events (handles : Handles) : (fuel : Nat) → List Expectation → List Token →
    List (Event (List Char)) × Option (List Token)
  | 0, _, _ => ([], none)
  | _ + 1, [], tokens => ([], some tokens)
  | fuel + 1, expectation :: next, tokens =>
    match step handles expectation next tokens with
    | none => ([], none)
    | some (event, next, tokens) =>
      let (events, rest) := events handles fuel next tokens
      (event :: events, rest)

/-! ## Documents -/

/-- The abbreviations that are always known. -/
def defaultHandles : Handles :=
  [(['!'], asciiBytes ['!']), (['!', '!'], asciiBytes "tag:yaml.org,2002:".toList)]

/-- Reads the directives of a document: the abbreviations, and the tokens behind them. Only versions
1.1 and 1.2 are known, and nothing may be declared twice. -/
def directives (versioned : Bool) (handles : Handles) : List Token → Option (Handles × List Token)
  | .version major minor :: tokens =>
    if versioned ∨ major ≠ 1 ∨ (minor ≠ 1 ∧ minor ≠ 2) then none
    else directives true handles tokens
  | .tagHandle handle stem :: tokens =>
    if (handles.lookup handle).isSome then none
    else directives versioned (handles ++ [(handle, stem)]) tokens
  | tokens => some (handles ++ defaultHandles, tokens)

/-- A document as far as it is well-formed. -/
structure RawDocument where
  events : List (Event (List Char))
  complete : Bool

/-- Passes over the lines that end a document. -/
def dropDocumentEnds : List Token → List Token
  | .documentEnd :: tokens => dropDocumentEnds tokens
  | tokens => tokens

/-- Reads the documents of a text. Only the first one needs no line in front of it. A document is
complete when the token behind it is known. Every document but the first has a token of its own, so
a `fuel` above the number of tokens is enough. -/
def documentsFrom : (fuel : Nat) → (first : Bool) → List Token → List RawDocument
  | 0, _, _ => []
  | fuel + 1, first, tokens =>
    let tokens := if first then tokens else dropDocumentEnds tokens
    match tokens with
    | [] => [⟨[], false⟩]
    | .streamEnd :: _ => []
    | token :: _ =>
      let start : Option (Handles × Expectation × List Token) :=
        if first ∧ !token.isDirective ∧ token ≠ .documentStart then
          some (defaultHandles, .blockNode, tokens)
        else
          match directives false [] tokens with
          | some (handles, .documentStart :: tokens) => some (handles, .root, tokens)
          | _ => none
      match start with
      | none => [⟨[], false⟩]
      | some (handles, expectation, tokens) =>
        match events handles (4 * tokens.length + 4) [expectation] tokens with
        | (events, some (.documentEnd :: tokens)) =>
          ⟨events, true⟩ :: documentsFrom fuel false tokens
        | (events, some (token :: tokens)) =>
          ⟨events, true⟩ :: documentsFrom fuel false (token :: tokens)
        | (events, _) => [⟨events, false⟩]

/-- The documents of a text. A text without documents counts as one that holds nothing. -/
def documents (text : List Char) : List RawDocument :=
  let tokens := tokens text
  match documentsFrom (tokens.length + 2) true tokens with
  | [] => [⟨[.nothing], true⟩]
  | documents => documents

end StorageBackend.Yaml
