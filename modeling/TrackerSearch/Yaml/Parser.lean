import TrackerSearch.Yaml.Scanner

/-!
The events of a YAML stream, from its tokens.

The parser is a state machine over the token stream with a stack of states to return to:
each call gives the next event, pulling tokens only as far as it needs, so a syntax error
surfaces when the parser reaches it. A document is explicit when it starts with `---` or
directives; after a document without an end marker only another explicit document or the
end of the stream may follow. A missing node is an empty plain scalar `~`, and a node with an
anchor or tag but no content an empty plain scalar `""`.

Anchors are numbered from one in the order they appear, and an alias refers to the latest
anchor of its name in the document.
-/

namespace TrackerSearch.Yaml

/-- A resolved tag: its prefix and suffix. -/
structure Tag where
  handle : String
  suffix : String
  deriving DecidableEq, Repr

/-- What the parser reports. Anchor `0` means none. -/
inductive Event where
  | streamStart
  | streamEnd
  | documentStart
  | documentEnd
  | alias (id : Nat)
  | scalar (text : String) (style : ScalarStyle) (anchor : Nat) (tag : Option Tag)
  | sequenceStart (anchor : Nat) (tag : Option Tag)
  | sequenceEnd
  | mappingStart (anchor : Nat) (tag : Option Tag)
  | mappingEnd
  deriving DecidableEq, Repr

/-- The empty scalar that stands for a missing node. -/
def Event.emptyScalar : Event := .scalar "~" .plain 0 none

/-- Where the parser is. -/
inductive ParseState where
  | streamStart
  | implicitDocumentStart
  | documentStart
  | documentContent
  | documentEnd
  | blockNode
  | blockSequenceFirstEntry
  | blockSequenceEntry
  | indentlessSequenceEntry
  | blockMappingFirstKey
  | blockMappingKey
  | blockMappingValue
  | flowSequenceFirstEntry
  | flowSequenceEntry
  | flowSequenceEntryMappingKey
  | flowSequenceEntryMappingValue
  | flowSequenceEntryMappingEnd
  | flowMappingFirstKey
  | flowMappingKey
  | flowMappingValue
  | flowMappingEmptyValue
  | finished
  deriving DecidableEq, Repr

/-- The parser's state. -/
structure Parser where
  scanner : Scanner
  current : Option Token := none
  state : ParseState := .streamStart
  states : List ParseState := []
  anchors : List (String × Nat) := []
  anchorId : Nat := 1
  tags : List (String × String) := []

/-- A step of the parser. -/
abbrev ParseM := StateT Parser (Except ScanError)

namespace Parser

/-- A parser at the start of a text. -/
def ofString (text : String) : Parser := { scanner := Scanner.ofString text }

/-- Fails with a message at a position. -/
def fail {α : Type} (m : Mark) (info : String) : ParseM α := throw ⟨m, info⟩

/-- The next token, without consuming it. -/
def peek : ParseM Token := do
  let p ← get
  match p.current with
  | some t => return t
  | none =>
    match Scanner.nextToken.run p.scanner with
    | .error e => throw e
    | .ok (none, sc) => throw ⟨sc.mark, "unexpected eof"⟩
    | .ok (some t, sc) =>
      set { p with scanner := sc, current := some t }
      return t

/-- Consumes the peeked token. -/
def skip : ParseM Unit := modify fun p => { p with current := none }

/-- Consumes and gives the next token. -/
def fetch : ParseM Token := do
  let t ← peek
  skip
  return t

/-- Moves to a state. -/
def goto (s : ParseState) : ParseM Unit := modify fun p => { p with state := s }

/-- Remembers a state to return to. -/
def pushState (s : ParseState) : ParseM Unit := modify fun p => { p with states := s :: p.states }

/-- Returns to the last remembered state. -/
def popState : ParseM Unit :=
  modify fun p => { p with state := p.states.headD .finished, states := p.states.tail }

/-- Numbers a new anchor. -/
def registerAnchor (name : String) : ParseM Nat := do
  let p ← get
  set { p with anchorId := p.anchorId + 1, anchors := (name, p.anchorId) :: p.anchors }
  return p.anchorId

/-- Resolves a tag's handle through the document's tag directives: `!!` stands for the core
schema unless redefined, and a named handle must have been declared. -/
def resolveTag (m : Mark) (handle suffix : String) : ParseM Tag := do
  let tags := (← get).tags
  if handle == "!!" then
    return ⟨(tags.lookup "!!").getD "tag:yaml.org,2002:", suffix⟩
  else if handle.isEmpty && suffix == "!" then
    return ⟨(tags.lookup "").getD "", suffix⟩
  else
    match tags.lookup handle with
    | some pfx => return ⟨pfx, suffix⟩
    | none =>
      if handle.length ≥ 2 && handle.startsWith "!" && handle.endsWith "!" then
        fail m "the handle wasn't declared"
      else return ⟨handle, suffix⟩

/-- Reads the directives before a document. -/
def processDirectives : Nat → Bool → List (String × String) → ParseM Unit
  | 0, _, _ => return ()
  | n + 1, versionSeen, tags => do
    let t ← peek
    match t.kind with
    | .versionDirective _ _ =>
      if versionSeen then fail t.mark "duplicate version directive"
      modify fun p => { p with tags := [] }
      skip
      processDirectives n true []
    | .tagDirective handle pfx =>
      if (tags.lookup handle).isSome then
        fail t.mark "the TAG directive must only be given at most once per handle in the same document"
      let tags := tags ++ [(handle, pfx)]
      modify fun p => { p with tags := tags }
      skip
      processDirectives n versionSeen tags
    | _ => return ()

/-- The start of an explicit document. -/
def explicitDocumentStart : ParseM (Event × Mark) := do
  processDirectives (← get).scanner.input.size false []
  let t ← peek
  match t.kind with
  | .documentStart =>
    pushState .documentEnd
    goto .documentContent
    skip
    return (.documentStart, t.mark)
  | _ => fail t.mark "did not find expected <document start>"

/-- Skips document end markers, then starts a document or ends the stream. -/
def documentStart (implicit : Bool) : Nat → ParseM (Event × Mark)
  | 0 => return (.streamEnd, ⟨0, 0, 0⟩)
  | n + 1 => do
    let t ← peek
    match t.kind with
    | .documentEnd =>
      skip
      documentStart implicit n
    | .streamEnd =>
      goto .finished
      skip
      return (.streamEnd, t.mark)
    | .versionDirective _ _ | .tagDirective _ _ | .documentStart => explicitDocumentStart
    | _ =>
      if implicit then
        processDirectives (← get).scanner.input.size false []
        pushState .documentEnd
        goto .blockNode
        return (.documentStart, t.mark)
      else explicitDocumentStart

/-- A node: an alias, or a scalar or collection with an optional anchor and tag. -/
def parseNode (block indentlessSequence : Bool) : ParseM (Event × Mark) := do
  let t ← peek
  if let .alias name := t.kind then
    popState
    skip
    match (← get).anchors.lookup name with
    | none => fail t.mark "while parsing node, found unknown anchor"
    | some id => return (.alias id, t.mark)
  let (anchor, tag) ← match t.kind with
    | .anchor name => do
      skip
      let id ← registerAnchor name
      let t2 ← peek
      match t2.kind with
      | .tag handle suffix =>
        skip
        pure (id, some (← resolveTag t.mark handle suffix))
      | _ => pure (id, none)
    | .tag handle suffix => do
      skip
      let tg ← resolveTag t.mark handle suffix
      let t2 ← peek
      match t2.kind with
      | .anchor name =>
        skip
        pure (← registerAnchor name, some tg)
      | _ => pure (0, some tg)
    | _ => pure (0, none)
  let t ← peek
  match t.kind with
  | .blockEntry =>
    if indentlessSequence then
      goto .indentlessSequenceEntry
      return (.sequenceStart anchor tag, t.mark)
    else if tag.isSome || anchor > 0 then
      popState
      return (.scalar "" .plain anchor tag, t.mark)
    else fail t.mark "while parsing a node, did not find expected node content"
  | .scalar style text =>
    popState
    skip
    return (.scalar text style anchor tag, t.mark)
  | .flowSequenceStart =>
    goto .flowSequenceFirstEntry
    return (.sequenceStart anchor tag, t.mark)
  | .flowMappingStart =>
    goto .flowMappingFirstKey
    return (.mappingStart anchor tag, t.mark)
  | .blockSequenceStart =>
    if block then
      goto .blockSequenceFirstEntry
      return (.sequenceStart anchor tag, t.mark)
    else if tag.isSome || anchor > 0 then
      popState
      return (.scalar "" .plain anchor tag, t.mark)
    else fail t.mark "while parsing a node, did not find expected node content"
  | .blockMappingStart =>
    if block then
      goto .blockMappingFirstKey
      return (.mappingStart anchor tag, t.mark)
    else if tag.isSome || anchor > 0 then
      popState
      return (.scalar "" .plain anchor tag, t.mark)
    else fail t.mark "while parsing a node, did not find expected node content"
  | _ =>
    if tag.isSome || anchor > 0 then
      popState
      return (.scalar "" .plain anchor tag, t.mark)
    else fail t.mark "while parsing a node, did not find expected node content"

/-- Whether a token kind is one of the given. -/
def TokenKind.isOneOf (k : TokenKind) (ks : List TokenKind) : Bool := ks.contains k

/-- An entry of a block sequence, or its end. -/
def blockSequenceEntry (first : Bool) : ParseM (Event × Mark) := do
  if first then skip
  let t ← peek
  match t.kind with
  | .blockEnd =>
    popState
    skip
    return (.sequenceEnd, t.mark)
  | .blockEntry =>
    skip
    let t2 ← peek
    if t2.kind == .blockEntry || t2.kind == .blockEnd then
      goto .blockSequenceEntry
      return (Event.emptyScalar, t2.mark)
    else
      pushState .blockSequenceEntry
      parseNode true false
  | _ => fail t.mark "while parsing a block collection, did not find expected '-' indicator"

/-- An entry of a sequence written at its mapping's indentation, or its end. -/
def indentlessSequenceEntry : ParseM (Event × Mark) := do
  let t ← peek
  if t.kind != .blockEntry then
    popState
    return (.sequenceEnd, t.mark)
  skip
  let t2 ← peek
  if [TokenKind.blockEntry, .key, .value, .blockEnd].contains t2.kind then
    goto .indentlessSequenceEntry
    return (Event.emptyScalar, t2.mark)
  else
    pushState .indentlessSequenceEntry
    parseNode true false

/-- A key of a block mapping, or its end. -/
def blockMappingKey (first : Bool) : ParseM (Event × Mark) := do
  if first then skip
  let t ← peek
  match t.kind with
  | .key =>
    skip
    let t2 ← peek
    if [TokenKind.key, .value, .blockEnd].contains t2.kind then
      goto .blockMappingValue
      return (Event.emptyScalar, t2.mark)
    else
      pushState .blockMappingValue
      parseNode true true
  | .value =>
    goto .blockMappingValue
    return (Event.emptyScalar, t.mark)
  | .blockEnd =>
    popState
    skip
    return (.mappingEnd, t.mark)
  | _ => fail t.mark "while parsing a block mapping, did not find expected key"

/-- A value of a block mapping, empty when its `:` is missing. -/
def blockMappingValue : ParseM (Event × Mark) := do
  let t ← peek
  match t.kind with
  | .value =>
    skip
    let t2 ← peek
    if [TokenKind.key, .value, .blockEnd].contains t2.kind then
      goto .blockMappingKey
      return (Event.emptyScalar, t2.mark)
    else
      pushState .blockMappingKey
      parseNode true true
  | _ =>
    goto .blockMappingKey
    return (Event.emptyScalar, t.mark)

/-- An entry of a flow sequence, or its end; an entry with a key is a one-pair mapping. -/
def flowSequenceEntry (first : Bool) : ParseM (Event × Mark) := do
  if first then skip
  let t ← peek
  if t.kind == .flowSequenceEnd then
    popState
    skip
    return (.sequenceEnd, t.mark)
  if !first then
    if t.kind == .flowEntry then skip
    else fail t.mark "while parsing a flow sequence, expected ',' or ']'"
  let t ← peek
  match t.kind with
  | .flowSequenceEnd =>
    popState
    skip
    return (.sequenceEnd, t.mark)
  | .key =>
    goto .flowSequenceEntryMappingKey
    skip
    return (.mappingStart 0 none, t.mark)
  | _ =>
    pushState .flowSequenceEntry
    parseNode false false

/-- The key of a one-pair mapping in a flow sequence. -/
def flowSequenceEntryMappingKey : ParseM (Event × Mark) := do
  let t ← peek
  if [TokenKind.value, .flowEntry, .flowSequenceEnd].contains t.kind then
    skip
    goto .flowSequenceEntryMappingValue
    return (Event.emptyScalar, t.mark)
  else
    pushState .flowSequenceEntryMappingValue
    parseNode false false

/-- The value of a one-pair mapping in a flow sequence. -/
def flowSequenceEntryMappingValue : ParseM (Event × Mark) := do
  let t ← peek
  match t.kind with
  | .value =>
    skip
    let t2 ← peek
    if t2.kind == .flowEntry || t2.kind == .flowSequenceEnd then
      goto .flowSequenceEntryMappingEnd
      return (Event.emptyScalar, t2.mark)
    else
      pushState .flowSequenceEntryMappingEnd
      parseNode false false
  | _ =>
    goto .flowSequenceEntryMappingEnd
    return (Event.emptyScalar, t.mark)

/-- The end of a one-pair mapping in a flow sequence. -/
def flowSequenceEntryMappingEnd : ParseM (Event × Mark) := do
  goto .flowSequenceEntry
  return (.mappingEnd, (← get).scanner.mark)

/-- A key of a flow mapping, or its end; a lone node is a key with an empty value. -/
def flowMappingKey (first : Bool) : ParseM (Event × Mark) := do
  if first then skip
  let t ← peek
  if t.kind != .flowMappingEnd then
    if !first then
      if t.kind == .flowEntry then skip
      else fail t.mark "while parsing a flow mapping, did not find expected ',' or '\x7d'"
    let t2 ← peek
    match t2.kind with
    | .key =>
      skip
      let t3 ← peek
      if [TokenKind.value, .flowEntry, .flowMappingEnd].contains t3.kind then
        goto .flowMappingValue
        return (Event.emptyScalar, t3.mark)
      pushState .flowMappingValue
      return ← parseNode false false
    | .value =>
      goto .flowMappingValue
      return (Event.emptyScalar, t2.mark)
    | .flowMappingEnd =>
      popState
      skip
      return (.mappingEnd, t.mark)
    | _ =>
      pushState .flowMappingEmptyValue
      return ← parseNode false false
  popState
  skip
  return (.mappingEnd, t.mark)

/-- A value of a flow mapping, empty when missing. -/
def flowMappingValue (empty : Bool) : ParseM (Event × Mark) := do
  let t ← peek
  if empty then
    goto .flowMappingKey
    return (Event.emptyScalar, t.mark)
  match t.kind with
  | .value =>
    skip
    let t2 ← peek
    if t2.kind == .flowEntry || t2.kind == .flowMappingEnd then
      goto .flowMappingKey
      return (Event.emptyScalar, t.mark)
    pushState .flowMappingKey
    parseNode false false
  | _ =>
    goto .flowMappingKey
    return (Event.emptyScalar, t.mark)

/-- The content of an explicit document, empty when it has none. -/
def documentContent : ParseM (Event × Mark) := do
  let t ← peek
  match t.kind with
  | .versionDirective _ _ | .tagDirective _ _ | .documentStart | .documentEnd | .streamEnd =>
    popState
    return (Event.emptyScalar, t.mark)
  | _ => parseNode true false

/-- The end of a document, explicit when marked. -/
def documentEnd : ParseM (Event × Mark) := do
  let t ← peek
  let explicitEnd := t.kind == .documentEnd
  if explicitEnd then skip
  modify fun p => { p with tags := [] }
  if explicitEnd then goto .implicitDocumentStart
  else
    let t2 ← peek
    match t2.kind with
    | .versionDirective _ _ | .tagDirective _ _ =>
      fail t2.mark "missing explicit document end marker before directive"
    | _ => goto .documentStart
  return (.documentEnd, t.mark)

/-- The next event. -/
def nextEvent : ParseM (Event × Mark) := do
  let p ← get
  match p.state with
  | .finished => return (.streamEnd, p.scanner.mark)
  | .streamStart =>
    let t ← peek
    match t.kind with
    | .streamStart =>
      goto .implicitDocumentStart
      skip
      return (.streamStart, t.mark)
    | _ => fail t.mark "did not find expected <stream-start>"
  | .implicitDocumentStart => documentStart true (p.scanner.input.size + 2)
  | .documentStart => documentStart false (p.scanner.input.size + 2)
  | .documentContent => documentContent
  | .documentEnd => documentEnd
  | .blockNode => parseNode true false
  | .blockSequenceFirstEntry => blockSequenceEntry true
  | .blockSequenceEntry => blockSequenceEntry false
  | .indentlessSequenceEntry => indentlessSequenceEntry
  | .blockMappingFirstKey => blockMappingKey true
  | .blockMappingKey => blockMappingKey false
  | .blockMappingValue => blockMappingValue
  | .flowSequenceFirstEntry => flowSequenceEntry true
  | .flowSequenceEntry => flowSequenceEntry false
  | .flowSequenceEntryMappingKey => flowSequenceEntryMappingKey
  | .flowSequenceEntryMappingValue => flowSequenceEntryMappingValue
  | .flowSequenceEntryMappingEnd => flowSequenceEntryMappingEnd
  | .flowMappingFirstKey => flowMappingKey true
  | .flowMappingKey => flowMappingKey false
  | .flowMappingValue => flowMappingValue false
  | .flowMappingEmptyValue => flowMappingValue true

end Parser

end TrackerSearch.Yaml
