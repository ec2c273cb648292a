/-!
The tokens of a YAML stream.

The scanner reads characters and produces tokens on demand. Block structure is given by
indentation: a key or entry that starts further right than the current block opens a new
block, and a line that starts further left closes blocks, each closing producing a block end.
Inside brackets indentation does not count.

A scalar followed by `:` is a key, which is only known once the `:` is seen; the scanner
therefore remembers, for each bracket level, where a key could have started and how many
tokens came before it, and inserts the key token there when the `:` comes. Such a possible
key lapses at the end of its line outside brackets, or after 1024 characters, and a key that
had to be one because it stands at the block's column is then an error.

The content after a value indicator, or after an entry indicator that ends its line, must go
at least one column beyond the block it belongs to; the scanner keeps that column as a level of
its own, which closes without a token. Quoted scalars and brackets on later lines are held to
it, and a plain or block scalar drops it. A comment must be set off by a blank from the token
before it.

Positions count characters from zero, lines from one and columns from zero; a line break
is a line feed, a carriage return, or both in that order. A NUL character ends the stream.
-/

namespace TrackerSearch.Yaml

/-- A position in the text: characters before it, its line from one, its column from zero. -/
structure Mark where
  index : Nat
  line : Nat
  col : Nat
  deriving DecidableEq, Repr, Inhabited

/-- A syntax error and where it was found. -/
structure ScanError where
  mark : Mark
  info : String
  deriving DecidableEq, Repr

/-- The message of a syntax error; the column is given from one. -/
def ScanError.message (e : ScanError) : String :=
  e.info ++ " at byte " ++ toString e.mark.index ++ " line " ++ toString e.mark.line ++
    " column " ++ toString (e.mark.col + 1)

/-- How a scalar was written. -/
inductive ScalarStyle where
  | plain
  | singleQuoted
  | doubleQuoted
  | literal
  | folded
  deriving DecidableEq, Repr

/-- What a token is. -/
inductive TokenKind where
  | streamStart
  | streamEnd
  | versionDirective (major minor : Nat)
  | tagDirective (handle pfx : String)
  | documentStart
  | documentEnd
  | blockSequenceStart
  | blockMappingStart
  | blockEnd
  | flowSequenceStart
  | flowSequenceEnd
  | flowMappingStart
  | flowMappingEnd
  | blockEntry
  | flowEntry
  | key
  | value
  | alias (name : String)
  | anchor (name : String)
  | tag (handle suffix : String)
  | scalar (style : ScalarStyle) (text : String)
  deriving DecidableEq, Repr

/-- A token and where it starts. -/
structure Token where
  mark : Mark
  kind : TokenKind
  deriving DecidableEq, Repr

/-- Where a key could start at one bracket level. -/
structure SimpleKey where
  possible : Bool := false
  required : Bool := false
  tokenNumber : Nat := 0
  mark : Mark := ⟨0, 0, 0⟩
  deriving DecidableEq, Repr

/-- An open indentation level: the level it replaced, and whether it belongs to a block,
whose closing is a token. A level that is not a block's is the one column that the content
after a value indicator or a bare entry indicator must go beyond. -/
structure Indent where
  previous : Int
  needsBlockEnd : Bool
  deriving DecidableEq, Repr

/-- The scanner's state. Possible keys are kept innermost bracket level first, the open
indentation levels innermost first, and for each open bracketed sequence whether a mapping
of one pair has begun in it. -/
structure Scanner where
  input : Array Char
  mark : Mark := ⟨0, 1, 0⟩
  tokens : List Token := []
  streamStartProduced : Bool := false
  streamEndProduced : Bool := false
  adjacentValueAllowedAt : Nat := 0
  simpleKeyAllowed : Bool := true
  simpleKeys : List SimpleKey := []
  indent : Int := -1
  indents : List Indent := []
  flowLevel : Nat := 0
  flowMappingStarted : Bool := false
  implicitMappings : List Bool := []
  tokensParsed : Nat := 0
  tokenAvailable : Bool := false
  leadingWhitespace : Bool := true

/-- A step of the scanner. -/
abbrev ScanM := StateT Scanner (Except ScanError)

/-- Whether a character breaks a line. -/
def isBreak (c : Char) : Bool := c == '\n' || c == '\r'

/-- Whether a character ends the stream. -/
def isZ (c : Char) : Bool := c == '\x00'

/-- Whether a character breaks a line or ends the stream. -/
def isBreakZ (c : Char) : Bool := isBreak c || isZ c

/-- Whether a character is a space or a tab. -/
def isBlank (c : Char) : Bool := c == ' ' || c == '\t'

/-- Whether a character is blank, breaks a line or ends the stream. -/
def isBlankZ (c : Char) : Bool := isBlank c || isBreakZ c

/-- Whether a character is a bracket or a comma. -/
def isFlow (c : Char) : Bool := c == ',' || c == '[' || c == ']' || c == '{' || c == '}'

/-- Whether a character may appear in a name: ASCII letters and digits, `_` and `-`. -/
def isAlpha (c : Char) : Bool := (c.isAlphanum && c.toNat < 128) || c == '_' || c == '-'

/-- Whether a character may appear in an anchor name. -/
def isAnchorChar (c : Char) : Bool := !isBlankZ c && !isFlow c && c != '\uFEFF'

/-- Whether a character may appear in a URI. -/
def isUriChar (c : Char) : Bool := isAlpha c || "#;/?:@&=+$,.!~*'()[]%".contains c

/-- Whether a character may appear in a tag after its handle: a URI character other than a
bracket, a comma or `!`. -/
def isTagChar (c : Char) : Bool := isUriChar c && !isFlow c && c != '!'

/-- The value of a hexadecimal digit. -/
def hexValue (c : Char) : Nat :=
  if c.isDigit then c.toNat - '0'.toNat
  else if 'a' ≤ c && c ≤ 'f' then c.toNat - 'a'.toNat + 10
  else c.toNat - 'A'.toNat + 10

/-- Whether a character is a hexadecimal digit. -/
def isHex (c : Char) : Bool :=
  c.isDigit || ('a' ≤ c && c ≤ 'f') || ('A' ≤ c && c ≤ 'F')

/-- Inserts an element at a position of a list, or at its end past it. -/
def insertAt {α : Type} (x : α) : Nat → List α → List α
  | 0, xs => x :: xs
  | _, [] => [x]
  | n + 1, y :: ys => y :: insertAt x n ys

/-- Text collected for a scalar, with the blanks and breaks seen since its last
character, which are folded when more text follows. -/
structure Folding where
  text : String := ""
  leadingBreak : String := ""
  trailingBreaks : String := ""
  whitespaces : String := ""
  leadingBlanks : Bool := false

/-- Adds the pending blanks to the text: blanks within a line as they are, a single line break
as a space, and further line breaks as they are. -/
def Folding.join (f : Folding) : Folding :=
  if f.leadingBlanks then
    if !f.leadingBreak.isEmpty && f.trailingBreaks.isEmpty then
      { f with text := f.text ++ " ", leadingBreak := "" }
    else { f with text := f.text ++ f.trailingBreaks, trailingBreaks := "", leadingBreak := "" }
  else { f with text := f.text ++ f.whitespaces, whitespaces := "" }

namespace Scanner

/-- A scanner at the start of a text. -/
def ofString (text : String) : Scanner := { input := text.toList.toArray }

/-- The character `k` places ahead, NUL past the end. -/
def charAt (k : Nat) : ScanM Char := do
  let s ← get
  return s.input.getD (s.mark.index + k) '\x00'

/-- The current character. -/
def ch : ScanM Char := charAt 0

/-- The current position. -/
def here : ScanM Mark := return (← get).mark

/-- Fails with a message at a position. -/
def fail {α : Type} (m : Mark) (info : String) : ScanM α := throw ⟨m, info⟩

/-- As many steps as there are characters, and a few more: enough for any loop that
consumes a character each round. -/
def fuel : ScanM Nat := return (← get).input.size + 2

/-- Steps over a blank. -/
def skipBlank : ScanM Unit :=
  modify fun s => { s with mark := ⟨s.mark.index + 1, s.mark.line, s.mark.col + 1⟩ }

/-- Steps over a character that is neither blank nor a line break. -/
def skipNonBlank : ScanM Unit :=
  modify fun s => { s with mark := ⟨s.mark.index + 1, s.mark.line, s.mark.col + 1⟩,
                           leadingWhitespace := false }

/-- Steps over one character of a line break onto the next line. -/
def skipNl : ScanM Unit :=
  modify fun s => { s with mark := ⟨s.mark.index + 1, s.mark.line + 1, 0⟩,
                           leadingWhitespace := true }

/-- Steps over a line break, if there is one. -/
def skipLinebreak : ScanM Unit := do
  if (← ch) == '\r' && (← charAt 1) == '\n' then
    skipBlank
    skipNl
  else if isBreak (← ch) then skipNl

/-- Steps over a line break, giving it as a line feed. -/
def readBreak : ScanM String := do
  skipLinebreak
  return "\n"

/-- Steps over characters while they satisfy a condition, collecting them. -/
def takeWhile (p : Char → Bool) : Nat → String → ScanM String
  | 0, acc => return acc
  | n + 1, acc => do
    let c ← ch
    if p c then
      skipNonBlank
      takeWhile p n (acc.push c)
    else return acc

/-- Steps over blanks. -/
def skipBlanks : Nat → ScanM Unit
  | 0 => return ()
  | n + 1 => do
    if isBlank (← ch) then
      skipBlank
      skipBlanks n

/-- Steps over spaces, tabs when they are allowed, and a comment, up to the end of the line;
tells whether a tab and whether a space was passed. A comment must be set off from what
stands before it by a blank. -/
def skipWsToEol (tabs : Bool) : Nat → Bool → Bool → ScanM (Bool × Bool)
  | 0, tab, space => return (tab, space)
  | n + 1, tab, space => do
    let c ← ch
    if c == ' ' then
      skipBlank
      skipWsToEol tabs n tab true
    else if c == '\t' && tabs then
      skipBlank
      skipWsToEol tabs n true space
    else if c == '#' then
      if !tab && !space then
        fail (← here) "comments must be separated from other tokens by whitespace"
      let _ ← takeWhile (!isBreakZ ·) (← fuel) ""
      return (tab, space)
    else return (tab, space)

/-- Steps over blanks and a comment to the end of the line, as above. -/
def skipToLineEnd : ScanM Unit := do
  let _ ← skipWsToEol true (← fuel) false false

/-- Appends a token. -/
def push (t : Token) : ScanM Unit :=
  modify fun s => { s with tokens := s.tokens ++ [t] }

/-- Allows a key to start here. -/
def allowSimpleKey : ScanM Unit := modify fun s => { s with simpleKeyAllowed := true }

/-- Forbids a key to start here. -/
def disallowSimpleKey : ScanM Unit := modify fun s => { s with simpleKeyAllowed := false }

/-- The possible key of the innermost bracket level. -/
def topKey : ScanM SimpleKey := return ((← get).simpleKeys.head?).getD {}

/-- Replaces the possible key of the innermost bracket level. -/
def setTopKey (k : SimpleKey) : ScanM Unit :=
  modify fun s => { s with simpleKeys := k :: s.simpleKeys.tail }

/-- Drops the possible key of the innermost bracket level; a required one is an error. -/
def removeSimpleKey : ScanM Unit := do
  let k ← topKey
  if k.possible && k.required then fail (← here) "simple key expected"
  setTopKey { k with possible := false }

/-- Remembers that a key could start here. It has to be one outside brackets at the column
of a block. -/
def saveSimpleKey : ScanM Unit := do
  let s ← get
  if s.simpleKeyAllowed then
    let atBlock := (s.indents.head?.map Indent.needsBlockEnd).getD false
    let k : SimpleKey :=
      { possible := true,
        required := s.flowLevel == 0 && s.indent == (s.mark.col : Int) && atBlock,
        tokenNumber := s.tokensParsed + s.tokens.length, mark := s.mark }
    removeSimpleKey
    setTopKey k

/-- Lets possible keys lapse that can no longer be keys. -/
def staleKey (s : Scanner) (k : SimpleKey) : Except ScanError SimpleKey :=
  if k.possible && s.flowLevel == 0 &&
      (k.mark.line < s.mark.line || k.mark.index + 1024 < s.mark.index) then
    if k.required then .error ⟨s.mark, "simple key expect ':'"⟩
    else .ok { k with possible := false }
  else .ok k

/-- Lets every possible key lapse that can no longer be a key. -/
def staleSimpleKeys : ScanM Unit := do
  let s ← get
  match s.simpleKeys.mapM (staleKey s) with
  | .ok ks => set { s with simpleKeys := ks }
  | .error e => throw e

/-- Enters a bracket. -/
def increaseFlowLevel : ScanM Unit := do
  let s ← get
  if s.flowLevel ≥ 255 then fail s.mark "recursion limit exceeded"
  set { s with simpleKeys := {} :: s.simpleKeys, flowLevel := s.flowLevel + 1 }

/-- Leaves a bracket. -/
def decreaseFlowLevel : ScanM Unit :=
  modify fun s =>
    if s.flowLevel > 0 then { s with flowLevel := s.flowLevel - 1, simpleKeys := s.simpleKeys.tail }
    else s

/-- Opens a block at a column further right than the current one, with a token that goes
at the end or at a given token number. A one-column level at or left of that column gives
way to the block. -/
def rollIndent (col : Nat) (number : Option Nat) (kind : TokenKind) (m : Mark) : ScanM Unit := do
  let s ← get
  if s.flowLevel == 0 then
    let s := match s.indents with
      | top :: rest =>
        if s.indent ≤ (col : Int) && !top.needsBlockEnd then
          { s with indent := top.previous, indents := rest }
        else s
      | [] => s
    if s.indent < (col : Int) then
      let tokens := match number with
        | some n => insertAt ⟨m, kind⟩ (n - s.tokensParsed) s.tokens
        | none => s.tokens ++ [⟨m, kind⟩]
      set { s with indents := ⟨s.indent, true⟩ :: s.indents, indent := (col : Int), tokens := tokens }
    else set s

/-- Inside a block, opens the one-column level that content after an indicator must go
beyond. -/
def rollOneColIndent : ScanM Unit :=
  modify fun s =>
    match s.indents with
    | top :: _ =>
      if s.flowLevel == 0 && top.needsBlockEnd then
        { s with indents := ⟨s.indent, false⟩ :: s.indents, indent := s.indent + 1 }
      else s
    | [] => s

/-- The indentation once the one-column levels on top are closed. -/
def dropNonBlockIndents (indent : Int) : List Indent → Int × List Indent
  | [] => (indent, [])
  | top :: rest =>
    if top.needsBlockEnd then (indent, top :: rest) else dropNonBlockIndents top.previous rest

/-- Closes the one-column levels on top. -/
def unrollNonBlockIndents : ScanM Unit :=
  modify fun s =>
    let (indent, indents) := dropNonBlockIndents s.indent s.indents
    { s with indent := indent, indents := indents }

/-- Closes the levels that start further right than a column: the new indentation, the
levels left, and a block end for each block closed. -/
def closeLevels (col : Int) (m : Mark) (indent : Int) : List Indent → Int × List Indent × List Token
  | [] => (indent, [], [])
  | top :: rest =>
    if indent > col then
      let (i, is, ends) := closeLevels col m top.previous rest
      (i, is, if top.needsBlockEnd then ⟨m, .blockEnd⟩ :: ends else ends)
    else (indent, top :: rest, [])

/-- Closes the blocks that start further right than a column. -/
def unrollIndent (col : Int) : ScanM Unit :=
  modify fun s =>
    if s.flowLevel == 0 then
      let (indent, indents, ends) := closeLevels col s.mark s.indent s.indents
      { s with indent := indent, indents := indents, tokens := s.tokens ++ ends }
    else s

/-- Steps over blanks, line breaks and comments up to the next token. A tab that indents a
line of a block to less than the block's column must not be followed by content. -/
def skipToNextToken : Nat → ScanM Unit
  | 0 => return ()
  | n + 1 => do
    let s ← get
    let c ← ch
    if c == '\t' && !s.indents.isEmpty && s.leadingWhitespace && (s.mark.col : Int) < s.indent then
      skipToLineEnd
      if !isBreakZ (← ch) then
        fail (← here) "tabs disallowed within this context (block indentation)"
      skipToNextToken n
    else if isBlank c then
      skipBlank
      skipToNextToken n
    else if isBreak c then
      skipLinebreak
      if s.flowLevel == 0 then allowSimpleKey
      skipToNextToken n
    else if c == '#' then
      let _ ← takeWhile (!isBreakZ ·) (← fuel) ""
      skipToNextToken n

/-- Whether a document marker (`---` or `...`) starts here. -/
def atDocumentMarker : ScanM Bool := do
  let s ← get
  let c0 ← charAt 0
  let c1 ← charAt 1
  let c2 ← charAt 2
  let c3 ← charAt 3
  return s.mark.col == 0 && isBlankZ c3 &&
    ((c0 == '-' && c1 == '-' && c2 == '-') || (c0 == '.' && c1 == '.' && c2 == '.'))

/-- The first token. -/
def fetchStreamStart : ScanM Unit := do
  modify fun s => { s with indent := -1, streamStartProduced := true, simpleKeyAllowed := true,
                           simpleKeys := {} :: s.simpleKeys }
  push ⟨← here, .streamStart⟩

/-- The last token, on a line of its own. A key that had to be one at any bracket level
is an error. -/
def fetchStreamEnd : ScanM Unit := do
  modify fun s =>
    if s.mark.col != 0 then { s with mark := ⟨s.mark.index, s.mark.line + 1, 0⟩ } else s
  let s ← get
  if s.simpleKeys.any fun k => k.possible && k.required then
    fail s.mark "simple key expected"
  set { s with simpleKeys := s.simpleKeys.map fun (k : SimpleKey) => { k with possible := false } }
  unrollIndent (-1)
  removeSimpleKey
  disallowSimpleKey
  push ⟨← here, .streamEnd⟩

/-- A directive's name. -/
def scanDirectiveName (start : Mark) : ScanM String := do
  let name ← takeWhile isAlpha (← fuel) ""
  if name.isEmpty then fail start "while scanning a directive, could not find expected directive name"
  if !isBlankZ (← ch) then
    fail start "while scanning a directive, found unexpected non-alphabetical character"
  return name

/-- A number of a version directive. -/
def scanVersionNumber (start : Mark) : ScanM Nat := do
  let digits ← takeWhile Char.isDigit (← fuel) ""
  if digits.length > 9 then
    fail start "while scanning a YAML directive, found extremely long version number"
  if digits.isEmpty then
    fail start "while scanning a YAML directive, did not find expected version number"
  return digits.toList.foldl (fun n c => 10 * n + (c.toNat - '0'.toNat)) 0

/-- A tag handle: `!`, `!!` or `!name!`; in a directive it must end with `!`. -/
def scanTagHandle (directive : Bool) (start : Mark) : ScanM String := do
  if (← ch) != '!' then fail start "while scanning a tag, did not find expected '!'"
  skipNonBlank
  let handle ← takeWhile isAlpha (← fuel) "!"
  if (← ch) == '!' then
    skipNonBlank
    return handle.push '!'
  else if directive && handle != "!" then
    fail start "while parsing a tag directive, did not find expected '!'"
  else return handle

/-- The octets of one escaped character in a tag, `%` and two hexadecimal digits each, as
many as the first one announces; their values are joined a byte at a time. `width` counts the
octets still to come, 0 before the first. -/
def uriOctets (start : Mark) : Nat → Nat → Nat → ScanM Nat
  | 0, _, code => return code
  | n + 1, width, code => do
    let c1 ← charAt 1
    let c2 ← charAt 2
    if !((← ch) == '%' && isHex c1 && isHex c2) then
      fail start "while parsing a tag, did not find URI escaped octet"
    let octet := 16 * hexValue c1 + hexValue c2
    let (width, code) ← if width == 0 then do
        let w := if octet &&& 0x80 == 0 then 1 else if octet &&& 0xE0 == 0xC0 then 2
          else if octet &&& 0xF0 == 0xE0 then 3 else if octet &&& 0xF8 == 0xF0 then 4 else 0
        if w == 0 then fail start "while parsing a tag, found an incorrect leading UTF-8 octet"
        pure (w, octet)
      else do
        if octet &&& 0xC0 != 0x80 then
          fail start "while parsing a tag, found an incorrect trailing UTF-8 octet"
        pure (width, 256 * code + octet)
    skipNonBlank
    skipNonBlank
    skipNonBlank
    if width ≤ 1 then return code else uriOctets start n (width - 1) code

/-- An escaped character of a tag; the joined value must be a character. -/
def uriEscape (start : Mark) : ScanM Char := do
  let code ← uriOctets start 4 0 0
  if code > 0x10FFFF || (0xD800 ≤ code && code ≤ 0xDFFF) then
    fail start "while parsing a tag, found an invalid UTF-8 codepoint"
  return Char.ofNat code

/-- The characters of a tag that satisfy a condition, with escapes resolved. -/
def uriChars (allowed : Char → Bool) (start : Mark) : Nat → String → ScanM String
  | 0, acc => return acc
  | n + 1, acc => do
    let c ← ch
    if !allowed c then return acc
    else if c == '%' then uriChars allowed start n (acc.push (← uriEscape start))
    else
      skipNonBlank
      uriChars allowed start n (acc.push c)

/-- The rest of a tag after its handle, starting with `head` without its first character. -/
def scanTagUri (head : String) (start : Mark) : ScanM String := do
  let body ← uriChars isTagChar start (← fuel) ""
  if head.length + body.length == 0 then
    fail start "while parsing a tag, did not find expected tag URI"
  return String.ofList (head.toList.drop 1) ++ body

/-- A directive, up to the end of its line. Unknown directives are skipped. -/
def scanDirective : ScanM Token := do
  let start ← here
  skipNonBlank
  let name ← scanDirectiveName start
  let tok ← if name == "YAML" then do
      skipBlanks (← fuel)
      let major ← scanVersionNumber start
      if (← ch) != '.' then
        fail start "while scanning a YAML directive, did not find expected digit or '.' character"
      skipNonBlank
      let minor ← scanVersionNumber start
      pure (Token.mk start (.versionDirective major minor))
    else if name == "TAG" then do
      skipBlanks (← fuel)
      let handle ← scanTagHandle true start
      skipBlanks (← fuel)
      let pfx ← uriChars isUriChar start (← fuel) ""
      if pfx.isEmpty then fail start "while parsing a tag, did not find expected tag URI"
      if !isBlankZ (← ch) then
        fail start "while scanning TAG, did not find expected whitespace or line break"
      pure (Token.mk start (.tagDirective handle pfx))
    else do
      let _ ← takeWhile (!isBreakZ ·) (← fuel) ""
      pure (Token.mk start (.tagDirective "" ""))
  skipToLineEnd
  if isBreakZ (← ch) then
    skipLinebreak
    return tok
  else fail start "while scanning a directive, did not find expected comment or line break"

/-- A directive token. -/
def fetchDirective : ScanM Unit := do
  unrollIndent (-1)
  removeSimpleKey
  disallowSimpleKey
  push (← scanDirective)

/-- A document start or end marker. -/
def fetchDocumentIndicator (kind : TokenKind) : ScanM Unit := do
  unrollIndent (-1)
  removeSimpleKey
  disallowSimpleKey
  let start ← here
  skipNonBlank
  skipNonBlank
  skipNonBlank
  push ⟨start, kind⟩

/-- An opening bracket, which may start a key. -/
def fetchFlowCollectionStart (kind : TokenKind) : ScanM Unit := do
  saveSimpleKey
  increaseFlowLevel
  allowSimpleKey
  let start ← here
  skipNonBlank
  if kind == .flowMappingStart then modify fun s => { s with flowMappingStarted := true }
  else modify fun s => { s with implicitMappings := false :: s.implicitMappings }
  push ⟨start, kind⟩

/-- Ends the mapping of one pair begun in the innermost bracketed sequence, if any. -/
def endImplicitMapping : ScanM Unit :=
  modify fun s =>
    match s.implicitMappings with
    | true :: rest => { s with flowMappingStarted := false, implicitMappings := false :: rest }
    | _ => s

/-- Whether a value indicator here belongs to a mapping of one pair inside a bracketed
sequence. -/
def inImplicitMapping : ScanM Bool := do
  let s ← get
  return !s.implicitMappings.isEmpty && !s.flowMappingStarted

/-- A closing bracket; a value may follow right after it and its blanks. -/
def fetchFlowCollectionEnd (kind : TokenKind) : ScanM Unit := do
  removeSimpleKey
  decreaseFlowLevel
  disallowSimpleKey
  if kind == .flowSequenceEnd then
    endImplicitMapping
    modify fun s => { s with implicitMappings := s.implicitMappings.tail }
  else modify fun s => { s with flowMappingStarted := false }
  let start ← here
  skipNonBlank
  skipToLineEnd
  modify fun s => if s.flowLevel > 0 then { s with adjacentValueAllowedAt := s.mark.index } else s
  push ⟨start, kind⟩

/-- A comma between flow entries. -/
def fetchFlowEntry : ScanM Unit := do
  removeSimpleKey
  allowSimpleKey
  endImplicitMapping
  let start ← here
  skipNonBlank
  skipToLineEnd
  push ⟨start, .flowEntry⟩

/-- A `-` entry of a block sequence, opening the sequence when it starts further right. The
blanks after it may not hold a tab before another entry, and an entry whose content starts on
a later line or with a bracket opens a one-column level. -/
def fetchBlockEntry : ScanM Unit := do
  let s ← get
  if s.flowLevel > 0 then fail s.mark "\"-\" is only valid inside a block"
  if !s.simpleKeyAllowed then
    fail s.mark "block sequence entries are not allowed in this context"
  match s.tokens.getLast? with
  | some ⟨m, .anchor _⟩ | some ⟨m, .tag _ _⟩ =>
    if s.mark.col == 0 && m.col == 0 && s.indent > -1 then fail m "invalid indentation for anchor"
  | _ => pure ()
  let start := s.mark
  skipNonBlank
  rollIndent start.col none .blockSequenceStart start
  let (tab, _) ← skipWsToEol true (← fuel) false false
  if tab && (← ch) == '-' && isBlankZ (← charAt 1) then
    fail (← here) "'-' must be followed by a valid YAML whitespace"
  let c ← ch
  if isBreak c || isFlow c then rollOneColIndent
  removeSimpleKey
  allowSimpleKey
  push ⟨start, .blockEntry⟩

/-- A `?` key indicator. -/
def fetchKey : ScanM Unit := do
  let s ← get
  if s.flowLevel == 0 then
    if !s.simpleKeyAllowed then
      fail s.mark "mapping keys are not allowed in this context"
    rollIndent s.mark.col none .blockMappingStart s.mark
  else modify fun s => { s with flowMappingStarted := true }
  removeSimpleKey
  if s.flowLevel == 0 then allowSimpleKey else disallowSimpleKey
  let start ← here
  skipNonBlank
  push ⟨start, .key⟩

/-- A `:` value indicator. When a key could have started earlier, the key token is inserted
there, and a mapping opened at its column; the value then goes beyond a one-column level.
Tabs alone may not part the indicator from a value that starts like a word, and the key of a
one-pair mapping in a bracketed sequence must end on the indicator's line. -/
def fetchValue : ScanM Unit := do
  let k ← topKey
  let start ← here
  let implicit ← inImplicitMapping
  if implicit then
    modify fun s => { s with implicitMappings := true :: s.implicitMappings.tail }
  skipNonBlank
  if (← ch) == '\t' then
    let (_, space) ← skipWsToEol true (← fuel) false false
    let c ← ch
    if !space && (c == '-' || isAlpha c) then
      fail (← here) "':' must be followed by a valid YAML whitespace"
  if k.possible then
    if implicit && k.mark.line < start.line then
      fail start "illegal placement of ':' indicator"
    modify fun s => { s with tokens := insertAt ⟨k.mark, .key⟩ (k.tokenNumber - s.tokensParsed) s.tokens }
    rollIndent k.mark.col (some k.tokenNumber) .blockMappingStart start
    rollOneColIndent
    setTopKey { k with possible := false }
    disallowSimpleKey
  else
    let s ← get
    if s.flowLevel == 0 then
      if !s.simpleKeyAllowed then
        fail start "mapping values are not allowed in this context"
      rollIndent start.col none .blockMappingStart start
    rollOneColIndent
    if s.flowLevel == 0 then allowSimpleKey else disallowSimpleKey
  push ⟨start, .value⟩

/-- An anchor `&name` or an alias `*name`. -/
def scanAnchor (isAlias : Bool) : ScanM Token := do
  let start ← here
  skipNonBlank
  let name ← takeWhile isAnchorChar (← fuel) ""
  if name.isEmpty then
    fail start "while scanning an anchor or alias, did not find expected alphabetic or numeric character"
  return ⟨start, if isAlias then .alias name else .anchor name⟩

/-- An anchor or alias token. -/
def fetchAnchor (isAlias : Bool) : ScanM Unit := do
  saveSimpleKey
  disallowSimpleKey
  push (← scanAnchor isAlias)

/-- A tag: `!<uri>`, `!!suffix`, `!handle!suffix`, `!suffix` or a lone `!`. -/
def scanTag : ScanM Token := do
  let start ← here
  let (handle, suffix) ← if (← charAt 1) == '<' then do
      skipNonBlank
      skipNonBlank
      let body ← uriChars isUriChar start (← fuel) ""
      if (← ch) != '>' then fail start "while scanning a tag, did not find the expected '>'"
      skipNonBlank
      pure ("", body)
    else do
      let handle ← scanTagHandle false start
      if handle.length ≥ 2 && handle.startsWith "!" && handle.endsWith "!" then
        pure (handle, ← scanTagUri "" start)
      else
        let suffix ← scanTagUri handle start
        if suffix.isEmpty then pure ("", "!") else pure ("!", suffix)
  let c ← ch
  if isBlankZ c || ((← get).flowLevel > 0 && isFlow c) then return ⟨start, .tag handle suffix⟩
  else fail start "while scanning a tag, did not find expected whitespace or line break"

/-- A tag token. -/
def fetchTag : ScanM Unit := do
  saveSimpleKey
  disallowSimpleKey
  push (← scanTag)

/-- Steps over the empty lines before the first line of a block scalar that has no explicit
indentation, collecting their breaks, and gives the indentation that the scalar takes: that
of its deepest leading line, and at least one more than the enclosing block. -/
def blockScalarFirstIndent (breaks : String) (maxIndent : Nat) : Nat → ScanM (Nat × String)
  | 0 => return (maxIndent, breaks)
  | n + 1 => do
    let rec spaces : Nat → ScanM Unit
      | 0 => return ()
      | m + 1 => do
        if (← ch) == ' ' then
          skipBlank
          spaces m
    spaces (← fuel)
    let s ← get
    let maxIndent := max maxIndent s.mark.col
    if isBreak (← ch) then
      let b ← readBreak
      blockScalarFirstIndent (breaks ++ b) maxIndent n
    else return (max maxIndent (s.indent + 1).toNat, breaks)

/-- Steps over the indentation of a block scalar's next line and over empty lines,
collecting their breaks. -/
def blockScalarBreaks (indent : Nat) (breaks : String) : Nat → ScanM String
  | 0 => return breaks
  | n + 1 => do
    let rec spaces : Nat → ScanM Unit
      | 0 => return ()
      | m + 1 => do
        if (← get).mark.col < indent && (← ch) == ' ' then
          skipBlank
          spaces m
    spaces (← fuel)
    if isBreak (← ch) then
      let b ← readBreak
      blockScalarBreaks indent (breaks ++ b) n
    else return breaks

/-- The lines of a block scalar at its indentation: literal ones keep their breaks, folded
ones join lines with a space unless a line is empty or more indented. At no indentation a
document marker ends the scalar. -/
def blockScalarLines (literal : Bool) (indent : Nat) : Nat → Folding → Bool → ScanM Folding
  | 0, f, _ => return f
  | n + 1, f, leadingBlank => do
    let s ← get
    let c ← ch
    if s.mark.col == indent && !isZ c && !(indent == 0 && (← atDocumentMarker)) then
      let trailingBlank := isBlank c
      let f :=
        if !literal && !f.leadingBreak.isEmpty && !leadingBlank && !trailingBlank then
          { f with text := f.text ++ (if f.trailingBreaks.isEmpty then " " else ""),
                   leadingBreak := "" }
        else { f with text := f.text ++ f.leadingBreak, leadingBreak := "" }
      let f := { f with text := f.text ++ f.trailingBreaks, trailingBreaks := "" }
      let line ← takeWhile (!isBreakZ ·) (← fuel) ""
      let f := { f with text := f.text ++ line }
      if isZ (← ch) then return f
      let b ← readBreak
      let breaks ← blockScalarBreaks indent "" (← fuel)
      blockScalarLines literal indent n { f with leadingBreak := b, trailingBreaks := breaks } (isBlank c)
    else return f

/-- A literal (`|`) or folded (`>`) block scalar with its header: an optional chomping
indicator (`+` keeps final line breaks, `-` strips them, none keeps one) and an optional
indentation digit, in either order. Its content may not start with a tab, and a line
indented less than the content but more than the enclosing block is an error. -/
def scanBlockScalar (literal : Bool) : ScanM Token := do
  let start ← here
  let style := if literal then ScalarStyle.literal else ScalarStyle.folded
  skipNonBlank
  unrollNonBlockIndents
  let readChomp : ScanM Int := do
    let c ← ch
    if c == '+' then
      skipNonBlank
      return 1
    else if c == '-' then
      skipNonBlank
      return -1
    else return 0
  let readDigit : ScanM Nat := do
    let c ← ch
    if c.isDigit then
      if c == '0' then
        fail start "while scanning a block scalar, found an indentation indicator equal to 0"
      skipNonBlank
      return c.toNat - '0'.toNat
    else return 0
  let (chomping, increment) ← if (← ch) == '+' || (← ch) == '-' then do
      let c ← readChomp
      let d ← readDigit
      pure (c, d)
    else do
      let d ← readDigit
      let c ← if d > 0 then readChomp else pure 0
      pure (c, d)
  skipToLineEnd
  if !isBreakZ (← ch) then
    fail start "while scanning a block scalar, did not find expected comment or line break"
  let chompingBreak ← if isBreak (← ch) then readBreak else pure ""
  if (← ch) == '\t' then fail start "a block scalar content cannot start with a tab"
  let s ← get
  let (indent, breaks) ← if increment > 0 then do
      let indent := if s.indent ≥ 0 then (s.indent + increment).toNat else increment
      pure (indent, ← blockScalarBreaks indent "" (← fuel))
    else blockScalarFirstIndent "" 0 (← fuel)
  if isZ (← ch) then
    let line := (← get).mark.line
    let contents :=
      if chomping == -1 then ""
      else if line == start.line then ""
      else if chomping == 0 then chompingBreak
      else if breaks.isEmpty then chompingBreak
      else breaks
    return ⟨start, .scalar style contents⟩
  let s ← get
  if s.mark.col < indent && (s.mark.col : Int) > s.indent then
    fail s.mark "wrongly indented line in block scalar"
  let first ← here
  let f ← blockScalarLines literal indent (← fuel) { trailingBreaks := breaks } false
  let text := if chomping != -1 then f.text ++ f.leadingBreak else f.text
  let text := if chomping != -1 && isZ (← ch) && (← get).mark.col ≥ max indent 1 then text ++ "\n" else text
  let text := if chomping == 1 then text ++ f.trailingBreaks else text
  return ⟨first, .scalar style text⟩

/-- A block scalar token. -/
def fetchBlockScalar (literal : Bool) : ScanM Unit := do
  saveSimpleKey
  allowSimpleKey
  push (← scanBlockScalar literal)

/-- The character a one-letter escape of a double-quoted scalar stands for, or the number of
hexadecimal digits of a code escape. -/
def escapeOf (c : Char) : Option (Sum Char Nat) :=
  match c with
  | '0' => some (.inl '\x00')
  | 'a' => some (.inl '\x07')
  | 'b' => some (.inl '\x08')
  | 't' => some (.inl '\t')
  | '\t' => some (.inl '\t')
  | 'n' => some (.inl '\n')
  | 'v' => some (.inl '\x0b')
  | 'f' => some (.inl '\x0c')
  | 'r' => some (.inl '\r')
  | 'e' => some (.inl '\x1b')
  | ' ' => some (.inl ' ')
  | '"' => some (.inl '"')
  | '/' => some (.inl '/')
  | '\'' => some (.inl '\'')
  | '\\' => some (.inl '\\')
  | 'N' => some (.inl '\u0085')
  | '_' => some (.inl '\u00A0')
  | 'L' => some (.inl '\u2028')
  | 'P' => some (.inl '\u2029')
  | 'x' => some (.inr 2)
  | 'u' => some (.inr 4)
  | 'U' => some (.inr 8)
  | _ => none

/-- Reads `n` hexadecimal digits ahead, without stepping over them. -/
def hexAhead (start : Mark) : Nat → Nat → Nat → ScanM Nat
  | 0, _, acc => return acc
  | n + 1, k, acc => do
    let c ← charAt k
    if !isHex c then
      fail start "while parsing a quoted scalar, did not find expected hexadecimal number"
    hexAhead start n (k + 1) (16 * acc + hexValue c)

/-- The characters of a quoted scalar up to a blank, a line break or its closing quote. -/
def quotedRun (single : Bool) (start : Mark) : Nat → Folding → ScanM Folding
  | 0, f => return f
  | n + 1, f => do
    let c ← ch
    let c1 ← charAt 1
    if isBlankZ c then return f
    else if single && c == '\'' && c1 == '\'' then
      skipNonBlank
      skipNonBlank
      quotedRun single start n { f with text := f.text.push '\'' }
    else if single && c == '\'' then return f
    else if !single && c == '"' then return f
    else if !single && c == '\\' && isBreak c1 then
      skipNonBlank
      skipLinebreak
      return { f with leadingBlanks := true }
    else if !single && c == '\\' then
      match escapeOf c1 with
      | none => fail start "while parsing a quoted scalar, found unknown escape character"
      | some (.inl e) =>
        skipNonBlank
        skipNonBlank
        quotedRun single start n { f with text := f.text.push e }
      | some (.inr len) =>
        skipNonBlank
        skipNonBlank
        let code ← hexAhead start len 0 0
        if code > 0x10FFFF || (0xD800 ≤ code && code ≤ 0xDFFF) then
          fail start "while parsing a quoted scalar, found invalid Unicode character escape code"
        for _ in [0:len] do skipNonBlank
        quotedRun single start n { f with text := f.text.push (Char.ofNat code) }
    else
      skipNonBlank
      quotedRun single start n { f with text := f.text.push c }

/-- Blanks and line breaks inside a quoted scalar, remembered for folding. A tab may not
stand in the indentation of a continuation line. -/
def blanksRun : Nat → Folding → ScanM Folding
  | 0, f => return f
  | n + 1, f => do
    let c ← ch
    let s ← get
    if isBlank c then
      if f.leadingBlanks && c == '\t' && (s.mark.col : Int) < s.indent then
        fail s.mark "tab cannot be used as indentation"
      skipBlank
      blanksRun n (if f.leadingBlanks then f else { f with whitespaces := f.whitespaces.push c })
    else if isBreak c then
      let b ← readBreak
      if f.leadingBlanks then blanksRun n { f with trailingBreaks := f.trailingBreaks ++ b }
      else blanksRun n { f with whitespaces := "", leadingBreak := f.leadingBreak ++ b, leadingBlanks := true }
    else return f

/-- The body of a quoted scalar, line by line, up to its closing quote; each line must go
beyond the indentation. -/
def quotedLines (single : Bool) (start : Mark) : Nat → Folding → ScanM Folding
  | 0, f => return f
  | n + 1, f => do
    if ← atDocumentMarker then
      fail start "while scanning a quoted scalar, found unexpected document indicator"
    if isZ (← ch) then
      fail start "while scanning a quoted scalar, found unexpected end of stream"
    let s ← get
    if (s.mark.col : Int) < s.indent then
      fail start "invalid indentation in quoted scalar"
    let f ← quotedRun single start (← fuel) { f with leadingBlanks := false }
    let c ← ch
    if (single && c == '\'') || (!single && c == '"') then return f
    let f ← blanksRun (← fuel) f
    quotedLines single start n f.join

/-- A single- or double-quoted scalar. On its line only blanks, a comment, a value indicator
(of a key on one line, outside brackets) or, inside brackets, a comma or closing bracket may
follow it. -/
def scanFlowScalar (single : Bool) : ScanM Token := do
  let start ← here
  skipNonBlank
  let f ← quotedLines single start (← fuel) {}
  skipNonBlank
  skipToLineEnd
  let s ← get
  let c ← ch
  let flow := s.flowLevel > 0
  if !(isBreakZ c || (flow && (c == ',' || c == '}' || c == ']')) ||
      (c == ':' && (flow || start.line == s.mark.line))) then
    fail s.mark "invalid trailing content after double-quoted scalar"
  return ⟨start, .scalar (if single then .singleQuoted else .doubleQuoted) f.text⟩

/-- A quoted scalar token; a value may follow right after it and the blanks, breaks and
comments that follow it. -/
def fetchFlowScalar (single : Bool) : ScanM Unit := do
  saveSimpleKey
  disallowSimpleKey
  let tok ← scanFlowScalar single
  skipToNextToken (← fuel)
  modify fun s => { s with adjacentValueAllowedAt := s.mark.index }
  push tok

/-- The characters of a plain scalar on one line, up to a blank, a `: ` or, inside
brackets, a bracket or comma. Pending blanks are folded in before each character. -/
def plainRun : Nat → Folding → ScanM Folding
  | 0, f => return f
  | n + 1, f => do
    let c ← ch
    let c1 ← charAt 1
    let flow := (← get).flowLevel > 0
    if isBlankZ c then return f
    else if c == ':' && (isBlankZ c1 || (flow && isFlow c1)) then return f
    else if flow && isFlow c then return f
    else
      let f := if f.leadingBlanks || !f.whitespaces.isEmpty then
          { f.join with leadingBlanks := false }
        else f
      skipNonBlank
      plainRun n { f with text := f.text.push c }

/-- Blanks and line breaks after a line of a plain scalar; a tab in the indentation of a
continuation line is allowed only on a line without content. -/
def plainBlanks (indent : Int) (start : Mark) : Nat → Folding → ScanM Folding
  | 0, f => return f
  | n + 1, f => do
    let c ← ch
    if isBlank c then
      if f.leadingBlanks && ((← get).mark.col : Int) < indent && c == '\t' then
        skipToLineEnd
        if !isBreakZ (← ch) then fail start "while scanning a plain scalar, found a tab"
        plainBlanks indent start n f
      else
        skipBlank
        plainBlanks indent start n (if f.leadingBlanks then f else { f with whitespaces := f.whitespaces.push c })
    else if isBreak c then
      let b ← readBreak
      if f.leadingBlanks then plainBlanks indent start n { f with trailingBreaks := f.trailingBreaks ++ b }
      else plainBlanks indent start n { f with whitespaces := "", leadingBreak := f.leadingBreak ++ b, leadingBlanks := true }
    else return f

/-- The lines of a plain scalar: it ends at a document marker, a comment, an indicator, or a
line less indented than the enclosing block's content. -/
def plainLines (indent : Int) (start : Mark) : Nat → Folding → ScanM Folding
  | 0, f => return f
  | n + 1, f => do
    if ← atDocumentMarker then return f
    if (← ch) == '#' then return f
    if (← get).flowLevel > 0 && (← ch) == '-' && isFlow (← charAt 1) then
      fail (← here) "plain scalar cannot start with '-' followed by ,[]{}"
    let f ← plainRun (← fuel) f
    let c ← ch
    if !(isBlank c || isBreak c) then return f
    let f ← plainBlanks indent start (← fuel) f
    let s ← get
    if s.flowLevel == 0 && (s.mark.col : Int) < indent then return f
    plainLines indent start n f

/-- A plain scalar, which closes the one-column levels on top; inside brackets it must go
beyond the enclosing block. When it ends after a line break a key may start next. -/
def scanPlainScalar : ScanM Token := do
  unrollNonBlockIndents
  let s ← get
  let start := s.mark
  if s.flowLevel > 0 && (start.col : Int) < s.indent + 1 then
    fail start "invalid indentation in flow construct"
  let f ← plainLines (s.indent + 1) start (← fuel) {}
  if f.leadingBlanks then allowSimpleKey
  if f.text.isEmpty then fail start "unexpected end of plain scalar"
  return ⟨start, .scalar .plain f.text⟩

/-- A plain scalar token. -/
def fetchPlainScalar : ScanM Unit := do
  saveSimpleKey
  disallowSimpleKey
  push (← scanPlainScalar)

/-- Scans the next token, after any block ends it implies. -/
def fetchNextToken : ScanM Unit := do
  if !(← get).streamStartProduced then
    fetchStreamStart
    return
  skipToNextToken (← fuel)
  staleSimpleKeys
  unrollIndent ((← get).mark.col : Int)
  let s ← get
  let c ← ch
  let c1 ← charAt 1
  if isZ c then fetchStreamEnd
  else if s.mark.col == 0 && c == '%' then fetchDirective
  else if (← atDocumentMarker) && c == '-' then fetchDocumentIndicator .documentStart
  else if (← atDocumentMarker) && c == '.' then
    fetchDocumentIndicator .documentEnd
    skipToLineEnd
    if !isBreakZ (← ch) then fail (← here) "invalid content after document end marker"
  else if (s.mark.col : Int) < s.indent then fail s.mark "invalid indentation"
  else match c with
    | '[' => fetchFlowCollectionStart .flowSequenceStart
    | '{' => fetchFlowCollectionStart .flowMappingStart
    | ']' => fetchFlowCollectionEnd .flowSequenceEnd
    | '}' => fetchFlowCollectionEnd .flowMappingEnd
    | ',' => fetchFlowEntry
    | '-' => if isBlankZ c1 then fetchBlockEntry else fetchPlainScalar
    | '?' => if isBlankZ c1 then fetchKey else fetchPlainScalar
    | ':' =>
      if isBlankZ c1 || (s.flowLevel > 0 && (isFlow c1 || s.mark.index == s.adjacentValueAllowedAt)) then
        fetchValue
      else fetchPlainScalar
    | '*' => fetchAnchor true
    | '&' => fetchAnchor false
    | '!' => fetchTag
    | '|' => if s.flowLevel == 0 then fetchBlockScalar true else fetchPlainScalar
    | '>' => if s.flowLevel == 0 then fetchBlockScalar false else fetchPlainScalar
    | '\'' => fetchFlowScalar true
    | '"' => fetchFlowScalar false
    | '%' => fail s.mark "unexpected character: `%'"
    | '@' => fail s.mark "unexpected character: `@'"
    | '`' => fail s.mark "unexpected character: `\x60'"
    | _ => fetchPlainScalar

/-- Scans until the next token is settled: there is one, and no key may still be inserted
before it. -/
def fetchMoreTokens : Nat → ScanM Unit
  | 0 => return ()
  | n + 1 => do
    let needMore ← if (← get).tokens.isEmpty then pure true else do
      staleSimpleKeys
      let s ← get
      pure (s.simpleKeys.any fun k => k.possible && k.tokenNumber == s.tokensParsed)
    if needMore then
      fetchNextToken
      fetchMoreTokens n
    else modify fun s => { s with tokenAvailable := true }

/-- The next token, or `none` after the end of the stream. -/
def nextToken : ScanM (Option Token) := do
  if (← get).streamEndProduced then return none
  if !(← get).tokenAvailable then fetchMoreTokens (4 * (← fuel) + 16)
  let s ← get
  match s.tokens with
  | [] => fail s.mark "did not find expected next token"
  | t :: rest =>
    set { s with tokens := rest, tokenAvailable := false, tokensParsed := s.tokensParsed + 1,
                 streamEndProduced := s.streamEndProduced || t.kind == TokenKind.streamEnd }
    return some t

end Scanner

end TrackerSearch.Yaml
