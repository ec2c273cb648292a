import TrackerSearch.Pattern.Error
import TrackerSearch.Unicode.WhiteSpace
import TrackerSearch.Unicode.Alphanumeric

/-!
Reading a pattern into its syntax tree. The reader walks the pattern once, left to right,
keeping two stacks: open groups with the alternatives read so far, and open brackets of a
class with the set operations pending. Each error is raised at the first point where the
text read so far cannot be completed, and points at the span that decides it.

In extended mode (`x`) blanks are skipped and `#` starts a comment that runs to the end of
the line. A group name starts with a letter or `_` and goes on with letters, digits, `_`,
`.`, `[` and `]`. Nesting of groups, repetitions and classes is limited to 250 levels,
checked once the whole pattern has been read.
-/

namespace TrackerSearch.Pattern

open Unicode

/-- Whether a character is a blank: the White_Space property. -/
def isBlank (c : Char) : Bool := whiteSpace.contains c

/-- Whether a character is a letter: the Alphabetic property. -/
def isLetter (c : Char) : Bool := alphabetic.contains c

/-- Whether a character is a letter or a number. -/
def isLetterOrNumber (c : Char) : Bool := alphabetic.contains c || numeric.contains c

/-- Whether a character may stand in a group name, at its start or after it. -/
def isNameChar (c : Char) (first : Bool) : Bool :=
  if first then c == '_' || isLetter c
  else c == '_' || c == '.' || c == '[' || c == ']' || isLetterOrNumber c

/-- Characters with a meaning of their own, which an escape makes plain. -/
def isMeta (c : Char) : Bool :=
  "\\.+*?()|[]\x7b\x7d^$#&-~".any (· == c)

/-- Characters that may be escaped without changing their meaning. -/
def isEscapable (c : Char) : Bool :=
  isMeta c || (c.toNat < 128 && !c.isAlphanum && c != '<' && c != '>')

/-- Whether a character is a hexadecimal digit. -/
def isHexDigit (c : Char) : Bool :=
  c.isDigit || ('a' ≤ c && c ≤ 'f') || ('A' ≤ c && c ≤ 'F')

/-- A sequence of expressions read so far, in reverse. -/
structure Concat where
  span : Span
  items : List Ast

/-- The expression of a sequence: empty, its only item, or the sequence. -/
def Concat.toAst (c : Concat) : Ast :=
  match c.items with
  | [] => .empty c.span
  | [a] => a
  | items => .concat c.span items.reverse

/-- An open group and what stood before it. -/
inductive GroupFrame where
  /-- Alternatives of the innermost group read so far, in reverse. -/
  | alternation (span : Span) (alts : List Ast)
  /-- An open group: the sequence before it, its span and kind, and the extended mode
  outside it. -/
  | group (before : Concat) (span : Span) (kind : GroupKind) (outerBlank : Bool)

/-- The parts of a bracketed class read so far, in reverse. -/
structure ClassUnion where
  span : Span
  items : List ClassItem

/-- The class part of a union: empty, its only part, or the union. -/
def ClassUnion.toItem (u : ClassUnion) : ClassItem :=
  match u.items with
  | [] => .empty u.span
  | [i] => i
  | items => .union u.span items.reverse

/-- An open bracket or a pending set operation. -/
inductive ClassFrame where
  /-- An open bracket: the union it stands in, its start and whether it is negated. -/
  | open (outer : ClassUnion) (span : Span) (negated : Bool)
  /-- A set operation whose left side has been read. -/
  | op (kind : ClassOp) (lhs : ClassSet)

/-- The state of the reader. -/
structure Cursor where
  pos : Position := Position.origin
  blankMode : Bool := false
  captureCount : Nat := 0
  names : List (String × Span) := []
  groups : List GroupFrame := []
  classes : List ClassFrame := []

/-- Reading a pattern: the pattern's characters, the state, and failure with an error. -/
abbrev Reader := ReaderT (Array Char) (StateT Cursor (Except PatternError))

/-- Fails with an error at a span. -/
def fail {α : Type} (kind : ErrorKind) (span : Span) : Reader α :=
  throw { kind := kind, span := span }

/-- Fails with an error at a span that repeats what stands at an earlier span. -/
def failRepeated {α : Type} (kind : ErrorKind) (span first : Span) : Reader α :=
  throw { kind := kind, span := span, aux := some first }

/-- The current position. -/
def pos : Reader Position := do return (← get).pos

/-- The character at the current position, if any. -/
def peekHere : Reader (Option Char) := do return (← read)[(← get).pos.index]?

/-- Whether the whole pattern has been read. -/
def atEnd : Reader Bool := do return (← peekHere).isNone

/-- The current character; a blank at the end, which callers rule out first. -/
def here : Reader Char := do return (← peekHere).getD ' '

/-- The position after the current character. -/
def Position.next (p : Position) (c : Char) : Position :=
  if c == '\n' then ⟨p.index + 1, p.line + 1, 1⟩ else ⟨p.index + 1, p.line, p.column + 1⟩

/-- The empty span at the current position. -/
def spanHere : Reader Span := do return Span.at (← pos)

/-- The span of the current character. -/
def spanChar : Reader Span := do
  let p ← pos
  return ⟨p, p.next (← here)⟩

/-- Moves past the current character; says whether a character follows. -/
def bump : Reader Bool := do
  match ← peekHere with
  | none => return false
  | some c =>
    modify fun s => { s with pos := s.pos.next c }
    return !(← atEnd)

/-- Sets the position back. -/
def restore (p : Position) : Reader Unit :=
  modify fun s => { s with pos := p }

/-- Whether the text from the current position starts with `s`. -/
def startsWith (s : List Char) : Reader Bool := do
  let p ← read
  let i := (← get).pos.index
  return (s.zipIdx.all fun (c, k) => p[i + k]? == some c)

/-- Moves past `s` if the text starts with it. -/
def bumpIf (s : List Char) : Reader Bool := do
  if ← startsWith s then
    for _ in s do discard bump
    return true
  else return false

/-- The character after the current one. -/
def peekNext : Reader (Option Char) := do
  return (← read)[(← get).pos.index + 1]?

/-- Skips blanks and comments in extended mode; at most `fuel` characters. -/
def skipBlanksFor : Nat → Reader Unit
  | 0 => return
  | fuel + 1 => do
    match ← peekHere with
    | none => return
    | some c =>
      if isBlank c then
        discard bump
        skipBlanksFor fuel
      else if c == '#' then
        discard bump
        skipComment fuel
      else return
where
  /-- Skips a comment through its line feed, then goes on skipping blanks. -/
  skipComment : Nat → Reader Unit
    | 0 => return
    | fuel + 1 => do
      match ← peekHere with
      | none => return
      | some c =>
        discard bump
        if c == '\n' then skipBlanksFor fuel else skipComment fuel

/-- Skips blanks and comments when extended mode is on. -/
def bumpSpace : Reader Unit := do
  if (← get).blankMode then skipBlanksFor (← read).size

/-- Moves past the current character and any blanks after it; says whether a character
follows. -/
def bumpAndSpace : Reader Bool := do
  if !(← bump) then return false
  bumpSpace
  return !(← atEnd)

/-- The next character that is not blank in extended mode, as the reader would see it after
the current one. A `#` is taken to start a comment only up to the next character. -/
def peekSpace : Reader (Option Char) := do
  if !(← get).blankMode then return (← peekNext)
  if ← atEnd then return none
  let p ← read
  let start := (← get).pos.index + 1
  let rest := (p.toList.drop start)
  let rec scan : List Char → Bool → Option Char
    | [], _ => none
    | c :: cs, inComment =>
      if isBlank c then scan cs inComment
      else if !inComment && c == '#' then scan cs true
      else if inComment && c == '\n' then scan cs false
      else some c
  match scan rest false with
  | some c => return some c
  | none => return p[start]?

/-! ## Decimals and flags -/

/-- Reads a decimal number for a counted repetition, blanks allowed around it. -/
def readDecimal : Reader Nat := do
  let n := (← read).size
  for _ in [0:n] do
    match ← peekHere with
    | some c => if isBlank c then discard bump else break
    | none => break
  let start ← pos
  let mut digits : List Char := []
  for _ in [0:n] do
    match ← peekHere with
    | some c =>
      if c.isDigit then
        digits := digits ++ [c]
        discard bumpAndSpace
      else break
    | none => break
  let span : Span := ⟨start, ← pos⟩
  for _ in [0:n] do
    match ← peekHere with
    | some c => if isBlank c then discard bumpAndSpace else break
    | none => break
  if digits.isEmpty then fail .decimalEmpty span
  let v : Nat := digits.foldl (fun a d => a * 10 + (d.toNat - 48)) 0
  if v ≥ Nat.pow 2 32 then fail .decimalInvalid span
  return v

/-- Reads one flag letter. -/
def readFlag : Reader Flag := do
  match ← here with
  | 'i' => return .caseInsensitive
  | 'm' => return .multiLine
  | 's' => return .dotMatchesNewLine
  | 'U' => return .swapGreed
  | 'u' => return .unicode
  | 'R' => return .crlf
  | 'x' => return .ignoreWhitespace
  | _ => fail .flagUnrecognized (← spanChar)

/-- Reads a flag list up to `:` or `)`, refusing a repeated flag or negation, a negation at
the end, and the end of the pattern. -/
def readFlags : Reader (List FlagItem) := do
  let n := (← read).size
  let mut items : List (FlagItem × Span) := []
  let mut lastNegation : Option Span := none
  for _ in [0:n + 1] do
    let c ← here
    if c == ':' || c == ')' then break
    if c == '-' then
      let sp ← spanChar
      lastNegation := some sp
      match items.find? (·.1 == .negation) with
      | some (_, orig) => failRepeated .flagRepeatedNegation sp orig
      | none => items := items ++ [(.negation, sp)]
    else
      lastNegation := none
      let sp ← spanChar
      let f ← readFlag
      match items.find? (·.1 == .flag f) with
      | some (_, orig) => failRepeated .flagDuplicate sp orig
      | none => items := items ++ [(.flag f, sp)]
    if !(← bump) then fail .flagUnexpectedEof (← spanHere)
  match lastNegation with
  | some sp => fail .flagDanglingNegation sp
  | none => return items.map (·.1)

/-- The state of extended mode that a flag list sets, if it mentions it. -/
def blankModeOf (items : List FlagItem) : Option Bool :=
  let rec go : List FlagItem → Bool → Option Bool
    | [], _ => none
    | .negation :: rest, _ => go rest false
    | .flag .ignoreWhitespace :: _, on => some on
    | .flag _ :: rest, on => go rest on
  go items true

/-! ## Escapes -/

/-- Reads a fixed number of hexadecimal digits after `\x`, `\u` or `\U`. -/
def readHexDigits (count : Nat) (isX : Bool) : Reader Ast := do
  let start ← pos
  let mut digits : List Char := []
  for i in [0:count] do
    if i > 0 then
      if !(← bumpAndSpace) then fail .escapeUnexpectedEof (← spanHere)
    let c ← here
    if !isHexDigit c then fail .escapeHexInvalidDigit (← spanChar)
    digits := digits ++ [c]
  discard bumpAndSpace
  let stop ← pos
  let v : Nat := digits.foldl (fun a d => a * 16 + (if d.isDigit then d.toNat - 48 else (d.toLower.toNat - 87))) 0
  if v ≥ 0x110000 || (0xD800 ≤ v && v < 0xE000) then fail .escapeHexInvalid ⟨start, stop⟩
  return .literal ⟨start, stop⟩ (Char.ofNat v) isX

/-- Reads hexadecimal digits in braces after `\x`, `\u` or `\U`. -/
def readHexBrace : Reader Ast := do
  let bracePos ← pos
  let start := (← spanChar).stop
  let n := (← read).size
  let mut digits : List Char := []
  for _ in [0:n] do
    if !(← bumpAndSpace) then break
    let c ← here
    if c == '}' then break
    if !isHexDigit c then fail .escapeHexInvalidDigit (← spanChar)
    digits := digits ++ [c]
  if ← atEnd then fail .escapeUnexpectedEof ⟨bracePos, ← pos⟩
  let stop ← pos
  discard bumpAndSpace
  if digits.isEmpty then fail .escapeHexEmpty ⟨bracePos, ← pos⟩
  let v : Nat := digits.foldl (fun a d => a * 16 + (if d.isDigit then d.toNat - 48 else (d.toLower.toNat - 87))) 0
  if v ≥ 0x110000 || (0xD800 ≤ v && v < 0xE000) then fail .escapeHexInvalid ⟨start, stop⟩
  return .literal ⟨start, ← pos⟩ (Char.ofNat v) false

/-- Reads a hexadecimal escape; the current character is `x`, `u` or `U`. -/
def readHex : Reader Ast := do
  let c ← here
  let count := if c == 'x' then 2 else if c == 'u' then 4 else 8
  if !(← bumpAndSpace) then fail .escapeUnexpectedEof (← spanHere)
  if (← here) == '{' then readHexBrace else readHexDigits count (c == 'x')

/-- Reads a `\p` or `\P` class; the current character is `p` or `P`. -/
def readUnicodeClass : Reader (Bool × UnicodeClassKind) := do
  let negated := (← here) == 'P'
  if !(← bumpAndSpace) then fail .escapeUnexpectedEof (← spanHere)
  if (← here) == '{' then
    let n := (← read).size
    let mut name : List Char := []
    for _ in [0:n] do
      if !(← bumpAndSpace) then break
      let c ← here
      if c == '}' then break
      name := name ++ [c]
    if ← atEnd then fail .escapeUnexpectedEof (← spanHere)
    discard bump
    let text := String.ofList name
    match text.splitOn "!=" with
    | a :: b :: rest => return (negated, .namedValue true a ("!=".intercalate (b :: rest)))
    | _ =>
      -- a colon anywhere takes precedence over an equals sign
      match (name.findIdx? (· == ':')).orElse fun _ => name.findIdx? (· == '=') with
      | some i => return (negated, .namedValue false (String.ofList (name.take i)) (String.ofList (name.drop (i + 1))))
      | none => return (negated, .named text)
  else
    let c ← here
    if c == '\\' then fail .unicodeClassInvalid (← spanChar)
    discard bumpAndSpace
    return (negated, .oneLetter c)

/-- Tries to read `{start}`, `{end}`, `{start-half}` or `{end-half}` after `\b`; backs off
when the brace cannot start one. -/
def readSpecialWordBoundary (wbStart : Position) : Reader (Option AssertionKind) := do
  let start ← pos
  if !(← bumpAndSpace) then fail .specialWordOrRepetitionUnexpectedEof ⟨wbStart, ← pos⟩
  let startContents ← pos
  let valid (c : Char) : Bool := c.isAlpha || c == '-'
  if !valid (← here) then
    restore start
    return none
  let n := (← read).size
  let mut word : List Char := []
  for _ in [0:n] do
    match ← peekHere with
    | some c =>
      if valid c then
        word := word ++ [c]
        discard bumpAndSpace
      else break
    | none => break
  if (← atEnd) || (← here) != '}' then fail .specialWordBoundaryUnclosed ⟨start, ← pos⟩
  let stop ← pos
  discard bump
  match String.ofList word with
  | "start" => return some .wordStart
  | "end" => return some .wordEnd
  | "start-half" => return some .wordStartHalf
  | "end-half" => return some .wordEndHalf
  | _ => fail .specialWordBoundaryUnrecognized ⟨startContents, stop⟩

/-- Reads an escape; the current character is the backslash. -/
def readEscape : Reader Ast := do
  let start ← pos
  if !(← bump) then fail .escapeUnexpectedEof ⟨start, ← pos⟩
  let c ← here
  if '0' ≤ c && c ≤ '9' then fail .unsupportedBackreference ⟨start, (← spanChar).stop⟩
  if c == 'x' || c == 'u' || c == 'U' then
    let lit ← readHex
    match lit with
    | .literal sp ch b => return .literal ⟨start, sp.stop⟩ ch b
    | other => return other
  if c == 'p' || c == 'P' then
    let (negated, kind) ← readUnicodeClass
    return .unicodeClass ⟨start, ← pos⟩ negated kind
  if c == 'd' || c == 's' || c == 'w' || c == 'D' || c == 'S' || c == 'W' then
    discard bump
    let kind : PerlKind := if c == 'd' || c == 'D' then .digit else if c == 's' || c == 'S' then .space else .word
    return .perlClass ⟨start, ← pos⟩ (c == 'D' || c == 'S' || c == 'W') kind
  discard bump
  let span : Span := ⟨start, ← pos⟩
  if isEscapable c then return .literal span c false
  match c with
  | 'a' => return .literal span (Char.ofNat 7) false
  | 'f' => return .literal span (Char.ofNat 12) false
  | 't' => return .literal span '\t' false
  | 'n' => return .literal span '\n' false
  | 'r' => return .literal span '\r' false
  | 'v' => return .literal span (Char.ofNat 11) false
  | 'A' => return .assertion span .startText
  | 'z' => return .assertion span .endText
  | 'b' =>
    if !(← atEnd) && (← here) == '{' then
      match ← readSpecialWordBoundary start with
      | some kind => return .assertion ⟨start, ← pos⟩ kind
      | none => return .assertion span .wordBoundary
    else return .assertion span .wordBoundary
  | 'B' => return .assertion span .notWordBoundary
  | '<' => return .assertion span .wordStartAngle
  | '>' => return .assertion span .wordEndAngle
  | _ => fail .escapeUnrecognized span

/-- Reads one plain item: an escape, `.`, `^`, `$` or a literal character. -/
def readPrimitive : Reader Ast := do
  let c ← here
  if c == '\\' then readEscape
  else
    let sp ← spanChar
    discard bump
    if c == '.' then return .dot sp
    else if c == '^' then return .assertion sp .startLine
    else if c == '$' then return .assertion sp .endLine
    else return .literal sp c false

/-! ## Bracketed classes -/

/-- The error for a class left open: at the innermost open bracket. -/
def unclosedClass : Reader PatternError := do
  let sp := (← get).classes.findSome? fun
    | .open _ sp _ => some sp
    | .op .. => none
  return { kind := .classUnclosed, span := sp.getD (Span.at Position.origin) }

/-- Tries to read `[:name:]` or `[:^name:]`; backs off when it is not one. -/
def readAsciiClass : Reader (Option ClassItem) := do
  let start ← pos
  let back : Reader (Option ClassItem) := do restore start; return none
  if !(← bump) || (← here) != ':' then return ← back
  if !(← bump) then return ← back
  let mut negated := false
  if (← here) == '^' then
    negated := true
    if !(← bump) then return ← back
  let n := (← read).size
  let mut name : List Char := []
  for _ in [0:n] do
    match ← peekHere with
    | some ':' => break
    | some c =>
      name := name ++ [c]
      discard bump
    | none => break
  if ← atEnd then return ← back
  if !(← bumpIf [':', ']']) then return ← back
  match AsciiKind.ofName? (String.ofList name) with
  | some kind => return some (.ascii ⟨start, ← pos⟩ negated kind)
  | none => back

/-- Reads an item inside brackets: an escape or one literal character. -/
def readClassPrimitive : Reader Ast := do
  if (← here) == '\\' then readEscape
  else
    let sp ← spanChar
    let c ← here
    discard bump
    return .literal sp c false

/-- A class part from a plain item; assertions and other escapes are refused. -/
def toClassItem : Ast → Reader ClassItem
  | .literal sp c b => return .literal sp c b
  | .perlClass sp n k => return .perl sp n k
  | .unicodeClass sp n k => return .unicode sp n k
  | a => fail .classEscapeInvalid a.span

/-- A range bound from a plain item, which must be a literal. -/
def toRangeBound : Ast → Reader (Char × Bool)
  | .literal _ c b => return (c, b)
  | a => fail .classRangeLiteral a.span

/-- Reads a class part: one item, or a range of two. A `-` before `]` or before another `-`
is no range. -/
def readClassRange : Reader ClassItem := do
  let first ← readClassPrimitive
  bumpSpace
  if ← atEnd then throw (← unclosedClass)
  let next ← peekSpace
  if (← here) != '-' || next == some ']' || next == some '-' then return ← toClassItem first
  if !(← bumpAndSpace) then throw (← unclosedClass)
  let second ← readClassPrimitive
  let span : Span := ⟨first.span.start, second.span.stop⟩
  let (lo, loB) ← toRangeBound first
  let (hi, hiB) ← toRangeBound second
  if hi < lo then fail .classRangeInvalid span
  return .range span lo hi loB hiB first.span second.span

/-- Reads an opening bracket with its `^` and any leading `-` or `]`, which are literal there. -/
def readClassOpen : Reader (Span × Bool × ClassUnion) := do
  let start ← pos
  if !(← bumpAndSpace) then fail .classUnclosed ⟨start, ← pos⟩
  let mut negated := false
  if (← here) == '^' then
    negated := true
    if !(← bumpAndSpace) then fail .classUnclosed ⟨start, ← pos⟩
  let unionStart ← pos
  let mut items : List ClassItem := []
  let n := (← read).size
  for _ in [0:n] do
    if (← here) != '-' then break
    items := .literal (← spanChar) '-' false :: items
    if !(← bumpAndSpace) then fail .classUnclosed ⟨start, start⟩
  if items.isEmpty && (← here) == ']' then
    items := [.literal (← spanChar) ']' false]
    if !(← bumpAndSpace) then fail .classUnclosed ⟨start, ← pos⟩
  return (⟨start, ← pos⟩, negated, ⟨Span.at unionStart, items⟩)

/-- Applies a pending set operation below the top of the class stack to `rhs`. -/
def popClassOp (rhs : ClassSet) : Reader ClassSet := do
  match (← get).classes with
  | .op kind lhs :: rest =>
    modify fun s => { s with classes := rest }
    return .op ⟨lhs.span.start, rhs.span.stop⟩ kind lhs rhs
  | _ => return rhs

/-- Starts a set operation with the union read so far as its left side. -/
def pushClassOp (kind : ClassOp) (u : ClassUnion) : Reader ClassUnion := do
  let lhs ← popClassOp (.item u.toItem)
  modify fun s => { s with classes := .op kind lhs :: s.classes }
  return ⟨← spanHere, []⟩

/-- Closes the innermost bracket; gives the finished class when it was the outermost. -/
def popClass (u : ClassUnion) : Reader (ClassUnion ⊕ (Span × Bool × ClassSet)) := do
  let set ← popClassOp (.item u.toItem)
  match (← get).classes with
  | .open outer sp negated :: rest =>
    modify fun s => { s with classes := rest }
    discard bump
    let span : Span := ⟨sp.start, ← pos⟩
    if rest.isEmpty then return .inr (span, negated, set)
    else return .inl { outer with items := .bracketed span negated set :: outer.items }
  | _ => return .inr (⟨(← pos), (← pos)⟩, false, set)

/-- Opens a bracket inside the union `u`. -/
def pushClassOpen (u : ClassUnion) : Reader ClassUnion := do
  let (span, negated, inner) ← readClassOpen
  modify fun s => { s with classes := .open u span negated :: s.classes }
  return inner

/-- Reads a bracketed class; the current character is its `[`. -/
def readBracketed : Reader Ast := do
  let n := (← read).size
  let mut u : ClassUnion := ⟨← spanHere, []⟩
  for _ in [0:n + 1] do
    bumpSpace
    if ← atEnd then throw (← unclosedClass)
    let c ← here
    if c == '[' then
      if !(← get).classes.isEmpty then
        match ← readAsciiClass with
        | some item =>
          u := { u with items := item :: u.items }
          continue
        | none => pure ()
      u ← pushClassOpen u
    else if c == ']' then
      match ← popClass u with
      | .inl outer => u := outer
      | .inr (span, negated, set) => return .bracketed span negated set
    else if c == '&' && (← peekNext) == some '&' then
      discard (bumpIf ['&', '&'])
      u ← pushClassOp .intersection u
    else if c == '-' && (← peekNext) == some '-' then
      discard (bumpIf ['-', '-'])
      u ← pushClassOp .difference u
    else if c == '~' && (← peekNext) == some '~' then
      discard (bumpIf ['~', '~'])
      u ← pushClassOp .symmetricDifference u
    else
      let item ← readClassRange
      u := { u with items := item :: u.items }
  throw (← unclosedClass)

/-! ## Groups and repetition -/

/-- Takes the next capture index. -/
def nextCapture (span : Span) : Reader Nat := do
  let s ← get
  if s.captureCount + 1 ≥ Nat.pow 2 32 then fail .captureLimitExceeded span
  set { s with captureCount := s.captureCount + 1 }
  return s.captureCount + 1

/-- Reads a group name up to its `>` and records it, refusing a name used before. -/
def readCaptureName : Reader String := do
  if ← atEnd then fail .groupNameUnexpectedEof (← spanHere)
  let start ← pos
  let n := (← read).size
  let mut name : List Char := []
  for _ in [0:n] do
    let c ← here
    if c == '>' then break
    if !isNameChar c ((← pos).index == start.index) then fail .groupNameInvalid (← spanChar)
    name := name ++ [c]
    if !(← bump) then break
  let stop ← pos
  if ← atEnd then fail .groupNameUnexpectedEof (← spanHere)
  discard bump
  if name.isEmpty then fail .groupNameEmpty ⟨start, start⟩
  let text := String.ofList name
  let span : Span := ⟨start, stop⟩
  match (← get).names.lookup text with
  | some orig => failRepeated .groupNameDuplicate span orig
  | none =>
    modify fun s => { s with names := (text, span) :: s.names }
    return text

/-- What an opening parenthesis starts: flags for the rest of the group, or a group. -/
inductive Opening where
  | flags (span : Span) (items : List FlagItem)
  | group (span : Span) (kind : GroupKind)

/-- Reads what follows an opening parenthesis. -/
def readGroupOpening : Reader Opening := do
  let openSpan ← spanChar
  discard bump
  bumpSpace
  if (← startsWith ['?', '=']) || (← startsWith ['?', '!']) || (← startsWith ['?', '<', '='])
      || (← startsWith ['?', '<', '!']) then
    fail .unsupportedLookAround ⟨openSpan.start, (← spanHere).stop⟩
  let innerSpan ← spanHere
  if (← bumpIf ['?', 'P', '<']) || (← bumpIf ['?', '<']) then
    let index ← nextCapture openSpan
    let name ← readCaptureName
    return .group openSpan (.named name index)
  else if ← bumpIf ['?'] then
    if ← atEnd then fail .groupUnclosed innerSpan
    let items ← readFlags
    let close ← here
    discard bump
    if close == ')' then
      if items.isEmpty then fail .repetitionMissing innerSpan
      return .flags ⟨openSpan.start, ← pos⟩ items
    else return .group openSpan (.nonCapturing items)
  else
    let index ← nextCapture openSpan
    return .group openSpan (.capture index)

/-- Handles an opening parenthesis in the sequence `c`. -/
def pushGroup (c : Concat) : Reader Concat := do
  match ← readGroupOpening with
  | .flags span items =>
    match blankModeOf items with
    | some v => modify fun s => { s with blankMode := v }
    | none => pure ()
    return { c with items := .setFlags span items :: c.items }
  | .group span kind =>
    let outer := (← get).blankMode
    let inner := match kind with
      | .nonCapturing items => (blankModeOf items).getD outer
      | _ => outer
    modify fun s => { s with groups := .group c span kind outer :: s.groups, blankMode := inner }
    return ⟨← spanHere, []⟩

/-- Handles a closing parenthesis that ends the sequence `c`. -/
def popGroup (c : Concat) : Reader Concat := do
  let stack := (← get).groups
  let (before, span, kind, outer, alt, rest) ← match stack with
    | .group before span kind outer :: rest => pure (before, span, kind, outer, none, rest)
    | .alternation asp alts :: .group before span kind outer :: rest =>
      pure (before, span, kind, outer, some (asp, alts), rest)
    | _ => fail .groupUnopened (← spanChar)
  modify fun s => { s with groups := rest, blankMode := outer }
  let cStop ← pos
  discard bump
  let gspan : Span := ⟨span.start, ← pos⟩
  let c : Concat := { c with span := ⟨c.span.start, cStop⟩ }
  let body := match alt with
    | some (asp, alts) => Ast.alternation ⟨asp.start, cStop⟩ (c.toAst :: alts).reverse
    | none => c.toAst
  return { before with items := .group gspan kind body :: before.items }

/-- Handles a `|` that ends the sequence `c`. -/
def pushAlternate (c : Concat) : Reader Concat := do
  let p ← pos
  let c : Concat := { c with span := ⟨c.span.start, p⟩ }
  match (← get).groups with
  | .alternation asp alts :: rest =>
    modify fun s => { s with groups := .alternation asp (c.toAst :: alts) :: rest }
  | stack =>
    modify fun s => { s with groups := .alternation ⟨c.span.start, p⟩ [c.toAst] :: stack }
  discard bump
  return ⟨← spanHere, []⟩

/-- Takes the expression a repetition operator applies to. -/
def popRepeated (c : Concat) : Reader (Ast × Concat) := do
  match c.items with
  | [] => fail .repetitionMissing (← spanHere)
  | a :: rest =>
    match a with
    | .empty _ | .setFlags .. => fail .repetitionMissing (← spanHere)
    | _ => return (a, { c with items := rest })

/-- Handles `?`, `*` or `+`. -/
def pushRepetition (c : Concat) (kind : RepetitionKind) : Reader Concat := do
  let (a, c) ← popRepeated c
  let mut greedy := true
  if (← bump) && (← here) == '?' then
    greedy := false
    discard bump
  return { c with items := .repetition ⟨a.span.start, ← pos⟩ kind greedy a :: c.items }

/-- Handles a counted repetition in braces. -/
def pushCounted (c : Concat) : Reader Concat := do
  let start ← pos
  let (a, c) ← popRepeated c
  if !(← bumpAndSpace) then fail .repetitionCountUnclosed ⟨start, ← pos⟩
  let decimal : Reader Nat := tryCatch readDecimal fun e =>
    if e.kind == .decimalEmpty then throw { e with kind := .repetitionCountDecimalEmpty } else throw e
  let lo ← decimal
  let mut kind : RepetitionKind := .exactly lo
  if ← atEnd then fail .repetitionCountUnclosed ⟨start, ← pos⟩
  if (← here) == ',' then
    if !(← bumpAndSpace) then fail .repetitionCountUnclosed ⟨start, ← pos⟩
    if (← here) != '}' then
      let hi ← decimal
      kind := .bounded lo hi
    else kind := .atLeast lo
  if (← atEnd) || (← here) != '}' then fail .repetitionCountUnclosed ⟨start, ← pos⟩
  let mut greedy := true
  if (← bumpAndSpace) && (← here) == '?' then
    greedy := false
    discard bump
  let opSpan : Span := ⟨start, ← pos⟩
  match kind with
  | .bounded l h => if h < l then fail .repetitionCountInvalid opSpan
  | _ => pure ()
  return { c with items := .repetition ⟨a.span.start, ← pos⟩ kind greedy a :: c.items }

/-- Ends the pattern: the sequence `c` becomes the last alternative; an open group is an
error at its parenthesis. -/
def finish (c : Concat) : Reader Ast := do
  let p ← pos
  let c : Concat := { c with span := ⟨c.span.start, p⟩ }
  match (← get).groups with
  | [] => return c.toAst
  | [.alternation asp alts] => return .alternation ⟨asp.start, p⟩ (c.toAst :: alts).reverse
  | .alternation _ _ :: .group _ span _ _ :: _ => fail .groupUnclosed span
  | .group _ span _ _ :: _ => fail .groupUnclosed span
  | _ => return c.toAst

/-- The main loop: each round reads at least one character. -/
def readSequence : Nat → Concat → Reader Ast
  | 0, c => finish c
  | fuel + 1, c => do
    bumpSpace
    if ← atEnd then return ← finish c
    let ch ← here
    let c ← if ch == '(' then pushGroup c
      else if ch == ')' then popGroup c
      else if ch == '|' then pushAlternate c
      else if ch == '[' then do
        let cls ← readBracketed
        pure { c with items := cls :: c.items }
      else if ch == '?' then pushRepetition c .zeroOrOne
      else if ch == '*' then pushRepetition c .zeroOrMore
      else if ch == '+' then pushRepetition c .oneOrMore
      else if ch == '{' then pushCounted c
      else do
        let a ← readPrimitive
        pure { c with items := a :: c.items }
    readSequence fuel c

/-! ## Nesting -/

/-- The deepest nesting allowed. -/
def nestLimit : Nat := 250

mutual
/-- Checks the nesting depth of an expression at depth `d`. -/
def checkNest (d : Nat) : Ast → Except PatternError Unit
  | .bracketed sp _ set => do
    if d + 1 > nestLimit then throw { kind := .nestLimitExceeded nestLimit, span := sp }
    checkSetNest (d + 1) set
  | .repetition sp _ _ sub => do
    if d + 1 > nestLimit then throw { kind := .nestLimitExceeded nestLimit, span := sp }
    checkNest (d + 1) sub
  | .group sp _ sub => do
    if d + 1 > nestLimit then throw { kind := .nestLimitExceeded nestLimit, span := sp }
    checkNest (d + 1) sub
  | .alternation sp alts => do
    if d + 1 > nestLimit then throw { kind := .nestLimitExceeded nestLimit, span := sp }
    checkNestList (d + 1) alts
  | .concat sp items => do
    if d + 1 > nestLimit then throw { kind := .nestLimitExceeded nestLimit, span := sp }
    checkNestList (d + 1) items
  | _ => pure ()

/-- Checks each expression of a list at depth `d`. -/
def checkNestList (d : Nat) : List Ast → Except PatternError Unit
  | [] => pure ()
  | a :: rest => do
    checkNest d a
    checkNestList d rest

/-- Checks a class set at depth `d`. -/
def checkSetNest (d : Nat) : ClassSet → Except PatternError Unit
  | .item i => checkItemNest d i
  | .op sp _ lhs rhs => do
    if d + 1 > nestLimit then throw { kind := .nestLimitExceeded nestLimit, span := sp }
    checkSetNest (d + 1) lhs
    checkSetNest (d + 1) rhs

/-- Checks a class part at depth `d`. -/
def checkItemNest (d : Nat) : ClassItem → Except PatternError Unit
  | .bracketed sp _ set => do
    if d + 1 > nestLimit then throw { kind := .nestLimitExceeded nestLimit, span := sp }
    checkSetNest (d + 1) set
  | .union sp items => do
    if d + 1 > nestLimit then throw { kind := .nestLimitExceeded nestLimit, span := sp }
    checkItemListNest (d + 1) items
  | _ => pure ()

/-- Checks each class part of a list at depth `d`. -/
def checkItemListNest (d : Nat) : List ClassItem → Except PatternError Unit
  | [] => pure ()
  | i :: rest => do
    checkItemNest d i
    checkItemListNest d rest
end

/-- Reads a whole pattern into its syntax tree. -/
def parse (pattern : String) : Except PatternError Ast := do
  let chars := pattern.toList.toArray
  let (ast, _) ← ((readSequence (chars.size + 1) ⟨Span.at Position.origin, []⟩).run chars).run {}
  checkNest 0 ast
  return ast

end TrackerSearch.Pattern
