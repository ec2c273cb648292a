import TrackerSearch.Pattern.Parser
import TrackerSearch.Unicode.Case
import TrackerSearch.Unicode.Word
import TrackerSearch.Unicode.Digit
import TrackerSearch.Unicode.Property

/-!
The meaning of a parsed pattern, as a small expression language over sets of characters:
sets, assertions, repetitions, numbered captures, sequences and alternatives. Flags are
resolved here: a flag set by `(?i)` holds to the end of its group, across alternatives;
case-insensitive matching widens each literal and class to its case-folding classes, the
`U` flag swaps greedy and lazy repetition, and `s`, `m` and `R` decide what `.`, `^` and `$`
mean. Without Unicode mode (`-u`) the classes are ASCII, and an expression that could match
a byte above ASCII is refused, since only text is searched.

Repetitions are simplified as they are built: a repetition of an expression that can only
match the empty text repeats at most once, `e{0}` is the empty expression (captures in it
vanish) and `e{1}` is `e`.
-/

namespace TrackerSearch.Pattern

open Unicode

/-- Zero-width tests at a position of the text. -/
inductive Look where
  | start
  | stop
  | startLF
  | endLF
  | startCRLF
  | endCRLF
  | wordAscii
  | notWordAscii
  | wordUnicode
  | notWordUnicode
  | wordStartAscii
  | wordEndAscii
  | wordStartUnicode
  | wordEndUnicode
  | wordStartHalfAscii
  | wordEndHalfAscii
  | wordStartHalfUnicode
  | wordEndHalfUnicode
  deriving DecidableEq, Repr

/-- The meaning of a pattern. -/
inductive Hir where
  | empty
  | chars (set : CodeSet)
  | look (kind : Look)
  | repetition (min : Nat) (max : Option Nat) (greedy : Bool) (sub : Hir)
  | capture (index : Nat) (name : Option String) (sub : Hir)
  | concat (items : List Hir)
  | alternation (alts : List Hir)
  deriving Inhabited

mutual
/-- The fewest characters an expression matches; `none` when it matches nothing. -/
def Hir.minLen : Hir → Option Nat
  | .empty => some 0
  | .chars s => if s.isEmpty then none else some 1
  | .look _ => some 0
  | .repetition min _ _ sub => sub.minLen.map (· * min)
  | .capture _ _ sub => sub.minLen
  | .concat items => minLenSum items
  | .alternation alts => minLenLeast alts

/-- The sum of the fewest characters of a sequence. -/
def minLenSum : List Hir → Option Nat
  | [] => some 0
  | h :: hs => do return (← h.minLen) + (← minLenSum hs)

/-- The least of the fewest characters of alternatives. -/
def minLenLeast : List Hir → Option Nat
  | [] => none
  | [h] => h.minLen
  | h :: hs => do return min (← h.minLen) (← minLenLeast hs)
end

mutual
/-- The most characters an expression matches; `none` when unbounded or matching nothing. -/
def Hir.maxLen : Hir → Option Nat
  | .empty => some 0
  | .chars s => if s.isEmpty then none else some 1
  | .look _ => some 0
  | .repetition _ max _ sub => do return (← sub.maxLen) * (← max)
  | .capture _ _ sub => sub.maxLen
  | .concat items => maxLenSum items
  | .alternation alts => maxLenMost alts

/-- The sum of the most characters of a sequence. -/
def maxLenSum : List Hir → Option Nat
  | [] => some 0
  | h :: hs => do return (← h.maxLen) + (← maxLenSum hs)

/-- The greatest of the most characters of alternatives. -/
def maxLenMost : List Hir → Option Nat
  | [] => none
  | [h] => h.maxLen
  | h :: hs => do return max (← h.maxLen) (← maxLenMost hs)
end

/-- A repetition, simplified: at most once for an expression that only matches the empty
text, nothing for `{0}`, the expression itself for `{1}`. -/
def Hir.repeat (min : Nat) (max : Option Nat) (greedy : Bool) (sub : Hir) : Hir :=
  let (min, max) := if sub.maxLen == some 0 then (Nat.min min 1, some (Nat.min (max.getD 1) 1)) else (min, max)
  if min == 0 && max == some 0 then .empty
  else if min == 1 && max == some 1 then sub
  else .repetition min max greedy sub

/-- A sequence; empty parts are dropped and a single part stands for itself. -/
def Hir.seq (items : List Hir) : Hir :=
  let items := items.filter fun
    | .empty => false
    | _ => true
  match items with
  | [] => .empty
  | [h] => h
  | hs => .concat hs

/-- Alternatives; none means nothing matches, a single one stands for itself. -/
def Hir.alt (alts : List Hir) : Hir :=
  match alts with
  | [] => .chars CodeSet.empty
  | [h] => h
  | hs => .alternation hs

/-- The flags in force while reading a group. -/
structure Flags where
  caseInsensitive : Bool := false
  multiLine : Bool := false
  dotMatchesNewLine : Bool := false
  swapGreed : Bool := false
  unicode : Bool := true
  crlf : Bool := false
  deriving Repr

/-- Applies a flag list: flags after `-` are turned off. -/
def Flags.apply (f : Flags) (items : List FlagItem) : Flags :=
  (items.foldl (fun (acc : Flags × Bool) item =>
    let (f, on) := acc
    match item with
    | .negation => (f, false)
    | .flag .caseInsensitive => ({ f with caseInsensitive := on }, on)
    | .flag .multiLine => ({ f with multiLine := on }, on)
    | .flag .dotMatchesNewLine => ({ f with dotMatchesNewLine := on }, on)
    | .flag .swapGreed => ({ f with swapGreed := on }, on)
    | .flag .unicode => ({ f with unicode := on }, on)
    | .flag .crlf => ({ f with crlf := on }, on)
    | .flag .ignoreWhitespace => (f, on)) (f, true)).1

/-- The ranges of an ASCII class. -/
def AsciiKind.ranges : AsciiKind → List (Nat × Nat)
  | .alnum => [(48, 57), (65, 90), (97, 122)]
  | .alpha => [(65, 90), (97, 122)]
  | .ascii => [(0, 127)]
  | .blank => [(9, 9), (32, 32)]
  | .cntrl => [(0, 31), (127, 127)]
  | .digit => [(48, 57)]
  | .graph => [(33, 126)]
  | .lower => [(97, 122)]
  | .print => [(32, 126)]
  | .punct => [(33, 47), (58, 64), (91, 96), (123, 126)]
  | .space => [(9, 13), (32, 32)]
  | .upper => [(65, 90)]
  | .word => [(48, 57), (65, 90), (95, 95), (97, 122)]
  | .xdigit => [(48, 57), (65, 70), (97, 102)]

/-- The largest byte. -/
def maxByte : Nat := 255

/-- Complement among bytes. -/
def byteNegate (s : CodeSet) : CodeSet :=
  (CodeSet.range 0 maxByte).diff s

/-- Folds ASCII letters of a byte set to both cases. -/
def asciiFold (s : CodeSet) : CodeSet :=
  let lower := s.intersect (CodeSet.range 97 122)
  let upper := s.intersect (CodeSet.range 65 90)
  s.union (CodeSet.ofList (lower.toList.map fun (a, b) => (a - 32, b - 32)))
    |>.union (CodeSet.ofList (upper.toList.map fun (a, b) => (a + 32, b + 32)))

/-- The state of resolving a pattern: the flags in force. -/
abbrev Resolve := StateT Flags (Except PatternError)

/-- Fails with an error of meaning at a span. -/
def refuse {α : Type} (kind : ErrorKind) (span : Span) : Resolve α :=
  throw { kind := kind, span := span }

/-- Case folds, when case is ignored, and then negates a Unicode class. -/
def foldNegate (negated : Bool) (s : CodeSet) : Resolve CodeSet := do
  let s := if (← get).caseInsensitive then s.caseFold else s
  return if negated then s.negate else s

/-- Case folds and negates a byte class, refusing one that reaches above ASCII. -/
def byteFoldNegate (span : Span) (negated : Bool) (s : CodeSet) : Resolve CodeSet := do
  let s := if (← get).caseInsensitive then asciiFold s else s
  let s := if negated then byteNegate s else s
  if !s.isAscii then refuse .invalidUtf8 span
  return s

/-- The set of a Perl class. -/
def perlSet (span : Span) (negated : Bool) (kind : PerlKind) : Resolve CodeSet := do
  if (← get).unicode then
    let s := match kind with
      | .digit => decimalDigit
      | .space => whiteSpace
      | .word => wordChar
    return if negated then s.negate else s
  else
    let s := CodeSet.ofList (match kind with
      | .digit => AsciiKind.digit.ranges
      | .space => AsciiKind.space.ranges
      | .word => AsciiKind.word.ranges)
    let s := if negated then byteNegate s else s
    if !s.isAscii then refuse .invalidUtf8 span
    return s

/-- The set of a `\p` class. -/
def unicodeSet (span : Span) (negated : Bool) (kind : UnicodeClassKind) : Resolve CodeSet := do
  if !(← get).unicode then refuse .unicodeNotAllowed span
  let (found, negated) := match kind with
    | .oneLetter c => (namedClass (String.singleton c), negated)
    | .named n => (namedClass n, negated)
    | .namedValue notEqual n v => (valuedClass n v, if notEqual then !negated else negated)
  match found with
  | .ok s => foldNegate negated s
  | .error .notFound => refuse .unicodePropertyNotFound span
  | .error .valueNotFound => refuse .unicodePropertyValueNotFound span

/-- The character a literal stands for; a `\xNN` escape above ASCII is a byte, refused. -/
def literalChar (span : Span) (c : Char) (byteEscape : Bool) : Resolve Char := do
  if !(← get).unicode && byteEscape && c.toNat > 127 then refuse .invalidUtf8 span
  return c

/-- A literal character in a class; beyond ASCII it is refused without Unicode mode. -/
def classLiteral (span : Span) (c : Char) (byteEscape : Bool) : Resolve Nat := do
  let c ← literalChar span c byteEscape
  if !(← get).unicode && c.toNat > 127 then refuse .unicodeNotAllowed span
  return c.toNat

mutual
/-- The set of a class part. -/
def itemSet : ClassItem → Resolve CodeSet
  | .empty _ => return CodeSet.empty
  | .literal sp c b => do return CodeSet.single (← classLiteral sp c b)
  | .range _ lo hi lb hb loSp hiSp => do
    let a ← classLiteral loSp lo lb
    let b ← classLiteral hiSp hi hb
    return CodeSet.range a b
  | .ascii sp negated kind => do
    let s := CodeSet.ofList kind.ranges
    if (← get).unicode then foldNegate negated s else byteFoldNegate sp negated s
  | .unicode sp negated kind => unicodeSet sp negated kind
  | .perl sp negated kind => perlSet sp negated kind
  | .bracketed sp negated set => do
    let s ← classSetSet set
    if (← get).unicode then foldNegate negated s else byteFoldNegate sp negated s
  | .union _ items => itemsSet items

/-- The union of the sets of class parts. -/
def itemsSet : List ClassItem → Resolve CodeSet
  | [] => return CodeSet.empty
  | i :: rest => do return (← itemSet i).union (← itemsSet rest)

/-- The set of a class set, set operations applied to case-folded sides. -/
def classSetSet : ClassSet → Resolve CodeSet
  | .item i => itemSet i
  | .op _ kind lhs rhs => do
    let l ← classSetSet lhs
    let r ← classSetSet rhs
    let f ← get
    let (l, r) := if f.caseInsensitive then
        (if f.unicode then (l.caseFold, r.caseFold) else (asciiFold l, asciiFold r))
      else (l, r)
    return match kind with
      | .intersection => l.intersect r
      | .difference => l.diff r
      | .symmetricDifference => l.symmDiff r
end

/-- The meaning of an assertion under the current flags. -/
def assertionLook (kind : AssertionKind) : Resolve Look := do
  let f ← get
  return match kind with
    | .startLine => if f.multiLine then (if f.crlf then .startCRLF else .startLF) else .start
    | .endLine => if f.multiLine then (if f.crlf then .endCRLF else .endLF) else .stop
    | .startText => .start
    | .endText => .stop
    | .wordBoundary => if f.unicode then .wordUnicode else .wordAscii
    | .notWordBoundary => if f.unicode then .notWordUnicode else .notWordAscii
    | .wordStart | .wordStartAngle => if f.unicode then .wordStartUnicode else .wordStartAscii
    | .wordEnd | .wordEndAngle => if f.unicode then .wordEndUnicode else .wordEndAscii
    | .wordStartHalf => if f.unicode then .wordStartHalfUnicode else .wordStartHalfAscii
    | .wordEndHalf => if f.unicode then .wordEndHalfUnicode else .wordEndHalfAscii

/-- The meaning of `.` under the current flags. -/
def dotSet (span : Span) : Resolve CodeSet := do
  let f ← get
  if !f.unicode then refuse .invalidUtf8 span
  if f.dotMatchesNewLine then return CodeSet.all
  else if f.crlf then return (CodeSet.all.diff (CodeSet.ofList [(10, 10), (13, 13)]))
  else return (CodeSet.all.diff (CodeSet.single 10))

/-- The meaning of one literal character under the current flags. -/
def literalHir (span : Span) (c : Char) (byteEscape : Bool) : Resolve Hir := do
  let c ← literalChar span c byteEscape
  let f ← get
  if f.caseInsensitive then
    if f.unicode then
      if hasFoldClass c.toNat then return .chars (CodeSet.single c.toNat).caseFold
    else if c.isAlpha then return .chars (asciiFold (CodeSet.single c.toNat))
  return .chars (CodeSet.single c.toNat)

mutual
/-- The meaning of an expression; flags set inside it stay set for what follows in its group. -/
def toHir : Ast → Resolve Hir
  | .empty _ => return .empty
  | .setFlags _ items => do
    modify fun f => f.apply items
    return .empty
  | .literal sp c b => literalHir sp c b
  | .dot sp => do return .chars (← dotSet sp)
  | .assertion _ kind => do return .look (← assertionLook kind)
  | .unicodeClass sp negated kind => do return .chars (← unicodeSet sp negated kind)
  | .perlClass sp negated kind => do return .chars (← perlSet sp negated kind)
  | .bracketed sp negated set => do
    let s ← classSetSet set
    let s ← if (← get).unicode then foldNegate negated s else byteFoldNegate sp negated s
    return .chars s
  | .repetition _ kind greedy sub => do
    let h ← toHir sub
    let (lo, hi) := kind.bounds
    let greedy := if (← get).swapGreed then !greedy else greedy
    return Hir.repeat lo hi greedy h
  | .group _ kind sub => do
    let outer ← get
    match kind with
    | .nonCapturing items => set (outer.apply items)
    | _ => pure ()
    let h ← toHir sub
    set outer
    return match kind with
      | .capture i => .capture i none h
      | .named n i => .capture i (some n) h
      | .nonCapturing _ => h
  | .alternation _ alts => do return Hir.alt (← toHirList alts)
  | .concat _ items => do return Hir.seq (← toHirList items)

/-- The meanings of expressions in order, flags carried from one to the next. -/
def toHirList : List Ast → Resolve (List Hir)
  | [] => return []
  | a :: rest => do
    let h ← toHir a
    return h :: (← toHirList rest)
end

/-- The meaning of a parsed pattern. -/
def Ast.resolve (a : Ast) : Except PatternError Hir :=
  (toHir a).run' {}

end TrackerSearch.Pattern
