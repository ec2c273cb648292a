/-!
The syntax of URL patterns: regular expressions with named and numbered groups, scoped
flags, bracketed classes with set operations, Unicode and Perl classes, counted
repetition and assertions. Every node carries the span of pattern text it was read from,
so that an error can point at it.
-/

namespace TrackerSearch.Pattern

/-- A place in a pattern: the index of a character, and its line and column, both counted
from one, columns in characters. -/
structure Position where
  index : Nat
  line : Nat
  column : Nat
  deriving DecidableEq, Repr, Inhabited

/-- The start of a pattern. -/
def Position.origin : Position := ⟨0, 1, 1⟩

/-- A stretch of pattern text, `stop` exclusive. -/
structure Span where
  start : Position
  stop : Position
  deriving DecidableEq, Repr, Inhabited

/-- The empty span at a position. -/
def Span.at (p : Position) : Span := ⟨p, p⟩

/-- Whether a span starts and stops on the same line. -/
def Span.isOneLine (s : Span) : Bool := s.start.line == s.stop.line

/-- A flag that changes how the rest of a group is read or matched. -/
inductive Flag where
  | caseInsensitive
  | multiLine
  | dotMatchesNewLine
  | swapGreed
  | unicode
  | crlf
  | ignoreWhitespace
  deriving DecidableEq, Repr

/-- One item of a flag list: a flag, or the `-` that turns the flags after it off. -/
inductive FlagItem where
  | negation
  | flag (f : Flag)
  deriving DecidableEq, Repr

/-- Zero-width assertions. -/
inductive AssertionKind where
  | startLine
  | endLine
  | startText
  | endText
  | wordBoundary
  | notWordBoundary
  | wordStart
  | wordEnd
  | wordStartAngle
  | wordEndAngle
  | wordStartHalf
  | wordEndHalf
  deriving DecidableEq, Repr

/-- The classes named by `\d`, `\s` and `\w`. -/
inductive PerlKind where
  | digit
  | space
  | word
  deriving DecidableEq, Repr

/-- How a `\p` class names its property. -/
inductive UnicodeClassKind where
  /-- `\pL`: one letter. -/
  | oneLetter (c : Char)
  /-- `\p{Greek}`: a name. -/
  | named (name : String)
  /-- `\p{sc=Greek}` or `\p{sc:Greek}`, or with `!=`, which negates. -/
  | namedValue (notEqual : Bool) (name value : String)
  deriving DecidableEq, Repr

/-- The ASCII classes written `[:alpha:]` inside brackets. -/
inductive AsciiKind where
  | alnum | alpha | ascii | blank | cntrl | digit | graph | lower | print | punct | space
  | upper | word | xdigit
  deriving DecidableEq, Repr

/-- The ASCII class of a name. -/
def AsciiKind.ofName? : String → Option AsciiKind
  | "alnum" => some .alnum
  | "alpha" => some .alpha
  | "ascii" => some .ascii
  | "blank" => some .blank
  | "cntrl" => some .cntrl
  | "digit" => some .digit
  | "graph" => some .graph
  | "lower" => some .lower
  | "print" => some .print
  | "punct" => some .punct
  | "space" => some .space
  | "upper" => some .upper
  | "word" => some .word
  | "xdigit" => some .xdigit
  | _ => none

/-- How often a repeated expression may match. -/
inductive RepetitionKind where
  | zeroOrOne
  | zeroOrMore
  | oneOrMore
  | exactly (n : Nat)
  | atLeast (n : Nat)
  | bounded (lo hi : Nat)
  deriving DecidableEq, Repr

/-- The least and greatest count of a repetition, no greatest meaning unbounded. -/
def RepetitionKind.bounds : RepetitionKind → Nat × Option Nat
  | .zeroOrOne => (0, some 1)
  | .zeroOrMore => (0, none)
  | .oneOrMore => (1, none)
  | .exactly n => (n, some n)
  | .atLeast n => (n, none)
  | .bounded lo hi => (lo, some hi)

/-- Set operations between bracketed class parts. -/
inductive ClassOp where
  | intersection
  | difference
  | symmetricDifference
  deriving DecidableEq, Repr

mutual
/-- A part of a bracketed class. -/
inductive ClassItem where
  | empty (span : Span)
  | literal (span : Span) (c : Char) (byteEscape : Bool)
  | range (span : Span) (lo hi : Char) (loByte hiByte : Bool) (loSpan hiSpan : Span)
  | ascii (span : Span) (negated : Bool) (kind : AsciiKind)
  | unicode (span : Span) (negated : Bool) (kind : UnicodeClassKind)
  | perl (span : Span) (negated : Bool) (kind : PerlKind)
  | bracketed (span : Span) (negated : Bool) (set : ClassSet)
  | union (span : Span) (items : List ClassItem)

/-- The contents of a bracketed class: a union of parts, or a set operation. -/
inductive ClassSet where
  | item (i : ClassItem)
  | op (span : Span) (kind : ClassOp) (lhs rhs : ClassSet)
end

/-- What kind of group parentheses make. -/
inductive GroupKind where
  /-- A numbered group. -/
  | capture (index : Nat)
  /-- A named group, `(?P<name>…)` or `(?<name>…)`. -/
  | named (name : String) (index : Nat)
  /-- A group that captures nothing, with flags for its contents. -/
  | nonCapturing (flags : List FlagItem)
  deriving Repr

/-- A parsed pattern. -/
inductive Ast where
  | empty (span : Span)
  | setFlags (span : Span) (items : List FlagItem)
  | literal (span : Span) (c : Char) (byteEscape : Bool)
  | dot (span : Span)
  | assertion (span : Span) (kind : AssertionKind)
  | unicodeClass (span : Span) (negated : Bool) (kind : UnicodeClassKind)
  | perlClass (span : Span) (negated : Bool) (kind : PerlKind)
  | bracketed (span : Span) (negated : Bool) (set : ClassSet)
  | repetition (span : Span) (kind : RepetitionKind) (greedy : Bool) (sub : Ast)
  | group (span : Span) (kind : GroupKind) (sub : Ast)
  | alternation (span : Span) (alts : List Ast)
  | concat (span : Span) (items : List Ast)

namespace Ast

/-- The span a node was read from. -/
def span : Ast → Span
  | .empty s | .setFlags s _ | .literal s _ _ | .dot s | .assertion s _ | .unicodeClass s _ _
  | .perlClass s _ _ | .bracketed s _ _ | .repetition s _ _ _ | .group s _ _ | .alternation s _
  | .concat s _ => s

end Ast

namespace ClassSet

/-- The span a class set was read from. -/
def span : ClassSet → Span
  | .item (.empty s) | .item (.literal s _ _) | .item (.range s _ _ _ _ _ _) | .item (.ascii s _ _)
  | .item (.unicode s _ _) | .item (.perl s _ _) | .item (.bracketed s _ _) | .item (.union s _)
  | .op s _ _ _ => s

end ClassSet

end TrackerSearch.Pattern
