import TrackerSearch.Pattern.Syntax

/-!
Errors in patterns and how they are shown. A pattern error names its cause and the span of
pattern text at fault, and for a repeated name or flag also the span of the first
occurrence. It is shown as the pattern, a line of carets under each span, and the cause;
a pattern of several lines is shown with numbered lines between rules of tildes, and a
span over several lines is named by its lines and columns instead of carets.
-/

namespace TrackerSearch.Pattern

/-- Causes of pattern errors: syntax errors first, then errors of meaning. -/
inductive ErrorKind where
  | captureLimitExceeded
  | classEscapeInvalid
  | classRangeInvalid
  | classRangeLiteral
  | classUnclosed
  | decimalEmpty
  | decimalInvalid
  | escapeHexEmpty
  | escapeHexInvalid
  | escapeHexInvalidDigit
  | escapeUnexpectedEof
  | escapeUnrecognized
  | flagDanglingNegation
  | flagDuplicate
  | flagRepeatedNegation
  | flagUnexpectedEof
  | flagUnrecognized
  | groupNameDuplicate
  | groupNameEmpty
  | groupNameInvalid
  | groupNameUnexpectedEof
  | groupUnclosed
  | groupUnopened
  | nestLimitExceeded (limit : Nat)
  | repetitionCountInvalid
  | repetitionCountDecimalEmpty
  | repetitionCountUnclosed
  | repetitionMissing
  | specialWordBoundaryUnclosed
  | specialWordBoundaryUnrecognized
  | specialWordOrRepetitionUnexpectedEof
  | unicodeClassInvalid
  | unsupportedBackreference
  | unsupportedLookAround
  | unicodeNotAllowed
  | invalidUtf8
  | unicodePropertyNotFound
  | unicodePropertyValueNotFound
  deriving DecidableEq, Repr

/-- The words for each cause. -/
def ErrorKind.message : ErrorKind → String
  | .captureLimitExceeded => "exceeded the maximum number of capturing groups (4294967295)"
  | .classEscapeInvalid => "invalid escape sequence found in character class"
  | .classRangeInvalid => "invalid character class range, the start must be <= the end"
  | .classRangeLiteral => "invalid range boundary, must be a literal"
  | .classUnclosed => "unclosed character class"
  | .decimalEmpty => "decimal literal empty"
  | .decimalInvalid => "decimal literal invalid"
  | .escapeHexEmpty => "hexadecimal literal empty"
  | .escapeHexInvalid => "hexadecimal literal is not a Unicode scalar value"
  | .escapeHexInvalidDigit => "invalid hexadecimal digit"
  | .escapeUnexpectedEof => "incomplete escape sequence, reached end of pattern prematurely"
  | .escapeUnrecognized => "unrecognized escape sequence"
  | .flagDanglingNegation => "dangling flag negation operator"
  | .flagDuplicate => "duplicate flag"
  | .flagRepeatedNegation => "flag negation operator repeated"
  | .flagUnexpectedEof => "expected flag but got end of regex"
  | .flagUnrecognized => "unrecognized flag"
  | .groupNameDuplicate => "duplicate capture group name"
  | .groupNameEmpty => "empty capture group name"
  | .groupNameInvalid => "invalid capture group character"
  | .groupNameUnexpectedEof => "unclosed capture group name"
  | .groupUnclosed => "unclosed group"
  | .groupUnopened => "unopened group"
  | .nestLimitExceeded n =>
    "exceed the maximum number of nested parentheses/brackets (" ++ toString n ++ ")"
  | .repetitionCountInvalid => "invalid repetition count range, the start must be <= the end"
  | .repetitionCountDecimalEmpty => "repetition quantifier expects a valid decimal"
  | .repetitionCountUnclosed => "unclosed counted repetition"
  | .repetitionMissing => "repetition operator missing expression"
  | .specialWordBoundaryUnclosed =>
    "special word boundary assertion is either unclosed or contains an invalid character"
  | .specialWordBoundaryUnrecognized =>
    "unrecognized special word boundary assertion, valid choices are: start, end, start-half or end-half"
  | .specialWordOrRepetitionUnexpectedEof =>
    "found either the beginning of a special word boundary or a bounded repetition on a \\b with an opening brace, but no closing brace"
  | .unicodeClassInvalid => "invalid Unicode character class"
  | .unsupportedBackreference => "backreferences are not supported"
  | .unsupportedLookAround => "look-around, including look-ahead and look-behind, is not supported"
  | .unicodeNotAllowed => "Unicode not allowed here"
  | .invalidUtf8 => "pattern can match invalid UTF-8"
  | .unicodePropertyNotFound => "Unicode property not found"
  | .unicodePropertyValueNotFound => "Unicode property value not found"

/-- A pattern error: its cause, the span at fault and, for a repetition, the first span. -/
structure PatternError where
  kind : ErrorKind
  span : Span
  aux : Option Span := none
  deriving Repr

/-- The lines of a text as split at line feeds, a carriage return before a line feed dropped,
and no empty line after a final line feed. A carriage return that ends the text stays. -/
def textLines (s : String) : List String :=
  let dropReturn (l : String) : String := if l.endsWith "\r" then String.ofList l.toList.dropLast else l
  let raw := s.splitOn "\n"
  if s.isEmpty then []
  else if s.endsWith "\n" then raw.dropLast.map dropReturn
  else raw.dropLast.map dropReturn ++ raw.getLast?.toList

/-- Orders spans by their start, then their stop. -/
def spanLe (a b : Span) : Bool :=
  a.start.index < b.start.index || (a.start.index == b.start.index && a.stop.index ≤ b.stop.index)

/-- The caret line under one pattern line for its spans, after `pad` blanks. -/
def caretLine (pad : Nat) (spans : List Span) : String :=
  let (text, _) := spans.foldl (fun (acc : List Char × Nat) sp =>
    let (cs, pos) := acc
    let gap := sp.start.column - 1 - pos
    let width := max 1 (sp.stop.column - sp.start.column)
    (cs ++ List.replicate gap ' ' ++ List.replicate width '^', pos + gap + width)) ([], 0)
  String.ofList (List.replicate pad ' ' ++ text)

/-- A line number padded on the left to `width` digits. -/
def padNumber (width n : Nat) : String :=
  let t := toString n
  String.ofList (List.replicate (width - t.length) ' ') ++ t

/-- The display of an error in a pattern. -/
def PatternError.render (e : PatternError) (pattern : String) : String :=
  let spans := [e.span] ++ e.aux.toList
  let oneLine := (spans.filter Span.isOneLine).mergeSort spanLe
  let multi := (spans.filter fun s => !s.isOneLine).mergeSort spanLe
  let lines := textLines pattern
  let lineCount := lines.length + (if pattern.endsWith "\n" then 1 else 0)
  let width := if lineCount ≤ 1 then 0 else (toString lineCount).length
  let pad := if width == 0 then 4 else 2 + width
  let body := (lines.zipIdx.map fun (l, i) =>
    let head := if width == 0 then "    " else padNumber width (i + 1) ++ ": "
    let here := oneLine.filter fun s => s.start.line == i + 1
    head ++ l ++ "\n" ++ (if here.isEmpty then "" else caretLine pad here ++ "\n")).foldl (· ++ ·) ""
  if pattern.any (· == '\n') then
    let rule := String.ofList (List.replicate 79 '~')
    let notes := multi.map fun s =>
      "on line " ++ toString s.start.line ++ " (column " ++ toString s.start.column ++ ") through line "
        ++ toString s.stop.line ++ " (column " ++ toString (s.stop.column - 1) ++ ")"
    "regex parse error:\n" ++ rule ++ "\n" ++ body ++ rule ++ "\n"
      ++ (if notes.isEmpty then "" else "\n".intercalate notes ++ "\n") ++ "error: " ++ e.kind.message
  else
    "regex parse error:\n" ++ body ++ "error: " ++ e.kind.message

end TrackerSearch.Pattern
