import TrackerSearch.Toml.Value
import TrackerSearch.Decimal.Text

/-!
# Reading TOML documents

A document is read line by line into one table: key/value pairs, `[table]` headers that open
a table for the pairs after them, and `[[array]]` headers that add a table to an array of
tables. Keys may be dotted, bare or quoted. Values are basic and literal strings (each also in
a multi-line form), integers in decimal, hexadecimal, octal and binary, floats with `inf` and
`nan`, booleans, dates and times, arrays (over several lines, with comments, a trailing comma
allowed) and inline tables (on one line, no trailing comma).

Tables made along the way by a longer header or a dotted key are implicit: a header may still
define them once. A header may not name a table twice, and a dotted key may not reach into a
table a header defined or into a value that is not a table.

An error is a complaint at a place: what was being read, what was expected there, and the fault
behind it, each on a line of its own. The place is where reading stood when it gave up, or the
start of the pair or header whose meaning was refused. Readings that are tried in turn (a date,
then a float, then an integer) give up softly until one of them has read far enough to be sure
of its kind; from then on a fault is final.

A report shows the place as a line from one and a column from one, the line itself, and a caret
under the place. The column counts characters before the place, except that a place on a
character of several bytes counts the bytes of its line before it, and the end of the text is
one column past its last character.
-/

namespace TrackerSearch.Toml

/-! ### Complaints -/

/-- Something a complaint says was expected. -/
inductive Expected where
  | char (c : Char)
  | word (s : String)
  | description (s : String)
  deriving DecidableEq, Repr

/-- How an expected thing is named: a line feed as `newline`, characters and words quoted. -/
def Expected.render : Expected → String
  | .char '\n' => "newline"
  | .char c => "`" ++ c.toString ++ "`"
  | .word s => "`" ++ s ++ "`"
  | .description s => s

/-- A note a complaint gathers on its way out: what was being read, or what was expected. -/
inductive Note where
  | reading (what : String)
  | expected (e : Expected)
  deriving DecidableEq, Repr

/-- Why reading stopped: the notes gathered, innermost first, and the fault behind them. -/
structure Complaint where
  notes : List Note
  cause : Option String
  deriving DecidableEq, Repr

/-- The text of a complaint: the innermost thing being read, everything expected, and the
fault, one line each, leaving out what is not there. -/
def Complaint.render (c : Complaint) : String :=
  let reading := c.notes.findSome? fun
    | .reading w => some ("invalid " ++ w)
    | .expected _ => none
  let expected := c.notes.filterMap fun
    | .expected e => some e.render
    | .reading _ => none
  let expectedLine := if expected.isEmpty then [] else ["expected " ++ ", ".intercalate expected]
  "\n".intercalate (reading.toList ++ expectedLine ++ c.cause.toList)

/-- A complaint and the byte at which it was made; a soft one lets another reading be tried. -/
structure ReadError where
  complaint : Complaint
  offset : Nat
  soft : Bool
  deriving DecidableEq, Repr

/-- The line from zero and the column from zero of a byte offset into some bytes. -/
def placeOf (bytes : ByteArray) (index : Nat) : Nat × Nat :=
  if bytes.size == 0 then (0, index)
  else
    let safe := min index (bytes.size - 1)
    let before := (bytes.extract 0 safe).toList
    let lineStart := match (before.reverse.findIdx? (· == 10)) with
      | some k => safe - k
      | none => 0
    let line := ((bytes.extract 0 lineStart).toList.filter (· == 10)).length
    let column := match String.fromUTF8? (bytes.extract lineStart (safe + 1)) with
      | some s => s.length - 1
      | none => safe - lineStart
    (line, column + (index - safe))

/-- The report of an error in a text: its place, the line, a caret under the place, and the
complaint. -/
def ReadError.render (e : ReadError) (text : String) : String :=
  let (line, column) := placeOf text.toUTF8 e.offset
  let lineNum := toString (line + 1)
  let margin := String.ofList (List.replicate (lineNum.length + 1) ' ')
  let content := ((text.splitOn "\n")[line]?).getD ""
  "TOML parse error at line " ++ lineNum ++ ", column " ++ toString (column + 1) ++ "\n" ++
    margin ++ "|\n" ++
    lineNum ++ " | " ++ content ++ "\n" ++
    margin ++ "|" ++ String.ofList (List.replicate (column + 1) ' ') ++ "^\n" ++
    e.complaint.render ++ "\n"

/-! ### Reading -/

/-- Where reading stands: the characters left and the bytes read. -/
structure Cursor where
  rest : List Char
  offset : Nat

/-- Reading a document, with an error at the first fault. -/
abbrev ReadM := StateT Cursor (Except ReadError)

/-- Gives up softly here with some notes. -/
def soft {α : Type} (notes : List Note) : ReadM α := do
  throw ⟨⟨notes, none⟩, (← get).offset, true⟩

/-- Gives up for good here with some notes. -/
def hard {α : Type} (notes : List Note) : ReadM α := do
  throw ⟨⟨notes, none⟩, (← get).offset, false⟩

/-- Gives up here for a fault, softly or for good. -/
def fault {α : Type} (final : Bool) (cause : String) : ReadM α := do
  throw ⟨⟨[], some cause⟩, (← get).offset, !final⟩

/-- Runs a reading, or stands where it started when it gives up softly. -/
def attempt {α : Type} (x : ReadM α) : ReadM (Option α) :=
  tryCatch (some <$> x) fun e => if e.soft then pure none else throw e

/-- Makes every fault of a reading final. -/
def cut {α : Type} (x : ReadM α) : ReadM α :=
  tryCatch x fun e => throw { e with soft := false }

/-- Adds a note to every complaint of a reading. -/
def note {α : Type} (n : Note) (x : ReadM α) : ReadM α :=
  tryCatch x fun e => throw { e with complaint := { e.complaint with notes := e.complaint.notes ++ [n] } }

/-- The next character, not consumed. -/
def peek : ReadM (Option Char) := return (← get).rest.head?

/-- Consumes the next character. -/
def advance : ReadM Unit := modify fun c =>
  match c.rest with
  | [] => c
  | ch :: rest => ⟨rest, c.offset + ch.utf8Size⟩

/-- Consumes some characters. -/
def skip : Nat → ReadM Unit
  | 0 => pure ()
  | n + 1 => do advance; skip n

/-- Consumes the longest run of characters that satisfy `p`. -/
def span (p : Char → Bool) : ReadM (List Char) := do
  let c ← get
  let taken := c.rest.takeWhile p
  let width := taken.foldl (fun n ch => n + ch.utf8Size) 0
  set ({ rest := c.rest.dropWhile p, offset := c.offset + width } : Cursor)
  return taken

/-- Whether the text goes on with a word. -/
def startsWith (w : List Char) : ReadM Bool := return w.isPrefixOf (← get).rest

/-- Consumes a word if the text goes on with it. -/
def literal (w : List Char) : ReadM Bool := do
  if ← startsWith w then
    skip w.length
    return true
  else return false

/-- A blank: space or tab. -/
def isBlank (c : Char) : Bool := c == ' ' || c == '\t'

/-- A character of a bare key: an ASCII letter or digit, `-` or `_`. -/
def isKeyChar (c : Char) : Bool := (c.isAlphanum && c.toNat < 128) || c == '-' || c == '_'

/-- A character that stands for itself in a basic string: not a control character other than
tab, not a quote, not a backslash, not delete. -/
def isBasicChar (c : Char) : Bool :=
  let n := c.toNat
  n == 9 || n == 0x20 || n == 0x21 || (0x23 ≤ n && n ≤ 0x5B) || (0x5D ≤ n && n ≤ 0x7E) || n ≥ 0x80

/-- A character of a literal string: not a control character other than tab, not an
apostrophe, not delete. -/
def isLiteralChar (c : Char) : Bool :=
  let n := c.toNat
  n == 9 || (0x20 ≤ n && n ≤ 0x26) || (0x28 ≤ n && n ≤ 0x7E) || n ≥ 0x80

/-- A character of a comment: not a control character other than tab, not delete. -/
def isCommentChar (c : Char) : Bool :=
  let n := c.toNat
  n == 9 || (0x20 ≤ n && n ≤ 0x7E) || n ≥ 0x80

/-- Steps over blanks. -/
def blanks : ReadM Unit := discard (span isBlank)

/-- Consumes a line end, a line feed with or without a carriage return before it. -/
def newline : ReadM Bool := do
  match (← get).rest with
  | '\n' :: _ => advance; return true
  | '\r' :: '\n' :: _ => skip 2; return true
  | _ => return false

/-- Consumes a comment, from its `#` up to the end of its line. -/
def comment : ReadM Bool := do
  if (← peek) == some '#' then
    advance
    discard (span isCommentChar)
    return true
  else return false

/-- Consumes a line end, or finds the end of the text. -/
def lineEnd : ReadM Bool := do
  if ← newline then return true
  else return (← get).rest.isEmpty

/-- Steps over blanks, line ends and comments, at most `n` of them. -/
def gapsFor : Nat → ReadM Unit
  | 0 => pure ()
  | n + 1 => do
    let before := (← get).offset
    blanks
    discard newline
    discard comment
    if (← get).offset != before then gapsFor n

/-- Steps over blanks, line ends and comments. -/
def gaps : ReadM Unit := do gapsFor ((← get).rest.length + 1)

/-- Steps over blanks and line ends, at most `n` of them. -/
def blankLinesFor : Nat → ReadM Unit
  | 0 => pure ()
  | n + 1 => do
    let before := (← get).offset
    blanks
    discard newline
    if (← get).offset != before then blankLinesFor n

/-- The rest of a line must be blank, perhaps with a comment. -/
def lineTrailing : ReadM Unit := do
  blanks
  discard comment
  unless ← lineEnd do hard [.expected (.char '\n'), .expected (.char '#')]

/-! ### Strings -/

/-- The value of a hexadecimal digit. -/
def hexValue (c : Char) : Option Nat :=
  if '0' ≤ c ∧ c ≤ '9' then some (c.toNat - 48)
  else if 'a' ≤ c ∧ c ≤ 'f' then some (c.toNat - 87)
  else if 'A' ≤ c ∧ c ≤ 'F' then some (c.toNat - 55)
  else none

/-- Whether a code point is a character: not a surrogate, not past `10FFFF`. -/
def isScalar (n : Nat) : Bool := n < 0xD800 || (0xE000 ≤ n && n ≤ 0x10FFFF)

/-- The character of exactly `n` hexadecimal digits. -/
def hexCode (n : Nat) (what : String) : ReadM Char := note (.reading what) do
  let cs := (← get).rest.take n
  let digits := cs.filterMap hexValue
  if cs.length != n || digits.length != n then hard []
  let v := digits.foldl (fun a d => a * 16 + d) 0
  if !isScalar v then fault true "value is out of range"
  skip n
  return Char.ofNat v

/-- What the escapes of basic strings are expected to be. -/
def escapeNotes : List Note :=
  .reading "escape sequence" ::
    ['b', 'f', 'n', 'r', 't', 'u', 'U', '\\', '"'].map fun c => .expected (.char c)

/-- The character an escape stands for, from the character after its backslash. -/
def escaped : ReadM Char := do
  let c ← peek
  advance
  match c with
  | some 'b' => return Char.ofNat 8
  | some 'f' => return Char.ofNat 12
  | some 'n' => return '\n'
  | some 'r' => return '\r'
  | some 't' => return '\t'
  | some '\\' => return '\\'
  | some '"' => return '"'
  | some 'u' => hexCode 4 "unicode 4-digit hex code"
  | some 'U' => hexCode 8 "unicode 8-digit hex code"
  | _ => hard escapeNotes

/-- The characters of a basic string up to where they stop, collected in reverse in `acc`. -/
def basicBody : Nat → List Char → ReadM (List Char)
  | 0, acc => return acc.reverse
  | n + 1, acc => do
    let run ← span isBasicChar
    if !run.isEmpty then basicBody n (run.reverse ++ acc)
    else match (← get).rest with
      | '\\' :: _ :: _ =>
        advance
        let c ← escaped
        basicBody n (c :: acc)
      | _ => return acc.reverse

/-- A basic string from its opening quote. -/
def basicString : ReadM String := do
  advance
  let body ← basicBody ((← get).rest.length + 1) []
  if (← peek) == some '"' then
    advance
    return String.ofList body
  else hard [.reading "basic string"]

/-- A backslash at the end of a line in a multi-line basic string: it takes away the line end
and all blanks and line ends after it. -/
def escapedLineEnd : ReadM Unit := do
  if (← peek) != some '\\' then soft []
  advance
  blanks
  unless ← newline do soft []
  blankLinesFor ((← get).rest.length + 1)

/-- One piece of a multi-line basic string: a run of plain characters, an escaped line end, an
escape, or a line end, which stands for a line feed. -/
def mlBasicPiece : ReadM (Option (List Char)) := do
  let run ← span isBasicChar
  if !run.isEmpty then return some run
  match ← attempt escapedLineEnd with
  | some () => return some []
  | none =>
    match (← get).rest with
    | '\\' :: _ :: _ =>
      advance
      return some [← escaped]
    | _ => if ← newline then return some ['\n'] else return none

/-- Pieces of a multi-line basic string while there are any, collected in reverse. -/
def mlBasicPieces : Nat → List Char → ReadM (List Char)
  | 0, acc => return acc
  | n + 1, acc => do
    match ← mlBasicPiece with
    | some cs => mlBasicPieces n (cs.reverse ++ acc)
    | none => return acc

/-- One or two quote characters `q` before what `follows` accepts; the quotes are consumed. -/
def quotesBefore (q : Char) (follows : List Char → Bool) : ReadM (Option (List Char)) := do
  match (← get).rest with
  | a :: b :: more =>
    if a == q && b == q && follows more then
      skip 2
      return some [q, q]
    else if a == q && follows (b :: more) then
      advance
      return some [q]
    else return none
  | [a] =>
    if a == q && follows [] then
      advance
      return some [q]
    else return none
  | [] => return none

/-- Whether some characters start with anything but `q`. -/
def startsOtherThan (q : Char) : List Char → Bool
  | c :: _ => c != q
  | [] => false

/-- Quotes inside a multi-line basic string, each run followed by more pieces, collected in
reverse; quotes that nothing follows end the loop but stay read. -/
def mlBasicQuoted : Nat → List Char → ReadM (List Char)
  | 0, acc => return acc
  | n + 1, acc => do
    match ← quotesBefore '"' (startsOtherThan '"') with
    | none => return acc
    | some q =>
      match ← mlBasicPiece with
      | none => return acc
      | some cs =>
        let acc ← mlBasicPieces ((← get).rest.length + 1) (cs.reverse ++ q.reverse ++ acc)
        mlBasicQuoted n acc

/-- A multi-line basic string from its opening quotes. -/
def mlBasicString : ReadM String := note (.reading "multiline basic string") do
  skip 3
  discard newline
  let fuel := (← get).rest.length + 1
  let acc ← mlBasicPieces fuel []
  let acc ← mlBasicQuoted fuel acc
  let acc ← match ← quotesBefore '"' (['"', '"', '"'].isPrefixOf) with
    | some q => pure (q ++ acc)
    | none => pure acc
  unless ← literal ['"', '"', '"'] do hard []
  return String.ofList acc.reverse

/-- A literal string from its opening apostrophe. -/
def literalString : ReadM String := do
  advance
  let body ← span isLiteralChar
  if (← peek) == some '\'' then
    advance
    return String.ofList body
  else hard [.reading "literal string"]

/-- One piece of a multi-line literal string: a character of a literal string or a line end,
which stands for a line feed. -/
def mlLiteralPiece : ReadM (Option Char) := do
  match ← peek with
  | some c =>
    if isLiteralChar c then
      advance
      return some c
    else if ← newline then return some '\n'
    else return none
  | none => return none

/-- Pieces of a multi-line literal string while there are any, collected in reverse. -/
def mlLiteralPieces : Nat → List Char → ReadM (List Char)
  | 0, acc => return acc
  | n + 1, acc => do
    match ← mlLiteralPiece with
    | some c => mlLiteralPieces n (c :: acc)
    | none => return acc

/-- Apostrophes inside a multi-line literal string, each run followed by at least one piece;
apostrophes that nothing follows are left unread. -/
def mlLiteralQuoted : Nat → List Char → ReadM (List Char)
  | 0, acc => return acc
  | n + 1, acc => do
    let step : ReadM (List Char) := do
      let some q ← quotesBefore '\'' (startsOtherThan '\'') | soft []
      let some c ← mlLiteralPiece | soft []
      mlLiteralPieces ((← get).rest.length + 1) (c :: q.reverse ++ acc)
    match ← attempt step with
    | some acc => mlLiteralQuoted n acc
    | none => return acc

/-- A multi-line literal string from its opening apostrophes. -/
def mlLiteralString : ReadM String := note (.reading "multiline literal string") do
  skip 3
  discard newline
  let fuel := (← get).rest.length + 1
  let acc ← mlLiteralPieces fuel []
  let acc ← mlLiteralQuoted fuel acc
  let acc ← match ← quotesBefore '\'' (['\'', '\'', '\''].isPrefixOf) with
    | some q => pure (q ++ acc)
    | none => pure acc
  unless ← literal ['\'', '\'', '\''] do hard []
  return String.ofList acc.reverse

/-- A string of any of the four kinds, from its first quote. -/
def string : ReadM String := do
  if ← startsWith ['"', '"', '"'] then mlBasicString
  else if (← peek) == some '"' then basicString
  else if ← startsWith ['\'', '\'', '\''] then mlLiteralString
  else literalString

/-! ### Keys -/

/-- A part of a key: its name, and how it was written. -/
structure Key where
  name : String
  raw : String
  deriving DecidableEq, Repr

/-- A bare or quoted part of a key. -/
def simpleKey : ReadM Key := do
  let start ← get
  let name ← match ← peek with
    | some '"' => basicString
    | some '\'' => literalString
    | _ => do
      let cs ← span isKeyChar
      if cs.isEmpty then soft [] else pure (String.ofList cs)
  let stop ← get
  return ⟨name, String.ofList (start.rest.take (start.rest.length - stop.rest.length))⟩

/-- A part of a key with the blanks around it. -/
def spacedKey : ReadM Key := do
  blanks
  let k ← simpleKey
  blanks
  return k

/-- Further parts of a dotted key, each after a dot; a dot that no part follows is left
unread. -/
def keyParts : Nat → List Key → ReadM (List Key)
  | 0, acc => return acc.reverse
  | n + 1, acc => do
    if (← peek) != some '.' then return acc.reverse
    match ← attempt (do advance; spacedKey) with
    | some k => keyParts n (k :: acc)
    | none => return acc.reverse

/-- A key, its parts separated by dots. -/
def key : ReadM (List Key) := note (.reading "key") do
  let first ← spacedKey
  keyParts ((← get).rest.length + 1) [first]

/-! ### Numbers, dates and times -/

/-- The value of decimal digits. -/
def decimalValue (ds : List Char) : Nat := ds.foldl (fun n c => 10 * n + (c.toNat - 48)) 0

/-- Exactly `n` decimal digits, consumed, or nothing consumed. -/
def fixedDigits (n : Nat) : ReadM (Option Nat) := do
  let ds := ((← get).rest.take n).takeWhile Char.isDigit
  if ds.length == n then
    skip n
    return some (decimalValue ds)
  else return none

/-- Two decimal digits from `lo` to `hi`. -/
def bounded (lo hi : Nat) : ReadM Nat := do
  let start ← get
  let some v ← fixedDigits 2 | soft []
  if v < lo || v > hi then
    set start
    fault false "value is out of range"
  return v

/-- Whether a year is a leap year of the Gregorian calendar. -/
def isLeapYear (y : Nat) : Bool := y % 4 == 0 && (y % 100 != 0 || y % 400 == 0)

/-- The number of days of a month of a year. -/
def daysInMonth (y m : Nat) : Nat :=
  if m == 2 then (if isLeapYear y then 29 else 28)
  else if m == 4 || m == 6 || m == 9 || m == 11 then 30
  else 31

/-- A date; once a year and a dash are read, a fault is final. -/
def date : ReadM Date := do
  let some year ← fixedDigits 4 | soft []
  if (← peek) != some '-' then soft []
  advance
  cut do
    let month ← bounded 1 12
    if (← peek) != some '-' then soft []
    advance
    let dayStart ← get
    let day ← bounded 1 31
    if day > daysInMonth year month then
      set dayStart
      fault true "value is out of range"
    return ⟨year, month, day⟩

/-- The nanoseconds of a fraction of a second, if one follows; digits past the ninth are
dropped. -/
def fraction : ReadM Nat := do
  match (← get).rest with
  | '.' :: d :: _ =>
    if d.isDigit then
      advance
      let ds := (← span Char.isDigit).take 9
      return decimalValue ds * Nat.pow 10 (9 - ds.length)
    else return 0
  | _ => return 0

/-- A time of day; once an hour and a colon are read, a fault is final. -/
def time : ReadM Time := do
  let hour ← bounded 0 23
  if (← peek) != some ':' then soft []
  advance
  cut do
    let minute ← bounded 0 59
    if (← peek) != some ':' then soft []
    advance
    let second ← bounded 0 60
    return ⟨hour, minute, second, ← fraction⟩

/-- An offset from universal time, if one follows. -/
def offset : ReadM (Option Offset) := do
  match ← peek with
  | some 'Z' | some 'z' =>
    advance
    return some .utc
  | some '+' | some '-' =>
    let negative := (← peek) == some '-'
    advance
    note (.reading "time offset") <| cut do
      let h ← bounded 0 23
      if (← peek) != some ':' then soft []
      advance
      let m ← bounded 0 59
      let minutes : Int := h * 60 + m
      return some (.minutes (if negative then -minutes else minutes))
  | _ => return none

/-- A date with, perhaps, a time and an offset after a `T` or a space. -/
def dateAndTime : ReadM Datetime := do
  let d ← date
  let later ← attempt do
    match ← peek with
    | some 'T' | some 't' | some ' ' => advance
    | _ => soft []
    let t ← time
    return (t, ← offset)
  match later with
  | some (t, o) => return ⟨some d, some t, o⟩
  | none => return ⟨some d, none, none⟩

/-- A date and time, or a time of day alone. -/
def datetime : ReadM Datetime := do
  match ← attempt (note (.reading "date-time") dateAndTime) with
  | some d => return d
  | none => note (.reading "time") do return ⟨none, some (← time), none⟩

/-- Digits that `isDigit` accepts, with single underscores between them, after a first digit
already read; the digits are collected in reverse without the underscores. -/
def digitRun (isDigit : Char → Bool) : Nat → List Char → ReadM (List Char)
  | 0, acc => return acc
  | n + 1, acc => do
    match (← get).rest with
    | c :: more =>
      if isDigit c then
        advance
        digitRun isDigit n (c :: acc)
      else if c == '_' then
        advance
        match more with
        | d :: _ =>
          if isDigit d then
            advance
            digitRun isDigit n (d :: acc)
          else hard [.expected (.description "digit")]
        | [] => hard [.expected (.description "digit")]
      else return acc
    | [] => return acc

/-- Digits with single underscores between them, the first a digit; collected in order
without the underscores. -/
def underscoredDigits (isDigit : Char → Bool) : ReadM (List Char) := do
  match ← peek with
  | some c =>
    if isDigit c then
      advance
      return (← digitRun isDigit ((← get).rest.length + 1) [c]).reverse
    else soft []
  | none => soft []

/-- A decimal integer's text without underscores: a sign perhaps, then `0` alone or digits not
starting with `0`. -/
def decimalInteger : ReadM (List Char) := note (.reading "integer") do
  let sign ← match ← peek with
    | some '+' => do advance; pure ['+']
    | some '-' => do advance; pure ['-']
    | _ => pure []
  match ← peek with
  | some '0' =>
    advance
    return sign ++ ['0']
  | some c =>
    if c.isDigit then return sign ++ (← underscoredDigits Char.isDigit)
    else soft []
  | none => soft []

/-- The exponent of a float from its `e`, without underscores. -/
def exponent : ReadM (List Char) := do
  advance
  let sign ← match ← peek with
    | some '+' => do advance; pure ['+']
    | some '-' => do advance; pure ['-']
    | _ => pure []
  return 'e' :: sign ++ (← cut (underscoredDigits Char.isDigit))

/-- A float's text without underscores: an integer part, then an exponent, or a fraction and
perhaps an exponent. -/
def floatText : ReadM (List Char) := do
  let whole ← decimalInteger
  match ← peek with
  | some 'e' | some 'E' => return whole ++ (← exponent)
  | some '.' =>
    advance
    let frac ← note (.expected (.description "digit")) (cut (underscoredDigits Char.isDigit))
    let exp ← match ← peek with
      | some 'e' | some 'E' => exponent
      | _ => pure []
    return whole ++ '.' :: frac ++ exp
  | _ => soft []

/-- Positive infinity. -/
def infinity : Float := Float.ofScientific 1 false 400

/-- `inf` or `nan` with a sign perhaps. -/
def specialFloat : ReadM Float := do
  let negative ← match ← peek with
    | some '+' => do advance; pure false
    | some '-' => do advance; pure true
    | _ => pure false
  if ← literal ['i', 'n', 'f'] then return if negative then -infinity else infinity
  else if ← literal ['n', 'a', 'n'] then return if negative then -(0 / 0) else 0 / 0
  else soft []

/-- A float; one too large for the doubles is refused unless it is negative. -/
def float : ReadM Float := note (.reading "floating-point number") do
  let start ← get
  match ← attempt floatText with
  | some text =>
    match Decimal.readFloat? (String.ofList text) with
    | some x =>
      if x.isInf && x > 0 then
        set start
        hard []
      return x
    | none =>
      set start
      hard []
  | none => specialFloat

/-- The largest integer a document holds, `2 ^ 63 - 1`. -/
def integerLimit : Int := Int.pow 2 63 - 1

/-- An integer in base 16, 8 or 2 after its prefix. -/
def radixInteger (base : Nat) (what : String) : ReadM Int := do
  let start ← get
  let ds ← note (.reading what) do
    skip 2
    cut (underscoredDigits fun c => match hexValue c with
      | some v => v < base
      | none => false)
  let v : Int := ds.foldl (fun n c => base * n + ((hexValue c).getD 0)) 0
  if v > integerLimit then
    set start
    fault true "number too large to fit in target type"
  return v

/-- An integer in any of its bases, held to a signed 64-bit word. -/
def integer : ReadM Int := do
  match (← get).rest with
  | '0' :: 'x' :: _ => radixInteger 16 "hexadecimal integer"
  | '0' :: 'o' :: _ => radixInteger 8 "octal integer"
  | '0' :: 'b' :: _ => radixInteger 2 "binary integer"
  | _ =>
    let start ← get
    let ds ← decimalInteger
    let v : Int := match ds with
      | '-' :: rest => -(decimalValue rest : Int)
      | '+' :: rest => decimalValue rest
      | rest => decimalValue rest
    if v > integerLimit then
      set start
      fault true "number too large to fit in target type"
    if v < -integerLimit - 1 then
      set start
      fault true "number too small to fit in target type"
    return v

/-- A value that starts with a sign or a digit: a date or time, a float, or an integer. -/
def number : ReadM Value := do
  match ← attempt datetime with
  | some d => return .datetime d
  | none =>
    match ← attempt float with
    | some x => return .float x
    | none => return .integer (← integer)

/-! ### Tables -/

/-- An entry of a table as a document builds it: a value written in place, a table that is
implicit or not and made by dotted keys or not, or an array of tables, the last one open. -/
inductive Item where
  | value (v : Value)
  | table (isImplicit isDotted : Bool) (entries : List (String × Item))
  | tables (items : List Item)

/-- The entries of a table being built. -/
abbrev Entries := List (String × Item)

/-- Sets an entry, in place when its key is there, else at the end. -/
def Entries.put (k : String) (v : Item) : Entries → Entries
  | [] => [(k, v)]
  | (k', v') :: rest => if k' == k then (k, v) :: rest else (k', v') :: put k v rest

mutual
/-- The value an entry holds. -/
def Item.toValue : Item → Value
  | .value v => v
  | .table _ _ es => .table (Item.entriesToValue es)
  | .tables items => .array (Item.itemsToValue items)

/-- The values of some entries. -/
def Item.entriesToValue : List (String × Item) → List (String × Value)
  | [] => []
  | (k, i) :: rest => (k, i.toValue) :: Item.entriesToValue rest

/-- The values of some entries of an array of tables. -/
def Item.itemsToValue : List Item → List Value
  | [] => []
  | i :: rest => i.toValue :: Item.itemsToValue rest
end

/-- Why the pairs and headers of a document do not make a table. -/
inductive Problem where
  /-- A key that is already there, and the table it is in when that is known. -/
  | duplicateKey (key : String) (table : Option (List String))
  /-- A dotted key reaching into a value of the given type. -/
  | extendWrongType (path : List String) (actual : String)
  deriving DecidableEq, Repr

/-- The message of a problem. -/
def Problem.message : Problem → String
  | .duplicateKey k none => "duplicate key `" ++ k ++ "`"
  | .duplicateKey k (some []) => "duplicate key `" ++ k ++ "` in document root"
  | .duplicateKey k (some t) => "duplicate key `" ++ k ++ "` in table `" ++ ".".intercalate t ++ "`"
  | .extendWrongType p a =>
    "dotted key `" ++ ".".intercalate p ++ "` attempted to extend non-table type (" ++ a ++ ")"

/-- The part `i` of a path is already there, in the table named by the parts before it. -/
def duplicateAt (path : List Key) (i : Nat) : Problem :=
  .duplicateKey ((path[i]?.map Key.raw).getD "") (some ((path.take i).map Key.name))

/-- Runs `f` on the table at the end of a path, going into the last table of an array of
tables, and making implicit tables where the path has none, dotted ones when `dotted`. In a
document a dotted path may not go through a table that is not implicit; in an inline table it
may go into an inline table written as a value. `whole` is the path in full and `i` how much of
it is behind; `f` is told whether its table is dotted. -/
def descend (dotted isInline : Bool) (whole : List Key)
    (f : Bool → Entries → Except Problem Entries) :
    Nat → List Key → Bool → Entries → Except Problem Entries
  | _, [], isDotted, es => f isDotted es
  | i, k :: rest, _, es =>
    match es.lookup k.name with
    | none => do
      let inner ← descend dotted isInline whole f (i + 1) rest dotted []
      return es ++ [(k.name, .table true dotted inner)]
    | some (.value (.table inner)) =>
      if isInline then do
        let inner ← descend dotted isInline whole f (i + 1) rest false
          (inner.map fun (k, v) => (k, .value v))
        return es.put k.name (.table false false inner)
      else .error (.extendWrongType ((whole.take (i + 1)).map Key.name) "inline table")
    | some (.value v) => .error (.extendWrongType ((whole.take (i + 1)).map Key.name) v.typeName)
    | some (.tables items) =>
      match items.getLast? with
      | some (.table imp dot inner) => do
        let inner ← descend dotted isInline whole f (i + 1) rest dot inner
        return es.put k.name (.tables (items.dropLast ++ [.table imp dot inner]))
      | _ => .ok es
    | some (.table imp dot inner) =>
      if dotted && !isInline && !imp then .error (duplicateAt whole i)
      else do
        let inner ← descend dotted isInline whole f (i + 1) rest dot inner
        return es.put k.name (.table imp dot inner)

/-- A document being built: its entries and the path of the table that pairs go into. -/
structure Builder where
  root : Entries
  current : List Key

/-- Adds a pair to the current table; a dotted key goes through dotted tables of its own. -/
def Builder.addPair (b : Builder) (path : List Key) (v : Value) : Except Problem Builder :=
  match path.getLast? with
  | none => .ok b
  | some k =>
    let pre := path.dropLast
    let insert (isDotted : Bool) (es : Entries) : Except Problem Entries :=
      if isDotted == pre.isEmpty then .error (.duplicateKey k.name none)
      else if es.any (·.1 == k.name) then
        .error (.duplicateKey k.name (some (b.current.map Key.name)))
      else .ok (es ++ [(k.name, .value v)])
    (descend false false b.current (fun d es => descend true false pre insert 0 pre d es) 0 b.current
      false b.root).map
      fun root => { b with root }

/-- Opens the table a header names; only an implicit table made by another header may be
named again. -/
def Builder.openTable (b : Builder) (path : List Key) : Except Problem Builder :=
  match path.getLast? with
  | none => .ok b
  | some k =>
    let start (_ : Bool) (es : Entries) : Except Problem Entries :=
      match es.lookup k.name with
      | none => .ok (es ++ [(k.name, .table false false [])])
      | some (.table true false inner) => .ok (es.put k.name (.table false false inner))
      | some _ => .error (duplicateAt path (path.length - 1))
    (descend false false path start 0 path.dropLast false b.root).map fun root => ⟨root, path⟩

/-- Adds a table to the array of tables a header names. -/
def Builder.openArrayTable (b : Builder) (path : List Key) : Except Problem Builder :=
  match path.getLast? with
  | none => .ok b
  | some k =>
    let start (_ : Bool) (es : Entries) : Except Problem Entries :=
      match es.lookup k.name with
      | none => .ok (es ++ [(k.name, .tables [.table false false []])])
      | some (.tables items) => .ok (es.put k.name (.tables (items ++ [.table false false []])))
      | some _ => .error (duplicateAt path (path.length - 1))
    (descend false false path start 0 path.dropLast false b.root).map fun root => ⟨root, path⟩

/-- Adds a pair of an inline table. -/
def addInlinePair (es : Entries) (path : List Key) (v : Value) : Except Problem Entries :=
  match path.getLast? with
  | none => .ok es
  | some k =>
    let pre := path.dropLast
    let insert (isDotted : Bool) (es : Entries) : Except Problem Entries :=
      if isDotted == pre.isEmpty then .error (.duplicateKey k.name none)
      else if es.any (·.1 == k.name) then .error (.duplicateKey k.name none)
      else .ok (es ++ [(k.name, .value v)])
    descend true true pre insert 0 pre false es

/-- The table of the pairs of an inline table, in order. -/
def inlineEntries (pairs : List (List Key × Value)) : Except Problem (List (String × Value)) :=
  (pairs.foldlM (fun es (path, v) => addInlinePair es path v) []).map Item.entriesToValue

/-! ### Values -/

/-- What a value that starts with none of its marks is expected to be. -/
def stringNotes : List Note := [.reading "string", .expected (.char '"'), .expected (.char '\'')]

/-- A word that must be there, giving a value. -/
def word (w : List Char) (v : Value) : ReadM Value := do
  if ← literal w then return v else soft stringNotes

/-- An item of an array with the blanks, line ends and comments around it. -/
def arrayItem (item : ReadM Value) : ReadM Value := do
  gaps
  let v ← item
  gaps
  return v

/-- Further items of an array, each after a comma; a comma that no item follows is left
unread. -/
def moreItems (item : ReadM Value) : Nat → List Value → ReadM (List Value)
  | 0, acc => return acc.reverse
  | n + 1, acc => do
    if (← peek) != some ',' then return acc.reverse
    match ← attempt (do advance; arrayItem item) with
    | some v => moreItems item n (v :: acc)
    | none => return acc.reverse

/-- An array from its opening bracket, its items read by `item`. -/
def arrayOf (item : ReadM Value) : ReadM Value := do
  advance
  let items ← cut do
    match ← attempt (arrayItem item) with
    | none => pure []
    | some first =>
      let items ← moreItems item ((← get).rest.length + 1) [first]
      if (← peek) == some ',' then advance
      pure items
  gaps
  if (← peek) == some ']' then
    advance
    return .array items
  else hard [.reading "array", .expected (.char ']')]

/-- A pair of an inline table, its value read by `item`. -/
def inlinePair (item : ReadM Value) : ReadM (List Key × Value) := do
  let k ← key
  cut do
    if (← peek) != some '=' then soft [.expected (.char '.'), .expected (.char '=')]
    advance
    blanks
    let v ← item
    blanks
    return (k, v)

/-- Further pairs of an inline table, each after a comma; a comma that no pair follows is left
unread. -/
def morePairs (item : ReadM Value) : Nat → List (List Key × Value) → ReadM (List (List Key × Value))
  | 0, acc => return acc.reverse
  | n + 1, acc => do
    if (← peek) != some ',' then return acc.reverse
    match ← attempt (do advance; inlinePair item) with
    | some p => morePairs item n (p :: acc)
    | none => return acc.reverse

/-- An inline table from its opening brace, its values read by `item`. -/
def inlineTableOf (item : ReadM Value) : ReadM Value := do
  advance
  let start ← get
  let pairs ← cut do
    match ← attempt (inlinePair item) with
    | none => pure []
    | some first => morePairs item ((← get).rest.length + 1) [first]
  blanks
  match inlineEntries pairs with
  | .error p =>
    set start
    fault true p.message
  | .ok entries =>
    if (← peek) == some '\x7d' then
      advance
      return .table entries
    else hard [.reading "inline table", .expected (.char '\x7d')]

/-- A value; arrays and inline tables nest at most `fuel` deep. -/
def value : Nat → ReadM Value
  | 0 => hard []
  | fuel + 1 => do
    match ← peek with
    | none => soft []
    | some c =>
      if c == '"' || c == '\'' then return .string (← string)
      else if c == '[' then arrayOf (value fuel)
      else if c == '\x7b' then inlineTableOf (value fuel)
      else if c == '+' || c == '-' || c.isDigit then number
      else if c == '_' then
        note (.expected (.description "leading digit")) do return .integer (← integer)
      else if c == '.' then
        note (.expected (.description "leading digit")) do return .float (← float)
      else if c == 't' then word ['t', 'r', 'u', 'e'] (.boolean true)
      else if c == 'f' then word ['f', 'a', 'l', 's', 'e'] (.boolean false)
      else if c == 'i' then word ['i', 'n', 'f'] (.float infinity)
      else if c == 'n' then word ['n', 'a', 'n'] (.float (0 / 0))
      else soft stringNotes

/-! ### Documents -/

/-- A key/value pair on a line of its own, added to the current table. -/
def keyval (item : ReadM Value) (b : Builder) : ReadM Builder := do
  let start ← get
  let path ← cut key
  if (← peek) != some '=' then hard [.expected (.char '.'), .expected (.char '=')]
  advance
  blanks
  let v ← cut item
  lineTrailing
  match b.addPair path v with
  | .ok b => return b
  | .error p =>
    set start
    fault true p.message

/-- A table header or an array-of-tables header on a line of its own. -/
def header (b : Builder) : ReadM Builder := note (.reading "table header") do
  let start ← get
  let isArray ← startsWith ['[', '[']
  skip (if isArray then 2 else 1)
  let path ← cut key
  if isArray then
    unless ← literal [']', ']'] do hard [.expected (.char '.'), .expected (.word "]]")]
  else
    unless ← literal [']'] do hard [.expected (.char '.'), .expected (.word "]")]
  lineTrailing
  match (if isArray then b.openArrayTable path else b.openTable path) with
  | .ok b => return b
  | .error p =>
    set start
    fault true p.message

/-- The lines of a document, at most `n` of them, each a blank line, a comment, a header or a
pair. -/
def lines (item : ReadM Value) : Nat → Builder → ReadM Builder
  | 0, b => return b
  | n + 1, b => do
    blanks
    match (← get).rest with
    | [] => return b
    | '#' :: _ =>
      discard comment
      unless ← lineEnd do hard []
      lines item n b
    | '[' :: _ => lines item n (← header b)
    | '\n' :: _ =>
      advance
      lines item n b
    | '\r' :: '\n' :: _ =>
      skip 2
      lines item n b
    | '\r' :: _ => hard []
    | _ => lines item n (← keyval item b)

/-- Reads a document as a table; a byte order mark at its start is passed over. -/
def parse (text : String) : Except ReadError Value :=
  let cs := text.toList
  let start : Cursor := match cs with
    | '\uFEFF' :: rest => ⟨rest, 3⟩
    | _ => ⟨cs, 0⟩
  let whole : ReadM Value := do
    let b ← lines (value (cs.length + 1)) (cs.length + 1) ⟨[], []⟩
    return .table (Item.entriesToValue b.root)
  whole.run' start

end TrackerSearch.Toml
