import TrackerSearch.Unicode.WhiteSpace

/-!
# Reading INI documents

An INI document is a list of sections, each a name in brackets followed by `key = value`
lines; the lines before the first header belong to a section without a name. A key ends at
the first `=` or `:`, and a value at the end of its line. Keys, section names and values are
trimmed of white space; a value may be quoted with `"` or `'`, and what is inside the quotes is
kept as it is, along with what follows on the line, trimmed at its end. A backslash escapes the
next character: `\0`, `\a`, `\b`, `\t`, `\r` and `\n` stand for control characters, `\x` with
four hexadecimal digits for a character, a backslash at the end of a line joins the next line,
and any other character stands for itself.

A comment is a line that starts with `;` or `#` in its first column; a comment anywhere else is
refused. A name may appear for several sections and a key several times in a section; all of
them are kept in order.

An error gives the line from one and the column of the character reading stood on, counted so
that the first character of a line is at column two, and a line feed at column one of the line
it ends.
-/

namespace TrackerSearch.Ini

/-- Why a document could not be read, and where. -/
structure ReadError where
  line : Nat
  column : Nat
  message : String
  deriving DecidableEq, Repr

/-- The text of an error: its place and its message. -/
def ReadError.render (e : ReadError) : String :=
  toString e.line ++ ":" ++ toString e.column ++ " " ++ e.message

/-- Where reading stands: the character it stands on (none at the end), the characters after
it, the line from zero, and the column from one of the character, zero for a line feed. -/
structure Cursor where
  current : Option Char
  rest : List Char
  line : Nat
  column : Nat

/-- The cursor on the next character; at the end the place stays where it was. -/
def Cursor.bump (c : Cursor) : Cursor :=
  match c.rest with
  | [] => { c with current := none }
  | ch :: more =>
    if ch == '\n' then ⟨some ch, more, c.line + 1, 0⟩
    else ⟨some ch, more, c.line, c.column + 1⟩

/-- Reading a document, with an error at the first fault. -/
abbrev ReadM := StateT Cursor (Except ReadError)

/-- Fails at the current place. -/
def fail {α : Type} (message : String) : ReadM α := do
  let c ← get
  throw ⟨c.line + 1, c.column + 1, message⟩

/-- The character reading stands on. -/
def current : ReadM (Option Char) := return (← get).current

/-- Moves to the next character. -/
def bump : ReadM Unit := modify Cursor.bump

/-- The character reading stands on, which must be there. -/
def currentChar : ReadM Char := do
  match ← current with
  | some c => return c
  | none => fail "unexpected EOF"

/-- White space in the sense of Unicode. -/
def isSpace (c : Char) : Bool := Unicode.whiteSpace.contains c

/-- Text without white space at its start and end. -/
def trim (s : String) : String :=
  String.ofList ((s.toList.dropWhile isSpace).reverse.dropWhile isSpace).reverse

/-- Text without white space at its end. -/
def trimEnd (s : String) : String :=
  String.ofList (s.toList.reverse.dropWhile isSpace).reverse

/-- Steps over white space, line ends included, at most `n` characters. -/
def skipSpace : Nat → ReadM Unit
  | 0 => pure ()
  | n + 1 => do
    match ← current with
    | some c => if isSpace c then do bump; skipSpace n else pure ()
    | none => pure ()

/-- Steps over white space other than line ends, at most `n` characters. -/
def skipBlanks : Nat → ReadM Unit
  | 0 => pure ()
  | n + 1 => do
    match ← current with
    | some c => if isSpace c && c != '\n' && c != '\r' then do bump; skipBlanks n else pure ()
    | none => pure ()

/-- Steps over a comment through the line feed that ends it, at most `n` characters. -/
def skipComment : Nat → ReadM Unit
  | 0 => pure ()
  | n + 1 => do
    match ← current with
    | some c =>
      bump
      if c != '\n' then skipComment n
    | none => pure ()

/-- How a character is shown in a message: quoted, with its escape when it has one. -/
def charDebug (c : Char) : String :=
  let body := match c with
    | '\n' => "\\n"
    | '\r' => "\\r"
    | '\t' => "\\t"
    | '\\' => "\\\\"
    | '\'' => "\\'"
    | c => c.toString
  "'" ++ body ++ "'"

/-- The value of a hexadecimal digit. -/
def hexDigit? (c : Char) : Option Nat :=
  if '0' ≤ c ∧ c ≤ '9' then some (c.toNat - 48)
  else if 'a' ≤ c ∧ c ≤ 'f' then some (c.toNat - 87)
  else if 'A' ≤ c ∧ c ≤ 'F' then some (c.toNat - 55)
  else none

/-- The number four characters write in hexadecimal, a `+` allowed before them. -/
def hexNumber? (cs : List Char) : Option Nat :=
  let digits := match cs with
    | '+' :: more => more
    | _ => cs
  if digits.isEmpty then none
  else (digits.mapM hexDigit?).map fun ds => ds.foldl (fun n d => n * 16 + d) 0

/-- The four characters after `\x`, each moved onto in turn; a backslash among them must be
followed by a line end. -/
def hexChars : Nat → List Char → ReadM (List Char)
  | 0, acc => return acc.reverse
  | n + 1, acc => do
    bump
    let ch ← currentChar
    if ch == '\\' then
      bump
      let next ← current
      if next != some '\n' then
        let shown := match next with
          | some c => "Some(" ++ charDebug c ++ ")"
          | none => "None"
        fail ("expecting \"\\\\n\" but found \"" ++ shown ++ "\".")
    hexChars n (ch :: acc)

/-- What an escape stands for, from the character after its backslash. -/
def escape : ReadM (List Char) := do
  match ← currentChar with
  | '0' => return [Char.ofNat 0]
  | 'a' => return [Char.ofNat 7]
  | 'b' => return [Char.ofNat 8]
  | 't' => return ['\t']
  | 'r' => return ['\r']
  | 'n' => return ['\n']
  | '\n' => return []
  | 'x' =>
    let code ← hexChars 4 []
    match hexNumber? code with
    | some n =>
      if n < 0xD800 || (0xE000 ≤ n && n ≤ 0x10FFFF) then return [Char.ofNat n]
      else fail "unknown character in \\xHH form"
    | none => fail "unknown character in \\xHH form"
  | c => return [c]

/-- Text up to a character that `stop` accepts (the end counting as `none`), with escapes
read, collected in reverse in `acc`; at most `n` characters. -/
def readUntil (stop : Option Char → Bool) : Nat → List Char → ReadM String
  | 0, acc => return String.ofList acc.reverse
  | n + 1, acc => do
    let c ← current
    if stop c then return String.ofList acc.reverse
    let ch ← currentChar
    let piece ← if ch == '\\' then do bump; escape else pure [ch]
    bump
    readUntil stop n (piece.reverse ++ acc)

/-- Whether a character ends a line, or the text has ended. -/
def endsLine : Option Char → Bool
  | some '\n' | some '\r' | none => true
  | _ => false

/-- The parts of a value after its separator: quoted parts kept as they are, then the rest of
the line, trimmed at both ends when nothing came before it and at its end otherwise. -/
def valueParts (fuel : Nat) : Nat → Bool → String → ReadM String
  | 0, _, acc => return acc
  | n + 1, first, acc => do
    match ← current with
    | none => return acc
    | some '"' =>
      bump
      let quoted ← readUntil (· == some '"') fuel []
      bump
      valueParts fuel n false (acc ++ quoted)
    | some '\'' =>
      bump
      let quoted ← readUntil (· == some '\'') fuel []
      bump
      valueParts fuel n false (acc ++ quoted)
    | some _ =>
      let line ← readUntil endsLine fuel []
      return acc ++ (if first then trim line else trimEnd line)

/-- A value, from the `=` or `:` before it. -/
def value (fuel : Nat) : ReadM String := do
  bump
  skipBlanks fuel
  valueParts fuel fuel true ""

/-- A section name, from its opening bracket through its closing one. -/
def sectionName (fuel : Nat) : ReadM String := do
  bump
  let name ← readUntil (· == some ']') fuel []
  if (← current) == some ']' then bump
  return trim name

/-- The sections of a document in order, each with its name and its pairs in order. -/
abbrev Sections := List (Option String × List (String × String))

/-- Adds a pair to the last section. -/
def addPair (k v : String) : Sections → Sections
  | [] => [(none, [(k, v)])]
  | [(name, pairs)] => [(name, pairs ++ [(k, v)])]
  | s :: rest => s :: addPair k v rest

/-- The items of a document, at most `n` of them, after the sections so far and the key waiting
for its value. -/
def items (fuel : Nat) : Nat → Sections → String → ReadM Sections
  | 0, sections, _ => return sections
  | n + 1, sections, pending => do
    match ← current with
    | none => return sections
    | some c =>
      let (sections, pending) ← match c with
        | ';' | '#' => do
          if (← get).column > 1 then fail "doesn't support inline comment"
          skipComment fuel
          pure (sections, pending)
        | '[' => do
          let name ← sectionName fuel
          pure (sections ++ [(some name, [])], pending)
        | '=' | ':' => do
          if pending.isEmpty then fail "missing key"
          let v ← value fuel
          pure (addPair pending v sections, "")
        | _ => do
          let k ← readUntil (fun c => c == some '=' || c == some ':') fuel []
          pure (sections, trim k)
      skipSpace fuel
      items fuel n sections pending

/-- Reads a document as its sections, the one without a name first. -/
def parse (text : String) : Except ReadError Sections :=
  let fuel := text.length + 1
  let whole : ReadM Sections := do
    skipSpace fuel
    items fuel fuel [(none, [])] ""
  whole.run' (Cursor.bump ⟨none, text.toList, 0, 0⟩)

end TrackerSearch.Ini
