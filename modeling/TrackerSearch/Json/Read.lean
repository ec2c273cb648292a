import TrackerSearch.Json.Value

/-!
Reading JSON text, with the errors of the standard reader.

Only space, tab, line feed and carriage return are blanks. A number without fraction or
exponent is an integer when it fits: a non-negative one below `2 ^ 64`, a negative one not
below `-2 ^ 63`. `-0` and every other number are read as a double, the fast way: its digits
are gathered into a significand below `2 ^ 64` (further integer digits only raise the
exponent, further fraction digits are dropped), the significand is rounded to a double, and
that is scaled by one power of ten. The result can differ from the nearest double in the last
place. A number too large for the doubles is refused. A key that appears twice in an object
keeps its first place and its last value. Arrays and objects nest at most 127 deep.

An error names what was expected or found, and where: its line from one and its column as the
number of UTF-8 bytes before that place on its line. The place is just past the character
that was consumed when the error was found; when the reader only looked at the next character,
the place is one byte past the start of that character, and at the end of the text the end.

The reader is bounded by the length of the text: every loop consumes a character each round,
and every nested value at least one.
-/

namespace TrackerSearch.Json

/-- What went wrong while reading JSON text. -/
inductive ReadErrorCode where
  | eofWhileParsingList
  | eofWhileParsingObject
  | eofWhileParsingString
  | eofWhileParsingValue
  | expectedColon
  | expectedListCommaOrEnd
  | expectedObjectCommaOrEnd
  | expectedSomeIdent
  | expectedSomeValue
  | invalidEscape
  | invalidNumber
  | numberOutOfRange
  | controlCharacter
  | keyMustBeAString
  | loneLeadingSurrogate
  | trailingComma
  | trailingCharacters
  | unexpectedEndOfHexEscape
  | recursionLimitExceeded
  deriving DecidableEq, Repr

/-- How an error code reads. -/
def ReadErrorCode.message : ReadErrorCode → String
  | .eofWhileParsingList => "EOF while parsing a list"
  | .eofWhileParsingObject => "EOF while parsing an object"
  | .eofWhileParsingString => "EOF while parsing a string"
  | .eofWhileParsingValue => "EOF while parsing a value"
  | .expectedColon => "expected `:`"
  | .expectedListCommaOrEnd => "expected `,` or `]`"
  | .expectedObjectCommaOrEnd => "expected `,` or `\x7d`"
  | .expectedSomeIdent => "expected ident"
  | .expectedSomeValue => "expected value"
  | .invalidEscape => "invalid escape"
  | .invalidNumber => "invalid number"
  | .numberOutOfRange => "number out of range"
  | .controlCharacter => "control character (\\u0000-\\u001F) found while parsing a string"
  | .keyMustBeAString => "key must be a string"
  | .loneLeadingSurrogate => "lone leading surrogate in hex escape"
  | .trailingComma => "trailing comma"
  | .trailingCharacters => "trailing characters"
  | .unexpectedEndOfHexEscape => "unexpected end of hex escape"
  | .recursionLimitExceeded => "recursion limit exceeded"

/-- An error and where it was found. -/
structure ReadError where
  code : ReadErrorCode
  line : Nat
  column : Nat
  deriving DecidableEq, Repr

/-- The message of an error, with its place. -/
def ReadError.message (e : ReadError) : String :=
  e.code.message ++ " at line " ++ toString e.line ++ " column " ++ toString e.column

/-- Where the reader is: the characters left, the bytes read, the current line and the byte
at which it starts, and a bound on the rounds of any loop. -/
structure Cursor where
  rest : List Char
  index : Nat := 0
  line : Nat := 1
  lineStart : Nat := 0
  bound : Nat

/-- The cursor after one more character. -/
def Cursor.advance (c : Cursor) : Cursor :=
  match c.rest with
  | [] => c
  | ch :: rest =>
    let index := c.index + ch.utf8Size
    if ch == '\n' then { c with rest := rest, index := index, line := c.line + 1, lineStart := index }
    else { c with rest := rest, index := index }

/-- The line and column of the place `k` bytes ahead, or of the end if that is nearer. -/
def Cursor.placeAhead (c : Cursor) : Nat → Nat × Nat
  | 0 => (c.line, c.index - c.lineStart)
  | k + 1 =>
    match c.rest with
    | [] => (c.line, c.index - c.lineStart)
    | ch :: _ =>
      if ch.utf8Size ≤ k + 1 then c.advance.placeAhead (k + 1 - ch.utf8Size)
      else (c.line, c.index + k + 1 - c.lineStart)
termination_by k => (k, c.rest.length)
decreasing_by
  all_goals simp_wf
  all_goals (left; have := Char.utf8Size_pos ch; omega)

/-- Reading text, with an error at the first fault. -/
abbrev ReadM := StateT Cursor (Except ReadError)

/-- Fails just past what was consumed. -/
def fail {α : Type} (code : ReadErrorCode) : ReadM α := do
  let (line, column) := (← get).placeAhead 0
  throw ⟨code, line, column⟩

/-- Fails one byte into the next character, or at the end. -/
def failAhead {α : Type} (code : ReadErrorCode) : ReadM α := do
  let (line, column) := (← get).placeAhead 1
  throw ⟨code, line, column⟩

/-- Fails at the end of the text. -/
def failAtEnd {α : Type} (code : ReadErrorCode) : ReadM α := do
  let c ← get
  let (line, column) := c.placeAhead (c.rest.foldl (fun n ch => n + ch.utf8Size) 0)
  throw ⟨code, line, column⟩

/-- The next character, not consumed. -/
def peek : ReadM (Option Char) := return (← get).rest.head?

/-- Consumes the next character. -/
def advance : ReadM Unit := modify Cursor.advance

/-- Consumes and gives the next character. -/
def next : ReadM (Option Char) := do
  let c ← peek
  advance
  return c

/-- The next digit's value, not consumed. -/
def peekDigit : ReadM (Option Nat) := do
  match ← peek with
  | some c => return if c.isDigit then some (c.toNat - 48) else none
  | none => return none

/-- Steps over blanks and gives the next character. -/
def skipBlanks : Nat → ReadM (Option Char)
  | 0 => peek
  | n + 1 => do
    match ← peek with
    | some c =>
      if c == ' ' || c == '\n' || c == '\t' || c == '\r' then
        advance
        skipBlanks n
      else return some c
    | none => return none

/-- Steps over blanks, as many as there can be, and gives the next character. -/
def blanks : ReadM (Option Char) := do skipBlanks (← get).bound

/-- Steps over digits. -/
def skipDigits : Nat → ReadM Unit
  | 0 => return ()
  | n + 1 => do
    if (← peekDigit).isSome then
      advance
      skipDigits n

/-- Consumes the rest of a literal word, which must follow exactly. -/
def expectWord : List Char → ReadM Unit
  | [] => return ()
  | e :: rest => do
    match ← next with
    | none => fail .eofWhileParsingValue
    | some c => if c != e then fail .expectedSomeIdent else expectWord rest

/-! ### Numbers -/

/-- The largest significand a number is read into, `2 ^ 64 - 1`. -/
def significandLimit : Nat := Nat.pow 2 64 - 1

/-- Whether appending a digit takes a significand past the limit. -/
def overflows (sig digit : Nat) : Bool := sig * 10 + digit > significandLimit

/-- `10 ^ k` as the nearest double. -/
def powerOfTen (k : Nat) : Float := Float.ofScientific 1 false k

/-- The double of `sig * 10 ^ exp`, computed the fast way rather than the exact one: the
significand is rounded to a double, then multiplied or divided by one power of ten from
`10 ^ 0` to `10 ^ 308`. An exponent below that range divides by `10 ^ 308` until it fits or
the value is zero; one above it, or a product that is infinite, is out of range. Three
divisions bring any significand to zero, so `fuel` 8 is enough. -/
def scaleByTen : Nat → Float → Int → Option Float
  | 0, f, _ => some f
  | fuel + 1, f, e =>
    if e.natAbs ≤ 308 then
      if e ≥ 0 then
        let g := f * powerOfTen e.toNat
        if g.isInf then none else some g
      else some (f / powerOfTen e.natAbs)
    else if f == 0 then some f
    else if e ≥ 0 then none
    else scaleByTen fuel (f / powerOfTen 308) (e + 308)

/-- The double of a sign, a significand and a decimal exponent. -/
def fromParts (positive : Bool) (sig : Nat) (exp : Int) : ReadM Float :=
  match scaleByTen 8 (Float.ofNat sig) exp with
  | some f => return if positive then f else -f
  | none => fail .numberOutOfRange

/-- The largest exponent that is counted, `2 ^ 31 - 1`; sums are held to the range of a
signed 32-bit word. -/
def exponentLimit : Int := Int.pow 2 31 - 1

/-- Holds an exponent to the range of a signed 32-bit word. -/
def clampExponent (e : Int) : Int := max (-Int.pow 2 31) (min exponentLimit e)

/-- The digits of an exponent after its first, added to `exp`; `none` once it passes the
limit, with the digit that passed it consumed. -/
def exponentDigits : Nat → Int → ReadM (Option Int)
  | 0, exp => return some exp
  | n + 1, exp => do
    match ← peekDigit with
    | some d =>
      advance
      if exp * 10 + d > exponentLimit then return none
      else exponentDigits n (exp * 10 + d)
    | none => return some exp

/-- Reads an exponent from its `e`, added to the exponent `start` so far. An exponent past
the limit makes a zero, or is out of range for a positive one of a non-zero significand. -/
def readExponent (positive : Bool) (sig : Nat) (start : Int) : ReadM Float := do
  advance
  let positiveExp ← match ← peek with
    | some '+' => do advance; pure true
    | some '-' => do advance; pure false
    | _ => pure true
  match ← next with
  | none => fail .eofWhileParsingValue
  | some c =>
    if !c.isDigit then fail .invalidNumber
    match ← exponentDigits (← get).bound (c.toNat - 48) with
    | none =>
      if sig != 0 && positiveExp then fail .numberOutOfRange
      skipDigits (← get).bound
      return if positive then 0.0 else -0.0
    | some exp =>
      fromParts positive sig (clampExponent (if positiveExp then start + exp else start - exp))

/-- Reads an exponent if one follows, or makes the double. -/
def readExponentOrEnd (positive : Bool) (sig : Nat) (exp : Int) : ReadM Float := do
  match ← peek with
  | some 'e' | some 'E' => readExponent positive sig exp
  | _ => fromParts positive sig exp

/-- The digits of a fraction appended to a significand, each lowering the exponent, until a
digit would take the significand past the limit: the significand, the exponent, and whether
it stopped at such a digit. -/
def fractionDigits : Nat → Nat → Int → ReadM (Nat × Int × Bool)
  | 0, sig, exp => return (sig, exp, false)
  | n + 1, sig, exp => do
    match ← peekDigit with
    | some d =>
      if overflows sig d then return (sig, exp, true)
      advance
      fractionDigits n (sig * 10 + d) (exp - 1)
    | none => return (sig, exp, false)

/-- Reads a fraction from its point; at least one digit must follow the point. Digits past
the limit are skipped. -/
def readFraction (positive : Bool) (sig : Nat) (start : Int) : ReadM Float := do
  advance
  let (sig, exp, overflowed) ← fractionDigits (← get).bound sig 0
  if overflowed then
    skipDigits (← get).bound
  else if exp == 0 then
    match ← peek with
    | some _ => failAhead .invalidNumber
    | none => failAhead .eofWhileParsingValue
  readExponentOrEnd positive sig (start + exp)

/-- Reads the integer digits that do not fit in the significand, each raising the exponent,
then what follows them. -/
def readLongInteger (positive : Bool) (sig : Nat) : Nat → Int → ReadM Float
  | 0, exp => fromParts positive sig exp
  | n + 1, exp => do
    match ← peek with
    | some '.' => readFraction positive sig exp
    | some 'e' | some 'E' => readExponent positive sig exp
    | some c =>
      if c.isDigit then
        advance
        readLongInteger positive sig n (exp + 1)
      else fromParts positive sig exp
    | none => fromParts positive sig exp

/-- An integer that fits in the significand: non-negative as is, negative as is down to
`-2 ^ 63`, and `-0` or lower as a double. -/
def integerNumber (positive : Bool) (n : Nat) : Number :=
  if positive then .nat n
  else if n == 0 then .float (-0.0)
  else if n ≤ Nat.pow 2 63 then .neg (-(n : Int))
  else .float (-(Float.ofNat n))

/-- What follows the integer digits of a number that fit: a fraction, an exponent, or
nothing. -/
def readAfterInteger (positive : Bool) (sig : Nat) : ReadM Number := do
  match ← peek with
  | some '.' => return .float (← readFraction positive sig 0)
  | some 'e' | some 'E' => return .float (← readExponent positive sig 0)
  | _ => return integerNumber positive sig

/-- Integer digits after the first, while they fit in the significand. -/
def integerDigits (positive : Bool) : Nat → Nat → ReadM Number
  | 0, sig => readAfterInteger positive sig
  | n + 1, sig => do
    match ← peekDigit with
    | some d =>
      if overflows sig d then return .float (← readLongInteger positive sig (← get).bound 0)
      advance
      integerDigits positive n (sig * 10 + d)
    | none => readAfterInteger positive sig

/-- Reads a number from its first digit; a leading zero stands alone. -/
def readNumber (positive : Bool) : ReadM Number := do
  match ← next with
  | none => fail .eofWhileParsingValue
  | some '0' =>
    if (← peekDigit).isSome then failAhead .invalidNumber
    readAfterInteger positive 0
  | some c =>
    if '1' ≤ c && c ≤ '9' then integerDigits positive (← get).bound (c.toNat - 48)
    else fail .invalidNumber

/-! ### Strings -/

/-- The value of a hexadecimal digit. -/
def hexValue? (c : Char) : Option Nat :=
  if '0' ≤ c ∧ c ≤ '9' then some (c.toNat - 48)
  else if 'a' ≤ c ∧ c ≤ 'f' then some (c.toNat - 87)
  else if 'A' ≤ c ∧ c ≤ 'F' then some (c.toNat - 55)
  else none

/-- Four hexadecimal digits as a number, consumed; four bytes are taken even when they are
not all digits, and fewer than four left is the end of the text. -/
def hexEscape : ReadM Nat := do
  let c ← get
  let four := c.rest.take 4
  if four.foldl (fun n ch => n + ch.utf8Size) 0 < 4 then failAtEnd .eofWhileParsingString
  match four.mapM hexValue? with
  | some [a, b, d, e] =>
    set (c.advance.advance.advance.advance)
    return ((a * 16 + b) * 16 + d) * 16 + e
  | _ =>
    let (line, column) := c.placeAhead 4
    throw ⟨.invalidEscape, line, column⟩

/-- The character of a `\u` escape, joining a surrogate pair; a surrogate may not stand
alone. -/
def unicodeEscape : ReadM Char := do
  let n ← hexEscape
  if 0xDC00 ≤ n && n ≤ 0xDFFF then fail .loneLeadingSurrogate
  if n < 0xD800 || n > 0xDBFF then return Char.ofNat n
  match ← peek with
  | none => fail .eofWhileParsingString
  | some '\\' => advance
  | some _ =>
    advance
    fail .unexpectedEndOfHexEscape
  match ← peek with
  | none => fail .eofWhileParsingString
  | some 'u' => advance
  | some _ =>
    advance
    fail .unexpectedEndOfHexEscape
  let n2 ← hexEscape
  if n2 < 0xDC00 || n2 > 0xDFFF then fail .loneLeadingSurrogate
  return Char.ofNat (0x10000 + (n - 0xD800) * 0x400 + (n2 - 0xDC00))

/-- The character an escape stands for, from the character after the backslash. -/
def escape : ReadM Char := do
  match ← next with
  | none => fail .eofWhileParsingString
  | some '"' => return '"'
  | some '\\' => return '\\'
  | some '/' => return '/'
  | some 'b' => return Char.ofNat 8
  | some 'f' => return Char.ofNat 12
  | some 'n' => return '\n'
  | some 'r' => return '\r'
  | some 't' => return '\t'
  | some 'u' => unicodeEscape
  | some _ => fail .invalidEscape

/-- The body of a string after its opening quote, collected in reverse in `acc`, through its
closing quote. A control character may not appear in it. -/
def readString : Nat → List Char → ReadM String
  | 0, _ => failAtEnd .eofWhileParsingString
  | n + 1, acc => do
    match ← next with
    | none => fail .eofWhileParsingString
    | some '"' => return String.ofList acc.reverse
    | some '\\' => readString n ((← escape) :: acc)
    | some c => if c.toNat < 0x20 then fail .controlCharacter else readString n (c :: acc)

/-! ### Values -/

mutual
/-- Reads one value after optional blanks; `depth` counts how much deeper arrays and objects
may still nest. -/
def readValue : Nat → Nat → ReadM Json
  | 0, _ => failAhead .recursionLimitExceeded
  | fuel + 1, depth => do
    match ← blanks with
    | none => failAhead .eofWhileParsingValue
    | some 'n' =>
      advance
      expectWord ['u', 'l', 'l']
      return .null
    | some 't' =>
      advance
      expectWord ['r', 'u', 'e']
      return .bool true
    | some 'f' =>
      advance
      expectWord ['a', 'l', 's', 'e']
      return .bool false
    | some '-' =>
      advance
      return .num (← readNumber false)
    | some '"' =>
      advance
      return .str (← readString (← get).bound [])
    | some '[' =>
      if depth ≤ 1 then failAhead .recursionLimitExceeded
      advance
      let items ← readItems fuel (depth - 1) true []
      advance
      return .arr items
    | some '{' =>
      if depth ≤ 1 then failAhead .recursionLimitExceeded
      advance
      let members ← readMembers fuel (depth - 1) true []
      advance
      return .obj members
    | some c =>
      if c.isDigit then return .num (← readNumber true)
      else failAhead .expectedSomeValue

/-- Reads the items of an array up to its closing bracket, which is left to be consumed;
`acc` holds the items so far, reversed. -/
def readItems : Nat → Nat → Bool → List Json → ReadM (List Json)
  | 0, _, _, _ => failAhead .recursionLimitExceeded
  | fuel + 1, depth, first, acc => do
    let item ← match ← blanks with
      | some ']' => return acc.reverse
      | some ',' =>
        if first then pure (some ',')
        else do
          advance
          blanks
      | some c => if first then pure (some c) else failAhead .expectedListCommaOrEnd
      | none => failAhead .eofWhileParsingList
    match item with
    | some ']' => failAhead .trailingComma
    | some _ => readItems fuel depth false ((← readValue fuel depth) :: acc)
    | none => failAhead .eofWhileParsingValue

/-- Reads the members of an object up to its closing brace, which is left to be consumed. -/
def readMembers : Nat → Nat → Bool → List (String × Json) → ReadM (List (String × Json))
  | 0, _, _, _ => failAhead .recursionLimitExceeded
  | fuel + 1, depth, first, acc => do
    let key ← match ← blanks with
      | some '}' => return acc
      | some ',' =>
        if first then pure (some ',')
        else do
          advance
          blanks
      | some c => if first then pure (some c) else failAhead .expectedObjectCommaOrEnd
      | none => failAhead .eofWhileParsingObject
    match key with
    | some '"' =>
      advance
      let k ← readString (← get).bound []
      match ← blanks with
      | some ':' => advance
      | some _ => failAhead .expectedColon
      | none => failAhead .eofWhileParsingObject
      let v ← readValue fuel depth
      readMembers fuel depth false (setMember k v acc)
    | some '}' => failAhead .trailingComma
    | some _ => failAhead .keyMustBeAString
    | none => failAhead .eofWhileParsingValue
end

/-- Reads a whole text as one JSON value; only blanks may follow it. -/
def parse (text : String) : Except ReadError Json :=
  let cs := text.toList
  let whole : ReadM Json := do
    let v ← readValue (4 * cs.length + 8) 128
    if (← blanks).isSome then failAhead .trailingCharacters
    return v
  whole.run' { rest := cs, bound := cs.length + 2 }

end TrackerSearch.Json
