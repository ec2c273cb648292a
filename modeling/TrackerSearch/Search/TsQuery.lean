import TrackerSearch.Text.Words
import TrackerSearch.Unicode.Case

/-!
Boolean lexeme expressions, the part of the full-text query language that search strings
compile to: lexemes joined by `&` and `|`, with parentheses. `|` binds weaker than `&`, and
both group to the left.

A lexeme runs to white space or one of `& | ( )`; a backslash takes the next character as it
is. A colon ends a lexeme: `:*` makes it match every word it begins, and letters after it are
weights, which are skipped. A lexeme is compared in lowercase. An empty lexeme, unbalanced
parentheses or text left over make the expression malformed.
-/

namespace TrackerSearch

/-- A lexeme expression. -/
inductive TsQuery where
  /-- A lexeme; with `matchesPrefix` it matches every word it begins. -/
  | lexeme (text : String) (matchesPrefix : Bool)
  | and (lhs rhs : TsQuery)
  | or (lhs rhs : TsQuery)
  deriving DecidableEq, Repr

namespace TsQuery

/-- Whether an expression holds for a document with the given words. -/
def holds (words : List String) : TsQuery → Bool
  | .lexeme text true => words.any (·.startsWith text)
  | .lexeme text false => words.contains text
  | .and a b => holds words a && holds words b
  | .or a b => holds words a || holds words b

/-- Drops leading white space. -/
def skipBlank (cs : List Char) : List Char :=
  cs.dropWhile Unicode.whiteSpace.contains

/-- Whether a character ends a lexeme. -/
def endsLexeme (c : Char) : Bool :=
  Unicode.whiteSpace.contains c || c == '&' || c == '|' || c == '(' || c == ')'

/-- Reads the characters of a lexeme, collected reversed in `acc`; gives them, whether the
lexeme is a prefix, and the rest. -/
def readLexeme : List Char → List Char → Option (List Char × Bool × List Char)
  | acc, [] => some (acc.reverse, false, [])
  | _, ['\\'] => none
  | acc, '\\' :: c :: rest => readLexeme (c :: acc) rest
  | acc, ':' :: rest =>
    let (isStar, rest) := match rest with
      | '*' :: r => (true, r)
      | r => (false, r)
    some (acc.reverse, isStar, rest.dropWhile fun c => c.isAlpha)
  | acc, c :: rest =>
    if endsLexeme c then some (acc.reverse, false, c :: rest) else readLexeme (c :: acc) rest

mutual
/-- Reads alternatives. -/
def readOr : Nat → List Char → Option (TsQuery × List Char)
  | 0, _ => none
  | fuel + 1, cs => do
    let (left, rest) ← readAnd fuel cs
    orTail fuel left rest

/-- Reads further alternatives after `left`. -/
def orTail : Nat → TsQuery → List Char → Option (TsQuery × List Char)
  | 0, _, _ => none
  | fuel + 1, left, cs =>
    match skipBlank cs with
    | '|' :: rest => do
      let (right, rest) ← readAnd fuel rest
      orTail fuel (.or left right) rest
    | rest => some (left, rest)

/-- Reads conjunctions. -/
def readAnd : Nat → List Char → Option (TsQuery × List Char)
  | 0, _ => none
  | fuel + 1, cs => do
    let (left, rest) ← readFactor fuel cs
    andTail fuel left rest

/-- Reads further conjuncts after `left`. -/
def andTail : Nat → TsQuery → List Char → Option (TsQuery × List Char)
  | 0, _, _ => none
  | fuel + 1, left, cs =>
    match skipBlank cs with
    | '&' :: rest => do
      let (right, rest) ← readFactor fuel rest
      andTail fuel (.and left right) rest
    | rest => some (left, rest)

/-- Reads a parenthesized expression or a lexeme. -/
def readFactor : Nat → List Char → Option (TsQuery × List Char)
  | 0, _ => none
  | fuel + 1, cs =>
    match skipBlank cs with
    | '(' :: rest => do
      let (inner, rest) ← readOr fuel rest
      match skipBlank rest with
      | ')' :: rest => some (inner, rest)
      | _ => none
    | rest => do
      let (text, isStar, rest) ← readLexeme [] rest
      if text.isEmpty then none
      else some (.lexeme (Unicode.lowercase (String.ofList text)) isStar, rest)
end

/-- Reads a whole expression; `none` when it is malformed. Each nested reader consumes a
character or stands at most three levels above one that does, so four levels per character
are enough. -/
def parse (text : String) : Option TsQuery := do
  let cs := text.toList
  let (q, rest) ← readOr (4 * cs.length + 4) cs
  if (skipBlank rest).isEmpty then some q else none

end TsQuery

end TrackerSearch
