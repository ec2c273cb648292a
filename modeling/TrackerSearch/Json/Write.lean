import TrackerSearch.Json.Value
import TrackerSearch.Decimal.Shortest

/-!
Compact JSON text. No blanks are written; object members are written in byte order of
their keys; strings are written as UTF-8 with `"` and `\` escaped and every character
below U+0020 escaped, by its short form where JSON has one (`\n`, `\t`, `\r`, `\b`, `\f`)
and as `\u00XX` otherwise. Doubles are written by `Decimal.floatText`.
-/

namespace TrackerSearch

/-- The text of a number. -/
def Number.render : Number → String
  | .nat n => toString n
  | .neg n => toString n
  | .float x => Decimal.floatText x

namespace Json

/-- The lowercase hexadecimal digit of a value below 16. -/
def hexDigit (n : Nat) : Char :=
  if n < 10 then Char.ofNat (48 + n) else Char.ofNat (87 + n)

/-- The escaped form of one character inside a string literal. -/
def escapeChar (c : Char) : List Char :=
  if c == '"' then ['\\', '"']
  else if c == '\\' then ['\\', '\\']
  else if c == '\n' then ['\\', 'n']
  else if c == '\t' then ['\\', 't']
  else if c == '\r' then ['\\', 'r']
  else if c.toNat == 8 then ['\\', 'b']
  else if c.toNat == 12 then ['\\', 'f']
  else if c.toNat < 32 then ['\\', 'u', '0', '0', hexDigit (c.toNat / 16), hexDigit (c.toNat % 16)]
  else [c]

/-- A string literal with its quotes. -/
def quote (s : String) : String :=
  String.ofList ('"' :: (s.toList.flatMap escapeChar ++ ['"']))

/-- Orders rendered members by key, keeping the order of equal keys. -/
def sortMembers (ms : List (String × String)) : List (String × String) :=
  ms.mergeSort (fun a b => !(b.1 < a.1))

mutual
/-- Compact text of a value, members in key order. -/
def render : Json → String
  | .null => "null"
  | .bool true => "true"
  | .bool false => "false"
  | .num n => n.render
  | .str s => quote s
  | .arr xs => "[" ++ ",".intercalate (renderItems xs) ++ "]"
  | .obj ms =>
    "\x7b" ++ ",".intercalate ((sortMembers (renderMembers ms)).map fun (k, v) => quote k ++ ":" ++ v)
      ++ "\x7d"

/-- Texts of the items of an array. -/
def renderItems : List Json → List String
  | [] => []
  | x :: xs => render x :: renderItems xs

/-- Keys and value texts of the members of an object. -/
def renderMembers : List (String × Json) → List (String × String)
  | [] => []
  | (k, v) :: ms => (k, render v) :: renderMembers ms
end

end Json

end TrackerSearch
