import TrackerSearch.Text.Utf8
import TrackerSearch.Json.Read

/-!
Decoding of query-string tokens: `%XX` stands for the byte with hexadecimal value `XX`, and
`+` for a space. A token with neither `%` nor `+` is its own decoding. Every `%` must start
two hexadecimal digits; the first that does not is reported with the bytes from it, at most
three, read lossily. The decoded bytes must be well-formed UTF-8.
-/

namespace TrackerSearch.Percent

/-- Why a token has no decoding. -/
inductive UnescapeError where
  /-- A `%` without two hexadecimal digits; the text is the bytes from it, at most three. -/
  | invalidEscape (text : String)
  /-- The decoded bytes are not UTF-8. -/
  | invalidUtf8
  deriving DecidableEq, Repr

/-- The message of an unescaping error. -/
def UnescapeError.message : UnescapeError → String
  | .invalidEscape text => "invalid escape sequence '" ++ text ++ "'"
  | .invalidUtf8 => "decoded token is not valid UTF-8"

/-- Whether a byte is an ASCII hexadecimal digit. -/
def isHexByte (b : Nat) : Bool :=
  (48 ≤ b && b ≤ 57) || (65 ≤ b && b ≤ 70) || (97 ≤ b && b ≤ 102)

/-- The first `%` of the bytes that does not start two hexadecimal digits, as the bytes from
it, at most three. -/
def firstBadEscape : List Nat → Option (List Nat)
  | [] => none
  | b :: rest =>
    if b == 37 then
      match rest with
      | x :: y :: _ => if isHexByte x && isHexByte y then firstBadEscape rest else some (b :: (rest.take 2))
      | _ => some (b :: rest.take 2)
    else firstBadEscape rest

/-- The value of an ASCII hexadecimal digit byte. -/
def hexByteValue (b : Nat) : Nat :=
  (Json.hexValue? (Char.ofNat b)).getD 0

/-- Replaces each `%XX` by its byte; bytes of a `%` without two digits stay as they are. -/
def decodeBytes : List Nat → List Nat
  | b :: x :: y :: rest =>
    if b == 37 && isHexByte x && isHexByte y then (hexByteValue x * 16 + hexByteValue y) :: decodeBytes rest
    else b :: decodeBytes (x :: y :: rest)
  | [b, x] => [b, x]
  | [b] => [b]
  | [] => []

/-- The decoding of a query-string token. -/
def unescape (token : String) : Except UnescapeError String :=
  if !(token.any (· == '%') || token.any (· == '+')) then .ok token
  else
    let bytes := Utf8.encode token
    match firstBadEscape bytes with
    | some bad => .error (.invalidEscape (Utf8.decodeLossy bad))
    | none =>
      let spaced := bytes.map fun b => if b == 43 then 32 else b
      match Utf8.decode? (decodeBytes spaced) with
      | some s => .ok s
      | none => .error .invalidUtf8

end TrackerSearch.Percent
