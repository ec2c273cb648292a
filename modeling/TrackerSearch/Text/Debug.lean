import TrackerSearch.Unicode.Printable

/-!
Strings as diagnostics quote them: between double quotes, with the backslash, the double
quote, tab, carriage return, line feed and NUL escaped, and every character that extends a
grapheme or is not printable written as `\u{…}`, its code in lowercase hexadecimal without
leading zeros. A character is printable unless it is a control, format, surrogate,
private-use or unassigned code point, or a separator other than the space.
-/

namespace TrackerSearch.Text

/-- Lowercase hexadecimal digits of a number, without leading zeros. -/
def lowerHex (n : Nat) : String :=
  String.ofList (Nat.toDigits 16 n)

/-- How one character is written inside quotes. -/
def debugChar (c : Char) : String :=
  match c with
  | '\x00' => "\\0"
  | '\t' => "\\t"
  | '\r' => "\\r"
  | '\n' => "\\n"
  | '\\' => "\\\\"
  | '"' => "\\\""
  | _ =>
    if Unicode.graphemeExtender.contains c || Unicode.unprintable.contains c then
      "\\u\x7b" ++ lowerHex c.toNat ++ "\x7d"
    else String.singleton c

/-- A string between double quotes, escaped as above. -/
def debugQuote (s : String) : String :=
  "\"" ++ String.join (s.toList.map debugChar) ++ "\""

end TrackerSearch.Text
