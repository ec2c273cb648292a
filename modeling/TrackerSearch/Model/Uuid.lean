import TrackerSearch.Json.Read

/-!
Identifiers of work items' types and spaces: 128-bit UUIDs. They are read in four shapes:
32 hexadecimal digits; the hyphenated form with hyphens after the 8th, 12th, 16th and 20th
digit; that form in braces; and that form after `urn:uuid:`. Digits may be of either case.
They are written hyphenated in lowercase, and as a label of 32 lowercase digits.
-/

namespace TrackerSearch

/-- A 128-bit identifier. -/
structure Uuid where
  value : Nat
  deriving DecidableEq, Repr, Hashable

namespace Uuid

/-- The identifier with all bits zero. -/
def nil : Uuid := ⟨0⟩

instance : Ord Uuid := ⟨fun a b => compare a.value b.value⟩

instance : LT Uuid := ⟨fun a b => a.value < b.value⟩

instance (a b : Uuid) : Decidable (a < b) := inferInstanceAs (Decidable (a.value < b.value))

/-- The value of hexadecimal digits, if all of them are digits. -/
def hexValue? (cs : List Char) : Option Nat :=
  cs.foldlM (fun n c => (Json.hexValue? c).map (n * 16 + ·)) 0

/-- Reads the 32 digits of the unhyphenated form. -/
def ofSimple? (cs : List Char) : Option Uuid :=
  if cs.length == 32 then (hexValue? cs).map Uuid.mk else none

/-- Reads the hyphenated form: groups of 8, 4, 4, 4 and 12 digits. -/
def ofHyphenated? (cs : List Char) : Option Uuid :=
  if cs.length == 36 && cs[8]? == some '-' && cs[13]? == some '-' && cs[18]? == some '-'
      && cs[23]? == some '-' then
    let digits := cs.take 8 ++ (cs.drop 9).take 4 ++ (cs.drop 14).take 4 ++ (cs.drop 19).take 4
      ++ cs.drop 24
    (hexValue? digits).map Uuid.mk
  else none

/-- Reads any of the four accepted shapes. The shape is chosen by length in bytes. -/
def parse? (s : String) : Option Uuid :=
  let cs := s.toList
  match s.utf8ByteSize with
  | 32 => ofSimple? cs
  | 36 => ofHyphenated? cs
  | 38 => if cs.head? == some '{' && cs.getLast? == some '}' then ofHyphenated? ((cs.drop 1).dropLast) else none
  | 45 => if cs.take 9 == "urn:uuid:".toList then ofHyphenated? (cs.drop 9) else none
  | _ => none

/-- The lowercase hexadecimal digits of the value, padded to `n` digits. -/
def hexDigits (v n : Nat) : List Char :=
  let ds := Nat.toDigits 16 v
  List.replicate (n - ds.length) '0' ++ ds

/-- The 32 lowercase digits without hyphens. -/
def simple (u : Uuid) : String :=
  String.ofList (hexDigits u.value 32)

/-- The hyphenated lowercase form. -/
def hyphenated (u : Uuid) : String :=
  let ds := hexDigits u.value 32
  String.ofList (ds.take 8 ++ ['-'] ++ (ds.drop 8).take 4 ++ ['-'] ++ (ds.drop 12).take 4 ++ ['-']
    ++ (ds.drop 16).take 4 ++ ['-'] ++ ds.drop 20)

end Uuid

end TrackerSearch
