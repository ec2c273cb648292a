/-!
Instants as whole seconds since 1970-01-01 00:00 UTC, and their RFC 3339 text in UTC
(`1969-12-31T23:00:00Z`): the proleptic Gregorian calendar, four-digit years, no fraction.
Only the years 0 to 9999 have such a text; other instants cannot be written.
-/

namespace TrackerSearch

/-- An instant, in seconds since the Unix epoch. -/
structure Instant where
  seconds : Int
  deriving DecidableEq, Repr, Inhabited

instance : Ord Instant := ⟨fun a b => compare a.seconds b.seconds⟩

namespace Instant

/-- The civil date of a day number counted from 1970-01-01: year, month and day. Days are
grouped in eras of 400 years, which repeat exactly; integer division rounds down. -/
def civilDate (days : Int) : Int × Nat × Nat :=
  let z := days + 719468
  let era := z / 146097
  let doe := (z - era * 146097).toNat
  let yoe := (doe - doe / 1460 + doe / 36524 - doe / 146096) / 365
  let doy := doe - (365 * yoe + yoe / 4 - yoe / 100)
  let mp := (5 * doy + 2) / 153
  let d := doy - (153 * mp + 2) / 5 + 1
  let m := if mp < 10 then mp + 3 else mp - 9
  let y := (yoe : Int) + era * 400
  (if m ≤ 2 then y + 1 else y, m, d)

/-- A number written with at least `width` digits. -/
def padded (width n : Nat) : String :=
  let s := toString n
  String.ofList (List.replicate (width - s.length) '0') ++ s

/-- Why an instant has no RFC 3339 text. -/
inductive FormatError where
  /-- The year is not one of 0 to 9999, which the four digits of the format can hold. -/
  | yearOutOfRange
  deriving DecidableEq, Repr

/-- The message of a format error. -/
def FormatError.message : FormatError → String
  | .yearOutOfRange => "The year component cannot be formatted into the requested format."

/-- The RFC 3339 text of an instant, in UTC. -/
def rfc3339? (t : Instant) : Except FormatError String :=
  let days := t.seconds / 86400
  let secs := (t.seconds - days * 86400).toNat
  let (y, m, d) := civilDate days
  if y < 0 || y > 9999 then .error .yearOutOfRange
  else .ok (padded 4 y.toNat ++ "-" ++ padded 2 m ++ "-" ++ padded 2 d ++ "T" ++ padded 2 (secs / 3600)
    ++ ":" ++ padded 2 (secs % 3600 / 60) ++ ":" ++ padded 2 (secs % 60) ++ "Z")

end Instant

end TrackerSearch
