/-!
# TOML values

What a TOML document holds: strings, 64-bit integers, doubles, booleans, dates and times,
arrays and tables. A table keeps its keys in the order they were first written.

A date and time is written back the way the format spells it: the date as
`YYYY-MM-DD`, a `T` before the time, the time as `HH:MM:SS` with the fraction of a second
only when it is not zero and without its trailing zeros, and the offset as `Z` or as a sign
with hours and minutes, where an offset of zero minutes is `+00:00` whichever sign it was
written with.
-/

namespace TrackerSearch.Toml

/-- A calendar date. -/
structure Date where
  year : Nat
  month : Nat
  day : Nat
  deriving DecidableEq, Repr

/-- A time of day, to the nanosecond. -/
structure Time where
  hour : Nat
  minute : Nat
  second : Nat
  nanosecond : Nat
  deriving DecidableEq, Repr

/-- How far a time is from universal time. -/
inductive Offset where
  /-- Universal time itself, written `Z`. -/
  | utc
  /-- A number of minutes east of universal time. -/
  | minutes (m : Int)
  deriving DecidableEq, Repr

/-- A date, a time of day, or both, with an offset only when both are there. -/
structure Datetime where
  date : Option Date
  time : Option Time
  offset : Option Offset
  deriving DecidableEq, Repr

/-- A natural number in decimal, padded with zeros on the left to at least `width` digits. -/
def padded (width n : Nat) : String :=
  let digits := toString n
  String.ofList (List.replicate (width - digits.length) '0') ++ digits

/-- Text of a date: four digits of year, two of month, two of day. -/
def Date.render (d : Date) : String :=
  padded 4 d.year ++ "-" ++ padded 2 d.month ++ "-" ++ padded 2 d.day

/-- Text of a time: hours, minutes and seconds, then the fraction of a second when there is
one, in nine digits less the zeros that end them. -/
def Time.render (t : Time) : String :=
  let whole := padded 2 t.hour ++ ":" ++ padded 2 t.minute ++ ":" ++ padded 2 t.second
  if t.nanosecond == 0 then whole
  else
    let fraction := (padded 9 t.nanosecond).toList.reverse.dropWhile (· == '0')
    whole ++ "." ++ String.ofList fraction.reverse

/-- Text of an offset: `Z`, or the sign, hours and minutes. -/
def Offset.render : Offset → String
  | .utc => "Z"
  | .minutes m =>
    let sign := if m < 0 then "-" else "+"
    sign ++ padded 2 (m.natAbs / 60) ++ ":" ++ padded 2 (m.natAbs % 60)

/-- Text of a date and time: its parts in order, with `T` between a date and a time. -/
def Datetime.render (d : Datetime) : String :=
  let date := (d.date.map Date.render).getD ""
  let sep := if d.date.isSome && d.time.isSome then "T" else ""
  date ++ sep ++ (d.time.map Time.render).getD "" ++ (d.offset.map Offset.render).getD ""

/-- A value of a TOML document. -/
inductive Value where
  | string (s : String)
  | integer (i : Int)
  | float (x : Float)
  | boolean (b : Bool)
  | datetime (d : Datetime)
  | array (items : List Value)
  | table (entries : List (String × Value))

/-- The name of a value's type, as messages about a document give it. -/
def Value.typeName : Value → String
  | .string _ => "string"
  | .integer _ => "integer"
  | .float _ => "float"
  | .boolean _ => "boolean"
  | .datetime _ => "datetime"
  | .array _ => "array"
  | .table _ => "inline table"

example : Datetime.render ⟨some ⟨1979, 5, 27⟩, some ⟨7, 32, 0, 999000000⟩, some (.minutes (-420))⟩
    = "1979-05-27T07:32:00.999-07:00" := by decide

example : Datetime.render ⟨none, some ⟨0, 32, 0, 0⟩, none⟩ = "00:32:00" := by decide

end TrackerSearch.Toml
