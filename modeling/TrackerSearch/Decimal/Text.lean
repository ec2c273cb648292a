import TrackerSearch.Decimal.Shortest

/-!
Doubles as plain text, and text as doubles.

The plain text of a double is its shortest round-trip digits in positional notation only,
however large or small: an integral value has no fraction (`1`, `1000000000000000000000`),
a fraction keeps its leading zeros (`0.0000001`). Infinities are `inf` and `-inf`, NaN is
`NaN`, and negative zero is `-0`. In a diagnostic a finite value without a decimal point is
given `.0`.

Reading accepts an optional sign followed by `inf`, `infinity` or `nan` in any case, or by
decimal digits with an optional fraction and an optional exponent, at least one digit
before the exponent; the value is the double nearest to the decimal, ties to even. A decimal
too large for a double reads as infinity, and one too small as zero.
-/

namespace TrackerSearch.Decimal

/-- Positional digits of `d * 10 ^ k`. -/
def positional (d : Nat) (k : Int) : String :=
  let ds := digitsOf d
  let len : Int := ds.length
  if 0 ≤ k then String.ofList (ds ++ List.replicate k.toNat '0')
  else if 0 < len + k then
    let cut := (len + k).toNat
    String.ofList (ds.take cut ++ ['.'] ++ ds.drop cut)
  else String.ofList (['0', '.'] ++ List.replicate (-(len + k)).toNat '0' ++ ds)

/-- The plain text of a double. -/
def plainText (f : Float) : String :=
  if f.isNaN then "NaN"
  else
    match Binary.ofBits f.toBits with
    | none => if f < 0 then "-inf" else "inf"
    | some x =>
      let sign := if x.negative then "-" else ""
      if x.mantissa == 0 then sign ++ "0"
      else
        let (d, k) := x.shortest
        sign ++ positional d k

/-- The text of a double in a diagnostic: its plain text, with `.0` added to a finite value
that has no decimal point. -/
def pointedText (f : Float) : String :=
  let t := plainText f
  if f.isFinite && !t.contains '.' then t ++ ".0" else t

/-- Splits off leading decimal digits. -/
def spanDigits (cs : List Char) : List Char × List Char :=
  (cs.takeWhile Char.isDigit, cs.dropWhile Char.isDigit)

/-- The value of decimal digits. -/
def digitValue (ds : List Char) : Nat :=
  ds.foldl (fun n c => 10 * n + (c.toNat - '0'.toNat)) 0

/-- The double nearest to `m * 10 ^ e`, clamped to infinity or zero far out of range. -/
def nearest (m : Nat) (e : Int) : Float :=
  if m == 0 then 0
  else
    let lead := e + ((digitsOf m).length : Int) - 1
    if lead > 310 then Float.ofScientific 1 false 400
    else if lead < -330 then 0
    else if e < 0 then Float.ofScientific m true e.natAbs
    else Float.ofScientific m false e.toNat

/-- The magnitude a text without its sign denotes. -/
def readMagnitude (cs : List Char) : Option Float :=
  let lower := String.ofList (cs.map Char.toLower)
  if lower == "inf" || lower == "infinity" then some (Float.ofScientific 1 false 400)
  else if lower == "nan" then some (0 / 0)
  else
    let (whole, rest) := spanDigits cs
    let (frac, rest) := match rest with
      | '.' :: r => spanDigits r
      | r => ([], r)
    if whole.isEmpty && frac.isEmpty then none
    else
      let exponent : Option Int := match rest with
        | [] => some 0
        | c :: r =>
          if c == 'e' || c == 'E' then
            let (neg, r) := match r with
              | '-' :: r' => (true, r')
              | '+' :: r' => (false, r')
              | r' => (false, r')
            if !r.isEmpty && r.all Char.isDigit then
              let v : Int := digitValue r
              some (if neg then -v else v)
            else none
          else none
      exponent.map fun ex => nearest (digitValue (whole ++ frac)) (ex - frac.length)

/-- Reads a double. -/
def readFloat? (text : String) : Option Float :=
  match text.toList with
  | '-' :: rest => (readMagnitude rest).map (- ·)
  | '+' :: rest => readMagnitude rest
  | cs => readMagnitude cs

end TrackerSearch.Decimal
