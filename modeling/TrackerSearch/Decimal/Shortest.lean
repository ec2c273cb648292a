/-!
Shortest decimal text of a binary64 value. A finite double is read off its bits as
`m * 2 ^ q`; the digits written are the fewest significant digits whose decimal lies in
the interval of reals that round back to the same double, and of two such decimals the
nearer one, an exact tie going to the even digit. All comparisons are exact `Nat`
arithmetic; nothing here goes through `Float` operations.

The text follows one layout: positional notation from `1e-5` up to below `1e16`, an
integral value keeping `.0`, and otherwise one digit, an optional fraction, `e` and a
signed exponent (`1e+21`, `1.5e-7`).
-/

namespace TrackerSearch.Decimal

/-- A finite binary64 value split into sign, significand `m` and exponent `q`, so that its
magnitude is `m * 2 ^ q`. `narrowBelow` marks the least significand of a binade above the
subnormals, where the neighbour below is half as far as the neighbour above. -/
structure Binary where
  negative : Bool
  mantissa : Nat
  exponent : Int
  narrowBelow : Bool

/-- The finite value that the bits of a double encode, or `none` for infinities and NaN. -/
def Binary.ofBits (bits : UInt64) : Option Binary :=
  let b := bits.toNat
  let negative := b / Nat.pow 2 63 % 2 == 1
  let biased : Nat := b / Nat.pow 2 52 % Nat.pow 2 11
  let fraction : Nat := b % Nat.pow 2 52
  if biased == 2047 then none
  else if biased == 0 then some ⟨negative, fraction, -1074, false⟩
  else
    some ⟨negative, fraction + Nat.pow 2 52, (biased : Int) - 1075, fraction == 0 && biased > 1⟩

/-- Compares `a * 10 ^ i` with `b * 2 ^ j` exactly. -/
def compareScaled (a : Nat) (i : Int) (b : Nat) (j : Int) : Ordering :=
  compare (a * Nat.pow 10 i.toNat * Nat.pow 2 (-j).toNat)
    (b * Nat.pow 2 j.toNat * Nat.pow 10 (-i).toNat)

/-- Whether `c * 10 ^ k` rounds back to the double `x`: it lies between the midpoints to the
two neighbours of `x`, ends included exactly when the significand is even. -/
def Binary.readsBack (x : Binary) (c : Nat) (k : Int) : Bool :=
  let low := 4 * x.mantissa - (if x.narrowBelow then 1 else 2)
  let high := 4 * x.mantissa + 2
  let lo := compareScaled c k low (x.exponent - 2)
  let hi := compareScaled c k high (x.exponent - 2)
  if x.mantissa % 2 == 0 then lo != .lt && hi != .gt else lo == .gt && hi == .lt

/-- The decimal exponent of the leading digit: the largest `e` with `10 ^ e ≤ m * 2 ^ q`,
for a nonzero significand. The estimate from the binary exponent is off by at most two. -/
def Binary.leadingExponent (x : Binary) : Int :=
  let e2 : Int := x.exponent + (Nat.log2 x.mantissa : Int)
  let est : Int := e2 * 78913 / 262144
  let up (e : Int) : Int := if compareScaled 1 (e + 1) x.mantissa x.exponent != .gt then e + 1 else e
  let down (e : Int) : Int := if compareScaled 1 e x.mantissa x.exponent == .gt then e - 1 else e
  down (down (up (up est)))

/-- Drops trailing zeros of a significand, raising the exponent to match. -/
def stripZeros (d : Nat) (k : Int) : Nat × Int :=
  if h : d ≠ 0 ∧ d % 10 = 0 then
    have : d / 10 < d := Nat.div_lt_self (Nat.pos_of_ne_zero h.1) (by decide)
    stripZeros (d / 10) (k + 1)
  else (d, k)
termination_by d

/-- The decimal with `n` significant digits nearest to the value among those that read back,
if any: the value's two neighbours on the grid of step `10 ^ k` are the only candidates. -/
def Binary.onGrid (x : Binary) (k : Int) : Option Nat :=
  let num := x.mantissa * Nat.pow 2 x.exponent.toNat * Nat.pow 10 (-k).toNat
  let den := Nat.pow 2 (-x.exponent).toNat * Nat.pow 10 k.toNat
  let t := num / den
  let exact := num % den == 0
  let below := x.readsBack t k
  let above := !exact && x.readsBack (t + 1) k
  if below && above then
    match compare (2 * num) ((2 * t + 1) * den) with
    | .lt => some t
    | .gt => some (t + 1)
    | .eq => if t % 2 == 0 then some t else some (t + 1)
  else if below then some t
  else if above then some (t + 1)
  else none

/-- Tries grids of `n`, `n + 1`, … significant digits, at most `fuel` of them. -/
def Binary.scan (x : Binary) (lead : Int) : Nat → Nat → Nat × Int
  | _, 0 => (x.mantissa, x.exponent)
  | n, fuel + 1 =>
    let k := lead - (n : Int) + 1
    match x.onGrid k with
    | some d => stripZeros d k
    | none => x.scan lead (n + 1) fuel

/-- Significand and decimal exponent of the shortest decimal that reads back, for a nonzero
value. Seventeen significant digits always suffice for binary64. -/
def Binary.shortest (x : Binary) : Nat × Int :=
  x.scan x.leadingExponent 1 17

/-- Decimal digits of a natural number as characters. -/
def digitsOf (n : Nat) : List Char :=
  Nat.toDigits 10 n

/-- The layout of a significand `d` with exponent `k` (value `d * 10 ^ k`, `d` without
trailing zeros): positional for a leading exponent from `-5` to `15`, else scientific. -/
def layout (d : Nat) (k : Int) : String :=
  let ds := digitsOf d
  let len : Int := ds.length
  let kk := len + k
  if 0 ≤ k ∧ kk ≤ 16 then
    String.ofList (ds ++ List.replicate k.toNat '0' ++ ['.', '0'])
  else if 0 < kk ∧ kk ≤ 16 then
    String.ofList (ds.take kk.toNat ++ ['.'] ++ ds.drop kk.toNat)
  else if -5 < kk ∧ kk ≤ 0 then
    String.ofList (['0', '.'] ++ List.replicate (-kk).toNat '0' ++ ds)
  else
    let e := kk - 1
    let expText := (if e < 0 then "-" else "+") ++ String.ofList (digitsOf e.natAbs)
    match ds with
    | [c] => String.ofList [c] ++ "e" ++ expText
    | c :: rest => String.ofList (c :: '.' :: rest) ++ "e" ++ expText
    | [] => "0e" ++ expText

/-- Text of a double: the shortest decimal that reads back, in the layout above. Zero is
`0.0` with its sign; infinities and NaN, which a JSON number cannot hold, are `null`. -/
def floatText (f : Float) : String :=
  match Binary.ofBits f.toBits with
  | none => "null"
  | some x =>
    let sign := if x.negative then "-" else ""
    if x.mantissa == 0 then sign ++ "0.0"
    else
      let (d, k) := x.shortest
      sign ++ layout d k

end TrackerSearch.Decimal
