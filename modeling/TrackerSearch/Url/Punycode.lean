/-!
Punycode, the encoding of a Unicode label in the letters, digits and hyphen of ASCII. The
ASCII characters of the label come first, then a hyphen, then the other code points in
increasing order, each as a difference from the previous one, written as a variable-length
number in base 36 whose digit thresholds adapt to what came before.

Decoding works on 32-bit arithmetic and refuses a label that overflows it, as well as a
digit that is not a letter or decimal digit and a code point that is not a character. The
lengths a domain label may have are limited elsewhere, so that neither direction is slow.
-/

namespace TrackerSearch.Punycode

/-- The bound of 32-bit arithmetic. -/
def wordLimit : Nat := Nat.pow 2 32

/-- The character of a digit: `0`-`25` are `a`-`z`, `26`-`35` are `0`-`9`. -/
def digitChar (d : Nat) : Char :=
  if d < 26 then Char.ofNat (0x61 + d) else Char.ofNat (0x30 + d - 26)

/-- The value of a digit character; letters in either case. -/
def digitValue (c : Char) : Option Nat :=
  let n := c.toNat
  if 0x61 ≤ n && n ≤ 0x7A then some (n - 0x61)
  else if 0x41 ≤ n && n ≤ 0x5A then some (n - 0x41)
  else if 0x30 ≤ n && n ≤ 0x39 then some (n - 0x30 + 26)
  else none

/-- The threshold of the digit at weight position `k`, between 1 and 26. -/
def threshold (k bias : Nat) : Nat :=
  if k ≤ bias then 1 else if bias + 26 ≤ k then 26 else k - bias

theorem threshold_pos (k bias : Nat) : 1 ≤ threshold k bias := by
  unfold threshold
  split
  · omega
  · split <;> omega

theorem threshold_le (k bias : Nat) : threshold k bias ≤ 26 := by
  unfold threshold
  split
  · omega
  · split <;> omega

/-- Divides `delta` by 35 until it is at most 455, counting steps of 36 in `k`. -/
def scaleDown (delta k : Nat) : Nat × Nat :=
  if 455 < delta then scaleDown (delta / 35) (k + 36) else (delta, k)
termination_by delta
decreasing_by exact Nat.div_lt_self (by omega) (by omega)

/-- The new bias after a difference `delta`, with `points` code points now in the label. -/
def adapt (delta points : Nat) (first : Bool) : Nat :=
  let d := if first then delta / 700 else delta / 2
  let (d, k) := scaleDown (d + d / points) 0
  k + 36 * d / (d + 38)

/-! ## Decoding -/

/-- Reads one variable-length number, adding it with weights to `i`; gives the new `i` and
the rest of the input. -/
def readNumber (bias : Nat) : List Char → Nat → Nat → Nat → Option (Nat × List Char)
  | [], _, _, _ => none
  | c :: rest, k, w, i => do
    let d ← digitValue c
    let i := i + d * w
    if i ≥ wordLimit then none
    else
      let t := threshold k bias
      if d < t then some (i, rest)
      else
        let w := w * (36 - t)
        if w ≥ wordLimit then none
        else readNumber bias rest (k + 36) w i

theorem readNumber_shorter : ∀ (bias : Nat) (l : List Char) (k w i : Nat) (r : Nat × List Char),
    readNumber bias l k w i = some r → r.2.length < l.length
  | _, [], _, _, _, _, h => by simp [readNumber] at h
  | bias, c :: rest, k, w, i, r, h => by
    simp only [readNumber, Option.bind_eq_bind] at h
    cases hd : digitValue c with
    | none => simp [hd] at h
    | some d =>
      simp only [hd, Option.bind_some] at h
      split at h
      · simp at h
      · split at h
        · cases h; simp
        · split at h
          · simp at h
          · have := readNumber_shorter bias rest _ _ _ r h
            simp; omega

/-- Inserts the decoded code points one by one into `out`, which holds `length` characters. -/
def insertAll (bias n i : Nat) (out : List Char) : List Char → Option (List Char)
  | [] => some out
  | c :: rest =>
    match h : readNumber bias (c :: rest) 36 1 i with
    | none => none
    | some (i', rem) =>
      let points := out.length + 1
      let n' := n + i' / points
      if n' ≥ wordLimit then none
      else if n' < 0xD800 || (0xDFFF < n' && n' < 0x110000) then
        let pos := i' % points
        insertAll (adapt (i' - i) points (i == 0)) n' (pos + 1) (out.insertIdx pos (Char.ofNat n')) rem
      else none
termination_by l => l.length
decreasing_by
  have := readNumber_shorter bias (c :: rest) 36 1 i (i', rem) h
  simpa using this

/-- The part before the last hyphen and the part after it; no hyphen means no ASCII part. -/
def splitLast (input : List Char) : List Char × List Char :=
  match input.reverse.span (· != '-') with
  | (revTail, []) => ([], revTail.reverse)
  | (revTail, _ :: revHead) => (revHead.reverse, revTail.reverse)

/-- Decodes a label written without its `xn--` prefix. -/
def decode (input : List Char) : Option (List Char) :=
  let (basic, ext) := splitLast input
  if basic.any (fun c => 0x80 ≤ c.toNat) then none
  else insertAll 72 128 0 basic ext

/-! ## Encoding -/

/-- Writes `q` as a variable-length number starting at weight position `k`. -/
def writeNumber (bias k q : Nat) : List Char :=
  let t := threshold k bias
  if q < t then [digitChar q]
  else digitChar (t + (q - t) % (36 - t)) :: writeNumber bias (k + 36) ((q - t) / (36 - t))
termination_by q
decreasing_by
  have _h1 := threshold_pos k bias
  have _h2 := threshold_le k bias
  calc (q - threshold k bias) / (36 - threshold k bias)
      ≤ q - threshold k bias := Nat.div_le_self _ _
    _ < q := by omega

/-- The state of the encoder: output so far, pending difference, bias, and how many code
points are written. -/
structure Encoder where
  out : List Char
  delta : Nat
  bias : Nat
  written : Nat

/-- Passes one input character while writing the code point `m`; `basic` is the number of
ASCII characters. -/
def Encoder.pass (basic m : Nat) (e : Encoder) (c : Char) : Encoder :=
  if c.toNat < m then { e with delta := e.delta + 1 }
  else if c.toNat == m then
    { out := e.out ++ writeNumber e.bias 36 e.delta, delta := 0,
      bias := adapt e.delta (e.written + 1) (e.written == basic), written := e.written + 1 }
  else e

/-- Writes the code points of `todo`, in increasing order, the previous one being `n - 1`. -/
def Encoder.run (input : List Char) (basic : Nat) : List Nat → Nat → Encoder → Encoder
  | [], _, e => e
  | m :: rest, n, e =>
    let e := { e with delta := e.delta + (m - n) * (e.written + 1) }
    let e := input.foldl (Encoder.pass basic m) e
    Encoder.run input basic rest (m + 1) { e with delta := e.delta + 1 }

/-- The distinct values of a list, increasing. -/
def sortedDistinct (xs : List Nat) : List Nat :=
  (xs.mergeSort (· ≤ ·)).eraseDups

/-- Encodes a label, without the `xn--` prefix; a hyphen follows the ASCII part when there
is one. -/
def encode (input : List Char) : List Char :=
  let basic := input.filter (·.toNat < 0x80)
  let others := sortedDistinct ((input.filter (0x80 ≤ ·.toNat)).map Char.toNat)
  let e := Encoder.run input basic.length others 128
    { out := [], delta := 0, bias := 72, written := basic.length }
  basic ++ (if basic.isEmpty then [] else ['-']) ++ e.out

end TrackerSearch.Punycode
