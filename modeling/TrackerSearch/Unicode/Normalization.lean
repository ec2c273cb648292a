import TrackerSearch.Unicode.NormalizationTable
import TrackerSearch.Unicode.Case
import Std.Data.HashMap

/-!
The canonical composed form of text (NFC). Every character is decomposed as far as its
canonical decompositions go, a Hangul syllable into its letters by arithmetic. Each run of
combining marks is put in order of combining class, marks of one class keeping their order.
Then each character joins the nearest starter before it when the two compose and nothing
between them blocks it: a mark of the same or a higher class, or a starter. Two starters
join only when they are neighbours, as Hangul letters do.
-/

namespace TrackerSearch.Unicode

/-- The one-step canonical decompositions, ascending by character. -/
def decompositions : Array (Nat × List Nat) :=
  ((decompositionText.splitOn ",").map fun e =>
    match e.splitOn ":" with
    | [c, parts] => (CodeSet.hexNat c, readDotted parts)
    | _ => (0, [])).toArray

/-- The combining classes other than 0, as runs of one class, ascending. -/
def combiningClassRuns : Array (Nat × Nat × Nat) :=
  ((combiningClassText.splitOn ",").map fun e =>
    match e.splitOn ":" with
    | [r, k] =>
      let (lo, hi) := CodeSet.readRange r.toList
      (lo, hi, k.toNat?.getD 0)
    | _ => (0, 0, 0)).toArray

/-- Binary search for the class of the run holding `c`. -/
def findClass (runs : Array (Nat × Nat × Nat)) (c : Nat) (lo hi : Nat) : Nat :=
  if _h : lo < hi then
    let mid := (lo + hi) / 2
    match runs[mid]? with
    | some (a, b, k) =>
      if c < a then findClass runs c lo mid
      else if b < c then findClass runs c (mid + 1) hi
      else k
    | none => 0
  else 0
termination_by hi - lo

/-- The canonical combining class of a code point; 0 for a starter. -/
def combiningClass (c : Nat) : Nat :=
  findClass combiningClassRuns c 0 combiningClassRuns.size

/-- The first Hangul syllable. -/
def hangulBase : Nat := 0xAC00

/-- The first leading Hangul letter. -/
def leadBase : Nat := 0x1100

/-- The first Hangul vowel letter. -/
def vowelBase : Nat := 0x1161

/-- The code point before the first trailing Hangul letter. -/
def trailBase : Nat := 0x11A7

/-- Whether a code point is a precomposed Hangul syllable. -/
def isHangulSyllable (c : Nat) : Bool :=
  hangulBase ≤ c && c < hangulBase + 11172

/-- A code point decomposed as far as canonical decompositions go. Decompositions nest at
most four deep, so `fuel` 8 is enough. -/
def decomposeCode : Nat → Nat → List Nat
  | 0, c => [c]
  | fuel + 1, c =>
    if isHangulSyllable c then
      let s := c - hangulBase
      let t := s % 28
      [leadBase + s / 588, vowelBase + s % 588 / 28] ++ (if t == 0 then [] else [trailBase + t])
    else match findKey decompositions c 0 decompositions.size with
      | some parts => parts.flatMap (decomposeCode fuel)
      | none => [c]

/-- Puts each run of marks in order of combining class; `run` holds the marks passed since
the last starter, nearest first. -/
def orderMarks : List Nat → List Nat → List Nat
  | [], run => run.reverse.mergeSort fun a b => combiningClass a ≤ combiningClass b
  | c :: rest, run =>
    if combiningClass c == 0 then
      (run.reverse.mergeSort fun a b => combiningClass a ≤ combiningClass b) ++ c :: orderMarks rest []
    else orderMarks rest (c :: run)

/-- The characters that two characters compose into, keyed by the two; excluded
compositions left out. -/
def compositions : Std.HashMap (Nat × Nat) Nat :=
  decompositions.foldl (fun m (c, parts) =>
    match parts with
    | [a, b] => if compositionExcluded.containsCode c then m else m.insert (a, b) c
    | _ => m) {}

/-- The character two characters compose into, Hangul letters by arithmetic. -/
def composePair (a b : Nat) : Option Nat :=
  if leadBase ≤ a && a < leadBase + 19 && vowelBase ≤ b && b < vowelBase + 21 then
    some (hangulBase + ((a - leadBase) * 21 + (b - vowelBase)) * 28)
  else if isHangulSyllable a && (a - hangulBase) % 28 == 0 && trailBase < b && b < trailBase + 28 then
    some (a + (b - trailBase))
  else compositions.get? (a, b)

/-- The state of composing: the characters kept, the place of the last starter among them,
and the class of the last character kept, 256 while no starter has come. -/
structure Composing where
  kept : Array Nat
  starter : Nat
  lastClass : Nat

/-- Composes the next character into the last starter, or keeps it. -/
def Composing.step (st : Composing) (c : Nat) : Composing :=
  let k := combiningClass c
  let joined := if st.lastClass < k || st.lastClass == 0 then
      composePair (st.kept[st.starter]?.getD 0) c
    else none
  match joined with
  | some j => { st with kept := st.kept.modify st.starter fun _ => j }
  | none =>
    if k == 0 then { kept := st.kept.push c, starter := st.kept.size, lastClass := 0 }
    else { st with kept := st.kept.push c, lastClass := k }

/-- Composes decomposed text in canonical order. -/
def composeCodes : List Nat → List Nat
  | [] => []
  | c :: rest =>
    let first : Composing :=
      { kept := #[c], starter := 0, lastClass := if combiningClass c == 0 then 0 else 256 }
    (rest.foldl Composing.step first).kept.toList

/-- The canonical composed form of some characters. -/
def nfc (cs : List Char) : List Char :=
  (composeCodes (orderMarks (cs.flatMap fun c => decomposeCode 8 c.toNat) [])).map Char.ofNat

end TrackerSearch.Unicode
