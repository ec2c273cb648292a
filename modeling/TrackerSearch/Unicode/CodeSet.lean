/-!
Sets of code points, kept as ascending inclusive ranges that neither overlap nor touch.
Membership is a binary search; union, intersection, difference and complement work on the
ordered ranges. Property tables are written as text, each range `lo-hi` or a single code
point in hexadecimal, separated by commas.
-/

namespace TrackerSearch.Unicode

/-- The largest code point. -/
def maxCode : Nat := 0x10FFFF

/-- A set of code points as ordered, disjoint, non-adjacent inclusive ranges. -/
structure CodeSet where
  ranges : Array (Nat × Nat)
  deriving Inhabited, DecidableEq

namespace CodeSet

/-- Merges ranges sorted by their start into disjoint, non-adjacent ones. -/
def mergeSorted : List (Nat × Nat) → List (Nat × Nat)
  | [] => []
  | [r] => [r]
  | (a, b) :: (c, d) :: rest =>
    if c ≤ b + 1 then mergeSorted ((a, max b d) :: rest) else (a, b) :: mergeSorted ((c, d) :: rest)
termination_by rs => rs.length

/-- Puts a range before the first range of an ordered list that does not start before it. -/
def insertByStart (r : Nat × Nat) : List (Nat × Nat) → List (Nat × Nat)
  | [] => [r]
  | s :: rest => if r.1 ≤ s.1 then r :: s :: rest else s :: insertByStart r rest

/-- Ranges ordered by their start; ranges with the same start keep their order. -/
def sortByStart (rs : List (Nat × Nat)) : List (Nat × Nat) :=
  rs.foldr insertByStart []

/-- The set of any ranges, in any order. -/
def ofList (rs : List (Nat × Nat)) : CodeSet :=
  ⟨(mergeSorted (sortByStart (rs.filter fun r => r.1 ≤ r.2))).toArray⟩

/-- The empty set. -/
def empty : CodeSet := ⟨#[]⟩

/-- One code point. -/
def single (c : Nat) : CodeSet := ⟨#[(c, c)]⟩

/-- All code points from `lo` to `hi`. -/
def range (lo hi : Nat) : CodeSet := ofList [(lo, hi)]

/-- Every code point. -/
def all : CodeSet := ⟨#[(0, maxCode)]⟩

/-- The ranges of a set. -/
def toList (s : CodeSet) : List (Nat × Nat) := s.ranges.toList

/-- Reads hexadecimal digits. -/
def hexDigits (cs : List Char) : Nat :=
  cs.foldl (fun n c =>
    n * 16 + (if c.isDigit then c.toNat - 48 else if 'a' ≤ c ∧ c ≤ 'f' then c.toNat - 87 else c.toNat - 55)) 0

/-- Reads a hexadecimal number. -/
def hexNat (s : String) : Nat :=
  hexDigits s.toList

/-- Reads one range, `lo-hi` or a single code point. -/
def readRange (cs : List Char) : Nat × Nat :=
  match cs.splitOn '-' with
  | [a, b] => (hexDigits a, hexDigits b)
  | _ => (hexDigits cs, hexDigits cs)

/-- A set written as comma-separated hexadecimal ranges in ascending order. -/
def ofText (text : String) : CodeSet :=
  if text.isEmpty then empty else ofList ((text.toList.splitOn ',').map readRange)

/-- Binary search for `c` among the ranges from `lo` to `hi`. -/
def search (rs : Array (Nat × Nat)) (c : Nat) (lo hi : Nat) : Bool :=
  if _h : lo < hi then
    let mid := (lo + hi) / 2
    match rs[mid]? with
    | some (a, b) =>
      if c < a then search rs c lo mid
      else if b < c then search rs c (mid + 1) hi
      else true
    | none => false
  else false
termination_by hi - lo

/-- Whether the set holds code point `c`. -/
def containsCode (s : CodeSet) (c : Nat) : Bool :=
  search s.ranges c 0 s.ranges.size

/-- Whether the set holds a character. -/
def contains (s : CodeSet) (c : Char) : Bool :=
  s.containsCode c.toNat

/-- Union. -/
def union (s t : CodeSet) : CodeSet :=
  ofList (s.toList ++ t.toList)

/-- The ranges between and around ordered ranges, starting at `next`. -/
def gaps : Nat → List (Nat × Nat) → List (Nat × Nat)
  | next, [] => if next ≤ maxCode then [(next, maxCode)] else []
  | next, (a, b) :: rest => (if next < a then [(next, a - 1)] else []) ++ gaps (b + 1) rest

/-- Complement among all code points. -/
def negate (s : CodeSet) : CodeSet :=
  ⟨(gaps 0 s.toList).toArray⟩

/-- Intersection of ordered ranges. -/
def meet : List (Nat × Nat) → List (Nat × Nat) → List (Nat × Nat)
  | [], _ => []
  | _, [] => []
  | (a, b) :: xs, (c, d) :: ys =>
    let lo := max a c
    let hi := min b d
    let here := if lo ≤ hi then [(lo, hi)] else []
    if b < d then here ++ meet xs ((c, d) :: ys) else here ++ meet ((a, b) :: xs) ys
termination_by xs ys => xs.length + ys.length

/-- Intersection. -/
def intersect (s t : CodeSet) : CodeSet :=
  ofList (meet s.toList t.toList)

/-- The code points of `s` that are not in `t`. -/
def diff (s t : CodeSet) : CodeSet :=
  s.intersect t.negate

/-- The code points in exactly one of the sets. -/
def symmDiff (s t : CodeSet) : CodeSet :=
  (s.diff t).union (t.diff s)

/-- Whether every member is ASCII. -/
def isAscii (s : CodeSet) : Bool :=
  s.ranges.all fun (_, hi) => hi ≤ 127

/-- Whether the set holds no code point. -/
def isEmpty (s : CodeSet) : Bool :=
  s.ranges.isEmpty

end CodeSet

end TrackerSearch.Unicode
