import TrackerSearch.Unicode.CodeSet
import TrackerSearch.Unicode.Casing
import TrackerSearch.Unicode.LowercaseTable
import TrackerSearch.Unicode.CaseFoldTable

/-!
Lowercasing text and the classes of simple case folding.

Lowercasing maps each character by its full lowercase form, with one rule that looks at
the context: a capital sigma becomes the final form `ς` when a cased letter precedes it
and none follows it, case-ignorable characters skipped on both sides; otherwise `σ`.
-/

namespace TrackerSearch.Unicode

/-- Code points joined by dots. -/
def readDotted (s : String) : List Nat :=
  (s.splitOn ".").map CodeSet.hexNat

/-- The lowercase forms, ascending by character. -/
def lowercaseForms : Array (Nat × List Nat) :=
  lowercaseTable.toArray

/-- Binary search in an array ordered by its first components. -/
def findKey {α : Type} (xs : Array (Nat × α)) (k : Nat) (lo hi : Nat) : Option α :=
  if _h : lo < hi then
    let mid := (lo + hi) / 2
    match xs[mid]? with
    | some (key, v) =>
      if k < key then findKey xs k lo mid
      else if key < k then findKey xs k (mid + 1) hi
      else some v
    | none => none
  else none
termination_by hi - lo

/-- The full lowercase form of a character. -/
def lowerForm (c : Char) : List Char :=
  if c.toNat < 128 then [c.toLower]
  else match findKey lowercaseForms c.toNat 0 lowercaseForms.size with
    | some f => f.map Char.ofNat
    | none => [c]

/-- Whether, skipping case-ignorable characters, the next character is cased. -/
def casedAfterIgnorable : List Char → Bool
  | [] => false
  | c :: cs => if caseIgnorable.contains c then casedAfterIgnorable cs else cased.contains c

/-- The capital sigma. -/
def capitalSigma : Char := 'Σ'

/-- Lowercases characters; `before` holds the characters already passed, nearest first. -/
def lowercaseFrom : List Char → List Char → List Char
  | _, [] => []
  | before, c :: rest =>
    let here :=
      if c == capitalSigma then
        if casedAfterIgnorable before && !casedAfterIgnorable rest then ['ς'] else ['σ']
      else lowerForm c
    here ++ lowercaseFrom (c :: before) rest

/-- The lowercase of a text. -/
def lowercase (s : String) : String :=
  String.ofList (lowercaseFrom [] s.toList)

/-- The classes of simple case folding. -/
def foldClasses : Array (List Nat) :=
  ((caseFoldText.splitOn ",").map readDotted).toArray

/-- Each character that has a folding class, with the index of its class, ascending. -/
def foldIndex : Array (Nat × Nat) :=
  let pairs := (List.range foldClasses.size).flatMap fun i =>
    (foldClasses[i]?.getD []).map fun c => (c, i)
  (pairs.mergeSort fun a b => a.1 ≤ b.1).toArray

/-- The characters equal to `c` under simple case folding, `c` included. -/
def foldClass (c : Nat) : List Nat :=
  match findKey foldIndex c 0 foldIndex.size with
  | some i => foldClasses[i]?.getD [c]
  | none => [c]

/-- Whether a character has another character equal to it under simple case folding. -/
def hasFoldClass (c : Nat) : Bool :=
  (findKey foldIndex c 0 foldIndex.size).isSome

/-- A set closed under simple case folding: every class that meets the set is added. -/
def CodeSet.caseFold (s : CodeSet) : CodeSet :=
  let extra := foldIndex.toList.filterMap fun (c, i) =>
    if s.containsCode c then some i else none
  let added := extra.flatMap fun i => (foldClasses[i]?.getD []).map fun c => (c, c)
  CodeSet.ofList (s.toList ++ added)

end TrackerSearch.Unicode
