import TrackerSearch.Unicode.IdnaTable
import TrackerSearch.Unicode.Case
import TrackerSearch.Unicode.GeneralCategory
import TrackerSearch.Unicode.Bidi
import TrackerSearch.Unicode.Joining

/-!
The character data that domain names are checked against: the mapping status of each code
point, the marks that may not begin a label, the bidirectional classes and the joining types.
-/

namespace TrackerSearch.Unicode

/-- What becomes of a code point in a domain name. -/
inductive IdnaStatus where
  | valid
  | mapped (target : List Char)
  | ignored
  | disallowed
  deriving Inhabited

/-- Reads one entry of the mapping text. -/
def readIdnaEntry (e : String) : Nat × IdnaStatus :=
  match e.splitOn ":" with
  | [s, "V"] => (CodeSet.hexNat s, .valid)
  | [s, "I"] => (CodeSet.hexNat s, .ignored)
  | [s, "M", target] => (CodeSet.hexNat s, .mapped ((readDotted target).map Char.ofNat))
  | [s, _] => (CodeSet.hexNat s, .disallowed)
  | _ => (0, .disallowed)

/-- The mapping entries, ascending by their first code point. -/
def idnaEntries : Array (Nat × IdnaStatus) :=
  ((idnaMappingText.splitOn ",").map readIdnaEntry).toArray

/-- The value of the last entry whose key is at most `k`, searching below `hi`; `best` is the
value found so far. -/
def findFloor {α : Type} (xs : Array (Nat × α)) (k : Nat) (lo hi : Nat) (best : Option α) : Option α :=
  if _h : lo < hi then
    let mid := (lo + hi) / 2
    match xs[mid]? with
    | some (key, v) =>
      if k < key then findFloor xs k lo mid best
      else findFloor xs k (mid + 1) hi (some v)
    | none => best
  else best
termination_by hi - lo

/-- The mapping status of a character. -/
def idnaStatus (c : Char) : IdnaStatus :=
  (findFloor idnaEntries c.toNat 0 idnaEntries.size none).getD .disallowed

/-- The code points of the table entry with a given name. -/
def namedSet (table : List (List String × String)) (name : String) : CodeSet :=
  match table.find? (fun (names, _) => names.contains name) with
  | some (_, text) => CodeSet.ofText text
  | none => CodeSet.empty

/-- Marks, general category M: they may not begin a label. -/
def markChars : CodeSet := namedSet generalCategories "M"

/-- The bidirectional classes a domain name is checked by. -/
inductive BidiClass where
  | l | r | al | an | en | es | cs | et | on | bn | nsm
  /-- Any class not listed above. -/
  | other
  deriving DecidableEq, Repr

/-- The code points of each listed bidirectional class. -/
def bidiSets : List (BidiClass × CodeSet) :=
  [(.l, "L"), (.r, "R"), (.al, "AL"), (.an, "AN"), (.en, "EN"), (.es, "ES"), (.cs, "CS"),
   (.et, "ET"), (.on, "ON"), (.bn, "BN"), (.nsm, "NSM")].map fun (k, n) => (k, namedSet bidiClasses n)

/-- The bidirectional class of a character. -/
def bidiClass (c : Char) : BidiClass :=
  match bidiSets.find? (fun (_, s) => s.contains c) with
  | some (k, _) => k
  | none => .other

/-- Joining types. -/
inductive JoiningType where
  | dual | left | right | transparent | other
  deriving DecidableEq, Repr

/-- The code points of each joining type. -/
def joiningSets : List (JoiningType × CodeSet) :=
  [(.dual, "D"), (.left, "L"), (.right, "R"), (.transparent, "T")].map
    fun (k, n) => (k, namedSet joiningTypes n)

/-- The viramas: canonical combining class 9. -/
def viramas : CodeSet := namedSet joiningTypes "V"

/-- Whether a character is a virama. -/
def isVirama (c : Char) : Bool := viramas.contains c

/-- The joining type of a character. -/
def joiningType (c : Char) : JoiningType :=
  match joiningSets.find? (fun (_, s) => s.contains c) with
  | some (k, _) => k
  | none => .other

end TrackerSearch.Unicode
