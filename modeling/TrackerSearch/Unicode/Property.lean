import TrackerSearch.Unicode.CodeSet
import TrackerSearch.Unicode.GeneralCategory
import TrackerSearch.Unicode.Script
import TrackerSearch.Unicode.ScriptExtension
import TrackerSearch.Unicode.BinaryProperty
import TrackerSearch.Unicode.Digit
import TrackerSearch.Unicode.WhiteSpace
import TrackerSearch.Unicode.Age
import TrackerSearch.Unicode.Segment

/-!
Finding the code points of a property named in a pattern, as in `\pL`, `\p{Greek}`,
`\p{Alphabetic}` or `\p{sc=Greek}`. Names are compared loosely: case is ignored, blanks,
`_` and `-` are dropped, and so is a leading `is`.

A bare name that names a property must name a binary one; otherwise it is tried as a
general category, then as a script. `cf`, `sc` and `lc` are never taken for property names
there. `Any`, `ASCII` and `Assigned` count as general categories. A `name=value` pair may
name the general category, the script or its extensions, the age, or the grapheme cluster,
word or sentence break class; other known properties have no values to offer.
-/

namespace TrackerSearch.Unicode

/-- Why a property has no code points to give. -/
inductive PropertyError where
  | notFound
  | valueNotFound
  deriving DecidableEq, Repr

/-- The loose form of a property name or value. -/
def looseName (s : String) : String :=
  let cs := s.toList
  let startsIs := match cs with
    | a :: b :: _ => (a == 'i' || a == 'I') && (b == 's' || b == 'S')
    | _ => false
  let body := if startsIs then cs.drop 2 else cs
  let kept := body.filterMap fun c =>
    if c == ' ' || c == '_' || c == '-' then none
    else if 'A' ≤ c && c ≤ 'Z' then some c.toLower
    else if c.toNat ≤ 0x7F then some c
    else none
  if startsIs && kept == ['c'] then "isc" else String.ofList kept

/-- The entry of a table whose names include `name` in loose form. -/
def findNamed (table : List (List String × String)) (name : String) : Option String :=
  (table.find? fun (names, _) => names.any fun n => looseName n == name).map (·.2)

/-- The names of the properties that are not binary, and of the binary ones that have no
table, under all their names. -/
def otherPropertyNames : List String :=
  ["cjkAccountingNumeric", "kAccountingNumeric", "cjkOtherNumeric", "kOtherNumeric",
   "cjkPrimaryNumeric", "kPrimaryNumeric", "nv", "Numeric_Value", "bmg", "Bidi_Mirroring_Glyph",
   "bpb", "Bidi_Paired_Bracket", "cf", "Case_Folding", "cjkCompatibilityVariant",
   "kCompatibilityVariant", "dm", "Decomposition_Mapping", "EqUIdeo",
   "Equivalent_Unified_Ideograph", "FC_NFKC", "FC_NFKC_Closure", "lc", "Lowercase_Mapping",
   "NFKC_CF", "NFKC_Casefold", "NFKC_SCF", "NFKC_Simple_Casefold", "scf", "Simple_Case_Folding",
   "sfc", "slc", "Simple_Lowercase_Mapping", "stc", "Simple_Titlecase_Mapping", "suc",
   "Simple_Uppercase_Mapping", "tc", "Titlecase_Mapping", "uc", "Uppercase_Mapping", "cjkIICore",
   "kIICore", "cjkIRG_GSource", "kIRG_GSource", "cjkIRG_HSource", "kIRG_HSource", "cjkIRG_JSource",
   "kIRG_JSource", "cjkIRG_KPSource", "kIRG_KPSource", "cjkIRG_KSource", "kIRG_KSource",
   "cjkIRG_MSource", "kIRG_MSource", "cjkIRG_SSource", "kIRG_SSource", "cjkIRG_TSource",
   "kIRG_TSource", "cjkIRG_UKSource", "kIRG_UKSource", "cjkIRG_USource", "kIRG_USource",
   "cjkIRG_VSource", "kIRG_VSource", "cjkRSUnicode", "kRSUnicode", "Unicode_Radical_Stroke", "URS",
   "isc", "ISO_Comment", "JSN", "Jamo_Short_Name", "kEH_Cat", "kEH_Desc", "kEH_HG", "kEH_IFAO",
   "kEH_JSesh", "na", "Name", "na1", "Unicode_1_Name", "Name_Alias", "scx", "Script_Extensions",
   "age", "Age", "blk", "Block", "sc", "Script", "bc", "Bidi_Class", "bpt",
   "Bidi_Paired_Bracket_Type", "ccc", "Canonical_Combining_Class", "dt", "Decomposition_Type",
   "ea", "East_Asian_Width", "gc", "General_Category", "GCB", "Grapheme_Cluster_Break", "hst",
   "Hangul_Syllable_Type", "InCB", "Indic_Conjunct_Break", "InPC", "Indic_Positional_Category",
   "InSC", "Indic_Syllabic_Category", "jg", "Joining_Group", "jt", "Joining_Type", "lb",
   "Line_Break", "NFC_QC", "NFC_Quick_Check", "NFD_QC", "NFD_Quick_Check", "NFKC_QC",
   "NFKC_Quick_Check", "NFKD_QC", "NFKD_Quick_Check", "nt", "Numeric_Type", "SB", "Sentence_Break",
   "vo", "Vertical_Orientation", "WB", "Word_Break", "CE", "Composition_Exclusion", "Comp_Ex",
   "Full_Composition_Exclusion", "CWKCF", "Changes_When_NFKC_Casefolded", "XO_NFC",
   "Expands_On_NFC", "XO_NFD", "Expands_On_NFD", "XO_NFKC", "Expands_On_NFKC", "XO_NFKD",
   "Expands_On_NFKD"]

/-- Whether a loose name names a property. -/
def isPropertyName (name : String) : Bool :=
  otherPropertyNames.any (fun n => looseName n == name)
    || binaryProperties.any fun (names, _) => names.any fun n => looseName n == name

/-- Scripts that have names but no code points of their own. -/
def emptyScripts : List (List String) :=
  [["Hrkt", "Katakana_Or_Hiragana"]]

/-- The code points of a general category, by loose name. -/
def generalCategory? (name : String) : Option CodeSet :=
  if name == "any" then some CodeSet.all
  else if name == "ascii" then some (CodeSet.range 0 0x7F)
  else if name == "assigned" then (findNamed generalCategories "cn").map fun t => (CodeSet.ofText t).negate
  else (findNamed generalCategories name).map CodeSet.ofText

/-- Whether a loose name names a script, with code points or without. -/
def isScriptName (name : String) : Bool :=
  (findNamed scripts name).isSome || emptyScripts.any fun names => names.any fun n => looseName n == name

/-- The code points of a script named by a loose name: none for a script without code points,
and an error for a name that is no script. -/
def script? (name : String) : Option (Except PropertyError CodeSet) :=
  match findNamed scripts name with
  | some t => some (.ok (CodeSet.ofText t))
  | none => if isScriptName name then some (.error .valueNotFound) else none

/-- The code points of a binary property, by loose name. -/
def binaryProperty? (name : String) : Option CodeSet :=
  (findNamed binaryProperties name).map CodeSet.ofText

/-- The code points assigned in the version named by a loose value or in an earlier one. -/
def assignedBy? (version : String) : Option CodeSet :=
  match ages.findIdx? (fun (names, _) => names.any fun n => looseName n == version) with
  | some i => some ((ages.take (i + 1)).foldl (fun acc (_, t) => acc.union (CodeSet.ofText t)) CodeSet.empty)
  | none => none

/-- The code points a bare name in `\p{…}` or `\pX` denotes. -/
def namedClass (name : String) : Except PropertyError CodeSet :=
  let n := looseName name
  if n != "cf" && n != "sc" && n != "lc" && isPropertyName n then
    match binaryProperty? n with
    | some s => .ok s
    | none => .error .notFound
  else
    match generalCategory? n with
    | some s => .ok s
    | none =>
      match script? n with
      | some r => r
      | none => .error .notFound

/-- The code points of a value of a property that has a table per value. -/
def valueOf (table : List (List String × String)) (value : String) : Except PropertyError CodeSet :=
  match findNamed table value with
  | some t => .ok (CodeSet.ofText t)
  | none => .error .valueNotFound

/-- The code points a `name=value` pair denotes. -/
def valuedClass (name value : String) : Except PropertyError CodeSet :=
  let n := looseName name
  let v := looseName value
  let isName (names : List String) : Bool := names.any fun x => looseName x == n
  if !isPropertyName n then .error .notFound
  else if isName ["gc", "General_Category"] then
    match generalCategory? v with
    | some s => .ok s
    | none => .error .valueNotFound
  else if isName ["sc", "Script"] then
    match script? v with
    | some r => r
    | none => .error .valueNotFound
  else if isName ["scx", "Script_Extensions"] then
    if isScriptName v then valueOf scriptExtensions v else .error .valueNotFound
  else if isName ["age", "Age"] then
    match assignedBy? v with
    | some s => .ok s
    | none => .error .valueNotFound
  else if isName ["GCB", "Grapheme_Cluster_Break"] then valueOf graphemeClusterBreaks v
  else if isName ["WB", "Word_Break"] then valueOf wordBreaks v
  else if isName ["SB", "Sentence_Break"] then valueOf sentenceBreaks v
  else .error .valueNotFound

end TrackerSearch.Unicode
