import TrackerSearch.Model.Uuid
import TrackerSearch.Search.Error

/-!
A search string split into its parts, and the query expression built from them. A token
is an identifier filter, a type filter or a word fragment. The expression joins the
identifier fragments, then the word fragments, all with ` & `; the two groups are joined
with ` & ` only when both are non-empty, so empty fragments can leave a bare ` & `.
Pagination accepts a non-negative offset and a positive limit, each optional.
-/

namespace TrackerSearch

/-- One classified token of a search string. -/
inductive SearchToken where
  /-- An `id:` token: a lexeme matched against work item identifiers. -/
  | idFilter (value : String)
  /-- A `type:` token: results are restricted to the type and its descendants. -/
  | typeFilter (typeId : Uuid)
  /-- A plain word or a URL, as an expression fragment. -/
  | wordFragment (fragment : String)
  deriving DecidableEq, Repr

/-- Inserts an identifier into an ascending list without repeating it. -/
def insertSorted (u : Uuid) : List Uuid → List Uuid
  | [] => [u]
  | v :: vs => if u.value < v.value then u :: v :: vs else if u == v then v :: vs else v :: insertSorted u vs

/-- A search string split into filters and text fragments. -/
structure ParsedQuery where
  /-- Type filters, ascending and without repetition. -/
  typeFilters : List Uuid := []
  idFragments : List String := []
  wordFragments : List String := []
  deriving DecidableEq, Repr

namespace ParsedQuery

/-- Adds a token to the part it belongs to. -/
def push (q : ParsedQuery) : SearchToken → ParsedQuery
  | .idFilter v => { q with idFragments := q.idFragments ++ [v] }
  | .typeFilter t => { q with typeFilters := insertSorted t q.typeFilters }
  | .wordFragment f => { q with wordFragments := q.wordFragments ++ [f] }

/-- Whether the search string held no token. -/
def isEmpty (q : ParsedQuery) : Bool :=
  q.typeFilters.isEmpty && q.idFragments.isEmpty && q.wordFragments.isEmpty

end ParsedQuery

/-- The conjunction sign of query expressions, with its blanks. -/
def andSign : String := " & "

/-- The query expression of the identifier and word fragments. -/
def assembleFragments (ids words : List String) : String :=
  let idText := andSign.intercalate ids
  let wordText := andSign.intercalate words
  if !idText.isEmpty && !wordText.isEmpty then idText ++ andSign ++ wordText else idText ++ wordText

/-- The query expression of a parsed search string. -/
def ParsedQuery.assemble (q : ParsedQuery) : String :=
  assembleFragments q.idFragments q.wordFragments

/-- Which rows of a result to return: those after `offset`, at most `limit`. -/
structure Pagination where
  offset : Option Int := none
  limit : Option Int := none
  deriving DecidableEq, Repr

/-- Refuses a negative offset, then a limit that is not positive. -/
def Pagination.validate (p : Pagination) : Except SearchError Unit :=
  match p.offset with
  | some o => if o < 0 then .error (.badParameter "offset" (toString o)) else limitCheck
  | none => limitCheck
where
  limitCheck : Except SearchError Unit :=
    match p.limit with
    | some l => if l ≤ 0 then .error (.badParameter "limit" (toString l)) else .ok ()
    | none => .ok ()

end TrackerSearch
