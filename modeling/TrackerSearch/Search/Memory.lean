import TrackerSearch.Search.Store
import TrackerSearch.Search.TsQuery
import TrackerSearch.Unicode.Alphanumeric

/-!
Work items and types held in memory, for searching without a database.

The words of a row are its identifier in decimal and, for the title and the description when
they are text, each white-space separated word in lowercase together with the runs of letters
and digits it is made of. A row matches when it is in the type scope and the space asked for
and its words satisfy the expression. Matches are ordered by their last update, newest
first, ties keeping their order; the offset and limit are taken as unsigned machine words, so
a negative one wraps around to a very large one. The count of matches is reported only with
a page that is not empty.

A type is found by the first type with its identifier, and a filter type covers the types that
lie below it or are it.
-/

namespace TrackerSearch

/-- Whether a character is a letter or a number. -/
def isAlphanumeric (c : Char) : Bool :=
  Unicode.alphabetic.contains c || Unicode.numeric.contains c

/-- The words a row is found by. -/
def rowWords (row : WorkItemRow) : List String :=
  toString row.id :: [systemTitle, systemDescription].flatMap fun field =>
    match row.fields.lookup field with
    | some (.str text) =>
      (Text.words text).flatMap fun word =>
        let word := Unicode.lowercase word
        Text.splitWhere (!isAlphanumeric ·) word ++ [word]
    | _ => []

/-- A signed count read as an unsigned 64-bit machine word. -/
def wrapWord (i : Int) : Nat :=
  if i ≥ 0 then i.toNat else (Int.pow 2 64 + i).toNat

/-- Work items in memory; a store may be set to fail every search, or to take its time. -/
structure MemoryStore where
  rows : List WorkItemRow
  failure : Option String := none
  delayMs : Option Nat := none

namespace MemoryStore

/-- Whether a row lies in the type scope and the space of a query and its words satisfy the
expression. -/
def selects (q : StoreQuery) (expr : TsQuery) (row : WorkItemRow) : Bool :=
  q.typeScope.all (·.contains row.typeId) && q.spaceId.all (row.spaceId == ·) &&
    expr.holds (rowWords row)

/-- Rows by their last update, newest first; rows updated in the same second keep their order. -/
def newestFirst (rows : List WorkItemRow) : List WorkItemRow :=
  rows.mergeSort fun a b => decide (a.updatedAt.seconds ≥ b.updatedAt.seconds)

/-- The part of a list a page keeps: its offset and limit are read as machine words, and no
limit keeps all but a list longer than the largest word. -/
def window {α : Type} (p : Pagination) (rows : List α) : List α :=
  let offset := wrapWord (p.offset.getD 0)
  let limit := match p.limit with
    | some l => wrapWord l
    | none => Nat.pow 2 64 - 1
  (rows.drop offset).take limit

/-- The page of rows that match a query. -/
def run (s : MemoryStore) (q : StoreQuery) : Except SearchError StorePage := do
  if let some message := s.failure then throw (.internal message)
  let some expr := TsQuery.parse q.expression | throw (.internal "syntax error in tsquery")
  let matched := s.rows.filter (selects q expr)
  let rows := window q.pagination (newestFirst matched)
  return { rows := rows, totalCount := if rows.isEmpty then 0 else matched.length }

/-- The answer to a query, taking the store's delay. -/
def answer (s : MemoryStore) (q : StoreQuery) : StoreAnswer :=
  { result := s.run q, elapsedMs := s.delayMs.getD 0 }

end MemoryStore

/-- Work item types in memory. -/
structure MemoryCatalog where
  types : List WorkItemType

namespace MemoryCatalog

/-- The first type with an identifier. -/
def find? (c : MemoryCatalog) (id : Uuid) : Option WorkItemType :=
  c.types.find? (·.id == id)

/-- The identifiers of the types below the given ones or equal to them, ascending and without
repetition; unknown identifiers contribute nothing. -/
def descendantsOrSelf (c : MemoryCatalog) (ids : List Uuid) : List Uuid :=
  let ancestors := ids.filterMap c.find?
  (c.types.filter fun t => ancestors.any t.isDescendantOrSelf).foldl
    (fun acc t => insertSorted t.id acc) []

/-- Turns a row into a work item with its type. -/
def convert (c : MemoryCatalog) (row : WorkItemRow) : Except SearchError WorkItem :=
  match c.find? row.typeId with
  | none => .error (.internal s!"unknown work item type {row.typeId.hyphenated}")
  | some t => (t.convert row).mapError .conversion

end MemoryCatalog

/-- The in-memory collaborators; the state counts the calls to the store. -/
def memoryBackend (store : MemoryStore) (catalog : MemoryCatalog) : Backend (StateM Nat) where
  search q := do
    modify (· + 1)
    return store.answer q
  descendantsOrSelf ids := return .ok (catalog.descendantsOrSelf ids)
  convert row := return catalog.convert row

end TrackerSearch
