import TrackerSearch.Search.Store
import TrackerSearch.Search.Token

/-!
Full-text search over work items: a search string is tokenized, its space and pagination
checked, its fragments assembled into one expression, its type filters widened to their
subtrees, and the expression run by the store; each returned row is then converted, the first
failure failing the search.

The store is not asked at all when the expression is empty, which includes a search string
with only type filters, nor when the type filters cover no known type. A store that takes
longer than the configured timeout fails the search.
-/

namespace TrackerSearch

/-- Settings of a search. -/
structure SearchConfig where
  /-- Milliseconds a store may take; `none` waits as long as it takes. -/
  queryTimeoutMs : Option Nat := none

/-- A page with nothing on it. -/
def ResultPage.empty : ResultPage := ⟨[], 0⟩

/-- A store's answer as a search takes it: an answer that took longer than the timeout
fails. -/
def SearchConfig.accept (config : SearchConfig) (answer : StoreAnswer) :
    Except SearchError StorePage :=
  match config.queryTimeoutMs with
  | some limit =>
    if answer.elapsedMs > limit then .error (.internal s!"search query exceeded {limit} ms")
    else answer.result
  | none => answer.result

/-- Converts rows in order; the first failure fails them all. -/
def convertRows {m : Type → Type} [Monad m] (b : Backend m) :
    List WorkItemRow → ExceptT SearchError m (List WorkItem)
  | [] => return []
  | row :: rest => do
    let item ← ExceptT.mk (b.convert row)
    return item :: (← convertRows b rest)

/-- The types a search is restricted to: `none`, for every type, without type filters; else
the filter types and the types below them. -/
def resolveScope {m : Type → Type} [Monad m] (b : Backend m) (typeFilters : List Uuid) :
    ExceptT SearchError m (Option (List Uuid)) :=
  if typeFilters.isEmpty then pure none
  else do
    let ids ← ExceptT.mk (b.descendantsOrSelf typeFilters)
    pure (some ids)

/-- Runs a tokenized search. -/
def searchParsed {m : Type → Type} [Monad m] (b : Backend m) (config : SearchConfig)
    (parsed : ParsedQuery) (pagination : Pagination) (spaceId : Option Uuid) :
    ExceptT SearchError m ResultPage := do
  ExceptT.mk (pure pagination.validate)
  let expression := parsed.assemble
  if expression.isEmpty then return .empty
  let scope ← resolveScope b parsed.typeFilters
  if scope == some [] then return .empty
  let answer ← ExceptT.lift (b.search
    { expression := expression, typeScope := scope, spaceId := spaceId, pagination := pagination })
  let page ← ExceptT.mk (pure (config.accept answer))
  let items ← convertRows b page.rows
  return { items := items, totalCount := page.totalCount }

/-- The space a search is restricted to; a text that is no identifier is a bad parameter. -/
def parseSpaceId : Option String → Except SearchError (Option Uuid)
  | some text =>
    match Uuid.parse? text with
    | some u => .ok (some u)
    | none => .error (.badParameter "space_id" text)
  | none => .ok none

/-- Runs a search string, with an optional offset, limit and space. -/
def searchFullText {m : Type → Type} [Monad m] (b : Backend m) (config : SearchConfig)
    (registry : Registry) (raw : String) (offset limit : Option Int) (space : Option String) :
    m (Except SearchError ResultPage) := ExceptT.run do
  let parsed ← ExceptT.mk (pure (Token.tokenize registry raw))
  let spaceId ← ExceptT.mk (pure (parseSpaceId space))
  searchParsed b config parsed { offset := offset, limit := limit } spaceId

end TrackerSearch
