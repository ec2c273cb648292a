import TrackerSearch.Search.Service
import TrackerSearch.Search.Memory
import Mathlib.Control.Traversable.Basic

/-!
# Searching a store held in memory

Over the in-memory store and type catalog the search service is a pure function of its
arguments: the monad only counts the calls made to the store. `searchInMemory` and
`searchTextInMemory` are that function, and `searchParsed_memory` and `searchFullText_memory`
say that the service computes it and calls the store exactly once when it says so.

The store's own answer is given by `MemoryStore.run_of_parse`: the rows that match, newest
first, cut to the window of the page. `searchInMemory_of_valid` puts the two together for a
store that does not fail and a search with no timeout: a valid page request answers the
window of the sorted matches, or fails when the expression is malformed.
-/

namespace TrackerSearch

section Run

variable {ε σ α β : Type} {x : ExceptT ε (StateM σ) α} {k : α → ExceptT ε (StateM σ) β}
  {n n' : σ}

theorem run_bind_of_ok {a : α} (h : x.run.run n = (.ok a, n')) :
    (x >>= k).run.run n = (k a).run.run n' := by
  simp [ExceptT.run_bind, StateT.run_bind, h]
  rfl

theorem run_bind_of_error {e : ε} (h : x.run.run n = (.error e, n')) :
    (x >>= k).run.run n = (.error e, n') := by
  simp [ExceptT.run_bind, StateT.run_bind, h]
  rfl

theorem run_mk_pure (r : Except ε α) :
    (ExceptT.mk (pure r) : ExceptT ε (StateM σ) α).run.run n = (r, n) :=
  rfl

end Run

namespace MemoryCatalog

/-- The type scope a search resolves its type filters to: every type when there are none,
otherwise the filter types and the types below them. -/
def typeScope (c : MemoryCatalog) (typeFilters : List Uuid) : Option (List Uuid) :=
  if typeFilters.isEmpty then none else some (c.descendantsOrSelf typeFilters)

/-- The result page made of a store's page, its rows converted to work items. -/
def pageOf (c : MemoryCatalog) (accepted : Except SearchError StorePage) :
    Except SearchError ResultPage := do
  let page ← accepted
  let items ← page.rows.mapM c.convert
  return ⟨items, page.totalCount⟩

theorem pageOf_ok (c : MemoryCatalog) (page : StorePage) :
    c.pageOf (.ok page) = (page.rows.mapM c.convert).map (⟨·, page.totalCount⟩) :=
  rfl

/-- A type the catalog finds is one of its types, with the identifier asked for. -/
theorem find?_eq_some {c : MemoryCatalog} {u : Uuid} {T : WorkItemType}
    (h : c.find? u = some T) : T ∈ c.types ∧ T.id = u :=
  ⟨List.mem_of_find?_eq_some h, by simpa using List.find?_some h⟩

/-- A catalog whose types do not share an identifier finds each of its types by its
identifier. -/
theorem find?_of_mem {c : MemoryCatalog}
    (hd : ∀ T ∈ c.types, ∀ T' ∈ c.types, T.id = T'.id → T = T') {T : WorkItemType}
    (hT : T ∈ c.types) : c.find? T.id = some T := by
  cases hfind : c.find? T.id with
  | none => exact absurd (List.find?_eq_none.1 hfind T hT) (by simp)
  | some T' =>
    obtain ⟨hT', hid⟩ := find?_eq_some hfind
    rw [hd T' hT' T hT hid]

end MemoryCatalog

/-- A tokenized search over a store and a catalog in memory, with whether it calls the
store. -/
def searchInMemory (s : MemoryStore) (c : MemoryCatalog) (config : SearchConfig)
    (parsed : ParsedQuery) (pagination : Pagination) (spaceId : Option Uuid) :
    Except SearchError ResultPage × Bool :=
  match pagination.validate with
  | .error e => (.error e, false)
  | .ok () =>
    if parsed.assemble.isEmpty then (.ok .empty, false)
    else if c.typeScope parsed.typeFilters == some [] then (.ok .empty, false)
    else
      let q : StoreQuery :=
        { expression := parsed.assemble, typeScope := c.typeScope parsed.typeFilters,
          spaceId := spaceId, pagination := pagination }
      (c.pageOf (config.accept (s.answer q)), true)

/-- A search string run over a store and a catalog in memory, with whether it calls the
store. -/
def searchTextInMemory (s : MemoryStore) (c : MemoryCatalog) (config : SearchConfig)
    (registry : Registry) (raw : String) (offset limit : Option Int) (space : Option String) :
    Except SearchError ResultPage × Bool :=
  match Token.tokenize registry raw with
  | .error e => (.error e, false)
  | .ok parsed =>
    match parseSpaceId space with
    | .error e => (.error e, false)
    | .ok spaceId => searchInMemory s c config parsed { offset := offset, limit := limit } spaceId

section Backend

variable (s : MemoryStore) (c : MemoryCatalog) (n : Nat)

theorem memoryBackend_convert (row : WorkItemRow) :
    (memoryBackend s c).convert row = pure (c.convert row) :=
  rfl

theorem search_memory (q : StoreQuery) :
    (ExceptT.lift ((memoryBackend s c).search q) : ExceptT SearchError (StateM Nat) _).run.run n =
      (.ok (s.answer q), n + 1) :=
  rfl

theorem convertRows_memory (rows : List WorkItemRow) :
    (convertRows (memoryBackend s c) rows).run.run n = (rows.mapM c.convert, n) := by
  induction rows with
  | nil => rfl
  | cons row rest ih =>
    cases hr : c.convert row with
    | error e =>
      simp only [convertRows, memoryBackend_convert, List.mapM_cons, hr]
      rfl
    | ok w =>
      simp only [convertRows, memoryBackend_convert, List.mapM_cons, hr]
      simp [ExceptT.run_bind, ExceptT.run_mk, ih]
      rfl

theorem resolveScope_memory (typeFilters : List Uuid) :
    (resolveScope (memoryBackend s c) typeFilters).run.run n =
      (.ok (c.typeScope typeFilters), n) := by
  unfold resolveScope MemoryCatalog.typeScope
  split <;> rfl

/-- Over the in-memory backend a tokenized search computes `searchInMemory`, and counts one
call exactly when that calls the store. -/
theorem searchParsed_memory (config : SearchConfig) (parsed : ParsedQuery)
    (pagination : Pagination) (spaceId : Option Uuid) :
    (searchParsed (memoryBackend s c) config parsed pagination spaceId).run.run n =
      ((searchInMemory s c config parsed pagination spaceId).1,
        if (searchInMemory s c config parsed pagination spaceId).2 then n + 1 else n) := by
  unfold searchParsed searchInMemory
  cases hv : pagination.validate with
  | error e => exact run_bind_of_error (run_mk_pure _)
  | ok u =>
    rw [run_bind_of_ok (run_mk_pure _)]
    by_cases he : parsed.assemble.isEmpty
    · simp only [he, if_true]
      rfl
    · simp only [he, Bool.false_eq_true, ↓reduceIte]
      rw [run_bind_of_ok (resolveScope_memory s c n _)]
      by_cases hs : c.typeScope parsed.typeFilters == some []
      · simp only [hs, if_true]
        rfl
      · simp only [hs, Bool.false_eq_true, ↓reduceIte]
        rw [run_bind_of_ok (search_memory s c _ _)]
        cases ha : config.accept (s.answer
            { expression := parsed.assemble, typeScope := c.typeScope parsed.typeFilters,
              spaceId := spaceId, pagination := pagination }) with
        | error e =>
          rw [run_bind_of_error (by rw [run_mk_pure])]
          rfl
        | ok page =>
          rw [run_bind_of_ok (by rw [run_mk_pure])]
          cases hc : page.rows.mapM c.convert with
          | error e =>
            rw [run_bind_of_error (by rw [convertRows_memory, hc]), MemoryCatalog.pageOf_ok, hc]
            rfl
          | ok items =>
            rw [run_bind_of_ok (by rw [convertRows_memory, hc]), MemoryCatalog.pageOf_ok, hc]
            rfl

/-- Over the in-memory backend a search string computes `searchTextInMemory`, and counts one
call exactly when that calls the store. -/
theorem searchFullText_memory (config : SearchConfig) (registry : Registry) (raw : String)
    (offset limit : Option Int) (space : Option String) :
    (searchFullText (memoryBackend s c) config registry raw offset limit space).run n =
      ((searchTextInMemory s c config registry raw offset limit space).1,
        if (searchTextInMemory s c config registry raw offset limit space).2 then n + 1
        else n) := by
  unfold searchFullText searchTextInMemory
  cases ht : Token.tokenize registry raw with
  | error e => exact run_bind_of_error (run_mk_pure _)
  | ok parsed =>
    rw [run_bind_of_ok (run_mk_pure _)]
    cases hs : parseSpaceId space with
    | error e => exact run_bind_of_error (run_mk_pure _)
    | ok spaceId =>
      rw [run_bind_of_ok (run_mk_pure _)]
      exact searchParsed_memory s c n config parsed _ spaceId

theorem searchFullText_memory_run' (config : SearchConfig) (registry : Registry) (raw : String)
    (offset limit : Option Int) (space : Option String) :
    (searchFullText (memoryBackend s c) config registry raw offset limit space).run' n =
      (searchTextInMemory s c config registry raw offset limit space).1 := by
  rw [StateT.run'_eq, searchFullText_memory]
  generalize searchTextInMemory s c config registry raw offset limit space = r
  rfl

end Backend

namespace MemoryStore

/-- The page a store gives for the rows that match a query: the window of them newest first,
and the count of them when that window is not empty. -/
def pageOfMatches (p : Pagination) (matched : List WorkItemRow) : StorePage :=
  { rows := window p (newestFirst matched),
    totalCount := if (window p (newestFirst matched)).isEmpty then 0 else matched.length }

theorem pageOfMatches_nil (p : Pagination) : pageOfMatches p [] = ⟨[], 0⟩ := by
  simp [pageOfMatches, newestFirst, window]

/-- A store that does not fail answers a well-formed expression with the page of the rows it
selects. -/
theorem run_of_parse {s : MemoryStore} {q : StoreQuery} {expr : TsQuery} (hf : s.failure = none)
    (hp : TsQuery.parse q.expression = some expr) :
    s.run q = .ok (pageOfMatches q.pagination (s.rows.filter (selects q expr))) := by
  unfold run
  rw [hf, hp]
  rfl

theorem run_of_parse_eq_none {s : MemoryStore} {q : StoreQuery} (hf : s.failure = none)
    (hp : TsQuery.parse q.expression = none) :
    s.run q = .error (.internal "syntax error in tsquery") := by
  unfold run
  rw [hf, hp]
  rfl

end MemoryStore

theorem SearchConfig.accept_of_no_timeout {config : SearchConfig}
    (ht : config.queryTimeoutMs = none) (answer : StoreAnswer) :
    config.accept answer = answer.result := by
  unfold SearchConfig.accept
  rw [ht]

/-- Whether a row answers a search: it lies in the type scope and in the space, each when one
is given, and its words satisfy the expression, when there is one. -/
def answers (scope : Option (List Uuid)) (spaceId : Option Uuid) (expr : Option TsQuery)
    (row : WorkItemRow) : Bool :=
  scope.all (row.typeId ∈ ·) && spaceId.all (row.spaceId = ·) &&
    expr.any (·.holds (rowWords row))

theorem selects_eq_answers (q : StoreQuery) (expr : TsQuery) :
    MemoryStore.selects q expr = answers q.typeScope q.spaceId (some expr) := by
  funext row
  simp [MemoryStore.selects, answers]
  rfl

theorem answers_of_no_expr (scope : Option (List Uuid)) (spaceId : Option Uuid) :
    answers scope spaceId none = fun _ => false := by
  funext row
  simp [answers]

theorem answers_of_empty_scope (spaceId : Option Uuid) (expr : Option TsQuery) :
    answers (some []) spaceId expr = fun _ => false := by
  funext row
  simp [answers]

/-- Whether a tokenized search over a catalog gets an answer once its page is valid: its
expression is empty, its type scope is empty, or its expression is well-formed. -/
def MemoryCatalog.answerable (c : MemoryCatalog) (parsed : ParsedQuery) : Bool :=
  parsed.assemble.isEmpty || c.typeScope parsed.typeFilters == some [] ||
    (TsQuery.parse parsed.assemble).isSome

/-- The rows of a store that answer a tokenized search. -/
def MemoryCatalog.matchesOf (c : MemoryCatalog) (rows : List WorkItemRow) (parsed : ParsedQuery)
    (spaceId : Option Uuid) : List WorkItemRow :=
  rows.filter (answers (c.typeScope parsed.typeFilters) spaceId (TsQuery.parse parsed.assemble))

/-- A valid page request over a store that does not fail, with no timeout, answers the
window of the rows that match, newest first; it fails only when the store is asked and the
expression is malformed. -/
theorem searchInMemory_of_valid {s : MemoryStore} (hf : s.failure = none) (c : MemoryCatalog)
    {config : SearchConfig} (ht : config.queryTimeoutMs = none) (parsed : ParsedQuery)
    {pagination : Pagination} (hv : pagination.validate = .ok ()) (spaceId : Option Uuid) :
    (searchInMemory s c config parsed pagination spaceId).1 =
      if c.answerable parsed then
        c.pageOf (.ok (MemoryStore.pageOfMatches pagination (c.matchesOf s.rows parsed spaceId)))
      else .error (.internal "syntax error in tsquery") := by
  unfold searchInMemory MemoryCatalog.answerable MemoryCatalog.matchesOf
  rw [hv]
  dsimp only
  by_cases he : parsed.assemble.isEmpty
  · have hp : TsQuery.parse parsed.assemble = none := by
      rw [String.isEmpty_iff.1 he]
      rfl
    simp only [he, Bool.true_or, if_true, hp, answers_of_no_expr,
      List.filter_eq_nil_iff.2 (fun _ _ => Bool.false_ne_true), MemoryStore.pageOfMatches_nil]
    rfl
  · by_cases hs : c.typeScope parsed.typeFilters = some []
    · simp only [he, hs, beq_self_eq_true, Bool.or_true, Bool.true_or, if_true,
        answers_of_empty_scope, List.filter_eq_nil_iff.2 (fun _ _ => Bool.false_ne_true),
        MemoryStore.pageOfMatches_nil]
      rfl
    · have hs' : (c.typeScope parsed.typeFilters == some []) = false := by simpa using hs
      rw [SearchConfig.accept_of_no_timeout ht]
      cases hp : TsQuery.parse parsed.assemble with
      | none =>
        simp only [he, hs', Bool.false_eq_true, ↓reduceIte, Option.isSome_none,
          Bool.or_false]
        rw [MemoryStore.answer, MemoryStore.run_of_parse_eq_none
          (q := ⟨parsed.assemble, c.typeScope parsed.typeFilters, spaceId, pagination⟩) hf hp]
        rfl
      | some expr =>
        simp only [he, hs', Bool.false_eq_true, ↓reduceIte, Option.isSome_some,
          Bool.or_true]
        rw [MemoryStore.answer, MemoryStore.run_of_parse
          (q := ⟨parsed.assemble, c.typeScope parsed.typeFilters, spaceId, pagination⟩) hf hp,
          selects_eq_answers]

/-- A search string that is answered came through the tokenizer and the space identifier;
over a store that does not fail, with no timeout and a valid page, its answer is the window
of the sorted matches. -/
theorem searchTextInMemory_of_ok {s : MemoryStore} (hf : s.failure = none) {c : MemoryCatalog}
    {config : SearchConfig} (ht : config.queryTimeoutMs = none) {registry : Registry}
    {raw : String} {offset limit : Option Int} {space : Option String}
    (hv : Pagination.validate ⟨offset, limit⟩ = .ok ()) {page : ResultPage}
    (h : (searchTextInMemory s c config registry raw offset limit space).1 = .ok page) :
    ∃ parsed spaceId, Token.tokenize registry raw = .ok parsed ∧
      parseSpaceId space = .ok spaceId ∧ c.answerable parsed ∧
      c.pageOf (.ok (MemoryStore.pageOfMatches ⟨offset, limit⟩ (c.matchesOf s.rows parsed spaceId)))
        = .ok page := by
  unfold searchTextInMemory at h
  cases htok : Token.tokenize registry raw with
  | error e => simp [htok] at h
  | ok parsed =>
    cases hs : parseSpaceId space with
    | error e => simp [htok, hs] at h
    | ok spaceId =>
      simp only [htok, hs] at h
      rw [searchInMemory_of_valid hf c ht parsed hv spaceId] at h
      by_cases ha : c.answerable parsed
      · rw [if_pos ha] at h
        exact ⟨parsed, spaceId, rfl, rfl, ha, h⟩
      · rw [if_neg ha] at h
        cases h

/-- A valid page request for a search string that the tokenizer and the space identifier
accept, and that gets an answer, is answered by the window of the sorted matches. -/
theorem searchTextInMemory_of_answerable {s : MemoryStore} (hf : s.failure = none)
    {c : MemoryCatalog} {config : SearchConfig} (ht : config.queryTimeoutMs = none)
    {registry : Registry} {raw : String} {parsed : ParsedQuery} {space : Option String}
    {spaceId : Option Uuid} (htok : Token.tokenize registry raw = .ok parsed)
    (hs : parseSpaceId space = .ok spaceId) (ha : c.answerable parsed)
    {offset limit : Option Int} (hv : Pagination.validate ⟨offset, limit⟩ = .ok ()) :
    (searchTextInMemory s c config registry raw offset limit space).1 =
      c.pageOf (.ok (MemoryStore.pageOfMatches ⟨offset, limit⟩ (c.matchesOf s.rows parsed spaceId)))
    := by
  unfold searchTextInMemory
  simp only [htok, hs]
  rw [searchInMemory_of_valid hf c ht parsed hv spaceId, if_pos ha]

end TrackerSearch
