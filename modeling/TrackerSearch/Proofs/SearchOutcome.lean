import TrackerSearch.Proofs.Paging
import TrackerSearch.Proofs.QueryMeaning

/-!
# How a search ends

A search string passes its checks in a fixed order: its tokens, its space, its offset, its
limit. A search with no identifier or word fragment, or whose type filters cover no known type,
is then answered with an empty page without asking the store. Otherwise the store is asked
once, and the rows of its page are converted in order.

`SearchEnds` states each way a search can end as a rule, with the checks before it passed and
the number of calls made to the store; `searchFullText_ends_iff` says that a search over the
in-memory store and catalog ends exactly as these rules say. The first failure decides: the
first refused token, the first row that does not convert. A page that is answered holds every
row of the store's page converted, never a part of them.
-/

namespace TrackerSearch

/-! ## The first failure of a conversion -/

section Convert

variable {α β ε : Type} {f : α → Except ε β}

/-- A conversion fails at the head, or converts the head and fails on the rest. -/
theorem mapM_cons_eq_error {a : α} {l : List α} {e : ε} :
    (a :: l).mapM f = .error e ↔ f a = .error e ∨ (∃ b, f a = .ok b) ∧ l.mapM f = .error e := by
  cases hf : f a with
  | error e' => simp [List.mapM_cons, hf, bind, Except.bind]
  | ok b =>
    cases hl : l.mapM f <;> simp [List.mapM_cons, hf, hl, bind, Except.bind, pure, Except.pure]

/-- A conversion of a list fails with the error of its first element that does not convert. -/
theorem mapM_eq_error_iff {l : List α} {e : ε} :
    l.mapM f = .error e ↔
      ∃ pre a post, l = pre ++ a :: post ∧ (∀ x ∈ pre, ∃ b, f x = .ok b) ∧
        f a = .error e := by
  induction l with
  | nil => simp [pure, Except.pure]
  | cons x l ih =>
    rw [mapM_cons_eq_error, ih]
    constructor
    · rintro (hx | ⟨hok, pre, a, post, rfl, hpre, ha⟩)
      · exact ⟨[], x, l, rfl, by simp, hx⟩
      · exact ⟨x :: pre, a, post, rfl, List.forall_mem_cons.2 ⟨hok, hpre⟩, ha⟩
    · rintro ⟨pre, a, post, hl, hpre, ha⟩
      cases pre with
      | nil =>
        obtain ⟨rfl, rfl⟩ := List.cons_eq_cons.1 hl
        exact .inl ha
      | cons y pre =>
        obtain ⟨rfl, rfl⟩ := List.cons_eq_cons.1 hl
        exact .inr ⟨hpre x List.mem_cons_self, pre, a, post, rfl,
          fun z hz => hpre z (List.mem_cons_of_mem _ hz), ha⟩

end Convert

/-! ## The first refused token -/

namespace Token

/-- Tokenizing classifies every decoded token, then records them in order. -/
theorem foldlM_pushToken_eq (registry : Registry) :
    ∀ (parts : List String) (q : ParsedQuery), parts.foldlM (pushToken registry) q =
      (parts.mapM (classify registry)).map (·.foldl ParsedQuery.push q)
  | [], q => rfl
  | part :: parts, q => by
    rw [List.foldlM_cons, List.mapM_cons]
    cases hc : classify registry part with
    | error e => simp [pushToken, hc, bind, Except.bind, Except.map]
    | ok tok =>
      simp only [pushToken, hc, bind, Except.bind, pure, Except.pure]
      rw [foldlM_pushToken_eq registry parts (q.push tok)]
      cases (parts.mapM (classify registry)) <;> rfl

/-- A search string is refused with the error of its first decoded token that is refused. -/
theorem tokenize_eq_error_iff {registry : Registry} {raw : String} {e : SearchError} :
    tokenize registry raw = .error e ↔ ∃ pre t post, decodedTokens raw = pre ++ t :: post ∧
      (∀ u ∈ pre, ∃ tok, classify registry u = .ok tok) ∧
        classify registry t = .error e := by
  rw [tokenize_eq_foldlM, foldlM_pushToken_eq, ← mapM_eq_error_iff]
  cases (decodedTokens raw).mapM (classify registry) <;> simp [Except.map]

/-- A token is refused only as a malformed type filter. -/
theorem classify_eq_error {registry : Registry} {part : String} {e : SearchError}
    (h : classify registry part = .error e) : ∃ v, e = .badParameter "type" v := by
  unfold classify at h
  split at h
  · cases h
  split at h
  · dsimp only at h
    split at h
    · exact ⟨_, (Except.error.inj h).symm⟩
    · split at h
      · cases h
      · exact ⟨_, (Except.error.inj h).symm⟩
  · dsimp only at h
    split at h <;> cases h

end Token

/-! ## The page request -/

/-- A page request with no negative offset and a positive limit, each when given. -/
def Pagination.Valid (p : Pagination) : Prop :=
  (∀ o ∈ p.offset, 0 ≤ o) ∧ ∀ l ∈ p.limit, 0 < l

namespace Pagination

variable {p : Pagination}

theorem validate_of_offset {o : Int} (ho : p.offset = some o) (hneg : o < 0) :
    p.validate = .error (.badParameter "offset" (toString o)) := by
  simp [validate, ho, hneg]

theorem validate_of_limit {l : Int} (ho : ∀ o ∈ p.offset, 0 ≤ o) (hl : p.limit = some l)
    (hnonpos : l ≤ 0) : p.validate = .error (.badParameter "limit" (toString l)) := by
  unfold validate
  cases hoff : p.offset with
  | none => simp [validate.limitCheck, hl, hnonpos]
  | some o =>
    have : ¬o < 0 := Int.not_lt.2 (ho o hoff)
    simp [validate.limitCheck, hl, hnonpos, this]

theorem validate_of_valid (h : p.Valid) : p.validate = .ok () := by
  obtain ⟨ho, hl⟩ := h
  have hlimit : validate.limitCheck p = .ok () := by
    unfold validate.limitCheck
    cases hlim : p.limit with
    | none => rfl
    | some l => simp [Int.not_le.2 (hl l hlim)]
  unfold validate
  cases hoff : p.offset with
  | none => exact hlimit
  | some o => simp [Int.not_lt.2 (ho o hoff), hlimit]

/-- A page request is refused for its offset when that is negative, else for its limit when that
is not positive. -/
theorem validate_eq_error {e : SearchError} (h : p.validate = .error e) :
    (∃ o, p.offset = some o ∧ o < 0 ∧ e = .badParameter "offset" (toString o)) ∨
      ((∀ o ∈ p.offset, 0 ≤ o) ∧
        ∃ l, p.limit = some l ∧ l ≤ 0 ∧ e = .badParameter "limit" (toString l)) := by
  by_cases ho : ∃ o, p.offset = some o ∧ o < 0
  · obtain ⟨o, hoff, hneg⟩ := ho
    rw [validate_of_offset hoff hneg] at h
    exact .inl ⟨o, hoff, hneg, (Except.error.inj h).symm⟩
  · have hnonneg : ∀ o ∈ p.offset, 0 ≤ o := fun o hoff =>
      Int.not_lt.1 fun hneg => ho ⟨o, hoff, hneg⟩
    by_cases hl : ∃ l, p.limit = some l ∧ l ≤ 0
    · obtain ⟨l, hlim, hnonpos⟩ := hl
      rw [validate_of_limit hnonneg hlim hnonpos] at h
      exact .inr ⟨hnonneg, l, hlim, hnonpos, (Except.error.inj h).symm⟩
    · have hpos : ∀ l ∈ p.limit, 0 < l := fun l hlim =>
        Int.not_le.1 fun hnonpos => hl ⟨l, hlim, hnonpos⟩
      rw [validate_of_valid ⟨hnonneg, hpos⟩] at h
      cases h

theorem valid_of_validate (h : p.validate = .ok ()) : p.Valid := by
  refine ⟨fun o hoff => Int.not_lt.1 fun hneg => ?_,
    fun l hlim => Int.not_le.1 fun hnonpos => ?_⟩
  · rw [validate_of_offset hoff hneg] at h
    cases h
  · have hnonneg : ∀ o ∈ p.offset, 0 ≤ o := fun o hoff =>
      Int.not_lt.1 fun hneg => by rw [validate_of_offset hoff hneg] at h; cases h
    rw [validate_of_limit hnonneg hlim hnonpos] at h
    cases h

end Pagination

/-! ## The ways a search ends -/

namespace MemoryCatalog

/-- The query a tokenized search hands to the store. -/
def storeQuery (c : MemoryCatalog) (parsed : ParsedQuery) (pagination : Pagination)
    (spaceId : Option Uuid) : StoreQuery :=
  { expression := parsed.assemble, typeScope := c.typeScope parsed.typeFilters,
    spaceId := spaceId, pagination := pagination }

/-- A tokenized search asks the store when it has an identifier or word fragment and its type
filters, when it has any, cover a known type. -/
def AsksStore (c : MemoryCatalog) (parsed : ParsedQuery) : Prop :=
  parsed.assemble ≠ "" ∧ (parsed.typeFilters ≠ [] → c.descendantsOrSelf parsed.typeFilters ≠ [])

theorem typeScope_eq_some_nil_iff (c : MemoryCatalog) (typeFilters : List Uuid) :
    c.typeScope typeFilters = some [] ↔
      typeFilters ≠ [] ∧ c.descendantsOrSelf typeFilters = [] := by
  cases typeFilters <;> simp [typeScope]

end MemoryCatalog

section Ends

variable (s : MemoryStore) (c : MemoryCatalog) (config : SearchConfig)

/-- How a tokenized search over the in-memory store and catalog ends, with the number of calls
it makes to the store. Each rule holds only when the checks before it passed. -/
inductive ParsedEnds (parsed : ParsedQuery) (pagination : Pagination) (spaceId : Option Uuid) :
    Except SearchError ResultPage → Nat → Prop
  /-- A negative offset is refused first, -/
  | badOffset {o : Int} : pagination.offset = some o → o < 0 →
      ParsedEnds parsed pagination spaceId (.error (.badParameter "offset" (toString o))) 0
  /-- then a limit that is not positive. -/
  | badLimit {l : Int} : (∀ o ∈ pagination.offset, 0 ≤ o) → pagination.limit = some l → l ≤ 0 →
      ParsedEnds parsed pagination spaceId (.error (.badParameter "limit" (toString l))) 0
  /-- A search with an empty expression has an empty page, -/
  | emptyExpression : pagination.Valid → parsed.assemble = "" →
      ParsedEnds parsed pagination spaceId (.ok ⟨[], 0⟩) 0
  /-- and so has one whose type filters cover no known type. -/
  | emptyScope : pagination.Valid → parsed.assemble ≠ "" → parsed.typeFilters ≠ [] →
      c.descendantsOrSelf parsed.typeFilters = [] →
      ParsedEnds parsed pagination spaceId (.ok ⟨[], 0⟩) 0
  /-- Otherwise the store is asked once; it may fail, -/
  | storeFails {e : SearchError} : pagination.Valid → c.AsksStore parsed →
      config.accept (s.answer (c.storeQuery parsed pagination spaceId)) = .error e →
      ParsedEnds parsed pagination spaceId (.error e) 1
  /-- or a row of its page may not convert: the first such row fails the search, -/
  | rowFails {page : StorePage} {pre post : List WorkItemRow} {row : WorkItemRow}
      {e : SearchError} : pagination.Valid → c.AsksStore parsed →
      config.accept (s.answer (c.storeQuery parsed pagination spaceId)) = .ok page →
      page.rows = pre ++ row :: post → (∀ r ∈ pre, ∃ w, c.convert r = .ok w) →
      c.convert row = .error e → ParsedEnds parsed pagination spaceId (.error e) 1
  /-- or every row converts, and the page holds them in order with the store's count. -/
  | answered {page : StorePage} {items : List WorkItem} : pagination.Valid → c.AsksStore parsed →
      config.accept (s.answer (c.storeQuery parsed pagination spaceId)) = .ok page →
      List.Forall₂ (fun r w => c.convert r = .ok w) page.rows items →
      ParsedEnds parsed pagination spaceId (.ok ⟨items, page.totalCount⟩) 1

/-- How a search string over the in-memory store and catalog ends, with the number of calls it
makes to the store. -/
inductive SearchEnds (registry : Registry) (raw : String) (offset limit : Option Int)
    (space : Option String) : Except SearchError ResultPage → Nat → Prop
  /-- The first refused token fails the search, as a bad type filter; -/
  | badToken {pre post : List String} {t v : String} :
      Token.decodedTokens raw = pre ++ t :: post →
      (∀ u ∈ pre, ∃ tok, Token.classify registry u = .ok tok) →
      Token.classify registry t = .error (.badParameter "type" v) →
      SearchEnds registry raw offset limit space (.error (.badParameter "type" v)) 0
  /-- then a space that is not a UUID; -/
  | badSpace {parsed : ParsedQuery} {text : String} : Token.tokenize registry raw = .ok parsed →
      space = some text → Uuid.parse? text = none →
      SearchEnds registry raw offset limit space (.error (.badParameter "space_id" text)) 0
  /-- then the tokenized search ends as `ParsedEnds` says. -/
  | checked {parsed : ParsedQuery} {spaceId : Option Uuid} {r : Except SearchError ResultPage}
      {k : Nat} : Token.tokenize registry raw = .ok parsed → parseSpaceId space = .ok spaceId →
      ParsedEnds s c config parsed ⟨offset, limit⟩ spaceId r k →
      SearchEnds registry raw offset limit space r k

end Ends

/-! ## The in-memory search, case by case -/

section Cases

variable {s : MemoryStore} {c : MemoryCatalog} {config : SearchConfig} {parsed : ParsedQuery}
  {pagination : Pagination} {spaceId : Option Uuid}

theorem searchInMemory_of_validate_error {e : SearchError} (h : pagination.validate = .error e) :
    searchInMemory s c config parsed pagination spaceId = (.error e, false) := by
  rw [searchInMemory, h]

theorem searchInMemory_of_empty (hv : pagination.Valid) (he : parsed.assemble = "") :
    searchInMemory s c config parsed pagination spaceId = (.ok ⟨[], 0⟩, false) := by
  rw [searchInMemory, Pagination.validate_of_valid hv]
  simp [he]
  rfl

theorem searchInMemory_of_empty_scope (hv : pagination.Valid) (he : parsed.assemble ≠ "")
    (hs : c.typeScope parsed.typeFilters = some []) :
    searchInMemory s c config parsed pagination spaceId = (.ok ⟨[], 0⟩, false) := by
  rw [searchInMemory, Pagination.validate_of_valid hv]
  simp [he, hs]
  rfl

theorem searchInMemory_of_asksStore (hv : pagination.Valid) (ha : c.AsksStore parsed) :
    searchInMemory s c config parsed pagination spaceId =
      (c.pageOf (config.accept (s.answer (c.storeQuery parsed pagination spaceId))), true) := by
  obtain ⟨he, hs⟩ := ha
  have hs' : c.typeScope parsed.typeFilters ≠ some [] := fun h =>
    hs ((c.typeScope_eq_some_nil_iff _).1 h).1 ((c.typeScope_eq_some_nil_iff _).1 h).2
  rw [searchInMemory, Pagination.validate_of_valid hv]
  simp [he, hs']
  rfl

theorem parseSpaceId_of_not_uuid {text : String} (h : Uuid.parse? text = none) :
    parseSpaceId (some text) = .error (.badParameter "space_id" text) := by
  simp [parseSpaceId, h]

theorem parseSpaceId_eq_error {space : Option String} {e : SearchError}
    (h : parseSpaceId space = .error e) :
    ∃ text, space = some text ∧ Uuid.parse? text = none ∧
      e = .badParameter "space_id" text := by
  cases space with
  | none => cases h
  | some text =>
    cases hu : Uuid.parse? text with
    | none =>
      rw [parseSpaceId_of_not_uuid hu] at h
      exact ⟨text, rfl, hu, (Except.error.inj h).symm⟩
    | some u => simp [parseSpaceId, hu] at h

theorem pageOf_error (c : MemoryCatalog) (e : SearchError) : c.pageOf (.error e) = .error e :=
  rfl

end Cases

section Ends

variable (s : MemoryStore) (c : MemoryCatalog) (config : SearchConfig)

/-- The in-memory search of a tokenized search string ends by one of the rules, with one store
call exactly when it asks the store. -/
theorem parsedEnds_searchInMemory (parsed : ParsedQuery) (pagination : Pagination)
    (spaceId : Option Uuid) :
    ParsedEnds s c config parsed pagination spaceId
      (searchInMemory s c config parsed pagination spaceId).1
      (if (searchInMemory s c config parsed pagination spaceId).2 then 1 else 0) := by
  cases hv : pagination.validate with
  | error e =>
    rw [searchInMemory_of_validate_error hv]
    rcases Pagination.validate_eq_error hv with
      ⟨o, ho, hneg, rfl⟩ | ⟨hnonneg, l, hl, hnonpos, rfl⟩
    · exact .badOffset ho hneg
    · exact .badLimit hnonneg hl hnonpos
  | ok u =>
    have hvalid := Pagination.valid_of_validate hv
    by_cases he : parsed.assemble = ""
    · rw [searchInMemory_of_empty hvalid he]
      exact .emptyExpression hvalid he
    by_cases hs : c.typeScope parsed.typeFilters = some []
    · rw [searchInMemory_of_empty_scope hvalid he hs]
      obtain ⟨hne, hnil⟩ := (c.typeScope_eq_some_nil_iff _).1 hs
      exact .emptyScope hvalid he hne hnil
    have hask : c.AsksStore parsed :=
      ⟨he, fun hne hnil => hs ((c.typeScope_eq_some_nil_iff _).2 ⟨hne, hnil⟩)⟩
    rw [searchInMemory_of_asksStore hvalid hask]
    cases ha : config.accept (s.answer (c.storeQuery parsed pagination spaceId)) with
    | error e => exact .storeFails hvalid hask ha
    | ok page =>
      rw [MemoryCatalog.pageOf_ok]
      cases hm : page.rows.mapM c.convert with
      | error e =>
        obtain ⟨pre, row, post, hrows, hpre, hrow⟩ := mapM_eq_error_iff.1 hm
        exact .rowFails hvalid hask ha hrows hpre hrow
      | ok items => exact .answered hvalid hask ha (mapM_eq_ok_iff.1 hm)

/-- A rule the search ends by gives the in-memory search's answer and store call. -/
theorem searchInMemory_of_parsedEnds {parsed : ParsedQuery} {pagination : Pagination}
    {spaceId : Option Uuid} {r : Except SearchError ResultPage} {k : Nat}
    (h : ParsedEnds s c config parsed pagination spaceId r k) :
    (searchInMemory s c config parsed pagination spaceId).1 = r ∧
      k = if (searchInMemory s c config parsed pagination spaceId).2 then 1 else 0 := by
  cases h with
  | badOffset ho hneg =>
    simp [searchInMemory_of_validate_error (Pagination.validate_of_offset ho hneg)]
  | badLimit hnonneg hl hnonpos =>
    simp [searchInMemory_of_validate_error (Pagination.validate_of_limit hnonneg hl hnonpos)]
  | emptyExpression hv he => simp [searchInMemory_of_empty hv he]
  | emptyScope hv he hne hnil =>
    simp [searchInMemory_of_empty_scope hv he ((c.typeScope_eq_some_nil_iff _).2 ⟨hne, hnil⟩)]
  | storeFails hv hask ha => simp [searchInMemory_of_asksStore hv hask, ha, pageOf_error]
  | rowFails hv hask ha hrows hpre hrow =>
    simp [searchInMemory_of_asksStore hv hask, ha, MemoryCatalog.pageOf_ok,
      mapM_eq_error_iff.2 ⟨_, _, _, hrows, hpre, hrow⟩, Except.map]
  | answered hv hask ha hitems =>
    simp [searchInMemory_of_asksStore hv hask, ha, MemoryCatalog.pageOf_ok,
      mapM_eq_ok_iff.2 hitems, Except.map]

/-- The in-memory search of a search string ends by one of the rules, with one store call
exactly when it asks the store. -/
theorem searchEnds_searchTextInMemory (registry : Registry) (raw : String)
    (offset limit : Option Int) (space : Option String) :
    SearchEnds s c config registry raw offset limit space
      (searchTextInMemory s c config registry raw offset limit space).1
      (if (searchTextInMemory s c config registry raw offset limit space).2 then 1 else 0) := by
  unfold searchTextInMemory
  cases ht : Token.tokenize registry raw with
  | error e =>
    obtain ⟨pre, t, post, hd, hpre, hrefused⟩ := Token.tokenize_eq_error_iff.1 ht
    obtain ⟨v, rfl⟩ := Token.classify_eq_error hrefused
    exact .badToken hd hpre hrefused
  | ok parsed =>
    cases hs : parseSpaceId space with
    | error e =>
      obtain ⟨text, rfl, hu, rfl⟩ := parseSpaceId_eq_error hs
      exact .badSpace ht rfl hu
    | ok spaceId => exact .checked ht hs (parsedEnds_searchInMemory s c config parsed _ spaceId)

/-- A rule a search string ends by gives the in-memory search's answer and store call. -/
theorem searchTextInMemory_of_searchEnds {registry : Registry} {raw : String}
    {offset limit : Option Int} {space : Option String} {r : Except SearchError ResultPage}
    {k : Nat} (h : SearchEnds s c config registry raw offset limit space r k) :
    (searchTextInMemory s c config registry raw offset limit space).1 = r ∧
      k = if (searchTextInMemory s c config registry raw offset limit space).2 then 1 else 0 := by
  cases h with
  | badToken hd hpre hrefused =>
    simp [searchTextInMemory, Token.tokenize_eq_error_iff.2 ⟨_, _, _, hd, hpre, hrefused⟩]
  | badSpace ht hspace hu =>
    simp [searchTextInMemory, ht, hspace, parseSpaceId_of_not_uuid hu]
  | checked ht hs hends =>
    simpa [searchTextInMemory, ht, hs] using searchInMemory_of_parsedEnds s c config hends

theorem run_pair_eq_iff {α : Type} {x r : α} {b : Bool} {n k : Nat} :
    (x, if b then n + 1 else n) = (r, n + k) ↔ x = r ∧ k = if b then 1 else 0 := by
  cases b with
  | false => simp
  | true => simp; omega

/-- A tokenized search over the in-memory store and catalog ends exactly as the rules say, and
calls the store exactly as often as they say. -/
theorem searchParsed_ends_iff (parsed : ParsedQuery) (pagination : Pagination)
    (spaceId : Option Uuid) (n : Nat) (r : Except SearchError ResultPage) (k : Nat) :
    (searchParsed (memoryBackend s c) config parsed pagination spaceId).run.run n = (r, n + k) ↔
      ParsedEnds s c config parsed pagination spaceId r k := by
  rw [searchParsed_memory, run_pair_eq_iff]
  constructor
  · rintro ⟨hr, hk⟩
    rw [← hr, hk]
    exact parsedEnds_searchInMemory s c config parsed pagination spaceId
  · exact searchInMemory_of_parsedEnds s c config

/-- A search over the in-memory store ends exactly as `SearchEnds` says: refusals in order
without the store, empty pages without it, and otherwise the store's answer, converted. -/
theorem searchFullText_ends_iff (registry : Registry) (raw : String) (offset limit : Option Int)
    (space : Option String) (n : Nat) (r : Except SearchError ResultPage) (k : Nat) :
    (searchFullText (memoryBackend s c) config registry raw offset limit space).run n =
        (r, n + k) ↔
      SearchEnds s c config registry raw offset limit space r k := by
  rw [searchFullText_memory, run_pair_eq_iff]
  constructor
  · rintro ⟨hr, hk⟩
    rw [← hr, hk]
    exact searchEnds_searchTextInMemory s c config registry raw offset limit space
  · exact searchTextInMemory_of_searchEnds s c config

end Ends

end TrackerSearch
