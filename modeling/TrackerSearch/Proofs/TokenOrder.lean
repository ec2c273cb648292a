import TrackerSearch.Proofs.SearchOutcome
import TrackerSearch.Proofs.AscendingIds
import TrackerSearch.Proofs.Retrieval

/-!
# The order of the tokens of a search string

A search string is cut into tokens and each token is classified on its own. So the filters and
fragments of a search string written from tokens in another order are the same ones: the type
filters are kept ascending, and the identifier and word fragments come in another order. The
store reads the compiled expression back as the conjunction of what the tokens denote when
every token can be written as its fragment writes it (the condition of `parse_assemble_of_readsAs`),
and a conjunction holds whatever the order of its conjuncts. Then the order of the tokens does not
change the answer, except that a refused token may be reported by another refused token
(`searchFullText_perm_tokens`).

Without that condition the order matters. A word holding `|` is written unescaped, so the store
reads `.x:* & .a|1:*` as `(.x & .a) | 1` and `.a|1:* & .x:*` as `.a | (1 & .x)`: the item numbered
1 is found by the search `.x .a|1` and not by `.a|1 .x` (`searchFullText_token_order_matters`).
-/

namespace TrackerSearch

open Unicode TsQuery Token

/-! ## A search string written from tokens -/

/-- A token that neither starts nor ends with a slash or a double quote. -/
def ClearEnds (t : String) : Prop :=
  ∀ c ∈ ['/', '"'], t.toList.head? ≠ some c ∧ t.toList.getLast? ≠ some c

/-- Tokens written into a search string joined by blanks, each read back as written: every token
is a word, and the first and the last token have clear ends. -/
structure Joinable (ts : List String) : Prop where
  unbroken : ∀ t ∈ ts, Text.Unbroken t
  head : ∀ t ∈ ts.head?, ClearEnds t
  last : ∀ t ∈ ts.getLast?, ClearEnds t

namespace Text

/-- The words of words joined by blanks are those words; the induction runs over the words, with
the finished ones as the accumulator. -/
theorem wordsFrom_intercalate : ∀ (ts : List String) (acc : List String),
    (∀ t ∈ ts, Unbroken t) → wordsFrom (" ".intercalate ts).toList [] acc = acc.reverse ++ ts
  | [], acc, _ => by simp [wordsFrom]
  | [t], acc, h => by
    have ht := h t List.mem_cons_self
    rw [String.intercalate_singleton, ← List.append_nil t.toList,
      wordsFrom_append_of_no_blank _ _ _ _ ht.2, wordsFrom,
      if_neg (by simpa using ht.1), List.append_nil, List.reverse_reverse, String.ofList_toList]
    simp
  | t :: u :: ts, acc, h => by
    have ht := h t List.mem_cons_self
    rw [String.intercalate_cons_cons, String.append_assoc, String.toList_append,
      wordsFrom_append_of_no_blank _ _ _ _ ht.2, String.toList_append,
      show " ".toList = [' '] from rfl, List.singleton_append, List.append_nil, wordsFrom,
      if_pos whiteSpace_space, if_neg (by simpa using ht.1), List.reverse_reverse,
      String.ofList_toList, wordsFrom_intercalate (u :: ts) (t :: acc)
        fun x hx => h x (List.mem_cons_of_mem t hx)]
    simp

theorem words_intercalate {ts : List String} (h : ∀ t ∈ ts, Unbroken t) :
    words (" ".intercalate ts) = ts := by
  rw [words, wordsFrom_intercalate ts [] h]
  rfl

end Text

theorem head?_toList_intercalate {t : String} (ht : t ≠ "") (ts : List String) :
    (" ".intercalate (t :: ts)).toList.head? = t.toList.head? := by
  cases ts with
  | nil => rw [String.intercalate_singleton]
  | cons u us =>
    rw [String.intercalate_cons_cons, String.append_assoc, String.toList_append,
      List.head?_append_of_ne_nil _ (by simpa using ht)]

theorem getLast?_toList_intercalate {t : String} (ht : t ≠ "") (ts : List String) :
    (" ".intercalate (ts ++ [t])).toList.getLast? = t.toList.getLast? := by
  cases ts with
  | nil => rw [List.nil_append, String.intercalate_singleton]
  | cons u us =>
    rw [String.intercalate_append_of_ne_nil (by simp) (by simp), String.intercalate_singleton,
      String.toList_append, List.getLast?_append_of_ne_nil _ (by simpa using ht)]

/-- Trimming the search string written from joinable tokens leaves it as it is. -/
theorem trimChar_intercalate {ts : List String} (h : Joinable ts) {c : Char}
    (hc : c ∈ ['/', '"']) : Text.trimChar c (" ".intercalate ts) = " ".intercalate ts := by
  rcases List.eq_nil_or_concat' ts with rfl | ⟨init, last, hts⟩
  · rfl
  obtain ⟨first, rest, hfirst⟩ : ∃ first rest, ts = first :: rest :=
    List.exists_cons_of_ne_nil (by simp [hts])
  have hfirst_ends := h.head first (by simp [hfirst])
  have hlast_ends := h.last last (by simp [hts])
  apply Text.trimChar_of_ends
  · rw [hfirst, head?_toList_intercalate (h.unbroken first (by simp [hfirst])).1]
    exact (hfirst_ends c hc).1
  · rw [hts, getLast?_toList_intercalate (h.unbroken last (by simp [hts])).1]
    exact (hlast_ends c hc).2

/-- The tokens of a search string written from joinable tokens are those tokens, decoded. -/
theorem decodedTokens_intercalate {ts : List String} (h : Joinable ts) :
    decodedTokens (" ".intercalate ts) = ts.map decode := by
  rw [decodedTokens, trimChar_intercalate h (by simp), trimChar_intercalate h (by simp),
    Text.words_intercalate h.unbroken]

/-- A text is a word when it is not empty and none of its characters is a blank. -/
theorem Text.unbroken_of_all {s : String} (hne : s ≠ "")
    (h : s.toList.all (fun c => !whiteSpace.contains c) = true) : Text.Unbroken s :=
  ⟨hne, fun c hc => by simpa using List.all_eq_true.1 h c hc⟩

/-- Words with clear ends are joinable in any order. -/
theorem Joinable.of_forall {ts : List String} (h : ∀ t ∈ ts, Text.Unbroken t ∧ ClearEnds t) :
    Joinable ts :=
  ⟨fun t ht => (h t ht).1, fun t ht => (h t (List.mem_of_mem_head? ht)).2,
    fun t ht => (h t (List.mem_of_mem_getLast? ht)).2⟩

/-! ## Tokens in another order tokenize alike -/

namespace Token

/-- A search string is tokenized exactly when each of its decoded tokens is classified. -/
theorem tokenize_ok_iff {registry : Registry} {raw : String} :
    (∃ p, tokenize registry raw = .ok p) ↔
      ∀ part ∈ decodedTokens raw, ∃ tok, classify registry part = .ok tok := by
  rw [tokenize_eq_foldlM, foldlM_pushToken_eq]
  constructor
  · rintro ⟨p, hp⟩
    cases hm : (decodedTokens raw).mapM (classify registry) with
    | error e =>
      rw [hm] at hp
      cases hp
    | ok toks => exact forall_ok_of_mapM_eq_ok hm
  · intro h
    obtain ⟨toks, hm⟩ := mapM_ok_of_forall h
    exact ⟨_, by rw [hm]; rfl⟩

/-- Recording tokens keeps the type filters ascending and adds those of the type filter
tokens. -/
theorem typeFilters_foldl_push : ∀ (toks : List SearchToken) (q : ParsedQuery),
    Ascending q.typeFilters → Ascending (toks.foldl ParsedQuery.push q).typeFilters ∧
      ∀ u, u ∈ (toks.foldl ParsedQuery.push q).typeFilters ↔
        u ∈ q.typeFilters ∨ .typeFilter u ∈ toks
  | [], q, h => ⟨h, by simp⟩
  | tok :: toks, q, h => by
    have hstep : Ascending (q.push tok).typeFilters ∧
        ∀ u, u ∈ (q.push tok).typeFilters ↔ u ∈ q.typeFilters ∨ tok = .typeFilter u := by
      cases tok with
      | idFilter v => simpa [ParsedQuery.push] using h
      | typeFilter t =>
        refine ⟨h.insertSorted t, fun u => ?_⟩
        simp only [ParsedQuery.push, mem_insertSorted, SearchToken.typeFilter.injEq]
        constructor <;> rintro (h | h) <;> simp_all [eq_comm]
      | wordFragment f => simpa [ParsedQuery.push] using h
    obtain ⟨hasc, hmem⟩ := typeFilters_foldl_push toks (q.push tok) hstep.1
    refine ⟨hasc, fun u => ?_⟩
    rw [List.foldl_cons, hmem, hstep.2, List.mem_cons]
    constructor
    · rintro ((h | h) | h) <;> simp_all
    · rintro (h | h | h) <;> simp_all

/-- The type filters of a search string, ascending: those of its type filter tokens. -/
theorem tokenize_typeFilters {registry : Registry} {raw : String} {p : ParsedQuery}
    (hp : tokenize registry raw = .ok p) : Ascending p.typeFilters ∧
      ∀ u, u ∈ p.typeFilters ↔
        ∃ part ∈ decodedTokens raw, classify registry part = .ok (.typeFilter u) := by
  rw [tokenize_eq_foldlM, foldlM_pushToken_eq] at hp
  cases hm : (decodedTokens raw).mapM (classify registry) with
  | error e =>
    rw [hm] at hp
    cases hp
  | ok toks =>
    rw [hm] at hp
    injection hp with hp
    subst hp
    obtain ⟨hasc, hmem⟩ := typeFilters_foldl_push toks {} List.Pairwise.nil
    refine ⟨hasc, fun u => ?_⟩
    rw [hmem]
    constructor
    · rintro (h | h)
      · cases h
      · exact exists_of_mem_mapM_eq_ok hm h
    · rintro ⟨part, hpart, hc⟩
      exact .inr (mem_of_mapM_eq_ok hm hpart hc)

/-- Tokens in another order are tokenized too, with the same type filters. -/
theorem tokenize_ok_of_perm {registry : Registry} {raw raw' : String} {p : ParsedQuery}
    (h : (decodedTokens raw).Perm (decodedTokens raw')) (hp : tokenize registry raw = .ok p) :
    ∃ p', tokenize registry raw' = .ok p' ∧ p'.typeFilters = p.typeFilters := by
  have hall := tokenize_ok_iff.1 ⟨p, hp⟩
  obtain ⟨p', hp'⟩ := tokenize_ok_iff.2 fun part hpart => hall part (h.mem_iff.2 hpart)
  refine ⟨p', hp', ?_⟩
  obtain ⟨hasc, hmem⟩ := tokenize_typeFilters hp
  obtain ⟨hasc', hmem'⟩ := tokenize_typeFilters hp'
  refine hasc'.eq_of_mem_iff hasc fun u => ?_
  rw [hmem, hmem']
  exact ⟨fun ⟨part, hpart, hc⟩ => ⟨part, h.mem_iff.2 hpart, hc⟩,
    fun ⟨part, hpart, hc⟩ => ⟨part, h.mem_iff.1 hpart, hc⟩⟩

theorem tokenize_error_of_perm {registry : Registry} {raw raw' : String} {e : SearchError}
    (h : (decodedTokens raw).Perm (decodedTokens raw')) (he : tokenize registry raw = .error e) :
    ∃ e', tokenize registry raw' = .error e' := by
  cases hp' : tokenize registry raw' with
  | error e' => exact ⟨e', rfl⟩
  | ok p' =>
    obtain ⟨p, hp, -⟩ := tokenize_ok_of_perm h.symm hp'
    rw [hp] at he
    cases he

/-- A refused search string is refused as a bad type filter. -/
theorem tokenize_eq_error {registry : Registry} {raw : String} {e : SearchError}
    (h : tokenize registry raw = .error e) : ∃ v, e = .badParameter "type" v := by
  obtain ⟨_, _, _, _, _, hrefused⟩ := tokenize_eq_error_iff.1 h
  exact classify_eq_error hrefused

theorem foldl_push_wordFragments (f : String → String) :
    ∀ (parts : List String) (q : ParsedQuery),
      (parts.map fun part => SearchToken.wordFragment (f part)).foldl ParsedQuery.push q =
        { q with wordFragments := q.wordFragments ++ parts.map f }
  | [], q => by simp
  | part :: parts, q => by
    rw [List.map_cons, List.foldl_cons, foldl_push_wordFragments f parts]
    simp [ParsedQuery.push]

/-- A search string of word tokens compiles to their fragments, in order. -/
theorem tokenize_of_words {registry : Registry} {raw : String} {parts : List String}
    (hd : decodedTokens raw = parts) (hw : ∀ part ∈ parts, isWordToken part = true) :
    tokenize registry raw = .ok { wordFragments := parts.map (wordFragment registry) } := by
  have hm : parts.mapM (classify registry) =
      .ok (parts.map fun part => .wordFragment (wordFragment registry part)) := by
    rw [mapM_eq_ok_iff, List.forall₂_map_right_iff, List.forall₂_same]
    exact fun part hpart => classify_of_word (hw part hpart)
  rw [tokenize_eq_foldlM, foldlM_pushToken_eq, hd, hm]
  simp [Except.map, foldl_push_wordFragments]

/-- A search string written from joinable words, each read as written, compiles to their
fragments in order. -/
theorem tokenize_intercalate_words {registry : Registry} {ts : List String} (hj : Joinable ts)
    (hw : ∀ t ∈ ts, decode t = t ∧ isWordToken t = true) :
    tokenize registry (" ".intercalate ts) =
      .ok { wordFragments := ts.map (wordFragment registry) } := by
  have hdecode : ts.map decode = ts :=
    (List.map_congr_left (g := id) fun t ht => (hw t ht).1).trans (List.map_id ts)
  exact tokenize_of_words ((decodedTokens_intercalate hj).trans hdecode) fun t ht => (hw t ht).2

end Token

/-! ## A conjunction, whatever the order of its conjuncts -/

namespace TsQuery

theorem holds_foldl_and (ws : List String) : ∀ (es : List TsQuery) (e : TsQuery),
    (es.foldl .and e).holds ws = (e :: es).all (·.holds ws)
  | [], e => by simp
  | e' :: es, e => by
    rw [List.foldl_cons, holds_foldl_and ws es, List.all_cons, holds, List.all_cons,
      List.all_cons, Bool.and_assoc]

/-- A conjunction holds where all its conjuncts hold; there is none of no conjunct. -/
theorem conjunction_holds (es : List TsQuery) :
    (conjunction es).map (fun e ws => e.holds ws) =
      if es = [] then none else some fun ws => es.all (·.holds ws) := by
  cases es with
  | nil => rfl
  | cons e es =>
    simp only [conjunction, Option.map_some, reduceCtorEq, if_false]
    congr 1
    funext ws
    exact holds_foldl_and ws es e

theorem conjunction_perm {es es' : List TsQuery} (h : es.Perm es') :
    (conjunction es).map (fun e ws => e.holds ws) =
      (conjunction es').map (fun e ws => e.holds ws) := by
  rw [conjunction_holds, conjunction_holds]
  have hnil : es = [] ↔ es' = [] :=
    ⟨fun he => (he ▸ h).nil_eq.symm, fun he => (he ▸ h).eq_nil⟩
  by_cases he : es = []
  · rw [if_pos he, if_pos (hnil.1 he)]
  · rw [if_neg he, if_neg (mt hnil.2 he)]
    congr 1
    funext ws
    exact Bool.eq_iff_iff.2 (by simp only [List.all_eq_true, h.mem_iff])

end TsQuery

namespace Token

/-- What the decoded tokens of a search string denote, identifier tokens first. -/
def meanings (registry : Registry) (parts : List String) : List TsQuery :=
  (parts.filter isIdToken).map idMeaning ++ (parts.filter isWordToken).map (wordMeaning registry)

theorem meanings_perm (registry : Registry) {parts parts' : List String}
    (h : parts.Perm parts') : (meanings registry parts).Perm (meanings registry parts') :=
  ((h.filter _).map _).append ((h.filter _).map _)

/-- The expression of a search string whose tokens fit is empty exactly when it has no
identifier or word token. -/
theorem assemble_eq_empty_iff {registry : Registry} {raw : String} {p : ParsedQuery}
    (hp : tokenize registry raw = .ok p)
    (hfit : ∀ part ∈ decodedTokens raw, Fits registry part) :
    p.assemble = "" ↔ meanings registry (decodedTokens raw) = [] := by
  constructor
  · intro he
    have hparse : parse p.assemble = conjunction (meanings registry (decodedTokens raw)) :=
      parse_assemble_of_readsAs (readsAs_fragments hp hfit)
    rw [he, parse_empty] at hparse
    cases hm : meanings registry (decodedTokens raw) with
    | nil => rfl
    | cons e es =>
      rw [hm] at hparse
      cases hparse
  · intro hm
    obtain ⟨hids, hwords⟩ := tokenize_fragments hp
    simp only [meanings, List.append_eq_nil_iff, List.map_eq_nil_iff] at hm
    rw [ParsedQuery.assemble, hids, hwords, hm.1, hm.2]
    rfl

end Token

/-! ## The store, whatever the expression's order -/

/-- A store answers two queries alike when they differ only in how their expression is written,
not in what it holds of. -/
theorem MemoryStore.run_congr {s : MemoryStore} {q q' : StoreQuery}
    (hscope : q.typeScope = q'.typeScope) (hspace : q.spaceId = q'.spaceId)
    (hpage : q.pagination = q'.pagination)
    (hmeaning : (parse q.expression).map (fun e ws => e.holds ws) =
      (parse q'.expression).map (fun e ws => e.holds ws)) :
    s.run q = s.run q' := by
  unfold MemoryStore.run
  cases s.failure with
  | some m => rfl
  | none =>
    cases hp : parse q.expression with
    | none =>
      cases hp' : parse q'.expression with
      | none => rfl
      | some e' =>
        rw [hp, hp'] at hmeaning
        cases hmeaning
    | some e =>
      cases hp' : parse q'.expression with
      | none =>
        rw [hp, hp'] at hmeaning
        cases hmeaning
      | some e' =>
        rw [hp, hp'] at hmeaning
        have hholds : ∀ ws, e.holds ws = e'.holds ws := fun ws =>
          congrFun (Option.some.inj hmeaning) ws
        have hselects : MemoryStore.selects q e = MemoryStore.selects q' e' := by
          funext row
          simp only [MemoryStore.selects, hscope, hspace, hholds]
        simp only [hselects, hpage]

/-- Two tokenized searches with the same type filters and expressions that hold of the same
words, empty together, are answered alike. -/
theorem searchInMemory_congr {s : MemoryStore} {c : MemoryCatalog} {config : SearchConfig}
    {pagination : Pagination} {spaceId : Option Uuid} {p p' : ParsedQuery}
    (htype : p.typeFilters = p'.typeFilters) (hempty : p.assemble = "" ↔ p'.assemble = "")
    (hmeaning : (parse p.assemble).map (fun e ws => e.holds ws) =
      (parse p'.assemble).map (fun e ws => e.holds ws)) :
    searchInMemory s c config p pagination spaceId =
      searchInMemory s c config p' pagination spaceId := by
  cases hv : pagination.validate with
  | error e => rw [searchInMemory_of_validate_error hv, searchInMemory_of_validate_error hv]
  | ok u =>
    have hvalid := Pagination.valid_of_validate hv
    by_cases he : p.assemble = ""
    · rw [searchInMemory_of_empty hvalid he, searchInMemory_of_empty hvalid (hempty.1 he)]
    have he' : p'.assemble ≠ "" := fun h => he (hempty.2 h)
    by_cases hs : c.typeScope p.typeFilters = some []
    · rw [searchInMemory_of_empty_scope hvalid he hs,
        searchInMemory_of_empty_scope hvalid he' (htype ▸ hs)]
    have hask : c.AsksStore p :=
      ⟨he, fun hne hnil => hs ((c.typeScope_eq_some_nil_iff _).2 ⟨hne, hnil⟩)⟩
    have hask' : c.AsksStore p' := ⟨he', htype ▸ hask.2⟩
    rw [searchInMemory_of_asksStore hvalid hask, searchInMemory_of_asksStore hvalid hask']
    have hrun : s.run (c.storeQuery p pagination spaceId) =
        s.run (c.storeQuery p' pagination spaceId) :=
      MemoryStore.run_congr (by simp [MemoryCatalog.storeQuery, htype]) rfl rfl hmeaning
    simp only [MemoryStore.answer, hrun]

/-! ## The answer, whatever the order of the tokens -/

/-- Tokens written into a search string in any order give the same answer, when every token can
be written as its fragment writes it; only a refused token may be reported by another refused
token, both as bad type filters. -/
theorem searchFullText_perm_tokens (s : MemoryStore) (c : MemoryCatalog) (config : SearchConfig)
    (registry : Registry) (offset limit : Option Int) (space : Option String) (n : Nat)
    {ts ts' : List String} (hperm : ts.Perm ts') (hts : Joinable ts) (hts' : Joinable ts')
    (hfit : ∀ t ∈ ts, Fits registry (decode t)) :
    (searchFullText (memoryBackend s c) config registry (" ".intercalate ts) offset limit
        space).run' n =
      (searchFullText (memoryBackend s c) config registry (" ".intercalate ts') offset limit
        space).run' n ∨
    ∃ v v', (searchFullText (memoryBackend s c) config registry (" ".intercalate ts) offset limit
        space).run' n = .error (.badParameter "type" v) ∧
      (searchFullText (memoryBackend s c) config registry (" ".intercalate ts') offset limit
        space).run' n = .error (.badParameter "type" v') := by
  rw [searchFullText_memory_run', searchFullText_memory_run']
  have hd := decodedTokens_intercalate hts
  have hdperm : (decodedTokens (" ".intercalate ts)).Perm
      (decodedTokens (" ".intercalate ts')) := by
    rw [hd, decodedTokens_intercalate hts']
    exact hperm.map decode
  have hfits : ∀ part ∈ decodedTokens (" ".intercalate ts), Fits registry part := by
    rw [hd]
    intro part hpart
    obtain ⟨t, ht, rfl⟩ := List.mem_map.1 hpart
    exact hfit t ht
  have hfits' : ∀ part ∈ decodedTokens (" ".intercalate ts'), Fits registry part :=
    fun part hpart => hfits part (hdperm.mem_iff.2 hpart)
  unfold searchTextInMemory
  cases ht : tokenize registry (" ".intercalate ts) with
  | error e =>
    obtain ⟨e', ht'⟩ := tokenize_error_of_perm hdperm ht
    obtain ⟨v, rfl⟩ := tokenize_eq_error ht
    obtain ⟨v', rfl⟩ := tokenize_eq_error ht'
    rw [ht']
    exact .inr ⟨v, v', rfl, rfl⟩
  | ok p =>
    obtain ⟨p', ht', htype⟩ := tokenize_ok_of_perm hdperm ht
    rw [ht']
    left
    cases parseSpaceId space with
    | error e => rfl
    | ok spaceId =>
      have hmeanings := meanings_perm registry hdperm
      have hsame : searchInMemory s c config p ⟨offset, limit⟩ spaceId =
          searchInMemory s c config p' ⟨offset, limit⟩ spaceId := by
        refine searchInMemory_congr htype.symm ?_ ?_
        · rw [assemble_eq_empty_iff ht hfits, assemble_eq_empty_iff ht' hfits',
            ← List.isEmpty_iff, ← List.isEmpty_iff, hmeanings.isEmpty_eq]
        · rw [parse_assemble_of_readsAs (readsAs_fragments ht hfits),
            parse_assemble_of_readsAs (readsAs_fragments ht' hfits')]
          exact conjunction_perm hmeanings
      dsimp only
      rw [hsame]

/-- An identifier token and a word, in both orders. -/
theorem searchFullText_perm_id_and_word :
    ["id:7", ".Net"].Perm [".Net", "id:7"] ∧ Joinable ["id:7", ".Net"] ∧
      Joinable [".Net", "id:7"] ∧ (∀ t ∈ ["id:7", ".Net"], Fits {} (decode t)) ∧
      ((searchFullText (memoryBackend { rows := [] } ⟨[]⟩) {} {}
          (" ".intercalate ["id:7", ".Net"]) none none none).run' 0 =
        (searchFullText (memoryBackend { rows := [] } ⟨[]⟩) {} {}
          (" ".intercalate [".Net", "id:7"]) none none none).run' 0 ∨
      ∃ v v', (searchFullText (memoryBackend { rows := [] } ⟨[]⟩) {} {}
          (" ".intercalate ["id:7", ".Net"]) none none none).run' 0 =
          .error (.badParameter "type" v) ∧
        (searchFullText (memoryBackend { rows := [] } ⟨[]⟩) {} {}
          (" ".intercalate [".Net", "id:7"]) none none none).run' 0 =
          .error (.badParameter "type" v')) := by
  have hperm : ["id:7", ".Net"].Perm [".Net", "id:7"] := List.Perm.swap _ _ _
  have hends : ∀ t ∈ ["id:7", ".Net"], Text.Unbroken t ∧ ClearEnds t := by
    simp only [List.mem_cons, List.not_mem_nil, or_false, forall_eq_or_imp, forall_eq]
    exact ⟨⟨Text.unbroken_of_all (by simp) (by decide +kernel), by simp [ClearEnds]⟩,
      ⟨Text.unbroken_of_all (by simp) (by decide +kernel), by simp [ClearEnds]⟩⟩
  have hj := Joinable.of_forall hends
  have hj' := Joinable.of_forall fun t ht => hends t (hperm.mem_iff.2 ht)
  have hfit : ∀ t ∈ ["id:7", ".Net"], Fits {} (decode t) := by
    simp only [List.mem_cons, List.not_mem_nil, or_false, forall_eq_or_imp, forall_eq]
    rw [decode_of_unescaped (by simp), decode_of_unescaped (by simp)]
    refine ⟨⟨fun _ => by decide +kernel, fun h => absurd h (by decide +kernel)⟩,
      fun h => absurd h (by decide +kernel), fun _ => ?_⟩
    rw [WordFits, if_neg (by simp [isUrl])]
    decide +kernel
  exact ⟨hperm, hj, hj', hfit,
    searchFullText_perm_tokens { rows := [] } ⟨[]⟩ {} {} none none none 0 hperm hj hj' hfit⟩

/-- Two words whose order changes the answer: `.x .a|1` finds the item numbered 1 and
`.a|1 .x` does not. -/
theorem searchFullText_token_order_matters :
    [".x", ".a|1"].Perm [".a|1", ".x"] ∧ Joinable [".x", ".a|1"] ∧ Joinable [".a|1", ".x"] ∧
    (∃ item, (searchFullText (memoryBackend { rows := [{ id := 1, typeId := Uuid.nil }] }
        ⟨[WorkItemType.root Uuid.nil "task"]⟩) {} {} (" ".intercalate [".x", ".a|1"]) none none
        none).run' 0 = .ok ⟨[item], 1⟩) ∧
    (searchFullText (memoryBackend { rows := [{ id := 1, typeId := Uuid.nil }] }
        ⟨[WorkItemType.root Uuid.nil "task"]⟩) {} {} (" ".intercalate [".a|1", ".x"]) none none
        none).run' 0 = .ok ⟨[], 0⟩ := by
  have hperm : [".x", ".a|1"].Perm [".a|1", ".x"] := List.Perm.swap _ _ _
  have htokens : ∀ t ∈ [".x", ".a|1"], (Text.Unbroken t ∧ ClearEnds t) ∧
      (decode t = t ∧ isWordToken t = true) ∧ wordFragment {} t = t ++ ":*" := by
    simp only [List.mem_cons, List.not_mem_nil, or_false, forall_eq_or_imp, forall_eq]
    refine ⟨⟨⟨Text.unbroken_of_all (by simp) (by decide +kernel), by simp [ClearEnds]⟩,
      ⟨decode_of_unescaped (by simp), by decide +kernel⟩, ?_⟩,
      ⟨⟨Text.unbroken_of_all (by simp) (by decide +kernel), by simp [ClearEnds]⟩,
      ⟨decode_of_unescaped (by simp), by decide +kernel⟩, ?_⟩⟩
    · rw [wordFragment, if_neg (by simp [isUrl])]
      decide +kernel
    · rw [wordFragment, if_neg (by simp [isUrl])]
      decide +kernel
  have hj := Joinable.of_forall fun t ht => (htokens t ht).1
  have hj' := Joinable.of_forall fun t ht => (htokens t (hperm.mem_iff.2 ht)).1
  have hrow : rowWords { id := 1, typeId := Uuid.nil } = ["1"] := by
    simp [rowWords]
    decide +kernel
  have hsearch : ∀ ts e, ts.Perm [".x", ".a|1"] → Joinable ts →
      parse (ParsedQuery.assemble { wordFragments := ts.map (· ++ ":*") }) = some e →
      (searchFullText (memoryBackend { rows := [{ id := 1, typeId := Uuid.nil }] }
        ⟨[WorkItemType.root Uuid.nil "task"]⟩) {} {} (" ".intercalate ts) none none
        none).run' 0 =
      (⟨[WorkItemType.root Uuid.nil "task"]⟩ : MemoryCatalog).pageOf (.ok
        (MemoryStore.pageOfMatches {}
          (if e.holds ["1"] then [{ id := 1, typeId := Uuid.nil }] else []))) := by
    intro ts e hts hjoin he
    have htok :
        tokenize {} (" ".intercalate ts) = .ok { wordFragments := ts.map (· ++ ":*") } := by
      rw [tokenize_intercalate_words hjoin fun t ht => (htokens t (hts.mem_iff.1 ht)).2.1,
        List.map_congr_left fun t ht => (htokens t (hts.mem_iff.1 ht)).2.2]
    rw [searchFullText_memory_run', searchTextInMemory_of_answerable rfl rfl htok rfl
      (by simp [MemoryCatalog.answerable, he]) Pagination.validate_unbounded]
    simp [MemoryCatalog.matchesOf, MemoryCatalog.typeScope, answers, he, hrow,
      List.filter_cons]
  obtain ⟨item, hitem⟩ : ∃ item,
      (⟨[WorkItemType.root Uuid.nil "task"]⟩ : MemoryCatalog).convert
        { id := 1, typeId := Uuid.nil } = .ok item := ⟨_, rfl⟩
  refine ⟨hperm, hj, hj', ⟨item, ?_⟩, ?_⟩
  · rw [hsearch _ (.or (.and (.lexeme ".x" true) (.lexeme ".a" false)) (.lexeme "1" true))
      (List.Perm.refl _) hj (by decide +kernel), if_pos (by decide +kernel)]
    simp [MemoryCatalog.pageOf_ok, MemoryStore.pageOfMatches, MemoryStore.newestFirst,
      MemoryStore.window, wrapWord, hitem, Except.map]
  · rw [hsearch _ (.or (.lexeme ".a" false) (.and (.lexeme "1" true) (.lexeme ".x" true)))
      hperm.symm hj' (by decide +kernel), if_neg (by decide +kernel),
      MemoryStore.pageOfMatches_nil]
    rfl

end TrackerSearch
