import TrackerSearch.Proofs.DetailLinks
import TrackerSearch.Proofs.Paging

/-!
# Finding a stored item

A search of the whole store, with no offset, limit or space and a catalog under which every
stored row converts, returns every row whose words satisfy the expression it compiles to
(`searchFullText_finds`). The store's words of a row are its identifier in decimal and, for
its title and description, each word lowercased with its runs of letters and digits.

So a stored item is found by `id:` followed by its identifier; by each word of its title or
description that the search string takes as written (`SearchableWord`), a web address too when
no built-in pattern matches it; and by the detail address of its identifier, with or without a
scheme and in any case, which compiles to the identifier or the address
(`parse_of_detailLink`), when the address reader takes the detail domain for its host
(`searchFullText_finds_stored_item`).

Not every word is. A title word `c++` percent-decodes to `c` and two blanks, whose fragment the
store's reader refuses, and the search fails (`searchFullText_plus_word_refused`).
-/

namespace TrackerSearch

open Unicode TsQuery Token

/-! ## A search of the whole store -/

/-- A search of the whole store, with no type filter and no space, finds every row whose words
satisfy the expression it compiles to, when every stored row converts. -/
theorem searchFullText_finds {rows : List WorkItemRow} {catalog : MemoryCatalog}
    {registry : Registry} {raw : String} (calls : Nat) (hsize : rows.length < 2 ^ 64)
    (hconv : ∀ r ∈ rows, ∃ it, catalog.convert r = .ok it) {p : ParsedQuery}
    (hp : tokenize registry raw = .ok p) (htype : p.typeFilters = []) {e : TsQuery}
    (he : parse p.assemble = some e) {row : WorkItemRow} (hrow : row ∈ rows)
    (hholds : e.holds (rowWords row) = true) {item : WorkItem}
    (hitem : catalog.convert row = .ok item) :
    ∃ page, (searchFullText (memoryBackend { rows := rows } catalog) {} registry raw none none
      none).run' calls = .ok page ∧ item ∈ page.items := by
  have ha : catalog.answerable p = true := by
    simp [MemoryCatalog.answerable, he]
  have hscope : catalog.typeScope p.typeFilters = none := by
    simp [MemoryCatalog.typeScope, htype]
  set matched := catalog.matchesOf rows p none with hmatched
  have hsorted := MemoryStore.stableNewestFirst_newestFirst matched
  have hsub : ∀ r ∈ MemoryStore.newestFirst matched, r ∈ rows := fun r hr =>
    List.mem_of_mem_filter (hsorted.perm.mem_iff.1 hr)
  have hlen : (MemoryStore.newestFirst matched).length < 2 ^ 64 := by
    rw [hsorted.perm.length_eq]
    exact Nat.lt_of_le_of_lt (List.length_filter_le _ _) hsize
  obtain ⟨items, hitems⟩ := mapM_ok_of_forall fun r hr => hconv r (hsub r hr)
  have hmem : row ∈ MemoryStore.newestFirst matched := by
    refine hsorted.perm.mem_iff.2 (List.mem_filter.2 ⟨hrow, ?_⟩)
    simp [answers, hscope, he, hholds]
  refine ⟨⟨items, if (MemoryStore.newestFirst matched).isEmpty then 0 else matched.length⟩, ?_,
    mem_of_mapM_eq_ok hitems hmem hitem⟩
  rw [searchFullText_memory_run', searchTextInMemory_of_answerable rfl rfl hp rfl ha
    Pagination.validate_unbounded, MemoryCatalog.pageOf_ok, MemoryStore.pageOfMatches,
    ← hmatched, MemoryStore.window_unbounded _ hlen, hitems]
  rfl

/-! ## Words of a text -/

namespace Text

/-- A word: not empty, with no white space in it. -/
def Unbroken (s : String) : Prop :=
  s ≠ "" ∧ ∀ c ∈ s.toList, whiteSpace.contains c = false

theorem unbroken_ofList {cs : List Char} (hne : cs ≠ [])
    (h : ∀ c ∈ cs, whiteSpace.contains c = false) : Unbroken (String.ofList cs) :=
  ⟨fun he => hne (String.ofList_eq_empty_iff.1 he), by simpa using h⟩

/-- Finishing the run being read keeps every finished run a word. -/
theorem unbroken_finish {word : List Char} {acc : List String} (hacc : ∀ x ∈ acc, Unbroken x)
    (hword : ∀ c ∈ word, whiteSpace.contains c = false) :
    ∀ x ∈ (if word.isEmpty then acc else String.ofList word.reverse :: acc), Unbroken x := by
  split
  · exact hacc
  · next hne =>
    intro x hx
    rcases List.mem_cons.1 hx with rfl | hx
    · exact unbroken_ofList (by simpa using hne) (fun c hc => hword c (List.mem_reverse.1 hc))
    · exact hacc x hx

/-- The words of a text are words: the induction runs over the characters, with the finished
runs and the run being read as its invariant. -/
theorem unbroken_of_mem_wordsFrom : ∀ (cs word : List Char) (acc : List String),
    (∀ x ∈ acc, Unbroken x) → (∀ c ∈ word, whiteSpace.contains c = false) →
      ∀ w ∈ wordsFrom cs word acc, Unbroken w
  | [], word, acc, hacc, hword => by
    intro w hw
    rw [wordsFrom, List.mem_reverse] at hw
    exact unbroken_finish hacc hword w hw
  | c :: rest, word, acc, hacc, hword => by
    rw [wordsFrom]
    split
    · exact unbroken_of_mem_wordsFrom rest [] _ (unbroken_finish hacc hword) (by simp)
    · next hc =>
      refine unbroken_of_mem_wordsFrom rest (c :: word) acc hacc ?_
      intro d hd
      rcases List.mem_cons.1 hd with rfl | hd
      · simpa using hc
      · exact hword d hd

theorem unbroken_of_mem_words {text w : String} (h : w ∈ words text) : Unbroken w :=
  unbroken_of_mem_wordsFrom _ [] [] (by simp) (by simp) w h

/-- Characters that are no white space extend the run being read. -/
theorem wordsFrom_append_of_no_blank : ∀ (cs rest word : List Char) (acc : List String),
    (∀ c ∈ cs, whiteSpace.contains c = false) →
      wordsFrom (cs ++ rest) word acc = wordsFrom rest (cs.reverse ++ word) acc
  | [], _, _, _, _ => rfl
  | c :: cs, rest, word, acc, h => by
    rw [List.cons_append, wordsFrom, if_neg (by simp [h c List.mem_cons_self]),
      wordsFrom_append_of_no_blank cs rest (c :: word) acc fun d hd =>
        h d (List.mem_cons_of_mem c hd)]
    simp

/-- A word is its own only word. -/
theorem words_of_unbroken {w : String} (h : Unbroken w) : words w = [w] := by
  rw [words, ← List.append_nil w.toList, wordsFrom_append_of_no_blank _ _ _ _ h.2, wordsFrom,
    if_neg (by simpa using h.1), List.append_nil, List.reverse_reverse, String.ofList_toList]
  rfl

/-- Trimming a character that a text neither starts nor ends with leaves it as it is. -/
theorem trimChar_of_ends {c : Char} {s : String} (hhead : s.toList.head? ≠ some c)
    (hlast : s.toList.getLast? ≠ some c) : trimChar c s = s := by
  have hdrop : ∀ l : List Char, l.head? ≠ some c → l.dropWhile (· == c) = l := by
    intro l hl
    cases l with
    | nil => rfl
    | cons x r => simp_all
  have hrev : s.toList.reverse.head? ≠ some c := by
    rwa [List.head?_reverse]
  rw [trimChar, hdrop _ hhead, hdrop _ hrev, List.reverse_reverse, String.ofList_toList]

/-- Trimming a character that a text does not hold leaves it as it is. -/
theorem trimChar_of_not_mem {c : Char} {s : String} (h : ∀ x ∈ s.toList, x ≠ c) :
    trimChar c s = s :=
  trimChar_of_ends (fun hc => h c (List.mem_of_mem_head? hc) rfl)
    (fun hc => h c (List.mem_of_mem_getLast? hc) rfl)

end Text

/-! ## The words the store finds a row by -/

theorem lowercase_mem_rowWords {row : WorkItemRow} {field text w : String}
    (hfield : field ∈ [systemTitle, systemDescription])
    (htext : row.fields.lookup field = some (.str text)) (hw : w ∈ Text.words text) :
    lowercase w ∈ rowWords row := by
  unfold rowWords
  refine List.mem_cons_of_mem _ (List.mem_flatMap.2 ⟨field, hfield, ?_⟩)
  rw [htext]
  exact List.mem_flatMap.2 ⟨w, hw, List.mem_append_right _ (List.mem_singleton_self _)⟩

/-- A prefix lexeme holds of words that include it. -/
theorem holds_lexeme_of_mem {words : List String} {s : String} (h : s ∈ words) :
    (TsQuery.lexeme s true).holds words = true := by
  simp only [TsQuery.holds, List.any_eq_true]
  exact ⟨s, h, by simp [String.startsWith_string_iff]⟩

/-! ## Searching by a word -/

/-- A word that a search string takes as written: trimming and decoding leave it as it is, it is
no filter, no built-in pattern matches it if it is a web address, and lowercased it is a lexeme
with no scheme. -/
structure SearchableWord (w : String) : Prop where
  trimmed : Text.trimChar '"' (Text.trimChar '/' w) = w
  unescaped : ∀ c ∈ w.toList, c ≠ '%' ∧ c ≠ '+'
  word : isWordToken w = true
  unmatched : isUrl w = true → Registry.withDefaults.bestMatch (lowercase w) = none
  escapable : Escapable (lowercase w)
  no_scheme : Lexeme.trimProtocol (lowercase w) = lowercase w

/-- A searchable word means its lowercase form as a prefix lexeme, and can be written as its
fragment writes it. -/
theorem wordMeaning_of_searchable {w : String} (hs : SearchableWord w) :
    WordFits Registry.withDefaults w ∧
      wordMeaning Registry.withDefaults w = .lexeme (lowercase w) true := by
  unfold WordFits wordMeaning
  rw [hs.no_scheme]
  split
  · next hurl =>
    have hdec : Registry.withDefaults.decomposer (lowercase w) = none := by
      rw [Registry.decomposer, hs.unmatched hurl, Option.bind_none]
    refine ⟨⟨fun k hk => ?_, fun _ => ⟨hs.escapable, hs.no_scheme⟩⟩, ?_⟩
    · rw [hdec] at hk
      cases hk
    · rw [Registry.urlMeaning, hdec]
      rfl
  · exact ⟨hs.escapable, rfl⟩

/-- A searchable word compiles to its lowercase form as a prefix lexeme. -/
theorem parse_of_searchable {w : String} (hu : Text.Unbroken w) (hs : SearchableWord w) :
    ∃ p, tokenize Registry.withDefaults w = .ok p ∧ p.typeFilters = [] ∧
      parse p.assemble = some (.lexeme (lowercase w) true) := by
  have hd : decodedTokens w = [w] := by
    rw [decodedTokens, hs.trimmed, Text.words_of_unbroken hu, List.map_cons, List.map_nil,
      decode_of_unescaped hs.unescaped]
  obtain ⟨hfits, hmeaning⟩ := wordMeaning_of_searchable hs
  have hr := readsAs_wordFragment hfits
  rw [hmeaning] at hr
  have hreads : List.Forall₂ (fun f e => ReadsAs f.toList e)
      [wordFragment Registry.withDefaults w] [.lexeme (lowercase w) true] := .cons hr .nil
  exact ⟨_, tokenize_of_word hd hs.word, rfl,
    parse_assemble_of_readsAs (p := { wordFragments := [wordFragment Registry.withDefaults w] })
      hreads⟩

/-! ## Tokens taken as written -/

/-- Whether a character reaches the classifier as written and keeps its token whole: an ASCII
character that is no blank, percent sign, plus sign or double quote. -/
def passable (c : Char) : Bool :=
  decide (c.toNat < 128) && !whiteSpace.contains c && c != '%' && c != '+' && c != '"'

theorem passable_iff {c : Char} : passable c = true ↔
    c.toNat < 128 ∧ whiteSpace.contains c = false ∧ c ≠ '%' ∧ c ≠ '+' ∧ c ≠ '"' := by
  simp only [passable, Bool.and_eq_true, Bool.not_eq_true', bne_iff_ne, decide_eq_true_eq, and_assoc]

theorem passable_of_toLower {c : Char} (h : passable c.toLower = true) : passable c = true :=
  of_toLower (P := fun c => passable c = true) (by decide +kernel) h

theorem passable_of_isDigit {c : Char} (h : c.isDigit = true) : passable c = true :=
  of_isDigit (P := fun c => passable c = true) (by decide +kernel) h

/-- A non-empty string of passable characters with no slash at either end is its own only
decoded token. -/
theorem decodedTokens_of_passable {s : String} (hne : s ≠ "")
    (hpass : ∀ c ∈ s.toList, passable c = true) (hhead : s.toList.head? ≠ some '/')
    (hlast : s.toList.getLast? ≠ some '/') : decodedTokens s = [s] := by
  rw [decodedTokens, Text.trimChar_of_ends hhead hlast,
    Text.trimChar_of_not_mem fun c hc => (passable_iff.1 (hpass c hc)).2.2.2.2,
    Text.words_of_unbroken ⟨hne, fun c hc => (passable_iff.1 (hpass c hc)).2.1⟩, List.map_cons,
    List.map_nil, decode_of_unescaped fun c hc =>
      ⟨(passable_iff.1 (hpass c hc)).2.2.1, (passable_iff.1 (hpass c hc)).2.2.2.1⟩]

/-! ## Searching by an identifier -/

/-- The search string of an identifier compiles to the identifier as a prefix lexeme. -/
theorem parse_of_id (registry : Registry) (n : Nat) :
    ∃ p, tokenize registry ("id:" ++ toString n) = .ok p ∧ p.typeFilters = [] ∧
      parse p.assemble = some (.lexeme (toString n) true) := by
  have hdigits : ∀ c ∈ (toString n).toList, c.isDigit = true := fun c hc =>
    isDigit_of_mem_toString hc
  have htoList : ("id:" ++ toString n).toList = 'i' :: 'd' :: ':' :: (toString n).toList := by
    rw [String.toList_append]
    rfl
  have hchars : ∀ c ∈ ("id:" ++ toString n).toList, passable c = true ∧ c ≠ '/' := by
    rw [htoList]
    intro c hc
    simp only [List.mem_cons] at hc
    rcases hc with rfl | rfl | rfl | hc
    · exact ⟨by decide +kernel, by decide⟩
    · exact ⟨by decide +kernel, by decide⟩
    · exact ⟨by decide +kernel, by decide⟩
    · exact ⟨passable_of_isDigit (hdigits c hc), ne_of_isDigit (hdigits c hc) (by decide)⟩
  have hd : decodedTokens ("id:" ++ toString n) = ["id:" ++ toString n] :=
    decodedTokens_of_passable (by simp [← String.toList_inj]) (fun c hc => (hchars c hc).1)
      (fun h => (hchars '/' (List.mem_of_mem_head? h)).2 rfl)
      (fun h => (hchars '/' (List.mem_of_mem_getLast? h)).2 rfl)
  have hid : isIdToken ("id:" ++ toString n) = true := by
    rw [isIdToken, idPrefix, String.startsWith_string_iff, htoList]
    exact ⟨(toString n).toList, rfl⟩
  have hafter : afterPrefix ("id:" ++ toString n) idPrefix = toString n := by
    rw [afterPrefix, htoList]
    exact String.ofList_toList
  have hverbatim : Verbatim (toString n) :=
    ⟨⟨by simp, fun c hc => (plain_of_isDigit (hdigits c hc)).2.1⟩,
      fun c hc => (plain_of_isDigit (hdigits c hc)).2.2⟩
  have hlower : lowercase (toString n) = toString n :=
    lowercase_of_lowered fun c hc => settled_of_isDigit (hdigits c hc)
  have hv : Verbatim (afterPrefix ("id:" ++ toString n) idPrefix) := by
    rwa [hafter]
  have hr := readsAs_idFragment hv
  rw [idMeaning, hafter, hlower] at hr
  have hreads : List.Forall₂ (fun f e => ReadsAs f.toList e) [idFragment ("id:" ++ toString n)]
      [.lexeme (toString n) true] := .cons hr .nil
  exact ⟨_, tokenize_of_id hd hid, rfl,
    parse_assemble_of_readsAs (p := { idFragments := [idFragment ("id:" ++ toString n)] }) hreads⟩

/-! ## Searching by a detail address -/

/-- The schemes a detail address may be written with. -/
def detailSchemes : List String := ["", "http://", "https://"]

/-- A search string that is the detail address of an identifier, in the list or the board view,
with or without a scheme, its ASCII letters in any case. -/
def DetailLink (id : Nat) (s : String) : Prop :=
  ∃ scheme ∈ detailSchemes, ∃ view ∈ ["list", "board"],
    s.toList.map Char.toLower = scheme.toList ++ detailText view (toString id).toList

theorem length_toString_le {n : Nat} (h : n < 2 ^ 64) : (toString n).toList.length ≤ 20 := by
  simp only [Nat.toString_eq_repr, Nat.toList_repr]
  exact (Nat.length_toDigits_le_iff (by decide) (by decide)).2 (Nat.lt_trans h (by decide))

/-- A detail address up to its identifier, with any of its schemes, is at most 48 passable
characters. -/
theorem detailPrefix_passable {scheme view : String} (hscheme : scheme ∈ detailSchemes)
    (hview : view ∈ ["list", "board"]) :
    (scheme.toList ++ (detailDomain.toList ++ (detailPath view).toList)).length ≤ 48 ∧
      ∀ c ∈ scheme.toList ++ (detailDomain.toList ++ (detailPath view).toList),
        passable c = true := by
  have hall : (detailSchemes.all fun sc => ["list", "board"].all fun v =>
      decide ((sc.toList ++ (detailDomain.toList ++ (detailPath v).toList)).length ≤ 48) &&
        (sc.toList ++ (detailDomain.toList ++ (detailPath v).toList)).all passable) = true := by
    decide +kernel
  have h := List.all_eq_true.1 (List.all_eq_true.1 hall scheme hscheme) view hview
  simp only [Bool.and_eq_true, decide_eq_true_eq, List.all_eq_true] at h
  exact h

/-- A detail address starts with its scheme or its domain, as none of the prefixes of an
identifier filter, a type filter, a hidden name or a path starts. -/
theorem detailStart {scheme : String} (hscheme : scheme ∈ detailSchemes) :
    ∀ p ∈ [idPrefix, typePrefix, ".", "/"], p.toList ≠ [] ∧
      p.toList.head?.map Char.toLower ≠ (scheme.toList ++ detailDomain.toList).head? := by
  have hall : (detailSchemes.all fun sc => [idPrefix, typePrefix, ".", "/"].all fun p =>
      !p.toList.isEmpty &&
        p.toList.head?.map Char.toLower != (sc.toList ++ detailDomain.toList).head?) = true := by
    decide +kernel
  intro p hp
  have h := List.all_eq_true.1 (List.all_eq_true.1 hall scheme hscheme) p hp
  simp only [Bool.and_eq_true, Bool.not_eq_true', List.isEmpty_eq_false_iff, bne_iff_ne] at h
  exact h

theorem trimProtocol_detail {scheme : String} (hscheme : scheme ∈ detailSchemes) (view : String)
    (digits : List Char) :
    Lexeme.trimProtocol (String.ofList (scheme.toList ++ detailText view digits)) =
      String.ofList (detailText view digits) := by
  simp only [detailSchemes, List.mem_cons, List.not_mem_nil, or_false] at hscheme
  rcases hscheme with rfl | rfl | rfl <;>
    simp [Lexeme.trimProtocol, String.startsWith_string_iff, detailText, detailDomain]

section Lowered

variable {s scheme view : String} {digits : List Char}

/-- The characters of a search string that lowers to a detail address are passable. -/
theorem passable_of_lowered (hscheme : scheme ∈ detailSchemes) (hview : view ∈ ["list", "board"])
    (hd : ∀ c ∈ digits, c.isDigit = true)
    (hs : s.toList.map Char.toLower = scheme.toList ++ detailText view digits) :
    ∀ c ∈ s.toList, passable c = true := by
  intro c hc
  apply passable_of_toLower
  have hmem : c.toLower ∈ scheme.toList ++ detailText view digits := hs ▸ List.mem_map_of_mem hc
  rw [detailText, ← List.append_assoc, List.mem_append] at hmem
  rcases hmem with hp | hdig
  · exact (detailPrefix_passable hscheme hview).2 _ hp
  · exact passable_of_isDigit (hd _ hdig)

theorem head?_of_lowered (hs : s.toList.map Char.toLower = scheme.toList ++ detailText view digits) :
    s.toList.head?.map Char.toLower = (scheme.toList ++ detailDomain.toList).head? := by
  rw [← List.head?_map, hs, detailText, List.append_assoc, ← List.append_assoc scheme.toList]
  exact List.head?_append_of_ne_nil _ (by simp [detailDomain])

theorem getLast?_of_lowered (hne : digits ≠ [])
    (hs : s.toList.map Char.toLower = scheme.toList ++ detailText view digits) :
    s.toList.getLast?.map Char.toLower = digits.getLast? := by
  rw [← List.getLast?_map, hs, detailText, ← List.append_assoc, List.getLast?_append_of_ne_nil _ hne]

theorem ne_empty_of_lowered
    (hs : s.toList.map Char.toLower = scheme.toList ++ detailText view digits) : s ≠ "" := by
  rintro rfl
  simp [detailText, detailDomain] at hs

theorem startsWith_of_lowered (hscheme : scheme ∈ detailSchemes)
    (hs : s.toList.map Char.toLower = scheme.toList ++ detailText view digits) {p : String}
    (hp : p ∈ [idPrefix, typePrefix, ".", "/"]) : s.startsWith p = false := by
  obtain ⟨hne, hhead⟩ := detailStart hscheme p hp
  cases h : s.startsWith p
  · rfl
  · obtain ⟨t, ht⟩ := String.startsWith_string_iff.1 h
    refine absurd ?_ hhead
    rw [← head?_of_lowered hs, ← ht, List.head?_append_of_ne_nil _ hne]

/-- A search string that lowers to a detail address is its own only decoded token. -/
theorem decodedTokens_of_lowered (hscheme : scheme ∈ detailSchemes)
    (hview : view ∈ ["list", "board"]) (hd : ∀ c ∈ digits, c.isDigit = true) (hne : digits ≠ [])
    (hs : s.toList.map Char.toLower = scheme.toList ++ detailText view digits) :
    decodedTokens s = [s] := by
  refine decodedTokens_of_passable (ne_empty_of_lowered hs) (passable_of_lowered hscheme hview hd hs)
    (fun h => ?_) (fun h => ?_)
  · have hfirst := head?_of_lowered hs
    rw [h] at hfirst
    exact (detailStart hscheme "/" (by simp)).2 hfirst
  · have hfinal := getLast?_of_lowered hne hs
    rw [h, Option.map_some] at hfinal
    exact absurd (hd _ (List.mem_of_getLast? hfinal.symm)) (by decide)

/-- A search string that lowers to a detail address is a web address, when the address reader
takes its host to be the detail domain. -/
theorem isUrl_of_lowered (hscheme : scheme ∈ detailSchemes) (hview : view ∈ ["list", "board"])
    (hd : ∀ c ∈ digits, c.isDigit = true) (hlen : digits.length ≤ 20)
    (hs : s.toList.map Char.toLower = scheme.toList ++ detailText view digits)
    (hparse : ∃ a, Url.WebAddress.parse? (urlCandidate s) = some a ∧ a.host = .domain detailDomain) :
    isUrl s = true := by
  obtain ⟨a, ha, hhost⟩ := hparse
  have hpass := passable_of_lowered hscheme hview hd hs
  have hempty : s.isEmpty = false := by
    rw [Bool.eq_false_iff, ne_eq, String.isEmpty_iff]
    exact ne_empty_of_lowered hs
  have hbytes : Utf8.byteLength s < maxUrlLength := by
    have hsize := Utf8.byteLength_ofList_le s.toList
    have hlength := congrArg List.length hs
    rw [String.ofList_toList] at hsize
    rw [List.length_map, detailText, ← List.append_assoc, List.length_append] at hlength
    have hprefix := (detailPrefix_passable hscheme hview).1
    rw [maxUrlLength]
    omega
  have hblank : s.any whiteSpace.contains = false := by
    simp only [String.any, String.contains_bool_eq, List.any_eq_false]
    intro c hc
    simp [(passable_iff.1 (hpass c hc)).2.1]
  have hweb : Url.isWebDomain detailDomain = true := by
    rw [Url.isWebDomain, String.contains_char_eq]
    decide +kernel
  rw [isUrl, hempty, startsWith_of_lowered hscheme hs (by simp), hblank,
    decide_eq_false (Nat.not_le.2 hbytes)]
  simp only [Bool.or_false, Bool.false_eq_true, if_false, ha, hhost, hweb]

end Lowered

/-- A detail address of an identifier, with or without its scheme and in any case, compiles to
the identifier or the address without its scheme, each as a prefix lexeme, when the address
reader takes its host to be the detail domain. -/
theorem parse_of_detailLink {id : Nat} {s : String} (hid : id < 2 ^ 64) (hlink : DetailLink id s)
    (hparse : ∃ a, Url.WebAddress.parse? (urlCandidate s) = some a ∧ a.host = .domain detailDomain) :
    ∃ p, tokenize Registry.withDefaults s = .ok p ∧ p.typeFilters = [] ∧
      parse p.assemble = some (.or (.lexeme (toString id) true)
        (.lexeme (Lexeme.trimProtocol (lowercase s)) true)) := by
  obtain ⟨scheme, hscheme, view, hview, hs⟩ := hlink
  have hd : ∀ c ∈ (toString id).toList, c.isDigit = true := fun c hc => isDigit_of_mem_toString hc
  have hne : (toString id).toList ≠ [] := by simp
  have hurl := isUrl_of_lowered hscheme hview hd (length_toString_le hid) hs hparse
  have hword : isWordToken s = true := by
    simp [isWordToken, startsWith_of_lowered hscheme hs (p := idPrefix) (by simp),
      startsWith_of_lowered hscheme hs (p := typePrefix) (by simp)]
  have hascii : ∀ c ∈ s.toList, c.toNat < 128 := fun c hc =>
    (passable_iff.1 (passable_of_lowered hscheme hview hd hs c hc)).1
  have htrim : Lexeme.trimProtocol (lowercase s) =
      String.ofList (detailText view (toString id).toList) := by
    rw [lowercase_of_ascii hascii, hs, trimProtocol_detail hscheme]
  obtain ⟨hfits, hmeaning⟩ := urlMeaning_detail hview hd hne
  have hurlMeaning : Registry.withDefaults.urlMeaning (Lexeme.trimProtocol (lowercase s)) =
      .or (.lexeme (toString id) true) (.lexeme (Lexeme.trimProtocol (lowercase s)) true) := by
    rw [htrim, hmeaning, String.ofList_toList]
  have hr := readsAs_wordFragment (show WordFits Registry.withDefaults s by
    rw [WordFits, if_pos hurl, htrim]
    exact hfits)
  rw [wordMeaning, if_pos hurl, hurlMeaning] at hr
  exact ⟨_, tokenize_of_word (decodedTokens_of_lowered hscheme hview hd hne hs) hword, rfl,
    parse_assemble_of_readsAs (p := { wordFragments := [wordFragment Registry.withDefaults s] })
      (.cons hr .nil)⟩

/-! ## Finding a stored item -/

/-- A search of the whole store finds a stored item by `id:` and its identifier, by each word of
its title or description that the search string takes as written, and by the detail address of
its identifier that the address reader takes, when every stored row converts. -/
theorem searchFullText_finds_stored_item (rows : List WorkItemRow) (catalog : MemoryCatalog)
    (calls : Nat) (hsize : rows.length < 2 ^ 64)
    (hconv : ∀ row ∈ rows, ∃ item, catalog.convert row = .ok item)
    {row : WorkItemRow} (hrow : row ∈ rows) {item : WorkItem}
    (hitem : catalog.convert row = .ok item) :
    (∃ page, (searchFullText (memoryBackend { rows := rows } catalog) {} Registry.withDefaults
        ("id:" ++ toString item.id) none none none).run' calls = .ok page ∧ item ∈ page.items) ∧
    (∀ field ∈ [systemTitle, systemDescription], ∀ text,
      row.fields.lookup field = some (.str text) → ∀ w ∈ Text.words text, SearchableWord w →
        ∃ page, (searchFullText (memoryBackend { rows := rows } catalog) {} Registry.withDefaults
          w none none none).run' calls = .ok page ∧ item ∈ page.items) ∧
    (item.id < 2 ^ 64 → ∀ s, DetailLink item.id s →
      (∃ a, Url.WebAddress.parse? (urlCandidate s) = some a ∧ a.host = .domain detailDomain) →
        ∃ page, (searchFullText (memoryBackend { rows := rows } catalog) {} Registry.withDefaults
          s none none none).run' calls = .ok page ∧ item ∈ page.items) := by
  have hid : toString item.id ∈ rowWords row := by
    rw [rowWords, ← MemoryCatalog.convert_id hitem]
    exact List.mem_cons_self
  refine ⟨?_, ?_, ?_⟩
  · obtain ⟨p, hp, htype, he⟩ := parse_of_id Registry.withDefaults item.id
    exact searchFullText_finds calls hsize hconv hp htype he hrow (holds_lexeme_of_mem hid) hitem
  · intro field hfield text htext w hw hs
    obtain ⟨p, hp, htype, he⟩ := parse_of_searchable (Text.unbroken_of_mem_words hw) hs
    exact searchFullText_finds calls hsize hconv hp htype he hrow
      (holds_lexeme_of_mem (lowercase_mem_rowWords hfield htext hw)) hitem
  · intro hbound s hlink hparse
    obtain ⟨p, hp, htype, he⟩ := parse_of_detailLink hbound hlink hparse
    have hholds : (TsQuery.or (.lexeme (toString item.id) true)
        (.lexeme (Lexeme.trimProtocol (lowercase s)) true)).holds (rowWords row) = true := by
      rw [TsQuery.holds, holds_lexeme_of_mem hid, Bool.true_or]
    exact searchFullText_finds calls hsize hconv hp htype he hrow hholds hitem

/-- One item numbered 7 and titled `example.com`, a web address no built-in pattern matches, is
found by `id:7`, by its title and by its detail address in mixed case. -/
theorem searchFullText_finds_example_com :
    ∃ item, (⟨[{ id := Uuid.nil, name := "task", path := "task" }]⟩ : MemoryCatalog).convert
        { id := 7, typeId := Uuid.nil, fields := [(systemTitle, .str "example.com")] } = .ok item ∧
      SearchableWord "example.com" ∧
      DetailLink item.id "HTTPS://Demo.Almighty.IO/Work-Item/List/Detail/7" ∧
      (∃ page, (searchFullText (memoryBackend
          { rows := [{ id := 7, typeId := Uuid.nil, fields := [(systemTitle, .str "example.com")] }] }
          ⟨[{ id := Uuid.nil, name := "task", path := "task" }]⟩) {} Registry.withDefaults
          ("id:" ++ toString item.id) none none none).run' 0 = .ok page ∧ item ∈ page.items) ∧
      (∀ field ∈ [systemTitle, systemDescription], ∀ text,
        List.lookup field [(systemTitle, Json.str "example.com")] = some (.str text) →
        ∀ w ∈ Text.words text, SearchableWord w →
          ∃ page, (searchFullText (memoryBackend
            { rows := [{ id := 7, typeId := Uuid.nil, fields := [(systemTitle, .str "example.com")] }] }
            ⟨[{ id := Uuid.nil, name := "task", path := "task" }]⟩) {} Registry.withDefaults
            w none none none).run' 0 = .ok page ∧ item ∈ page.items) ∧
      (item.id < 2 ^ 64 → ∀ s, DetailLink item.id s →
        (∃ a, Url.WebAddress.parse? (urlCandidate s) = some a ∧ a.host = .domain detailDomain) →
          ∃ page, (searchFullText (memoryBackend
            { rows := [{ id := 7, typeId := Uuid.nil, fields := [(systemTitle, .str "example.com")] }] }
            ⟨[{ id := Uuid.nil, name := "task", path := "task" }]⟩) {} Registry.withDefaults
            s none none none).run' 0 = .ok page ∧ item ∈ page.items) := by
  obtain ⟨item, hconv⟩ : ∃ item,
      (⟨[{ id := Uuid.nil, name := "task", path := "task" }]⟩ : MemoryCatalog).convert
        { id := 7, typeId := Uuid.nil, fields := [(systemTitle, .str "example.com")] } = .ok item :=
    ⟨_, rfl⟩
  have h7 : item.id = 7 := by
    have h := MemoryCatalog.convert_id hconv
    simp only at h
    omega
  have hlower : lowercase "example.com" = "example.com" := by
    decide +kernel
  have hword : SearchableWord "example.com" :=
    { trimmed := by
        rw [Text.trimChar_of_not_mem (c := '/') (by simp), Text.trimChar_of_not_mem (by simp)]
      unescaped := by simp
      word := by decide +kernel
      unmatched := fun _ => bestMatch_withDefaults_eq_none (by rw [hlower]; simp)
      escapable := by decide +kernel
      no_scheme := by decide +kernel }
  have hlink : DetailLink item.id "HTTPS://Demo.Almighty.IO/Work-Item/List/Detail/7" := by
    rw [h7]
    exact ⟨"https://", by simp [detailSchemes], "list", by simp, rfl⟩
  exact ⟨item, hconv, hword, hlink, searchFullText_finds_stored_item _ _ 0 (by decide)
    (fun r hr => ⟨_, (List.mem_singleton.1 hr) ▸ hconv⟩) (List.mem_singleton_self _) hconv⟩

/-- A title word `c++` does not find its item: percent-decoding makes the token `c` and two
blanks, whose fragment the store's reader refuses, so the search fails. -/
theorem searchFullText_plus_word_refused :
    (∃ item, (⟨[{ id := Uuid.nil, name := "task", path := "task" }]⟩ : MemoryCatalog).convert
        { id := 1, typeId := Uuid.nil, fields := [(systemTitle, .str "c++")] } = .ok item) ∧
      Text.words "c++" = ["c++"] ∧
      (searchFullText (memoryBackend
          { rows := [{ id := 1, typeId := Uuid.nil, fields := [(systemTitle, .str "c++")] }] }
          ⟨[{ id := Uuid.nil, name := "task", path := "task" }]⟩) {} Registry.withDefaults
          "c++" none none none).run' 0 = .error (.internal "syntax error in tsquery") := by
  have hdecode : decodedTokens "c++" = ["c  "] := by
    have hwords : Text.words (Text.trimChar '"' (Text.trimChar '/' "c++")) = ["c++"] := by
      decide +kernel
    rw [decodedTokens, hwords, List.map_cons, List.map_nil, decode_of_ascii (by simp) (by simp)]
    decide +kernel
  have hfragment : wordFragment Registry.withDefaults "c  " = "c  :*" := by
    rw [wordFragment, if_neg (by simp [isUrl, String.any, whiteSpace_space])]
    decide +kernel
  have htok : tokenize Registry.withDefaults "c++" = .ok { wordFragments := ["c  :*"] } := by
    rw [tokenize_of_word hdecode (by decide +kernel), hfragment]
  have hrefused : (⟨[{ id := Uuid.nil, name := "task", path := "task" }]⟩ : MemoryCatalog).answerable
      { wordFragments := ["c  :*"] } = false := by
    have hparse : parse "c  :*" = none := by
      decide +kernel
    simp [MemoryCatalog.answerable, MemoryCatalog.typeScope, ParsedQuery.assemble,
      assembleFragments, hparse]
  refine ⟨⟨_, rfl⟩, by decide +kernel, ?_⟩
  rw [searchFullText_memory_run']
  unfold searchTextInMemory
  rw [htok]
  simp only [parseSpaceId]
  rw [searchInMemory_of_valid rfl _ rfl _ Pagination.validate_unbounded, if_neg (by simp [hrefused])]

end TrackerSearch
