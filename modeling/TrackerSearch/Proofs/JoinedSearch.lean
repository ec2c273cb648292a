import TrackerSearch.Proofs.TokenOrder

/-!
# Search strings joined by a blank

The tokenizer trims the whole search string once, splits it at white space, and then decodes and
classifies each token on its own, stopping at the first refused token. So a search string made of
two parts joined by a blank is tokenized as the first part and then the second, as long as neither
part has a slash or a double quote at an end, where trimming would take it off: the first refusal
of the first part decides, else the first of the second, and otherwise the identifier and word
fragments of the two come one after the other and the type filters are the union of both
(`tokenize_join_and_single`).

A single token is decoded when it can be and classified as a whole: decoding that puts a blank
into it (`a+b`) does not split it again.
-/

namespace TrackerSearch

open Unicode Token

/-! ## Words of joined texts -/

namespace Text

/-- The reader of words only puts finished words in front of what it reads after them. -/
theorem wordsFrom_acc : ∀ (cs word : List Char) (acc : List String),
    wordsFrom cs word acc = acc.reverse ++ wordsFrom cs word []
  | [], word, acc => by
    simp only [wordsFrom]
    split <;> simp
  | c :: rest, word, acc => by
    simp only [wordsFrom]
    split
    · rw [wordsFrom_acc rest [] (if word.isEmpty then acc else _),
        wordsFrom_acc rest [] (if word.isEmpty then [] else _)]
      split <;> simp
    · exact wordsFrom_acc rest (c :: word) acc

/-- White space ends the word being read, and what follows it is read afresh. -/
theorem wordsFrom_append_blank {c : Char} (hc : whiteSpace.contains c = true) (ds : List Char) :
    ∀ (cs word : List Char) (acc : List String),
      wordsFrom (cs ++ c :: ds) word acc = wordsFrom cs word acc ++ wordsFrom ds [] []
  | [], word, acc => by
    rw [List.nil_append, wordsFrom.eq_2, if_pos hc, wordsFrom_acc]
    rfl
  | x :: cs, word, acc => by
    rw [List.cons_append, wordsFrom, wordsFrom]
    split
    · exact wordsFrom_append_blank hc ds cs [] _
    · exact wordsFrom_append_blank hc ds cs (x :: word) acc

/-- The words of two texts joined by a blank are the words of the first and then of the second. -/
theorem words_join (a b : String) : words (a ++ " " ++ b) = words a ++ words b := by
  rw [words, String.toList_append, String.toList_append, List.append_assoc,
    show " ".toList = [' '] from rfl, List.singleton_append,
    wordsFrom_append_blank TsQuery.whiteSpace_space]
  rfl

end Text

/-! ## Trimming joined texts -/

/-- Two texts with clear ends, joined by a blank, have clear ends. -/
theorem ClearEnds.join {a b : String} (ha : ClearEnds a) (hb : ClearEnds b) :
    ClearEnds (a ++ " " ++ b) := by
  intro c hc
  have hblank : some ' ' ≠ some c := by
    simp only [List.mem_cons, List.not_mem_nil, or_false] at hc
    rcases hc with rfl | rfl <;> decide
  rw [String.toList_append, String.toList_append, List.append_assoc,
    show " ".toList = [' '] from rfl, List.singleton_append]
  constructor
  · rw [List.head?_append]
    have hfirst := (ha c hc).1
    cases hhead : a.toList.head? with
    | none => simpa using hblank
    | some x =>
      rw [hhead] at hfirst
      simpa using hfirst
  · rw [List.getLast?_append, List.getLast?_cons]
    cases hlast : b.toList.getLast? with
    | none => simpa using hblank
    | some x => simpa [hlast] using (hb c hc).2

/-- Trimming leaves a search string with clear ends as it is. -/
theorem trimChars_of_clearEnds {s : String} (h : ClearEnds s) :
    Text.trimChar '"' (Text.trimChar '/' s) = s := by
  rw [Text.trimChar_of_ends (h '/' (by simp)).1 (h '/' (by simp)).2,
    Text.trimChar_of_ends (h '"' (by simp)).1 (h '"' (by simp)).2]

/-- The decoded tokens of two search strings with clear ends, joined by a blank, are those of the
first and then those of the second. -/
theorem decodedTokens_join {a b : String} (ha : ClearEnds a) (hb : ClearEnds b) :
    decodedTokens (a ++ " " ++ b) = decodedTokens a ++ decodedTokens b := by
  rw [decodedTokens, decodedTokens, decodedTokens, trimChars_of_clearEnds (ha.join hb),
    trimChars_of_clearEnds ha, trimChars_of_clearEnds hb, Text.words_join, List.map_append]

/-! ## Parsed search strings one after the other -/

/-- The filters and fragments of two search strings, one after the other: the identifier and word
fragments of the first and then of the second, and the type filters of both, ascending. -/
def ParsedQuery.append (p q : ParsedQuery) : ParsedQuery where
  typeFilters := q.typeFilters.foldl (fun acc u => insertSorted u acc) p.typeFilters
  idFragments := p.idFragments ++ q.idFragments
  wordFragments := p.wordFragments ++ q.wordFragments

namespace ParsedQuery

theorem ext_fields {p q : ParsedQuery} (ht : p.typeFilters = q.typeFilters)
    (hi : p.idFragments = q.idFragments) (hw : p.wordFragments = q.wordFragments) : p = q := by
  cases p
  cases q
  simp_all

/-- The type filters of two parsed search strings together are the union of theirs. -/
theorem mem_typeFilters_append (p q : ParsedQuery) (u : Uuid) :
    u ∈ (p.append q).typeFilters ↔ u ∈ p.typeFilters ∨ u ∈ q.typeFilters := by
  simpa [append] using mem_foldl_insertSorted id q.typeFilters p.typeFilters u

/-- Recording tokens adds to a list of fragments what recording them from scratch gives, when
the list starts empty and one token adds what it adds from scratch. The fragments are one such
list, each kind of them. -/
theorem foldl_push_fragments (field : ParsedQuery → List String) (hempty : field {} = [])
    (hfield : ∀ p tok, field (p.push tok) = field p ++ field (({} : ParsedQuery).push tok)) :
    ∀ (toks : List SearchToken) (p : ParsedQuery),
      field (toks.foldl push p) = field p ++ field (toks.foldl push {})
  | [], p => by rw [List.foldl_nil, List.foldl_nil, hempty, List.append_nil]
  | tok :: toks, p => by
    rw [List.foldl_cons, List.foldl_cons, foldl_push_fragments field hempty hfield toks (p.push tok),
      foldl_push_fragments field hempty hfield toks (({} : ParsedQuery).push tok), hfield,
      List.append_assoc]

/-- Recording tokens after a parsed search string adds to it what recording them from scratch
gives. -/
theorem foldl_push_eq_append (toks : List SearchToken) {p : ParsedQuery}
    (hp : Ascending p.typeFilters) : toks.foldl push p = p.append (toks.foldl push {}) := by
  obtain ⟨hasc, hmem⟩ := Token.typeFilters_foldl_push toks p hp
  obtain ⟨-, hmem₀⟩ := Token.typeFilters_foldl_push toks {} List.Pairwise.nil
  refine ext_fields ?_ ?_ ?_
  · refine hasc.eq_of_mem_iff (ascending_foldl_insertSorted id _ hp) fun u => ?_
    rw [hmem, mem_typeFilters_append, hmem₀]
    simp
  · exact foldl_push_fragments idFragments rfl (fun q tok => by cases tok <;> simp [push]) toks p
  · exact foldl_push_fragments wordFragments rfl (fun q tok => by cases tok <;> simp [push]) toks p

end ParsedQuery

/-! ## The tokenizer on joined search strings -/

namespace Token

/-- Tokenizing further tokens after a parsed search string adds to it what tokenizing them alone
gives, or fails as that does. -/
theorem foldlM_pushToken_of_ascending (registry : Registry) (parts : List String)
    {p : ParsedQuery} (hp : Ascending p.typeFilters) :
    parts.foldlM (pushToken registry) p =
      (parts.foldlM (pushToken registry) {}).map p.append := by
  rw [foldlM_pushToken_eq, foldlM_pushToken_eq]
  cases parts.mapM (classify registry) with
  | error e => rfl
  | ok toks => exact congrArg Except.ok (ParsedQuery.foldl_push_eq_append toks hp)

theorem tokenize_join {registry : Registry} {a b : String} (ha : ClearEnds a) (hb : ClearEnds b) :
    tokenize registry (a ++ " " ++ b) = (do
      let p ← tokenize registry a
      let q ← tokenize registry b
      return p.append q) := by
  rw [tokenize_eq_foldlM, decodedTokens_join ha hb, List.foldlM_append, ← tokenize_eq_foldlM]
  cases hp : tokenize registry a with
  | error e => simp only [bind, Except.bind]
  | ok p =>
    have hasc := (tokenize_typeFilters hp).1
    simp only [bind, Except.bind]
    rw [foldlM_pushToken_of_ascending registry _ hasc, ← tokenize_eq_foldlM]
    cases tokenize registry b <;> simp only [Except.map, pure, Except.pure]

/-- A search string of one token with clear ends is that token, decoded, classified and recorded. -/
theorem tokenize_single {registry : Registry} {t : String} (hu : Text.Unbroken t)
    (ht : ClearEnds t) :
    tokenize registry t = (classify registry (decode t)).map (ParsedQuery.push {}) := by
  have hd : decodedTokens t = [decode t] := by
    rw [decodedTokens, trimChars_of_clearEnds ht, Text.words_of_unbroken hu]
    rfl
  rw [tokenize_eq_foldlM, hd]
  cases hc : classify registry (decode t) <;>
    simp [List.foldlM_cons, pushToken, hc, bind, Except.bind, pure, Except.pure, Except.map]

/-- Two parts with clear ends joined by a blank tokenize as the first then the second, failing
with the first refusal; a single clear token is decoded, classified and recorded whole. -/
theorem tokenize_join_and_single (registry : Registry) :
    (∀ a b, ClearEnds a → ClearEnds b →
      tokenize registry (a ++ " " ++ b) = (do
        let p ← tokenize registry a
        let q ← tokenize registry b
        return p.append q)) ∧
    (∀ t, Text.Unbroken t → ClearEnds t →
      (∀ d, Percent.unescape t = .ok d →
        tokenize registry t = (classify registry d).map (ParsedQuery.push {})) ∧
      (∀ e, Percent.unescape t = .error e →
        tokenize registry t = (classify registry t).map (ParsedQuery.push {}))) := by
  refine ⟨fun a b ha hb => tokenize_join ha hb, fun t hu ht => ⟨?_, ?_⟩⟩
  · intro d hd
    rw [tokenize_single hu ht, decode, hd]
  · intro e he
    rw [tokenize_single hu ht, decode, he]

/-- An identifier filter joined to a word with a plus sign: the plus sign decodes to a blank, and
the word `a b` is classified as a whole. -/
theorem tokenize_join_plus :
    ClearEnds "id:7" ∧ ClearEnds "a+b" ∧
    tokenize {} ("id:7" ++ " " ++ "a+b") = (do
      let p ← tokenize {} "id:7"
      let q ← tokenize {} "a+b"
      return p.append q) ∧
    Text.Unbroken "a+b" ∧ Percent.unescape "a+b" = .ok "a b" ∧
    tokenize {} "a+b" = (classify {} "a b").map (ParsedQuery.push {}) := by
  have hid : ClearEnds "id:7" := by simp [ClearEnds]
  have hab : ClearEnds "a+b" := by simp [ClearEnds]
  have hu : Text.Unbroken "a+b" := Text.unbroken_of_all (by simp) (by decide +kernel)
  have hdec : Percent.unescape "a+b" = .ok "a b" := by
    rw [Percent.unescape_of_ascii (by simp) (by simp)]
    decide +kernel
  exact ⟨hid, hab, (tokenize_join_and_single {}).1 _ _ hid hab, hu, hdec,
    ((tokenize_join_and_single {}).2 _ hu hab).1 _ hdec⟩

end Token

end TrackerSearch
