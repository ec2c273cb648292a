import TrackerSearch.Search.Token
import TrackerSearch.Proofs.Lowercase
import TrackerSearch.Proofs.ExpressionRead
import TrackerSearch.Proofs.PercentDecoding

/-!
# What a search string means to the store

A search string is cut into tokens, each token percent-decoded and classified, and the
fragments of the identifier and word tokens are joined by ` & ` into one query expression,
which the store reads back with its own parser. This module says what each decoded token was
built to denote: an identifier value as a prefix lexeme; a word, or a web address that no known
pattern decomposes, without its scheme as a prefix lexeme; a decomposed address as the lexeme of
its groups, or as that lexeme or its bare `id` group. The main statement is that the store reads
the compiled expression as the left-nested conjunction of those meanings, identifier tokens
first, when every token can be written as its fragment writes it (`Fits`):
`parse_assemble_eq_conjunction`. On the way, the compiled expression is one join of all the
fragments, identifier fragments first, whenever none is empty, as none the tokenizer makes is
(`assemble_eq_intercalate`, `tokenize_fragments_ne_empty`).

The condition is needed. Percent-decoding can put a blank, `&`, `|` or a backslash into a
token, and neither the identifier values, the composite of a known pattern's groups nor its
group-less matches are fully escaped: the search string `a+b` decodes to the token `a b`, whose
fragment the store's parser refuses (`tokenize_plus_refused`).
-/

namespace TrackerSearch

open Unicode TsQuery

/-! ## Texts a fragment can hold -/

namespace TsQuery

/-- A text the reader takes as one lexeme once its reserved characters are escaped: it is not
empty and has no blank, `&`, `|` or backslash. -/
def Escapable (s : String) : Prop :=
  s ≠ "" ∧ ∀ c ∈ s.toList, plainChar c = true

/-- A text the reader takes as one lexeme as it is written: escapable, with no reserved
character either. -/
def Verbatim (s : String) : Prop :=
  Escapable s ∧ ∀ c ∈ s.toList, Lexeme.isReserved c = false

theorem escapable_iff (s : String) :
    Escapable s ↔ s.isEmpty = false ∧ s.toList.all plainChar = true := by
  simp [Escapable]

theorem verbatim_iff (s : String) : Verbatim s ↔
    s.isEmpty = false ∧ s.toList.all (fun c => plainChar c && !Lexeme.isReserved c) = true := by
  simp only [Verbatim, escapable_iff, List.all_eq_true, Bool.and_eq_true, Bool.not_eq_true']
  constructor
  · rintro ⟨⟨hne, hp⟩, hr⟩
    exact ⟨hne, fun c hc => ⟨hp c hc, hr c hc⟩⟩
  · rintro ⟨hne, h⟩
    exact ⟨⟨hne, fun c hc => (h c hc).1⟩, fun c hc => (h c hc).2⟩

instance : DecidablePred Escapable :=
  fun s => decidable_of_iff _ (escapable_iff s).symm

instance : DecidablePred Verbatim :=
  fun s => decidable_of_iff _ (verbatim_iff s).symm

/-- The left-nested conjunction of a list of expressions; none for the empty list. -/
def conjunction : List TsQuery → Option TsQuery
  | [] => none
  | e :: es => some (es.foldl .and e)

theorem toList_ne_nil {s : String} (h : s ≠ "") : s.toList ≠ [] := by
  simpa using h

theorem toList_prefixMatch : Lexeme.prefixMatch.toList = [':', '*'] := by
  decide

/-- An escaped text with `:*` after it reads as its prefix lexeme. -/
theorem readsAs_escape {s : String} (h : Escapable s) :
    ReadsAs (Lexeme.escape s ++ Lexeme.prefixMatch).toList (.lexeme (lowercase s) true) := by
  have hr := readsAs_lexeme (toList_ne_nil h.1) h.2
    (List.forall_mem_nil _ : ∀ c ∈ ([] : List Char), c.isAlpha = true)
  rwa [String.ofList_toList, ← escape_toList, ← toList_prefixMatch, ← String.toList_append] at hr

/-- A text written as it is, with `:*` and then letters (weights) after it, reads as its
prefix lexeme. -/
theorem readsAs_verbatim {s : String} (h : Verbatim s) {weights : List Char}
    (hw : ∀ c ∈ weights, c.isAlpha = true) :
    ReadsAs (s.toList ++ ':' :: '*' :: weights) (.lexeme (lowercase s) true) := by
  have hr := readsAs_lexeme (toList_ne_nil h.1.1) h.1.2 hw
  rwa [String.ofList_toList, escapeChars_of_unreserved h.2] at hr

/-- Escaping only `:` is escaping, for a text without parentheses. -/
theorem colonEscape_eq {cs : List Char} (h : ∀ c ∈ cs, c ≠ '(' ∧ c ≠ ')') :
    cs.flatMap (fun c => if c == ':' then ['\\', c] else [c]) = escapeChars cs := by
  apply List.flatMap_congr
  intro c hc
  obtain ⟨hl, hr⟩ := h c hc
  simp [Lexeme.isReserved, hl, hr]

/-- Fragments that each read as a factor are not empty. -/
theorem ne_empty_of_forall₂ {frags : List String} {es : List TsQuery}
    (h : List.Forall₂ (fun f e => ReadsAs f.toList e) frags es) : ∀ f ∈ frags, f ≠ "" := by
  induction h with
  | nil => simp
  | cons hf _ ih =>
    intro f hmem
    rcases List.mem_cons.1 hmem with rfl | hmem
    · intro hempty
      exact hf.ne_nil (by simp [hempty])
    · exact ih f hmem

end TsQuery

theorem Lexeme.trimProtocol_subset (url : String) :
    ∀ c ∈ (Lexeme.trimProtocol url).toList, c ∈ url.toList := by
  intro c hc
  unfold Lexeme.trimProtocol at hc
  split at hc
  · exact List.mem_of_mem_drop (by simpa using hc)
  · split at hc
    · exact List.mem_of_mem_drop (by simpa using hc)
    · exact hc

/-! ## Captured groups -/

namespace Pattern

/-- A captured group is made of characters of the text. -/
theorem Regex.captured_subset {r : Regex} {text : String} {caps : List (Option String)}
    (h : r.captures text = some caps) {s : String} (hs : some s ∈ caps) :
    ∀ c ∈ s.toList, c ∈ text.toList := by
  simp only [Regex.captures, Option.map_eq_some_iff] at h
  obtain ⟨groups, -, rfl⟩ := h
  obtain ⟨g, -, hg⟩ := List.mem_map.1 hs
  intro c hc
  split at hg
  · cases hg
    simp only [String.toList_ofList, Array.toList_extract, List.extract_eq_take_drop] at hc
    simpa using List.mem_of_mem_drop (List.mem_of_mem_take hc)
  · cases hg

/-- A named group is one of the captured groups. -/
theorem Regex.named_mem {r : Regex} {caps : List (Option String)} {name s : String}
    (h : r.named caps name = some s) : some s ∈ caps := by
  unfold Regex.named at h
  split at h
  · next hfind =>
    subst h
    exact (List.of_mem_zip (List.mem_of_find?_eq_some hfind)).2
  · cases h

end Pattern

/-! ## What a known pattern makes of a URL -/

namespace KnownUrl

/-- The groups after the whole match, concatenated. -/
def composite (caps : List (Option String)) : String :=
  String.join ((caps.drop 1).map (·.getD ""))

/-- What the fragment of a URL decomposed by a pattern denotes: the whole match when the
pattern has no groups; else the concatenated groups, or, when the group named `id` matched
something, that group or the concatenated groups. -/
def meaning (k : KnownUrl) (url : String) : Option TsQuery := do
  let caps ← k.regex.captures url
  match caps with
  | [whole] => return .lexeme (whole.getD "") true
  | _ =>
    match k.regex.named caps "id" with
    | some id =>
      if id.isEmpty then return .lexeme (composite caps) true
      else return .or (.lexeme id true) (.lexeme (composite caps) true)
    | none => return .lexeme (composite caps) true

/-- The groups a pattern takes from a URL can be written as the fragment writes them: a
group-less match as it is, the concatenated groups with only `:` escaped, a non-empty `id`
group as it is. -/
def Writable (k : KnownUrl) (url : String) : Prop :=
  ∀ caps, k.regex.captures url = some caps →
    match caps with
    | [whole] => Verbatim (whole.getD "")
    | _ => (Escapable (composite caps) ∧ ∀ c ∈ (composite caps).toList, c ≠ '(' ∧ c ≠ ')') ∧
        ∀ v, k.regex.named caps "id" = some v → v ≠ "" → Verbatim v

variable {k : KnownUrl} {url : String}

theorem composite_subset {caps : List (Option String)} (hc : k.regex.captures url = some caps) :
    ∀ c ∈ (composite caps).toList, c ∈ url.toList := by
  intro c h
  simp only [composite, String.toList_join, List.mem_flatMap, List.mem_map] at h
  obtain ⟨_, ⟨o, ho, rfl⟩, hco⟩ := h
  cases o with
  | none => simp at hco
  | some s => exact Pattern.Regex.captured_subset hc (List.mem_of_mem_drop ho) c hco

theorem meaning_eq_none_iff : k.meaning url = none ↔ k.decompose url = none := by
  unfold meaning decompose
  cases k.regex.captures url with
  | none => simp
  | some caps =>
    simp only [Option.bind_eq_bind, Option.bind_some]
    constructor <;> intro h <;> split at h <;> (try split at h) <;> (try split at h) <;> cases h

/-- A captured group, read as text, is lowered when the URL is. -/
theorem lowered_of_mem {caps : List (Option String)} (hc : k.regex.captures url = some caps)
    (hl : Lowered url) {o : Option String} (ho : o ∈ caps) : Lowered (o.getD "") := by
  cases o with
  | none => intro d hd; simp at hd
  | some s => exact hl.of_subset (Pattern.Regex.captured_subset hc ho)

/-- The concatenated groups, with `:` escaped and `:*` after them, read as their lexeme. -/
theorem readsAs_composite {caps : List (Option String)} (hc : k.regex.captures url = some caps)
    (hl : Lowered url)
    (h : Escapable (composite caps) ∧ ∀ c ∈ (composite caps).toList, c ≠ '(' ∧ c ≠ ')') :
    ReadsAs (String.ofList ((composite caps).toList.flatMap fun c =>
        if c == ':' then ['\\', c] else [c]) ++ Lexeme.prefixMatch).toList
      (.lexeme (composite caps) true) := by
  have hr := readsAs_escape h.1
  rw [lowercase_of_lowered (hl.of_subset (composite_subset hc))] at hr
  rw [colonEscape_eq h.2]
  exact hr

/-- A decomposed URL's fragment reads as what the pattern makes it denote. -/
theorem readsAs_decompose (hw : k.Writable url) (hl : Lowered url) {f : String} {e : TsQuery}
    (hf : k.decompose url = some f) (he : k.meaning url = some e) : ReadsAs f.toList e := by
  unfold decompose at hf
  unfold meaning at he
  cases hc : k.regex.captures url with
  | none => simp [hc] at hf
  | some caps =>
    have hwc := hw caps hc
    simp only [hc, Option.bind_eq_bind, Option.bind_some] at hf he
    rcases caps with _ | ⟨whole, _ | ⟨g, gs⟩⟩
    · obtain ⟨⟨⟨hne, -⟩, -⟩, -⟩ := hwc
      exact absurd rfl hne
    · simp only [Option.pure_def, Option.some.injEq] at hf he
      subst hf he
      have hr := readsAs_verbatim (s := whole.getD "") hwc
        (List.forall_mem_nil _ : ∀ c ∈ ([] : List Char), c.isAlpha = true)
      rw [lowercase_of_lowered (lowered_of_mem hc hl (List.mem_singleton_self whole))] at hr
      rwa [String.toList_append, toList_prefixMatch]
    · obtain ⟨hcomp, hid⟩ := hwc
      have hcomposite := readsAs_composite hc hl hcomp
      cases hn : k.regex.named (whole :: g :: gs) "id" with
      | none =>
        simp only [hn, Option.pure_def, Option.some.injEq] at hf he
        subst hf he
        exact hcomposite
      | some v =>
        simp only [hn] at hf he
        by_cases hv : v.isEmpty
        · simp only [hv, if_true, Option.pure_def, Option.some.injEq] at hf he
          subst hf he
          exact hcomposite
        · simp only [hv, Bool.false_eq_true, if_false, Option.pure_def, Option.some.injEq] at hf he
          subst hf he
          have hvv := hid v hn (by simpa using hv)
          have hvl : Lowered v := lowered_of_mem hc hl (Pattern.Regex.named_mem hn)
          have halt := readsAs_alternative (toList_ne_nil hvv.1.1) hvv.1.2
            (toList_ne_nil hcomp.1.1) hcomp.1.2
          rw [String.ofList_toList, String.ofList_toList, lowercase_of_lowered hvl,
            lowercase_of_lowered (hl.of_subset (composite_subset hc)),
            escapeChars_of_unreserved hvv.2, ← colonEscape_eq hcomp.2] at halt
          have hsigns : "(".toList = ['('] ∧ " | ".toList = [' ', '|', ' '] ∧ ")".toList = [')'] := by
            decide
          simp only [String.toList_append, toList_prefixMatch, String.toList_ofList, hsigns.1,
            hsigns.2.1, hsigns.2.2, List.append_assoc, List.cons_append, List.nil_append]
          exact halt

end KnownUrl

namespace Registry

/-- The pattern that decomposes a URL: the one registered under the name of its best match. -/
def decomposer (r : Registry) (url : String) : Option KnownUrl :=
  (r.bestMatch url).bind fun m => r.get? m.name

/-- What the fragment of a protocol-less, lowercased URL denotes: what its pattern makes of it,
or else the URL itself as a prefix lexeme. -/
def urlMeaning (r : Registry) (url : String) : TsQuery :=
  match (r.decomposer url).bind (·.meaning url) with
  | some e => e
  | none => .lexeme url true

/-- A URL can be written as its fragment writes it: what its pattern takes from it, if a
pattern decomposes it; else the URL itself, which has no further scheme to lose. -/
def UrlFits (r : Registry) (url : String) : Prop :=
  (∀ k, r.decomposer url = some k → k.Writable url) ∧
    ((r.decomposer url).bind (·.meaning url) = none →
      Escapable url ∧ Lexeme.trimProtocol url = url)

theorem urlFragment_eq (r : Registry) (url : String) :
    r.urlFragment url = match (r.decomposer url).bind (·.decompose url) with
      | some f => f
      | none => Lexeme.sanitizeUrl url ++ Lexeme.prefixMatch := by
  rw [urlFragment, decomposer, Option.bind_assoc]
  rfl

/-- The fragment of a URL that can be written reads as what it denotes. -/
theorem readsAs_urlFragment {r : Registry} {url : String} (hl : Lowered url) (h : r.UrlFits url) :
    ReadsAs (r.urlFragment url).toList (r.urlMeaning url) := by
  obtain ⟨hk, hnone⟩ := h
  have hplain : (r.decomposer url).bind (·.meaning url) = none →
      ReadsAs (Lexeme.sanitizeUrl url ++ Lexeme.prefixMatch).toList (.lexeme url true) := by
    intro hm
    obtain ⟨hesc, htrim⟩ := hnone hm
    have hr := readsAs_escape hesc
    rw [lowercase_of_lowered hl] at hr
    rwa [Lexeme.sanitizeUrl, htrim]
  rw [urlFragment_eq, urlMeaning]
  cases hd : r.decomposer url with
  | none => exact hplain (by rw [hd]; rfl)
  | some k =>
    simp only [Option.bind_some]
    cases hf : k.decompose url with
    | none =>
      have hm : k.meaning url = none := KnownUrl.meaning_eq_none_iff.2 hf
      rw [hm]
      exact hplain (by rw [hd, Option.bind_some, hm])
    | some f =>
      obtain ⟨e, he⟩ : ∃ e, k.meaning url = some e :=
        Option.ne_none_iff_exists'.1 fun hm => by
          rw [KnownUrl.meaning_eq_none_iff.1 hm] at hf
          cases hf
      rw [he]
      exact KnownUrl.readsAs_decompose (hk k hd) hl hf he

end Registry

/-! ## Tokens and what they denote -/

namespace Token

/-- A token as the classifier receives it: percent-decoded when it can be, else as written. -/
def decode (part : String) : String :=
  match Percent.unescape part with
  | .ok decoded => decoded
  | .error _ => part

/-- The decoded tokens of a search string, in order. -/
def decodedTokens (raw : String) : List String :=
  (Text.words (Text.trimChar '"' (Text.trimChar '/' raw))).map decode

/-- A token with no `%` and no `+` reaches the classifier as written. -/
theorem decode_of_unescaped {part : String} (h : ∀ c ∈ part.toList, c ≠ '%' ∧ c ≠ '+') :
    decode part = part := by
  have hany : (part.any (· == '%') || part.any (· == '+')) = false := by
    simp only [String.any, String.contains_bool_eq, Bool.or_eq_false_iff, List.any_eq_false,
      beq_iff_eq]
    exact ⟨fun c hc => (h c hc).1, fun c hc => (h c hc).2⟩
  simp [decode, Percent.unescape, hany]

/-- An ASCII token with no `%` reaches the classifier with each plus sign made a blank. -/
theorem decode_of_ascii {part : String} (hascii : ∀ c ∈ part.toList, c.toNat < 128)
    (hpct : ∀ c ∈ part.toList, c ≠ '%') :
    decode part = String.ofList (part.toList.map fun c => if c = '+' then ' ' else c) := by
  rw [decode, Percent.unescape_of_ascii hascii hpct]

/-- Whether a decoded token filters on identifiers. -/
def isIdToken (part : String) : Bool :=
  part.startsWith idPrefix

/-- Whether a decoded token is a word: it filters neither on identifiers nor on a type. -/
def isWordToken (part : String) : Bool :=
  !part.startsWith idPrefix && !part.startsWith typePrefix

/-- The fragment of an identifier token. -/
def idFragment (part : String) : String :=
  afterPrefix part idPrefix ++ idSuffix

/-- The fragment of a word token: by its known pattern if it is a URL, else escaped. -/
def wordFragment (registry : Registry) (part : String) : String :=
  if isUrl part then registry.urlFragment (Lexeme.trimProtocol (lowercase part))
  else Lexeme.sanitizeUrl (lowercase part) ++ Lexeme.prefixMatch

/-- What an identifier token denotes: its value, lowercased, as a prefix lexeme. -/
def idMeaning (part : String) : TsQuery :=
  .lexeme (lowercase (afterPrefix part idPrefix)) true

/-- What a word token denotes: for a URL, what its known pattern makes of it; for any other
word, the word lowercased and without its scheme, as a prefix lexeme. -/
def wordMeaning (registry : Registry) (part : String) : TsQuery :=
  if isUrl part then registry.urlMeaning (Lexeme.trimProtocol (lowercase part))
  else .lexeme (Lexeme.trimProtocol (lowercase part)) true

/-- A word token can be written as its fragment writes it. -/
def WordFits (registry : Registry) (part : String) : Prop :=
  if isUrl part then registry.UrlFits (Lexeme.trimProtocol (lowercase part))
  else Escapable (Lexeme.trimProtocol (lowercase part))

/-- A decoded token can be written as its fragment writes it: an identifier value as it is, a
word with its reserved characters escaped. Type filters have no fragment. -/
def Fits (registry : Registry) (part : String) : Prop :=
  (isIdToken part = true → Verbatim (afterPrefix part idPrefix)) ∧
    (isWordToken part = true → WordFits registry part)

theorem lowered_trimProtocol (part : String) : Lowered (Lexeme.trimProtocol (lowercase part)) :=
  (lowered_lowercase part).of_subset (Lexeme.trimProtocol_subset _)

theorem readsAs_idFragment {part : String} (h : Verbatim (afterPrefix part idPrefix)) :
    ReadsAs (idFragment part).toList (idMeaning part) := by
  have hsuffix : idSuffix.toList = [':', '*', 'A'] := by decide
  have hr := readsAs_verbatim h (by simp : ∀ c ∈ ['A'], c.isAlpha = true)
  rwa [idFragment, String.toList_append, hsuffix]

theorem readsAs_wordFragment {registry : Registry} {part : String}
    (h : WordFits registry part) : ReadsAs (wordFragment registry part).toList
      (wordMeaning registry part) := by
  unfold WordFits at h
  unfold wordFragment wordMeaning
  split
  · next hu =>
    rw [if_pos hu] at h
    exact registry.readsAs_urlFragment (lowered_trimProtocol part) h
  · next hu =>
    rw [if_neg hu] at h
    have hr := readsAs_escape h
    rwa [lowercase_of_lowered (lowered_trimProtocol part)] at hr

/-! ## The tokenizer, token by token -/

theorem classify_of_id {registry : Registry} {part : String} (h : isIdToken part = true) :
    classify registry part = .ok (.idFilter (idFragment part)) := by
  rw [classify, if_pos (show part.startsWith idPrefix = true from h)]
  rfl

theorem classify_of_word {registry : Registry} {part : String} (h : isWordToken part = true) :
    classify registry part = .ok (.wordFragment (wordFragment registry part)) := by
  simp only [isWordToken, Bool.and_eq_true, Bool.not_eq_true'] at h
  rw [classify, if_neg (by simp [h.1]), if_neg (by simp [h.2]), wordFragment]
  split <;> rfl

theorem classify_of_type {registry : Registry} {part : String} {t : SearchToken}
    (hid : isIdToken part = false) (hw : isWordToken part = false)
    (h : classify registry part = .ok t) : ∃ u, t = .typeFilter u := by
  have hid' : part.startsWith idPrefix = false := hid
  have htype : part.startsWith typePrefix = true := by
    simpa [isWordToken, hid'] using hw
  rw [classify, if_neg (by simp [hid']), if_pos htype] at h
  dsimp only at h
  split at h
  · cases h
  · split at h
    · cases h
      exact ⟨_, rfl⟩
    · cases h

/-- One step of the tokenizer: classify a decoded token and record it. -/
def pushToken (registry : Registry) (q : ParsedQuery) (part : String) :
    Except SearchError ParsedQuery := do
  return q.push (← classify registry part)

theorem tokenize_eq_foldlM (registry : Registry) (raw : String) :
    tokenize registry raw = (decodedTokens raw).foldlM (pushToken registry) {} := by
  rw [decodedTokens, List.foldlM_map]
  rfl

/-- What one step adds to the fragments: an identifier token its fragment to the identifiers, a
word token its fragment to the words, a type filter nothing. -/
theorem fragments_pushToken {registry : Registry} {q q' : ParsedQuery} {part : String}
    (h : pushToken registry q part = .ok q') :
    q'.idFragments = q.idFragments ++ ([part].filter isIdToken).map idFragment ∧
      q'.wordFragments =
        q.wordFragments ++ ([part].filter isWordToken).map (wordFragment registry) := by
  cases hid : isIdToken part
  · cases hw : isWordToken part
    · cases hc : classify registry part with
      | error err =>
        rw [pushToken, hc] at h
        cases h
      | ok t =>
        obtain ⟨u, rfl⟩ := classify_of_type hid hw hc
        rw [pushToken, hc] at h
        cases h
        simp [hid, hw, ParsedQuery.push]
    · rw [pushToken, classify_of_word hw] at h
      cases h
      simp [hid, hw, ParsedQuery.push]
  · have hw : isWordToken part = false := by
      unfold isIdToken at hid
      simp [isWordToken, hid]
    rw [pushToken, classify_of_id hid] at h
    cases h
    simp [hid, hw, ParsedQuery.push]

/-- What a run of the tokenizer adds to the fragments, token by token. -/
theorem fragments_foldlM_pushToken {registry : Registry} :
    ∀ {parts : List String} {q p : ParsedQuery}, parts.foldlM (pushToken registry) q = .ok p →
      p.idFragments = q.idFragments ++ (parts.filter isIdToken).map idFragment ∧
      p.wordFragments = q.wordFragments ++ (parts.filter isWordToken).map (wordFragment registry)
  | [], q, p, h => by
    cases h
    simp
  | part :: parts, q, p, h => by
    rw [List.foldlM_cons] at h
    cases hstep : pushToken registry q part with
    | error err =>
      rw [hstep] at h
      cases h
    | ok q' =>
      rw [hstep] at h
      obtain ⟨hid, hw⟩ := fragments_pushToken hstep
      obtain ⟨hid', hw'⟩ := fragments_foldlM_pushToken h
      rw [← List.singleton_append, List.filter_append, List.filter_append]
      simp [hid', hw', hid, hw]

/-- The fragments of a search string: those of its identifier tokens and of its word tokens,
each in order. -/
theorem tokenize_fragments {registry : Registry} {raw : String} {p : ParsedQuery}
    (h : tokenize registry raw = .ok p) :
    p.idFragments = ((decodedTokens raw).filter isIdToken).map idFragment ∧
      p.wordFragments = ((decodedTokens raw).filter isWordToken).map (wordFragment registry) := by
  rw [tokenize_eq_foldlM] at h
  simpa using fragments_foldlM_pushToken h

/-- A search string of one word token compiles to the fragment of that word. -/
theorem tokenize_of_word {registry : Registry} {raw part : String}
    (hd : decodedTokens raw = [part]) (hw : isWordToken part = true) :
    tokenize registry raw = .ok { wordFragments := [wordFragment registry part] } := by
  rw [tokenize_eq_foldlM, hd, List.foldlM_cons, pushToken, classify_of_word hw]
  rfl

/-- A search string of one identifier token compiles to the fragment of that identifier. -/
theorem tokenize_of_id {registry : Registry} {raw part : String}
    (hd : decodedTokens raw = [part]) (hid : isIdToken part = true) :
    tokenize registry raw = .ok { idFragments := [idFragment part] } := by
  rw [tokenize_eq_foldlM, hd, List.foldlM_cons, pushToken, classify_of_id hid]
  rfl

/-! ## The compiled expression, read back -/

theorem intercalate_ne_empty (sep : String) {f : String} (fs : List String) (h : f ≠ "") :
    sep.intercalate (f :: fs) ≠ "" := by
  cases fs with
  | nil => rwa [String.intercalate_singleton]
  | cons g gs =>
    rw [String.intercalate_cons_cons, String.append_assoc]
    intro heq
    exact h (String.append_eq_empty_iff.1 heq).1

/-- With non-empty fragments, the expression is all the fragments joined by ` & `. -/
theorem assembleFragments_eq {ids words : List String} (hids : ∀ f ∈ ids, f ≠ "")
    (hwords : ∀ f ∈ words, f ≠ "") :
    assembleFragments ids words = andSign.intercalate (ids ++ words) := by
  unfold assembleFragments
  cases ids with
  | nil => simp
  | cons i is =>
    cases words with
    | nil => simp
    | cons w ws =>
      have hi := intercalate_ne_empty andSign is (hids i List.mem_cons_self)
      have hw := intercalate_ne_empty andSign ws (hwords w List.mem_cons_self)
      rw [if_pos (by simp [hi, hw]), String.intercalate_append_of_ne_nil (by simp) (by simp)]

/-- With non-empty fragments, the expression is empty exactly when there is no fragment. -/
theorem assembleFragments_isEmpty_iff {ids words : List String} (hids : ∀ f ∈ ids, f ≠ "")
    (hwords : ∀ f ∈ words, f ≠ "") :
    (assembleFragments ids words).isEmpty = true ↔ ids = [] ∧ words = [] := by
  rw [assembleFragments_eq hids hwords, String.isEmpty_iff, ← List.append_eq_nil_iff]
  cases hfs : ids ++ words with
  | nil => simp
  | cons f fs =>
    have hf : f ≠ "" := by
      have hmem : f ∈ ids ++ words := by simp [hfs]
      rcases List.mem_append.1 hmem with h | h
      · exact hids f h
      · exact hwords f h
    simpa using intercalate_ne_empty andSign fs hf

/-- The expression of a parsed search string whose fragments are non-empty is one join, with
` & `, of its identifier fragments and then its word fragments; so it is empty exactly when there
is no such fragment, whatever the type filters. -/
theorem assemble_eq_intercalate (p : ParsedQuery)
    (h : ∀ f ∈ p.idFragments ++ p.wordFragments, f ≠ "") :
    p.assemble = andSign.intercalate (p.idFragments ++ p.wordFragments) ∧
      (p.assemble.isEmpty = true ↔ p.idFragments = [] ∧ p.wordFragments = []) := by
  have hids : ∀ f ∈ p.idFragments, f ≠ "" := fun f hf => h f (List.mem_append_left _ hf)
  have hwords : ∀ f ∈ p.wordFragments, f ≠ "" := fun f hf => h f (List.mem_append_right _ hf)
  exact ⟨assembleFragments_eq hids hwords, assembleFragments_isEmpty_iff hids hwords⟩

/-- Two identifier fragments and a word fragment, with a type filter that the expression does not
read. -/
theorem assemble_two_ids_and_word :
    (∀ f ∈ (⟨[Uuid.nil], ["1:*A", "2:*A"], ["a:*"]⟩ : ParsedQuery).idFragments ++
        (⟨[Uuid.nil], ["1:*A", "2:*A"], ["a:*"]⟩ : ParsedQuery).wordFragments, f ≠ "") ∧
      (ParsedQuery.assemble ⟨[Uuid.nil], ["1:*A", "2:*A"], ["a:*"]⟩ =
          andSign.intercalate (["1:*A", "2:*A"] ++ ["a:*"]) ∧
        ((ParsedQuery.assemble ⟨[Uuid.nil], ["1:*A", "2:*A"], ["a:*"]⟩).isEmpty = true ↔
          ["1:*A", "2:*A"] = [] ∧ ["a:*"] = [])) := by
  have h : ∀ f ∈ (⟨[Uuid.nil], ["1:*A", "2:*A"], ["a:*"]⟩ : ParsedQuery).idFragments ++
      (⟨[Uuid.nil], ["1:*A", "2:*A"], ["a:*"]⟩ : ParsedQuery).wordFragments, f ≠ "" := by
    simp
  exact ⟨h, assemble_eq_intercalate _ h⟩

theorem append_ne_empty_of_right (s : String) {t : String} (ht : t ≠ "") : s ++ t ≠ "" :=
  fun h => ht (String.append_eq_empty_iff.1 h).2

theorem append_prefixMatch_ne_empty (s : String) : s ++ Lexeme.prefixMatch ≠ "" :=
  append_ne_empty_of_right s (by simp [Lexeme.prefixMatch])

/-- A decomposed URL ends in `:*`, or in the parenthesis after it. -/
theorem decompose_ne_empty {k : KnownUrl} {url f : String} (h : k.decompose url = some f) :
    f ≠ "" := by
  unfold KnownUrl.decompose at h
  cases hc : k.regex.captures url with
  | none => simp [hc] at h
  | some caps =>
    simp only [hc, Option.bind_eq_bind, Option.bind_some] at h
    split at h
    · cases h
      exact append_prefixMatch_ne_empty _
    · split at h
      · split at h
        · cases h
          exact append_prefixMatch_ne_empty _
        · cases h
          intro he
          simp at he
      · cases h
        exact append_prefixMatch_ne_empty _

theorem wordFragment_ne_empty (registry : Registry) (part : String) :
    wordFragment registry part ≠ "" := by
  unfold wordFragment
  split
  · rw [Registry.urlFragment_eq]
    split
    · next f hf =>
      obtain ⟨k, -, hk⟩ := Option.bind_eq_some_iff.1 hf
      exact decompose_ne_empty hk
    · exact append_prefixMatch_ne_empty _
  · exact append_prefixMatch_ne_empty _

theorem idFragment_ne_empty (part : String) : idFragment part ≠ "" :=
  append_ne_empty_of_right _ (by simp [idSuffix])

/-- Every fragment the tokenizer makes is non-empty, so `assemble_eq_intercalate` applies to
every parsed search string. -/
theorem tokenize_fragments_ne_empty {registry : Registry} {raw : String} {p : ParsedQuery}
    (hp : tokenize registry raw = .ok p) : ∀ f ∈ p.idFragments ++ p.wordFragments, f ≠ "" := by
  obtain ⟨hids, hwords⟩ := tokenize_fragments hp
  intro f hf
  rw [hids, hwords] at hf
  rcases List.mem_append.1 hf with h | h
  · obtain ⟨part, -, rfl⟩ := List.mem_map.1 h
    exact idFragment_ne_empty part
  · obtain ⟨part, -, rfl⟩ := List.mem_map.1 h
    exact wordFragment_ne_empty registry part

theorem parse_empty : parse "" = none := by
  decide +kernel

/-- Each fragment of a search string whose tokens fit reads as what its token denotes,
identifier fragments first. -/
theorem readsAs_fragments {registry : Registry} {raw : String} {p : ParsedQuery}
    (hp : tokenize registry raw = .ok p)
    (hfit : ∀ part ∈ decodedTokens raw, Fits registry part) :
    List.Forall₂ (fun f e => ReadsAs f.toList e) (p.idFragments ++ p.wordFragments)
      (((decodedTokens raw).filter isIdToken).map idMeaning ++
        ((decodedTokens raw).filter isWordToken).map (wordMeaning registry)) := by
  obtain ⟨hids, hwords⟩ := tokenize_fragments hp
  rw [hids, hwords]
  apply List.rel_append
  · refine List.forall₂_map_left_iff.2 (List.forall₂_map_right_iff.2 (List.forall₂_same.2 ?_))
    intro part hpart
    obtain ⟨hmem, hid⟩ := List.mem_filter.1 hpart
    exact readsAs_idFragment ((hfit part hmem).1 hid)
  · refine List.forall₂_map_left_iff.2 (List.forall₂_map_right_iff.2 (List.forall₂_same.2 ?_))
    intro part hpart
    obtain ⟨hmem, hword⟩ := List.mem_filter.1 hpart
    exact readsAs_wordFragment ((hfit part hmem).2 hword)

/-- A parsed search string whose fragments each read as a factor is read as their
conjunction. -/
theorem parse_assemble_of_readsAs {p : ParsedQuery} {es : List TsQuery}
    (hreads : List.Forall₂ (fun f e => ReadsAs f.toList e) (p.idFragments ++ p.wordFragments) es) :
    parse p.assemble = conjunction es := by
  have hne := ne_empty_of_forall₂ hreads
  have hassemble : p.assemble = andSign.intercalate (p.idFragments ++ p.wordFragments) :=
    assembleFragments_eq (fun f hf => hne f (List.mem_append_left _ hf))
      (fun f hf => hne f (List.mem_append_right _ hf))
  rw [hassemble]
  generalize p.idFragments ++ p.wordFragments = frags at hreads
  cases es with
  | nil =>
    rw [List.forall₂_nil_right_iff] at hreads
    rw [hreads, String.intercalate_nil, parse_empty]
    rfl
  | cons e es => exact parse_intercalate hreads

/-- The store reads the expression compiled from a search string as the left-nested conjunction
of what its tokens denote, identifier tokens first and each kind in order, when every token can
be written as its fragment writes it; an expression with no fragment is refused. -/
theorem parse_assemble_eq_conjunction {registry : Registry} {raw : String} {p : ParsedQuery}
    (hp : tokenize registry raw = .ok p)
    (hfit : ∀ part ∈ decodedTokens raw, Fits registry part) :
    parse p.assemble = conjunction
      (((decodedTokens raw).filter isIdToken).map idMeaning ++
        ((decodedTokens raw).filter isWordToken).map (wordMeaning registry)) :=
  parse_assemble_of_readsAs (readsAs_fragments hp hfit)

/-- An identifier and a word that is no URL are read back as the conjunction of their lexemes. -/
theorem parse_assemble_id_and_word :
    tokenize {} "id:7 .Net" = .ok { idFragments := ["7:*A"], wordFragments := [".net:*"] } ∧
      (∀ part ∈ decodedTokens "id:7 .Net", Fits {} part) ∧
      parse (ParsedQuery.assemble { idFragments := ["7:*A"], wordFragments := [".net:*"] }) =
        some (.and (.lexeme "7" true) (.lexeme ".net" true)) := by
  have hdecode : decodedTokens "id:7 .Net" = ["id:7", ".Net"] := by
    have hwords : Text.words (Text.trimChar '"' (Text.trimChar '/' "id:7 .Net")) =
        ["id:7", ".Net"] := by
      decide +kernel
    rw [decodedTokens, hwords, List.map_cons, List.map_cons, List.map_nil,
      decode_of_unescaped (by simp), decode_of_unescaped (by simp)]
  have htok : tokenize {} "id:7 .Net" =
      .ok { idFragments := ["7:*A"], wordFragments := [".net:*"] } := by
    have hword : wordFragment {} ".Net" = ".net:*" := by
      rw [wordFragment, if_neg (by simp [isUrl])]
      decide +kernel
    rw [tokenize_eq_foldlM, hdecode, List.foldlM_cons, pushToken, classify_of_id (by decide +kernel)]
    show (List.foldlM (pushToken {}) _ [".Net"]) = _
    rw [List.foldlM_cons, pushToken, classify_of_word (by decide +kernel), hword]
    rfl
  have hfit : ∀ part ∈ decodedTokens "id:7 .Net", Fits {} part := by
    rw [hdecode]
    simp only [List.mem_cons, List.not_mem_nil, or_false, forall_eq_or_imp, forall_eq]
    refine ⟨⟨fun _ => by decide +kernel, fun h => absurd h (by decide +kernel)⟩,
      fun h => absurd h (by decide +kernel), fun _ => ?_⟩
    rw [WordFits, if_neg (by simp [isUrl])]
    decide +kernel
  refine ⟨htok, hfit, ?_⟩
  rw [parse_assemble_eq_conjunction htok hfit, hdecode]
  decide +kernel

/-- A plus sign decodes to a blank: the search string `a+b` is the one word `a b`, whose fragment
the store's parser refuses. -/
theorem tokenize_plus_refused :
    tokenize Registry.withDefaults "a+b" = .ok { wordFragments := ["a b:*"] } ∧
      ParsedQuery.assemble { wordFragments := ["a b:*"] } = "a b:*" ∧ parse "a b:*" = none := by
  have hdecode : decodedTokens "a+b" = ["a b"] := by
    have hwords : Text.words (Text.trimChar '"' (Text.trimChar '/' "a+b")) = ["a+b"] := by
      decide +kernel
    rw [decodedTokens, hwords, List.map_cons, List.map_nil, decode_of_ascii (by simp) (by simp)]
    decide +kernel
  have hword : wordFragment Registry.withDefaults "a b" = "a b:*" := by
    rw [wordFragment, if_neg (by simp [isUrl, String.any, whiteSpace_space])]
    decide +kernel
  refine ⟨?_, by decide, by decide +kernel⟩
  rw [tokenize_of_word hdecode (by decide +kernel), hword]

end Token

end TrackerSearch
