import TrackerSearch.Search.TsQuery
import TrackerSearch.Search.Lexeme
import Mathlib.Data.List.Forall2

/-!
# Reading compiled expressions back

A search string compiles to fragments joined by ` & `: a lexeme with `:*` after it, escaped
or not, or a parenthesized alternative of two of them. This module shows that the store's
reader reads such a text back as the left-nested conjunction of what each fragment stands for,
as long as every lexeme is non-empty and holds only *plain* characters, which the reader takes
as they are: no white space, `&`, `|` or backslash (`parse_intercalate`).

Each fragment is handled by the statement that it reads as one factor, whatever follows it at
a boundary (`ReadsAs`); the conjunction is an induction over the fragments.
-/

namespace TrackerSearch.TsQuery

/-! ## Lexemes -/

/-- A character the reader takes as part of a lexeme once reserved characters are escaped. -/
def plainChar (c : Char) : Bool :=
  !Unicode.whiteSpace.contains c && c != '&' && c != '|' && c != '\\'

/-- The escaping of a list of characters, as `Lexeme.escape` does it. -/
def escapeChars (cs : List Char) : List Char :=
  cs.flatMap fun c => if Lexeme.isReserved c then ['\\', c] else [c]

theorem escape_toList (s : String) : (Lexeme.escape s).toList = escapeChars s.toList := by
  simp [Lexeme.escape, escapeChars]

theorem escapeChars_of_unreserved {cs : List Char} (h : ∀ c ∈ cs, Lexeme.isReserved c = false) :
    escapeChars cs = cs := by
  induction cs with
  | nil => rfl
  | cons c cs ih =>
    simp only [escapeChars, List.flatMap_cons, h c List.mem_cons_self, Bool.false_eq_true,
      if_false, List.singleton_append]
    exact congrArg (c :: ·) (ih fun d hd => h d (List.mem_cons_of_mem _ hd))

theorem readLexeme_escaped (acc : List Char) (c : Char) (rest : List Char) :
    readLexeme acc ('\\' :: c :: rest) = readLexeme (c :: acc) rest := by
  simp [readLexeme]

theorem readLexeme_prefix (acc rest : List Char) :
    readLexeme acc (':' :: '*' :: rest) = some (acc.reverse, true, rest.dropWhile Char.isAlpha) := by
  simp [readLexeme]

theorem readLexeme_char (acc : List Char) {c : Char} (rest : List Char) (h1 : c ≠ '\\')
    (h2 : c ≠ ':') (h3 : endsLexeme c = false) :
    readLexeme acc (c :: rest) = readLexeme (c :: acc) rest := by
  rw [readLexeme.eq_6 _ _ _ (fun h _ => h1 h) (fun _ _ h _ => h1 h) h2, h3]
  rfl

/-- An unreserved plain character neither ends a lexeme nor starts an escape or a suffix. -/
theorem plain_unreserved {c : Char} (hp : plainChar c = true) (hr : Lexeme.isReserved c = false) :
    c ≠ '\\' ∧ c ≠ ':' ∧ endsLexeme c = false := by
  simp only [plainChar, Bool.and_eq_true, Bool.not_eq_true', bne_iff_ne, ne_eq] at hp
  simp only [Lexeme.isReserved, Bool.or_eq_false_iff, beq_eq_false_iff_ne, ne_eq] at hr
  refine ⟨hp.2, hr.1.1, ?_⟩
  simp [endsLexeme, hp.1.1.1, hp.1.1.2, hp.1.2, hr.1.2, hr.2]

/-- An escaped lexeme of plain characters with `:*` after it reads back as itself. -/
theorem readLexeme_escapeChars (acc cs rest : List Char) (h : ∀ c ∈ cs, plainChar c = true) :
    readLexeme acc (escapeChars cs ++ ':' :: '*' :: rest) =
      some (acc.reverse ++ cs, true, rest.dropWhile Char.isAlpha) := by
  induction cs generalizing acc with
  | nil => simpa [escapeChars] using readLexeme_prefix acc rest
  | cons c cs ih =>
    have hrest : ∀ d ∈ cs, plainChar d = true := fun d hd => h d (List.mem_cons_of_mem _ hd)
    simp only [escapeChars, List.flatMap_cons, List.append_assoc] at ih ⊢
    by_cases hr : Lexeme.isReserved c = true
    · simp only [hr, if_true, List.cons_append, List.nil_append]
      rw [readLexeme_escaped, ih (c :: acc) hrest]
      simp
    · simp only [hr, Bool.false_eq_true, if_false, List.cons_append, List.nil_append]
      obtain ⟨h1, h2, h3⟩ := plain_unreserved (h c List.mem_cons_self) (by simpa using hr)
      rw [readLexeme_char acc _ h1 h2 h3, ih (c :: acc) hrest]
      simp

/-! ## One step of each reader -/

theorem whiteSpace_space : Unicode.whiteSpace.contains ' ' = true := by
  decide +kernel

theorem skipBlank_space (cs : List Char) : skipBlank (' ' :: cs) = skipBlank cs := by
  simp [skipBlank, whiteSpace_space]

theorem skipBlank_of_not_blank {c : Char} (h : Unicode.whiteSpace.contains c = false)
    (cs : List Char) : skipBlank (c :: cs) = c :: cs := by
  simp [skipBlank, h]

theorem readFactor_space (fuel : Nat) (cs : List Char) :
    readFactor (fuel + 1) (' ' :: cs) = readFactor (fuel + 1) cs := by
  simp only [readFactor, skipBlank_space]

theorem readFactor_of_lexeme {fuel : Nat} {cs text rest : List Char} {isStar : Bool}
    (hs : skipBlank cs = cs) (hhead : ∀ r, cs ≠ '(' :: r)
    (hl : readLexeme [] cs = some (text, isStar, rest)) (hne : text ≠ []) :
    readFactor (fuel + 1) cs =
      some (.lexeme (Unicode.lowercase (String.ofList text)) isStar, rest) := by
  rw [readFactor, hs]
  split
  · exact absurd rfl (hhead _)
  · simp [hl, hne]

theorem readFactor_of_paren {fuel : Nat} {cs rest rest' rest'' : List Char}
    {e : TsQuery} (hs : skipBlank cs = '(' :: rest) (ho : readOr fuel rest = some (e, rest'))
    (hclose : skipBlank rest' = ')' :: rest'') : readFactor (fuel + 1) cs = some (e, rest'') := by
  rw [readFactor, hs]
  simp [ho, hclose]

theorem andTail_stop {fuel : Nat} {left : TsQuery} {cs : List Char}
    (h : ∀ r, skipBlank cs ≠ '&' :: r) : andTail (fuel + 1) left cs = some (left, skipBlank cs) := by
  rw [andTail]
  split
  · next r hr => exact absurd hr (h r)
  · rfl

theorem andTail_step {fuel : Nat} {left right : TsQuery} {cs rest rest' : List Char}
    (h : skipBlank cs = '&' :: rest) (hf : readFactor fuel rest = some (right, rest')) :
    andTail (fuel + 1) left cs = andTail fuel (.and left right) rest' := by
  rw [andTail, h]
  simp [hf]

theorem orTail_stop {fuel : Nat} {left : TsQuery} {cs : List Char}
    (h : ∀ r, skipBlank cs ≠ '|' :: r) : orTail (fuel + 1) left cs = some (left, skipBlank cs) := by
  rw [orTail]
  split
  · next r hr => exact absurd hr (h r)
  · rfl

theorem orTail_step {fuel : Nat} {left right : TsQuery} {cs rest rest' : List Char}
    (h : skipBlank cs = '|' :: rest) (ha : readAnd fuel rest = some (right, rest')) :
    orTail (fuel + 1) left cs = orTail fuel (.or left right) rest' := by
  rw [orTail, h]
  simp [ha]

theorem readAnd_step {fuel : Nat} {left : TsQuery} {cs rest : List Char}
    (hf : readFactor fuel cs = some (left, rest)) : readAnd (fuel + 1) cs = andTail fuel left rest := by
  rw [readAnd]
  simp [hf]

theorem readOr_step {fuel : Nat} {left : TsQuery} {cs rest : List Char}
    (ha : readAnd fuel cs = some (left, rest)) : readOr (fuel + 1) cs = orTail fuel left rest := by
  rw [readOr]
  simp [ha]

/-! ## Fragments -/

/-- What may follow a fragment: nothing, or a blank before the next part. -/
def Boundary (rest : List Char) : Prop :=
  ∀ c r, rest = c :: r → c = ' '

/-- A fragment reads as the factor `e`, whatever follows it at a boundary, with enough fuel. -/
def ReadsAs (frag : List Char) (e : TsQuery) : Prop :=
  ∀ fuel rest, 6 ≤ fuel → Boundary rest → readFactor fuel (frag ++ rest) = some (e, rest)

theorem backslash_not_blank : Unicode.whiteSpace.contains '\\' = false := by
  decide +kernel

theorem signs_not_blank :
    Unicode.whiteSpace.contains '(' = false ∧ Unicode.whiteSpace.contains ')' = false ∧
      Unicode.whiteSpace.contains '&' = false ∧ Unicode.whiteSpace.contains '|' = false := by
  decide +kernel

theorem skipBlank_escapeChars {cs : List Char} (hne : cs ≠ []) (hp : ∀ c ∈ cs, plainChar c = true)
    (rest : List Char) : skipBlank (escapeChars cs ++ rest) = escapeChars cs ++ rest := by
  obtain ⟨c, cs, rfl⟩ := List.exists_cons_of_ne_nil hne
  have hc := hp c List.mem_cons_self
  simp only [plainChar, Bool.and_eq_true, Bool.not_eq_true'] at hc
  simp only [escapeChars, List.flatMap_cons, List.append_assoc]
  split
  · exact skipBlank_of_not_blank backslash_not_blank _
  · exact skipBlank_of_not_blank hc.1.1.1 _

theorem escapeChars_ne_paren {cs : List Char} (hne : cs ≠ []) (rest r : List Char) :
    escapeChars cs ++ rest ≠ '(' :: r := by
  obtain ⟨c, cs, rfl⟩ := List.exists_cons_of_ne_nil hne
  simp only [escapeChars, List.flatMap_cons, List.append_assoc]
  split
  · simp
  · next hr =>
    intro h
    simp only [List.cons_append, List.nil_append, List.cons.injEq] at h
    simp [Lexeme.isReserved, h.1] at hr

/-- An escaped lexeme with `:*` after it reads as a prefix lexeme; the letters after it are
weights, which are skipped. -/
theorem readFactor_escapeChars (fuel : Nat) {cs : List Char} (hne : cs ≠ [])
    (hp : ∀ c ∈ cs, plainChar c = true) (rest : List Char) :
    readFactor (fuel + 1) (escapeChars cs ++ ':' :: '*' :: rest) =
      some (.lexeme (Unicode.lowercase (String.ofList cs)) true, rest.dropWhile Char.isAlpha) :=
  readFactor_of_lexeme (skipBlank_escapeChars hne hp _) (escapeChars_ne_paren hne _)
    (readLexeme_escapeChars [] cs rest hp) (by simpa using hne)

theorem dropWhile_isAlpha_of_not_alpha {c : Char} (h : c.isAlpha = false) (r : List Char) :
    (c :: r).dropWhile Char.isAlpha = c :: r := by
  simp [h]

theorem dropWhile_isAlpha_of_boundary {rest : List Char} (h : Boundary rest) :
    rest.dropWhile Char.isAlpha = rest := by
  cases rest with
  | nil => rfl
  | cons c r =>
    rw [h c r rfl]
    rfl

/-- A lexeme of plain characters, escaped, with `:*` and then letters (weights) after it. -/
theorem readsAs_lexeme {cs : List Char} (hne : cs ≠ []) (hp : ∀ c ∈ cs, plainChar c = true)
    {weights : List Char} (hw : ∀ c ∈ weights, c.isAlpha = true) :
    ReadsAs (escapeChars cs ++ ':' :: '*' :: weights)
      (.lexeme (Unicode.lowercase (String.ofList cs)) true) := by
  intro fuel rest hfuel hb
  obtain ⟨fuel, rfl⟩ : ∃ f, fuel = f + 1 := ⟨fuel - 1, by omega⟩
  have hdrop : (weights ++ rest).dropWhile Char.isAlpha = rest := by
    rw [List.dropWhile_append_of_pos hw, dropWhile_isAlpha_of_boundary hb]
  have h := readFactor_escapeChars fuel hne hp (weights ++ rest)
  rw [hdrop] at h
  simpa only [List.append_assoc, List.cons_append] using h

/-- Two lexemes as alternatives in parentheses, each with `:*` after it. -/
theorem readsAs_alternative {v c : List Char} (hv : v ≠ []) (hvp : ∀ x ∈ v, plainChar x = true)
    (hc : c ≠ []) (hcp : ∀ x ∈ c, plainChar x = true) :
    ReadsAs ('(' :: (escapeChars v ++ ':' :: '*' :: ' ' :: '|' :: ' ' ::
        (escapeChars c ++ [':', '*', ')'])))
      (.or (.lexeme (Unicode.lowercase (String.ofList v)) true)
        (.lexeme (Unicode.lowercase (String.ofList c)) true)) := by
  intro fuel rest hfuel _
  obtain ⟨f, rfl⟩ : ∃ f, fuel = f + 1 + 1 + 1 + 1 + 1 := ⟨fuel - 5, by omega⟩
  obtain ⟨hopen, hclose, -, hbar⟩ := signs_not_blank
  have hstop : ∀ (x : Char) (r : List Char), Unicode.whiteSpace.contains x = false →
      x ≠ '&' → ∀ r', skipBlank (x :: r) ≠ '&' :: r' := by
    intro x r hx hne r' h
    rw [skipBlank_of_not_blank hx] at h
    exact hne (List.cons.inj h).1
  have hsecond : readAnd (f + 1 + 1) (' ' :: (escapeChars c ++ ':' :: '*' :: ')' :: rest)) =
      some (.lexeme (Unicode.lowercase (String.ofList c)) true, ')' :: rest) := by
    have hf := readFactor_escapeChars f hc hcp (')' :: rest)
    rw [← readFactor_space, dropWhile_isAlpha_of_not_alpha (by decide)] at hf
    rw [readAnd_step hf, andTail_stop (hstop ')' rest hclose (by decide)),
      skipBlank_of_not_blank hclose]
  have hfirst : readAnd (f + 1 + 1 + 1) (escapeChars v ++ ':' :: '*' :: ' ' :: '|' :: ' ' ::
      (escapeChars c ++ ':' :: '*' :: ')' :: rest)) =
      some (.lexeme (Unicode.lowercase (String.ofList v)) true,
        '|' :: ' ' :: (escapeChars c ++ ':' :: '*' :: ')' :: rest)) := by
    have hf := readFactor_escapeChars (f + 1) hv hvp
      (' ' :: '|' :: ' ' :: (escapeChars c ++ ':' :: '*' :: ')' :: rest))
    rw [dropWhile_isAlpha_of_not_alpha (by decide)] at hf
    have hbar' : ∀ r', skipBlank (' ' :: '|' :: ' ' :: (escapeChars c ++ ':' :: '*' :: ')' :: rest))
        ≠ '&' :: r' := by
      rw [skipBlank_space]
      exact hstop '|' _ hbar (by decide)
    rw [readAnd_step hf, andTail_stop hbar', skipBlank_space, skipBlank_of_not_blank hbar]
  have hinner := readOr_step hfirst
  rw [orTail_step (skipBlank_of_not_blank hbar _) hsecond,
    orTail_stop (fun r h => by rw [skipBlank_of_not_blank hclose] at h; cases h),
    skipBlank_of_not_blank hclose] at hinner
  simpa only [List.cons_append, List.append_assoc, List.nil_append] using
    readFactor_of_paren (skipBlank_of_not_blank hopen _) hinner (skipBlank_of_not_blank hclose _)

/-! ## Conjunctions of fragments -/

/-- The separator of conjuncts. -/
def andSeparator : List Char := [' ', '&', ' ']

theorem readFactor_nil : readFactor 6 [] = none := by
  decide +kernel

theorem ReadsAs.ne_nil {frag : List Char} {e : TsQuery} (h : ReadsAs frag e) : frag ≠ [] := by
  rintro rfl
  have hread := h 6 [] (Nat.le_refl 6) (fun _ _ h => by cases h)
  rw [List.nil_append, readFactor_nil] at hread
  cases hread

theorem boundary_flatMap (fs : List (List Char)) : Boundary (fs.flatMap (andSeparator ++ ·)) := by
  cases fs with
  | nil => intro c r h; cases h
  | cons f fs =>
    intro c r h
    simp only [List.flatMap_cons, andSeparator, List.cons_append, List.cons.injEq] at h
    exact h.1.symm

theorem length_le_flatMap (fs : List (List Char)) :
    fs.length ≤ (fs.flatMap (andSeparator ++ ·)).length := by
  induction fs with
  | nil => simp
  | cons f fs ih =>
    simp only [List.flatMap_cons, List.length_append, List.length_cons, andSeparator] at ih ⊢
    omega

theorem intercalate_eq_flatMap (f : List Char) (fs : List (List Char)) :
    andSeparator.intercalate (f :: fs) = f ++ fs.flatMap (andSeparator ++ ·) := by
  induction fs generalizing f with
  | nil => simp
  | cons g gs ih => rw [List.intercalate_cons_cons, ih g]; simp

/-- Conjuncts after the first, each after a separator, are read into the conjunction. -/
theorem andTail_flatMap :
    ∀ {fs : List (List Char)} {es : List TsQuery}, List.Forall₂ ReadsAs fs es →
      ∀ (fuel : Nat) (left : TsQuery), fs.length + 6 ≤ fuel →
      andTail fuel left (fs.flatMap (andSeparator ++ ·)) = some (es.foldl .and left, [])
  | [], [], .nil, fuel, left, hfuel => by
    obtain ⟨g, rfl⟩ : ∃ g, fuel = g + 1 := ⟨fuel - 1, by omega⟩
    exact andTail_stop (fun r h => by cases h)
  | f :: fs, e :: es, .cons hfe hrest, fuel, left, hfuel => by
    obtain ⟨g, rfl⟩ : ∃ g, fuel = g + 1 + 1 := ⟨fuel - 2, by simp at hfuel; omega⟩
    have hskip : skipBlank (andSeparator ++ (f ++ fs.flatMap (andSeparator ++ ·))) =
        '&' :: ' ' :: (f ++ fs.flatMap (andSeparator ++ ·)) := by
      rw [andSeparator, List.cons_append, skipBlank_space]
      exact skipBlank_of_not_blank signs_not_blank.2.2.1 _
    have hfactor : readFactor (g + 1) (' ' :: (f ++ fs.flatMap (andSeparator ++ ·))) =
        some (e, fs.flatMap (andSeparator ++ ·)) := by
      rw [readFactor_space]
      exact hfe (g + 1) _ (by simp at hfuel; omega) (boundary_flatMap fs)
    simp only [List.flatMap_cons, List.append_assoc]
    rw [andTail_step hskip hfactor, andTail_flatMap hrest (g + 1) (.and left e)
      (by simp at hfuel; omega)]
    rfl

/-- A conjunction of fragments, each read as a factor, is read as the left-nested conjunction
of what they stand for. -/
theorem parse_intercalate {frags : List String} {e : TsQuery} {es : List TsQuery}
    (h : List.Forall₂ (fun f e => ReadsAs f.toList e) frags (e :: es)) :
    parse (" & ".intercalate frags) = some (es.foldl .and e) := by
  obtain ⟨f, fs, rfl, hf, hfs⟩ : ∃ f fs, frags = f :: fs ∧ ReadsAs f.toList e ∧
      List.Forall₂ (fun f e => ReadsAs f.toList e) fs es := by
    cases h with
    | cons hf hfs => exact ⟨_, _, rfl, hf, hfs⟩
  have hfs' : List.Forall₂ ReadsAs (fs.map String.toList) es := List.forall₂_map_left_iff.2 hfs
  have htext : (" & ".intercalate (f :: fs)).toList =
      f.toList ++ (fs.map String.toList).flatMap (andSeparator ++ ·) := by
    rw [String.toList_intercalate, List.map_cons, ← intercalate_eq_flatMap]
    rfl
  obtain ⟨k, hk, hkfuel⟩ : ∃ k, 4 * (" & ".intercalate (f :: fs)).toList.length + 4 = k + 1 + 1 ∧
      (fs.map String.toList).length + 6 ≤ k := by
    have h1 := length_le_flatMap (fs.map String.toList)
    have h2 : f.toList ≠ [] := hf.ne_nil
    have h3 : 0 < f.toList.length := List.length_pos_iff.2 h2
    refine ⟨4 * (" & ".intercalate (f :: fs)).toList.length + 2, by omega, ?_⟩
    rw [htext, List.length_append]
    omega
  have hfirst : readFactor k (f.toList ++ (fs.map String.toList).flatMap (andSeparator ++ ·)) =
      some (e, (fs.map String.toList).flatMap (andSeparator ++ ·)) :=
    hf k _ (by omega) (boundary_flatMap _)
  have hor : readOr (k + 1 + 1) (" & ".intercalate (f :: fs)).toList =
      some (es.foldl .and e, []) := by
    have hand := (readAnd_step hfirst).trans (andTail_flatMap hfs' k e hkfuel)
    rw [htext, readOr_step hand, orTail_stop (fun r h => by cases h)]
    rfl
  unfold parse
  simp only [hk, hor]
  rfl

end TrackerSearch.TsQuery
