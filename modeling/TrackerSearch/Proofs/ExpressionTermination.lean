import TrackerSearch.Search.TsQuery
import Mathlib.Data.List.TakeWhile

/-!
# The expression reader terminates

The store's reader of lexeme expressions runs on fuel, four steps per character of the text, and
answers `none` alike for a malformed text and for a reader that ran out. This module shows that
the fuel is never what stops it: `parse` gives what the same readers give with no bound on their
depth (`parse_terminates`).

The readers with no bound (`Unbounded`) are defined by well-founded recursion on the number of
characters not yet read and, between readers at one position, on their level: an alternative
starts with a conjunction, and a conjunction with a factor. Each answer carries a bound on what
it leaves: a factor takes a character at least, and so do the conjunctions and alternatives that
start with one; the loops of `&` and `|` never leave more than they were given. So each round of
a loop reads its sign and then a shorter text, and a factor enters the reader of alternatives
again only after its opening parenthesis.

The fuel readers agree with these whenever the fuel covers four steps per character; the proof is
an induction on the fuel with one step lemma per reader (`Agrees`).
-/

namespace TrackerSearch.TsQuery

/-! ## What a step consumes -/

theorem length_skipBlank_le (cs : List Char) : (skipBlank cs).length ≤ cs.length :=
  (List.dropWhile_suffix _).length_le

theorem length_lt_of_skipBlank {cs rest : List Char} {c : Char} (h : skipBlank cs = c :: rest) :
    rest.length < cs.length := by
  have hle := length_skipBlank_le cs
  rw [h, List.length_cons] at hle
  omega

/-- The reader of a lexeme takes at least one character for each one it keeps. -/
theorem length_readLexeme {acc cs text rest : List Char} {isStar : Bool}
    (h : readLexeme acc cs = some (text, isStar, rest)) :
    text.length + rest.length ≤ acc.length + cs.length := by
  fun_induction readLexeme acc cs with
  | case1 acc =>
    obtain ⟨rfl, -, rfl⟩ := by simpa using h
    simp
  | case2 => cases h
  | case3 acc c cs ih =>
    have hlen := ih h
    simp only [List.length_cons] at hlen ⊢
    omega
  | case4 acc cs isStar' cs' hsplit =>
    obtain ⟨rfl, -, rfl⟩ := by simpa using h
    have hstar : cs'.length ≤ cs.length := by
      split at hsplit <;> cases hsplit <;> simp
    have hdrop := (List.dropWhile_suffix (fun c => c.isAlpha) (l := cs')).length_le
    simp only [List.length_reverse, List.length_cons]
    omega
  | case5 acc c cs =>
    obtain ⟨rfl, -, rfl⟩ := by simpa using h
    simp
  | case6 acc c cs _ _ _ _ ih =>
    have hlen := ih h
    simp only [List.length_cons] at hlen ⊢
    omega

/-- A lexeme that is not empty has taken a character at least. -/
theorem length_lt_of_readLexeme {cs text rest : List Char} {isStar : Bool}
    (h : readLexeme [] cs = some (text, isStar, rest)) (hne : text ≠ []) :
    rest.length < cs.length := by
  have hlen := length_readLexeme h
  have hpos := List.length_pos_iff.2 hne
  simp only [List.length_nil] at hlen
  omega

/-- A call on a shorter text descends, whatever the levels of the two readers. -/
theorem lex_of_length_lt {a b : List Char} (i j : Nat) (h : a.length < b.length) :
    Prod.Lex (· < ·) (· < ·) (a.length, i) (b.length, j) :=
  Prod.Lex.left _ _ h

/-! ## The readers with no bound -/

namespace Unbounded

mutual
/-- Reads alternatives; what is left is shorter than the text. -/
def readOr (cs : List Char) : Option (TsQuery × {rest : List Char // rest.length < cs.length}) :=
  match readAnd cs with
  | none => none
  | some (left, ⟨rest, hrest⟩) =>
    match orTail left rest with
    | none => none
    | some (e, ⟨rest', hrest'⟩) => some (e, ⟨rest', by omega⟩)
termination_by (cs.length, 2)

/-- Reads further alternatives after `left`. -/
def orTail (left : TsQuery) (cs : List Char) :
    Option (TsQuery × {rest : List Char // rest.length ≤ cs.length}) :=
  match h : skipBlank cs with
  | '|' :: rest =>
    match readAnd rest with
    | none => none
    | some (right, ⟨rest', hrest'⟩) =>
      match orTail (.or left right) rest' with
      | none => none
      | some (e, ⟨rest'', hrest''⟩) =>
        some (e, ⟨rest'', by have := length_lt_of_skipBlank h; omega⟩)
  | rest => some (left, ⟨rest, h ▸ length_skipBlank_le cs⟩)
termination_by (cs.length, 0)
decreasing_by
  all_goals exact lex_of_length_lt _ _ (by have := length_lt_of_skipBlank h; omega)

/-- Reads conjunctions; what is left is shorter than the text. -/
def readAnd (cs : List Char) : Option (TsQuery × {rest : List Char // rest.length < cs.length}) :=
  match readFactor cs with
  | none => none
  | some (left, ⟨rest, hrest⟩) =>
    match andTail left rest with
    | none => none
    | some (e, ⟨rest', hrest'⟩) => some (e, ⟨rest', by omega⟩)
termination_by (cs.length, 1)

/-- Reads further conjuncts after `left`. -/
def andTail (left : TsQuery) (cs : List Char) :
    Option (TsQuery × {rest : List Char // rest.length ≤ cs.length}) :=
  match h : skipBlank cs with
  | '&' :: rest =>
    match readFactor rest with
    | none => none
    | some (right, ⟨rest', hrest'⟩) =>
      match andTail (.and left right) rest' with
      | none => none
      | some (e, ⟨rest'', hrest''⟩) =>
        some (e, ⟨rest'', by have := length_lt_of_skipBlank h; omega⟩)
  | rest => some (left, ⟨rest, h ▸ length_skipBlank_le cs⟩)
termination_by (cs.length, 0)
decreasing_by
  all_goals exact lex_of_length_lt _ _ (by have := length_lt_of_skipBlank h; omega)

/-- Reads a parenthesized expression or a lexeme; what is left is shorter than the text. -/
def readFactor (cs : List Char) : Option (TsQuery × {rest : List Char // rest.length < cs.length}) :=
  match h : skipBlank cs with
  | '(' :: rest =>
    match readOr rest with
    | none => none
    | some (inner, ⟨rest', hrest'⟩) =>
      match h' : skipBlank rest' with
      | ')' :: rest'' =>
        some (inner, ⟨rest'', by
          have := length_lt_of_skipBlank h
          have := length_lt_of_skipBlank h'
          omega⟩)
      | _ => none
  | rest =>
    match hl : readLexeme [] rest with
    | none => none
    | some (text, isStar, rest') =>
      if ht : text.isEmpty then none
      else some (.lexeme (Unicode.lowercase (String.ofList text)) isStar, ⟨rest', by
        have := length_lt_of_readLexeme hl (by simpa using ht)
        have := length_skipBlank_le cs
        rw [h] at this
        omega⟩)
termination_by (cs.length, 0)
decreasing_by
  all_goals exact lex_of_length_lt _ _ (by have := length_lt_of_skipBlank h; omega)
end

/-- Reads a whole expression; `none` when it is malformed or text other than blanks is left. -/
def parse (text : String) : Option TsQuery :=
  (readOr text.toList).bind fun r => if (skipBlank r.2.1).isEmpty then some r.1 else none

/-- An answer with the bound on what is left forgotten. -/
def plain {p : List Char → Prop} (r : Option (TsQuery × Subtype p)) :
    Option (TsQuery × List Char) :=
  r.map fun r => (r.1, r.2.1)

/-! Each reader, one step at a time, with the answers of the readers it calls kept whole so that
their bounds stay at hand. -/

theorem plain_readOr (cs : List Char) :
    plain (readOr cs) = (readAnd cs).bind fun r => plain (orTail r.1 r.2.1) := by
  rw [readOr]
  split
  · next h => rw [h]; rfl
  · next left rest hrest h =>
    rw [h]
    simp only [Option.bind_some]
    split <;> next h' => rw [h']; rfl

theorem plain_readAnd (cs : List Char) :
    plain (readAnd cs) = (readFactor cs).bind fun r => plain (andTail r.1 r.2.1) := by
  rw [readAnd]
  split
  · next h => rw [h]; rfl
  · next left rest hrest h =>
    rw [h]
    simp only [Option.bind_some]
    split <;> next h' => rw [h']; rfl

theorem plain_orTail_bar {left : TsQuery} {cs rest : List Char}
    (hs : skipBlank cs = '|' :: rest) :
    plain (orTail left cs) = (readAnd rest).bind fun r => plain (orTail (.or left r.1) r.2.1) := by
  rw [orTail]
  split
  · next rest' h =>
    obtain rfl : rest' = rest := by rw [hs] at h; exact (List.cons.inj h).2.symm
    split
    · next h' => rw [h']; rfl
    · next right rest'' hrest h' =>
      rw [h']
      simp only [Option.bind_some]
      split <;> next h'' => rw [h'']; rfl
  · next h => exact absurd hs (h rest)

theorem plain_orTail_stop {left : TsQuery} {cs : List Char} (hs : ∀ r, skipBlank cs ≠ '|' :: r) :
    plain (orTail left cs) = some (left, skipBlank cs) := by
  rw [orTail]
  split
  · next rest h => exact absurd h (hs rest)
  · rfl

theorem plain_andTail_amp {left : TsQuery} {cs rest : List Char}
    (hs : skipBlank cs = '&' :: rest) :
    plain (andTail left cs) =
      (readFactor rest).bind fun r => plain (andTail (.and left r.1) r.2.1) := by
  rw [andTail]
  split
  · next rest' h =>
    obtain rfl : rest' = rest := by rw [hs] at h; exact (List.cons.inj h).2.symm
    split
    · next h' => rw [h']; rfl
    · next right rest'' hrest h' =>
      rw [h']
      simp only [Option.bind_some]
      split <;> next h'' => rw [h'']; rfl
  · next h => exact absurd hs (h rest)

theorem plain_andTail_stop {left : TsQuery} {cs : List Char} (hs : ∀ r, skipBlank cs ≠ '&' :: r) :
    plain (andTail left cs) = some (left, skipBlank cs) := by
  rw [andTail]
  split
  · next rest h => exact absurd h (hs rest)
  · rfl

theorem plain_readFactor_paren {cs rest : List Char} (hs : skipBlank cs = '(' :: rest) :
    plain (readFactor cs) = (readOr rest).bind fun r =>
      match skipBlank r.2.1 with
      | ')' :: rest => some (r.1, rest)
      | _ => none := by
  rw [readFactor]
  split
  · next rest' h =>
    obtain rfl : rest' = rest := by rw [hs] at h; exact (List.cons.inj h).2.symm
    split
    · next h' => rw [h']; rfl
    · next inner rest'' hrest h' =>
      rw [h']
      simp only [Option.bind_some]
      split <;> next h'' => simp [h'', plain]
  · next h => exact absurd hs (h rest)

theorem plain_readFactor_lexeme {cs : List Char} (hs : ∀ r, skipBlank cs ≠ '(' :: r) :
    plain (readFactor cs) = (readLexeme [] (skipBlank cs)).bind fun r =>
      if r.1.isEmpty then none
      else some (.lexeme (Unicode.lowercase (String.ofList r.1)) r.2.1, r.2.2) := by
  rw [readFactor]
  split
  · next rest h => exact absurd h (hs rest)
  · split
    · next h' => rw [h']; rfl
    · next text isStar rest h' =>
      simp only [h', Option.bind_some]
      split <;> rfl

end Unbounded

/-! ## Fuel enough for every text -/

open Unbounded (plain)

/-- With fuel `n`, each reader gives what the reader with no bound gives, on every text short
enough for that fuel. -/
structure Agrees (n : Nat) : Prop where
  factor : ∀ cs, 4 * cs.length + 1 ≤ n → readFactor n cs = plain (Unbounded.readFactor cs)
  andTail : ∀ left cs, 4 * cs.length + 1 ≤ n →
    andTail n left cs = plain (Unbounded.andTail left cs)
  and : ∀ cs, 4 * cs.length + 2 ≤ n → readAnd n cs = plain (Unbounded.readAnd cs)
  orTail : ∀ left cs, 4 * cs.length + 1 ≤ n →
    orTail n left cs = plain (Unbounded.orTail left cs)
  or : ∀ cs, 4 * cs.length + 3 ≤ n → readOr n cs = plain (Unbounded.readOr cs)

section
variable {n : Nat} (h : Agrees n)
include h

/-! Each reader with one more step of fuel calls readers with `n` on what is left of the text,
which the bound carried by their answers keeps short enough for `n`. -/

theorem Agrees.orTail_succ {left : TsQuery} {cs : List Char} (hn : 4 * cs.length ≤ n) :
    TsQuery.orTail (n + 1) left cs = plain (Unbounded.orTail left cs) := by
  rw [TsQuery.orTail]
  split
  · next rest hs =>
    have hlt := length_lt_of_skipBlank hs
    rw [Unbounded.plain_orTail_bar hs, h.and rest (by omega)]
    cases hU : Unbounded.readAnd rest with
    | none => rfl
    | some r =>
      obtain ⟨right, rest', hrest'⟩ := r
      exact h.orTail (.or left right) rest' (by omega)
  · next hs => rw [Unbounded.plain_orTail_stop hs]

theorem Agrees.andTail_succ {left : TsQuery} {cs : List Char} (hn : 4 * cs.length ≤ n) :
    TsQuery.andTail (n + 1) left cs = plain (Unbounded.andTail left cs) := by
  rw [TsQuery.andTail]
  split
  · next rest hs =>
    have hlt := length_lt_of_skipBlank hs
    rw [Unbounded.plain_andTail_amp hs, h.factor rest (by omega)]
    cases hU : Unbounded.readFactor rest with
    | none => rfl
    | some r =>
      obtain ⟨right, rest', hrest'⟩ := r
      exact h.andTail (.and left right) rest' (by omega)
  · next hs => rw [Unbounded.plain_andTail_stop hs]

theorem Agrees.readAnd_succ {cs : List Char} (hn : 4 * cs.length + 1 ≤ n) :
    readAnd (n + 1) cs = plain (Unbounded.readAnd cs) := by
  rw [TsQuery.readAnd, Unbounded.plain_readAnd, h.factor cs hn]
  cases hU : Unbounded.readFactor cs with
  | none => rfl
  | some r =>
    obtain ⟨left, rest, hrest⟩ := r
    exact h.andTail left rest (by omega)

theorem Agrees.readOr_succ {cs : List Char} (hn : 4 * cs.length + 2 ≤ n) :
    readOr (n + 1) cs = plain (Unbounded.readOr cs) := by
  rw [TsQuery.readOr, Unbounded.plain_readOr, h.and cs hn]
  cases hU : Unbounded.readAnd cs with
  | none => rfl
  | some r =>
    obtain ⟨left, rest, hrest⟩ := r
    exact h.orTail left rest (by omega)

theorem Agrees.readFactor_succ {cs : List Char} (hn : 4 * cs.length ≤ n) :
    readFactor (n + 1) cs = plain (Unbounded.readFactor cs) := by
  rw [TsQuery.readFactor]
  split
  · next rest hs =>
    have hlt := length_lt_of_skipBlank hs
    rw [Unbounded.plain_readFactor_paren hs, h.or rest (by omega)]
    cases hU : Unbounded.readOr rest with
    | none => rfl
    | some r => rfl
  · next hs =>
    rw [Unbounded.plain_readFactor_lexeme hs]
    rfl

theorem Agrees.succ : Agrees (n + 1) where
  factor _ hn := h.readFactor_succ (by omega)
  andTail _ _ hn := h.andTail_succ (by omega)
  and _ hn := h.readAnd_succ (by omega)
  orTail _ _ hn := h.orTail_succ (by omega)
  or _ hn := h.readOr_succ (by omega)

end

/-- No fuel covers no text. -/
theorem agrees_zero : Agrees 0 where
  factor _ hn := by omega
  andTail _ _ hn := by omega
  and _ hn := by omega
  orTail _ _ hn := by omega
  or _ hn := by omega

theorem agrees : ∀ n, Agrees n
  | 0 => agrees_zero
  | n + 1 => (agrees n).succ

/-! ## The reader terminates -/

theorem skipBlank_eq_nil_iff (cs : List Char) :
    skipBlank cs = [] ↔ ∀ c ∈ cs, Unicode.whiteSpace.contains c = true := by
  simp [skipBlank, List.dropWhile_eq_nil_iff]

/-- The reader of expressions terminates on every text: with its fuel it gives what the
unbounded readers, by well-founded recursion on the characters left, give. -/
theorem parse_terminates (text : String) :
    parse text = Unbounded.parse text ∧
      ∀ e, parse text = some e ↔ ∃ rest, Unbounded.readOr text.toList = some (e, rest) ∧
        ∀ c ∈ rest.1, Unicode.whiteSpace.contains c = true := by
  have hfuel : readOr (4 * text.toList.length + 4) text.toList =
      plain (Unbounded.readOr text.toList) :=
    (agrees _).or text.toList (by omega)
  have hparse : parse text = Unbounded.parse text := by
    unfold parse Unbounded.parse
    simp only [hfuel]
    cases Unbounded.readOr text.toList <;> rfl
  refine ⟨hparse, fun e => ?_⟩
  rw [hparse, Unbounded.parse, Option.bind_eq_some_iff]
  constructor
  · rintro ⟨⟨e', rest⟩, hr, he⟩
    have hblank : (skipBlank rest.1).isEmpty = true := by
      by_contra hne
      simp [hne] at he
    obtain rfl : e' = e := by simpa [hblank] using he
    exact ⟨rest, hr, (skipBlank_eq_nil_iff _).1 (List.isEmpty_iff.1 hblank)⟩
  · rintro ⟨rest, hr, hblank⟩
    refine ⟨(e, rest), hr, ?_⟩
    simp [List.isEmpty_iff.2 ((skipBlank_eq_nil_iff _).2 hblank)]

end TrackerSearch.TsQuery
