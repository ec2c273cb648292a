import TrackerSearch.Proofs.ExpressionRead
import Mathlib.Data.List.DropRight

/-!
# The expression reader reads back every printed expression

The store's reader of lexeme expressions has three levels: a *factor* is a lexeme or an
expression in parentheses, a *term* is factors joined by `&`, and an *expression* is terms joined
by `|`. So `&` binds tighter than `|`, and both group to the left.

`print` writes an expression in that grammar with as few parentheses as it needs: the right
side of `|` is wrapped when it is itself an alternative, the left side of `&` when it is an
alternative, and the right side of `&` unless it is a lexeme. Inside a lexeme every character
with a meaning in the syntax (white space, `:`, `&`, `|`, parentheses and the backslash) gets a
backslash before it. The main statement is that the reader gives back every expression whose
lexemes are non-empty and already in lowercase (`parse_print`).

The proof follows the three levels. For each of them a statement says that the reader, given the
printed text and then any text that may follow it there, reads the expression and stands in its
loop with it, with fuel to spare (`FactorText`, `TermText`, `ExprText`); one lemma per rule of the
grammar builds the statement for a compound from those of its parts, and an induction over the
expression puts them together.
-/

namespace TrackerSearch.TsQuery

/-! ## The printer -/

/-- Whether a character has a meaning in the expression syntax, so that a lexeme writes it after
a backslash. -/
def isSyntax (c : Char) : Bool :=
  Unicode.whiteSpace.contains c || c == ':' || c == '&' || c == '|' || c == '(' || c == ')' ||
    c == '\\'

/-- The text of a lexeme with a backslash before each syntax character. -/
def escapeSyntax (cs : List Char) : List Char :=
  cs.flatMap fun c => if isSyntax c then ['\\', c] else [c]

/-- Whether an expression is an alternative. -/
def isOr : TsQuery → Bool
  | .or .. => true
  | _ => false

/-- Whether an expression is a lexeme. -/
def isLexeme : TsQuery → Bool
  | .lexeme .. => true
  | _ => false

/-- A text, in parentheses when `wrap` holds. -/
def wrapIf (wrap : Bool) (cs : List Char) : List Char :=
  if wrap then '(' :: cs ++ [')'] else cs

/-- The characters of an expression with as few parentheses as the grammar needs. -/
def printChars : TsQuery → List Char
  | .lexeme text pre => escapeSyntax text.toList ++ if pre then [':', '*'] else []
  | .and a b => wrapIf a.isOr a.printChars ++ [' ', '&', ' '] ++ wrapIf (!b.isLexeme) b.printChars
  | .or a b => a.printChars ++ [' ', '|', ' '] ++ wrapIf b.isOr b.printChars

/-- The text of an expression. -/
def print (e : TsQuery) : String :=
  String.ofList e.printChars

/-- An expression whose lexemes the reader can give back: each is non-empty and already in
lowercase, since the reader lowercases what it reads. -/
def Printable : TsQuery → Prop
  | .lexeme text _ => text ≠ "" ∧ Unicode.lowercase text = text
  | .and a b => Printable a ∧ Printable b
  | .or a b => Printable a ∧ Printable b

/-! ## Escaped lexemes -/

/-- What may follow a printed part: nothing, the blank before a sign, or a closing parenthesis. -/
def Follows (rest : List Char) : Prop :=
  ∀ c r, rest = c :: r → c = ' ' ∨ c = ')'

theorem follows_nil : Follows [] := by
  intro c r h
  cases h

theorem follows_space (r : List Char) : Follows (' ' :: r) := by
  intro c r' h
  exact .inl (List.cons.inj h).1.symm

theorem follows_close (r : List Char) : Follows (')' :: r) := by
  intro c r' h
  exact .inr (List.cons.inj h).1.symm

theorem close_not_blank : Unicode.whiteSpace.contains ')' = false :=
  signs_not_blank.2.1

/-- A character with no meaning in the syntax neither starts an escape or a suffix nor ends a
lexeme. -/
theorem plain_of_not_isSyntax {c : Char} (h : isSyntax c = false) :
    c ≠ '\\' ∧ c ≠ ':' ∧ endsLexeme c = false := by
  simp only [isSyntax, Bool.or_eq_false_iff, beq_eq_false_iff_ne, ne_eq] at h
  obtain ⟨⟨⟨⟨⟨⟨hblank, hcolon⟩, hamp⟩, hbar⟩, hopen⟩, hclose⟩, hback⟩ := h
  exact ⟨hback, hcolon, by simp [endsLexeme, hblank, hamp, hbar, hopen, hclose]⟩

/-- The reader takes an escaped lexeme character by character, whatever follows it. -/
theorem readLexeme_escapeSyntax (acc cs rest : List Char) :
    readLexeme acc (escapeSyntax cs ++ rest) = readLexeme (cs.reverse ++ acc) rest := by
  induction cs generalizing acc with
  | nil => rfl
  | cons c cs ih =>
    simp only [escapeSyntax, List.flatMap_cons, List.append_assoc] at ih ⊢
    split
    · rw [List.cons_append, List.cons_append, List.nil_append, readLexeme_escaped, ih]
      simp
    · next hc =>
      obtain ⟨h1, h2, h3⟩ := plain_of_not_isSyntax (by simpa using hc)
      rw [List.cons_append, List.nil_append, readLexeme_char acc _ h1 h2 h3, ih]
      simp

/-- A lexeme ends where a printed part may end. -/
theorem readLexeme_of_follows (acc : List Char) {rest : List Char} (h : Follows rest) :
    readLexeme acc rest = some (acc.reverse, false, rest) := by
  cases rest with
  | nil => rfl
  | cons c r =>
    have hends : endsLexeme c = true := by
      rcases h c r rfl with rfl | rfl
      · simp [endsLexeme, whiteSpace_space]
      · simp [endsLexeme]
    have hc : c ≠ '\\' ∧ c ≠ ':' := by
      rcases h c r rfl with rfl | rfl <;> decide
    rw [readLexeme.eq_6 _ _ _ (fun h _ => hc.1 h) (fun _ _ h _ => hc.1 h) hc.2, hends]
    rfl

/-- The weights after a suffix stop where a printed part may end. -/
theorem dropWhile_isAlpha_of_follows {rest : List Char} (h : Follows rest) :
    rest.dropWhile Char.isAlpha = rest := by
  cases rest with
  | nil => rfl
  | cons c r => rcases h c r rfl with rfl | rfl <;> rfl

theorem skipBlank_escapeSyntax {cs : List Char} (hne : cs ≠ []) (rest : List Char) :
    skipBlank (escapeSyntax cs ++ rest) = escapeSyntax cs ++ rest ∧
      ∀ r, escapeSyntax cs ++ rest ≠ '(' :: r := by
  obtain ⟨c, cs, rfl⟩ := List.exists_cons_of_ne_nil hne
  simp only [escapeSyntax, List.flatMap_cons, List.append_assoc]
  split
  · exact ⟨skipBlank_of_not_blank backslash_not_blank _, fun r h => by simp at h⟩
  · next hc =>
    simp only [isSyntax, Bool.or_eq_true, beq_iff_eq, not_or] at hc
    obtain ⟨⟨⟨⟨⟨⟨hblank, -⟩, -⟩, -⟩, hopen⟩, -⟩, -⟩ := hc
    refine ⟨skipBlank_of_not_blank (by simpa using hblank) _, fun r h => ?_⟩
    simp only [List.cons_append, List.nil_append, List.cons.injEq] at h
    exact hopen h.1

/-! ## The three levels of the reader -/

/-- The reader reads `cs` as the factor `e`, whatever may follow it, with enough fuel. -/
def FactorText (cs : List Char) (e : TsQuery) : Prop :=
  ∀ n rest, Follows rest → 4 * cs.length + 2 ≤ n → readFactor n (cs ++ rest) = some (e, rest)

/-- After `cs`, the reader of terms stands in its loop with `e` read, and fuel to spare. -/
def TermText (cs : List Char) (e : TsQuery) : Prop :=
  ∀ n rest, Follows rest → 4 * cs.length + 3 ≤ n →
    ∃ m, n ≤ m + 4 * cs.length + 1 ∧ readAnd n (cs ++ rest) = andTail m e rest

/-- After `cs`, the reader of expressions stands in its loop with `e` read, and fuel to spare,
when no `&` follows. -/
def ExprText (cs : List Char) (e : TsQuery) : Prop :=
  ∀ n rest, Follows rest → (∀ r, skipBlank rest ≠ '&' :: r) → 4 * cs.length + 4 ≤ n →
    ∃ m, n ≤ m + 4 * cs.length + 1 ∧ readOr n (cs ++ rest) = orTail m e rest

theorem readAnd_space (fuel : Nat) (cs : List Char) :
    readAnd (fuel + 2) (' ' :: cs) = readAnd (fuel + 2) cs := by
  simp only [readAnd, readFactor_space]

theorem orTail_skipBlank (fuel : Nat) (left : TsQuery) (cs : List Char) :
    orTail fuel left (skipBlank cs) = orTail fuel left cs := by
  cases fuel with
  | zero => rfl
  | succ fuel => simp only [orTail, skipBlank, List.dropWhile_idempotent]

theorem andTail_stop_of_follows {fuel : Nat} (hfuel : 1 ≤ fuel) {left : TsQuery} {rest : List Char}
    (hamp : ∀ r, skipBlank rest ≠ '&' :: r) : andTail fuel left rest = some (left, skipBlank rest) := by
  obtain ⟨k, rfl⟩ : ∃ k, fuel = k + 1 := ⟨fuel - 1, by omega⟩
  exact andTail_stop hamp

/-- A non-empty lexeme already in lowercase is read back from its escaped text, with the suffix
`:*` when it matches as a prefix. -/
theorem factorText_lexeme {text : String} (pre : Bool) (hne : text ≠ "")
    (hlow : Unicode.lowercase text = text) :
    FactorText (TsQuery.lexeme text pre).printChars (.lexeme text pre) := by
  intro n rest hrest hn
  obtain ⟨k, rfl⟩ : ∃ k, n = k + 1 := ⟨n - 1, by omega⟩
  have hcs : text.toList ≠ [] := by simpa using hne
  obtain ⟨hskip, hparen⟩ := skipBlank_escapeSyntax hcs
    ((if pre then [':', '*'] else []) ++ rest)
  have hread : readLexeme [] (escapeSyntax text.toList ++ ((if pre then [':', '*'] else []) ++ rest))
      = some (text.toList, pre, rest) := by
    rw [readLexeme_escapeSyntax]
    cases pre with
    | false => simpa using readLexeme_of_follows text.toList.reverse hrest
    | true =>
      have hsuffix := readLexeme_prefix text.toList.reverse rest
      rw [dropWhile_isAlpha_of_follows hrest, List.reverse_reverse] at hsuffix
      simpa using hsuffix
  have h : readFactor (k + 1) (escapeSyntax text.toList ++ ((if pre then [':', '*'] else []) ++ rest))
      = some (.lexeme (Unicode.lowercase (String.ofList text.toList)) pre, rest) :=
    readFactor_of_lexeme hskip hparen hread hcs
  rwa [String.ofList_toList, hlow, ← List.append_assoc] at h

/-- A factor is a term of its own. -/
theorem termText_of_factorText {cs : List Char} {e : TsQuery} (h : FactorText cs e) :
    TermText cs e := by
  intro n rest hrest hn
  obtain ⟨k, rfl⟩ : ∃ k, n = k + 1 := ⟨n - 1, by omega⟩
  exact ⟨k, by omega, readAnd_step (h k rest hrest (by omega))⟩

/-- A term, `&` and a factor make a term, the conjunction of the two. -/
theorem termText_and {cs ds : List Char} {a b : TsQuery} (ha : TermText cs a)
    (hb : FactorText ds b) : TermText (cs ++ [' ', '&', ' '] ++ ds) (.and a b) := by
  intro n rest hrest hn
  simp only [List.length_append, List.length_cons, List.length_nil] at hn
  obtain ⟨m, hm, hread⟩ := ha n (' ' :: '&' :: ' ' :: (ds ++ rest)) (follows_space _) (by omega)
  obtain ⟨j, rfl⟩ : ∃ j, m = j + 2 := ⟨m - 2, by omega⟩
  have hskip : skipBlank (' ' :: '&' :: ' ' :: (ds ++ rest)) = '&' :: ' ' :: (ds ++ rest) := by
    rw [skipBlank_space]
    exact skipBlank_of_not_blank signs_not_blank.2.2.1 _
  have hfactor : readFactor (j + 1) (' ' :: (ds ++ rest)) = some (b, rest) := by
    rw [readFactor_space]
    exact hb (j + 1) rest hrest (by omega)
  refine ⟨j + 1, by simp only [List.length_append, List.length_cons, List.length_nil]; omega, ?_⟩
  rw [List.append_assoc, List.append_assoc, List.cons_append, List.cons_append, List.cons_append,
    List.nil_append, hread, andTail_step hskip hfactor]

/-- A term followed by no `&` is an expression of its own. -/
theorem exprText_of_termText {cs : List Char} {e : TsQuery} (h : TermText cs e) :
    ExprText cs e := by
  intro n rest hrest hamp hn
  obtain ⟨k, rfl⟩ : ∃ k, n = k + 1 := ⟨n - 1, by omega⟩
  obtain ⟨m, hm, hread⟩ := h k rest hrest (by omega)
  have hterm : readAnd k (cs ++ rest) = some (e, skipBlank rest) := by
    rw [hread, andTail_stop_of_follows (by omega) hamp]
  exact ⟨k, by omega, by rw [readOr_step hterm, orTail_skipBlank]⟩

/-- An expression, `|` and a term make an expression, the alternative of the two. -/
theorem exprText_or {cs ds : List Char} {a b : TsQuery} (ha : ExprText cs a)
    (hb : TermText ds b) : ExprText (cs ++ [' ', '|', ' '] ++ ds) (.or a b) := by
  intro n rest hrest hamp hn
  simp only [List.length_append, List.length_cons, List.length_nil] at hn
  have hskip : skipBlank (' ' :: '|' :: ' ' :: (ds ++ rest)) = '|' :: ' ' :: (ds ++ rest) := by
    rw [skipBlank_space]
    exact skipBlank_of_not_blank signs_not_blank.2.2.2 _
  have hnot : ∀ r, skipBlank (' ' :: '|' :: ' ' :: (ds ++ rest)) ≠ '&' :: r := by
    intro r h
    rw [hskip] at h
    cases h
  obtain ⟨m, hm, hread⟩ := ha n (' ' :: '|' :: ' ' :: (ds ++ rest)) (follows_space _) hnot
    (by omega)
  obtain ⟨j, rfl⟩ : ∃ j, m = j + 3 := ⟨m - 3, by omega⟩
  obtain ⟨m', hm', hterm⟩ := hb (j + 2) rest hrest (by omega)
  have hand : readAnd (j + 2) (' ' :: (ds ++ rest)) = some (b, skipBlank rest) := by
    rw [readAnd_space, hterm, andTail_stop_of_follows (by omega) hamp]
  refine ⟨j + 2, by simp only [List.length_append, List.length_cons, List.length_nil]; omega, ?_⟩
  rw [List.append_assoc, List.append_assoc, List.cons_append, List.cons_append, List.cons_append,
    List.nil_append, hread, orTail_step hskip hand, orTail_skipBlank]

/-- An expression in parentheses is a factor. -/
theorem factorText_paren {cs : List Char} {e : TsQuery} (h : ExprText cs e) :
    FactorText (wrapIf true cs) e := by
  intro n rest hrest hn
  simp only [wrapIf, if_true, List.length_cons, List.length_append, List.length_nil] at hn ⊢
  obtain ⟨k, rfl⟩ : ∃ k, n = k + 1 := ⟨n - 1, by omega⟩
  have hclose : skipBlank (')' :: rest) = ')' :: rest := skipBlank_of_not_blank close_not_blank _
  obtain ⟨m, hm, hread⟩ := h k (')' :: rest) (follows_close rest)
    (fun r h => by rw [hclose] at h; cases h) (by omega)
  obtain ⟨j, rfl⟩ : ∃ j, m = j + 1 := ⟨m - 1, by omega⟩
  have hinner : readOr k (cs ++ ')' :: rest) = some (e, ')' :: rest) := by
    rw [hread, orTail_stop (fun r h => by rw [hclose] at h; cases h), hclose]
  simpa only [List.cons_append, List.append_assoc, List.nil_append] using
    readFactor_of_paren (skipBlank_of_not_blank signs_not_blank.1 _) hinner hclose

/-! ## Every printed expression is read back -/

/-- The text of an expression at each level of the grammar: in parentheses as a factor unless it
is a lexeme, as a term when it is an alternative, and as it is printed as an expression. The
induction runs over the expression, one grammar rule per constructor. -/
theorem printChars_reads : ∀ e : TsQuery, Printable e →
    FactorText (wrapIf (!e.isLexeme) e.printChars) e ∧ TermText (wrapIf e.isOr e.printChars) e ∧
      ExprText e.printChars e
  | .lexeme text pre, ⟨hne, hlow⟩ => by
    have hf : FactorText (TsQuery.lexeme text pre).printChars (.lexeme text pre) :=
      factorText_lexeme pre hne hlow
    have ht := termText_of_factorText hf
    exact ⟨hf, ht, exprText_of_termText ht⟩
  | .and a b, ⟨ha, hb⟩ => by
    have ht : TermText (TsQuery.and a b).printChars (.and a b) :=
      termText_and (printChars_reads a ha).2.1 (printChars_reads b hb).1
    have hx := exprText_of_termText ht
    exact ⟨factorText_paren hx, ht, hx⟩
  | .or a b, ⟨ha, hb⟩ => by
    have hx : ExprText (TsQuery.or a b).printChars (.or a b) :=
      exprText_or (printChars_reads a ha).2.2 (printChars_reads b hb).2.1
    have hf := factorText_paren hx
    exact ⟨hf, termText_of_factorText hf, hx⟩

/-- The reader gives back every printed expression whose lexemes are non-empty and in lowercase:
`&` binds tighter than `|`, both group to the left, and escaped characters are taken as they
are. -/
theorem parse_print (e : TsQuery) (h : Printable e) : parse e.print = some e := by
  obtain ⟨m, hm, hread⟩ := (printChars_reads e h).2.2 (4 * e.printChars.length + 4) []
    follows_nil (fun r h => by cases h) (Nat.le_refl _)
  obtain ⟨j, rfl⟩ : ∃ j, m = j + 1 := ⟨m - 1, by omega⟩
  have hor : readOr (4 * e.printChars.length + 4) e.printChars = some (e, []) := by
    rw [List.append_nil] at hread
    rw [hread, orTail_stop (fun r h => by cases h)]
    rfl
  simp only [parse, print, String.toList_ofList, hor]
  rfl

/-- An alternative on the left of `&` and a conjunction on its right, each in parentheses, with
a blank, a bar and a colon escaped in the lexemes: `(a\ b:* | x\|y) & (c & d\:e:*)`. -/
theorem parse_print_nested :
    Printable (.and (.or (.lexeme "a b" true) (.lexeme "x|y" false))
      (.and (.lexeme "c" false) (.lexeme "d:e" true))) ∧
    parse (TsQuery.and (.or (.lexeme "a b" true) (.lexeme "x|y" false))
      (.and (.lexeme "c" false) (.lexeme "d:e" true))).print =
      some (.and (.or (.lexeme "a b" true) (.lexeme "x|y" false))
        (.and (.lexeme "c" false) (.lexeme "d:e" true))) := by
  have h : Printable (.and (.or (.lexeme "a b" true) (.lexeme "x|y" false))
      (.and (.lexeme "c" false) (.lexeme "d:e" true))) := by
    refine ⟨⟨⟨?_, ?_⟩, ?_, ?_⟩, ⟨?_, ?_⟩, ?_, ?_⟩ <;> decide +kernel
  exact ⟨h, parse_print _ h⟩

end TrackerSearch.TsQuery
