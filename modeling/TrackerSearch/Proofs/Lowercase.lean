import TrackerSearch.Unicode.Case

/-!
# Lowercasing twice changes nothing

Lowercasing maps each character to its lowercase form, and the capital sigma to `σ` or `ς` by
its context. Every character that lowercasing gives is *settled*: its lowercase form is
itself, and it is not the capital sigma. So lowercasing leaves a lowercased text as it is
(`lowercase_lowercase`), and also every text made of its characters (`lowercase_of_lowered`).

What this needs of the lowercase table is checked by the kernel, once, over the table as a
list: the code points of each form are characters, none is the capital sigma, an ASCII one is
no capital letter, and any other one is no key of the table. The keys ascend, so a code point
is looked for among the keys by a scan from its own entry that stops at the first key past it.
-/

namespace TrackerSearch.Unicode

/-! ## The table -/

/-- Whether no key of an ascending table is `n`, scanning up to the first key above it. -/
def absentAbove (n : Nat) : List (Nat × List Nat) → Bool
  | [] => true
  | (k, _) :: rest => if n < k then true else n != k && absentAbove n rest

/-- Whether no key of a descending table is `n`, scanning down to the first key below it. -/
def absentBelow (n : Nat) : List (Nat × List Nat) → Bool
  | [] => true
  | (k, _) :: rest => if k < n then true else n != k && absentBelow n rest

/-- Whether a code point `n` of the form of key `k` is a character other than the capital
sigma that is its own lowercase form: an ASCII one is no capital letter, and another is not
among the keys, below `k` (`below`, descending) or above it (`above`, ascending). -/
def settledCode (below above : List (Nat × List Nat)) (k n : Nat) : Bool :=
  (n < 0xD800 || (0xDFFF < n && n < 0x110000)) && n != 0x3A3 &&
    if n < 128 then !(65 ≤ n && n ≤ 90)
    else if k < n then absentAbove n above
    else n != k && absentBelow n below

/-- Whether each code point of each form from `above` on is settled; `below` holds the
entries already passed, the nearest first. -/
def formsSettled (below : List (Nat × List Nat)) : List (Nat × List Nat) → Bool
  | [] => true
  | (k, f) :: above => f.all (settledCode below above k) && formsSettled ((k, f) :: below) above

/-- Whether the keys of a table ascend. -/
def keysAscend : List (Nat × List Nat) → Bool
  | (a, _) :: (b, f) :: rest => a < b && keysAscend ((b, f) :: rest)
  | _ => true

theorem keysAscend_lowercaseTable : keysAscend lowercaseTable = true := by
  decide +kernel

theorem formsSettled_lowercaseTable : formsSettled [] lowercaseTable = true := by
  decide +kernel

theorem sigmas_not_keys :
    absentAbove 0x3C2 lowercaseTable = true ∧ absentAbove 0x3C3 lowercaseTable = true := by
  decide +kernel

theorem pairwise_of_keysAscend :
    ∀ {t : List (Nat × List Nat)}, keysAscend t = true → t.Pairwise (·.1 < ·.1)
  | [], _ => .nil
  | [_], _ => List.pairwise_singleton _ _
  | (a, f) :: (b, g) :: rest, h => by
    simp only [keysAscend, Bool.and_eq_true, decide_eq_true_eq] at h
    have ih := pairwise_of_keysAscend h.2
    refine List.Pairwise.cons (fun e he => ?_) ih
    rcases List.mem_cons.1 he with rfl | he
    · exact h.1
    · exact Nat.lt_trans h.1 (List.rel_of_pairwise_cons ih he)

theorem absentAbove_sound {n : Nat} :
    ∀ {t : List (Nat × List Nat)}, t.Pairwise (·.1 < ·.1) → absentAbove n t = true →
      ∀ e ∈ t, e.1 ≠ n
  | [], _, _ => by simp
  | (k, f) :: rest, hs, h => by
    intro e he
    have hk : ∀ e ∈ rest, k < e.1 := fun _ he => List.rel_of_pairwise_cons hs he
    by_cases hn : n < k
    · rcases List.mem_cons.1 he with rfl | he
      · exact Nat.ne_of_gt hn
      · exact Nat.ne_of_gt (Nat.lt_trans hn (hk e he))
    · simp only [absentAbove, hn, if_false, Bool.and_eq_true, bne_iff_ne] at h
      rcases List.mem_cons.1 he with rfl | he
      · exact h.1.symm
      · exact absentAbove_sound hs.of_cons h.2 e he

theorem absentBelow_sound {n : Nat} :
    ∀ {t : List (Nat × List Nat)}, t.Pairwise (·.1 > ·.1) → absentBelow n t = true →
      ∀ e ∈ t, e.1 ≠ n
  | [], _, _ => by simp
  | (k, f) :: rest, hs, h => by
    intro e he
    have hk : ∀ e ∈ rest, k > e.1 := fun _ he => List.rel_of_pairwise_cons hs he
    by_cases hn : k < n
    · rcases List.mem_cons.1 he with rfl | he
      · exact Nat.ne_of_lt hn
      · exact Nat.ne_of_lt (Nat.lt_trans (hk e he) hn)
    · simp only [absentBelow, hn, if_false, Bool.and_eq_true, bne_iff_ne] at h
      rcases List.mem_cons.1 he with rfl | he
      · exact h.1.symm
      · exact absentBelow_sound hs.of_cons h.2 e he

/-- What the kernel's check says of a code point of a form in the table `t`. -/
def SettledCode (t : List (Nat × List Nat)) (n : Nat) : Prop :=
  n.isValidChar ∧ n ≠ 0x3A3 ∧ (n < 128 → ¬(65 ≤ n ∧ n ≤ 90)) ∧ (128 ≤ n → ∀ e ∈ t, e.1 ≠ n)

theorem formsSettled_sound :
    ∀ {above below : List (Nat × List Nat)}, (below.reverse ++ above).Pairwise (·.1 < ·.1) →
      formsSettled below above = true →
      ∀ e ∈ above, ∀ n ∈ e.2, SettledCode (below.reverse ++ above) n
  | [], _, _, _ => by simp
  | (k, f) :: above, below, hs, h => by
    simp only [formsSettled, Bool.and_eq_true, List.all_eq_true] at h
    have hs' : ((k, f) :: below).reverse ++ above = below.reverse ++ (k, f) :: above := by simp
    intro e he n hn
    rcases List.mem_cons.1 he with rfl | he
    · have hc := h.1 n hn
      simp only [settledCode, Bool.and_eq_true, Bool.or_eq_true, decide_eq_true_eq,
        bne_iff_ne] at hc
      obtain ⟨⟨hv, hsig⟩, hrest⟩ := hc
      refine ⟨hv, hsig, fun hlt => ?_, fun hge e' he' => ?_⟩
      · simp only [hlt, if_true, Bool.not_eq_true', Bool.and_eq_false_iff,
          decide_eq_false_iff_not] at hrest
        omega
      · have hlow := List.pairwise_append.1 hs
        have hbelow : ∀ e ∈ below, e.1 < k := fun e he =>
          hlow.2.2 e (List.mem_reverse.2 he) (k, f) List.mem_cons_self
        have habove : ∀ e ∈ above, k < e.1 := fun _ he => List.rel_of_pairwise_cons hlow.2.1 he
        have hnot : ¬n < 128 := by omega
        simp only [hnot, if_false] at hrest
        rcases List.mem_append.1 he' with he' | he'
        · have he'' := List.mem_reverse.1 he'
          by_cases hk : k < n
          · exact Nat.ne_of_lt (Nat.lt_trans (hbelow e' he'') hk)
          · simp only [hk, if_false, Bool.and_eq_true, bne_iff_ne] at hrest
            refine absentBelow_sound ?_ hrest.2 e' he''
            exact List.pairwise_reverse.1 (by simpa using hlow.1)
        · rcases List.mem_cons.1 he' with rfl | he'
          · by_cases hk : k < n
            · exact Nat.ne_of_lt hk
            · simp only [hk, if_false, Bool.and_eq_true, bne_iff_ne] at hrest
              exact hrest.1.symm
          · by_cases hk : k < n
            · simp only [hk, if_true] at hrest
              exact absentAbove_sound hlow.2.1.of_cons hrest e' he'
            · exact Nat.ne_of_gt (Nat.lt_of_le_of_lt (Nat.le_of_not_lt hk) (habove e' he'))
    · rw [← hs']
      exact formsSettled_sound (by rwa [hs']) h.2 e he n hn

/-- Each code point of a lowercase form is settled. -/
theorem lowercaseTable_settled {k : Nat} {f : List Nat} (h : (k, f) ∈ lowercaseTable)
    {n : Nat} (hn : n ∈ f) : SettledCode lowercaseTable n := by
  have hs : (([] : List (Nat × List Nat)).reverse ++ lowercaseTable).Pairwise
      (fun a b => a.1 < b.1) :=
    pairwise_of_keysAscend keysAscend_lowercaseTable
  simpa using formsSettled_sound hs formsSettled_lowercaseTable (k, f) h n hn

/-! ## Lowercase forms -/

/-- The binary search finds only what the array holds. -/
theorem findKey_sound {α : Type} {xs : Array (Nat × α)} {k lo hi : Nat} {v : α}
    (h : findKey xs k lo hi = some v) : (k, v) ∈ xs.toList := by
  fun_induction findKey xs k lo hi with
  | case1 lo hi _ mid key w hmid hk ih => exact ih h
  | case2 lo hi _ mid key w hmid hk hk' ih => exact ih h
  | case3 lo hi _ mid key w hmid hk hk' =>
    injection h with h
    subst h
    have hkey : key = k := by omega
    subst hkey
    exact Array.mem_toList_iff.2 (Array.mem_of_getElem? hmid)
  | case4 => cases h
  | case5 => cases h

/-- A character that lowercasing leaves as it is: its lowercase form is itself, and it is not
the capital sigma, which lowercasing maps by its context. -/
def Settled (c : Char) : Prop :=
  lowerForm c = [c] ∧ c ≠ capitalSigma

theorem lowerForm_of_ascii {c : Char} (h : c.toNat < 128) : lowerForm c = [c.toLower] := by
  unfold lowerForm
  rw [if_pos h]

theorem lowerForm_of_findKey {c : Char} (h : ¬c.toNat < 128) {f : List Nat}
    (hf : findKey lowercaseForms c.toNat 0 lowercaseForms.size = some f) :
    lowerForm c = f.map Char.ofNat := by
  unfold lowerForm
  rw [if_neg h, hf]

theorem lowerForm_of_not_key {c : Char} (h : ¬c.toNat < 128)
    (hk : ∀ e ∈ lowercaseTable, e.1 ≠ c.toNat) : lowerForm c = [c] := by
  unfold lowerForm
  rw [if_neg h]
  cases hf : findKey lowercaseForms c.toNat 0 lowercaseForms.size with
  | none => rfl
  | some f => exact absurd rfl (hk _ (findKey_sound hf))

/-- On ASCII, lowering is idempotent, stays ASCII, and keeps all but the capital letters. -/
theorem toLower_ascii : ∀ n < 128,
    (Char.ofNat n).toLower.toLower = (Char.ofNat n).toLower ∧
      (Char.ofNat n).toLower.toNat < 128 ∧
      (¬(65 ≤ n ∧ n ≤ 90) → (Char.ofNat n).toLower = Char.ofNat n) := by
  decide

theorem toNat_ofNat_of_isValidChar {n : Nat} (hv : n.isValidChar) : (Char.ofNat n).toNat = n := by
  rw [Char.ofNat, dif_pos hv]
  rfl

theorem settled_toLower {c : Char} (h : c.toNat < 128) : Settled c.toLower := by
  obtain ⟨hidem, hlt, -⟩ := toLower_ascii c.toNat h
  rw [Char.ofNat_toNat] at hidem hlt
  refine ⟨by rw [lowerForm_of_ascii hlt, hidem], fun hs => ?_⟩
  rw [hs] at hlt
  exact absurd hlt (by decide)

/-- A code point that the table's check passes is a settled character. -/
theorem settled_of_code {n : Nat} (hn : SettledCode lowercaseTable n) :
    Settled (Char.ofNat n) := by
  obtain ⟨hv, hsig, hascii, hkey⟩ := hn
  have htn := toNat_ofNat_of_isValidChar hv
  refine ⟨?_, fun hs => hsig (by rw [← htn, hs]; rfl)⟩
  by_cases h : n < 128
  · rw [lowerForm_of_ascii (by rw [htn]; exact h), (toLower_ascii n h).2.2 (hascii h)]
  · exact lowerForm_of_not_key (by rw [htn]; exact h) (by rw [htn]; exact hkey (by omega))

theorem settled_of_lowerForm {c : Char} (hc : c ≠ capitalSigma) : ∀ d ∈ lowerForm c, Settled d := by
  intro d hd
  by_cases h : c.toNat < 128
  · rw [lowerForm_of_ascii h, List.mem_singleton] at hd
    subst hd
    exact settled_toLower h
  · cases hf : findKey lowercaseForms c.toNat 0 lowercaseForms.size with
    | some f =>
      rw [lowerForm_of_findKey h hf, List.mem_map] at hd
      obtain ⟨n, hn, rfl⟩ := hd
      exact settled_of_code (lowercaseTable_settled (findKey_sound hf) hn)
    | none =>
      have hself : lowerForm c = [c] := by
        unfold lowerForm
        rw [if_neg h, hf]
      rw [hself, List.mem_singleton] at hd
      subst hd
      exact ⟨hself, hc⟩

/-- The two small sigmas are settled. -/
theorem settled_sigmas : Settled 'ς' ∧ Settled 'σ' := by
  have hs := pairwise_of_keysAscend keysAscend_lowercaseTable
  exact ⟨⟨lowerForm_of_not_key (by decide) (absentAbove_sound hs sigmas_not_keys.1), by decide⟩,
    ⟨lowerForm_of_not_key (by decide) (absentAbove_sound hs sigmas_not_keys.2), by decide⟩⟩

/-- Every character that lowercasing gives is settled. -/
theorem settled_lowercaseFrom : ∀ (before s : List Char), ∀ d ∈ lowercaseFrom before s, Settled d
  | _, [] => by simp [lowercaseFrom]
  | before, c :: rest => by
    intro d hd
    simp only [lowercaseFrom, List.mem_append] at hd
    rcases hd with hd | hd
    · by_cases hc : c = capitalSigma
      · simp only [hc, beq_self_eq_true, if_true] at hd
        split at hd <;>
          (rw [List.mem_singleton] at hd
           subst hd
           first | exact settled_sigmas.1 | exact settled_sigmas.2)
      · have hc' : (c == capitalSigma) = false := by simpa using hc
        simp only [hc', Bool.false_eq_true, if_false] at hd
        exact settled_of_lowerForm hc d hd
    · exact settled_lowercaseFrom (c :: before) rest d hd

theorem lowercaseFrom_of_settled :
    ∀ (before s : List Char), (∀ d ∈ s, Settled d) → lowercaseFrom before s = s
  | _, [], _ => rfl
  | before, c :: rest, h => by
    have hc := h c List.mem_cons_self
    have hc' : (c == capitalSigma) = false := by simpa using hc.2
    simp only [lowercaseFrom, hc', Bool.false_eq_true, if_false, hc.1]
    rw [lowercaseFrom_of_settled (c :: before) rest fun d hd => h d (List.mem_cons_of_mem _ hd)]
    rfl

/-- An ASCII text lowercases letter by letter. -/
theorem lowercaseFrom_of_ascii :
    ∀ (before s : List Char), (∀ c ∈ s, c.toNat < 128) → lowercaseFrom before s = s.map Char.toLower
  | _, [], _ => rfl
  | before, c :: rest, h => by
    have hc := h c List.mem_cons_self
    have hsigma : (c == capitalSigma) = false := by
      refine beq_false_of_ne fun he => ?_
      rw [he] at hc
      exact absurd hc (by decide)
    simp only [lowercaseFrom, hsigma, Bool.false_eq_true, if_false, lowerForm_of_ascii hc]
    rw [lowercaseFrom_of_ascii (c :: before) rest fun d hd => h d (List.mem_cons_of_mem _ hd)]
    rfl

theorem lowercase_of_ascii {s : String} (h : ∀ c ∈ s.toList, c.toNat < 128) :
    lowercase s = String.ofList (s.toList.map Char.toLower) := by
  rw [lowercase, lowercaseFrom_of_ascii [] _ h]

/-- Lowering a character changes only the ASCII capitals: what holds of each of them, and of a
character lowered, holds of the character. -/
theorem of_toLower {P : Char → Prop} (hupper : ∀ n, n < 26 → P (Char.ofNat (65 + n))) {c : Char}
    (h : P c.toLower) : P c := by
  unfold Char.toLower at h
  split at h
  · next hu =>
    have h65 : 65 ≤ c.toNat := UInt32.le_iff_toNat_le.1 hu.1
    have h90 : c.toNat ≤ 90 := UInt32.le_iff_toNat_le.1 hu.2
    have hc : c = Char.ofNat (65 + (c.toNat - 65)) := by
      rw [show 65 + (c.toNat - 65) = c.toNat by omega, Char.ofNat_toNat]
    rw [hc]
    exact hupper _ (by omega)
  · exact h

/-! ## Lowered texts -/

/-- A text that lowercasing leaves as it is, character by character. -/
def Lowered (s : String) : Prop :=
  ∀ d ∈ s.toList, Settled d

theorem lowered_lowercase (s : String) : Lowered (lowercase s) := by
  intro d hd
  unfold lowercase at hd
  rw [String.toList_ofList] at hd
  exact settled_lowercaseFrom [] _ d hd

theorem lowercase_of_lowered {s : String} (h : Lowered s) : lowercase s = s := by
  unfold lowercase
  rw [lowercaseFrom_of_settled [] _ h, String.ofList_toList]

/-- Lowercasing twice is lowercasing once. -/
theorem lowercase_lowercase (s : String) : lowercase (lowercase s) = lowercase s :=
  lowercase_of_lowered (lowered_lowercase s)

/-- A text made of the characters of a lowered text is lowered. -/
theorem Lowered.of_subset {s t : String} (ht : Lowered t) (h : ∀ c ∈ s.toList, c ∈ t.toList) :
    Lowered s :=
  fun d hd => ht d (h d hd)

end TrackerSearch.Unicode
