import TrackerSearch.Search.Query
import Mathlib.Data.List.Sort

/-!
# Ascending identifier lists

The type filters of a search string and the types a catalog finds below them are kept as
identifier lists in ascending order, each identifier once, built by `insertSorted`. Such a list
is determined by its members (`Ascending.eq_of_mem_iff`), so the identifiers can be inserted in
any order and the list comes out the same.
-/

namespace TrackerSearch

instance : Std.Irrefl (α := Uuid) (· < ·) :=
  ⟨fun a => Nat.lt_irrefl a.value⟩

instance : Std.Antisymm (α := Uuid) (· < ·) :=
  ⟨fun _ _ hab hba => absurd (Nat.lt_trans hab hba) (Nat.lt_irrefl _)⟩

/-- Identifiers in ascending order, so each at most once. -/
def Ascending (l : List Uuid) : Prop :=
  l.Pairwise (· < ·)

theorem Uuid.lt_iff_value_lt {u v : Uuid} : u < v ↔ u.value < v.value :=
  Iff.rfl

theorem Uuid.eq_of_value_eq {u v : Uuid} (h : u.value = v.value) : u = v := by
  cases u
  cases v
  simp_all

theorem mem_insertSorted {u x : Uuid} :
    ∀ {l : List Uuid}, x ∈ insertSorted u l ↔ x = u ∨ x ∈ l
  | [] => by simp [insertSorted]
  | v :: vs => by
    unfold insertSorted
    split
    · simp
    split
    · next h =>
      rw [beq_iff_eq] at h
      subst h
      simp
    · simp only [List.mem_cons, mem_insertSorted]
      tauto

theorem Ascending.insertSorted {l : List Uuid} (h : Ascending l) (u : Uuid) :
    Ascending (insertSorted u l) := by
  induction l with
  | nil => simp [TrackerSearch.insertSorted, Ascending]
  | cons v vs ih =>
    obtain ⟨hv, hvs⟩ := List.pairwise_cons.1 h
    unfold TrackerSearch.insertSorted
    split
    · next hlt =>
      refine List.Pairwise.cons (fun y hy => ?_) h
      rcases List.mem_cons.1 hy with rfl | hy
      · exact hlt
      · exact Nat.lt_trans hlt (hv y hy)
    split
    · exact h
    · next hlt hne =>
      have hvu : v < u := by
        rw [Uuid.lt_iff_value_lt]
        rcases Nat.lt_or_ge v.value u.value with h' | h'
        · exact h'
        · exact absurd (Uuid.eq_of_value_eq (Nat.le_antisymm h' (Nat.not_lt.1 hlt)))
            (by simpa using hne)
      refine List.Pairwise.cons (fun y hy => ?_) (ih hvs)
      rcases mem_insertSorted.1 hy with rfl | hy
      · exact hvu
      · exact hv y hy

/-- Two ascending lists with the same members are the same list. -/
theorem Ascending.eq_of_mem_iff {l l' : List Uuid} (h : Ascending l) (h' : Ascending l')
    (hmem : ∀ x, x ∈ l ↔ x ∈ l') : l = l' :=
  List.Pairwise.eq_of_mem_iff h h' hmem

section Fold

variable {α : Type} (f : α → Uuid)

/-- Inserting the identifiers of a list, one after another, into an ascending list. -/
theorem ascending_foldl_insertSorted :
    ∀ (xs : List α) {acc : List Uuid}, Ascending acc →
      Ascending (xs.foldl (fun acc x => insertSorted (f x) acc) acc)
  | [], _, h => h
  | x :: xs, _, h => ascending_foldl_insertSorted xs (h.insertSorted (f x))

theorem mem_foldl_insertSorted :
    ∀ (xs : List α) (acc : List Uuid) (u : Uuid),
      u ∈ xs.foldl (fun acc x => insertSorted (f x) acc) acc ↔
        u ∈ acc ∨ ∃ x ∈ xs, f x = u
  | [], acc, u => by simp
  | x :: xs, acc, u => by
    rw [List.foldl_cons, mem_foldl_insertSorted xs, mem_insertSorted]
    simp only [List.mem_cons, exists_eq_or_imp]
    constructor
    · rintro ((rfl | h) | h) <;> tauto
    · rintro (h | rfl | h) <;> tauto

end Fold

end TrackerSearch
