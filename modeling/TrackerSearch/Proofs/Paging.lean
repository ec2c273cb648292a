import TrackerSearch.Proofs.MemorySearch
import TrackerSearch.Proofs.QueryMeaning
import Mathlib.Data.List.Forall2
import Mathlib.Algebra.Group.Nat.Defs

/-!
# Paging through a search

A search over a store held in memory answers every stored row that matches, newest first, rows
updated in the same second keeping the order the store holds them in (`StableNewestFirst`).
The page at offset `k * L` with limit `L` is the `k`-th slice of `L` rows of that answer, so
the pages in order give the answer back, each row once. The count that comes with a page is
the number of matches when the page is not empty, and zero when it is.
-/

namespace TrackerSearch

/-- `sorted` holds the rows of `rows` newest first; rows updated in the same second keep the
order they have in `rows`. -/
structure StableNewestFirst (rows sorted : List WorkItemRow) : Prop where
  perm : sorted.Perm rows
  newest_first : sorted.Pairwise fun a b => b.updatedAt.seconds ≤ a.updatedAt.seconds
  stable : ∀ t, sorted.filter (·.updatedAt.seconds == t) = rows.filter (·.updatedAt.seconds == t)

section Convert

variable {α β ε : Type} {f : α → Except ε β}

theorem mapM_cons_eq_ok {a : α} {l : List α} {items : List β} :
    (a :: l).mapM f = .ok items ↔ ∃ b bs, f a = .ok b ∧ l.mapM f = .ok bs ∧ items = b :: bs := by
  cases hf : f a with
  | error e => simp [List.mapM_cons, hf, bind, Except.bind]
  | ok b =>
    cases hl : l.mapM f with
    | error e => simp [List.mapM_cons, hf, hl, bind, Except.bind]
    | ok bs => simp [List.mapM_cons, hf, hl, bind, Except.bind, pure, Except.pure, eq_comm]

/-- A conversion of a list succeeds with `items` exactly when each element converts to the
item in its place. -/
theorem mapM_eq_ok_iff {l : List α} {items : List β} :
    l.mapM f = .ok items ↔ List.Forall₂ (fun a b => f a = .ok b) l items := by
  induction l generalizing items with
  | nil => cases items <;> simp [pure, Except.pure]
  | cons a l ih =>
    rw [mapM_cons_eq_ok]
    cases items with
    | nil => simp
    | cons b bs => simp [ih]

theorem length_of_mapM_eq_ok {l : List α} {items : List β} (h : l.mapM f = .ok items) :
    items.length = l.length :=
  (mapM_eq_ok_iff.1 h).length_eq.symm

/-- Each element of a list related element by element to another is related to one of the
other's elements. -/
theorem exists_mem_of_forall₂ {γ δ : Type} {R : γ → δ → Prop} {l : List γ} {l' : List δ}
    (h : List.Forall₂ R l l') {a : γ} (ha : a ∈ l) : ∃ b ∈ l', R a b := by
  induction h with
  | nil => cases ha
  | cons hab _ ih =>
    rcases List.mem_cons.1 ha with rfl | ha
    · exact ⟨_, List.mem_cons_self, hab⟩
    · obtain ⟨b, hb, hr⟩ := ih ha
      exact ⟨b, List.mem_cons_of_mem _ hb, hr⟩

theorem forall_ok_of_mapM_eq_ok {l : List α} {bs : List β} (h : l.mapM f = .ok bs) :
    ∀ a ∈ l, ∃ b, f a = .ok b := by
  intro a ha
  obtain ⟨b, -, hb⟩ := exists_mem_of_forall₂ (mapM_eq_ok_iff.1 h) ha
  exact ⟨b, hb⟩

/-- The item of an element that converts is among the items. -/
theorem mem_of_mapM_eq_ok {l : List α} {bs : List β} (h : l.mapM f = .ok bs) {a : α}
    (ha : a ∈ l) {b : β} (hb : f a = .ok b) : b ∈ bs := by
  obtain ⟨b', hb', hfb'⟩ := exists_mem_of_forall₂ (mapM_eq_ok_iff.1 h) ha
  rw [hb, Except.ok.injEq] at hfb'
  rwa [hfb']

/-- Every item is the item of some element. -/
theorem exists_of_mem_mapM_eq_ok {l : List α} {bs : List β} (h : l.mapM f = .ok bs) {b : β}
    (hb : b ∈ bs) : ∃ a ∈ l, f a = .ok b :=
  exists_mem_of_forall₂ (List.Forall₂.flip (R := flip fun a b => f a = .ok b)
    (mapM_eq_ok_iff.1 h)) hb

theorem mapM_ok_of_forall : ∀ {l : List α}, (∀ a ∈ l, ∃ b, f a = .ok b) → ∃ bs, l.mapM f = .ok bs
  | [], _ => ⟨[], rfl⟩
  | a :: l, h => by
    obtain ⟨b, hb⟩ := h a List.mem_cons_self
    obtain ⟨bs, hbs⟩ := mapM_ok_of_forall fun x hx => h x (List.mem_cons_of_mem a hx)
    exact ⟨b :: bs, mapM_cons_eq_ok.2 ⟨b, bs, hb, hbs, rfl⟩⟩

end Convert

/-! ## Converting rows -/

/-- A row converts to a work item with its identifier. -/
theorem WorkItemType.convert_id {t : WorkItemType} {row : WorkItemRow} {item : WorkItem}
    (h : t.convert row = .ok item) : (item.id : Int) = row.id := by
  unfold WorkItemType.convert at h
  simp only [bind, Except.bind] at h
  split at h
  · cases h
  split at h
  · cases h
  split at h
  · cases h
  · next hn _ _ _ =>
    cases h
    exact Int.toNat_of_nonneg (Int.not_lt.1 hn)

theorem MemoryCatalog.convert_id {c : MemoryCatalog} {row : WorkItemRow} {item : WorkItem}
    (h : c.convert row = .ok item) : (item.id : Int) = row.id := by
  unfold MemoryCatalog.convert at h
  split at h
  · cases h
  · cases ht : WorkItemType.convert _ row with
    | error e =>
      rw [ht] at h
      cases h
    | ok it =>
      rw [ht] at h
      cases h
      exact WorkItemType.convert_id ht

/-- Converting rows keeps their identifiers, in order. -/
theorem MemoryCatalog.ids_of_mapM_convert {c : MemoryCatalog} {rows : List WorkItemRow}
    {items : List WorkItem} (h : rows.mapM c.convert = .ok items) :
    items.map (fun i => (i.id : Int)) = rows.map (·.id) := by
  have hr := mapM_eq_ok_iff.1 h
  clear h
  induction hr with
  | nil => rfl
  | cons hab _ ih => simp [MemoryCatalog.convert_id hab, ih]

namespace MemoryStore

/-- The store's sort is a stable sort, newest first. -/
theorem stableNewestFirst_newestFirst (rows : List WorkItemRow) :
    StableNewestFirst rows (newestFirst rows) := by
  have trans : ∀ a b c : WorkItemRow,
      decide (a.updatedAt.seconds ≥ b.updatedAt.seconds) = true →
      decide (b.updatedAt.seconds ≥ c.updatedAt.seconds) = true →
      decide (a.updatedAt.seconds ≥ c.updatedAt.seconds) = true := by
    intro a b c hab hbc
    simp only [decide_eq_true_eq] at *
    omega
  have total : ∀ a b : WorkItemRow,
      (decide (a.updatedAt.seconds ≥ b.updatedAt.seconds) ||
        decide (b.updatedAt.seconds ≥ a.updatedAt.seconds)) = true := by
    intro a b
    simp only [Bool.or_eq_true, decide_eq_true_eq]
    omega
  refine ⟨List.mergeSort_perm _ _, ?_, fun t => ?_⟩
  · exact (List.pairwise_mergeSort trans total rows).imp (by simp)
  · have hsame : (rows.filter (·.updatedAt.seconds == t)).Pairwise
        fun a b => decide (a.updatedAt.seconds ≥ b.updatedAt.seconds) = true := by
      refine List.Pairwise.imp_of_mem ?_ (List.pairwise_of_forall (R := fun _ _ => True)
        (fun _ _ => trivial))
      intro a b ha hb _
      simp only [List.mem_filter, beq_iff_eq] at ha hb
      simp [ha.2, hb.2]
    have hsub := List.sublist_mergeSort trans total hsame List.filter_sublist
    have hkept : List.Sublist (rows.filter (·.updatedAt.seconds == t))
        ((newestFirst rows).filter (·.updatedAt.seconds == t)) := by
      simpa [List.filter_filter, newestFirst] using hsub.filter (·.updatedAt.seconds == t)
    exact (hkept.eq_of_length ((List.mergeSort_perm _ _).filter _).length_eq.symm).symm

theorem le_of_mem_newest_first {b : WorkItemRow} {s : List WorkItemRow}
    (h : (b :: s).Pairwise fun a b => b.updatedAt.seconds ≤ a.updatedAt.seconds)
    {x : WorkItemRow} (hx : x ∈ b :: s) : x.updatedAt.seconds ≤ b.updatedAt.seconds := by
  rcases List.mem_cons.1 hx with rfl | hx
  · exact Int.le_refl _
  · exact List.rel_of_pairwise_cons h hx

/-- A list of rows newest first is fixed by the order of its rows within each second: two such
lists that agree there are equal. -/
theorem eq_of_newest_first {s s' : List WorkItemRow}
    (h : s.Pairwise fun a b => b.updatedAt.seconds ≤ a.updatedAt.seconds)
    (h' : s'.Pairwise fun a b => b.updatedAt.seconds ≤ a.updatedAt.seconds)
    (hf : ∀ t, s.filter (·.updatedAt.seconds == t) = s'.filter (·.updatedAt.seconds == t)) :
    s = s' := by
  induction s generalizing s' with
  | nil =>
    cases s' with
    | nil => rfl
    | cons b s' => simpa using hf b.updatedAt.seconds
  | cons a s ih =>
    cases s' with
    | nil => simpa using hf a.updatedAt.seconds
    | cons b s' =>
      have ha : a ∈ (b :: s').filter (·.updatedAt.seconds == a.updatedAt.seconds) := by
        rw [← hf]
        simp
      have hb : b ∈ (a :: s).filter (·.updatedAt.seconds == b.updatedAt.seconds) := by
        rw [hf]
        simp
      have hab : a.updatedAt.seconds = b.updatedAt.seconds :=
        Int.le_antisymm (le_of_mem_newest_first h' (List.mem_of_mem_filter ha))
          (le_of_mem_newest_first h (List.mem_of_mem_filter hb))
      have hhead := hf a.updatedAt.seconds
      rw [List.filter_cons_of_pos (by simp), List.filter_cons_of_pos (by simp [hab])] at hhead
      obtain ⟨rfl, -⟩ := List.cons.inj hhead
      congr 1
      refine ih h.of_cons h'.of_cons fun t => ?_
      have ht := hf t
      by_cases hat : a.updatedAt.seconds = t
      · rw [List.filter_cons_of_pos (by simp [hat]), List.filter_cons_of_pos (by simp [hat])] at ht
        exact (List.cons.inj ht).2
      · rwa [List.filter_cons_of_neg (by simp [hat]), List.filter_cons_of_neg (by simp [hat])] at ht

theorem window_unbounded {α : Type} (rows : List α) (hsize : rows.length < 2 ^ 64) :
    window {} rows = rows := by
  have hword : wrapWord 0 = 0 := rfl
  simp only [window, Option.getD_none, hword, List.drop_zero, Nat.pow_eq]
  exact List.take_of_length_le (by omega)

theorem window_page {α : Type} (rows : List α) (offset L : Nat) :
    window ⟨some ↑offset, some ↑L⟩ rows = (rows.drop offset).take L := by
  simp [window, wrapWord]

/-- Conversion commutes with taking a window. -/
theorem mapM_window {α β ε : Type} {f : α → Except ε β} {rows : List α} {items : List β}
    (h : rows.mapM f = .ok items) (p : Pagination) :
    (window p rows).mapM f = .ok (window p items) := by
  rw [mapM_eq_ok_iff] at h ⊢
  exact List.forall₂_take _ (List.forall₂_drop _ h)

end MemoryStore

theorem Pagination.validate_unbounded : Pagination.validate {} = .ok () :=
  rfl

theorem Pagination.validate_page (offset L : Nat) (hL : 0 < L) :
    Pagination.validate ⟨some ↑offset, some ↑L⟩ = .ok () := by
  have hL0 : L ≠ 0 := by omega
  simp [Pagination.validate, Pagination.validate.limitCheck, hL0]

/-- The slices of `L` at the offsets `0, L, 2L, …` give back the list. -/
theorem flatMap_range_slices {α : Type} (xs : List α) (L m : Nat) :
    (List.range m).flatMap (fun k => (xs.drop (k * L)).take L) = xs.take (m * L) := by
  induction m with
  | zero => simp
  | succ m ih =>
    rw [List.range_succ, List.flatMap_append, ih, List.flatMap_singleton, Nat.succ_mul,
      List.take_add]

section Pages

variable {rows : List WorkItemRow} {c : MemoryCatalog} {registry : Registry} {raw : String}
  {space : Option String} {A : List WorkItem} {n : Nat}

/-- A search with no page that is answered answers every match, newest first, with their
count, when the store holds fewer rows than the largest machine word. -/
theorem searchTextInMemory_unbounded (hsize : rows.length < 2 ^ 64)
    (h : (searchTextInMemory { rows := rows } c {} registry raw none none space).1 = .ok ⟨A, n⟩) :
    ∃ parsed spaceId, Token.tokenize registry raw = .ok parsed ∧
      parseSpaceId space = .ok spaceId ∧ c.answerable parsed ∧
      (MemoryStore.newestFirst (c.matchesOf rows parsed spaceId)).mapM c.convert = .ok A ∧
      n = A.length := by
  obtain ⟨parsed, spaceId, ht, hs, ha, hpage⟩ :=
    searchTextInMemory_of_ok rfl rfl Pagination.validate_unbounded h
  have hlen : (MemoryStore.newestFirst (c.matchesOf rows parsed spaceId)).length < 2 ^ 64 := by
    rw [MemoryStore.newestFirst, List.length_mergeSort]
    exact Nat.lt_of_le_of_lt (List.length_filter_le _ _) hsize
  rw [MemoryCatalog.pageOf_ok, MemoryStore.pageOfMatches, MemoryStore.window_unbounded _ hlen]
    at hpage
  cases hc : (MemoryStore.newestFirst (c.matchesOf rows parsed spaceId)).mapM c.convert with
  | error e =>
    rw [hc] at hpage
    cases hpage
  | ok items =>
    rw [hc] at hpage
    injection hpage with hpage
    injection hpage with hitems hn
    subst hitems
    refine ⟨parsed, spaceId, ht, hs, ha, hc, ?_⟩
    have hsorted : (MemoryStore.newestFirst (c.matchesOf rows parsed spaceId)).length =
        (c.matchesOf rows parsed spaceId).length :=
      List.length_mergeSort _
    rw [length_of_mapM_eq_ok hc, hsorted, ← hn]
    split
    · next hempty => rw [← hsorted, List.isEmpty_iff.1 hempty, List.length_nil]
    · rfl

/-- A page at offset `o` with limit `L` of a search that is answered holds the slice of `L`
items of the whole answer from `o`, with the count of the whole answer when it is not empty. -/
theorem searchTextInMemory_page {parsed : ParsedQuery} {spaceId : Option Uuid}
    (ht : Token.tokenize registry raw = .ok parsed) (hs : parseSpaceId space = .ok spaceId)
    (ha : c.answerable parsed)
    (hA : (MemoryStore.newestFirst (c.matchesOf rows parsed spaceId)).mapM c.convert = .ok A)
    (hn : n = A.length) (o L : Nat) (hL : 0 < L) :
    (searchTextInMemory { rows := rows } c {} registry raw (some ↑o) (some ↑L) space).1 =
      .ok ⟨(A.drop o).take L, if ((A.drop o).take L).isEmpty then 0 else n⟩ := by
  rw [searchTextInMemory_of_answerable rfl rfl ht hs ha (Pagination.validate_page o L hL),
    MemoryCatalog.pageOf_ok, MemoryStore.pageOfMatches, MemoryStore.mapM_window hA,
    MemoryStore.window_page, MemoryStore.window_page]
  have hlen := length_of_mapM_eq_ok hA
  rw [MemoryStore.newestFirst, List.length_mergeSort] at hlen
  simp [Except.map, MemoryStore.newestFirst, hlen, hn]

end Pages

/-- An answered search over the store answers its matching rows newest first with their count,
and the page at offset `k * L` with limit `L` is the `k`-th slice of `L` of them. -/
theorem searchFullText_pages_slice_sorted_matches (rows : List WorkItemRow)
    (catalog : MemoryCatalog) (registry : Registry) (raw : String) (space : Option String)
    (calls : Nat) (hsize : rows.length < 2 ^ 64) {A : List WorkItem} {n : Nat}
    (hall : (searchFullText (memoryBackend { rows := rows } catalog) {} registry raw none none
      space).run' calls = Except.ok ⟨A, n⟩) :
    (∃ parsed spaceId sorted, Token.tokenize registry raw = .ok parsed ∧
      parseSpaceId space = .ok spaceId ∧
      StableNewestFirst (rows.filter (answers (catalog.typeScope parsed.typeFilters) spaceId
        (TsQuery.parse parsed.assemble))) sorted ∧
      sorted.mapM catalog.convert = .ok A) ∧
    n = A.length ∧
    (∀ k L calls' : Nat, 0 < L →
      (searchFullText (memoryBackend { rows := rows } catalog) {} registry raw (some ↑(k * L))
        (some ↑L) space).run' calls' =
        Except.ok ⟨(A.drop (k * L)).take L, if ((A.drop (k * L)).take L).isEmpty then 0 else n⟩) ∧
    (∀ L m calls' : Nat, 0 < L → A.length ≤ m * L →
      ∃ pages : List ResultPage,
        (List.range m).mapM (fun k => Id.run ((searchFullText (memoryBackend { rows := rows }
          catalog) {} registry raw (some ↑(k * L)) (some ↑L) space).run' calls')) = .ok pages ∧
        pages.flatMap ResultPage.items = A) := by
  rw [searchFullText_memory_run'] at hall
  obtain ⟨parsed, spaceId, ht, hs, ha, hA, hn⟩ := searchTextInMemory_unbounded hsize hall
  have hpage : ∀ k L calls' : Nat, 0 < L →
      (searchFullText (memoryBackend { rows := rows } catalog) {} registry raw (some ↑(k * L))
        (some ↑L) space).run' calls' =
        Except.ok ⟨(A.drop (k * L)).take L,
          if ((A.drop (k * L)).take L).isEmpty then 0 else n⟩ := by
    intro k L calls' hL
    rw [searchFullText_memory_run']
    exact searchTextInMemory_page ht hs ha hA hn (k * L) L hL
  refine ⟨⟨parsed, spaceId, _, ht, hs, MemoryStore.stableNewestFirst_newestFirst _, hA⟩, hn,
    hpage, ?_⟩
  intro L m calls' hL hm
  refine ⟨(List.range m).map fun k => ⟨(A.drop (k * L)).take L,
    if ((A.drop (k * L)).take L).isEmpty then 0 else n⟩, ?_, ?_⟩
  · rw [mapM_eq_ok_iff, List.forall₂_map_right_iff, List.forall₂_same]
    intro k _
    exact hpage k L calls' hL
  · rw [List.flatMap_map, flatMap_range_slices, List.take_of_length_le hm]

/-- Five stored rows, four of whose identifiers start with `1`: the search `id:1` answers those
four newest first, and its second page of two holds the two oldest with the count of all four. -/
theorem searchFullText_pages_id_prefix :
    ∃ A : List WorkItem,
      (searchFullText (memoryBackend { rows := [{ id := 1, typeId := Uuid.nil, updatedAt := ⟨10⟩ },
          { id := 10, typeId := Uuid.nil, updatedAt := ⟨30⟩ },
          { id := 2, typeId := Uuid.nil, updatedAt := ⟨50⟩ },
          { id := 11, typeId := Uuid.nil, updatedAt := ⟨20⟩ },
          { id := 12, typeId := Uuid.nil, updatedAt := ⟨30⟩ }] }
        ⟨[{ id := Uuid.nil, name := "task", path := "task" }]⟩) {} {} "id:1" none none none).run' 0 =
        .ok ⟨A, 4⟩ ∧
      A.map (fun i => (i.id : Int)) = [10, 12, 11, 1] ∧
      (searchFullText (memoryBackend { rows := [{ id := 1, typeId := Uuid.nil, updatedAt := ⟨10⟩ },
          { id := 10, typeId := Uuid.nil, updatedAt := ⟨30⟩ },
          { id := 2, typeId := Uuid.nil, updatedAt := ⟨50⟩ },
          { id := 11, typeId := Uuid.nil, updatedAt := ⟨20⟩ },
          { id := 12, typeId := Uuid.nil, updatedAt := ⟨30⟩ }] }
        ⟨[{ id := Uuid.nil, name := "task", path := "task" }]⟩) {} {} "id:1" (some 2) (some 2) none).run' 0 =
        .ok ⟨(A.drop 2).take 2, 4⟩ ∧
      ((A.drop 2).take 2).map (fun i => (i.id : Int)) = [11, 1] := by
  have hwords : Text.words (Text.trimChar '"' (Text.trimChar '/' "id:1")) = ["id:1"] := by
    decide +kernel
  have hd : Token.decodedTokens "id:1" = ["id:1"] := by
    rw [Token.decodedTokens, hwords, List.map_cons, List.map_nil, Token.decode_of_unescaped (by simp)]
  have htok : Token.tokenize ({} : Registry) "id:1" =
      .ok { idFragments := [Token.idFragment "id:1"] } :=
    Token.tokenize_of_id hd (by decide +kernel)
  have he : TsQuery.parse (ParsedQuery.assemble { idFragments := [Token.idFragment "id:1"] }) =
      some (.lexeme "1" true) := by
    decide +kernel
  have hsel : ([{ id := 1, typeId := Uuid.nil, updatedAt := ⟨10⟩ },
      { id := 10, typeId := Uuid.nil, updatedAt := ⟨30⟩ },
      { id := 2, typeId := Uuid.nil, updatedAt := ⟨50⟩ },
      { id := 11, typeId := Uuid.nil, updatedAt := ⟨20⟩ },
      { id := 12, typeId := Uuid.nil, updatedAt := ⟨30⟩ }] : List WorkItemRow).map
        (answers none none (some (.lexeme "1" true))) = [true, true, false, true, true] := by
    decide +kernel
  simp only [List.map_cons, List.map_nil, List.cons.injEq] at hsel
  obtain ⟨h1, h10, h2, h11, h12, -⟩ := hsel
  have hmatch : (⟨[{ id := Uuid.nil, name := "task", path := "task" }]⟩ : MemoryCatalog).matchesOf
      [{ id := 1, typeId := Uuid.nil, updatedAt := ⟨10⟩ },
          { id := 10, typeId := Uuid.nil, updatedAt := ⟨30⟩ },
        { id := 2, typeId := Uuid.nil, updatedAt := ⟨50⟩ },
        { id := 11, typeId := Uuid.nil, updatedAt := ⟨20⟩ },
        { id := 12, typeId := Uuid.nil, updatedAt := ⟨30⟩ }] { idFragments := [Token.idFragment "id:1"] } none =
      [{ id := 1, typeId := Uuid.nil, updatedAt := ⟨10⟩ },
          { id := 10, typeId := Uuid.nil, updatedAt := ⟨30⟩ },
        { id := 11, typeId := Uuid.nil, updatedAt := ⟨20⟩ },
        { id := 12, typeId := Uuid.nil, updatedAt := ⟨30⟩ }] := by
    simp only [MemoryCatalog.matchesOf, MemoryCatalog.typeScope, List.isEmpty_nil, ↓reduceIte, he,
      List.filter_cons, List.filter_nil, h1, h10, h2, h11, h12, Bool.false_eq_true]
  have hsorted : MemoryStore.newestFirst [{ id := 1, typeId := Uuid.nil, updatedAt := ⟨10⟩ },
      { id := 10, typeId := Uuid.nil, updatedAt := ⟨30⟩ },
      { id := 11, typeId := Uuid.nil, updatedAt := ⟨20⟩ },
      { id := 12, typeId := Uuid.nil, updatedAt := ⟨30⟩ }] =
      [{ id := 10, typeId := Uuid.nil, updatedAt := ⟨30⟩ },
          { id := 12, typeId := Uuid.nil, updatedAt := ⟨30⟩ },
        { id := 11, typeId := Uuid.nil, updatedAt := ⟨20⟩ },
        { id := 1, typeId := Uuid.nil, updatedAt := ⟨10⟩ }] := by
    have hs := MemoryStore.stableNewestFirst_newestFirst [{ id := 1, typeId := Uuid.nil, updatedAt := ⟨10⟩ },
      { id := 10, typeId := Uuid.nil, updatedAt := ⟨30⟩ },
      { id := 11, typeId := Uuid.nil, updatedAt := ⟨20⟩ },
      { id := 12, typeId := Uuid.nil, updatedAt := ⟨30⟩ }]
    refine MemoryStore.eq_of_newest_first hs.newest_first (by decide) fun t => ?_
    rw [hs.stable]
    rcases em (t = 10) with rfl | h10
    · simp
    rcases em (t = 20) with rfl | h20
    · simp
    rcases em (t = 30) with rfl | h30
    · simp
    simp [Ne.symm h10, Ne.symm h20, Ne.symm h30]
  have hconv : ∀ r ∈ ([{ id := 10, typeId := Uuid.nil, updatedAt := ⟨30⟩ },
      { id := 12, typeId := Uuid.nil, updatedAt := ⟨30⟩ },
      { id := 11, typeId := Uuid.nil, updatedAt := ⟨20⟩ },
      { id := 1, typeId := Uuid.nil, updatedAt := ⟨10⟩ }] : List WorkItemRow),
      ∃ item, (⟨[{ id := Uuid.nil, name := "task", path := "task" }]⟩ : MemoryCatalog).convert r = .ok item := by
    intro r hr
    simp only [List.mem_cons, List.not_mem_nil, or_false] at hr
    rcases hr with rfl | rfl | rfl | rfl <;> exact ⟨_, rfl⟩
  obtain ⟨A, hA⟩ := mapM_ok_of_forall hconv
  have hids := MemoryCatalog.ids_of_mapM_convert hA
  have hall : (searchFullText (memoryBackend { rows := [{ id := 1, typeId := Uuid.nil, updatedAt := ⟨10⟩ },
      { id := 10, typeId := Uuid.nil, updatedAt := ⟨30⟩ },
      { id := 2, typeId := Uuid.nil, updatedAt := ⟨50⟩ },
      { id := 11, typeId := Uuid.nil, updatedAt := ⟨20⟩ },
      { id := 12, typeId := Uuid.nil, updatedAt := ⟨30⟩ }] }
      ⟨[{ id := Uuid.nil, name := "task", path := "task" }]⟩) {} {} "id:1" none none none).run' 0 =
      .ok ⟨A, 4⟩ := by
    rw [searchFullText_memory_run', searchTextInMemory_of_answerable rfl rfl htok rfl
      (by simp [MemoryCatalog.answerable, he]) Pagination.validate_unbounded, MemoryCatalog.pageOf_ok,
      MemoryStore.pageOfMatches, hmatch, hsorted, MemoryStore.window_unbounded _ (by decide), hA]
    rfl
  have hpage := (searchFullText_pages_slice_sorted_matches _ _ _ _ _ 0 (by decide) hall).2.2.1 1 2 0
    (by decide)
  have hslice : ((A.drop 2).take 2).map (fun i => (i.id : Int)) = [11, 1] := by
    rw [List.map_take, List.map_drop, hids]
    rfl
  have hne : ((A.drop 2).take 2).isEmpty = false := by
    cases h : (A.drop 2).take 2 with
    | nil => simp [h] at hslice
    | cons _ _ => rfl
  rw [hne] at hpage
  exact ⟨A, hall, hids, hpage, hslice⟩

end TrackerSearch
