import TrackerSearch.Proofs.TokenOrder
import Mathlib.Logic.Relation

/-!
# The tree of work item types

A type records where it stands in the tree only in its path: the labels of its root, of the types
between, and its own, joined by dots. A type lies below another when its path is the other's, or
continues it after a dot. That test is right because a label is the type's identifier in
hexadecimal digits: it has no dot, and it reads back as the identifier, so the path gives back
the list of identifiers above the type (`isDescendantOrSelf_iff_prefix_ids`).

For a catalog of types built at the root or below another one, each from an identifier of its
own, a type lies below another exactly when the other is reached from it by parent links. The
types a catalog finds below a list of identifiers are then the subtrees of the known ones. Asking
for the types below those again finds the same ones, and a search that adds a type filter below
one of its filters gives the same answer (`descendants_follow_parent_links`).
-/

namespace TrackerSearch

open Token

/-! ## Labels -/

namespace Uuid

theorem hexValue?_digitChar : ∀ d, d < 16 → Json.hexValue? (Nat.digitChar d) = some d := by
  decide +kernel

theorem foldlM_hexValue?_toDigits (v : Nat) :
    (Nat.toDigits 16 v).foldlM (fun n c => (Json.hexValue? c).map (n * 16 + ·)) 0 = some v := by
  induction v using Nat.strong_induction_on with
  | _ v ih =>
    rcases Nat.lt_or_ge v 16 with hv | hv
    · rw [Nat.toDigits_of_lt_base hv]
      simp [hexValue?_digitChar v hv]
    · rw [Nat.toDigits_of_base_le (by decide) hv, List.foldlM_append, ih (v / 16) (by omega)]
      simp [hexValue?_digitChar (v % 16) (Nat.mod_lt _ (by decide))]
      omega

theorem foldlM_hexValue?_replicate_zero (k : Nat) (cs : List Char) :
    (List.replicate k '0' ++ cs).foldlM (fun n c => (Json.hexValue? c).map (n * 16 + ·)) 0 =
      cs.foldlM (fun n c => (Json.hexValue? c).map (n * 16 + ·)) 0 := by
  induction k with
  | zero => rfl
  | succ k ih =>
    rw [List.replicate_succ, List.cons_append, List.foldlM_cons, ← ih]
    rfl

/-- The digits of an identifier read back as the identifier. -/
theorem hexValue?_hexDigits (v n : Nat) : hexValue? (hexDigits v n) = some v := by
  rw [hexValue?, hexDigits, foldlM_hexValue?_replicate_zero, foldlM_hexValue?_toDigits]

theorem isSome_of_foldlM_hexValue? : ∀ (cs : List Char) (init v : Nat),
    cs.foldlM (fun n c => (Json.hexValue? c).map (n * 16 + ·)) init = some v →
      ∀ c ∈ cs, (Json.hexValue? c).isSome
  | [], _, _, _ => by simp
  | c :: cs, init, v, h => by
    rw [List.foldlM_cons] at h
    cases hc : Json.hexValue? c with
    | none => simp [hc] at h
    | some d =>
      rw [hc] at h
      intro c' hc'
      rcases List.mem_cons.1 hc' with rfl | hc'
      · simp [hc]
      · exact isSome_of_foldlM_hexValue? cs _ v h c' hc'

end Uuid

namespace WorkItemType

/-- The characters of a type's label. -/
def labelChars (u : Uuid) : List Char := (pathLabel u).toList

theorem labelChars_eq (u : Uuid) : labelChars u = Uuid.hexDigits u.value 32 := by
  simp [labelChars, pathLabel, Uuid.simple]

theorem labelChars_injective : Function.Injective labelChars := by
  intro u w h
  rw [labelChars_eq, labelChars_eq] at h
  have hv := Uuid.hexValue?_hexDigits u.value 32
  rw [h, Uuid.hexValue?_hexDigits, Option.some.injEq] at hv
  exact Uuid.eq_of_value_eq hv.symm

/-- A label is made of hexadecimal digits, so it holds no dot. -/
theorem dot_not_mem_labelChars (u : Uuid) : '.' ∉ labelChars u := by
  intro h
  have hdigit := Uuid.isSome_of_foldlM_hexValue? _ 0 u.value
    (Uuid.hexValue?_hexDigits u.value 32) '.' (by rwa [labelChars_eq] at h)
  exact absurd hdigit (by decide)

end WorkItemType

/-! ## Labels joined by dots -/

section Joined

variable {α : Type} {x : α}

theorem intercalate_singleton_append : ∀ {A C : List (List α)}, A ≠ [] → C ≠ [] →
    [x].intercalate (A ++ C) = [x].intercalate A ++ x :: [x].intercalate C
  | [a], C, _, hC => by
    rw [List.singleton_append, List.intercalate_cons_of_ne_nil hC, List.intercalate_singleton]
    simp
  | a :: a' :: as, C, _, hC => by
    rw [List.cons_append, List.intercalate_cons_of_ne_nil (by simp),
      intercalate_singleton_append (by simp) hC, List.intercalate_cons_cons]
    simp

end Joined

/-- Labels without dots, joined by dots: the joined labels `B` are the joined labels `A`, or
continue them after a dot, exactly when `A` starts `B`. -/
theorem intercalate_dot_prefix_iff {A B : List (List Char)} (hA : ∀ l ∈ A, '.' ∉ l)
    (hB : ∀ l ∈ B, '.' ∉ l) (hA0 : A ≠ []) (hB0 : B ≠ []) :
    (['.'].intercalate B = ['.'].intercalate A ∨
      ['.'].intercalate A ++ ['.'] <+: ['.'].intercalate B) ↔ A <+: B := by
  constructor
  · rintro (h | ⟨rest, h⟩)
    · have hsplit := congrArg (List.splitOn '.') h
      rw [List.splitOn_intercalate '.' hB hB0, List.splitOn_intercalate '.' hA hA0] at hsplit
      exact hsplit ▸ List.prefix_refl A
    · have hsplit := congrArg (List.splitOn '.') h
      rw [List.splitOn_intercalate '.' hB hB0, List.append_assoc, List.singleton_append,
        List.splitOn_append_cons_self, List.splitOn_intercalate '.' hA hA0] at hsplit
      exact ⟨_, hsplit⟩
  · rintro ⟨C, rfl⟩
    cases C with
    | nil => exact .inl (by rw [List.append_nil])
    | cons c cs =>
      refine .inr ⟨['.'].intercalate (c :: cs), ?_⟩
      rw [intercalate_singleton_append hA0 (List.cons_ne_nil c cs), List.append_assoc,
        List.singleton_append]

/-! ## Types built as a tree -/

/-- How a type is built: at the root, or extending a type built before it. -/
inductive TypeBuild where
  | root (id : Uuid) (name : String)
  | extending (parent : TypeBuild) (id : Uuid) (name : String)
  deriving DecidableEq

namespace TypeBuild

/-- The identifier a type is built with. -/
def id : TypeBuild → Uuid
  | .root id _ => id
  | .extending _ id _ => id

/-- The type a type extends. -/
def parent? : TypeBuild → Option TypeBuild
  | .root .. => none
  | .extending parent .. => some parent

/-- The type built. -/
def type : TypeBuild → WorkItemType
  | .root id name => WorkItemType.root id name
  | .extending parent id name => WorkItemType.extending parent.type id name

/-- A type and the types reached from it by parent links, nearest first. -/
def lineage : TypeBuild → List TypeBuild
  | t@(.root ..) => [t]
  | t@(.extending parent ..) => t :: parent.lineage

/-- The identifiers from the root down to a type. -/
def ids (t : TypeBuild) : List Uuid := (t.lineage.map id).reverse

/-- `y` is the type `x` extends. -/
def ParentLink (x y : TypeBuild) : Prop := x.parent? = some y

/-- Every type of a catalog, and every type it was built from, has an identifier of its own. -/
def DistinctIds (bs : List TypeBuild) : Prop :=
  ∀ x ∈ bs.flatMap lineage, ∀ y ∈ bs.flatMap lineage, x.id = y.id → x = y

/-- The catalog of the types built. -/
def catalog (bs : List TypeBuild) : MemoryCatalog := ⟨bs.map type⟩

@[simp]
theorem id_type (t : TypeBuild) : t.type.id = t.id := by
  cases t <;> rfl

theorem self_mem_lineage (t : TypeBuild) : t ∈ t.lineage := by
  cases t <;> simp [lineage]

theorem lineage_ne_nil (t : TypeBuild) : t.lineage ≠ [] :=
  List.ne_nil_of_mem (self_mem_lineage t)

theorem ids_ne_nil (t : TypeBuild) : t.ids ≠ [] := by
  simp [ids, lineage_ne_nil]

/-- The path of a type is the labels of its identifiers, root first, joined by dots. -/
theorem toList_path (t : TypeBuild) :
    t.type.path.toList = ['.'].intercalate (t.ids.map WorkItemType.labelChars) := by
  induction t with
  | root id name =>
    simp [type, WorkItemType.root, ids, lineage, TypeBuild.id, WorkItemType.labelChars]
  | extending parent id name ih =>
    have hids : (extending parent id name).ids = parent.ids ++ [id] := by
      simp [ids, lineage, TypeBuild.id]
    rw [hids, List.map_append, intercalate_singleton_append (by simp [ids_ne_nil]) (by simp)]
    simp [type, WorkItemType.extending, ih, WorkItemType.labelChars]

/-- A type lies below another, or is it, exactly when the other's identifiers, root first, start
its own. -/
theorem isDescendantOrSelf_iff_prefix_ids (t a : TypeBuild) :
    t.type.isDescendantOrSelf a.type = true ↔ a.ids <+: t.ids := by
  have hlabels : ∀ u : TypeBuild, ∀ l ∈ u.ids.map WorkItemType.labelChars, '.' ∉ l := by
    intro u l hl
    obtain ⟨v, -, rfl⟩ := List.mem_map.1 hl
    exact WorkItemType.dot_not_mem_labelChars v
  rw [← List.prefix_map_iff_of_injective WorkItemType.labelChars_injective,
    ← intercalate_dot_prefix_iff (hlabels a) (hlabels t) (by simp [ids_ne_nil])
      (by simp [ids_ne_nil]),
    ← toList_path, ← toList_path, WorkItemType.isDescendantOrSelf, Bool.or_eq_true, beq_iff_eq,
    String.startsWith_string_iff, ← String.toList_inj, String.toList_append]
  rfl

/-- The lineage of a type of a lineage ends it. -/
theorem lineage_suffix_of_mem {t x : TypeBuild} (h : x ∈ t.lineage) :
    x.lineage <:+ t.lineage := by
  induction t with
  | root id name =>
    rw [lineage, List.mem_singleton] at h
    subst h
    exact List.suffix_refl _
  | extending parent id name ih =>
    rcases List.mem_cons.1 h with rfl | h
    · exact List.suffix_refl _
    · exact (ih h).trans (List.suffix_cons _ _)

theorem mem_lineage_of_parentLink {x y : TypeBuild} (h : ParentLink x y) : y ∈ x.lineage := by
  cases x with
  | root id name => cases h
  | extending parent id name =>
    cases h
    exact List.mem_cons_of_mem _ (self_mem_lineage _)

/-- The lineage of a type is what parent links reach from it. -/
theorem mem_lineage_iff_reaches {t a : TypeBuild} :
    a ∈ t.lineage ↔ Relation.ReflTransGen ParentLink t a := by
  constructor
  · intro h
    induction t with
    | root id name =>
      rw [lineage, List.mem_singleton] at h
      rw [h]
    | extending parent id name ih =>
      rcases List.mem_cons.1 h with rfl | h
      · exact .refl
      · exact .head rfl (ih h)
  · intro h
    induction h with
    | refl => exact self_mem_lineage t
    | tail _ hlink ih =>
      exact (lineage_suffix_of_mem ih).subset (mem_lineage_of_parentLink hlink)

/-! ## A catalog of types with distinct identifiers -/

section Catalog

variable {bs : List TypeBuild}

theorem mem_flatMap_lineage {t x : TypeBuild} (ht : t ∈ bs) (hx : x ∈ t.lineage) :
    x ∈ bs.flatMap lineage :=
  List.mem_flatMap.2 ⟨t, ht, hx⟩

theorem eq_of_id_eq (hd : DistinctIds bs) {x y : TypeBuild} (hx : x ∈ bs) (hy : y ∈ bs)
    (h : x.id = y.id) : x = y :=
  hd x (mem_flatMap_lineage hx (self_mem_lineage x)) y
    (mem_flatMap_lineage hy (self_mem_lineage y)) h

/-- In a catalog whose identifiers are distinct, a type lies below another, or is it, exactly when
parent links lead from it to the other. -/
theorem isDescendantOrSelf_iff_reaches (hd : DistinctIds bs) {t a : TypeBuild} (ht : t ∈ bs)
    (ha : a ∈ bs) :
    t.type.isDescendantOrSelf a.type = true ↔ Relation.ReflTransGen ParentLink t a := by
  rw [isDescendantOrSelf_iff_prefix_ids, ← mem_lineage_iff_reaches]
  constructor
  · intro hpre
    have hmem : a.id ∈ t.ids :=
      hpre.subset (by simpa [ids] using List.mem_map_of_mem (f := id) (self_mem_lineage a))
    obtain ⟨y, hy, hya⟩ : ∃ y ∈ t.lineage, y.id = a.id := by simpa [ids] using hmem
    have hsame :=
      hd y (mem_flatMap_lineage ht hy) a (mem_flatMap_lineage ha (self_mem_lineage a)) hya
    exact hsame ▸ hy
  · intro h
    rw [ids, ids, List.reverse_prefix]
    exact (lineage_suffix_of_mem h).map id

theorem find?_catalog_eq_some {u : Uuid} {T : WorkItemType} (h : (catalog bs).find? u = some T) :
    ∃ b ∈ bs, b.id = u ∧ T = b.type := by
  obtain ⟨hT, hid⟩ := MemoryCatalog.find?_eq_some h
  obtain ⟨b, hb, rfl⟩ := List.mem_map.1 hT
  exact ⟨b, hb, by simpa using hid, rfl⟩

theorem find?_catalog_of_mem (hd : DistinctIds bs) {b : TypeBuild} (hb : b ∈ bs) :
    (catalog bs).find? b.id = some b.type := by
  have hfind : (catalog bs).find? b.type.id = some b.type := by
    refine MemoryCatalog.find?_of_mem (fun T hT T' hT' hid => ?_) (List.mem_map_of_mem hb)
    obtain ⟨x, hx, rfl⟩ := List.mem_map.1 hT
    obtain ⟨y, hy, rfl⟩ := List.mem_map.1 hT'
    rw [eq_of_id_eq hd hx hy (by simpa using hid)]
  rwa [id_type] at hfind

/-- The types a catalog finds below a list of identifiers: those from which parent links lead to
a type with one of the identifiers. -/
theorem mem_descendantsOrSelf_iff (hd : DistinctIds bs) (ids : List Uuid) (u : Uuid) :
    u ∈ (catalog bs).descendantsOrSelf ids ↔
      ∃ t ∈ bs, t.id = u ∧
        ∃ a ∈ bs, a.id ∈ ids ∧ Relation.ReflTransGen ParentLink t a := by
  rw [MemoryCatalog.descendantsOrSelf, mem_foldl_insertSorted]
  simp only [List.not_mem_nil, false_or, List.mem_filter, List.any_eq_true, List.mem_filterMap]
  constructor
  · rintro ⟨T, ⟨hT, A, ⟨v, hv, hfind⟩, hdesc⟩, rfl⟩
    obtain ⟨t, ht, rfl⟩ : ∃ t ∈ bs, t.type = T := by simpa [catalog] using hT
    obtain ⟨a, ha, rfl, rfl⟩ := find?_catalog_eq_some hfind
    exact ⟨t, ht, by simp, a, ha, hv, (isDescendantOrSelf_iff_reaches hd ht ha).1 hdesc⟩
  · rintro ⟨t, ht, rfl, a, ha, hv, hreach⟩
    have hdesc := (isDescendantOrSelf_iff_reaches hd ht ha).2 hreach
    exact ⟨t.type, ⟨by simp [catalog, List.mem_map_of_mem ht], a.type,
      ⟨a.id, hv, find?_catalog_of_mem hd ha⟩, hdesc⟩, by simp⟩

theorem ascending_descendantsOrSelf (ids : List Uuid) :
    Ascending ((catalog bs).descendantsOrSelf ids) :=
  ascending_foldl_insertSorted _ _ List.Pairwise.nil

/-- Two lists of identifiers have the same types below them when every type of the catalog lies
below a type of one list exactly when it lies below a type of the other. -/
theorem descendantsOrSelf_congr (hd : DistinctIds bs) {ids ids' : List Uuid}
    (h : ∀ t ∈ bs, (∃ a ∈ bs, a.id ∈ ids ∧ Relation.ReflTransGen ParentLink t a) ↔
      ∃ a ∈ bs, a.id ∈ ids' ∧ Relation.ReflTransGen ParentLink t a) :
    (catalog bs).descendantsOrSelf ids = (catalog bs).descendantsOrSelf ids' := by
  refine (ascending_descendantsOrSelf ids).eq_of_mem_iff (ascending_descendantsOrSelf ids')
    fun u => ?_
  rw [mem_descendantsOrSelf_iff hd, mem_descendantsOrSelf_iff hd]
  exact ⟨fun ⟨t, ht, hu, hbelow⟩ => ⟨t, ht, hu, (h t ht).1 hbelow⟩,
    fun ⟨t, ht, hu, hbelow⟩ => ⟨t, ht, hu, (h t ht).2 hbelow⟩⟩

end Catalog

end TypeBuild

/-! ## A search with one more type filter -/

namespace Token

/-- A type filter token written after the tokens of a search string adds its type to the type
filters, and leaves a refused search string refused alike. -/
theorem tokenize_intercalate_append {registry : Registry} {ts : List String} {tok : String}
    {d : Uuid} (hj : Joinable ts) (hj' : Joinable (ts ++ [tok]))
    (htok : classify registry (decode tok) = .ok (.typeFilter d)) :
    tokenize registry (" ".intercalate (ts ++ [tok])) =
      (tokenize registry (" ".intercalate ts)).map (·.push (.typeFilter d)) := by
  rw [tokenize_eq_foldlM, tokenize_eq_foldlM, decodedTokens_intercalate hj',
    decodedTokens_intercalate hj, List.map_append, List.foldlM_append]
  cases (ts.map decode).foldlM (pushToken registry) {} with
  | error e => rfl
  | ok q =>
    have hstep : [decode tok].foldlM (pushToken registry) q = .ok (q.push (.typeFilter d)) := by
      rw [List.foldlM_cons, pushToken, htok]
      rfl
    exact hstep

end Token

/-- A search answers alike two tokenized queries with the same expression whose type filters
resolve to the same scope. -/
theorem searchInMemory_of_same_scope {s : MemoryStore} {c : MemoryCatalog}
    {config : SearchConfig} {pagination : Pagination} {spaceId : Option Uuid} {p p' : ParsedQuery}
    (hscope : c.typeScope p'.typeFilters = c.typeScope p.typeFilters)
    (hexpr : p'.assemble = p.assemble) :
    searchInMemory s c config p' pagination spaceId =
      searchInMemory s c config p pagination spaceId := by
  simp only [searchInMemory, hexpr, hscope]

namespace TypeBuild

/-- A type lies below another exactly when parent links lead there, the types found below a
list of identifiers are their subtrees, and a filter for a type below one already there changes
no answer. -/
theorem descendants_follow_parent_links (bs : List TypeBuild) (hd : DistinctIds bs) :
    (∀ t ∈ bs, ∀ a ∈ bs,
      t.type.isDescendantOrSelf a.type = true ↔ Relation.ReflTransGen ParentLink t a) ∧
    (∀ ids, Ascending ((catalog bs).descendantsOrSelf ids) ∧
      ∀ u, u ∈ (catalog bs).descendantsOrSelf ids ↔
        ∃ t ∈ bs, t.id = u ∧
          ∃ a ∈ bs, a.id ∈ ids ∧ Relation.ReflTransGen ParentLink t a) ∧
    (∀ ids, (catalog bs).descendantsOrSelf ((catalog bs).descendantsOrSelf ids) =
      (catalog bs).descendantsOrSelf ids) ∧
    ∀ (s : MemoryStore) (config : SearchConfig) (registry : Registry) (offset limit : Option Int)
      (space : Option String) (n : Nat) (ts : List String) (u tok : String),
      ∀ a ∈ bs, ∀ t ∈ bs, Relation.ReflTransGen ParentLink t a → u ∈ ts →
      classify registry (decode u) = .ok (.typeFilter a.id) →
      classify registry (decode tok) = .ok (.typeFilter t.id) →
      Joinable ts → Joinable (ts ++ [tok]) →
      (searchFullText (memoryBackend s (catalog bs)) config registry
          (" ".intercalate (ts ++ [tok])) offset limit space).run' n =
        (searchFullText (memoryBackend s (catalog bs)) config registry (" ".intercalate ts)
          offset limit space).run' n := by
  refine ⟨fun t ht a ha => isDescendantOrSelf_iff_reaches hd ht ha,
    fun ids => ⟨ascending_descendantsOrSelf ids, mem_descendantsOrSelf_iff hd ids⟩,
    fun ids => descendantsOrSelf_congr hd fun t ht => ?_, ?_⟩
  · constructor
    · rintro ⟨b, hb, hfound, htb⟩
      obtain ⟨b', hb', hid, a, ha, hav, hb'a⟩ :=
        (mem_descendantsOrSelf_iff hd ids b.id).1 hfound
      rw [eq_of_id_eq hd hb' hb hid] at hb'a
      exact ⟨a, ha, hav, htb.trans hb'a⟩
    · rintro ⟨a, ha, hav, hta⟩
      have hfound := (mem_descendantsOrSelf_iff hd ids t.id).2 ⟨t, ht, rfl, a, ha, hav, hta⟩
      exact ⟨t, ht, hfound, .refl⟩
  · intro s config registry offset limit space n ts u tok a ha t ht hta hu hua htok hj hj'
    rw [searchFullText_memory_run', searchFullText_memory_run']
    unfold searchTextInMemory
    rw [tokenize_intercalate_append hj hj' htok]
    cases hp : tokenize registry (" ".intercalate ts) with
    | error e => rfl
    | ok p =>
      have hfilter : a.id ∈ p.typeFilters := ((tokenize_typeFilters hp).2 a.id).2
        ⟨decode u, by rw [decodedTokens_intercalate hj]; exact List.mem_map_of_mem hu, hua⟩
      have hsame : (catalog bs).descendantsOrSelf (insertSorted t.id p.typeFilters) =
          (catalog bs).descendantsOrSelf p.typeFilters := by
        refine descendantsOrSelf_congr hd fun x _ => ⟨?_, ?_⟩
        · rintro ⟨b, hb, hbid, hxb⟩
          rcases mem_insertSorted.1 hbid with hbt | hbid
          · rw [eq_of_id_eq hd hb ht hbt] at hxb
            exact ⟨a, ha, hfilter, hxb.trans hta⟩
          · exact ⟨b, hb, hbid, hxb⟩
        · rintro ⟨b, hb, hbid, hxb⟩
          exact ⟨b, hb, mem_insertSorted.2 (.inr hbid), hxb⟩
      have hscope : (catalog bs).typeScope (p.push (.typeFilter t.id)).typeFilters =
          (catalog bs).typeScope p.typeFilters := by
        have hne : p.typeFilters ≠ [] := List.ne_nil_of_mem hfilter
        have hne' : insertSorted t.id p.typeFilters ≠ [] :=
          List.ne_nil_of_mem (mem_insertSorted.2 (.inl rfl))
        simp [MemoryCatalog.typeScope, ParsedQuery.push, hne, hne', hsame]
      dsimp only [Except.map]
      cases parseSpaceId space with
      | error e => rfl
      | ok spaceId => exact congrArg Prod.fst (searchInMemory_of_same_scope hscope rfl)

/-- A task type and a bug type below it. -/
theorem descendants_follow_parent_links_task_bug :
    DistinctIds [.root ⟨1⟩ "task", .extending (.root ⟨1⟩ "task") ⟨2⟩ "bug"] ∧
      ∀ t ∈ [TypeBuild.root ⟨1⟩ "task", .extending (.root ⟨1⟩ "task") ⟨2⟩ "bug"],
      ∀ a ∈ [TypeBuild.root ⟨1⟩ "task", .extending (.root ⟨1⟩ "task") ⟨2⟩ "bug"],
        t.type.isDescendantOrSelf a.type = true ↔ Relation.ReflTransGen ParentLink t a := by
  have hd : DistinctIds
      [.root ⟨1⟩ "task", .extending (.root ⟨1⟩ "task") ⟨2⟩ "bug"] := by
    simp [DistinctIds, lineage, TypeBuild.id]
  exact ⟨hd, (descendants_follow_parent_links _ hd).1⟩

end TypeBuild

end TrackerSearch
