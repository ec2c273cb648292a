import TrackerSearch.Proofs.MemorySearch
import Mathlib.Data.List.Nodup

/-!
# Converting stored rows by the types of a catalog

A work item type takes its fields from the type it extends when it is made, as a copy, and
`withField` then adds a field definition or replaces the one of the same name. So the definition
of a field in force for a type is the nearest one along the way the type was made: its own last
`withField` for that name, else the one its parent had when it was extended, and so on up to the
root (`TypeRecipe.definition?`).

A catalog made this way, with distinct identifiers, converts a stored row as follows
(`convert_by_nearest_definitions`): it fails with an internal error exactly when no type has the
row's type identifier; otherwise with a conversion error exactly when the identifier is negative
or a field whose nearest definition is required is absent or null in the row; and the work item it
gives has the row's identifier, type, space, version and times, and the row's fields with
`system.order` set to the execution order, which is null when that is not finite.
-/

namespace TrackerSearch

/-! ## Field maps -/

section Lookup

variable {α : Type}

theorem lookup_cons_of_ne {f k : String} (h : f ≠ k) (b : α) (l : List (String × α)) :
    ((k, b) :: l).lookup f = l.lookup f := by
  simp only [List.lookup_cons, beq_eq_false_iff_ne.2 h]

theorem lookup_of_mem_of_nodup :
    ∀ {l : List (String × α)} {name : String} {d : α}, (l.map Prod.fst).Nodup →
      (name, d) ∈ l → l.lookup name = some d
  | (k, d') :: rest, name, d, hnd, hmem => by
    rw [List.map_cons, List.nodup_cons] at hnd
    rcases List.mem_cons.1 hmem with h | h
    · obtain ⟨rfl, rfl⟩ := Prod.mk.inj h
      exact List.lookup_cons_self
    · have hne : name ≠ k := fun hk => hnd.1 (hk ▸ List.mem_map.2 ⟨(name, d), h, rfl⟩)
      rw [lookup_cons_of_ne hne, lookup_of_mem_of_nodup hnd.2 h]

theorem mem_of_lookup_eq_some {l : List (String × α)} {name : String} {d : α}
    (h : l.lookup name = some d) : (name, d) ∈ l := by
  obtain ⟨l₁, l₂, rfl, -⟩ := List.lookup_eq_some_iff.1 h
  simp

end Lookup

namespace Json

/-- Setting a member changes what that key finds and nothing else. -/
theorem lookup_setMember (k : String) (v : Json) (f : String) :
    ∀ l : List (String × Json), (setMember k v l).lookup f = if f = k then some v else l.lookup f
  | [] => by
    by_cases hf : f = k
    · subst hf
      simp [setMember]
    · rw [setMember, lookup_cons_of_ne hf, if_neg hf]
  | (k', v') :: rest => by
    rw [setMember]
    split
    · next hk =>
      have hk : k' = k := by simpa using hk
      subst hk
      by_cases hf : f = k'
      · subst hf
        simp
      · rw [lookup_cons_of_ne hf, lookup_cons_of_ne hf, if_neg hf]
    · next hk =>
      have hk : k' ≠ k := by simpa using hk
      by_cases hf : f = k'
      · subst hf
        rw [List.lookup_cons_self, List.lookup_cons_self, if_neg hk]
      · rw [lookup_cons_of_ne hf, lookup_cons_of_ne hf, lookup_setMember k v f rest]

end Json

/-- A field that a row does not hold, or holds as null. -/
def Absent (fields : Fields) (name : String) : Prop :=
  fields.lookup name = none ∨ fields.lookup name = some .null

/-- The test a conversion makes of a field, as a proposition. -/
theorem missing_eq_true_iff (fields : Fields) (name : String) :
    (match fields.lookup name with
      | some v => v.isNull
      | none => true) = true ↔ Absent fields name := by
  unfold Absent
  cases h : fields.lookup name with
  | none => simp
  | some v => cases v <;> simp [Json.isNull]

/-! ## Adding a field -/

namespace WorkItemType

/-- Replacing the definitions of one name changes what that name finds, if anything, and nothing
else. -/
theorem lookup_replace (name f : String) (d : FieldDefinition) :
    ∀ l : List (String × FieldDefinition),
      (l.map fun (n, d') => if n == name then (n, d) else (n, d')).lookup f =
        if f = name then (l.lookup f).map fun _ => d else l.lookup f
  | [] => by simp
  | (n, d') :: rest => by
    rw [List.map_cons]
    by_cases hn : n = name
    · subst hn
      simp only [beq_self_eq_true, if_true]
      by_cases hf : f = n
      · subst hf
        simp
      · rw [lookup_cons_of_ne hf, lookup_cons_of_ne hf, lookup_replace n f d rest]
    · have hn' : (n == name) = false := by simpa using hn
      simp only [hn', Bool.false_eq_true, if_false]
      by_cases hf : f = n
      · subst hf
        rw [List.lookup_cons_self, List.lookup_cons_self, if_neg hn]
      · rw [lookup_cons_of_ne hf, lookup_cons_of_ne hf, lookup_replace name f d rest]

/-- The names a type's list of fields has none of. -/
theorem beq_eq_false_of_not_any {t : WorkItemType} {name : String}
    (h : ¬(t.fields.any fun p => p.1 == name) = true) : ∀ p ∈ t.fields, p.1 ≠ name := by
  intro p hp hpn
  exact h (List.any_eq_true.2 ⟨p, hp, by simp [hpn]⟩)

/-- A field added to a type is what its name finds afterwards; other names find what they found. -/
theorem lookup_withField (t : WorkItemType) (name f : String) (d : FieldDefinition) :
    (t.withField name d).fields.lookup f = if f = name then some d else t.fields.lookup f := by
  unfold withField
  split
  · next hany =>
    rw [lookup_replace]
    by_cases hf : f = name
    · subst hf
      obtain ⟨p, hp, hpn⟩ := List.any_eq_true.1 hany
      have hsome : (t.fields.lookup f).isSome :=
        List.lookup_isSome_iff.2 ⟨p, hp, by rw [beq_iff_eq] at hpn ⊢; exact hpn.symm⟩
      obtain ⟨d', hd'⟩ := Option.isSome_iff_exists.1 hsome
      simp [hd']
    · simp [hf]
  · next hany =>
    rw [List.lookup_append]
    by_cases hf : f = name
    · subst hf
      have hnone : t.fields.lookup f = none :=
        List.lookup_eq_none_iff.2 fun p hp => bne_iff_ne.2 (beq_eq_false_of_not_any hany p hp).symm
      simp [hnone]
    · cases t.fields.lookup f <;> simp [hf]

theorem nodup_withField {t : WorkItemType} (h : (t.fields.map Prod.fst).Nodup) (name : String)
    (d : FieldDefinition) : ((t.withField name d).fields.map Prod.fst).Nodup := by
  unfold withField
  split
  · have hkeys : (t.fields.map fun (n, d') => if n == name then (n, d) else (n, d')).map Prod.fst =
        t.fields.map Prod.fst := by
      rw [List.map_map]
      refine List.map_congr_left fun p _ => ?_
      obtain ⟨n, d'⟩ := p
      simp only [Function.comp_apply]
      split <;> rfl
    rwa [hkeys]
  · next hany =>
    rw [List.map_append, List.nodup_append]
    refine ⟨h, List.nodup_cons.2 ⟨List.not_mem_nil, List.nodup_nil⟩, ?_⟩
    intro a ha b hb hab
    rw [List.map_cons, List.map_nil, List.mem_singleton] at hb
    obtain ⟨p, hp, rfl⟩ := List.mem_map.1 ha
    exact beq_eq_false_of_not_any hany p hp (hab.trans hb)

/-! ## A conversion, check by check -/

section Check

variable {α ε : Type}

/-- A loop that throws at the first element failing a check ends as a search for it does. -/
theorem forIn_check (l : List α) (c : α → Bool) (m : α → ε) :
    forIn l PUnit.unit (fun x (_ : PUnit) =>
      if c x = true then (Except.error (m x) : Except ε (ForInStep PUnit))
      else pure (ForInStep.yield PUnit.unit)) =
      match l.find? c with
      | some x => .error (m x)
      | none => .ok PUnit.unit := by
  induction l with
  | nil => rfl
  | cons x l ih =>
    rw [List.forIn_cons, List.find?_cons]
    cases hc : c x with
    | false => simpa [hc, bind, Except.bind, pure, Except.pure] using ih
    | true => simp [bind, Except.bind]

end Check

variable {t : WorkItemType} {row : WorkItemRow}

/-- A row of the type fails to convert exactly when its identifier is negative or a field the
type requires is absent or null in it. -/
theorem convert_eq_error_iff (h : row.typeId = t.id) :
    (∃ msg, t.convert row = .error msg) ↔
      row.id < 0 ∨ ∃ p ∈ t.fields, p.2.required = true ∧ Absent row.fields p.1 := by
  unfold convert
  simp only [bind, Except.bind, throw, throwThe, MonadExceptOf.throw, forIn_check, h,
    bne_self_eq_false, Bool.false_eq_true, if_false]
  by_cases hneg : row.id < 0
  · simp [hneg]
  · simp only [hneg, if_false, false_or]
    constructor
    · rintro ⟨msg, hmsg⟩
      split at hmsg
      · next heq =>
        split at heq
        · next p hp =>
          have hfound := List.find?_some hp
          rw [Bool.and_eq_true] at hfound
          exact ⟨p, List.mem_of_find?_eq_some hp, hfound.1, (missing_eq_true_iff _ _).1 hfound.2⟩
        · cases heq
      · cases hmsg
    · rintro ⟨p, hp, hreq, habsent⟩
      split
      · exact ⟨_, rfl⟩
      · next heq =>
        split at heq
        · cases heq
        · next hnone =>
          exact (List.find?_eq_none.1 hnone p hp
            (Bool.and_eq_true_iff.2 ⟨hreq, (missing_eq_true_iff _ _).2 habsent⟩)).elim

/-- The work item a conversion gives: the row's identifier, which is not negative, type, space,
version and times, and its fields with `system.order` set to the execution order. -/
theorem convert_eq_ok {item : WorkItem} (h : t.convert row = .ok item) :
    0 ≤ row.id ∧
      item = { id := row.id.toNat, typeId := row.typeId, spaceId := row.spaceId,
               version := row.version,
               fields := Json.setMember systemOrder (.ofFloat row.executionOrder) row.fields,
               createdAt := row.createdAt, updatedAt := row.updatedAt } := by
  unfold convert at h
  simp only [bind, Except.bind, throw, throwThe, MonadExceptOf.throw, forIn_check] at h
  split at h
  · cases h
  split at h
  · cases h
  · next hneg =>
    split at h
    · cases h
    · exact ⟨by omega, (Except.ok.inj h).symm⟩

end WorkItemType

/-! ## Types made by `root`, `extending` and `withField` -/

/-- How a type is made: at the root, extending a type made before it, or with a field definition
added to a type made before. -/
inductive TypeRecipe where
  | root (id : Uuid) (name : String)
  | extending (parent : TypeRecipe) (id : Uuid) (name : String)
  | withField (base : TypeRecipe) (field : String) (definition : FieldDefinition)

namespace TypeRecipe

/-- The type made. -/
def type : TypeRecipe → WorkItemType
  | .root id name => WorkItemType.root id name
  | .extending parent id name => WorkItemType.extending parent.type id name
  | .withField base field definition => base.type.withField field definition

/-- The nearest definition of a field along the way a type was made: the last `withField` for it,
else the one its parent had when it was extended, and so on up to the root. -/
def definition? : TypeRecipe → String → Option FieldDefinition
  | .root .., _ => none
  | .extending parent .., f => parent.definition? f
  | .withField base field definition, f => if f = field then some definition else base.definition? f

/-- The catalog of the types made. -/
def catalog (rs : List TypeRecipe) : MemoryCatalog := ⟨rs.map type⟩

/-- The fields of a type hold the nearest definition of each name. -/
theorem lookup_fields (r : TypeRecipe) (f : String) : r.type.fields.lookup f = r.definition? f := by
  induction r with
  | root id name => rfl
  | extending parent id name ih => exact ih
  | withField base field definition ih =>
    rw [type, WorkItemType.lookup_withField, ih, definition?]

/-- A type has one definition per field name. -/
theorem nodup_fields (r : TypeRecipe) : (r.type.fields.map Prod.fst).Nodup := by
  induction r with
  | root id name => exact List.nodup_nil
  | extending parent id name ih => exact ih
  | withField base field definition ih => exact WorkItemType.nodup_withField ih field definition

/-- A field a type defines and requires, as the conversion checks it: by the type's own list of
definitions, or by the nearest definition of each name. -/
theorem exists_required_iff (r : TypeRecipe) (fields : Fields) :
    (∃ p ∈ r.type.fields, p.2.required = true ∧ Absent fields p.1) ↔
      ∃ f d, r.definition? f = some d ∧ d.required = true ∧ Absent fields f := by
  constructor
  · rintro ⟨⟨f, d⟩, hp, hreq, habsent⟩
    exact ⟨f, d, by rw [← lookup_fields, lookup_of_mem_of_nodup (nodup_fields r) hp], hreq, habsent⟩
  · rintro ⟨f, d, hd, hreq, habsent⟩
    rw [← lookup_fields] at hd
    exact ⟨(f, d), mem_of_lookup_eq_some hd, hreq, habsent⟩

section Catalog

variable {rs : List TypeRecipe}

theorem find?_catalog (u : Uuid) :
    (catalog rs).find? u = (rs.find? fun r => r.type.id == u).map type := by
  simp only [MemoryCatalog.find?, catalog, List.find?_map]
  rfl

theorem find?_catalog_eq_none_iff (u : Uuid) :
    (catalog rs).find? u = none ↔ ∀ r ∈ rs, r.type.id ≠ u := by
  rw [find?_catalog, Option.map_eq_none_iff, List.find?_eq_none]
  simp

/-- In a catalog with distinct identifiers, an identifier finds the type that has it. -/
theorem find?_catalog_of_mem (hd : (rs.map fun r => r.type.id).Nodup) {r : TypeRecipe}
    (hr : r ∈ rs) : (catalog rs).find? r.type.id = some r.type := by
  refine MemoryCatalog.find?_of_mem (fun T hT T' hT' hid => ?_) (List.mem_map_of_mem hr)
  obtain ⟨x, hx, rfl⟩ := List.mem_map.1 hT
  obtain ⟨y, hy, rfl⟩ := List.mem_map.1 hT'
  rw [List.inj_on_of_nodup_map hd hx hy hid]

end Catalog

end TypeRecipe

/-- A work item made from a row: the row's identifier, type, space, version and times, and the
row's fields with `system.order` set to the execution order, which is null when that is not
finite. -/
structure MadeFrom (item : WorkItem) (row : WorkItemRow) : Prop where
  id : (item.id : Int) = row.id
  typeId : item.typeId = row.typeId
  spaceId : item.spaceId = row.spaceId
  version : item.version = row.version
  createdAt : item.createdAt = row.createdAt
  updatedAt : item.updatedAt = row.updatedAt
  fields : ∀ k, item.fields.lookup k =
    if k = systemOrder then
      some (if row.executionOrder.isFinite then .num (.float row.executionOrder) else .null)
    else row.fields.lookup k

theorem WorkItemType.madeFrom_of_convert {t : WorkItemType} {row : WorkItemRow} {item : WorkItem}
    (h : t.convert row = .ok item) : MadeFrom item row := by
  obtain ⟨hid, rfl⟩ := WorkItemType.convert_eq_ok h
  exact ⟨Int.toNat_of_nonneg hid, rfl, rfl, rfl, rfl, rfl,
    fun k => by rw [Json.lookup_setMember, Json.ofFloat]⟩

namespace TypeRecipe

/-- A catalog of types with distinct identifiers converts a row with an internal error when no
type has its type, with a conversion error when its identifier is negative or a field that its
nearest definition requires is missing, and otherwise to its work item. -/
theorem convert_by_nearest_definitions (rs : List TypeRecipe)
    (hd : (rs.map fun r => r.type.id).Nodup) (row : WorkItemRow) :
    ((∃ msg, (catalog rs).convert row = .error (.internal msg)) ↔
      ∀ r ∈ rs, r.type.id ≠ row.typeId) ∧
    (∀ r ∈ rs, r.type.id = row.typeId →
      ((∃ msg, (catalog rs).convert row = .error (.conversion msg)) ↔
        row.id < 0 ∨ ∃ f d, r.definition? f = some d ∧ d.required = true ∧ Absent row.fields f)) ∧
    (∀ item, (catalog rs).convert row = .ok item → MadeFrom item row) := by
  refine ⟨?_, ?_, ?_⟩
  · rw [← find?_catalog_eq_none_iff]
    unfold MemoryCatalog.convert
    cases (catalog rs).find? row.typeId with
    | none => simp
    | some T =>
      simp only [reduceCtorEq, iff_false, not_exists]
      intro msg h
      cases hc : T.convert row <;> rw [hc] at h <;> cases h
  · intro r hr hid
    have hfind := find?_catalog_of_mem hd hr
    rw [hid] at hfind
    rw [← exists_required_iff, ← WorkItemType.convert_eq_error_iff (hid.symm.trans rfl)]
    simp only [MemoryCatalog.convert, hfind]
    constructor
    · rintro ⟨msg, h⟩
      cases hc : r.type.convert row <;> rw [hc] at h <;> cases h
      exact ⟨_, rfl⟩
    · rintro ⟨msg, h⟩
      exact ⟨msg, by rw [h]; rfl⟩
  · intro item h
    unfold MemoryCatalog.convert at h
    split at h
    · cases h
    · cases hc : WorkItemType.convert _ row <;> rw [hc] at h <;> cases h
      exact WorkItemType.madeFrom_of_convert hc

/-- A bug type that requires a title, and a task type extending it that makes the title optional
again. -/
def bugAndTask : List TypeRecipe :=
  [.withField (.root ⟨1⟩ "bug") systemTitle { required := true },
   .withField (.extending (.withField (.root ⟨1⟩ "bug") systemTitle { required := true }) ⟨2⟩ "task")
     systemTitle {}]

/-- A task row without a title: the task's own definition of the title is the nearest one. -/
theorem convert_by_nearest_definitions_task :
    (bugAndTask.map fun r => r.type.id).Nodup ∧
    ((∃ msg, (catalog bugAndTask).convert { id := 7, typeId := ⟨2⟩ } = .error (.internal msg)) ↔
      ∀ r ∈ bugAndTask, r.type.id ≠ ⟨2⟩) ∧
    (∀ r ∈ bugAndTask, r.type.id = ⟨2⟩ →
      ((∃ msg, (catalog bugAndTask).convert { id := 7, typeId := ⟨2⟩ } = .error (.conversion msg)) ↔
        (7 : Int) < 0 ∨ ∃ f d, r.definition? f = some d ∧ d.required = true ∧ Absent [] f)) ∧
    (∀ item, (catalog bugAndTask).convert { id := 7, typeId := ⟨2⟩ } = .ok item →
      MadeFrom item { id := 7, typeId := ⟨2⟩ }) := by
  have hd : (bugAndTask.map fun r => r.type.id).Nodup := by decide +kernel
  exact ⟨hd, convert_by_nearest_definitions bugAndTask hd { id := 7, typeId := ⟨2⟩ }⟩

end TypeRecipe

end TrackerSearch
