import TrackerSearch.Search.KnownUrl
import Mathlib.Data.List.Induction
import Mathlib.Data.List.Nodup

/-!
# Known URL registries under sequences of registrations

A registry changes only through `register`. A call whose pattern compiles inserts the pattern
under its name, replacing an earlier one where it stands; a call whose pattern does not
compile is answered with the error and leaves the registry as it was. Callers served one at a
time under the registry's lock make a sequence of such calls, in any order.

Every registry reached so from the empty registry or from the built-in one has one entry per
name, in the order the names were first registered, each holding the pattern of the last
successful call for its name. Its size, its lookup by name and its snapshot by name describe
the same entries. The proofs take one call as the step and the invariant that names do not
repeat; nothing below depends on which patterns compile.
-/

namespace TrackerSearch.Registry

open Pattern

/-- The names of the patterns, in registration order. -/
def names (r : Registry) : List String := r.entries.map (·.name)

/-- Whether a pattern compiles. -/
def compiles (source : String) : Bool := (Regex.compile source).toBool

/-- The registry a process starts from: the built-in one or the empty one. -/
def initial (defaults : Bool) : Registry := if defaults then withDefaults else {}

/-- Serves one registration call; a call that fails leaves the registry as it was. -/
def serve (r : Registry) (call : String × String) : Registry :=
  match r.register call.1 call.2 with
  | .ok r' => r'
  | .error _ => r

/-- Serves registration calls in order. -/
def serveAll (r : Registry) (calls : List (String × String)) : Registry :=
  calls.foldl serve r

/-- The registry after serving `calls` to the built-in registry or to the empty one. -/
def afterCalls (defaults : Bool) (calls : List (String × String)) : Registry :=
  (initial defaults).serveAll calls

/-- The names of the calls whose pattern compiles, in call order. -/
def registeredNames (calls : List (String × String)) : List String :=
  (calls.filter fun c => compiles c.2).map (·.1)

/-- The known URL of the last call for `name` whose pattern compiles. -/
def lastRegistration (calls : List (String × String)) (name : String) : Option KnownUrl :=
  (calls.reverse.find? fun c => c.1 == name && compiles c.2).bind fun c =>
    (KnownUrl.make c.1 c.2).toOption

/-! ## One call -/

theorem compiles_of_compile_ok {source : String} {re : Regex}
    (h : Regex.compile source = .ok re) : compiles source = true := by
  unfold compiles
  rw [h]
  rfl

theorem compiles_of_compile_error {source : String} {e : CompileError}
    (h : Regex.compile source = .error e) : compiles source = false := by
  unfold compiles
  rw [h]
  rfl

theorem make_of_compile_ok {name source : String} {re : Regex}
    (h : Regex.compile source = .ok re) : KnownUrl.make name source = .ok ⟨name, re⟩ := by
  unfold KnownUrl.make
  rw [h]

theorem make_of_compile_error {name source : String} {e : CompileError}
    (h : Regex.compile source = .error e) :
    KnownUrl.make name source = .error ⟨name, source, e⟩ := by
  unfold KnownUrl.make
  rw [h]

theorem register_of_compile_ok {r : Registry} {name source : String} {re : Regex}
    (h : Regex.compile source = .ok re) :
    r.register name source = .ok (r.insert ⟨name, re⟩) := by
  unfold register
  rw [make_of_compile_ok h]
  rfl

theorem register_of_compile_error {r : Registry} {name source : String} {e : CompileError}
    (h : Regex.compile source = .error e) :
    r.register name source = .error ⟨name, source, e⟩ := by
  unfold register
  rw [make_of_compile_error h]
  rfl

theorem serve_of_compile_ok {r : Registry} {call : String × String} {re : Regex}
    (h : Regex.compile call.2 = .ok re) : r.serve call = r.insert ⟨call.1, re⟩ := by
  unfold serve
  rw [register_of_compile_ok h]

theorem serve_of_compile_error {r : Registry} {call : String × String} {e : CompileError}
    (h : Regex.compile call.2 = .error e) : r.serve call = r := by
  unfold serve
  rw [register_of_compile_error h]

/-- A refused pattern is reported under the name it was to be registered as. -/
theorem register_refused {r : Registry} {name source : String} (h : compiles source = false) :
    ∃ e, r.register name source = .error e ∧ e.name = name := by
  cases hc : Regex.compile source with
  | ok re => simp [compiles_of_compile_ok hc] at h
  | error e => exact ⟨_, register_of_compile_error hc, rfl⟩

theorem serve_refused {r : Registry} {call : String × String} (h : compiles call.2 = false) :
    r.serve call = r := by
  cases hc : Regex.compile call.2 with
  | ok re => simp [compiles_of_compile_ok hc] at h
  | error e => exact serve_of_compile_error hc

theorem make_toOption_of_compile_ok {name source : String} {re : Regex}
    (h : Regex.compile source = .ok re) :
    (KnownUrl.make name source).toOption = some ⟨name, re⟩ := by
  rw [make_of_compile_ok h]
  rfl

/-! ## Insertion -/

theorem replaceFirst_eq_none_iff (k : KnownUrl) (l : List KnownUrl) :
    replaceFirst k l = none ↔ k.name ∉ l.map (·.name) := by
  induction l with
  | nil => simp [replaceFirst]
  | cons e l ih =>
    by_cases he : e.name = k.name
    · simp [replaceFirst, he]
    · simp [replaceFirst, he, ih, Ne.symm he]

/-- Replacing the first entry of a name keeps every entry's name. -/
theorem names_of_replaceFirst {k : KnownUrl} {l l' : List KnownUrl}
    (h : replaceFirst k l = some l') : l'.map (·.name) = l.map (·.name) := by
  induction l generalizing l' with
  | nil => cases h
  | cons e l ih =>
    simp only [replaceFirst] at h
    split at h
    · next he =>
      cases h
      simp [beq_iff_eq.1 he]
    · obtain ⟨l'', hl'', rfl⟩ := Option.map_eq_some_iff.1 h
      simp [ih hl'']

/-- After the replacement the search for the replaced name finds `k`, and the search for any
other name finds what it found before. -/
theorem find?_of_replaceFirst {k : KnownUrl} {l l' : List KnownUrl}
    (h : replaceFirst k l = some l') (n : String) :
    l'.find? (·.name == n) = if k.name = n then some k else l.find? (·.name == n) := by
  induction l generalizing l' with
  | nil => cases h
  | cons e l ih =>
    simp only [replaceFirst] at h
    split at h
    · next he =>
      cases h
      by_cases hk : k.name = n
      · simp [hk]
      · simp [beq_iff_eq.1 he, hk]
    · next he =>
      obtain ⟨l'', hl'', rfl⟩ := Option.map_eq_some_iff.1 h
      rw [List.find?_cons, List.find?_cons, ih hl'']
      by_cases hen : e.name = n
      · have hk : k.name ≠ n := fun hk => he (by simp [hen, hk])
        simp [hen, hk]
      · have hb : (e.name == n) = false := beq_eq_false_iff_ne.2 hen
        simp only [hb]

theorem names_insert (r : Registry) (k : KnownUrl) :
    (r.insert k).names = if k.name ∈ r.names then r.names else r.names ++ [k.name] := by
  cases h : replaceFirst k r.entries with
  | some l =>
    have hmem : k.name ∈ r.names := by
      by_contra hn
      rw [(replaceFirst_eq_none_iff k r.entries).2 hn] at h
      cases h
    rw [if_pos hmem]
    simp only [insert, h, names]
    exact names_of_replaceFirst h
  | none =>
    have hmem : k.name ∉ r.names := (replaceFirst_eq_none_iff k r.entries).1 h
    rw [if_neg hmem]
    simp [insert, h, names]

theorem get?_insert (r : Registry) (k : KnownUrl) (n : String) :
    (r.insert k).get? n = if k.name = n then some k else r.get? n := by
  cases h : replaceFirst k r.entries with
  | some l =>
    simp only [insert, h, get?]
    exact find?_of_replaceFirst h n
  | none =>
    have hmem : k.name ∉ r.names := (replaceFirst_eq_none_iff k r.entries).1 h
    simp only [insert, h, get?, List.find?_append]
    by_cases hk : k.name = n
    · have hnone : r.entries.find? (·.name == n) = none := by
        rw [List.find?_eq_none]
        intro e he hen
        exact hmem (List.mem_map.mpr ⟨e, he, by simp_all⟩)
      simp [hk, hnone]
    · cases r.entries.find? (·.name == n) <;> simp [hk]

/-! ## One call, in terms of its outcome -/

theorem names_serve (r : Registry) (call : String × String) :
    (r.serve call).names =
      if compiles call.2 ∧ call.1 ∉ r.names then r.names ++ [call.1] else r.names := by
  cases hc : Regex.compile call.2 with
  | ok re =>
    rw [serve_of_compile_ok hc, names_insert]
    by_cases hn : call.1 ∈ r.names <;> simp [compiles_of_compile_ok hc, hn]
  | error e => simp [serve_of_compile_error hc, compiles_of_compile_error hc]

theorem get?_serve (r : Registry) (call : String × String) (n : String) :
    (r.serve call).get? n =
      if call.1 = n ∧ compiles call.2 then (KnownUrl.make call.1 call.2).toOption
      else r.get? n := by
  cases hc : Regex.compile call.2 with
  | ok re =>
    rw [serve_of_compile_ok hc, get?_insert, make_toOption_of_compile_ok hc]
    simp [compiles_of_compile_ok hc]
  | error e => simp [serve_of_compile_error hc, compiles_of_compile_error hc]

theorem nodup_names_serve {r : Registry} (h : r.names.Nodup) (call : String × String) :
    (r.serve call).names.Nodup := by
  rw [names_serve]
  split
  · rename_i hfresh
    exact List.nodup_append.mpr ⟨h, List.nodup_singleton _,
      fun a ha b hb hab => hfresh.2 (by simp_all)⟩
  · exact h

/-! ## Sequences of calls -/

/-- A list without repetitions keeps all its elements when repetitions are erased. -/
theorem eraseDups_eq_self {l : List String} (h : l.Nodup) : l.eraseDups = l := by
  induction l with
  | nil => rfl
  | cons a as ih =>
    obtain ⟨ha, has⟩ := List.nodup_cons.mp h
    have hkeep : (as.filter fun b => !b == a) = as :=
      List.filter_eq_self.mpr fun b hb => by
        have : b ≠ a := fun hba => ha (hba ▸ hb)
        simpa using this
    rw [List.eraseDups_cons, hkeep, ih has]

/-- A name added at the end is kept exactly when it is new. -/
theorem eraseDups_append_singleton (l : List String) (a : String) :
    (l ++ [a]).eraseDups = if a ∈ l then l.eraseDups else l.eraseDups ++ [a] := by
  rw [List.eraseDups_append]
  by_cases ha : a ∈ l <;> simp [List.removeAll, List.eraseDups_cons, ha]

theorem serveAll_nil (r : Registry) : r.serveAll [] = r := rfl

theorem serveAll_append_singleton (r : Registry) (calls : List (String × String))
    (call : String × String) : r.serveAll (calls ++ [call]) = (r.serveAll calls).serve call := by
  simp [serveAll, List.foldl_append]

theorem registeredNames_append_singleton (calls : List (String × String)) (call : String × String) :
    registeredNames (calls ++ [call]) =
      registeredNames calls ++ if compiles call.2 then [call.1] else [] := by
  by_cases h : compiles call.2 <;> simp [registeredNames, List.filter_append, h]

theorem lastRegistration_append_singleton (calls : List (String × String))
    (call : String × String) (n : String) :
    lastRegistration (calls ++ [call]) n =
      if call.1 = n ∧ compiles call.2 then (KnownUrl.make call.1 call.2).toOption
      else lastRegistration calls n := by
  by_cases h : call.1 = n ∧ compiles call.2
  · simp [lastRegistration, h]
  · have hb : (call.1 == n && compiles call.2) = false := by
      simpa [Bool.and_eq_false_iff, not_and_or] using h
    simp only [lastRegistration, List.reverse_append, List.reverse_cons, List.reverse_nil,
      List.nil_append, List.singleton_append, List.find?_cons, hb, h, if_false]

/-- Names never repeat along a run. -/
theorem nodup_names_serveAll {r : Registry} (h : r.names.Nodup) (calls : List (String × String)) :
    (r.serveAll calls).names.Nodup := by
  induction calls using List.reverseRecOn with
  | nil => exact h
  | append_singleton calls call ih =>
    rw [serveAll_append_singleton]
    exact nodup_names_serve ih call

/-- The names of a run are the starting names followed by the newly registered ones, each
where it was first registered. -/
theorem names_serveAll {r : Registry} (h : r.names.Nodup) (calls : List (String × String)) :
    (r.serveAll calls).names = (r.names ++ registeredNames calls).eraseDups := by
  induction calls using List.reverseRecOn with
  | nil => simp [serveAll_nil, registeredNames, eraseDups_eq_self h]
  | append_singleton calls call ih =>
    rw [serveAll_append_singleton, names_serve, ih, registeredNames_append_singleton,
      ← List.append_assoc]
    by_cases hc : compiles call.2
    · simp only [hc, true_and, if_true, List.mem_eraseDups, eraseDups_append_singleton]
      by_cases hn : call.1 ∈ r.names ++ registeredNames calls <;> simp [hn]
    · simp [hc]

/-- Each name holds the pattern of its last successful call, or its starting one. -/
theorem get?_serveAll (r : Registry) (calls : List (String × String)) (n : String) :
    (r.serveAll calls).get? n = (lastRegistration calls n).or (r.get? n) := by
  induction calls using List.reverseRecOn with
  | nil => simp [serveAll_nil, lastRegistration]
  | append_singleton calls call ih =>
    rw [serveAll_append_singleton, get?_serve, lastRegistration_append_singleton, ih]
    by_cases h : call.1 = n ∧ compiles call.2
    · obtain ⟨hn, hc⟩ := h
      cases hre : Regex.compile call.2 with
      | ok re => simp [make_toOption_of_compile_ok hre, hn, hc]
      | error e => simp [compiles_of_compile_error hre] at hc
    · simp [h]

/-! ## Lookup, size and snapshot of a registry whose names do not repeat -/

theorem get?_eq_some_iff {r : Registry} (h : r.names.Nodup) {n : String} {k : KnownUrl} :
    r.get? n = some k ↔ k ∈ r.entries ∧ k.name = n := by
  constructor
  · intro hk
    exact ⟨List.mem_of_find?_eq_some hk, by simpa using List.find?_some hk⟩
  · rintro ⟨hk, rfl⟩
    have hfound : (r.entries.find? (·.name == k.name)).isSome :=
      List.find?_isSome.mpr ⟨k, hk, by simp⟩
    obtain ⟨k', hk'⟩ := Option.isSome_iff_exists.mp hfound
    have hname : k'.name = k.name := by simpa using List.find?_some hk'
    have hsame : k' = k :=
      List.inj_on_of_nodup_map h (List.mem_of_find?_eq_some hk') hk hname
    simp [get?, hk', hsame]

theorem get?_eq_none_iff (r : Registry) (n : String) : r.get? n = none ↔ n ∉ r.names := by
  simp [get?, names, List.find?_eq_none]

theorem size_eq_length_names (r : Registry) : r.size = r.names.length := by
  simp [size, names]

theorem allPatterns_perm (r : Registry) :
    r.allPatterns.Perm (r.entries.map fun k => (k.name, k.source)) :=
  List.mergeSort_perm _ _

theorem nodup_allPatterns_keys {r : Registry} (h : r.names.Nodup) :
    (r.allPatterns.map Prod.fst).Nodup := by
  have hperm := (allPatterns_perm r).map Prod.fst
  rw [List.map_map] at hperm
  exact hperm.nodup_iff.mpr h

theorem length_allPatterns (r : Registry) : r.allPatterns.length = r.size := by
  simp [(allPatterns_perm r).length_eq, size]

theorem mem_allPatterns_iff {r : Registry} (h : r.names.Nodup) (n s : String) :
    (n, s) ∈ r.allPatterns ↔ ∃ k, r.get? n = some k ∧ k.source = s := by
  rw [(allPatterns_perm r).mem_iff, List.mem_map]
  constructor
  · rintro ⟨k, hk, hks⟩
    simp only [Prod.mk.injEq] at hks
    exact ⟨k, (get?_eq_some_iff h).mpr ⟨hk, hks.1⟩, hks.2⟩
  · rintro ⟨k, hget, rfl⟩
    obtain ⟨hk, rfl⟩ := (get?_eq_some_iff h).mp hget
    exact ⟨k, hk, rfl⟩

/-! ## The starting registries -/

/-- Registering patterns one after another until the first refusal agrees with serving the
calls when none is refused. -/
theorem registerAll_eq_serveAll {r r' : Registry} {calls : List (String × String)}
    (h : r.registerAll calls = .ok r') : r' = r.serveAll calls := by
  induction calls generalizing r with
  | nil =>
    injection h with h
    exact h ▸ rfl
  | cons call rest ih =>
    obtain ⟨name, source⟩ := call
    cases hc : Regex.compile source with
    | ok re =>
      simp only [registerAll, register_of_compile_ok hc, bind, Except.bind] at h
      have hstep : r.serve (name, source) = r.insert ⟨name, re⟩ := serve_of_compile_ok hc
      simp only [serveAll, List.foldl_cons, hstep]
      exact ih h
    | error e => simp [registerAll, register_of_compile_error hc, bind, Except.bind] at h

/-- A registry made from a list of patterns is the one serving them as calls, or the empty one
when a pattern is refused. -/
theorem ofPatterns_reached (patterns : List (String × String)) :
    ofPatterns patterns = ({} : Registry).serveAll patterns ∨ ofPatterns patterns = {} := by
  unfold ofPatterns
  cases h : ({} : Registry).registerAll patterns with
  | ok r => exact Or.inl (registerAll_eq_serveAll h)
  | error e => exact Or.inr rfl

theorem nodup_names_initial (defaults : Bool) : (initial defaults).names.Nodup := by
  cases defaults with
  | false => exact List.nodup_nil
  | true =>
    rcases ofPatterns_reached builtIn with h | h <;> rw [initial, if_pos rfl, withDefaults, h]
    · exact nodup_names_serveAll (r := {}) List.nodup_nil _
    · exact List.nodup_nil

/-- Registration calls in any order keep one entry per name, in the order of first success,
each with the pattern of its last success; a refused pattern changes nothing. -/
theorem registrations_keep_one_entry_per_name (defaults : Bool) (calls : List (String × String)) :
    (afterCalls defaults calls).names.Nodup ∧
    (afterCalls defaults calls).names =
      ((initial defaults).names ++ registeredNames calls).eraseDups ∧
    (∀ n, (afterCalls defaults calls).get? n =
      (lastRegistration calls n).or ((initial defaults).get? n)) ∧
    (∀ n s, compiles s = false →
      (∃ e, (afterCalls defaults calls).register n s = .error e ∧ e.name = n) ∧
      (afterCalls defaults calls).serve (n, s) = afterCalls defaults calls) ∧
    (afterCalls defaults calls).size =
      ((initial defaults).names ++ registeredNames calls).eraseDups.length ∧
    (∀ n k, (afterCalls defaults calls).get? n = some k ↔
      k ∈ (afterCalls defaults calls).entries ∧ k.name = n) ∧
    (∀ n, (afterCalls defaults calls).get? n = none ↔ n ∉ (afterCalls defaults calls).names) ∧
    ((afterCalls defaults calls).allPatterns.map Prod.fst).Nodup ∧
    (afterCalls defaults calls).allPatterns.length = (afterCalls defaults calls).size ∧
    (∀ n s, (n, s) ∈ (afterCalls defaults calls).allPatterns ↔
      ∃ k, (afterCalls defaults calls).get? n = some k ∧ k.source = s) := by
  have h0 := nodup_names_initial defaults
  have hnodup : (afterCalls defaults calls).names.Nodup := nodup_names_serveAll h0 calls
  have hnames := names_serveAll h0 calls
  refine ⟨hnodup, hnames, get?_serveAll _ calls, ?_, ?_, fun n k => get?_eq_some_iff hnodup,
    get?_eq_none_iff _, nodup_allPatterns_keys hnodup, length_allPatterns _,
    mem_allPatterns_iff hnodup⟩
  · intro n s hs
    exact ⟨register_refused hs, serve_refused hs⟩
  · rw [size_eq_length_names]
    exact congrArg List.length hnames

end TrackerSearch.Registry
