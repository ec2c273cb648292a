import TrackerSearch.Proofs.PatternRun
import TrackerSearch.Proofs.QueryMeaning

/-!
# Searching by the address of a detail page

The built-in patterns recognise the address of a work item's detail page, in list or in board
view, without its scheme. Each compiles to a straight chain of states through the domain and
the view's path, with groups around the domain and the path, then a loop over decimal digits
in the `id` group (`withDefaults_programs`). Run on an address, the program of its view takes
the three groups (`detailProgram_captures`), and the other view's program, missing a letter of
its path, takes nothing; so the registry decomposes the address by its view's pattern, into the
identifier or the whole address (`urlMeaning_detail`), and matches nothing in a text without a
slash (`bestMatch_withDefaults_eq_none`).
-/

namespace TrackerSearch

open Pattern Unicode TsQuery

/-! ## Digits -/

/-- A decimal digit is no blank, is plain and is not reserved. -/
theorem digit_plain : ∀ n, n < 10 → whiteSpace.contains (Char.ofNat (48 + n)) = false ∧
    plainChar (Char.ofNat (48 + n)) = true ∧ Lexeme.isReserved (Char.ofNat (48 + n)) = false := by
  decide +kernel

theorem toNat_of_isDigit {c : Char} (h : c.isDigit = true) : 48 ≤ c.toNat ∧ c.toNat ≤ 57 := by
  simp only [Char.isDigit, Bool.and_eq_true, decide_eq_true_eq, UInt32.le_iff_toNat_le] at h
  exact h

/-- What holds of each of the ten decimal digits holds of every character that is one. -/
theorem of_isDigit {P : Char → Prop} (hdigits : ∀ n, n < 10 → P (Char.ofNat (48 + n))) {c : Char}
    (h : c.isDigit = true) : P c := by
  have hr := toNat_of_isDigit h
  have hc : c = Char.ofNat (48 + (c.toNat - 48)) := by
    rw [show 48 + (c.toNat - 48) = c.toNat by omega, Char.ofNat_toNat]
  rw [hc]
  exact hdigits _ (by omega)

theorem plain_of_isDigit {c : Char} (h : c.isDigit = true) : whiteSpace.contains c = false ∧
    plainChar c = true ∧ Lexeme.isReserved c = false :=
  of_isDigit (P := fun c => whiteSpace.contains c = false ∧ plainChar c = true ∧
    Lexeme.isReserved c = false) digit_plain h

theorem settled_of_isDigit {c : Char} (h : c.isDigit = true) : Settled c :=
  of_isDigit (P := fun c => lowerForm c = [c] ∧ c ≠ capitalSigma) (by decide +kernel) h

theorem ne_of_isDigit {c d : Char} (h : c.isDigit = true) (hd : d.toNat < 48 ∨ 57 < d.toNat) :
    c ≠ d := by
  rintro rfl
  have := toNat_of_isDigit h
  omega

theorem decimalDigit_of_isDigit {c : Char} (h : c.isDigit = true) : decimalDigit.contains c = true :=
  of_isDigit (P := fun c => decimalDigit.contains c = true) (by decide +kernel) h

theorem isDigit_of_mem_toString {n : Nat} {c : Char} (h : c ∈ (toString n).toList) :
    c.isDigit = true :=
  Nat.isDigit_of_mem_toDigits (b := 10) (by decide) (by decide) (by simpa using h)

/-! ## The built-in programs -/

/-- Every character but the line feed, as `.` reads. -/
def notNewline : CodeSet := CodeSet.all.diff (CodeSet.single 10)

/-- The set a literal character of a pattern reads: `.` reads any character but the line feed. -/
def literalSet (c : Char) : CodeSet :=
  if c = '.' then notNewline else CodeSet.single c.toNat

/-- The links that read a literal text. -/
def spell (w : List Char) : List Link :=
  w.map fun c => .read (literalSet c)

/-- The domain of the detail pages. -/
def detailDomain : String := "demo.almighty.io"

/-- The path of a detail page in a view, up to the identifier. -/
def detailPath (view : String) : String := "/work-item/" ++ view ++ "/detail/"

/-- A detail-page pattern up to its identifier: the whole match and the `domain` group open, the
domain, the `path` group around the path, and the `id` group open. -/
def detailChain (view : String) : List Link :=
  [.groupStart 0, .groupStart 1] ++ spell detailDomain.toList ++ [.groupEnd 1, .groupStart 2] ++
    spell (detailPath view).toList ++ [.groupEnd 2, .groupStart 3]

/-- The program of a detail-page pattern: its chain, a loop over decimal digits, and the `id`
group and the whole match closed. -/
def detailProgram (view : String) : Program where
  states :=
    let m := (detailChain view).length
    (chainStates 0 (detailChain view) ++ [State.union #[m + 1, m + 2], .chars decimalDigit m] ++
      chainStates (m + 2) [.groupEnd 3, .groupEnd 0] ++ [State.accept]).toArray
  start := 0
  groups := #[none, some "domain", some "path", some "id"]

/-- The built-in registry holds the two detail-page patterns, list view first, compiled to their
programs. -/
theorem withDefaults_programs :
    Registry.withDefaults.entries.map (fun k => (k.name, k.regex.program)) =
      [(Registry.listDetails, detailProgram "list"), (Registry.boardDetails, detailProgram "board")] := by
  decide +kernel

/-! ## The shape of a detail program -/

section Shape

variable (view : String)

theorem detailProgram_states : (detailProgram view).states.toList =
    chainStates 0 (detailChain view) ++
      [State.union #[(detailChain view).length + 1, (detailChain view).length + 2],
        .chars decimalDigit (detailChain view).length] ++
      chainStates ((detailChain view).length + 2) [.groupEnd 3, .groupEnd 0] ++ [State.accept] :=
  rfl

theorem detailProgram_size : (detailProgram view).states.size = (detailChain view).length + 5 := by
  rw [← Array.length_toList, detailProgram_states]
  simp [length_chainStates]

theorem detailProgram_chain : (detailProgram view).Chain 0 (detailChain view) :=
  Program.chain_of_states [] (by rw [detailProgram_states, List.append_assoc, List.append_assoc]; rfl)

theorem detailProgram_loop :
    (detailProgram view).states[(detailChain view).length]? =
        some (.union #[(detailChain view).length + 1, (detailChain view).length + 2]) ∧
      (detailProgram view).states[(detailChain view).length + 1]? =
        some (.chars decimalDigit (detailChain view).length) := by
  simp only [← Array.getElem?_toList, detailProgram_states, List.append_assoc]
  constructor
  · rw [List.getElem?_append_right (by simp [length_chainStates])]
    simp [length_chainStates]
  · rw [List.getElem?_append_right (by simp [length_chainStates])]
    simp [length_chainStates]

theorem detailProgram_close :
    (detailProgram view).Chain ((detailChain view).length + 2) [.groupEnd 3, .groupEnd 0] := by
  have hlen : (chainStates 0 (detailChain view) ++
      [State.union #[(detailChain view).length + 1, (detailChain view).length + 2],
        .chars decimalDigit (detailChain view).length]).length = (detailChain view).length + 2 := by
    simp [length_chainStates]
  have h := Program.chain_of_states (p := detailProgram view) _ (by rw [hlen, detailProgram_states])
  rwa [hlen] at h

theorem detailProgram_accept :
    (detailProgram view).states[(detailChain view).length + 4]? = some .accept := by
  rw [← Array.getElem?_toList, detailProgram_states,
    List.getElem?_append_right (by simp [length_chainStates])]
  simp [length_chainStates]

end Shape

/-! ## A detail program matches a detail address -/

/-- A detail address without its scheme, as characters: the domain, the view's path and the
digits of the identifier. -/
def detailText (view : String) (digits : List Char) : List Char :=
  detailDomain.toList ++ (detailPath view).toList ++ digits

theorem literalSet_contains (c : Char) : (literalSet c).contains c = true := by
  unfold literalSet
  split
  · next h =>
    subst h
    decide +kernel
  · exact CodeSet.contains_single.2 rfl

/-- The links spelling a text read it wherever it stands, leaving the slots alone. -/
theorem foldlM_spell (text : Array Char) : ∀ (w pre post : List Char) (slots : Array (Option Nat)),
    text.toList = pre ++ w ++ post →
      (spell w).foldlM (Link.apply text) (pre.length, slots) = some (pre.length + w.length, slots)
  | [], _, _, _, _ => rfl
  | c :: w, pre, post, slots, h => by
    have hc : text[pre.length]? = some c := by
      rw [← Array.getElem?_toList, h, List.append_assoc,
        List.getElem?_append_right (Nat.le_refl _), Nat.sub_self]
      rfl
    have happly : Link.apply text (pre.length, slots) (.read (literalSet c)) =
        some (pre.length + 1, slots) := by
      simp [Link.apply, hc, literalSet_contains]
    have hw := foldlM_spell text w (pre ++ [c]) post slots (by simp [h])
    rw [List.length_append, List.length_singleton] at hw
    rw [spell, List.map_cons, List.foldlM_cons, happly]
    show (spell w).foldlM (Link.apply text) (pre.length + 1, slots) = _
    rw [hw, List.length_cons, Nat.add_assoc, Nat.add_comm 1]

section Run

variable (view : String) (digits : List Char)

/-- The chain of a detail program over its address: the whole match and the domain start at
`0`, the path after the domain, and the identifier after the path. -/
theorem foldlM_detailChain (slots : Array (Option Nat)) :
    (detailChain view).foldlM (Link.apply (detailText view digits).toArray) (0, slots) =
      some (detailDomain.toList.length + (detailPath view).toList.length,
        (((((slots.set! 0 (some 0)).set! 2 (some 0)).set! 3 (some detailDomain.toList.length)).set! 4
          (some detailDomain.toList.length)).set! 5
            (some (detailDomain.toList.length + (detailPath view).toList.length))).set! 6
              (some (detailDomain.toList.length + (detailPath view).toList.length))) := by
  have hopen : [Link.groupStart 0, .groupStart 1].foldlM (Link.apply (detailText view digits).toArray)
      (0, slots) = some (0, (slots.set! 0 (some 0)).set! 2 (some 0)) := rfl
  have hdomain := foldlM_spell (detailText view digits).toArray detailDomain.toList []
    ((detailPath view).toList ++ digits) ((slots.set! 0 (some 0)).set! 2 (some 0))
    (by simp [detailText])
  simp only [List.length_nil, Nat.zero_add] at hdomain
  have hpath := foldlM_spell (detailText view digits).toArray (detailPath view).toList
    detailDomain.toList digits
    ((((slots.set! 0 (some 0)).set! 2 (some 0)).set! 3 (some detailDomain.toList.length)).set! 4
      (some detailDomain.toList.length)) (by simp [detailText])
  have h₁ : ([Link.groupStart 0, .groupStart 1] ++ spell detailDomain.toList).foldlM
      (Link.apply (detailText view digits).toArray) (0, slots) =
        some (detailDomain.toList.length, (slots.set! 0 (some 0)).set! 2 (some 0)) := by
    rw [foldlM_append_of_some _ hopen, hdomain]
  have h₂ : ([Link.groupStart 0, .groupStart 1] ++ spell detailDomain.toList ++
      [Link.groupEnd 1, .groupStart 2]).foldlM (Link.apply (detailText view digits).toArray) (0, slots) =
        some (detailDomain.toList.length, (((slots.set! 0 (some 0)).set! 2 (some 0)).set! 3
          (some detailDomain.toList.length)).set! 4 (some detailDomain.toList.length)) := by
    rw [foldlM_append_of_some _ h₁]
    rfl
  have h₃ := foldlM_append_of_some (spell (detailPath view).toList) h₂
  rw [hpath] at h₃
  rw [detailChain, foldlM_append_of_some _ h₃]
  rfl

/-- From the start of a detail address, the search reads the chain and every digit after it, and
stops with the closing of the `id` group at the end of the text on top of its stack. -/
theorem detailProgram_follow_open {fuel : Nat} (hd : ∀ c ∈ digits, decimalDigit.contains c = true)
    (hfuel : (detailChain view).length + 2 * digits.length + 2 ≤ fuel) (stack : List Frame)
    (slots : Array (Option Nat)) :
    ∃ s', (detailProgram view).follow (detailText view digits).toArray fuel 0 0 ⟨stack, slots, {}⟩ =
        (none, s') ∧
      s'.slots = (((((slots.set! 0 (some 0)).set! 2 (some 0)).set! 3
        (some detailDomain.toList.length)).set! 4 (some detailDomain.toList.length)).set! 5
          (some (detailDomain.toList.length + (detailPath view).toList.length))).set! 6
            (some (detailDomain.toList.length + (detailPath view).toList.length)) ∧
      (∃ rest, s'.stack = .step ((detailChain view).length + 2) (detailText view digits).length :: rest) ∧
      Program.Fresh (detailProgram view).states.size s'.visited ((detailChain view).length + 2)
        (detailText view digits).length := by
  obtain ⟨F, rfl⟩ : ∃ F, fuel = F + 2 * digits.length + 2 + (detailChain view).length :=
    ⟨fuel - ((detailChain view).length + 2 * digits.length + 2), by omega⟩
  obtain ⟨s₁, heq₁, hslots₁, hfresh₁⟩ := Program.follow_chain (F + 2 * digits.length + 2)
    (s := ⟨stack, slots, {}⟩) (detailProgram_chain view) (foldlM_detailChain view digits slots)
    (Program.Fresh.empty _ _ _)
  rw [Nat.zero_add] at heq₁ hfresh₁
  have hset : ∀ i (h : i < (detailText view digits).toArray.size),
      detailDomain.toList.length + (detailPath view).toList.length ≤ i →
        decimalDigit.contains (detailText view digits).toArray[i] = true := by
    intro i h hi
    simp only [detailText, List.getElem_toArray]
    rw [List.getElem_append_right (by simpa using hi)]
    exact hd _ (List.getElem_mem _)
  have hloop := detailProgram_loop view
  obtain ⟨s₂, heq₂, hslots₂, hstack₂, hfresh₂⟩ := Program.follow_loop hloop.1 hloop.2
    (by rw [detailProgram_size]; omega) (by omega) digits.length F
    (by simp only [detailText, List.size_toArray, List.length_append]) hset hfresh₁
  exact ⟨s₂, by rw [heq₁, heq₂], by rw [hslots₂, hslots₁], hstack₂, hfresh₂⟩

/-- At the end of the text, the search closes the `id` group and the whole match and accepts. -/
theorem detailProgram_follow_close (text : Array Char) (fuel : Nat) {n : Nat} {s : Search}
    (hfuel : 3 ≤ fuel)
    (hfresh : Program.Fresh (detailProgram view).states.size s.visited
      ((detailChain view).length + 2) n) :
    ∃ s', (detailProgram view).follow text fuel ((detailChain view).length + 2) n s = (some n, s') ∧
      s'.slots = (s.slots.set! 7 (some n)).set! 1 (some n) := by
  obtain ⟨F, rfl⟩ : ∃ F, fuel = F + 1 + [Link.groupEnd 3, .groupEnd 0].length :=
    ⟨fuel - 3, by simp only [List.length_cons, List.length_nil]; omega⟩
  obtain ⟨s₁, heq₁, hslots₁, hfresh₁⟩ := Program.follow_chain (F + 1) (detailProgram_close view)
    (show [Link.groupEnd 3, .groupEnd 0].foldlM (Link.apply text) (n, s.slots) =
      some (n, (s.slots.set! 7 (some n)).set! 1 (some n)) from rfl) hfresh
  have hacc : (detailChain view).length + 2 + [Link.groupEnd 3, .groupEnd 0].length =
      (detailChain view).length + 4 := rfl
  rw [hacc] at heq₁ hfresh₁
  rw [heq₁, Program.follow_accept hfresh₁.not_visited (detailProgram_accept view)]
  exact ⟨_, rfl, hslots₁⟩

/-- A detail program matches a detail address of its view as a whole, with the domain, the path
and the digits as its three groups. -/
theorem detailProgram_captures (hd : ∀ c ∈ digits, decimalDigit.contains c = true) :
    (detailProgram view).captures (detailText view digits).toArray =
      some #[some (0, (detailText view digits).length), some (0, detailDomain.toList.length),
        some (detailDomain.toList.length, detailDomain.toList.length + (detailPath view).toList.length),
        some (detailDomain.toList.length + (detailPath view).toList.length,
          (detailText view digits).length)] := by
  have hbudget : (detailChain view).length + 2 * digits.length + 2 ≤
      ((detailProgram view).states.size + 1) * ((detailText view digits).toArray.size + 1) + 1 := by
    have hlen : digits.length ≤ (detailText view digits).length := by
      simp only [detailText, List.length_append]
      omega
    have hmul : 6 * (detailText view digits).length ≤
        ((detailChain view).length + 5 + 1) * (detailText view digits).length :=
      Nat.mul_le_mul_right _ (by omega)
    rw [detailProgram_size, List.size_toArray, Nat.mul_add_one]
    omega
  obtain ⟨s₂, heq₂, hslots₂, ⟨rest, hstack₂⟩, hfresh₂⟩ := detailProgram_follow_open view digits hd
    hbudget [] ((Array.replicate (2 * (detailProgram view).groups.size) (none : Option Nat)).map
      fun _ => none)
  have hsteps : 3 ≤ ((detailProgram view).states.size + 1) *
      ((detailText view digits).toArray.size + 1) + 1 := by
    have h := Nat.le_mul_of_pos_right ((detailProgram view).states.size + 1)
      (by omega : 0 < (detailText view digits).toArray.size + 1)
    rw [detailProgram_size] at h ⊢
    omega
  obtain ⟨s₃, heq₃, hslots₃⟩ := detailProgram_follow_close view (detailText view digits).toArray
    (((detailProgram view).states.size + 1) * ((detailText view digits).toArray.size + 1) + 1)
    (s := { s₂ with stack := rest }) hsteps hfresh₂
  obtain ⟨F, hF⟩ : ∃ F, 3 * (((detailProgram view).states.size + 1) *
      ((detailText view digits).toArray.size + 1) + 1) = F + 1 + 1 := ⟨_, rfl⟩
  have hback : (detailProgram view).backtrack (detailText view digits).toArray
      (((detailProgram view).states.size + 1) * ((detailText view digits).toArray.size + 1) + 1)
      (3 * (((detailProgram view).states.size + 1) * ((detailText view digits).toArray.size + 1) + 1))
      ⟨[.step (detailProgram view).start 0],
        (Array.replicate (2 * (detailProgram view).groups.size) (none : Option Nat)).map fun _ => none,
        {}⟩ = (some (detailText view digits).length, s₃) := by
    rw [hF, Program.backtrack_step_none rfl heq₂, Program.backtrack_step_some hstack₂ heq₃]
  rw [(detailProgram view).captures_of_backtrack _ hback, hslots₃, hslots₂, Array.map_replicate]
  apply congrArg some
  apply Array.toList_inj.1
  rw [Array.toList_map, Array.toList_range]
  simp [detailProgram, List.range_succ, Array.set!_eq_setIfInBounds, Array.getElem?_setIfInBounds]

end Run

/-! ## What a detail program does not match -/

theorem mem_detailChain {view : String} {x : Char} (hx : x ∈ (detailPath view).toList)
    (hdot : x ≠ '.') : Link.read (CodeSet.single x.toNat) ∈ detailChain view := by
  have hmem : Link.read (literalSet x) ∈ spell (detailPath view).toList := List.mem_map_of_mem hx
  rw [literalSet, if_neg hdot] at hmem
  simp [detailChain, hmem]

/-- A detail program matches no text that lacks a character of its path other than `.`. -/
theorem detailProgram_captures_eq_none {view : String} {text : Array Char} {x : Char}
    (hx : x ∈ (detailPath view).toList) (hdot : x ≠ '.') (hnot : x ∉ text.toList) :
    (detailProgram view).captures text = none := by
  cases h : (detailProgram view).captures text with
  | none => rfl
  | some groups =>
    obtain ⟨i, e, acc, hacc, hr⟩ := (detailProgram view).captures_sound text h
    have hfit := Program.fits_of_reaches hacc #[] (detailProgram_chain view) hr
    obtain ⟨c, hc, hcx⟩ := mem_of_fits hfit (mem_detailChain hx hdot)
    exact absurd (Char.toNat_inj.1 hcx ▸ hc) hnot

/-! ## The groups of a detail address -/

/-- A pattern compiled to a detail program takes a detail address whole, its domain, its path and
its identifier's digits. -/
theorem detail_regex_captures {r : Regex} {view : String} (hr : r.program = detailProgram view)
    {digits : List Char} (hd : ∀ c ∈ digits, decimalDigit.contains c = true) :
    r.captures (String.ofList (detailText view digits)) =
      some [some (String.ofList (detailText view digits)), some detailDomain, some (detailPath view),
        some (String.ofList digits)] := by
  have htext : detailText view digits = detailDomain.toList ++ ((detailPath view).toList ++ digits) :=
    List.append_assoc _ _ _
  have hpath : ((detailPath view).toList ++ digits).take (detailPath view).toList.length =
      (detailPath view).toList := List.take_left' rfl
  simp only [Regex.captures, String.toList_ofList, hr, detailProgram_captures view digits hd,
    Option.map_some, List.toList_toArray, Array.toList_extract, List.extract_eq_take_drop,
    List.map_cons, List.map_nil, Nat.sub_zero, List.drop_zero, List.take_length]
  rw [htext, List.take_left' rfl, List.drop_left' rfl, Nat.add_sub_cancel_left, hpath,
    String.ofList_toList, String.ofList_toList, ← List.drop_drop, List.drop_left' rfl,
    List.drop_left' rfl, List.take_of_length_le (by simp only [List.length_append]; omega)]

/-! ## The built-in registry on a detail address -/

/-- The built-in registry holds a list-view and a board-view pattern, in that order. -/
theorem withDefaults_entries : ∃ kL kB : KnownUrl, Registry.withDefaults.entries = [kL, kB] ∧
    kL.name = Registry.listDetails ∧ kL.regex.program = detailProgram "list" ∧
    kB.name = Registry.boardDetails ∧ kB.regex.program = detailProgram "board" := by
  have h := withDefaults_programs
  rcases hs : Registry.withDefaults.entries with _ | ⟨kL, _ | ⟨kB, _ | ⟨k, rest⟩⟩⟩ <;>
    rw [hs] at h <;>
    simp only [List.map_cons, List.map_nil, List.cons.injEq, Prod.mk.injEq, reduceCtorEq,
      and_false, and_true] at h
  exact ⟨kL, kB, rfl, h.1.1, h.1.2, h.2.1, h.2.2⟩

/-- The characters of a detail address before its identifier: none is blank, `&`, `|`, a
backslash, a parenthesis, a colon or a digit. -/
theorem detailPrefix_plain {view : String} (hview : view ∈ ["list", "board"]) :
    ∀ c ∈ detailDomain.toList ++ (detailPath view).toList, plainChar c = true ∧
      Lexeme.isReserved c = false ∧ (c.toNat < 48 ∨ 57 < c.toNat) := by
  have hall : (["list", "board"].all fun v => (detailDomain.toList ++ (detailPath v).toList).all
      fun c => plainChar c && !Lexeme.isReserved c && (decide (c.toNat < 48) || decide (57 < c.toNat))) =
        true := by
    decide +kernel
  intro c hc
  have h := List.all_eq_true.1 (List.all_eq_true.1 hall view hview) c hc
  simp only [Bool.and_eq_true, Bool.not_eq_true', Bool.or_eq_true, decide_eq_true_eq] at h
  exact ⟨h.1.1, h.1.2, h.2⟩

variable {digits : List Char}

theorem not_mem_detailText {view : String} {x : Char}
    (hx : x ∉ detailDomain.toList ++ (detailPath view).toList) (hxd : x.toNat < 48 ∨ 57 < x.toNat)
    (hd : ∀ c ∈ digits, c.isDigit = true) : x ∉ detailText view digits := by
  rw [detailText, List.mem_append, not_or]
  exact ⟨hx, fun hmem => ne_of_isDigit (hd x hmem) hxd rfl⟩

/-- The relevance of a pattern for a detail address it takes: its three groups all matched
something, the identifier having digits. -/
theorem relevance_detail {k : KnownUrl} {view : String} (hk : k.regex.program = detailProgram view)
    (hd : ∀ c ∈ digits, c.isDigit = true) (hne : digits ≠ []) :
    k.relevance (String.ofList (detailText view digits)) = some 3 := by
  rw [KnownUrl.relevance, detail_regex_captures hk fun c hc => decimalDigit_of_isDigit (hd c hc)]
  have hdomain : detailDomain.isEmpty = false := by decide
  have hpath : (detailPath view).isEmpty = false := by
    simp [detailPath, ← String.toList_inj]
  have hdigits : (String.ofList digits).isEmpty = false := by
    simpa [String.isEmpty_iff] using hne
  simp [hdomain, hpath, hdigits]

theorem relevance_eq_none {k : KnownUrl} {view url : String} {x : Char}
    (hk : k.regex.program = detailProgram view) (hx : x ∈ (detailPath view).toList) (hdot : x ≠ '.')
    (hnot : x ∉ url.toList) : k.relevance url = none := by
  rw [KnownUrl.relevance, Regex.captures, hk,
    detailProgram_captures_eq_none hx hdot (by simpa using hnot)]
  rfl

/-- On a detail address of either view, the built-in registry decomposes by the pattern of that
view. -/
theorem decomposer_detail {view : String} (hview : view ∈ ["list", "board"])
    (hd : ∀ c ∈ digits, c.isDigit = true) (hne : digits ≠ []) :
    ∃ k, Registry.withDefaults.decomposer (String.ofList (detailText view digits)) = some k ∧
      k.regex.program = detailProgram view := by
  obtain ⟨kL, kB, hentries, hnL, hpL, hnB, hpB⟩ := withDefaults_entries
  have hdec : ∀ c ∈ digits, decimalDigit.contains c = true := fun c hc =>
    decimalDigit_of_isDigit (hd c hc)
  have hnames : (kL.name == kB.name) = false := by
    rw [hnL, hnB]
    decide
  have hprefix := detailPrefix_plain hview
  simp only [List.mem_cons, List.not_mem_nil, or_false] at hview
  rcases hview with rfl | rfl
  · have hB : kB.relevance (String.ofList (detailText "list" digits)) = none :=
      relevance_eq_none hpB (x := 'b') (by decide) (by decide)
        (by rw [String.toList_ofList]; exact not_mem_detailText (by decide) (by decide) hd)
    refine ⟨kL, ?_, hpL⟩
    simp [Registry.decomposer, Registry.bestMatch, hentries, relevance_detail hpL hd hne, hB,
      detail_regex_captures hpL hdec, Registry.get?]
  · have hL : kL.relevance (String.ofList (detailText "board" digits)) = none :=
      relevance_eq_none hpL (x := 's') (by decide) (by decide)
        (by rw [String.toList_ofList]; exact not_mem_detailText (by decide) (by decide) hd)
    refine ⟨kB, ?_, hpB⟩
    simp [Registry.decomposer, Registry.bestMatch, hentries, relevance_detail hpB hd hne, hL,
      detail_regex_captures hpB hdec, Registry.get?, hnames]

/-- Every detail address holds a slash, so the built-in registry matches nothing in a text
without one. -/
theorem bestMatch_withDefaults_eq_none {url : String} (h : '/' ∉ url.toList) :
    Registry.withDefaults.bestMatch url = none := by
  obtain ⟨kL, kB, hentries, -, hpL, -, hpB⟩ := withDefaults_entries
  have hL : kL.relevance url = none :=
    relevance_eq_none hpL (x := '/') (by simp [detailPath]) (by decide) h
  have hB : kB.relevance url = none :=
    relevance_eq_none hpB (x := '/') (by simp [detailPath]) (by decide) h
  simp [Registry.bestMatch, hentries, hL, hB]

/-! ## What the fragment of a detail address denotes -/

theorem composite_detail {view : String} :
    KnownUrl.composite [some (String.ofList (detailText view digits)), some detailDomain,
      some (detailPath view), some (String.ofList digits)] = String.ofList (detailText view digits) := by
  rw [← String.toList_inj]
  simp [KnownUrl.composite, detailText]

theorem named_id_detail {r : Regex} {view : String} (hr : r.program = detailProgram view)
    (a b c d : Option String) : r.named [a, b, c, d] "id" = d := by
  simp [Regex.named, Regex.groupNames, hr, detailProgram]

/-- A pattern compiled to a detail program makes the address denote its identifier or the whole
address, each as a prefix lexeme. -/
theorem meaning_detail {k : KnownUrl} {view : String} (hk : k.regex.program = detailProgram view)
    (hd : ∀ c ∈ digits, c.isDigit = true) (hne : digits ≠ []) :
    k.meaning (String.ofList (detailText view digits)) =
      some (.or (.lexeme (String.ofList digits) true)
        (.lexeme (String.ofList (detailText view digits)) true)) := by
  have hdigits : (String.ofList digits).isEmpty = false := by
    simpa [String.isEmpty_iff] using hne
  rw [KnownUrl.meaning, detail_regex_captures hk fun c hc => decimalDigit_of_isDigit (hd c hc)]
  simp only [Option.bind_eq_bind, Option.bind_some, named_id_detail hk, hdigits, Bool.false_eq_true,
    if_false, composite_detail]
  rfl

/-- The groups a detail pattern takes from a detail address of its view can be written as the
fragment writes them. -/
theorem writable_detail {k : KnownUrl} {view : String} (hview : view ∈ ["list", "board"])
    (hk : k.regex.program = detailProgram view) (hd : ∀ c ∈ digits, c.isDigit = true)
    (hne : digits ≠ []) : k.Writable (String.ofList (detailText view digits)) := by
  intro caps hcaps
  rw [detail_regex_captures hk fun c hc => decimalDigit_of_isDigit (hd c hc), Option.some.injEq] at hcaps
  subst hcaps
  have hchars : ∀ c ∈ detailText view digits, plainChar c = true ∧ Lexeme.isReserved c = false := by
    intro c hc
    rw [detailText, List.mem_append] at hc
    rcases hc with hc | hc
    · exact ⟨(detailPrefix_plain hview c hc).1, (detailPrefix_plain hview c hc).2.1⟩
    · exact (plain_of_isDigit (hd c hc)).2
  refine ⟨⟨⟨?_, ?_⟩, ?_⟩, ?_⟩
  · rw [composite_detail, ne_eq, ← String.toList_inj]
    simp [detailText, detailDomain]
  · rw [composite_detail, String.toList_ofList]
    exact fun c hc => (hchars c hc).1
  · rw [composite_detail, String.toList_ofList]
    intro c hc
    have hr := (hchars c hc).2
    simp only [Lexeme.isReserved, Bool.or_eq_false_iff, beq_eq_false_iff_ne] at hr
    exact ⟨hr.1.2, hr.2⟩
  · intro v hv _
    rw [named_id_detail hk, Option.some.injEq] at hv
    subst hv
    refine ⟨⟨by simpa [← String.toList_inj] using hne, ?_⟩, ?_⟩
    · rw [String.toList_ofList]
      exact fun c hc => (plain_of_isDigit (hd c hc)).2.1
    · rw [String.toList_ofList]
      exact fun c hc => (plain_of_isDigit (hd c hc)).2.2

/-- On a detail address of either view, the built-in registry's fragment denotes the identifier or
the whole address, and can be written as it writes it. -/
theorem urlMeaning_detail {view : String} (hview : view ∈ ["list", "board"])
    (hd : ∀ c ∈ digits, c.isDigit = true) (hne : digits ≠ []) :
    Registry.withDefaults.UrlFits (String.ofList (detailText view digits)) ∧
      Registry.withDefaults.urlMeaning (String.ofList (detailText view digits)) =
        .or (.lexeme (String.ofList digits) true)
          (.lexeme (String.ofList (detailText view digits)) true) := by
  obtain ⟨k, hdec, hk⟩ := decomposer_detail hview hd hne
  have hmeaning := meaning_detail hk hd hne
  refine ⟨⟨fun k' hk' => ?_, fun hnone => ?_⟩, ?_⟩
  · rw [hdec, Option.some.injEq] at hk'
    subst hk'
    exact writable_detail hview hk hd hne
  · rw [hdec, Option.bind_some, hmeaning] at hnone
    cases hnone
  · rw [Registry.urlMeaning, hdec, Option.bind_some, hmeaning]

end TrackerSearch
