import TrackerSearch.Pattern.Regex
import Mathlib.Logic.Relation
import Mathlib.Tactic.Common

/-!
# Runs of a compiled pattern

The search follows a program's states depth first and keeps the branches it has not taken on a
stack. Every match it reports is real: from the entry at some position, moves of the program
reach an accepting state, each move reading a character of its set, passing a test that holds,
taking a branch or marking a group (`captures_sound`). What carries it is that every branch on
the stack is reachable from the entry at the position being tried (`StackSound`).

The search also finds what it should along a straight chain of states (`follow_chain`) and
around a loop that reads characters of one set (`follow_loop`). No pair of state and position
on the way was visited before, since state plus position times the number of states grows at
each move (`Fresh`).
-/

namespace TrackerSearch.Pattern

open Unicode

/-- A search state with one more pair of state and position marked visited. -/
def Search.mark (s : Search) (x : Nat × Nat) : Search :=
  { s with visited := s.visited.insert x }

namespace Program

variable (p : Program) (text : Array Char)

/-- One move of a program over a text, between pairs of a state and a position. -/
inductive Step : Nat × Nat → Nat × Nat → Prop
  | empty {a q next : Nat} : p.states[a]? = some (.empty next) → Step (a, q) (next, q)
  | read {a q next : Nat} {set : CodeSet} {c : Char} : p.states[a]? = some (.chars set next) →
      text[q]? = some c → set.contains c = true → Step (a, q) (next, q + 1)
  | look {a q next : Nat} {k : Look} : p.states[a]? = some (.look k next) →
      k.holds text q = true → Step (a, q) (next, q)
  | union {a q b : Nat} {alts : Array Nat} : p.states[a]? = some (.union alts) →
      b ∈ alts.toList → Step (a, q) (b, q)
  | unionReverse {a q b : Nat} {alts : Array Nat} : p.states[a]? = some (.unionReverse alts) →
      b ∈ alts.toList → Step (a, q) (b, q)
  | captureStart {a q g next : Nat} : p.states[a]? = some (.captureStart g next) →
      Step (a, q) (next, q)
  | captureEnd {a q g next : Nat} : p.states[a]? = some (.captureEnd g next) →
      Step (a, q) (next, q)

/-- The pairs reachable from a pair by moves of the program. -/
def Reaches : Nat × Nat → Nat × Nat → Prop :=
  Relation.ReflTransGen (p.Step text)

/-- A match from `start` to `stop`: from the entry at `start`, an accepting state is reached at
`stop`. -/
def Accepts (start stop : Nat) : Prop :=
  ∃ acc, p.states[acc]? = some .accept ∧ p.Reaches text (p.start, start) (acc, stop)

/-- Every branch left on a stack is reachable from the entry at `start`. -/
def StackSound (start : Nat) (stack : List Frame) : Prop :=
  ∀ b r, Frame.step b r ∈ stack → p.Reaches text (p.start, start) (b, r)

/-! ## One state of the search -/

section Equations

variable {p : Program} {text : Array Char} {fuel a q : Nat} {s : Search}

theorem follow_visited (hv : s.visited.contains (a, q) = true) :
    p.follow text (fuel + 1) a q s = (none, s) := by
  rw [follow, if_pos hv]

theorem follow_read {set : CodeSet} {next : Nat} {c : Char} (hv : s.visited.contains (a, q) = false)
    (ha : p.states[a]? = some (.chars set next)) (hc : text[q]? = some c)
    (hin : set.contains c = true) :
    p.follow text (fuel + 1) a q s = p.follow text fuel next (q + 1) (s.mark (a, q)) := by
  simp only [follow, hv, Bool.false_eq_true, if_false, ha, hc, hin, if_true]
  rfl

theorem follow_read_end {set : CodeSet} {next : Nat} (hv : s.visited.contains (a, q) = false)
    (ha : p.states[a]? = some (.chars set next)) (hc : text[q]? = none) :
    p.follow text (fuel + 1) a q s = (none, s.mark (a, q)) := by
  simp only [follow, hv, Bool.false_eq_true, if_false, ha, hc]
  rfl

theorem follow_union {alts : Array Nat} {b : Nat} {rest : List Nat}
    (hv : s.visited.contains (a, q) = false) (ha : p.states[a]? = some (.union alts))
    (halts : alts.toList = b :: rest) :
    p.follow text (fuel + 1) a q s = p.follow text fuel b q
      { s.mark (a, q) with stack := rest.map (Frame.step · q) ++ s.stack } := by
  simp only [follow, hv, Bool.false_eq_true, if_false, ha, halts]
  rfl

theorem follow_captureStart {g next : Nat} (hv : s.visited.contains (a, q) = false)
    (ha : p.states[a]? = some (.captureStart g next)) :
    p.follow text (fuel + 1) a q s = p.follow text fuel next q
      ⟨.restore (2 * g) (s.slots[2 * g]?.getD none) :: s.stack, s.slots.set! (2 * g) (some q),
        s.visited.insert (a, q)⟩ := by
  simp only [follow, hv, Bool.false_eq_true, if_false, ha]

theorem follow_captureEnd {g next : Nat} (hv : s.visited.contains (a, q) = false)
    (ha : p.states[a]? = some (.captureEnd g next)) :
    p.follow text (fuel + 1) a q s = p.follow text fuel next q
      ⟨.restore (2 * g + 1) (s.slots[2 * g + 1]?.getD none) :: s.stack,
        s.slots.set! (2 * g + 1) (some q), s.visited.insert (a, q)⟩ := by
  simp only [follow, hv, Bool.false_eq_true, if_false, ha]

theorem follow_accept (hv : s.visited.contains (a, q) = false) (ha : p.states[a]? = some .accept) :
    p.follow text (fuel + 1) a q s = (some q, s.mark (a, q)) := by
  simp only [follow, hv, Bool.false_eq_true, if_false, ha]
  rfl

theorem backtrack_step_some {budget b r e : Nat} {rest : List Frame} {s' : Search}
    (hs : s.stack = .step b r :: rest)
    (hf : p.follow text budget b r { s with stack := rest } = (some e, s')) :
    p.backtrack text budget (fuel + 1) s = (some e, s') := by
  simp only [backtrack, hs]
  rw [hf]

theorem backtrack_step_none {budget b r : Nat} {rest : List Frame} {s' : Search}
    (hs : s.stack = .step b r :: rest)
    (hf : p.follow text budget b r { s with stack := rest } = (none, s')) :
    p.backtrack text budget (fuel + 1) s = p.backtrack text budget fuel s' := by
  simp only [backtrack, hs]
  rw [hf]

end Equations

/-- What one state of the search does: it stops without a match and leaves the stack as it was;
it accepts at its position; or it makes a move of the program, pushing only branches that are
moves of the program from the same pair, besides slots to put back. -/
theorem follow_succ_cases (fuel a q : Nat) (s : Search) :
    ((p.follow text (fuel + 1) a q s).1 = none ∧ (p.follow text (fuel + 1) a q s).2.stack = s.stack) ∨
    ((p.follow text (fuel + 1) a q s).1 = some q ∧ p.states[a]? = some .accept ∧
      (p.follow text (fuel + 1) a q s).2.stack = s.stack) ∨
    ∃ b q' s', p.Step text (a, q) (b, q') ∧ p.follow text (fuel + 1) a q s = p.follow text fuel b q' s' ∧
      ∀ x r, Frame.step x r ∈ s'.stack → Frame.step x r ∈ s.stack ∨ (r = q ∧ p.Step text (a, q) (x, q)) := by
  rw [follow]
  split
  · exact .inl ⟨rfl, rfl⟩
  split
  next => exact .inl ⟨rfl, rfl⟩
  next next ha => exact .inr (.inr ⟨next, q, _, .empty ha, rfl, fun x r h => .inl h⟩)
  next set next ha =>
    split
    next c hc =>
      split
      next hin => exact .inr (.inr ⟨next, q + 1, _, .read ha hc hin, rfl, fun x r h => .inl h⟩)
      next => exact .inl ⟨rfl, rfl⟩
    next => exact .inl ⟨rfl, rfl⟩
  next k next ha =>
    split
    next hk => exact .inr (.inr ⟨next, q, _, .look ha hk, rfl, fun x r h => .inl h⟩)
    next => exact .inl ⟨rfl, rfl⟩
  next alts ha =>
    split
    next => exact .inl ⟨rfl, rfl⟩
    next b rest halts =>
      refine .inr (.inr ⟨b, q, _, .union ha (by simp [halts]), rfl, fun x r h => ?_⟩)
      simp only [List.mem_append, List.mem_map, Frame.step.injEq] at h
      rcases h with ⟨y, hy, rfl, rfl⟩ | h
      · exact .inr ⟨rfl, .union ha (by simp [halts, hy])⟩
      · exact .inl h
  next alts ha =>
    have hmem : ∀ y, y ∈ alts.toList.reverse → y ∈ alts.toList := fun y hy =>
      List.mem_reverse.1 hy
    split
    next => exact .inl ⟨rfl, rfl⟩
    next b rest halts =>
      refine .inr (.inr ⟨b, q, _, .unionReverse ha (hmem b (by simp [halts])), rfl,
        fun x r h => ?_⟩)
      simp only [List.mem_append, List.mem_map, Frame.step.injEq] at h
      rcases h with ⟨y, hy, rfl, rfl⟩ | h
      · exact .inr ⟨rfl, .unionReverse ha (hmem y (by simp [halts, hy]))⟩
      · exact .inl h
  next g next ha =>
    refine .inr (.inr ⟨next, q, _, .captureStart ha, rfl, fun x r h => ?_⟩)
    simp only [List.mem_cons, reduceCtorEq, false_or] at h
    exact .inl h
  next g next ha =>
    refine .inr (.inr ⟨next, q, _, .captureEnd ha, rfl, fun x r h => ?_⟩)
    simp only [List.mem_cons, reduceCtorEq, false_or] at h
    exact .inl h
  next => exact .inl ⟨rfl, rfl⟩
  next ha => exact .inr (.inl ⟨rfl, ha, rfl⟩)

/-! ## Every reported match is a path of the program -/

/-- Following states from a reachable pair keeps every branch on the stack reachable, and a match
it finds is one. -/
theorem follow_sound {start : Nat} (fuel : Nat) : ∀ {a q : Nat} {s : Search},
    p.Reaches text (p.start, start) (a, q) → p.StackSound text start s.stack →
    p.StackSound text start (p.follow text fuel a q s).2.stack ∧
      ∀ e, (p.follow text fuel a q s).1 = some e → p.Accepts text start e := by
  induction fuel with
  | zero =>
    intro a q s _ hs
    exact ⟨hs, fun e he => by cases he⟩
  | succ fuel ih =>
    intro a q s hr hs
    rcases p.follow_succ_cases text fuel a q s with ⟨hnone, hstack⟩ | ⟨hsome, hacc, hstack⟩ |
      ⟨b, q', s', hstep, heq, hpush⟩
    · refine ⟨hstack ▸ hs, fun e he => ?_⟩
      rw [hnone] at he
      cases he
    · refine ⟨hstack ▸ hs, fun e he => ?_⟩
      rw [hsome] at he
      cases he
      exact ⟨a, hacc, hr⟩
    · rw [heq]
      refine ih (hr.tail hstep) fun x r hx => ?_
      rcases hpush x r hx with hx | ⟨rfl, hx⟩
      · exact hs x r hx
      · exact hr.tail hx

/-- Working through a stack of reachable branches finds only matches. -/
theorem backtrack_sound {start : Nat} (budget fuel : Nat) : ∀ {s : Search},
    p.StackSound text start s.stack →
      ∀ e, (p.backtrack text budget fuel s).1 = some e → p.Accepts text start e := by
  induction fuel with
  | zero =>
    intro s _ e he
    cases he
  | succ fuel ih =>
    intro s hs e he
    rw [backtrack] at he
    split at he
    next => cases he
    next slot v rest hstack =>
      exact ih (fun b r hb => hs b r (by rw [hstack]; exact List.mem_cons_of_mem _ hb)) e he
    next b r rest hstack =>
      have hrest : p.StackSound text start rest := fun x y hx =>
        hs x y (by rw [hstack]; exact List.mem_cons_of_mem _ hx)
      have hfollow := p.follow_sound text budget (s := { s with stack := rest })
        (hs b r (by rw [hstack]; exact List.mem_cons_self)) hrest
      split at he
      next e' s' hf =>
        rw [hf] at hfollow
        exact hfollow.2 e he
      next s' hf =>
        rw [hf] at hfollow
        exact ih hfollow.1 e he

/-- The search from each start position in turn finds only matches. -/
theorem tryFrom_sound {budget fuel : Nat} : ∀ (remaining start : Nat) (s : Search)
    (slots : Array (Option Nat)), captures.tryFrom p text budget fuel start remaining s = some slots →
      ∃ i e, p.Accepts text i e := by
  intro remaining
  induction remaining with
  | zero =>
    intro start s slots h
    cases h
  | succ r ih =>
    intro start s slots h
    rw [captures.tryFrom] at h
    have hstart : p.StackSound text start [.step p.start start] := by
      intro b q hb
      simp only [List.mem_singleton, Frame.step.injEq] at hb
      obtain ⟨rfl, rfl⟩ := hb
      exact .refl
    split at h
    next e s' hb =>
      have hsound := p.backtrack_sound text budget fuel
        (s := ⟨[.step p.start start], (s.slots.map fun _ => none), s.visited⟩) hstart e
      rw [hb] at hsound
      exact ⟨start, e, hsound rfl⟩
    next s' _ => exact ih (start + 1) s' slots h

/-- Every match the search reports is a path of the program from its entry to an accepting
state. -/
theorem captures_sound {groups : Array (Option (Nat × Nat))} (h : p.captures text = some groups) :
    ∃ i e, p.Accepts text i e := by
  rw [captures, Option.map_eq_some_iff] at h
  obtain ⟨slots, hslots, -⟩ := h
  exact p.tryFrom_sound text _ 0 _ slots hslots

/-- When the search from the start of the text finds a match, the groups are read off the slots
it ends with. -/
theorem captures_of_backtrack {e : Nat} {s' : Search}
    (h : p.backtrack text ((p.states.size + 1) * (text.size + 1) + 1)
      (3 * ((p.states.size + 1) * (text.size + 1) + 1))
      ⟨[.step p.start 0], (Array.replicate (2 * p.groups.size) (none : Option Nat)).map fun _ => none,
        {}⟩ =
        (some e, s')) :
    p.captures text = some ((Array.range p.groups.size).map fun g =>
      match s'.slots[2 * g]?, s'.slots[2 * g + 1]? with
      | some (some a), some (some b) => some (a, b)
      | _, _ => none) := by
  unfold captures
  simp only [captures.tryFrom, h]
  exact Option.map_some _ _

/-! ## Runs that find a match -/

/-- No pair visited so far ranks as high as state `a` at position `q`, a pair ranking by its state
plus its position times `n`. -/
def Fresh (n : Nat) (visited : Std.HashSet (Nat × Nat)) (a q : Nat) : Prop :=
  ∀ b r, visited.contains (b, r) = true → r * n + b < q * n + a

namespace Fresh

variable {n a q : Nat} {v : Std.HashSet (Nat × Nat)}

theorem empty (n a q : Nat) : Fresh n {} a q := by
  intro b r h
  simp at h

theorem not_visited (h : Fresh n v a q) : v.contains (a, q) = false := by
  cases hc : v.contains (a, q) with
  | false => rfl
  | true => exact absurd (h a q hc) (Nat.lt_irrefl _)

theorem insert {a' q' : Nat} (h : Fresh n v a q) (hlt : q * n + a < q' * n + a') :
    Fresh n (v.insert (a, q)) a' q' := by
  intro b r hbr
  rw [Std.HashSet.contains_insert, Bool.or_eq_true] at hbr
  rcases hbr with heq | hv
  · obtain ⟨rfl, rfl⟩ : a = b ∧ q = r := by simpa using heq
    exact hlt
  · exact Nat.lt_trans (h b r hv) hlt

end Fresh

end Program

/-- A state of a straight chain: it reads a character of a set, or marks where a group starts or
ends, and passes on to the state after it. -/
inductive Link where
  | read (set : CodeSet)
  | groupStart (group : Nat)
  | groupEnd (group : Nat)

namespace Link

/-- The state of a link that passes on to `next`. -/
def state : Link → Nat → State
  | .read set, next => .chars set next
  | .groupStart g, next => .captureStart g next
  | .groupEnd g, next => .captureEnd g next

/-- What a link does over a text to a position and the capture slots; `none` when it reads the
end of the text or a character outside its set. -/
def apply (text : Array Char) : Nat × Array (Option Nat) → Link → Option (Nat × Array (Option Nat))
  | (pos, slots), .read set =>
    match text[pos]? with
    | some c => if set.contains c then some (pos + 1, slots) else none
    | none => none
  | (pos, slots), .groupStart g => some (pos, slots.set! (2 * g) (some pos))
  | (pos, slots), .groupEnd g => some (pos, slots.set! (2 * g + 1) (some pos))

end Link

/-- The states of a chain of links laid out from state `k`, each passing on to the next. -/
def chainStates : Nat → List Link → List State
  | _, [] => []
  | k, l :: rest => l.state (k + 1) :: chainStates (k + 1) rest

theorem length_chainStates : ∀ (k : Nat) (links : List Link), (chainStates k links).length = links.length
  | _, [] => rfl
  | k, _ :: rest => by simp [chainStates, length_chainStates (k + 1) rest]

/-- Links applied in two runs: the second starts where the first ends. -/
theorem foldlM_append_of_some {text : Array Char} {l₁ : List Link} (l₂ : List Link)
    {x y : Nat × Array (Option Nat)} (h : l₁.foldlM (Link.apply text) x = some y) :
    (l₁ ++ l₂).foldlM (Link.apply text) x = l₂.foldlM (Link.apply text) y := by
  rw [List.foldlM_append, h]
  rfl

namespace Program

/-- The links stand in a program from state `k` on, each passing on to the next. -/
def Chain (p : Program) : Nat → List Link → Prop
  | _, [] => True
  | k, l :: rest => p.states[k]? = some (l.state (k + 1)) ∧ p.Chain (k + 1) rest

variable {p : Program} {text : Array Char}

theorem chain_of_states {post : List State} : ∀ {links : List Link} (pre : List State),
    p.states.toList = pre ++ chainStates pre.length links ++ post → p.Chain pre.length links
  | [], _, _ => trivial
  | l :: rest, pre, h => by
    refine ⟨?_, ?_⟩
    · rw [← Array.getElem?_toList, h, List.append_assoc, List.getElem?_append_right (Nat.le_refl _),
        Nat.sub_self]
      rfl
    · have h' : p.states.toList = (pre ++ [l.state (pre.length + 1)]) ++
          chainStates (pre ++ [l.state (pre.length + 1)]).length rest ++ post := by
        rw [h, List.length_append, List.length_singleton]
        simp [chainStates]
      have hc := chain_of_states _ h'
      rwa [List.length_append, List.length_singleton] at hc

/-- One link of a chain, at a pair not yet visited. -/
theorem follow_link (fuel : Nat) {k pos pos' : Nat} {l : Link} {s : Search}
    {slots' : Array (Option Nat)} (hk : p.states[k]? = some (l.state (k + 1)))
    (hl : l.apply text (pos, s.slots) = some (pos', slots'))
    (hv : s.visited.contains (k, pos) = false) :
    ∃ s', p.follow text (fuel + 1) k pos s = p.follow text fuel (k + 1) pos' s' ∧ s'.slots = slots' ∧
      s'.visited = s.visited.insert (k, pos) ∧ pos ≤ pos' := by
  cases l with
  | read set =>
    obtain ⟨c, hc, hin, rfl, rfl⟩ : ∃ c, text[pos]? = some c ∧ set.contains c = true ∧
        pos + 1 = pos' ∧ s.slots = slots' := by
      simp only [Link.apply] at hl
      split at hl
      next c hc =>
        split at hl
        next hin =>
          cases hl
          exact ⟨c, hc, hin, rfl, rfl⟩
        next => cases hl
      next => cases hl
    exact ⟨_, follow_read hv hk hc hin, rfl, rfl, Nat.le_succ pos⟩
  | groupStart g =>
    simp only [Link.apply, Option.some.injEq, Prod.mk.injEq] at hl
    obtain ⟨rfl, rfl⟩ := hl
    exact ⟨_, follow_captureStart hv hk, rfl, rfl, Nat.le_refl pos⟩
  | groupEnd g =>
    simp only [Link.apply, Option.some.injEq, Prod.mk.injEq] at hl
    obtain ⟨rfl, rfl⟩ := hl
    exact ⟨_, follow_captureEnd hv hk, rfl, rfl, Nat.le_refl pos⟩

/-- Along a chain whose links apply one after another, the search passes every link, setting the
slots as the links do; no pair on the way was visited. -/
theorem follow_chain : ∀ {links : List Link} {k pos : Nat} (fuel : Nat) {s : Search} {pos' : Nat}
    {slots' : Array (Option Nat)}, p.Chain k links →
    links.foldlM (Link.apply text) (pos, s.slots) = some (pos', slots') →
    Fresh p.states.size s.visited k pos →
    ∃ s', p.follow text (fuel + links.length) k pos s = p.follow text fuel (k + links.length) pos' s' ∧
      s'.slots = slots' ∧ Fresh p.states.size s'.visited (k + links.length) pos'
  | [], k, pos, fuel, s, pos', slots', _, hrun, hfresh => by
    simp only [List.foldlM_nil, pure, Option.some.injEq, Prod.mk.injEq] at hrun
    obtain ⟨rfl, rfl⟩ := hrun
    exact ⟨s, rfl, rfl, hfresh⟩
  | l :: rest, k, pos, fuel, s, pos', slots', ⟨hk, hrest⟩, hrun, hfresh => by
    rw [List.foldlM_cons] at hrun
    obtain ⟨⟨pos₁, slots₁⟩, hl, hrun⟩ := Option.bind_eq_some_iff.1 hrun
    obtain ⟨s₁, heq, hslots, hvisited, hle⟩ :=
      follow_link (fuel + rest.length) hk hl hfresh.not_visited
    have hrank : pos * p.states.size + k < pos₁ * p.states.size + (k + 1) := by
      have := Nat.mul_le_mul_right p.states.size hle
      omega
    have hfresh₁ : Fresh p.states.size s₁.visited (k + 1) pos₁ := by
      rw [hvisited]
      exact hfresh.insert hrank
    obtain ⟨s', heq', hslots', hfresh'⟩ :=
      follow_chain fuel hrest (by rw [hslots]; exact hrun) hfresh₁
    have hk' : k + 1 + rest.length = k + (rest.length + 1) := by omega
    refine ⟨s', ?_, hslots', hk' ▸ hfresh'⟩
    rw [List.length_cons, ← Nat.add_assoc, heq, heq', hk']

/-- A loop over one set of characters reads the rest of the text when every character left is
in the set, and stops with the way out at the end of the text on top of its stack. -/
theorem follow_loop {u exit : Nat} {set : CodeSet} (hu : p.states[u]? = some (.union #[u + 1, exit]))
    (hr : p.states[u + 1]? = some (.chars set u)) (hn : 2 ≤ p.states.size) (hexit : u + 1 < exit)
    (m : Nat) : ∀ {q : Nat} (fuel : Nat) {s : Search}, q + m = text.size →
      (∀ i (h : i < text.size), q ≤ i → set.contains text[i] = true) →
      Fresh p.states.size s.visited u q →
      ∃ s', p.follow text (fuel + 2 * m + 2) u q s = (none, s') ∧ s'.slots = s.slots ∧
        (∃ rest, s'.stack = .step exit text.size :: rest) ∧
        Fresh p.states.size s'.visited exit text.size := by
  induction m with
  | zero =>
    intro q fuel s hq _ hfresh
    have hend : q = text.size := by omega
    subst hend
    have hread : Fresh p.states.size (s.visited.insert (u, text.size)) (u + 1) text.size :=
      hfresh.insert (by omega)
    rw [show fuel + 2 * 0 + 2 = fuel + 1 + 1 by omega, follow_union hfresh.not_visited hu rfl,
      follow_read_end hread.not_visited hr (by simp)]
    exact ⟨_, rfl, rfl, ⟨s.stack, rfl⟩, hread.insert (by omega)⟩
  | succ m ih =>
    intro q fuel s hq hset hfresh
    have hq' : q < text.size := by omega
    have hread : Fresh p.states.size (s.visited.insert (u, q)) (u + 1) q := hfresh.insert (by omega)
    have hnext : Fresh p.states.size ((s.visited.insert (u, q)).insert (u + 1, q)) u (q + 1) := by
      refine hread.insert ?_
      rw [Nat.add_mul, Nat.one_mul]
      omega
    rw [show fuel + 2 * (m + 1) + 2 = fuel + 2 * m + 2 + 1 + 1 by omega,
      follow_union hfresh.not_visited hu rfl,
      follow_read hread.not_visited hr (getElem?_pos text q hq') (hset q hq' (Nat.le_refl q))]
    refine ih fuel (by omega) (fun i h hi => hset i h (by omega)) ?_
    simp only [Search.mark]
    exact hnext

/-! ## What a path along a chain reads -/

/-- A move from the state of a link is the link's own: to the next state, at the position the
link leaves. -/
theorem step_of_link {k pos next : Nat} {l : Link} {c : Nat × Nat}
    (hk : p.states[k]? = some (l.state next)) (slots : Array (Option Nat))
    (h : p.Step text (k, pos) c) :
    ∃ pos' slots', l.apply text (pos, slots) = some (pos', slots') ∧ c = (next, pos') := by
  cases l with
  | read set =>
    cases h with
    | read ha hc hin =>
      rw [hk, Option.some.injEq, Link.state, State.chars.injEq] at ha
      obtain ⟨rfl, rfl⟩ := ha
      exact ⟨_, slots, by simp [Link.apply, hc, hin], rfl⟩
    | empty ha | look ha _ | union ha _ | unionReverse ha _ | captureStart ha | captureEnd ha =>
      simp [hk, Link.state] at ha
  | groupStart g =>
    cases h with
    | captureStart ha =>
      rw [hk, Option.some.injEq, Link.state, State.captureStart.injEq] at ha
      obtain ⟨rfl, rfl⟩ := ha
      exact ⟨_, _, rfl, rfl⟩
    | empty ha | read ha _ _ | look ha _ | union ha _ | unionReverse ha _ | captureEnd ha =>
      simp [hk, Link.state] at ha
  | groupEnd g =>
    cases h with
    | captureEnd ha =>
      rw [hk, Option.some.injEq, Link.state, State.captureEnd.injEq] at ha
      obtain ⟨rfl, rfl⟩ := ha
      exact ⟨_, _, rfl, rfl⟩
    | empty ha | read ha _ _ | look ha _ | union ha _ | unionReverse ha _ | captureStart ha =>
      simp [hk, Link.state] at ha

/-- A path from the head of a chain to an accepting state passes the whole chain: its links apply
one after another. -/
theorem fits_of_reaches {acc e : Nat} (hacc : p.states[acc]? = some .accept) :
    ∀ {links : List Link} {k pos : Nat} (slots : Array (Option Nat)), p.Chain k links →
      p.Reaches text (k, pos) (acc, e) → (links.foldlM (Link.apply text) (pos, slots)).isSome
  | [], _, _, _, _, _ => rfl
  | l :: rest, k, pos, slots, ⟨hk, hrest⟩, hr => by
    rcases Relation.ReflTransGen.cases_head hr with heq | ⟨c, hstep, hr'⟩
    · obtain ⟨rfl, rfl⟩ := Prod.mk.inj heq
      rw [hacc] at hk
      cases l <;> cases hk
    · obtain ⟨pos', slots', hl, rfl⟩ := step_of_link hk slots hstep
      rw [List.foldlM_cons, hl]
      exact fits_of_reaches hacc slots' hrest hr'

end Program

theorem CodeSet.contains_single {n : Nat} {c : Char} :
    (CodeSet.single n).contains c = true ↔ c.toNat = n := by
  simp only [CodeSet.contains, CodeSet.containsCode, CodeSet.single]
  rw [CodeSet.search]
  by_cases hlt : c.toNat < n
  · simp [hlt, CodeSet.search, Nat.ne_of_lt hlt]
  · by_cases hgt : n < c.toNat
    · simp [hlt, hgt, CodeSet.search, Nat.ne_of_gt hgt]
    · simp [hlt, hgt]
      omega

/-- Links that apply one after another read their characters from the text: a link reading one
code point finds it there. -/
theorem mem_of_fits {text : Array Char} {n : Nat} : ∀ {links : List Link} {pos : Nat}
    {slots : Array (Option Nat)}, (links.foldlM (Link.apply text) (pos, slots)).isSome →
      Link.read (CodeSet.single n) ∈ links → ∃ c ∈ text.toList, c.toNat = n
  | [], _, _, _, hmem => by cases hmem
  | l :: rest, pos, slots, hfit, hmem => by
    rw [List.foldlM_cons] at hfit
    cases hl : Link.apply text (pos, slots) l with
    | none =>
      rw [hl] at hfit
      cases hfit
    | some x =>
      rw [hl] at hfit
      rcases List.mem_cons.1 hmem with rfl | hmem
      · simp only [Link.apply] at hl
        split at hl
        next c hc =>
          split at hl
          next hin => exact ⟨c, Array.mem_toList_iff.2 (Array.mem_of_getElem? hc),
            CodeSet.contains_single.1 hin⟩
          next => cases hl
        next => cases hl
      · exact mem_of_fits hfit hmem


end TrackerSearch.Pattern
