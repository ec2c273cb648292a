import TrackerSearch.Pattern.Hir
import Std.Data.HashSet

/-!
Patterns compiled to a graph of states, and the search for the leftmost-first match.

Each expression becomes a fragment with one entry and one exit. Alternatives become a
branching state that prefers its branches in order; `e?`, `e*` and `e+` branch between
another round and the way out, greedy repetition preferring another round; `e{n,m}` is `n`
copies followed by `m - n` nested optional copies. A repetition `e*` of an expression that
can match the empty text is built as `(e+)?`, so that the preferred order is the order of
the alternatives written. Group `0`, the whole match, is a capture around everything.

The search tries the start positions from left to right, and from each follows the states
depth first in order of preference, recording capture positions on the way and undoing
them when it backs off. A state already tried at a position is not tried again: from there
no match is to be found, or it lies on the path being followed, whose longer loops cannot
produce a better match. The first accepting state reached gives the match.
-/

namespace TrackerSearch.Pattern

open Unicode

/-- A state of a compiled pattern. -/
inductive State where
  | empty (next : Nat)
  | chars (set : CodeSet) (next : Nat)
  | look (kind : Look) (next : Nat)
  /-- Branches in order of preference. -/
  | union (alts : Array Nat)
  /-- Branches in reverse order of preference, while the graph is being built. -/
  | unionReverse (alts : Array Nat)
  | captureStart (group : Nat) (next : Nat)
  | captureEnd (group : Nat) (next : Nat)
  | fail
  | accept
  deriving Inhabited, DecidableEq

/-- Entry and exit of a compiled expression. -/
structure Fragment where
  start : Nat
  stop : Nat

/-- A graph being built, with the names of the capture groups seen so far. -/
structure Builder where
  states : Array State := #[]
  groups : Array (Option String) := #[]

/-- Building a graph. -/
abbrev Build := StateM Builder

/-- Adds a state and gives its number. -/
def addState (s : State) : Build Nat :=
  modifyGet fun b => (b.states.size, { b with states := b.states.push s })

/-- Points an exit of state `src` at state `dst`. -/
def patch (src dst : Nat) : Build Unit :=
  modify fun b => { b with states := b.states.modify src fun
    | .empty _ => .empty dst
    | .chars s _ => .chars s dst
    | .look k _ => .look k dst
    | .union alts => .union (alts.push dst)
    | .unionReverse alts => .unionReverse (alts.push dst)
    | .captureStart g _ => .captureStart g dst
    | .captureEnd g _ => .captureEnd g dst
    | .fail => .fail
    | .accept => .accept }

/-- Records a capture group's name, filling the numbers skipped before it. -/
def noteGroup (index : Nat) (name : Option String) : Build Unit :=
  modify fun b =>
    if index < b.groups.size then b
    else { b with groups := (b.groups ++ Array.replicate (index - b.groups.size) none).push name }

/-- A fragment that matches the empty text. -/
def emptyFragment : Build Fragment := do
  let s ← addState (.empty 0)
  return ⟨s, s⟩

/-- A branching state, preferring its branches in order or in reverse. -/
def addUnion (greedy : Bool) : Build Nat :=
  addState (if greedy then .union #[] else .unionReverse #[])

/-- Joins fragments one after another. -/
def joinFragments : List Fragment → Build Fragment
  | [] => emptyFragment
  | f :: rest => do
    let mut stop := f.stop
    for g in rest do
      patch stop g.start
      stop := g.stop
    return ⟨f.start, stop⟩

/-- `n` copies of a fragment builder, one after another. -/
def exactly (part : Build Fragment) (n : Nat) : Build Fragment := do
  let mut frags : Array Fragment := #[]
  for _ in [0:n] do
    frags := frags.push (← part)
  joinFragments frags.toList

/-- Alternatives, preferred in order. -/
def alternatives (frags : List Fragment) : Build Fragment := do
  match frags with
  | [] => do
    let s ← addState .fail
    return ⟨s, s⟩
  | [f] => return f
  | fs => do
    let u ← addState (.union #[])
    let stop ← addState (.empty 0)
    for f in fs do
      patch u f.start
      patch f.stop stop
    return ⟨u, stop⟩

/-- A repetition of `part` between `min` and `max` times; `emptyOk` says whether the repeated
expression can match the empty text or nothing at all. -/
def repetition (part : Build Fragment) (emptyOk : Bool) (min : Nat) (max : Option Nat)
    (greedy : Bool) : Build Fragment := do
  match min, max with
  | 0, some 1 =>
    let u ← addUnion greedy
    let f ← part
    let e ← addState (.empty 0)
    patch u f.start
    patch u e
    patch f.stop e
    return ⟨u, e⟩
  | 0, none =>
    if !emptyOk then
      let u ← addUnion greedy
      let f ← part
      patch u f.start
      patch f.stop u
      return ⟨u, u⟩
    else
      let f ← part
      let plus ← addUnion greedy
      patch f.stop plus
      patch plus f.start
      let question ← addUnion greedy
      let e ← addState (.empty 0)
      patch question f.start
      patch question e
      patch plus e
      return ⟨question, e⟩
  | 1, none =>
    let f ← part
    let u ← addUnion greedy
    patch f.stop u
    patch u f.start
    return ⟨f.start, u⟩
  | n + 2, none =>
    let pre ← exactly part (n + 1)
    let last ← part
    let u ← addUnion greedy
    patch pre.stop last.start
    patch last.stop u
    patch u last.start
    return ⟨pre.start, u⟩
  | lo, some hi =>
    if lo == hi then exactly part lo
    else
      let pre ← exactly part lo
      let e ← addState (.empty 0)
      let mut prevStop := pre.stop
      for _ in [lo:hi] do
        let u ← addUnion greedy
        let f ← part
        patch prevStop u
        patch u f.start
        patch u e
        prevStop := f.stop
      patch prevStop e
      return ⟨pre.start, e⟩

mutual
/-- Compiles an expression into a fragment. -/
def compileHir : Hir → Build Fragment
  | .empty => emptyFragment
  | .chars s => do
    let st ← addState (.chars s 0)
    return ⟨st, st⟩
  | .look k => do
    let st ← addState (.look k 0)
    return ⟨st, st⟩
  | .repetition min max greedy sub =>
    let emptyOk := match sub.minLen with
      | some n => n == 0
      | none => true
    repetition (compileHir sub) emptyOk min max greedy
  | .capture i name sub => do
    noteGroup i name
    let s ← addState (.captureStart i 0)
    let f ← compileHir sub
    let e ← addState (.captureEnd i 0)
    patch s f.start
    patch f.stop e
    return ⟨s, e⟩
  | .concat items => do joinFragments (← compileList items)
  | .alternation alts => do alternatives (← compileList alts)

/-- Compiles expressions in order. -/
def compileList : List Hir → Build (List Fragment)
  | [] => return []
  | h :: rest => do
    let f ← compileHir h
    return f :: (← compileList rest)
end

/-- A compiled pattern: its states, its entry, and the names of its capture groups, group `0`
first. -/
structure Program where
  states : Array State
  start : Nat
  groups : Array (Option String)
  deriving DecidableEq

/-- Fixes the order of reverse-preference branches. -/
def State.finish : State → State
  | .unionReverse alts => .union alts.reverse
  | s => s

/-- Compiles the meaning of a pattern: the whole match is group `0`. -/
def Hir.compile (h : Hir) : Program :=
  let build : Build Fragment := do
    let f ← compileHir (.capture 0 none h)
    let acc ← addState .accept
    patch f.stop acc
    return f
  let (f, b) := build.run {}
  { states := b.states.map State.finish, start := f.start, groups := b.groups }

/-! ## Search -/

/-- Whether a character is a word character in the Unicode sense. -/
def isWordUnicode (c : Char) : Bool := wordChar.contains c

/-- Whether a character is an ASCII word character. -/
def isWordAscii (c : Char) : Bool := c.isAlphanum || c == '_'

/-- Whether a zero-width test holds at position `pos` of the text. -/
def Look.holds (k : Look) (text : Array Char) (pos : Nat) : Bool :=
  let before := if pos == 0 then none else text[pos - 1]?
  let after := text[pos]?
  let wordBefore (w : Char → Bool) := (before.map w).getD false
  let wordAfter (w : Char → Bool) := (after.map w).getD false
  match k with
  | .start => pos == 0
  | .stop => pos == text.size
  | .startLF => pos == 0 || before == some '\n'
  | .endLF => pos == text.size || after == some '\n'
  | .startCRLF => pos == 0 || before == some '\n' || (before == some '\r' && after != some '\n')
  | .endCRLF => pos == text.size || after == some '\r' || (after == some '\n' && before != some '\r')
  | .wordAscii => wordBefore isWordAscii != wordAfter isWordAscii
  | .notWordAscii => wordBefore isWordAscii == wordAfter isWordAscii
  | .wordUnicode => wordBefore isWordUnicode != wordAfter isWordUnicode
  | .notWordUnicode => wordBefore isWordUnicode == wordAfter isWordUnicode
  | .wordStartAscii => !wordBefore isWordAscii && wordAfter isWordAscii
  | .wordEndAscii => wordBefore isWordAscii && !wordAfter isWordAscii
  | .wordStartUnicode => !wordBefore isWordUnicode && wordAfter isWordUnicode
  | .wordEndUnicode => wordBefore isWordUnicode && !wordAfter isWordUnicode
  | .wordStartHalfAscii => !wordBefore isWordAscii
  | .wordEndHalfAscii => !wordAfter isWordAscii
  | .wordStartHalfUnicode => !wordBefore isWordUnicode
  | .wordEndHalfUnicode => !wordAfter isWordUnicode

/-- Work left on the search stack: a state to try at a position, or a capture slot to put
back as it was. -/
inductive Frame where
  | step (state pos : Nat)
  | restore (slot : Nat) (value : Option Nat)

/-- The search state: pending work, capture slots and the pairs already tried. -/
structure Search where
  stack : List Frame
  slots : Array (Option Nat)
  visited : Std.HashSet (Nat × Nat)

/-- Follows states from `state` at `pos` without backing off, pushing the other branches;
gives the end of a match when an accepting state is reached. At most `fuel` states. -/
def Program.follow (p : Program) (text : Array Char) : Nat → Nat → Nat → Search → Option Nat × Search
  | 0, _, _, s => (none, s)
  | fuel + 1, state, pos, s =>
    if s.visited.contains (state, pos) then (none, s)
    else
      let s := { s with visited := s.visited.insert (state, pos) }
      match p.states[state]? with
      | none => (none, s)
      | some (.empty next) => p.follow text fuel next pos s
      | some (.chars set next) =>
        match text[pos]? with
        | some c => if set.contains c then p.follow text fuel next (pos + 1) s else (none, s)
        | none => (none, s)
      | some (.look k next) => if k.holds text pos then p.follow text fuel next pos s else (none, s)
      | some (.union alts) =>
        match alts.toList with
        | [] => (none, s)
        | first :: rest =>
          let s := { s with stack := rest.map (fun a => Frame.step a pos) ++ s.stack }
          p.follow text fuel first pos s
      | some (.unionReverse alts) =>
        match alts.toList.reverse with
        | [] => (none, s)
        | first :: rest =>
          let s := { s with stack := rest.map (fun a => Frame.step a pos) ++ s.stack }
          p.follow text fuel first pos s
      | some (.captureStart g next) =>
        let slot := 2 * g
        let s := { s with stack := .restore slot (s.slots[slot]?.getD none) :: s.stack,
                          slots := s.slots.set! slot (some pos) }
        p.follow text fuel next pos s
      | some (.captureEnd g next) =>
        let slot := 2 * g + 1
        let s := { s with stack := .restore slot (s.slots[slot]?.getD none) :: s.stack,
                          slots := s.slots.set! slot (some pos) }
        p.follow text fuel next pos s
      | some .fail => (none, s)
      | some .accept => (some pos, s)

/-- Works through the stack until a match is found or no work is left. -/
def Program.backtrack (p : Program) (text : Array Char) (budget : Nat) : Nat → Search → Option Nat × Search
  | 0, s => (none, s)
  | fuel + 1, s =>
    match s.stack with
    | [] => (none, s)
    | .restore slot v :: rest =>
      p.backtrack text budget fuel { s with stack := rest, slots := s.slots.set! slot v }
    | .step state pos :: rest =>
      match p.follow text budget state pos { s with stack := rest } with
      | (some e, s') => (some e, s')
      | (none, s') => p.backtrack text budget fuel s'

/-- The capture positions of the leftmost-first match: for each group, its start and end
as character indices, or `none` for a group that took no part. -/
def Program.captures (p : Program) (text : Array Char) : Option (Array (Option (Nat × Nat))) :=
  let budget := (p.states.size + 1) * (text.size + 1) + 1
  let fuel := 3 * budget
  let rec tryFrom (start : Nat) (remaining : Nat) (s : Search) : Option (Array (Option Nat)) :=
    match remaining with
    | 0 => none
    | r + 1 =>
      let s := { s with stack := [.step p.start start], slots := s.slots.map fun _ => none }
      match p.backtrack text budget fuel s with
      | (some _, s') => some s'.slots
      | (none, s') => tryFrom (start + 1) r s'
  let slots0 : Array (Option Nat) := Array.replicate (2 * p.groups.size) none
  (tryFrom 0 (text.size + 1) ⟨[], slots0, {}⟩).map fun slots =>
    (Array.range p.groups.size).map fun g =>
      match slots[2 * g]?, slots[2 * g + 1]? with
      | some (some a), some (some b) => some (a, b)
      | _, _ => none

end TrackerSearch.Pattern
