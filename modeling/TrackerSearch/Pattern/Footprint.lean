import TrackerSearch.Pattern.Hir
import TrackerSearch.Text.Utf8
import Std.Data.TreeMap

/-!
The memory a pattern takes once compiled to automata over the bytes of its UTF-8 text, and
the limit it must stay under.

A pattern is compiled twice: forward, with its captures, and in reverse, without them, for
searching backwards. Each automaton is measured while it is built, and a pattern is refused
as soon as either passes the limit. A state costs 32 bytes; a state with a list of
byte-range transitions holds 8 bytes more for each, and a branching state 4 bytes more for
each branch.

A set of one character is its UTF-8 bytes, one state each; a set within ASCII is one state
with a transition per range, and an exit. A larger set becomes the byte-range sequences of
its UTF-8 encodings. Forward, the sequences are fed in order to a builder that shares the
common ends of sequences, looking its states up in a table of 10 000 slots indexed by a hash
of their transitions; a state whose slot holds another is built anew. In reverse, each
sequence becomes a chain of states from its last byte to its first, and chains are shared
through a table of 1 000 slots keyed by the state a byte range leads to and the range. The
hashes see the numbers of the states, so the count follows the build state by state, in the
order the automaton is built: sequences in reverse order are built from the back.

Repetitions are copies of their expression: `e{n}` is `n` copies, `e{n,m}` adds `m - n`
optional copies, each branching to a common exit, and `e*`, `e+` and `e?` add branching
states as their shapes need. Alternatives of sets are one set; other alternatives branch
from one state to a common exit. Empty parts of a sequence take no state.
-/

namespace TrackerSearch.Pattern

open Unicode

/-- The largest memory, in bytes, that a compiled pattern may take. -/
def sizeLimit : Nat := 10 * 1024 * 1024

/-- The memory of an automaton being built: its states, and the bytes their transitions
and branches hold besides. -/
structure Footprint where
  states : Nat
  extra : Nat

/-- The bytes an automaton of this footprint takes. -/
def Footprint.bytes (f : Footprint) : Nat := f.states * 32 + f.extra

/-- Building an automaton while measuring it; it stops once it passes the limit. -/
abbrev Measure := StateT Footprint (Except Unit)

/-- Adds a state holding `extra` bytes besides its own, and gives its number. -/
def measureState (extra : Nat) : Measure Nat := do
  let f ← get
  let f' : Footprint := { states := f.states + 1, extra := f.extra + extra }
  set f'
  if f'.bytes > sizeLimit then throw ()
  return f.states

/-- Adds a state holding nothing besides its own. -/
def addPlain : Measure Unit := discard (measureState 0)

/-- Adds a branch to a branching state. -/
def addBranch : Measure Unit :=
  modify fun f => { f with extra := f.extra + 4 }

/-- Links the exit of a part to what follows it, which adds a branch when the exit is a
branching state. -/
def link (exitBranches : Bool) : Measure Unit :=
  if exitBranches then addBranch else pure ()

/-! ### UTF-8 byte-range sequences -/

/-- The byte ranges of the UTF-8 encodings of the code points from `lo` to `hi`, which
share their length and all but the ranges of their bytes. -/
def byteRanges (lo hi : Nat) : List (Nat × Nat) :=
  (Utf8.encodeChar (Char.ofNat lo)).zip (Utf8.encodeChar (Char.ofNat hi))

/-- Splits the code points from `lo` to `hi` into runs whose encodings are all the byte
strings of a sequence of byte ranges, in ascending order. Surrogates are left out. Each
split makes the runs agree on one more boundary (the surrogates, an encoding length, or a
block of 64, 4096 or 262144 code points), so a depth of 16 is enough. -/
def utf8Runs : Nat → Nat → Nat → List (List (Nat × Nat))
  | 0, _, _ => []
  | fuel + 1, lo, hi =>
    if hi < lo then []
    else if lo < 0xE000 && hi > 0xD7FF then
      utf8Runs fuel lo 0xD7FF ++ utf8Runs fuel 0xE000 hi
    else match [0x7F, 0x7FF, 0xFFFF].find? (fun m => lo ≤ m && m < hi) with
    | some m => utf8Runs fuel lo m ++ utf8Runs fuel (m + 1) hi
    | none =>
      if hi ≤ 0x7F then [[(lo, hi)]]
      else
        let blockSplit := [64, 4096, 262144].findSome? fun size =>
          if lo / size == hi / size then none
          else if lo % size != 0 then some (lo - lo % size + size - 1)
          else if hi % size != size - 1 then some (hi - hi % size - 1)
          else none
        match blockSplit with
        | some m => utf8Runs fuel lo m ++ utf8Runs fuel (m + 1) hi
        | none => [byteRanges lo hi]

/-- The byte-range sequences of the code points from `lo` to `hi`, in ascending order. -/
def utf8Sequences (lo hi : Nat) : List (List (Nat × Nat)) :=
  utf8Runs 16 lo hi

/-- The 64-bit FNV-1a hash of a list of numbers, each taken as one word. -/
def fnv1a (xs : List Nat) : UInt64 :=
  xs.foldl (fun h x => (h ^^^ x.toUInt64) * 1099511628211) 14695981039346656037

/-! ### Sets of characters, forward -/

/-- A byte-range transition to a state. -/
abbrev Transition := Nat × Nat × Nat

/-- A table of built states by slot: the transitions of the state last built there, and
its number. -/
abbrev SharedStates := Std.TreeMap Nat (Array Transition × Nat)

/-- A state of the forward builder not built yet: its transitions so far, and the byte range
of its last transition, whose target is not known yet. -/
structure Pending where
  trans : Array Transition
  last : Option (Nat × Nat)

/-- The transitions of a pending state once its last one leads to `next`. -/
def Pending.close (p : Pending) (next : Nat) : Array Transition :=
  match p.last with
  | some (a, b) => p.trans.push (a, b, next)
  | none => p.trans

/-- Builds a state with the given transitions, unless the table holds one in its slot. -/
def buildShared (table : SharedStates) (trans : Array Transition) :
    Measure (Nat × SharedStates) := do
  let slot := (fnv1a (trans.toList.flatMap fun (a, b, n) => [a, b, n])).toNat % 10000
  match table.get? slot with
  | some (key, id) =>
    if key == trans then return (id, table)
    else
      let id ← measureState (8 * trans.size)
      return (id, table.insert slot (trans, id))
  | none =>
    let id ← measureState (8 * trans.size)
    return (id, table.insert slot (trans, id))

/-- Builds the pending states deeper than `depth`, deepest first, each leading to the one
built before it and the deepest to `next`; the state at `depth` then leads to the last
built. -/
def freezeBelow (depth : Nat) :
    Nat → Nat → Array Pending → SharedStates → Measure (Array Pending × SharedStates)
  | 0, _, pending, table => return (pending, table)
  | fuel + 1, next, pending, table =>
    match pending.back? with
    | none => return (pending, table)
    | some p =>
      if depth + 1 < pending.size then do
        let (id, table) ← buildShared table (p.close next)
        freezeBelow depth fuel id pending.pop table
      else
        return (pending.pop.push { trans := p.close next, last := none }, table)

/-- Adds one byte-range sequence to the forward builder: the pending states it shares with
the sequence before stay pending, the rest are built, and new pending states take its
remaining ranges. -/
def addSequence (target : Nat) (st : Array Pending × SharedStates) (seq : List (Nat × Nat)) :
    Measure (Array Pending × SharedStates) := do
  let (pending, table) := st
  let shared := ((seq.zip pending.toList).takeWhile fun (r, p) => p.last == some r).length
  let (pending, table) ← freezeBelow shared pending.size target pending table
  match seq.drop shared with
  | [] => return (pending, table)
  | r :: more =>
    let pending := pending.modify (pending.size - 1) fun p => { p with last := some r }
    return (more.foldl (fun ps r => ps.push { trans := #[], last := some r }) pending, table)

/-- Builds a set of characters forward: an exit state, then the states of its sequences. -/
def forwardSet (ranges : List (Nat × Nat)) : Measure Unit := do
  let target ← measureState 0
  let seqs := ranges.flatMap fun (lo, hi) => utf8Sequences lo hi
  let (pending, table) ← seqs.foldlM (addSequence target) (#[{ trans := #[], last := none }], {})
  let (pending, table) ← freezeBelow 0 pending.size target pending table
  let root := match pending[0]? with
    | some p => p.trans
    | none => #[]
  discard (buildShared table root)

/-! ### Sets of characters, in reverse -/

/-- A table of chains by slot: the state a byte range leads to, the range, and the state
built for it. -/
abbrev SharedChains := Std.TreeMap Nat ((Nat × Nat × Nat) × Nat)

/-- Builds the chain of one sequence from its first byte, which leads to `exit`, to its
last, reusing links the table holds; gives the state of the last byte. -/
def reverseChain (exit : Nat) (table : SharedChains) (seq : List (Nat × Nat)) :
    Measure (Nat × SharedChains) :=
  seq.foldlM (fun (next, table) (a, b) => do
    let key := (next, a, b)
    let slot := (fnv1a [next, a, b]).toNat % 1000
    match table.get? slot with
    | some (k, id) =>
      if k == key then return (id, table)
      else
        let id ← measureState 0
        return (id, table.insert slot (key, id))
    | none =>
      let id ← measureState 0
      return (id, table.insert slot (key, id))) (exit, table)

/-- Builds a set of characters in reverse: a branching state, an exit, and a chain per
sequence, each a branch. -/
def reverseSet (ranges : List (Nat × Nat)) : Measure Unit := do
  addPlain
  let exit ← measureState 0
  let seqs := ranges.flatMap fun (lo, hi) => utf8Sequences lo hi
  discard (seqs.foldlM (fun table seq => do
    let (_, table) ← reverseChain exit table seq
    addBranch
    return table) ({} : SharedChains))

/-- The one member of a set of one code point. -/
def CodeSet.only? (s : CodeSet) : Option Nat :=
  match s.ranges.toList with
  | [(lo, hi)] => if lo == hi then some lo else none
  | _ => none

/-- Builds a set of characters; the exit never branches. -/
def measureSet (reverse : Bool) (s : CodeSet) : Measure Unit :=
  match CodeSet.only? s with
  | some c => (Utf8.encodeChar (Char.ofNat c)).forM fun _ => addPlain
  | none =>
    if s.isAscii then do
      addPlain
      discard (measureState (8 * s.ranges.size))
    else if reverse then reverseSet s.ranges.toList
    else forwardSet s.ranges.toList

/-! ### Expressions -/

/-- Whether an expression matches only the empty text, if anything. -/
def Hir.zeroWidth : Hir → Bool
  | .empty => true
  | .look _ => true
  | .chars _ => false
  | .repetition _ max _ sub => max == some 0 || sub.zeroWidth
  | .capture _ _ sub => sub.zeroWidth
  | .concat items => allZeroWidth items
  | .alternation alts => !alts.isEmpty && allZeroWidth alts
where
  /-- The same for every expression of a list. -/
  allZeroWidth : List Hir → Bool
    | [] => true
    | h :: rest => h.zeroWidth && allZeroWidth rest

/-- Whether every match of an expression must start at the start of the text: a start
assertion comes before anything that takes characters. -/
def Hir.anchoredStart : Hir → Bool
  | .look .start => true
  | .repetition min _ _ sub => min > 0 && sub.anchoredStart
  | .capture _ _ sub => sub.anchoredStart
  | .concat items => anchoredList items
  | .alternation alts => !alts.isEmpty && allAnchored alts
  | _ => false
where
  /-- The same for a sequence, read from its front. -/
  anchoredList : List Hir → Bool
    | [] => false
    | h :: rest => h.anchoredStart || (h.zeroWidth && anchoredList rest)
  /-- The same for every alternative of a list. -/
  allAnchored : List Hir → Bool
    | [] => true
    | h :: rest => h.anchoredStart && allAnchored rest

/-- Whether every match of an expression must end at the end of the text. -/
def Hir.anchoredEnd : Hir → Bool
  | .look .stop => true
  | .repetition min _ _ sub => min > 0 && sub.anchoredEnd
  | .capture _ _ sub => sub.anchoredEnd
  | .concat items => anchoredList items
  | .alternation alts => !alts.isEmpty && allAnchored alts
  | _ => false
where
  /-- The same for a sequence: some part is anchored and only zero-width parts follow it. -/
  anchoredList : List Hir → Bool
    | [] => false
    | h :: rest => anchoredList rest || (rest.all Hir.zeroWidth && h.anchoredEnd)
  /-- The same for every alternative of a list. -/
  allAnchored : List Hir → Bool
    | [] => true
    | h :: rest => h.anchoredEnd && allAnchored rest

/-- A sequence of normalized parts: nested sequences spliced in, empty parts dropped, and
a sequence of one part is that part. -/
def sequenceOf (items : List Hir) : Hir :=
  let flat := items.flatMap fun
    | .concat inner => inner
    | .empty => []
    | h => [h]
  match flat with
  | [] => .empty
  | [h] => h
  | hs => .concat hs

/-- The set that alternatives of sets come to: all sets of one character, or all larger
sets. -/
def mergedSet? (alts : List Hir) : Option CodeSet :=
  let sets := alts.filterMap fun
    | .chars s => some s
    | _ => none
  if sets.length != alts.length then none
  else if sets.all (fun s => (CodeSet.only? s).isSome) || sets.all (fun s => (CodeSet.only? s).isNone) then
    some (sets.foldl CodeSet.union CodeSet.empty)
  else none

/-- An alternation of normalized alternatives: nested alternations spliced in, alternatives
of sets merged into one set, and an alternation of one alternative is that alternative. No
alternative at all matches nothing. -/
def alternationOf (alts : List Hir) : Hir :=
  let flat := alts.flatMap fun
    | .alternation inner => inner
    | h => [h]
  match flat with
  | [] => .chars CodeSet.empty
  | [h] => h
  | hs =>
    match mergedSet? hs with
    | some s => .chars s
    | none => .alternation hs

/-- A repetition of a normalized expression: at most one round of an expression that only
matches the empty text, nothing for `e{0}`, and `e` for `e{1}`. -/
def repetitionOf (min : Nat) (max : Option Nat) (greedy : Bool) (sub : Hir) : Hir :=
  let (min, max) :=
    if sub.zeroWidth then (Nat.min min 1, some ((max.getD 1).min 1)) else (min, max)
  if min == 0 && max == some 0 then .empty
  else if min == 1 && max == some 1 then sub
  else .repetition min max greedy sub

mutual
/-- An expression in the shape it is built in: sequences and alternations flattened, sets
that are alternatives merged, repetitions simplified. -/
def Hir.normalize : Hir → Hir
  | .empty => .empty
  | .chars s => .chars s
  | .look k => .look k
  | .capture i n sub => .capture i n sub.normalize
  | .concat items => sequenceOf (normalizeEach items)
  | .alternation alts => alternationOf (normalizeEach alts)
  | .repetition min max greedy sub => repetitionOf min max greedy sub.normalize

/-- Normalizes each expression of a list. -/
def normalizeEach : List Hir → List Hir
  | [] => []
  | h :: rest => h.normalize :: normalizeEach rest
end

/-- Builds parts in the given order, each linked to the one before; a lone empty state when
there are none. -/
def chainShape : List (Measure Bool) → Measure Bool
  | [] => do addPlain; return false
  | [m] => m
  | m :: rest => do
    link (← m)
    chainShape rest

/-- Builds alternatives: the first two, then a branching state and a common exit, then the
rest, each a branch leading to the exit. -/
def alternativesShape : List (Measure Bool) → Measure Bool
  | [] => do addPlain; return false
  | [m] => m
  | a :: b :: rest => do
    let aExit ← a
    let bExit ← b
    addPlain
    addPlain
    addBranch; link aExit
    addBranch; link bExit
    for m in rest do
      let mExit ← m
      addBranch; link mExit
    return false

/-- Builds `n` copies of a part in sequence; a lone empty state when `n` is zero. -/
def copiesShape (n : Nat) (body : Measure Bool) : Measure Bool :=
  chainShape (List.replicate n body)

/-- Builds a repetition of a part; `takesChars` tells whether the part always takes a
character. -/
def repetitionShape (min : Nat) (max : Option Nat) (takesChars : Bool) (body : Measure Bool) :
    Measure Bool :=
  match min, max with
  | 0, some 1 => do
    addPlain
    let bodyExit ← body
    addPlain
    addBranch; addBranch; link bodyExit
    return false
  | 0, none =>
    if takesChars then do
      addPlain
      let bodyExit ← body
      addBranch; link bodyExit
      return true
    else do
      let bodyExit ← body
      addPlain
      link bodyExit; addBranch
      addPlain
      addPlain
      addBranch; addBranch; addBranch
      return false
  | 1, none => do
    let bodyExit ← body
    addPlain
    link bodyExit; addBranch
    return true
  | n, none => do
    let prefixExit ← copiesShape (n - 1) body
    let lastExit ← body
    addPlain
    link prefixExit; link lastExit; addBranch
    return true
  | n, some m =>
    if n == m then copiesShape n body
    else do
      let mut exitBranches ← copiesShape n body
      addPlain
      for _ in [n:m] do
        addPlain
        let bodyExit ← body
        link exitBranches; addBranch; addBranch
        exitBranches := bodyExit
      link exitBranches
      return false

mutual
/-- Builds a normalized expression; tells whether its exit is a branching state. Captures
take a state at each end forward and none in reverse. -/
def Hir.measure (reverse : Bool) : Hir → Measure Bool
  | .empty => do addPlain; return false
  | .chars s => do measureSet reverse s; return false
  | .look _ => do addPlain; return false
  | .capture _ _ sub =>
    if reverse then sub.measure reverse
    else do
      addPlain
      link (← sub.measure reverse)
      addPlain
      return false
  | .concat items =>
    let parts := measureEach reverse items
    chainShape (if reverse then parts.reverse else parts)
  | .alternation alts => alternativesShape (measureEach reverse alts)
  | .repetition min max _ sub =>
    repetitionShape min max (sub.minLen.any (· > 0)) (sub.measure reverse)

/-- The builds of each expression of a list. -/
def measureEach (reverse : Bool) : List Hir → List (Measure Bool)
  | [] => []
  | h :: rest => h.measure reverse :: measureEach reverse rest
end

/-- Builds the automaton of a whole pattern in one direction: the way to skip to a start,
unless every match is anchored there, then the pattern with its group `0` (forward only),
then the accepting state. -/
def Hir.measureAutomaton (reverse : Bool) (h : Hir) : Measure Unit := do
  let h := h.normalize
  if (if reverse then h.anchoredEnd else h.anchoredStart) then addPlain
  else
    addPlain
    addPlain
    discard (measureState 8)
    addBranch
  if reverse then
    let exitBranches ← h.measure reverse
    addPlain
    link exitBranches
  else
    addPlain
    link (← h.measure reverse)
    addPlain
    addPlain

/-- Whether both automata of a pattern stay within the limit. -/
def Hir.fitsSizeLimit (h : Hir) : Bool :=
  let fits (reverse : Bool) : Bool :=
    match (h.measureAutomaton reverse).run { states := 0, extra := 0 } with
    | .ok _ => true
    | .error _ => false
  fits false && fits true

end TrackerSearch.Pattern
