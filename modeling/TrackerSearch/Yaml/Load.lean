import TrackerSearch.Yaml.Parser
import TrackerSearch.Decimal.Text
import TrackerSearch.Text.Debug

/-!
YAML documents as values.

A plain scalar is resolved by its text: `0x` and `0o` prefixes give hexadecimal and octal
integers, `~` and `null` give null, `true` and `false` booleans, a decimal integer that fits
in 64 bits an integer, text that reads as a double (including `.inf`, `.nan` and their
spellings) a real that keeps its text, and anything else a string. A quoted or block scalar
is always a string. A scalar tagged with the core schema's `bool`, `int`, `float` or `null`
must read as one, or it is a bad value; any other tag makes a string.

A mapping keeps its keys in order of appearance, and a key may appear once: a repeated key is
an error at the place where its value ends. Such an error stops the loading of nodes, but a
syntax error later in the text still takes its place. An alias stands for a copy of its
anchored node as it was when completed, and for a bad value if that node is not complete yet.
A document with no content at all is a bad value.
-/

namespace TrackerSearch.Yaml

/-- A YAML node: a scalar resolved to its value, a sequence or a mapping. -/
inductive Node where
  | real (text : String)
  | integer (value : Int)
  | string (text : String)
  | boolean (value : Bool)
  | array (items : List Node)
  | hash (entries : List (Node × Node))
  | null
  | badValue
  deriving BEq, Repr, Inhabited

/-- Reads an integer in a radix with an optional sign, if it fits in 64 bits. -/
def readRadix? (radix : Nat) (cs : List Char) : Option Int :=
  let (negative, digits) := match cs with
    | '-' :: rest => (true, rest)
    | '+' :: rest => (false, rest)
    | rest => (false, rest)
  let value? : Option Nat := digits.foldlM (fun n c =>
    let d := if c.isDigit then c.toNat - '0'.toNat
      else if 'a' ≤ c && c ≤ 'z' then c.toNat - 'a'.toNat + 10
      else if 'A' ≤ c && c ≤ 'Z' then c.toNat - 'A'.toNat + 10
      else radix
    if d < radix then some (radix * n + d) else none) 0
  match value? with
  | none => none
  | some n =>
    if digits.isEmpty then none
    else
      let v : Int := if negative then -(n : Int) else n
      if -Int.pow 2 63 ≤ v && v < Int.pow 2 63 then some v else none

/-- Whether a text reads as a double in YAML. -/
def isRealText (v : String) : Bool :=
  [".inf", ".Inf", ".INF", "+.inf", "+.Inf", "+.INF", "-.inf", "-.Inf", "-.INF",
    ".nan", "NaN", ".NAN"].contains v || (Decimal.readFloat? v).isSome

/-- The value of an untagged plain scalar. -/
def ofPlain (v : String) : Node :=
  let cs := v.toList
  let prefixed : Option Int :=
    match cs with
    | '0' :: 'x' :: rest => readRadix? 16 rest
    | '0' :: 'o' :: rest => readRadix? 8 rest
    | '+' :: rest => readRadix? 10 rest
    | _ => none
  match prefixed with
  | some i => .integer i
  | none =>
    if v == "~" || v == "null" then .null
    else if v == "true" then .boolean true
    else if v == "false" then .boolean false
    else match readRadix? 10 cs with
      | some i => .integer i
      | none => if isRealText v then .real v else .string v

/-- The value of a scalar with its style and tag. -/
def ofScalar (v : String) (style : ScalarStyle) (tag : Option Tag) : Node :=
  if style != .plain then .string v
  else match tag with
    | some t =>
      if t.handle == "tag:yaml.org,2002:" then
        if t.suffix == "bool" then
          if v == "true" then .boolean true else if v == "false" then .boolean false else .badValue
        else if t.suffix == "int" then
          match readRadix? 10 v.toList with
          | some i => .integer i
          | none => .badValue
        else if t.suffix == "float" then
          if isRealText v then .real v else .badValue
        else if t.suffix == "null" then
          if v == "~" || v == "null" then .null else .badValue
        else .string v
      else .string v
    | none => ofPlain v

mutual

/-- How a node is shown in a message: its kind, then its contents in brackets, text quoted. -/
def Node.debug : Node → String
  | .real text => "Real(" ++ Text.debugQuote text ++ ")"
  | .integer value => "Integer(" ++ toString value ++ ")"
  | .string text => "String(" ++ Text.debugQuote text ++ ")"
  | .boolean value => "Boolean(" ++ toString value ++ ")"
  | .array items => "Array([" ++ Node.debugItems items ++ "])"
  | .hash entries => "Hash(\x7b" ++ Node.debugEntries entries ++ "\x7d)"
  | .null => "Null"
  | .badValue => "BadValue"

/-- Nodes shown and parted by commas. -/
def Node.debugItems : List Node → String
  | [] => ""
  | [x] => x.debug
  | x :: rest => x.debug ++ ", " ++ Node.debugItems rest

/-- Pairs of nodes shown as key and value, parted by commas. -/
def Node.debugEntries : List (Node × Node) → String
  | [] => ""
  | [(k, v)] => k.debug ++ ": " ++ v.debug
  | (k, v) :: rest => k.debug ++ ": " ++ v.debug ++ ", " ++ Node.debugEntries rest

end

/-- Documents under construction: the finished ones, the open collections innermost first
with their anchors, the pending key of each open mapping (a bad value while none), the
completed anchored nodes, and the first repeated key found. -/
structure Loader where
  docs : List Node := []
  stack : List (Node × Nat) := []
  keys : List Node := []
  anchors : List (Nat × Node) := []
  error : Option ScanError := none

namespace Loader

/-- Adds a completed node, which ends at a position, to the innermost open collection, or
makes it the document. The value of a key that the mapping already has is an error. -/
def insertNode (l : Loader) (node : Node) (anchor : Nat) (m : Mark) : Loader :=
  let l := if anchor > 0 then { l with anchors := (anchor, node) :: l.anchors } else l
  match l.stack with
  | [] => { l with stack := [(node, anchor)] }
  | (.array items, a) :: rest => { l with stack := (.array (items ++ [node]), a) :: rest }
  | (.hash entries, a) :: rest =>
    match l.keys with
    | .badValue :: ks => { l with keys := node :: ks }
    | k :: ks =>
      if entries.any (·.1 == k) then
        { l with keys := .badValue :: ks, error := some ⟨m, k.debug ++ ": duplicated key in mapping"⟩ }
      else { l with keys := .badValue :: ks, stack := (.hash (entries ++ [(k, node)]), a) :: rest }
    | [] => l
  | _ :: _ => l

/-- Takes in one event and where it ends; after an error, nothing more. -/
def onEvent (l : Loader) (ev : Event) (m : Mark) : Loader :=
  if l.error.isSome then l else
  match ev with
  | .documentEnd =>
    match l.stack with
    | [] => { l with docs := l.docs ++ [.badValue] }
    | [(node, _)] => { l with docs := l.docs ++ [node], stack := [] }
    | _ => l
  | .sequenceStart a _ => { l with stack := (.array [], a) :: l.stack }
  | .mappingStart a _ => { l with stack := (.hash [], a) :: l.stack, keys := .badValue :: l.keys }
  | .sequenceEnd =>
    match l.stack with
    | (node, a) :: rest => { l with stack := rest }.insertNode node a m
    | [] => l
  | .mappingEnd =>
    match l.stack with
    | (node, a) :: rest => { l with stack := rest, keys := l.keys.tail }.insertNode node a m
    | [] => l
  | .scalar v style a tag => l.insertNode (ofScalar v style tag) a m
  | .alias id => l.insertNode ((l.anchors.lookup id).getD .badValue) 0 m
  | _ => l

end Loader

/-- Feeds events to the loader until the end of the stream. -/
def loadEvents : Nat → Parser → Loader → Except ScanError Loader
  | 0, _, l => .ok l
  | n + 1, p, l =>
    match Parser.nextEvent.run p with
    | .error e => .error e
    | .ok ((ev, m), p') =>
      if ev == .streamEnd then .ok l else loadEvents n p' (l.onEvent ev m)

/-- The documents of a text, or the first syntax error, or else the first repeated key. Each
event takes at most a few tokens and each token at most a few characters, so the number of
events is bounded by a multiple of the length. -/
def loadAll (text : String) : Except ScanError (List Node) := do
  let l ← loadEvents (16 * (text.length + 4)) (Parser.ofString text) {}
  match l.error with
  | some e => throw e
  | none => return l.docs

end TrackerSearch.Yaml
