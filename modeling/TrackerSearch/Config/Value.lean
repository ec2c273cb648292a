import TrackerSearch.Yaml.Load
import TrackerSearch.Json.Value
import TrackerSearch.Toml.Value

/-!
Layered configuration values.

Every value remembers where it came from: a file's path relative to the working directory,
`the environment`, or nothing for text given directly and for the tables made while layering.

Sources are layered in order into one table. Each top-level key of a source is read as a path
(`a.b` for a key of a table, `a[2]` for an entry of an array, a negative index counting from
the end); a key that is not a path stands for itself. Setting a table at a path merges it key
by key into what is there, replacing anything that is not a table, unless the table is empty,
which leaves what is there as it is; setting anything else replaces what is there. Arrays grow
with empty values to reach an index.
-/

namespace TrackerSearch.Config

mutual
/-- A configuration value and where it came from. -/
inductive Value where
  | mk (origin : Option String) (kind : Kind)

/-- What a configuration value holds. -/
inductive Kind where
  | nil
  | boolean (b : Bool)
  | int (i : Int)
  | float (x : Float)
  | string (s : String)
  | table (entries : List (String × Value))
  | array (items : List Value)
end

namespace Value

/-- Where a value came from. -/
def origin : Value → Option String
  | .mk o _ => o

/-- What a value holds. -/
def kind : Value → Kind
  | .mk _ k => k

/-- An empty table of no origin. -/
def emptyTable : Value := .mk none (.table [])

/-- An empty value of no origin. -/
def nil : Value := .mk none .nil

end Value

/-- Sets an entry of a table, keeping the position of an existing key. -/
def setEntry (k : String) (v : Value) : List (String × Value) → List (String × Value)
  | [] => [(k, v)]
  | (k', v') :: rest => if k' == k then (k, v) :: rest else (k', v') :: setEntry k v rest

/-- Why a YAML document is not a configuration. -/
inductive YamlProblem where
  /-- A real's text does not read as a double. -/
  | badFloat (text : String)
  /-- A mapping key is neither a string nor an integer. -/
  | unsupportedKey
  deriving DecidableEq, Repr

/-- The message of a YAML problem. -/
def YamlProblem.message : YamlProblem → String
  | .badFloat t => "Parsing " ++ t ++ " as floating point number failed"
  | .unsupportedKey => "internal error: entered unreachable code"

mutual
/-- A YAML value as a configuration value of the given origin; a mapping's entries are
converted in order, each key before its value. -/
def ofYaml (origin : Option String) : Yaml.Node → Except YamlProblem Value
  | .string s => .ok (.mk origin (.string s))
  | .real t =>
    match Decimal.readFloat? t with
    | some x => .ok (.mk origin (.float x))
    | none => .error (.badFloat t)
  | .integer i => .ok (.mk origin (.int i))
  | .boolean b => .ok (.mk origin (.boolean b))
  | .hash entries => do
    let es ← ofYamlEntries origin entries []
    return .mk origin (.table es)
  | .array items => do
    let vs ← ofYamlItems origin items
    return .mk origin (.array vs)
  | .null => .ok (.mk origin .nil)
  | .badValue => .ok (.mk origin .nil)

/-- Converts the entries of a mapping. -/
def ofYamlEntries (origin : Option String) :
    List (Yaml.Node × Yaml.Node) → List (String × Value) → Except YamlProblem (List (String × Value))
  | [], acc => .ok acc
  | (k, v) :: rest, acc => do
    let key ← match k with
      | .string s => pure s
      | .integer i => pure (toString i)
      | _ => throw .unsupportedKey
    let value ← ofYaml origin v
    ofYamlEntries origin rest (setEntry key value acc)

/-- Converts the items of a sequence. -/
def ofYamlItems (origin : Option String) : List Yaml.Node → Except YamlProblem (List Value)
  | [] => .ok []
  | v :: rest => do
    let x ← ofYaml origin v
    let xs ← ofYamlItems origin rest
    return x :: xs
end

mutual
/-- A JSON value as a configuration value of the given origin: a number that is an integer
fitting a signed 64-bit word is an integer, any other number a double, and null nothing. -/
def ofJson (origin : Option String) : Json → Value
  | .null => .mk origin .nil
  | .bool b => .mk origin (.boolean b)
  | .num n =>
    match n.toInt? with
    | some i => .mk origin (.int i)
    | none => .mk origin (.float n.toFloat)
  | .str s => .mk origin (.string s)
  | .arr items => .mk origin (.array (ofJsonItems origin items))
  | .obj members => .mk origin (.table (ofJsonMembers origin members))

/-- Converts the items of an array. -/
def ofJsonItems (origin : Option String) : List Json → List Value
  | [] => []
  | j :: rest => ofJson origin j :: ofJsonItems origin rest

/-- Converts the members of an object. -/
def ofJsonMembers (origin : Option String) : List (String × Json) → List (String × Value)
  | [] => []
  | (k, j) :: rest => (k, ofJson origin j) :: ofJsonMembers origin rest
end

mutual
/-- A TOML value as a configuration value of the given origin: a date or time becomes its
text, an array of tables an array. -/
def ofToml (origin : Option String) : Toml.Value → Value
  | .string s => .mk origin (.string s)
  | .integer i => .mk origin (.int i)
  | .float x => .mk origin (.float x)
  | .boolean b => .mk origin (.boolean b)
  | .datetime d => .mk origin (.string d.render)
  | .array items => .mk origin (.array (ofTomlItems origin items))
  | .table entries => .mk origin (.table (ofTomlEntries origin entries))

/-- Converts the items of a TOML array. -/
def ofTomlItems (origin : Option String) : List Toml.Value → List Value
  | [] => []
  | v :: rest => ofToml origin v :: ofTomlItems origin rest

/-- Converts the entries of a TOML table. -/
def ofTomlEntries (origin : Option String) : List (String × Toml.Value) → List (String × Value)
  | [] => []
  | (k, v) :: rest => (k, ofToml origin v) :: ofTomlEntries origin rest
end

/-- A path into nested tables and arrays. -/
inductive Path where
  | ident (name : String)
  | child (parent : Path) (key : String)
  | subscript (parent : Path) (index : Int)
  deriving DecidableEq, Repr

namespace Path

/-- Whether a character may appear in a path segment: ASCII letters and digits, space, `_`
and `-`. -/
def isSegmentChar (c : Char) : Bool :=
  (c.isAlphanum && c.toNat < 128) || c == ' ' || c == '_' || c == '-'

/-- Reads a subscript's index, with blanks around it, up to the closing bracket. -/
def readIndex (cs : List Char) : Option (Int × List Char) :=
  let cs := cs.dropWhile (fun c => c == ' ' || c == '\t')
  let (negative, cs) := match cs with
    | '-' :: rest => (true, rest)
    | rest => (false, rest)
  let digits := cs.takeWhile Char.isDigit
  let rest := (cs.dropWhile Char.isDigit).dropWhile (fun c => c == ' ' || c == '\t')
  if digits.isEmpty then none
  else
    let n : Nat := digits.foldl (fun n c => 10 * n + (c.toNat - '0'.toNat)) 0
    let v : Int := if negative then -(n : Int) else n
    if -Int.pow 2 63 ≤ v && v < Int.pow 2 63 then
      match rest with
      | ']' :: rest => some (v, rest)
      | _ => none
    else none

/-- Reads the segments after the first. -/
def readPostfix : Nat → Path → List Char → Option Path
  | 0, _, _ => none
  | _ + 1, p, [] => some p
  | n + 1, p, '.' :: rest =>
    let seg := rest.takeWhile isSegmentChar
    if seg.isEmpty then none
    else readPostfix n (.child p (String.ofList seg)) (rest.drop seg.length)
  | n + 1, p, '[' :: rest =>
    match readIndex rest with
    | some (i, rest) => readPostfix n (.subscript p i) rest
    | none => none
  | _ + 1, _, _ => none

/-- Reads a path; `none` when the text is not one. -/
def parse (text : String) : Option Path :=
  let cs := text.toList
  let first := cs.takeWhile isSegmentChar
  if first.isEmpty then none
  else readPostfix (cs.length + 1) (.ident (String.ofList first)) (cs.drop first.length)

end Path

/-- The position an index denotes in an array of some length: a negative index counts from
the end, stopping at the start. -/
def slotOf (index : Int) (len : Nat) : Nat :=
  if index ≥ 0 then index.toNat else len - index.natAbs

/-- Replaces an item of a list, growing it with empty values to reach the position. -/
def setItem (i : Nat) (v : Value) (items : List Value) : List Value :=
  let grown := if i < items.length then items else items ++ List.replicate (i + 1 - items.length) Value.nil
  grown.set i v

mutual
/-- Sets a key of a table to a value; a table value is merged key by key into what is there.
A value that is not a table is replaced by an empty one first. -/
def setKey (root : Value) (key : String) (v : Value) : Value :=
  let (origin, entries) := match root with
    | .mk o (.table es) => (o, es)
    | _ => (none, [])
  match v with
  | .mk _ (.table incoming) =>
    let target := (entries.lookup key).getD Value.emptyTable
    .mk origin (.table (setEntry key (mergeInto target incoming) entries))
  | _ => .mk origin (.table (setEntry key v entries))

/-- Merges entries into a value, in order. -/
def mergeInto (target : Value) : List (String × Value) → Value
  | [] => target
  | (k, x) :: rest => mergeInto (setKey target k x) rest
end

/-- Applies a change to the value at a path, creating the tables, arrays and empty values on
the way; a table or array is made where something else stands in the way. -/
def Path.modify (f : Value → Value) : Path → Value → Value
  | .ident name, root =>
    match root with
    | .mk o (.table es) => .mk o (.table (setEntry name (f ((es.lookup name).getD Value.nil)) es))
    | _ => root
  | .child parent key, root =>
    parent.modify (fun v =>
      let (o, es) := match v with
        | .mk o (.table es) => (o, es)
        | _ => (none, [])
      .mk o (.table (setEntry key (f ((es.lookup key).getD Value.nil)) es))) root
  | .subscript parent index, root =>
    parent.modify (fun v =>
      let (o, items) := match v with
        | .mk o (.array items) => (o, items)
        | _ => (none, [])
      let i := slotOf index items.length
      let current := items.getD i Value.nil
      .mk o (.array (setItem i (f current) items))) root

/-- Sets the value at a path. -/
def Path.set (p : Path) (v : Value) (root : Value) : Value :=
  match p with
  | .ident name => setKey root name v
  | .child parent key => parent.modify (fun t => setKey t key v) root
  | .subscript parent index =>
    parent.modify (fun a =>
      let (o, items) := match a with
        | .mk o (.array items) => (o, items)
        | _ => (none, [])
      .mk o (.array (setItem (slotOf index items.length) v items))) root

/-- Layers one top-level entry of a source into the table built so far. -/
def layerEntry (root : Value) (key : String) (v : Value) : Value :=
  ((Path.parse key).getD (.ident key)).set v root

/-- Layers the entries of sources, in order, into an empty table. -/
def layer (sources : List (List (String × Value))) : Value :=
  sources.foldl (fun root entries => entries.foldl (fun r (k, v) => layerEntry r k v) root)
    Value.emptyTable

end TrackerSearch.Config
