import TrackerSearch.Config.Value
import TrackerSearch.Config.Settings
import TrackerSearch.Text.Debug
import TrackerSearch.Unicode.Case

/-!
Settings read from a layered configuration table.

Scalars convert loosely. A boolean may be written as `true`, `on`, `yes` or `1` and their
opposites, in any case, or as a number, nonzero meaning true. An unsigned integer may be
written as a decimal text, as `true`, `on`, `yes` (one) or `false`, `off`, `no` (zero), as
a boolean, or as a float, rounded and clamped; a negative integer is refused. Text may be
written as any scalar, a float in its plain decimal form. The port is read from its text as a
decimal number below 65536, with an optional `+`.

Structures may be written as tables, with unknown keys ignored, or as arrays of their fields
in order. A field missing from a table is an error unless it has a default; so is a field
missing from the end of an array.

A value of the wrong type is reported with the path of keys leading to it, array positions
written as `[i]` right after the key, and with the value's origin; errors about a structure
as a whole carry neither.
-/

namespace TrackerSearch.Config

/-- A value that was not what was expected, as the layered table names it. -/
inductive Unexpected where
  | bool (b : Bool)
  | int (i : Int)
  | float (x : Float)
  | str (s : String)
  | unit
  | seq
  | map

/-- How the layered table names an unexpected value. -/
def Unexpected.render : Unexpected → String
  | .bool b => "boolean `" ++ toString b ++ "`"
  | .int i => "64-bit integer `" ++ toString i ++ "`"
  | .float x => "floating point `" ++ Decimal.plainText x ++ "`"
  | .str s => "string " ++ Text.debugQuote s
  | .unit => "unit value"
  | .seq => "sequence"
  | .map => "map"

/-- Why a configuration cannot be read. -/
inductive ConfigError where
  /-- A value of the wrong type, with the path to it and its origin. -/
  | type (origin : Option String) (unexpected : Unexpected) (expected : String) (key : Option String)
  /-- A value or structure that could not be decoded. -/
  | message (text : String)
  /-- A source that could not be read. -/
  | foreign (text : String)
  /-- A source that could not be parsed, and its path. -/
  | fileParse (uri : Option String) (cause : String)

namespace ConfigError

/-- The message of a configuration error. -/
def render : ConfigError → String
  | .type origin u expected key =>
    "invalid type: " ++ u.render ++ ", expected " ++ expected ++
      (match key with
        | some k => " for key `" ++ k ++ "`"
        | none => "") ++
      (match origin with
        | some o => " in " ++ o
        | none => "")
  | .message t => t
  | .foreign t => t
  | .fileParse uri cause =>
    cause ++ (match uri with
      | some u => " in " ++ u
      | none => "")

/-- Puts a segment in front of the key of a type error; a dot separates it from a key that
does not start with a bracket. -/
def prepend (segment : String) (addDot : Bool) : ConfigError → ConfigError
  | .type o u e key =>
    let k := key.getD ""
    let dot := if addDot && !k.isEmpty && !k.startsWith "[" then "." else ""
    .type o u e (some (segment ++ dot ++ k))
  | other => other

/-- Puts a key in front of the key of a type error. -/
def prependKey (key : String) (e : ConfigError) : ConfigError := e.prepend key true

/-- Puts an array position in front of the key of a type error. -/
def prependIndex (i : Nat) (e : ConfigError) : ConfigError :=
  e.prepend ("[" ++ toString i ++ "]") false

end ConfigError

/-- How a decoder names a value it did not expect. -/
def describeValue : Kind → String
  | .nil => "unit value"
  | .boolean b => "boolean `" ++ toString b ++ "`"
  | .int i => "integer `" ++ toString i ++ "`"
  | .float x => "floating point `" ++ Decimal.pointedText x ++ "`"
  | .string s => "string " ++ Text.debugQuote s
  | .table _ => "map"
  | .array _ => "sequence"

/-- A decoder's complaint about a value of the wrong kind. -/
def invalidType (v : Value) (expected : String) : ConfigError :=
  .message ("invalid type: " ++ describeValue v.kind ++ ", expected " ++ expected)

/-- A value converted to text. -/
def intoString (v : Value) : Except ConfigError String :=
  match v.kind with
  | .string s => .ok s
  | .boolean b => .ok (toString b)
  | .int i => .ok (toString i)
  | .float x => .ok (Decimal.plainText x)
  | .nil => .error (.type v.origin .unit "a string" none)
  | .table _ => .error (.type v.origin .map "a string" none)
  | .array _ => .error (.type v.origin .seq "a string" none)

/-- A value converted to a boolean. -/
def intoBool (v : Value) : Except ConfigError Bool :=
  match v.kind with
  | .boolean b => .ok b
  | .int i => .ok (i != 0)
  | .float x => .ok (x != 0)
  | .string s =>
    let t := Unicode.lowercase s
    if t == "1" || t == "true" || t == "on" || t == "yes" then .ok true
    else if t == "0" || t == "false" || t == "off" || t == "no" then .ok false
    else .error (.type v.origin (.str t) "a boolean" none)
  | .nil => .error (.type v.origin .unit "a boolean" none)
  | .table _ => .error (.type v.origin .map "a boolean" none)
  | .array _ => .error (.type v.origin .seq "a boolean" none)

/-- Reads an unsigned decimal number below a bound, with an optional `+`. -/
def readUnsigned (bound : Nat) (s : String) : Except String Nat :=
  let cs := match s.toList with
    | '+' :: rest => rest
    | cs => cs
  if s.isEmpty then .error "cannot parse integer from empty string"
  else if cs.isEmpty || !cs.all Char.isDigit then .error "invalid digit found in string"
  else
    let n := cs.foldl (fun n c => 10 * n + (c.toNat - '0'.toNat)) 0
    if n < bound then .ok n else .error "number too large to fit in target type"

/-- A float rounded to the nearest integer, half away from zero, and clamped to the unsigned
64-bit range; NaN is zero. -/
def roundToWord (x : Float) : Nat :=
  if x.isNaN || x.round ≤ 0 then 0
  else if x.round ≥ 18446744073709551616.0 then Nat.pow 2 64 - 1
  else x.round.toUInt64.toNat

/-- A value converted to an unsigned 64-bit integer. -/
def intoUint (v : Value) : Except ConfigError Nat :=
  match v.kind with
  | .int i =>
    if i ≥ 0 then .ok i.toNat
    else .error (.type v.origin (.int i) "an unsigned 64 bit or less integer" none)
  | .string s =>
    let t := Unicode.lowercase s
    if t == "true" || t == "on" || t == "yes" then .ok 1
    else if t == "false" || t == "off" || t == "no" then .ok 0
    else match readUnsigned (Nat.pow 2 64) s with
      | .ok n => .ok n
      | .error _ => .error (.type v.origin (.str s) "an integer" none)
  | .boolean b => .ok (if b then 1 else 0)
  | .float x => .ok (roundToWord x)
  | .nil => .error (.type v.origin .unit "an integer" none)
  | .table _ => .error (.type v.origin .map "an integer" none)
  | .array _ => .error (.type v.origin .seq "an integer" none)

/-- A port, read from the value's text. -/
def intoPort (v : Value) : Except ConfigError Nat := do
  let s ← intoString v
  (readUnsigned 65536 s).mapError .message

/-- An optional value: empty is absent. -/
def intoOption {α : Type} (f : Value → Except ConfigError α) (v : Value) :
    Except ConfigError (Option α) :=
  match v.kind with
  | .nil => .ok none
  | _ => (f v).map some

/-- The field of a table with a name, decoded, its errors under the field's key. -/
def field? {α : Type} (entries : List (String × Value)) (name : String)
    (f : Value → Except ConfigError α) : Except ConfigError (Option α) :=
  match entries.lookup name with
  | some v => ((f v).mapError (·.prependKey name)).map some
  | none => .ok none

/-- The item of an array at a position, decoded, its errors under the position. -/
def item? {α : Type} (items : List Value) (i : Nat) (f : Value → Except ConfigError α) :
    Except ConfigError (Option α) :=
  match items[i]? with
  | some v => ((f v).mapError (·.prependIndex i)).map some
  | none => .ok none

/-- A field that must be present. -/
def required {α : Type} (name : String) : Option α → Except ConfigError α
  | some a => .ok a
  | none => .error (.message ("missing field `" ++ name ++ "`"))

/-- An array item that must be present. -/
def requiredItem {α : Type} (i : Nat) (expected : String) : Option α → Except ConfigError α
  | some a => .ok a
  | none => .error (.message ("invalid length " ++ toString i ++ ", expected " ++ expected))

/-- A structure from a table or an array; other values are refused. -/
def structure? {α : Type} (name : String) (v : Value)
    (fromTable : List (String × Value) → Except ConfigError α)
    (fromArray : List Value → Except ConfigError α) : Except ConfigError α :=
  match v.kind with
  | .table es => fromTable es
  | .array items => fromArray items
  | _ => .error (invalidType v ("struct " ++ name))

/-- The database settings. -/
def decodeDatabase (v : Value) : Except ConfigError DatabaseSettings :=
  structure? "DatabaseSettings" v
    (fun es => do
      let username ← field? es "username" intoString
      let password ← field? es "password" intoString
      let port ← field? es "port" intoPort
      let host ← field? es "host" intoString
      let databaseName ← field? es "database_name" intoString
      let requireSsl ← field? es "require_ssl" intoBool
      return { username := ← required "username" username,
               password := ← required "password" password,
               port := ← required "port" port,
               host := ← required "host" host,
               databaseName := ← required "database_name" databaseName,
               requireSsl := ← required "require_ssl" requireSsl })
    (fun items => do
      let expected := "struct DatabaseSettings with 6 elements"
      let username ← requiredItem 0 expected (← item? items 0 intoString)
      let password ← requiredItem 1 expected (← item? items 1 intoString)
      let port ← requiredItem 2 expected (← item? items 2 intoPort)
      let host ← requiredItem 3 expected (← item? items 3 intoString)
      let databaseName ← requiredItem 4 expected (← item? items 4 intoString)
      let requireSsl ← requiredItem 5 expected (← item? items 5 intoBool)
      return { username := username, password := password, port := port, host := host,
               databaseName := databaseName, requireSsl := requireSsl })

/-- A known URL setting. -/
def decodeKnownUrl (v : Value) : Except ConfigError KnownUrlSettings :=
  structure? "KnownUrlSettings" v
    (fun es => do
      let name ← field? es "name" intoString
      let pattern ← field? es "pattern" intoString
      return ⟨← required "name" name, ← required "pattern" pattern⟩)
    (fun items => do
      let expected := "struct KnownUrlSettings with 2 elements"
      let name ← requiredItem 0 expected (← item? items 0 intoString)
      let pattern ← requiredItem 1 expected (← item? items 1 intoString)
      return ⟨name, pattern⟩)

/-- Decodes the items of an array in order, each error under its position. -/
def decodeItems {α : Type} (f : Value → Except ConfigError α) :
    Nat → List Value → Except ConfigError (List α)
  | _, [] => .ok []
  | i, v :: rest => do
    let x ← (f v).mapError (·.prependIndex i)
    let xs ← decodeItems f (i + 1) rest
    return x :: xs

/-- A list of known URL settings, which must be an array. -/
def decodeKnownUrls (v : Value) : Except ConfigError (List KnownUrlSettings) :=
  match v.kind with
  | .array items => decodeItems decodeKnownUrl 0 items
  | _ => .error (invalidType v "a sequence")

/-- The search settings. -/
def decodeSearch (v : Value) : Except ConfigError SearchSettings :=
  let d : SearchSettings := {}
  structure? "SearchSettings" v
    (fun es => do
      let config ← field? es "text_search_config" intoString
      let timeout ← field? es "query_timeout_ms" (intoOption intoUint)
      let urls ← field? es "known_urls" decodeKnownUrls
      return { textSearchConfig := config.getD d.textSearchConfig,
               queryTimeoutMs := timeout.getD none, knownUrls := urls.getD [] })
    (fun items => do
      let config ← item? items 0 intoString
      let timeout ← item? items 1 (intoOption intoUint)
      let urls ← item? items 2 decodeKnownUrls
      return { textSearchConfig := config.getD d.textSearchConfig,
               queryTimeoutMs := timeout.getD none, knownUrls := urls.getD [] })

/-- All settings. -/
def decodeSettings (v : Value) : Except ConfigError Settings :=
  structure? "Settings" v
    (fun es => do
      let database ← field? es "database" decodeDatabase
      let search ← field? es "search" decodeSearch
      return { database := ← required "database" database, search := search.getD {} })
    (fun items => do
      let database ← requiredItem 0 "struct Settings with 2 elements" (← item? items 0 decodeDatabase)
      let search ← item? items 1 decodeSearch
      return { database := database, search := search.getD {} })

end TrackerSearch.Config
