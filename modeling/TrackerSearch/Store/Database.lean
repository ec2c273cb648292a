import TrackerSearch.Config.Database
import TrackerSearch.Model.WorkItem
import TrackerSearch.Decimal.Shortest
import TrackerSearch.Text.Debug

/-!
A database client: statements with bound parameters, the rows they return, and the errors a
round trip can end in.

A database is reached over a network. Either every connection attempt fails the same way,
as on a machine whose network cannot reach the server, or the server is reached and answers
each statement with rows or an error. Statements that reach the server are logged in the
order they run. Connections are made lazily: a request that runs no statement never
connects.
-/

namespace TrackerSearch.Sql

/-- A value of a parameter or a column. -/
inductive Value where
  | null
  | text (s : String)
  | int (i : Int)
  | float (x : Float)
  | bool (b : Bool)
  | uuid (u : Uuid)
  | uuids (us : List Uuid)
  | json (j : Json)
  | instant (t : Instant)

/-- A statement and its parameters, `$1` first. -/
structure Statement where
  sql : String
  params : List Value

namespace Statement

/-- Appends text to the statement. -/
def push (st : Statement) (text : String) : Statement :=
  { st with sql := st.sql ++ text }

/-- Binds a value as the next parameter, naming it in the text by its position. -/
def bind (st : Statement) (v : Value) : Statement :=
  { sql := st.sql ++ "$" ++ toString (st.params.length + 1), params := st.params ++ [v] }

end Statement

/-- A row of a result, by column name. -/
abbrev Row := List (String × Value)

/-- Why a round trip failed. -/
inductive Error where
  /-- The connection could not be made or broke. -/
  | io (detail : String)
  /-- The server refused the statement or the login. -/
  | database (message : String)
  /-- TLS could not be set up. -/
  | tls (detail : String)
  /-- A column of a returned row could not be read. -/
  | decode (column detail : String)
  deriving DecidableEq, Repr

/-- The message of an error. -/
def Error.message : Error → String
  | .io d => "error communicating with database: " ++ d
  | .database m => "error returned from database: " ++ m
  | .tls d => "error occurred while attempting to establish a TLS connection: " ++ d
  | .decode c d => "error occurred while decoding column \"" ++ c ++ "\": " ++ d

/-- A server's answers to statements. -/
abbrev Server := Statement → Except Error (List Row)

/-- What connecting with some options leads to: a server, or the error of the attempt. -/
abbrev Network := ConnectOptions → Except Error Server

/-- A network on which no route leads to the server: connecting fails at once. -/
def isolated : Network := fun _ => .error (.io "Network is unreachable (os error 101)")

/-- A pool of connections with fixed options over a network. -/
structure Pool where
  network : Network
  options : ConnectOptions

/-- What the server saw: the statements that reached it, in order, and the user and database
of each login. -/
structure Trace where
  statements : List Statement := []
  logins : List (String × String) := []

/-- A trace with one more login and statement. -/
def Trace.record (t : Trace) (login : String × String) (st : Statement) : Trace :=
  { statements := t.statements ++ [st], logins := t.logins ++ [login] }

/-- Runs a statement on a connection from the pool, tracing the login and the statement when
the server is reached. -/
def Pool.run {m : Type → Type} [Monad m] [MonadStateOf Trace m] (p : Pool) (st : Statement) :
    m (Except Error (List Row)) :=
  match p.network p.options with
  | .error e => return .error e
  | .ok server => do
    modifyThe Trace (·.record (p.options.username, p.options.database.getD "") st)
    return server st

/-- The message of a column that holds null where a value is needed. -/
def unexpectedNull : String := "unexpected null; try decoding as an `Option`"

/-- The value of a column of a row, refusing null. -/
def column (row : Row) (name : String) : Except Error Value :=
  match row.lookup name with
  | some .null | none => .error (.decode name unexpectedNull)
  | some v => .ok v

/-- An integer column. -/
def intColumn (row : Row) (name : String) : Except Error Int := do
  match ← column row name with
  | .int i => return i
  | _ => throw (.decode name "mismatched types")

/-- A floating-point column. -/
def floatColumn (row : Row) (name : String) : Except Error Float := do
  match ← column row name with
  | .float x => return x
  | .int i => return Float.ofInt i
  | _ => throw (.decode name "mismatched types")

/-- A text column. -/
def textColumn (row : Row) (name : String) : Except Error String := do
  match ← column row name with
  | .text s => return s
  | _ => throw (.decode name "mismatched types")

/-- An identifier column. -/
def uuidColumn (row : Row) (name : String) : Except Error Uuid := do
  match ← column row name with
  | .uuid u => return u
  | _ => throw (.decode name "mismatched types")

/-- An instant column. -/
def instantColumn (row : Row) (name : String) : Except Error Instant := do
  match ← column row name with
  | .instant t => return t
  | _ => throw (.decode name "mismatched types")

/-- A JSON column. -/
def jsonColumn (row : Row) (name : String) : Except Error Json := do
  match ← column row name with
  | .json j => return j
  | _ => throw (.decode name "mismatched types")

/-- How a JSON value is named in a message about a value of the wrong kind. -/
def describeJson : Json → String
  | .null => "null"
  | .bool b => "boolean `" ++ toString b ++ "`"
  | .num (.nat n) => "integer `" ++ toString n ++ "`"
  | .num (.neg n) => "integer `" ++ toString n ++ "`"
  | .num (.float x) => "floating point `" ++ Decimal.floatText x ++ "`"
  | .str s => "string " ++ Text.debugQuote s
  | .arr _ => "sequence"
  | .obj _ => "map"

/-- The message of a JSON value of the wrong kind. -/
def invalidJson (j : Json) (expected : String) : String :=
  "invalid type: " ++ describeJson j ++ ", expected " ++ expected

end TrackerSearch.Sql
