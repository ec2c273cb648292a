import TrackerSearch.Store.Database
import TrackerSearch.Search.Store

/-!
Work items searched in the database. A compiled expression is matched against the stored
text-search vector of every item that is not deleted; matches are ranked and ordered by rank
and then by last update, newest first. The number of matches comes with every row from a
window over the whole result, so it is read from the first row, and an empty page counts
zero, as does a negative count.

The type scope, the space, the offset and the limit join the statement only when the query
has them, each bound as the next numbered parameter. A failed round trip or a row that does
not decode fails the search as an internal error.
-/

namespace TrackerSearch

/-- The text search configuration used when none is set. -/
def defaultTextSearchConfig : String := "english"

/-- Work items in a database, matched under a text search configuration. -/
structure DatabaseStore where
  pool : Sql.Pool
  textSearchConfig : String := defaultTextSearchConfig

namespace DatabaseStore

/-- The text the search statement starts with. -/
def selectText : String :=
  "SELECT count(*) OVER () AS total_count,\n            wi.id, wi.type, wi.version, " ++
  "wi.fields, wi.execution_order,\n            wi.space_id, wi.created_at, wi.updated_at\n" ++
  "        FROM work_items wi, to_tsquery("

/-- Appends a clause and a parameter when there is a value for it. -/
def clause {α : Type} (st : Sql.Statement) (text : String) (value : Option α)
    (bind : α → Sql.Value) : Sql.Statement :=
  match value with
  | some v => (st.push text).bind (bind v)
  | none => st

/-- The statement that searches for a query under a configuration. -/
def statement (config : String) (q : StoreQuery) : Sql.Statement :=
  let st : Sql.Statement := ⟨selectText, []⟩
  let st := (((st.bind (.text config)).push "::regconfig, ").bind (.text q.expression)).push
    ") AS query, ts_rank(wi.tsv, query) AS rank"
  let st := st.push " WHERE wi.tsv @@ query AND wi.deleted_at IS NULL"
  let st := match q.typeScope with
    | some scope => ((st.push " AND wi.type = ANY(").bind (.uuids scope)).push ")"
    | none => st
  let st := clause st " AND wi.space_id = " q.spaceId .uuid
  let st := st.push " ORDER BY rank DESC, wi.updated_at DESC"
  let st := clause st " OFFSET " q.pagination.offset .int
  clause st " LIMIT " q.pagination.limit .int

/-- The fields column, which must hold an object. -/
def fieldsColumn (row : Sql.Row) : Except Sql.Error Fields := do
  match ← Sql.jsonColumn row "fields" with
  | .obj ms => return ms
  | other => throw (.decode "fields" (Sql.invalidJson other "a map"))

/-- A returned row: the count of matches it carries and the stored work item, its columns read
in order. -/
def decodeRow (row : Sql.Row) : Except Sql.Error (Int × WorkItemRow) := do
  let total ← Sql.intColumn row "total_count"
  let id ← Sql.intColumn row "id"
  let typeId ← Sql.uuidColumn row "type"
  let version ← Sql.intColumn row "version"
  let fields ← fieldsColumn row
  let order ← Sql.floatColumn row "execution_order"
  let spaceId ← Sql.uuidColumn row "space_id"
  let createdAt ← Sql.instantColumn row "created_at"
  let updatedAt ← Sql.instantColumn row "updated_at"
  let item : WorkItemRow :=
    { id := id, typeId := typeId, version := version, fields := fields,
      executionOrder := order, spaceId := spaceId, createdAt := createdAt,
      updatedAt := updatedAt }
  return (total, item)

/-- The page a search statement's rows make. -/
def pageOf (rows : List (Int × WorkItemRow)) : StorePage :=
  { rows := rows.map (·.2),
    totalCount := match rows with
      | (count, _) :: _ => count.toNat
      | [] => 0 }

/-- Runs a query. -/
def search {m : Type → Type} [Monad m] [MonadStateOf Sql.Trace m] (s : DatabaseStore)
    (q : StoreQuery) : m (Except SearchError StorePage) := do
  match ← s.pool.run (statement s.textSearchConfig q) with
  | .error e => return .error (.internal e.message)
  | .ok rows =>
    match rows.mapM decodeRow with
    | .error e => return .error (.internal e.message)
    | .ok decoded => return .ok (pageOf decoded)

end DatabaseStore

end TrackerSearch
