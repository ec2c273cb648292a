import TrackerSearch.Store.Database
import TrackerSearch.Search.Error
import TrackerSearch.Search.Query

/-!
Work item types in the database, where each type's path is a dotted list of the labels of its
ancestors and its own. A type is loaded by its identifier unless it is deleted, and a loaded
type is kept in a cache shared by every user of the repository until the cache is cleared;
a cached type is found again without a statement. The descendants of some types are the types
not deleted whose path has the path of one of them as a label-wise prefix.

Field definitions are stored as a JSON object from field name to definition; a definition is
an object with an optional boolean `required` and an optional text `label`, or the two as a
list in that order. The position suffix that a JSON reader adds to its messages is left out.
-/

namespace TrackerSearch

/-- Why the type repository has no answer. -/
inductive RepositoryError where
  | database (e : Sql.Error)
  | notFound (what : String)
  deriving DecidableEq, Repr

/-- The message of a repository error. -/
def RepositoryError.message : RepositoryError → String
  | .database e => "Database error: " ++ e.message
  | .notFound what => "Not found: " ++ what

/-- A repository error as a search sees it. -/
def RepositoryError.toSearchError (e : RepositoryError) : SearchError :=
  .internal e.message

/-- The loaded types, by the identifier they were loaded with, most recent first. -/
abbrev TypeCache := List (Uuid × WorkItemType)

/-- Work item types in a database. -/
structure TypeRepository where
  pool : Sql.Pool

namespace TypeRepository

/-- The statement that loads one type. -/
def loadStatement (id : Uuid) : Sql.Statement :=
  { sql := "\n            SELECT id, name, path::text AS path, fields\n" ++
      "            FROM work_item_types\n" ++
      "            WHERE id = $1 AND deleted_at IS NULL\n            ",
    params := [.uuid id] }

/-- The statement that finds the descendants of some types. -/
def descendantsStatement (ids : List Uuid) : Sql.Statement :=
  { sql := "\n            SELECT DISTINCT subtype.id\n" ++
      "            FROM work_item_types subtype\n" ++
      "            JOIN work_item_types supertype ON subtype.path <@ supertype.path\n" ++
      "            WHERE supertype.id = ANY($1)\n" ++
      "              AND subtype.deleted_at IS NULL\n            ",
    params := [.uuids ids] }

/-- Whether a field is required, from its stored value. -/
def readRequired : Json → Except String Bool
  | .bool b => .ok b
  | other => .error (Sql.invalidJson other "a boolean")

/-- The label of a field, from its stored value. -/
def readLabel : Json → Except String (Option String)
  | .null => .ok none
  | .str s => .ok (some s)
  | other => .error (Sql.invalidJson other "a string")

/-- A field definition from its stored value; keys other than `required` and `label` are
ignored, and a later key overrides an earlier one. -/
def readDefinition : Json → Except String FieldDefinition
  | .obj ms => ms.foldlM (fun (d : FieldDefinition) (k, v) =>
      if k == "required" then return { d with required := ← readRequired v }
      else if k == "label" then return { d with label := ← readLabel v }
      else return d) {}
  | .arr [] => .ok {}
  | .arr [r] => return { required := ← readRequired r }
  | .arr [r, l] => return { required := ← readRequired r, label := ← readLabel l }
  | .arr _ => .error "trailing characters"
  | other => .error (Sql.invalidJson other "struct FieldDefinition")

/-- Replaces the entry of a key, or appends one. -/
def setEntry {α : Type} (k : String) (v : α) : List (String × α) → List (String × α)
  | [] => [(k, v)]
  | (k', v') :: rest => if k' == k then (k, v) :: rest else (k', v') :: setEntry k v rest

/-- The field definitions of a type from their stored value. -/
def readFields : Json → Except String (List (String × FieldDefinition))
  | .obj ms => ms.foldlM (fun acc (k, v) => return setEntry k (← readDefinition v) acc) []
  | other => .error (Sql.invalidJson other "a map")

/-- A type from a returned row, its columns read in order. -/
def decodeRow (row : Sql.Row) : Except Sql.Error WorkItemType := do
  let id ← Sql.uuidColumn row "id"
  let name ← Sql.textColumn row "name"
  let path ← Sql.textColumn row "path"
  let fields ← Sql.jsonColumn row "fields"
  match readFields fields with
  | .ok fs => return { id := id, name := name, path := path, fields := fs }
  | .error e => throw (.decode "fields" e)

/-- Loads a type, from the cache when it is there. -/
def load {m : Type → Type} [Monad m] [MonadStateOf Sql.Trace m] [MonadStateOf TypeCache m]
    (r : TypeRepository) (id : Uuid) : m (Except RepositoryError WorkItemType) := do
  if let some t := (← getThe TypeCache).lookup id then return .ok t
  match ← r.pool.run (loadStatement id) with
  | .error e => return .error (.database e)
  | .ok [] => return .error (.notFound ("work item type " ++ id.hyphenated))
  | .ok (row :: _) =>
    match decodeRow row with
    | .error e => return .error (.database e)
    | .ok t =>
      modifyThe TypeCache ((id, t) :: ·)
      return .ok t

/-- The identifiers of the given types and of the types below them, ascending and without
repetition. -/
def descendantIds {m : Type → Type} [Monad m] [MonadStateOf Sql.Trace m]
    (r : TypeRepository) (ids : List Uuid) : m (Except RepositoryError (List Uuid)) := do
  match ← r.pool.run (descendantsStatement ids) with
  | .error e => return .error (.database e)
  | .ok rows =>
    match rows.mapM (Sql.uuidColumn · "id") with
    | .error e => return .error (.database e)
    | .ok found => return .ok (found.foldl (fun acc u => insertSorted u acc) [])

/-- Forgets every loaded type. -/
def clearCache {m : Type → Type} [MonadStateOf TypeCache m] : m Unit :=
  set ([] : TypeCache)

/-- Turns a stored row into a work item with its type, loading the type. -/
def convert {m : Type → Type} [Monad m] [MonadStateOf Sql.Trace m] [MonadStateOf TypeCache m]
    (r : TypeRepository) (row : WorkItemRow) : m (Except SearchError WorkItem) := do
  match ← r.load row.typeId with
  | .error e => return .error e.toSearchError
  | .ok t => return (t.convert row).mapError .conversion

end TypeRepository

end TrackerSearch
