import TrackerSearch.Model.Uuid
import TrackerSearch.Model.Time
import TrackerSearch.Json.Value

/-!
Work items and their types.

Types form a tree, recorded in each type's path: the labels of its ancestors and its own,
joined by dots, a label being the type's identifier as 32 hexadecimal digits. A type extends
its parent's fields, and a type lies below another when its path is the other's or continues
it after a dot.

A stored row becomes a work item through its type: the row must be of that type, its
identifier may not be negative, and every required field must hold a value other than null.
The work item's fields are the stored ones with `system.order` set to the row's execution
order.
-/

namespace TrackerSearch

/-- Field values of a work item, by field name. -/
abbrev Fields := List (String × Json)

/-- Well-known field names. -/
def systemTitle : String := "system.title"

/-- The description field. -/
def systemDescription : String := "system.description"

/-- The field holding the position of a work item in its space. -/
def systemOrder : String := "system.order"

/-- A work item as stored. -/
structure WorkItemRow where
  id : Int
  typeId : Uuid
  version : Int := 0
  fields : Fields := []
  executionOrder : Float := 0
  spaceId : Uuid := Uuid.nil
  createdAt : Instant := ⟨0⟩
  updatedAt : Instant := ⟨0⟩

/-- A work item. -/
structure WorkItem where
  id : Nat
  typeId : Uuid
  spaceId : Uuid
  version : Int
  fields : Fields
  createdAt : Instant
  updatedAt : Instant

namespace WorkItem

/-- The JSON form of a work item, its keys in byte order; an instant that has no RFC 3339
text makes it fail. -/
def toJson? (w : WorkItem) : Except Instant.FormatError Json := do
  let created ← w.createdAt.rfc3339?
  let updated ← w.updatedAt.rfc3339?
  return .obj [("createdAt", .str created), ("fields", .obj w.fields), ("id", .num (.nat w.id)),
    ("spaceId", .str w.spaceId.hyphenated), ("typeId", .str w.typeId.hyphenated),
    ("updatedAt", .str updated), ("version", Json.ofInt w.version)]

/-- The title, when it is text. -/
def title (w : WorkItem) : Option String :=
  (w.fields.lookup systemTitle).bind Json.str?

/-- The position in the space, when it is a number. -/
def order (w : WorkItem) : Option Float :=
  (w.fields.lookup systemOrder).bind fun
    | .num n => some n.toFloat
    | _ => none

end WorkItem

/-- The definition of a field of a work item type. -/
structure FieldDefinition where
  required : Bool := false
  label : Option String := none
  deriving DecidableEq, Repr

/-- A work item type. -/
structure WorkItemType where
  id : Uuid
  name : String
  path : String
  fields : List (String × FieldDefinition) := []

namespace WorkItemType

/-- The path label of a type identifier. -/
def pathLabel (id : Uuid) : String := id.simple

/-- A type at the root of the tree. -/
def root (id : Uuid) (name : String) : WorkItemType :=
  { id := id, name := name, path := pathLabel id }

/-- A type below `parent`, with the parent's fields. -/
def extending (parent : WorkItemType) (id : Uuid) (name : String) : WorkItemType :=
  { id := id, name := name, path := parent.path ++ "." ++ pathLabel id, fields := parent.fields }

/-- Adds a field, replacing one of the same name. -/
def withField (t : WorkItemType) (name : String) (d : FieldDefinition) : WorkItemType :=
  if t.fields.any (·.1 == name) then
    { t with fields := t.fields.map fun (n, d') => if n == name then (n, d) else (n, d') }
  else { t with fields := t.fields ++ [(name, d)] }

/-- Whether this type is `ancestor` or lies below it. -/
def isDescendantOrSelf (t ancestor : WorkItemType) : Bool :=
  t.path == ancestor.path || t.path.startsWith (ancestor.path ++ ".")

/-- Turns a stored row of this type into a work item, or says why it cannot. -/
def convert (t : WorkItemType) (row : WorkItemRow) : Except String WorkItem := do
  if row.typeId != t.id then
    throw s!"work item {row.id} has type {row.typeId.hyphenated} but was converted with type {t.id.hyphenated}"
  if row.id < 0 then
    throw s!"work item ID {row.id} is negative"
  let id := row.id.toNat
  for (name, d) in t.fields do
    let missing := match row.fields.lookup name with
      | some v => v.isNull
      | none => true
    if d.required && missing then
      throw s!"work item {id} of type '{t.name}' is missing required field '{name}'"
  return { id := id, typeId := row.typeId, spaceId := row.spaceId, version := row.version,
           fields := Json.setMember systemOrder (.ofFloat row.executionOrder) row.fields,
           createdAt := row.createdAt, updatedAt := row.updatedAt }

/-- A type as declared; its parent, when it has one, is declared before it. -/
structure Declaration where
  id : Uuid
  name : String := ""
  parent : Option Uuid := none
  fields : List (String × FieldDefinition) := []
  /-- A path that replaces the one the tree gives. -/
  path : Option String := none

/-- Builds declared types in order: below the first earlier type with the parent's
identifier, or at the root; then the fields are added and the path replaced. -/
def declareAll (decls : List Declaration) : List WorkItemType :=
  decls.foldl (fun built d =>
    let base := match d.parent.bind fun p => built.find? (·.id == p) with
      | some parent => extending parent d.id d.name
      | none => root d.id d.name
    let withFields := d.fields.foldl (fun t (n, f) => t.withField n f) base
    built ++ [match d.path with
      | some p => { withFields with path := p }
      | none => withFields]) []

end WorkItemType

end TrackerSearch
