import TrackerSearch.Store.WorkItems
import TrackerSearch.Store.Types
import TrackerSearch.Search.Service
import TrackerSearch.Config.Settings

/-!
The service assembled from its settings: a pool for the configured database, the work item
store and the type repository on it, the known URLs, built-in ones first and then the
configured ones in order, and the search settings. Assembling reaches no database; it fails
only on a configured pattern that does not compile, and stops at the first.

Searches share one type cache. Migrations run their statements in order on the pool and stop
at the first failure.
-/

namespace TrackerSearch

/-- What a database-backed search changes: the cache of loaded types, and what the server
saw. -/
abbrev DatabaseM := StateT TypeCache (StateM Sql.Trace)

/-- The collaborators of a search backed by a database. -/
def databaseBackend (store : DatabaseStore) (types : TypeRepository) : Backend DatabaseM where
  search q := return { result := ← store.search q }
  descendantsOrSelf ids :=
    return (← types.descendantIds ids).mapError RepositoryError.toSearchError
  convert row := types.convert row

/-- Why the service cannot start or set up its database. -/
inductive StartupError where
  | knownUrl (e : InvalidPattern)
  | migration (e : Sql.Error)

/-- The message of a startup error. -/
def StartupError.message : StartupError → String
  | .knownUrl e => "Failed to register known URL: " ++ e.message
  | .migration e => "Failed to run migrations: while executing migrations: " ++ e.message

/-- The built-in known URLs followed by the configured ones. -/
def buildKnownUrlRegistry (s : SearchSettings) : Except InvalidPattern Registry :=
  s.knownUrls.foldlM (fun r k => r.register k.name k.pattern) Registry.withDefaults

/-- The schema of work items and their types. -/
def schemaScript : String :=
  "CREATE EXTENSION IF NOT EXISTS ltree;\n" ++
  "\n" ++
  "CREATE TABLE IF NOT EXISTS work_item_types (\n" ++
  "    id UUID PRIMARY KEY,\n" ++
  "    name TEXT NOT NULL,\n" ++
  "    path LTREE NOT NULL,\n" ++
  "    fields JSONB NOT NULL DEFAULT '\x7b\x7d'::jsonb,\n" ++
  "    created_at TIMESTAMPTZ NOT NULL DEFAULT now(),\n" ++
  "    updated_at TIMESTAMPTZ NOT NULL DEFAULT now(),\n" ++
  "    deleted_at TIMESTAMPTZ\n" ++
  ");\n" ++
  "\n" ++
  "CREATE INDEX IF NOT EXISTS work_item_types_path_idx ON work_item_types USING GIST (path);\n" ++
  "\n" ++
  "CREATE TABLE IF NOT EXISTS work_items (\n" ++
  "    id BIGSERIAL PRIMARY KEY,\n" ++
  "    type UUID NOT NULL REFERENCES work_item_types (id),\n" ++
  "    version INTEGER NOT NULL DEFAULT 0,\n" ++
  "    fields JSONB NOT NULL DEFAULT '\x7b\x7d'::jsonb,\n" ++
  "    execution_order DOUBLE PRECISION NOT NULL DEFAULT 0,\n" ++
  "    space_id UUID NOT NULL,\n" ++
  "    created_at TIMESTAMPTZ NOT NULL DEFAULT now(),\n" ++
  "    updated_at TIMESTAMPTZ NOT NULL DEFAULT now(),\n" ++
  "    deleted_at TIMESTAMPTZ,\n" ++
  "    -- search.text_search_config must name the configuration used for title and description\n" ++
  "    tsv TSVECTOR GENERATED ALWAYS AS (\n" ++
  "        setweight(to_tsvector('simple'::regconfig, id::text), 'A') ||\n" ++
  "        setweight(to_tsvector('english'::regconfig, coalesce(fields->>'system.title', '')), 'B') ||\n" ++
  "        setweight(to_tsvector('english'::regconfig, coalesce(fields->>'system.description', '')), 'C')\n" ++
  "    ) STORED\n" ++
  ");\n" ++
  "\n" ++
  "CREATE INDEX IF NOT EXISTS work_items_tsv_idx ON work_items USING GIN (tsv);\n" ++
  "CREATE INDEX IF NOT EXISTS work_items_space_id_idx ON work_items (space_id);\n" ++
  "CREATE INDEX IF NOT EXISTS work_items_updated_at_idx ON work_items (updated_at DESC);\n"

/-- The statements that set up the database: the migrator first asks which database it is
in, then the schema is created. -/
def migrationStatements : List Sql.Statement :=
  [⟨"SELECT current_database()", []⟩, ⟨schemaScript, []⟩]

/-- The assembled service. -/
structure AppState where
  pool : Sql.Pool
  registry : Registry
  config : SearchConfig
  store : DatabaseStore
  types : TypeRepository

namespace AppState

/-- Assembles the service on a pool. -/
def withPool (pool : Sql.Pool) (s : SearchSettings) : Except StartupError AppState := do
  let registry ← (buildKnownUrlRegistry s).mapError .knownUrl
  return { pool := pool, registry := registry, config := { queryTimeoutMs := s.queryTimeoutMs },
           store := { pool := pool, textSearchConfig := s.textSearchConfig },
           types := { pool := pool } }

/-- Assembles the service for the configured database on a network. -/
def new (network : Sql.Network) (settings : Settings) : Except StartupError AppState :=
  withPool { network := network, options := settings.database.withDb } settings.search

/-- The collaborators of the service's searches. -/
def backend (a : AppState) : Backend DatabaseM :=
  databaseBackend a.store a.types

/-- Runs a search string, with an optional offset, limit and space. -/
def search (a : AppState) (raw : String) (offset limit : Option Int) (space : Option String) :
    DatabaseM (Except SearchError ResultPage) :=
  searchFullText a.backend a.config a.registry raw offset limit space

/-- Adds a known URL to the service's registry. -/
def registerKnownUrl (a : AppState) (name pattern : String) : Except InvalidPattern AppState := do
  return { a with registry := ← a.registry.register name pattern }

/-- Runs statements in order, stopping at the first failure. -/
def runAll {m : Type → Type} [Monad m] [MonadStateOf Sql.Trace m] (pool : Sql.Pool) :
    List Sql.Statement → m (Except Sql.Error Unit)
  | [] => return .ok ()
  | st :: rest => do
    match ← pool.run st with
    | .error e => return .error e
    | .ok _ => runAll pool rest

/-- Sets up the database. -/
def runMigrations {m : Type → Type} [Monad m] [MonadStateOf Sql.Trace m] (a : AppState) :
    m (Except StartupError Unit) := do
  return (← runAll a.pool migrationStatements).mapError .migration

end AppState

end TrackerSearch
