import TrackerSearch.Config.Decode
import TrackerSearch.Config.DotEnv
import TrackerSearch.Config.Environment
import TrackerSearch.Json.Read
import TrackerSearch.Toml.Read
import TrackerSearch.Ini.Read

/-!
Where settings come from: YAML text, YAML files, and environment variables.

A YAML source holds at most one document, whose root must be a mapping; an empty text is an
empty mapping. Problems with a file are reported with its path relative to the working
directory.

The service reads, in order: `config/base.yaml`, then `config/<environment>.yaml` for the
environment named by `APP_ENVIRONMENT` (`local` when unset), then every variable whose name
starts with `TRACKER_` in any case, named in lowercase without the prefix and with `__` for a
dot. An environment file `.env` in the working directory sets the variables it names that are
not set yet, before anything is read. A file is looked up by its exact path, then with a
further extension of a known format; a file found with `.json` is read as JSON, whose root
must be an object, and whose syntax errors give their line and column; one found with `.toml`
is read as TOML, whose errors show the line they are on; one found with `.ini` is read as INI,
every value a string, each section a table of its own, and a later section or key of the same
name replacing an earlier one.
-/

namespace TrackerSearch.Config

/-- Why settings could not be read. -/
inductive ReadError where
  /-- The configuration is missing, malformed or of the wrong shape. -/
  | config (e : ConfigError)
  /-- `APP_ENVIRONMENT` names no environment. -/
  | environment
  /-- A YAML mapping has a key that is neither text nor an integer. -/
  | unsupportedKey

/-- The message of a read error. -/
def ReadError.message : ReadError → String
  | .config e => e.render
  | .environment => "Failed to parse APP_ENVIRONMENT: " ++ Environment.unknownMessage
  | .unsupportedKey => YamlProblem.unsupportedKey.message

/-- How the table of a source names a root that is not a table. -/
def rootUnexpected : Kind → Unexpected
  | .nil => .unit
  | .boolean b => .bool b
  | .int i => .int i
  | .float x => .float x
  | .string s => .str s
  | .table _ => .map
  | .array _ => .seq

/-- The entries of a YAML source with the given path. -/
def yamlEntries (uri : Option String) (text : String) :
    Except ReadError (List (String × Value)) :=
  match Yaml.loadAll text with
  | .error e => .error (.config (.fileParse uri e.message))
  | .ok docs =>
    if docs.length > 1 then
      .error (.config (.fileParse uri ("Got " ++ toString docs.length ++ " YAML documents, expected 1")))
    else
      match ofYaml uri (docs.headD (.hash [])) with
      | .error .unsupportedKey => .error .unsupportedKey
      | .error p => .error (.config (.fileParse uri p.message))
      | .ok v =>
        match v.kind with
        | .table es => .ok es
        | k => .error (.config (.fileParse uri (ConfigError.type uri (rootUnexpected k) "a map" none).render))

/-- The entries of a JSON source with the given path. -/
def jsonEntries (uri : Option String) (text : String) : Except ReadError (List (String × Value)) :=
  match Json.parse text with
  | .error e => .error (.config (.fileParse uri e.message))
  | .ok j =>
    match (ofJson uri j).kind with
    | .table es => .ok es
    | k => .error (.config (.fileParse uri (ConfigError.type uri (rootUnexpected k) "a map" none).render))

/-- The entries of a TOML source with the given path. -/
def tomlEntries (uri : Option String) (text : String) : Except ReadError (List (String × Value)) :=
  match Toml.parse text with
  | .error e => .error (.config (.fileParse uri (e.render text)))
  | .ok v =>
    match (ofToml uri v).kind with
    | .table es => .ok es
    | k => .error (.config (.fileParse uri (ConfigError.type uri (rootUnexpected k) "a map" none).render))

/-- The entries of an INI source with the given path. -/
def iniEntries (uri : Option String) (text : String) : Except ReadError (List (String × Value)) :=
  match Ini.parse text with
  | .error e => .error (.config (.fileParse uri e.render))
  | .ok sections =>
    let put := fun (t : List (String × Value)) ((k, v) : String × String) =>
      setEntry k (.mk uri (.string v)) t
    .ok (sections.foldl (fun acc (name, pairs) =>
      match name with
      | none => pairs.foldl put acc
      | some n => setEntry n (.mk uri (.table (pairs.foldl put []))) acc) [])

/-- Settings from YAML text alone. -/
def settingsOfYaml (text : String) : Except ReadError Settings := do
  let entries ← yamlEntries none text
  (decodeSettings (layer [entries])).mapError .config

/-- The formats a settings file can be written in. -/
inductive Format where
  | yaml
  | json
  | toml
  | ini
  deriving DecidableEq, Repr

/-- The entries of a source in a format. -/
def Format.entries : Format → Option String → String → Except ReadError (List (String × Value))
  | .yaml => yamlEntries
  | .json => jsonEntries
  | .toml => tomlEntries
  | .ini => iniEntries

/-- The further extensions a file is looked up with, in the order they are tried, and the
format the file is then read in. -/
def fallbackExtensions : List (String × Format) :=
  [("json", .json), ("yaml", .yaml), ("yml", .yaml), ("toml", .toml), ("ini", .ini)]

/-- The entries of a file among the given ones, found by its path or with a further
extension; `dir` is how the working directory is written in the message for a missing file. -/
def fileEntries (files : List (String × String)) (dir path : String) :
    Except ReadError (List (String × Value)) :=
  let candidates := (path, Format.yaml) :: fallbackExtensions.map fun (ext, f) => (path ++ "." ++ ext, f)
  match candidates.find? (fun (p, _) => (files.lookup p).isSome) with
  | some (p, f) => f.entries (some p) ((files.lookup p).getD "")
  | none => .error (.config (.foreign ("configuration file \"" ++ dir ++ "/" ++ path ++ "\" not found")))

/-- The prefix of the service's variables, in lowercase with its separator. -/
def variablePrefix : String := "tracker_"

/-- The entries of the service's environment variables, in the order the variables are set;
a later variable for the same key wins. -/
def environmentEntries (env : List (String × String)) : List (String × Value) :=
  env.foldl (fun acc (name, value) =>
    let key := Unicode.lowercase name
    if key.startsWith variablePrefix then
      let key := (String.ofList (key.toList.drop variablePrefix.length)).replace "__" "."
      setEntry key (.mk (some "the environment") (.string value)) acc
    else acc) []

/-- Reads the service's settings from the files of the working directory and the environment
variables, given in the order they are set. -/
def readSettings (files : List (String × String)) (env : List (String × String)) (dir : String) :
    Except ReadError Settings := do
  let env := match files.lookup ".env" with
    | some text => DotEnv.load text env
    | none => env
  let some environment := Environment.parse? ((env.lookup "APP_ENVIRONMENT").getD "local")
    | throw .environment
  let base ← fileEntries files dir "config/base.yaml"
  let specific ← fileEntries files dir ("config/" ++ environment.name ++ ".yaml")
  (decodeSettings (layer [base, specific, environmentEntries env])).mapError .config

end TrackerSearch.Config
