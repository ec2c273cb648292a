/-!
The environment a deployment runs in, named by `local` or `production`. A name matches
when it equals one of them up to the case of ASCII letters; nothing is trimmed.
-/

namespace TrackerSearch

/-- Where the service runs. -/
inductive Environment where
  | localMachine
  | production
  deriving DecidableEq, Repr

namespace Environment

/-- The name of an environment, also the stem of its configuration file. -/
def name : Environment → String
  | .localMachine => "local"
  | .production => "production"

/-- The message for a name that matches no environment. -/
def unknownMessage : String := "Matching variant not found"

/-- Lowercases ASCII letters only. -/
def asciiLower (s : String) : String :=
  String.ofList (s.toList.map Char.toLower)

/-- The environment a name denotes. -/
def parse? (s : String) : Option Environment :=
  let t := asciiLower s
  if t == "local" then some .localMachine
  else if t == "production" then some .production
  else none

end Environment

end TrackerSearch
