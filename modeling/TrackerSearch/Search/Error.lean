/-!
Errors of a search: a request parameter with a bad value, a stored row that cannot become a
work item, and a failure of a collaborator (the store, the type catalog).
-/

namespace TrackerSearch

/-- Why a search has no answer. -/
inductive SearchError where
  /-- A parameter of the request has a value that is not accepted. -/
  | badParameter (parameter value : String)
  /-- A stored row does not convert to a work item. -/
  | conversion (text : String)
  /-- A collaborator failed. -/
  | internal (text : String)
  deriving DecidableEq, Repr

namespace SearchError

/-- The message of a search error. -/
def message : SearchError → String
  | .badParameter p v => "Bad value for parameter '" ++ p ++ "': '" ++ v ++ "'"
  | .conversion t => "Conversion error: " ++ t
  | .internal t => "Internal error: " ++ t

end SearchError

end TrackerSearch
