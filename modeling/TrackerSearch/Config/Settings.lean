import TrackerSearch.Config.Database

/-!
The settings of the service: how to reach the database, and how to search. Search settings
are optional as a whole and field by field: the text search configuration defaults to
`english`, there is no query timeout, and no known URLs beyond the built-in ones.
-/

namespace TrackerSearch

/-- A known URL pattern added by configuration. -/
structure KnownUrlSettings where
  name : String
  pattern : String
  deriving DecidableEq, Repr

/-- How searches run. -/
structure SearchSettings where
  /-- The configuration queries are read under; it must be the one the stored text-search
  vectors were made with. -/
  textSearchConfig : String := "english"
  /-- Milliseconds a query may take. -/
  queryTimeoutMs : Option Nat := none
  /-- Known URL patterns registered after the built-in ones. -/
  knownUrls : List KnownUrlSettings := []
  deriving DecidableEq, Repr

/-- All settings. -/
structure Settings where
  database : DatabaseSettings
  search : SearchSettings := {}
  deriving DecidableEq, Repr

end TrackerSearch
