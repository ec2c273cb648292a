/-!
Database settings and the connection options built from them. A connection requires TLS
when the settings ask for it and otherwise prefers it; the options for administrative
work name no database.
-/

namespace TrackerSearch

/-- How to reach the database. -/
structure DatabaseSettings where
  username : String := "postgres"
  password : String := "password"
  port : Nat := 5432
  host : String := "localhost"
  databaseName : String := "tracker"
  requireSsl : Bool := false
  deriving DecidableEq, Repr

/-- Whether a connection must use TLS or only prefers it. -/
inductive SslMode where
  | require
  | prefer
  deriving DecidableEq, Repr

/-- The name of a TLS mode. -/
def SslMode.name : SslMode → String
  | .require => "Require"
  | .prefer => "Prefer"

/-- Options of one connection. -/
structure ConnectOptions where
  host : String
  port : Nat
  username : String
  password : String
  database : Option String
  sslMode : SslMode
  deriving DecidableEq, Repr

namespace DatabaseSettings

/-- Options that name no database. -/
def withoutDb (s : DatabaseSettings) : ConnectOptions :=
  { host := s.host, port := s.port, username := s.username, password := s.password,
    database := none, sslMode := if s.requireSsl then .require else .prefer }

/-- Options for the configured database. -/
def withDb (s : DatabaseSettings) : ConnectOptions :=
  { s.withoutDb with database := some s.databaseName }

end DatabaseSettings

end TrackerSearch
