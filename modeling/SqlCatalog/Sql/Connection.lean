-- SUMMARY: Connection strings.

/-!
# Connections

The parameters of a database connection and the string that carries them.
-/

namespace SqlCatalog.Sql

structure Connection where
  host : String
  port : UInt16
  user : String
  password : String
  database : Option String
deriving DecidableEq, Repr

namespace Connection

/-- An empty database name counts as none. -/
def databaseText : Option String → String
  | none => ""
  | some name => if name = "" then "" else "dbname=" ++ name ++ " "

def render (c : Connection) : String :=
  "host=" ++ c.host ++ " port=" ++ toString c.port.toNat ++ " user=" ++ c.user ++
    " password=" ++ c.password ++ " " ++ databaseText c.database ++ "sslmode=disable"

end Connection

end SqlCatalog.Sql
