-- SUMMARY: Statements about whole databases and about the metadata table.
import SqlCatalog.Sql.Clause
import SqlCatalog.Sql.Storage

/-!
# Databases and metadata

Databases are looked up, created and dropped by name. The metadata table holds
one document per service.
-/

namespace SqlCatalog.Sql

inductive DatabaseCommand where
  | exists_ (database : String)
  | create (database : String)
  | drop (database : String)
  | createMetadata
  | readMetadata
  | insertMetadata (id document : String)
  | updateMetadata (id document : String)
deriving DecidableEq, Repr

namespace DatabaseCommand

def render : DatabaseCommand → String
  | .exists_ database => "SELECT 1 FROM pg_database WHERE datname = " ++ literal database ++ ";"
  | .create database => "CREATE DATABASE " ++ identifier database ++ ";"
  | .drop database => "DROP DATABASE " ++ identifier database ++ ";"
  | .createMetadata =>
    "CREATE TABLE IF NOT EXISTS " ++ identifier metaTable ++ " (" ++ identifier idColumn ++
      " text NOT NULL PRIMARY KEY, " ++ identifier "meta" ++ " text);"
  | .readMetadata =>
    "SELECT " ++ identifier "meta" ++ " FROM " ++ identifier metaTable ++ " WHERE " ++
      identifier idColumn ++ " = $1;"
  | .insertMetadata id document =>
    "INSERT INTO " ++ identifier metaTable ++ " (" ++ identifier idColumn ++ ", " ++
      identifier "meta" ++ ") VALUES (" ++ literal id ++ ", " ++ literal document ++ ");"
  | .updateMetadata id document =>
    "UPDATE " ++ identifier metaTable ++ " SET " ++ identifier "meta" ++ " = " ++
      literal document ++ " WHERE " ++ identifier idColumn ++ " = " ++ literal id ++ ";"

end DatabaseCommand

end SqlCatalog.Sql
