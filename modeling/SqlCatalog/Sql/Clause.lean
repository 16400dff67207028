-- SUMMARY: Quoted names and literals, column lists and orderings as SQL text.
import SqlCatalog.Query

/-!
# Clauses

Parts that several statements share. An identifier stands between double quotes
and a string literal between single quotes; the enclosing character is doubled
inside, and nothing else is changed.
-/

namespace SqlCatalog.Sql

/-! ## Quoting -/

def doubled (mark : Char) (cs : List Char) : List Char :=
  cs.flatMap fun c => if c = mark then [mark, mark] else [c]

def enclosed (mark : Char) (text : String) : String :=
  String.ofList (mark :: (doubled mark text.toList ++ [mark]))

def identifier (name : String) : String := enclosed '\x22' name

def literal (text : String) : String := enclosed '\x27' text

/-! ## Lists -/

def columnList (columns : List String) : String :=
  ",".intercalate (columns.map identifier)

def sortText (key : SortKey) : String :=
  identifier key.column ++ (if key.ascending then " ASC" else " DESC")

def orderList (orders : List SortKey) : String :=
  ", ".intercalate (orders.map sortText)

end SqlCatalog.Sql
