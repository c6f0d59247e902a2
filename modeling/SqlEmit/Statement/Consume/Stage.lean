import SqlEmit.ColumnType
import SqlEmit.SelectSql
import SqlEmit.Statement.Consume.Plan

/-! Stages of a destructive read. A first stage selects and locks the rows, a DELETE removes them and
hands their columns on, and a last select restores the order. -/
namespace SqlEmit.Consume

/-- Columns read back from a stage, one per line. -/
def readBack (stage : String) (columns : List String) : Sql :=
  Sql.join ",\n" (columns.map fun column => Sql.code (stage ++ "." ++ column))

/-- `left.k = right.k` for every key. -/
def keyMatch (left right : String) (keys : List String) : String :=
  " AND ".intercalate (keys.map fun key => left ++ "." ++ key ++ " = " ++ right ++ "." ++ key)

def SortKey.text (stage : String) (key : SortKey) : String :=
  stage ++ "." ++ key.name ++ if key.descending then " DESC" else " ASC"

def sortText (stage : String) (keys : List SortKey) : String :=
  ", ".intercalate (keys.map (SortKey.text stage))

/-- The select that gives the caller the removed rows in order. -/
structure FinalSelect where
  stage : String
  /-- The stage as FROM names it. -/
  source : String
  columns : List String
  intoTable : Option String
  order : List SortKey
  deriving DecidableEq

def FinalSelect.sql (dialect : Dialect) (final : FinalSelect) : Sql :=
  Sql.code "\nSELECT\n" ++ readBack final.stage final.columns ++
    Sql.clause ("\n" ++ dialect.intoKeyword ++ " ") (final.intoTable.map Sql.code) ++
    Sql.code ("\nFROM " ++ final.source) ++
    Sql.code (if final.order.isEmpty then "" else "\nORDER BY\n" ++ sortText final.stage final.order) ++
    Sql.code ";"

/-- The table variable that holds removed rows until they are sorted. -/
def resultTable : String := "@consume_result"

inductive Destination where
  | caller
  /-- A table variable that is declared with these columns. -/
  | table (declared : String) (columns : List ColumnDefinition) (name : String)
  /-- To the caller, through a table variable that restores the order. -/
  | sorted (columns : List ColumnDefinition) (final : FinalSelect)
  deriving DecidableEq

namespace Destination

def declaration : Destination → Sql
  | .caller => Sql.empty
  | .table declared columns _ => Sql.code ("DECLARE " ++ declared ++ " AS TABLE (\n" ++
    ",\n".intercalate (columns.map ColumnDefinition.text) ++ ");\n")
  | .sorted columns _ => Sql.code ("DECLARE " ++ resultTable ++ " TABLE (" ++
    ", ".intercalate (columns.map ColumnDefinition.text) ++ ");\n")

def intoClause : Destination → Sql
  | .caller => Sql.empty
  | .table _ _ name => Sql.code ("\nINTO " ++ name)
  | .sorted _ _ => Sql.code ("\nINTO " ++ resultTable)

def ending (dialect : Dialect) : Destination → Sql
  | .sorted _ final => final.sql dialect
  | _ => Sql.empty

end Destination

/-- How MS-SQL removes the selected rows. -/
inductive Removal where
  /-- Through the stage itself. -/
  | direct
  /-- From the table, joined to the stage on its keys. -/
  | joined (qualifier : String) (table : String) (keys : List String)
  deriving DecidableEq

namespace Removal

def stage : Removal → String
  | .direct => "queue"
  | .joined .. => "changes"

/-- What the output columns are read from. -/
def image : Removal → String
  | .direct => "deleted"
  | .joined .. => "changes"

def target : Removal → String
  | .direct => "queue"
  | .joined qualifier _ _ => qualifier

def source : Removal → Sql
  | .direct => Sql.empty
  | .joined qualifier table keys =>
    Sql.code ("\nFROM " ++ table ++ " INNER JOIN changes ON (" ++ keyMatch qualifier "changes" keys ++ ")")

end Removal

inductive Returning where
  /-- Columns of the removed rows. -/
  | columns (items : List Item)
  /-- Columns of the stage that selected them. -/
  | readBack (columns : List String)
  deriving DecidableEq

/-- The names of the stages: that of the selected rows, that of the removed ones, and the table
inside the DELETE. -/
structure StageNames where
  rows : String
  removed : String
  target : String
  deriving DecidableEq

def Returning.sql (stage : String) : Returning → Sql
  | .columns items => Sql.join ",\n" (items.map Item.sql)
  | .readBack names => Consume.readBack stage names

inductive StagedDelete where
  | sqlServer (rows : SelectSql) (removal : Removal) (output : List String)
    (destination : Destination)
  | postgres (names : StageNames) (rows : SelectSql) (table : String) (keys : List String)
    (returning : Returning) (final : FinalSelect)
  deriving DecidableEq

namespace StagedDelete

def rows : StagedDelete → SelectSql
  | .sqlServer rows .. => rows
  | .postgres _ rows .. => rows

def final? : StagedDelete → Option FinalSelect
  | .sqlServer _ _ _ (.sorted _ final) => some final
  | .sqlServer .. => none
  | .postgres _ _ _ _ _ final => some final

def sql : StagedDelete → Sql
  | .sqlServer rows removal output destination =>
    destination.declaration ++ Sql.code ("WITH " ++ removal.stage ++ " AS\n") ++
      (rows.sql .sqlServer).parens ++ Sql.code ("\nDELETE " ++ removal.target ++ "\nOUTPUT\n") ++
      readBack removal.image output ++ destination.intoClause ++ removal.source ++ Sql.code ";" ++
      destination.ending .sqlServer
  | .postgres names rows table keys returning final =>
    let delete := Sql.code ("DELETE FROM " ++ table ++ " AS " ++ names.target ++ " USING " ++ names.rows ++
      "\nWHERE " ++ keyMatch names.target names.rows keys ++ "\nRETURNING\n") ++ returning.sql names.rows
    Sql.code ("WITH " ++ names.rows ++ " AS\n") ++ (rows.sql .postgres).parens ++
      Sql.code (",\n" ++ names.removed ++ " AS\n") ++ delete.parens ++ final.sql .postgres

end StagedDelete

end SqlEmit.Consume
