import SqlEmit.Binding
import SqlEmit.Script.Expr
import SqlEmit.Sql

/-! Entries of a select list with the names under which they leave it, and written queries: their clauses are SQL
text, their structure is still there. -/
namespace SqlEmit

inductive Item where
  /-- A physical column. -/
  | column (name : String) (asName : Option String)
  /-- A physical column as `mvarchar`. -/
  | characters (name : String) (asName : Option String)
  | computed (sql : Sql) (asName : Option String)
  deriving DecidableEq

namespace Item

/-- Whether a type holds characters that PostgreSQL compares byte by byte. -/
def isCharacterType (typeName : Option String) : Bool :=
  typeName.any fun name => "char".toList.isPrefixOf name.toList || "text".toList.isPrefixOf name.toList

/-- A physical column under its output name. The alias is left out where it repeats the name of the
column; a cast column has no name of its own and keeps it. -/
def ofPhysical (dialect : Dialect) (column : PhysicalColumn) : Item :=
  let asName := givenName column.asName
  if dialect = .postgres ∧ isCharacterType column.typeName then .characters column.name asName
  else .column column.name (asName.filter (· ≠ column.columnName))

def aliasText (asName : Option String) : Sql :=
  Sql.clause " AS " (asName.map Sql.code)

def sql : Item → Sql
  | .column name asName => Sql.code name ++ aliasText asName
  | .characters name asName => (Sql.code name).cast "mvarchar" ++ aliasText asName
  | .computed sql asName => sql ++ aliasText asName

/-- The name of the output column. A computed entry without an alias has none. -/
def name : Item → String
  | .column name asName => asName.getD (Text.unqualified name)
  | .characters name asName => asName.getD (Text.unqualified name)
  | .computed _ asName => asName.getD ""

def lineSql (items : List Item) : Sql :=
  Sql.join ", " (items.map Item.sql)

/-- A select list with one projected column per line. -/
def listSql (lines : List (List Item)) : Sql :=
  Sql.join ",\n" (lines.map lineSql)

end Item

structure KeySql where
  sql : Sql
  descending : Bool
  deriving DecidableEq

def KeySql.text (key : KeySql) : Sql :=
  key.sql ++ Sql.code (if key.descending then " DESC" else " ASC")

/-- A written ORDER BY. An item of the clause has one key for each of its columns. -/
structure SortSql where
  items : List (List KeySql)
  offset : Option Sql
  fetch : Option Sql
  deriving DecidableEq

namespace SortSql

def keyList (items : List (List KeySql)) : Sql :=
  Sql.join ", " (items.map fun keys => Sql.join ", " (keys.map KeySql.text))

def rows (keyword : String) (count : Option Sql) (ending : String) : Sql :=
  match count with
  | none => Sql.empty
  | some sql => Sql.code keyword ++ sql ++ Sql.code ending

def sql (order : SortSql) : Sql :=
  Sql.code "\nORDER BY\n" ++ keyList order.items ++ rows "\nOFFSET " order.offset " ROWS" ++
    rows "\nFETCH NEXT " order.fetch " ROWS ONLY"

end SortSql

/-- A written SELECT. `top` bounds the rows behind the keyword and `limit` at the end. -/
structure SelectSql where
  distinct : Bool
  top : Option Sql
  columns : List (List Item)
  intoTable : Option String
  source : Option Sql
  predicate : Option Sql
  grouping : List Sql
  having : Option Sql
  order : Option SortSql
  limit : Option Sql
  lock : Option String
  deriving DecidableEq

namespace SelectSql

def topSql : Option Sql → Sql
  | none => Sql.empty
  | some count => Sql.code " TOP " ++ count.parens

def groupingSql : List Sql → Sql
  | [] => Sql.empty
  | keys => Sql.code "\nGROUP BY\n" ++ Sql.join ",\n" keys

def lockSql : Option String → Sql
  | none => Sql.empty
  | some clause => Sql.code "\n" ++ Sql.ofPiece (.rowLock clause)

def sql (dialect : Dialect) (s : SelectSql) : Sql :=
  Sql.code (if s.distinct then "SELECT DISTINCT" else "SELECT") ++ topSql s.top ++ Sql.code "\n" ++
    Item.listSql s.columns ++
    Sql.clause ("\n" ++ dialect.intoKeyword ++ " ") (s.intoTable.map Sql.code) ++
    Sql.clause "\nFROM " s.source ++ Sql.clause "\nWHERE " s.predicate ++ groupingSql s.grouping ++
    Sql.clause "\nHAVING " s.having ++ Sql.clause "" (s.order.map SortSql.sql) ++
    Sql.clause "\nLIMIT " s.limit ++ lockSql s.lock

def names (s : SelectSql) : List String :=
  s.columns.flatten.map Item.name

end SelectSql

inductive QuerySql where
  | select (s : SelectSql)
  | union (all : Bool) (left right : QuerySql) (order : Option SortSql)
  deriving DecidableEq

namespace QuerySql

def unionText (all : Bool) : String :=
  if all then "\nUNION ALL\n" else "\nUNION\n"

def sql (dialect : Dialect) : QuerySql → Sql
  | .select s => s.sql dialect
  | .union all left right order =>
    left.sql dialect ++ Sql.code (unionText all) ++ right.sql dialect ++
      Sql.clause "" (order.map SortSql.sql)

def firstSelect : QuerySql → SelectSql
  | .select s => s
  | .union _ left _ _ => left.firstSelect

end QuerySql

end SqlEmit
