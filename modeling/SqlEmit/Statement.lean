import SqlEmit.ColumnType
import SqlEmit.Emit.Query
import SqlEmit.Statement.Consume
import SqlEmit.Statement.Change
import SqlEmit.Statement.Sequence
import SqlEmit.Statement.Upsert
import SqlEmit.Statement.UserType

/-! The SQL of a statement. Queries whose rows are kept in a table variable or temporary table stand here too. -/
namespace SqlEmit

def SelectStatement.emit (cx : Context) (s : SelectStatement) : Emit Sql := do
  let ctes ← emitWith cx s.ctes "\n"
  return ctes ++ (← s.query.emit cx).sql cx.dialect ++ Sql.code ";"

def definitionList (columns : List ColumnDefinition) : String :=
  "(" ++ ", ".intercalate (columns.map ColumnDefinition.text) ++ ")"

/-- The name of a local table and the start of its MS-SQL declaration. -/
def localTable (cx : Context) (temporary : Bool) (name : String) : String × String :=
  if temporary then
    let name := cx.dialect.temporaryTableName name
    (name, "CREATE TABLE " ++ name)
  else
    let name := cx.dialect.tableVariableName name
    (name, "DECLARE " ++ name ++ " TABLE")

/-- MS-SQL declares the table and fills it; PostgreSQL creates it from the query. -/
def TableVariable.emit (cx : Context) (temporary : Bool) (s : TableVariable) : Emit Sql := do
  let query := (← s.query.emit cx).sql cx.dialect
  match cx.dialect with
  | .postgres => return Sql.code ("CREATE TEMPORARY TABLE " ++ s.name ++ " AS\n") ++ query ++ Sql.code ";"
  | .sqlServer =>
    let columns ← cx.tableDefinition s.query.firstSelect.columns
    let (name, declaration) := localTable cx temporary s.name
    return Sql.code (declaration ++ " " ++ definitionList columns ++ ";\nINSERT " ++ name ++ "\n") ++
      query ++ Sql.code ";"

/-- A declaration has no SQL, nor has a read that a stream processor takes over. -/
def Statement.emit (cx : Context) : Statement → Emit Sql
  | .declare _ => pure Sql.empty
  | .select s => s.emit cx
  | .insert s => s.emit cx
  | .update s => s.emit cx
  | .delete s => s.emit cx
  | .upsert s => s.emit cx
  | .consume s => s.emit cx
  | .tableVariable s => s.emit cx false
  | .temporaryTable s => s.emit cx true
  | .createType s => s.emit cx
  | .createSequence s => pure (s.emit cx.dialect)
  | .dropSequence s => pure s.emit
  | .applySequence s => s.emit cx
  | .revokeSequence s => s.emit cx

/-- The context as a statement leaves it, with the hints and mappings that it wrote its parts
against. -/
def Statement.changed (cx : Context) : Statement → Context
  | .update s => cx.dialect.pick (Output.images cx "inserted" s.output) cx
  | .delete s => cx.dialect.pick (Output.images cx "deleted" s.output) cx
  | .upsert s => s.changed cx
  | .consume s => s.changed cx
  | _ => cx

end SqlEmit
