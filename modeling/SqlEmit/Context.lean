import SqlEmit.Catalog
import SqlEmit.Emit
import SqlEmit.Script.Walk

/-! What a statement is written against: the backend, what identifiers denote, the columns and row
sets that the script defines, and changes that hold inside one statement. -/
namespace SqlEmit

structure Context where
  dialect : Dialect
  bindings : Bindings
  metadata : Metadata
  registry : Registry
  yearOffset : Int32
  /-- Projected columns of the script by id. -/
  columns : Dict NodeId Projected
  /-- Named row sets of the script by lower-case name. -/
  tables : Dict String Query
  /-- Locking hints of the statement by table reference. -/
  hints : Dict NodeId String
  /-- Column mappings that replace the recorded ones inside the statement. -/
  overrides : Dict NodeId (List PhysicalColumn)
  /-- New identifiers, by the call that asks for one. -/
  fresh : NodeId → Uuid

namespace Context

def ofStatements (dialect : Dialect) (bindings : Bindings) (metadata : Metadata)
    (registry : Registry) (yearOffset : Int32) (fresh : NodeId → Uuid)
    (statements : List Statement) : Context where
  dialect
  bindings
  metadata
  registry
  yearOffset
  columns := columnIndex statements
  tables := tableIndex statements
  hints := Dict.empty
  overrides := Dict.empty
  fresh

def binding? (cx : Context) (id : NodeId) : Option Binding :=
  cx.bindings.binding? id

/-- The physical columns of a reference. Changes of the statement come before what is recorded. -/
def mapping? (cx : Context) (id : NodeId) : Option (List PhysicalColumn) :=
  (cx.overrides.find? id).or (cx.bindings.mapping? id)

/-- A mapping with at least one column. -/
def columns? (cx : Context) (id : NodeId) : Option (List PhysicalColumn) :=
  (cx.mapping? id).filter (!·.isEmpty)

def referenceMapping? (cx : Context) : Expr → Option (List PhysicalColumn)
  | .column ref => cx.mapping? ref.id
  | _ => none

/-- What a table reference denotes; a reference without a binding is looked up in the metadata. -/
def tableBinding? (cx : Context) (table : TableRef) : Option Binding :=
  (cx.binding? table.id).or (cx.metadata.resolve table.identifier)

/-- The projected column that defines a computed column. -/
def definition? (cx : Context) (id : NodeId) : Option Projected :=
  cx.columns.find? id

/-- The query behind a common table expression, table variable or temporary table. -/
def namedQuery? (cx : Context) (name : String) : Option Query :=
  cx.tables.find? (Text.lower name)

def hint? (cx : Context) (table : NodeId) : Option String :=
  cx.hints.find? table

def withHint (cx : Context) (table : NodeId) (hint : String) : Context :=
  { cx with hints := cx.hints.insert table hint }

def withMapping (cx : Context) (id : NodeId) (mapping : List PhysicalColumn) : Context :=
  { cx with overrides := cx.overrides.insert id mapping }

def withMappings (cx : Context) (mappings : List (NodeId × List PhysicalColumn)) : Context :=
  { cx with overrides := cx.overrides.insertAll mappings }

/-- The context without the changes of a statement. -/
def settled (cx : Context) : Context :=
  { cx with hints := Dict.empty, overrides := Dict.empty }

def scope (cx : Context) : Scope where
  dialect := cx.dialect
  bindings := cx.bindings
  metadata := cx.metadata
  yearOffset := cx.yearOffset
  hints := cx.hints
  overrides := cx.overrides

def identityIndex? (cx : Context) (tableName : String) : Option Index :=
  Index.identity? (cx.metadata.indexesOf (Text.lower tableName))

def tableName (cx : Context) (table : TableRef) : Except Error String :=
  match cx.tableBinding? table with
  | some (.entity entity) => .ok entity.tableName
  | some .tableVariable => .ok (cx.dialect.tableVariableName table.identifier)
  | some .temporaryTable => .ok (cx.dialect.temporaryTableName table.identifier)
  | some (.userDefinedType name) => .ok (cx.dialect.userTypeSource name table.identifier)
  | some .commonTable | some .derivedTable => .ok table.identifier
  | _ => .error (.tableUnresolved table.id table.identifier)

/-- The name that a table has inside the statement: its alias, or the written identifier when a
local table has another physical name. -/
def tableAlias (cx : Context) (table : TableRef) (name : String) : Option String :=
  match givenName table.asName with
  | some given => some given
  | none =>
    match cx.tableBinding? table with
    | some .tableVariable | some .temporaryTable =>
      if name = table.identifier then none else some table.identifier
    | _ => none

/-- A table as a source of rows, with its alias and locking hint. -/
def tableSource (cx : Context) (table : TableRef) : Except Error Sql := do
  let name ← cx.tableName table
  return .ofPiece (.table name (cx.tableAlias table name) (cx.hint? table.id))

def targetName (cx : Context) (target : TableRef) (keyword : String) : Except Error String :=
  match cx.tableBinding? target with
  | some .commonTable => .error (.cteTarget target.id keyword)
  | some _ => cx.tableName target
  | none => .error (.targetMissing target.id)

end Context

end SqlEmit
