import SqlEmit.Binding
import SqlEmit.Script.Expr

/-! Statements of a script. -/
namespace SqlEmit

/-- Declaration of a variable; it has no SQL of its own. -/
structure Declare where
  id : NodeId
  name : String
  typeName : Option String

structure SelectStatement where
  id : NodeId
  ctes : List Cte
  query : Query

/-- Rows of an INSERT. A bare query is emitted under the name `source`. -/
inductive InsertSource where
  | table (table : TableRef)
  | derived (derived : Derived)
  | query (query : Query)

structure Insert where
  id : NodeId
  ctes : List Cte
  target : TableRef
  source : InsertSource

/-- `column = value` of a SET clause. -/
structure Assignment where
  column : ColumnRef
  value : Expr

structure Output where
  columns : List Projected
  intoTable : Option TableRef

structure Update where
  id : NodeId
  ctes : List Cte
  target : TableRef
  assignments : List Assignment
  output : Option Output
  source : Option Source
  predicate : Option Expr
  hints : List String

structure Delete where
  id : NodeId
  ctes : List Cte
  target : TableRef
  output : Option Output
  source : Option Source
  predicate : Option Expr

/-- Updates the rows that the predicate matches and inserts the others. -/
structure Upsert where
  id : NodeId
  ctes : List Cte
  target : TableRef
  source : Option Source
  assignments : List Assignment
  predicate : Option Expr
  /-- Inserts missing rows only. -/
  ignoreUpdate : Bool

/-- Destructive read: takes up to `top` rows out of a table and returns their projection. -/
structure Consume where
  id : NodeId
  top : Option Expr
  columns : List Projected
  intoTable : Option TableRef
  source : Option Source
  predicate : Option Expr
  order : Option SortClause
  /-- Consumers wait for each other's rows instead of passing over them. -/
  strictOrder : Bool
  /-- A stream processor that takes the statement over. -/
  target : Option String

/-- Keeps the rows of a query in a table variable or temporary table. -/
structure TableVariable where
  id : NodeId
  name : String
  query : Query

/-- A type with its qualifiers: `number(10,2)`, `string(50)`. -/
structure TypeName where
  id : NodeId
  identifier : String
  qualifier1 : UInt32
  qualifier2 : UInt32
  deriving DecidableEq

structure TypeColumn where
  name : String
  dataType : TypeName
  deriving DecidableEq

structure CreateType where
  id : NodeId
  name : String
  columns : List TypeColumn
  deriving DecidableEq

structure CreateSequence where
  id : NodeId
  name : String
  dataType : Option TypeName
  startWith : Int64
  increment : Int64
  cacheSize : Int64
  deriving DecidableEq

structure DropSequence where
  id : NodeId
  name : String
  deriving DecidableEq

/-- Fills a column from a sequence whenever a row is inserted. -/
structure ApplySequence where
  id : NodeId
  name : String
  table : TableRef
  column : ColumnRef
  /-- Renumbers the rows that are already there. -/
  recalculate : Bool
  deriving DecidableEq

structure RevokeSequence where
  id : NodeId
  name : String
  table : TableRef
  deriving DecidableEq

inductive Statement where
  | declare (s : Declare)
  | select (s : SelectStatement)
  | insert (s : Insert)
  | update (s : Update)
  | delete (s : Delete)
  | upsert (s : Upsert)
  | consume (s : Consume)
  | tableVariable (s : TableVariable)
  | temporaryTable (s : TableVariable)
  | createType (s : CreateType)
  | createSequence (s : CreateSequence)
  | dropSequence (s : DropSequence)
  | applySequence (s : ApplySequence)
  | revokeSequence (s : RevokeSequence)

namespace Statement

def id : Statement → NodeId
  | .declare s => s.id
  | .select s => s.id
  | .insert s => s.id
  | .update s => s.id
  | .delete s => s.id
  | .upsert s => s.id
  | .consume s => s.id
  | .tableVariable s => s.id
  | .temporaryTable s => s.id
  | .createType s => s.id
  | .createSequence s => s.id
  | .dropSequence s => s.id
  | .applySequence s => s.id
  | .revokeSequence s => s.id

def keyword : Statement → String
  | .declare _ => "DECLARE"
  | .select _ => "SELECT"
  | .insert _ => "INSERT"
  | .update _ => "UPDATE"
  | .delete _ => "DELETE"
  | .upsert _ => "UPSERT"
  | .consume _ => "CONSUME"
  | .tableVariable _ => "TABLE VARIABLE"
  | .temporaryTable _ => "TEMPORARY TABLE"
  | .createType _ => "CREATE TYPE"
  | .createSequence _ => "CREATE SEQUENCE"
  | .dropSequence _ => "DROP SEQUENCE"
  | .applySequence _ => "APPLY SEQUENCE"
  | .revokeSequence _ => "REVOKE SEQUENCE"

end Statement

/-- Statements with what their identifiers denote. -/
structure Script where
  statements : List Statement
  bindings : Bindings

def Script.empty : Script := ⟨[], Bindings.empty⟩

end SqlEmit
