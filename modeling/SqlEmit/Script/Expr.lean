import SqlEmit.Binding
import SqlEmit.Script.Operator
import SqlEmit.Text.Case
import SqlEmit.Text

/-! Expressions, queries and row sources of a resolved script. Identifiers stand as they were
written; what they denote is recorded under their node ids. -/
namespace SqlEmit

structure ColumnRef where
  id : NodeId
  identifier : String
  deriving DecidableEq

def ColumnRef.columnName (ref : ColumnRef) : String :=
  Text.unqualified ref.identifier

def ColumnRef.qualifier (ref : ColumnRef) : Option String :=
  (Text.splitIdentifier ref.identifier).1

structure VariableRef where
  id : NodeId
  identifier : String
  deriving DecidableEq

/-- Member of an object variable, `@message.Body`. -/
structure MemberRef where
  id : NodeId
  object : String
  member : String
  deriving DecidableEq

/-- The database parameter that carries the member, `@message_Body`. -/
def MemberRef.parameterName (ref : MemberRef) : String :=
  (if ref.object.toList.head? = some '@' then ref.object else "@" ++ ref.object) ++ "_" ++ ref.member

structure Literal where
  kind : LiteralKind
  text : String
  deriving DecidableEq

structure WindowFrame where
  kind : FrameKind
  start : Option FrameBound
  stop : Option FrameBound
  deriving DecidableEq

structure TableRef where
  id : NodeId
  identifier : String
  asName : Option String
  deriving DecidableEq

/-- A name that is given and not empty. -/
def givenName : Option String → Option String
  | some name => if name.isEmpty then none else some name
  | none => none

/-- The name the rows are known by: the alias, else the unqualified identifier. -/
def TableRef.sourceName (table : TableRef) : String :=
  (givenName table.asName).getD (Text.unqualified table.identifier)

mutual

inductive Expr where
  | column (ref : ColumnRef)
  | literal (value : Literal)
  | variableRef (ref : VariableRef)
  | memberRef (ref : MemberRef)
  | call (call : Call)
  | caseWhen (branches : List Branch) (otherwise : Option Expr)
  | unary (op : UnaryOp) (operand : Expr)
  | logical (op : LogicalOp) (left right : Expr)
  | arithmetic (op : ArithmeticOp) (left right : Expr)
  | compare (op : CompareOp) (modifier : Option CompareModifier) (left right : Expr)
  | group (inner : Expr)
  | values (items : List Expr)
  | subquery (query : Query)
  | star

structure Call where
  id : NodeId
  name : String
  args : List Expr
  distinct : Bool
  window : Option Window

structure Window where
  partition : List Expr
  order : Option SortClause
  frame : Option WindowFrame

structure SortClause where
  items : List SortItem
  offset : Option Expr
  fetch : Option Expr

structure SortItem where
  expr : Expr
  descending : Bool

structure Branch where
  condition : Expr
  result : Expr

inductive Query where
  | select (select : Select)
  | union (all : Bool) (left right : Query) (order : Option SortClause)

structure Select where
  id : NodeId
  distinct : Bool
  top : Option Expr
  columns : List Projected
  intoTable : Option TableRef
  source : Option Source
  predicate : Option Expr
  grouping : List Expr
  having : Option Expr
  order : Option SortClause

structure Projected where
  id : NodeId
  expr : Expr
  asName : Option String

inductive Source where
  | table (table : TableRef)
  | derived (derived : Derived)
  | join (kind : JoinKind) (left right : Source) (condition : Option Expr)

/-- A query in parentheses under a name. -/
structure Derived where
  id : NodeId
  query : Query
  asName : String

end

structure Cte where
  id : NodeId
  name : String
  query : Query

instance : Inhabited Expr := ⟨.star⟩

/-- The select whose projection gives the rows their shape. -/
def Query.firstSelect : Query → Select
  | .select s => s
  | .union _ left _ _ => left.firstSelect

/-- The leftmost table of a join tree. -/
def Source.leadingTable : Source → Option TableRef
  | .table t => some t
  | .join _ left _ _ => left.leadingTable
  | .derived _ => none

/-- The property a column projects: its alias, else the name of the column it refers to. -/
def Projected.name (column : Projected) : Option String :=
  column.asName.or <|
    match column.expr with
    | .column ref => some ref.columnName
    | _ => none

def Call.upperName (call : Call) : String :=
  Text.upper call.name

/-- Function names are compared up to ASCII case. -/
def Call.isNamed (call : Call) (name : String) : Bool :=
  Text.sameName call.name name

def SortClause.isEmpty (order : SortClause) : Bool :=
  order.items.isEmpty

namespace Expr

def and (left right : Expr) : Expr :=
  .logical .and left right

def eq (left right : Expr) : Expr :=
  .compare .eq none left right

end Expr

/-- A select of columns from a source and nothing else. -/
def Select.plain (id : NodeId) (columns : List Projected) (source : Option Source) : Select where
  id
  distinct := false
  top := none
  columns
  intoTable := none
  source
  predicate := none
  grouping := []
  having := none
  order := none

end SqlEmit
