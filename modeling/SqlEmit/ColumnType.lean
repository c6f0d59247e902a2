import SqlEmit.Context

/-! Types of computed columns. Only the shape of the defining expression counts: a leading operand
gives its type to the whole, and a column that another projection computes is followed back to
its definition. -/
namespace SqlEmit

structure ColumnDefinition where
  name : String
  typeName : String
  deriving DecidableEq

def ColumnDefinition.text (column : ColumnDefinition) : String :=
  column.name ++ " " ++ column.typeName

/-- One physical column of a value; the suffix tells the parts of a value with several columns
apart. -/
structure Shape where
  suffix : String
  typeName : String
  deriving DecidableEq

def Shape.single (typeName : String) : List Shape :=
  [⟨"", typeName⟩]

def Shape.definition (base : String) (shape : Shape) : ColumnDefinition :=
  ⟨if shape.suffix.isEmpty then base else base ++ "_" ++ shape.suffix, shape.typeName⟩

inductive TypeSource where
  | column (ref : ColumnRef)
  /-- The declared type of a variable or of a member of one. -/
  | parameter (id : NodeId) (name : String)
  | fixed (sqlServer postgres : String)
  | missing (error : Error)

def LiteralKind.typeSource : LiteralKind → TypeSource
  | .boolean => .fixed "binary(1)" "boolean"
  | .number => .fixed "numeric(19,5)" "numeric(19,5)"
  | .dateTime => .fixed "datetime2" "timestamp"
  | .string => .fixed "nvarchar(max)" "text"
  | .binary => .fixed "varbinary(max)" "bytea"
  | .uuid | .entity => .fixed "binary(16)" "bytea"
  | .null => .missing .nullType

/-- The type of a function whose type does not depend on its arguments. -/
def functionType (upperName : String) : Option TypeSource :=
  if upperName ∈ ["DATALENGTH", "OCTET_LENGTH", "CHARLENGTH"] then some (.fixed "int" "integer")
  else if upperName = "COUNT" then some (.fixed "int" "bigint")
  else if upperName ∈ ["ROW_NUMBER", "RANK", "DENSE_RANK", "NTILE"] then
    some (.fixed "bigint" "bigint")
  else if upperName ∈ ["SUBSTRING", "CONCAT", "CONCAT_WS", "STRING_AGG"] then
    some (.fixed "nvarchar(max)" "text")
  else if upperName ∈ ["NOW", "UTC"] then some (.fixed "datetime2" "timestamp")
  else if upperName = "VECTOR" then some (.fixed "numeric(19,0)" "bigint")
  else if upperName = "NEWUUID" then some (.fixed "binary(16)" "bytea")
  else if upperName = "TYPEOF" then some (.fixed "binary(4)" "bytea")
  else none

mutual

/-- A CASE has the type of its first result, a subquery that of its first column, and a function
without a type of its own that of its first argument. -/
def Expr.typeSource : Expr → TypeSource
  | .column ref => .column ref
  | .literal literal => literal.kind.typeSource
  | .variableRef ref => .parameter ref.id ref.identifier
  | .memberRef ref => .parameter ref.id ref.parameterName
  | .call ⟨id, name, args, _, _⟩ =>
    match functionType (Text.upper name) with
    | some type => type
    | none => headType (.functionType id name) args
  | .caseWhen branches otherwise =>
    match branches with
    | ⟨_, result⟩ :: _ => result.typeSource
    | [] =>
      match otherwise with
      | some e => e.typeSource
      | none => .missing .emptyCaseType
  | .unary _ operand => operand.typeSource
  | .group inner => inner.typeSource
  | .arithmetic _ left _ => left.typeSource
  | .logical _ _ _ | .compare _ _ _ _ => .fixed "binary(1)" "boolean"
  | .subquery query => query.typeSource
  | .values _ | .star => .missing .valueListType

def headType (missing : Error) : List Expr → TypeSource
  | [] => .missing missing
  | e :: _ => e.typeSource

def Query.typeSource : Query → TypeSource
  | .select ⟨_, _, _, columns, _, _, _, _, _, _⟩ =>
    match columns with
    | [] => .missing .emptySubqueryType
    | ⟨_, expr, _⟩ :: _ => expr.typeSource
  | .union _ left _ _ => left.typeSource

end

/-- The columns of a variable. A reference to an entity has a type code and an identity. -/
def PrimitiveType.shapes (dialect : Dialect) : PrimitiveType → List Shape
  | .boolean => Shape.single (dialect.pick "binary(1)" "boolean")
  | .decimal => Shape.single "numeric(19,5)"
  | .integer => Shape.single (dialect.pick "int" "integer")
  | .dateTime => Shape.single (dialect.pick "datetime2" "timestamp")
  | .string => Shape.single (dialect.pick "nvarchar(max)" "text")
  | .binary => Shape.single (dialect.pick "varbinary(max)" "bytea")
  | .uuid => Shape.single (dialect.pick "binary(16)" "bytea")
  | .version => Shape.single (dialect.pick "binary(8)" "bytea")
  | .entity => [⟨"TRef", dialect.pick "binary(4)" "bytea"⟩, ⟨"RRef", dialect.pick "binary(16)" "bytea"⟩]

def Property.shapes (property : Property) : List Shape :=
  property.orderedColumns.map fun column =>
    ⟨if 1 < property.columns.length then column.purpose.suffix else "", column.sqlType⟩

namespace Context

/-- The columns of a value, following computed columns back through at most `steps` references. -/
def shapesWithin (cx : Context) : Nat → TypeSource → Except Error (List Shape)
  | _, .fixed sqlServer postgres => .ok (Shape.single (cx.dialect.pick sqlServer postgres))
  | _, .missing error => .error error
  | _, .parameter id name =>
    match cx.binding? id with
    | some (.primitive type) => .ok (type.shapes cx.dialect)
    | _ => .error (.definitionUnresolved id name)
  | 0, .column ref => .error (.cyclicColumn ref.id ref.identifier)
  | steps + 1, .column ref =>
    match cx.binding? ref.id with
    | some (.column id) =>
      match cx.definition? id with
      | some definition => cx.shapesWithin steps definition.expr.typeSource
      | none => .error (.definitionUnresolved ref.id ref.identifier)
    | some (.enumValue _) => .ok (Shape.single (cx.dialect.pick "binary(16)" "bytea"))
    | some (.property property) => .ok property.shapes
    | some (.primitive type) => .ok (type.shapes cx.dialect)
    | _ => .error (.definitionUnresolved ref.id ref.identifier)

/-- A chain of definitions that does not return to itself visits each column of the script at most
once. -/
def shapes (cx : Context) (expr : Expr) : Except Error (List Shape) :=
  cx.shapesWithin (cx.columns.size + 1) expr.typeSource

/-- The types that a mapping records, if it records all of them. -/
def recordedColumns (mapping : List PhysicalColumn) : Option (List ColumnDefinition) :=
  if mapping.isEmpty then none
  else mapping.mapM fun column => column.typeName.map fun type => ⟨column.outputName, type⟩

/-- The name that the physical columns of a projected column are derived from. -/
def definitionName (cx : Context) (column : Projected) : String :=
  match column.asName, column.expr with
  | some name, _ => name
  | none, .column ref =>
    match cx.binding? ref.id with
    | some (.property property) => property.name
    | _ => ref.columnName
  | none, _ => "column"

def columnDefinitions (cx : Context) (column : Projected) : Except Error (List ColumnDefinition) :=
  match (cx.referenceMapping? column.expr).bind recordedColumns with
  | some definitions => .ok definitions
  | none => do return (← cx.shapes column.expr).map (Shape.definition (cx.definitionName column))

def tableDefinition (cx : Context) (columns : List Projected) :
    Except Error (List ColumnDefinition) := do
  return (← columns.mapM cx.columnDefinitions).flatten

end Context

end SqlEmit
