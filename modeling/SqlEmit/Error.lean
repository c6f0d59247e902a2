import SqlEmit.Binding
import SqlEmit.Schema

/-! Why a script has no SQL. Every cause ends the whole script. -/
namespace SqlEmit

inductive ErrorKind where
  /-- An identifier that denotes nothing, or not what its place needs. -/
  | binding
  /-- A missing index or column type. -/
  | schema
  /-- A malformed statement, literal or call. -/
  | statement
  deriving DecidableEq

inductive Error where
  | columnUnresolved (node : NodeId) (identifier : String)
  | tableUnresolved (node : NodeId) (identifier : String)
  | definitionUnresolved (node : NodeId) (identifier : String)
  | cteTarget (node : NodeId) (keyword : String)
  | targetMissing (node : NodeId)
  | insertSourceUnresolved (node : NodeId) (identifier : String)
  | consumeWithoutEntity (node : NodeId)
  | sequenceTable (node : NodeId) (keyword : String)
  | sequenceColumn (node : NodeId)
  | nullType
  | emptyCaseType
  | emptySubqueryType
  | valueListType
  | functionType (node : NodeId) (name : String)
  /-- A computed column that is defined through itself. -/
  | cyclicColumn (node : NodeId) (identifier : String)
  | unknownType (node : NodeId) (identifier : String)
  | unsupportedType (node : NodeId) (type : PrimitiveType)
  | propertyWithoutColumns (node : NodeId) (property : String)
  | recalculateWithoutIndex (node : NodeId) (tableName : String)
  | consumeWithoutIndex (node : NodeId)
  | consumeShape (node : NodeId)
  | unknownFunction (node : NodeId) (name : String)
  | typeOfWithoutArgument (node : NodeId)
  | typeOfArgument (node : NodeId)
  | sequenceArgument (node : NodeId)
  | lengthWithoutArgument (node : NodeId)
  | invalidUuid (literal : String)
  | invalidEntity (literal : String)
  | invalidTypeCode (literal : String)
  | assignmentWithoutColumns
  | valueShape (column : String)
  | insertWithoutMatch (node : NodeId) (identifier : String)
  | insertMismatch (node : NodeId) (source column : String)
  | upsertWithoutSet (node : NodeId)
  | upsertWithoutSource (node : NodeId)
  | upsertFromJoin (node : NodeId)
  | consumeWithoutTarget (node : NodeId)
  | consumeOrder (node : NodeId)
  | consumeLengthUnnamed (node : NodeId)
  | consumeLengthArgument (node : NodeId)
  | consumeColumn (node : NodeId) (name : String)
  | sequenceUnnamed (node : NodeId) (keyword : String)
  /-- Whatever a registered function reports. -/
  | reported (kind : ErrorKind) (node : Option NodeId) (detail : String)
  deriving DecidableEq

namespace Error

def kind : Error → ErrorKind
  | .columnUnresolved .. | .tableUnresolved .. | .definitionUnresolved .. | .cteTarget ..
  | .targetMissing .. | .insertSourceUnresolved .. | .consumeWithoutEntity .. | .sequenceTable ..
  | .sequenceColumn .. => .binding
  | .nullType | .emptyCaseType | .emptySubqueryType | .valueListType | .functionType ..
  | .cyclicColumn .. | .unknownType .. | .unsupportedType .. | .propertyWithoutColumns ..
  | .recalculateWithoutIndex .. | .consumeWithoutIndex .. | .consumeShape .. => .schema
  | .reported kind .. => kind
  | _ => .statement

def node : Error → Option NodeId
  | .columnUnresolved id _ | .tableUnresolved id _ | .definitionUnresolved id _ | .cteTarget id _
  | .targetMissing id | .insertSourceUnresolved id _ | .consumeWithoutEntity id
  | .sequenceTable id _ | .sequenceColumn id | .functionType id _ | .cyclicColumn id _
  | .unknownType id _ | .unsupportedType id _ | .propertyWithoutColumns id _
  | .recalculateWithoutIndex id _ | .consumeWithoutIndex id | .consumeShape id
  | .unknownFunction id _ | .typeOfWithoutArgument id | .typeOfArgument id | .sequenceArgument id
  | .lengthWithoutArgument id | .insertWithoutMatch id _ | .insertMismatch id _ _
  | .upsertWithoutSet id | .upsertWithoutSource id | .upsertFromJoin id | .consumeWithoutTarget id
  | .consumeOrder id | .consumeLengthUnnamed id | .consumeLengthArgument id | .consumeColumn id _
  | .sequenceUnnamed id _ => some id
  | .nullType | .emptyCaseType | .emptySubqueryType | .valueListType | .invalidUuid _
  | .invalidEntity _ | .invalidTypeCode _ | .assignmentWithoutColumns | .valueShape _ => none
  | .reported _ node _ => node

def detail : Error → String
  | .columnUnresolved _ identifier => s!"Column [{identifier}] is not resolved."
  | .tableUnresolved _ identifier => s!"Table [{identifier}] is not resolved."
  | .definitionUnresolved _ identifier =>
    s!"Failed to create column definition for identifier [{identifier}]"
  | .cteTarget _ keyword => s!"{keyword}: computed table (cte) targeting is not allowed."
  | .targetMissing _ => "DML: Target table identifier is missing."
  | .insertSourceUnresolved _ identifier => s!"INSERT: source table [{identifier}] is not resolved."
  | .consumeWithoutEntity _ => "CONSUME: target table has no entity binding."
  | .sequenceTable _ keyword => s!"[{keyword}] Unsupported table binding"
  | .sequenceColumn _ => "[APPLY SEQUENCE] Unsupported column binding"
  | .nullType => "Failed to infer column type of NULL literal."
  | .emptyCaseType => "Failed to infer column type of empty CASE."
  | .emptySubqueryType => "Failed to infer column type of empty subquery."
  | .valueListType => "Failed to infer column type of a value list."
  | .functionType _ name => s!"Failed to infer column type of function {name}."
  | .cyclicColumn _ identifier => s!"Column [{identifier}] is defined through itself."
  | .unknownType _ identifier => s!"Unknown column data type [{identifier}]."
  | .unsupportedType _ type => "Unsupported column data type [" ++ Named.name type ++ "]."
  | .propertyWithoutColumns _ property => s!"[APPLY SEQUENCE] Property [{property}] has no columns"
  | .recalculateWithoutIndex _ tableName =>
    "[APPLY SEQUENCE RECALCULATE]: Primary or unique index missing for table [" ++ tableName ++ "]"
  | .consumeWithoutIndex _ => "CONSUME: target table has no valid index."
  | .consumeShape _ => "CONSUME: result table shape does not match the projection."
  | .unknownFunction _ name => s!"Invalid function name: {name}"
  | .typeOfWithoutArgument _ => "TYPEOF: entity argument is missing."
  | .typeOfArgument _ => "TYPEOF: argument must be an entity name."
  | .sequenceArgument _ => "VECTOR: sequence name argument is expected."
  | .lengthWithoutArgument _ => "DATALENGTH: value argument is expected."
  | .invalidUuid literal => s!"Invalid uuid literal [{literal}]"
  | .invalidEntity literal => s!"Invalid entity literal [{literal}]"
  | .invalidTypeCode literal => s!"Invalid entity type code [{literal}]"
  | .assignmentWithoutColumns => "Assignment target has no physical columns."
  | .valueShape column => s!"Value does not match the shape of column [{column}]."
  | .insertWithoutMatch _ identifier => s!"INSERT: no source column matches table [{identifier}]."
  | .insertMismatch _ source column =>
    s!"INSERT: source column [{source}] does not match column [{column}]."
  | .upsertWithoutSet _ => "UPSERT: SET clause is not defined."
  | .upsertWithoutSource _ => "UPSERT: FROM clause is not defined."
  | .upsertFromJoin _ => "UPSERT: FROM clause must be a single table or derived table."
  | .consumeWithoutTarget _ => "CONSUME: target table is not found."
  | .consumeOrder _ => "CONSUME: ORDER BY supports column references only."
  | .consumeLengthUnnamed _ => "CONSUME: DATALENGTH column requires an alias."
  | .consumeLengthArgument _ => "CONSUME: DATALENGTH expects a column argument."
  | .consumeColumn _ name => s!"CONSUME: unsupported output column [{name}]."
  | .sequenceUnnamed _ keyword => s!"[{keyword}] Sequence identifier missing"
  | .reported _ _ detail => detail

def message (error : Error) : String :=
  match error.kind with
  | .binding => "Binding error: " ++ error.detail
  | .schema => "Schema error: " ++ error.detail
  | .statement => "Statement error: " ++ error.detail

end Error

end SqlEmit
