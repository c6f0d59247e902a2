import SqlEmit.ColumnType

/-! CREATE TYPE for table-valued parameters. The names of physical columns end in the kind of their
type; a reference to entities of any type takes two columns, one to a fixed type has the type code
in its name. -/
namespace SqlEmit

inductive TypeColumnKind where
  | primitive (type : PrimitiveType)
  /-- A reference to entities of one type. -/
  | reference (typeCode : Int32)
  deriving DecidableEq

namespace TypeName

def ofIdentifier (identifier : String) : Option PrimitiveType :=
  match Text.lower identifier with
  | "boolean" => some .boolean
  | "number" => some .decimal
  | "decimal" => some .decimal
  | "datetime" => some .dateTime
  | "string" => some .string
  | "binary" => some .binary
  | "uuid" => some .uuid
  | "entity" => some .entity
  | _ => none

/-- What a type name denotes: its binding, else a primitive type by name. -/
def columnKind (cx : Context) (type : TypeName) : Except Error TypeColumnKind :=
  match cx.binding? type.id with
  | some (.primitive primitive) => .ok (.primitive primitive)
  | some (.entityType code) => .ok (.reference code)
  | _ =>
    match ofIdentifier type.identifier with
    | some primitive => .ok (.primitive primitive)
    | none => .error (.unknownType type.id type.identifier)

def numericText (type : TypeName) : String :=
  "numeric(" ++ toString type.qualifier1.toNat ++ "," ++ toString type.qualifier2.toNat ++ ")"

def stringText (dialect : Dialect) (length : UInt32) : String :=
  if length = 0 then dialect.pick "nvarchar(max)" "text"
  else dialect.pick "nvarchar" "varchar" ++ "(" ++ toString length.toNat ++ ")"

def parts (dialect : Dialect) (type : TypeName) : TypeColumnKind → Except Error (List (String × String))
  | .reference code => .ok [("R_" ++ toString code.toInt, dialect.pick "binary(16)" "bytea")]
  | .primitive .boolean => .ok [("L", dialect.pick "binary(1)" "boolean")]
  | .primitive .decimal => .ok [("N", type.numericText)]
  | .primitive .dateTime => .ok [("T", dialect.pick "datetime2" "timestamp without time zone")]
  | .primitive .string => .ok [("S", stringText dialect type.qualifier1)]
  | .primitive .binary => .ok [("B", dialect.pick "varbinary(max)" "bytea")]
  | .primitive .uuid => .ok [("U", dialect.pick "binary(16)" "bytea")]
  | .primitive .entity =>
    .ok [("C", dialect.pick "binary(4)" "bytea"), ("R", dialect.pick "binary(16)" "bytea")]
  | .primitive other => .error (.unsupportedType type.id other)

end TypeName

namespace CreateType

/-- The name of a physical column. PostgreSQL has the suffix in lower case. -/
def physicalName (dialect : Dialect) (name suffix : String) : String :=
  "_" ++ name ++ "_" ++ dialect.pick suffix (Text.lower suffix)

def columnDefinitions (cx : Context) (column : TypeColumn) : Except Error (List ColumnDefinition) := do
  let kind ← column.dataType.columnKind cx
  return (← column.dataType.parts cx.dialect kind).map fun (suffix, type) =>
    ⟨physicalName cx.dialect column.name suffix, type⟩

def definitions (cx : Context) (s : CreateType) : Except Error (List ColumnDefinition) := do
  return (← s.columns.mapM (columnDefinitions cx)).flatten

def definitionText (dialect : Dialect) (column : ColumnDefinition) : String :=
  dialect.pick column.name ("\"" ++ column.name ++ "\"") ++ " " ++ column.typeName

def emit (cx : Context) (s : CreateType) : Except Error Sql := do
  let columns := (← s.definitions cx).map (definitionText cx.dialect)
  let head := cx.dialect.pick ("[" ++ s.name ++ "] AS TABLE") ("\"" ++ s.name ++ "\" AS")
  return Sql.code ("CREATE TYPE " ++ head ++ "\n(\n" ++ ",\n".intercalate columns ++ "\n);")

end CreateType

end SqlEmit
