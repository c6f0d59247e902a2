import SqlEmit.Json

/-! The physical schema: columns, properties that take one or more columns, tables and indexes. -/
namespace SqlEmit

inductive TypeTag where
  | tag | boolean | numeric | dateTime | string | binary | uuid | typeCode | entity | version | integer
  deriving DecidableEq

instance : Named TypeTag where
  all := [.tag, .boolean, .numeric, .dateTime, .string, .binary, .uuid, .typeCode, .entity,
    .version, .integer]
  name
    | .tag => "Tag"
    | .boolean => "Boolean"
    | .numeric => "Numeric"
    | .dateTime => "DateTime"
    | .string => "String"
    | .binary => "Binary"
    | .uuid => "Uuid"
    | .typeCode => "TypeCode"
    | .entity => "Entity"
    | .version => "Version"
    | .integer => "Integer"

/-- Role of a physical column inside a property. The order of the constructors is the canonical
order of a property's columns. -/
inductive ColumnPurpose where
  | default | tag | boolean | numeric | dateTime | string | typeCode | identity
  deriving DecidableEq

instance : Named ColumnPurpose where
  all := [.default, .tag, .boolean, .numeric, .dateTime, .string, .typeCode, .identity]
  name
    | .default => "Default"
    | .tag => "Tag"
    | .boolean => "Boolean"
    | .numeric => "Numeric"
    | .dateTime => "DateTime"
    | .string => "String"
    | .typeCode => "TypeCode"
    | .identity => "Identity"

/-- Suffix of the column names of a property with several columns. -/
def ColumnPurpose.suffix : ColumnPurpose → String
  | .default => ""
  | .tag => "TYPE"
  | .boolean => "L"
  | .numeric => "N"
  | .dateTime => "T"
  | .string => "S"
  | .typeCode => "TRef"
  | .identity => "RRef"

/-- Primitive type of a variable or declared column; `entity` is a reference to an entity of any
type. -/
inductive PrimitiveType where
  | boolean | decimal | integer | dateTime | string | binary | uuid | entity | version
  deriving DecidableEq

instance : Named PrimitiveType where
  all := [.boolean, .decimal, .integer, .dateTime, .string, .binary, .uuid, .entity, .version]
  name
    | .boolean => "Boolean"
    | .decimal => "Decimal"
    | .integer => "Integer"
    | .dateTime => "DateTime"
    | .string => "String"
    | .binary => "Binary"
    | .uuid => "Uuid"
    | .entity => "Entity"
    | .version => "Version"

structure SchemaColumn where
  name : String
  typeName : String
  purpose : ColumnPurpose
  /-- -1 is unlimited, 0 is not applicable. -/
  length : Int32
  precision : UInt32
  scale : UInt32
  /-- Maintained by the database. -/
  isGenerated : Bool
  deriving DecidableEq

namespace SchemaColumn

/-- The type with its qualifiers: `nvarchar(max)`, `binary(16)`, `numeric(10,2)`. -/
def sqlType (column : SchemaColumn) : String :=
  let typeName := column.typeName
  if column.length = -1 then typeName ++ "(max)"
  else if 0 < column.length then typeName ++ "(" ++ toString column.length.toInt ++ ")"
  else if typeName = "numeric" then
    typeName ++ "(" ++ toString column.precision.toNat ++ "," ++ toString column.scale.toNat ++ ")"
  else typeName

def tagOfTypeName (typeName : String) : TypeTag :=
  if typeName ∈ ["numeric", "decimal"] then .numeric
  else if typeName ∈ ["int", "integer", "bigint", "smallint"] then .integer
  else if typeName ∈ ["datetime", "datetime2", "timestamp"] then .dateTime
  else if typeName ∈ ["nvarchar", "nchar", "varchar", "char", "text", "mvarchar", "mchar"] then
    .string
  else if typeName = "boolean" then .boolean
  else if typeName = "uuid" then .uuid
  else if typeName ∈ ["rowversion", "timestamp_version"] then .version
  else .binary

def tag (column : SchemaColumn) : TypeTag :=
  match column.purpose with
  | .tag => .tag
  | .boolean => .boolean
  | .numeric => .numeric
  | .dateTime => .dateTime
  | .string => .string
  | .typeCode => .typeCode
  | .identity => .entity
  | .default => tagOfTypeName column.typeName

def toJson (column : SchemaColumn) : Json :=
  .obj [("name", .str column.name), ("type_name", .str column.typeName),
    ("purpose", Named.toJson column.purpose), ("length", .int column.length.toInt),
    ("precision", .int column.precision.toNat), ("scale", .int column.scale.toNat),
    ("is_generated", .bool column.isGenerated)]

def decode : Decoder SchemaColumn :=
  Decoder.record
    ["name", "type_name", "purpose", "length", "precision", "scale", "is_generated"] fun n fields =>
    match fields with
    | [name, typeName, purpose, length, precision, scale, isGenerated] => do
      return {
        name := ← name.required Decoder.string n
        typeName := ← typeName.required Decoder.string n
        purpose := ← purpose.orElse .default Named.decode n
        length := ← length.orElse 0 Decoder.int32 n
        precision := ← precision.orElse 0 Decoder.uint32 n
        scale := ← scale.orElse 0 Decoder.uint32 n
        isGenerated := ← isGenerated.orElse false Decoder.bool n }
    | _ => none

end SchemaColumn

structure Property where
  name : String
  columns : List SchemaColumn
  deriving DecidableEq

namespace Property

/-- The columns in canonical order; columns of one purpose keep their order. -/
def orderedColumns (property : Property) : List SchemaColumn :=
  (Named.all : List ColumnPurpose).flatMap fun purpose =>
    property.columns.filter (·.purpose = purpose)

/-- Whether the database maintains every column. -/
def isGenerated (property : Property) : Bool :=
  !property.columns.isEmpty && property.columns.all (·.isGenerated)

def toJson (property : Property) : Json :=
  .obj [("name", .str property.name), ("columns", .ofList SchemaColumn.toJson property.columns)]

def decode : Decoder Property :=
  Decoder.record ["name", "columns"] fun n fields =>
    match fields with
    | [name, columns] => do
      return {
        name := ← name.required Decoder.string n
        columns := ← columns.required (Decoder.list SchemaColumn.decode) n }
    | _ => none

end Property

/-- A physical table and what its columns mean. -/
structure Entity where
  name : String
  tableName : String
  typeCode : Int32
  properties : List Property
  deriving DecidableEq

namespace Entity

def property? (entity : Entity) (name : String) : Option Property :=
  entity.properties.find? (·.name = name)

def toJson (entity : Entity) : Json :=
  .obj [("name", .str entity.name), ("table_name", .str entity.tableName),
    ("type_code", .int entity.typeCode.toInt),
    ("properties", .ofList Property.toJson entity.properties)]

def decode : Decoder Entity :=
  Decoder.record ["name", "table_name", "type_code", "properties"] fun n fields =>
    match fields with
    | [name, tableName, typeCode, properties] => do
      return {
        name := ← name.required Decoder.string n
        tableName := ← tableName.required Decoder.string n
        typeCode := ← typeCode.orElse 0 Decoder.int32 n
        properties := ← properties.required (Decoder.list Property.decode) n }
    | _ => none

end Entity

structure IndexKey where
  name : String
  isDescending : Bool
  deriving DecidableEq

namespace IndexKey

def direction (key : IndexKey) : String :=
  if key.isDescending then "DESC" else "ASC"

def toJson (key : IndexKey) : Json :=
  .obj [("name", .str key.name), ("is_descending", .bool key.isDescending)]

def decode : Decoder IndexKey :=
  Decoder.record ["name", "is_descending"] fun n fields =>
    match fields with
    | [name, isDescending] => do
      return {
        name := ← name.required Decoder.string n
        isDescending := ← isDescending.orElse false Decoder.bool n }
    | _ => none

end IndexKey

structure Index where
  name : String
  isPrimary : Bool
  isUnique : Bool
  isClustered : Bool
  keys : List IndexKey
  deriving DecidableEq

namespace Index

/-- The index that identifies rows: the primary one, else a unique clustered one, else a unique
one. -/
def identity? (indexes : List Index) : Option Index :=
  (indexes.find? (·.isPrimary)).or <|
    (indexes.find? fun index => index.isUnique && index.isClustered).or <|
      indexes.find? (·.isUnique)

def keyNames (index : Index) : List String :=
  index.keys.map (·.name)

def toJson (index : Index) : Json :=
  .obj [("name", .str index.name), ("is_primary", .bool index.isPrimary),
    ("is_unique", .bool index.isUnique), ("is_clustered", .bool index.isClustered),
    ("columns", .ofList IndexKey.toJson index.keys)]

def decode : Decoder Index :=
  Decoder.record ["name", "is_primary", "is_unique", "is_clustered", "columns"] fun n fields =>
    match fields with
    | [name, isPrimary, isUnique, isClustered, keys] => do
      return {
        name := ← name.required Decoder.string n
        isPrimary := ← isPrimary.orElse false Decoder.bool n
        isUnique := ← isUnique.orElse false Decoder.bool n
        isClustered := ← isClustered.orElse false Decoder.bool n
        keys := ← keys.required (Decoder.list IndexKey.decode) n }
    | _ => none

end Index

end SqlEmit
