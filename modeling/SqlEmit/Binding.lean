import SqlEmit.Json
import SqlEmit.Schema
import SqlEmit.Text
import SqlEmit.Uuid

/-! What the identifiers of a script denote. A resolver records a binding for each node and, for
column references, the physical columns that carry the value. -/
namespace SqlEmit

structure NodeId where
  index : UInt32
  deriving DecidableEq, Inhabited

namespace NodeId

def text (id : NodeId) : String :=
  "#" ++ toString id.index.toNat

def toJson (id : NodeId) : Json :=
  .int id.index.toNat

def decode : Decoder NodeId :=
  fun n json => (Decoder.uint32 n json).map NodeId.mk

/-- The id as the name of an object member: decimal digits without a leading zero. -/
def toKey (id : NodeId) : String :=
  toString id.index.toNat

def ofKey (key : String) : Option NodeId :=
  let digits := key.toList
  if digits.head? = some '0' ∧ 1 < digits.length then none
  else (Text.readNat digits).bind fun n =>
    if n < 4294967296 then some ⟨UInt32.ofNat n⟩ else none

end NodeId

structure PhysicalColumn where
  /-- The column, possibly qualified: `t._Fld12`. -/
  name : String
  asName : Option String
  tag : Option TypeTag
  /-- The type with its qualifiers: `nvarchar(50)`. -/
  typeName : Option String
  deriving DecidableEq

namespace PhysicalColumn

def named (name : String) : PhysicalColumn :=
  ⟨name, none, none, none⟩

def columnName (column : PhysicalColumn) : String :=
  Text.unqualified column.name

/-- The name under which the column leaves a projection. -/
def outputName (column : PhysicalColumn) : String :=
  match column.asName with
  | some name => if name.isEmpty then column.columnName else name
  | none => column.columnName

/-- The column as it is read from a projection. -/
def output (column : PhysicalColumn) : PhysicalColumn :=
  ⟨column.outputName, none, column.tag, column.typeName⟩

def toJson (column : PhysicalColumn) : Json :=
  .obj [("name", .str column.name), ("alias", .ofOption .str column.asName),
    ("tag", .ofOption Named.toJson column.tag), ("type_name", .ofOption .str column.typeName)]

def decode : Decoder PhysicalColumn :=
  Decoder.record ["name", "alias", "tag", "type_name"] fun n fields =>
    match fields with
    | [name, asName, tag, typeName] => do
      return {
        name := ← name.required Decoder.string n
        asName := ← asName.optional Decoder.string n
        tag := ← tag.optional Named.decode n
        typeName := ← typeName.optional Decoder.string n }
    | _ => none

end PhysicalColumn

/-- What a node denotes. -/
inductive Binding where
  | entity (entity : Entity)
  | property (property : Property)
  /-- A column computed by another projection. -/
  | column (definition : NodeId)
  | enumValue (identity : Uuid)
  | commonTable
  | derivedTable
  | tableVariable
  | temporaryTable
  /-- A table-valued parameter. -/
  | userDefinedType (tableName : String)
  | primitive (type : PrimitiveType)
  /-- A reference to entities of one type. -/
  | entityType (typeCode : Int32)
  | indexColumn (key : IndexKey)
  deriving DecidableEq

namespace Binding

def toJson : Binding → Json
  | .entity e => .obj [("Entity", e.toJson)]
  | .property p => .obj [("Property", p.toJson)]
  | .column id => .obj [("Column", id.toJson)]
  | .enumValue u => .obj [("EnumValue", u.toJson)]
  | .commonTable => .str "CommonTable"
  | .derivedTable => .str "DerivedTable"
  | .tableVariable => .str "TableVariable"
  | .temporaryTable => .str "TemporaryTable"
  | .userDefinedType tableName =>
    .obj [("UserDefinedType", .obj [("table_name", .str tableName)])]
  | .primitive type => .obj [("Primitive", Named.toJson type)]
  | .entityType typeCode => .obj [("EntityType", .obj [("type_code", .int typeCode.toInt)])]
  | .indexColumn key => .obj [("IndexColumn", key.toJson)]

def decodeTableName : Decoder String :=
  Decoder.record ["table_name"] fun n fields =>
    match fields with
    | [tableName] => tableName.required Decoder.string n
    | _ => none

def decodeTypeCode : Decoder Int32 :=
  Decoder.record ["type_code"] fun n fields =>
    match fields with
    | [typeCode] => typeCode.required Decoder.int32 n
    | _ => none

def decode : Decoder Binding :=
  Decoder.variant fun n name content =>
    match name with
    | "Entity" => (Decoder.wrapped Entity.decode n content).map .entity
    | "Property" => (Decoder.wrapped Property.decode n content).map .property
    | "Column" => (Decoder.wrapped NodeId.decode n content).map .column
    | "EnumValue" => (Decoder.wrapped Uuid.decode n content).map .enumValue
    | "CommonTable" => Decoder.plain .commonTable content
    | "DerivedTable" => Decoder.plain .derivedTable content
    | "TableVariable" => Decoder.plain .tableVariable content
    | "TemporaryTable" => Decoder.plain .temporaryTable content
    | "UserDefinedType" => (Decoder.wrapped decodeTableName n content).map .userDefinedType
    | "Primitive" => (Decoder.wrapped Named.decode n content).map .primitive
    | "EntityType" => (Decoder.wrapped decodeTypeCode n content).map .entityType
    | "IndexColumn" => (Decoder.wrapped IndexKey.decode n content).map .indexColumn
    | _ => none

end Binding

structure Bindings where
  bindings : Dict NodeId Binding
  mappings : Dict NodeId (List PhysicalColumn)

namespace Bindings

def empty : Bindings := ⟨Dict.empty, Dict.empty⟩

instance : Inhabited Bindings := ⟨empty⟩

/-- Records a binding; the first one recorded for a node stays. -/
def bind (b : Bindings) (id : NodeId) (binding : Binding) : Bindings :=
  { b with bindings := b.bindings.insertNew id binding }

/-- Records a column mapping; the first one recorded for a node stays. -/
def map (b : Bindings) (id : NodeId) (mapping : List PhysicalColumn) : Bindings :=
  { b with mappings := b.mappings.insertNew id mapping }

def binding? (b : Bindings) (id : NodeId) : Option Binding :=
  b.bindings.find? id

def mapping? (b : Bindings) (id : NodeId) : Option (List PhysicalColumn) :=
  b.mappings.find? id

def size (b : Bindings) : Nat :=
  b.bindings.size

def isEmpty (b : Bindings) : Bool :=
  b.bindings.isEmpty && b.mappings.isEmpty

def dictToJson (write : α → Json) (d : Dict NodeId α) : Json :=
  .obj (d.entries.map fun (id, value) => (id.toKey, write value))

def toJson (b : Bindings) : Json :=
  .obj [("bindings", dictToJson Binding.toJson b.bindings),
    ("mappings", dictToJson (.ofList PhysicalColumn.toJson) b.mappings)]

def decode : Decoder Bindings :=
  Decoder.record ["bindings", "mappings"] fun n fields =>
    match fields with
    | [bindings, mappings] => do
      return {
        bindings := ← bindings.orElse Dict.empty (Decoder.numbered NodeId.ofKey Binding.decode) n
        mappings := ← mappings.orElse Dict.empty
          (Decoder.numbered NodeId.ofKey (Decoder.list PhysicalColumn.decode)) n }
    | _ => none

end Bindings

end SqlEmit
