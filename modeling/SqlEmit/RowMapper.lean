import SqlEmit.Script.Statement

/-! Row mappers: the properties of a result row and the output columns that carry them. -/
namespace SqlEmit

structure PropertyMapper where
  name : String
  columns : List PhysicalColumn
  deriving DecidableEq

/-- How the rows of a statement are read. A statement that returns no rows has no properties. -/
structure RowMapper where
  name : String
  yearOffset : Int32
  properties : List PropertyMapper
  deriving DecidableEq

/-- The recorded columns of an expression that is a column reference, if there are any. -/
def Bindings.referenceColumns? (bindings : Bindings) : Expr → Option (List PhysicalColumn)
  | .column ref => (bindings.mapping? ref.id).filter fun mapping => !mapping.isEmpty
  | _ => none

namespace PropertyMapper

/-- A column without a name of its own is named by its place, counted from 1. -/
def propertyName (column : Projected) (place : Nat) : String :=
  column.name.getD ("column" ++ toString place)

def ofProjected (bindings : Bindings) (column : Projected) (place : Nat) : PropertyMapper :=
  let name := propertyName column place
  match bindings.referenceColumns? column.expr with
  | some mapping => ⟨name, mapping.map PhysicalColumn.output⟩
  | none => ⟨name, [PhysicalColumn.named name]⟩

def ofProjectionFrom (bindings : Bindings) : Nat → List Projected → List PropertyMapper
  | _, [] => []
  | place, column :: columns =>
    ofProjected bindings column place :: ofProjectionFrom bindings (place + 1) columns

def ofProjection (bindings : Bindings) (columns : List Projected) : List PropertyMapper :=
  ofProjectionFrom bindings 1 columns

def toJson (property : PropertyMapper) : Json :=
  .obj [("name", .str property.name), ("columns", .ofList PhysicalColumn.toJson property.columns)]

def decode : Decoder PropertyMapper :=
  Decoder.record ["name", "columns"] fun n fields =>
    match fields with
    | [name, columns] => do
      return {
        name := ← name.required Decoder.string n
        columns := ← columns.required (Decoder.list PhysicalColumn.decode) n }
    | _ => none

end PropertyMapper

namespace RowMapper

def named (name : String) (yearOffset : Int32) : RowMapper :=
  ⟨name, yearOffset, []⟩

def isEmpty (mapper : RowMapper) : Bool :=
  mapper.properties.isEmpty

def columns (mapper : RowMapper) : List PhysicalColumn :=
  mapper.properties.flatMap (·.columns)

def columnCount (mapper : RowMapper) : Nat :=
  mapper.columns.length

def toJson (mapper : RowMapper) : Json :=
  .obj [("name", .str mapper.name), ("year_offset", .int mapper.yearOffset.toInt),
    ("properties", .ofList PropertyMapper.toJson mapper.properties)]

def decode : Decoder RowMapper :=
  Decoder.record ["name", "year_offset", "properties"] fun n fields =>
    match fields with
    | [name, yearOffset, properties] => do
      return {
        name := ← name.required Decoder.string n
        yearOffset := ← yearOffset.required Decoder.int32 n
        properties := ← properties.required (Decoder.list PropertyMapper.decode) n }
    | _ => none

/-- The name of the rows of a source: of a derived table its alias, else that of the leading
table. -/
def sourceName : Option Source → String
  | some (.derived derived) => derived.asName
  | some source => (source.leadingTable.map TableRef.sourceName).getD ""
  | none => ""

def ofOutput (bindings : Bindings) (yearOffset : Int32) (target : TableRef) (output : Option Output) :
    RowMapper :=
  match output with
  | some ⟨columns, none⟩ =>
    ⟨target.sourceName, yearOffset, PropertyMapper.ofProjection bindings columns⟩
  | _ => named target.sourceName yearOffset

/-- The mapper of a statement. Rows that go into a table, or to a stream processor, are not
returned. -/
def ofStatement (bindings : Bindings) (yearOffset : Int32) : Statement → RowMapper
  | .select s =>
    let first := s.query.firstSelect
    let name := sourceName first.source
    if first.intoTable.isNone then
      ⟨name, yearOffset, PropertyMapper.ofProjection bindings first.columns⟩
    else named name yearOffset
  | .consume s =>
    let name := ((s.source.bind Source.leadingTable).map TableRef.sourceName).getD ""
    if s.intoTable.isNone && s.target.isNone then
      ⟨name, yearOffset, PropertyMapper.ofProjection bindings s.columns⟩
    else named name yearOffset
  | .update s => ofOutput bindings yearOffset s.target s.output
  | .delete s => ofOutput bindings yearOffset s.target s.output
  | .insert s => named s.target.sourceName yearOffset
  | .upsert s => named s.target.sourceName yearOffset
  | .tableVariable s => named s.name yearOffset
  | .temporaryTable s => named s.name yearOffset
  | .declare _ | .createType _ | .createSequence _ | .dropSequence _ | .applySequence _
  | .revokeSequence _ => named "" yearOffset

end RowMapper

end SqlEmit
