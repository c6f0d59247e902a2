import SqlEmit.Statement.Change

/-! INSERT. An entity takes the properties that the source projects under their names, without
the columns that the database maintains; other tables take the whole projection. -/
namespace SqlEmit

inductive InsertValue where
  /-- The next value of a sequence. -/
  | next (sequence : String)
  /-- An output column of the source. -/
  | copied (source column : String)
  | written (sql : Sql)
  deriving DecidableEq

def InsertValue.sql (dialect : Dialect) : InsertValue → Sql
  | .next sequence => .ofPiece (.nextValue dialect sequence)
  | .copied source column => Sql.code (source ++ "." ++ column)
  | .written sql => sql

structure InsertLists where
  columns : List String
  values : List InsertValue
  deriving DecidableEq

namespace InsertLists

def empty : InsertLists := ⟨[], []⟩

def append (a b : InsertLists) : InsertLists :=
  ⟨a.columns ++ b.columns, a.values ++ b.values⟩

end InsertLists

namespace Projected

/-- The sequence that a column draws its values from. -/
def sequence? (column : Projected) : Except Error (Option String) :=
  match column.expr with
  | .call call => if call.isVector then do return some (← call.sequenceName) else .ok none
  | _ => .ok none

def isVector (column : Projected) : Bool :=
  match column.expr with
  | .call call => call.isVector
  | _ => false

def outputs (cx : Context) (column : Projected) : List PhysicalColumn :=
  match (cx.referenceMapping? column.expr).filter fun mapping => !mapping.isEmpty with
  | some mapping => mapping.map PhysicalColumn.output
  | none => [PhysicalColumn.named (column.name.getD "column")]

end Projected

namespace InsertSource

def name : InsertSource → String
  | .table t => t.sourceName
  | .derived d => d.asName
  | .query _ => "source"

def projection (cx : Context) : InsertSource → Except Error (List Projected)
  | .table t =>
    match cx.namedQuery? t.identifier with
    | some named => .ok named.firstSelect.columns
    | none => .error (.insertSourceUnresolved t.id t.identifier)
  | .derived d => .ok d.query.firstSelect.columns
  | .query q => .ok q.firstSelect.columns

/-- A query without the columns that draw from a sequence; the outer select draws for them. -/
def withoutVectors : Query → Query
  | .select s => .select { s with columns := s.columns.filter fun column => !column.isVector }
  | .union all left right order => .union all left right order

def emit (cx : Context) : InsertSource → Emit Sql
  | .table t => cx.tableSource t
  | .derived d => d.emit cx
  | .query q => do
    return ((← (withoutVectors q).emit cx).sql cx.dialect).parens ++ Sql.code " AS source"

end InsertSource

namespace Insert

/-- The column of `outputs` with the tag of a target column. -/
def taggedOutput (source : String) (column : Projected) (outputs : List PhysicalColumn)
    (target : PhysicalColumn) : Except Error InsertValue :=
  match outputs.find? fun output => output.tag.isSome && output.tag = target.tag with
  | some output => .ok (.copied source output.name)
  | none => .error (.insertMismatch column.id (column.name.getD "") target.name)

/-- The values of one property. Outputs of the source are paired with as many target columns by
position, else by tag. -/
def propertyValues (cx : Context) (source : String) (column : Projected)
    (targets : List PhysicalColumn) : Emit (List InsertValue) := do
  match ← column.sequence? with
  | some sequence => return [.next sequence]
  | none =>
    match column.expr with
    | .literal _ => return (← emitValues cx targets column.expr).map .written
    | _ =>
      let outputs := column.outputs cx
      if outputs.length = targets.length then
        return outputs.map fun output => .copied source output.name
      else Emit.ofExcept (targets.mapM (taggedOutput source column outputs))

/-- The columns of a property that are inserted. -/
def propertyTargets (property : Property) : List PhysicalColumn :=
  (property.orderedColumns.filter fun column => !column.isGenerated).map fun column =>
    ⟨column.name, none, some column.tag, none⟩

/-- The projected column of that name, up to ASCII case. -/
def matching (projection : List Projected) (property : Property) : Option Projected :=
  projection.find? fun column => column.name.any (Text.sameName · property.name)

def propertyLists (cx : Context) (source : String) (projection : List Projected)
    (property : Property) : Emit InsertLists :=
  if property.isGenerated then pure .empty
  else
    match matching projection property, propertyTargets property with
    | none, _ => pure .empty
    | some _, [] => pure .empty
    | some column, targets => do
      return ⟨targets.map (·.name), ← propertyValues cx source column targets⟩

def columnLists (cx : Context) (source : String) (column : Projected) : Emit InsertLists := do
  match ← column.sequence? with
  | some sequence => return ⟨[column.name.getD ""], [.next sequence]⟩
  | none =>
    let names := (column.outputs cx).map (·.name)
    return ⟨names, names.map (.copied source)⟩

def lists (cx : Context) (target : TableRef) (source : String) (projection : List Projected) :
    Emit InsertLists := do
  let parts ← match cx.tableBinding? target with
    | some (.entity entity) => Emit.all (entity.properties.map (propertyLists cx source projection))
    | _ => Emit.all (projection.map (columnLists cx source))
  let lists := parts.foldl InsertLists.append .empty
  if lists.columns.isEmpty then Emit.fail (.insertWithoutMatch target.id target.identifier)
  else return lists

def emitBody (cx : Context) (s : Insert) : Emit Sql := do
  let table ← cx.targetName s.target "INSERT"
  let projection ← s.source.projection cx
  let lists ← lists cx s.target s.source.name projection
  let ctes ← emitWith cx s.ctes "\n"
  let source ← s.source.emit cx
  return ctes ++ Sql.code ("INSERT INTO " ++ table ++ " (" ++ ", ".intercalate lists.columns ++
    ")\nSELECT\n") ++ Sql.join ",\n" (lists.values.map (InsertValue.sql cx.dialect)) ++
    Sql.code "\nFROM " ++ source

def emit (cx : Context) (s : Insert) : Emit Sql := do
  return (← s.emitBody cx) ++ Sql.code ";"

end Insert

end SqlEmit
