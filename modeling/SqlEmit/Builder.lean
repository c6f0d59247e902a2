import SqlEmit.Script.Statement

/-! Building scripts: node ids are handed out in order, and what the nodes denote is recorded as
they are made. -/
namespace SqlEmit

structure Builder where
  /-- The last id handed out. -/
  last : UInt32
  bindings : Bindings

namespace Builder

def empty : Builder := ⟨0, Bindings.empty⟩

def nextId (b : Builder) : NodeId × Builder :=
  (⟨b.last + 1⟩, { b with last := b.last + 1 })

def bind (b : Builder) (id : NodeId) (binding : Binding) : Builder :=
  { b with bindings := b.bindings.bind id binding }

def map (b : Builder) (id : NodeId) (mapping : List PhysicalColumn) : Builder :=
  { b with bindings := b.bindings.map id mapping }

def bound (b : Builder) (binding : Binding) : NodeId × Builder :=
  let (id, b) := b.nextId
  (id, b.bind id binding)

def table (b : Builder) (identifier : String) (asName : Option String) (binding : Binding) :
    TableRef × Builder :=
  let (id, b) := b.bound binding
  (⟨id, identifier, asName⟩, b)

def entityTable (b : Builder) (entity : Entity) (asName : Option String) : Source × Builder :=
  let (table, b) := b.table entity.name asName (.entity entity)
  (.table table, b)

/-- A column reference. An empty mapping is not recorded. -/
def columnRef (b : Builder) (identifier : String) (binding : Binding)
    (mapping : List PhysicalColumn) : ColumnRef × Builder :=
  let (id, b) := b.bound binding
  (⟨id, identifier⟩, if mapping.isEmpty then b else b.map id mapping)

def physical (table : Option String) (column : SchemaColumn) : PhysicalColumn :=
  ⟨Text.qualify table column.name, none, some column.tag, some column.sqlType⟩

def property (b : Builder) (table : Option String) (property : Property) : ColumnRef × Builder :=
  b.columnRef (Text.qualify table property.name) (.property property)
    (property.orderedColumns.map (physical table))

/-- The output name of one column of a property: a property with several columns has the purposes
behind its name. -/
def outputName (property : Property) (asName : Option String) (column : SchemaColumn) : String :=
  let name := asName.getD property.name
  if property.orderedColumns.length = 1 ∨ column.purpose.suffix.isEmpty then name
  else name ++ "_" ++ column.purpose.suffix

def selectProperty (b : Builder) (table : Option String) (property : Property)
    (asName : Option String) : Projected × Builder :=
  let mapping := property.orderedColumns.map fun column =>
    { physical table column with asName := some (outputName property asName column) }
  let (ref, b) := b.columnRef (Text.qualify table property.name) (.property property) mapping
  let (id, b) := b.nextId
  (⟨id, .column ref, asName⟩, b)

/-- The columns under which a projected column is read from a derived table. -/
def derivedMapping (b : Builder) (table : String) (parent : Projected) : List PhysicalColumn :=
  match parent.expr with
  | .column ref => ((b.bindings.mapping? ref.id).getD []).map fun column =>
    { column.output with name := Text.qualify (some table) column.outputName }
  | _ => [PhysicalColumn.named (Text.qualify (some table) (parent.name.getD ""))]

/-- A column of a derived table or common table where its value is used. -/
def derivedColumn (b : Builder) (table : String) (parent : Projected) : ColumnRef × Builder :=
  b.columnRef (Text.qualify (some table) (parent.name.getD "")) (.column parent.id)
    (b.derivedMapping table parent)

/-- A column of a derived table or common table in a projection, under the same names. -/
def selectDerived (b : Builder) (table : String) (parent : Projected) : Projected × Builder :=
  let (ref, b) := b.derivedColumn table parent
  let mapping := ((b.bindings.mapping? ref.id).getD []).map fun column =>
    { column with asName := some column.columnName }
  let (id, b) := b.nextId
  let b := match b.bindings.binding? ref.id with
    | some binding => b.bind id binding
    | none => b
  let b := b.map id mapping
  let (columnId, b) := b.nextId
  (⟨columnId, .column ⟨id, ref.identifier⟩, none⟩, b)

def computed (b : Builder) (expr : Expr) (asName : String) : Projected × Builder :=
  let (id, b) := b.nextId
  (⟨id, expr, some asName⟩, b)

def function (b : Builder) (name : String) (args : List Expr) : Call × Builder :=
  let (id, b) := b.nextId
  (⟨id, name, args, false, none⟩, b)

def variableRef (b : Builder) (identifier : String) (type : PrimitiveType) : Expr × Builder :=
  let (id, b) := b.bound (.primitive type)
  (.variableRef ⟨id, identifier⟩, b)

def select (b : Builder) (columns : List Projected) (source : Option Source) : Select × Builder :=
  let (id, b) := b.nextId
  (.plain id columns source, b)

def derived (b : Builder) (query : Query) (asName : String) : Derived × Builder :=
  let (id, b) := b.bound .derivedTable
  (⟨id, query, asName⟩, b)

def finish (b : Builder) (statements : List Statement) : Script :=
  ⟨statements, b.bindings⟩

end Builder

end SqlEmit
