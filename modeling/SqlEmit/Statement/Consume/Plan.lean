import SqlEmit.Context

/-! The columns that flow through the stages of a destructive read. Columns of the ORDER BY that the
projection lacks are carried to the end under names of their own and then dropped. -/
namespace SqlEmit.Consume

inductive Role where
  | projected
  /-- The number of bytes of the source column is projected. -/
  | length
  /-- A sort key that is not projected, from that place in the mapping of a reference. -/
  | sortOnly (ref : ColumnRef) (place : Nat)
  deriving DecidableEq

structure Carried where
  /-- The column as written against the source rows. -/
  source : String
  /-- The name under which the column leaves every stage. -/
  name : String
  typeName : Option String
  role : Role
  deriving DecidableEq

namespace Carried

def columnName (column : Carried) : String :=
  Text.unqualified column.source

def isHidden (column : Carried) : Bool :=
  match column.role with
  | .sortOnly .. => true
  | _ => false

def isLength (column : Carried) : Bool :=
  column.role = .length

end Carried

structure SortKey where
  name : String
  descending : Bool
  deriving DecidableEq

/-- Projected columns, then those that are carried for the order only. -/
structure Plan where
  carried : List Carried
  order : List SortKey
  deriving DecidableEq

/-- A single column takes the alias of the projection, others keep their output names. -/
def carriedColumns (asName : Option String) (mapping : List PhysicalColumn) : List Carried :=
  mapping.map fun column =>
    { source := column.name
      name := (asName.filter fun _ => mapping.length = 1).getD column.outputName
      typeName := column.typeName
      role := .projected }

/-- The first physical column of a length argument. -/
def lengthSource (cx : Context) (call : Call) : Option String :=
  match call.args with
  | .column ref :: _ => ((cx.mapping? ref.id).bind List.head?).map (·.name)
  | _ => none

/-- The columns of one projected column: a reference, or the length of one under an alias. -/
def projected (cx : Context) (column : Projected) : Except Error (List Carried) :=
  match column.expr with
  | .column ref =>
    match cx.columns? ref.id with
    | some mapping => .ok (carriedColumns column.asName mapping)
    | none => .error (.columnUnresolved ref.id ref.identifier)
  | .call call =>
    if call.isNamed "DATALENGTH" then
      match column.asName with
      | none => .error (.consumeLengthUnnamed column.id)
      | some name =>
        match lengthSource cx call with
        | none => .error (.consumeLengthArgument column.id)
        | some source => .ok [⟨source, name, none, .length⟩]
    else .error (.consumeColumn column.id (column.name.getD "expression"))
  | _ => .error (.consumeColumn column.id (column.name.getD "expression"))

/-- The name with the fewest underscores behind it that is not taken, among `steps` many. -/
def untaken (taken : List String) : Nat → String → String
  | 0, name => name
  | steps + 1, name => if name ∈ taken then untaken taken steps (name.push '_') else name

/-- Whether a column belongs to the table that rows are taken out of. -/
def isTargetColumn (qualifier : String) (column : PhysicalColumn) : Bool :=
  column.name = column.columnName || column.name = qualifier ++ "." ++ column.columnName

/-- The names that an order column must avoid. A column of the target may share the name of a
key. -/
def takenNames (carried : List Carried) (qualifier : String) (reserved : List String)
    (column : PhysicalColumn) : List String :=
  carried.map (·.name) ++ if isTargetColumn qualifier column then [] else reserved

/-- The name of an order column: the physical one, with its table in front if that is taken. -/
def hiddenName (carried : List Carried) (qualifier : String) (reserved : List String)
    (column : PhysicalColumn) : String :=
  let taken := takenNames carried qualifier reserved column
  if column.columnName ∈ taken then
    let table := (Text.splitIdentifier column.name).1.getD qualifier
    untaken taken taken.length (table ++ "_" ++ column.columnName)
  else column.columnName

namespace Plan

/-- Sorts by one more physical column, which is carried along if it is not yet. -/
def addKey (qualifier : String) (reserved : List String) (ref : ColumnRef) (descending : Bool)
    (plan : Plan) (place : Nat) (column : PhysicalColumn) : Plan :=
  match plan.carried.find? fun carried => !carried.isLength && carried.source = column.name with
  | some known => { plan with order := plan.order ++ [⟨known.name, descending⟩] }
  | none =>
    let name := hiddenName plan.carried qualifier reserved column
    { carried := plan.carried ++ [⟨column.name, name, column.typeName, .sortOnly ref place⟩]
      order := plan.order ++ [⟨name, descending⟩] }

def addKeysFrom (qualifier : String) (reserved : List String) (ref : ColumnRef)
    (descending : Bool) : Plan → Nat → List PhysicalColumn → Plan
  | plan, _, [] => plan
  | plan, place, column :: columns =>
    addKeysFrom qualifier reserved ref descending
      (addKey qualifier reserved ref descending plan place column) (place + 1) columns

/-- Sorts by one item of the ORDER BY, which has to be a column reference. -/
def addItem (cx : Context) (id : NodeId) (qualifier : String) (reserved : List String)
    (plan : Plan) (item : SortItem) : Except Error Plan :=
  match item.expr with
  | .column ref =>
    match cx.mapping? ref.id with
    | some mapping => .ok (addKeysFrom qualifier reserved ref item.descending plan 0 mapping)
    | none => .error (.columnUnresolved ref.id ref.identifier)
  | _ => .error (.consumeOrder id)

/-- `qualifier` names the target rows; `reserved` are the key columns that a stage selects next to
the projection. -/
def ofStatement (cx : Context) (s : Consume) (qualifier : String) (reserved : List String) :
    Except Error Plan := do
  let carried := (← s.columns.mapM (projected cx)).flatten
  let items := (s.order.map (·.items)).getD []
  items.foldlM (addItem cx s.id qualifier reserved) ⟨carried, []⟩

def visible (plan : Plan) : List Carried :=
  plan.carried.filter fun column => !column.isHidden

def hidden (plan : Plan) : List Carried :=
  plan.carried.filter Carried.isHidden

def names (plan : Plan) : List String :=
  plan.carried.map (·.name)

def visibleNames (plan : Plan) : List String :=
  plan.visible.map (·.name)

end Plan

end SqlEmit.Consume
