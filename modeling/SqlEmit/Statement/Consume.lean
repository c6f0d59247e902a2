import SqlEmit.Emit.Query
import SqlEmit.Statement.Change
import SqlEmit.Statement.Consume.Stage

/-! CONSUME: a destructive read as one DELETE that returns the removed rows. A statement over one
table deletes what it selects. In a statement that joins the target to other tables the rows are
matched on the target's identity keys, so a row that the join repeats is removed once and no
other row with it. -/
namespace SqlEmit.Consume

/-- The name the target rows are qualified by. -/
def qualifier (table : TableRef) (tableName : String) : String :=
  (givenName table.asName).getD tableName

/-- The MS-SQL hint on the consumed table. Unless the order is strict, rows that others have locked
are passed over. -/
def lockHint (strictOrder : Bool) : String :=
  if strictOrder then "WITH (ROWLOCK)" else "WITH (ROWLOCK, READPAST)"

def lockClause (strictOrder : Bool) (target : String) : String :=
  "FOR UPDATE" ++ (if target.isEmpty then "" else " OF " ++ target) ++
    (if strictOrder then "" else " SKIP LOCKED")

/-- The rows to consume, with these columns. MS-SQL takes an ORDER BY inside a common table only
together with TOP. -/
def rows (dialect : Dialect) (s : Consume) (columns : List Projected) : Select where
  id := s.id
  distinct := false
  top := s.top
  columns
  intoTable := none
  source := s.source
  predicate := s.predicate
  grouping := []
  having := none
  order := dialect.pick (s.top.bind fun _ => s.order) s.order

def keyItems (qualifier : String) (keys : List String) : List (List Item) :=
  keys.map fun key => [.column (qualifier ++ "." ++ key) (some key)]

def isKey (qualifier : String) (keys : List String) (column : Carried) : Bool :=
  keys.any fun key =>
    key = column.name && (column.source = key || column.source = qualifier ++ "." ++ key)

def hiddenItem (column : Carried) : Item :=
  .column column.source <|
    if column.name ≠ column.columnName ∨ '.' ∈ column.source.toList then some column.name else none

/-- The sort columns that the keys do not already provide. -/
def hiddenItems (plan : Plan) (qualifier : String) (keys : List String) : List (List Item) :=
  (plan.hidden.filter fun column => !isKey qualifier keys column).map fun column => [hiddenItem column]

def hiddenType (cx : Context) (id : NodeId) (column : Carried) : Except Error String :=
  match column.typeName, column.role with
  | some typeName, _ => .ok typeName
  | none, .sortOnly ref place => do
    let definitions ← cx.columnDefinitions ⟨ref.id, .column ref, none⟩
    match definitions[place]? with
    | some definition => return definition.typeName
    | none => .error (.consumeShape id)
  | none, _ => .error (.consumeShape id)

/-- The columns of the table that restores the order: the projection, then the sort columns. -/
def resultDefinitions (cx : Context) (s : Consume) (plan : Plan) :
    Except Error (List ColumnDefinition) := do
  let projection ← cx.tableDefinition s.columns
  if projection.length ≠ plan.visible.length then .error (.consumeShape s.id)
  else
    let hidden ← plan.hidden.mapM fun column => do
      return (⟨column.name, ← hiddenType cx s.id column⟩ : ColumnDefinition)
    return List.zipWith (fun column definition => ⟨column.name, definition.typeName⟩) plan.visible projection ++
      hidden

/-- The declared table of `INTO`. -/
def declaredTable (cx : Context) (s : Consume) : Except Error (Option (TableRef × List ColumnDefinition)) :=
  match s.intoTable with
  | none => .ok none
  | some table => do return some (table, ← cx.tableDefinition s.columns)

def destination (cx : Context) (declared : Option (TableRef × List ColumnDefinition)) :
    Except Error Destination :=
  match declared with
  | none => .ok .caller
  | some (table, columns) => do
    return .table (cx.dialect.tableVariableName table.identifier) columns (← cx.tableName table)

/-- One table: the rows are deleted through the stage that selects them. -/
def sqlServerDirect (cx : Context) (s : Consume) (table : TableRef) (plan : Plan) : Emit StagedDelete := do
  let cx := cx.withHint table.id (lockHint s.strictOrder)
  let declared ← declaredTable cx s
  let rows ← (rows .sqlServer s s.columns).emit cx
  return .sqlServer rows .direct plan.visibleNames (← destination cx declared)

/-- A join: the table is matched to the stage on its keys. An order that the caller is to see goes
through a table variable. -/
def sqlServerJoined (cx : Context) (s : Consume) (table : TableRef) (tableName : String)
    (index : Index) (plan : Plan) : Emit StagedDelete := do
  let cx := cx.withHint table.id (lockHint s.strictOrder)
  let target := qualifier table tableName
  let keys := index.keyNames
  let removal := Removal.joined target (aliased tableName table.asName) keys
  if !plan.order.isEmpty && s.intoTable.isNone then
    let definitions ← resultDefinitions cx s plan
    let rows ← (rows .sqlServer s s.columns).emit cx
    let rows := { rows with columns := keyItems target keys ++ hiddenItems plan target keys ++ rows.columns }
    let final := {
      stage := "result"
      source := resultTable ++ " AS result"
      columns := plan.visibleNames
      intoTable := none
      order := plan.order }
    return .sqlServer rows removal plan.names (.sorted definitions final)
  else
    let declared ← declaredTable cx s
    let rows ← (rows .sqlServer s s.columns).emit cx
    let rows := { rows with columns := keyItems target keys ++ rows.columns }
    return .sqlServer rows removal plan.visibleNames (← destination cx declared)

def returnedItem (column : Carried) : Item :=
  let source := "source." ++ column.columnName
  if column.isLength then
    .computed (Sql.code "OCTET_LENGTH" ++ ((Sql.code source).cast "text").parens) (some column.name)
  else Item.ofPhysical .postgres ⟨source, some column.name, none, column.typeName⟩

def finalSelect (cx : Context) (s : Consume) (plan : Plan) (stage : String) : Emit FinalSelect := do
  return {
    stage
    source := stage
    columns := plan.visibleNames
    intoTable := ← Emit.optional (s.intoTable.map fun table => (cx.tableName table : Emit String))
    order := plan.order }

/-- One table: its keys are selected and locked, then deleted. -/
def postgresDirect (cx : Context) (s : Consume) (tableName : String) (index : Index) (plan : Plan) :
    Emit StagedDelete := do
  let rows ← (rows .postgres s []).emit cx
  let rows := { rows with
    columns := index.keyNames.map fun key => [.column key none]
    lock := some (lockClause s.strictOrder "") }
  let final ← finalSelect cx s plan "queue"
  return .postgres ⟨"filter", "queue", "source"⟩ rows tableName index.keyNames
    (.columns (plan.carried.map returnedItem)) final

/-- A join: the projection is selected next to the keys. -/
def postgresJoined (cx : Context) (s : Consume) (table : TableRef) (tableName : String)
    (index : Index) (plan : Plan) : Emit StagedDelete := do
  let target := qualifier table tableName
  let keys := index.keyNames
  let rows ← (rows .postgres s s.columns).emit cx
  let rows := { rows with
    columns := keyItems target keys ++ hiddenItems plan target keys ++ rows.columns
    lock := some (lockClause s.strictOrder target) }
  let final ← finalSelect cx s plan "source"
  return .postgres ⟨"changes", "source", "target"⟩ rows tableName keys (.readBack plan.names) final

/-- The consumed table: the leading one of the source, which has to be an entity. -/
def consumedTable (cx : Context) (s : Consume) : Except Error (TableRef × String) :=
  match s.source.bind Source.leadingTable with
  | none => .error (.consumeWithoutTarget s.id)
  | some table =>
    match cx.tableBinding? table with
    | some (.entity entity) => .ok (table, entity.tableName)
    | _ => .error (.consumeWithoutEntity table.id)

def isDirect (s : Consume) : Bool :=
  match s.source with
  | some (.table _) => true
  | _ => false

def identityIndex (cx : Context) (table : TableRef) (tableName : String) : Except Error Index :=
  match cx.identityIndex? tableName with
  | some index => .ok index
  | none => .error (.consumeWithoutIndex table.id)

def staged (cx : Context) (s : Consume) : Emit StagedDelete := do
  let (table, tableName) ← s.consumedTable cx
  let name := qualifier table tableName
  match cx.dialect, s.isDirect with
  | .sqlServer, true => s.sqlServerDirect cx table (← Plan.ofStatement cx s name [])
  | .postgres, true =>
    let index ← identityIndex cx table tableName
    s.postgresDirect cx tableName index (← Plan.ofStatement cx s name [])
  | .sqlServer, false =>
    let index ← identityIndex cx table tableName
    s.sqlServerJoined cx table tableName index (← Plan.ofStatement cx s name index.keyNames)
  | .postgres, false =>
    let index ← identityIndex cx table tableName
    s.postgresJoined cx table tableName index (← Plan.ofStatement cx s name index.keyNames)

/-- A statement for a stream processor has no SQL. -/
def emit (cx : Context) (s : Consume) : Emit Sql := do
  if (givenName s.target).isSome then return Sql.empty
  return (← s.staged cx).sql

/-- The context as the statement leaves it. On MS-SQL the hint on the consumed table stays. -/
def changed (cx : Context) (s : Consume) : Context :=
  match cx.dialect, givenName s.target, s.consumedTable cx with
  | .sqlServer, none, .ok (table, _) => cx.withHint table.id (lockHint s.strictOrder)
  | _, _, _ => cx

end SqlEmit.Consume
