import SqlEmit.Statement.Insert
import SqlEmit.Statement.Change

/-! UPSERT: an UPDATE of the rows that the predicate matches, then an INSERT guarded by the same
predicate. -/
namespace SqlEmit.Upsert

/-- The rows to insert. Only one table or derived table can be inserted from. -/
def insertSource (s : Upsert) : Except Error InsertSource :=
  match s.source with
  | none => .error (.upsertWithoutSource s.id)
  | some (.table t) => .ok (.table t)
  | some (.derived d) => .ok (.derived d)
  | some (.join ..) => .error (.upsertFromJoin s.id)

/-- A source column by its name in the source. -/
def sourceColumns (cx : Context) (source : String) (ref : ColumnRef) : List PhysicalColumn :=
  match cx.columns? ref.id with
  | some mapping => mapping.map fun column =>
    { column with name := source ++ "." ++ column.columnName, asName := none }
  | none => [PhysicalColumn.named (source ++ "." ++ ref.columnName)]

/-- References of an expression to columns that a projection computes. -/
def computedRefs (cx : Context) (expr : Expr) : List ColumnRef :=
  expr.columnRefs.filter fun ref =>
    match cx.binding? ref.id with
    | some (.column _) => true
    | _ => false

/-- The context in which references to source columns carry the name of the source. Columns that
are named alike in the target stay apart from them. -/
def disambiguated (cx : Context) (s : Upsert) (source : String) : Context :=
  let refs := (s.predicate.toList ++ s.assignments.map (·.value)).flatMap (computedRefs cx)
  cx.withMappings (refs.map fun ref => (ref.id, sourceColumns cx source ref))

def changed (cx : Context) (s : Upsert) : Context :=
  match s.insertSource with
  | .ok source => s.disambiguated cx source.name
  | .error _ => cx

/-- Hints that keep other writers away between the update and the insert. -/
def updateHints (cx : Context) (target : TableRef) : List String :=
  match cx.dialect, cx.tableBinding? target with
  | .sqlServer, some (.entity _) => ["UPDLOCK", "SERIALIZABLE"]
  | .sqlServer, some .temporaryTable => ["UPDLOCK", "SERIALIZABLE"]
  | _, _ => []

def toUpdate (cx : Context) (s : Upsert) : Update where
  id := s.id
  ctes := s.ctes
  target := s.target
  assignments := s.assignments
  output := none
  source := s.source
  predicate := s.predicate
  hints := updateHints cx s.target

/-- The insert half without its guard. -/
def toInsert (s : Upsert) (source : InsertSource) : Insert where
  id := s.id
  ctes := s.ctes
  target := s.target
  source

/-- The condition that no row of the target matches the predicate. -/
def guardSql (table : String) (asName : Option String) (predicate : Option Sql) : Sql :=
  Sql.code "\nWHERE NOT EXISTS " ++
    (Sql.code ("SELECT 1 FROM " ++ aliased table asName) ++ Sql.clause " WHERE " predicate).parens

def emit (cx : Context) (s : Upsert) : Emit Sql := do
  let table ← cx.targetName s.target "UPSERT"
  if s.assignments.isEmpty then Emit.fail (.upsertWithoutSet s.id)
  let source ← s.insertSource
  let cx := s.disambiguated cx source.name
  let update ← if s.ignoreUpdate then pure Sql.empty
    else do pure ((← (s.toUpdate cx).emit cx) ++ Sql.code "\n")
  let insert ← (s.toInsert source).emitBody cx
  let predicate ← emitOption cx s.predicate
  return update ++ insert ++ guardSql table s.target.asName predicate ++ Sql.code ";"

end SqlEmit.Upsert
