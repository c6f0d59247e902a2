import SqlEmit.Emit.Call
import SqlEmit.Moment
import SqlEmit.SelectSql

/-! Expressions, queries and row sources. Parts are written from left to right, and their calls are
deferred in that order. -/
namespace SqlEmit

namespace Context

/-- The SQL of a literal. A datetime literal that is no datetime stands as it was written. -/
def literalSql (cx : Context) (literal : Literal) : Except Error Sql :=
  let text := literal.text
  match literal.kind with
  | .boolean => .ok (cx.dialect.boolLiteral (Literal.isTrue text))
  | .dateTime =>
    match Moment.formatLiteral text cx.yearOffset.toInt with
    | some shifted => .ok (cx.dialect.datetimeLiteral shifted)
    | none => .ok text
  | .string => .ok (Sql.string cx.dialect text)
  | .uuid => do return cx.dialect.uuidLiteral (← Literal.readUuid text)
  | .entity => do return cx.dialect.uuidLiteral (← Literal.readEntity text).2
  | .binary => .ok (cx.dialect.binaryLiteral text)
  | .number => .ok text
  | .null => .ok "NULL"

def items (cx : Context) (mapping : List PhysicalColumn) : List Item :=
  mapping.map (Item.ofPhysical cx.dialect)

/-- The physical columns of a reference, or the identity of an enumeration value. -/
def columnSql (cx : Context) (ref : ColumnRef) : Except Error Sql :=
  match cx.mapping? ref.id with
  | some mapping => .ok (Item.lineSql (cx.items mapping))
  | none =>
    match cx.binding? ref.id with
    | some (.enumValue identity) => .ok (cx.dialect.uuidLiteral identity)
    | _ => .error (.columnUnresolved ref.id ref.identifier)

/-- A parameter of the statement. PostgreSQL reads strings as `mvarchar`. -/
def parameterSql (cx : Context) (id : NodeId) (name : String) : Sql :=
  if cx.dialect = .postgres ∧ cx.binding? id = some (.primitive .string) then
    (Sql.code name).cast "mvarchar"
  else Sql.code name

end Context

def WindowFrame.extent (frame : WindowFrame) : Option String :=
  match frame.start, frame.stop with
  | some start, some stop => some ("BETWEEN " ++ start.text ++ " AND " ++ stop.text)
  | some bound, none => some bound.text
  | none, some bound => some bound.text
  | none, none => none

def WindowFrame.clause (frame : WindowFrame) : Option Sql :=
  frame.extent.map fun extent => Sql.code (frame.kind.text ++ " " ++ extent)

def overSql (partition : List Sql) (order : List (List KeySql)) (frame : Option WindowFrame) : Sql :=
  let partitionPart := if partition.isEmpty then none
    else some (Sql.code "PARTITION BY " ++ Sql.join ", " partition)
  let orderPart := if order.isEmpty then none
    else some (Sql.code "ORDER BY " ++ SortSql.keyList order)
  let parts := [partitionPart, orderPart, frame.bind WindowFrame.clause].filterMap id
  Sql.code "OVER" ++ (Sql.join " " parts).parens

def caseSql (branches : List (Sql × Sql)) (otherwise : Option Sql) : Sql :=
  Sql.code "CASE" ++
    Sql.join "" (branches.map fun (condition, result) =>
      Sql.code " WHEN " ++ condition ++ Sql.code " THEN " ++ result) ++
    Sql.clause " ELSE " otherwise ++ Sql.code " END"

def binarySql (left : Sql) (op : String) (right : Sql) : Sql :=
  left ++ Sql.code (" " ++ op ++ " ") ++ right

def derivedSql (query : Sql) (asName : String) : Sql :=
  query.parens ++ (if asName.isEmpty then Sql.empty else Sql.code (" AS " ++ asName))

/-- How two row sources are joined: the keyword, and the condition that the keyword itself needs. -/
def Dialect.joinForm (dialect : Dialect) (kind : JoinKind) : String × String :=
  match kind with
  | .crossApply => dialect.applyJoin false
  | .outerApply => dialect.applyJoin true
  | kind => (kind.text ++ " JOIN", "")

mutual

def Expr.emit (cx : Context) : Expr → Emit Sql
  | .column ref => cx.columnSql ref
  | .literal literal => cx.literalSql literal
  | .variableRef ref => pure (cx.parameterSql ref.id ref.identifier)
  | .memberRef ref => pure (cx.parameterSql ref.id ref.parameterName)
  | .call ⟨id, name, args, distinct, window⟩ =>
    cx.writeCall ⟨id, name, args, distinct, window⟩ (emitEach cx args) (emitWindow cx window)
  | .caseWhen branches otherwise => do
    return caseSql (← Emit.all (emitBranches cx branches)) (← emitOption cx otherwise)
  | .unary op operand => do return Sql.code op.text ++ (← operand.emit cx)
  | .logical op left right => do return binarySql (← left.emit cx) op.text (← right.emit cx)
  | .arithmetic op left right => do return binarySql (← left.emit cx) op.text (← right.emit cx)
  | .compare op modifier left right => do
    return binarySql (← left.emit cx) (op.spelled modifier) (← right.emit cx)
  | .group inner => do return (← inner.emit cx).parens
  | .values items => do return (Sql.join ", " (← Emit.all (emitEach cx items))).parens
  | .subquery query => do return ((← query.emit cx).sql cx.dialect).parens
  | .star => pure "*"

def emitEach (cx : Context) : List Expr → List (Emit Sql)
  | [] => []
  | e :: es => e.emit cx :: emitEach cx es

def emitOption (cx : Context) : Option Expr → Emit (Option Sql)
  | none => pure none
  | some e => do return some (← e.emit cx)

def emitBranches (cx : Context) : List Branch → List (Emit (Sql × Sql))
  | [] => []
  | ⟨condition, result⟩ :: branches =>
    (do return (← condition.emit cx, ← result.emit cx)) :: emitBranches cx branches

def emitWindow (cx : Context) : Option Window → Option (Emit Sql)
  | none => none
  | some w => some (w.emit cx)

def Window.emit (cx : Context) : Window → Emit Sql
  | ⟨partition, order, frame⟩ => do
    return overSql (← Emit.all (emitEach cx partition)) (← emitWindowKeys cx order) frame

def emitWindowKeys (cx : Context) : Option SortClause → Emit (List (List KeySql))
  | none => pure []
  | some ⟨items, _, _⟩ => Emit.all (emitKeys cx items)

/-- The keys of each item. A reference is sorted by all of its physical columns. -/
def emitKeys (cx : Context) : List SortItem → List (Emit (List KeySql))
  | [] => []
  | ⟨expr, descending⟩ :: items =>
    (match cx.referenceMapping? expr with
      | some mapping => pure (mapping.map fun column => ⟨column.name, descending⟩)
      | none => do return [⟨← expr.emit cx, descending⟩]) :: emitKeys cx items

/-- An order without items is no order, and a fetch count needs an offset. -/
def SortClause.emit (cx : Context) : SortClause → Emit (Option SortSql)
  | ⟨items, offset, fetch⟩ =>
    if items.isEmpty then pure none
    else do
      let keys ← Emit.all (emitKeys cx items)
      let offset ← emitOption cx offset
      let fetch ← if offset.isNone then pure none else emitOption cx fetch
      return some ⟨keys, offset, fetch⟩

def emitOrder (cx : Context) : Option SortClause → Emit (Option SortSql)
  | none => pure none
  | some order => order.emit cx

def Query.emit (cx : Context) : Query → Emit QuerySql
  | .select s => do return .select (← s.emit cx)
  | .union all left right order => do
    return .union all (← left.emit cx) (← right.emit cx) (← emitOrder cx order)

def Select.emit (cx : Context) : Select → Emit SelectSql
  | ⟨_, distinct, top, columns, intoTable, source, predicate, grouping, having, order⟩ => do
    return {
      distinct
      top := ← cx.dialect.pick (emitOption cx top) (pure none)
      columns := ← Emit.all (emitProjection cx columns)
      intoTable := ← Emit.optional (intoTable.map fun table => (cx.tableName table : Emit String))
      source := ← emitSource cx source
      predicate := ← emitOption cx predicate
      grouping := ← Emit.all (emitEach cx grouping)
      having := ← emitOption cx having
      order := ← emitOrder cx order
      limit := ← cx.dialect.pick (pure none) (emitOption cx top)
      lock := none }

def emitProjection (cx : Context) : List Projected → List (Emit (List Item))
  | [] => []
  | column :: columns => column.items cx :: emitProjection cx columns

/-- The entries of a projected column. A mapped reference has one for each physical column, and the
mapping gives them their names. -/
def Projected.items (cx : Context) : Projected → Emit (List Item)
  | ⟨_, expr, asName⟩ =>
    match cx.referenceMapping? expr with
    | some mapping => pure (cx.items mapping)
    | none => do return [.computed (← expr.emit cx) asName]

def emitSource (cx : Context) : Option Source → Emit (Option Sql)
  | none => pure none
  | some source => do return some (← source.emit cx)

/-- Of an appended source nothing is written. -/
def Source.emit (cx : Context) : Source → Emit Sql
  | .table table => cx.tableSource table
  | .derived derived => derived.emit cx
  | .join kind left right condition => do
    let left ← left.emit cx
    if kind = .append then return left
    let form := cx.dialect.joinForm kind
    let right ← right.emit cx
    let condition ← if form.2.isEmpty then emitOption cx condition else pure none
    return left ++ Sql.code ("\n" ++ form.1 ++ " ") ++ right ++ Sql.code form.2 ++
      Sql.clause "\nON " condition

def Derived.emit (cx : Context) : Derived → Emit Sql
  | ⟨_, query, asName⟩ => do return derivedSql ((← query.emit cx).sql cx.dialect) asName

end

def Cte.emit (cx : Context) (cte : Cte) : Emit Sql := do
  return Sql.code (cte.name ++ " AS\n") ++ ((← cte.query.emit cx).sql cx.dialect).parens

/-- Common table expressions behind their keyword, separated by commas. -/
def withSql (dialect : Dialect) (ctes : List Cte) (written : List Sql) : Sql :=
  Sql.code ("WITH " ++ if ctes.any Cte.isRecursive then dialect.recursiveKeyword else "") ++
    Sql.join ",\n" written

/-- The WITH clause of a statement, followed by `ending`; nothing without common tables. -/
def emitWith (cx : Context) (ctes : List Cte) (ending : String) : Emit Sql :=
  if ctes.isEmpty then pure Sql.empty
  else do
    let written ← Emit.all (ctes.map (Cte.emit cx))
    return withSql cx.dialect ctes written ++ Sql.code ending

end SqlEmit
