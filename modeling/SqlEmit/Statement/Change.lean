import SqlEmit.Emit.Query

/-! UPDATE and DELETE, and the parts that the statements changing a table share: assigned values, returned rows
and the clauses that name the changed table. MS-SQL returns rows before FROM, PostgreSQL at the end. -/
namespace SqlEmit

/-- The part of an entity reference that a column stores. -/
def entityPart (dialect : Dialect) (code : Int32) (identity : Uuid) (column : PhysicalColumn) :
    Except Error Sql :=
  match column.tag with
  | some .tag => .ok (dialect.bytesLiteral "08")
  | some .typeCode => .ok (dialect.bytesLiteral (Literal.typeCodeHex code))
  | some .entity => .ok (dialect.uuidLiteral identity)
  | _ => .error (.valueShape column.name)

/-- The values of a literal for a target of several columns. NULL goes into each of them, an entity
reference by the tags of the columns. -/
def spreadValue (dialect : Dialect) (first : PhysicalColumn) (target : List PhysicalColumn) :
    Expr → Except Error (List Sql)
  | .literal ⟨.null, _⟩ => .ok (target.map fun _ => Sql.code "NULL")
  | .literal ⟨.entity, text⟩ => do
    let (code, identity) ← Literal.readEntity text
    target.mapM (entityPart dialect code identity)
  | _ => .error (.valueShape first.name)

/-- The values that a target of one or more columns takes. A reference with as many columns is
paired by position. -/
def emitValues (cx : Context) (target : List PhysicalColumn) (value : Expr) : Emit (List Sql) :=
  match target with
  | [] => Emit.fail .assignmentWithoutColumns
  | [_] => do return [← value.emit cx]
  | first :: _ =>
    match (cx.referenceMapping? value).filter (·.length = target.length) with
    | some mapping => pure (mapping.map fun column => Sql.code column.name)
    | none => spreadValue cx.dialect first target value

def Assignment.columns (cx : Context) (assignment : Assignment) :
    Except Error (List PhysicalColumn) :=
  match cx.columns? assignment.column.id with
  | some mapping => .ok mapping
  | none => .error (.columnUnresolved assignment.column.id assignment.column.identifier)

/-- The columns that an assignment sets, without their table, each with its value. -/
def Assignment.emit (cx : Context) (assignment : Assignment) : Emit (List (String × Sql)) := do
  let columns ← assignment.columns cx
  return (columns.map PhysicalColumn.columnName).zip (← emitValues cx columns assignment.value)

/-- The assignments of a SET clause, one for each physical column. -/
def emitAssignments (cx : Context) (assignments : List Assignment) : Emit (List (String × Sql)) := do
  return (← Emit.all (assignments.map (Assignment.emit cx))).flatten

def assignmentsSql (assignments : List (String × Sql)) : Sql :=
  Sql.join ",\n" (assignments.map fun (column, value) => Sql.code (column ++ " = ") ++ value)

/-- The column in a row image (`inserted` or `deleted`), if it has no table yet. -/
def PhysicalColumn.inImage (image : String) (column : PhysicalColumn) : PhysicalColumn :=
  if '.' ∈ column.name.toList then column else { column with name := image ++ "." ++ column.name }

/-- The context in which the columns of a projection belong to a row image. -/
def Context.withImage (cx : Context) (image : String) (columns : List Projected) : Context :=
  cx.withMappings <| (columns.flatMap (·.expr.columnRefs)).filterMap fun ref =>
    (cx.mapping? ref.id).map fun mapping => (ref.id, mapping.map (PhysicalColumn.inImage image))

def emitReturned (cx : Context) (columns : List Projected) : Emit Sql := do
  return Item.listSql (← Emit.all (emitProjection cx columns))

def Output.images (cx : Context) (image : String) : Option Output → Context
  | none => cx
  | some output => cx.withImage image output.columns

def Output.emit (cx : Context) : Option Output → Emit Sql
  | none => pure Sql.empty
  | some ⟨columns, intoTable⟩ => do
    let list ← emitReturned cx columns
    match intoTable with
    | none => return Sql.code "\nOUTPUT\n" ++ list
    | some table => return Sql.code "\nOUTPUT\n" ++ list ++ Sql.code ("\nINTO " ++ (← cx.tableName table))

/-- A PostgreSQL statement with the rows it returns. Rows that go into a table are selected from
the statement, which then stands in a common table of its own. -/
def emitReturning (cx : Context) (ctes : List Cte) (body : Sql) (output : Option Output) :
    Emit Sql := do
  match output with
  | none =>
    return (← emitWith cx ctes "\n") ++ body ++ Sql.code ";"
  | some ⟨columns, none⟩ =>
    let list ← emitReturned cx columns
    return (← emitWith cx ctes "\n") ++ body ++ Sql.code "\nRETURNING\n" ++ list ++ Sql.code ";"
  | some ⟨columns, some table⟩ =>
    let list ← emitReturned cx columns
    let ctes ← if ctes.isEmpty then pure (Sql.code "WITH ") else emitWith cx ctes ",\n"
    let name ← cx.tableName table
    return ctes ++ Sql.code "output AS\n" ++ (body ++ Sql.code "\nRETURNING\n" ++ list).parens ++
      Sql.code ("\nSELECT * " ++ cx.dialect.intoKeyword ++ " " ++ name ++ "\nFROM output;")

def aliased (table : String) (asName : Option String) : String :=
  match givenName asName with
  | some name => table ++ " AS " ++ name
  | none => table

/-- The FROM clause of an MS-SQL statement that changes a table. A table with an alias is listed
in front of the other rows. -/
def changedFrom (table : String) (asName : Option String) (hints : String) (source : Option Sql) :
    Sql :=
  match givenName asName with
  | some name =>
    Sql.code ("\nFROM " ++ table ++ " AS " ++ name ++ hints) ++ Sql.clause ", " source
  | none => Sql.clause "\nFROM " source

namespace Update

def hintText (hints : List String) : String :=
  if hints.isEmpty then "" else " WITH (" ++ ", ".intercalate hints ++ ")"

/-- MS-SQL. The columns of returned rows are those of the `inserted` image from there on. -/
def emitSqlServer (cx : Context) (s : Update) (table : String) : Emit Sql := do
  let ctes ← emitWith cx s.ctes "\n"
  let hints := hintText s.hints
  let target := (givenName s.target.asName).getD (table ++ hints)
  let assignments ← emitAssignments cx s.assignments
  let imaged := Output.images cx "inserted" s.output
  let output ← Output.emit imaged s.output
  let source ← emitSource imaged s.source
  let predicate ← emitOption imaged s.predicate
  return ctes ++ Sql.code ("UPDATE " ++ target ++ "\nSET ") ++ assignmentsSql assignments ++ output ++
    changedFrom table s.target.asName hints source ++ Sql.clause "\nWHERE " predicate ++ Sql.code ";"

def emitPostgres (cx : Context) (s : Update) (table : String) : Emit Sql := do
  let assignments ← emitAssignments cx s.assignments
  let source ← emitSource cx s.source
  let predicate ← emitOption cx s.predicate
  let body := Sql.code ("UPDATE " ++ aliased table s.target.asName ++ "\nSET ") ++
    assignmentsSql assignments ++ Sql.clause "\nFROM " source ++ Sql.clause "\nWHERE " predicate
  emitReturning cx s.ctes body s.output

def emit (cx : Context) (s : Update) : Emit Sql := do
  let table ← cx.targetName s.target "UPDATE"
  match cx.dialect with
  | .sqlServer => s.emitSqlServer cx table
  | .postgres => s.emitPostgres cx table

end Update

namespace Delete

/-- MS-SQL. The columns of returned rows are those of the `deleted` image from there on. -/
def emitSqlServer (cx : Context) (s : Delete) (table : String) : Emit Sql := do
  let ctes ← emitWith cx s.ctes "\n"
  let target := (givenName s.target.asName).getD table
  let imaged := Output.images cx "deleted" s.output
  let output ← Output.emit imaged s.output
  let source ← emitSource imaged s.source
  let predicate ← emitOption imaged s.predicate
  return ctes ++ Sql.code ("DELETE " ++ target) ++ output ++
    changedFrom table s.target.asName "" source ++ Sql.clause "\nWHERE " predicate ++ Sql.code ";"

/-- The tables that the predicate refers to besides the target. -/
def otherTables (s : Delete) : Option Sql :=
  match s.predicate with
  | none => none
  | some predicate =>
    match predicate.qualifiers s.target.sourceName with
    | [] => none
    | tables => some (Sql.code (", ".intercalate tables))

def emitPostgres (cx : Context) (s : Delete) (table : String) : Emit Sql := do
  let source ← emitSource cx s.source
  let predicate ← emitOption cx s.predicate
  let body := Sql.code ("DELETE FROM " ++ aliased table s.target.asName) ++
    Sql.clause " USING " (source.or s.otherTables) ++ Sql.clause "\nWHERE " predicate
  emitReturning cx s.ctes body s.output

def emit (cx : Context) (s : Delete) : Emit Sql := do
  let table ← cx.targetName s.target "DELETE"
  match cx.dialect with
  | .sqlServer => s.emitSqlServer cx table
  | .postgres => s.emitPostgres cx table

end Delete

end SqlEmit
