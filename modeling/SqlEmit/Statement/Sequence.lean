import SqlEmit.Statement.Insert

/-! Sequences, and triggers that fill a column from a sequence whenever a row is inserted. -/
namespace SqlEmit

namespace CreateSequence

def typeText (type : Option TypeName) : String :=
  match type with
  | none => "bigint"
  | some type =>
    let name := Text.lower type.identifier
    if name ∈ ["number", "decimal", "numeric"] ∧ 0 < type.qualifier1 then
      "numeric(" ++ toString type.qualifier1.toNat ++ "," ++ toString type.qualifier2.toNat ++ ")"
    else if name ∈ ["int", "integer"] then "int"
    else "bigint"

def emit (dialect : Dialect) (s : CreateSequence) : Sql :=
  let start := toString s.startWith.toInt
  let increment := toString s.increment.toInt
  match dialect with
  | .sqlServer =>
    let cache := if 0 < s.cacheSize then " CACHE " ++ toString s.cacheSize.toInt else ""
    Sql.code ("IF NOT EXISTS(SELECT 1 FROM sys.sequences WHERE name = '" ++ s.name ++
      "')\nBEGIN\nCREATE SEQUENCE " ++ s.name ++ " AS " ++ typeText s.dataType ++ " START WITH " ++
      start ++ " INCREMENT BY " ++ increment ++ cache ++ ";\nEND;")
  | .postgres =>
    let cache := toString (if 1 < s.cacheSize then s.cacheSize else 1).toInt
    Sql.code ("CREATE SEQUENCE IF NOT EXISTS " ++ s.name ++ " AS bigint INCREMENT BY " ++ increment ++
      " START WITH " ++ start ++ " CACHE " ++ cache ++ ";")

end CreateSequence

def DropSequence.emit (s : DropSequence) : Sql :=
  Sql.code ("DROP SEQUENCE " ++ s.name ++ ";")

def sequenceEntity (cx : Context) (keyword name : String) (table : TableRef) (node : NodeId) :
    Except Error Entity :=
  if (Text.trim name).isEmpty then .error (.sequenceUnnamed node keyword)
  else
    match cx.tableBinding? table with
    | some (.entity entity) => .ok entity
    | _ => .error (.sequenceTable table.id keyword)

def insteadOfInsert (tableName : String) : String :=
  Text.lower tableName ++ "_instead_of_insert"

/-- A PostgreSQL object on a table. A name that starts with an underscore needs no other one. -/
def beforeInsert (object tableName : String) : String :=
  object ++ (if tableName.toList.head? = some '_' then "" else "_") ++ tableName ++ "_before_insert"

def triggerFunction (tableName : String) : String :=
  beforeInsert "fn" tableName

def triggerName (tableName : String) : String :=
  beforeInsert "tr" tableName

namespace ApplySequence

/-- The columns that the MS-SQL trigger inserts. Those of the numbered property draw from the
sequence, the others are copied. -/
def triggerLists (s : ApplySequence) (entity : Entity) (property : Property) : InsertLists :=
  let columns := entity.properties.flatMap fun candidate =>
    candidate.orderedColumns.map fun column => (column.name, decide (candidate.name = property.name))
  ⟨columns.map (·.1), columns.map fun (column, numbered) =>
    if numbered then .next s.name else .copied "i" column⟩

/-- Numbers the rows that are there in the order of the identity index, with the table locked. -/
def renumbering (cx : Context) (s : ApplySequence) (tableName column : String) :
    Except Error Sql :=
  match cx.identityIndex? tableName with
  | none => .error (.recalculateWithoutIndex s.id tableName)
  | some index =>
    let keys := ", ".intercalate index.keyNames
    let order := ", ".intercalate (index.keys.map fun key => key.name ++ " " ++ key.direction)
    let keyMatch (left right : String) : String := " AND ".intercalate (index.keyNames.map fun key =>
      left ++ "." ++ key ++ " = " ++ right ++ "." ++ key)
    match cx.dialect with
    | .sqlServer =>
      let copy := "#COPY" ++ tableName
      .ok (Sql.code ("BEGIN TRANSACTION;\nSELECT " ++ keys ++ ", NEXT VALUE FOR " ++ s.name ++
        " OVER (ORDER BY " ++ order ++ ") AS sequence_value\nINTO " ++ copy ++ " FROM " ++ tableName ++
        " WITH (TABLOCKX, HOLDLOCK);\nUPDATE T SET T." ++ column ++ " = S.sequence_value FROM " ++
        tableName ++ " AS T\nINNER JOIN " ++ copy ++ " AS S ON " ++ keyMatch "T" "S" ++
        ";\nDROP TABLE " ++ copy ++ ";\nCOMMIT TRANSACTION;"))
    | .postgres =>
      .ok (Sql.code ("BEGIN TRANSACTION;\nLOCK TABLE " ++ tableName ++
        " IN ACCESS EXCLUSIVE MODE;\nWITH cte AS (SELECT " ++ keys ++ ", ") ++
        Sql.ofPiece (.nextValue cx.dialect s.name) ++ Sql.code (" AS sequence_value\nFROM " ++ tableName ++
        " ORDER BY " ++ order ++ ")\nUPDATE " ++ tableName ++ " SET " ++ column ++
        " = cte.sequence_value FROM cte\nWHERE " ++ keyMatch tableName "cte" ++
        ";\nCOMMIT TRANSACTION;"))

/-- The renumbering script on lines of its own, if it is asked for. -/
def ending (cx : Context) (s : ApplySequence) (tableName column : String) : Except Error Sql :=
  if s.recalculate then do return Sql.code "\n" ++ (← s.renumbering cx tableName column)
  else .ok Sql.empty

def insteadOfSql (s : ApplySequence) (entity : Entity) (property : Property) : Sql :=
  let lists := s.triggerLists entity property
  let trigger := insteadOfInsert entity.tableName
  Sql.code ("IF OBJECT_ID('" ++ trigger ++ "', 'TR') IS NULL\nEXECUTE('CREATE TRIGGER " ++ trigger ++
    " ON " ++ entity.tableName ++ " INSTEAD OF INSERT NOT FOR REPLICATION AS\nINSERT " ++
    entity.tableName ++ "(" ++ ", ".intercalate lists.columns ++ ")\nSELECT ") ++
    Sql.join ", " (lists.values.map (InsertValue.sql .sqlServer)) ++
    Sql.code "\nFROM INSERTED AS i;');"

def beforeInsertSql (s : ApplySequence) (tableName column : String) : Sql :=
  let function := triggerFunction tableName
  Sql.code ("CREATE FUNCTION " ++ function ++ "()\nRETURNS trigger AS $BODY$\nBEGIN\nNEW." ++ column ++
    " := ") ++ Sql.ofPiece (.nextValue .postgres s.name) ++
    Sql.code (";\nRETURN NEW;\nEND $BODY$ LANGUAGE 'plpgsql';\n\nCREATE TRIGGER " ++
      triggerName tableName ++ "\nBEFORE INSERT ON " ++ tableName ++ " FOR EACH ROW\nEXECUTE PROCEDURE " ++
      function ++ "();")

def numbered (cx : Context) (s : ApplySequence) : Except Error (Property × SchemaColumn) :=
  match cx.binding? s.column.id with
  | some (.property property) =>
    match property.orderedColumns with
    | column :: _ => .ok (property, column)
    | [] => .error (.propertyWithoutColumns s.column.id property.name)
  | _ => .error (.sequenceColumn s.column.id)

def emit (cx : Context) (s : ApplySequence) : Except Error Sql := do
  let entity ← sequenceEntity cx "APPLY SEQUENCE" s.name s.table s.id
  let (property, column) ← s.numbered cx
  match cx.dialect with
  | .sqlServer =>
    return s.insteadOfSql entity property ++ (← s.ending cx entity.tableName column.name)
  | .postgres =>
    let tableName := Text.lower entity.tableName
    let column := Text.lower column.name
    return s.beforeInsertSql tableName column ++ (← s.ending cx tableName column)

end ApplySequence

/-- Drops the trigger, and on PostgreSQL its function. -/
def RevokeSequence.emit (cx : Context) (s : RevokeSequence) : Except Error Sql := do
  let entity ← sequenceEntity cx "REVOKE SEQUENCE" s.name s.table s.id
  match cx.dialect with
  | .sqlServer =>
    let trigger := insteadOfInsert entity.tableName
    return Sql.code ("IF OBJECT_ID('" ++ trigger ++ "', 'TR') IS NOT NULL DROP TRIGGER " ++ trigger ++ ";")
  | .postgres =>
    let tableName := Text.lower entity.tableName
    return Sql.code ("DROP FUNCTION IF EXISTS " ++ triggerFunction tableName ++
      " CASCADE;\nDROP TRIGGER IF EXISTS " ++ triggerName tableName ++ " ON " ++ tableName ++ ";")

end SqlEmit
