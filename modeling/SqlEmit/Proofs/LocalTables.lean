import SqlEmit.Proofs.Consume.ResultTable
import SqlEmit.Proofs.Inference
import SqlEmit.Proofs.ResultRows

/-! Local tables of MS-SQL and the lists that fill them. A table variable, a temporary table and the table
of CONSUME … INTO are declared with inferred columns and filled by position. Inference and the list agree
on a projected column where the mapping of a reference records all types, or where as many columns are
inferred as are written. A value of several columns that is written as one is declared with several. -/
namespace SqlEmit

/-- As many columns are declared for a projected column as are written for it. -/
inductive Context.Fits (cx : Context) (column : Projected) : Prop
  | recorded {mapping : List PhysicalColumn} (mapped : cx.referenceMapping? column.expr = some mapping)
    (typed : ∀ physical ∈ mapping, physical.typeName ≠ none)
  | inferred {mapping : List PhysicalColumn} {shapes : List Shape}
    (mapped : cx.referenceMapping? column.expr = some mapping) (infers : cx.Infers column.expr shapes)
    (same : shapes.length = mapping.length)
  | computed {shapes : List Shape} (unmapped : cx.referenceMapping? column.expr = none)
    (infers : cx.Infers column.expr shapes) (single : shapes.length = 1)

theorem Option.mapM_some {f : α → Option β} {xs : List α} {ys : List β} :
    xs.mapM f = some ys ↔ List.Forall₂ (fun x y => f x = some y) xs ys := by
  induction xs generalizing ys with
  | nil => simp [eq_comm]
  | cons x xs ih =>
    simp only [List.mapM_cons, Option.bind_eq_bind, Option.bind_eq_some_iff, Option.pure_def,
      Option.some.injEq, ih, List.forall₂_cons_left_iff]
    constructor
    · rintro ⟨y, head, rest, tail, rfl⟩
      exact ⟨y, rest, head, tail, rfl⟩
    · rintro ⟨y, rest, head, tail, rfl⟩
      exact ⟨y, head, rest, tail, rfl⟩

namespace Context

variable {cx : Context} {column : Projected} {mapping : List PhysicalColumn}

/-- A mapping that records all types declares its own columns. -/
theorem length_recordedColumns {definitions : List ColumnDefinition}
    (recorded : recordedColumns mapping = some definitions) :
    definitions.length = mapping.length ∧ ∀ physical ∈ mapping, physical.typeName ≠ none := by
  rw [recordedColumns] at recorded
  split at recorded
  · cases recorded
  have each := Option.mapM_some.mp recorded
  refine ⟨each.length_eq.symm, fun physical mem missing => ?_⟩
  obtain ⟨definition, -, found⟩ := forall₂_mem each mem
  simp [missing] at found

theorem untyped_of_recordedColumns (present : mapping ≠ []) (unrecorded : recordedColumns mapping = none) :
    ¬∀ physical ∈ mapping, physical.typeName ≠ none := by
  intro typed
  have each : List.Forall₂ (fun (physical : PhysicalColumn) definition =>
      (physical.typeName.map fun type => (⟨physical.outputName, type⟩ : ColumnDefinition)) = some definition)
      mapping (mapping.map fun physical => ⟨physical.outputName, physical.typeName.getD ""⟩) := by
    rw [List.forall₂_map_right_iff, List.forall₂_same]
    intro physical mem
    obtain ⟨type, is⟩ := Option.ne_none_iff_exists'.mp (typed physical mem)
    simp [is]
  have filled : mapping.isEmpty = false := by simpa using present
  simp [recordedColumns, filled, Option.mapM_some.mpr each] at unrecorded

/-- Declared and written columns are as many exactly where the column fits. -/
theorem length_definitions_iff {definitions : List ColumnDefinition}
    (recorded : ∀ mapping ∈ cx.referenceMapping? column.expr, mapping ≠ [])
    (ok : cx.columnDefinitions column = .ok definitions) :
    definitions.length = (cx.outputNames column).length ↔ cx.Fits column := by
  rw [columnDefinitions] at ok
  rw [outputNames]
  cases mapped : cx.referenceMapping? column.expr with
  | none =>
    rw [mapped] at ok
    obtain ⟨shapes, found, same⟩ := Except.bind_ok.mp ok
    obtain rfl := Except.pure_ok.mp same
    have infers := infers_of_shapesWithin _ found
    simp only [List.length_map, List.length_singleton]
    constructor
    · exact fun single => .computed mapped infers single
    · rintro (⟨mapped', -⟩ | ⟨mapped', -, -⟩ | ⟨-, infers', single⟩)
      · cases mapped.symm.trans mapped'
      · cases mapped.symm.trans mapped'
      · rw [infers.unique infers', single]
  | some mapping =>
    cases known : recordedColumns mapping with
    | some declared =>
      simp only [mapped, Option.bind_some, known, Except.ok.injEq] at ok
      subst ok
      obtain ⟨same, typed⟩ := length_recordedColumns known
      simp only [List.length_map, same, true_iff]
      exact .recorded mapped typed
    | none =>
      simp only [mapped, Option.bind_some, known] at ok
      obtain ⟨shapes, found, same⟩ := Except.bind_ok.mp ok
      obtain rfl := Except.pure_ok.mp same
      have infers := infers_of_shapesWithin _ found
      simp only [List.length_map]
      constructor
      · exact fun same => .inferred mapped infers same
      · rintro (⟨mapped', typed⟩ | ⟨mapped', infers', same⟩ | ⟨unmapped, -, -⟩)
        · obtain rfl := Option.some.inj (mapped.symm.trans mapped')
          exact absurd typed (untyped_of_recordedColumns (recorded mapping mapped) known)
        · obtain rfl := Option.some.inj (mapped.symm.trans mapped')
          rw [infers.unique infers', same]
        · cases mapped.symm.trans unmapped

end Context

/-- What one projected column adds to the declaration and to the list. -/
structure LocalPart where
  declared : List ColumnDefinition
  entries : List Sql

/-- The declared columns are those of the projected column, and as many as its entries where it fits. -/
structure LocalPart.Of (cx : Context) (column : Projected) (part : LocalPart) : Prop where
  declared : cx.columnDefinitions column = .ok part.declared
  fits : part.declared.length = part.entries.length ↔ cx.Fits column

/-- The entries of each projected column, as many as it has output names. -/
def Context.Lists (cx : Context) (columns : List Projected) (lists : List (List Sql)) : Prop :=
  List.Forall₂ (fun column entries => entries.length = (cx.outputNames column).length) columns lists

section

variable {cx : Context} {columns : List Projected}

theorem parts_of_lists (recorded : ∀ id mapping, cx.mapping? id = some mapping → mapping ≠ [])
    {declared : List ColumnDefinition} {lists : List (List Sql)}
    (declares : cx.tableDefinition columns = .ok declared) (counts : cx.Lists columns lists) :
    ∃ parts, List.Forall₂ (LocalPart.Of cx) columns parts ∧ declared = parts.flatMap LocalPart.declared ∧
      lists.flatten = parts.flatMap LocalPart.entries := by
  obtain ⟨definitions, each, same⟩ := Except.bind_ok.mp declares
  obtain rfl := Except.pure_ok.mp same
  rw [Except.mapM_ok] at each
  clear declares same
  induction each generalizing lists with
  | nil =>
    cases counts
    exact ⟨[], .nil, rfl, rfl⟩
  | @cons column own _ _ head _ ih =>
    cases counts with
    | @cons _ entries _ _ count rest =>
      obtain ⟨parts, of, declared, listed⟩ := ih rest
      have present : ∀ mapping ∈ cx.referenceMapping? column.expr, mapping ≠ [] := by
        intro mapping mapped
        cases expr : column.expr with
        | column ref =>
          rw [expr] at mapped
          exact recorded ref.id mapping mapped
        | _ => simp [expr, Context.referenceMapping?] at mapped
      have fits := Context.length_definitions_iff present head
      rw [← count] at fits
      exact ⟨⟨own, entries⟩ :: parts, .cons ⟨head, fits⟩ of, by simp [declared], by simp [listed]⟩

theorem length_of_fits {parts : List LocalPart} (of : List.Forall₂ (LocalPart.Of cx) columns parts)
    (fit : ∀ column ∈ columns, cx.Fits column) :
    (parts.flatMap LocalPart.declared).length = (parts.flatMap LocalPart.entries).length := by
  induction of with
  | nil => rfl
  | cons head _ ih =>
    obtain ⟨first, others⟩ := List.forall_mem_cons.mp fit
    have rest := ih others
    have here := head.fits.mpr first
    simp only [List.flatMap_cons, List.length_append, here, rest]

end

/-- A table that is declared and filled with the rows of a query. -/
def filledSql (cx : Context) (temporary : Bool) (name : String) (declared : List ColumnDefinition)
    (first : SelectSql) (rest : Sql) : Sql :=
  Sql.code ((localTable cx temporary name).2 ++ " " ++ definitionList declared ++ ";\nINSERT " ++
    (localTable cx temporary name).1 ++ "\n") ++ (first.headSql ++ Item.listSql first.columns ++ rest)

/-- A table that is declared and takes the removed rows of a statement. -/
def takenSql (declaredName : String) (declared : List ColumnDefinition) (rows : Sql) (target : String)
    (entries : List Sql) (name : String) (rest : Sql) : Sql :=
  Sql.code ("DECLARE " ++ declaredName ++ " AS TABLE (\n" ++
    ",\n".intercalate (declared.map ColumnDefinition.text) ++ ");\n") ++ rows ++
    Sql.code ("\nDELETE " ++ target ++ "\nOUTPUT\n") ++ Sql.join ",\n" entries ++ Sql.code ("\nINTO " ++ name) ++
    rest

namespace Statement

def keptColumns? : Statement → Option (List Projected)
  | .tableVariable s => some s.query.firstSelect.columns
  | .temporaryTable s => some s.query.firstSelect.columns
  | .consume s => if (givenName s.target).isSome then none else s.intoTable.map fun _ => s.columns
  | _ => none

/-- The text declares a table with columns and fills it with entries. -/
inductive FillsTable (cx : Context) : Statement → Sql → List ColumnDefinition → List Sql → Prop
  | tableVariable {s : TableVariable} {declared : List ColumnDefinition} {first : SelectSql} {rest : Sql} :
    FillsTable cx (.tableVariable s) (filledSql cx false s.name declared first rest) declared
      (first.columns.flatten.map Item.sql)
  | temporaryTable {s : TableVariable} {declared : List ColumnDefinition} {first : SelectSql} {rest : Sql} :
    FillsTable cx (.temporaryTable s) (filledSql cx true s.name declared first rest) declared
      (first.columns.flatten.map Item.sql)
  | consume {s : Consume} {table : TableRef} {declared : List ColumnDefinition} {rows rest : Sql}
    {target name : String} {entries : List Sql} (into : s.intoTable = some table)
    (named : cx.tableName table = .ok name) :
    FillsTable cx (.consume s) (takenSql (cx.dialect.tableVariableName table.identifier) declared rows target
      entries name rest) declared entries

end Statement

theorem TableVariable.filled_of_emit {cx : Context} {s : TableVariable} {temporary : Bool} {sql : Sql}
    (dialect : cx.dialect = .sqlServer) (ok : (s.emit cx temporary).result = .ok sql) :
    ∃ declared first rest, sql = filledSql cx temporary s.name declared first rest ∧
      cx.tableDefinition s.query.firstSelect.columns = .ok declared ∧
      cx.Lists s.query.firstSelect.columns (first.columns.map (·.map Item.sql)) := by
  simp only [TableVariable.emit, dialect, Emit.bind_ok, Emit.pure_ok, Emit.result_lift] at ok
  obtain ⟨query, emitted, declared, declares, rfl⟩ := ok
  obtain ⟨rest, starts⟩ := query.sql_eq .sqlServer
  refine ⟨declared, query.firstSelect, rest ++ Sql.code ";", ?_, declares, ?_⟩
  · simp only [filledSql, starts, Sql.append_assoc]
  · have columns := (Query.firstSelect_written emitted).columns
    rw [emitProjection_eq_map, Emit.all_ok, List.forall₂_map_left_iff] at columns
    rw [Context.Lists, List.forall₂_map_right_iff]
    refine columns.imp fun column items written => ?_
    rw [← Projected.names_of_items written, List.length_map, List.length_map]

namespace Consume

variable {cx : Context} {s : Consume} {table : TableRef}

theorem Projects.length_eq {column : Projected} {line : List Carried} (projects : Projects cx column line) :
    line.length = (cx.outputNames column).length := by
  cases projects with
  | reference expr mapped _ =>
    simp [Context.outputNames, Context.referenceMapping?, expr, mapped, carriedColumns]
  | length expr named => simp [Context.outputNames, Context.referenceMapping?, expr]

/-- What INTO declares is inferred, and not compared with the columns that are returned. -/
theorem destination_into {declared : Option (TableRef × List ColumnDefinition)} {target : Destination}
    (into : s.intoTable = some table) (declares : s.declaredTable cx = .ok declared)
    (delivers : destination cx declared = .ok target) :
    ∃ columns name, cx.tableDefinition s.columns = .ok columns ∧ cx.tableName table = .ok name ∧
      target = .table (cx.dialect.tableVariableName table.identifier) columns name := by
  simp only [declaredTable, into, Except.bind_ok, Except.pure_ok] at declares
  obtain ⟨columns, inferred, rfl⟩ := declares
  simp only [destination, Except.bind_ok, Except.pure_ok] at delivers
  obtain ⟨name, named, rfl⟩ := delivers
  exact ⟨columns, name, inferred, named, rfl⟩

theorem sql_into (rows : SelectSql) (removal : Removal) (output : List String) (declaredName name : String)
    (columns : List ColumnDefinition) :
    (StagedDelete.sqlServer rows removal output (.table declaredName columns name)).sql =
      takenSql declaredName columns
        (Sql.code ("WITH " ++ removal.stage ++ " AS\n") ++ (rows.sql .sqlServer).parens) removal.target
        (output.map fun column => Sql.code (removal.image ++ "." ++ column)) name
        (removal.source ++ Sql.code ";" ++ Sql.empty) := by
  simp only [StagedDelete.sql, Destination.declaration, Destination.intoClause, Destination.ending, takenSql,
    readBack, Sql.append_assoc]

/-- With INTO, MS-SQL returns the visible columns of the plan into the declared table. -/
theorem Shape.into {consumed : TableRef} {tableName : String} {plan : Plan} {staged : StagedDelete}
    (shape : Shape cx s consumed tableName plan staged) (dialect : cx.dialect = .sqlServer)
    (into : s.intoTable = some table) :
    ∃ selected removal columns name reserved, staged = .sqlServer selected removal plan.visibleNames
        (.table (cx.dialect.tableVariableName table.identifier) columns name) ∧
      cx.tableName table = .ok name ∧ cx.tableDefinition s.columns = .ok columns ∧
      Plan.ofStatement cx s (qualifier consumed tableName) reserved = .ok plan := by
  have inferred {columns : List ColumnDefinition}
      (found : (hinted cx s consumed).tableDefinition s.columns = .ok columns) :
      cx.tableDefinition s.columns = .ok columns := by
    rwa [hinted, Context.tableDefinition_withHint] at found
  cases shape with
  | sqlServerDirect _ _ planned declares _ delivers =>
    obtain ⟨columns, name, found, named, rfl⟩ := destination_into into declares delivers
    exact ⟨_, _, columns, name, _, rfl, named, inferred found, planned⟩
  | sqlServerJoined _ _ _ planned _ declares _ delivers =>
    obtain ⟨columns, name, found, named, rfl⟩ := destination_into into declares delivers
    exact ⟨_, _, columns, name, _, rfl, named, inferred found, planned⟩
  | sqlServerSorted _ _ _ _ _ kept => cases into.symm.trans kept
  | postgresDirect other | postgresJoined other => cases dialect.symm.trans other

theorem taken_of_emit {sql : Sql} (dialect : cx.dialect = .sqlServer) (own : givenName s.target = none)
    (into : s.intoTable = some table) (ok : (s.emit cx).result = .ok sql) :
    ∃ declared rows target lists name rest,
      sql = takenSql (cx.dialect.tableVariableName table.identifier) declared rows target
        (List.flatten lists) name rest ∧
      cx.tableName table = .ok name ∧ cx.tableDefinition s.columns = .ok declared ∧ cx.Lists s.columns lists := by
  rcases emit_cases ok with ⟨taken, -⟩ | ⟨-, staged, writes, rfl⟩
  · exact absurd own taken
  obtain ⟨consumed, tableName, plan, -, shape⟩ := shape_of_staged writes.stages
  obtain ⟨selected, removal, columns, name, reserved, rfl, named, inferred, planned⟩ := shape.into dialect into
  obtain ⟨lines, projects, visible⟩ := (planned_of_ok planned).projection
  have text := sql_into selected removal plan.visibleNames
    (cx.dialect.tableVariableName table.identifier) name columns
  have listed : (plan.visibleNames.map fun column => Sql.code (removal.image ++ "." ++ column)) =
      (lines.map (·.map fun carried => Sql.code (removal.image ++ "." ++ carried.name))).flatten := by
    rw [Plan.visibleNames, visible, List.map_map, List.map_flatten]
    rfl
  rw [listed] at text
  refine ⟨columns, _, _, _, name, _, text, named, inferred, ?_⟩
  rw [Context.Lists, List.forall₂_map_right_iff]
  refine projects.imp fun column line carried => ?_
  rw [List.length_map, carried.length_eq]

end Consume

namespace Statement

variable {cx : Context} {statement : Statement} {columns : List Projected} {sql : Sql}

theorem fillsTable_of_emit (dialect : cx.dialect = .sqlServer) (keeps : statement.keptColumns? = some columns)
    (ok : (statement.emit cx).result = .ok sql) :
    ∃ declared lists, cx.tableDefinition columns = .ok declared ∧ cx.Lists columns lists ∧
      statement.FillsTable cx sql declared lists.flatten := by
  cases statement with
  | tableVariable s =>
    obtain rfl := Option.some.inj keeps
    have emitted : (s.emit cx false).result = .ok sql := ok
    obtain ⟨declared, first, rest, rfl, declares, counts⟩ := TableVariable.filled_of_emit dialect emitted
    exact ⟨declared, _, declares, counts, by rw [← List.map_flatten]; exact .tableVariable⟩
  | temporaryTable s =>
    obtain rfl := Option.some.inj keeps
    have emitted : (s.emit cx true).result = .ok sql := ok
    obtain ⟨declared, first, rest, rfl, declares, counts⟩ := TableVariable.filled_of_emit dialect emitted
    exact ⟨declared, _, declares, counts, by rw [← List.map_flatten]; exact .temporaryTable⟩
  | consume s =>
    cases own : givenName s.target with
    | some processor => simp [keptColumns?, own] at keeps
    | none =>
      cases into : s.intoTable with
      | none => simp [keptColumns?, own, into] at keeps
      | some table =>
        obtain rfl : s.columns = columns := by simpa [keptColumns?, own, into] using keeps
        obtain ⟨declared, rows, target, lists, name, rest, rfl, named, declares, counts⟩ :=
          Consume.taken_of_emit dialect own into ok
        exact ⟨declared, lists, declares, counts, .consume into named⟩
  | _ => simp [keptColumns?] at keeps

/-- A local table of MS-SQL is declared and filled projected column by projected column. For each of them
as many columns are declared as are filled exactly where the column fits, so a table whose columns all fit
has the shape of the rows that fill it. -/
theorem local_table_fits (dialect : cx.dialect = .sqlServer)
    (recorded : ∀ id mapping, cx.mapping? id = some mapping → mapping ≠ [])
    (keeps : statement.keptColumns? = some columns) (ok : (statement.emit cx).result = .ok sql) :
    ∃ declared entries parts, statement.FillsTable cx sql declared entries ∧
      List.Forall₂ (LocalPart.Of cx) columns parts ∧ declared = parts.flatMap LocalPart.declared ∧
      entries = parts.flatMap LocalPart.entries ∧
      ((∀ column ∈ columns, cx.Fits column) → declared.length = entries.length) := by
  obtain ⟨declared, lists, declares, counts, fills⟩ := fillsTable_of_emit dialect keeps ok
  obtain ⟨parts, of, rfl, listed⟩ := parts_of_lists recorded declares counts
  refine ⟨_, _, parts, fills, of, rfl, listed, fun fit => ?_⟩
  rw [listed]
  exact length_of_fits of fit

end Statement

namespace Holders

/-- A variable that refers to an entity, and a note of two columns that is bound to a string. -/
def bindings : Bindings where
  bindings := Dict.ofList [(⟨1⟩, .entity ⟨"Queue", "_InfoRg42", 42, []⟩), (⟨2⟩, .temporaryTable),
    (⟨3⟩, .primitive .entity), (⟨6⟩, .primitive .string), (⟨7⟩, .tableVariable)]
  mappings := Dict.ofList [
    (⟨4⟩, [⟨"t._OwnerTRef", some "Owner_TRef", some .typeCode, some "binary(4)"⟩,
      ⟨"t._OwnerRRef", some "Owner_RRef", some .entity, some "binary(16)"⟩]),
    (⟨6⟩, [⟨"q._Note", none, none, none⟩, ⟨"q._Mark", none, none, none⟩])]

def context : Context :=
  .ofStatements .sqlServer bindings Catalog.empty Registry.standard 0 (fun _ => default) []

/-- `SELECT t.Owner, @owner AS Holder FROM #draft AS t`. -/
def columns : List Projected :=
  [⟨⟨8⟩, .column ⟨⟨4⟩, "t.Owner"⟩, none⟩, ⟨⟨9⟩, .variableRef ⟨⟨3⟩, "@owner"⟩, some "Holder"⟩]

def owners : Statement :=
  .tableVariable ⟨⟨10⟩, "owners", .select (.plain ⟨11⟩ columns (some (.table ⟨⟨2⟩, "draft", some "t"⟩)))⟩

/-- `CONSUME q.Note INTO taken FROM Queue AS q`. -/
def notes : List Projected := [⟨⟨12⟩, .column ⟨⟨6⟩, "q.Note"⟩, none⟩]

def consume : Statement :=
  .consume ⟨⟨13⟩, none, notes, some ⟨⟨7⟩, "taken", none⟩, some (.table ⟨⟨1⟩, "Queue", some "q"⟩), none, none,
    false, none⟩

def emit (statement : Statement) : Except Error Sql :=
  (statement.emit context).result

theorem recorded (id : NodeId) (mapping : List PhysicalColumn) (is : context.mapping? id = some mapping) :
    mapping ≠ [] := by
  have present : ∀ entry ∈ bindings.mappings.entries, entry.2 ≠ [] := by decide
  obtain ⟨entry, there, rfl⟩ := Option.map_eq_some_iff.mp is
  exact present entry (List.mem_of_find?_eq_some there)

theorem owner_fits : context.Fits ⟨⟨8⟩, .column ⟨⟨4⟩, "t.Owner"⟩, none⟩ :=
  .recorded rfl (by decide)

/-- The variable has two columns and is written as one value. -/
theorem holder_unfit : ¬context.Fits ⟨⟨9⟩, .variableRef ⟨⟨3⟩, "@owner"⟩, some "Holder"⟩ := by
  have two : context.Infers (.variableRef ⟨⟨3⟩, "@owner"⟩) (PrimitiveType.entity.shapes .sqlServer) :=
    .variableRef rfl
  rintro (⟨mapped, -⟩ | ⟨mapped, -, -⟩ | ⟨-, infers, single⟩)
  · cases mapped
  · cases mapped
  · rw [← two.unique infers] at single
    cases single

/-- The note has one column by its type and is written as two. -/
theorem note_unfit : ¬context.Fits ⟨⟨12⟩, .column ⟨⟨6⟩, "q.Note"⟩, none⟩ := by
  have one : context.Infers (.column ⟨⟨6⟩, "q.Note"⟩) (PrimitiveType.string.shapes .sqlServer) := .primitive rfl
  rintro (⟨mapped, typed⟩ | ⟨mapped, infers, same⟩ | ⟨unmapped, -, -⟩)
  · obtain rfl := Option.some.inj mapped
    exact typed _ (List.mem_cons_self ..) rfl
  · obtain rfl := Option.some.inj mapped
    rw [← one.unique infers] at same
    cases same
  · cases unmapped

def ownersText : String :=
  "DECLARE @owners TABLE (Owner_TRef binary(4), Owner_RRef binary(16), Holder_TRef binary(4), " ++
  "Holder_RRef binary(16));\nINSERT @owners\nSELECT\nt._OwnerTRef AS Owner_TRef, t._OwnerRRef AS Owner_RRef,\n" ++
  "@owner AS Holder\nFROM #draft AS t;"

def consumeText : String :=
  "DECLARE @taken AS TABLE (\nNote nvarchar(max));\nWITH queue AS\n(SELECT\nq._Note, q._Mark\n" ++
  "FROM _InfoRg42 AS q WITH (ROWLOCK, READPAST))\nDELETE queue\nOUTPUT\ndeleted._Note,\ndeleted._Mark\nINTO @taken;"

/-- The table is filled in parts, of which those marked have as many declared columns as entries. -/
def FillsInParts (statement : Statement) (even : List Bool) (sql : Sql) : Prop :=
  ∃ (declared : List ColumnDefinition) (entries : List Sql) (parts : List LocalPart),
    statement.FillsTable context sql declared entries ∧ declared = parts.flatMap LocalPart.declared ∧
    entries = parts.flatMap LocalPart.entries ∧
    parts.map (fun part => decide (part.declared.length = part.entries.length)) = even

end Holders

/-- A table variable has four columns for three values, the table of a destructive read one column for two:
the counts differ for the variable of two columns and for the note whose type has one. -/
theorem Statement.local_table_fits_of_holders :
    (∃ sql, Holders.emit Holders.owners = .ok sql ∧ sql.text = Holders.ownersText ∧
      Holders.FillsInParts Holders.owners [true, false] sql) ∧
    ∃ sql, Holders.emit Holders.consume = .ok sql ∧ sql.text = Holders.consumeText ∧
      Holders.FillsInParts Holders.consume [false] sql := by
  constructor
  · obtain ⟨sql, ok, text⟩ : ∃ sql, Holders.emit Holders.owners = .ok sql ∧ sql.text = Holders.ownersText :=
      Except.exists_ok (by decide +kernel)
    obtain ⟨declared, entries, parts, fills, of, same, listed, -⟩ :=
      local_table_fits rfl Holders.recorded (rfl : Holders.owners.keptColumns? = some Holders.columns) ok
    refine ⟨sql, ok, text, declared, entries, parts, fills, same, listed, ?_⟩
    rcases of with _ | ⟨owner, _ | ⟨holder, _ | _⟩⟩
    simp [owner.fits.mpr Holders.owner_fits, mt holder.fits.mp Holders.holder_unfit]
  · obtain ⟨sql, ok, text⟩ : ∃ sql, Holders.emit Holders.consume = .ok sql ∧ sql.text = Holders.consumeText :=
      Except.exists_ok (by decide +kernel)
    obtain ⟨declared, entries, parts, fills, of, same, listed, -⟩ :=
      local_table_fits rfl Holders.recorded (rfl : Holders.consume.keptColumns? = some Holders.notes) ok
    refine ⟨sql, ok, text, declared, entries, parts, fills, same, listed, ?_⟩
    rcases of with _ | ⟨note, _ | _⟩
    simp [mt note.fits.mp Holders.note_unfit]

end SqlEmit
