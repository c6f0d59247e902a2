import SqlEmit.Proofs.Agreement
import SqlEmit.Proofs.Insert.Lists
import SqlEmit.Proofs.References

/-! The guard of an UPSERT. The INSERT leaves out the rows that the UPDATE has changed, so both halves
have to test one condition: the predicate is written the same in both places, and the columns of the
source carry the name of the source in it. -/
namespace SqlEmit

theorem Sql.append_empty (a : Sql) : a ++ Sql.empty = a :=
  congrArg Sql.mk (List.append_nil a.pieces)

theorem Context.tableName_of_target {cx : Context} {target : TableRef} {keyword table : String}
    (ok : cx.targetName target keyword = .ok table) : cx.tableName target = .ok table := by
  unfold Context.targetName at ok
  split at ok
  · cases ok
  · exact ok
  · cases ok

/-- The values that an expression supplies for one or more columns: its own text, the columns of a
reference one by one, or the parts of a literal. -/
inductive ValuesOf (form? : Call → Option CallForm) (writes : ColumnRef → Sql → Prop)
    (maps : ColumnRef → List PhysicalColumn → Prop) : Expr → List Sql → Prop
  | single {e : Expr} {sql : Sql} (shown : Sql.Shows writes (e.writtenRefs form?) sql) :
    ValuesOf form? writes maps e [sql]
  | paired {ref : ColumnRef} {mapping : List PhysicalColumn} (mapped : maps ref mapping) :
    ValuesOf form? writes maps (.column ref) (mapping.map fun column => Sql.code column.name)
  | literal {value : Literal} {values : List Sql} : ValuesOf form? writes maps (.literal value) values

theorem ValuesOf.imp {form? : Call → Option CallForm} {writes writes' : ColumnRef → Sql → Prop}
    {maps maps' : ColumnRef → List PhysicalColumn → Prop} {e : Expr} {values : List Sql}
    (write : ∀ ref ∈ e.columnRefs, ∀ part, writes ref part → writes' ref part)
    (map : ∀ ref ∈ e.columnRefs, ∀ mapping, maps ref mapping → maps' ref mapping)
    (supplied : ValuesOf form? writes maps e values) : ValuesOf form? writes' maps' e values := by
  cases supplied with
  | single shown =>
    refine .single (shown.imp fun ref mem => write ref ?_)
    exact e.mem_columnRefs mem
  | paired mapped => exact .paired (map _ (by simp [Expr.columnRefs]) _ mapped)
  | literal => exact .literal

theorem valuesOf_emit {cx : Context} {targets : List PhysicalColumn} {e : Expr} {values : List Sql}
    (ok : (emitValues cx targets e).result = .ok values) :
    values.length = targets.length ∧
      ValuesOf cx.form? cx.Writes (fun ref mapping => cx.mapping? ref.id = some mapping) e values := by
  have assigned := assigned_of_emit ok
  refine ⟨assigned.length_eq, ?_⟩
  cases assigned with
  | single one written => exact .single (e.gives_shows _ written)
  | paired several mapped same => exact .paired mapped
  | null several => exact .literal
  | entity several read parts => exact .literal

namespace Update

/-- The changed table, the assigned columns and the rows they are taken from. -/
def changingSql (s : Update) (dialect : Dialect) (table : String) (assigned : List (String × Sql))
    (rows : Option Sql) : Sql :=
  let hints := hintText s.hints
  dialect.pick
    (Sql.code ("UPDATE " ++ (givenName s.target.asName).getD (table ++ hints) ++ "\nSET ") ++
      assignmentsSql assigned ++ changedFrom table s.target.asName hints rows)
    (Sql.code ("UPDATE " ++ aliased table s.target.asName ++ "\nSET ") ++
      assignmentsSql assigned ++ Sql.clause "\nFROM " rows)

/-- An UPDATE that returns no rows ends with its condition. -/
theorem written_of_emit {cx : Context} {s : Update} {predicate : Expr} {sql : Sql}
    (given : s.predicate = some predicate) (silent : s.output = none) (ok : (s.emit cx).result = .ok sql) :
    ∃ table ctes assigned rows condition,
      cx.targetName s.target "UPDATE" = .ok table ∧ (emitWith cx s.ctes "\n").result = .ok ctes ∧
      (emitAssignments cx s.assignments).result = .ok assigned ∧
      (emitSource cx s.source).result = .ok rows ∧ (predicate.emit cx).result = .ok condition ∧
      sql = ctes ++ s.changingSql cx.dialect table assigned rows ++ Sql.code "\nWHERE " ++ condition ++
        Sql.code ";" := by
  obtain ⟨table, named, ok⟩ := Emit.bind_ok.mp ok
  cases dialect : cx.dialect with
  | sqlServer =>
    simp only [dialect, emitSqlServer, given, silent, Output.images, Output.emit, Emit.bind_ok, Emit.pure_ok,
      emitOption_some_ok] at ok
    obtain ⟨ctes, common, assigned, set, _, rfl, rows, source, _, ⟨condition, written, rfl⟩, rfl⟩ := ok
    refine ⟨table, ctes, assigned, rows, condition, named, common, set, source, written, ?_⟩
    simp only [changingSql, Dialect.pick, Sql.clause, Sql.append_empty, Sql.append_assoc]
  | postgres =>
    simp only [dialect, emitPostgres, emitReturning, given, silent, Emit.bind_ok, Emit.pure_ok,
      emitOption_some_ok] at ok
    obtain ⟨assigned, set, rows, source, _, ⟨condition, written, rfl⟩, ctes, common, rfl⟩ := ok
    refine ⟨table, ctes, assigned, rows, condition, named, common, set, source, written, ?_⟩
    simp only [changingSql, Dialect.pick, Sql.clause, Sql.append_assoc]

end Update

namespace Upsert

def refs (s : Upsert) : List ColumnRef :=
  (s.predicate.toList ++ s.assignments.map (·.value)).flatMap Expr.columnRefs

/-- The text of a source column: its columns by their names in the source, without an alias. PostgreSQL
reads characters as `mvarchar`. -/
def sourceSql (cx : Context) (source : String) (ref : ColumnRef) : Sql :=
  Sql.join ", " <| (sourceColumns cx source ref).map fun column =>
    if cx.dialect = .postgres ∧ Item.isCharacterType column.typeName then
      (Sql.code column.name).cast "mvarchar"
    else Sql.code column.name

/-- The reference by whose name a handle is known: of those that share it, the last. -/
def known (s : Upsert) (ref : ColumnRef) : ColumnRef :=
  (s.refs.reverse.find? (·.id = ref.id)).getD ref

/-- What a reference stands for in the statement. A column that a projection computes is one of the source, under
the name by which its handle is known; every other reference stands for what is recorded. -/
def Mapped (cx : Context) (s : Upsert) (source : String) (ref : ColumnRef) (mapping : List PhysicalColumn) :
    Prop :=
  match cx.binding? ref.id with
  | some (.column _) => mapping = sourceColumns cx source (s.known ref)
  | _ => cx.mapping? ref.id = some mapping

/-- How a reference is written in the statement, by the same rule. -/
def Renders (cx : Context) (s : Upsert) (source : String) (ref : ColumnRef) (part : Sql) : Prop :=
  match cx.binding? ref.id with
  | some (.column _) => part = sourceSql cx source (s.known ref)
  | _ => cx.columnSql ref = .ok part

theorem asName_sourceColumns {cx : Context} {source : String} {ref : ColumnRef} {column : PhysicalColumn}
    (mem : column ∈ sourceColumns cx source ref) : column.asName = none := by
  unfold sourceColumns at mem
  split at mem
  · obtain ⟨_, -, rfl⟩ := List.mem_map.mp mem
    rfl
  · obtain rfl := List.mem_singleton.mp mem
    rfl

theorem lineSql_sourceColumns (cx : Context) (source : String) (ref : ColumnRef) :
    Item.lineSql (cx.items (sourceColumns cx source ref)) = sourceSql cx source ref := by
  simp only [Item.lineSql, Context.items, sourceSql, List.map_map]
  refine congrArg (Sql.join ", ") (List.map_congr_left fun column mem => ?_)
  simp only [Function.comp_apply, Item.ofPhysical, asName_sourceColumns mem, givenName]
  split
  · exact Sql.append_empty _
  · exact Sql.append_empty _

section

variable {cx : Context} {s : Upsert} {source : String} {ref : ColumnRef}

theorem mem_known (mem : ref ∈ s.refs) : s.known ref ∈ s.refs ∧ (s.known ref).id = ref.id := by
  unfold known
  cases found : s.refs.reverse.find? (·.id = ref.id) with
  | none => exact ⟨mem, rfl⟩
  | some last =>
    exact ⟨List.mem_reverse.mp (List.mem_of_find?_eq_some found), by simpa using List.find?_some found⟩

/-- A reference with a handle of its own is known by its own name. -/
theorem known_of_unique (mem : ref ∈ s.refs) (unique : ∀ other ∈ s.refs, other.id = ref.id → other = ref) :
    s.known ref = ref :=
  unique _ (mem_known mem).1 (mem_known mem).2

def isComputed (cx : Context) (ref : ColumnRef) : Bool :=
  match cx.binding? ref.id with
  | some (.column _) => true
  | _ => false

theorem disambiguated_eq (cx : Context) (s : Upsert) (source : String) :
    s.disambiguated cx source = cx.withMappings ((s.refs.filter (isComputed cx)).map fun ref =>
      (ref.id, sourceColumns cx source ref)) := by
  rw [refs, List.filter_flatMap]
  rfl

/-- Of the computed references with a handle the last gives it its columns. -/
theorem mapping?_disambiguated (id : NodeId) : (s.disambiguated cx source).mapping? id =
    ((s.refs.reverse.find? fun ref => isComputed cx ref && ref.id = id).map (sourceColumns cx source)).or
      (cx.mapping? id) := by
  have found : (cx.overrides.insertAll ((s.refs.filter (isComputed cx)).map fun ref =>
        (ref.id, sourceColumns cx source ref))).find? id =
      ((s.refs.reverse.find? fun ref => isComputed cx ref && ref.id = id).map (sourceColumns cx source)).or
        (cx.overrides.find? id) := by
    rw [Dict.find?_insertAll, ← List.map_reverse, List.find?_map, ← List.filter_reverse, List.find?_filter,
      Option.map_map]
    simp only [Function.comp_def, Bool.decide_and, Bool.decide_eq_true]
  rw [disambiguated_eq, Context.mapping?, Context.mapping?, ← Option.or_assoc, ← found]
  rfl

theorem mapping?_of_computed (mem : ref ∈ s.refs) (computed : isComputed cx ref = true) :
    (s.disambiguated cx source).mapping? ref.id = some (sourceColumns cx source (s.known ref)) := by
  have same : (fun other => isComputed cx other && other.id = ref.id) =
      fun other : ColumnRef => decide (other.id = ref.id) := by
    funext other
    by_cases alike : other.id = ref.id
    · have also : isComputed cx other = true := by rwa [isComputed, alike]
      simp [also]
    · simp [alike]
  rw [mapping?_disambiguated, same, known]
  cases found : s.refs.reverse.find? (·.id = ref.id) with
  | none => simpa using List.find?_eq_none.mp found ref (List.mem_reverse.mpr mem)
  | some last => rfl

theorem mapping?_of_other (other : isComputed cx ref = false) :
    (s.disambiguated cx source).mapping? ref.id = cx.mapping? ref.id := by
  have none : (s.refs.reverse.find? fun other => isComputed cx other && other.id = ref.id) = none := by
    refine List.find?_eq_none.mpr fun named _ => ?_
    by_cases alike : named.id = ref.id
    · have also : isComputed cx named = false := by rwa [isComputed, alike]
      simp [also]
    · simp [alike]
  rw [mapping?_disambiguated, none]
  rfl

theorem mapped_of_disambiguated (mem : ref ∈ s.refs) {mapping : List PhysicalColumn}
    (is : (s.disambiguated cx source).mapping? ref.id = some mapping) : s.Mapped cx source ref mapping := by
  unfold Mapped
  split
  next bound =>
    rw [mapping?_of_computed mem (by rw [isComputed, bound])] at is
    exact (Option.some.inj is).symm
  next other => rwa [mapping?_of_other (by simp only [isComputed])] at is

theorem renders_of_disambiguated (mem : ref ∈ s.refs) {part : Sql}
    (is : (s.disambiguated cx source).columnSql ref = .ok part) : s.Renders cx source ref part := by
  unfold Renders
  split
  next bound =>
    rw [Context.columnSql, mapping?_of_computed mem (by rw [isComputed, bound])] at is
    exact (Except.ok.inj is).symm.trans (lineSql_sourceColumns cx source (s.known ref))
  next other =>
    rw [Context.columnSql, mapping?_of_other (by simp only [isComputed])] at is
    exact is

theorem refs_of_predicate {predicate : Expr} (given : s.predicate = some predicate)
    (mem : ref ∈ predicate.columnRefs) : ref ∈ s.refs :=
  List.mem_flatMap.mpr ⟨predicate, by simp [given], mem⟩

theorem refs_of_assignment {assignment : Assignment} (there : assignment ∈ s.assignments)
    (mem : ref ∈ assignment.value.columnRefs) : ref ∈ s.refs :=
  List.mem_flatMap.mpr ⟨assignment.value, List.mem_append_right _ (List.mem_map_of_mem there), mem⟩

end

/-- Each assignment gives its columns a value each, in which references are written by the rule of the
statement. -/
def SetFrom (cx : Context) (s : Upsert) (source : String) (assigned : List (String × Sql)) : Prop :=
  ∃ parts, assigned = parts.flatten ∧ List.Forall₂ (fun assignment part => ∃ columns values,
    assignment.columns (s.disambiguated cx source) = .ok columns ∧
    part = (columns.map PhysicalColumn.columnName).zip values ∧ values.length = columns.length ∧
    ValuesOf (s.disambiguated cx source).form? (s.Renders cx source) (s.Mapped cx source) assignment.value values)
    s.assignments parts

theorem setFrom_of_emit {cx : Context} {s : Upsert} {source : String} {assigned : List (String × Sql)}
    (ok : (emitAssignments (s.disambiguated cx source) s.assignments).result = .ok assigned) :
    s.SetFrom cx source assigned := by
  obtain ⟨parts, each, same⟩ := Emit.bind_ok.mp ok
  obtain rfl := Emit.pure_ok.mp same
  refine ⟨parts, rfl, ?_⟩
  have each := List.forall₂_map_left_iff.mp (Emit.all_ok.mp each)
  refine ((List.forall₂_and_left _ _).mpr ⟨fun _ there => there, each⟩).imp ?_
  rintro assignment part ⟨there, emitted⟩
  obtain ⟨columns, are, rest⟩ := Emit.bind_ok.mp emitted
  obtain ⟨values, written, rest⟩ := Emit.bind_ok.mp rest
  obtain ⟨count, supplied⟩ := valuesOf_emit written
  refine ⟨columns, values, are, (Emit.pure_ok.mp rest).symm, count, supplied.imp ?_ ?_⟩
  · exact fun ref mem part is => renders_of_disambiguated (refs_of_assignment there mem) is
  · exact fun ref mem mapping is => mapped_of_disambiguated (refs_of_assignment there mem) is

/-- The parts of an UPSERT that updates. -/
structure Halves where
  table : String
  source : InsertSource
  ctes : Sql
  assigned : List (String × Sql)
  rows : Option Sql
  insert : Sql
  predicate : Sql

/-- Each part is what the same part of the statement is written as, the columns of the source by their
names in it. -/
structure Written (cx : Context) (s : Upsert) (predicate : Expr) (halves : Halves) : Prop where
  table : cx.targetName s.target "UPSERT" = .ok halves.table
  source : s.insertSource = .ok halves.source
  ctes : (emitWith (s.disambiguated cx halves.source.name) s.ctes "\n").result = .ok halves.ctes
  assigned : (emitAssignments (s.disambiguated cx halves.source.name) s.assignments).result =
    .ok halves.assigned
  rows : (emitSource (s.disambiguated cx halves.source.name) s.source).result = .ok halves.rows
  insert : ((s.toInsert halves.source).emitBody (s.disambiguated cx halves.source.name)).result =
    .ok halves.insert
  predicate : (predicate.emit (s.disambiguated cx halves.source.name)).result = .ok halves.predicate

def Halves.text (cx : Context) (s : Upsert) (halves : Halves) : String :=
  halves.ctes.text ++ ((s.toUpdate cx).changingSql cx.dialect halves.table halves.assigned halves.rows).text ++
    "\nWHERE " ++ halves.predicate.text ++ ";\n" ++ halves.insert.text ++
    "\nWHERE NOT EXISTS (SELECT 1 FROM " ++ aliased halves.table s.target.asName ++ " WHERE " ++
    halves.predicate.text ++ ");"

theorem text_guardSql (table : String) (asName : Option String) (predicate : Sql) :
    (guardSql table asName (some predicate)).text =
      "\nWHERE NOT EXISTS (SELECT 1 FROM " ++ aliased table asName ++ " WHERE " ++ predicate.text ++ ")" := by
  have opens : "\nWHERE NOT EXISTS (SELECT 1 FROM " = "\nWHERE NOT EXISTS " ++ ("(" ++ "SELECT 1 FROM ") := by
    decide
  simp only [guardSql, Sql.parens, Sql.clause, Sql.text_append, Sql.text_code, opens, String.append_assoc,
    -String.reduceAppend]

theorem written_of_emit {cx : Context} {s : Upsert} {predicate : Expr} {sql : Sql}
    (given : s.predicate = some predicate) (updates : s.ignoreUpdate = false)
    (ok : (s.emit cx).result = .ok sql) :
    ∃ halves, s.Written cx predicate halves ∧ sql.text = halves.text cx s := by
  obtain ⟨table, source, _, insert, _, named, inserts, changes, body, tests, rfl⟩ := emit_ok ok
  obtain ⟨changed, update, rfl⟩ := changes updates
  rw [given] at tests
  obtain ⟨condition, written, rfl⟩ := emitOption_some_ok.mp tests
  obtain ⟨table', ctes, assigned, rows, condition', named', common, set, reads, written', rfl⟩ :=
    Update.written_of_emit given rfl update
  -- the update half names the same table and tests the same text
  obtain rfl : table = table' :=
    Except.ok.inj ((Context.tableName_of_target named).symm.trans (Context.tableName_of_target named'))
  obtain rfl : condition = condition' := Except.ok.inj (written.symm.trans written')
  refine ⟨⟨table, source, ctes, assigned, rows, insert, condition⟩,
    ⟨named, inserts, common, set, reads, body, written⟩, ?_⟩
  have ends : ";\n" = ";" ++ "\n" := by decide
  have closes : ");" = ")" ++ ";" := by decide
  simp only [Halves.text, Sql.text_append, Sql.text_code, text_guardSql, ends, closes, String.append_assoc,
    -String.reduceAppend]
  rfl

/-- An UPSERT with a predicate that updates tests one text twice: at the end of the UPDATE, and in the guard
of the INSERT about the same table under the same name. Written again with other new identifiers, the
predicate has that text. In it and in the assigned values, references to computed columns are columns of
the source under the name by which their handle is known, their own if no other reference has it, and all others
are written as they are outside the statement. -/
theorem guard_repeats_predicate (cx : Context) (s : Upsert) (predicate : Expr) (sql : Sql)
    (given : s.predicate = some predicate) (updates : s.ignoreUpdate = false)
    (old : cx.dialect = .postgres → ∀ call ∈ predicate.calls, call.upperName ≠ "NEWUUID")
    (ok : (s.emit cx).result = .ok sql) :
    ∃ halves, s.Written cx predicate halves ∧ sql.text = halves.text cx s ∧
      (∀ fresh, (predicate.emit ((s.disambiguated cx halves.source.name).supplied fresh)).result =
        .ok halves.predicate) ∧
      Sql.Shows (s.Renders cx halves.source.name)
        (predicate.writtenRefs (s.disambiguated cx halves.source.name).form?) halves.predicate ∧
      s.SetFrom cx halves.source.name halves.assigned ∧
      ∀ ref ∈ s.refs, (∀ other ∈ s.refs, other.id = ref.id → other = ref) → s.known ref = ref := by
  obtain ⟨halves, written, text⟩ := written_of_emit given updates ok
  refine ⟨halves, written, text, fun fresh => ?_, ?_, setFrom_of_emit written.assigned,
    fun ref mem unique => known_of_unique mem unique⟩
  · have again : predicate.emit ((s.disambiguated cx halves.source.name).supplied fresh) =
        predicate.emit (s.disambiguated cx halves.source.name) := Expr.emit_supplied fresh old
    rw [again]
    exact written.predicate
  · have shown := predicate.gives_shows halves.predicate written.predicate
    refine shown.imp fun ref mem part is => renders_of_disambiguated (refs_of_predicate given ?_) is
    exact predicate.mem_columnRefs mem

end Upsert

namespace Deliveries

def code : Property := ⟨"Code", [⟨"_Code", "numeric", .default, 0, 9, 0, false⟩]⟩

def title : Property := ⟨"Title", [⟨"_Title", "nvarchar", .default, 50, 0, 0, false⟩]⟩

def entity : Entity := ⟨"Stock", "_Stock5", 5, [code, title]⟩

/-- The code of a delivery has no columns recorded outside the query; its title has. -/
def bindings : Bindings where
  bindings := Dict.ofList [(⟨1⟩, .entity entity), (⟨2⟩, .temporaryTable), (⟨7⟩, .property code),
    (⟨8⟩, .column ⟨5⟩), (⟨9⟩, .property title), (⟨10⟩, .column ⟨6⟩), (⟨11⟩, .property title),
    (⟨12⟩, .temporaryTable), (⟨14⟩, .column ⟨5⟩)]
  mappings := Dict.ofList [(⟨3⟩, [⟨"t._Code", some "Code", none, none⟩]),
    (⟨4⟩, [⟨"t._Title", some "Title", none, some "char(50)"⟩]), (⟨7⟩, [⟨"q._Code", none, none, none⟩]),
    (⟨9⟩, [⟨"q._Title", none, none, none⟩]), (⟨10⟩, [⟨"t.Title", some "Title", none, some "char(50)"⟩]),
    (⟨11⟩, [⟨"q._Title", none, none, none⟩]), (⟨13⟩, [⟨"o._Code", none, none, none⟩]),
    (⟨14⟩, [⟨"d.Code", none, none, none⟩])]

def context (dialect : Dialect) : Context :=
  .ofStatements dialect bindings Catalog.empty Registry.standard 0 (fun _ => default) []

def rows : Query :=
  .select <| .plain ⟨20⟩ [⟨⟨5⟩, .column ⟨⟨3⟩, "t.Code"⟩, none⟩, ⟨⟨6⟩, .column ⟨⟨4⟩, "t.Title"⟩, none⟩]
    (some (.table ⟨⟨2⟩, "incoming", some "t"⟩))

/-- `SELECT 1 FROM #open AS o WHERE o.Code = d.Code`. -/
def wanted : Query :=
  .select { Select.plain ⟨21⟩ [⟨⟨22⟩, .literal ⟨.number, "1"⟩, none⟩] (some (.table ⟨⟨12⟩, "open", some "o"⟩))
    with predicate := some (.eq (.column ⟨⟨13⟩, "o.Code"⟩) (.column ⟨⟨14⟩, "d.Code"⟩)) }

/-- `q.Code = d.Code AND EXISTS (wanted)`. -/
def predicate : Expr :=
  .and (.eq (.column ⟨⟨7⟩, "q.Code"⟩) (.column ⟨⟨8⟩, "d.Code"⟩))
    (.call ⟨⟨15⟩, "EXISTS", [.subquery wanted], false, none⟩)

/-- `UPSERT Stock AS q SET Title = ISNULL(d.Title, q.Title) FROM (rows) AS d WHERE predicate`. -/
def upsert : Upsert where
  id := ⟨16⟩
  ctes := []
  target := ⟨⟨1⟩, "Stock", some "q"⟩
  source := some (.derived ⟨⟨17⟩, rows, "d"⟩)
  assignments := [⟨⟨⟨9⟩, "q.Title"⟩, .call ⟨⟨18⟩, "ISNULL", [.column ⟨⟨10⟩, "d.Title"⟩,
    .column ⟨⟨11⟩, "q.Title"⟩], false, none⟩⟩]
  predicate := some predicate
  ignoreUpdate := false

def emit (dialect : Dialect) : Except Error Sql :=
  (upsert.emit (context dialect)).result

/-- `UPSERT Stock AS q SET Title = d.Title FROM (rows) AS d WHERE q.Code = d.Code`, with one handle for both columns
of the delivery. -/
def shared : Upsert :=
  { upsert with
    assignments := [⟨⟨⟨9⟩, "q.Title"⟩, .column ⟨⟨8⟩, "d.Title"⟩⟩]
    predicate := some (.eq (.column ⟨⟨7⟩, "q.Code"⟩) (.column ⟨⟨8⟩, "d.Code"⟩)) }

def sharedText : String :=
  let rows := "(SELECT\nt._Code AS Code,\nt._Title AS Title\nFROM #incoming AS t) AS d"
  "UPDATE q\nSET _Title = d.Title\nFROM _Stock5 AS q WITH (UPDLOCK, SERIALIZABLE), " ++ rows ++
    "\nWHERE q._Code = d.Title;\nINSERT INTO _Stock5 (_Code, _Title)\nSELECT\nd.Code,\nd.Title\nFROM " ++ rows ++
    "\nWHERE NOT EXISTS (SELECT 1 FROM _Stock5 AS q WHERE q._Code = d.Title);"

/-- The text of the predicate. The subquery is a scope of its own. -/
def condition (openTable : String) : String :=
  "q._Code = d.Code AND EXISTS(SELECT\n1\nFROM " ++ openTable ++ " AS o\nWHERE o._Code = d.Code)"

end Deliveries

/-- On both backends rows of the stock are found by one condition, with the code of the delivery under the
name of the derived table. -/
theorem Upsert.guard_repeats_predicate_of_deliveries :
    (∃ sql halves, Deliveries.emit .sqlServer = .ok sql ∧
      Deliveries.upsert.Written (Deliveries.context .sqlServer) Deliveries.predicate halves ∧
      sql.text = halves.text (Deliveries.context .sqlServer) Deliveries.upsert ∧
      halves.predicate.text = Deliveries.condition "#open") ∧
    ∃ sql halves, Deliveries.emit .postgres = .ok sql ∧
      Deliveries.upsert.Written (Deliveries.context .postgres) Deliveries.predicate halves ∧
      sql.text = halves.text (Deliveries.context .postgres) Deliveries.upsert ∧
      halves.predicate.text = Deliveries.condition "open" := by
  have old : ∀ call ∈ Deliveries.predicate.calls, call.upperName ≠ "NEWUUID" := by decide +kernel
  have guard {dialect : Dialect} {text : String} (emits : ∃ sql, Deliveries.emit dialect = .ok sql ∧ True)
      (tests : ∃ condition, (Deliveries.predicate.emit
        (Deliveries.upsert.disambiguated (Deliveries.context dialect) "d")).result = .ok condition ∧
        condition.text = text) :
      ∃ sql halves, Deliveries.emit dialect = .ok sql ∧
        Deliveries.upsert.Written (Deliveries.context dialect) Deliveries.predicate halves ∧
        sql.text = halves.text (Deliveries.context dialect) Deliveries.upsert ∧
        halves.predicate.text = text := by
    obtain ⟨sql, ok, -⟩ := emits
    obtain ⟨condition, written, rfl⟩ := tests
    obtain ⟨halves, are, same, -, -, -, -⟩ :=
      guard_repeats_predicate (Deliveries.context dialect) Deliveries.upsert _ sql rfl rfl (fun _ => old) ok
    have named : halves.source.name = "d" := by rw [← Except.ok.inj are.source]; rfl
    have tested := are.predicate
    rw [named] at tested
    refine ⟨sql, halves, ok, are, same, ?_⟩
    rw [Except.ok.inj (written.symm.trans tested)]
  constructor
  · exact guard (Except.exists_ok (by decide +kernel)) (Except.exists_ok (by decide +kernel))
  · exact guard (Except.exists_ok (by decide +kernel)) (Except.exists_ok (by decide +kernel))

/-- A reference to a column of the source is not always written under its own name: `d.Code` shares its handle with
`d.Title`, no columns are recorded for it, and the rows are found by their title. -/
theorem Upsert.shared_handle_written_as_last :
    Deliveries.shared.refs = [⟨⟨7⟩, "q.Code"⟩, ⟨⟨8⟩, "d.Code"⟩, ⟨⟨8⟩, "d.Title"⟩] ∧
    (Deliveries.context .sqlServer).binding? ⟨8⟩ = some (.column ⟨5⟩) ∧
    (Deliveries.context .sqlServer).mapping? ⟨8⟩ = none ∧
    Deliveries.shared.known ⟨⟨8⟩, "d.Code"⟩ = ⟨⟨8⟩, "d.Title"⟩ ∧
    (Upsert.sourceSql (Deliveries.context .sqlServer) "d" ⟨⟨8⟩, "d.Code"⟩).text = "d.Code" ∧
    ∃ sql, (Deliveries.shared.emit (Deliveries.context .sqlServer)).result = .ok sql ∧
      sql.text = Deliveries.sharedText := by
  refine ⟨rfl, ?_, ?_, ?_, ?_, Except.exists_ok (by decide +kernel)⟩ <;> decide +kernel

end SqlEmit
