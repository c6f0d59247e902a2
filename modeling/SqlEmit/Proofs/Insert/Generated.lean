import SqlEmit.Proofs.Insert.Lists
import SqlEmit.Proofs.Isolation
import SqlEmit.Proofs.Sequence

/-! Columns that the database maintains. An INSERT leaves them out, also as half of an UPSERT; the trigger
that inserts in place of a statement lists every column of the table. -/
namespace SqlEmit

namespace Insert

section

variable {cx : Context} {source : String} {projection : List Projected}

/-- The columns with these names are columns of the given ones, and none of them is maintained by the
database. -/
def ListsStored (names : List String) (columns listed : List SchemaColumn) : Prop :=
  names = listed.map (·.name) ∧ listed.Sublist columns ∧ ∀ column ∈ listed, column.isGenerated = false

theorem Fills.lists_stored {property : Property} {part : InsertLists}
    (fills : Fills cx source projection property part) :
    ∃ listed, ListsStored part.columns property.orderedColumns listed := by
  cases fills with
  | skipped none => exact ⟨[], rfl, List.nil_sublist _, by simp⟩
  | filled supplier supplies =>
    refine ⟨property.orderedColumns.filter fun column => !column.isGenerated, ?_, List.filter_sublist, ?_⟩
    · simp [propertyTargets]
    · intro column mem
      simpa using (List.mem_filter.mp mem).2

theorem lists_stored_of_fills {properties : List Property} {parts : List InsertLists}
    (each : List.Forall₂ (Fills cx source projection) properties parts) :
    ∃ listed, ListsStored (InsertLists.joined parts).columns (properties.flatMap Property.orderedColumns)
      listed := by
  induction each with
  | nil => exact ⟨[], rfl, List.nil_sublist _, by simp⟩
  | cons fills _ ih =>
    obtain ⟨first, firstNames, firstSublist, firstStored⟩ := fills.lists_stored
    obtain ⟨others, names, sublist, stored⟩ := ih
    refine ⟨first ++ others, ?_, firstSublist.append sublist, List.forall_mem_append.mpr ⟨firstStored, stored⟩⟩
    simp only [InsertLists.joined, List.flatMap_cons, List.map_append] at names ⊢
    rw [firstNames, names]

theorem Written.lists_stored {s : Insert} {written : InsertSql} {entity : Entity}
    (made : s.Written cx projection written) (bound : cx.tableBinding? s.target = some (.entity entity)) :
    ∃ listed, ListsStored written.lists.columns entity.orderedColumns listed := by
  obtain ⟨parts, are, lists⟩ := parts_of_ok made.lists
  rw [lists]
  cases are with
  | entity bound' each =>
    obtain rfl := Binding.entity.inj (Option.some.inj (bound.symm.trans bound'))
    exact lists_stored_of_fills each
  | table unbound each => exact absurd bound (unbound entity)

end

end Insert

theorem Context.targetName_of_entity {cx : Context} {target : TableRef} {keyword table : String}
    {entity : Entity} (bound : cx.tableBinding? target = some (.entity entity))
    (ok : cx.targetName target keyword = .ok table) : table = entity.tableName := by
  simp only [targetName, bound, tableName] at ok
  exact (Except.ok.inj ok).symm

namespace Statement

/-- The table that an INSERT in the text of the statement lists the columns of. The trigger of a sequence
inserts on MS-SQL. -/
def insertedTable? (cx : Context) : Statement → Option Binding
  | .applySequence s => cx.dialect.pick (cx.tableBinding? s.table) none
  | statement => (statement.insertHalf? cx).bind fun (cx, s) => cx.tableBinding? s.target

def isApplySequence : Statement → Bool
  | .applySequence _ => true
  | _ => false

def insertHead (statement : Statement) (table : String) (columns : List String) : String :=
  if statement.isApplySequence then "INSERT " ++ table ++ "(" ++ ", ".intercalate columns ++ ")\nSELECT "
  else "INSERT INTO " ++ table ++ " (" ++ ", ".intercalate columns ++ ")\nSELECT\n"

variable {cx : Context} {statement : Statement} {entity : Entity} {sql : Sql}

/-- What the text of a statement lists for an entity. -/
def ListsFor (statement : Statement) (sql : Sql) (entity : Entity) (listed : List SchemaColumn) : Prop :=
  ∃ before after, sql.text =
    before ++ statement.insertHead entity.tableName (listed.map (·.name)) ++ after

/-- An INSERT lists columns of the entity that the database does not maintain. -/
theorem listsFor_of_half {cx' : Context} {s : Insert} (half : statement.insertHalf? cx = some (cx', s))
    (bound : cx'.tableBinding? s.target = some (.entity entity)) (ok : (statement.emit cx).result = .ok sql) :
    ∃ listed, statement.ListsFor sql entity listed ∧ listed.Sublist entity.orderedColumns ∧
      ∀ column ∈ listed, column.isGenerated = false := by
  obtain ⟨before, after, projection, written, rfl, made⟩ := insertHalf_written half ok
  obtain ⟨listed, names, sublist, stored⟩ := made.lists_stored bound
  have table := Context.targetName_of_entity bound made.table
  have plain : statement.isApplySequence = false := by
    cases statement with
    | applySequence => simp [insertHalf?] at half
    | _ => rfl
  refine ⟨listed, ⟨before.text ++ written.ctes.text, ?_, ?_⟩, sublist, stored⟩
  · exact (Sql.join ",\n" (written.lists.values.map (InsertValue.sql cx'.dialect))).text ++ "\nFROM " ++
      written.source.text ++ after.text
  · simp only [InsertSql.sql, insertHead, plain, Bool.false_eq_true, if_false, Sql.text_append, Sql.text_code,
      names, table, String.append_assoc]

/-- The trigger that inserts in place of a statement lists every column of the entity. -/
theorem listsFor_of_trigger {s : ApplySequence} (server : cx.dialect = .sqlServer)
    (bound : cx.tableBinding? s.table = some (.entity entity)) (ok : s.emit cx = .ok sql) :
    (Statement.applySequence s).ListsFor sql entity entity.orderedColumns := by
  obtain ⟨entity', property, first, ending, bound', -, -, rfl⟩ := ApplySequence.emit_ok ok
  obtain rfl := Binding.entity.inj (Option.some.inj (bound.symm.trans bound'))
  have opens : " INSTEAD OF INSERT NOT FOR REPLICATION AS\nINSERT " =
      " INSTEAD OF INSERT NOT FOR REPLICATION AS\n" ++ "INSERT " := by decide
  refine ⟨"IF OBJECT_ID('" ++ insteadOfInsert entity.tableName ++ "', 'TR') IS NULL\nEXECUTE('CREATE TRIGGER " ++
      insteadOfInsert entity.tableName ++ " ON " ++ entity.tableName ++
      " INSTEAD OF INSERT NOT FOR REPLICATION AS\n",
    (Sql.join ", " ((s.triggerLists entity property).values.map (InsertValue.sql .sqlServer))).text ++
      "\nFROM INSERTED AS i;');" ++ ending.text, ?_⟩
  rw [server, ← s.columns_triggerLists entity property]
  simp only [Dialect.pick, ApplySequence.insteadOfSql, opens, insertHead, isApplySequence, if_true,
    Sql.text_append, Sql.text_code, String.append_assoc, -String.reduceAppend]

theorem insertedTable?_cases {binding : Binding} (inserts : statement.insertedTable? cx = some binding) :
    (∃ s, statement = .applySequence s ∧ cx.dialect = .sqlServer ∧ cx.tableBinding? s.table = some binding) ∨
      statement.isApplySequence = false ∧ ∃ cx' s, statement.insertHalf? cx = some (cx', s) ∧
        cx'.tableBinding? s.target = some binding := by
  cases statement with
  | applySequence s =>
    cases dialect : cx.dialect with
    | sqlServer => exact .inl ⟨s, rfl, rfl, by simpa [insertedTable?, dialect, Dialect.pick] using inserts⟩
    | postgres => simp [insertedTable?, dialect, Dialect.pick] at inserts
  | _ =>
    simp only [insertedTable?, Option.bind_eq_some_iff] at inserts
    obtain ⟨⟨cx', s⟩, half, bound⟩ := inserts
    exact .inr ⟨rfl, cx', s, half, bound⟩

/-- A statement that inserts into an entity lists a part of its columns: the trigger of a sequence all of
them, any other statement none that the database maintains. -/
theorem listsFor_of_emit (inserts : statement.insertedTable? cx = some (.entity entity))
    (ok : (statement.emit cx).result = .ok sql) :
    ∃ listed, statement.ListsFor sql entity listed ∧ listed.Sublist entity.orderedColumns ∧
      ∀ column ∈ entity.orderedColumns, column.isGenerated = true →
        (column ∈ listed ↔ statement.isApplySequence = true) := by
  rcases insertedTable?_cases inserts with ⟨s, rfl, server, bound⟩ | ⟨plain, cx', s, half, bound⟩
  · refine ⟨entity.orderedColumns, listsFor_of_trigger server bound ok, List.Sublist.refl _, ?_⟩
    intro column mem _
    exact iff_of_true mem rfl
  · obtain ⟨listed, lists, sublist, stored⟩ := listsFor_of_half half bound ok
    refine ⟨listed, lists, sublist, fun column _ generated => ?_⟩
    apply iff_of_false
    · intro mem
      simp [stored column mem] at generated
    · simp [plain]

end Statement

/-- Where the columns of a table have distinct names, a column is listed exactly if its name is. -/
theorem mem_map_name_iff {columns listed : List SchemaColumn} {column : SchemaColumn}
    (names : (columns.map (·.name)).Nodup) (sublist : listed.Sublist columns) (mem : column ∈ columns) :
    column.name ∈ listed.map (·.name) ↔ column ∈ listed := by
  refine ⟨fun named => ?_, fun found => List.mem_map_of_mem found⟩
  obtain ⟨other, there, same⟩ := List.mem_map.mp named
  obtain rfl := List.inj_on_of_nodup_map names (sublist.subset there) mem same
  exact there

/-- In every script each INSERT into an entity lists a part of the columns of the entity. A column that the
database maintains is listed by the MS-SQL trigger of a sequence, and by no other statement; where the
columns of the entity have distinct names, so is its name. -/
theorem Script.generated_column_listed_iff {script : Script} {settings : Settings} {metadata : Metadata}
    {registry : Registry} {fresh : NodeId → Uuid} {emitted : Emitted} {statement : Statement} {entity : Entity}
    (ok : script.emit settings metadata registry fresh = .ok emitted) (mem : statement ∈ script.statements)
    (inserts : statement.insertedTable? (script.context settings metadata registry fresh) =
      some (.entity entity)) :
    ∃ sql listed,
      statement.emitted (script.context settings metadata registry fresh) settings.terminated sql ∈
        emitted.statements ∧
      statement.ListsFor sql entity listed ∧ listed.Sublist entity.orderedColumns ∧
      ∀ column ∈ entity.orderedColumns, column.isGenerated = true →
        (column ∈ listed ↔ statement.isApplySequence = true) ∧
        ((entity.orderedColumns.map (·.name)).Nodup →
          (column.name ∈ listed.map (·.name) ↔ statement.isApplySequence = true)) := by
  obtain ⟨written, there, alone⟩ := forall₂_mem (Script.emit_ok.mp ok) mem
  obtain ⟨sql, is, rfl⟩ := Statement.alone_ok.mp alone
  obtain ⟨listed, lists, sublist, listing⟩ := Statement.listsFor_of_emit inserts is
  refine ⟨sql, listed, there, lists, sublist, fun column stands generated => ?_⟩
  have here := listing column stands generated
  refine ⟨here, fun names => ?_⟩
  rw [mem_map_name_iff names sublist stands, here]

namespace Documents

def stamp : SchemaColumn := ⟨"_Stamp", "timestamp", .default, 0, 0, 0, true⟩

def numbering : Statement := .applySequence ⟨⟨20⟩, "Numbers", target, ⟨⟨21⟩, "Code"⟩, false⟩

/-- A document is inserted, then its numbers are drawn by a trigger. -/
def numbered : Script where
  bindings := bindings.bind ⟨21⟩ (.property code)
  statements := [.insert (insert nobody), numbering]

def settings : Settings := ⟨.sqlServer, 0, true⟩

def emitNumbered : Except Error Emitted :=
  numbered.emit settings Catalog.empty Registry.standard fun _ => default

def numberedContext : Context :=
  numbered.context settings Catalog.empty Registry.standard fun _ => default

end Documents

/-- The stamp of a document is left out of the INSERT and listed by the trigger. -/
theorem Script.generated_column_listed_of_stamp :
    ∃ emitted inserted trigger, Documents.emitNumbered = .ok emitted ∧
      (Statement.insert (Documents.insert Documents.nobody)).emitted Documents.numberedContext true inserted ∈
        emitted.statements ∧
      Documents.numbering.emitted Documents.numberedContext true trigger ∈ emitted.statements ∧
      (∃ listed, (Statement.insert (Documents.insert Documents.nobody)).ListsFor inserted Documents.entity listed ∧
        "_Stamp" ∉ listed.map (·.name)) ∧
      ∃ listed, Documents.numbering.ListsFor trigger Documents.entity listed ∧
        "_Stamp" ∈ listed.map (·.name) := by
  obtain ⟨emitted, ok, -⟩ : ∃ emitted, Documents.emitNumbered = .ok emitted ∧ emitted.statements.length = 2 :=
    Except.exists_ok (by decide +kernel)
  have stands : Documents.stamp ∈ Documents.entity.orderedColumns := by decide +kernel
  have names : (Documents.entity.orderedColumns.map (·.name)).Nodup := by decide +kernel
  obtain ⟨inserted, stored, insertedThere, insertedLists, _, insertedIff⟩ :=
    generated_column_listed_iff ok List.mem_cons_self rfl
  obtain ⟨trigger, all, triggerThere, triggerLists, _, triggerIff⟩ :=
    generated_column_listed_iff ok (List.mem_cons_of_mem _ List.mem_cons_self) rfl
  refine ⟨emitted, inserted, trigger, ok, insertedThere, triggerThere, ⟨stored, insertedLists, fun named => ?_⟩,
    all, triggerLists, ((triggerIff Documents.stamp stands rfl).2 names).mpr rfl⟩
  have applied := ((insertedIff Documents.stamp stands rfl).2 names).mp named
  exact absurd applied (by decide)

end SqlEmit
