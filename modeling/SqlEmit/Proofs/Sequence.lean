import SqlEmit.Proofs.Query
import SqlEmit.Statement.Sequence

/-! What the trigger of a sequence fills. On PostgreSQL it sets the first column of the numbered property.
On MS-SQL it inserts the whole row again and draws for every column of every property that has the name
of the numbered one. -/
namespace SqlEmit

/-- The columns of a table, those of each property in canonical order. -/
def Entity.orderedColumns (entity : Entity) : List SchemaColumn :=
  entity.properties.flatMap Property.orderedColumns

theorem sequenceEntity_ok {cx : Context} {keyword name : String} {table : TableRef} {node : NodeId}
    {entity : Entity} (ok : sequenceEntity cx keyword name table node = .ok entity) :
    cx.tableBinding? table = some (.entity entity) := by
  unfold sequenceEntity at ok
  split at ok
  · cases ok
  · split at ok
    next bound => rwa [Except.ok.inj ok] at bound
    next => cases ok

namespace ApplySequence

theorem numbered_ok {cx : Context} {s : ApplySequence} {property : Property} {first : SchemaColumn}
    (ok : s.numbered cx = .ok (property, first)) :
    cx.binding? s.column.id = some (.property property) ∧ property.orderedColumns.head? = some first := by
  unfold numbered at ok
  split at ok
  next bound =>
    split at ok
    next columns =>
      obtain ⟨rfl, rfl⟩ := Prod.mk.inj (Except.ok.inj ok)
      exact ⟨bound, by rw [columns]; rfl⟩
    next => cases ok
  next => cases ok

theorem emit_ok {cx : Context} {s : ApplySequence} {sql : Sql} (ok : s.emit cx = .ok sql) :
    ∃ entity property first ending, cx.tableBinding? s.table = some (.entity entity) ∧
      cx.binding? s.column.id = some (.property property) ∧ property.orderedColumns.head? = some first ∧
      sql = cx.dialect.pick (s.insteadOfSql entity property)
        (s.beforeInsertSql (Text.lower entity.tableName) (Text.lower first.name)) ++ ending := by
  obtain ⟨entity, is, rest⟩ := Except.bind_ok.mp ok
  obtain ⟨⟨property, first⟩, numbered, rest⟩ := Except.bind_ok.mp rest
  obtain ⟨bound, head⟩ := numbered_ok numbered
  cases dialect : cx.dialect with
  | sqlServer =>
    simp only [dialect] at rest
    obtain ⟨ending, -, same⟩ := Except.bind_ok.mp rest
    exact ⟨entity, property, first, ending, sequenceEntity_ok is, bound, head, (Except.pure_ok.mp same).symm⟩
  | postgres =>
    simp only [dialect] at rest
    obtain ⟨ending, -, same⟩ := Except.bind_ok.mp rest
    exact ⟨entity, property, first, ending, sequenceEntity_ok is, bound, head, (Except.pure_ok.mp same).symm⟩

/-- The PostgreSQL trigger that sets columns of each new row. -/
def assigningSql (tableName : String) (assigned : List (String × Sql)) : Sql :=
  Sql.code ("CREATE FUNCTION " ++ triggerFunction tableName ++ "()\nRETURNS trigger AS $BODY$\nBEGIN\n") ++
    Sql.join "" (assigned.map fun (column, value) =>
      Sql.code ("NEW." ++ column ++ " := ") ++ value ++ Sql.code ";\n") ++
    Sql.code ("RETURN NEW;\nEND $BODY$ LANGUAGE 'plpgsql';\n\nCREATE TRIGGER " ++ triggerName tableName ++
      "\nBEFORE INSERT ON " ++ tableName ++ " FOR EACH ROW\nEXECUTE PROCEDURE " ++
      triggerFunction tableName ++ "();")

theorem text_beforeInsertSql (s : ApplySequence) (tableName column : String) :
    (s.beforeInsertSql tableName column).text =
      (assigningSql tableName [(column, .ofPiece (.nextValue .postgres s.name))]).text := by
  have opens : "()\nRETURNS trigger AS $BODY$\nBEGIN\nNEW." =
      "()\nRETURNS trigger AS $BODY$\nBEGIN\n" ++ "NEW." := by decide
  have closes : ";\nRETURN NEW;\nEND $BODY$ LANGUAGE 'plpgsql';\n\nCREATE TRIGGER " =
      ";\n" ++ "RETURN NEW;\nEND $BODY$ LANGUAGE 'plpgsql';\n\nCREATE TRIGGER " := by decide
  simp only [beforeInsertSql, assigningSql, opens, closes, List.map_cons, List.map_nil, Sql.join,
    Sql.text_append, Sql.text_code, String.append_assoc, -String.reduceAppend]

end ApplySequence

namespace InsertLists

/-- The lists of columns that are drawn from a sequence or, where they are not marked, copied from the
inserted row. -/
def ofMarked (sequence : String) (marked : List (String × Bool)) : InsertLists :=
  ⟨marked.map (·.1), marked.map fun (column, drawn) => if drawn then .next sequence else .copied "i" column⟩

/-- One column is drawn from a sequence, and every other one is copied from the inserted row. -/
def DrawsOnly (lists : InsertLists) (sequence column : String) : Prop :=
  ∃ before after, lists.columns = before ++ column :: after ∧
    lists.values = before.map (.copied "i") ++ .next sequence :: after.map (.copied "i")

variable {sequence : String}

theorem ofMarked_append (before after : List (String × Bool)) :
    ofMarked sequence (before ++ after) = (ofMarked sequence before).append (ofMarked sequence after) := by
  simp [ofMarked, append]

theorem values_ofMarked {marked : List (String × Bool)} (copied : ∀ mark ∈ marked, mark.2 = false) :
    (ofMarked sequence marked).values = (ofMarked sequence marked).columns.map (.copied "i") := by
  simp only [ofMarked, List.map_map]
  refine List.map_congr_left fun mark mem => ?_
  simp [copied mark mem]

/-- Columns with values that are copied are not marked. -/
theorem copied_of_values {marked : List (String × Bool)} {columns : List String}
    (values : (ofMarked sequence marked).values = columns.map (.copied "i")) :
    ∀ mark ∈ marked, mark.2 = false := by
  intro mark mem
  have value : (if mark.2 then InsertValue.next sequence else .copied "i" mark.1) ∈
      (ofMarked sequence marked).values := List.mem_map_of_mem mem
  rw [values] at value
  obtain ⟨column, -, same⟩ := List.mem_map.mp value
  by_cases drawn : mark.2 = true
  · simp [drawn] at same
  · simpa using drawn

theorem drawsOnly_ofMarked_iff {marked : List (String × Bool)} {column : String} :
    (ofMarked sequence marked).DrawsOnly sequence column ↔ (marked.filter (·.2)).map (·.1) = [column] := by
  constructor
  · rintro ⟨before, after, columns, values⟩
    obtain ⟨left, right, rfl, first, rest⟩ := List.map_eq_append_iff.mp columns
    obtain ⟨mark, others, rfl, rfl, last⟩ := List.map_eq_cons_iff.mp rest
    -- the lists have the same lengths in front of the drawn column, so the values split there too
    rw [ofMarked_append] at values
    have lengths : (ofMarked sequence left).values.length = (before.map (InsertValue.copied "i")).length := by
      simp [ofMarked, ← first]
    obtain ⟨front, back⟩ := List.append_inj values lengths
    obtain ⟨drawn, behind⟩ := List.cons.inj back
    have drawn : mark.2 = true := by
      by_contra copied
      simp [copied] at drawn
    have none {part : List (String × Bool)} (copied : ∀ mark ∈ part, mark.2 = false) : part.filter (·.2) = [] :=
      List.filter_eq_nil_iff.mpr fun mark mem => by simp [copied mark mem]
    rw [List.filter_append, none (copied_of_values front), List.filter_cons_of_pos drawn,
      none (copied_of_values behind)]
    rfl
  · intro only
    obtain ⟨mark, kept, rfl⟩ := List.map_eq_singleton_iff.mp only
    obtain ⟨left, right, rfl, unmarked, drawn, rest⟩ := List.filter_eq_cons_iff.mp kept
    have before : ∀ mark ∈ left, mark.2 = false := fun mark mem => by simpa using unmarked mark mem
    have after : ∀ mark ∈ right, mark.2 = false := fun mark mem => by
      simpa using List.filter_eq_nil_iff.mp rest mark mem
    refine ⟨left.map (·.1), right.map (·.1), by simp [ofMarked], ?_⟩
    rw [ofMarked_append]
    show (ofMarked sequence left).values ++ _ :: (ofMarked sequence right).values = _
    rw [values_ofMarked before, values_ofMarked after]
    simp [ofMarked, drawn]

end InsertLists

namespace ApplySequence

/-- The columns of the properties that have the name of the numbered one. -/
def drawnColumns (entity : Entity) (property : Property) : List SchemaColumn :=
  (entity.properties.filter (·.name = property.name)).flatMap Property.orderedColumns

def marked (entity : Entity) (property : Property) : List (String × Bool) :=
  entity.properties.flatMap fun candidate =>
    candidate.orderedColumns.map fun column => (column.name, decide (candidate.name = property.name))

theorem triggerLists_eq (s : ApplySequence) (entity : Entity) (property : Property) :
    s.triggerLists entity property = .ofMarked s.name (marked entity property) := rfl

theorem columns_triggerLists (s : ApplySequence) (entity : Entity) (property : Property) :
    (s.triggerLists entity property).columns = entity.orderedColumns.map (·.name) := by
  simp [triggerLists_eq, InsertLists.ofMarked, marked, Entity.orderedColumns, List.map_flatMap,
    Function.comp_def]

theorem filter_marked (entity : Entity) (property : Property) :
    ((marked entity property).filter (·.2)).map (·.1) = (drawnColumns entity property).map (·.name) := by
  unfold marked drawnColumns
  induction entity.properties with
  | nil => rfl
  | cons candidate properties ih =>
    rw [List.flatMap_cons, List.filter_append, List.map_append, ih]
    by_cases named : candidate.name = property.name
    · simp [named, List.filter_map, Function.comp_def]
    · simp [named, List.filter_map, Function.comp_def]

/-- The trigger draws once for each column of the properties of that name. -/
theorem count_next (s : ApplySequence) (entity : Entity) (property : Property) :
    (s.triggerLists entity property).values.count (.next s.name) = (drawnColumns entity property).length := by
  have drawn : (marked entity property).countP (·.2) = (drawnColumns entity property).length := by
    rw [List.countP_eq_length_filter]
    simpa using congrArg List.length (filter_marked entity property)
  rw [← drawn, triggerLists_eq, InsertLists.ofMarked, List.count, List.countP_map]
  refine List.countP_congr fun mark _ => ?_
  by_cases is : mark.2 = true
  · simp [is]
  · simp [is]

/-- Both backends number a table by the first column of the bound property: PostgreSQL sets that column
and no other. MS-SQL lists all columns, draws for those of the properties with the name of the bound one
and copies the rest; it draws for that column alone exactly where there is no other such column. -/
theorem trigger_draws_only_iff {cx : Context} {s : ApplySequence} {server postgres : Sql}
    (onServer : s.emit { cx with dialect := .sqlServer } = .ok server)
    (onPostgres : s.emit { cx with dialect := .postgres } = .ok postgres) :
    ∃ entity property first, cx.tableBinding? s.table = some (.entity entity) ∧
      cx.binding? s.column.id = some (.property property) ∧ property.orderedColumns.head? = some first ∧
      (∃ ending, server = s.insteadOfSql entity property ++ ending) ∧
      (∃ ending, postgres.text = (assigningSql (Text.lower entity.tableName)
        [(Text.lower first.name, .ofPiece (.nextValue .postgres s.name))]).text ++ ending) ∧
      (s.triggerLists entity property).columns = entity.orderedColumns.map (·.name) ∧
      (s.triggerLists entity property).values.count (.next s.name) = (drawnColumns entity property).length ∧
      ((s.triggerLists entity property).DrawsOnly s.name first.name ↔
        (drawnColumns entity property).map (·.name) = [first.name]) := by
  obtain ⟨entity, property, first, serverEnding, table, column, head, rfl⟩ := emit_ok onServer
  obtain ⟨entity', property', first', ending, table', column', head', rfl⟩ := emit_ok onPostgres
  -- what is bound does not depend on the backend
  obtain rfl : entity = entity' := by
    have same := table.symm.trans table'
    simpa using same
  obtain rfl : property = property' := by
    have same := column.symm.trans column'
    simpa using same
  obtain rfl : first = first' := Option.some.inj (head.symm.trans head')
  refine ⟨entity, property, first, table, column, head, ⟨serverEnding, rfl⟩, ⟨ending.text, ?_⟩,
    s.columns_triggerLists entity property, s.count_next entity property, ?_⟩
  · rw [Sql.text_append, ← text_beforeInsertSql]
    rfl
  · rw [triggerLists_eq, InsertLists.drawsOnly_ofMarked_iff, filter_marked]

end ApplySequence

namespace Numbering

def title : Property := ⟨"Title", [⟨"_Title", "nvarchar", .default, 50, 0, 0, false⟩]⟩

def code : Property := ⟨"Code", [⟨"_Code", "numeric", .default, 0, 9, 0, false⟩]⟩

def mixedCode : Property :=
  ⟨"Code", [⟨"_Code_S", "nvarchar", .string, 9, 0, 0, false⟩,
    ⟨"_Code_N", "numeric", .numeric, 0, 9, 0, false⟩]⟩

def entity (code : Property) : Entity := ⟨"Document", "_Document7", 7, [title, code]⟩

def context (code : Property) : Context :=
  .ofStatements .sqlServer ⟨Dict.ofList [(⟨1⟩, .entity (entity code)), (⟨2⟩, .property code)], Dict.empty⟩
    Catalog.empty Registry.standard 0 (fun _ => default) []

def apply : ApplySequence := ⟨⟨3⟩, "Numbers", ⟨⟨1⟩, "Document", none⟩, ⟨⟨2⟩, "Code"⟩, false⟩

def emit (code : Property) (dialect : Dialect) : Except Error Sql :=
  apply.emit { context code with dialect }

def lists (code : Property) : InsertLists :=
  apply.triggerLists (entity code) code

end Numbering

/-- A code of one column is drawn alone on both backends. Of a code that is a number or a text both columns
are drawn on MS-SQL. -/
theorem ApplySequence.trigger_draws_only_of_code :
    (∃ server postgres, Numbering.emit Numbering.code .sqlServer = .ok server ∧
      Numbering.emit Numbering.code .postgres = .ok postgres ∧
      (Numbering.lists Numbering.code).DrawsOnly "Numbers" "_Code") ∧
    ∃ server postgres, Numbering.emit Numbering.mixedCode .sqlServer = .ok server ∧
      Numbering.emit Numbering.mixedCode .postgres = .ok postgres ∧
      (Numbering.lists Numbering.mixedCode).columns = ["_Title", "_Code_N", "_Code_S"] ∧
      ¬(Numbering.lists Numbering.mixedCode).DrawsOnly "Numbers" "_Code_N" := by
  have only {code : Property} {column : SchemaColumn} (first : code.orderedColumns.head? = some column)
      (server : ∃ sql, Numbering.emit code .sqlServer = .ok sql ∧ True)
      (postgres : ∃ sql, Numbering.emit code .postgres = .ok sql ∧ True) :
      ∃ server postgres, Numbering.emit code .sqlServer = .ok server ∧
        Numbering.emit code .postgres = .ok postgres ∧
        ((Numbering.lists code).DrawsOnly "Numbers" column.name ↔
          (drawnColumns (Numbering.entity code) code).map (·.name) = [column.name]) := by
    obtain ⟨server, onServer, -⟩ := server
    obtain ⟨postgres, onPostgres, -⟩ := postgres
    obtain ⟨entity, property, column', table, bound, head, -, -, -, -, only⟩ :=
      trigger_draws_only_iff onServer onPostgres
    obtain rfl : Numbering.entity code = entity := Binding.entity.inj (Option.some.inj table)
    obtain rfl : code = property := Binding.property.inj (Option.some.inj bound)
    obtain rfl : column = column' := Option.some.inj (first.symm.trans head)
    exact ⟨server, postgres, onServer, onPostgres, only⟩
  constructor
  · have first : Numbering.code.orderedColumns.head? = some ⟨"_Code", "numeric", .default, 0, 9, 0, false⟩ := by
      decide +kernel
    obtain ⟨server, postgres, onServer, onPostgres, iff⟩ :=
      only first (Except.exists_ok (by decide +kernel)) (Except.exists_ok (by decide +kernel))
    exact ⟨server, postgres, onServer, onPostgres, iff.mpr (by decide +kernel)⟩
  · have first : Numbering.mixedCode.orderedColumns.head? =
        some ⟨"_Code_N", "numeric", .numeric, 0, 9, 0, false⟩ := by decide +kernel
    obtain ⟨server, postgres, onServer, onPostgres, iff⟩ :=
      only first (Except.exists_ok (by decide +kernel)) (Except.exists_ok (by decide +kernel))
    refine ⟨server, postgres, onServer, onPostgres, by decide +kernel, fun drawn => ?_⟩
    have single := iff.mp drawn
    revert single
    decide +kernel

end SqlEmit
