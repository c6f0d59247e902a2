import SqlEmit.Proofs.EntityText
import SqlEmit.Proofs.Guard

/-! The SET clause of an UPDATE. It has one item for each physical column of each target: the values of a
target are as many as its columns, so pairing them loses none. -/
namespace SqlEmit

@[simp] theorem Sql.text_join (separator : String) (parts : List Sql) :
    (Sql.join separator parts).text = separator.intercalate (parts.map Sql.text) := by
  induction parts with
  | nil => rfl
  | cons part parts ih =>
    cases parts with
    | nil => exact String.intercalate_singleton.symm
    | cons next rest => simp [Sql.join, ih, String.intercalate_cons_cons]

section

variable {cx : Context} {columns : List PhysicalColumn} {value : Expr} {values : List Sql}

/-- A written entity reference goes into several columns exactly where each has a tag that stores a part
of it. -/
theorem emitValues_entityText (several : 1 < columns.length) (code : Int32) (identity : Uuid) :
    (emitValues cx columns (.literal ⟨.entity, Literal.entityText code identity⟩)).result = .ok values ↔
      List.Forall₂ (PhysicalColumn.Stores cx.dialect code identity) columns values := by
  rcases columns with _ | ⟨first, _ | ⟨second, others⟩⟩
  · simp at several
  · simp at several
  · simp only [emitValues, Context.referenceMapping?, Option.filter_none, spreadValue,
      Literal.readEntity_entityText]
    calc (first :: second :: others).mapM (entityPart cx.dialect code identity) = .ok values
      _ ↔ List.Forall₂ (fun column value => entityPart cx.dialect code identity column = .ok value)
          (first :: second :: others) values := Except.mapM_ok
      _ ↔ _ := by simp only [entityPart_ok]

theorem Assigned.stores {code : Int32} {identity : Uuid} (several : 1 < columns.length)
    (assigned : Assigned cx columns (.literal ⟨.entity, Literal.entityText code identity⟩) values) :
    List.Forall₂ (PhysicalColumn.Stores cx.dialect code identity) columns values := by
  cases assigned with
  | single one written => omega
  | entity _ read parts =>
    obtain ⟨rfl, rfl⟩ := Prod.mk.inj (Except.ok.inj ((Literal.readEntity_entityText _ _).symm.trans read))
    exact parts

end

/-- The columns of one target and the values they take. -/
structure SetPart where
  columns : List PhysicalColumn
  values : List Sql

def SetPart.items (part : SetPart) : List String :=
  (part.columns.zip part.values).map fun pair => pair.1.columnName ++ " = " ++ pair.2.text

theorem SetPart.length_items {part : SetPart} (same : part.values.length = part.columns.length) :
    part.items.length = part.columns.length := by
  simp [items, same]

/-- An assignment sets all the columns of its target, each to one value. -/
structure Assignment.Sets (cx : Context) (assignment : Assignment) (part : SetPart) : Prop where
  mapped : cx.mapping? assignment.column.id = some part.columns
  present : part.columns ≠ []
  assigned : Assigned cx part.columns assignment.value part.values

theorem Assignment.columns_ok {cx : Context} {assignment : Assignment} {columns : List PhysicalColumn} :
    assignment.columns cx = .ok columns ↔
      cx.mapping? assignment.column.id = some columns ∧ columns ≠ [] := by
  have found : cx.columns? assignment.column.id = some columns ↔
      cx.mapping? assignment.column.id = some columns ∧ columns ≠ [] := by
    simp [Context.columns?, Option.filter_eq_some_iff]
  rw [← found, Assignment.columns]
  split
  next mapping there => simp [there]
  next absent => simp [absent]

theorem Assignment.sets_of_emit {cx : Context} {assignment : Assignment} {assigned : List (String × Sql)}
    (ok : (assignment.emit cx).result = .ok assigned) :
    ∃ part, assignment.Sets cx part ∧
      assigned = (part.columns.map PhysicalColumn.columnName).zip part.values := by
  obtain ⟨columns, are, ok⟩ := Emit.bind_ok.mp ok
  obtain ⟨values, written, same⟩ := Emit.bind_ok.mp ok
  obtain rfl := Emit.pure_ok.mp same
  obtain ⟨mapped, present⟩ := Assignment.columns_ok.mp are
  exact ⟨⟨columns, values⟩, ⟨mapped, present, assigned_of_emit written⟩, rfl⟩

theorem sets_of_emit {cx : Context} {assignments : List Assignment} {assigned : List (String × Sql)}
    (ok : (emitAssignments cx assignments).result = .ok assigned) :
    ∃ parts, List.Forall₂ (Assignment.Sets cx) assignments parts ∧
      assigned = parts.flatMap fun part => (part.columns.map PhysicalColumn.columnName).zip part.values := by
  obtain ⟨lists, each, same⟩ := Emit.bind_ok.mp ok
  obtain rfl := Emit.pure_ok.mp same
  rw [Emit.all_ok, List.forall₂_map_left_iff] at each
  clear ok same
  induction each with
  | nil => exact ⟨[], .nil, rfl⟩
  | cons head _ ih =>
    obtain ⟨part, sets, rfl⟩ := Assignment.sets_of_emit head
    obtain ⟨parts, rest, same⟩ := ih
    exact ⟨part :: parts, .cons sets rest, by simp [same]⟩

theorem text_assignmentsSql (parts : List SetPart) :
    (assignmentsSql (parts.flatMap fun part =>
      (part.columns.map PhysicalColumn.columnName).zip part.values)).text =
      ",\n".intercalate (parts.flatMap SetPart.items) := by
  rw [assignmentsSql, Sql.text_join, List.map_map, List.map_flatMap]
  congr 2
  funext part
  rw [List.zip_map_left, List.map_map]
  refine List.map_congr_left fun pair _ => ?_
  simp

namespace Update

/-- What a SET clause can be followed by. -/
def clauseOpenings : List String :=
  ["\nOUTPUT\n", "\nFROM ", "\nWHERE ", "\nRETURNING\n", ";"]

/-- The text goes on behind a SET clause. -/
def FollowsSet (sql : Sql) : Prop :=
  ∃ opening ∈ clauseOpenings, ∃ rest, sql.text = opening ++ rest

theorem followsSet_code {opening : String} (mem : opening ∈ clauseOpenings) (rest : Sql) :
    FollowsSet (Sql.code opening ++ rest) :=
  ⟨opening, mem, rest.text, by simp⟩

theorem FollowsSet.append {sql : Sql} (follows : FollowsSet sql) (rest : Sql) : FollowsSet (sql ++ rest) := by
  obtain ⟨opening, mem, text, same⟩ := follows
  exact ⟨opening, mem, text ++ rest.text, by simp [same, String.append_assoc]⟩

theorem followsSet_clause {opening : String} (mem : opening ∈ clauseOpenings) (part : Option Sql) {rest : Sql}
    (follows : FollowsSet rest) : FollowsSet (Sql.clause opening part ++ rest) := by
  cases part with
  | none => exact follows
  | some part => exact (followsSet_code mem part).append rest

theorem followsSet_changedFrom (table : String) (asName : Option String) (hints : String)
    (source : Option Sql) {rest : Sql} (follows : FollowsSet rest) :
    FollowsSet (changedFrom table asName hints source ++ rest) := by
  unfold changedFrom
  split
  next name given =>
    refine FollowsSet.append (FollowsSet.append ⟨"\nFROM ", by decide, table ++ " AS " ++ name ++ hints, ?_⟩ _) _
    rw [Sql.text_code]
    simp only [String.append_assoc]
  next => exact followsSet_clause (by decide) source follows

theorem followsSet_output {cx : Context} {output : Option Output} {written rest : Sql}
    (ok : (Output.emit cx output).result = .ok written) (follows : FollowsSet rest) :
    FollowsSet (written ++ rest) := by
  rcases output with _ | ⟨columns, _ | table⟩
  · obtain rfl := Emit.pure_ok.mp ok
    exact follows
  · simp only [Output.emit, Emit.bind_ok, Emit.pure_ok] at ok
    obtain ⟨list, -, rfl⟩ := ok
    exact (followsSet_code (by decide) list).append rest
  · simp only [Output.emit, Emit.bind_ok, Emit.pure_ok] at ok
    obtain ⟨list, -, name, -, rfl⟩ := ok
    exact ((followsSet_code (by decide) list).append _).append rest

/-- A PostgreSQL statement stands whole in what returns its rows. -/
theorem emitReturning_ok {cx : Context} {ctes : List Cte} {body sql : Sql} {output : Option Output}
    (ok : (emitReturning cx ctes body output).result = .ok sql) :
    ∃ before after, sql = before ++ body ++ after ∧ FollowsSet after := by
  rcases output with _ | ⟨columns, _ | table⟩
  · simp only [emitReturning, Emit.bind_ok, Emit.pure_ok] at ok
    obtain ⟨common, -, rfl⟩ := ok
    exact ⟨common, _, rfl, followsSet_code (by decide) Sql.empty⟩
  · simp only [emitReturning, Emit.bind_ok, Emit.pure_ok] at ok
    obtain ⟨list, -, common, -, rfl⟩ := ok
    refine ⟨common, Sql.code "\nRETURNING\n" ++ (list ++ Sql.code ";"), ?_, followsSet_code (by decide) _⟩
    simp only [Sql.append_assoc]
  · have within (common list : Sql) (name : String) : ∃ before after,
        common ++ Sql.code "output AS\n" ++ (body ++ Sql.code "\nRETURNING\n" ++ list).parens ++
          Sql.code ("\nSELECT * " ++ cx.dialect.intoKeyword ++ " " ++ name ++ "\nFROM output;") =
          before ++ body ++ after ∧ FollowsSet after := by
      refine ⟨common ++ Sql.code "output AS\n" ++ Sql.code "(", Sql.code "\nRETURNING\n" ++ (list ++
        (Sql.code ")" ++ Sql.code ("\nSELECT * " ++ cx.dialect.intoKeyword ++ " " ++ name ++
          "\nFROM output;"))), ?_, followsSet_code (by decide) _⟩
      simp only [Sql.parens, Sql.append_assoc]
    by_cases none : ctes.isEmpty = true
    · simp only [emitReturning, none, if_true, Emit.bind_ok, Emit.pure_ok] at ok
      obtain ⟨list, -, common, -, name, -, rfl⟩ := ok
      exact within common list name
    · simp only [emitReturning, none, Bool.false_eq_true, if_false, Emit.bind_ok, Emit.pure_ok] at ok
      obtain ⟨list, -, common, -, name, -, rfl⟩ := ok
      exact within common list name

def targetText (s : Update) (dialect : Dialect) (table : String) : String :=
  dialect.pick ((givenName s.target.asName).getD (table ++ hintText s.hints)) (aliased table s.target.asName)

/-- The clause stands behind the changed table, and the next clause or the end of the statement behind it. -/
theorem set_of_emit {cx : Context} {s : Update} {sql : Sql} (ok : (s.emit cx).result = .ok sql) :
    ∃ before table assigned after,
      cx.targetName s.target "UPDATE" = .ok table ∧
      (emitAssignments cx s.assignments).result = .ok assigned ∧
      sql = before ++ Sql.code ("UPDATE " ++ s.targetText cx.dialect table ++ "\nSET ") ++
        assignmentsSql assigned ++ after ∧
      FollowsSet after := by
  obtain ⟨table, named, ok⟩ := Emit.bind_ok.mp ok
  have ends : FollowsSet (Sql.code ";") := followsSet_code (by decide) Sql.empty
  cases dialect : cx.dialect with
  | sqlServer =>
    simp only [dialect, emitSqlServer, Emit.bind_ok, Emit.pure_ok] at ok
    obtain ⟨ctes, -, assigned, set, output, returned, rows, -, condition, -, rfl⟩ := ok
    refine ⟨ctes, table, assigned, output ++ (changedFrom table s.target.asName (hintText s.hints) rows ++
      (Sql.clause "\nWHERE " condition ++ Sql.code ";")), named, set, ?_, ?_⟩
    · simp only [targetText, Dialect.pick, Sql.append_assoc]
    · exact followsSet_output returned (followsSet_changedFrom _ _ _ _ (followsSet_clause (by decide) _ ends))
  | postgres =>
    simp only [dialect, emitPostgres, Emit.bind_ok] at ok
    obtain ⟨assigned, set, rows, -, condition, -, returned⟩ := ok
    obtain ⟨before, after, rfl, follows⟩ := emitReturning_ok returned
    refine ⟨before, table, assigned, Sql.clause "\nFROM " rows ++ (Sql.clause "\nWHERE " condition ++ after),
      named, set, ?_, ?_⟩
    · simp only [targetText, Dialect.pick, Sql.append_assoc]
    · exact followsSet_clause (by decide) _ (followsSet_clause (by decide) _ follows)

end Update

namespace Statement

/-- The UPDATE in a statement, with the context in which it is written. -/
def updateHalf? (cx : Context) : Statement → Option (Context × Update)
  | .update s => some (cx, s)
  | .upsert s =>
    if s.ignoreUpdate then none
    else s.insertSource.toOption.map fun source =>
      (s.disambiguated cx source.name, s.toUpdate (s.disambiguated cx source.name))
  | _ => none

theorem updateHalf_emitted {cx cx' : Context} {statement : Statement} {s : Update} {sql : Sql}
    (half : statement.updateHalf? cx = some (cx', s)) (ok : (statement.emit cx).result = .ok sql) :
    ∃ update after, (s.emit cx').result = .ok update ∧ sql = update ++ after := by
  cases statement with
  | update statement =>
    obtain ⟨rfl, rfl⟩ : cx = cx' ∧ statement = s := by simpa [updateHalf?] using half
    exact ⟨sql, Sql.empty, ok, (Sql.append_empty sql).symm⟩
  | upsert statement =>
    by_cases ignored : statement.ignoreUpdate = true
    · simp [updateHalf?, ignored] at half
    obtain ⟨table, source, update, body, predicate, -, inserts, changes, -, -, rfl⟩ := Upsert.emit_ok ok
    obtain ⟨rfl, rfl⟩ : statement.disambiguated cx source.name = cx' ∧
        statement.toUpdate (statement.disambiguated cx source.name) = s := by
      simpa [updateHalf?, ignored, inserts, Except.toOption] using half
    obtain ⟨changed, emitted, rfl⟩ := changes (by simpa using ignored)
    refine ⟨changed, Sql.code "\n" ++ (body ++ (Upsert.guardSql table statement.target.asName predicate ++
      Sql.code ";")), emitted, ?_⟩
    simp only [Sql.append_assoc]
  | _ => simp [updateHalf?] at half

/-- The SET clause of an UPDATE, or of the UPDATE in an UPSERT, has one item for each physical column of
each target, in the order of the assignments and then of the columns, each with the unqualified name of
its column and one value. Into several columns an entity reference goes by their tags, whatever its code
and identity are. -/
theorem set_writes_each_column {cx cx' : Context} {statement : Statement} {s : Update} {sql : Sql}
    (half : statement.updateHalf? cx = some (cx', s)) (ok : (statement.emit cx).result = .ok sql) :
    ∃ before table parts after,
      cx'.targetName s.target "UPDATE" = .ok table ∧
      sql.text = before ++ "UPDATE " ++ s.targetText cx'.dialect table ++ "\nSET " ++
        ",\n".intercalate (parts.flatMap SetPart.items) ++ after ∧
      (∃ opening ∈ Update.clauseOpenings, ∃ rest, after = opening ++ rest) ∧
      List.Forall₂ (fun assignment part => assignment.Sets cx' part ∧
        part.values.length = part.columns.length ∧ part.items.length = part.columns.length ∧
        (∀ column ∈ part.columns, Text.Plain column.columnName) ∧
        ∀ code identity, assignment.value = .literal ⟨.entity, Literal.entityText code identity⟩ →
          1 < part.columns.length →
            List.Forall₂ (PhysicalColumn.Stores cx'.dialect code identity) part.columns part.values)
        s.assignments parts ∧
      ∀ columns code identity values, 1 < columns.length →
        ((emitValues cx' columns (.literal ⟨.entity, Literal.entityText code identity⟩)).result = .ok values ↔
          List.Forall₂ (PhysicalColumn.Stores cx'.dialect code identity) columns values) := by
  obtain ⟨update, rest, emitted, rfl⟩ := updateHalf_emitted half ok
  obtain ⟨before, table, assigned, after, named, set, rfl, follows⟩ := Update.set_of_emit emitted
  obtain ⟨parts, sets, rfl⟩ := sets_of_emit set
  refine ⟨before.text, table, parts, (after ++ rest).text, named, ?_, follows.append rest, sets.imp ?_,
    fun columns code identity values several => emitValues_entityText several code identity⟩
  · simp only [Sql.text_append, Sql.text_code, text_assignmentsSql, String.append_assoc]
  intro assignment part is
  have same := is.assigned.length_eq
  refine ⟨is, same, SetPart.length_items same, fun column _ => Text.plain_unqualified column.name, ?_⟩
  intro code identity literal several
  have assigned := is.assigned
  rw [literal] at assigned
  exact assigned.stores several

end Statement

namespace Transfers

def owner : List PhysicalColumn :=
  [⟨"q._OwnerTYPE", none, some .tag, none⟩, ⟨"q._OwnerTRef", none, some .typeCode, none⟩,
    ⟨"q._OwnerRRef", none, some .entity, none⟩]

def parent : List PhysicalColumn :=
  [⟨"q._ParentTRef", none, some .typeCode, none⟩, ⟨"q._ParentRRef", none, some .entity, none⟩]

def basis : List PhysicalColumn :=
  [⟨"q._BasisTRef", none, some .typeCode, none⟩, ⟨"q._BasisRRef", none, some .entity, none⟩]

def code : List PhysicalColumn := [⟨"q._Code", none, none, none⟩]

def bindings : Bindings where
  bindings := Dict.ofList [(⟨1⟩, .entity Documents.entity), (⟨2⟩, .temporaryTable), (⟨9⟩, .column ⟨12⟩),
    (⟨10⟩, .column ⟨13⟩)]
  mappings := Dict.ofList [(⟨3⟩, owner), (⟨4⟩, parent), (⟨5⟩, basis), (⟨6⟩, code),
    (⟨7⟩, [⟨"t._BasisTRef", some "Basis_TRef", some .typeCode, none⟩,
      ⟨"t._BasisRRef", some "Basis_RRef", some .entity, none⟩]),
    (⟨8⟩, [⟨"t._Code", some "Code", none, none⟩]),
    (⟨9⟩, [⟨"d.Basis_TRef", none, some .typeCode, none⟩, ⟨"d.Basis_RRef", none, some .entity, none⟩]),
    (⟨10⟩, [⟨"d.Code", none, none, none⟩])]

def context (dialect : Dialect) : Context :=
  .ofStatements dialect bindings Catalog.empty Registry.standard 0 (fun _ => default) []

def identity : Uuid := ⟨0x11223344, 0x5566, 0x7788, 0x99aa, 0xbbccddeeff00⟩

/-- `Owner = {7:identity}, Parent = NULL, Basis = d.Basis, Code = d.Code`. -/
def assignments : List Assignment :=
  [⟨⟨⟨3⟩, "q.Owner"⟩, .literal ⟨.entity, Literal.entityText 7 identity⟩⟩,
    ⟨⟨⟨4⟩, "q.Parent"⟩, .literal ⟨.null, ""⟩⟩, ⟨⟨⟨5⟩, "q.Basis"⟩, .column ⟨⟨9⟩, "d.Basis"⟩⟩,
    ⟨⟨⟨6⟩, "q.Code"⟩, .column ⟨⟨10⟩, "d.Code"⟩⟩]

def target : TableRef := ⟨⟨1⟩, "Document", some "q"⟩

/-- `(SELECT Basis, Code FROM #draft AS t) AS d`. -/
def drafts : Source :=
  .derived ⟨⟨17⟩, .select <| .plain ⟨14⟩ [⟨⟨12⟩, .column ⟨⟨7⟩, "t.Basis"⟩, none⟩,
    ⟨⟨13⟩, .column ⟨⟨8⟩, "t.Code"⟩, none⟩] (some (.table ⟨⟨2⟩, "draft", some "t"⟩)), "d"⟩

def update : Statement :=
  .update ⟨⟨15⟩, [], target, assignments, none, some drafts, none, []⟩

def upsert : Statement :=
  .upsert ⟨⟨16⟩, [], target, some drafts, assignments, none, false⟩

def emit (dialect : Dialect) (statement : Statement) : Except Error Sql :=
  (statement.emit (context dialect)).result

/-- The text has a SET clause behind `head` with an item for each column. -/
def SetsEach (head : String) (sql : Sql) : Prop :=
  ∃ (before : String) (parts : List SetPart) (after : String),
    sql.text = before ++ head ++ ",\n".intercalate (parts.flatMap SetPart.items) ++ after ∧
    parts.map SetPart.columns = [owner, parent, basis, code] ∧ parts.map (·.items.length) = [3, 2, 2, 1]

end Transfers

/-- Three columns take the parts of an entity reference, two NULL, two the columns of a reference and one
a single value: eight items in an UPDATE, and in the UPDATE of an UPSERT. -/
theorem Statement.set_writes_each_column_of_transfers :
    (∃ sql, Transfers.emit .sqlServer Transfers.update = .ok sql ∧
      Transfers.SetsEach "UPDATE q\nSET " sql) ∧
    ∃ sql, Transfers.emit .postgres Transfers.upsert = .ok sql ∧
      Transfers.SetsEach "UPDATE _Document7 AS q\nSET " sql := by
  have shows {dialect : Dialect} {statement : Statement} {cx : Context} {s : Update} {head : String}
      (half : statement.updateHalf? (Transfers.context dialect) = some (cx, s))
      (target : cx.targetName s.target "UPDATE" = .ok "_Document7")
      (named : "UPDATE " ++ s.targetText cx.dialect "_Document7" ++ "\nSET " = head)
      (mapped : s.assignments.map (fun assignment => cx.mapping? assignment.column.id) =
        [Transfers.owner, Transfers.parent, Transfers.basis, Transfers.code].map some)
      (emits : ∃ sql, Transfers.emit dialect statement = .ok sql ∧ True) :
      ∃ sql, Transfers.emit dialect statement = .ok sql ∧ Transfers.SetsEach head sql := by
    obtain ⟨sql, ok, -⟩ := emits
    obtain ⟨before, table, parts, after, is, text, -, sets, -⟩ := set_writes_each_column half ok
    obtain rfl : "_Document7" = table := Except.ok.inj (target.symm.trans is)
    have each : List.Forall₂ Eq (s.assignments.map fun assignment => cx.mapping? assignment.column.id)
        ((parts.map SetPart.columns).map some) := by
      rw [List.map_map, List.forall₂_map_left_iff, List.forall₂_map_right_iff]
      exact sets.imp fun _ _ part => part.1.mapped
    rw [List.forall₂_eq_eq_eq, mapped] at each
    have columns := List.map_injective_iff.mpr (fun _ _ => Option.some.inj) each
    refine ⟨sql, ok, before, parts, after, ?_, columns.symm, ?_⟩
    · rw [text, ← named]
      simp only [String.append_assoc]
    · calc parts.map (·.items.length)
        _ = parts.map (·.columns.length) := List.map_congr_left fun part mem => by
          obtain ⟨_, -, -, -, length, -⟩ := forall₂_mem sets.flip mem
          exact length
        _ = (parts.map SetPart.columns).map List.length := by rw [List.map_map]; rfl
        _ = [3, 2, 2, 1] := by rw [← columns]; rfl
  constructor
  · exact shows rfl (by decide +kernel) (by decide +kernel) (by decide +kernel)
      (Except.exists_ok (by decide +kernel))
  · exact shows rfl (by decide +kernel) (by decide +kernel) (by decide +kernel)
      (Except.exists_ok (by decide +kernel))

end SqlEmit
