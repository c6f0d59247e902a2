import SqlEmit.Proofs.Consume.Closure

/-! The table variable through which MS-SQL restores the order of removed rows. OUTPUT fills it by
position, while its columns are declared from inferred types and its rows are read by name: all three
go by the list of carried columns. -/
namespace SqlEmit

namespace Context

variable {cx : Context} {id : NodeId} {hint : String}

theorem shapesWithin_withHint (steps : Nat) (source : TypeSource) :
    (cx.withHint id hint).shapesWithin steps source = cx.shapesWithin steps source := by
  induction steps generalizing source with
  | zero => cases source <;> rfl
  | succ steps ih =>
    cases source with
    | column ref =>
      have bound : (cx.withHint id hint).binding? = cx.binding? := rfl
      have defined : (cx.withHint id hint).definition? = cx.definition? := rfl
      simp only [shapesWithin, bound, defined, ih]
      rfl
    | _ => rfl

theorem columnDefinitions_withHint (column : Projected) :
    (cx.withHint id hint).columnDefinitions column = cx.columnDefinitions column := by
  have mapped : (cx.withHint id hint).referenceMapping? = cx.referenceMapping? := rfl
  have named : (cx.withHint id hint).definitionName = cx.definitionName := rfl
  have counted : (cx.withHint id hint).columns = cx.columns := rfl
  simp only [columnDefinitions, shapes, mapped, named, counted, shapesWithin_withHint]

theorem tableDefinition_withHint (columns : List Projected) :
    (cx.withHint id hint).tableDefinition columns = cx.tableDefinition columns := by
  have each : (cx.withHint id hint).columnDefinitions = cx.columnDefinitions :=
    funext columnDefinitions_withHint
  rw [tableDefinition, tableDefinition, each]

end Context

namespace Consume

/-- A statement with an order that the caller is to see, over a table that is joined to others. -/
structure Reorders (cx : Context) (s : Consume) (table : TableRef) (tableName : String) (index : Index)
    (plan : Plan) : Prop where
  own : givenName s.target = none
  dialect : cx.dialect = .sqlServer
  joined : s.isDirect = false
  consumed : s.consumedTable cx = .ok (table, tableName)
  identified : identityIndex cx table tableName = .ok index
  planned : Plan.ofStatement cx s (qualifier table tableName) index.keyNames = .ok plan
  ordered : plan.order ≠ []
  returned : s.intoTable = none

variable {cx : Context} {s : Consume} {table : TableRef} {tableName : String} {index : Index}
  {plan : Plan}

/-- Only reads that reorder their rows go through the table. -/
theorem Writes.reorders {rows : SelectSql} {removal : Removal} {output : List String}
    {definitions : List ColumnDefinition} {final : FinalSelect}
    (writes : s.Writes cx (.sqlServer rows removal output (.sorted definitions final))) :
    ∃ table tableName index plan, s.Reorders cx table tableName index plan := by
  obtain ⟨table, tableName, plan, consumed, shape⟩ := shape_of_staged writes.stages
  generalize staged : StagedDelete.sqlServer rows removal output (.sorted definitions final) = whole at shape
  cases shape with
  | @sqlServerSorted index _ _ _ dialect joined identified planned ordered returned =>
    exact ⟨table, tableName, index, plan, writes.own, dialect, joined, consumed, identified, planned,
      ordered, returned⟩
  | sqlServerDirect _ _ _ _ _ delivers | sqlServerJoined _ _ _ _ _ _ _ delivers =>
    have unsorted := (unsorted_of_destination delivers rows removal output).1
    cases staged
    cases unsorted
  | postgresDirect | postgresJoined => cases staged

/-- A read of these rows, written through a table with these columns. -/
def reorderedSql (table : TableRef) (tableName : String) (index : Index) (plan : Plan) (rows : SelectSql)
    (definitions : List ColumnDefinition) (output : List String) : Sql :=
  Sql.code ("DECLARE @consume_result TABLE (" ++ ", ".intercalate (definitions.map ColumnDefinition.text) ++
      ");\n") ++
    Sql.code "WITH changes AS\n" ++ (rows.sql .sqlServer).parens ++
    Sql.code ("\nDELETE " ++ qualifier table tableName ++ "\nOUTPUT\n") ++ readBack "changes" output ++
    Sql.code "\nINTO @consume_result" ++
    Sql.code ("\nFROM " ++ aliased tableName table.asName ++ " INNER JOIN changes ON (" ++
      keyMatch (qualifier table tableName) "changes" index.keyNames ++ ")") ++
    Sql.code ";" ++
    (Sql.code "\nSELECT\n" ++ readBack "result" plan.visibleNames ++ Sql.empty ++
      Sql.code "\nFROM @consume_result AS result" ++
      Sql.code ("\nORDER BY\n" ++ sortText "result" plan.order) ++ Sql.code ";")

theorem sql_of_sorted (table : TableRef) (tableName : String) (index : Index) (rows : SelectSql)
    (definitions : List ColumnDefinition) (output : List String) (ordered : plan.order ≠ []) :
    (StagedDelete.sqlServer rows
      (.joined (qualifier table tableName) (aliased tableName table.asName) index.keyNames) output
      (.sorted definitions
        ⟨"result", resultTable ++ " AS result", plan.visibleNames, none, plan.order⟩)).sql =
      reorderedSql table tableName index plan rows definitions output := by
  have listed : plan.order.isEmpty = false := by simpa using ordered
  simp only [StagedDelete.sql, Destination.declaration, Destination.intoClause, Destination.ending,
    FinalSelect.sql, Removal.stage, Removal.target, Removal.image, Removal.source, listed]
  rfl

/-- What a statement that reorders its rows is written as, if it is written. -/
theorem Reorders.written (reorders : s.Reorders cx table tableName index plan) {sql : Sql}
    (ok : (s.emit cx).result = .ok sql) :
    ∃ rows definitions, s.resultDefinitions (hinted cx s table) plan = .ok definitions ∧
      sql = reorderedSql table tableName index plan rows definitions plan.names := by
  rcases emit_cases ok with ⟨taken, -⟩ | ⟨-, staged, writes, rfl⟩
  · exact absurd reorders.own taken
  obtain ⟨table', tableName', plan', consumed, shape⟩ := shape_of_staged writes.stages
  obtain ⟨rfl, rfl⟩ := Prod.mk.inj (Except.ok.inj (reorders.consumed.symm.trans consumed))
  cases shape with
  | sqlServerDirect _ direct | postgresDirect _ direct => simp [reorders.joined] at direct
  | postgresJoined dialect => simp [reorders.dialect] at dialect
  | sqlServerJoined _ _ identified planned unsorted =>
    obtain rfl := Except.ok.inj (reorders.identified.symm.trans identified)
    obtain rfl := Except.ok.inj (reorders.planned.symm.trans planned)
    exact absurd unsorted (by simp [reorders.ordered, reorders.returned])
  | @sqlServerSorted _ _ definitions _ _ _ identified planned ordered _ defines _ =>
    obtain rfl := Except.ok.inj (reorders.identified.symm.trans identified)
    obtain rfl := Except.ok.inj (reorders.planned.symm.trans planned)
    exact ⟨_, definitions, defines, sql_of_sorted table tableName index _ definitions plan.names ordered⟩

/-- Types for another number of columns than the projection has are not zipped with it. -/
theorem resultDefinitions_ok {definitions : List ColumnDefinition}
    (defines : s.resultDefinitions cx plan = .ok definitions) :
    ∃ projection, cx.tableDefinition s.columns = .ok projection ∧
      projection.length = plan.visible.length := by
  simp only [resultDefinitions, Except.bind_ok] at defines
  obtain ⟨projection, inferred, rest⟩ := defines
  refine ⟨projection, inferred, ?_⟩
  by_contra different
  rw [if_pos different] at rest
  cases rest

theorem Reorders.mismatch (reorders : s.Reorders cx table tableName index plan)
    {projection : List ColumnDefinition} (inferred : cx.tableDefinition s.columns = .ok projection)
    (different : projection.length ≠ plan.visible.length) :
    (s.emit cx).result = .error (.consumeShape s.id) := by
  have fails : s.resultDefinitions (cx.withHint table.id (lockHint s.strictOrder)) plan =
      .error (.consumeShape s.id) := by
    rw [resultDefinitions, Context.tableDefinition_withHint, inferred]
    exact if_pos different
  have sorted : (!plan.order.isEmpty && s.intoTable.isNone) = true := by
    simp [reorders.ordered, reorders.returned]
  have joined : (s.sqlServerJoined cx table tableName index plan).result = .error (.consumeShape s.id) := by
    rw [sqlServerJoined]
    simp only [sorted, if_true, fails]
    rfl
  have staged : (s.staged cx).result = .error (.consumeShape s.id) := by
    simp only [Consume.staged, Emit.result_lift, reorders.consumed, reorders.dialect, reorders.joined,
      reorders.identified, reorders.planned, bind, joined]
  simp only [Consume.emit, reorders.own, Option.isSome_none, Bool.false_eq_true, if_false,
    Emit.result_bind, staged]
  rfl

/-- The table that restores the order is declared with the columns that are written into it, in their
order: the projection, then what is carried for the order alone. The rows are read back and sorted by
these columns only, and a projection with another number of inferred columns is refused. -/
theorem result_table_lines_up (cx : Context) (s : Consume) :
    (∀ rows removal output definitions final,
      s.Writes cx (.sqlServer rows removal output (.sorted definitions final)) →
        ∃ table tableName index plan, s.Reorders cx table tableName index plan) ∧
    ∀ table tableName index plan, s.Reorders cx table tableName index plan →
      (∀ sql, (s.emit cx).result = .ok sql →
        ∃ rows definitions output, sql = reorderedSql table tableName index plan rows definitions output ∧
          definitions.map (·.name) = output ∧
          output = plan.visibleNames ++ plan.hidden.map (·.name) ∧
          (∀ name ∈ plan.visibleNames ++ plan.order.map (·.name), name ∈ output) ∧
          ∃ projection, cx.tableDefinition s.columns = .ok projection ∧
            projection.length = plan.visible.length) ∧
      (∀ projection, cx.tableDefinition s.columns = .ok projection →
        projection.length ≠ plan.visible.length →
        (s.emit cx).result = .error (.consumeShape s.id) ∧ (Error.consumeShape s.id).kind = .schema) := by
  refine ⟨fun rows removal output definitions final writes => writes.reorders, ?_⟩
  intro table tableName index plan reorders
  have planned := planned_of_ok reorders.planned
  refine ⟨fun sql ok => ?_, fun projection inferred different => ⟨reorders.mismatch inferred different, rfl⟩⟩
  obtain ⟨rows, definitions, defines, rfl⟩ := reorders.written ok
  obtain ⟨projection, inferred, same⟩ := resultDefinitions_ok defines
  rw [hinted, Context.tableDefinition_withHint] at inferred
  refine ⟨rows, definitions, plan.names, rfl, ?_, planned.names, ?_, projection, inferred, same⟩
  · rw [resultDefinitions_names defines, planned.names]
  · have known : ∀ name ∈ FinalSelect.reads
        ⟨"result", resultTable ++ " AS result", plan.visibleNames, none, plan.order⟩, name ∈ plan.names :=
      planned.reads_mem rfl rfl
    exact known

namespace Ranked

/-- The queue with a rank of two columns, for which one column is inferred. -/
def context : Context :=
  .ofStatements .sqlServer
    ⟨Dict.ofList [(⟨1⟩, .entity Queue.queue), (⟨2⟩, .entity Queue.node), (⟨10⟩, .primitive .decimal)],
      Dict.ofList ((⟨10⟩, [⟨"q._Fld46_N", none, none, none⟩, ⟨"q._Fld46_S", none, none, none⟩]) ::
        Queue.mappings)⟩
    (Queue.context .sqlServer).metadata Registry.standard 0 (fun _ => default) []

/-- The joined queue in the order of its first key and of a projected column. -/
def take (columns : List NodeId) : Consume :=
  Queue.read true (columns.map fun id => Queue.column id none)
    (some ⟨[Queue.ascending ⟨7⟩, Queue.ascending ⟨5⟩], none, none⟩)

def consumed : TableRef := ⟨⟨1⟩, "Queue", some "q"⟩

theorem reorders {columns : List NodeId} {plan : Plan}
    (planned : Plan.ofStatement context (take columns) "q" Queue.index.keyNames = .ok plan)
    (ordered : plan.order ≠ []) :
    (take columns).Reorders context consumed "_InfoRg42" Queue.index plan where
  own := rfl
  dialect := rfl
  joined := rfl
  consumed := rfl
  identified := by decide +kernel
  planned := planned
  ordered := ordered
  returned := rfl

end Ranked

/-- A key that is not projected is declared and filled behind the projection; a projected rank of two
columns is refused. -/
theorem result_table_of_ranked :
    (∃ sql plan rows definitions, (Ranked.take [⟨5⟩, ⟨6⟩]).Reorders Ranked.context Ranked.consumed "_InfoRg42"
        Queue.index plan ∧
      ((Ranked.take [⟨5⟩, ⟨6⟩]).emit Ranked.context).result = .ok sql ∧
      sql = reorderedSql Ranked.consumed "_InfoRg42" Queue.index plan rows definitions
        ["Message", "_Code", "_Fld43"] ∧
      definitions.map (·.name) = ["Message", "_Code", "_Fld43"]) ∧
    ∃ plan, (Ranked.take [⟨10⟩]).Reorders Ranked.context Ranked.consumed "_InfoRg42" Queue.index plan ∧
      ((Ranked.take [⟨10⟩]).emit Ranked.context).result = .error (.consumeShape ⟨3⟩) := by
  constructor
  · obtain ⟨plan, planned, ordered, visible, hidden⟩ :
        ∃ plan, Plan.ofStatement Ranked.context (Ranked.take [⟨5⟩, ⟨6⟩]) "q" Queue.index.keyNames = .ok plan ∧
          plan.order ≠ [] ∧ plan.visibleNames = ["Message", "_Code"] ∧
          plan.hidden.map (·.name) = ["_Fld43"] :=
      Except.exists_ok (by decide +kernel)
    obtain ⟨sql, ok, -⟩ : ∃ sql, ((Ranked.take [⟨5⟩, ⟨6⟩]).emit Ranked.context).result = .ok sql ∧ True :=
      Except.exists_ok (by decide +kernel)
    have reorders := Ranked.reorders planned ordered
    obtain ⟨rows, definitions, output, written, filled, listed, -⟩ :=
      ((result_table_lines_up _ _).2 _ _ _ _ reorders).1 sql ok
    rw [visible, hidden] at listed
    subst listed
    exact ⟨sql, plan, rows, definitions, reorders, ok, written, filled⟩
  · obtain ⟨plan, planned, ordered, two⟩ :
        ∃ plan, Plan.ofStatement Ranked.context (Ranked.take [⟨10⟩]) "q" Queue.index.keyNames = .ok plan ∧
          plan.order ≠ [] ∧ plan.visible.length = 2 :=
      Except.exists_ok (by decide +kernel)
    obtain ⟨projection, inferred, one⟩ :
        ∃ projection, Ranked.context.tableDefinition (Ranked.take [⟨10⟩]).columns = .ok projection ∧
          projection.length = 1 :=
      Except.exists_ok (by decide +kernel)
    have reorders := Ranked.reorders planned ordered
    have refused := ((result_table_lines_up _ _).2 _ _ _ _ reorders).2 projection inferred (by rw [one, two]; decide)
    exact ⟨plan, reorders, refused.1⟩

end Consume

end SqlEmit
