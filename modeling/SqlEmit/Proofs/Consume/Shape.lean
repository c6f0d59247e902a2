import SqlEmit.Proofs.Consume.Plan
import SqlEmit.Statement.Consume

/-! The shapes of a destructive read: by backend, and by whether other tables are joined. A text
that is not empty is that of one of them. -/
namespace SqlEmit.Consume

def hinted (cx : Context) (s : Consume) (table : TableRef) : Context :=
  cx.withHint table.id (lockHint s.strictOrder)

/-- The stages that a statement is written as, and the plan behind them. -/
inductive Shape (cx : Context) (s : Consume) (table : TableRef) (tableName : String) :
    Plan → StagedDelete → Prop where
  | sqlServerDirect {plan : Plan} {declared : Option (TableRef × List ColumnDefinition)}
      {selected : SelectSql} {target : Destination}
      (dialect : cx.dialect = .sqlServer) (direct : s.isDirect = true)
      (planned : Plan.ofStatement cx s (qualifier table tableName) [] = .ok plan)
      (declares : s.declaredTable (hinted cx s table) = .ok declared)
      (selects : ((rows .sqlServer s s.columns).emit (hinted cx s table)).result = .ok selected)
      (delivers : destination (hinted cx s table) declared = .ok target) :
      Shape cx s table tableName plan (.sqlServer selected .direct plan.visibleNames target)
  | sqlServerSorted {index : Index} {plan : Plan} {definitions : List ColumnDefinition}
      {selected : SelectSql}
      (dialect : cx.dialect = .sqlServer) (joined : s.isDirect = false)
      (identified : identityIndex cx table tableName = .ok index)
      (planned : Plan.ofStatement cx s (qualifier table tableName) index.keyNames = .ok plan)
      (ordered : plan.order ≠ []) (returned : s.intoTable = none)
      (defines : s.resultDefinitions (hinted cx s table) plan = .ok definitions)
      (selects : ((rows .sqlServer s s.columns).emit (hinted cx s table)).result = .ok selected) :
      Shape cx s table tableName plan (.sqlServer
        { selected with
          columns := keyItems (qualifier table tableName) index.keyNames ++
            hiddenItems plan (qualifier table tableName) index.keyNames ++ selected.columns }
        (.joined (qualifier table tableName) (aliased tableName table.asName) index.keyNames)
        plan.names
        (.sorted definitions
          ⟨"result", resultTable ++ " AS result", plan.visibleNames, none, plan.order⟩))
  | sqlServerJoined {index : Index} {plan : Plan}
      {declared : Option (TableRef × List ColumnDefinition)} {selected : SelectSql}
      {target : Destination}
      (dialect : cx.dialect = .sqlServer) (joined : s.isDirect = false)
      (identified : identityIndex cx table tableName = .ok index)
      (planned : Plan.ofStatement cx s (qualifier table tableName) index.keyNames = .ok plan)
      (unsorted : plan.order = [] ∨ s.intoTable ≠ none)
      (declares : s.declaredTable (hinted cx s table) = .ok declared)
      (selects : ((rows .sqlServer s s.columns).emit (hinted cx s table)).result = .ok selected)
      (delivers : destination (hinted cx s table) declared = .ok target) :
      Shape cx s table tableName plan (.sqlServer
        { selected with
          columns := keyItems (qualifier table tableName) index.keyNames ++ selected.columns }
        (.joined (qualifier table tableName) (aliased tableName table.asName) index.keyNames)
        plan.visibleNames target)
  | postgresDirect {index : Index} {plan : Plan} {selected : SelectSql} {final : FinalSelect}
      (dialect : cx.dialect = .postgres) (direct : s.isDirect = true)
      (identified : identityIndex cx table tableName = .ok index)
      (planned : Plan.ofStatement cx s (qualifier table tableName) [] = .ok plan)
      (selects : ((rows .postgres s []).emit cx).result = .ok selected)
      (ends : (s.finalSelect cx plan "queue").result = .ok final) :
      Shape cx s table tableName plan (.postgres ⟨"filter", "queue", "source"⟩
        { selected with
          columns := index.keyNames.map fun key => [.column key none]
          lock := some (lockClause s.strictOrder "") }
        tableName index.keyNames (.columns (plan.carried.map returnedItem)) final)
  | postgresJoined {index : Index} {plan : Plan} {selected : SelectSql} {final : FinalSelect}
      (dialect : cx.dialect = .postgres) (joined : s.isDirect = false)
      (identified : identityIndex cx table tableName = .ok index)
      (planned : Plan.ofStatement cx s (qualifier table tableName) index.keyNames = .ok plan)
      (selects : ((rows .postgres s s.columns).emit cx).result = .ok selected)
      (ends : (s.finalSelect cx plan "source").result = .ok final) :
      Shape cx s table tableName plan (.postgres ⟨"changes", "source", "target"⟩
        { selected with
          columns := keyItems (qualifier table tableName) index.keyNames ++
            hiddenItems plan (qualifier table tableName) index.keyNames ++ selected.columns
          lock := some (lockClause s.strictOrder (qualifier table tableName)) }
        tableName index.keyNames (.readBack plan.names) final)

theorem shape_of_staged {cx : Context} {s : Consume} {staged : StagedDelete}
    (ok : (s.staged cx).result = .ok staged) :
    ∃ table tableName plan, s.consumedTable cx = .ok (table, tableName) ∧
      Shape cx s table tableName plan staged := by
  unfold Consume.staged at ok
  rw [Emit.bind_ok] at ok
  obtain ⟨⟨table, tableName⟩, consumed, ok⟩ := ok
  cases dialect : cx.dialect <;> cases direct : s.isDirect <;> simp only [dialect, direct] at ok
  case sqlServer.true =>
    simp only [Emit.bind_ok, sqlServerDirect, Emit.pure_ok] at ok
    obtain ⟨plan, planned, declared, declares, selected, selects, target, delivers, rfl⟩ := ok
    exact ⟨table, tableName, plan, consumed,
      .sqlServerDirect dialect direct planned declares selects delivers⟩
  case sqlServer.false =>
    simp only [Emit.bind_ok, sqlServerJoined] at ok
    obtain ⟨index, identified, plan, planned, ok⟩ := ok
    split at ok
    next sorted =>
      simp only [Bool.and_eq_true, Bool.not_eq_true', List.isEmpty_eq_false_iff,
        Option.isNone_iff_eq_none] at sorted
      simp only [Emit.bind_ok, Emit.pure_ok] at ok
      obtain ⟨definitions, defines, selected, selects, rfl⟩ := ok
      exact ⟨table, tableName, plan, consumed, .sqlServerSorted dialect direct identified planned
        sorted.1 sorted.2 defines selects⟩
    next unsorted =>
      simp only [Emit.bind_ok, Emit.pure_ok] at ok
      obtain ⟨declared, declares, selected, selects, target, delivers, rfl⟩ := ok
      have plain : plan.order = [] ∨ s.intoTable ≠ none := by
        by_contra both
        rw [not_or, not_not] at both
        exact unsorted (by simp [both.1, both.2])
      exact ⟨table, tableName, plan, consumed, .sqlServerJoined dialect direct identified planned
        plain declares selects delivers⟩
  case postgres.true =>
    simp only [Emit.bind_ok, postgresDirect, Emit.pure_ok] at ok
    obtain ⟨index, identified, plan, planned, selected, selects, final, ends, rfl⟩ := ok
    exact ⟨table, tableName, plan, consumed,
      .postgresDirect dialect direct identified planned selects ends⟩
  case postgres.false =>
    simp only [Emit.bind_ok, postgresJoined, Emit.pure_ok] at ok
    obtain ⟨index, identified, plan, planned, selected, selects, final, ends, rfl⟩ := ok
    exact ⟨table, tableName, plan, consumed,
      .postgresJoined dialect direct identified planned selects ends⟩

/-- The statement has SQL, and `staged` is what its text is made of. -/
structure Writes (cx : Context) (s : Consume) (staged : StagedDelete) : Prop where
  stages : (s.staged cx).result = .ok staged
  emits : (s.emit cx).result = .ok staged.sql

theorem StagedDelete.text_ne_empty (staged : StagedDelete) : staged.sql.text ≠ "" := by
  cases staged <;> simp [StagedDelete.sql, String.append_eq_empty_iff]

theorem writes_of_staged {cx : Context} {s : Consume} {staged : StagedDelete}
    (own : givenName s.target = none) (stages : (s.staged cx).result = .ok staged) :
    s.Writes cx staged := by
  refine ⟨stages, ?_⟩
  simp only [Consume.emit, own, Option.isSome_none, Bool.false_eq_true, if_false, Emit.bind_ok,
    Emit.pure_ok]
  exact ⟨staged, stages, rfl⟩

/-- Either a stream processor of some name takes the statement over, or it is written in stages. -/
theorem emit_cases {cx : Context} {s : Consume} {sql : Sql} (ok : (s.emit cx).result = .ok sql) :
    (givenName s.target ≠ none ∧ sql = Sql.empty) ∨
      (givenName s.target = none ∧ ∃ staged, s.Writes cx staged ∧ sql = staged.sql) := by
  cases own : givenName s.target with
  | some processor =>
    simp only [Consume.emit, own, Option.isSome_some, if_true, Emit.pure_ok] at ok
    exact .inl ⟨by simp, ok.symm⟩
  | none =>
    simp only [Consume.emit, own, Option.isSome_none, Bool.false_eq_true, if_false, Emit.bind_ok,
      Emit.pure_ok] at ok
    obtain ⟨staged, stages, rfl⟩ := ok
    exact .inr ⟨rfl, staged, writes_of_staged own stages, rfl⟩

theorem Writes.own {cx : Context} {s : Consume} {staged : StagedDelete} (writes : s.Writes cx staged) :
    givenName s.target = none := by
  rcases emit_cases writes.emits with ⟨-, empty⟩ | ⟨own, -⟩
  · exact absurd (congrArg Sql.text empty) staged.text_ne_empty
  · exact own

/-- Every text that is not empty is that of some stages. -/
theorem writes_iff {cx : Context} {s : Consume} {sql : Sql} :
    (∃ staged, s.Writes cx staged ∧ sql = staged.sql) ↔
      (s.emit cx).result = .ok sql ∧ sql.text ≠ "" := by
  constructor
  · rintro ⟨staged, writes, rfl⟩
    exact ⟨writes.emits, staged.text_ne_empty⟩
  · rintro ⟨emitted, nonempty⟩
    rcases emit_cases emitted with ⟨-, rfl⟩ | ⟨-, stages⟩
    · exact absurd rfl nonempty
    · exact stages

/-- Stages are found, and shown to have a property, by running the statement. -/
theorem exists_writes {cx : Context} {s : Consume} {property : StagedDelete → Prop}
    [DecidablePred property] (own : givenName s.target = none)
    (found : ((s.staged cx).result.toOption.any fun staged => property staged) = true) :
    ∃ staged, s.Writes cx staged ∧ property staged := by
  obtain ⟨staged, stages, holds⟩ := Except.exists_ok found
  exact ⟨staged, writes_of_staged own stages, holds⟩

-- The setting of all instances: a queue that two columns identify, and nodes to join it to.
namespace Queue

def queue : Entity := ⟨"Queue", "_InfoRg42", 42, []⟩

def node : Entity := ⟨"Node", "_Node7", 7, []⟩

def index : Index := ⟨"Identity", true, true, true, [⟨"_Fld43", false⟩, ⟨"_Fld44", false⟩]⟩

def mappings : List (NodeId × List PhysicalColumn) :=
  [(⟨5⟩, [⟨"q._Fld44", some "Message", none, some "binary(16)"⟩]),
    (⟨6⟩, [⟨"n._Code", none, none, some "nvarchar(9)"⟩]),
    (⟨7⟩, [⟨"q._Fld43", none, none, some "numeric(19,0)"⟩]),
    (⟨8⟩, [⟨"dbo._Node7._Fld43", none, none, some "numeric(19,0)"⟩]),
    (⟨9⟩, [⟨"q._Fld45", some "Sent.Moment", none, none⟩])]

def context (dialect : Dialect) : Context :=
  .ofStatements dialect
    ⟨Dict.ofList [(⟨1⟩, .entity queue), (⟨2⟩, .entity node)], Dict.ofList mappings⟩
    (⟨0, [queue, node], Dict.ofList [("_inforg42", [index])]⟩ : Catalog) Registry.standard 0 (fun _ => default) []

/-- The columns `q` of the queue, alone or joined to the nodes `n`. -/
def read (joined : Bool) (columns : List Projected) (order : Option SortClause) : Consume where
  id := ⟨3⟩
  top := none
  columns
  intoTable := none
  source := some <|
    let own := Source.table ⟨⟨1⟩, "Queue", some "q"⟩
    if joined then .join .inner own (.table ⟨⟨2⟩, "Node", some "n"⟩) none else own
  predicate := none
  order
  strictOrder := false
  target := none

def column (id : NodeId) (asName : Option String) : Projected :=
  ⟨⟨4⟩, .column ⟨id, ""⟩, asName⟩

def ascending (id : NodeId) : SortItem :=
  ⟨.column ⟨id, ""⟩, false⟩

end Queue

end SqlEmit.Consume
