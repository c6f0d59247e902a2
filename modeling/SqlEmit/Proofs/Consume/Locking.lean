import SqlEmit.Proofs.Consume.Bound
import SqlEmit.Proofs.Locks

/-! Locks of a destructive read. MS-SQL locks by a hint on the consumed table, which every later mention
of that reference would carry too; PostgreSQL locks by a clause behind the rows. -/
namespace SqlEmit.Consume

def otherNodes (s : Consume) : List Node :=
  optionNodes s.top ++ (projectionNodes s.columns ++ (s.intoTable.toList.map .target ++
    (optionNodes s.predicate ++ orderNodes s.order)))

/-- The table references of a statement. That of the consumed table comes first. -/
def tables (s : Consume) : List TableRef :=
  tablesIn (sourceNodes s.source ++ s.otherNodes)

variable {cx : Context} {s : Consume} {table : TableRef} {tableName : String} {plan : Plan}
  {staged : StagedDelete}

theorem consumedTable_ok (consumed : s.consumedTable cx = .ok (table, tableName)) :
    ∃ source entity, s.source = some source ∧ source.leadingTable = some table ∧
      cx.tableBinding? table = some (.entity entity) ∧ tableName = entity.tableName := by
  unfold consumedTable at consumed
  split at consumed
  case h_1 => cases consumed
  case h_2 leading found =>
    obtain ⟨source, given, leads⟩ := Option.bind_eq_some_iff.mp found
    split at consumed
    case h_1 entity bound =>
      obtain ⟨rfl, rfl⟩ := Prod.mk.inj (Except.ok.inj consumed)
      exact ⟨source, entity, given, leads, bound, rfl⟩
    case h_2 => cases consumed

/-- A reference that is counted once is the consumed table, and no other one has its node. -/
theorem tables_of_alone (consumed : s.consumedTable cx = .ok (table, tableName))
    (alone : (s.tables.map (·.id)).count table.id = 1) :
    ∃ others, tablesIn (sourceNodes s.source) = table :: others ∧
      ∀ other ∈ others ++ tablesIn s.otherNodes, other.id ≠ table.id := by
  obtain ⟨source, _, given, leads, -⟩ := consumedTable_ok consumed
  obtain ⟨others, first⟩ := Source.tables_of_leadingTable leads
  have tables : tablesIn (sourceNodes s.source) = table :: others := by
    rw [given, sourceNodes, first]
  refine ⟨others, tables, fun other mem same => ?_⟩
  rw [Consume.tables, tablesIn_append, tables, List.cons_append, List.map_cons, List.count_cons_self, Nat.add_eq_right,
    List.count_eq_zero] at alone
  exact alone (List.mem_map.mpr ⟨other, mem, same⟩)

theorem hint?_hinted : (hinted cx s table).hint? table.id = some (lockHint s.strictOrder) := by
  simp [hinted, Context.hint?, Context.withHint]

theorem unhinted_settled (tables : List TableRef) : cx.settled.Unhinted tables :=
  fun _ _ => rfl

theorem unhinted_hinted {tables : List TableRef} (apart : ∀ other ∈ tables, other.id ≠ table.id) :
    (hinted cx.settled s table).Unhinted tables := by
  intro other mem
  simp [hinted, Context.hint?, Context.withHint, Context.settled, (apart other mem).symm]

theorem locks_keyItems (qualifier : String) (keys : List String) :
    ∀ line ∈ keyItems qualifier keys, (Item.lineSql line).locks = [] := by
  simp [keyItems, Item.sql]

theorem locks_hiddenItems (plan : Plan) (qualifier : String) (keys : List String) :
    ∀ line ∈ hiddenItems plan qualifier keys, (Item.lineSql line).locks = [] := by
  intro line mem
  obtain ⟨column, -, rfl⟩ := List.mem_map.mp mem
  simp [hiddenItem, Item.sql]

/-- The clause behind the rows. Only a join says which of its tables the clause is about. -/
def rowClause (dialect : Dialect) (s : Consume) (target : String) : Option String :=
  dialect.pick none (some (lockClause s.strictOrder (if s.isDirect then "" else target)))

theorem unhinted_rows {context : Context} {dialect : Dialect} {columns : List Projected}
    (counted : context.Unhinted (tablesIn (optionNodes s.top)))
    (listed : context.Unhinted (tablesIn (projectionNodes columns)))
    (filtered : context.Unhinted (tablesIn (optionNodes s.predicate)))
    (sorted : context.Unhinted (tablesIn (orderNodes s.order))) :
    context.Unhinted (tablesIn (rows dialect s columns).otherNodes) := by
  have none : context.Unhinted (tablesIn []) := by simp [Context.Unhinted, tablesIn]
  have order : context.Unhinted (tablesIn (orderNodes (rows dialect s columns).order)) := by
    by_cases keeps : KeepsOrder dialect s
    · rwa [order_of_keeps keeps]
    · rw [(order_of_drops keeps columns).2.2]
      exact none
  simp only [Select.otherNodes, tablesIn_append, Context.unhinted_append]
  exact ⟨counted, listed, none, filtered, none, none, order⟩

/-- The parts of the selected rows in every shape: nothing but the source and the last clause locks. -/
theorem Shape.rows_locks (shape : Shape cx s table tableName plan staged)
    (free : (rowsContext cx s table).Unhinted (tablesIn s.otherNodes)) :
    staged.rows.LocksInSource ∧
      (emitSource (rowsContext cx s table) s.source).result = .ok staged.rows.source ∧
      staged.rows.lock = rowClause cx.dialect s (qualifier table tableName) := by
  simp only [otherNodes, tablesIn_append, Context.unhinted_append] at free
  obtain ⟨counted, projected, -, filtered, sorted⟩ := free
  have selected {dialect : Dialect} {columns : List Projected} {written : SelectSql} (is : cx.dialect = dialect)
      (listed : (rowsContext cx s table).Unhinted (tablesIn (projectionNodes columns)))
      (selects : ((rows dialect s columns).emit (dialect.pick (hinted cx s table) cx)).result = .ok written) :
      written.LocksInSource ∧ (emitSource (rowsContext cx s table) s.source).result = .ok written.source ∧
        written.lock = none := by
    subst is
    have parts := Select.written_of_emit selects
    exact ⟨Select.locksInSource (unhinted_rows counted listed filtered sorted) selects, parts.source, parts.lock⟩
  have keys := locks_keyItems (qualifier table tableName)
  have hidden := locks_hiddenItems plan (qualifier table tableName)
  have unclaused (dialect : cx.dialect = .sqlServer) : rowClause cx.dialect s (qualifier table tableName) = none := by
    rw [dialect]
    rfl
  cases shape with
  | sqlServerDirect dialect _ _ _ selects =>
    rw [unclaused dialect]
    exact selected dialect projected selects
  | @sqlServerSorted index _ _ _ dialect _ _ _ _ _ _ selects =>
    obtain ⟨inSource, source, lock⟩ := selected dialect projected selects
    rw [unclaused dialect]
    refine ⟨inSource.replaced ?_ _, source, lock⟩
    simp only [List.forall_mem_append]
    exact ⟨⟨keys index.keyNames, hidden index.keyNames⟩, inSource.columns⟩
  | @sqlServerJoined index _ _ _ _ dialect _ _ _ _ _ selects =>
    obtain ⟨inSource, source, lock⟩ := selected dialect projected selects
    rw [unclaused dialect]
    refine ⟨inSource.replaced ?_ _, source, lock⟩
    simp only [List.forall_mem_append]
    exact ⟨keys index.keyNames, inSource.columns⟩
  | @postgresDirect index _ _ _ dialect direct _ _ selects =>
    obtain ⟨inSource, source, -⟩ := selected dialect (fun _ none => by cases none) selects
    refine ⟨inSource.replaced (by simp [Item.sql]) _, source, ?_⟩
    simp [StagedDelete.rows, rowClause, dialect, Dialect.pick, direct]
  | @postgresJoined index _ _ _ dialect joined _ _ selects =>
    obtain ⟨inSource, source, -⟩ := selected dialect projected selects
    refine ⟨inSource.replaced ?_ _, source, ?_⟩
    · simp only [List.forall_mem_append]
      exact ⟨⟨keys index.keyNames, hidden index.keyNames⟩, inSource.columns⟩
    · simp [StagedDelete.rows, rowClause, dialect, Dialect.pick, joined]

theorem locks_readBack (stage : String) (columns : List String) : (readBack stage columns).locks = [] := by
  simp [readBack, List.flatMap_map]

theorem FinalSelect.locks_sql (dialect : Dialect) (final : FinalSelect) : (final.sql dialect).locks = [] := by
  cases into : final.intoTable <;> simp [FinalSelect.sql, locks_readBack, into]

theorem locks_returnedItem (column : Carried) : (returnedItem column).sql.locks = [] := by
  unfold returnedItem
  split
  · simp [Item.sql]
  · exact Item.locks_ofPhysical _ _

/-- A WITH of the selected rows, and no lock outside of them. -/
theorem Shape.sql_locks (shape : Shape cx s table tableName plan staged) :
    (∃ opening stage closing, staged.sql = opening ++ Sql.code ("WITH " ++ stage ++ " AS\n") ++
      (staged.rows.sql cx.dialect).parens ++ closing) ∧
    staged.sql.locks = (staged.rows.sql cx.dialect).locks := by
  have sqlServer (rows : SelectSql) (removal : Removal) (output : List String) (target : Destination) :
      (∃ opening stage closing, (StagedDelete.sqlServer rows removal output target).sql =
        opening ++ Sql.code ("WITH " ++ stage ++ " AS\n") ++ (rows.sql .sqlServer).parens ++ closing) ∧
      (StagedDelete.sqlServer rows removal output target).sql.locks = (rows.sql .sqlServer).locks := by
    constructor
    · refine ⟨target.declaration, removal.stage, ?_⟩
      simp only [StagedDelete.sql, Sql.append_assoc]
      exact ⟨_, rfl⟩
    · cases target <;> cases removal <;>
        simp [StagedDelete.sql, Destination.declaration, Destination.intoClause, Destination.ending,
          Removal.source, locks_readBack, FinalSelect.locks_sql]
  have postgres (names : StageNames) (rows : SelectSql) (table : String) (keys : List String)
      (returning : Returning) (final : FinalSelect) (free : (returning.sql names.rows).locks = []) :
      (∃ opening stage closing, (StagedDelete.postgres names rows table keys returning final).sql =
        opening ++ Sql.code ("WITH " ++ stage ++ " AS\n") ++ (rows.sql .postgres).parens ++ closing) ∧
      (StagedDelete.postgres names rows table keys returning final).sql.locks =
        (rows.sql .postgres).locks := by
    constructor
    · refine ⟨Sql.empty, names.rows, ?_⟩
      simp only [StagedDelete.sql, Sql.append_assoc]
      exact ⟨_, rfl⟩
    · simp [StagedDelete.sql, free, FinalSelect.locks_sql]
  cases shape with
  | sqlServerDirect dialect | sqlServerSorted dialect | sqlServerJoined dialect =>
    rw [dialect]
    exact sqlServer _ _ _ _
  | postgresDirect dialect =>
    rw [dialect]
    refine postgres _ _ _ _ _ _ ?_
    simpa [Returning.sql, List.flatMap_map] using fun column _ => locks_returnedItem column
  | postgresJoined dialect =>
    rw [dialect]
    exact postgres _ _ _ _ _ _ (locks_readBack _ _)

/-- The consumed table is written first behind FROM, under its alias and with its hint. -/
theorem source_of_hinted (consumed : s.consumedTable cx = .ok (table, tableName)) {others : List TableRef}
    (tables : tablesIn (sourceNodes s.source) = table :: others) (free : (hinted cx s table).Unhinted others)
    {written : Option Sql} (emits : (emitSource (hinted cx s table) s.source).result = .ok written) :
    ∃ joined, joined.locks = [] ∧ written = some (Sql.ofPiece
      (.table tableName (givenName table.asName) (some (lockHint s.strictOrder))) ++ joined) := by
  obtain ⟨source, entity, given, leads, bound, rfl⟩ := consumedTable_ok consumed
  rw [given, sourceNodes] at tables
  simp only [given, emitSource, Emit.bind_ok, Emit.pure_ok] at emits
  obtain ⟨sql, emits, rfl⟩ := emits
  obtain ⟨name, joined, named, unlocked, rfl⟩ :=
    Source.gives_leading_lock leads tables hint?_hinted free sql emits
  have entityBound : (hinted cx s table).tableBinding? table = some (.entity entity) := bound
  obtain rfl : entity.tableName = name := by
    simpa [Context.tableName, entityBound] using named
  have known : (hinted cx s table).tableAlias table entity.tableName = givenName table.asName := by
    unfold Context.tableAlias
    rw [entityBound]
    cases givenName table.asName <;> rfl
  exact ⟨joined, unlocked, by rw [known]⟩

theorem sql_of_source {rows : SelectSql} {source : Sql} (given : rows.source = some source) (dialect : Dialect) :
    ∃ list ending, rows.sql dialect = list ++ Sql.code "\nFROM " ++ source ++ ending := by
  refine ⟨Sql.code (if rows.distinct then "SELECT DISTINCT" else "SELECT") ++ SelectSql.topSql rows.top ++
    Sql.code "\n" ++ Item.listSql rows.columns ++
    Sql.clause ("\n" ++ dialect.intoKeyword ++ " ") (rows.intoTable.map Sql.code), ?_⟩
  simp only [SelectSql.sql, given, Sql.clause, Sql.append_assoc]
  exact ⟨_, rfl⟩

theorem sql_of_lock {rows : SelectSql} {clause : String} (given : rows.lock = some clause) (dialect : Dialect) :
    ∃ selected, rows.sql dialect = selected ++ (Sql.code "\n" ++ Sql.ofPiece (.rowLock clause)) := by
  rw [SelectSql.sql, given]
  exact ⟨_, rfl⟩

theorem Shape.locked_sqlServer (shape : Shape cx.settled s table tableName plan staged)
    (dialect : cx.dialect = .sqlServer) (consumed : s.consumedTable cx.settled = .ok (table, tableName))
    (alone : (s.tables.map (·.id)).count table.id = 1) :
    ∃ joined, staged.rows.source = some (Sql.ofPiece
        (.table tableName (givenName table.asName) (some (lockHint s.strictOrder))) ++ joined) ∧
      (staged.rows.sql .sqlServer).locks =
        [.table tableName (givenName table.asName) (some (lockHint s.strictOrder))] := by
  obtain ⟨others, tables, apart⟩ := tables_of_alone consumed alone
  have free := List.forall_mem_append.mp apart
  have backend : cx.settled.dialect = .sqlServer := dialect
  have context : rowsContext cx.settled s table = hinted cx.settled s table := by
    rw [rowsContext, backend]
    rfl
  obtain ⟨inSource, source, lock⟩ := shape.rows_locks (by rw [context]; exact unhinted_hinted free.2)
  rw [context] at source
  obtain ⟨joined, unlocked, leading⟩ := source_of_hinted consumed tables (unhinted_hinted free.1) source
  have unclaused : staged.rows.lock = none := by rw [lock, backend]; rfl
  refine ⟨joined, leading, ?_⟩
  rw [inSource.locks_sql, unclaused, leading]
  simp [SelectSql.lockSql, unlocked]

theorem Shape.locked_postgres (shape : Shape cx.settled s table tableName plan staged)
    (dialect : cx.dialect = .postgres) :
    ∃ clause, rowClause .postgres s (qualifier table tableName) = some clause ∧
      staged.rows.lock = some clause ∧ (staged.rows.sql .postgres).locks = [.rowLock clause] := by
  have backend : cx.settled.dialect = .postgres := dialect
  have context : rowsContext cx.settled s table = cx.settled := by
    rw [rowsContext, backend]
    rfl
  obtain ⟨inSource, source, lock⟩ := shape.rows_locks (by rw [context]; exact unhinted_settled _)
  rw [context] at source
  have unlocked := emitSource_unlocked (unhinted_settled _) source
  rw [backend] at lock
  refine ⟨_, rfl, lock, ?_⟩
  have nothing : staged.rows.source.toList.flatMap Sql.locks = [] := by simpa using unlocked
  rw [inSource.locks_sql, nothing, lock]
  rfl

/-- A destructive read locks the table that it consumes and no other one, if no other reference shares
its node: MS-SQL by a hint on the leftmost table of the selected rows, PostgreSQL by a clause at their
end. A join names the table in the clause, unless it has an empty name. -/
theorem only_consumed_table_locked (writes : s.Writes cx.settled staged)
    (consumed : s.consumedTable cx.settled = .ok (table, tableName))
    (alone : (s.tables.map (·.id)).count table.id = 1) :
    (∃ opening stage closing, staged.sql = opening ++ Sql.code ("WITH " ++ stage ++ " AS\n") ++
      (staged.rows.sql cx.dialect).parens ++ closing) ∧
    (cx.dialect = .sqlServer →
      let lock := Piece.table tableName (givenName table.asName)
        (some (if s.strictOrder then "WITH (ROWLOCK)" else "WITH (ROWLOCK, READPAST)"))
      staged.sql.locks = [lock] ∧
      ∃ list joined ending, staged.rows.source = some (Sql.ofPiece lock ++ joined) ∧
        staged.rows.sql .sqlServer = list ++ Sql.code "\nFROM " ++ (Sql.ofPiece lock ++ joined) ++ ending) ∧
    (cx.dialect = .postgres →
      let target := qualifier table tableName
      let lock := Piece.rowLock ("FOR UPDATE" ++
        (if s.isDirect = true ∨ target = "" then "" else " OF " ++ target) ++
        (if s.strictOrder then "" else " SKIP LOCKED"))
      staged.sql.locks = [lock] ∧
      ∃ rows, staged.rows.sql .postgres = rows ++ (Sql.code "\n" ++ Sql.ofPiece lock)) := by
  obtain ⟨table', tableName', plan, consumed', shape⟩ := shape_of_staged writes.stages
  obtain ⟨rfl, rfl⟩ := Prod.mk.inj (Except.ok.inj (consumed.symm.trans consumed'))
  obtain ⟨staging, locks⟩ := shape.sql_locks
  have backend : cx.settled.dialect = cx.dialect := rfl
  rw [backend] at staging locks
  refine ⟨staging, fun dialect => ?_, fun dialect => ?_⟩
  · obtain ⟨joined, source, only⟩ := shape.locked_sqlServer dialect consumed alone
    obtain ⟨list, ending, written⟩ := sql_of_source source .sqlServer
    rw [dialect] at locks
    exact ⟨locks.trans only, list, joined, ending, source, written⟩
  · obtain ⟨clause, is, lock, only⟩ := shape.locked_postgres dialect
    obtain ⟨rows, written⟩ := sql_of_lock lock .postgres
    rw [dialect] at locks
    have clauseText : clause = "FOR UPDATE" ++
        (if s.isDirect = true ∨ qualifier table tableName = "" then "" else " OF " ++ qualifier table tableName) ++
        (if s.strictOrder then "" else " SKIP LOCKED") := by
      rw [← Option.some.inj is, lockClause]
      cases s.isDirect <;> simp
    subst clauseText
    exact ⟨locks.trans only, rows, written⟩

namespace Messages

def nodes : Query :=
  .select (.plain ⟨12⟩ [Queue.column ⟨6⟩ none] (some (.table ⟨⟨2⟩, "Node", some "n"⟩)))

def known : Expr :=
  .call ⟨⟨13⟩, "EXISTS", [.subquery nodes], false, none⟩

/-- The queue with a derived table joined to it and another table appended, both under conditions that
read tables. -/
def take (strictOrder : Bool) : Consume :=
  { Queue.read true [Queue.column ⟨5⟩ none, Queue.column ⟨6⟩ none] none with
    source := some (.join .append
      (.join .left (.table ⟨⟨1⟩, "Queue", some "q"⟩) (.derived ⟨⟨14⟩, nodes, "n"⟩) (some known))
      (.table ⟨⟨2⟩, "Node", none⟩) (some known))
    predicate := some known
    strictOrder }

def unnamed : Entity := ⟨"Queue", "", 42, []⟩

def unnamedContext : Context :=
  .ofStatements .postgres
    ⟨Dict.ofList [(⟨1⟩, .entity unnamed), (⟨2⟩, .entity Queue.node)], Dict.ofList Queue.mappings⟩
    (⟨0, [unnamed, Queue.node], Dict.ofList [("", [Queue.index])]⟩ : Catalog) Registry.standard 0 (fun _ => default) []

def takeUnnamed : Consume :=
  { Queue.read true [Queue.column ⟨6⟩ none] none with
    source := some (.join .inner (.table ⟨⟨1⟩, "Queue", none⟩) (.table ⟨⟨2⟩, "Node", some "n"⟩) none) }

end Messages

/-- One lock, though five more tables are read. -/
theorem only_consumed_table_locked_of_messages :
    (∃ staged, (Messages.take false).Writes (Queue.context .sqlServer).settled staged ∧
      ((Messages.take false).tables.map (·.id)).count ⟨1⟩ = 1 ∧
      staged.sql.locks = [.table "_InfoRg42" (some "q") (some "WITH (ROWLOCK, READPAST)")]) ∧
    (∃ staged, (Messages.take true).Writes (Queue.context .postgres).settled staged ∧
      staged.sql.locks = [.rowLock "FOR UPDATE OF q"]) := by
  have alone (strictOrder : Bool) : ((Messages.take strictOrder).tables.map (·.id)).count ⟨1⟩ = 1 := by
    cases strictOrder <;> decide +kernel
  have consumed (dialect : Dialect) (strictOrder : Bool) :
      (Messages.take strictOrder).consumedTable (Queue.context dialect).settled =
        .ok (⟨⟨1⟩, "Queue", some "q"⟩, "_InfoRg42") := rfl
  obtain ⟨sqlServer, first, -⟩ : ∃ staged,
      (Messages.take false).Writes (Queue.context .sqlServer).settled staged ∧ True :=
    exists_writes rfl (by decide +kernel)
  obtain ⟨postgres, second, -⟩ : ∃ staged,
      (Messages.take true).Writes (Queue.context .postgres).settled staged ∧ True :=
    exists_writes rfl (by decide +kernel)
  obtain ⟨-, hinted, -⟩ := only_consumed_table_locked first (consumed .sqlServer false) (alone false)
  obtain ⟨-, -, claused⟩ := only_consumed_table_locked second (consumed .postgres true) (alone true)
  exact ⟨⟨sqlServer, first, alone false, (hinted rfl).1⟩, postgres, second, (claused rfl).1⟩

/-- A join over a table with an empty name does not say in its clause which table the clause is about. -/
theorem unnamed_table_locked_without_of :
    Messages.takeUnnamed.isDirect = false ∧ (Messages.takeUnnamed.tables.map (·.id)).count ⟨1⟩ = 1 ∧
    ∃ staged, Messages.takeUnnamed.Writes Messages.unnamedContext.settled staged ∧
      Messages.takeUnnamed.consumedTable Messages.unnamedContext.settled =
        .ok (⟨⟨1⟩, "Queue", none⟩, "") ∧
      staged.sql.locks = [.rowLock "FOR UPDATE SKIP LOCKED"] := by
  refine ⟨rfl, by decide +kernel, ?_⟩
  obtain ⟨staged, writes, locks⟩ : ∃ staged,
      Messages.takeUnnamed.Writes Messages.unnamedContext.settled staged ∧
        staged.sql.locks = [.rowLock "FOR UPDATE SKIP LOCKED"] :=
    exists_writes rfl (by decide +kernel)
  exact ⟨staged, writes, rfl, locks⟩

end SqlEmit.Consume
