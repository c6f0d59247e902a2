import SqlEmit.Proofs.Isolation
import SqlEmit.Proofs.Parameters
import SqlEmit.Proofs.SetClause

/-! Deferred calls of a statement. Parts of a statement are written in one order and placed in another, and
an UPSERT writes some of them twice; every part that is written is placed. So each call that the caller is to
bind has its parameter in the text, and each is one that the registry defers for a call of the statement. -/
namespace SqlEmit

section

variable {cx : Context} {allowed : Deferred → Prop}

theorem emitWith_defers {ctes : List Cte} (permits : cx.registry.Permits allowed (Reading.nodes.ctes ctes))
    (ending : String) : (emitWith cx ctes ending).Defers allowed Sql.parameters := by
  unfold emitWith
  split
  · exact .pure rfl
  have each : ∀ x ∈ ctes.map (Cte.emit cx), x.Defers allowed Sql.parameters := by
    intro x mem
    obtain ⟨cte, there, rfl⟩ := List.mem_map.mp mem
    exact (Query.defers (permits.of_mem_flatMap there)).bind fun _ => .pure (by simp)
  exact (Emit.Defers.all each).bind fun _ => .pure (by simp [withSql])

/-- There are as many values as columns, so none is lost in pairing them. -/
theorem emitValues_defers {value : Expr} (permits : cx.registry.Permits allowed value.nodes)
    (target : List PhysicalColumn) :
    (emitValues cx target value).LeavesOnly allowed fun values targets =>
      targets = values.flatMap Sql.parameters ∧ values.length = target.length := by
  have written : (emitValues cx target value).Defers allowed (List.flatMap Sql.parameters) := by
    unfold emitValues
    split
    · exact .fail _
    · exact (Expr.defers permits).bind fun _ => .pure (by simp)
    · split
      · exact .pure (by simp)
      · refine .lift fun values is => ?_
        cases value with
        | literal value =>
          rcases spreadValue_ok is with ⟨_, -, rfl⟩ | ⟨_, _, _, -, -, each⟩
          · simp
          · refine List.flatMap_eq_nil_iff.mpr fun sql mem => ?_
            obtain ⟨_, -, _, _, -, -, rfl⟩ := forall₂_mem each.flip mem
            rfl
        | _ => cases is
  intro values ok
  exact ⟨⟨(written values ok).1, (assigned_of_emit ok).length_eq⟩, (written values ok).2⟩

def assignedParameters (assignments : List (String × Sql)) : List String :=
  assignments.flatMap fun assignment => assignment.2.parameters

theorem Assignment.defers {assignment : Assignment}
    (permits : cx.registry.Permits allowed assignment.value.nodes) :
    (assignment.emit cx).Defers allowed assignedParameters := by
  refine .lift_bind fun columns _ => (emitValues_defers permits columns).bind fun values targets known => .pure ?_
  obtain ⟨rfl, same⟩ := known
  have second : ((columns.map PhysicalColumn.columnName).zip values).map Prod.snd = values :=
    List.map_snd_zip (by simp [same])
  rw [Multiset.add_zero, assignedParameters]
  conv_lhs => rw [← second, List.flatMap_map]

theorem assignedParameters_flatten (parts : List (List (String × Sql))) :
    assignedParameters parts.flatten = parts.flatMap assignedParameters := by
  induction parts with
  | nil => rfl
  | cons part parts ih => simpa [assignedParameters] using ih

theorem emitAssignments_defers {assignments : List Assignment} {predicate : Option Expr}
    (permits : cx.registry.Permits allowed (Reading.nodes.change assignments predicate)) :
    (emitAssignments cx assignments).Defers allowed assignedParameters := by
  have values := (Registry.Permits.append_iff.mp permits).1
  have each : ∀ x ∈ assignments.map (Assignment.emit cx), x.Defers allowed assignedParameters := by
    intro x mem
    obtain ⟨assignment, there, rfl⟩ := List.mem_map.mp mem
    exact Assignment.defers (values.of_mem_flatMap there)
  exact (Emit.Defers.all each).bind fun parts => .pure (by simp [assignedParameters_flatten])

@[simp] theorem parameters_assignmentsSql (assignments : List (String × Sql)) :
    (assignmentsSql assignments).parameters = assignedParameters assignments := by
  simp [assignmentsSql, assignedParameters, List.flatMap_map]

theorem emitReturned_defers {columns : List Projected}
    (permits : cx.registry.Permits allowed (projectionNodes columns)) :
    (emitReturned cx columns).Defers allowed Sql.parameters :=
  (emitProjection_defers permits).bind fun _ => .pure (by simp)

theorem Output.registry_images (cx : Context) (image : String) (output : Option Output) :
    (Output.images cx image output).registry = cx.registry := by
  cases output <;> rfl

theorem Output.defers {output : Option Output}
    (permits : cx.registry.Permits allowed (Reading.nodes.output output)) :
    (Output.emit cx output).Defers allowed Sql.parameters := by
  cases output with
  | none => exact .pure rfl
  | some output =>
    obtain ⟨columns, intoTable⟩ := output
    refine (emitReturned_defers permits).bind fun list => ?_
    cases intoTable with
    | none => exact .pure (by simp)
    | some table => exact .lift_bind fun _ _ => .pure (by simp)

@[simp] theorem parameters_changedFrom (table : String) (asName : Option String) (hints : String)
    (source : Option Sql) :
    (changedFrom table asName hints source).parameters = source.toList.flatMap Sql.parameters := by
  unfold changedFrom
  split <;> simp

/-- The body comes first and the common tables last, but they stand the other way round. -/
theorem emitReturning_defers {ctes : List Cte} {output : Option Output}
    (common : cx.registry.Permits allowed (Reading.nodes.ctes ctes))
    (returned : cx.registry.Permits allowed (Reading.nodes.output output)) (body : Sql) :
    (emitReturning cx ctes body output).LeavesOnly allowed fun sql later =>
      body.parameters + later = (sql.parameters : Multiset String) := by
  unfold emitReturning
  split
  · refine (emitWith_defers common "\n").bind fun common => .pure ?_
    simpa using List.perm_append_comm
  · refine (emitReturned_defers returned).bind fun list => (emitWith_defers common "\n").bind fun common => .pure ?_
    simpa using @List.perm_append_comm _ (body.parameters ++ list.parameters) common.parameters
  · refine (emitReturned_defers returned).bind fun list => ?_
    split
    · exact .pure_bind <| .lift_bind fun _ _ => .pure (by simp)
    · refine (emitWith_defers common ",\n").bind fun common => .lift_bind fun _ _ => .pure ?_
      simpa using @List.perm_append_comm _ (body.parameters ++ list.parameters) common.parameters

end

def InsertValue.parameters : InsertValue → List String
  | .written sql => sql.parameters
  | .next _ | .copied _ _ => []

@[simp] theorem InsertValue.parameters_sql (dialect : Dialect) (value : InsertValue) :
    (value.sql dialect).parameters = value.parameters := by
  cases value <;> rfl

def InsertLists.parameters (lists : InsertLists) : List String :=
  lists.values.flatMap InsertValue.parameters

@[simp] theorem InsertLists.parameters_values (lists : InsertLists) (dialect : Dialect) :
    (lists.values.map (InsertValue.sql dialect)).flatMap Sql.parameters = lists.parameters := by
  simp [List.flatMap_map, InsertLists.parameters]

/-- The columns that draw from a sequence are left out of the source. -/
theorem projectionNodes_filter (keep : Projected → Bool) (columns : List Projected) :
    projectionNodes (columns.filter keep) ⊆ projectionNodes columns := by
  induction columns with
  | nil => exact List.Subset.refl _
  | cons column columns ih =>
    obtain ⟨id, expr, asName⟩ := column
    rw [List.filter_cons]
    split
    · rw [projectionNodes, projectionNodes, ← List.append_assoc, ← List.append_assoc]
      exact List.append_subset.mpr ⟨List.subset_append_left _ _, List.subset_append_of_subset_right _ ih⟩
    · rw [projectionNodes, ← List.append_assoc]
      exact List.subset_append_of_subset_right _ ih

theorem InsertSource.nodes_withoutVectors (query : Query) : (withoutVectors query).nodes ⊆ query.nodes := by
  cases query with
  | select s =>
    obtain ⟨_, _, _, columns, _, _, _, _, _, _⟩ := s
    have fewer := projectionNodes_filter (fun column => !column.isVector) columns
    rw [withoutVectors, Query.nodes, Query.nodes]
    intro node mem
    simp only [List.mem_append] at mem ⊢
    exact mem.imp_right fun mem => mem.imp_right fun mem => mem.imp_left fun listed => fewer listed
  | union all left right order => exact List.Subset.refl _

namespace Insert

variable {cx : Context} {allowed : Deferred → Prop} {source : String}

theorem parameters_taggedOutputs {column : Projected} {outputs targets : List PhysicalColumn}
    {values : List InsertValue} (ok : targets.mapM (taggedOutput source column outputs) = .ok values) :
    values.flatMap InsertValue.parameters = [] := by
  refine List.flatMap_eq_nil_iff.mpr fun value mem => ?_
  obtain ⟨target, -, is⟩ := forall₂_mem (Except.mapM_ok.mp ok).flip mem
  obtain ⟨output, -, rfl⟩ := taggedOutput_ok is
  rfl

theorem propertyValues_defers (column : Projected) (targets : List PhysicalColumn) :
    (propertyValues cx source column targets).Defers allowed (List.flatMap InsertValue.parameters) := by
  unfold propertyValues
  refine .lift_bind fun sequence _ => ?_
  split
  · exact .pure rfl
  split
  case h_1 literal is =>
    have plain : cx.registry.Permits allowed column.expr.nodes := by
      rw [is, Expr.nodes]
      intro node mem call there
      obtain rfl := List.mem_singleton.mp mem
      cases there
    refine (emitValues_defers plain targets).bind fun values _ known => .pure ?_
    rw [known.1]
    simp [List.flatMap_map, InsertValue.parameters]
  case h_2 =>
    dsimp only
    split
    · exact .pure (by simp [List.flatMap_map, InsertValue.parameters])
    · exact .lift fun _ ok => parameters_taggedOutputs ok

theorem propertyLists_defers (projection : List Projected) (property : Property) :
    (propertyLists cx source projection property).Defers allowed InsertLists.parameters := by
  unfold propertyLists
  split
  · exact .pure rfl
  split
  · exact .pure rfl
  · exact .pure rfl
  · exact (propertyValues_defers _ _).bind fun _ => .pure (by simp [InsertLists.parameters])

theorem columnLists_defers (column : Projected) :
    (columnLists cx source column).Defers allowed InsertLists.parameters := by
  unfold columnLists
  refine .lift_bind fun sequence _ => ?_
  split
  · exact .pure rfl
  · exact .pure (by simp [InsertLists.parameters, InsertValue.parameters, List.flatMap_map])

theorem parameters_foldl (parts : List InsertLists) :
    (parts.foldl InsertLists.append .empty).parameters = parts.flatMap InsertLists.parameters := by
  rw [InsertLists.foldl_append]
  simp only [InsertLists.append, InsertLists.empty, InsertLists.joined, InsertLists.parameters, List.nil_append,
    List.flatMap_assoc]
  rfl

theorem lists_defers (target : TableRef) (projection : List Projected) :
    (lists cx target source projection).Defers allowed InsertLists.parameters := by
  -- the lists of an entity's properties and those of projected columns are joined alike
  have joined {xs : List (Emit InsertLists)} (each : ∀ x ∈ xs, x.Defers allowed InsertLists.parameters) :
      (do
        let lists := (← Emit.all xs).foldl InsertLists.append .empty
        if lists.columns.isEmpty then Emit.fail (.insertWithoutMatch target.id target.identifier)
        else return lists : Emit InsertLists).Defers allowed InsertLists.parameters := by
    refine (Emit.Defers.all each).bind fun parts => ?_
    dsimp only
    split
    · exact .fail _
    · exact .pure (by simp [parameters_foldl])
  unfold lists
  split
  · refine joined fun x mem => ?_
    obtain ⟨property, -, rfl⟩ := List.mem_map.mp mem
    exact propertyLists_defers projection property
  · refine joined fun x mem => ?_
    obtain ⟨column, -, rfl⟩ := List.mem_map.mp mem
    exact columnLists_defers column

theorem source_defers {rows : InsertSource} (permits : cx.registry.Permits allowed (Reading.nodes.rows rows)) :
    (rows.emit cx).Defers allowed Sql.parameters := by
  cases rows with
  | table table => exact .lift fun _ is => Context.parameters_tableSource is
  | derived derived =>
    obtain ⟨id, query, asName⟩ := derived
    simp only [InsertSource.emit, Derived.emit]
    refine (Query.defers permits).bind fun _ => .pure ?_
    unfold derivedSql
    split <;> simp
  | query query =>
    have fewer := permits.of_subset (InsertSource.nodes_withoutVectors query)
    exact (Query.defers fewer).bind fun _ => .pure (by simp)

/-- The values come first and the common tables next, but they stand the other way round. -/
theorem emitBody_defers {s : Insert} (permits : cx.registry.Permits allowed (Statement.insert s).nodes) :
    (s.emitBody cx).Defers allowed Sql.parameters := by
  obtain ⟨common, rows⟩ := Registry.Permits.append_iff.mp permits
  refine .lift_bind fun table _ => .lift_bind fun projection _ => ?_
  refine (lists_defers s.target projection).bind fun lists => ?_
  refine (emitWith_defers common "\n").bind fun common => (source_defers rows).bind fun rows => .pure ?_
  simpa using List.perm_append_comm_assoc _ _ _

end Insert

section

variable {cx : Context} {allowed : Deferred → Prop}

theorem Update.defers {s : Update} (permits : cx.registry.Permits allowed (Statement.update s).nodes) :
    (s.emit cx).Defers allowed Sql.parameters := by
  obtain ⟨common, rest⟩ := Registry.Permits.append_iff.mp permits
  obtain ⟨rest, changes⟩ := Registry.Permits.append_iff.mp rest
  obtain ⟨rows, returned⟩ := Registry.Permits.append_iff.mp rest
  obtain ⟨-, matched⟩ := Registry.Permits.append_iff.mp changes
  refine .lift_bind fun table _ => ?_
  split
  · have same := Output.registry_images cx "inserted" s.output
    refine (emitWith_defers common "\n").bind fun _ => (emitAssignments_defers changes).bind fun _ => ?_
    refine (Output.defers (same ▸ returned)).bind fun _ => (emitSource_defers (same ▸ rows)).bind fun _ => ?_
    exact (emitOption_defers (same ▸ matched)).bind fun _ => .pure (by simp)
  · refine (emitAssignments_defers changes).bind fun _ => (emitSource_defers rows).bind fun _ => ?_
    refine (emitOption_defers matched).bind fun _ sql ok => ?_
    simpa using emitReturning_defers common returned _ sql ok

theorem Delete.parameters_using (s : Delete) (source : Option Sql) :
    (source.or s.otherTables).toList.flatMap Sql.parameters = source.toList.flatMap Sql.parameters := by
  cases source with
  | some source => rfl
  | none =>
    unfold otherTables
    split
    · rfl
    split <;> rfl

theorem Delete.defers {s : Delete} (permits : cx.registry.Permits allowed (Statement.delete s).nodes) :
    (s.emit cx).Defers allowed Sql.parameters := by
  obtain ⟨common, rest⟩ := Registry.Permits.append_iff.mp permits
  obtain ⟨rest, matched⟩ := Registry.Permits.append_iff.mp rest
  obtain ⟨rows, returned⟩ := Registry.Permits.append_iff.mp rest
  refine .lift_bind fun table _ => ?_
  split
  · have same := Output.registry_images cx "deleted" s.output
    refine (emitWith_defers common "\n").bind fun _ => (Output.defers (same ▸ returned)).bind fun _ => ?_
    refine (emitSource_defers (same ▸ rows)).bind fun _ => (emitOption_defers (same ▸ matched)).bind fun _ => ?_
    exact .pure (by simp)
  · refine (emitSource_defers rows).bind fun source => (emitOption_defers matched).bind fun _ sql ok => ?_
    simpa [s.parameters_using source] using emitReturning_defers common returned _ sql ok

theorem Upsert.nodes_insertSource {s : Upsert} {source : InsertSource} (ok : s.insertSource = .ok source) :
    Reading.nodes.rows source ⊆ Reading.nodes.source s.source := by
  unfold insertSource at ok
  split at ok
  · cases ok
  · obtain rfl := Except.ok.inj ok
    exact List.nil_subset _
  case h_3 derived rows =>
    obtain rfl := Except.ok.inj ok
    obtain ⟨_, _, _⟩ := derived
    rw [rows]
    exact List.subset_cons_self _ _
  · cases ok

@[simp] theorem Upsert.parameters_guardSql (table : String) (asName : Option String) (predicate : Option Sql) :
    (guardSql table asName predicate).parameters = predicate.toList.flatMap Sql.parameters := by
  simp [guardSql]

/-- Common tables, source and predicate are written for both halves, and the predicate for the guard too; each
time their calls are deferred anew. -/
theorem Upsert.defers {s : Upsert} (permits : cx.registry.Permits allowed (Statement.upsert s).nodes) :
    (s.emit cx).Defers allowed Sql.parameters := by
  obtain ⟨common, rest⟩ := Registry.Permits.append_iff.mp permits
  obtain ⟨rows, changes⟩ := Registry.Permits.append_iff.mp rest
  obtain ⟨-, matched⟩ := Registry.Permits.append_iff.mp changes
  refine .lift_bind fun table _ => ?_
  -- not by `split`, which would take the choice inside that the update half depends on
  by_cases unset : s.assignments.isEmpty = true
  · simp only [unset, if_true]
    exact .fail_bind
  simp only [unset]
  refine .lift_bind fun source is => ?_
  -- the changed context has the registry of the statement's
  have update : (s.disambiguated cx source.name).registry.Permits allowed
      (Statement.update (s.toUpdate (s.disambiguated cx source.name))).nodes :=
    Registry.Permits.append_iff.mpr ⟨common, Registry.Permits.append_iff.mpr
      ⟨Registry.Permits.append_iff.mpr ⟨rows, .nil⟩, changes⟩⟩
  have insert : (s.disambiguated cx source.name).registry.Permits allowed
      (Statement.insert (s.toInsert source)).nodes :=
    Registry.Permits.append_iff.mpr ⟨common, rows.of_subset (nodes_insertSource is)⟩
  have guarded : (emitOption (s.disambiguated cx source.name) s.predicate).Defers allowed fun written =>
      written.toList.flatMap Sql.parameters := emitOption_defers matched
  have rest (update : Sql) : (do
      let insert ← (s.toInsert source).emitBody (s.disambiguated cx source.name)
      let predicate ← emitOption (s.disambiguated cx source.name) s.predicate
      return update ++ insert ++ guardSql table s.target.asName predicate ++ Sql.code ";" :
        Emit Sql).LeavesOnly allowed fun sql later =>
          update.parameters + later = (sql.parameters : Multiset String) :=
    (Insert.emitBody_defers insert).bind fun _ => guarded.bind fun _ => .pure (by simp)
  split
  · refine .pure_bind fun sql ok => ?_
    simpa using rest Sql.empty sql ok
  · refine (Update.defers update).bind fun written => .pure_bind fun sql ok => ?_
    simpa using rest (written ++ Sql.code "\n") sql ok

end

namespace Consume

variable {cx : Context} {allowed : Deferred → Prop} {s : Consume}

@[simp] theorem parameters_readBack (stage : String) (columns : List String) :
    (readBack stage columns).parameters = [] := by
  simp [readBack, List.flatMap_map]

@[simp] theorem FinalSelect.parameters_sql (final : FinalSelect) (dialect : Dialect) :
    (final.sql dialect).parameters = [] := by
  cases into : final.intoTable <;> simp [FinalSelect.sql, into]

@[simp] theorem StagedDelete.parameters_sqlServer (rows : SelectSql) (removal : Removal) (output : List String)
    (destination : Destination) :
    (StagedDelete.sqlServer rows removal output destination).sql.parameters = rows.parameters := by
  cases removal <;> cases destination <;>
    simp [StagedDelete.sql, Destination.declaration, Destination.intoClause, Destination.ending, Removal.source]

@[simp] theorem StagedDelete.parameters_postgres (names : StageNames) (rows : SelectSql) (table : String)
    (keys : List String) (returning : Returning) (final : FinalSelect) :
    (StagedDelete.postgres names rows table keys returning final).sql.parameters =
      rows.parameters ++ (returning.sql names.rows).parameters := by
  simp [StagedDelete.sql]

@[simp] theorem parameters_returnedItem (column : Carried) : (returnedItem column).sql.parameters = [] := by
  unfold returnedItem
  dsimp only
  split <;> simp

@[simp] theorem lineParameters_keyItems (qualifier : String) (keys : List String) :
    (keyItems qualifier keys).flatMap Item.lineParameters = [] := by
  simp [keyItems, Item.lineParameters, List.flatMap_map]

@[simp] theorem lineParameters_hiddenItems (plan : Plan) (qualifier : String) (keys : List String) :
    (hiddenItems plan qualifier keys).flatMap Item.lineParameters = [] := by
  simp [hiddenItems, hiddenItem, Item.lineParameters, List.flatMap_map]

theorem finalSelect_defers (s : Consume) (plan : Plan) (stage : String) :
    (s.finalSelect cx plan stage).Defers allowed fun _ => [] :=
  (emitTarget_defers s.intoTable).bind fun _ => .pure (by simp)

theorem nodes_rows (dialect : Dialect) (s : Consume) {columns : List Projected}
    (within : projectionNodes columns ⊆ projectionNodes s.columns) :
    (Query.select (rows dialect s columns)).nodes ⊆ (Statement.consume s).nodes := by
  have sorted : orderNodes (dialect.pick (s.top.bind fun _ => s.order) s.order) ⊆ orderNodes s.order := by
    cases dialect with
    | sqlServer =>
      cases s.top with
      | none => exact List.nil_subset _
      | some top => exact List.Subset.refl _
    | postgres => exact List.Subset.refl _
  intro node mem
  rw [rows, Query.nodes] at mem
  simp only [List.mem_append, optionNodes, eachNodes, Option.toList_none, List.map_nil, List.not_mem_nil,
    false_or] at mem
  simp only [Statement.nodes, Reading.statement, Reading.nodes, List.mem_append]
  rcases mem with mem | mem | mem | mem | mem
  · exact .inl (.inr mem)
  · exact .inr (.inl (.inl mem))
  · exact .inl (.inl (within mem))
  · exact .inr (.inl (.inr mem))
  · exact .inr (.inr (sorted mem))

section

variable (permits : cx.registry.Permits allowed (Statement.consume s).nodes)
include permits

theorem rows_defers (dialect : Dialect) :
    ((rows dialect s s.columns).emit cx).Defers allowed SelectSql.parameters :=
  Select.defers (permits.of_subset (nodes_rows dialect s (List.Subset.refl _)))

/-- A hint on the consumed table leaves the registry as it is. -/
theorem hinted_rows_defers (table : NodeId) (hint : String) :
    ((rows .sqlServer s s.columns).emit (cx.withHint table hint)).Defers allowed SelectSql.parameters :=
  Select.defers (permits.of_subset (nodes_rows .sqlServer s (List.Subset.refl _)))

theorem sqlServerDirect_defers (table : TableRef) (plan : Plan) :
    (s.sqlServerDirect cx table plan).Defers allowed (·.sql.parameters) :=
  .lift_bind fun _ _ => (hinted_rows_defers permits _ _).bind fun _ => .lift_bind fun _ _ => .pure (by simp)

/-- The keys and sort columns that stand before the projection have no parameters. -/
theorem sqlServerJoined_defers (table : TableRef) (tableName : String) (index : Index) (plan : Plan) :
    (s.sqlServerJoined cx table tableName index plan).Defers allowed (·.sql.parameters) := by
  unfold sqlServerJoined
  dsimp only
  split
  · refine .lift_bind fun _ _ => (hinted_rows_defers permits _ _).bind fun _ => .pure ?_
    simp [SelectSql.parameters]
  · refine .lift_bind fun _ _ => (hinted_rows_defers permits _ _).bind fun _ => .lift_bind fun _ _ => .pure ?_
    simp [SelectSql.parameters]

/-- The keys take the place of an empty projection. -/
theorem postgresDirect_defers (tableName : String) (index : Index) (plan : Plan) :
    (s.postgresDirect cx tableName index plan).Defers allowed (·.sql.parameters) := by
  have fewer : projectionNodes [] ⊆ projectionNodes s.columns := List.nil_subset _
  have bare : ((rows .postgres s []).emit cx).LeavesOnly allowed fun written targets =>
      targets = written.parameters ∧ written.columns = [] := by
    intro written ok
    obtain ⟨same, only⟩ := Select.defers (permits.of_subset (nodes_rows .postgres s fewer)) written ok
    have is := (Select.written_of_emit ok).columns
    rw [rows, emitProjection] at is
    exact ⟨⟨same, (Except.ok.inj is).symm⟩, only⟩
  refine bare.bind fun written targets known => ?_
  obtain ⟨rfl, columns⟩ := known
  have keyed : (index.keyNames.map fun key => [Item.column key none]).flatMap Item.lineParameters = [] := by
    simp [Item.lineParameters, List.flatMap_map]
  have returned : ((plan.carried.map returnedItem).map Item.sql).flatMap Sql.parameters = [] := by
    simp [List.flatMap_map]
  refine (finalSelect_defers s plan "queue").bind fun _ => .pure ?_
  simp only [StagedDelete.parameters_postgres, SelectSql.parameters, Returning.sql, Sql.parameters_join, columns,
    keyed, returned, List.flatMap_nil, List.append_nil, Multiset.coe_nil, Multiset.add_zero]

theorem postgresJoined_defers (table : TableRef) (tableName : String) (index : Index) (plan : Plan) :
    (s.postgresJoined cx table tableName index plan).Defers allowed (·.sql.parameters) := by
  refine (rows_defers permits .postgres).bind fun _ => (finalSelect_defers s plan "source").bind fun _ => .pure ?_
  simp [SelectSql.parameters, Returning.sql]

theorem staged_defers : (s.staged cx).Defers allowed (·.sql.parameters) := by
  unfold staged
  refine .lift_bind fun consumed _ => ?_
  obtain ⟨table, tableName⟩ := consumed
  dsimp only
  split
  · exact .lift_bind fun plan _ => sqlServerDirect_defers permits table plan
  · exact .lift_bind fun index _ => .lift_bind fun plan _ => postgresDirect_defers permits tableName index plan
  · refine .lift_bind fun index _ => .lift_bind fun plan _ => ?_
    exact sqlServerJoined_defers permits table tableName index plan
  · refine .lift_bind fun index _ => .lift_bind fun plan _ => ?_
    exact postgresJoined_defers permits table tableName index plan

theorem defers : (s.emit cx).Defers allowed Sql.parameters := by
  unfold emit
  split
  · exact .pure (by simp)
  · exact (staged_defers permits).bind fun _ => .pure (by simp)

end

end Consume

section

variable {cx : Context} {allowed : Deferred → Prop}

theorem SelectStatement.defers {s : SelectStatement}
    (permits : cx.registry.Permits allowed (Statement.select s).nodes) :
    (s.emit cx).Defers allowed Sql.parameters := by
  obtain ⟨common, rest⟩ := Registry.Permits.append_iff.mp permits
  exact (emitWith_defers common "\n").bind fun _ => (Query.defers rest).bind fun _ => .pure (by simp)

theorem TableVariable.defers {s : TableVariable} (permits : cx.registry.Permits allowed s.query.nodes)
    (temporary : Bool) : (s.emit cx temporary).Defers allowed Sql.parameters := by
  refine (Query.defers permits).bind fun _ => ?_
  dsimp only
  split
  · exact .pure (by simp)
  · exact .lift_bind fun _ _ => .pure (by simp)

theorem CreateType.parameters_emit {s : CreateType} {sql : Sql} (ok : s.emit cx = .ok sql) :
    sql.parameters = [] := by
  obtain ⟨_, -, rest⟩ := Except.bind_ok.mp ok
  obtain rfl := Except.pure_ok.mp rest
  rfl

theorem ApplySequence.parameters_ending {s : ApplySequence} {tableName column : String} {sql : Sql}
    (ok : s.ending cx tableName column = .ok sql) : sql.parameters = [] := by
  unfold ending at ok
  split at ok
  · obtain ⟨script, is, same⟩ := Except.bind_ok.mp ok
    obtain rfl := Except.pure_ok.mp same
    unfold renumbering at is
    split at is
    · cases is
    · dsimp only at is
      split at is <;> (obtain rfl := Except.ok.inj is; simp)
  · obtain rfl := Except.ok.inj ok
    rfl

theorem ApplySequence.parameters_triggerLists (s : ApplySequence) (entity : Entity) (property : Property) :
    (s.triggerLists entity property).parameters = [] := by
  refine List.flatMap_eq_nil_iff.mpr fun value mem => ?_
  obtain ⟨⟨column, numbered⟩, -, rfl⟩ := List.mem_map.mp mem
  cases numbered <;> rfl

theorem ApplySequence.parameters_emit {s : ApplySequence} {sql : Sql} (ok : s.emit cx = .ok sql) :
    sql.parameters = [] := by
  obtain ⟨entity, -, rest⟩ := Except.bind_ok.mp ok
  obtain ⟨⟨property, first⟩, -, rest⟩ := Except.bind_ok.mp rest
  dsimp only at rest
  split at rest
  · obtain ⟨ending, is, same⟩ := Except.bind_ok.mp rest
    obtain rfl := Except.pure_ok.mp same
    simp [insteadOfSql, s.parameters_triggerLists entity property, parameters_ending is]
  · obtain ⟨ending, is, same⟩ := Except.bind_ok.mp rest
    obtain rfl := Except.pure_ok.mp same
    simp [beforeInsertSql, parameters_ending is]

theorem RevokeSequence.parameters_emit {s : RevokeSequence} {sql : Sql} (ok : s.emit cx = .ok sql) :
    sql.parameters = [] := by
  obtain ⟨entity, -, rest⟩ := Except.bind_ok.mp ok
  split at rest <;> (obtain rfl := Except.pure_ok.mp rest; rfl)

/-- The parameters of a written statement are those of the calls that it leaves to the caller, and these are
deferred for calls that stand in it. -/
theorem Statement.defers {statement : Statement} (permits : cx.registry.Permits allowed statement.nodes) :
    (statement.emit cx).Defers allowed Sql.parameters := by
  cases statement with
  | declare | dropSequence => exact .pure rfl
  | createSequence s => exact .pure (by cases dialect : cx.dialect <;> simp [CreateSequence.emit])
  | select s => exact s.defers permits
  | insert s => exact (Insert.emitBody_defers permits).bind fun _ => .pure (by simp)
  | update s => exact s.defers permits
  | delete s => exact s.defers permits
  | upsert s => exact s.defers permits
  | consume s => exact Consume.defers permits
  | tableVariable s => exact s.defers permits false
  | temporaryTable s => exact s.defers permits true
  | createType s => exact .lift fun _ is => s.parameters_emit is
  | applySequence s => exact .lift fun _ is => s.parameters_emit is
  | revokeSequence s => exact .lift fun _ is => s.parameters_emit is

end

/-- A statement that is kept terminated has a parameter for each call that the caller is told to bind, as often
as it is told so, and no other; in particular each stands in the text. Without its semicolons a text could lose
the end of a parameter. -/
theorem Script.deferred_parameters_stand {script : Script} {settings : Settings} {metadata : Metadata}
    {registry : Registry} {fresh : NodeId → Uuid} {emitted : Emitted} (terminated : settings.terminated = true)
    (ok : script.emit settings metadata registry fresh = .ok emitted) :
    ∀ written ∈ emitted.statements,
      (∃ sql : Sql, written.text = sql.text ∧ sql.parameters.Perm (written.functions.map (·.target))) ∧
      ∀ call ∈ written.functions, ∃ before after, written.text = before ++ call.target ++ after := by
  intro written mem
  obtain ⟨statement, -, alone⟩ := forall₂_mem (Script.emit_ok.mp ok).flip mem
  obtain ⟨sql, is, rfl⟩ := Statement.alone_ok.mp alone
  have anything : registry.Permits (fun _ => True) statement.nodes := fun _ _ _ _ _ _ => trivial
  have same : sql.parameters.Perm ((statement.emit _).deferred.map (·.target)) :=
    (Multiset.coe_eq_coe.mp (Statement.defers anything sql is).1).symm
  rw [Statement.emitted, terminated]
  refine ⟨⟨sql, rfl, same⟩, fun call left => ?_⟩
  exact Sql.text_of_parameter (same.mem_iff.mpr (List.mem_map_of_mem left))

namespace Kinds

def kind (id : NodeId) (name : String) : Expr :=
  .call ⟨id, "TYPEOF", [.literal ⟨.string, name⟩], false, none⟩

def ofKind (id : NodeId) (name : String) : Expr :=
  .compare .eq none (.column ⟨⟨6⟩, "q.Code"⟩) (kind id name)

/-- `WITH kinds AS (SELECT TYPEOF('Catalog.Parts') AS Kind)`. -/
def common : Cte :=
  ⟨⟨40⟩, "kinds", .select (.plain ⟨41⟩ [⟨⟨42⟩, kind ⟨43⟩ "Catalog.Parts", some "Kind"⟩] none)⟩

/-- The rows of one kind are taken from the drafts. -/
def upsert : Statement :=
  .upsert ⟨⟨16⟩, [common], Transfers.target, some Transfers.drafts, Transfers.assignments,
    some (ofKind ⟨44⟩ "Catalog.Goods"), false⟩

/-- The rows of one kind are removed and their kinds kept in a table. -/
def delete : Statement :=
  .delete ⟨⟨45⟩, [common], Transfers.target,
    some ⟨[⟨⟨46⟩, kind ⟨47⟩ "Document.Order", some "Kind"⟩], some ⟨⟨2⟩, "draft", none⟩⟩, none,
    some (ofKind ⟨48⟩ "Catalog.Goods")⟩

def emit : Except Error Emitted :=
  Script.emit ⟨[upsert, delete], Transfers.bindings⟩ ⟨.postgres, 0, true⟩ Catalog.empty Registry.standard
    fun _ => default

end Kinds

/-- An UPSERT writes its common table twice and its predicate twice; a DELETE writes its common table last and
places it first. -/
theorem Script.deferred_parameters_stand_of_kinds :
    ∃ emitted, Kinds.emit = .ok emitted ∧
      emitted.statements.map (fun written => written.functions.map (·.target)) =
        [["@TYPEOF_Catalog_Goods", "@TYPEOF_Catalog_Parts", "@TYPEOF_Catalog_Parts", "@TYPEOF_Catalog_Goods"],
          ["@TYPEOF_Catalog_Goods", "@TYPEOF_Document_Order", "@TYPEOF_Catalog_Parts"]] ∧
      ∀ written ∈ emitted.statements, ∀ call ∈ written.functions,
        ∃ before after, written.text = before ++ call.target ++ after := by
  obtain ⟨emitted, ok, targets⟩ : ∃ emitted, Kinds.emit = .ok emitted ∧
      emitted.statements.map (fun written => written.functions.map (·.target)) =
        [["@TYPEOF_Catalog_Goods", "@TYPEOF_Catalog_Parts", "@TYPEOF_Catalog_Parts", "@TYPEOF_Catalog_Goods"],
          ["@TYPEOF_Catalog_Goods", "@TYPEOF_Document_Order", "@TYPEOF_Catalog_Parts"]] :=
    Except.exists_ok (by decide +kernel)
  exact ⟨emitted, ok, targets, fun written mem => (Script.deferred_parameters_stand rfl ok written mem).2⟩

end SqlEmit
