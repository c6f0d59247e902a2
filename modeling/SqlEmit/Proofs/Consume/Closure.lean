import SqlEmit.Proofs.Consume.Names

/-! Columns that flow from stage to stage. A column that is read back without an alias goes by what
follows its last dot, so the names that survive every stage are those without one. -/
namespace SqlEmit.Consume

def readItems (stage : String) (columns : List String) : List Item :=
  columns.map fun column => .column (stage ++ "." ++ column) none

theorem readBack_eq (stage : String) (columns : List String) :
    readBack stage columns = Sql.join ",\n" ((readItems stage columns).map Item.sql) := by
  rw [readBack, readItems, List.map_map]
  rfl

theorem readItems_names (stage : String) (columns : List String) :
    (readItems stage columns).map Item.name = columns.map Text.unqualified := by
  simp [readItems, Item.name, Function.comp_def]

def Returning.items (stage : String) : Returning → List Item
  | .columns items => items
  | .readBack names => readItems stage names

theorem Returning.sql_eq (stage : String) (returning : Returning) :
    returning.sql stage = Sql.join ",\n" ((returning.items stage).map Item.sql) := by
  cases returning with
  | columns => rfl
  | readBack names => exact readBack_eq stage names

/-- The columns that the select list and the order of the last select read. -/
def FinalSelect.reads (final : FinalSelect) : List String :=
  final.columns ++ final.order.map (·.name)

namespace StagedDelete

def rowStage : StagedDelete → String
  | .sqlServer _ removal _ _ => removal.image
  | .postgres names _ _ _ _ _ => names.rows

/-- The columns that are read back, each with the stage that qualifies it. -/
def reads (staged : StagedDelete) : List (String × String) :=
  staged.rowReads.map (staged.rowStage, ·) ++
    staged.final?.toList.flatMap fun final => final.reads.map (final.stage, ·)

/-- The stages with the columns that a select list, a RETURNING or a declaration gives them. -/
def defines (staged : StagedDelete) : List (String × List String) :=
  (staged.rowStage, staged.rows.names) ::
    match staged with
    | .sqlServer _ _ _ (.sorted columns _) => [("result", columns.map (·.name))]
    | .sqlServer .. => []
    | .postgres names _ _ _ returning _ =>
      [(names.removed, (returning.items names.rows).map Item.name)]

/-- Every column that is read back is one that its stage defines. -/
def Closed (staged : StagedDelete) : Prop :=
  ∀ read ∈ staged.reads, ∃ stage ∈ staged.defines, stage.1 = read.1 ∧ read.2 ∈ stage.2

instance (staged : StagedDelete) : Decidable staged.Closed :=
  inferInstanceAs (Decidable (∀ read ∈ staged.reads, ∃ stage ∈ staged.defines,
    stage.1 = read.1 ∧ read.2 ∈ stage.2))

/-- The entries of the rows that are given away, to the caller or into a table. -/
def rowItems : StagedDelete → List Item
  | .sqlServer _ _ _ (.sorted _ final) => readItems final.stage final.columns
  | .sqlServer _ removal output _ => readItems removal.image output
  | .postgres _ _ _ _ _ final => readItems final.stage final.columns

def rowNames (staged : StagedDelete) : List String :=
  staged.rowItems.map Item.name

theorem rowNames_eq (staged : StagedDelete) :
    staged.rowNames = staged.visibleNames.map Text.unqualified := by
  cases staged with
  | sqlServer rows removal output destination => cases destination <;> exact readItems_names _ _
  | postgres names rows table keys returning final => exact readItems_names _ _

/-- What the DELETE reads is settled by the stage of the rows; what is left is the last select. -/
theorem closed_iff {staged : StagedDelete}
    (defined : ∀ name ∈ staged.rowReads, name ∈ staged.rows.names) :
    staged.Closed ↔ ∀ final ∈ staged.final?, ∀ name ∈ final.reads,
      ∃ stage ∈ staged.defines, stage.1 = final.stage ∧ name ∈ stage.2 := by
  constructor
  · intro closed final last name read
    apply closed (final.stage, name)
    apply List.mem_append_right
    exact List.mem_flatMap.mpr ⟨final, Option.mem_toList.mpr last, List.mem_map_of_mem read⟩
  · intro ends read mem
    rcases List.mem_append.mp mem with early | late
    · obtain ⟨name, present, rfl⟩ := List.mem_map.mp early
      exact ⟨_, List.mem_cons_self, rfl, defined name present⟩
    · obtain ⟨final, last, present⟩ := List.mem_flatMap.mp late
      obtain ⟨name, read, rfl⟩ := List.mem_map.mp present
      exact ends final (Option.mem_toList.mp last) name read

end StagedDelete

variable {cx : Context} {s : Consume} {table : TableRef} {tableName : String} {plan : Plan}
  {staged : StagedDelete}

theorem zipWith_names {columns : List Carried} {definitions : List ColumnDefinition}
    (same : definitions.length = columns.length) :
    (List.zipWith (fun column definition => (⟨column.name, definition.typeName⟩ : ColumnDefinition))
      columns definitions).map (·.name) = columns.map (·.name) := by
  induction columns generalizing definitions with
  | nil => simp
  | cons column columns ih =>
    cases definitions with
    | nil => simp at same
    | cons definition definitions => simpa using ih (by simpa using same)

/-- The table that restores the order declares every carried column. -/
theorem resultDefinitions_names {definitions : List ColumnDefinition}
    (defines : s.resultDefinitions cx plan = .ok definitions) :
    definitions.map (·.name) = plan.visibleNames ++ plan.hidden.map (·.name) := by
  simp only [resultDefinitions, Except.bind_ok] at defines
  obtain ⟨projection, -, rest⟩ := defines
  split at rest
  next => simp at rest
  next same =>
    rw [not_not] at same
    simp only [Except.bind_ok, Except.pure_ok, Except.mapM_ok] at rest
    obtain ⟨sorted, each, rfl⟩ := rest
    have names : sorted.map (·.name) = plan.hidden.map (·.name) := by
      generalize plan.hidden = columns at each ⊢
      induction each with
      | nil => rfl
      | cons head _ ih =>
        obtain ⟨_, -, rfl⟩ := head
        rw [List.map_cons, List.map_cons, ih]
    rw [List.map_append, zipWith_names same, names, Plan.visibleNames]

theorem returnedItem_name {column : Carried}
    (nameless : column.isLength = false → column.name = "" → column.columnName = "") :
    (returnedItem column).name = column.name := by
  unfold returnedItem
  cases length : column.isLength with
  | true => rfl
  | false =>
    have last : Text.unqualified ("source." ++ column.columnName) = column.columnName :=
      (Text.unqualified_qualified "source" column.columnName).trans
        (Text.unqualified_of_plain (Text.plain_unqualified column.source))
    simp only [Bool.false_eq_true, if_false, Item.name_ofPhysical, PhysicalColumn.outputName,
      PhysicalColumn.columnName, last]
    split
    next empty =>
      rw [String.isEmpty_iff] at empty
      rw [nameless length empty, empty]
    next => rfl

theorem returned_names {reserved : List String}
    (planned : Planned cx s (qualifier table tableName) reserved plan)
    (agrees : ∀ column ∈ s.columns, AliasAgrees cx column) :
    (plan.carried.map returnedItem).map Item.name = plan.names := by
  rw [List.map_map, Plan.names]
  apply List.map_congr_left
  intro column mem
  exact returnedItem_name (planned.carried_nameless agrees column mem)

/-- The last select reads carried columns only. -/
theorem Planned.reads_mem {reserved : List String} {final : FinalSelect}
    (planned : Planned cx s (qualifier table tableName) reserved plan)
    (columns : final.columns = plan.visibleNames) (order : final.order = plan.order) :
    ∀ name ∈ final.reads, name ∈ plan.names := by
  intro name read
  rw [FinalSelect.reads, columns, order] at read
  rcases List.mem_append.mp read with shown | sorted
  · rw [planned.names]
    exact List.mem_append_left _ shown
  · obtain ⟨key, mem, rfl⟩ := List.mem_map.mp sorted
    exact planned.key_mem_names key mem

/-- Only PostgreSQL reads the columns of a join back twice. -/
theorem Shape.closed_iff (shape : Shape cx s table tableName plan staged)
    (agrees : ∀ column ∈ s.columns, AliasAgrees cx column)
    (plain : ∀ key ∈ staged.keys, Text.Plain key) :
    staged.Closed ↔ (cx.dialect = .postgres → s.isDirect = false →
      ∀ final ∈ staged.final?, ∀ name ∈ final.reads, Text.Plain name) := by
  rw [StagedDelete.closed_iff (shape.rowReads_mem agrees plain)]
  cases shape with
  | sqlServerDirect _ _ _ _ _ delivers | sqlServerJoined _ _ _ _ _ _ _ delivers =>
    simp [(unsorted_of_destination delivers _ _ _).1]
  | sqlServerSorted dialect _ _ planned _ _ defines _ =>
    refine iff_of_true ?_ (by simp [dialect])
    rintro final ⟨⟩ name read
    refine ⟨_, List.mem_cons_of_mem _ List.mem_cons_self, rfl, ?_⟩
    have carried := (planned_of_ok planned).reads_mem rfl rfl name read
    rwa [resultDefinitions_names defines, ← (planned_of_ok planned).names]
  | postgresDirect dialect direct _ planned _ ends =>
    obtain ⟨_, rfl⟩ := finalSelect_ok ends
    refine iff_of_true ?_ (by simp [direct])
    rintro final ⟨⟩ name read
    refine ⟨_, List.mem_cons_of_mem _ List.mem_cons_self, rfl, ?_⟩
    have carried := (planned_of_ok planned).reads_mem rfl rfl name read
    rwa [← returned_names (planned_of_ok planned) agrees] at carried
  | postgresJoined dialect joined _ planned _ ends =>
    obtain ⟨_, rfl⟩ := finalSelect_ok ends
    -- `changes.n` is returned without an alias, so the removed rows have it under the end of `n`
    constructor
    · rintro defined _ _ final ⟨⟩ name read
      obtain ⟨stage, mem, same, present⟩ := defined _ rfl name read
      rcases List.mem_cons.mp mem with rfl | returned
      · exact absurd same (show "changes" ≠ "source" by decide)
      · rw [List.mem_singleton.mp returned] at present
        have names := readItems_names "changes" plan.names
        obtain ⟨other, -, rfl⟩ := List.mem_map.mp (names ▸ present)
        exact Text.plain_unqualified other
    · rintro flat final ⟨⟩ name read
      have whole := Text.unqualified_of_plain (flat dialect joined _ rfl name read)
      have carried := (planned_of_ok planned).reads_mem rfl rfl name read
      refine ⟨_, List.mem_cons_of_mem _ List.mem_cons_self, rfl, ?_⟩
      have names := readItems_names "changes" plan.names
      exact names ▸ List.mem_map.mpr ⟨name, carried, whole⟩

def mapperNames (bindings : Bindings) (columns : List Projected) : List String :=
  ((PropertyMapper.ofProjection bindings columns).flatMap (·.columns)).map (·.name)

theorem Projects.readable {column : Projected} {line : List Carried} (projects : Projects cx column line) :
    cx.Readable column := by
  cases projects with
  | @reference ref mapping expr mapped nonempty =>
    have referenced : cx.referenceMapping? column.expr = some mapping := by rw [expr]; exact mapped
    exact ⟨by simpa [referenced] using nonempty, by simp [referenced]⟩
  | length expr named => exact ⟨by simp [expr, Context.referenceMapping?], by simp [named]⟩

theorem map_unqualified_eq {names : List String} :
    names.map Text.unqualified = names ↔ ∀ name ∈ names, Text.Plain name := by
  induction names with
  | nil => simp
  | cons name names ih => simp [ih, Text.unqualified_eq_self]

/-- Every column that is read back is defined, and the rows have the columns of their mapper, exactly
as far as names are free of dots. -/
theorem stages_closed_iff_plain (writes : s.Writes cx.settled staged)
    (agrees : ∀ column ∈ s.columns, AliasAgrees cx.settled column)
    (plain : ∀ key ∈ staged.keys, Text.Plain key) :
    ∃ table tableName plan, s.consumedTable cx.settled = .ok (table, tableName) ∧
      Shape cx.settled s table tableName plan staged ∧
      (staged.Closed ↔ (cx.dialect = .postgres → s.isDirect = false →
        ∀ final ∈ staged.final?, ∀ name ∈ final.reads, Text.Plain name)) ∧
      (staged.rowNames = mapperNames cx.bindings s.columns ↔
        ∀ name ∈ mapperNames cx.bindings s.columns, Text.Plain name) ∧
      ∀ column ∈ plan.hidden, column.name ∉ mapperNames cx.bindings s.columns := by
  obtain ⟨table, tableName, plan, consumed, shape⟩ := shape_of_staged writes.stages
  obtain ⟨_, planned⟩ := shape.planned
  obtain ⟨lines, projects, _⟩ := planned.projection
  have shown : plan.visibleNames = mapperNames cx.bindings s.columns := by
    rw [planned.visibleNames agrees]
    refine (PropertyMapper.names_ofProjection rfl fun column mem => ?_).symm
    obtain ⟨line, -, projected⟩ := forall₂_mem projects mem
    exact projected.readable
  refine ⟨table, tableName, plan, consumed, shape, shape.closed_iff agrees plain, ?_, ?_⟩
  · rw [staged.rowNames_eq, shape.visibleNames, shown]
    exact map_unqualified_eq
  · rw [← shown]
    exact planned.fresh

/-- A join that is sorted by a key which is not projected. -/
theorem stages_closed_of_join :
    let cx := Queue.context .postgres
    let s := Queue.read true [Queue.column ⟨5⟩ none, Queue.column ⟨6⟩ none]
      (some ⟨[Queue.ascending ⟨7⟩, Queue.ascending ⟨5⟩], none, none⟩)
    ∃ staged, s.Writes cx.settled staged ∧ (∀ column ∈ s.columns, AliasAgrees cx.settled column) ∧
      (∀ key ∈ staged.keys, Text.Plain key) ∧ staged.Closed ∧
      staged.rowNames = mapperNames cx.bindings s.columns := by
  intro cx s
  have agrees : ∀ column ∈ s.columns, AliasAgrees cx.settled column := by decide +kernel
  have named : ∀ name ∈ mapperNames cx.bindings s.columns, Text.Plain name := by decide +kernel
  obtain ⟨staged, writes, plain, flat⟩ : ∃ staged, s.Writes cx.settled staged ∧
      (∀ key ∈ staged.keys, Text.Plain key) ∧
      ∀ final ∈ staged.final?, ∀ name ∈ final.reads, Text.Plain name :=
    exists_writes rfl (by decide +kernel)
  obtain ⟨_, _, _, _, _, closed, rows, _⟩ := stages_closed_iff_plain writes agrees plain
  exact ⟨staged, writes, agrees, plain, closed.mpr fun _ _ => flat, rows.mpr named⟩

/-- A dot in an alias is lost on the way to the caller; one in the name of an order column loses the
column. -/
theorem dotted_names_not_closed :
    (let cx := Queue.context .sqlServer
    let s := Queue.read false [Queue.column ⟨9⟩ none] none
    ∃ staged, s.Writes cx.settled staged ∧ (∀ column ∈ s.columns, AliasAgrees cx.settled column) ∧
      (∀ name ∈ mapperNames cx.bindings s.columns, name ≠ "") ∧
      staged.rowNames ≠ mapperNames cx.bindings s.columns) ∧
    (let cx := Queue.context .postgres
    let s := Queue.read true [Queue.column ⟨5⟩ none] (some ⟨[Queue.ascending ⟨8⟩], none, none⟩)
    ∃ staged, s.Writes cx.settled staged ∧ (∀ column ∈ s.columns, AliasAgrees cx.settled column) ∧
      (∀ name ∈ mapperNames cx.bindings s.columns, name ≠ "") ∧
      (∀ key ∈ staged.keys, key ≠ "" ∧ Text.Plain key) ∧ ¬staged.Closed) := by
  constructor
  · exact exists_writes rfl (by decide +kernel)
  · exact exists_writes rfl (by decide +kernel)

end SqlEmit.Consume
