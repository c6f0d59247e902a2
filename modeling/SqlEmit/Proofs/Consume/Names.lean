import SqlEmit.Proofs.Consume.Shape

/-! Names of the stage that selects the rows. Next to the keys of the target and the projection it
holds the order columns that neither provides. -/
namespace SqlEmit.Consume

theorem hiddenItem_name (column : Carried) : (hiddenItem column).name = column.name := by
  unfold hiddenItem
  split
  next => rfl
  next plain =>
    rw [not_or, not_not] at plain
    exact plain.1.symm

def unkeyed (plan : Plan) (qualifier : String) (keys : List String) : List Carried :=
  plan.hidden.filter fun column => !isKey qualifier keys column

/-- The order columns that the stage selects for themselves. MS-SQL needs none of them for rows that
go into a table. -/
def addedColumns (cx : Context) (s : Consume) (plan : Plan) (qualifier : String) (keys : List String) :
    List Carried :=
  if cx.dialect = .sqlServer ∧ s.intoTable.isSome then [] else unkeyed plan qualifier keys

theorem keyItems_names (qualifier : String) (keys : List String) :
    (keyItems qualifier keys).flatten.map Item.name = keys := by
  induction keys with
  | nil => rfl
  | cons key keys ih =>
    rw [keyItems] at ih ⊢
    simp [ih, Item.name]

theorem hiddenItems_names (plan : Plan) (qualifier : String) (keys : List String) :
    (hiddenItems plan qualifier keys).flatten.map Item.name =
      (unkeyed plan qualifier keys).map (·.name) := by
  unfold hiddenItems unkeyed
  induction plan.hidden.filter fun column => !isKey qualifier keys column with
  | nil => rfl
  | cons column columns ih => simp [hiddenItem_name, ih]

theorem mem_keys_of_isKey {qualifier : String} {keys : List String} {column : Carried}
    (key : isKey qualifier keys column = true) : column.name ∈ keys := by
  obtain ⟨name, mem, same⟩ := List.any_eq_true.mp key
  simp only [Bool.and_eq_true, decide_eq_true_eq] at same
  rw [← same.1]
  exact mem

theorem hidden_name_mem {plan : Plan} {qualifier : String} {keys : List String} {column : Carried}
    (mem : column ∈ plan.hidden) :
    column.name ∈ keys ++ (unkeyed plan qualifier keys).map (·.name) := by
  rw [List.mem_append]
  by_cases key : isKey qualifier keys column = true
  · exact .inl (mem_keys_of_isKey key)
  · exact .inr (List.mem_map_of_mem (List.mem_filter.mpr ⟨mem, by simp [key]⟩))

def Removal.keys : Removal → List String
  | .direct => []
  | .joined _ _ keys => keys

def Returning.reads : Returning → List String
  | .columns _ => []
  | .readBack names => names

namespace StagedDelete

def keys : StagedDelete → List String
  | .sqlServer _ removal _ _ => removal.keys
  | .postgres _ _ _ keys _ _ => keys

/-- The columns that the DELETE reads from the stage. -/
def rowReads : StagedDelete → List String
  | .sqlServer _ removal output _ => output ++ removal.keys
  | .postgres _ _ _ keys returning _ => keys ++ returning.reads

def visibleNames : StagedDelete → List String
  | .sqlServer _ _ _ (.sorted _ final) => final.columns
  | .sqlServer _ _ output _ => output
  | .postgres _ _ _ _ _ final => final.columns

end StagedDelete

variable {cx : Context} {s : Consume} {table : TableRef} {tableName : String} {plan : Plan}
  {staged : StagedDelete}

theorem hinted_outputNames : (hinted cx s table).outputNames = cx.outputNames := rfl

theorem selected_names {columns : List Projected} {dialect : Dialect} {context : Context}
    {selected : SelectSql} (same : context.outputNames = cx.outputNames)
    (selects : ((rows dialect s columns).emit context).result = .ok selected) :
    selected.names = columns.flatMap cx.outputNames := by
  rw [(Select.written_of_emit selects).names, same]
  rfl

theorem finalSelect_ok {stage : String} {final : FinalSelect}
    (ends : (s.finalSelect cx plan stage).result = .ok final) :
    ∃ intoTable, final = ⟨stage, stage, plan.visibleNames, intoTable, plan.order⟩ := by
  simp only [finalSelect, Emit.bind_ok, Emit.pure_ok] at ends
  obtain ⟨intoTable, -, rfl⟩ := ends
  exact ⟨intoTable, rfl⟩

/-- Without a stage that sorts them the rows go to the caller or into a table as they are. -/
theorem unsorted_of_destination {declared : Option (TableRef × List ColumnDefinition)}
    {target : Destination} (delivers : destination cx declared = .ok target) (rows : SelectSql)
    (removal : Removal) (output : List String) :
    (StagedDelete.sqlServer rows removal output target).final? = none ∧
      (StagedDelete.sqlServer rows removal output target).visibleNames = output := by
  cases declared with
  | none =>
    cases delivers
    exact ⟨rfl, rfl⟩
  | some declared =>
    simp only [destination, Except.bind_ok, Except.pure_ok] at delivers
    obtain ⟨_, -, rfl⟩ := delivers
    exact ⟨rfl, rfl⟩

/-- The statement carries these columns in one of its shapes. -/
theorem Shape.planned (shape : Shape cx s table tableName plan staged) :
    ∃ reserved, Planned cx s (qualifier table tableName) reserved plan := by
  cases shape with
  | sqlServerDirect _ _ planned | sqlServerSorted _ _ _ planned | sqlServerJoined _ _ _ planned
  | postgresDirect _ _ _ planned | postgresJoined _ _ _ planned => exact ⟨_, planned_of_ok planned⟩

theorem Shape.joined_planned (shape : Shape cx s table tableName plan staged)
    (joined : s.isDirect = false) : Planned cx s (qualifier table tableName) staged.keys plan := by
  cases shape with
  | sqlServerDirect _ direct | postgresDirect _ direct => simp [direct] at joined
  | sqlServerSorted _ _ _ planned | sqlServerJoined _ _ _ planned | postgresJoined _ _ _ planned =>
    exact planned_of_ok planned

theorem Shape.visibleNames (shape : Shape cx s table tableName plan staged) :
    staged.visibleNames = plan.visibleNames := by
  cases shape with
  | sqlServerDirect _ _ _ _ _ delivers | sqlServerJoined _ _ _ _ _ _ _ delivers =>
    exact (unsorted_of_destination delivers _ _ _).2
  | sqlServerSorted => rfl
  | postgresDirect _ _ _ _ _ ends | postgresJoined _ _ _ _ _ ends =>
    obtain ⟨_, rfl⟩ := finalSelect_ok ends
    rfl

theorem changes_names {target : String} {keys : List String} {added lines : List (List Item)}
    {selected : SelectSql} (columns : selected.columns = keyItems target keys ++ added ++ lines) :
    selected.names = keys ++ added.flatten.map Item.name ++ lines.flatten.map Item.name := by
  rw [SelectSql.names, columns, List.flatten_append, List.flatten_append, List.map_append,
    List.map_append, keyItems_names]

/-- The columns of the stage: keys, order columns, projection. -/
theorem Shape.joined_names (shape : Shape cx s table tableName plan staged)
    (joined : s.isDirect = false) :
    staged.rows.names = staged.keys ++
      (addedColumns cx s plan (qualifier table tableName) staged.keys).map (·.name) ++
        s.columns.flatMap cx.outputNames := by
  cases shape with
  | sqlServerDirect _ direct | postgresDirect _ direct => simp [direct] at joined
  | sqlServerSorted _ _ _ _ _ returned _ selects =>
    rw [addedColumns, if_neg (by simp [returned]), ← hiddenItems_names,
      ← selected_names hinted_outputNames selects]
    exact changes_names rfl
  | sqlServerJoined dialect _ _ planned unsorted _ selects _ =>
    have nothing (keys : List String) :
        addedColumns cx s plan (qualifier table tableName) keys = [] := by
      unfold addedColumns
      split
      next => rfl
      next returned =>
        have none : s.intoTable = none := by simpa [dialect] using returned
        have empty := unsorted.resolve_right (not_not.mpr none)
        rw [unkeyed, (planned_of_ok planned).hidden_eq_nil empty, List.filter_nil]
    rw [nothing, ← selected_names hinted_outputNames selects]
    refine @changes_names (qualifier table tableName) _ [] _ _ ?_
    rw [List.append_nil]
    rfl
  | postgresJoined dialect _ _ _ selects _ =>
    rw [addedColumns, if_neg (by simp [dialect]), ← hiddenItems_names, ← selected_names rfl selects]
    exact changes_names rfl

theorem Shape.direct_names (shape : Shape cx s table tableName plan staged)
    (direct : s.isDirect = true) :
    staged.rows.names =
      cx.dialect.pick (s.columns.flatMap cx.outputNames) (staged.keys.map Text.unqualified) := by
  cases shape with
  | sqlServerDirect dialect _ _ _ selects _ =>
    rw [dialect]
    exact selected_names hinted_outputNames selects
  | sqlServerSorted _ joined | sqlServerJoined _ joined | postgresJoined _ joined =>
    simp [direct] at joined
  | @postgresDirect index _ _ _ dialect =>
    have names (keys : List String) : (keys.map fun key => [Item.column key none]).flatten.map Item.name =
        keys.map Text.unqualified := by
      induction keys with
      | nil => rfl
      | cons key keys ih => rw [List.map_cons, List.flatten_cons, List.map_append, ih]; rfl
    rw [dialect]
    exact names index.keyNames

theorem Planned.mem_stage {reserved keys : List String} {name : String}
    (planned : Planned cx s (qualifier table tableName) reserved plan) (carried : name ∈ plan.names) :
    name ∈ keys ++ (unkeyed plan (qualifier table tableName) keys).map (·.name) ++ plan.visibleNames := by
  rw [planned.names, List.mem_append] at carried
  rcases carried with shown | sorted
  · exact List.mem_append_right _ shown
  · obtain ⟨column, hidden, rfl⟩ := List.mem_map.mp sorted
    exact List.mem_append_left _ (hidden_name_mem hidden)

theorem Shape.joined_rowReads_mem (shape : Shape cx s table tableName plan staged)
    (joined : s.isDirect = false) (agrees : ∀ column ∈ s.columns, AliasAgrees cx column) :
    ∀ name ∈ staged.rowReads, name ∈ staged.rows.names := by
  have planned := shape.joined_planned joined
  intro name mem
  rw [shape.joined_names joined, ← planned.visibleNames agrees]
  have keyed {keys added : List String} (key : name ∈ keys) : name ∈ keys ++ added ++ plan.visibleNames :=
    List.mem_append_left _ (List.mem_append_left _ key)
  cases shape with
  | sqlServerDirect _ direct | postgresDirect _ direct => simp [direct] at joined
  | sqlServerSorted _ _ _ _ _ returned =>
    rw [addedColumns, if_neg (by simp [returned])]
    rcases List.mem_append.mp mem with read | key
    · exact planned.mem_stage read
    · exact keyed key
  | sqlServerJoined =>
    rcases List.mem_append.mp mem with read | key
    · exact List.mem_append_right _ read
    · exact keyed key
  | postgresJoined dialect =>
    rw [addedColumns, if_neg (by simp [dialect])]
    rcases List.mem_append.mp mem with key | read
    · exact keyed key
    · exact planned.mem_stage read

/-- The DELETE reads nothing that the stage does not define. -/
theorem Shape.rowReads_mem (shape : Shape cx s table tableName plan staged)
    (agrees : ∀ column ∈ s.columns, AliasAgrees cx column)
    (plain : ∀ key ∈ staged.keys, Text.Plain key) :
    ∀ name ∈ staged.rowReads, name ∈ staged.rows.names := by
  cases direct : s.isDirect with
  | false => exact shape.joined_rowReads_mem direct agrees
  | true =>
    intro name mem
    rw [shape.direct_names direct]
    cases shape with
    | sqlServerSorted _ joined | sqlServerJoined _ joined | postgresJoined _ joined =>
      simp [direct] at joined
    | sqlServerDirect dialect _ planned =>
      rw [dialect, ← (planned_of_ok planned).visibleNames agrees]
      simpa [StagedDelete.rowReads, Removal.keys, Dialect.pick] using mem
    | postgresDirect dialect =>
      rw [dialect]
      simp only [StagedDelete.rowReads, Returning.reads, List.append_nil] at mem
      exact List.mem_map.mpr ⟨name, mem, Text.unqualified_of_plain (plain name mem)⟩

/-- A column of the target that the projection keeps from its own name. -/
def Carried.Renamed (qualifier : String) (column : Carried) : Prop :=
  isTargetColumn qualifier (.named column.source) = true ∧ column.name ≠ column.columnName

instance (qualifier : String) (column : Carried) : Decidable (column.Renamed qualifier) :=
  inferInstanceAs (Decidable (_ ∧ _))

/-- An order column under its own name is a key or differs from all of them. -/
theorem unkeyed_not_key {keys : List String}
    (planned : Planned cx s (qualifier table tableName) keys plan) :
    ∀ column ∈ unkeyed plan (qualifier table tableName) keys,
      ¬column.Renamed (qualifier table tableName) → column.name ∉ keys := by
  intro column mem kept present
  obtain ⟨hidden, noKey⟩ := List.mem_filter.mp mem
  cases own : isTargetColumn (qualifier table tableName) (.named column.source) with
  | false => exact planned.apart column hidden own present
  | true =>
    -- a column of the target under its own name is the key of that name
    have same : column.name = column.columnName := by
      by_contra different
      exact kept ⟨own, different⟩
    have source : column.source = column.name ∨
        column.source = qualifier table tableName ++ "." ++ column.name := by
      rw [isTargetColumn, Bool.or_eq_true, decide_eq_true_eq, decide_eq_true_eq] at own
      rw [same]
      exact own
    have key : isKey (qualifier table tableName) keys column = true :=
      List.any_eq_true.mpr ⟨column.name, present, by simpa using source⟩
    simp [key] at noKey

theorem addedColumns_sublist (cx : Context) (s : Consume) (plan : Plan) (qualifier : String)
    (keys : List String) : (addedColumns cx s plan qualifier keys).Sublist (unkeyed plan qualifier keys) := by
  unfold addedColumns
  split
  · exact List.nil_sublist _
  · exact List.Sublist.refl _

/-- The names of the stage differ exactly if no output is named like a key, and no renamed order
column is. -/
theorem Shape.nodup_names_iff (shape : Shape cx s table tableName plan staged)
    (joined : s.isDirect = false) :
    staged.rows.names.Nodup ↔ staged.keys.Nodup ∧ (s.columns.flatMap cx.outputNames).Nodup ∧
      (∀ name ∈ s.columns.flatMap cx.outputNames, name ∉ staged.keys) ∧
      ∀ column ∈ addedColumns cx s plan (qualifier table tableName) staged.keys,
        column.name ∉ s.columns.flatMap cx.outputNames ∧
        (column.Renamed (qualifier table tableName) → column.name ∉ staged.keys) := by
  have planned := shape.joined_planned joined
  have part := addedColumns_sublist cx s plan (qualifier table tableName) staged.keys
  have distinct : ((addedColumns cx s plan (qualifier table tableName) staged.keys).map (·.name)).Nodup :=
    planned.distinct.sublist ((part.trans List.filter_sublist).map _)
  have apart := unkeyed_not_key planned
  rw [shape.joined_names joined, List.nodup_append', List.nodup_append', List.disjoint_append_left]
  simp only [List.disjoint_left]
  constructor
  · rintro ⟨⟨keys, -, keysAdded⟩, outputs, keysOutputs, addedOutputs⟩
    refine ⟨keys, outputs, fun name output key => keysOutputs key output, ?_⟩
    intro column added
    have named : column.name ∈
        (addedColumns cx s plan (qualifier table tableName) staged.keys).map (·.name) :=
      List.mem_map.mpr ⟨column, added, rfl⟩
    exact ⟨addedOutputs named, fun _ key => keysAdded key named⟩
  · rintro ⟨keys, outputs, keysOutputs, added⟩
    refine ⟨⟨keys, distinct, ?_⟩, outputs, fun name key output => keysOutputs name output key, ?_⟩
    · intro name key present
      obtain ⟨column, mem, rfl⟩ := List.mem_map.mp present
      by_cases renamed : column.Renamed (qualifier table tableName)
      · exact (added column mem).2 renamed key
      · exact apart column (part.subset mem) renamed key
    · intro name present
      obtain ⟨column, mem, rfl⟩ := List.mem_map.mp present
      exact (added column mem).1

/-- The exact condition for a join to be matched on a stage whose names are distinct. Then each name
that the DELETE reads denotes one column. -/
theorem joined_names_distinct_iff (writes : s.Writes cx staged) (joined : s.isDirect = false) :
    ∃ table tableName plan, s.consumedTable cx = .ok (table, tableName) ∧
      Shape cx s table tableName plan staged ∧
      (staged.rows.names.Nodup ↔ staged.keys.Nodup ∧ (s.columns.flatMap cx.outputNames).Nodup ∧
        (∀ name ∈ s.columns.flatMap cx.outputNames, name ∉ staged.keys) ∧
        ∀ column ∈ addedColumns cx s plan (qualifier table tableName) staged.keys,
          column.name ∉ s.columns.flatMap cx.outputNames ∧
          (column.Renamed (qualifier table tableName) → column.name ∉ staged.keys)) ∧
      ((∀ column ∈ s.columns, AliasAgrees cx column) →
        staged.visibleNames = s.columns.flatMap cx.outputNames ∧
        (∀ column ∈ addedColumns cx s plan (qualifier table tableName) staged.keys,
          column.name ∉ s.columns.flatMap cx.outputNames) ∧
        (staged.rows.names.Nodup → ∀ name ∈ staged.rowReads, staged.rows.names.count name = 1)) := by
  obtain ⟨table, tableName, plan, consumed, shape⟩ := shape_of_staged writes.stages
  refine ⟨table, tableName, plan, consumed, shape, shape.nodup_names_iff joined, ?_⟩
  intro agrees
  have planned := shape.joined_planned joined
  have visible := planned.visibleNames agrees
  refine ⟨shape.visibleNames.trans visible, ?_, ?_⟩
  · intro column mem
    have part := addedColumns_sublist cx s plan (qualifier table tableName) staged.keys
    rw [← visible]
    exact planned.fresh column (List.mem_of_mem_filter (part.subset mem))
  · intro distinct name read
    apply List.count_eq_one_of_mem distinct
    exact shape.joined_rowReads_mem joined agrees name read

/-- A projected key is named twice, and a projection of other columns is not. -/
theorem joined_names_of_projected_key :
    let cx := Queue.context .postgres
    (∃ staged, (Queue.read true [Queue.column ⟨7⟩ none] none).Writes cx staged ∧
      staged.keys.Nodup ∧ staged.visibleNames.Nodup ∧ ¬staged.rows.names.Nodup) ∧
    let s := Queue.read true [Queue.column ⟨5⟩ none, Queue.column ⟨6⟩ none]
      (some ⟨[Queue.ascending ⟨7⟩, Queue.ascending ⟨8⟩], none, none⟩)
    ∃ staged, s.Writes cx staged ∧ s.isDirect = false ∧ staged.keys.Nodup ∧
      staged.visibleNames.Nodup ∧ ∀ name ∈ staged.rowReads, staged.rows.names.count name = 1 := by
  intro cx
  refine ⟨exists_writes rfl (by decide +kernel), ?_⟩
  intro s
  have agrees : ∀ column ∈ s.columns, AliasAgrees cx column := by decide +kernel
  obtain ⟨staged, writes, keys, outputs, distinct⟩ : ∃ staged, s.Writes cx staged ∧
      staged.keys.Nodup ∧ staged.visibleNames.Nodup ∧ staged.rows.names.Nodup :=
    exists_writes rfl (by decide +kernel)
  obtain ⟨_, _, _, _, _, _, rest⟩ := joined_names_distinct_iff writes rfl
  exact ⟨staged, writes, rfl, keys, outputs, (rest agrees).2.2 distinct⟩

end SqlEmit.Consume
