import SqlEmit.Builder

/-! Runs of a builder. Whatever a step makes, it hands out ids in order and records values for ids
that are handed out and have none, so what is recorded for a node stays. -/
namespace SqlEmit.Builder

inductive Step where
  | newId
  | bind (id : NodeId) (binding : Binding)
  | map (id : NodeId) (mapping : List PhysicalColumn)
  | table (identifier : String) (asName : Option String) (binding : Binding)
  | entityTable (entity : Entity) (asName : Option String)
  | columnRef (identifier : String) (binding : Binding) (mapping : List PhysicalColumn)
  | property (qualifier : Option String) (property : Property)
  | selectProperty (qualifier : Option String) (property : Property) (asName : Option String)
  | derivedColumn (qualifier : String) (parent : Projected)
  | selectDerived (qualifier : String) (parent : Projected)
  | computed (expr : Expr) (asName : String)
  | function (name : String) (args : List Expr)
  | variableRef (identifier : String) (type : PrimitiveType)
  | select (columns : List Projected) (source : Option Source)
  | derived (query : Query) (asName : String)

inductive Made where
  | nothing
  | id (id : NodeId)
  | table (table : TableRef)
  | source (source : Source)
  | reference (ref : ColumnRef)
  | column (column : Projected)
  | call (call : Call)
  | expr (expr : Expr)
  | select (select : Select)
  | derived (derived : Derived)

def Step.run (b : Builder) : Step → Made × Builder
  | .newId => b.nextId.map .id id
  | .bind node binding => (.nothing, b.bind node binding)
  | .map node mapping => (.nothing, b.map node mapping)
  | .table identifier asName binding => (b.table identifier asName binding).map .table id
  | .entityTable entity asName => (b.entityTable entity asName).map .source id
  | .columnRef identifier binding mapping => (b.columnRef identifier binding mapping).map .reference id
  | .property qualifier p => (b.property qualifier p).map .reference id
  | .selectProperty qualifier p asName => (b.selectProperty qualifier p asName).map .column id
  | .derivedColumn qualifier parent => (b.derivedColumn qualifier parent).map .reference id
  | .selectDerived qualifier parent => (b.selectDerived qualifier parent).map .column id
  | .computed expr asName => (b.computed expr asName).map .column id
  | .function name args => (b.function name args).map .call id
  | .variableRef identifier type => (b.variableRef identifier type).map .expr id
  | .select columns source => (b.select columns source).map .select id
  | .derived query asName => (b.derived query asName).map .derived id

def after (b : Builder) : List Step → Builder
  | [] => b
  | step :: steps => after (step.run b).2 steps

/-- The node whose meaning a step records: the table, variable or derived table itself, or the
reference of a column. -/
def Made.node? : Made → Option NodeId
  | .table t | .source (.table t) => some t.id
  | .reference ref | .column ⟨_, .column ref, _⟩ => some ref.id
  | .expr (.variableRef ref) => some ref.id
  | .derived d => some d.id
  | _ => none

/-- The ids that a step hands out, in order. A projected column has one behind that of its reference;
one that is read from a derived table first has the reference that stands for the parent. -/
def Step.ids (b : Builder) (step : Step) : List NodeId :=
  let node := (step.run b).1.node?.toList
  match step with
  | .newId => [b.nextId.1]
  | .bind _ _ | .map _ _ => []
  | .selectProperty qualifier p asName => node ++ [(b.selectProperty qualifier p asName).1.id]
  | .selectDerived qualifier parent =>
    (b.derivedColumn qualifier parent).1.id :: node ++ [(b.selectDerived qualifier parent).1.id]
  | .computed expr asName => [(b.computed expr asName).1.id]
  | .function name args => [(b.function name args).1.id]
  | .select columns source => [(b.select columns source).1.id]
  | _ => node

def idsOf (b : Builder) : List Step → List NodeId
  | [] => []
  | step :: steps => step.ids b ++ idsOf (step.run b).2 steps

/-- The ids that a step names of its own accord. -/
def Step.named : Step → List NodeId
  | .bind node _ | .map node _ => [node]
  | _ => []

/-- A mapping that is recorded only if it has columns. -/
def recorded (mapping : List PhysicalColumn) : Option (List PhysicalColumn) :=
  if mapping.isEmpty then none else some mapping

/-- What a step finds its node to denote, and the mapping it records for it. -/
def Step.denotes (b : Builder) : Step → Option (Binding × Option (List PhysicalColumn))
  | .table _ _ binding => some (binding, none)
  | .entityTable entity _ => some (.entity entity, none)
  | .columnRef _ binding mapping => some (binding, recorded mapping)
  | .property qualifier p =>
    some (.property p, recorded (p.orderedColumns.map (physical qualifier)))
  | .selectProperty qualifier p asName =>
    some (.property p, recorded (p.orderedColumns.map fun column =>
      { physical qualifier column with asName := some (outputName p asName column) }))
  | .derivedColumn qualifier parent =>
    some (.column parent.id, recorded (b.derivedMapping qualifier parent))
  | .selectDerived qualifier parent =>
    some (.column parent.id, some ((b.derivedMapping qualifier parent).map fun column =>
      { column with asName := some column.columnName }))
  | .variableRef _ type => some (.primitive type, none)
  | .derived _ _ => some (.derivedTable, none)
  | _ => none

/-- A builder that comes from another one by handing out ids and recording values for ids that are
handed out. -/
inductive Grows (b : Builder) : List NodeId → Builder → Prop where
  | refl : Grows b [] b
  | hand {ids : List NodeId} {next : Builder} (grows : Grows b ids next) :
    Grows b (ids ++ [next.nextId.1]) next.nextId.2
  | bind {ids : List NodeId} {next : Builder} (grows : Grows b ids next) {id : NodeId}
    (known : id.index ≤ next.last) (binding : Binding) : Grows b ids (next.bind id binding)
  | map {ids : List NodeId} {next : Builder} (grows : Grows b ids next) {id : NodeId}
    (known : id.index ≤ next.last) (mapping : List PhysicalColumn) : Grows b ids (next.map id mapping)

/-- Nothing is recorded for ids that are still to come. -/
def Bounded (b : Builder) : Prop :=
  ∀ id, b.last < id.index → b.bindings.binding? id = none ∧ b.bindings.mapping? id = none

section Records

variable (b : Builder) (id : NodeId) (binding : Binding) (mapping : List PhysicalColumn)

@[simp] theorem binding?_nextId (other : NodeId) :
    b.nextId.2.bindings.binding? other = b.bindings.binding? other := rfl

@[simp] theorem mapping?_nextId (other : NodeId) :
    b.nextId.2.bindings.mapping? other = b.bindings.mapping? other := rfl

@[simp] theorem binding?_bind (other : NodeId) :
    (b.bind id binding).bindings.binding? other =
      if id = other then some ((b.bindings.binding? id).getD binding) else b.bindings.binding? other :=
  Dict.find?_insertNew ..

@[simp] theorem mapping?_bind (other : NodeId) :
    (b.bind id binding).bindings.mapping? other = b.bindings.mapping? other := rfl

@[simp] theorem binding?_map (other : NodeId) :
    (b.map id mapping).bindings.binding? other = b.bindings.binding? other := rfl

@[simp] theorem mapping?_map (other : NodeId) :
    (b.map id mapping).bindings.mapping? other =
      if id = other then some ((b.bindings.mapping? id).getD mapping) else b.bindings.mapping? other :=
  Dict.find?_insertNew ..

end Records

theorem toNat_nextId (b : Builder) (room : b.last.toNat + 1 < 4294967296) :
    (b.last + 1).toNat = b.last.toNat + 1 := by
  rw [UInt32.toNat_add]
  exact Nat.mod_eq_of_lt room

namespace Grows

variable {b next last : Builder} {ids later : List NodeId}

theorem trans (first : Grows b ids next) (second : Grows next later last) :
    Grows b (ids ++ later) last := by
  induction second with
  | refl => simpa using first
  | hand _ ih =>
    rw [← List.append_assoc]
    exact .hand ih
  | bind _ known binding ih => exact .bind ih known binding
  | map _ known mapping ih => exact .map ih known mapping

theorem keeps (grows : Grows b ids next) (id : NodeId) :
    (∀ binding, b.bindings.binding? id = some binding → next.bindings.binding? id = some binding) ∧
      ∀ mapping, b.bindings.mapping? id = some mapping → next.bindings.mapping? id = some mapping := by
  induction grows with
  | refl => exact ⟨fun _ found => found, fun _ found => found⟩
  | hand _ ih => exact ih
  | @bind _ _ _ other _ _ ih =>
    refine ⟨fun binding found => ?_, ih.2⟩
    by_cases same : other = id
    · subst same
      simp [ih.1 binding found]
    · simp [same, ih.1 binding found]
  | @map _ _ _ other _ _ ih =>
    refine ⟨ih.1, fun mapping found => ?_⟩
    by_cases same : other = id
    · subst same
      simp [ih.2 mapping found]
    · simp [same, ih.2 mapping found]

/-- Ids are consecutive as long as there is room for them. -/
theorem numbered (grows : Grows b ids next) (room : b.last.toNat + ids.length < 4294967296) :
    ids.map (·.index.toNat) = List.range' (b.last.toNat + 1) ids.length ∧
      next.last.toNat = b.last.toNat + ids.length := by
  induction grows with
  | refl => simp
  | @hand ids next _ ih =>
    rw [List.length_append, List.length_singleton] at room ⊢
    obtain ⟨consecutive, reached⟩ := ih (by omega)
    have index := toNat_nextId next (by omega)
    refine ⟨?_, by rw [nextId, index, reached, Nat.add_assoc]⟩
    rw [List.map_append, consecutive, List.range'_concat]
    simp [nextId, index, reached, Nat.add_right_comm]
  | bind _ _ _ ih => exact ih room
  | map _ _ _ ih => exact ih room

theorem bounded (grows : Grows b ids next) (room : b.last.toNat + ids.length < 4294967296)
    (bounded : b.Bounded) : next.Bounded := by
  induction grows with
  | refl => exact bounded
  | @hand ids next grows ih =>
    rw [List.length_append, List.length_singleton] at room
    have reached := (grows.numbered (by omega)).2
    intro id beyond
    refine ih (by omega) id ?_
    have index := toNat_nextId next (by omega)
    have step : next.last + 1 < id.index := beyond
    rw [UInt32.lt_iff_toNat_lt] at step ⊢
    omega
  | @bind _ next _ other known _ ih =>
    intro id beyond
    have apart : other ≠ id := by
      rintro rfl
      exact UInt32.not_lt.mpr known beyond
    simpa [apart] using ih room id beyond
  | @map _ next _ other known _ ih =>
    intro id beyond
    have apart : other ≠ id := by
      rintro rfl
      exact UInt32.not_lt.mpr known beyond
    simpa [apart] using ih room id beyond

end Grows

section

variable (b : Builder)

theorem grows_bound (binding : Binding) : Grows b [(b.bound binding).1] (b.bound binding).2 :=
  .bind (.hand .refl) (UInt32.le_refl _) binding

theorem grows_columnRef (identifier : String) (binding : Binding) (mapping : List PhysicalColumn) :
    Grows b [(b.columnRef identifier binding mapping).1.id]
      (b.columnRef identifier binding mapping).2 := by
  have bound := b.grows_bound binding
  by_cases empty : mapping.isEmpty = true
  · simpa [columnRef, empty] using bound
  · have mapped := @Grows.map b _ _ bound (b.bound binding).1 (UInt32.le_refl _) mapping
    simpa [columnRef, empty] using mapped

theorem Grows.copied {b next : Builder} {ids : List NodeId} (grows : Grows b ids next) {id : NodeId}
    (known : id.index ≤ next.last) (binding : Option Binding) :
    Grows b ids (match binding with | some binding => next.bind id binding | none => next) := by
  cases binding with
  | none => exact grows
  | some binding => exact grows.bind known binding

theorem grows_selectDerived (qualifier : String) (parent : Projected) :
    Grows b (Step.ids b (.selectDerived qualifier parent)) (b.selectDerived qualifier parent).2 := by
  let inner := b.derivedColumn qualifier parent
  have reference : Grows b [inner.1.id] inner.2 := b.grows_columnRef _ _ _
  have copied := reference.hand.copied (UInt32.le_refl inner.2.nextId.2.last)
    (inner.2.nextId.2.bindings.binding? inner.1.id)
  have known : inner.2.nextId.1.index ≤ (match inner.2.nextId.2.bindings.binding? inner.1.id with
      | some binding => inner.2.nextId.2.bind inner.2.nextId.1 binding
      | none => inner.2.nextId.2).last := by
    cases inner.2.nextId.2.bindings.binding? inner.1.id <;> exact UInt32.le_refl _
  exact (copied.map known _).hand

end

/-- A step that names only ids that are handed out lets the builder grow by the ids of the step. -/
theorem Step.grows (b : Builder) (step : Step) (known : ∀ id ∈ step.named, id.index ≤ b.last) :
    Grows b (step.ids b) (step.run b).2 := by
  cases step with
  | newId => exact .hand .refl
  | bind id binding => exact .bind .refl (known id (by simp [named])) binding
  | map id mapping => exact .map .refl (known id (by simp [named])) mapping
  | table identifier asName binding => exact b.grows_bound binding
  | entityTable entity asName => exact b.grows_bound (.entity entity)
  | columnRef identifier binding mapping => exact b.grows_columnRef identifier binding mapping
  | property qualifier p => exact b.grows_columnRef _ _ _
  | selectProperty qualifier p asName => exact (b.grows_columnRef _ _ _).hand
  | derivedColumn qualifier parent => exact b.grows_columnRef _ _ _
  | selectDerived qualifier parent => exact b.grows_selectDerived qualifier parent
  | computed expr asName => exact .hand .refl
  | function name args => exact .hand .refl
  | variableRef identifier type => exact b.grows_bound (.primitive type)
  | select columns source => exact .hand .refl
  | derived query asName => exact b.grows_bound .derivedTable

section

variable {b : Builder} (bounded : b.Bounded)

include bounded

theorem fresh_nextId (room : b.last.toNat + 1 < 4294967296) :
    b.bindings.binding? b.nextId.1 = none ∧ b.bindings.mapping? b.nextId.1 = none := by
  refine bounded b.nextId.1 (UInt32.lt_iff_toNat_lt.mpr ?_)
  have index := b.toNat_nextId room
  simp only [nextId]
  omega

theorem records_bound (room : b.last.toNat + 1 < 4294967296) (binding : Binding) :
    (b.bound binding).2.bindings.binding? (b.bound binding).1 = some binding ∧
      (b.bound binding).2.bindings.mapping? (b.bound binding).1 = none := by
  have fresh := fresh_nextId bounded room
  simp [bound, fresh]

theorem records_columnRef (room : b.last.toNat + 1 < 4294967296) (identifier : String)
    (binding : Binding) (mapping : List PhysicalColumn) :
    let made := b.columnRef identifier binding mapping
    made.2.bindings.binding? made.1.id = some binding ∧
      made.2.bindings.mapping? made.1.id = recorded mapping := by
  have bound := records_bound bounded room binding
  by_cases empty : mapping.isEmpty = true
  · simpa [columnRef, recorded, empty] using bound
  · simpa [columnRef, recorded, empty, bound.2] using bound.1

/-- The binding and the mapping of the inner reference are copied to the projected one. -/
theorem records_selectDerived (room : b.last.toNat + 2 < 4294967296) (qualifier : String)
    (parent : Projected) :
    ∃ node, (Step.run b (.selectDerived qualifier parent)).1.node? = some node ∧
      (b.selectDerived qualifier parent).2.bindings.binding? node = some (.column parent.id) ∧
      (b.selectDerived qualifier parent).2.bindings.mapping? node =
        some ((b.derivedMapping qualifier parent).map fun column =>
          { column with asName := some column.columnName }) := by
  let inner := b.derivedColumn qualifier parent
  have reference : Grows b [inner.1.id] inner.2 := b.grows_columnRef _ _ _
  have records : inner.2.bindings.binding? inner.1.id = some (.column parent.id) ∧
      inner.2.bindings.mapping? inner.1.id = recorded (b.derivedMapping qualifier parent) :=
    records_columnRef bounded (by omega) _ _ _
  have reached := (reference.numbered (by simp; omega)).2
  rw [List.length_singleton] at reached
  have fresh := fresh_nextId (reference.bounded (by simp; omega) bounded) (by omega)
  have columns : (inner.2.bindings.mapping? inner.1.id).getD [] = b.derivedMapping qualifier parent := by
    rw [records.2, recorded]
    cases b.derivedMapping qualifier parent <;> rfl
  refine ⟨inner.2.nextId.1, rfl, ?_, ?_⟩
  · simp [selectDerived, records, fresh, inner]
  · simp [selectDerived, records.1, columns, fresh, inner]

/-- The node that a step gives back has the meaning that the step finds for it. -/
theorem Step.records (step : Step) (room : b.last.toNat + (step.ids b).length < 4294967296)
    {binding : Binding} {mapping : Option (List PhysicalColumn)}
    (denotes : step.denotes b = some (binding, mapping)) :
    ∃ node, (step.run b).1.node? = some node ∧
      (step.run b).2.bindings.binding? node = some binding ∧
      ∀ columns ∈ mapping, (step.run b).2.bindings.mapping? node = some columns := by
  have reference {identifier : String} {binding : Binding} {columns : List PhysicalColumn}
      (room : b.last.toNat + 1 < 4294967296) :
      let made := b.columnRef identifier binding columns
      made.2.bindings.binding? made.1.id = some binding ∧
        ∀ mapping ∈ recorded columns, made.2.bindings.mapping? made.1.id = some mapping := by
    obtain ⟨binds, maps⟩ := records_columnRef bounded room identifier binding columns
    exact ⟨binds, fun mapping given => maps.trans given⟩
  cases step with
  | table | entityTable | variableRef | derived =>
    obtain ⟨rfl, rfl⟩ := Prod.mk.inj (Option.some.inj denotes)
    exact ⟨_, rfl, (records_bound bounded room _).1, nofun⟩
  | columnRef | property | derivedColumn =>
    obtain ⟨rfl, rfl⟩ := Prod.mk.inj (Option.some.inj denotes)
    exact ⟨_, rfl, reference room⟩
  | selectProperty qualifier p asName =>
    obtain ⟨rfl, rfl⟩ := Prod.mk.inj (Option.some.inj denotes)
    exact ⟨_, rfl, reference (Nat.lt_of_succ_lt room)⟩
  | selectDerived qualifier parent =>
    obtain ⟨rfl, rfl⟩ := Prod.mk.inj (Option.some.inj denotes)
    obtain ⟨node, is, binds, maps⟩ := records_selectDerived bounded (Nat.lt_of_succ_lt room) qualifier parent
    exact ⟨node, is, binds, fun columns given => maps.trans given⟩
  | newId | bind | map | computed | function | select => cases denotes

end

section

variable {b : Builder}

theorem after_append (before rest : List Step) : b.after (before ++ rest) = (b.after before).after rest := by
  induction before generalizing b with
  | nil => rfl
  | cons step before ih => exact ih

theorem idsOf_append (before rest : List Step) :
    b.idsOf (before ++ rest) = b.idsOf before ++ (b.after before).idsOf rest := by
  induction before generalizing b with
  | nil => rfl
  | cons step before ih => rw [List.cons_append, idsOf, ih, idsOf, List.append_assoc, after]

/-- Each step names only ids that are handed out before it, these ones or by an earlier step. -/
def Knows (handed : List NodeId) (b : Builder) : List Step → Prop
  | [] => True
  | step :: steps => (∀ id ∈ step.named, id ∈ handed) ∧ Knows (handed ++ step.ids b) (step.run b).2 steps

instance decidableKnows (handed : List NodeId) (b : Builder) : (steps : List Step) → Decidable (Knows handed b steps)
  | [] => inferInstanceAs (Decidable True)
  | step :: steps =>
    have := decidableKnows (handed ++ step.ids b) (step.run b).2 steps
    inferInstanceAs (Decidable (_ ∧ _))

theorem knows_append {handed : List NodeId} {before rest : List Step} :
    Knows handed b (before ++ rest) ↔
      Knows handed b before ∧ Knows (handed ++ b.idsOf before) (b.after before) rest := by
  induction before generalizing b handed with
  | nil => simp [Knows, idsOf, after]
  | cons step before ih => simp only [List.cons_append, Knows, ih, idsOf, after, List.append_assoc, and_assoc]

/-- A builder that has grown goes on growing: an id that was handed out is at most the last one. -/
theorem Grows.onward {start : Builder} {handed : List NodeId} {steps : List Step}
    (grows : Grows start handed b) (knows : Knows handed b steps)
    (room : start.last.toNat + handed.length + (b.idsOf steps).length < 4294967296) :
    Grows b (b.idsOf steps) (b.after steps) := by
  induction steps generalizing b handed with
  | nil => exact .refl
  | cons step steps ih =>
    have known : ∀ id ∈ step.named, id.index ≤ b.last := by
      intro id mem
      obtain ⟨consecutive, reached⟩ := grows.numbered (by omega)
      have index : id.index.toNat ∈ handed.map (·.index.toNat) :=
        List.mem_map_of_mem (knows.1 id mem)
      rw [consecutive, List.mem_range'_1] at index
      exact UInt32.le_iff_toNat_le.mpr (by omega)
    have stepGrows := step.grows b known
    rw [idsOf, List.length_append] at room
    exact stepGrows.trans (ih (grows.trans stepGrows) knows.2 (by rw [List.length_append]; omega))

theorem bounded_empty : empty.Bounded := fun _ _ => ⟨rfl, rfl⟩

end

section

variable {steps : List Step} (knows : Knows [] empty steps) (room : (empty.idsOf steps).length < 4294967296)

include knows room

theorem grows_run {before rest : List Step} (split : steps = before ++ rest) :
    Grows empty (empty.idsOf before) (empty.after before) ∧
      Grows (empty.after before) ((empty.after before).idsOf rest) (empty.after steps) := by
  subst split
  have start : empty.last.toNat = 0 := rfl
  rw [idsOf_append, List.length_append] at room
  obtain ⟨knowsBefore, knowsRest⟩ := knows_append.mp knows
  have first := Grows.refl.onward knowsBefore (by simp only [List.length_nil]; omega)
  rw [after_append]
  exact ⟨first, first.onward knowsRest (by omega)⟩

theorem increasing_idsOf : (empty.idsOf steps).Pairwise fun first second => first.index < second.index := by
  have start : empty.last.toNat = 0 := rfl
  have grows := (grows_run knows room (List.append_nil steps).symm).1
  have numbers : ((empty.idsOf steps).map (·.index.toNat)).Pairwise (· < ·) := by
    rw [(grows.numbered (by omega)).1]
    exact List.pairwise_lt_range'
  exact (List.pairwise_map.mp numbers).imp UInt32.lt_iff_toNat_lt.mpr

theorem nodup_idsOf : (empty.idsOf steps).Nodup := by
  refine (increasing_idsOf knows room).imp fun lt same => ?_
  subst same
  exact UInt32.lt_irrefl _ lt

end

/-- Ids that a run hands out are different and strictly increase. What is recorded for an id is not
changed or removed by later steps, and at the end of the run each node still has the meaning that its
own step found for it. -/
theorem run_keeps_identity (steps : List Step) (knows : Knows [] empty steps)
    (room : (empty.idsOf steps).length < 4294967296) :
    (empty.idsOf steps).Nodup ∧ (empty.idsOf steps).Pairwise (fun first second => first.index < second.index) ∧
    (∀ before rest, steps = before ++ rest → ∀ id,
      (∀ binding, (empty.after before).bindings.binding? id = some binding →
        (empty.after steps).bindings.binding? id = some binding) ∧
      ∀ mapping, (empty.after before).bindings.mapping? id = some mapping →
        (empty.after steps).bindings.mapping? id = some mapping) ∧
    ∀ before step rest, steps = before ++ step :: rest → ∀ binding mapping,
      step.denotes (empty.after before) = some (binding, mapping) →
      ∃ node, (step.run (empty.after before)).1.node? = some node ∧
        (empty.after steps).bindings.binding? node = some binding ∧
        ∀ columns ∈ mapping, (empty.after steps).bindings.mapping? node = some columns := by
  refine ⟨nodup_idsOf knows room, increasing_idsOf knows room,
    fun before rest split => (grows_run knows room split).2.keeps, ?_⟩
  intro before step rest split binding mapping denotes
  have start : empty.last.toNat = 0 := rfl
  obtain ⟨first, -⟩ := grows_run knows room split
  obtain ⟨-, later⟩ := @grows_run _ knows room (before ++ [step]) rest (by rw [split]; simp)
  rw [split, idsOf_append, List.length_append, idsOf, List.length_append] at room
  have reached := (first.numbered (by omega)).2
  obtain ⟨node, is, binds, maps⟩ :=
    step.records (first.bounded (by omega) bounded_empty) (by omega) denotes
  have kept := later.keeps node
  rw [after_append] at kept
  exact ⟨node, is, kept.1 binding binds, fun columns given => kept.2 columns (maps columns given)⟩

namespace PriceList

def price : Property := ⟨"Price", [⟨"_Fld7", "numeric", .default, 0, 10, 2, false⟩]⟩

def goods : Entity := ⟨"Goods", "_Reference12", 12, [price]⟩

def inner : Projected := ⟨⟨3⟩, .column ⟨⟨2⟩, "g.Price"⟩, none⟩

def query : Query := .select (.plain ⟨4⟩ [inner] (some (.table ⟨⟨1⟩, "Goods", some "g"⟩)))

/-- The price is read from a derived table. In between the steps try to record other meanings. -/
def steps : List Step :=
  [.entityTable goods (some "g"), .selectProperty (some "g") price none, .bind ⟨1⟩ .commonTable,
    .map ⟨2⟩ [], .select [inner] (some (.table ⟨⟨1⟩, "Goods", some "g"⟩)), .derived query "d",
    .selectDerived "d" inner, .map ⟨7⟩ []]

end PriceList

/-- The attempts to record other meanings come to nothing. -/
theorem run_keeps_identity_of_price :
    Knows [] empty PriceList.steps ∧
    empty.idsOf PriceList.steps = [⟨1⟩, ⟨2⟩, ⟨3⟩, ⟨4⟩, ⟨5⟩, ⟨6⟩, ⟨7⟩, ⟨8⟩] ∧
    (empty.after PriceList.steps).bindings.binding? ⟨1⟩ = some (.entity PriceList.goods) ∧
    (empty.after PriceList.steps).bindings.binding? ⟨7⟩ = some (.column ⟨3⟩) ∧
    (empty.after PriceList.steps).bindings.mapping? ⟨7⟩ =
      some [⟨"d.Price", some "Price", some .numeric, some "numeric(10,2)"⟩] := by
  have knows : Knows [] empty PriceList.steps := by decide +kernel
  have ids : empty.idsOf PriceList.steps = [⟨1⟩, ⟨2⟩, ⟨3⟩, ⟨4⟩, ⟨5⟩, ⟨6⟩, ⟨7⟩, ⟨8⟩] := by decide +kernel
  obtain ⟨-, -, -, denote⟩ := run_keeps_identity PriceList.steps knows (by rw [ids]; decide)
  obtain ⟨table, isTable, tableBinding, -⟩ := denote [] (.entityTable PriceList.goods (some "g")) _ rfl _ _ rfl
  obtain ⟨column, isColumn, columnBinding, columnMapping⟩ :=
    denote (PriceList.steps.take 6) (.selectDerived "d" PriceList.inner) _ rfl _ _ rfl
  have first : table = ⟨1⟩ := Option.some.inj (isTable.symm.trans (by decide +kernel))
  have seventh : column = ⟨7⟩ := Option.some.inj (isColumn.symm.trans (by decide +kernel))
  subst first seventh
  refine ⟨knows, ids, tableBinding, columnBinding, ?_⟩
  rw [columnMapping _ rfl]
  decide +kernel

end SqlEmit.Builder
