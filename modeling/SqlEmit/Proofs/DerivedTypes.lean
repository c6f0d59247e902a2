import SqlEmit.Proofs.BuilderRun
import SqlEmit.Proofs.InferenceEnds

/-! Types of columns that are read through derived tables. A level copies the types that are recorded for the
column inside, and where they are not all recorded both columns take them from the same expression. So all
levels have the types of the original column. -/
namespace SqlEmit

def PhysicalColumn.recordedTypes (types : List (Option String)) : Option (List String) :=
  if types.isEmpty then none else types.mapM id

namespace Context

variable {cx : Context}

theorem recordedColumns_types (mapping : List PhysicalColumn) :
    (recordedColumns mapping).map (List.map (·.typeName)) =
      PhysicalColumn.recordedTypes (mapping.map (·.typeName)) := by
  let definition (column : PhysicalColumn) : Option ColumnDefinition :=
    column.typeName.map fun type => ⟨column.outputName, type⟩
  have each (columns : List PhysicalColumn) : (columns.mapM definition).map (List.map (·.typeName)) =
      (columns.map (·.typeName)).mapM id := by
    induction columns with
    | nil => rfl
    | cons column columns ih =>
      rw [List.map_cons, List.mapM_cons, List.mapM_cons, ← ih]
      simp only [definition]
      cases column.typeName with
      | none => rfl
      | some type => cases columns.mapM definition <;> rfl
  rw [recordedColumns, PhysicalColumn.recordedTypes, List.isEmpty_map]
  split
  · rfl
  · exact each mapping

/-- The columns that are recorded for an expression; there are none for one that is not a reference. -/
def recordedMapping (cx : Context) (e : Expr) : List PhysicalColumn :=
  (cx.referenceMapping? e).getD []

def Types (cx : Context) (column : Projected) (types : List String) : Prop :=
  ∃ definitions, cx.columnDefinitions column = .ok definitions ∧ definitions.map (·.typeName) = types

/-- Types come from the mapping of a column or from its expression. -/
theorem types_iff {column : Projected} {types : List String} :
    cx.Types column types ↔
      match PhysicalColumn.recordedTypes ((cx.recordedMapping column.expr).map (·.typeName)) with
      | some recorded => recorded = types
      | none => ∃ shapes, cx.Infers column.expr shapes ∧ shapes.map (·.typeName) = types := by
  have recorded : ((cx.referenceMapping? column.expr).bind recordedColumns).map (List.map (·.typeName)) =
      PhysicalColumn.recordedTypes ((cx.recordedMapping column.expr).map (·.typeName)) := by
    rw [recordedMapping]
    cases cx.referenceMapping? column.expr with
    | none => rfl
    | some mapping => exact recordedColumns_types mapping
  simp only [Types, columnDefinitions_eq_ok_iff, ← recorded]
  cases found : (cx.referenceMapping? column.expr).bind recordedColumns with
  | some definitions =>
    constructor
    · rintro ⟨_, ⟨is⟩ | ⟨unrecorded, _⟩, rfl⟩
      · rw [Option.some.inj (found.symm.trans is)]
        rfl
      · cases found.symm.trans unrecorded
    · rintro rfl
      exact ⟨definitions, .recorded found, rfl⟩
  | none =>
    constructor
    · rintro ⟨_, ⟨is⟩ | ⟨_, inferred⟩, rfl⟩
      · cases found.symm.trans is
      · exact ⟨_, inferred, by simp [Function.comp_def, Shape.definition]⟩
    · rintro ⟨shapes, inferred, rfl⟩
      exact ⟨_, .inferred found inferred, by simp [Function.comp_def, Shape.definition]⟩

theorem infers_computed_iff {ref : ColumnRef} {definition : Projected} {shapes : List Shape} {id : NodeId}
    (bound : cx.binding? ref.id = some (.column id)) (defined : cx.definition? id = some definition) :
    cx.Infers (.column ref) shapes ↔ cx.Infers definition.expr shapes := by
  constructor
  · intro inferred
    cases inferred with
    | computed bound' defined' inferred =>
      obtain rfl := Binding.column.inj (Option.some.inj (bound.symm.trans bound'))
      obtain rfl := Option.some.inj (defined.symm.trans defined')
      exact inferred
    | enumValue bound' | property bound' | primitive bound' => cases bound.symm.trans bound'
  · exact .computed bound defined

end Context

namespace Builder

open PhysicalColumn

/-- A column that is read through derived tables, one level after another. Between the levels the builder
makes other nodes and records what ids denote that it has handed out. The list holds the columns that levels
were made from. -/
inductive Derives (b : Builder) (column : Projected) :
    List NodeId → List Projected → Builder → Projected → Prop
  | start : Derives b column [] [] b column
  | aside {ids : List NodeId} {inner : List Projected} {next : Builder} {last : Projected}
    (derives : Derives b column ids inner next last) (step : Step)
    (known : ∀ id ∈ step.named, id.index ≤ next.last) :
    Derives b column (ids ++ step.ids next) inner (step.run next).2 last
  | level {ids : List NodeId} {inner : List Projected} {next : Builder} {last : Projected}
    (derives : Derives b column ids inner next last) (table : String) :
    Derives b column (ids ++ Step.ids next (.selectDerived table last)) (inner ++ [last])
      (next.selectDerived table last).2 (next.selectDerived table last).1

theorem Derives.grows {b next : Builder} {column last : Projected} {ids : List NodeId}
    {inner : List Projected} (derives : b.Derives column ids inner next last) : Grows b ids next := by
  induction derives with
  | start => exact .refl
  | aside _ step known ih => exact ih.trans (step.grows _ known)
  | level _ table ih => exact ih.trans (grows_selectDerived _ table _)

/-- All that the builder has recorded is recorded in the context. -/
def Kept (b : Builder) (cx : Context) : Prop :=
  ∀ id, (∀ binding, b.bindings.binding? id = some binding → cx.bindings.binding? id = some binding) ∧
    ∀ mapping, b.bindings.mapping? id = some mapping → cx.bindings.mapping? id = some mapping

theorem Kept.of_grows {b next : Builder} {cx : Context} {ids : List NodeId} (kept : next.Kept cx)
    (grows : Grows b ids next) : b.Kept cx := by
  intro id
  have later := grows.keeps id
  refine ⟨fun binding found => ?_, fun mapping found => ?_⟩
  · exact (kept id).1 binding (later.1 binding found)
  · exact (kept id).2 mapping (later.2 mapping found)

/-- A column at a level has the types of the original one for a context behind all levels. What the context
has recorded for its reference is what the builder has recorded so far. -/
structure Agrees (cx : Context) (column : Projected) (next : Builder) (last : Projected) : Prop where
  mapped : ∀ ref, last.expr = .column ref → cx.bindings.mapping? ref.id = next.bindings.mapping? ref.id
  inferred : ∀ shapes, cx.Infers last.expr shapes ↔ cx.Infers column.expr shapes
  recorded : recordedTypes ((cx.recordedMapping last.expr).map (·.typeName)) =
    recordedTypes ((cx.recordedMapping column.expr).map (·.typeName))

section

variable {cx : Context} {column last : Projected} {next : Builder}

/-- The types of a mapping are copied. A parent that is not a reference has one column without a type, and
that column records as little as none at all. -/
theorem derivedMapping_types (settled : cx.overrides = Dict.empty) (table : String)
    (mapped : ∀ ref, last.expr = .column ref →
      cx.bindings.mapping? ref.id = next.bindings.mapping? ref.id) :
    recordedTypes ((next.derivedMapping table last).map (·.typeName)) =
      recordedTypes ((cx.recordedMapping last.expr).map (·.typeName)) := by
  unfold derivedMapping Context.recordedMapping Context.referenceMapping?
  cases is : last.expr with
  | column ref => simp [Context.mapping?, settled, mapped ref is, Function.comp_def, output]
  | _ => rfl

theorem Agrees.aside (agrees : Agrees cx column next last) (step : Step)
    (known : ∀ id ∈ step.named, id.index ≤ next.last) (kept : (step.run next).2.Kept cx) :
    Agrees cx column (step.run next).2 last := by
  refine ⟨fun ref is => ?_, agrees.inferred, agrees.recorded⟩
  have before := agrees.mapped ref is
  cases later : (step.run next).2.bindings.mapping? ref.id with
  | some mapping => exact (kept ref.id).2 mapping later
  | none =>
    cases found : next.bindings.mapping? ref.id with
    | none => rw [before, found]
    | some mapping =>
      have there := ((step.grows next known).keeps ref.id).2 mapping found
      cases later.symm.trans there

theorem Agrees.level (agrees : Agrees cx column next last) (table : String) (bounded : next.Bounded)
    (room : next.last.toNat + 2 < 4294967296) (kept : (next.selectDerived table last).2.Kept cx)
    (settled : cx.overrides = Dict.empty) (indexed : cx.definition? last.id = some last) :
    Agrees cx column (next.selectDerived table last).2 (next.selectDerived table last).1 := by
  obtain ⟨node, made, binds, maps⟩ := records_selectDerived bounded room table last
  obtain rfl := Option.some.inj made
  have bound := (kept _).1 _ binds
  have mapped := (kept _).2 _ maps
  refine ⟨fun ref is => ?_, fun shapes => ?_, ?_⟩
  · obtain rfl := Expr.column.inj is
    rw [maps]
    exact mapped
  · exact (Context.infers_computed_iff bound indexed).trans (agrees.inferred shapes)
  · have copied : cx.recordedMapping (next.selectDerived table last).1.expr =
        (next.derivedMapping table last).map fun column => { column with asName := some column.columnName } := by
      change ((cx.overrides.find? _).or (cx.bindings.mapping? _)).getD [] = _
      rw [settled, mapped]
      rfl
    rw [← agrees.recorded, ← derivedMapping_types settled table agrees.mapped, copied, List.map_map]
    rfl

end

/-- The original column has its own types, and each level keeps them. -/
theorem Derives.agrees {b next : Builder} {column last : Projected} {ids : List NodeId}
    {inner : List Projected} (derives : b.Derives column ids inner next last) {cx : Context}
    (bounded : b.Bounded) (room : b.last.toNat + ids.length < 4294967296) (kept : next.Kept cx)
    (settled : cx.overrides = Dict.empty) (indexed : ∀ p ∈ inner, cx.definition? p.id = some p)
    (unmapped : ∀ ref, column.expr = .column ref → b.bindings.mapping? ref.id = none →
      cx.bindings.mapping? ref.id = none) : Agrees cx column next last := by
  induction derives with
  | start =>
    refine ⟨fun ref is => ?_, fun _ => Iff.rfl, rfl⟩
    cases found : b.bindings.mapping? ref.id with
    | none => exact unmapped ref is found
    | some mapping => exact (kept ref.id).2 mapping found
  | @aside ids _ next _ derives step known ih =>
    rw [List.length_append] at room
    have before := kept.of_grows (step.grows next known)
    exact (ih (by omega) before indexed).aside step known kept
  | @level ids inner next last derives table ih =>
    have three : (Step.ids next (.selectDerived table last)).length = 3 := rfl
    rw [List.length_append, three] at room
    have before := kept.of_grows (grows_selectDerived next table last)
    have reached := (derives.grows.numbered (by omega)).2
    have agrees := ih (by omega) before fun p mem => indexed p (List.mem_append_left _ mem)
    exact agrees.level table (derives.grows.bounded (by omega) bounded) (by omega) kept settled
      (indexed last (by simp))

/-- A column that is read through any number of derived tables has types exactly where the original column
has them, and they are the same ones in the same order. Ids that are still to come must not have columns
recorded for them, and no columns may be recorded for the reference of the original column once it is
read. -/
theorem derived_types_agree (b : Builder) (column : Projected) (ids : List NodeId) (inner : List Projected)
    (next : Builder) (last : Projected) (derives : b.Derives column ids inner next last)
    (bounded : b.Bounded) (room : b.last.toNat + ids.length < 4294967296) (cx : Context)
    (recorded : cx.bindings = next.bindings) (settled : cx.overrides = Dict.empty)
    (indexed : ∀ p ∈ inner, cx.definition? p.id = some p)
    (unmapped : ∀ ref, column.expr = .column ref → b.bindings.mapping? ref.id = none →
      next.bindings.mapping? ref.id = none) (types : List String) :
    cx.Types last types ↔ cx.Types column types := by
  have kept : next.Kept cx := by
    intro id
    rw [recorded]
    exact ⟨fun _ found => found, fun _ found => found⟩
  have agrees := derives.agrees bounded room kept settled indexed (recorded ▸ unmapped)
  rw [Context.types_iff, Context.types_iff, agrees.recorded]
  simp only [agrees.inferred]

namespace Stock

/-- One query reads the original column and the query around it the derived one. -/
def context (bindings : Bindings) (column last : Projected) : Context :=
  let inside : Select := .plain ⟨20⟩ [column] (some (.table ⟨⟨21⟩, "Stock", some "s"⟩))
  let outside : Select := .plain ⟨22⟩ [last] (some (.derived ⟨⟨23⟩, .select inside, "d"⟩))
  .ofStatements .sqlServer bindings Catalog.empty Registry.standard 0 (fun _ => default)
    [.select ⟨⟨24⟩, [], .select outside⟩]

/-- The owner is computed by a CASE from a variable that refers to an entity. -/
def owner : Projected :=
  ⟨⟨2⟩, .caseWhen [⟨.compare .is none (.variableRef ⟨⟨1⟩, "@owner"⟩) (.literal ⟨.null, "NULL"⟩),
    .variableRef ⟨⟨1⟩, "@owner"⟩⟩] none, some "Owner"⟩

def project : List Step := [.variableRef "@owner" .entity, .computed owner.expr "Owner"]

def start : Builder := empty.after project

theorem bounded : start.Bounded := by
  have knows : Knows [] empty project := ⟨nofun, nofun, trivial⟩
  have grows := Grows.refl.onward knows (by decide)
  exact grows.bounded (by decide) bounded_empty

def first : Projected × Builder := start.selectDerived "d" owner

/-- Another id is handed out and bound in between. -/
def between : Builder := first.2.nextId.2.bind ⟨6⟩ .commonTable

def second : Projected × Builder := between.selectDerived "e" first.1

theorem derives : ∃ ids, ids.length = 7 ∧ start.Derives owner ids [owner, first.1] second.2 second.1 := by
  have level := (Derives.start : start.Derives owner [] [] start owner).level "d"
  have another := (level.aside .newId nofun).aside (.bind ⟨6⟩ .commonTable) fun id mem => by
    obtain rfl : id = ⟨6⟩ := by simpa [Step.named] using mem
    exact UInt32.le_refl _
  exact ⟨_, rfl, another.level "e"⟩

def code : Property := ⟨"Code", [⟨"_Code", "nvarchar", .default, 9, 0, 0, false⟩]⟩

def coded : Projected := ⟨⟨2⟩, .column ⟨⟨1⟩, "s.Code"⟩, none⟩

/-- Columns are recorded for an id before it is handed out, then the code is read through a level. -/
def claimed : Projected × Builder :=
  (empty.after [.selectProperty (some "s") code none,
    .map ⟨4⟩ [⟨"d.Code", some "Code", none, some "int"⟩]]).selectDerived "d" coded

def numbered : Projected := ⟨⟨2⟩, .column ⟨⟨1⟩, "x"⟩, some "X"⟩

/-- A number without recorded columns, read through a level. -/
def unmapped : Projected × Builder :=
  (empty.after [.columnRef "x" (.primitive .integer) [],
    .computed numbered.expr "X"]).selectDerived "d" numbered

/-- Columns are recorded for it only then. -/
def late : Builder := unmapped.2.map ⟨1⟩ [⟨"s._X", none, none, some "nvarchar(10)"⟩]

end Stock

/-- The two columns of a computed owner are read through two levels. -/
theorem derived_types_of_owner :
    Stock.start.Bounded ∧
    (Stock.context Stock.second.2.bindings Stock.owner Stock.first.1).Types Stock.second.1
      ["binary(4)", "binary(16)"] := by
  obtain ⟨ids, count, derives⟩ := Stock.derives
  refine ⟨Stock.bounded, (derived_types_agree Stock.start Stock.owner ids _ _ _ derives Stock.bounded ?_ _ rfl rfl
    ?_ nofun _).mpr ?_⟩
  · rw [count]
    decide
  · intro p mem
    simp only [List.mem_cons, List.not_mem_nil, or_false] at mem
    rcases mem with rfl | rfl <;> rfl
  · exact Except.exists_ok (by decide +kernel)

/-- Columns that are recorded for an id before it is handed out have their own types, and columns that are
recorded for a reference after it was read have types that the derived column does not get. -/
theorem derived_types_differ :
    ((Stock.context Stock.claimed.2.bindings Stock.coded Stock.claimed.1).Types Stock.coded ["nvarchar(9)"] ∧
      (Stock.context Stock.claimed.2.bindings Stock.coded Stock.claimed.1).Types Stock.claimed.1 ["int"]) ∧
    (Stock.context Stock.late.bindings Stock.numbered Stock.unmapped.1).Types Stock.numbered ["nvarchar(10)"] ∧
      (Stock.context Stock.late.bindings Stock.numbered Stock.unmapped.1).Types Stock.unmapped.1 ["int"] := by
  refine ⟨⟨?_, ?_⟩, ?_, ?_⟩ <;> exact Except.exists_ok (by decide +kernel)

end Builder

end SqlEmit
