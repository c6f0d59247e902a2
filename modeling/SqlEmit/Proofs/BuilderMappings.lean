import SqlEmit.Proofs.BuilderRun
import SqlEmit.Proofs.Query

/-! The mappings that a builder records. Every step but one leaves out a mapping without columns: a
column that is read from a derived table has one recorded whatever its parent is, and where the parent
has no columns the column is written as nothing at all. -/
namespace SqlEmit

namespace Builder

/-- A mapping for an id, unless it has no columns. -/
def noted (id : NodeId) (mapping : List PhysicalColumn) : List (NodeId × List PhysicalColumn) :=
  if mapping.isEmpty then [] else [(id, mapping)]

def innerColumns (b : Builder) (qualifier : String) (parent : Projected) : List PhysicalColumn :=
  (b.bindings.mapping? b.nextId.1).getD (b.derivedMapping qualifier parent)

def secondId (b : Builder) : NodeId := b.nextId.2.nextId.1

/-- The mappings that a step records, each unless there is one for the id. -/
def Step.mappings (b : Builder) : Step → List (NodeId × List PhysicalColumn)
  | .map id mapping => [(id, mapping)]
  | .columnRef _ _ mapping => noted b.nextId.1 mapping
  | .property qualifier p => noted b.nextId.1 (p.orderedColumns.map (physical qualifier))
  | .selectProperty qualifier p asName =>
    noted b.nextId.1 (p.orderedColumns.map fun column =>
      { physical qualifier column with asName := some (outputName p asName column) })
  | .derivedColumn qualifier parent => noted b.nextId.1 (b.derivedMapping qualifier parent)
  | .selectDerived qualifier parent =>
    noted b.nextId.1 (b.derivedMapping qualifier parent) ++
      [(b.secondId, (b.innerColumns qualifier parent).map fun column =>
        { column with asName := some column.columnName })]
  | _ => []

theorem secondId_ne (b : Builder) : b.nextId.1 ≠ b.secondId := by
  intro same
  have index : b.last + 1 = b.last + 1 + 1 := congrArg NodeId.index same
  simp at index

section

variable (b : Builder)

theorem mapping?_columnRef (identifier : String) (binding : Binding) (mapping : List PhysicalColumn)
    (id : NodeId) :
    (b.columnRef identifier binding mapping).2.bindings.mapping? id =
      (b.bindings.mapping? id).or (((noted b.nextId.1 mapping).find? (·.1 = id)).map (·.2)) := by
  by_cases empty : mapping.isEmpty = true
  · simp [columnRef, bound, noted, empty]
  · by_cases own : b.nextId.1 = id
    · subst own
      cases found : b.bindings.mapping? b.nextId.1 <;> simp [columnRef, bound, noted, empty, found]
    · simp [columnRef, bound, noted, empty, own]

theorem mapping?_map_or (node : NodeId) (mapping : List PhysicalColumn) (id : NodeId) :
    (b.map node mapping).bindings.mapping? id =
      (b.bindings.mapping? id).or (([(node, mapping)].find? (·.1 = id)).map (·.2)) := by
  by_cases own : node = id
  · subst own
    cases found : b.bindings.mapping? node <;> simp [found]
  · simp [own]

theorem nextId_columnRef (identifier : String) (binding : Binding) (mapping : List PhysicalColumn) :
    (b.columnRef identifier binding mapping).2.nextId.1 = b.secondId := by
  by_cases empty : mapping.isEmpty = true <;> simp [columnRef, empty] <;> rfl

theorem mapping?_selectDerived (qualifier : String) (parent : Projected) (id : NodeId) :
    (b.selectDerived qualifier parent).2.bindings.mapping? id =
      (b.bindings.mapping? id).or
        (((Step.mappings b (.selectDerived qualifier parent)).find? (·.1 = id)).map (·.2)) := by
  let inner := b.derivedColumn qualifier parent
  have reference (other : NodeId) : inner.2.bindings.mapping? other = (b.bindings.mapping? other).or
      (((noted b.nextId.1 (b.derivedMapping qualifier parent)).find? (·.1 = other)).map (·.2)) :=
    b.mapping?_columnRef _ _ _ other
  have columns : (inner.2.bindings.mapping? b.nextId.1).getD [] = b.innerColumns qualifier parent := by
    rw [reference, innerColumns]
    by_cases empty : b.derivedMapping qualifier parent = []
    · simp [noted, empty]
    · cases b.bindings.mapping? b.nextId.1 <;> simp [noted, empty]
  have second : inner.2.nextId.1 = b.secondId := b.nextId_columnRef _ _ _
  -- the binding is copied in between, which is no mapping
  have last : (b.selectDerived qualifier parent).2.bindings.mapping? id =
      (inner.2.bindings.mapping? id).or (([(b.secondId, (b.innerColumns qualifier parent).map
        fun column => { column with asName := some column.columnName })].find? (·.1 = id)).map (·.2)) := by
    rw [← columns, ← second, ← mapping?_map_or]
    simp only [selectDerived]
    cases inner.2.nextId.2.bindings.binding? inner.1.id <;> rfl
  rw [last, reference, Option.or_assoc, Step.mappings, List.find?_append, Option.map_or]

/-- What is recorded for an id stays; else the step records what it has for it. -/
theorem Step.mapping?_run (step : Step) (id : NodeId) :
    (step.run b).2.bindings.mapping? id =
      (b.bindings.mapping? id).or (((step.mappings b).find? (·.1 = id)).map (·.2)) := by
  cases step with
  | map node mapping => exact b.mapping?_map_or node mapping id
  | columnRef identifier binding mapping => exact b.mapping?_columnRef identifier binding mapping id
  | property qualifier p | selectProperty qualifier p _ =>
    exact b.mapping?_columnRef (Text.qualify qualifier p.name) _ _ id
  | derivedColumn qualifier parent =>
    exact b.mapping?_columnRef (Text.qualify (some qualifier) (parent.name.getD "")) _ _ id
  | selectDerived qualifier parent => exact b.mapping?_selectDerived qualifier parent id
  | newId | bind | table | entityTable | computed | function | variableRef | select | derived =>
    exact (Option.or_none ..).symm

end

/-- A column that is read from a derived table gets a mapping without columns. -/
def Loses (b : Builder) (qualifier : String) (parent : Projected) : Prop :=
  b.bindings.mapping? b.secondId = none ∧ b.innerColumns qualifier parent = []

/-- A reference for which no columns are recorded. -/
def Columnless (b : Builder) (parent : Projected) : Prop :=
  ∃ ref, parent.expr = .column ref ∧ (b.bindings.mapping? ref.id).getD [] = []

section

variable {b : Builder} {id : NodeId}

theorem mem_noted {own : NodeId} {mapping columns : List PhysicalColumn}
    (mem : (id, columns) ∈ noted own mapping) : columns ≠ [] := by
  unfold noted at mem
  split at mem
  · simp at mem
  case isFalse nonempty =>
    obtain ⟨-, rfl⟩ := Prod.mk.inj (List.mem_singleton.mp mem)
    simpa using nonempty

/-- A step that is not told otherwise records an empty mapping only for a column that is read from a
derived table. -/
theorem Step.mem_mappings {step : Step} (explicit : ∀ node mapping, step = .map node mapping → mapping ≠ [])
    (mem : (id, []) ∈ step.mappings b) :
    ∃ qualifier parent, step = .selectDerived qualifier parent ∧ id = b.secondId ∧
      b.innerColumns qualifier parent = [] := by
  cases step with
  | map node mapping =>
    obtain ⟨-, empty⟩ := Prod.mk.inj (List.mem_singleton.mp mem)
    exact absurd empty.symm (explicit node mapping rfl)
  | columnRef | property | selectProperty | derivedColumn => exact absurd rfl (mem_noted mem)
  | selectDerived qualifier parent =>
    rcases List.mem_append.mp mem with inner | own
    · exact absurd rfl (mem_noted inner)
    · obtain ⟨same, empty⟩ := Prod.mk.inj (List.mem_singleton.mp own)
      exact ⟨qualifier, parent, rfl, same, List.map_eq_nil_iff.mp empty.symm⟩
  | newId | bind | table | entityTable | computed | function | variableRef | select | derived =>
    simp [mappings] at mem

theorem find?_selectDerived (qualifier : String) (parent : Projected) :
    ((Step.mappings b (.selectDerived qualifier parent)).find? (·.1 = b.secondId)).map (·.2) =
      some ((b.innerColumns qualifier parent).map fun column =>
        { column with asName := some column.columnName }) := by
  have apart := b.secondId_ne
  by_cases empty : b.derivedMapping qualifier parent = [] <;> simp [Step.mappings, noted, empty, apart]

theorem Step.mapping?_run_eq_nil {step : Step}
    (explicit : ∀ node mapping, step = .map node mapping → mapping ≠ []) :
    (step.run b).2.bindings.mapping? id = some [] ↔ b.bindings.mapping? id = some [] ∨
      ∃ qualifier parent, step = .selectDerived qualifier parent ∧ id = b.secondId ∧
        b.Loses qualifier parent := by
  rw [step.mapping?_run, Option.or_eq_some_iff]
  refine or_congr_right ⟨?_, ?_⟩
  · rintro ⟨fresh, found⟩
    obtain ⟨⟨node, columns⟩, is, rfl⟩ := Option.map_eq_some_iff.mp found
    obtain rfl : node = id := by simpa using List.find?_some is
    obtain ⟨qualifier, parent, rfl, rfl, empty⟩ :=
      Step.mem_mappings explicit (List.mem_of_find?_eq_some is)
    exact ⟨qualifier, parent, rfl, rfl, fresh, empty⟩
  · rintro ⟨qualifier, parent, rfl, rfl, fresh, empty⟩
    exact ⟨fresh, by rw [find?_selectDerived, empty]; rfl⟩

/-- At the end of a run an id has an empty mapping exactly if a step of the run has recorded it. -/
theorem mapping?_after_eq_nil {steps : List Step}
    (explicit : ∀ node mapping, Step.map node mapping ∈ steps → mapping ≠ []) :
    (b.after steps).bindings.mapping? id = some [] ↔ b.bindings.mapping? id = some [] ∨
      ∃ before qualifier parent rest, steps = before ++ .selectDerived qualifier parent :: rest ∧
        id = (b.after before).secondId ∧ (b.after before).Loses qualifier parent := by
  induction steps generalizing b with
  | nil => simp [after]
  | cons step steps ih =>
    have first : ∀ node mapping, step = .map node mapping → mapping ≠ [] := by
      rintro node mapping rfl
      exact explicit node mapping List.mem_cons_self
    have later := fun node mapping mem => explicit node mapping (List.mem_cons_of_mem step mem)
    rw [after, ih later, Step.mapping?_run_eq_nil first, or_assoc]
    refine or_congr_right ⟨?_, ?_⟩
    · rintro (⟨qualifier, parent, rfl, own, loses⟩ | ⟨before, qualifier, parent, rest, rfl, own, loses⟩)
      · exact ⟨[], qualifier, parent, steps, rfl, own, loses⟩
      · exact ⟨step :: before, qualifier, parent, rest, rfl, own, loses⟩
    · rintro ⟨before, qualifier, parent, rest, split, own, loses⟩
      cases before with
      | nil =>
        obtain ⟨rfl, rfl⟩ := List.cons.inj split
        exact .inl ⟨qualifier, parent, rfl, own, loses⟩
      | cons other before =>
        obtain ⟨rfl, rfl⟩ := List.cons.inj split
        exact .inr ⟨before, qualifier, parent, rest, rfl, own, loses⟩

theorem derivedMapping_eq_nil (qualifier : String) (parent : Projected) :
    b.derivedMapping qualifier parent = [] ↔ b.Columnless parent := by
  unfold derivedMapping Columnless
  cases parent.expr <;> simp

/-- Where the next two ids are free it is the parent that has no columns. -/
theorem loses_iff (bounded : b.Bounded) (room : b.last.toNat + 2 < 4294967296) (qualifier : String)
    (parent : Projected) : b.Loses qualifier parent ↔ b.Columnless parent := by
  have first := (fresh_nextId bounded (by omega)).2
  have index := b.toNat_nextId (by omega)
  have next : b.nextId.2.Bounded := by
    have grows : Grows b [b.nextId.1] b.nextId.2 := .hand .refl
    exact grows.bounded (by simp; omega) bounded
  have second := (fresh_nextId next (by simp only [nextId]; omega)).2
  rw [Loses, innerColumns, first, Option.getD_none, derivedMapping_eq_nil]
  exact and_iff_right second

end

end Builder

/-- A column that is written as nothing. -/
def PhysicalColumn.Nameless (dialect : Dialect) (column : PhysicalColumn) : Prop :=
  column.name = "" ∧ column.outputName = "" ∧
    ¬ (dialect = .postgres ∧ Item.isCharacterType column.typeName = true)

theorem givenName_ne_empty {asName : Option String} {name : String} (given : givenName asName = some name) :
    name ≠ "" := by
  cases asName with
  | none => simp [givenName] at given
  | some written =>
    simp only [givenName, String.isEmpty_iff, Option.ite_none_left_eq_some, Option.some.injEq] at given
    exact given.2 ▸ given.1

theorem Item.text_ofPhysical_eq_empty {dialect : Dialect} {column : PhysicalColumn} :
    (ofPhysical dialect column).sql.text = "" ↔ column.Nameless dialect := by
  rw [PhysicalColumn.Nameless, PhysicalColumn.outputName_eq]
  unfold ofPhysical
  split
  case isTrue characters => simp [characters, Item.sql, Sql.cast]
  case isFalse verbatim =>
    by_cases empty : column.name = ""
    · have unqualified : column.columnName = "" := by
        rw [PhysicalColumn.columnName, empty]
        rfl
      cases named : givenName column.asName with
      | none => simp [Item.sql, empty, unqualified, verbatim, Item.aliasText, Sql.clause]
      | some name =>
        have present := givenName_ne_empty named
        simp [Item.sql, empty, unqualified, present, Option.filter_some, Item.aliasText, Sql.clause]
    · simp [Item.sql, empty]

theorem Sql.text_join_eq_empty {separator : String} (present : separator ≠ "") (parts : List Sql) :
    (Sql.join separator parts).text = "" ↔ parts = [] ∨ ∃ part, parts = [part] ∧ part.text = "" := by
  rcases parts with _ | ⟨first, _ | ⟨second, others⟩⟩
  · simp [Sql.join]
  · simp [Sql.join]
  · simp [Sql.join, present]

theorem Dialect.uuidLiteral_ne_empty (dialect : Dialect) (uuid : Uuid) : dialect.uuidLiteral uuid ≠ "" := by
  cases dialect <;> simp [uuidLiteral, bytesLiteral, pick]

/-- A reference in a projection is written as nothing if it has no columns, or a single one without
a name. -/
theorem Projected.text_eq_empty {cx : Context} {column : Projected} {ref : ColumnRef}
    (is : column.expr = .column ref) :
    (∃ items, (column.items cx).result = .ok items ∧ (Item.lineSql items).text = "") ↔
      ∃ mapping, cx.mapping? ref.id = some mapping ∧
        (mapping = [] ∨ ∃ physical, mapping = [physical] ∧ physical.Nameless cx.dialect) := by
  obtain ⟨id, expr, asName⟩ := column
  obtain rfl : expr = .column ref := is
  cases mapped : cx.mapping? ref.id with
  | some mapping =>
    have items : (Projected.items cx ⟨id, .column ref, asName⟩).result = .ok (cx.items mapping) := by
      simp [Projected.items, Context.referenceMapping?, mapped]
    simp only [items, Except.ok.injEq, exists_eq_left', Option.some.injEq]
    rw [Item.lineSql, Sql.text_join_eq_empty (by decide)]
    simp [Context.items, List.map_eq_singleton_iff, Item.text_ofPhysical_eq_empty]
  | none =>
    simp only [reduceCtorEq, false_and, exists_false, iff_false]
    rintro ⟨items, emitted, empty⟩
    simp only [Projected.items, Context.referenceMapping?, mapped, Emit.bind_ok, Emit.pure_ok] at emitted
    obtain ⟨sql, written, rfl⟩ := emitted
    simp only [Expr.emit, Emit.result_lift, Context.columnSql, mapped] at written
    split at written
    case h_1 identity bound =>
      obtain rfl := Except.ok.inj written
      simp [Item.lineSql, Sql.join, Item.sql, Dialect.uuidLiteral_ne_empty] at empty
    case h_2 => cases written

namespace Builder

theorem node?_selectDerived (b : Builder) (qualifier : String) (parent : Projected) :
    (Step.run b (.selectDerived qualifier parent)).1.node? = some b.secondId := by
  have second := b.nextId_columnRef (Text.qualify (some qualifier) (parent.name.getD ""))
    (.column parent.id) (b.derivedMapping qualifier parent)
  exact congrArg some second

section

variable {steps : List Step} (knows : Knows [] empty steps) (room : (empty.idsOf steps).length < 4294967296)

include knows room

/-- An id is handed out by one step only. -/
theorem step_of_id {before rest before' rest' : List Step} {step step' : Step} {id : NodeId}
    (split : steps = before ++ step :: rest) (split' : steps = before' ++ step' :: rest')
    (mem : id ∈ step.ids (empty.after before)) (mem' : id ∈ step'.ids (empty.after before')) :
    before = before' ∧ step = step' := by
  have nodup := nodup_idsOf knows room
  have clash {first second later : List Step} {one other : Step}
      (whole : steps = first ++ one :: (second ++ other :: later)) (here : id ∈ one.ids (empty.after first)) :
      id ∉ other.ids (empty.after (first ++ one :: second)) := by
    rw [whole, idsOf_append, idsOf, idsOf_append, idsOf] at nodup
    have disjoint := (List.nodup_append.mp (List.nodup_append.mp nodup).2.1).2.2 id here
    intro there
    refine disjoint id ?_ rfl
    rw [after_append, after] at there
    exact List.mem_append_right _ (List.mem_append_left _ there)
  rcases List.append_eq_append_iff.mp (split.symm.trans split') with ⟨gap, rfl, same⟩ | ⟨gap, rfl, same⟩
  · cases gap with
    | nil =>
      obtain ⟨rfl, -⟩ := List.cons.inj same
      exact ⟨(List.append_nil before).symm, rfl⟩
    | cons first gap =>
      obtain ⟨rfl, rfl⟩ := List.cons.inj same
      exact absurd mem' (clash split mem)
  · cases gap with
    | nil =>
      obtain ⟨rfl, -⟩ := List.cons.inj same
      exact ⟨List.append_nil before', rfl⟩
    | cons first gap =>
      obtain ⟨rfl, rfl⟩ := List.cons.inj same
      exact absurd mem (clash split' mem')

/-- Where ids are used only after they are handed out, the next two ids are free. -/
theorem loses_iff_of_knows {before rest : List Step} {qualifier : String} {parent : Projected}
    (split : steps = before ++ .selectDerived qualifier parent :: rest) :
    (empty.after before).Loses qualifier parent ↔ (empty.after before).Columnless parent := by
  have grows := (grows_run knows room split).1
  subst split
  have start : empty.last.toNat = 0 := rfl
  have three : (Step.ids (empty.after before) (.selectDerived qualifier parent)).length = 3 := rfl
  rw [idsOf_append, List.length_append, idsOf, List.length_append, three] at room
  have reached := (grows.numbered (by omega)).2
  exact loses_iff (grows.bounded (by omega) bounded_empty) (by omega) qualifier parent

end

/-- A run that is never given an empty mapping records one exactly for the columns that it reads from
a derived table and finds nothing to be read for. Where ids are used only after they are handed out,
these are the columns whose parent is a reference without columns, and no other step records one. A
projected reference is written as nothing if it has such a mapping, or a single physical column
without a name. -/
theorem empty_mapping_iff (steps : List Step)
    (explicit : ∀ node mapping, Step.map node mapping ∈ steps → mapping ≠ []) :
    (∀ id, (empty.after steps).bindings.mapping? id = some [] ↔
      ∃ before qualifier parent rest, steps = before ++ .selectDerived qualifier parent :: rest ∧
        (Step.run (empty.after before) (.selectDerived qualifier parent)).1.node? = some id ∧
        (empty.after before).Loses qualifier parent) ∧
    (Knows [] empty steps → (empty.idsOf steps).length < 4294967296 →
      ∀ before step rest, steps = before ++ step :: rest →
        ∀ node ∈ (step.run (empty.after before)).1.node?, node ∈ step.ids (empty.after before) →
          ((empty.after steps).bindings.mapping? node = some [] ↔
            ∃ qualifier parent, step = .selectDerived qualifier parent ∧
              (empty.after before).Columnless parent)) ∧
    ∀ cx : Context, cx.bindings = (empty.after steps).bindings → cx.overrides = Dict.empty →
      ∀ (column : Projected) (ref : ColumnRef), column.expr = .column ref →
        ((∃ items, (column.items cx).result = .ok items ∧ (Item.lineSql items).text = "") ↔
          (empty.after steps).bindings.mapping? ref.id = some [] ∨
          ∃ physical, (empty.after steps).bindings.mapping? ref.id = some [physical] ∧
            physical.Nameless cx.dialect) := by
  have lost (id : NodeId) : (empty.after steps).bindings.mapping? id = some [] ↔
      ∃ before qualifier parent rest, steps = before ++ .selectDerived qualifier parent :: rest ∧
        (Step.run (empty.after before) (.selectDerived qualifier parent)).1.node? = some id ∧
        (empty.after before).Loses qualifier parent := by
    have nothing : empty.bindings.mapping? id ≠ some [] := by simp [empty, Bindings.mapping?, Bindings.empty]
    rw [mapping?_after_eq_nil explicit, or_iff_right nothing]
    simp only [node?_selectDerived, Option.some.injEq, eq_comm]
  refine ⟨lost, ?_, ?_⟩
  · intro knows room before step rest split node gives handed
    rw [lost]
    constructor
    · rintro ⟨before', qualifier, parent, rest', split', gives', loses⟩
      have handed' : node ∈ Step.ids (empty.after before') (.selectDerived qualifier parent) := by
        simp [Step.ids, gives']
      obtain ⟨rfl, rfl⟩ := step_of_id knows room split split' handed handed'
      exact ⟨qualifier, parent, rfl, (loses_iff_of_knows knows room split).mp loses⟩
    · rintro ⟨qualifier, parent, rfl, columnless⟩
      exact ⟨before, qualifier, parent, rest, split, gives, (loses_iff_of_knows knows room split).mpr columnless⟩
  · intro cx bindings overrides column ref is
    have recorded : cx.mapping? ref.id = (empty.after steps).bindings.mapping? ref.id := by
      simp [Context.mapping?, overrides, bindings]
    rw [Projected.text_eq_empty is, recorded]
    constructor
    · rintro ⟨mapping, found, rfl | ⟨physical, rfl, nameless⟩⟩
      · exact .inl found
      · exact .inr ⟨physical, found, nameless⟩
    · rintro (found | ⟨physical, found, nameless⟩)
      · exact ⟨[], found, .inl rfl⟩
      · exact ⟨[physical], found, .inr ⟨physical, rfl, nameless⟩⟩

namespace Memo

def memo : Property := ⟨"Memo", []⟩

/-- A memo and a price, each in a projection and then read from a derived table. -/
def steps : List Step :=
  [.selectProperty none memo none, .selectDerived "d" ⟨⟨2⟩, .column ⟨⟨1⟩, "Memo"⟩, none⟩,
    .selectProperty (some "g") PriceList.price none,
    .selectDerived "d" ⟨⟨7⟩, .column ⟨⟨6⟩, "g.Price"⟩, none⟩]

def context : Context :=
  .ofStatements .sqlServer (empty.after steps).bindings Catalog.empty Registry.standard 0
    (fun _ => default) []

def read : Projected := ⟨⟨5⟩, .column ⟨⟨4⟩, "d.Memo"⟩, none⟩

end Memo

/-- Of the two columns that are read from the derived table the one without columns is recorded with
an empty mapping and written as nothing. -/
theorem empty_mapping_of_memo :
    (∀ node mapping, Step.map node mapping ∈ Memo.steps → mapping ≠ []) ∧ Knows [] empty Memo.steps ∧
    (empty.after Memo.steps).bindings.mapping? ⟨4⟩ = some [] ∧
    (empty.after Memo.steps).bindings.mapping? ⟨9⟩ ≠ some [] ∧
    ∃ items, (Memo.read.items Memo.context).result = .ok items ∧ (Item.lineSql items).text = "" := by
  have explicit : ∀ node mapping, Step.map node mapping ∈ Memo.steps → mapping ≠ [] := by
    intro node mapping mem
    simp [Memo.steps] at mem
  have knows : Knows [] empty Memo.steps := by decide +kernel
  have room : (empty.idsOf Memo.steps).length < 4294967296 := by decide +kernel
  obtain ⟨-, handed, written⟩ := empty_mapping_iff Memo.steps explicit
  have memo := (handed knows room (Memo.steps.take 1) _ _ rfl ⟨4⟩ (by decide +kernel) (by decide +kernel)).mpr
    ⟨"d", _, rfl, _, rfl, by decide +kernel⟩
  have price : (empty.after Memo.steps).bindings.mapping? ⟨9⟩ ≠ some [] := by
    intro empty
    obtain ⟨qualifier, parent, is, ref, expr, none⟩ :=
      (handed knows room (Memo.steps.take 3) _ _ rfl ⟨9⟩ (by decide +kernel) (by decide +kernel)).mp empty
    obtain ⟨rfl, rfl⟩ := Step.selectDerived.inj is
    obtain rfl := Expr.column.inj expr
    exact absurd none (by decide +kernel)
  refine ⟨explicit, knows, memo, price, ?_⟩
  exact (written Memo.context rfl rfl Memo.read _ rfl).mpr (.inl memo)

end Builder

end SqlEmit
