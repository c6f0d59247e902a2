import SqlEmit.Proofs.BuilderRun
import SqlEmit.Proofs.Query

/-! Columns that are read through derived tables inside derived tables. Each level writes the columns
anew, under its own name and what the level inside calls them. What leaves a level is what entered it:
the same output names, tags and types in the same order. -/
namespace SqlEmit

namespace PhysicalColumn

/-- The column as a level of that name reads it and hands it on. -/
def within (table : String) (column : PhysicalColumn) : PhysicalColumn :=
  ⟨table ++ "." ++ column.outputName, some column.outputName, column.tag, column.typeName⟩

theorem outputName_within {column : PhysicalColumn} (named : column.outputName ≠ "") (table : String) :
    (column.within table).outputName = column.outputName := by
  rw [within, outputName]
  simp [named]

/-- A level reads no more of the columns than what leaves the level inside. -/
theorem map_within_of_output {columns others : List PhysicalColumn}
    (same : columns.map output = others.map output) (table : String) :
    columns.map (within table) = others.map (within table) := by
  have read : within table = (fun out => ⟨table ++ "." ++ out.name, some out.name, out.tag, out.typeName⟩) ∘
      output := rfl
  rw [read, ← List.map_map, ← List.map_map, same]

theorem output_within {column : PhysicalColumn} (named : column.outputName ≠ "") (table : String) :
    (column.within table).output = column.output := by
  rw [output, outputName_within named table]
  rfl

end PhysicalColumn

namespace Builder

open PhysicalColumn

/-- Output names that a table can be written in front of and taken off again. -/
def Readable (columns : List PhysicalColumn) : Prop :=
  ∀ column ∈ columns, column.outputName ≠ "" ∧ Text.Plain column.outputName

instance (columns : List PhysicalColumn) : Decidable (Readable columns) :=
  inferInstanceAs (Decidable (∀ column ∈ columns, _))

theorem Readable.of_output {columns others : List PhysicalColumn} (readable : Readable columns)
    (same : others.map output = columns.map output) : Readable others := by
  intro column mem
  have there : column.output ∈ columns.map output := same ▸ List.mem_map_of_mem mem
  obtain ⟨original, present, equal⟩ := List.mem_map.mp there
  have name : original.outputName = column.outputName := congrArg PhysicalColumn.name equal
  exact name ▸ readable original present

theorem Readable.map_output_within {columns : List PhysicalColumn} (readable : Readable columns)
    (table : String) : (columns.map (within table)).map output = columns.map output := by
  rw [List.map_map]
  exact List.map_congr_left fun column mem => output_within (readable column mem).1 table

/-- A projected reference with recorded columns that leave it as the original ones do. -/
def Carries (bindings : Bindings) (original : List PhysicalColumn) (column : Projected) : Prop :=
  ∃ ref mapping, column.expr = .column ref ∧ bindings.mapping? ref.id = some mapping ∧
    mapping.map output = original.map output

/-- The columns of the projected reference: the table is in front of each output name, and cutting it
off gives the output name back. -/
theorem derivedMapping_aliased {b : Builder} {parent : Projected} {ref : ColumnRef}
    {columns : List PhysicalColumn} (is : parent.expr = .column ref)
    (mapped : b.bindings.mapping? ref.id = some columns) (readable : Readable columns) {table : String}
    (given : table ≠ "") :
    (b.derivedMapping table parent).map (fun column => { column with asName := some column.columnName }) =
      columns.map (within table) := by
  have present : table.isEmpty = false := by simpa using given
  rw [derivedMapping, is]
  simp only [mapped, Option.getD_some, List.map_map]
  refine List.map_congr_left fun column mem => ?_
  have plain := Text.unqualified_of_plain (readable column mem).2
  simp [within, output, columnName, Text.qualify, present, plain]

section

variable {b : Builder} {column : Projected} {original : List PhysicalColumn} {table : String}

/-- One more level has the original columns under its own name. -/
theorem selectDerived_within (bounded : b.Bounded) (room : b.last.toNat + 2 < 4294967296)
    (carries : Carries b.bindings original column) (readable : Readable original) (given : table ≠ "") :
    ∃ ref, (b.selectDerived table column).1.expr = .column ref ∧
      (b.selectDerived table column).2.bindings.mapping? ref.id = some (original.map (within table)) := by
  obtain ⟨inner, mapping, is, mapped, same⟩ := carries
  obtain ⟨node, made, -, maps⟩ := records_selectDerived bounded room table column
  rw [derivedMapping_aliased is mapped (readable.of_output same) given,
    map_within_of_output same table] at maps
  obtain rfl := Option.some.inj made
  exact ⟨_, rfl, maps⟩

theorem selectDerived_carries (bounded : b.Bounded) (room : b.last.toNat + 2 < 4294967296)
    (carries : Carries b.bindings original column) (readable : Readable original) (given : table ≠ "") :
    Carries (b.selectDerived table column).2.bindings original (b.selectDerived table column).1 := by
  obtain ⟨ref, is, mapped⟩ := selectDerived_within bounded room carries readable given
  exact ⟨ref, _, is, mapped, readable.map_output_within table⟩

end

/-- The column as it is read through derived tables of these names, the innermost one first. -/
def nested (b : Builder) (column : Projected) : List String → Projected × Builder
  | [] => (column, b)
  | table :: tables => nested (b.selectDerived table column).2 (b.selectDerived table column).1 tables

section

variable {b : Builder} {column : Projected}

theorem nested_append (before rest : List String) :
    b.nested column (before ++ rest) = (b.nested column before).2.nested (b.nested column before).1 rest := by
  induction before generalizing b column with
  | nil => rfl
  | cons table before ih => exact ih

theorem grows_nested (tables : List String) :
    ∃ ids, ids.length = 3 * tables.length ∧ Grows b ids (b.nested column tables).2 := by
  induction tables generalizing b column with
  | nil => exact ⟨[], rfl, .refl⟩
  | cons table tables ih =>
    obtain ⟨ids, count, grows⟩ := @ih (b.selectDerived table column).2 (b.selectDerived table column).1
    have first := b.grows_selectDerived table column
    have three : (Step.ids b (.selectDerived table column)).length = 3 := rfl
    refine ⟨_, ?_, first.trans grows⟩
    rw [List.length_append, three, count, List.length_cons]
    omega

theorem bounded_nested {tables : List String} (bounded : b.Bounded)
    (room : b.last.toNat + 3 * tables.length < 4294967296) :
    (b.nested column tables).2.Bounded ∧
      (b.nested column tables).2.last.toNat = b.last.toNat + 3 * tables.length := by
  obtain ⟨ids, count, grows⟩ := @grows_nested b column tables
  rw [← count] at room ⊢
  exact ⟨grows.bounded room bounded, (grows.numbered room).2⟩

theorem nested_carries {original : List PhysicalColumn} {tables : List String} (bounded : b.Bounded)
    (room : b.last.toNat + 3 * tables.length < 4294967296) (carries : Carries b.bindings original column)
    (readable : Readable original) (given : ∀ table ∈ tables, table ≠ "") :
    Carries (b.nested column tables).2.bindings original (b.nested column tables).1 := by
  induction tables generalizing b column with
  | nil => exact carries
  | cons table tables ih =>
    rw [List.length_cons] at room
    have first := @bounded_nested b column [table] bounded (by simp; omega)
    have next := selectDerived_carries bounded (by omega) carries readable (given table (by simp))
    refine ih first.1 ?_ next fun other mem => given other (List.mem_cons_of_mem table mem)
    have reached : (b.selectDerived table column).2.last.toNat = b.last.toNat + 3 * 1 := first.2
    omega

theorem nested_keeps (before after : List String) {id : NodeId} {mapping : List PhysicalColumn}
    (recorded : (b.nested column before).2.bindings.mapping? id = some mapping) :
    (b.nested column (before ++ after)).2.bindings.mapping? id = some mapping := by
  obtain ⟨_, -, grows⟩ := @grows_nested (b.nested column before).2 (b.nested column before).1 after
  rw [nested_append]
  exact (grows.keeps id).2 mapping recorded

end

/-- In a context with those recorded columns a projected reference is listed under their output
names. -/
theorem names_of_mapping {cx : Context} {column : Projected} {ref : ColumnRef}
    {mapping : List PhysicalColumn} (is : column.expr = .column ref)
    (mapped : cx.bindings.mapping? ref.id = some mapping) (settled : cx.overrides = Dict.empty) :
    ∃ items, (column.items cx).result = .ok items ∧
      items.map Item.name = mapping.map PhysicalColumn.outputName := by
  obtain ⟨id, expr, asName⟩ := column
  obtain rfl : expr = .column ref := is
  have found : cx.referenceMapping? (.column ref) = some mapping := by
    simp [Context.referenceMapping?, Context.mapping?, settled, mapped]
  refine ⟨cx.items mapping, ?_, by simp [Context.items]⟩
  simp [Projected.items, found]

/-- A reference that is read through derived tables has at every level the columns of the original one:
as many, with the same output names, tags and types in the same order, each behind the name of the
level. They are what the select list of the level inside is named after, and later levels leave them as
they are. Ids that are still to come must not have columns recorded for them. -/
theorem derived_levels_keep_columns (b : Builder) (column : Projected) (ref : ColumnRef)
    (original : List PhysicalColumn) (tables : List String) (bounded : b.Bounded)
    (room : b.last.toNat + 3 * tables.length < 4294967296) (is : column.expr = .column ref)
    (mapped : b.bindings.mapping? ref.id = some original) (readable : Readable original)
    (given : ∀ table ∈ tables, table ≠ "") (before : List String) (table : String) (after : List String)
    (level : tables = before ++ table :: after) :
    let bindings := (b.nested column tables).2.bindings
    ∃ outer mapping, (b.nested column (before ++ [table])).1.expr = .column outer ∧
      bindings.mapping? outer.id = some mapping ∧
      mapping.length = original.length ∧
      mapping.map PhysicalColumn.outputName = original.map PhysicalColumn.outputName ∧
      mapping.map (·.tag) = original.map (·.tag) ∧ mapping.map (·.typeName) = original.map (·.typeName) ∧
      mapping.map (·.name) = original.map (fun physical => table ++ "." ++ physical.outputName) ∧
      ∀ cx : Context, cx.bindings = bindings → cx.overrides = Dict.empty →
        ∃ items, ((b.nested column before).1.items cx).result = .ok items ∧
          mapping.map (·.name) = items.map fun item => table ++ "." ++ item.name := by
  subst level
  simp only [List.length_append, List.length_cons] at room
  have inner := nested_carries bounded (by omega) ⟨ref, original, is, mapped, rfl⟩ readable
    fun other mem => given other (List.mem_append_left _ mem)
  obtain ⟨here, reached⟩ := @bounded_nested b column before bounded (by omega)
  obtain ⟨outer, last, made⟩ := selectDerived_within here (by omega) inner readable (given table (by simp))
  have single : b.nested column (before ++ [table]) =
      (b.nested column before).2.selectDerived table (b.nested column before).1 := nested_append ..
  rw [← single] at last made
  -- both levels are still recorded where the whole nesting ends
  have outerKept := nested_keeps (before ++ [table]) after made
  rw [List.append_assoc, List.singleton_append] at outerKept
  obtain ⟨innerRef, innerMapping, innerIs, innerMapped, same⟩ := inner
  have innerKept := nested_keeps before (table :: after) innerMapped
  refine ⟨outer, original.map (within table), last, outerKept, List.length_map _, ?_, ?_, ?_, ?_, ?_⟩
  · rw [List.map_map]
    exact List.map_congr_left fun physical mem => outputName_within (readable physical mem).1 table
  · simp [within]
  · simp [within]
  · simp [within]
  · intro cx recorded settled
    rw [← recorded] at innerKept
    obtain ⟨items, listed, names⟩ := names_of_mapping innerIs innerKept settled
    refine ⟨items, listed, ?_⟩
    have outputs : innerMapping.map PhysicalColumn.outputName = original.map PhysicalColumn.outputName := by
      have names := congrArg (List.map PhysicalColumn.name) same
      simpa [List.map_map, Function.comp_def, output] using names
    have inside : (items.map Item.name).map (table ++ "." ++ ·) =
        (original.map PhysicalColumn.outputName).map (table ++ "." ++ ·) := by rw [names, outputs]
    simpa [List.map_map, Function.comp_def, within] using inside.symm

namespace Owners

def owner : Property :=
  ⟨"Owner", [⟨"_OwnerRRef", "binary", .identity, 16, 0, 0, false⟩,
    ⟨"_OwnerTRef", "binary", .typeCode, 4, 0, 0, false⟩]⟩

def column : Projected := ⟨⟨2⟩, .column ⟨⟨1⟩, "s.Owner"⟩, some "Holder"⟩

def project : List Step := [.selectProperty (some "s") owner (some "Holder")]

/-- A builder that has handed out two ids. -/
def start : Builder := empty.after project

def original : List PhysicalColumn :=
  [⟨"s._OwnerTRef", some "Holder_TRef", some .typeCode, some "binary(4)"⟩,
    ⟨"s._OwnerRRef", some "Holder_RRef", some .entity, some "binary(16)"⟩]

theorem recorded : start.bindings.mapping? ⟨1⟩ = some original := by decide +kernel

theorem bounded : start.Bounded := by
  have knows : Knows [] empty project := ⟨nofun, trivial⟩
  have grows := Grows.refl.onward knows (by decide)
  exact grows.bounded (by decide) bounded_empty

/-- The same builder with columns recorded for an id that is still to come. -/
def claimed : Builder := empty.after (project ++ [.map ⟨3⟩ [.named "x._Code"]])

end Owners

/-- The two columns of an owner are read through three levels, of which the second has a dot in its
name. -/
theorem derived_levels_of_owners :
    Owners.start.Bounded ∧ Readable Owners.original ∧
    ∃ outer mapping, (Owners.start.nested Owners.column ["d", "dbo.e", "f"]).1.expr = .column outer ∧
      (Owners.start.nested Owners.column ["d", "dbo.e", "f"]).2.bindings.mapping? outer.id = some mapping ∧
      mapping.map (·.name) = ["f.Holder_TRef", "f.Holder_RRef"] ∧
      mapping.map PhysicalColumn.outputName = ["Holder_TRef", "Holder_RRef"] ∧
      mapping.map (·.tag) = [some .typeCode, some .entity] := by
  have readable : Readable Owners.original := by decide +kernel
  obtain ⟨outer, mapping, is, mapped, -, outputs, tags, -, names, -⟩ :=
    derived_levels_keep_columns Owners.start Owners.column ⟨⟨1⟩, "s.Owner"⟩ Owners.original
      ["d", "dbo.e", "f"] Owners.bounded (by decide) rfl Owners.recorded readable (by decide)
      ["d", "dbo.e"] "f" [] rfl
  refine ⟨Owners.bounded, readable, outer, mapping, is, mapped, names.trans ?_, outputs.trans ?_,
    tags.trans ?_⟩ <;> decide +kernel

/-- Columns that are recorded for an id before it is handed out are those that the level has: the owner
is then read as one column of another name. -/
theorem claimed_id_replaces_columns :
    Owners.claimed.bindings.mapping? ⟨1⟩ = some Owners.original ∧ Readable Owners.original ∧
    ∃ outer mapping, (Owners.claimed.nested Owners.column ["d"]).1.expr = .column outer ∧
      (Owners.claimed.nested Owners.column ["d"]).2.bindings.mapping? outer.id = some mapping ∧
      mapping.length ≠ Owners.original.length ∧
      mapping.map (·.name) ≠ Owners.original.map (fun physical => "d" ++ "." ++ physical.outputName) := by
  refine ⟨by decide +kernel, by decide +kernel, ⟨⟨4⟩, "d.Holder"⟩,
    [⟨"x._Code", some "_Code", none, none⟩], rfl, ?_, ?_, ?_⟩ <;> decide +kernel

end Builder

end SqlEmit
