import SqlEmit.Proofs.Insert.Lists
import SqlEmit.Proofs.ResultRows

/-! What the values of an INSERT read. The values are chosen from the projection of the source as it
stands in the script, while a single SELECT is written without the columns that a sequence fills: each
name that a value reads is still there. -/
namespace SqlEmit

namespace InsertSource

def query? : InsertSource → Option Query
  | .table _ => none
  | .derived d => some d.query
  | .query q => some q

def writtenQuery? : InsertSource → Option Query
  | .table _ => none
  | .derived d => some d.query
  | .query q => some (withoutVectors q)

theorem projection_of_query {cx : Context} {source : InsertSource} {q : Query}
    (is : source.query? = some q) : source.projection cx = .ok q.firstSelect.columns := by
  cases source with
  | table t => simp [query?] at is
  | derived d =>
    obtain rfl := Option.some.inj is
    rfl
  | query q =>
    obtain rfl := Option.some.inj is
    rfl

/-- A table is written by its name, another source as its query under its name. -/
theorem emit_cases {cx : Context} {source : InsertSource} {sql : Sql}
    (ok : (source.emit cx).result = .ok sql) :
    (source.writtenQuery? = none ∧ ∃ name asName hint, sql = .ofPiece (.table name asName hint)) ∨
      ∃ q rows, source.writtenQuery? = some q ∧ (q.emit cx).result = .ok rows ∧
        sql = derivedSql (rows.sql cx.dialect) source.name := by
  cases source with
  | table t =>
    obtain ⟨name, -, rest⟩ := Except.bind_ok.mp ok
    obtain rfl := Except.ok.inj rest
    exact .inl ⟨rfl, _, _, _, rfl⟩
  | derived d =>
    obtain ⟨id, query, asName⟩ := d
    simp only [emit, Derived.emit, Emit.bind_ok, Emit.pure_ok] at ok
    obtain ⟨rows, emitted, rfl⟩ := ok
    exact .inr ⟨query, rows, rfl, emitted, rfl⟩
  | query query =>
    simp only [emit, Emit.bind_ok, Emit.pure_ok] at ok
    obtain ⟨rows, emitted, rfl⟩ := ok
    exact .inr ⟨withoutVectors query, rows, rfl, emitted, rfl⟩

theorem mem_withoutVectors {q : Query} {column : Projected} (mem : column ∈ q.firstSelect.columns)
    (plain : column.isVector = false) : column ∈ (withoutVectors q).firstSelect.columns := by
  cases q with
  | select s =>
    apply List.mem_filter.mpr
    exact ⟨mem, by simp [plain]⟩
  | union all left right order => exact mem

/-- Only columns that draw from a sequence are left out of the written query. -/
theorem writtenQuery_of_query {source : InsertSource} {q : Query} (is : source.query? = some q) :
    ∃ written, source.writtenQuery? = some written ∧ ∀ column ∈ q.firstSelect.columns,
      column.isVector = false → column ∈ written.firstSelect.columns := by
  cases source with
  | table t => simp [query?] at is
  | derived d =>
    obtain rfl := Option.some.inj is
    exact ⟨d.query, rfl, fun column mem _ => mem⟩
  | query query =>
    obtain rfl := Option.some.inj is
    exact ⟨withoutVectors query, rfl, fun column => mem_withoutVectors⟩

end InsertSource

/-- A column that is read under its own names is read under those of the select list. -/
theorem Projected.names_outputs {cx : Context} {column : Projected} (names : cx.Names column) :
    (column.outputs cx).map (·.name) = cx.outputNames column := by
  obtain ⟨nonempty, named⟩ := names
  unfold outputs Context.outputNames
  cases mapped : cx.referenceMapping? column.expr with
  | some mapping =>
    have present : mapping.isEmpty = false := by simpa using nonempty mapping mapped
    simp [Option.filter_some, present, PhysicalColumn.output]
  | none =>
    obtain ⟨name, given, _⟩ := named mapped
    rw [Option.mem_def] at given
    simp [Projected.name, given, PhysicalColumn.named]

namespace Insert

/-- Where a value comes from: a sequence, a literal, or a column of the rows that the source names. -/
inductive Resolves (cx : Context) (source : String) (projection : List Projected) (names : List String) :
    InsertValue → Prop where
  | drawn {column : Projected} {sequence : String} (mem : column ∈ projection)
    (draws : column.sequence? = .ok (some sequence)) : Resolves cx source projection names (.next sequence)
  | literal {column : Projected} {value : Literal} {targets : List PhysicalColumn} {place : Nat} {sql : Sql}
    (mem : column ∈ projection) (is : column.expr = .literal value)
    (chosen : Chosen cx source column targets place (.written sql)) :
    Resolves cx source projection names (.written sql)
  | read {name : String} (mem : name ∈ names) : Resolves cx source projection names (.copied source name)

section

variable {cx : Context} {source : String} {projection : List Projected} {names : List String}

/-- The names of a column that is not drawn stand in the rows. -/
def Shown (cx : Context) (projection : List Projected) (names : List String) : Prop :=
  ∀ column ∈ projection, column.isVector = false → ∀ output ∈ column.outputs cx, output.name ∈ names

theorem Chosen.resolves {column : Projected} {targets : List PhysicalColumn} {place : Nat}
    {value : InsertValue} (shown : Shown cx projection names) (mem : column ∈ projection)
    (chosen : Chosen cx source column targets place value) :
    Resolves cx source projection names value := by
  have whole := chosen
  cases chosen with
  | drawn draws => exact .drawn mem draws
  | literal is single written => exact .literal mem is whole
  | null is several => exact .literal mem is whole
  | entity is several read stands part => exact .literal mem is whole
  | placed plain computed same stands =>
    exact .read (shown _ mem (Projected.isVector_of_sequence? plain) _ (List.mem_of_getElem? stands))
  | tagged plain computed differs stands found =>
    exact .read (shown _ mem (Projected.isVector_of_sequence? plain) _ (List.mem_of_find?_eq_some found))

theorem Parts.resolves {target : TableRef} {parts : List InsertLists} {part : InsertLists}
    {value : InsertValue} (shown : Shown cx projection names)
    (made : Parts cx target source projection parts) (mem : part ∈ parts) (stands : value ∈ part.values) :
    Resolves cx source projection names value := by
  cases made with
  | entity bound each =>
    obtain ⟨property, _, fills⟩ := forall₂_mem each.flip mem
    cases fills with
    | skipped none => simp [InsertLists.empty] at stands
    | filled supplier supplies =>
      obtain ⟨place, found⟩ := List.mem_iff_getElem?.mp stands
      exact (supplies.chosen place value found).resolves shown (mem_of_supplier? supplier)
  | table unbound each =>
    obtain ⟨column, member, passes⟩ := forall₂_mem each.flip mem
    cases passes with
    | drawn draws =>
      obtain rfl : value = .next _ := by simpa using stands
      exact .drawn member draws
    | copied plain =>
      simp only [List.map_map, List.mem_map, Function.comp_apply] at stands
      obtain ⟨output, there, rfl⟩ := stands
      exact .read (shown column member (Projected.isVector_of_sequence? plain) output there)

end

/-- Every value of an INSERT from a query or a derived table is a literal, the next value of a sequence,
or a column of the source under its name there and under the name that the written rows give it. -/
theorem values_resolve {cx : Context} {s : Insert} {q : Query} {sql : Sql}
    (is : s.source.query? = some q) (named : s.source.name ≠ "")
    (names : ∀ column ∈ q.firstSelect.columns, cx.Names column) (ok : (s.emit cx).result = .ok sql) :
    ∃ written query rows,
      s.Written cx q.firstSelect.columns written ∧ sql = written.sql cx.dialect ++ Sql.code ";" ∧
      s.source.writtenQuery? = some query ∧ (query.emit cx).result = .ok rows ∧
      written.source = (rows.sql cx.dialect).parens ++ Sql.code (" AS " ++ s.source.name) ∧
      ∀ value ∈ written.lists.values,
        Resolves cx s.source.name q.firstSelect.columns rows.firstSelect.names value := by
  obtain ⟨projection, written, made, rfl⟩ := written_of_emit ok
  obtain rfl : q.firstSelect.columns = projection :=
    Except.ok.inj ((InsertSource.projection_of_query is).symm.trans made.projects)
  obtain ⟨query, writes, kept⟩ := InsertSource.writtenQuery_of_query is
  rcases InsertSource.emit_cases made.source with ⟨none, -⟩ | ⟨query', rows, writes', rowsOk, source⟩
  · simp [writes] at none
  obtain rfl : query = query' := Option.some.inj (writes.symm.trans writes')
  have shown : Shown cx q.firstSelect.columns rows.firstSelect.names := by
    intro column member plain output there
    rw [(Query.firstSelect_written rowsOk).names, List.mem_flatMap]
    refine ⟨column, kept column member plain, ?_⟩
    rw [← Projected.names_outputs (names column member)]
    exact List.mem_map_of_mem there
  have source' : written.source =
      (rows.sql cx.dialect).parens ++ Sql.code (" AS " ++ s.source.name) := by
    simp [source, derivedSql, named]
  refine ⟨written, query, rows, made, rfl, writes, rowsOk, source', fun value mem => ?_⟩
  obtain ⟨parts, are, lists⟩ := parts_of_ok made.lists
  rw [lists] at mem
  obtain ⟨part, there, stands⟩ := List.mem_flatMap.mp mem
  exact are.resolves shown there stands

end Insert

namespace Documents

/-- Fills the draft again, from a derived table over a union in a union. -/
def copy : Insert :=
  ⟨⟨12⟩, [], ⟨⟨2⟩, "draft", none⟩,
    .derived ⟨⟨13⟩, .union true (.union false (rows nobody) (rows nobody) none) (rows nobody) none, "d"⟩⟩

end Documents

/-- A document is filled from rows without its number; a draft from a derived table that shows every
column of its first select. -/
theorem Insert.values_resolve_of_documents :
    (∃ written rows, (Documents.insert Documents.owner).Written Documents.context
        (Documents.columns Documents.owner) written ∧
      ((InsertSource.withoutVectors (Documents.rows Documents.owner)).emit Documents.context).result =
        .ok rows ∧
      rows.firstSelect.names = ["OWNER", "Parent", "Basis_TYPE", "Basis_TRef", "Basis_RRef"] ∧
      ∀ value ∈ written.lists.values, Resolves Documents.context "source"
        (Documents.columns Documents.owner) rows.firstSelect.names value) ∧
    ∃ (written : InsertSql) (rows : QuerySql),
      Documents.copy.Written Documents.context (Documents.columns Documents.nobody) written ∧
      written.source = (rows.sql .sqlServer).parens ++ Sql.code " AS d" ∧
      ∀ value ∈ written.lists.values, Resolves Documents.context "d"
        (Documents.columns Documents.nobody) rows.firstSelect.names value := by
  constructor
  · obtain ⟨sql, ok, -⟩ : ∃ sql, ((Documents.insert Documents.owner).emit Documents.context).result = .ok sql ∧
        True :=
      Except.exists_ok (by decide +kernel)
    obtain ⟨shown, rowsOk, list⟩ : ∃ rows,
        ((InsertSource.withoutVectors (Documents.rows Documents.owner)).emit Documents.context).result =
          .ok rows ∧
        rows.firstSelect.names = ["OWNER", "Parent", "Basis_TYPE", "Basis_TRef", "Basis_RRef"] :=
      Except.exists_ok (by decide +kernel)
    have is : (Documents.insert Documents.owner).source.query? = some (Documents.rows Documents.owner) := rfl
    obtain ⟨written, query, rows, made, _, writes, emitted, _, resolve⟩ :=
      values_resolve is (by decide) (by decide +kernel) ok
    obtain rfl : InsertSource.withoutVectors (Documents.rows Documents.owner) = query :=
      Option.some.inj writes
    obtain rfl : shown = rows := Except.ok.inj (rowsOk.symm.trans emitted)
    exact ⟨written, shown, made, emitted, list, resolve⟩
  · obtain ⟨sql, ok, -⟩ : ∃ sql, (Documents.copy.emit Documents.context).result = .ok sql ∧ True :=
      Except.exists_ok (by decide +kernel)
    have is : Documents.copy.source.query? = some (.union true
      (.union false (Documents.rows Documents.nobody) (Documents.rows Documents.nobody) none)
      (Documents.rows Documents.nobody) none) := rfl
    obtain ⟨written, query, rows, made, _, _, _, source, resolve⟩ :=
      values_resolve is (by decide) (by decide +kernel) ok
    exact ⟨written, rows, made, source, resolve⟩

end SqlEmit
