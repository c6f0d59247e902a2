import SqlEmit.Emit.Query
import SqlEmit.Proofs.Dotted
import SqlEmit.Proofs.Success
import SqlEmit.RowMapper

/-! What the parts of a written query come from, and the names of its columns. The names depend on
the recorded mappings alone: an alias that is left out repeats the name of its column. -/
namespace SqlEmit

@[simp] theorem Sql.text_append (a b : Sql) : (a ++ b).text = a.text ++ b.text := by
  simp [Sql.text]

@[simp] theorem Sql.text_code (text : String) : (Sql.code text).text = text := by
  simp [Sql.text, Piece.text]

@[simp] theorem Sql.text_empty : Sql.empty.text = "" := rfl

theorem Sql.append_assoc (a b c : Sql) : a ++ b ++ c = a ++ (b ++ c) :=
  congrArg Sql.mk (List.append_assoc a.pieces b.pieces c.pieces)

/-- A context in which nothing is recorded. -/
def Context.bare (dialect : Dialect) : Context :=
  .ofStatements dialect Bindings.empty Catalog.empty Registry.standard 0 (fun _ => default) []

@[simp] theorem emitOption_none_ok {cx : Context} {written : Option Sql} :
    (emitOption cx none).result = .ok written ↔ written = none := by
  simp [emitOption, eq_comm]

theorem emitOption_some_ok {cx : Context} {e : Expr} {written : Option Sql} :
    (emitOption cx (some e)).result = .ok written ↔
      ∃ sql, (e.emit cx).result = .ok sql ∧ written = some sql := by
  simp only [emitOption, Emit.bind_ok, Emit.pure_ok]
  constructor
  · rintro ⟨sql, emitted, rfl⟩
    exact ⟨sql, emitted, rfl⟩
  · rintro ⟨sql, emitted, rfl⟩
    exact ⟨sql, emitted, rfl⟩

theorem emitProjection_eq_map (cx : Context) (columns : List Projected) :
    emitProjection cx columns = columns.map fun column => column.items cx := by
  induction columns with
  | nil => rw [emitProjection, List.map_nil]
  | cons column columns ih => rw [emitProjection, ih, List.map_cons]

/-- The keys of one item of an ORDER BY. -/
def SortItem.emit (cx : Context) (item : SortItem) : Emit (List KeySql) :=
  match cx.referenceMapping? item.expr with
  | some mapping => pure (mapping.map fun column => ⟨column.name, item.descending⟩)
  | none => do return [⟨← item.expr.emit cx, item.descending⟩]

theorem emitKeys_eq_map (cx : Context) (items : List SortItem) :
    emitKeys cx items = items.map fun item => item.emit cx := by
  induction items with
  | nil => rw [emitKeys, List.map_nil]
  | cons item items ih =>
    obtain ⟨expr, descending⟩ := item
    rw [emitKeys, ih, List.map_cons]
    rfl

theorem PhysicalColumn.outputName_eq (column : PhysicalColumn) :
    column.outputName = (givenName column.asName).getD column.columnName := by
  unfold outputName givenName
  cases column.asName with
  | none => rfl
  | some name => by_cases empty : name.isEmpty <;> simp [empty]

/-- The alias that an entry leaves out is the name that the column has without it. -/
@[simp] theorem Item.name_ofPhysical (dialect : Dialect) (column : PhysicalColumn) :
    (Item.ofPhysical dialect column).name = column.outputName := by
  rw [PhysicalColumn.outputName_eq]
  unfold Item.ofPhysical
  split
  · rfl
  · cases givenName column.asName with
    | none => rfl
    | some name =>
      by_cases repeated : name = column.columnName
      · simp [Option.filter_some, repeated, Item.name, PhysicalColumn.columnName]
      · simp [Option.filter_some, repeated, Item.name]

/-- The names under which a projected column leaves a select list. -/
def Context.outputNames (cx : Context) (column : Projected) : List String :=
  match cx.referenceMapping? column.expr with
  | some mapping => mapping.map PhysicalColumn.outputName
  | none => [column.asName.getD ""]

theorem Projected.names_of_items {cx : Context} {column : Projected} {items : List Item}
    (emitted : (column.items cx).result = .ok items) : items.map Item.name = cx.outputNames column := by
  obtain ⟨id, expr, asName⟩ := column
  unfold Projected.items at emitted
  unfold Context.outputNames
  cases mapped : cx.referenceMapping? expr with
  | some mapping =>
    simp only [mapped, Emit.pure_ok] at emitted
    subst items
    simp [Context.items]
  | none =>
    simp only [mapped, Emit.bind_ok, Emit.pure_ok] at emitted
    obtain ⟨sql, -, rfl⟩ := emitted
    simp [Item.name]

theorem names_of_projection {cx : Context} {columns : List Projected} {lines : List (List Item)}
    (emitted : (Emit.all (emitProjection cx columns)).result = .ok lines) :
    lines.flatten.map Item.name = columns.flatMap cx.outputNames := by
  rw [emitProjection_eq_map, Emit.all_ok, List.forall₂_map_left_iff] at emitted
  induction emitted with
  | nil => rfl
  | cons head _ ih =>
    rw [List.flatten_cons, List.map_append, List.flatMap_cons, ih, Projected.names_of_items head]

/-- A reference with recorded columns, or a column with an alias, which may be empty. -/
structure Context.Readable (cx : Context) (column : Projected) : Prop where
  recorded : ∀ mapping ∈ cx.referenceMapping? column.expr, mapping ≠ []
  named : cx.referenceMapping? column.expr = none → column.asName.isSome

theorem Context.referenceColumns?_eq {cx : Context} (settled : cx.settled = cx) (e : Expr) :
    cx.bindings.referenceColumns? e = (cx.referenceMapping? e).filter (!·.isEmpty) := by
  cases e with
  | column ref =>
    have recorded : cx.mapping? ref.id = cx.bindings.mapping? ref.id := by
      rw [← settled]
      simp [mapping?, Context.settled]
    simp [Bindings.referenceColumns?, referenceMapping?, recorded]
  | _ => rfl

/-- The mapper reads a column under the names that the select list gives it. -/
theorem PropertyMapper.names_ofProjected {cx : Context} (settled : cx.settled = cx) {column : Projected}
    (readable : cx.Readable column) (place : Nat) :
    (ofProjected cx.bindings column place).columns.map (·.name) = cx.outputNames column := by
  have recorded := Context.referenceColumns?_eq settled column.expr
  unfold ofProjected Context.outputNames
  cases mapped : cx.referenceMapping? column.expr with
  | some mapping =>
    have present : mapping.isEmpty = false := by simpa using readable.recorded mapping mapped
    simp only [mapped, Option.filter_some, present] at recorded
    simp [recorded, PhysicalColumn.output]
  | none =>
    obtain ⟨name, given⟩ := Option.isSome_iff_exists.mp (readable.named mapped)
    simp only [mapped, Option.filter_none] at recorded
    simp [recorded, propertyName, Projected.name, given, PhysicalColumn.named]

theorem PropertyMapper.names_ofProjection {cx : Context} (settled : cx.settled = cx)
    {columns : List Projected} (readable : ∀ column ∈ columns, cx.Readable column) :
    ((ofProjection cx.bindings columns).flatMap (·.columns)).map (·.name) =
      columns.flatMap cx.outputNames := by
  unfold ofProjection
  generalize 1 = place
  induction columns generalizing place with
  | nil => rfl
  | cons column columns ih =>
    have first := names_ofProjected settled (readable column (by simp)) place
    have rest := ih (fun other mem => readable other (List.mem_cons_of_mem column mem)) (place + 1)
    rw [ofProjectionFrom, List.flatMap_cons, List.map_append, first, rest, List.flatMap_cons]

/-- Each part of `written` is what the same part of the select is written as. -/
structure Select.Written (cx : Context) (s : Select) (written : SelectSql) : Prop where
  distinct : written.distinct = s.distinct
  top : (cx.dialect.pick (emitOption cx s.top) (pure none)).result = .ok written.top
  columns : (Emit.all (emitProjection cx s.columns)).result = .ok written.columns
  intoTable : (Emit.optional (s.intoTable.map fun table => (cx.tableName table : Emit String))).result =
    .ok written.intoTable
  source : (emitSource cx s.source).result = .ok written.source
  predicate : (emitOption cx s.predicate).result = .ok written.predicate
  grouping : (Emit.all (emitEach cx s.grouping)).result = .ok written.grouping
  having : (emitOption cx s.having).result = .ok written.having
  order : (emitOrder cx s.order).result = .ok written.order
  limit : (cx.dialect.pick (pure none) (emitOption cx s.top)).result = .ok written.limit
  lock : written.lock = none

theorem Select.written_of_emit {cx : Context} {s : Select} {written : SelectSql}
    (emitted : (s.emit cx).result = .ok written) : s.Written cx written := by
  obtain ⟨id, distinct, top, columns, intoTable, source, predicate, grouping, having, order⟩ := s
  simp only [Select.emit, Emit.bind_ok, Emit.pure_ok] at emitted
  obtain ⟨_, top, _, columns, _, intoTable, _, source, _, predicate, _, grouping, _, having, _, order,
    _, limit, rfl⟩ := emitted
  exact ⟨rfl, top, columns, intoTable, source, predicate, grouping, having, order, limit, rfl⟩

theorem Select.emit_of_written {cx : Context} {s : Select} {written : SelectSql}
    (w : s.Written cx written) : (s.emit cx).result = .ok written := by
  obtain ⟨id, distinct, top, columns, intoTable, source, predicate, grouping, having, order⟩ := s
  obtain ⟨distinct', top', columns', intoTable', source', predicate', grouping', having', order', limit',
    lock'⟩ := written
  obtain ⟨rfl, top, columns, intoTable, source, predicate, grouping, having, order, limit, rfl⟩ := w
  simp only [Select.emit, Emit.bind_ok, Emit.pure_ok]
  exact ⟨_, top, _, columns, _, intoTable, _, source, _, predicate, _, grouping, _, having, _, order, _,
    limit, rfl⟩

theorem Select.Written.names {cx : Context} {s : Select} {written : SelectSql}
    (w : s.Written cx written) : written.names = s.columns.flatMap cx.outputNames :=
  names_of_projection w.columns

/-- A clause with items is written with its offset, and behind an offset with its fetch count. -/
theorem SortClause.emit_ok {cx : Context} {order : SortClause} {written : Option SortSql}
    (items : order.items ≠ []) (emitted : (order.emit cx).result = .ok written) :
    ∃ sort, written = some sort ∧ (Emit.all (emitKeys cx order.items)).result = .ok sort.items ∧
      (emitOption cx order.offset).result = .ok sort.offset ∧
      (sort.offset ≠ none → (emitOption cx order.fetch).result = .ok sort.fetch) := by
  obtain ⟨list, offset, fetch⟩ := order
  have nonempty : list.isEmpty = false := by simpa using items
  simp only [SortClause.emit, nonempty, Bool.false_eq_true, if_false, Emit.bind_ok] at emitted
  obtain ⟨keys, keysOk, offsetSql, offsetOk, rest⟩ := emitted
  cases offsetSql with
  | none =>
    simp only [Option.isNone_none, if_true, Emit.bind_ok, Emit.pure_ok] at rest
    obtain ⟨_, rfl, rfl⟩ := rest
    exact ⟨_, rfl, keysOk, offsetOk, fun present => absurd rfl present⟩
  | some count =>
    simp only [Option.isNone_some, Bool.false_eq_true, if_false, Emit.bind_ok, Emit.pure_ok] at rest
    obtain ⟨_, fetchOk, rfl⟩ := rest
    exact ⟨_, rfl, keysOk, offsetOk, fun _ => fetchOk⟩

end SqlEmit
