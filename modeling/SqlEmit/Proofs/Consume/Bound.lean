import SqlEmit.Proofs.Consume.Shape

/-! How many rows a destructive read removes. A count reaches the stage that selects them on both
backends; a page of the order reaches it wherever the order does. -/
namespace SqlEmit.Consume

def rowsContext (cx : Context) (s : Consume) (table : TableRef) : Context :=
  cx.dialect.pick (hinted cx s table) cx

variable {cx : Context} {s : Consume} {table : TableRef} {tableName : String} {plan : Plan}
  {staged : StagedDelete}

@[simp] theorem rowsContext_dialect : (rowsContext cx s table).dialect = cx.dialect := by
  unfold rowsContext
  cases dialect : cx.dialect with
  | sqlServer => exact dialect
  | postgres => exact dialect

/-- Each shape replaces the columns of the selected rows, and leaves their number alone. -/
theorem Shape.rows_written (shape : Shape cx s table tableName plan staged) :
    ∃ columns written, (rows cx.dialect s columns).Written (rowsContext cx s table) written ∧
      staged.rows.top = written.top ∧ staged.rows.order = written.order ∧
      staged.rows.limit = written.limit := by
  have context : rowsContext cx s table = cx.dialect.pick (hinted cx s table) cx := rfl
  cases shape with
  | sqlServerDirect dialect _ _ _ selects | sqlServerSorted dialect _ _ _ _ _ _ selects
  | sqlServerJoined dialect _ _ _ _ _ selects | postgresDirect dialect _ _ _ selects
  | postgresJoined dialect _ _ _ selects =>
    rw [dialect] at context ⊢
    rw [context]
    exact ⟨_, _, Select.written_of_emit selects, rfl, rfl, rfl⟩

/-- The statement bounds its rows: by a count, or by a page of its order. -/
def Bounded (s : Consume) : Prop :=
  s.top ≠ none ∨ ∃ order ∈ s.order, order.items ≠ [] ∧ order.offset ≠ none ∧ order.fetch ≠ none

def RowsBounded (rows : SelectSql) : Prop :=
  rows.top ≠ none ∨ rows.limit ≠ none ∨ ∃ sort ∈ rows.order, sort.fetch ≠ none

/-- The order stays with the rows. -/
def KeepsOrder (dialect : Dialect) (s : Consume) : Prop :=
  dialect = .postgres ∨ s.top ≠ none

theorem order_of_keeps (keeps : KeepsOrder dialect s) (columns : List Projected) :
    (rows dialect s columns).order = s.order := by
  rcases keeps with rfl | counted
  · rfl
  · obtain ⟨top, given⟩ := Option.ne_none_iff_exists'.mp counted
    cases dialect with
    | sqlServer => simp [rows, Dialect.pick, given]
    | postgres => rfl

theorem order_of_drops (drops : ¬KeepsOrder dialect s) (columns : List Projected) :
    dialect = .sqlServer ∧ s.top = none ∧ (rows dialect s columns).order = none := by
  rw [KeepsOrder, not_or, not_not] at drops
  cases dialect with
  | sqlServer => exact ⟨rfl, drops.2, by simp [rows, Dialect.pick, drops.2]⟩
  | postgres => exact absurd rfl drops.1

section Written

variable {columns : List Projected} {written : SelectSql}

theorem count_written (w : (rows cx.dialect s columns).Written (rowsContext cx s table) written)
    {top : Expr} (counted : s.top = some top) :
    ∃ count, (top.emit (rowsContext cx s table)).result = .ok count ∧
      cx.dialect.pick written.top written.limit = some count := by
  have front := w.top
  have back := w.limit
  rw [rowsContext_dialect] at front back
  simp only [rows, counted] at front back
  cases dialect : cx.dialect with
  | sqlServer =>
    rw [dialect] at front
    obtain ⟨count, emitted, same⟩ := emitOption_some_ok.mp front
    exact ⟨count, emitted, same⟩
  | postgres =>
    rw [dialect] at back
    obtain ⟨count, emitted, same⟩ := emitOption_some_ok.mp back
    exact ⟨count, emitted, same⟩

theorem page_written (w : (rows cx.dialect s columns).Written (rowsContext cx s table) written)
    (keeps : KeepsOrder cx.dialect s) {order : SortClause} (sorted : s.order = some order)
    (items : order.items ≠ []) {offset fetch : Expr} (skips : order.offset = some offset)
    (fetches : order.fetch = some fetch) :
    ∃ first count, (offset.emit (rowsContext cx s table)).result = .ok first ∧
      (fetch.emit (rowsContext cx s table)).result = .ok count ∧
      ∃ sort ∈ written.order, sort.offset = some first ∧ sort.fetch = some count := by
  have emitted := w.order
  rw [order_of_keeps keeps, sorted, emitOrder] at emitted
  obtain ⟨sort, same, -, offsetOk, fetchOk⟩ := SortClause.emit_ok items emitted
  rw [skips] at offsetOk
  obtain ⟨first, firstOk, atOffset⟩ := emitOption_some_ok.mp offsetOk
  have fetchOk := fetchOk (by simp [atOffset])
  rw [fetches] at fetchOk
  obtain ⟨count, countOk, atFetch⟩ := emitOption_some_ok.mp fetchOk
  exact ⟨first, count, firstOk, countOk, sort, same, atOffset, atFetch⟩

/-- Without the order nothing is left that bounds the rows. -/
theorem unbounded_written (w : (rows cx.dialect s columns).Written (rowsContext cx s table) written)
    (drops : ¬KeepsOrder cx.dialect s) :
    written.top = none ∧ written.limit = none ∧ written.order = none := by
  obtain ⟨dialect, uncounted, unsorted⟩ := order_of_drops drops columns
  have front := w.top
  have back := w.limit
  have order := w.order
  rw [rowsContext_dialect, dialect] at front back
  rw [unsorted, emitOrder, Emit.pure_ok] at order
  simp only [rows, uncounted, Dialect.pick, emitOption_none_ok, Emit.pure_ok] at front back
  exact ⟨front, back.symm, order.symm⟩

theorem bounded_written (w : (rows cx.dialect s columns).Written (rowsContext cx s table) written)
    (keeps : KeepsOrder cx.dialect s) (bounded : s.Bounded) : RowsBounded written := by
  rcases bounded with counted | ⟨order, sorted, items, skips, fetches⟩
  · obtain ⟨top, given⟩ := Option.ne_none_iff_exists'.mp counted
    obtain ⟨count, -, same⟩ := count_written w given
    cases dialect : cx.dialect with
    | sqlServer =>
      rw [dialect] at same
      exact .inl (Option.ne_none_iff_exists'.mpr ⟨count, same⟩)
    | postgres =>
      rw [dialect] at same
      exact .inr (.inl (Option.ne_none_iff_exists'.mpr ⟨count, same⟩))
  · obtain ⟨offset, atOffset⟩ := Option.ne_none_iff_exists'.mp skips
    obtain ⟨fetch, atFetch⟩ := Option.ne_none_iff_exists'.mp fetches
    obtain ⟨_, count, -, -, sort, present, -, ends⟩ := page_written w keeps sorted items atOffset atFetch
    exact .inr (.inr ⟨sort, present, by simp [ends]⟩)

end Written

/-- A count is never lost. A page is, and the statement with it unbounded, exactly when MS-SQL has
no count to keep the order for. -/
theorem rows_bound_iff (writes : s.Writes cx staged) :
    ∃ table tableName, s.consumedTable cx = .ok (table, tableName) ∧
      (∀ top ∈ s.top, ∃ count, (top.emit (rowsContext cx s table)).result = .ok count ∧
        cx.dialect.pick staged.rows.top staged.rows.limit = some count) ∧
      (∀ order ∈ s.order, order.items ≠ [] → ∀ offset ∈ order.offset, ∀ fetch ∈ order.fetch,
        ((∃ first count, (offset.emit (rowsContext cx s table)).result = .ok first ∧
          (fetch.emit (rowsContext cx s table)).result = .ok count ∧
          ∃ sort ∈ staged.rows.order, sort.offset = some first ∧ sort.fetch = some count) ↔
        cx.dialect = .postgres ∨ s.top ≠ none)) ∧
      (s.Bounded → (RowsBounded staged.rows ↔ cx.dialect = .postgres ∨ s.top ≠ none)) := by
  obtain ⟨table, tableName, plan, consumed, shape⟩ := shape_of_staged writes.stages
  obtain ⟨columns, written, w, top, order, limit⟩ := shape.rows_written
  rw [top, order, limit]
  refine ⟨table, tableName, consumed, fun _ => count_written w, ?_, ?_⟩
  · intro clause sorted items offset skips fetch fetches
    constructor
    · rintro ⟨_, _, _, _, sort, present, _⟩
      by_contra drops
      rw [(unbounded_written w drops).2.2] at present
      cases present
    · intro keeps
      exact page_written w keeps sorted items skips fetches
  · intro bounded
    unfold RowsBounded
    rw [top, order, limit]
    constructor
    · intro kept
      by_contra drops
      obtain ⟨noTop, noLimit, noOrder⟩ := unbounded_written w drops
      simp [noTop, noLimit, noOrder] at kept
    · intro keeps
      exact bounded_written w keeps bounded

/-- The first five rows of a queue: MS-SQL removes all of them, PostgreSQL five. -/
theorem rows_bound_of_page :
    let page : SortClause :=
      ⟨[Queue.ascending ⟨7⟩], some (.literal ⟨.number, "0"⟩), some (.literal ⟨.number, "5"⟩)⟩
    let s := Queue.read false [Queue.column ⟨5⟩ none] (some page)
    s.Bounded ∧ (∃ staged, s.Writes (Queue.context .sqlServer) staged ∧ ¬RowsBounded staged.rows) ∧
      ∃ staged, s.Writes (Queue.context .postgres) staged ∧ RowsBounded staged.rows := by
  intro page s
  have bounded : s.Bounded := .inr ⟨page, rfl, by decide, by decide, by decide⟩
  have written (dialect : Dialect) : ∃ staged, s.Writes (Queue.context dialect) staged ∧ True :=
    exists_writes rfl (by cases dialect <;> decide +kernel)
  obtain ⟨lost, writesLost, -⟩ := written .sqlServer
  obtain ⟨kept, writesKept, -⟩ := written .postgres
  obtain ⟨_, _, _, _, _, lose⟩ := rows_bound_iff writesLost
  obtain ⟨_, _, _, _, _, keep⟩ := rows_bound_iff writesKept
  refine ⟨bounded, ⟨lost, writesLost, ?_⟩, kept, writesKept, (keep bounded).mpr (.inl rfl)⟩
  intro present
  rcases (lose bounded).mp present with dialect | counted
  · exact absurd dialect (by decide)
  · exact counted rfl

end SqlEmit.Consume
