import SqlEmit.Proofs.Composition

/-! Locks in written text: tables with a hint, and clauses that lock the rows of a select. A hint belongs
to one table reference, so what does not hold that reference is written without a lock. -/
namespace SqlEmit

def Piece.isLock : Piece → Bool
  | .table _ _ hint => hint.isSome
  | .rowLock _ => true
  | _ => false

namespace Sql

def locks (sql : Sql) : List Piece :=
  sql.pieces.filter Piece.isLock

@[simp] theorem locks_append (a b : Sql) : (a ++ b).locks = a.locks ++ b.locks := by
  simp [locks]

@[simp] theorem locks_empty : empty.locks = [] := rfl

@[simp] theorem locks_code (text : String) : (code text).locks = [] := rfl

@[simp] theorem locks_hint (name : String) (asName : Option String) (hint : String) :
    (ofPiece (.table name asName (some hint))).locks = [.table name asName (some hint)] := rfl

@[simp] theorem locks_parens (inner : Sql) : inner.parens.locks = inner.locks := by
  simp [parens]

@[simp] theorem locks_cast (inner : Sql) (typeName : String) : (inner.cast typeName).locks = inner.locks := by
  simp [cast]

@[simp] theorem locks_join (separator : String) (parts : List Sql) :
    (join separator parts).locks = parts.flatMap locks := by
  induction parts with
  | nil => rfl
  | cons part parts ih =>
    cases parts with
    | nil => simp [join]
    | cons next rest => simp [join, ih]

@[simp] theorem locks_clause (keyword : String) (part : Option Sql) :
    (clause keyword part).locks = part.toList.flatMap locks := by
  cases part <;> simp [clause]

theorem composes_unlocked : Composes (fun _ => True) fun sql _ => sql.locks = [] where
  keyword := fun _ => trivial
  glued := fun _ _ => trivial
  code := fun _ => locks_code _
  empty := locks_empty
  append := fun first second => by rw [locks_append, first, second, List.append_nil]
  parens := fun inner => by rw [locks_parens, inner]
  cast := fun inner _ _ => by rw [locks_cast, inner]
  perm := fun _ first => first

theorem Plain.unlocked {sql : Sql} (plain : sql.Plain) : sql.locks = [] := by
  refine List.filter_eq_nil_iff.mpr fun piece mem locks => ?_
  have is := List.all_eq_true.mp plain piece mem
  cases piece <;> simp [Piece.isPlain, Piece.isLock] at is locks

end Sql

namespace Item

@[simp] theorem locks_aliasText (asName : Option String) : (aliasText asName).locks = [] := by
  cases asName <;> simp [aliasText]

@[simp] theorem locks_ofPhysical (dialect : Dialect) (column : PhysicalColumn) :
    (ofPhysical dialect column).sql.locks = [] := by
  unfold ofPhysical
  split <;> simp [Item.sql]

@[simp] theorem locks_lineSql (items : List Item) : (lineSql items).locks = items.flatMap (·.sql.locks) := by
  simp [lineSql, List.flatMap_map]

end Item

/-- Every part of a select but its source and its last clause is free of locks. -/
structure SelectSql.LocksInSource (s : SelectSql) : Prop where
  top : ∀ sql ∈ s.top, sql.locks = []
  columns : ∀ line ∈ s.columns, (Item.lineSql line).locks = []
  predicate : ∀ sql ∈ s.predicate, sql.locks = []
  grouping : ∀ sql ∈ s.grouping, sql.locks = []
  having : ∀ sql ∈ s.having, sql.locks = []
  order : ∀ sort ∈ s.order, sort.sql.locks = []
  limit : ∀ sql ∈ s.limit, sql.locks = []

theorem SelectSql.LocksInSource.locks_sql {s : SelectSql} (free : s.LocksInSource) (dialect : Dialect) :
    (s.sql dialect).locks = s.source.toList.flatMap Sql.locks ++ (lockSql s.lock).locks := by
  have none_of {part : Option Sql} (each : ∀ sql ∈ part, sql.locks = []) :
      part.toList.flatMap Sql.locks = [] := by
    simpa using each
  have top : (topSql s.top).locks = [] := by
    have each := free.top
    cases bound : s.top with
    | none => rfl
    | some count => simpa [topSql] using each count bound
  have columns : (Item.listSql s.columns).locks = [] := by
    simpa [Item.listSql, List.flatMap_map] using free.columns
  have into : (s.intoTable.map Sql.code).toList.flatMap Sql.locks = [] := by
    cases s.intoTable <;> rfl
  have grouping : (groupingSql s.grouping).locks = [] := by
    have each := free.grouping
    cases keys : s.grouping with
    | nil => rfl
    | cons key keys' => simpa [groupingSql, keys] using each
  have order : (s.order.map SortSql.sql).toList.flatMap Sql.locks = [] := by
    have each := free.order
    cases sorted : s.order with
    | none => rfl
    | some sort => simpa using each sort sorted
  simp [SelectSql.sql, top, columns, into, grouping, order, none_of free.predicate, none_of free.having,
    none_of free.limit]

theorem SelectSql.LocksInSource.replaced {selected : SelectSql} (free : selected.LocksInSource)
    {columns : List (List Item)} (each : ∀ line ∈ columns, (Item.lineSql line).locks = [])
    (lock : Option String) : ({ selected with columns, lock } : SelectSql).LocksInSource :=
  ⟨free.top, each, free.predicate, free.grouping, free.having, free.order, free.limit⟩

def tablesIn (nodes : List Node) : List TableRef :=
  nodes.flatMap Node.tables

@[simp] theorem tablesIn_append (first second : List Node) :
    tablesIn (first ++ second) = tablesIn first ++ tablesIn second :=
  List.flatMap_append

theorem Source.tablesIn_join (kind : JoinKind) (left right : Source) (condition : Option Expr) :
    tablesIn (Source.join kind left right condition).nodes =
      tablesIn left.nodes ++ (tablesIn right.nodes ++ tablesIn (optionNodes condition)) := by
  rw [← tablesIn_append, ← tablesIn_append, Source.nodes]
  rfl

theorem Source.tables_of_leadingTable {source : Source} {table : TableRef}
    (leads : source.leadingTable = some table) : ∃ others, tablesIn source.nodes = table :: others := by
  induction source using Source.leadingTable.induct with
  | case1 t =>
    obtain rfl := Option.some.inj leads
    exact ⟨[], rfl⟩
  | case2 kind left right condition ih =>
    obtain ⟨others, tables⟩ := ih leads
    exact ⟨_, by rw [tablesIn_join, tables, List.cons_append]⟩
  | case3 derived => cases leads

/-- None of the tables has a hint. -/
def Context.Unhinted (cx : Context) (tables : List TableRef) : Prop :=
  ∀ table ∈ tables, cx.hint? table.id = none

section

variable {cx : Context}

@[simp] theorem Context.unhinted_append {first second : List TableRef} :
    cx.Unhinted (first ++ second) ↔ cx.Unhinted first ∧ cx.Unhinted second :=
  List.forall_mem_append

theorem Context.unhinted_tablesIn {nodes : List Node} :
    cx.Unhinted (tablesIn nodes) ↔ ∀ node ∈ nodes, cx.Unhinted node.tables := by
  simp only [Context.Unhinted, tablesIn, List.mem_flatMap]
  exact ⟨fun free node mem table there => free table ⟨node, mem, there⟩,
    fun free table ⟨node, mem, there⟩ => free node mem table there⟩

/-- Only a table with a hint is written with a lock. -/
theorem Context.carries_unlocked :
    cx.Carries (fun node => cx.Unhinted node.tables) (fun _ => True) fun sql _ => sql.locks = [] := by
  refine carries_of_plain Sql.composes_unlocked (fun _ => Sql.Plain.unlocked) (fun table sql free ok => ?_)
    (fun _ _ _ _ _ => rfl) fun _ _ _ _ => rfl
  obtain ⟨name, -, rest⟩ := Except.bind_ok.mp ok
  obtain rfl := Except.ok.inj rest
  have bare : cx.hint? table.id = none := free table (by simp [Node.tables])
  simp [Sql.locks, Sql.ofPiece, Piece.isLock, bare]

theorem emitOption_unlocked {e : Option Expr} (free : cx.Unhinted (tablesIn (optionNodes e))) {written : Option Sql}
    (is : (emitOption cx e).result = .ok written) : ∀ sql ∈ written, sql.locks = [] :=
  (emitOption_leaves Context.carries_unlocked e (Context.unhinted_tablesIn.mp free) written is).forall_mem

theorem emitSource_unlocked {source : Option Source} (free : cx.Unhinted (tablesIn (sourceNodes source)))
    {written : Option Sql} (is : (emitSource cx source).result = .ok written) : ∀ sql ∈ written, sql.locks = [] :=
  (emitSource_leaves Context.carries_unlocked source (Context.unhinted_tablesIn.mp free) written is).forall_mem

def Select.otherNodes (s : Select) : List Node :=
  optionNodes s.top ++ (projectionNodes s.columns ++ (s.intoTable.toList.map .target ++ (optionNodes s.predicate ++
    (eachNodes s.grouping ++ (optionNodes s.having ++ orderNodes s.order)))))

theorem Select.locksInSource {s : Select} {written : SelectSql} (free : cx.Unhinted (tablesIn s.otherNodes))
    (is : (s.emit cx).result = .ok written) : written.LocksInSource := by
  have laws := @Context.carries_unlocked cx
  simp only [Context.unhinted_tablesIn, Select.otherNodes, List.forall_mem_append] at free
  obtain ⟨inTop, inColumns, -, inPredicate, inGrouping, inHaving, inOrder⟩ := free
  have parts := Select.written_of_emit is
  have counted := emitOption_leaves laws s.top inTop
  have absent : (pure none : Emit (Option Sql)).Leaves (OptionHolds fun sql _ => sql.locks = []) := .pure .none
  exact {
    top := (Emit.Leaves.pick counted absent _ parts.top).forall_mem
    columns := (Emit.Leaves.all (emitProjection_leaves laws s.columns inColumns) _ parts.columns).forall_mem
    predicate := (emitOption_leaves laws s.predicate inPredicate _ parts.predicate).forall_mem
    grouping := (Emit.Leaves.all (emitEach_leaves laws s.grouping inGrouping) _ parts.grouping).forall_mem
    having := (emitOption_leaves laws s.having inHaving _ parts.having).forall_mem
    order := (emitOrder_leaves laws s.order inOrder _ parts.order).forall_mem
    limit := (Emit.Leaves.pick absent counted _ parts.limit).forall_mem }

/-- Where only the leading table of a source has a hint, its lock comes first and is the only one. -/
theorem Source.gives_leading_lock {source : Source} {table : TableRef} {others : List TableRef} {hint : String}
    (leads : source.leadingTable = some table) (tables : tablesIn source.nodes = table :: others)
    (hinted : cx.hint? table.id = some hint) (free : cx.Unhinted others) :
    Emit.Gives (fun sql => ∃ name rest, cx.tableName table = .ok name ∧ rest.locks = [] ∧
      sql = Sql.ofPiece (.table name (cx.tableAlias table name) (some hint)) ++ rest) (source.emit cx) := by
  induction source using Source.leadingTable.induct generalizing others with
  | case1 t =>
    obtain rfl := Option.some.inj leads
    rw [Source.emit]
    refine .lift fun sql ok => ?_
    obtain ⟨name, named, rest⟩ := Except.bind_ok.mp ok
    obtain rfl := Except.ok.inj rest
    exact ⟨name, Sql.empty, named, rfl, by rw [hinted]; rfl⟩
  | case2 kind left right condition ih =>
    obtain ⟨inner, leftTables⟩ := @tables_of_leadingTable left table leads
    rw [tablesIn_join, leftTables, List.cons_append] at tables
    rw [← (List.cons.inj tables).2, Context.unhinted_append, Context.unhinted_append] at free
    obtain ⟨inLeft, inRight, inCondition⟩ := free
    have joins : (right.emit cx).Leaves fun sql _ => sql.locks = [] :=
      right.leaves Context.carries_unlocked (Context.unhinted_tablesIn.mp inRight)
    rw [Source.emit]
    refine .bind (ih leads leftTables inLeft) fun _ first => ?_
    split
    · exact .pure first
    obtain ⟨name, rest, named, unlocked, rfl⟩ := first
    refine .bind joins fun joined second => ?_
    have ends (on : Option Sql) (holds : ∀ sql ∈ on, sql.locks = []) :
        (rest ++ Sql.code ("\n" ++ (cx.dialect.joinForm kind).1 ++ " ") ++ joined ++
          Sql.code (cx.dialect.joinForm kind).2 ++ Sql.clause "\nON " on).locks = [] := by
      simpa [unlocked, second] using holds
    split
    · refine .bind (fun _ is => emitOption_unlocked inCondition is) fun on holds => .pure ?_
      exact ⟨name, _, named, ends on holds, by simp only [Sql.append_assoc]⟩
    · refine .pure ⟨name, _, named, ends none (by simp), ?_⟩
      simp only [Sql.append_assoc]
  | case3 derived => cases leads

end

end SqlEmit
