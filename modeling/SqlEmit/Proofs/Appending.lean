import SqlEmit.Proofs.Isolation
import SqlEmit.Proofs.Reindexed

/-! Statements behind others leave what is written for those alone, except that the row sets of a
script are indexed by name and the last definition of a name holds for the whole script: a later
one replaces the one that an earlier INSERT or UPSERT reads. -/
namespace SqlEmit

def Dict.Within [DecidableEq κ] (d e : Dict κ α) : Prop :=
  ∀ key value, d.find? key = some value → e.find? key = some value

theorem Dict.Within.size_le [DecidableEq κ] {d e : Dict κ α} (within : d.Within e) : d.size ≤ e.size := by
  have keys : d.entries.map (·.1) ⊆ e.entries.map (·.1) := by
    intro k mem
    obtain ⟨value, found⟩ := (d.mem_keys_iff k).mp mem
    exact (e.mem_keys_iff k).mpr ⟨value, within k value found⟩
  simpa [Dict.size] using List.Nodup.length_le_of_subset d.nodup keys

/-- The columns of a longer script, whose own ones have ids that the shorter one has not. -/
theorem columnIndex_within {earlier later : List Statement}
    (apart : ∀ old ∈ earlier.flatMap Statement.projections,
      ∀ new ∈ later.flatMap Statement.projections, old.id ≠ new.id) :
    (columnIndex earlier).Within (columnIndex (earlier ++ later)) := by
  intro id column found
  have absent : (columnIndex later).find? id = none := by
    rw [columnIndex, Dict.find?_ofList, Option.map_eq_some_iff] at found
    obtain ⟨entry, is, -⟩ := found
    have same : entry.1 = id := by simpa using List.find?_some is
    obtain ⟨old, mem, rfl⟩ := List.mem_map.mp (List.mem_reverse.mp (List.mem_of_find?_eq_some is))
    rw [columnIndex, Dict.find?_ofList, Option.map_eq_none_iff, List.find?_eq_none]
    intro entry other equal
    obtain ⟨new, added, rfl⟩ := List.mem_map.mp (List.mem_reverse.mp other)
    exact apart old mem new added (same.trans (of_decide_eq_true equal).symm)
  rw [columnIndex, List.flatMap_append, List.map_append, Dict.find?_ofList_append]
  rw [columnIndex] at absent found
  rw [absent, found, Option.none_or]

/-- The last query that statements give a name. -/
def definedQuery? (statements : List Statement) (name : String) : Option Query :=
  ((statements.flatMap Statement.namedQueries).reverse.find? fun named =>
    Text.lower named.1 = Text.lower name).map (·.2)

theorem find?_tableIndex (statements : List Statement) (name : String) :
    (tableIndex statements).find? (Text.lower name) = definedQuery? statements name := by
  rw [tableIndex, Dict.find?_ofList, definedQuery?, ← List.map_reverse, List.find?_map, Option.map_map]
  rfl

theorem definedQuery?_append (earlier later : List Statement) (name : String) :
    definedQuery? (earlier ++ later) name =
      (definedQuery? later name).or (definedQuery? earlier name) := by
  simp only [definedQuery?, List.flatMap_append, List.reverse_append, List.find?_append, Option.map_or]

section

variable {cx : Context} {columns : Dict NodeId Projected} {tables : Dict String Query}

namespace Context

/-- A chain of definitions that ends is followed in the same way where there are more of them. -/
theorem shapesWithin_reindexed (within : cx.columns.Within columns) {steps more : Nat} (le : steps ≤ more)
    {source : TypeSource} {shapes : List Shape} (ok : cx.shapesWithin steps source = .ok shapes) :
    (cx.reindexed columns tables).shapesWithin more source = .ok shapes := by
  induction steps generalizing more source with
  | zero =>
    cases source with
    | column ref => simp [shapesWithin] at ok
    | _ => simpa only [shapesWithin, reindexed_binding?, reindexed_dialect] using ok
  | succ steps ih =>
    cases source with
    | column ref =>
      obtain ⟨more, rfl⟩ := Nat.exists_eq_add_of_le' (Nat.le_trans (Nat.le_add_left 1 steps) le)
      have step : ∀ definition : Projected, cx.shapesWithin steps definition.expr.typeSource = .ok shapes →
          (cx.reindexed columns tables).shapesWithin more definition.expr.typeSource = .ok shapes :=
        fun _ => ih (Nat.le_of_succ_le_succ le)
      simp only [shapesWithin, reindexed_binding?] at ok ⊢
      -- only a column that another projection computes is looked up
      split at ok
      case h_1 id bound =>
        cases found : cx.definition? id with
        | none => simp [found] at ok
        | some definition =>
          have kept : (cx.reindexed columns tables).definition? id = some definition :=
            within id definition found
          simp only [found] at ok
          simpa only [bound, kept] using step definition ok
      all_goals simp_all
    | _ => simpa only [shapesWithin, reindexed_binding?, reindexed_dialect] using ok

theorem columnDefinitions_reindexed (within : cx.columns.Within columns) {column : Projected}
    {definitions : List ColumnDefinition} (ok : cx.columnDefinitions column = .ok definitions) :
    (cx.reindexed columns tables).columnDefinitions column = .ok definitions := by
  unfold columnDefinitions at ok ⊢
  rw [reindexed_referenceMapping?]
  split at ok
  · exact ok
  · obtain ⟨shapes, is, rest⟩ := Except.bind_ok.mp ok
    have more : cx.columns.size + 1 ≤ columns.size + 1 := Nat.succ_le_succ within.size_le
    have kept : (cx.reindexed columns tables).shapes column.expr = .ok shapes :=
      shapesWithin_reindexed within more is
    exact Except.bind_ok.mpr ⟨shapes, kept, rest⟩

theorem tableDefinition_reindexed (within : cx.columns.Within columns) {projection : List Projected}
    {definitions : List ColumnDefinition} (ok : cx.tableDefinition projection = .ok definitions) :
    (cx.reindexed columns tables).tableDefinition projection = .ok definitions := by
  obtain ⟨lists, each, rest⟩ := Except.bind_ok.mp ok
  have kept : List.Forall₂ (fun column definitions =>
      (cx.reindexed columns tables).columnDefinitions column = .ok definitions) projection lists :=
    (Except.mapM_ok.mp each).imp fun _ _ is => columnDefinitions_reindexed within is
  exact Except.bind_ok.mpr ⟨lists, Except.mapM_ok.mpr kept, rest⟩

end Context

/-- Where `x` succeeds `y` does the same. -/
def Emit.Kept (x y : Emit α) : Prop :=
  ∀ a, x.result = .ok a → y = x

namespace Emit.Kept

theorem of_eq {x y : Emit α} (same : y = x) : Kept x y :=
  fun _ _ => same

theorem bind {x y : Emit α} {f g : α → Emit β} (first : Kept x y)
    (rest : ∀ a, x.result = .ok a → Kept (f a) (g a)) : Kept (x >>= f) (y >>= g) := by
  intro b ok
  obtain ⟨a, isA, isB⟩ := Emit.bind_ok.mp ok
  rw [first a isA, Emit.bind_of_ok isA f, Emit.bind_of_ok isA g, rest a isA b isB]

theorem lift {x y : Except Error α} (kept : ∀ a, x = .ok a → y = .ok a) :
    Kept (liftM x : Emit α) (liftM y) := by
  intro a ok
  rw [Emit.result_lift] at ok
  rw [kept a ok, ok]

end Emit.Kept

theorem TableVariable.emit_kept (within : cx.columns.Within columns) (temporary : Bool)
    (s : TableVariable) :
    Emit.Kept (s.emit cx temporary) (s.emit (cx.reindexed columns tables) temporary) := by
  unfold TableVariable.emit
  refine .bind (.of_eq (Query.emit_reindexed _)) fun query _ => ?_
  simp only [Context.reindexed_dialect]
  cases cx.dialect with
  | postgres => exact .of_eq rfl
  | sqlServer =>
    exact .bind (.lift fun _ => Context.tableDefinition_reindexed within) fun _ _ => .of_eq rfl

namespace Consume

theorem declaredTable_kept (within : cx.columns.Within columns) (s : Consume)
    (declared : Option (TableRef × List ColumnDefinition)) (ok : s.declaredTable cx = .ok declared) :
    s.declaredTable (cx.reindexed columns tables) = .ok declared := by
  unfold declaredTable at ok ⊢
  split at ok
  · exact ok
  · obtain ⟨definitions, is, rest⟩ := Except.bind_ok.mp ok
    exact Except.bind_ok.mpr ⟨definitions, Context.tableDefinition_reindexed within is, rest⟩

theorem hiddenType_kept (within : cx.columns.Within columns) {id : NodeId} {column : Carried}
    {type : String} (ok : hiddenType cx id column = .ok type) :
    hiddenType (cx.reindexed columns tables) id column = .ok type := by
  unfold hiddenType at ok ⊢
  split at ok
  · exact ok
  · obtain ⟨definitions, is, rest⟩ := Except.bind_ok.mp ok
    exact Except.bind_ok.mpr ⟨definitions, Context.columnDefinitions_reindexed within is, rest⟩
  · exact ok

theorem resultDefinitions_kept (within : cx.columns.Within columns) (s : Consume) (plan : Plan)
    (definitions : List ColumnDefinition) (ok : s.resultDefinitions cx plan = .ok definitions) :
    s.resultDefinitions (cx.reindexed columns tables) plan = .ok definitions := by
  obtain ⟨projection, is, rest⟩ := Except.bind_ok.mp ok
  refine Except.bind_ok.mpr ⟨projection, Context.tableDefinition_reindexed within is, ?_⟩
  by_cases counts : projection.length = plan.visible.length
  case neg => simp [counts] at rest
  case pos =>
    simp only [counts, ne_eq, not_true_eq_false, if_false] at rest ⊢
    obtain ⟨hidden, each, rest⟩ := Except.bind_ok.mp rest
    refine Except.bind_ok.mpr ⟨hidden, Except.mapM_ok.mpr ?_, rest⟩
    refine (Except.mapM_ok.mp each).imp fun column definition defined => ?_
    obtain ⟨type, typed, rest⟩ := Except.bind_ok.mp defined
    exact Except.bind_ok.mpr ⟨type, hiddenType_kept within typed, rest⟩

theorem sqlServerDirect_kept (within : cx.columns.Within columns) (s : Consume) (table : TableRef)
    (plan : Plan) : Emit.Kept (s.sqlServerDirect cx table plan)
      (s.sqlServerDirect (cx.reindexed columns tables) table plan) := by
  have hinted : (cx.withHint table.id (lockHint s.strictOrder)).columns.Within columns := within
  simp only [sqlServerDirect, Context.reindexed_withHint]
  refine .bind (.lift (declaredTable_kept hinted s)) fun declared _ => ?_
  exact .bind (.of_eq (Select.emit_reindexed _)) fun _ _ => .of_eq rfl

theorem sqlServerJoined_kept (within : cx.columns.Within columns) (s : Consume) (table : TableRef)
    (tableName : String) (index : Index) (plan : Plan) :
    Emit.Kept (s.sqlServerJoined cx table tableName index plan)
      (s.sqlServerJoined (cx.reindexed columns tables) table tableName index plan) := by
  have hinted : (cx.withHint table.id (lockHint s.strictOrder)).columns.Within columns := within
  simp only [sqlServerJoined, Context.reindexed_withHint]
  split
  · refine .bind (.lift (resultDefinitions_kept hinted s plan)) fun definitions _ => ?_
    exact .bind (.of_eq (Select.emit_reindexed _)) fun _ _ => .of_eq rfl
  · refine .bind (.lift (declaredTable_kept hinted s)) fun declared _ => ?_
    exact .bind (.of_eq (Select.emit_reindexed _)) fun _ _ => .of_eq rfl

theorem postgresDirect_reindexed (s : Consume) (tableName : String) (index : Index) (plan : Plan) :
    s.postgresDirect (cx.reindexed columns tables) tableName index plan =
      s.postgresDirect cx tableName index plan := by
  simp only [postgresDirect, Select.emit_reindexed]
  rfl

theorem postgresJoined_reindexed (s : Consume) (table : TableRef) (tableName : String) (index : Index)
    (plan : Plan) : s.postgresJoined (cx.reindexed columns tables) table tableName index plan =
      s.postgresJoined cx table tableName index plan := by
  simp only [postgresJoined, Select.emit_reindexed]
  rfl

theorem emit_kept (within : cx.columns.Within columns) (s : Consume) :
    Emit.Kept (s.emit cx) (s.emit (cx.reindexed columns tables)) := by
  unfold Consume.emit
  split
  · exact .of_eq rfl
  refine .bind ?_ fun _ _ => .of_eq rfl
  unfold staged
  refine .bind (.of_eq rfl) fun (table, tableName) _ => ?_
  simp only [Context.reindexed_dialect]
  cases cx.dialect <;> cases s.isDirect
  · refine .bind (.of_eq rfl) fun index _ => ?_
    exact .bind (.of_eq rfl) fun plan _ => sqlServerJoined_kept within s table tableName index plan
  · exact .bind (.of_eq rfl) fun plan _ => sqlServerDirect_kept within s table plan
  · refine .bind (.of_eq rfl) fun index _ => ?_
    exact .bind (.of_eq rfl) fun plan _ => .of_eq (postgresJoined_reindexed s table tableName index plan)
  · refine .bind (.of_eq rfl) fun index _ => ?_
    exact .bind (.of_eq rfl) fun plan _ => .of_eq (postgresDirect_reindexed s tableName index plan)

end Consume

/-- The row set that rows are inserted from, if it goes by a name. -/
def InsertSource.named? : InsertSource → Option String
  | .table t => some t.identifier
  | _ => none

def Statement.insertedFrom? : Statement → Option String
  | .insert s => s.source.named?
  | .upsert s => s.insertSource.toOption.bind InsertSource.named?
  | _ => none

def Context.namedColumns? (cx : Context) (name : String) : Option (List Projected) :=
  (cx.namedQuery? name).map fun query => query.firstSelect.columns

theorem InsertSource.projection_reindexed {source : InsertSource}
    (same : ∀ name ∈ source.named?,
      (cx.reindexed columns tables).namedColumns? name = cx.namedColumns? name) :
    source.projection (cx.reindexed columns tables) = source.projection cx := by
  cases source with
  | table t =>
    have found := same t.identifier rfl
    unfold Context.namedColumns? at found
    unfold InsertSource.projection
    cases before : cx.namedQuery? t.identifier <;>
      cases after : (cx.reindexed columns tables).namedQuery? t.identifier <;> simp_all
  | derived d => rfl
  | query q => rfl

theorem Insert.emit_reindexed {s : Insert}
    (same : ∀ name ∈ s.source.named?,
      (cx.reindexed columns tables).namedColumns? name = cx.namedColumns? name) :
    s.emit (cx.reindexed columns tables) = s.emit cx := by
  rw [Insert.emit, Insert.emit, Insert.emitBody_reindexed (InsertSource.projection_reindexed same)]

theorem Upsert.emit_kept {s : Upsert}
    (same : ∀ source, s.insertSource = .ok source →
      ∀ name ∈ source.named?, (cx.reindexed columns tables).namedColumns? name = cx.namedColumns? name) :
    Emit.Kept (s.emit cx) (s.emit (cx.reindexed columns tables)) := by
  unfold Upsert.emit
  refine .bind (.of_eq rfl) fun table _ => ?_
  by_cases unset : s.assignments.isEmpty = true
  · simp only [unset, if_true]
    exact .bind (.of_eq rfl) fun _ impossible => by simp at impossible
  simp only [unset, Bool.false_eq_true, if_false]
  refine .bind (.of_eq rfl) fun source is => ?_
  have inserted : ∀ name ∈ (s.toInsert source).source.named?,
      ((s.disambiguated cx source.name).reindexed columns tables).namedColumns? name =
        (s.disambiguated cx source.name).namedColumns? name :=
    same source is
  have update : (s.toUpdate ((s.disambiguated cx source.name).reindexed columns tables)) =
      s.toUpdate (s.disambiguated cx source.name) := rfl
  simp only [Upsert.disambiguated_reindexed, update, Update.emit_reindexed, emitOption_reindexed,
    Insert.emitBody_reindexed (InsertSource.projection_reindexed inserted)]
  exact .of_eq rfl

/-- A statement that is written is written alike against larger indexes, if the row set it inserts
from is the same. -/
theorem Statement.emit_kept (within : cx.columns.Within columns) {statement : Statement}
    (same : ∀ name ∈ statement.insertedFrom?,
      (cx.reindexed columns tables).namedColumns? name = cx.namedColumns? name) :
    Emit.Kept (statement.emit cx) (statement.emit (cx.reindexed columns tables)) := by
  cases statement with
  | declare s => exact .of_eq rfl
  | select s => exact .of_eq (SelectStatement.emit_reindexed s)
  | insert s => exact .of_eq (Insert.emit_reindexed same)
  | update s => exact .of_eq (Update.emit_reindexed s)
  | delete s => exact .of_eq (Delete.emit_reindexed s)
  | upsert s =>
    refine Upsert.emit_kept fun source is name named => same name ?_
    simpa [Statement.insertedFrom?, is, Except.toOption] using named
  | consume s => exact Consume.emit_kept within s
  | tableVariable s => exact TableVariable.emit_kept within false s
  | temporaryTable s => exact TableVariable.emit_kept within true s
  | createType s => exact .of_eq rfl
  | createSequence s => exact .of_eq rfl
  | dropSequence s => exact .of_eq rfl
  | applySequence s => exact .of_eq rfl
  | revokeSequence s => exact .of_eq rfl

theorem Statement.alone_kept (within : cx.columns.Within columns) {statement : Statement}
    (same : ∀ name ∈ statement.insertedFrom?,
      (cx.reindexed columns tables).namedColumns? name = cx.namedColumns? name)
    {terminated : Bool} {emitted : EmittedStatement} (ok : statement.alone cx terminated = .ok emitted) :
    statement.alone (cx.reindexed columns tables) terminated = .ok emitted := by
  obtain ⟨sql, is, rfl⟩ := Statement.alone_ok.mp ok
  have kept := Statement.emit_kept within same sql is
  refine Statement.alone_ok.mpr ⟨sql, by rw [kept, is], ?_⟩
  simp only [Statement.emitted, kept]
  rfl

end

/-- Statements that come later change what is written for an earlier one only where they give the
row set that it inserts from other columns: of several definitions of a name the last one in the whole
script is read. -/
theorem Script.emit_append {earlier later : List Statement} {bindings : Bindings} {settings : Settings}
    {metadata : Metadata} {registry : Registry} {fresh : NodeId → Uuid} {short long : Emitted}
    (apart : ∀ old ∈ earlier.flatMap Statement.projections,
      ∀ new ∈ later.flatMap Statement.projections, old.id ≠ new.id)
    (written : (Script.mk earlier bindings).emit settings metadata registry fresh = .ok short)
    (extended : (Script.mk (earlier ++ later) bindings).emit settings metadata registry fresh = .ok long) :
    let cx := (Script.mk earlier bindings).context settings metadata registry fresh
    let cx' := (Script.mk (earlier ++ later) bindings).context settings metadata registry fresh
    (∀ (i : Nat) (statement : Statement), earlier[i]? = some statement →
      (∀ name ∈ statement.insertedFrom?, ∀ query ∈ definedQuery? later name,
        cx.namedColumns? name = some query.firstSelect.columns) →
      long.statements[i]? = short.statements[i]?) ∧
    ∀ name, cx'.namedQuery? name = (definedQuery? later name).or (cx.namedQuery? name) := by
  intro cx cx'
  have read : ∀ name, cx'.namedQuery? name = (definedQuery? later name).or (cx.namedQuery? name) := by
    intro name
    have last := find?_tableIndex (earlier ++ later) name
    rw [definedQuery?_append, ← find?_tableIndex earlier] at last
    exact last
  refine ⟨fun i statement stands untouched => ?_, read⟩
  obtain ⟨first, isFirst, alone⟩ := forall₂_getElem? (Script.emit_ok.mp written) stands
  have stands' : (earlier ++ later)[i]? = some statement := by
    rw [List.getElem?_append_left (List.getElem?_eq_some_iff.mp stands).1, stands]
  obtain ⟨second, isSecond, again⟩ := forall₂_getElem? (Script.emit_ok.mp extended) stands'
  have same : ∀ name ∈ statement.insertedFrom?, cx'.namedColumns? name = cx.namedColumns? name := by
    intro name reads
    rw [Context.namedColumns?, read]
    cases defined : definedQuery? later name with
    | none => rfl
    | some query => exact (untouched name reads query defined).symm
  have kept := Statement.alone_kept (columnIndex_within apart) same alone
  have equal : Except.ok second = .ok first := again.symm.trans kept
  rw [isFirst, isSecond, Except.ok.inj equal]

namespace Goods

def settings : Settings := ⟨.sqlServer, 0, true⟩

def bindings : Bindings :=
  ⟨Dict.ofList [(⟨14⟩, .temporaryTable), (⟨15⟩, .commonTable), (⟨26⟩, .commonTable)], Dict.empty⟩

def catalog : Catalog := ⟨0, [], Dict.empty⟩

def numbers (id : NodeId) (source : Option Source) (column : String) : Query :=
  .select ⟨id, false, none, [⟨⟨id.index + 1⟩, .literal ⟨.number, "1"⟩, some column⟩], none, source,
    none, [], none, none⟩

/-- Fills `goods` from `rows`, which has the column `Code`. -/
def insert : Statement :=
  .insert ⟨⟨10⟩, [⟨⟨11⟩, "rows", numbers ⟨12⟩ none "Code"⟩], ⟨⟨14⟩, "goods", none⟩,
    .table ⟨⟨15⟩, "rows", none⟩⟩

/-- Reads a common table of that name, which has the column `Title`. -/
def select (name : String) : Statement :=
  .select ⟨⟨20⟩, [⟨⟨21⟩, name, numbers ⟨22⟩ none "Title"⟩],
    numbers ⟨24⟩ (some (.table ⟨⟨26⟩, name, none⟩)) "Third"⟩

def emit (later : List Statement) : Except Error Emitted :=
  (Script.mk ([insert] ++ later) bindings).emit settings catalog Registry.standard fun _ => default

def firstText (emitted : Emitted) : String :=
  (emitted.statements.head?.map (·.text)).getD ""

end Goods

/-- A common table of another name leaves the INSERT alone; one of the same name, which comes after
the INSERT and is in the scope of another statement, changes the columns that it names. -/
theorem Script.emit_append_of_redefinition :
    (∃ short long, Goods.emit [] = .ok short ∧ Goods.emit [Goods.select "others"] = .ok long ∧
      long.statements[0]? = short.statements[0]?) ∧
    ∃ short long, Goods.emit [] = .ok short ∧ Goods.emit [Goods.select "ROWS"] = .ok long ∧
      Goods.firstText short =
        "WITH rows AS\n(SELECT\n1 AS Code)\nINSERT INTO #goods (Code)\nSELECT\nrows.Code\nFROM rows;" ∧
      Goods.firstText long =
        "WITH rows AS\n(SELECT\n1 AS Code)\nINSERT INTO #goods (Title)\nSELECT\nrows.Title\nFROM rows;" := by
  obtain ⟨short, written, code⟩ : ∃ short, Goods.emit [] = .ok short ∧
      Goods.firstText short =
        "WITH rows AS\n(SELECT\n1 AS Code)\nINSERT INTO #goods (Code)\nSELECT\nrows.Code\nFROM rows;" :=
    Except.exists_ok (by decide +kernel)
  obtain ⟨other, extended, -⟩ : ∃ long, Goods.emit [Goods.select "others"] = .ok long ∧ True :=
    Except.exists_ok (by decide +kernel)
  obtain ⟨long, redefined, title⟩ : ∃ long, Goods.emit [Goods.select "ROWS"] = .ok long ∧
      Goods.firstText long =
        "WITH rows AS\n(SELECT\n1 AS Code)\nINSERT INTO #goods (Title)\nSELECT\nrows.Title\nFROM rows;" :=
    Except.exists_ok (by decide +kernel)
  have apart : ∀ old ∈ [Goods.insert].flatMap Statement.projections,
      ∀ new ∈ [Goods.select "others"].flatMap Statement.projections, old.id ≠ new.id := by decide +kernel
  have untouched : definedQuery? [Goods.select "others"] "rows" = none := by decide +kernel
  have kept := (Script.emit_append apart written extended).1 0 Goods.insert rfl
    (by simp [Goods.insert, Statement.insertedFrom?, InsertSource.named?, untouched])
  exact ⟨⟨short, other, written, extended, kept⟩, short, long, written, redefined, code, title⟩

end SqlEmit
