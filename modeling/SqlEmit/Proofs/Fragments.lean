import Mathlib.Logic.Relation
import SqlEmit.Proofs.References

/-! The text of a fragment stands in the text of everything it is part of. A fragment is an expression, a
query or a source of rows; `Holds` lists the places where one stands directly in another and is written. -/
namespace SqlEmit

namespace Sql

/-- The part stands somewhere in the whole. -/
def Within (part whole : Sql) : Prop :=
  ∃ before after, whole = before ++ part ++ after

namespace Within

variable {part inner a b : Sql}

theorem refl (sql : Sql) : Within sql sql :=
  ⟨empty, empty, congrArg Sql.mk (by simp)⟩

theorem left (within : Within part a) (b : Sql) : Within part (a ++ b) := by
  obtain ⟨before, after, rfl⟩ := within
  exact ⟨before, after ++ b, by simp only [append_assoc]⟩

theorem right (a : Sql) (within : Within part b) : Within part (a ++ b) := by
  obtain ⟨before, after, rfl⟩ := within
  exact ⟨a ++ before, after, by simp only [append_assoc]⟩

theorem trans (first : Within inner part) (second : Within part a) : Within inner a := by
  obtain ⟨before, after, rfl⟩ := second
  exact (first.right before).left after

theorem parens (within : Within part a) : Within part a.parens :=
  (within.right _).left _

theorem cast (within : Within part a) (typeName : String) : Within part (a.cast typeName) :=
  (within.right _).left _

theorem clause (keyword : String) (within : Within part a) : Within part (Sql.clause keyword (some a)) :=
  within.right _

theorem join (separator : String) {parts : List Sql} (mem : a ∈ parts) (within : Within part a) :
    Within part (Sql.join separator parts) := by
  induction parts with
  | nil => cases mem
  | cons first parts ih =>
    cases parts with
    | nil =>
      obtain rfl := List.mem_singleton.mp mem
      exact within
    | cons second rest =>
      rcases List.mem_cons.mp mem with rfl | later
      · exact (within.left _).left _
      · exact (ih later).right _

end Within

end Sql

inductive Fragment where
  | expr (e : Expr)
  | query (query : Query)
  | rows (source : Source)

def Fragment.emit (cx : Context) : Fragment → Emit Sql
  | .expr e => e.emit cx
  | .query q => do return (← q.emit cx).sql cx.dialect
  | .rows source => source.emit cx

/-- The expressions that an ORDER BY is written with. A reference is sorted by its columns, and a fetch
count is written behind an offset only. -/
inductive SortClause.Holds (cx : Context) (order : SortClause) : Expr → Prop
  | key {item : SortItem} (mem : item ∈ order.items) (computed : cx.referenceMapping? item.expr = none) :
    Holds cx order item.expr
  | offset {e : Expr} (items : order.items ≠ []) (is : order.offset = some e) : Holds cx order e
  | fetch {e start : Expr} (items : order.items ≠ []) (behind : order.offset = some start)
    (is : order.fetch = some e) : Holds cx order e

inductive Window.Holds (cx : Context) (window : Window) : Expr → Prop
  | partition {e : Expr} (mem : e ∈ window.partition) : Holds cx window e
  | key {order : SortClause} {item : SortItem} (is : window.order = some order) (mem : item ∈ order.items)
    (computed : cx.referenceMapping? item.expr = none) : Holds cx window item.expr

def CallForm.ShowsWindow : CallForm → Prop
  | .named _ => True
  | .custom text => .window ∈ text.before ++ text.after
  | .fixed _ | .byteLength => False

/-- One fragment stands directly in another and is written there. -/
inductive Fragment.Holds (cx : Context) : Fragment → Fragment → Prop
  | argument {call : Call} {form : CallForm} {e : Expr} (is : cx.form? call = some form)
    (mem : e ∈ form.writtenArgs call.args) : Holds cx (.expr e) (.expr (.call call))
  | window {call : Call} {form : CallForm} {w : Window} {e : Expr} (is : cx.form? call = some form)
    (shows : form.ShowsWindow) (present : call.window = some w) (holds : w.Holds cx e) :
    Holds cx (.expr e) (.expr (.call call))
  | condition {branches : List Branch} {otherwise : Option Expr} {branch : Branch} (mem : branch ∈ branches) :
    Holds cx (.expr branch.condition) (.expr (.caseWhen branches otherwise))
  | result {branches : List Branch} {otherwise : Option Expr} {branch : Branch} (mem : branch ∈ branches) :
    Holds cx (.expr branch.result) (.expr (.caseWhen branches otherwise))
  | otherwise {branches : List Branch} {e : Expr} : Holds cx (.expr e) (.expr (.caseWhen branches (some e)))
  | operand {op : UnaryOp} {e : Expr} : Holds cx (.expr e) (.expr (.unary op e))
  | logicalLeft {op : LogicalOp} {left right : Expr} : Holds cx (.expr left) (.expr (.logical op left right))
  | logicalRight {op : LogicalOp} {left right : Expr} : Holds cx (.expr right) (.expr (.logical op left right))
  | arithmeticLeft {op : ArithmeticOp} {left right : Expr} :
    Holds cx (.expr left) (.expr (.arithmetic op left right))
  | arithmeticRight {op : ArithmeticOp} {left right : Expr} :
    Holds cx (.expr right) (.expr (.arithmetic op left right))
  | compareLeft {op : CompareOp} {modifier : Option CompareModifier} {left right : Expr} :
    Holds cx (.expr left) (.expr (.compare op modifier left right))
  | compareRight {op : CompareOp} {modifier : Option CompareModifier} {left right : Expr} :
    Holds cx (.expr right) (.expr (.compare op modifier left right))
  | group {e : Expr} : Holds cx (.expr e) (.expr (.group e))
  | item {items : List Expr} {e : Expr} (mem : e ∈ items) : Holds cx (.expr e) (.expr (.values items))
  | subquery {query : Query} : Holds cx (.query query) (.expr (.subquery query))
  | unionLeft {all : Bool} {left right : Query} {order : Option SortClause} :
    Holds cx (.query left) (.query (.union all left right order))
  | unionRight {all : Bool} {left right : Query} {order : Option SortClause} :
    Holds cx (.query right) (.query (.union all left right order))
  | unionOrder {all : Bool} {left right : Query} {order : SortClause} {e : Expr} (holds : order.Holds cx e) :
    Holds cx (.expr e) (.query (.union all left right (some order)))
  | top {s : Select} {e : Expr} (is : s.top = some e) : Holds cx (.expr e) (.query (.select s))
  | column {s : Select} {column : Projected} (mem : column ∈ s.columns)
    (computed : cx.referenceMapping? column.expr = none) : Holds cx (.expr column.expr) (.query (.select s))
  | source {s : Select} {source : Source} (is : s.source = some source) :
    Holds cx (.rows source) (.query (.select s))
  | predicate {s : Select} {e : Expr} (is : s.predicate = some e) : Holds cx (.expr e) (.query (.select s))
  | grouping {s : Select} {e : Expr} (mem : e ∈ s.grouping) : Holds cx (.expr e) (.query (.select s))
  | having {s : Select} {e : Expr} (is : s.having = some e) : Holds cx (.expr e) (.query (.select s))
  | order {s : Select} {order : SortClause} {e : Expr} (is : s.order = some order) (holds : order.Holds cx e) :
    Holds cx (.expr e) (.query (.select s))
  | derived {derived : Derived} : Holds cx (.query derived.query) (.rows (.derived derived))
  | joinLeft {kind : JoinKind} {left right : Source} {on : Option Expr} :
    Holds cx (.rows left) (.rows (.join kind left right on))
  | joinRight {kind : JoinKind} {left right : Source} {on : Option Expr} (joins : kind ≠ .append) :
    Holds cx (.rows right) (.rows (.join kind left right on))
  | joinOn {kind : JoinKind} {left right : Source} {e : Expr} (joins : kind ≠ .append)
    (free : (cx.dialect.joinForm kind).2 = "") : Holds cx (.expr e) (.rows (.join kind left right (some e)))

/-- One fragment stands in another, at any depth. -/
def Fragment.StandsIn (cx : Context) : Fragment → Fragment → Prop :=
  Relation.ReflTransGen (Fragment.Holds cx)

theorem emitEach_eq_map (cx : Context) (es : List Expr) : emitEach cx es = es.map fun e => e.emit cx := by
  induction es with
  | nil => rw [emitEach, List.map_nil]
  | cons e es ih => rw [emitEach, ih, List.map_cons]

theorem emitBranches_eq_map (cx : Context) (branches : List Branch) :
    emitBranches cx branches = branches.map fun branch => do
      return (← branch.condition.emit cx, ← branch.result.emit cx) := by
  induction branches with
  | nil => rw [emitBranches, List.map_nil]
  | cons branch branches ih =>
    obtain ⟨condition, result⟩ := branch
    rw [emitBranches, ih, List.map_cons]

theorem Emit.all_map_mem {f : α → Emit β} {xs : List α} {ys : List β}
    (ok : (Emit.all (xs.map f)).result = .ok ys) {x : α} (mem : x ∈ xs) : ∃ y ∈ ys, (f x).result = .ok y := by
  rw [Emit.all_ok, List.forall₂_map_left_iff] at ok
  exact forall₂_mem ok mem

namespace Fragment

def WrittenIn (cx : Context) (fragment : Fragment) (sql : Sql) : Prop :=
  ∃ part, (fragment.emit cx).result = .ok part ∧ part.Within sql

theorem WrittenIn.within {cx : Context} {fragment : Fragment} {a b : Sql} (written : WrittenIn cx fragment a)
    (within : a.Within b) : WrittenIn cx fragment b := by
  obtain ⟨part, emitted, inner⟩ := written
  exact ⟨part, emitted, inner.trans within⟩

variable {cx : Context} {e : Expr} {sql : Sql}

theorem writtenIn_self {fragment : Fragment} (ok : (fragment.emit cx).result = .ok sql) :
    WrittenIn cx fragment sql :=
  ⟨sql, ok, .refl sql⟩

theorem writtenIn_each {es : List Expr} {parts : List Sql} (ok : (Emit.all (emitEach cx es)).result = .ok parts)
    (mem : e ∈ es) : ∃ part ∈ parts, WrittenIn cx (.expr e) part := by
  rw [emitEach_eq_map] at ok
  obtain ⟨part, there, emitted⟩ := Emit.all_map_mem ok mem
  exact ⟨part, there, writtenIn_self emitted⟩

theorem writtenIn_option {written : Option Sql} (ok : (emitOption cx (some e)).result = .ok written) :
    ∃ part, written = some part ∧ WrittenIn cx (.expr e) part := by
  obtain ⟨part, emitted, rfl⟩ := emitOption_some_ok.mp ok
  exact ⟨part, rfl, writtenIn_self emitted⟩

theorem writtenIn_keys {items : List SortItem} {item : SortItem} {keys : List (List KeySql)}
    (ok : (Emit.all (emitKeys cx items)).result = .ok keys) (mem : item ∈ items)
    (computed : cx.referenceMapping? item.expr = none) :
    WrittenIn cx (.expr item.expr) (SortSql.keyList keys) := by
  rw [emitKeys_eq_map] at ok
  obtain ⟨own, there, emitted⟩ := Emit.all_map_mem ok mem
  simp only [SortItem.emit, computed, Emit.bind_ok, Emit.pure_ok] at emitted
  obtain ⟨sql, emitted, rfl⟩ := emitted
  exact ⟨sql, emitted, .join ", " (List.mem_map_of_mem there) ((Sql.Within.refl sql).left _)⟩

theorem writtenIn_order {order : SortClause} {written : Option SortSql} (holds : order.Holds cx e)
    (ok : (emitOrder cx (some order)).result = .ok written) :
    WrittenIn cx (.expr e) (Sql.clause "" (written.map SortSql.sql)) := by
  rw [emitOrder] at ok
  have items : order.items ≠ [] := by
    cases holds with
    | key mem _ => exact List.ne_nil_of_mem mem
    | offset items _ => exact items
    | fetch items _ _ => exact items
  obtain ⟨sort, rfl, keys, offset, fetch⟩ := SortClause.emit_ok items ok
  refine WrittenIn.within ?_ ((Sql.Within.refl sort.sql).clause "")
  cases holds with
  | key mem computed =>
    exact (writtenIn_keys keys mem computed).within ((((Sql.Within.refl _).right _).left _).left _)
  | offset _ is =>
    rw [is] at offset
    obtain ⟨part, present, written⟩ := writtenIn_option offset
    rw [SortSql.sql, present]
    exact written.within (((((Sql.Within.refl part).right _).left _).right _).left _)
  | fetch _ behind is =>
    rw [behind] at offset
    obtain ⟨part, present, -⟩ := writtenIn_option offset
    have fetch := fetch (by simp [present])
    rw [is] at fetch
    obtain ⟨count, present, written⟩ := writtenIn_option fetch
    rw [SortSql.sql, present]
    exact written.within ((((Sql.Within.refl count).right _).left _).right _)

theorem writtenIn_window {window : Window} (holds : window.Holds cx e)
    (ok : (window.emit cx).result = .ok sql) : WrittenIn cx (.expr e) sql := by
  obtain ⟨partition, order, frame⟩ := window
  simp only [Window.emit, Emit.bind_ok, Emit.pure_ok] at ok
  obtain ⟨parts, each, keys, sorted, rfl⟩ := ok
  rw [overSql]
  refine WrittenIn.within (a := Sql.join " " _) ?_ ((Sql.Within.refl _).parens.right _)
  cases holds with
  | partition mem =>
    obtain ⟨part, there, written⟩ := writtenIn_each each mem
    have present : parts.isEmpty = false := by simpa using List.ne_nil_of_mem there
    have list := (Sql.Within.join ", " there (.refl part)).right (Sql.code "PARTITION BY ")
    exact written.within (.join " " (by simp [present]) list)
  | @key clause item is mem computed =>
    obtain ⟨items, offset, fetch⟩ := clause
    obtain rfl : order = some ⟨items, offset, fetch⟩ := is
    rw [emitWindowKeys] at sorted
    have written := writtenIn_keys sorted mem computed
    have present : keys.isEmpty = false := by
      rw [emitKeys_eq_map] at sorted
      obtain ⟨own, there, -⟩ := Emit.all_map_mem sorted mem
      simpa using List.ne_nil_of_mem there
    have list := (Sql.Within.refl (SortSql.keyList keys)).right (Sql.code "ORDER BY ")
    exact written.within (.join " " (by simp [present]) list)

theorem within_castArguments (dialect : Dialect) (upperName : String) {args : List Sql} {part : Sql}
    (mem : part ∈ args) : ∃ arg ∈ Call.castArguments dialect upperName args, part.Within arg := by
  cases dialect with
  | sqlServer => exact ⟨part, mem, .refl part⟩
  | postgres =>
    simp only [Call.castArguments]
    split
    · cases args with
      | nil => cases mem
      | cons first rest =>
        rcases List.mem_cons.mp mem with rfl | later
        · exact ⟨_, List.mem_cons_self .., (Sql.Within.refl part).cast _⟩
        · exact ⟨part, List.mem_cons_of_mem _ later, .refl part⟩
    · split
      · exact ⟨_, List.mem_map_of_mem mem, (Sql.Within.refl part).cast _⟩
      · exact ⟨part, mem, .refl part⟩

theorem within_text {args : List (Emit Sql)} {window : Option (Emit Sql)} {text : CallText}
    (ok : (text.write args window).result = .ok sql) {part : CallPart} (mem : part ∈ text.before ++ text.after) :
    ∃ written, (part.write args window).result = .ok written ∧ written.Within sql := by
  rw [CallText.write] at ok
  obtain ⟨before, first, ok⟩ := Emit.bind_ok.mp ok
  obtain ⟨after, second, ok⟩ := Emit.bind_ok.mp ok
  -- a parameter between the two lists moves neither of them
  obtain ⟨between, rfl⟩ : ∃ between, sql = Sql.join "" before ++ between ++ Sql.join "" after := by
    split at ok
    · refine ⟨Sql.empty, (Emit.pure_ok.mp ok).symm.trans ?_⟩
      exact congrArg Sql.mk (by simp)
    · obtain ⟨_, -, ok⟩ := Emit.bind_ok.mp ok
      exact ⟨_, (Emit.pure_ok.mp ok).symm⟩
  rcases List.mem_append.mp mem with left | right
  · obtain ⟨written, there, emitted⟩ := Emit.all_map_mem first left
    exact ⟨written, emitted, ((Sql.Within.join "" there (.refl written)).left _).left _⟩
  · obtain ⟨written, there, emitted⟩ := Emit.all_map_mem second right
    exact ⟨written, emitted, (Sql.Within.join "" there (.refl written)).right _⟩

theorem form_unique {call : Call} {form own : CallForm} (is : cx.form? call = some form)
    (made : (cx.callForm call).result = .ok own) : own = form := by
  rw [Context.form?, made] at is
  exact Option.some.inj is

theorem writtenIn_argument {call : Call} {form : CallForm} (is : cx.form? call = some form)
    (mem : e ∈ form.writtenArgs call.args) (ok : ((Expr.call call).emit cx).result = .ok sql) :
    WrittenIn cx (.expr e) sql := by
  obtain ⟨id, callee, args, distinct, window⟩ := call
  rw [Expr.emit] at ok
  obtain ⟨own, made, ok⟩ := Emit.bind_ok.mp ok
  obtain rfl := form_unique is made
  cases own with
  | fixed => cases mem
  | named name =>
    obtain ⟨parts, each, ok⟩ := Emit.bind_ok.mp ok
    obtain ⟨after, -, ok⟩ := Emit.bind_ok.mp ok
    obtain rfl := Emit.pure_ok.mp ok
    obtain ⟨part, there, written⟩ := writtenIn_each each mem
    obtain ⟨arg, cast, within⟩ := within_castArguments cx.dialect
      (Call.upperName ⟨id, callee, args, distinct, window⟩) there
    have list := (Sql.Within.join ", " cast within).right (Sql.code (if distinct then "DISTINCT " else ""))
    rw [Call.written]
    refine written.within (Sql.Within.left (Sql.Within.right _ ?_) _)
    split
    · exact list
    · exact list.parens
  | byteLength =>
    cases args with
    | nil => cases mem
    | cons first rest =>
      obtain rfl := List.mem_singleton.mp mem
      simp only [emitEach, Emit.bind_ok, Emit.pure_ok] at ok
      obtain ⟨part, emitted, rfl⟩ := ok
      exact ⟨part, emitted, ((Sql.Within.refl part).cast "text").parens.right _⟩
  | custom text =>
    obtain ⟨part, there, found⟩ := List.mem_filterMap.mp mem
    obtain ⟨written, emitted, within⟩ := within_text ok there
    cases part with
    | argument place =>
      have found : args[place]? = some e := found
      have own : (emitEach cx args)[place]? = some (e.emit cx) := by
        rw [emitEach_eq_map, List.getElem?_map, found, Option.map_some]
      rw [CallPart.write, List.getD_eq_getElem?_getD, own, Option.getD_some] at emitted
      exact ⟨written, emitted, within⟩
    | code | window => cases found

theorem writtenIn_callWindow {call : Call} {form : CallForm} {w : Window} (is : cx.form? call = some form)
    (shows : form.ShowsWindow) (present : call.window = some w) (holds : w.Holds cx e)
    (ok : ((Expr.call call).emit cx).result = .ok sql) : WrittenIn cx (.expr e) sql := by
  obtain ⟨id, callee, args, distinct, window⟩ := call
  obtain rfl : window = some w := present
  rw [Expr.emit] at ok
  obtain ⟨own, made, ok⟩ := Emit.bind_ok.mp ok
  obtain rfl := form_unique is made
  cases own with
  | fixed | byteLength => cases shows
  | named name =>
    obtain ⟨parts, -, ok⟩ := Emit.bind_ok.mp ok
    obtain ⟨after, windowed, ok⟩ := Emit.bind_ok.mp ok
    obtain rfl := Emit.pure_ok.mp ok
    simp only [emitWindow, Emit.optional, Emit.bind_ok, Emit.pure_ok] at windowed
    obtain ⟨part, emitted, rfl⟩ := windowed
    exact (writtenIn_window holds emitted).within (((Sql.Within.refl part).clause " ").right _)
  | custom text =>
    obtain ⟨part, emitted, within⟩ := within_text ok shows
    exact (writtenIn_window holds emitted).within within

theorem writtenIn_branch {branches : List Branch} {otherwise : Option Expr} {branch : Branch}
    (mem : branch ∈ branches) (ok : ((Expr.caseWhen branches otherwise).emit cx).result = .ok sql) :
    WrittenIn cx (.expr branch.condition) sql ∧ WrittenIn cx (.expr branch.result) sql := by
  simp only [Expr.emit, emitBranches_eq_map, Emit.bind_ok, Emit.pure_ok] at ok
  obtain ⟨written, each, other, -, rfl⟩ := ok
  obtain ⟨own, there, emitted⟩ := Emit.all_map_mem each mem
  simp only [Emit.bind_ok, Emit.pure_ok] at emitted
  obtain ⟨condition, first, result, second, rfl⟩ := emitted
  have place {part : Sql}
      (within : part.Within (Sql.code " WHEN " ++ condition ++ Sql.code " THEN " ++ result)) :
      part.Within (caseSql written other) :=
    (((Sql.Within.join "" (List.mem_map_of_mem there) within).right _).left _).left _
  exact ⟨⟨condition, first, place ((((Sql.Within.refl condition).right _).left _).left _)⟩,
    ⟨result, second, place ((Sql.Within.refl result).right _)⟩⟩

theorem writtenIn_otherwise {branches : List Branch}
    (ok : ((Expr.caseWhen branches (some e)).emit cx).result = .ok sql) : WrittenIn cx (.expr e) sql := by
  simp only [Expr.emit, Emit.bind_ok, Emit.pure_ok] at ok
  obtain ⟨written, -, other, chosen, rfl⟩ := ok
  obtain ⟨part, rfl, inner⟩ := writtenIn_option chosen
  exact inner.within ((((Sql.Within.refl part).clause _).right _).left _)

theorem writtenIn_binary {left right : Expr} {op : String}
    (ok : (do return binarySql (← left.emit cx) op (← right.emit cx) : Emit Sql).result = .ok sql) :
    WrittenIn cx (.expr left) sql ∧ WrittenIn cx (.expr right) sql := by
  simp only [Emit.bind_ok, Emit.pure_ok] at ok
  obtain ⟨a, first, b, second, rfl⟩ := ok
  exact ⟨⟨a, first, ((Sql.Within.refl a).left _).left _⟩, ⟨b, second, (Sql.Within.refl b).right _⟩⟩

theorem writtenIn_top {s : Select} {w : SelectSql} (written : s.Written cx w) (is : s.top = some e) :
    WrittenIn cx (.expr e) (w.sql cx.dialect) := by
  have top := written.top
  have limit := written.limit
  rw [is] at top limit
  cases dialect : cx.dialect with
  | sqlServer =>
    rw [dialect] at top
    obtain ⟨part, present, inner⟩ := writtenIn_option top
    rw [SelectSql.sql, present]
    refine inner.within ?_
    iterate 10 apply Sql.Within.left
    exact ((Sql.Within.refl part).parens.right _).right _
  | postgres =>
    rw [dialect] at limit
    obtain ⟨part, present, inner⟩ := writtenIn_option limit
    rw [SelectSql.sql, present]
    exact inner.within (Sql.Within.left (((Sql.Within.refl part).clause _).right _) _)

theorem writtenIn_column {s : Select} {w : SelectSql} {column : Projected} (written : s.Written cx w)
    (mem : column ∈ s.columns) (computed : cx.referenceMapping? column.expr = none) :
    WrittenIn cx (.expr column.expr) (w.sql cx.dialect) := by
  have columns := written.columns
  rw [emitProjection_eq_map] at columns
  obtain ⟨items, there, emitted⟩ := Emit.all_map_mem columns mem
  obtain ⟨id, expr, asName⟩ := column
  simp only [Projected.items, computed, Emit.bind_ok, Emit.pure_ok] at emitted
  obtain ⟨sql, emitted, rfl⟩ := emitted
  refine ⟨sql, emitted, ?_⟩
  rw [SelectSql.sql]
  iterate 8 apply Sql.Within.left
  exact (Sql.Within.join ",\n" (List.mem_map_of_mem there) ((Sql.Within.refl sql).left _)).right _

theorem writtenIn_source {s : Select} {w : SelectSql} {source : Source} (written : s.Written cx w)
    (is : s.source = some source) : WrittenIn cx (.rows source) (w.sql cx.dialect) := by
  have rows := written.source
  simp only [is, emitSource, Emit.bind_ok, Emit.pure_ok] at rows
  obtain ⟨part, emitted, present⟩ := rows
  refine ⟨part, emitted, ?_⟩
  rw [SelectSql.sql, ← present]
  iterate 6 apply Sql.Within.left
  exact ((Sql.Within.refl part).clause _).right _

theorem writtenIn_predicate {s : Select} {w : SelectSql} (written : s.Written cx w) (is : s.predicate = some e) :
    WrittenIn cx (.expr e) (w.sql cx.dialect) := by
  have predicate := written.predicate
  rw [is] at predicate
  obtain ⟨part, present, inner⟩ := writtenIn_option predicate
  rw [SelectSql.sql, present]
  refine inner.within ?_
  iterate 5 apply Sql.Within.left
  exact ((Sql.Within.refl part).clause _).right _

theorem writtenIn_grouping {s : Select} {w : SelectSql} (written : s.Written cx w) (mem : e ∈ s.grouping) :
    WrittenIn cx (.expr e) (w.sql cx.dialect) := by
  obtain ⟨part, there, inner⟩ := writtenIn_each written.grouping mem
  refine inner.within ?_
  rw [SelectSql.sql]
  iterate 4 apply Sql.Within.left
  refine Sql.Within.right _ ?_
  cases keys : w.grouping with
  | nil => simp [keys] at there
  | cons first rest =>
    rw [keys] at there
    exact (Sql.Within.join ",\n" there (.refl part)).right _

theorem writtenIn_having {s : Select} {w : SelectSql} (written : s.Written cx w) (is : s.having = some e) :
    WrittenIn cx (.expr e) (w.sql cx.dialect) := by
  have having := written.having
  rw [is] at having
  obtain ⟨part, present, inner⟩ := writtenIn_option having
  rw [SelectSql.sql, present]
  refine inner.within ?_
  iterate 3 apply Sql.Within.left
  exact ((Sql.Within.refl part).clause _).right _

theorem writtenIn_selectOrder {s : Select} {w : SelectSql} {order : SortClause} (written : s.Written cx w)
    (is : s.order = some order) (holds : order.Holds cx e) : WrittenIn cx (.expr e) (w.sql cx.dialect) := by
  have sorted := written.order
  rw [is] at sorted
  refine (writtenIn_order holds sorted).within ?_
  rw [SelectSql.sql]
  iterate 2 apply Sql.Within.left
  exact (Sql.Within.refl _).right _

theorem select_written {s : Select} (ok : ((Fragment.query (.select s)).emit cx).result = .ok sql) :
    ∃ w, s.Written cx w ∧ sql = w.sql cx.dialect := by
  simp only [Fragment.emit, Query.emit, Emit.bind_ok, Emit.pure_ok] at ok
  obtain ⟨_, ⟨w, emitted, rfl⟩, rfl⟩ := ok
  exact ⟨w, Select.written_of_emit emitted, rfl⟩

theorem union_written {all : Bool} {left right : Query} {order : Option SortClause}
    (ok : ((Fragment.query (.union all left right order)).emit cx).result = .ok sql) :
    ∃ a b sorted, ((Fragment.query left).emit cx).result = .ok a ∧
      ((Fragment.query right).emit cx).result = .ok b ∧ (emitOrder cx order).result = .ok sorted ∧
      sql = a ++ Sql.code (QuerySql.unionText all) ++ b ++ Sql.clause "" (sorted.map SortSql.sql) := by
  simp only [Fragment.emit, Query.emit, Emit.bind_ok, Emit.pure_ok] at ok ⊢
  obtain ⟨_, ⟨a, first, b, second, sorted, last, rfl⟩, rfl⟩ := ok
  exact ⟨_, _, sorted, ⟨a, first, rfl⟩, ⟨b, second, rfl⟩, last, rfl⟩

theorem writtenIn_derived {derived : Derived} (ok : ((Source.derived derived).emit cx).result = .ok sql) :
    WrittenIn cx (.query derived.query) sql := by
  obtain ⟨id, query, asName⟩ := derived
  simp only [Source.emit, Derived.emit, Emit.bind_ok, Emit.pure_ok] at ok
  obtain ⟨written, emitted, rfl⟩ := ok
  have query : ((Fragment.query query).emit cx).result = .ok (written.sql cx.dialect) :=
    Emit.bind_ok.mpr ⟨written, emitted, Emit.pure_ok.mpr rfl⟩
  exact ⟨_, query, (Sql.Within.refl _).parens.left _⟩

/-- A join has its left rows; the right ones and the condition only where it joins. -/
theorem writtenIn_join {kind : JoinKind} {left right : Source} {on : Option Expr}
    (ok : ((Source.join kind left right on).emit cx).result = .ok sql) :
    WrittenIn cx (.rows left) sql ∧ (kind ≠ .append → WrittenIn cx (.rows right) sql ∧
      ∀ e, on = some e → (cx.dialect.joinForm kind).2 = "" → WrittenIn cx (.expr e) sql) := by
  rw [Source.emit] at ok
  obtain ⟨a, first, ok⟩ := Emit.bind_ok.mp ok
  by_cases appended : kind = .append
  · rw [if_pos appended] at ok
    obtain rfl := Emit.pure_ok.mp ok
    exact ⟨writtenIn_self first, fun joins => absurd appended joins⟩
  simp only [appended, if_false] at ok
  obtain ⟨b, second, ok⟩ := Emit.bind_ok.mp ok
  -- what stands behind the right rows is found first: the condition depends on the kind of the join
  obtain ⟨condition, rfl, tests⟩ : ∃ condition,
      sql = a ++ Sql.code ("\n" ++ (cx.dialect.joinForm kind).1 ++ " ") ++ b ++
        Sql.code (cx.dialect.joinForm kind).2 ++ Sql.clause "\nON " condition ∧
      ((cx.dialect.joinForm kind).2 = "" → (emitOption cx on).result = .ok condition) := by
    by_cases free : (cx.dialect.joinForm kind).2.isEmpty = true
    · simp only [free, if_true, Emit.bind_ok, Emit.pure_ok] at ok
      obtain ⟨condition, tests, rfl⟩ := ok
      exact ⟨condition, rfl, fun _ => tests⟩
    · simp only [free, Bool.false_eq_true, if_false, Emit.bind_ok, Emit.pure_ok] at ok
      obtain ⟨condition, -, rfl⟩ := ok
      exact ⟨condition, rfl, fun empty => absurd (by simp [empty]) free⟩
  refine ⟨⟨a, first, ?_⟩, fun _ => ⟨⟨b, second, ?_⟩, ?_⟩⟩
  · exact ((((Sql.Within.refl a).left _).left _).left _).left _
  · exact ((((Sql.Within.refl b).right _).left _).left _)
  · rintro e rfl free
    obtain ⟨part, rfl, inner⟩ := writtenIn_option (tests free)
    exact inner.within (((Sql.Within.refl part).clause _).right _)

/-- What stands directly in a fragment is part of its text. -/
theorem Holds.writtenIn {child parent : Fragment} (holds : Holds cx child parent)
    (ok : (parent.emit cx).result = .ok sql) : WrittenIn cx child sql := by
  cases holds with
  | argument is mem => exact writtenIn_argument is mem ok
  | window is shows present holds => exact writtenIn_callWindow is shows present holds ok
  | condition mem => exact (writtenIn_branch mem ok).1
  | result mem => exact (writtenIn_branch mem ok).2
  | otherwise => exact writtenIn_otherwise ok
  | operand =>
    simp only [Fragment.emit, Expr.emit, Emit.bind_ok, Emit.pure_ok] at ok
    obtain ⟨part, emitted, rfl⟩ := ok
    exact ⟨part, emitted, (Sql.Within.refl part).right _⟩
  | logicalLeft | arithmeticLeft | compareLeft =>
    rw [Fragment.emit, Expr.emit] at ok
    exact (writtenIn_binary ok).1
  | logicalRight | arithmeticRight | compareRight =>
    rw [Fragment.emit, Expr.emit] at ok
    exact (writtenIn_binary ok).2
  | group =>
    simp only [Fragment.emit, Expr.emit, Emit.bind_ok, Emit.pure_ok] at ok
    obtain ⟨part, emitted, rfl⟩ := ok
    exact ⟨part, emitted, (Sql.Within.refl part).parens⟩
  | item mem =>
    simp only [Fragment.emit, Expr.emit, Emit.bind_ok, Emit.pure_ok] at ok
    obtain ⟨parts, each, rfl⟩ := ok
    obtain ⟨part, there, inner⟩ := writtenIn_each each mem
    exact inner.within (Sql.Within.join ", " there (.refl part)).parens
  | subquery =>
    simp only [Fragment.emit, Expr.emit, Emit.bind_ok, Emit.pure_ok] at ok
    obtain ⟨written, emitted, rfl⟩ := ok
    exact ⟨_, Emit.bind_ok.mpr ⟨written, emitted, Emit.pure_ok.mpr rfl⟩, (Sql.Within.refl _).parens⟩
  | unionLeft =>
    obtain ⟨a, _, _, first, -, -, rfl⟩ := union_written ok
    exact ⟨a, first, (((Sql.Within.refl a).left _).left _).left _⟩
  | unionRight =>
    obtain ⟨_, b, _, -, second, -, rfl⟩ := union_written ok
    exact ⟨b, second, ((Sql.Within.refl b).right _).left _⟩
  | unionOrder holds =>
    obtain ⟨_, _, _, -, -, sorted, rfl⟩ := union_written ok
    exact (writtenIn_order holds sorted).within ((Sql.Within.refl _).right _)
  | top is =>
    obtain ⟨w, written, rfl⟩ := select_written ok
    exact writtenIn_top written is
  | column mem computed =>
    obtain ⟨w, written, rfl⟩ := select_written ok
    exact writtenIn_column written mem computed
  | source is =>
    obtain ⟨w, written, rfl⟩ := select_written ok
    exact writtenIn_source written is
  | predicate is =>
    obtain ⟨w, written, rfl⟩ := select_written ok
    exact writtenIn_predicate written is
  | grouping mem =>
    obtain ⟨w, written, rfl⟩ := select_written ok
    exact writtenIn_grouping written mem
  | having is =>
    obtain ⟨w, written, rfl⟩ := select_written ok
    exact writtenIn_having written is
  | order is holds =>
    obtain ⟨w, written, rfl⟩ := select_written ok
    exact writtenIn_selectOrder written is holds
  | derived => exact writtenIn_derived ok
  | joinLeft => exact (writtenIn_join ok).1
  | joinRight joins => exact ((writtenIn_join ok).2 joins).1
  | joinOn joins free => exact ((writtenIn_join ok).2 joins).2 _ rfl free

/-- What stands in a fragment at any depth is part of its text. -/
theorem StandsIn.writtenIn {inner outer : Fragment} (stands : StandsIn cx inner outer)
    (ok : (outer.emit cx).result = .ok sql) : WrittenIn cx inner sql := by
  induction stands generalizing sql with
  | refl => exact writtenIn_self ok
  | tail _ holds ih =>
    obtain ⟨part, emitted, within⟩ := holds.writtenIn ok
    exact (ih emitted).within within

end Fragment

end SqlEmit
