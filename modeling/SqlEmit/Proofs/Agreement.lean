import SqlEmit.Proofs.Pruned
import SqlEmit.Proofs.Success
import SqlEmit.Emit.Query

/-! Two runs side by side. Apart from its calls an expression or a query is written from the backend, the recorded
and changed bindings, the metadata, the hints and the year offset alone, and nothing is written of an appended row
source. So in contexts that have those in common a tree and the tree without its appended sources are written alike
as soon as their calls are. -/
namespace SqlEmit

def Deferred.pruned (drop : Bool) (call : Deferred) : Deferred :=
  { call with args := eachPruned drop call.args }

def Call.pruned (drop : Bool) (call : Call) : Call :=
  { call with args := eachPruned drop call.args, window := windowPruned drop call.window }

/-- Both fail with one error, or both succeed with related results. -/
inductive Except.Alike (related : α → α → Prop) : Except Error α → Except Error α → Prop
  | ok {a b : α} (holds : related a b) : Except.Alike related (.ok a) (.ok b)
  | error (error : Error) : Except.Alike related (.error error) (.error error)

/-- The results are alike, and the second computation defers the calls of the first. -/
structure Emit.Alike (drop : Bool) (related : α → α → Prop) (x y : Emit α) : Prop where
  deferred : y.deferred = x.deferred.map (Deferred.pruned drop)
  result : Except.Alike related x.result y.result

/-- If `kept` holds, the values are the same. -/
def Kept (kept : Prop) (a b : α) : Prop :=
  kept → b = a

theorem Except.Alike.eq {x y : Except Error α} (alike : Except.Alike (Kept True) x y) : y = x := by
  cases alike with
  | error e => rfl
  | ok holds => rw [holds trivial]

namespace Kept

variable {kept : Prop}

theorem refl (a : α) : Kept kept a a :=
  fun _ => rfl

theorem map {a b : α} (same : Kept kept a b) (f : α → β) : Kept kept (f a) (f b) :=
  fun holds => congrArg f (same holds)

theorem map₂ {a b : α} {c d : β} (first : Kept kept a b) (second : Kept kept c d) (f : α → β → γ) :
    Kept kept (f a c) (f b d) :=
  fun holds => by rw [first holds, second holds]

end Kept

theorem Emit.bind_pure_self (x : Emit α) : (x >>= fun a => pure a) = x := by
  obtain ⟨deferred, result⟩ := x
  cases result <;> simp [Bind.bind, Pure.pure]

namespace Emit.Alike

variable {drop : Bool} {kept : Prop} {related : α → α → Prop} {onward : β → β → Prop}

theorem pure {a b : α} (holds : related a b) : Emit.Alike drop related (Pure.pure a) (Pure.pure b) :=
  ⟨rfl, .ok holds⟩

theorem fail (error : Error) : Emit.Alike drop related (Emit.fail error) (Emit.fail error) :=
  ⟨rfl, .error error⟩

theorem lift {x y : Except Error α} (alike : Except.Alike related x y) :
    Emit.Alike drop related (liftM x) (liftM y) :=
  ⟨rfl, alike⟩

theorem lift_same (x : Except Error α) : Emit.Alike drop (Kept kept) (liftM x) (liftM x) := by
  refine lift ?_
  cases x with
  | error e => exact .error e
  | ok a => exact .ok (.refl a)

theorem bind {x y : Emit α} {f g : α → Emit β} (first : Emit.Alike drop related x y)
    (rest : ∀ a b, related a b → Emit.Alike drop onward (f a) (g b)) :
    Emit.Alike drop onward (x >>= f) (y >>= g) := by
  obtain ⟨before, result⟩ := x
  obtain ⟨before', result'⟩ := y
  obtain ⟨rfl, alike⟩ := first
  cases alike with
  | error e => exact ⟨rfl, .error e⟩
  | @ok a b holds =>
    obtain ⟨deferred, result⟩ := rest a b holds
    exact ⟨by simp [Bind.bind, deferred], result⟩

theorem map {x y : Emit α} {f g : α → β} (first : Emit.Alike drop related x y)
    (rest : ∀ a b, related a b → onward (f a) (g b)) :
    Emit.Alike drop onward (do return f (← x)) (do return g (← y)) :=
  first.bind fun a b holds => .pure (rest a b holds)

theorem all {xs ys : List (Emit α)} (each : List.Forall₂ (Emit.Alike drop (Kept kept)) xs ys) :
    Emit.Alike drop (Kept kept) (Emit.all xs) (Emit.all ys) := by
  induction each with
  | nil => exact .pure (.refl [])
  | cons first _ ih => exact first.bind fun _ _ head => ih.map fun _ _ tail => head.map₂ tail List.cons

theorem optional {x y : Option (Emit α)} (given : Option.Rel (Emit.Alike drop (Kept kept)) x y) :
    Emit.Alike drop (Kept kept) (Emit.optional x) (Emit.optional y) := by
  cases given with
  | none => exact .pure (.refl none)
  | some given => exact given.map fun _ _ same => same.map some

theorem pick {dialect : Dialect} {x y x' y' : Emit α} (first : Emit.Alike drop related x x')
    (second : Emit.Alike drop related y y') : Emit.Alike drop related (dialect.pick x y) (dialect.pick x' y') := by
  cases dialect
  exacts [first, second]

theorem imp {x y : Emit α} {other : α → α → Prop} (alike : Emit.Alike drop related x y)
    (implies : ∀ a b, related a b → other a b) : Emit.Alike drop other x y := by
  obtain ⟨deferred, result⟩ := alike
  refine ⟨deferred, ?_⟩
  generalize x.result = first, y.result = second at result
  cases result with
  | error e => exact .error e
  | ok holds => exact .ok (implies _ _ holds)

end Emit.Alike

/-- The contexts have in common what everything but a call is written from. -/
structure Context.Agrees (cx cx' : Context) : Prop where
  dialect : cx'.dialect = cx.dialect
  bindings : cx'.bindings = cx.bindings
  metadata : cx'.metadata = cx.metadata
  yearOffset : cx'.yearOffset = cx.yearOffset
  hints : cx'.hints = cx.hints
  overrides : cx'.overrides = cx.overrides

namespace Context.Agrees

variable {cx cx' : Context} (agrees : cx.Agrees cx')
include agrees

theorem binding? (id : NodeId) : cx'.binding? id = cx.binding? id := by
  simp only [Context.binding?, agrees.bindings]

theorem mapping? (id : NodeId) : cx'.mapping? id = cx.mapping? id := by
  simp only [Context.mapping?, agrees.bindings, agrees.overrides]

theorem referenceMapping? (e : Expr) : cx'.referenceMapping? e = cx.referenceMapping? e := by
  cases e <;> simp only [Context.referenceMapping?, agrees.mapping?]

theorem items : cx'.items = cx.items := by
  funext mapping
  simp only [Context.items, agrees.dialect]

theorem columnSql (ref : ColumnRef) : cx'.columnSql ref = cx.columnSql ref := by
  simp only [Context.columnSql, agrees.mapping?, agrees.binding?, agrees.items, agrees.dialect]

theorem literalSql (literal : Literal) : cx'.literalSql literal = cx.literalSql literal := by
  simp only [Context.literalSql, agrees.dialect, agrees.yearOffset]

theorem parameterSql (id : NodeId) (name : String) : cx'.parameterSql id name = cx.parameterSql id name := by
  simp only [Context.parameterSql, agrees.dialect, agrees.binding?]

theorem tableBinding? (table : TableRef) : cx'.tableBinding? table = cx.tableBinding? table := by
  simp only [Context.tableBinding?, agrees.binding?, agrees.metadata]

theorem tableName (table : TableRef) : cx'.tableName table = cx.tableName table := by
  simp only [Context.tableName, agrees.tableBinding?, agrees.dialect]

theorem tableSource (table : TableRef) : cx'.tableSource table = cx.tableSource table := by
  simp only [Context.tableSource, Context.tableAlias, Context.hint?, agrees.tableName,
    agrees.tableBinding?, agrees.hints]

theorem scope : cx'.scope = cx.scope := by
  simp only [Context.scope, agrees.dialect, agrees.bindings, agrees.metadata, agrees.yearOffset, agrees.hints,
    agrees.overrides]

end Context.Agrees

/-- Around arguments that are written alike both contexts write the call alike. -/
def Call.Alike (drop : Bool) (kept : Prop) (cx cx' : Context) (call : Call) : Prop :=
  ∀ args args' window window', List.Forall₂ (Emit.Alike drop (Kept kept)) args args' →
    Option.Rel (Emit.Alike drop (Kept kept)) window window' →
    Emit.Alike drop (Kept kept) (cx.writeCall call args window) (cx'.writeCall (call.pruned drop) args' window')

theorem Context.Agrees.referenceMapping?_pruned {cx cx' : Context} (agrees : cx.Agrees cx') (drop : Bool) (e : Expr) :
    cx'.referenceMapping? (e.pruned drop) = cx.referenceMapping? e := by
  rw [agrees.referenceMapping?]
  cases e with
  | call call =>
    obtain ⟨_, _, _, _, _⟩ := call
    simp only [Expr.pruned, Context.referenceMapping?]
  | _ => simp only [Expr.pruned, Context.referenceMapping?]

theorem keysPruned_isEmpty (drop : Bool) (items : List SortItem) :
    (keysPruned drop items).isEmpty = items.isEmpty := by
  rcases items with _ | ⟨⟨expr, descending⟩, items⟩ <;> simp only [keysPruned, List.isEmpty]

theorem Source.emit_joinAppend (cx : Context) (left right : Source) (condition : Option Expr) :
    (Source.join .append left right condition).emit cx = left.emit cx := by
  rw [Source.emit]
  exact Emit.bind_pure_self (left.emit cx)

section

variable {cx cx' : Context} {drop : Bool} {kept : Prop}

mutual

theorem Expr.alike (agrees : cx.Agrees cx') : ∀ e : Expr,
    (∀ node ∈ e.nodes, ∀ call ∈ node.calls, call.Alike drop kept cx cx') →
    Emit.Alike drop (Kept kept) (e.emit cx) ((e.pruned drop).emit cx')
  | .column ref, _ => by
    simp only [Expr.pruned, Expr.emit, agrees.columnSql]
    exact .lift_same _
  | .literal value, _ => by
    simp only [Expr.pruned, Expr.emit, agrees.literalSql]
    exact .lift_same _
  | .variableRef _, _ | .memberRef _, _ | .star, _ => by
    simp only [Expr.pruned, Expr.emit, agrees.parameterSql]
    exact .pure (.refl _)
  | .call ⟨id, name, args, distinct, window⟩, calls => by
    have own := calls _ (Expr.mem_nodes_self _) _ (List.mem_singleton.mpr rfl)
    simp only [Expr.nodes, List.forall_mem_cons, List.forall_mem_append] at calls
    simp only [Expr.pruned, Expr.emit]
    exact own _ _ _ _ (emitEach_alike agrees args calls.2.1) (emitWindow_alike agrees window calls.2.2)
  | .caseWhen branches otherwise, calls => by
    simp only [Expr.nodes, List.forall_mem_cons, List.forall_mem_append] at calls
    simp only [Expr.pruned, Expr.emit]
    refine (Emit.Alike.all (emitBranches_alike agrees branches calls.2.1)).bind fun _ _ each => ?_
    exact (emitOption_alike agrees otherwise calls.2.2).map fun _ _ last => each.map₂ last.1 caseSql
  | .unary op operand, calls => by
    simp only [Expr.nodes, List.forall_mem_cons] at calls
    simp only [Expr.pruned, Expr.emit]
    exact (operand.alike agrees calls.2).map fun _ _ inner => inner.map fun sql => Sql.code op.text ++ sql
  | .logical op left right, calls => by
    simp only [Expr.nodes, List.forall_mem_cons, List.forall_mem_append] at calls
    simp only [Expr.pruned, Expr.emit]
    refine (left.alike agrees calls.2.1).bind fun _ _ first => ?_
    exact (right.alike agrees calls.2.2).map fun _ _ second => first.map₂ second (binarySql · op.text ·)
  | .arithmetic op left right, calls => by
    simp only [Expr.nodes, List.forall_mem_cons, List.forall_mem_append] at calls
    simp only [Expr.pruned, Expr.emit]
    refine (left.alike agrees calls.2.1).bind fun _ _ first => ?_
    exact (right.alike agrees calls.2.2).map fun _ _ second => first.map₂ second (binarySql · op.text ·)
  | .compare op modifier left right, calls => by
    simp only [Expr.nodes, List.forall_mem_cons, List.forall_mem_append] at calls
    simp only [Expr.pruned, Expr.emit]
    refine (left.alike agrees calls.2.1).bind fun _ _ first => ?_
    exact (right.alike agrees calls.2.2).map fun _ _ second => first.map₂ second (binarySql · (op.spelled modifier) ·)
  | .group inner, calls => by
    simp only [Expr.nodes, List.forall_mem_cons] at calls
    simp only [Expr.pruned, Expr.emit]
    exact (inner.alike agrees calls.2).map fun _ _ inner => inner.map Sql.parens
  | .values items, calls => by
    simp only [Expr.nodes, List.forall_mem_cons] at calls
    simp only [Expr.pruned, Expr.emit]
    refine (Emit.Alike.all (emitEach_alike agrees items calls.2)).map fun _ _ each => ?_
    exact each.map fun sqls => (Sql.join ", " sqls).parens
  | .subquery query, calls => by
    simp only [Expr.nodes, List.forall_mem_cons] at calls
    simp only [Expr.pruned, Expr.emit, agrees.dialect]
    exact (query.alike agrees calls.2).map fun _ _ inner => inner.map fun written => (written.sql cx.dialect).parens

theorem emitEach_alike (agrees : cx.Agrees cx') : ∀ es : List Expr,
    (∀ node ∈ eachNodes es, ∀ call ∈ node.calls, call.Alike drop kept cx cx') →
    List.Forall₂ (Emit.Alike drop (Kept kept)) (emitEach cx es) (emitEach cx' (eachPruned drop es))
  | [], _ => by
    simp only [eachPruned, emitEach]
    exact .nil
  | e :: es, calls => by
    rw [eachNodes, List.forall_mem_append] at calls
    simp only [eachPruned, emitEach]
    exact .cons (e.alike agrees calls.1) (emitEach_alike agrees es calls.2)

theorem emitOption_alike (agrees : cx.Agrees cx') : ∀ e : Option Expr,
    (∀ node ∈ optionNodes e, ∀ call ∈ node.calls, call.Alike drop kept cx cx') →
    Emit.Alike drop (fun a b => Kept kept a b ∧ b.isNone = a.isNone) (emitOption cx e)
      (emitOption cx' (optionPruned drop e))
  | none, _ => by
    simp only [optionPruned, emitOption]
    exact .pure ⟨.refl none, rfl⟩
  | some e, calls => by
    rw [optionNodes] at calls
    simp only [optionPruned, emitOption]
    exact (e.alike agrees calls).map fun _ _ given => ⟨given.map some, rfl⟩

theorem emitBranches_alike (agrees : cx.Agrees cx') : ∀ branches : List Branch,
    (∀ node ∈ branchNodes branches, ∀ call ∈ node.calls, call.Alike drop kept cx cx') →
    List.Forall₂ (Emit.Alike drop (Kept kept)) (emitBranches cx branches)
      (emitBranches cx' (branchesPruned drop branches))
  | [], _ => by
    simp only [branchesPruned, emitBranches]
    exact .nil
  | ⟨condition, result⟩ :: branches, calls => by
    simp only [branchNodes, List.forall_mem_append] at calls
    simp only [branchesPruned, emitBranches]
    refine .cons ?_ (emitBranches_alike agrees branches calls.2.2)
    refine (condition.alike agrees calls.1).bind fun _ _ first => ?_
    exact (result.alike agrees calls.2.1).map fun _ _ second => first.map₂ second Prod.mk

theorem emitWindow_alike (agrees : cx.Agrees cx') : ∀ window : Option Window,
    (∀ node ∈ windowNodes window, ∀ call ∈ node.calls, call.Alike drop kept cx cx') →
    Option.Rel (Emit.Alike drop (Kept kept)) (emitWindow cx window) (emitWindow cx' (windowPruned drop window))
  | none, _ => by
    simp only [windowPruned, emitWindow]
    exact .none
  | some ⟨partition, order, frame⟩, calls => by
    rw [windowNodes, List.forall_mem_append] at calls
    simp only [windowPruned, emitWindow, Window.emit]
    refine .some ((Emit.Alike.all (emitEach_alike agrees partition calls.1)).bind fun _ _ parts => ?_)
    exact (emitWindowKeys_alike agrees order calls.2).map fun _ _ keys => parts.map₂ keys (overSql · · frame)

theorem emitWindowKeys_alike (agrees : cx.Agrees cx') : ∀ order : Option SortClause,
    (∀ node ∈ orderNodes order, ∀ call ∈ node.calls, call.Alike drop kept cx cx') →
    Emit.Alike drop (Kept kept) (emitWindowKeys cx order) (emitWindowKeys cx' (orderPruned drop order))
  | none, _ => by
    simp only [orderPruned, emitWindowKeys]
    exact .pure (.refl [])
  | some ⟨items, _, _⟩, calls => by
    rw [orderNodes, List.forall_mem_append] at calls
    simp only [orderPruned, emitWindowKeys]
    exact .all (emitKeys_alike agrees items calls.1)

theorem emitKeys_alike (agrees : cx.Agrees cx') : ∀ items : List SortItem,
    (∀ node ∈ keyNodes items, ∀ call ∈ node.calls, call.Alike drop kept cx cx') →
    List.Forall₂ (Emit.Alike drop (Kept kept)) (emitKeys cx items) (emitKeys cx' (keysPruned drop items))
  | [], _ => by
    simp only [keysPruned, emitKeys]
    exact .nil
  | ⟨expr, descending⟩ :: items, calls => by
    rw [keyNodes, List.forall_mem_append] at calls
    simp only [keysPruned, emitKeys, agrees.referenceMapping?_pruned]
    refine .cons ?_ (emitKeys_alike agrees items calls.2)
    split
    · exact .pure (.refl _)
    · exact (expr.alike agrees calls.1).map fun _ _ inner => inner.map fun sql => [KeySql.mk sql descending]

theorem emitOrder_alike (agrees : cx.Agrees cx') : ∀ order : Option SortClause,
    (∀ node ∈ orderNodes order, ∀ call ∈ node.calls, call.Alike drop kept cx cx') →
    Emit.Alike drop (Kept kept) (emitOrder cx order) (emitOrder cx' (orderPruned drop order))
  | none, _ => by
    simp only [orderPruned, emitOrder]
    exact .pure (.refl none)
  | some ⟨items, offset, fetch⟩, calls => by
    simp only [orderNodes, List.forall_mem_append] at calls
    simp only [orderPruned, emitOrder, SortClause.emit, keysPruned_isEmpty]
    split
    · exact .pure (.refl none)
    refine (Emit.Alike.all (emitKeys_alike agrees items calls.1)).bind fun _ _ keys => ?_
    refine (emitOption_alike agrees offset calls.2.1).bind fun skipped skipped' offset => ?_
    have both := keys.map₂ offset.1 Prod.mk
    rw [offset.2]
    split
    · exact .pure (both.map fun parts => some (SortSql.mk parts.1 parts.2 none))
    · refine (emitOption_alike agrees fetch calls.2.2).map fun _ _ fetched => ?_
      exact both.map₂ fetched.1 fun parts fetch => some (SortSql.mk parts.1 parts.2 fetch)

theorem Query.alike (agrees : cx.Agrees cx') : ∀ q : Query,
    (∀ node ∈ q.nodes, ∀ call ∈ node.calls, call.Alike drop kept cx cx') →
    Emit.Alike drop (Kept kept) (q.emit cx) ((q.pruned drop).emit cx')
  | .select s, calls => by
    simp only [Query.pruned, Query.emit]
    exact (s.alike agrees calls).map fun _ _ inner => inner.map QuerySql.select
  | .union all left right order, calls => by
    simp only [Query.nodes, List.forall_mem_append] at calls
    simp only [Query.pruned, Query.emit]
    refine (left.alike agrees calls.1).bind fun _ _ first => ?_
    refine (right.alike agrees calls.2.1).bind fun _ _ second => ?_
    refine (emitOrder_alike agrees order calls.2.2).map fun _ _ sorted => ?_
    exact (first.map₂ second Prod.mk).map₂ sorted fun parts order => QuerySql.union all parts.1 parts.2 order

theorem Select.alike (agrees : cx.Agrees cx') : ∀ s : Select,
    (∀ node ∈ (Query.select s).nodes, ∀ call ∈ node.calls, call.Alike drop kept cx cx') →
    Emit.Alike drop (Kept kept) (s.emit cx) ((s.pruned drop).emit cx')
  | ⟨_, distinct, top, columns, intoTable, source, predicate, grouping, having, order⟩, calls => by
    simp only [Query.nodes, List.forall_mem_append] at calls
    obtain ⟨inSource, inTop, inColumns, -, inPredicate, inGrouping, inHaving, inOrder⟩ := calls
    have absent : Emit.Alike drop (fun a b => Kept kept a b ∧ b.isNone = a.isNone)
        (pure none : Emit (Option Sql)) (pure none) := .pure ⟨.refl none, rfl⟩
    have counted := emitOption_alike agrees top inTop
    have named : Emit.Alike drop (Kept kept)
        (Emit.optional (intoTable.map fun table => (cx.tableName table : Emit String)))
        (Emit.optional (intoTable.map fun table => (cx.tableName table : Emit String))) := by
      cases intoTable with
      | none => exact .pure (.refl none)
      | some table => exact (Emit.Alike.lift_same _).map fun _ _ name => name.map some
    simp only [Select.pruned, Select.emit, agrees.dialect, agrees.tableName]
    refine (Emit.Alike.pick counted absent).bind fun _ _ top => ?_
    refine (Emit.Alike.all (emitProjection_alike agrees columns inColumns)).bind fun _ _ columns => ?_
    refine named.bind fun _ _ into => ?_
    refine (emitSource_alike agrees source inSource).bind fun _ _ source => ?_
    refine (emitOption_alike agrees predicate inPredicate).bind fun _ _ predicate => ?_
    refine (Emit.Alike.all (emitEach_alike agrees grouping inGrouping)).bind fun _ _ grouping => ?_
    refine (emitOption_alike agrees having inHaving).bind fun _ _ having => ?_
    refine (emitOrder_alike agrees order inOrder).bind fun _ _ order => ?_
    refine (Emit.Alike.pick absent counted).map fun _ _ limit holds => ?_
    rw [top.1 holds, columns holds, into holds, source holds, predicate.1 holds, grouping holds, having.1 holds,
      order holds, limit.1 holds]

theorem emitProjection_alike (agrees : cx.Agrees cx') : ∀ columns : List Projected,
    (∀ node ∈ projectionNodes columns, ∀ call ∈ node.calls, call.Alike drop kept cx cx') →
    List.Forall₂ (Emit.Alike drop (Kept kept)) (emitProjection cx columns)
      (emitProjection cx' (projectionPruned drop columns))
  | [], _ => by
    simp only [projectionPruned, emitProjection]
    exact .nil
  | ⟨_, expr, asName⟩ :: columns, calls => by
    simp only [projectionNodes, List.forall_mem_append] at calls
    simp only [projectionPruned, emitProjection, Projected.items, agrees.referenceMapping?_pruned, agrees.items]
    refine .cons ?_ (emitProjection_alike agrees columns calls.2.2)
    split
    · exact .pure (.refl _)
    · exact (expr.alike agrees calls.1).map fun _ _ inner => inner.map fun sql => [Item.computed sql asName]

theorem emitSource_alike (agrees : cx.Agrees cx') : ∀ source : Option Source,
    (∀ node ∈ sourceNodes source, ∀ call ∈ node.calls, call.Alike drop kept cx cx') →
    Emit.Alike drop (Kept kept) (emitSource cx source) (emitSource cx' (sourcePruned drop source))
  | none, _ => by
    simp only [sourcePruned, emitSource]
    exact .pure (.refl none)
  | some source, calls => by
    rw [sourceNodes] at calls
    simp only [sourcePruned, emitSource]
    exact (source.alike agrees calls).map fun _ _ rows => rows.map some

theorem Source.alike (agrees : cx.Agrees cx') : ∀ source : Source,
    (∀ node ∈ source.nodes, ∀ call ∈ node.calls, call.Alike drop kept cx cx') →
    Emit.Alike drop (Kept kept) (source.emit cx) ((source.pruned drop).emit cx')
  | .table table, _ => by
    simp only [Source.pruned, Source.emit, agrees.tableSource]
    exact .lift_same _
  | .derived ⟨_, query, asName⟩, calls => by
    rw [Source.nodes, List.forall_mem_cons] at calls
    simp only [Source.pruned, Source.emit, Derived.emit, agrees.dialect]
    refine (query.alike agrees calls.2).map fun _ _ inner => ?_
    exact inner.map fun written => derivedSql (written.sql cx.dialect) asName
  | .join kind left right condition, calls => by
    simp only [Source.nodes, List.forall_mem_cons, List.forall_mem_append] at calls
    have first := left.alike agrees calls.2.1
    by_cases append : kind = .append
    · subst append
      rw [Source.emit_joinAppend, Source.pruned]
      split
      · exact first
      · rw [Source.emit_joinAppend]
        exact first
    · have other : ¬(drop = true ∧ kind = .append) := fun both => append both.2
      simp only [Source.pruned, if_neg other, Source.emit, if_neg append, agrees.dialect]
      refine first.bind fun _ _ left => (right.alike agrees calls.2.2.1).bind fun _ _ right => ?_
      have joined := left.map₂ right fun left right => left ++ Sql.code ("\n" ++ (cx.dialect.joinForm kind).1 ++ " ") ++
        right ++ Sql.code (cx.dialect.joinForm kind).2
      split
      · refine (emitOption_alike agrees condition calls.2.2.2).map fun _ _ on => ?_
        exact joined.map₂ on.1 fun rows on => rows ++ Sql.clause "\nON " on
      · exact .pure (joined.map fun rows => rows ++ Sql.clause "\nON " none)

end

end

def CallText.pruned (drop : Bool) (text : CallText) : CallText :=
  { text with deferred := text.deferred.map (Deferred.pruned drop) }

/-- Calls are written in one way, from texts that are the same if `kept` holds. -/
inductive CallForm.Alike (drop : Bool) (kept : Prop) : CallForm → CallForm → Prop
  | fixed {a b : Sql} (same : Kept kept a b) : CallForm.Alike drop kept (.fixed a) (.fixed b)
  | named (name : String) : CallForm.Alike drop kept (.named name) (.named name)
  | byteLength : CallForm.Alike drop kept .byteLength .byteLength
  | custom (text : CallText) : CallForm.Alike drop kept (.custom text) (.custom (text.pruned drop))

/-- Each function of the caller writes a call without its appended sources as it writes the call. -/
def Registry.Ignores (registry : Registry) (drop : Bool) : Prop :=
  ∀ name write, registry.find? name = some (.custom write) → ∀ scope call,
    write scope (call.pruned drop) = (write scope call).map (CallText.pruned drop)

theorem Call.sequenceName_pruned (drop : Bool) (call : Call) :
    (call.pruned drop).sequenceName = call.sequenceName := by
  obtain ⟨id, name, args, distinct, window⟩ := call
  rcases args with _ | ⟨e, rest⟩
  · simp only [pruned, sequenceName, eachPruned]
  · cases e with
    | call call =>
      obtain ⟨_, _, _, _, _⟩ := call
      simp only [pruned, sequenceName, eachPruned, Expr.pruned]
    | _ => simp only [pruned, sequenceName, eachPruned, Expr.pruned]

section

variable {drop : Bool} {kept : Prop} {args args' : List (Emit Sql)} {window window' : Option (Emit Sql)}
  (each : List.Forall₂ (Emit.Alike drop (Kept kept)) args args')
  (behind : Option.Rel (Emit.Alike drop (Kept kept)) window window')
include each behind

theorem CallPart.alike (part : CallPart) :
    Emit.Alike drop (Kept kept) (part.write args window) (part.write args' window') := by
  cases part with
  | code text => exact .pure (.refl _)
  | argument place =>
    simp only [CallPart.write, List.getD_eq_getElem?_getD]
    cases found : args[place]? with
    | none =>
      have absent : args'[place]? = none := by
        rw [List.getElem?_eq_none_iff, ← each.length_eq]
        exact List.getElem?_eq_none_iff.mp found
      rw [absent]
      exact .pure (.refl _)
    | some x =>
      obtain ⟨y, there, alike⟩ := forall₂_getElem? each found
      rw [there]
      exact alike
  | window =>
    cases behind with
    | none => exact .pure (.refl _)
    | some alike => exact alike

theorem CallText.alike (text : CallText) :
    Emit.Alike drop (Kept kept) (text.write args window) ((text.pruned drop).write args' window') := by
  have parts (list : List CallPart) : List.Forall₂ (Emit.Alike drop (Kept kept))
      (list.map (CallPart.write args window)) (list.map (CallPart.write args' window')) := by
    rw [List.forall₂_map_left_iff, List.forall₂_map_right_iff]
    exact List.forall₂_same.mpr fun part _ => part.alike each behind
  obtain ⟨before, deferred, after⟩ := text
  refine (Emit.Alike.all (parts before)).bind fun _ _ before => ?_
  refine (Emit.Alike.all (parts after)).bind fun _ _ after => ?_
  cases deferred with
  | none => exact .pure (before.map₂ after fun before after => Sql.join "" before ++ Sql.join "" after)
  | some call =>
    have own : Emit.Alike drop (Kept kept) (Emit.defer call) (Emit.defer (call.pruned drop)) := ⟨rfl, .ok (.refl ())⟩
    refine own.map fun _ _ _ => ?_
    exact before.map₂ after fun before after =>
      Sql.join "" before ++ .ofPiece (.parameter call.target) ++ Sql.join "" after

end

namespace Context

variable {cx cx' : Context} {drop : Bool} {kept : Prop} {call : Call}

theorem alike_writeCall (dialect : cx'.dialect = cx.dialect)
    (form : Emit.Alike drop (CallForm.Alike drop kept) (cx.callForm call) (cx'.callForm (call.pruned drop))) :
    call.Alike drop kept cx cx' := by
  intro args args' window window' each behind
  refine form.bind fun form form' alike => ?_
  cases alike with
  | fixed same => exact .pure same
  | named name =>
    refine (Emit.Alike.all each).bind fun _ _ list => ?_
    refine (Emit.Alike.optional behind).map fun _ _ part => ?_
    rw [dialect]
    exact list.map₂ part (call.written cx.dialect name)
  | byteLength =>
    cases each with
    | nil => exact .fail _
    | cons first _ =>
      exact first.map fun _ _ inner => inner.map fun sql => Sql.code "OCTET_LENGTH" ++ (sql.cast "text").parens
  | custom text => exact text.alike each behind

theorem alike_typeOf (agrees : cx.Agrees cx') :
    Emit.Alike drop (Kept kept) (cx.typeOf call) (cx'.typeOf (call.pruned drop)) := by
  obtain ⟨id, name, args, distinct, window⟩ := call
  have deferred (identifier : String) : Emit.Alike drop (Kept kept)
      (do
        Emit.defer ⟨Text.upper name, Call.typeParameter identifier, args⟩
        return .ofPiece (.parameter (Call.typeParameter identifier)))
      (do
        Emit.defer ⟨Text.upper name, Call.typeParameter identifier, eachPruned drop args⟩
        return Sql.ofPiece (.parameter (Call.typeParameter identifier))) := ⟨rfl, .ok (.refl _)⟩
  rcases args with _ | ⟨e, rest⟩
  · simp only [Call.pruned, typeOf, eachPruned]
    exact .fail _
  cases e with
  | call call =>
    obtain ⟨_, _, _, _, _⟩ := call
    simp only [Call.pruned, typeOf, eachPruned, Expr.pruned]
    exact .fail _
  | column ref =>
    have known : cx'.typeCode? ref = cx.typeCode? ref := by simp only [typeCode?, agrees.binding?]
    simp only [Call.pruned, typeOf, eachPruned, Expr.pruned, known, agrees.dialect]
    split
    · exact .pure (.refl _)
    · have own := deferred ref.identifier
      rw [eachPruned, Expr.pruned] at own
      exact own
  | literal value =>
    simp only [Call.pruned, typeOf, eachPruned, Expr.pruned]
    have own := deferred value.text
    rw [eachPruned, Expr.pruned] at own
    exact own
  | _ =>
    simp only [Call.pruned, typeOf, eachPruned, Expr.pruned]
    exact .fail _

theorem alike_builtinForm (agrees : cx.Agrees cx') (new : kept → cx.dialect = .postgres →
    call.upperName = "NEWUUID" → cx'.fresh call.id = cx.fresh call.id) :
    Except.Alike (CallForm.Alike drop kept) (cx.builtinForm call) (cx'.builtinForm (call.pruned drop)) := by
  have sequence : Except.Alike (CallForm.Alike drop kept) (cx.sequenceForm call)
      (cx'.sequenceForm (call.pruned drop)) := by
    unfold sequenceForm
    rw [call.sequenceName_pruned, agrees.dialect]
    cases call.sequenceName with
    | error e => exact .error e
    | ok name => exact .ok (.fixed (.refl _))
  have upper : (call.pruned drop).upperName = call.upperName := rfl
  simp only [builtinForm, agrees.dialect, agrees.yearOffset, upper]
  split
  case h_4 | h_9 => exact sequence
  case h_8 postgres is =>
    refine .ok (.fixed fun holds => ?_)
    have same := new holds postgres is
    exact congrArg (fun id => Sql.code (cx.dialect.uuidLiteral id)) same
  case h_1 | h_2 | h_3 | h_6 | h_7 => exact .ok (.fixed (.refl _))
  case h_5 | h_10 | h_11 | h_13 => exact .ok (.named _)
  case h_12 => exact .ok .byteLength

/-- A call reads the registry too, and `NEWUUID` on PostgreSQL the supply of new identifiers. -/
theorem alike_call (agrees : cx.Agrees cx') (registry : cx'.registry = cx.registry) (ignores : cx.registry.Ignores drop)
    (new : kept → cx.dialect = .postgres → call.upperName = "NEWUUID" → cx'.fresh call.id = cx.fresh call.id) :
    call.Alike drop kept cx cx' := by
  refine alike_writeCall agrees.dialect ?_
  have name : (call.pruned drop).name = call.name := rfl
  simp only [callForm, registry, name, agrees.scope]
  split
  case h_1 => exact (alike_typeOf agrees).map fun _ _ same => .fixed same
  case h_2 write found =>
    rw [ignores call.name write found cx.scope call]
    have written : Emit.Alike drop (fun text text' => text' = text.pruned drop) (write cx.scope call : Emit CallText)
        ((write cx.scope call).map (CallText.pruned drop) : Except Error CallText) := by
      refine .lift ?_
      cases write cx.scope call with
      | error e => exact .error e
      | ok text => exact .ok rfl
    refine written.map fun text text' same => ?_
    rw [same]
    exact .custom text
  case h_3 =>
    split
    · exact .lift (alike_builtinForm agrees new)
    · exact .fail _

end Context

theorem Expr.pruned_false (e : Expr) : e.pruned false = e :=
  e.pruned_eq fun node _ => node.stays_false

theorem Deferred.pruned_false (call : Deferred) : call.pruned false = call := by
  rw [Deferred.pruned, eachPruned_eq call.args fun node _ => node.stays_false]

theorem Registry.ignores_false (registry : Registry) : registry.Ignores false := by
  intro name write _ scope call
  have same : call.pruned false = call := by
    obtain ⟨id, callName, args, distinct, window⟩ := call
    rw [Call.pruned, eachPruned_eq args fun node _ => node.stays_false,
      windowPruned_eq window fun node _ => node.stays_false]
  have kept : CallText.pruned false = id := by
    funext text
    obtain ⟨before, deferred, after⟩ := text
    cases deferred <;> simp [CallText.pruned, Deferred.pruned_false]
  rw [same, kept]
  cases write scope call <;> rfl

theorem Emit.Alike.eq {x y : Emit α} (alike : Emit.Alike false (Kept True) x y) : y = x := by
  obtain ⟨deferred, result⟩ := x
  obtain ⟨deferred', result'⟩ := y
  obtain ⟨rfl, alike⟩ := alike
  have kept : deferred.map (Deferred.pruned false) = deferred := by
    rw [List.map_congr_left fun call _ => call.pruned_false, List.map_id']
  rw [kept]
  exact congrArg (Emit.mk deferred) alike.eq

theorem Emit.Alike.each_eq {xs ys : List (Emit α)} (each : List.Forall₂ (Emit.Alike false (Kept True)) xs ys) :
    ys = xs := by
  induction each with
  | nil => rfl
  | cons first _ ih => rw [first.eq, ih]

section

variable {cx cx' : Context} (agrees : cx.Agrees cx')
include agrees

theorem Expr.emit_agrees {e : Expr} (calls : ∀ call ∈ e.calls, call.Alike false True cx cx') :
    e.emit cx' = e.emit cx := by
  have alike := e.alike agrees fun node mem call there => calls call (List.mem_flatMap.mpr ⟨node, mem, there⟩)
  rw [e.pruned_false] at alike
  exact alike.eq

theorem Query.emit_agrees {q : Query} (calls : ∀ call ∈ q.calls, call.Alike false True cx cx') :
    q.emit cx' = q.emit cx := by
  have alike := q.alike agrees fun node mem call there => calls call (List.mem_flatMap.mpr ⟨node, mem, there⟩)
  rw [q.pruned_eq fun node _ => node.stays_false] at alike
  exact alike.eq

variable (calls : ∀ call : Call, call.Alike false True cx cx')
include calls

theorem emitOption_agrees (e : Option Expr) : emitOption cx' e = emitOption cx e := by
  have alike := emitOption_alike agrees e fun _ _ call _ => calls call
  rw [optionPruned_eq e fun node _ => node.stays_false] at alike
  exact (alike.imp fun _ _ both => both.1).eq

theorem Select.emit_agrees (s : Select) : s.emit cx' = s.emit cx := by
  have alike := s.alike agrees fun _ _ call _ => calls call
  rw [s.pruned_eq fun node _ => node.stays_false] at alike
  exact alike.eq

theorem emitProjection_agrees (columns : List Projected) : emitProjection cx' columns = emitProjection cx columns := by
  have alike := emitProjection_alike agrees columns fun _ _ call _ => calls call
  rw [projectionPruned_eq columns fun node _ => node.stays_false] at alike
  exact Emit.Alike.each_eq alike

theorem emitSource_agrees (source : Option Source) : emitSource cx' source = emitSource cx source := by
  have alike := emitSource_alike agrees source fun _ _ call _ => calls call
  rw [sourcePruned_eq source fun node _ => node.stays_false] at alike
  exact alike.eq

end

namespace Context

def supplied (cx : Context) (fresh : NodeId → Uuid) : Context :=
  { cx with fresh }

theorem agrees_supplied {cx : Context} {fresh : NodeId → Uuid} : cx.Agrees (cx.supplied fresh) :=
  ⟨rfl, rfl, rfl, rfl, rfl, rfl⟩

/-- MS-SQL asks the server for new identifiers; PostgreSQL takes one for each `NEWUUID`. -/
theorem alike_supplied {cx : Context} {fresh : NodeId → Uuid} {call : Call}
    (old : cx.dialect = .postgres → call.upperName ≠ "NEWUUID") : call.Alike false True cx (cx.supplied fresh) :=
  alike_call agrees_supplied rfl cx.registry.ignores_false fun _ postgres is => absurd is (old postgres)

end Context

/-- Without `NEWUUID` on PostgreSQL an expression is written alike each time, whatever identifiers are
new by then. -/
theorem Expr.emit_supplied {cx : Context} {e : Expr} (fresh : NodeId → Uuid)
    (old : cx.dialect = .postgres → ∀ call ∈ e.calls, call.upperName ≠ "NEWUUID") :
    e.emit (cx.supplied fresh) = e.emit cx :=
  e.emit_agrees Context.agrees_supplied fun call mem => Context.alike_supplied fun postgres => old postgres call mem

theorem Query.emit_supplied {cx : Context} {q : Query} (fresh : NodeId → Uuid)
    (old : cx.dialect = .postgres → ∀ call ∈ q.calls, call.upperName ≠ "NEWUUID") :
    q.emit (cx.supplied fresh) = q.emit cx :=
  q.emit_agrees Context.agrees_supplied fun call mem => Context.alike_supplied fun postgres => old postgres call mem

end SqlEmit
