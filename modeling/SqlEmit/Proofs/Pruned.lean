import SqlEmit.Proofs.Nodes

/-! Syntax trees without appended row sources. An APPEND is replaced by what it is appended to, wherever in joins,
derived tables and subqueries it stands, and nothing else is changed. -/
namespace SqlEmit

mutual

/-- The expression; with `drop` every APPEND inside it is replaced by its left side. -/
def Expr.pruned (drop : Bool) : Expr → Expr
  | .call ⟨id, name, args, distinct, window⟩ =>
    .call ⟨id, name, eachPruned drop args, distinct, windowPruned drop window⟩
  | .caseWhen branches otherwise =>
    .caseWhen (branchesPruned drop branches) (optionPruned drop otherwise)
  | .unary op operand => .unary op (operand.pruned drop)
  | .logical op left right => .logical op (left.pruned drop) (right.pruned drop)
  | .arithmetic op left right => .arithmetic op (left.pruned drop) (right.pruned drop)
  | .compare op modifier left right => .compare op modifier (left.pruned drop) (right.pruned drop)
  | .group inner => .group (inner.pruned drop)
  | .values items => .values (eachPruned drop items)
  | .subquery query => .subquery (query.pruned drop)
  | .column ref => .column ref
  | .literal value => .literal value
  | .variableRef ref => .variableRef ref
  | .memberRef ref => .memberRef ref
  | .star => .star

def eachPruned (drop : Bool) : List Expr → List Expr
  | [] => []
  | e :: es => e.pruned drop :: eachPruned drop es

def optionPruned (drop : Bool) : Option Expr → Option Expr
  | none => none
  | some e => some (e.pruned drop)

def branchesPruned (drop : Bool) : List Branch → List Branch
  | [] => []
  | ⟨condition, result⟩ :: branches =>
    ⟨condition.pruned drop, result.pruned drop⟩ :: branchesPruned drop branches

def windowPruned (drop : Bool) : Option Window → Option Window
  | none => none
  | some ⟨partition, order, frame⟩ => some ⟨eachPruned drop partition, orderPruned drop order, frame⟩

def orderPruned (drop : Bool) : Option SortClause → Option SortClause
  | none => none
  | some ⟨items, offset, fetch⟩ =>
    some ⟨keysPruned drop items, optionPruned drop offset, optionPruned drop fetch⟩

def keysPruned (drop : Bool) : List SortItem → List SortItem
  | [] => []
  | ⟨expr, descending⟩ :: items => ⟨expr.pruned drop, descending⟩ :: keysPruned drop items

def Query.pruned (drop : Bool) : Query → Query
  | .select s => .select (s.pruned drop)
  | .union all left right order => .union all (left.pruned drop) (right.pruned drop) (orderPruned drop order)

def Select.pruned (drop : Bool) : Select → Select
  | ⟨id, distinct, top, columns, intoTable, source, predicate, grouping, having, order⟩ =>
    ⟨id, distinct, optionPruned drop top, projectionPruned drop columns, intoTable, sourcePruned drop source,
      optionPruned drop predicate, eachPruned drop grouping, optionPruned drop having, orderPruned drop order⟩

def projectionPruned (drop : Bool) : List Projected → List Projected
  | [] => []
  | ⟨id, expr, asName⟩ :: columns => ⟨id, expr.pruned drop, asName⟩ :: projectionPruned drop columns

def sourcePruned (drop : Bool) : Option Source → Option Source
  | none => none
  | some source => some (source.pruned drop)

def Source.pruned (drop : Bool) : Source → Source
  | .table table => .table table
  | .derived ⟨id, query, asName⟩ => .derived ⟨id, query.pruned drop, asName⟩
  | .join kind left right condition =>
    if drop ∧ kind = .append then left.pruned drop
    else .join kind (left.pruned drop) (right.pruned drop) (optionPruned drop condition)

end

def Node.Stays (drop : Bool) (node : Node) : Prop :=
  drop = true → node ≠ .join .append

theorem Node.stays_false (node : Node) : node.Stays false :=
  nofun

theorem Node.stays_expr {drop : Bool} {e : Expr} : (Node.expr e).Stays drop := by
  simp [Node.Stays]

mutual

theorem Expr.stays_pruned : ∀ e : Expr, ∀ node ∈ (e.pruned true).nodes, node.Stays true
  | .column _ | .literal _ | .variableRef _ | .memberRef _ | .star => by
    simp only [Expr.pruned, Expr.nodes, List.forall_mem_singleton]
    exact Node.stays_expr
  | .call ⟨_, _, args, _, window⟩ => by
    simp only [Expr.pruned, Expr.nodes, List.forall_mem_cons, List.forall_mem_append]
    exact ⟨Node.stays_expr, stays_eachPruned args, stays_windowPruned window⟩
  | .caseWhen branches otherwise => by
    simp only [Expr.pruned, Expr.nodes, List.forall_mem_cons, List.forall_mem_append]
    exact ⟨Node.stays_expr, stays_branchesPruned branches, stays_optionPruned otherwise⟩
  | .unary _ inner | .group inner => by
    simp only [Expr.pruned, Expr.nodes, List.forall_mem_cons]
    exact ⟨Node.stays_expr, inner.stays_pruned⟩
  | .logical _ left right | .arithmetic _ left right | .compare _ _ left right => by
    simp only [Expr.pruned, Expr.nodes, List.forall_mem_cons, List.forall_mem_append]
    exact ⟨Node.stays_expr, left.stays_pruned, right.stays_pruned⟩
  | .values items => by
    simp only [Expr.pruned, Expr.nodes, List.forall_mem_cons]
    exact ⟨Node.stays_expr, stays_eachPruned items⟩
  | .subquery query => by
    simp only [Expr.pruned, Expr.nodes, List.forall_mem_cons]
    exact ⟨Node.stays_expr, query.stays_pruned⟩

theorem stays_eachPruned : ∀ es : List Expr, ∀ node ∈ eachNodes (eachPruned true es), node.Stays true
  | [] => by simp [eachPruned, eachNodes]
  | e :: es => by
    simp only [eachPruned, eachNodes, List.forall_mem_append]
    exact ⟨e.stays_pruned, stays_eachPruned es⟩

theorem stays_optionPruned : ∀ e : Option Expr, ∀ node ∈ optionNodes (optionPruned true e), node.Stays true
  | none => by simp [optionPruned, optionNodes]
  | some e => by
    simp only [optionPruned, optionNodes]
    exact e.stays_pruned

theorem stays_branchesPruned : ∀ branches : List Branch, ∀ node ∈ branchNodes (branchesPruned true branches),
    node.Stays true
  | [] => by simp [branchesPruned, branchNodes]
  | ⟨condition, result⟩ :: branches => by
    simp only [branchesPruned, branchNodes, List.forall_mem_append]
    exact ⟨condition.stays_pruned, result.stays_pruned, stays_branchesPruned branches⟩

theorem stays_windowPruned : ∀ window : Option Window, ∀ node ∈ windowNodes (windowPruned true window),
    node.Stays true
  | none => by simp [windowPruned, windowNodes]
  | some ⟨partition, order, _⟩ => by
    simp only [windowPruned, windowNodes, List.forall_mem_append]
    exact ⟨stays_eachPruned partition, stays_orderPruned order⟩

theorem stays_orderPruned : ∀ order : Option SortClause, ∀ node ∈ orderNodes (orderPruned true order),
    node.Stays true
  | none => by simp [orderPruned, orderNodes]
  | some ⟨items, offset, fetch⟩ => by
    simp only [orderPruned, orderNodes, List.forall_mem_append]
    exact ⟨stays_keysPruned items, stays_optionPruned offset, stays_optionPruned fetch⟩

theorem stays_keysPruned : ∀ items : List SortItem, ∀ node ∈ keyNodes (keysPruned true items), node.Stays true
  | [] => by simp [keysPruned, keyNodes]
  | ⟨expr, _⟩ :: items => by
    simp only [keysPruned, keyNodes, List.forall_mem_append]
    exact ⟨expr.stays_pruned, stays_keysPruned items⟩

theorem Query.stays_pruned : ∀ q : Query, ∀ node ∈ (q.pruned true).nodes, node.Stays true
  | .select ⟨_, _, top, columns, _, source, predicate, grouping, having, order⟩ => by
    simp only [Query.pruned, Select.pruned, Query.nodes, List.forall_mem_append]
    refine ⟨stays_sourcePruned source, stays_optionPruned top, stays_projectionPruned columns, ?_,
      stays_optionPruned predicate, stays_eachPruned grouping, stays_optionPruned having, stays_orderPruned order⟩
    simp [Node.Stays]
  | .union _ left right order => by
    simp only [Query.pruned, Query.nodes, List.forall_mem_append]
    exact ⟨left.stays_pruned, right.stays_pruned, stays_orderPruned order⟩

theorem stays_projectionPruned : ∀ columns : List Projected,
    ∀ node ∈ projectionNodes (projectionPruned true columns), node.Stays true
  | [] => by simp [projectionPruned, projectionNodes]
  | ⟨_, expr, asName⟩ :: columns => by
    simp only [projectionPruned, projectionNodes, List.forall_mem_append]
    exact ⟨expr.stays_pruned, by simp [Node.Stays], stays_projectionPruned columns⟩

theorem stays_sourcePruned : ∀ source : Option Source, ∀ node ∈ sourceNodes (sourcePruned true source),
    node.Stays true
  | none => by simp [sourcePruned, sourceNodes]
  | some source => by
    simp only [sourcePruned, sourceNodes]
    exact source.stays_pruned

theorem Source.stays_pruned : ∀ source : Source, ∀ node ∈ (source.pruned true).nodes, node.Stays true
  | .table _ => by simp [Source.pruned, Source.nodes, Node.Stays]
  | .derived ⟨_, query, _⟩ => by
    simp only [Source.pruned, Source.nodes, List.forall_mem_cons]
    exact ⟨by simp [Node.Stays], query.stays_pruned⟩
  | .join kind left right condition => by
    rw [Source.pruned]
    split
    · exact left.stays_pruned
    · next other =>
      simp only [Source.nodes, List.forall_mem_cons, List.forall_mem_append]
      refine ⟨?_, left.stays_pruned, right.stays_pruned, stays_optionPruned condition⟩
      simpa [Node.Stays] using other

end

section

variable {drop : Bool}

mutual

theorem Expr.pruned_eq : ∀ e : Expr, (∀ node ∈ e.nodes, node.Stays drop) → e.pruned drop = e
  | .column _, _ | .literal _, _ | .variableRef _, _ | .memberRef _, _ | .star, _ => by
    simp only [Expr.pruned]
  | .call ⟨_, _, args, _, window⟩, stays => by
    simp only [Expr.nodes, List.forall_mem_cons, List.forall_mem_append] at stays
    simp only [Expr.pruned, eachPruned_eq args stays.2.1, windowPruned_eq window stays.2.2]
  | .caseWhen branches otherwise, stays => by
    simp only [Expr.nodes, List.forall_mem_cons, List.forall_mem_append] at stays
    simp only [Expr.pruned, branchesPruned_eq branches stays.2.1, optionPruned_eq otherwise stays.2.2]
  | .unary _ inner, stays | .group inner, stays => by
    simp only [Expr.nodes, List.forall_mem_cons] at stays
    simp only [Expr.pruned, inner.pruned_eq stays.2]
  | .logical _ left right, stays | .arithmetic _ left right, stays | .compare _ _ left right, stays => by
    simp only [Expr.nodes, List.forall_mem_cons, List.forall_mem_append] at stays
    simp only [Expr.pruned, left.pruned_eq stays.2.1, right.pruned_eq stays.2.2]
  | .values items, stays => by
    simp only [Expr.nodes, List.forall_mem_cons] at stays
    simp only [Expr.pruned, eachPruned_eq items stays.2]
  | .subquery query, stays => by
    simp only [Expr.nodes, List.forall_mem_cons] at stays
    simp only [Expr.pruned, query.pruned_eq stays.2]

theorem eachPruned_eq : ∀ es : List Expr, (∀ node ∈ eachNodes es, node.Stays drop) → eachPruned drop es = es
  | [], _ => by simp only [eachPruned]
  | e :: es, stays => by
    rw [eachNodes, List.forall_mem_append] at stays
    simp only [eachPruned, e.pruned_eq stays.1, eachPruned_eq es stays.2]

theorem optionPruned_eq : ∀ e : Option Expr, (∀ node ∈ optionNodes e, node.Stays drop) → optionPruned drop e = e
  | none, _ => by simp only [optionPruned]
  | some e, stays => by
    rw [optionNodes] at stays
    simp only [optionPruned, e.pruned_eq stays]

theorem branchesPruned_eq : ∀ branches : List Branch, (∀ node ∈ branchNodes branches, node.Stays drop) →
    branchesPruned drop branches = branches
  | [], _ => by simp only [branchesPruned]
  | ⟨condition, result⟩ :: branches, stays => by
    simp only [branchNodes, List.forall_mem_append] at stays
    simp only [branchesPruned, condition.pruned_eq stays.1, result.pruned_eq stays.2.1,
      branchesPruned_eq branches stays.2.2]

theorem windowPruned_eq : ∀ window : Option Window, (∀ node ∈ windowNodes window, node.Stays drop) →
    windowPruned drop window = window
  | none, _ => by simp only [windowPruned]
  | some ⟨partition, order, _⟩, stays => by
    rw [windowNodes, List.forall_mem_append] at stays
    simp only [windowPruned, eachPruned_eq partition stays.1, orderPruned_eq order stays.2]

theorem orderPruned_eq : ∀ order : Option SortClause, (∀ node ∈ orderNodes order, node.Stays drop) →
    orderPruned drop order = order
  | none, _ => by simp only [orderPruned]
  | some ⟨items, offset, fetch⟩, stays => by
    simp only [orderNodes, List.forall_mem_append] at stays
    simp only [orderPruned, keysPruned_eq items stays.1, optionPruned_eq offset stays.2.1,
      optionPruned_eq fetch stays.2.2]

theorem keysPruned_eq : ∀ items : List SortItem, (∀ node ∈ keyNodes items, node.Stays drop) →
    keysPruned drop items = items
  | [], _ => by simp only [keysPruned]
  | ⟨expr, _⟩ :: items, stays => by
    rw [keyNodes, List.forall_mem_append] at stays
    simp only [keysPruned, expr.pruned_eq stays.1, keysPruned_eq items stays.2]

theorem Query.pruned_eq : ∀ q : Query, (∀ node ∈ q.nodes, node.Stays drop) → q.pruned drop = q
  | .select s, stays => by simp only [Query.pruned, s.pruned_eq stays]
  | .union _ left right order, stays => by
    simp only [Query.nodes, List.forall_mem_append] at stays
    simp only [Query.pruned, left.pruned_eq stays.1, right.pruned_eq stays.2.1, orderPruned_eq order stays.2.2]

theorem Select.pruned_eq : ∀ s : Select, (∀ node ∈ (Query.select s).nodes, node.Stays drop) → s.pruned drop = s
  | ⟨_, _, top, columns, _, source, predicate, grouping, having, order⟩, stays => by
    simp only [Query.nodes, List.forall_mem_append] at stays
    obtain ⟨inSource, inTop, inColumns, -, inPredicate, inGrouping, inHaving, inOrder⟩ := stays
    simp only [Select.pruned, optionPruned_eq top inTop, projectionPruned_eq columns inColumns,
      sourcePruned_eq source inSource, optionPruned_eq predicate inPredicate, eachPruned_eq grouping inGrouping,
      optionPruned_eq having inHaving, orderPruned_eq order inOrder]

theorem projectionPruned_eq : ∀ columns : List Projected, (∀ node ∈ projectionNodes columns, node.Stays drop) →
    projectionPruned drop columns = columns
  | [], _ => by simp only [projectionPruned]
  | ⟨_, expr, _⟩ :: columns, stays => by
    simp only [projectionNodes, List.forall_mem_append] at stays
    simp only [projectionPruned, expr.pruned_eq stays.1, projectionPruned_eq columns stays.2.2]

theorem sourcePruned_eq : ∀ source : Option Source, (∀ node ∈ sourceNodes source, node.Stays drop) →
    sourcePruned drop source = source
  | none, _ => by simp only [sourcePruned]
  | some source, stays => by
    rw [sourceNodes] at stays
    simp only [sourcePruned, source.pruned_eq stays]

theorem Source.pruned_eq : ∀ source : Source, (∀ node ∈ source.nodes, node.Stays drop) → source.pruned drop = source
  | .table _, _ => by simp only [Source.pruned]
  | .derived ⟨_, query, _⟩, stays => by
    rw [Source.nodes, List.forall_mem_cons] at stays
    simp only [Source.pruned, query.pruned_eq stays.2]
  | .join kind left right condition, stays => by
    simp only [Source.nodes, List.forall_mem_cons, List.forall_mem_append] at stays
    obtain ⟨own, inLeft, inRight, inCondition⟩ := stays
    have kept : ¬(drop = true ∧ kind = .append) := fun ⟨drops, append⟩ => own drops (by rw [append])
    simp only [Source.pruned, if_neg kept, left.pruned_eq inLeft, right.pruned_eq inRight,
      optionPruned_eq condition inCondition]

end

end

end SqlEmit
