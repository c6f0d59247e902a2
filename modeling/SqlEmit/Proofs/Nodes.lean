import SqlEmit.Script.Statement

/-! The nodes of a syntax tree, wherever they stand: in arguments and windows of calls, in the branches of a CASE,
and in every clause and row source of a subquery. What is said about expressions, calls, tables or joins of a tree
is read off its nodes. -/
namespace SqlEmit

inductive Node where
  | expr (e : Expr)
  /-- A table that rows are read from. -/
  | source (table : TableRef)
  /-- The table that the rows of a query are put into. -/
  | target (table : TableRef)
  /-- The name that a column or a derived table is given. -/
  | name (text : String)
  | join (kind : JoinKind)

mutual

def Expr.nodes : Expr → List Node
  | .call ⟨id, name, args, distinct, window⟩ =>
    .expr (.call ⟨id, name, args, distinct, window⟩) :: (eachNodes args ++ windowNodes window)
  | .caseWhen branches otherwise =>
    .expr (.caseWhen branches otherwise) :: (branchNodes branches ++ optionNodes otherwise)
  | .unary op operand => .expr (.unary op operand) :: operand.nodes
  | .logical op left right => .expr (.logical op left right) :: (left.nodes ++ right.nodes)
  | .arithmetic op left right => .expr (.arithmetic op left right) :: (left.nodes ++ right.nodes)
  | .compare op modifier left right =>
    .expr (.compare op modifier left right) :: (left.nodes ++ right.nodes)
  | .group inner => .expr (.group inner) :: inner.nodes
  | .values items => .expr (.values items) :: eachNodes items
  | .subquery query => .expr (.subquery query) :: query.nodes
  | .column ref => [.expr (.column ref)]
  | .literal value => [.expr (.literal value)]
  | .variableRef ref => [.expr (.variableRef ref)]
  | .memberRef ref => [.expr (.memberRef ref)]
  | .star => [.expr .star]

def eachNodes : List Expr → List Node
  | [] => []
  | e :: es => e.nodes ++ eachNodes es

def optionNodes : Option Expr → List Node
  | none => []
  | some e => e.nodes

def branchNodes : List Branch → List Node
  | [] => []
  | ⟨condition, result⟩ :: branches => condition.nodes ++ (result.nodes ++ branchNodes branches)

def windowNodes : Option Window → List Node
  | none => []
  | some ⟨partition, order, _⟩ => eachNodes partition ++ orderNodes order

def orderNodes : Option SortClause → List Node
  | none => []
  | some ⟨items, offset, fetch⟩ => keyNodes items ++ (optionNodes offset ++ optionNodes fetch)

def keyNodes : List SortItem → List Node
  | [] => []
  | ⟨expr, _⟩ :: items => expr.nodes ++ keyNodes items

def Query.nodes : Query → List Node
  | .select ⟨_, _, top, columns, intoTable, source, predicate, grouping, having, order⟩ =>
    sourceNodes source ++ (optionNodes top ++ (projectionNodes columns ++ (intoTable.toList.map .target ++
      (optionNodes predicate ++ (eachNodes grouping ++ (optionNodes having ++ orderNodes order))))))
  | .union _ left right order => left.nodes ++ (right.nodes ++ orderNodes order)

def projectionNodes : List Projected → List Node
  | [] => []
  | ⟨_, expr, asName⟩ :: columns => expr.nodes ++ (asName.toList.map .name ++ projectionNodes columns)

def sourceNodes : Option Source → List Node
  | none => []
  | some source => source.nodes

/-- The leading table comes before the other tables. -/
def Source.nodes : Source → List Node
  | .table table => [.source table]
  | .derived ⟨_, query, asName⟩ => .name asName :: query.nodes
  | .join kind left right condition => .join kind :: (left.nodes ++ (right.nodes ++ optionNodes condition))

end

namespace Node

def expressions : Node → List Expr
  | .expr e => [e]
  | _ => []

def calls : Node → List Call
  | .expr (.call call) => [call]
  | _ => []

def tables : Node → List TableRef
  | .source table | .target table => [table]
  | _ => []

def joins : Node → List JoinKind
  | .join kind => [kind]
  | _ => []

end Node

/-- The expression and the expressions inside it. -/
def Expr.parts (e : Expr) : List Expr :=
  e.nodes.flatMap Node.expressions

/-- The calls anywhere in an expression, those of subqueries and windows included. -/
def Expr.calls (e : Expr) : List Call :=
  e.nodes.flatMap Node.calls

def Query.calls (q : Query) : List Call :=
  q.nodes.flatMap Node.calls

def Query.joins (q : Query) : List JoinKind :=
  q.nodes.flatMap Node.joins

theorem Expr.mem_nodes_self (e : Expr) : .expr e ∈ e.nodes := by
  cases e with
  | call call =>
    obtain ⟨_, _, _, _, _⟩ := call
    simp [Expr.nodes]
  | _ => simp [Expr.nodes]

theorem Expr.mem_parts_self (e : Expr) : e ∈ e.parts :=
  List.mem_flatMap.mpr ⟨.expr e, e.mem_nodes_self, List.mem_singleton.mpr rfl⟩

theorem Expr.mem_parts {e part : Expr} : part ∈ e.parts ↔ .expr part ∈ e.nodes := by
  refine ⟨fun mem => ?_, fun mem => List.mem_flatMap.mpr ⟨_, mem, List.mem_singleton.mpr rfl⟩⟩
  obtain ⟨node, there, is⟩ := List.mem_flatMap.mp mem
  cases node with
  | expr other => rwa [List.mem_singleton.mp is]
  | _ => cases is

/-- What is read off each kind of part that a statement has. -/
structure Reading (α : Type) where
  query : Query → List α
  columns : List Projected → List α
  source : Option Source → List α
  option : Option Expr → List α
  order : Option SortClause → List α

namespace Reading

variable {α : Type} (reading : Reading α)

def ctes (ctes : List Cte) : List α :=
  ctes.flatMap fun cte => reading.query cte.query

def rows : InsertSource → List α
  | .table _ => []
  | .derived derived => reading.query derived.query
  | .query query => reading.query query

def output : Option Output → List α
  | none => []
  | some output => reading.columns output.columns

/-- The assigned values and the predicate of a change. -/
def change (assignments : List Assignment) (predicate : Option Expr) : List α :=
  (assignments.flatMap fun assignment => reading.option (some assignment.value)) ++ reading.option predicate

/-- What is read off a statement, each part once. -/
def statement : Statement → List α
  | .select s => reading.ctes s.ctes ++ reading.query s.query
  | .insert s => reading.ctes s.ctes ++ reading.rows s.source
  | .update s => reading.ctes s.ctes ++
    (reading.source s.source ++ reading.output s.output ++ reading.change s.assignments s.predicate)
  | .delete s => reading.ctes s.ctes ++
    (reading.source s.source ++ reading.output s.output ++ reading.change [] s.predicate)
  | .upsert s => reading.ctes s.ctes ++ (reading.source s.source ++ reading.change s.assignments s.predicate)
  | .consume s => reading.columns s.columns ++ reading.source s.source ++
    (reading.option s.top ++ reading.option s.predicate ++ reading.order s.order)
  | .tableVariable s => reading.query s.query
  | .temporaryTable s => reading.query s.query
  | _ => []

def nodes : Reading Node where
  query := Query.nodes
  columns := projectionNodes
  source := sourceNodes
  option := optionNodes
  order := orderNodes

end Reading

def Statement.nodes (statement : Statement) : List Node :=
  Reading.nodes.statement statement

def Statement.expressions (statement : Statement) : List Expr :=
  statement.nodes.flatMap Node.expressions

end SqlEmit
