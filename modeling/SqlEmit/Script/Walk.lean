import SqlEmit.Script.Statement

/-! Read-only walks over scripts: the columns an expression refers to, the tables a query reads,
and the columns and row sets that a script defines. -/
namespace SqlEmit

mutual

/-- The columns that an expression refers to, in order. Subqueries and windows are scopes of their
own and are not entered. -/
def Expr.columnRefs : Expr → List ColumnRef
  | .column ref => [ref]
  | .call ⟨_, _, args, _, _⟩ => columnRefsOf args
  | .caseWhen branches otherwise =>
    branchColumnRefs branches ++ (match otherwise with | none => [] | some e => e.columnRefs)
  | .unary _ operand => operand.columnRefs
  | .logical _ left right => left.columnRefs ++ right.columnRefs
  | .arithmetic _ left right => left.columnRefs ++ right.columnRefs
  | .compare _ _ left right => left.columnRefs ++ right.columnRefs
  | .group inner => inner.columnRefs
  | .values items => columnRefsOf items
  | .literal _ | .variableRef _ | .memberRef _ | .subquery _ | .star => []

def columnRefsOf : List Expr → List ColumnRef
  | [] => []
  | e :: es => e.columnRefs ++ columnRefsOf es

def branchColumnRefs : List Branch → List ColumnRef
  | [] => []
  | ⟨condition, result⟩ :: bs => condition.columnRefs ++ result.columnRefs ++ branchColumnRefs bs

end

/-- The tables that qualify the columns of an expression, in the order of their first use, without
`except`. -/
def Expr.qualifiers (expr : Expr) (except : String) : List String :=
  ((expr.columnRefs.filterMap ColumnRef.qualifier).filter (· ≠ except)).foldl
    (fun seen table => if table ∈ seen then seen else seen ++ [table]) []

mutual

/-- Whether a query reads rows of a table of that name, up to ASCII case. -/
def Query.reads (name : String) : Query → Bool
  | .select ⟨_, _, _, _, _, source, _, _, _, _⟩ =>
    match source with
    | none => false
    | some s => s.reads name
  | .union _ left right _ => left.reads name || right.reads name

def Source.reads (name : String) : Source → Bool
  | .table t => Text.sameName t.identifier name
  | .derived ⟨_, query, _⟩ => query.reads name
  | .join _ left right _ => left.reads name || right.reads name

end

def Cte.isRecursive (cte : Cte) : Bool :=
  cte.query.reads cte.name

mutual

/-- The columns that a query and the queries it reads from project. -/
def Query.projections : Query → List Projected
  | .select ⟨_, _, _, columns, _, source, _, _, _, _⟩ =>
    projectionsOf columns ++ (match source with | none => [] | some s => s.projections)
  | .union _ left right _ => left.projections ++ right.projections

/-- Columns of a projection, each followed by those of the subquery that computes it. -/
def projectionsOf : List Projected → List Projected
  | [] => []
  | column :: columns => column :: column.innerProjections ++ projectionsOf columns

def Projected.innerProjections : Projected → List Projected
  | ⟨_, expr, _⟩ =>
    match expr with
    | .subquery query => query.projections
    | _ => []

def Source.projections : Source → List Projected
  | .table _ => []
  | .derived ⟨_, query, _⟩ => query.projections
  | .join _ left right _ => left.projections ++ right.projections

end

namespace Statement

def ctes : Statement → List Cte
  | .select s => s.ctes
  | .insert s => s.ctes
  | .update s => s.ctes
  | .delete s => s.ctes
  | .upsert s => s.ctes
  | _ => []

def sourceProjections (source : Option Source) : List Projected :=
  (source.map Source.projections).getD []

def outputProjections (output : Option Output) : List Projected :=
  (output.map fun o => projectionsOf o.columns).getD []

/-- The columns that a statement projects outside its common table expressions. -/
def ownProjections : Statement → List Projected
  | .select s => s.query.projections
  | .insert s =>
    match s.source with
    | .table _ => []
    | .derived d => d.query.projections
    | .query q => q.projections
  | .update s => sourceProjections s.source ++ outputProjections s.output
  | .delete s => sourceProjections s.source ++ outputProjections s.output
  | .upsert s => sourceProjections s.source
  | .consume s => projectionsOf s.columns ++ sourceProjections s.source
  | .tableVariable s => s.query.projections
  | .temporaryTable s => s.query.projections
  | _ => []

def projections (statement : Statement) : List Projected :=
  statement.ctes.flatMap (·.query.projections) ++ statement.ownProjections

/-- The row sets that a statement gives a name. -/
def namedQueries (statement : Statement) : List (String × Query) :=
  match statement with
  | .tableVariable s => [(s.name, s.query)]
  | .temporaryTable s => [(s.name, s.query)]
  | statement => statement.ctes.map fun cte => (cte.name, cte.query)

end Statement

/-- The projected columns of a script by node id. A later column of one id replaces an earlier
one. -/
def columnIndex (statements : List Statement) : Dict NodeId Projected :=
  Dict.ofList ((statements.flatMap Statement.projections).map fun column => (column.id, column))

/-- The named row sets of a script by lower-case name. A later query of one name replaces an
earlier one. -/
def tableIndex (statements : List Statement) : Dict String Query :=
  Dict.ofList ((statements.flatMap Statement.namedQueries).map fun (name, query) =>
    (Text.lower name, query))

end SqlEmit
