import SqlEmit.ColumnType
import SqlEmit.Proofs.Success

/-! The columns that are inferred for an expression, without a bound on the references that are followed.
Where the bounded search finds columns, they are the inferred ones. -/
namespace SqlEmit

/-- The columns of a value by the kind of its expression. A leading operand gives its columns to the whole,
and a computed column has those of its definition. -/
inductive Context.Infers (cx : Context) : Expr → List Shape → Prop
  | literal {value : Literal} {sqlServer postgres : String}
    (typed : value.kind.typeSource = .fixed sqlServer postgres) :
    Infers cx (.literal value) (Shape.single (cx.dialect.pick sqlServer postgres))
  | variableRef {ref : VariableRef} {type : PrimitiveType} (bound : cx.binding? ref.id = some (.primitive type)) :
    Infers cx (.variableRef ref) (type.shapes cx.dialect)
  | memberRef {ref : MemberRef} {type : PrimitiveType} (bound : cx.binding? ref.id = some (.primitive type)) :
    Infers cx (.memberRef ref) (type.shapes cx.dialect)
  | enumValue {ref : ColumnRef} {identity : Uuid} (bound : cx.binding? ref.id = some (.enumValue identity)) :
    Infers cx (.column ref) (Shape.single (cx.dialect.pick "binary(16)" "bytea"))
  | property {ref : ColumnRef} {property : Property} (bound : cx.binding? ref.id = some (.property property)) :
    Infers cx (.column ref) property.shapes
  | primitive {ref : ColumnRef} {type : PrimitiveType} (bound : cx.binding? ref.id = some (.primitive type)) :
    Infers cx (.column ref) (type.shapes cx.dialect)
  | computed {ref : ColumnRef} {id : NodeId} {definition : Projected} {shapes : List Shape}
    (bound : cx.binding? ref.id = some (.column id)) (defined : cx.definition? id = some definition)
    (inferred : Infers cx definition.expr shapes) : Infers cx (.column ref) shapes
  | function {call : Call} {sqlServer postgres : String}
    (typed : functionType call.upperName = some (.fixed sqlServer postgres)) :
    Infers cx (.call call) (Shape.single (cx.dialect.pick sqlServer postgres))
  | argument {call : Call} {e : Expr} {rest : List Expr} {shapes : List Shape}
    (untyped : functionType call.upperName = none) (args : call.args = e :: rest)
    (inferred : Infers cx e shapes) : Infers cx (.call call) shapes
  | result {condition result : Expr} {branches : List Branch} {otherwise : Option Expr} {shapes : List Shape}
    (inferred : Infers cx result shapes) :
    Infers cx (.caseWhen (⟨condition, result⟩ :: branches) otherwise) shapes
  | otherwise {e : Expr} {shapes : List Shape} (inferred : Infers cx e shapes) :
    Infers cx (.caseWhen [] (some e)) shapes
  | unary {op : UnaryOp} {operand : Expr} {shapes : List Shape} (inferred : Infers cx operand shapes) :
    Infers cx (.unary op operand) shapes
  | arithmetic {op : ArithmeticOp} {left right : Expr} {shapes : List Shape} (inferred : Infers cx left shapes) :
    Infers cx (.arithmetic op left right) shapes
  | group {inner : Expr} {shapes : List Shape} (inferred : Infers cx inner shapes) :
    Infers cx (.group inner) shapes
  | logical {op : LogicalOp} {left right : Expr} :
    Infers cx (.logical op left right) (Shape.single (cx.dialect.pick "binary(1)" "boolean"))
  | compare {op : CompareOp} {modifier : Option CompareModifier} {left right : Expr} :
    Infers cx (.compare op modifier left right) (Shape.single (cx.dialect.pick "binary(1)" "boolean"))
  | subquery {query : Query} {column : Projected} {rest : List Projected} {shapes : List Shape}
    (first : query.firstSelect.columns = column :: rest) (inferred : Infers cx column.expr shapes) :
    Infers cx (.subquery query) shapes

theorem Context.Infers.unique {cx : Context} {e : Expr} {first second : List Shape} (one : cx.Infers e first)
    (other : cx.Infers e second) : first = second := by
  induction one generalizing second with
  | literal typed =>
    cases other with
    | literal typed' =>
      obtain ⟨rfl, rfl⟩ := TypeSource.fixed.inj (typed.symm.trans typed')
      rfl
  | variableRef bound =>
    cases other with
    | variableRef bound' =>
      obtain rfl := Binding.primitive.inj (Option.some.inj (bound.symm.trans bound'))
      rfl
  | memberRef bound =>
    cases other with
    | memberRef bound' =>
      obtain rfl := Binding.primitive.inj (Option.some.inj (bound.symm.trans bound'))
      rfl
  | enumValue bound =>
    cases other with
    | enumValue => rfl
    | property bound' | primitive bound' | computed bound' => cases bound.symm.trans bound'
  | property bound =>
    cases other with
    | property bound' =>
      obtain rfl := Binding.property.inj (Option.some.inj (bound.symm.trans bound'))
      rfl
    | enumValue bound' | primitive bound' | computed bound' => cases bound.symm.trans bound'
  | primitive bound =>
    cases other with
    | primitive bound' =>
      obtain rfl := Binding.primitive.inj (Option.some.inj (bound.symm.trans bound'))
      rfl
    | enumValue bound' | property bound' | computed bound' => cases bound.symm.trans bound'
  | computed bound defined _ ih =>
    cases other with
    | computed bound' defined' inferred =>
      obtain rfl := Binding.column.inj (Option.some.inj (bound.symm.trans bound'))
      obtain rfl := Option.some.inj (defined.symm.trans defined')
      exact ih inferred
    | enumValue bound' | property bound' | primitive bound' => cases bound.symm.trans bound'
  | function typed =>
    cases other with
    | function typed' =>
      obtain ⟨rfl, rfl⟩ := TypeSource.fixed.inj (Option.some.inj (typed.symm.trans typed'))
      rfl
    | argument untyped => cases typed.symm.trans untyped
  | argument untyped args _ ih =>
    cases other with
    | function typed => cases untyped.symm.trans typed
    | argument _ args' inferred =>
      obtain ⟨rfl, -⟩ := List.cons.inj (args.symm.trans args')
      exact ih inferred
  | result _ ih =>
    cases other with
    | result inferred => exact ih inferred
  | otherwise _ ih =>
    cases other with
    | otherwise inferred => exact ih inferred
  | unary _ ih =>
    cases other with
    | unary inferred => exact ih inferred
  | arithmetic _ ih =>
    cases other with
    | arithmetic inferred => exact ih inferred
  | group _ ih =>
    cases other with
    | group inferred => exact ih inferred
  | logical =>
    cases other with
    | logical => rfl
  | compare =>
    cases other with
    | compare => rfl
  | subquery first _ ih =>
    cases other with
    | subquery first' inferred =>
      obtain ⟨rfl, -⟩ := List.cons.inj (first.symm.trans first')
      exact ih inferred

theorem LiteralKind.typeSource_cases (kind : LiteralKind) :
    kind.typeSource = .missing .nullType ∨ ∃ sqlServer postgres, kind.typeSource = .fixed sqlServer postgres := by
  cases kind with
  | null => exact .inl rfl
  | _ => exact .inr ⟨_, _, rfl⟩

theorem functionType_eq_fixed {upperName : String} {type : TypeSource}
    (typed : functionType upperName = some type) :
    ∃ sqlServer postgres, type = .fixed sqlServer postgres := by
  unfold functionType at typed
  repeat' split at typed
  all_goals first
    | exact ⟨_, _, (Option.some.inj typed).symm⟩
    | cases typed

namespace Context

variable {cx : Context} {steps : Nat}

@[simp] theorem shapesWithin_fixed (sqlServer postgres : String) :
    cx.shapesWithin steps (.fixed sqlServer postgres) =
      .ok (Shape.single (cx.dialect.pick sqlServer postgres)) := by
  cases steps <;> rfl

@[simp] theorem shapesWithin_missing (error : Error) :
    cx.shapesWithin steps (.missing error) = .error error := by
  cases steps <;> rfl

theorem shapesWithin_parameter {id : NodeId} {name : String} {shapes : List Shape}
    (ok : cx.shapesWithin steps (.parameter id name) = .ok shapes) :
    ∃ type, cx.binding? id = some (.primitive type) ∧ shapes = PrimitiveType.shapes cx.dialect type := by
  have search : cx.shapesWithin steps (.parameter id name) = cx.shapesWithin 0 (.parameter id name) := by
    cases steps <;> rfl
  rw [search, shapesWithin] at ok
  split at ok
  next type bound => exact ⟨type, bound, (Except.ok.inj ok).symm⟩
  next => cases ok

/-- What is found for references is inferred for them. -/
def FollowsRefs (cx : Context) (steps : Nat) : Prop :=
  ∀ ref shapes, cx.shapesWithin steps (.column ref) = .ok shapes → cx.Infers (.column ref) shapes

mutual

/-- If references are followed rightly, the columns of every expression are inferred. -/
theorem infers_of_source (follow : cx.FollowsRefs steps) : ∀ (e : Expr) {shapes : List Shape},
    cx.shapesWithin steps e.typeSource = .ok shapes → cx.Infers e shapes
  | .column ref, shapes, ok => follow ref shapes ok
  | .literal value, shapes, ok => by
    rw [Expr.typeSource] at ok
    rcases value.kind.typeSource_cases with untyped | ⟨sqlServer, postgres, typed⟩
    · simp [untyped] at ok
    · rw [typed, shapesWithin_fixed] at ok
      obtain rfl := Except.ok.inj ok
      exact .literal typed
  | .variableRef ref, shapes, ok => by
    obtain ⟨type, bound, rfl⟩ := shapesWithin_parameter ok
    exact .variableRef bound
  | .memberRef ref, shapes, ok => by
    obtain ⟨type, bound, rfl⟩ := shapesWithin_parameter ok
    exact .memberRef bound
  | .call ⟨id, name, args, distinct, window⟩, shapes, ok => by
    rw [Expr.typeSource] at ok
    split at ok
    next type typed =>
      obtain ⟨sqlServer, postgres, rfl⟩ := functionType_eq_fixed typed
      rw [shapesWithin_fixed] at ok
      obtain rfl := Except.ok.inj ok
      exact .function typed
    next untyped =>
      obtain ⟨e, rest, rfl, inferred⟩ := infers_of_head follow args ok
      exact .argument untyped rfl inferred
  | .caseWhen (⟨_, result⟩ :: _) _, _, ok => by
    rw [Expr.typeSource] at ok
    exact .result (infers_of_source follow result ok)
  | .caseWhen [] (some e), _, ok => by
    rw [Expr.typeSource] at ok
    exact .otherwise (infers_of_source follow e ok)
  | .caseWhen [] none, _, ok => by
    simp [Expr.typeSource] at ok
  | .unary _ operand, _, ok => by
    rw [Expr.typeSource] at ok
    exact .unary (infers_of_source follow operand ok)
  | .group inner, _, ok => by
    rw [Expr.typeSource] at ok
    exact .group (infers_of_source follow inner ok)
  | .arithmetic _ left _, _, ok => by
    rw [Expr.typeSource] at ok
    exact .arithmetic (infers_of_source follow left ok)
  | .logical _ _ _, _, ok => by
    rw [Expr.typeSource, shapesWithin_fixed] at ok
    obtain rfl := Except.ok.inj ok
    exact .logical
  | .compare _ _ _ _, _, ok => by
    rw [Expr.typeSource, shapesWithin_fixed] at ok
    obtain rfl := Except.ok.inj ok
    exact .compare
  | .subquery query, _, ok => by
    rw [Expr.typeSource] at ok
    obtain ⟨column, rest, first, inferred⟩ := infers_of_query follow query ok
    exact .subquery first inferred
  | .values _, _, ok | .star, _, ok => by
    simp [Expr.typeSource] at ok

theorem infers_of_head (follow : cx.FollowsRefs steps) {error : Error} :
    ∀ (args : List Expr) {shapes : List Shape}, cx.shapesWithin steps (headType error args) = .ok shapes →
      ∃ e rest, args = e :: rest ∧ cx.Infers e shapes
  | [], _, ok => by simp [headType] at ok
  | e :: rest, _, ok => by
    rw [headType] at ok
    exact ⟨e, rest, rfl, infers_of_source follow e ok⟩

theorem infers_of_query (follow : cx.FollowsRefs steps) : ∀ (query : Query) {shapes : List Shape},
    cx.shapesWithin steps query.typeSource = .ok shapes →
      ∃ column rest, query.firstSelect.columns = column :: rest ∧ cx.Infers column.expr shapes
  | .select ⟨_, _, _, [], _, _, _, _, _, _⟩, _, ok => by simp [Query.typeSource] at ok
  | .select ⟨_, _, _, ⟨id, expr, asName⟩ :: rest, _, _, _, _, _, _⟩, _, ok => by
    rw [Query.typeSource] at ok
    exact ⟨⟨id, expr, asName⟩, rest, rfl, infers_of_source follow expr ok⟩
  | .union _ left _ _, _, ok => by
    rw [Query.typeSource] at ok
    exact infers_of_query follow left ok

end

theorem infers_of_shapesWithin (steps : Nat) {e : Expr} {shapes : List Shape}
    (ok : cx.shapesWithin steps e.typeSource = .ok shapes) : cx.Infers e shapes := by
  induction steps generalizing e shapes with
  | zero =>
    refine infers_of_source (fun ref shapes ok => ?_) e ok
    cases ok
  | succ steps ih =>
    refine infers_of_source (fun ref shapes ok => ?_) e ok
    rw [shapesWithin] at ok
    split at ok
    next id bound =>
      split at ok
      next definition defined => exact .computed bound defined (ih ok)
      next => cases ok
    next identity bound =>
      obtain rfl := Except.ok.inj ok
      exact .enumValue bound
    next property bound =>
      obtain rfl := Except.ok.inj ok
      exact .property bound
    next type bound =>
      obtain rfl := Except.ok.inj ok
      exact .primitive bound
    next => cases ok

end Context

end SqlEmit
