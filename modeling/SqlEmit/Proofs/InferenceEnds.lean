import Mathlib.Data.List.Perm.Subperm
import Mathlib.Order.WellFounded
import SqlEmit.Proofs.Inference
import SqlEmit.Proofs.Nodes

/-! The search for the columns of an expression goes from an expression to the operand that gives it its
columns, and from a computed column to its definition, which may be larger. If references have a rank that
falls from each computed column to the references in its definition, the search ends wherever it starts.
A search that ends follows no definition twice, so the bound on the search does not cut it short. -/
namespace SqlEmit

/-- The operand that gives its columns to the whole. -/
inductive Expr.Leads : Expr → Expr → Prop
  | argument {call : Call} {e : Expr} {rest : List Expr} (untyped : functionType call.upperName = none)
    (args : call.args = e :: rest) : Leads (.call call) e
  | result {condition result : Expr} {branches : List Branch} {otherwise : Option Expr} :
    Leads (.caseWhen (⟨condition, result⟩ :: branches) otherwise) result
  | otherwise {e : Expr} : Leads (.caseWhen [] (some e)) e
  | unary {op : UnaryOp} {operand : Expr} : Leads (.unary op operand) operand
  | arithmetic {op : ArithmeticOp} {left right : Expr} : Leads (.arithmetic op left right) left
  | group {inner : Expr} : Leads (.group inner) inner
  | subquery {query : Query} {column : Projected} {rest : List Projected}
    (first : query.firstSelect.columns = column :: rest) : Leads (.subquery query) column.expr

/-- One step of the search: to an operand, or to the definition of a computed column. -/
inductive Context.Next (cx : Context) : Expr → Expr → Prop
  | operand {e operand : Expr} (leads : e.Leads operand) : Next cx e operand
  | definition {ref : ColumnRef} {id : NodeId} {definition : Projected}
    (bound : cx.binding? ref.id = some (.column id)) (defined : cx.definition? id = some definition) :
    Next cx (.column ref) definition.expr

/-- The search from the expression ends, whichever way it goes. -/
def Context.Ends (cx : Context) : Expr → Prop :=
  Acc fun next e => cx.Next e next

theorem Expr.Leads.unique {e first second : Expr} (one : e.Leads first) (other : e.Leads second) :
    first = second := by
  cases one with
  | argument _ args =>
    cases other with
    | argument _ args' => exact (List.cons.inj (args.symm.trans args')).1
  | subquery first =>
    cases other with
    | subquery first' =>
      obtain ⟨rfl, -⟩ := List.cons.inj (first.symm.trans first')
      rfl
  | _ =>
    cases other
    rfl

theorem Query.sizeOf_column_lt {query : Query} {column : Projected} {rest : List Projected}
    (first : query.firstSelect.columns = column :: rest) : sizeOf column.expr < sizeOf query := by
  induction query using Query.firstSelect.induct with
  | case1 s =>
    obtain ⟨id, distinct, top, columns, intoTable, source, predicate, grouping, having, order⟩ := s
    obtain ⟨node, expr, asName⟩ := column
    obtain rfl : columns = ⟨node, expr, asName⟩ :: rest := first
    simp
    omega
  | case2 all left right order ih =>
    have smaller := ih first
    simp
    omega

theorem Query.nodes_of_column {query : Query} {column : Projected} {rest : List Projected}
    (first : query.firstSelect.columns = column :: rest) : column.expr.nodes ⊆ query.nodes := by
  induction query using Query.firstSelect.induct with
  | case1 s =>
    obtain ⟨id, distinct, top, columns, intoTable, source, predicate, grouping, having, order⟩ := s
    obtain ⟨node, expr, asName⟩ := column
    obtain rfl : columns = ⟨node, expr, asName⟩ :: rest := first
    rw [Query.nodes, projectionNodes]
    intro part mem
    simp only [List.mem_append]
    exact .inr (.inr (.inl (.inl mem)))
  | case2 all left right order ih =>
    rw [Query.nodes]
    exact List.Subset.trans (ih first) (List.subset_append_left _ _)

theorem Expr.Leads.sizeOf_lt {e operand : Expr} (leads : e.Leads operand) : sizeOf operand < sizeOf e := by
  cases leads with
  | @argument call _ _ _ args =>
    obtain ⟨id, name, list, distinct, window⟩ := call
    obtain rfl : list = _ := args
    simp
    omega
  | subquery first =>
    have smaller := Query.sizeOf_column_lt first
    simp
    omega
  | group => simp
  | result =>
    simp only [Expr.caseWhen.sizeOf_spec, List.cons.sizeOf_spec, Branch.mk.sizeOf_spec]
    omega
  | otherwise =>
    simp only [Expr.caseWhen.sizeOf_spec, Option.some.sizeOf_spec]
    omega
  | unary | arithmetic =>
    simp only [Expr.unary.sizeOf_spec, Expr.arithmetic.sizeOf_spec]
    omega

theorem Expr.Leads.nodes_subset {e operand : Expr} (leads : e.Leads operand) : operand.nodes ⊆ e.nodes := by
  intro part mem
  cases leads with
  | @argument call _ _ _ args =>
    obtain ⟨id, name, list, distinct, window⟩ := call
    obtain rfl : list = _ := args
    simp only [Expr.nodes, eachNodes, List.mem_cons, List.mem_append]
    exact .inr (.inl (.inl mem))
  | result =>
    simp only [Expr.nodes, branchNodes, List.mem_cons, List.mem_append]
    exact .inr (.inl (.inr (.inl mem)))
  | otherwise =>
    simp only [Expr.nodes, optionNodes, List.mem_cons, List.mem_append]
    exact .inr (.inr mem)
  | unary | group =>
    rw [Expr.nodes]
    exact .tail _ mem
  | arithmetic =>
    rw [Expr.nodes]
    exact .tail _ (List.mem_append_left _ mem)
  | subquery first =>
    rw [Expr.nodes]
    exact .tail _ (Query.nodes_of_column first mem)

theorem Expr.Leads.parts_subset {e operand : Expr} (leads : e.Leads operand) : operand.parts ⊆ e.parts :=
  fun _ mem => Expr.mem_parts.mpr (leads.nodes_subset (Expr.mem_parts.mp mem))

theorem Query.typeSource_eq (query : Query) : query.typeSource =
    match query.firstSelect.columns with
    | [] => .missing .emptySubqueryType
    | column :: _ => column.expr.typeSource := by
  induction query using Query.firstSelect.induct with
  | case1 s =>
    obtain ⟨id, distinct, top, columns, intoTable, source, predicate, grouping, having, order⟩ := s
    rcases columns with _ | ⟨⟨node, expr, asName⟩, rest⟩ <;> rw [Query.typeSource] <;> rfl
  | case2 all left right order ih =>
    rw [Query.typeSource, ih]
    rfl

/-- The whole takes its type from where the operand takes it from. -/
theorem Expr.Leads.typeSource_eq {e operand : Expr} (leads : e.Leads operand) :
    e.typeSource = operand.typeSource := by
  cases leads with
  | @argument call _ _ untyped args =>
    obtain ⟨id, name, list, distinct, window⟩ := call
    obtain rfl : list = _ := args
    have none : functionType (Text.upper name) = none := untyped
    simp only [Expr.typeSource, none, headType]
  | subquery first => rw [Expr.typeSource, Query.typeSource_eq, first]
  | _ => rw [Expr.typeSource]

/-- The rank falls from each computed column to every reference in its definition. -/
def Context.Ranked {α : Type} [LT α] (cx : Context) (rank : NodeId → α) : Prop :=
  ∀ node id definition, cx.binding? node = some (.column id) → cx.definition? id = some definition →
    ∀ ref, .column ref ∈ definition.expr.parts → rank ref.id < rank node

namespace Context

variable {cx : Context} {e : Expr}

/-- An expression is searched to the end if its references are. The operands get smaller. -/
theorem ends_of_references (e : Expr) (references : ∀ ref, .column ref ∈ e.parts → cx.Ends (.column ref)) :
    cx.Ends e := by
  apply Acc.intro
  intro next step
  cases step with
  | operand leads =>
    apply ends_of_references next
    intro ref mem
    exact references ref (leads.parts_subset mem)
  | definition bound defined =>
    exact (references _ (Expr.mem_parts_self _)).inv (.definition bound defined)
termination_by sizeOf e
decreasing_by exact leads.sizeOf_lt

theorem Ranked.ends_reference {α : Type} [LT α] [WellFoundedLT α] {rank : NodeId → α}
    (ranked : cx.Ranked rank) (ref : ColumnRef) : cx.Ends (.column ref) := by
  -- by induction on the rank of the reference; only a definition leads on from it
  induction h : rank ref.id using WellFoundedLT.induction generalizing ref with
  | ind level ih =>
    apply Acc.intro
    intro next step
    cases step with
    | operand leads => cases leads
    | definition bound defined =>
      apply ends_of_references
      intro other mem
      exact ih _ (h ▸ ranked ref.id _ _ bound defined other mem) other rfl

theorem Ranked.ends {α : Type} [LT α] [WellFoundedLT α] {rank : NodeId → α} (ranked : cx.Ranked rank)
    (e : Expr) : cx.Ends e :=
  ends_of_references e fun ref _ => ranked.ends_reference ref

/-- The definitions that the search follows until it ends, in order. -/
inductive Follows (cx : Context) : Expr → List NodeId → Prop
  | done {e : Expr} (last : ∀ next, ¬cx.Next e next) : Follows cx e []
  | operand {e operand : Expr} {ids : List NodeId} (leads : e.Leads operand)
    (onward : Follows cx operand ids) : Follows cx e ids
  | definition {ref : ColumnRef} {id : NodeId} {definition : Projected} {ids : List NodeId}
    (bound : cx.binding? ref.id = some (.column id)) (defined : cx.definition? id = some definition)
    (onward : Follows cx definition.expr ids) : Follows cx (.column ref) (id :: ids)

theorem Ends.follows (ends : cx.Ends e) : ∃ ids, cx.Follows e ids := by
  induction ends with
  | intro e _ ih =>
    by_cases last : ∃ next, cx.Next e next
    · obtain ⟨next, step⟩ := last
      obtain ⟨ids, onward⟩ := ih next step
      cases step with
      | operand leads => exact ⟨ids, .operand leads onward⟩
      | definition bound defined => exact ⟨_ :: ids, .definition bound defined onward⟩
    · exact ⟨[], .done (not_exists.mp last)⟩

namespace Follows

variable {ids : List NodeId}

theorem unique {others : List NodeId} (one : cx.Follows e ids) (other : cx.Follows e others) :
    ids = others := by
  induction one generalizing others with
  | done last =>
    cases other with
    | done => rfl
    | operand leads => exact absurd (.operand leads) (last _)
    | definition bound defined => exact absurd (.definition bound defined) (last _)
  | operand leads _ ih =>
    cases other with
    | done last => exact absurd (.operand leads) (last _)
    | operand leads' onward =>
      obtain rfl := leads.unique leads'
      exact ih onward
    | definition => cases leads
  | definition bound defined _ ih =>
    cases other with
    | done last => exact absurd (.definition bound defined) (last _)
    | operand leads => cases leads
    | definition bound' defined' onward =>
      obtain rfl := Binding.column.inj (Option.some.inj (bound.symm.trans bound'))
      obtain rfl := Option.some.inj (defined.symm.trans defined')
      rw [ih onward]

/-- From a definition that is followed the search goes on with fewer of them. -/
theorem onward_of_mem (follows : cx.Follows e ids) {id : NodeId} (mem : id ∈ ids) :
    ∃ definition rest, cx.definition? id = some definition ∧ cx.Follows definition.expr rest ∧
      rest.length < ids.length := by
  induction follows with
  | done => cases mem
  | operand _ _ ih => exact ih mem
  | definition bound defined onward ih =>
    rcases List.mem_cons.mp mem with rfl | later
    · exact ⟨_, _, defined, onward, Nat.lt_succ_self _⟩
    · obtain ⟨definition, rest, found, behind, fewer⟩ := ih later
      exact ⟨definition, rest, found, behind, Nat.lt_succ_of_lt fewer⟩

/-- No definition is followed twice: from its second place the search would go on as from its first. -/
theorem nodup (follows : cx.Follows e ids) : ids.Nodup := by
  induction follows with
  | done => exact List.nodup_nil
  | operand _ _ ih => exact ih
  | definition bound defined onward ih =>
    refine List.nodup_cons.mpr ⟨fun again => ?_, ih⟩
    obtain ⟨definition, rest, found, behind, fewer⟩ := onward.onward_of_mem again
    obtain rfl := Option.some.inj (defined.symm.trans found)
    rw [onward.unique behind] at fewer
    exact Nat.lt_irrefl _ fewer

theorem length_le (follows : cx.Follows e ids) : ids.length ≤ cx.columns.size := by
  have known : ids ⊆ cx.columns.entries.map (·.1) := by
    intro id mem
    obtain ⟨definition, -, found, -⟩ := follows.onward_of_mem mem
    exact (cx.columns.mem_keys_iff id).mpr ⟨definition, found⟩
  simpa [Dict.size] using (List.subperm_of_subset follows.nodup known).length_le

end Follows

/-- With a bound beyond that many references the outcome is always the same one, and it is not that the
bound was reached. -/
def SettlesAt (cx : Context) (count : Nat) (e : Expr) : Prop :=
  ∃ outcome, (∀ id name, outcome ≠ .error (.cyclicColumn id name)) ∧
    ∀ steps, count < steps → cx.shapesWithin steps e.typeSource = outcome

theorem settlesAt_reference {ref : ColumnRef} (last : ∀ next, ¬cx.Next (.column ref) next) :
    cx.SettlesAt 0 (.column ref) := by
  have undefined (id : NodeId) (bound : cx.binding? ref.id = some (.column id)) : cx.definition? id = none :=
    Option.eq_none_iff_forall_ne_some.mpr fun _ defined => last _ (.definition bound defined)
  refine ⟨cx.shapesWithin 1 (.column ref), fun id name cyclic => ?_, fun steps positive => ?_⟩
  · simp only [shapesWithin] at cyclic
    split at cyclic
    next other bound => simp [undefined other bound] at cyclic
    all_goals cases cyclic
  · obtain ⟨steps, rfl⟩ := Nat.exists_eq_succ_of_ne_zero (Nat.ne_of_gt positive)
    simp only [Expr.typeSource, shapesWithin]
    split
    next id bound => simp [undefined id bound]
    all_goals rfl

theorem settlesAt_parameter {id : NodeId} {name : String} (is : e.typeSource = .parameter id name) :
    cx.SettlesAt 0 e := by
  refine ⟨cx.shapesWithin 0 (.parameter id name), fun node other cyclic => ?_, fun steps _ => ?_⟩
  · simp only [shapesWithin] at cyclic
    split at cyclic <;> cases cyclic
  · rw [is]
    cases steps <;> rfl

theorem settlesAt_fixed (sqlServer postgres : String) (is : e.typeSource = .fixed sqlServer postgres) :
    cx.SettlesAt 0 e :=
  ⟨.ok (Shape.single (cx.dialect.pick sqlServer postgres)), nofun, fun _ _ => by rw [is, shapesWithin_fixed]⟩

theorem settlesAt_missing (error : Error) (is : e.typeSource = .missing error)
    (definite : ∀ id name, error ≠ .cyclicColumn id name) : cx.SettlesAt 0 e :=
  ⟨.error error, fun id name cyclic => definite id name (Except.error.inj cyclic),
    fun _ _ => by rw [is, shapesWithin_missing]⟩

/-- Where no step leads on, the expression itself has the answer. -/
theorem settlesAt_of_last (last : ∀ next, ¬cx.Next e next) : cx.SettlesAt 0 e := by
  cases e with
  | column ref => exact settlesAt_reference last
  | literal value =>
    rcases value.kind.typeSource_cases with untyped | ⟨sqlServer, postgres, typed⟩
    · exact settlesAt_missing .nullType (by rw [Expr.typeSource, untyped]) nofun
    · exact settlesAt_fixed sqlServer postgres (by rw [Expr.typeSource, typed])
  | variableRef ref => exact settlesAt_parameter (by rw [Expr.typeSource])
  | memberRef ref => exact settlesAt_parameter (by rw [Expr.typeSource])
  | call call =>
    obtain ⟨id, name, args, distinct, window⟩ := call
    cases typed : functionType (Text.upper name) with
    | some type =>
      obtain ⟨sqlServer, postgres, rfl⟩ := functionType_eq_fixed typed
      exact settlesAt_fixed sqlServer postgres (by simp only [Expr.typeSource, typed])
    | none =>
      cases args with
      | nil =>
        exact settlesAt_missing (.functionType id name) (by simp only [Expr.typeSource, typed, headType]) nofun
      | cons e rest => exact absurd (.operand (.argument typed rfl)) (last e)
  | caseWhen branches otherwise =>
    rcases branches with _ | ⟨⟨condition, result⟩, rest⟩
    · cases otherwise with
      | none => exact settlesAt_missing .emptyCaseType (by rw [Expr.typeSource]) nofun
      | some e => exact absurd (.operand .otherwise) (last e)
    · exact absurd (.operand .result) (last result)
  | unary op operand => exact absurd (.operand .unary) (last operand)
  | arithmetic op left right => exact absurd (.operand .arithmetic) (last left)
  | group inner => exact absurd (.operand .group) (last inner)
  | logical | compare => exact settlesAt_fixed "binary(1)" "boolean" (by rw [Expr.typeSource])
  | subquery query =>
    cases columns : query.firstSelect.columns with
    | nil =>
      refine settlesAt_missing .emptySubqueryType ?_ nofun
      rw [Expr.typeSource, Query.typeSource_eq, columns]
    | cons column rest => exact absurd (.operand (.subquery columns)) (last column.expr)
  | values | star => exact settlesAt_missing .valueListType (by rw [Expr.typeSource]) nofun

theorem Follows.settlesAt {ids : List NodeId} (follows : cx.Follows e ids) : cx.SettlesAt ids.length e := by
  induction follows with
  | done last => exact settlesAt_of_last last
  | operand leads _ ih =>
    rw [SettlesAt, leads.typeSource_eq]
    exact ih
  | definition bound defined _ ih =>
    obtain ⟨outcome, definite, settled⟩ := ih
    refine ⟨outcome, definite, fun steps enough => ?_⟩
    obtain ⟨steps, rfl⟩ := Nat.exists_eq_succ_of_ne_zero (Nat.ne_of_gt (Nat.zero_lt_of_lt enough))
    simp only [Expr.typeSource, shapesWithin, bound, defined]
    exact settled steps (Nat.lt_of_succ_lt_succ enough)

/-- The search ends and finds the columns as soon as its bound lets it end. -/
def Finds (cx : Context) (e : Expr) (shapes : List Shape) : Prop :=
  ∃ ids, cx.Follows e ids ∧ ∀ steps, ids.length < steps → cx.shapesWithin steps e.typeSource = .ok shapes

section

variable {shapes : List Shape}

theorem Finds.of_leads {operand : Expr} (leads : e.Leads operand) (found : cx.Finds operand shapes) :
    cx.Finds e shapes := by
  obtain ⟨ids, onward, settled⟩ := found
  exact ⟨ids, .operand leads onward, leads.typeSource_eq ▸ settled⟩

theorem finds_reference {ref : ColumnRef} (known : ∀ id, cx.binding? ref.id ≠ some (.column id))
    (own : ∀ steps, cx.shapesWithin (steps + 1) (.column ref) = .ok shapes) : cx.Finds (.column ref) shapes := by
  refine ⟨[], .done fun next step => ?_, fun steps positive => ?_⟩
  · cases step with
    | operand leads => cases leads
    | definition bound _ => exact known _ bound
  · obtain ⟨steps, rfl⟩ := Nat.exists_eq_succ_of_ne_zero (Nat.ne_of_gt positive)
    exact own steps

/-- An expression with a type of its own has no operand that gives it one. -/
theorem finds_fixed {sqlServer postgres : String} (is : e.typeSource = .fixed sqlServer postgres)
    (last : ∀ next, ¬cx.Next e next) : cx.Finds e (Shape.single (cx.dialect.pick sqlServer postgres)) :=
  ⟨[], .done last, fun _ _ => by rw [is, shapesWithin_fixed]⟩

theorem finds_parameter {id : NodeId} {name : String} {type : PrimitiveType}
    (is : e.typeSource = .parameter id name) (bound : cx.binding? id = some (.primitive type))
    (last : ∀ next, ¬cx.Next e next) : cx.Finds e (type.shapes cx.dialect) := by
  refine ⟨[], .done last, fun steps _ => ?_⟩
  rw [is]
  cases steps <;> simp only [shapesWithin, bound]

theorem Infers.finds (inferred : cx.Infers e shapes) : cx.Finds e shapes := by
  induction inferred with
  | literal typed =>
    refine finds_fixed (by rw [Expr.typeSource, typed]) ?_
    rintro _ ⟨⟨⟩⟩
  | variableRef bound =>
    refine finds_parameter (by rw [Expr.typeSource]) bound ?_
    rintro _ ⟨⟨⟩⟩
  | memberRef bound =>
    refine finds_parameter (by rw [Expr.typeSource]) bound ?_
    rintro _ ⟨⟨⟩⟩
  | enumValue bound | property bound | primitive bound =>
    refine finds_reference (fun id other => ?_) fun steps => by simp only [shapesWithin, bound]
    cases bound.symm.trans other
  | computed bound defined _ ih =>
    obtain ⟨ids, onward, settled⟩ := ih
    refine ⟨_ :: ids, .definition bound defined onward, fun steps enough => ?_⟩
    obtain ⟨steps, rfl⟩ := Nat.exists_eq_succ_of_ne_zero (Nat.ne_of_gt (Nat.zero_lt_of_lt enough))
    simp only [Expr.typeSource, shapesWithin, bound, defined]
    exact settled steps (Nat.lt_of_succ_lt_succ enough)
  | @function call _ _ typed =>
    obtain ⟨id, name, args, distinct, window⟩ := call
    have own : functionType (Text.upper name) = some (.fixed _ _) := typed
    refine finds_fixed (by simp only [Expr.typeSource, own]) ?_
    rintro _ ⟨⟨untyped, _⟩⟩
    cases typed.symm.trans untyped
  | argument untyped args _ ih => exact ih.of_leads (.argument untyped args)
  | result _ ih => exact ih.of_leads .result
  | otherwise _ ih => exact ih.of_leads .otherwise
  | unary _ ih => exact ih.of_leads .unary
  | arithmetic _ ih => exact ih.of_leads .arithmetic
  | group _ ih => exact ih.of_leads .group
  | logical | compare =>
    refine finds_fixed (by rw [Expr.typeSource]) ?_
    rintro _ ⟨⟨⟩⟩
  | subquery first _ ih => exact ih.of_leads (.subquery first)

theorem shapes_eq_ok_iff : cx.shapes e = .ok shapes ↔ cx.Infers e shapes := by
  constructor
  · exact infers_of_shapesWithin _
  · intro inferred
    obtain ⟨ids, follows, settled⟩ := inferred.finds
    exact settled _ (Nat.lt_succ_of_le follows.length_le)

end

/-- The physical columns of a projected column: those that its mapping records if it records all their
types, else those that are inferred for its expression. -/
inductive Defines (cx : Context) (column : Projected) : List ColumnDefinition → Prop
  | recorded {definitions : List ColumnDefinition}
    (recorded : (cx.referenceMapping? column.expr).bind recordedColumns = some definitions) :
    Defines cx column definitions
  | inferred {shapes : List Shape} (unrecorded : (cx.referenceMapping? column.expr).bind recordedColumns = none)
    (inferred : cx.Infers column.expr shapes) :
    Defines cx column (shapes.map (Shape.definition (cx.definitionName column)))

theorem columnDefinitions_eq_ok_iff {column : Projected} {definitions : List ColumnDefinition} :
    cx.columnDefinitions column = .ok definitions ↔ cx.Defines column definitions := by
  unfold columnDefinitions
  split
  next recorded is =>
    constructor
    · intro found
      obtain rfl := Except.ok.inj found
      exact .recorded is
    · intro defines
      cases defines with
      | recorded is' => rw [Option.some.inj (is.symm.trans is')]
      | inferred unrecorded => cases is.symm.trans unrecorded
  next is =>
    simp only [Except.bind_ok, Except.pure_ok, shapes_eq_ok_iff]
    constructor
    · rintro ⟨shapes, inferred, rfl⟩
      exact .inferred is inferred
    · intro defines
      cases defines with
      | recorded is' => cases is.symm.trans is'
      | inferred _ inferred => exact ⟨_, inferred, rfl⟩

theorem tableDefinition_eq_ok_iff {columns : List Projected} {definitions : List ColumnDefinition} :
    cx.tableDefinition columns = .ok definitions ↔
      ∃ parts, List.Forall₂ cx.Defines columns parts ∧ parts.flatten = definitions := by
  have each : (fun column part => cx.columnDefinitions column = .ok part) = cx.Defines := by
    funext column part
    exact propext columnDefinitions_eq_ok_iff
  simp only [tableDefinition, Except.bind_ok, Except.pure_ok, Except.mapM_ok, each]

/-- The outcome is the right answer, and a failure where there is none. It is never that the bound on the
search was reached. -/
structure Definite (outcome : Except Error α) (right : α → Prop) : Prop where
  eq_ok_iff : ∀ a, outcome = .ok a ↔ right a
  not_cyclic : ∀ id name, outcome ≠ .error (.cyclicColumn id name)

theorem Ends.shapes_not_cyclic (ends : cx.Ends e) (id : NodeId) (name : String) :
    cx.shapes e ≠ .error (.cyclicColumn id name) := by
  obtain ⟨ids, follows⟩ := ends.follows
  obtain ⟨outcome, definite, settled⟩ := follows.settlesAt
  rw [shapes, settled _ (Nat.lt_succ_of_le follows.length_le)]
  exact definite id name

theorem Ends.definite {column : Projected} (ends : cx.Ends column.expr) :
    Definite (cx.columnDefinitions column) (cx.Defines column) := by
  refine ⟨fun _ => columnDefinitions_eq_ok_iff, fun id name cyclic => ?_⟩
  unfold columnDefinitions at cyclic
  split at cyclic
  · cases cyclic
  · cases found : cx.shapes column.expr with
    | ok shapes => rw [found] at cyclic; cases cyclic
    | error error =>
      rw [found] at cyclic
      obtain rfl : error = .cyclicColumn id name := Except.error.inj cyclic
      exact ends.shapes_not_cyclic id name found

/-- With ranked references every search ends, however long the chains of definitions and however deep the
expressions: the columns of a projected column and of a whole projection are found, or it is said why there
are none. -/
theorem inference_ends {α : Type} [LT α] [WellFoundedLT α] (cx : Context) (rank : NodeId → α)
    (ranked : cx.Ranked rank) :
    (∀ e, cx.Ends e) ∧ (∀ column, Definite (cx.columnDefinitions column) (cx.Defines column)) ∧
    ∀ columns, Definite (cx.tableDefinition columns) fun definitions =>
      ∃ parts, List.Forall₂ cx.Defines columns parts ∧ parts.flatten = definitions := by
  refine ⟨ranked.ends, fun column => (ranked.ends column.expr).definite, fun columns => ?_⟩
  refine ⟨fun _ => tableDefinition_eq_ok_iff, fun id name cyclic => ?_⟩
  rcases Except.bind_error.mp cyclic with failed | ⟨_, -, done⟩
  · obtain ⟨column, -, failed⟩ := Except.exists_of_mapM_error failed
    exact (ranked.ends column.expr).definite.not_cyclic id name failed
  · cases done

namespace RunningTotal

def quantity : Projected :=
  ⟨⟨2⟩, .arithmetic .mul (.column ⟨⟨1⟩, "s.Quantity"⟩) (.literal ⟨.number, "2"⟩), some "Amount"⟩

/-- The definition reads the computed amount in a CASE and in its condition. -/
def total : Projected :=
  ⟨⟨5⟩, .caseWhen [⟨.compare .gt none (.column ⟨⟨3⟩, "a.Amount"⟩) (.literal ⟨.number, "0"⟩),
    .group (.column ⟨⟨4⟩, "a.Amount"⟩)⟩] none, some "Total"⟩

def last : Projected :=
  ⟨⟨7⟩, .subquery (.select (.plain ⟨8⟩ [⟨⟨9⟩, .column ⟨⟨6⟩, "t.Total"⟩, none⟩] none)), some "Last"⟩

def query : Query :=
  let amounts : Select := .plain ⟨10⟩ [quantity] (some (.table ⟨⟨11⟩, "Stock", some "s"⟩))
  let totals : Select := .plain ⟨12⟩ [total] (some (.derived ⟨⟨13⟩, .select amounts, "a"⟩))
  .select (.plain ⟨14⟩ [last] (some (.derived ⟨⟨15⟩, .select totals, "t"⟩)))

def bindings : Bindings :=
  Bindings.empty |>.bind ⟨1⟩ (.primitive .decimal) |>.bind ⟨3⟩ (.column ⟨2⟩) |>.bind ⟨4⟩ (.column ⟨2⟩)
    |>.bind ⟨6⟩ (.column ⟨5⟩)

def context (dialect : Dialect) : Context :=
  .ofStatements dialect bindings Catalog.empty Registry.standard 0 (fun _ => default) [.select ⟨⟨16⟩, [], query⟩]

/-- Ids were handed out from the inside out. -/
theorem ranked (dialect : Dialect) : (context dialect).Ranked (·.index.toNat) := by
  have amount (ref : ColumnRef) (mem : .column ref ∈ quantity.expr.parts) : ref.id = ⟨1⟩ := by
    simp [quantity, Expr.mem_parts, Expr.nodes] at mem
    rw [mem]
  have totals (ref : ColumnRef) (mem : .column ref ∈ total.expr.parts) : ref.id = ⟨3⟩ ∨ ref.id = ⟨4⟩ := by
    simp [total, Expr.mem_parts, Expr.nodes, branchNodes, optionNodes] at mem
    rcases mem with rfl | rfl <;> simp
  intro node id definition bound defined ref mem
  have known : node ∈ [⟨1⟩, ⟨3⟩, ⟨4⟩, ⟨6⟩] := (bindings.bindings.mem_keys_iff node).mpr ⟨_, bound⟩
  obtain rfl | either | rfl : node = ⟨1⟩ ∨ (node = ⟨3⟩ ∨ node = ⟨4⟩) ∨ node = ⟨6⟩ := by
    simpa [or_assoc] using known
  · cases bound
  · obtain ⟨rfl, later⟩ : ⟨2⟩ = id ∧ 1 < node.index.toNat := by
      rcases either with rfl | rfl <;> exact ⟨Binding.column.inj (Option.some.inj bound), by decide⟩
    obtain rfl : quantity = definition := Option.some.inj defined
    rw [amount ref mem]
    exact later
  · obtain rfl : ⟨5⟩ = id := Binding.column.inj (Option.some.inj bound)
    obtain rfl : total = definition := Option.some.inj defined
    rcases totals ref mem with is | is <;> rw [is] <;> decide

end RunningTotal

/-- A column that is read in a subquery takes its type from a CASE, and the CASE takes it from a product. -/
theorem inference_ends_of_running_total :
    (RunningTotal.context .sqlServer).Ranked (·.index.toNat) ∧
    (RunningTotal.context .sqlServer).Ends RunningTotal.last.expr ∧
    (RunningTotal.context .sqlServer).Defines RunningTotal.last [⟨"Last", "numeric(19,5)"⟩] := by
  obtain ⟨ends, definite, -⟩ := inference_ends (RunningTotal.context .sqlServer) (·.index.toNat)
    (RunningTotal.ranked .sqlServer)
  refine ⟨RunningTotal.ranked .sqlServer, ends _, ((definite _).eq_ok_iff _).mp ?_⟩
  decide +kernel

end Context

end SqlEmit
