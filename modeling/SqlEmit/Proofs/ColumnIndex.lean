import Mathlib.Data.List.Nodup
import SqlEmit.Proofs.InferenceEnds

/-!
Which columns the index of a script holds. The index follows projections, row sources and subqueries
that are whole columns. A subquery inside any other expression is not entered, so a reference to a
column that is projected there has no definition to be followed to.
-/
namespace SqlEmit

/-- A column of a projection, wherever in a script the projection stands. -/
structure Place where
  column : Projected
  /-- Nothing but projections, row sources and subqueries that are whole columns stand around it. -/
  isOpen : Bool

mutual

/-- The columns projected in an expression. Anything but a subquery hides them. -/
def Expr.places (isOpen : Bool) : Expr → List Place
  | .call ⟨_, _, args, _, window⟩ => eachPlaces args ++ windowPlaces window
  | .caseWhen branches otherwise => branchPlaces branches ++ optionPlaces otherwise
  | .unary _ operand => operand.places false
  | .logical _ left right => left.places false ++ right.places false
  | .arithmetic _ left right => left.places false ++ right.places false
  | .compare _ _ left right => left.places false ++ right.places false
  | .group inner => inner.places false
  | .values items => eachPlaces items
  | .subquery query => query.places isOpen
  | .column _ | .literal _ | .variableRef _ | .memberRef _ | .star => []

def eachPlaces : List Expr → List Place
  | [] => []
  | e :: es => e.places false ++ eachPlaces es

def optionPlaces : Option Expr → List Place
  | none => []
  | some e => e.places false

def branchPlaces : List Branch → List Place
  | [] => []
  | ⟨condition, result⟩ :: branches => condition.places false ++ result.places false ++ branchPlaces branches

def windowPlaces : Option Window → List Place
  | none => []
  | some ⟨partition, order, _⟩ => eachPlaces partition ++ orderPlaces order

def orderPlaces : Option SortClause → List Place
  | none => []
  | some ⟨items, offset, fetch⟩ => keyPlaces items ++ optionPlaces offset ++ optionPlaces fetch

def keyPlaces : List SortItem → List Place
  | [] => []
  | ⟨expr, _⟩ :: items => expr.places false ++ keyPlaces items

def Query.places (isOpen : Bool) : Query → List Place
  | .select ⟨_, _, top, columns, _, source, predicate, grouping, having, order⟩ =>
    projectionPlaces isOpen columns ++ sourcePlaces isOpen source ++
      (optionPlaces top ++ optionPlaces predicate ++ eachPlaces grouping ++ optionPlaces having ++
        orderPlaces order)
  | .union _ left right order => left.places isOpen ++ right.places isOpen ++ orderPlaces order

def projectionPlaces (isOpen : Bool) : List Projected → List Place
  | [] => []
  | ⟨id, expr, asName⟩ :: columns =>
    ⟨⟨id, expr, asName⟩, isOpen⟩ :: expr.places isOpen ++ projectionPlaces isOpen columns

def sourcePlaces (isOpen : Bool) : Option Source → List Place
  | none => []
  | some source => source.places isOpen

def Source.places (isOpen : Bool) : Source → List Place
  | .table _ => []
  | .derived ⟨_, query, _⟩ => query.places isOpen
  | .join _ left right condition => left.places isOpen ++ right.places isOpen ++ optionPlaces condition

end

def Reading.places : Reading Place where
  query := Query.places true
  columns := projectionPlaces true
  source := sourcePlaces true
  option := optionPlaces
  order := orderPlaces

def Statement.places (statement : Statement) : List Place :=
  Reading.places.statement statement

namespace Place

def reached (places : List Place) : List Projected :=
  (places.filter (·.isOpen)).map (·.column)

@[simp] theorem reached_nil : reached [] = [] := rfl

@[simp] theorem reached_open (column : Projected) (places : List Place) :
    reached (⟨column, true⟩ :: places) = column :: reached places := rfl

@[simp] theorem reached_hidden (column : Projected) (places : List Place) :
    reached (⟨column, false⟩ :: places) = reached places := rfl

@[simp] theorem reached_append (before after : List Place) :
    reached (before ++ after) = reached before ++ reached after := by
  simp [reached]

theorem reached_flatMap (xs : List α) (f : α → List Place) :
    reached (xs.flatMap f) = xs.flatMap fun x => reached (f x) := by
  induction xs with
  | nil => rfl
  | cons x xs ih => simp [ih]

theorem mem_reached {column : Projected} {places : List Place} :
    column ∈ reached places ↔ ⟨column, true⟩ ∈ places := by
  constructor
  · intro mem
    obtain ⟨⟨_, _⟩, kept, rfl⟩ := List.mem_map.mp mem
    obtain ⟨present, rfl⟩ := List.mem_filter.mp kept
    exact present
  · intro mem
    exact List.mem_map.mpr ⟨_, List.mem_filter.mpr ⟨mem, rfl⟩, rfl⟩

end Place

open Place (reached)

mutual

theorem Expr.reached_hidden_places : ∀ e : Expr, reached (e.places false) = []
  | .column _ | .literal _ | .variableRef _ | .memberRef _ | .star => rfl
  | .call ⟨_, _, args, _, window⟩ => by
    simp [Expr.places, reached_eachPlaces args, reached_windowPlaces window]
  | .caseWhen branches otherwise => by
    simp [Expr.places, reached_branchPlaces branches, reached_optionPlaces otherwise]
  | .unary _ inner | .group inner => by
    simp [Expr.places, inner.reached_hidden_places]
  | .logical _ left right | .arithmetic _ left right | .compare _ _ left right => by
    simp [Expr.places, left.reached_hidden_places, right.reached_hidden_places]
  | .values items => by simp [Expr.places, reached_eachPlaces items]
  | .subquery query => by simp [Expr.places, query.reached_hidden_places]

theorem reached_eachPlaces : ∀ es : List Expr, reached (eachPlaces es) = []
  | [] => rfl
  | e :: es => by simp [eachPlaces, e.reached_hidden_places, reached_eachPlaces es]

theorem reached_optionPlaces : ∀ e : Option Expr, reached (optionPlaces e) = []
  | none => rfl
  | some e => by simp [optionPlaces, e.reached_hidden_places]

theorem reached_branchPlaces : ∀ branches : List Branch, reached (branchPlaces branches) = []
  | [] => rfl
  | ⟨condition, result⟩ :: branches => by
    simp [branchPlaces, condition.reached_hidden_places, result.reached_hidden_places,
      reached_branchPlaces branches]

theorem reached_windowPlaces : ∀ window : Option Window, reached (windowPlaces window) = []
  | none => rfl
  | some ⟨partition, order, _⟩ => by
    simp [windowPlaces, reached_eachPlaces partition, reached_orderPlaces order]

theorem reached_orderPlaces : ∀ order : Option SortClause, reached (orderPlaces order) = []
  | none => rfl
  | some ⟨items, offset, fetch⟩ => by
    simp [orderPlaces, reached_keyPlaces items, reached_optionPlaces offset, reached_optionPlaces fetch]

theorem reached_keyPlaces : ∀ items : List SortItem, reached (keyPlaces items) = []
  | [] => rfl
  | ⟨expr, _⟩ :: items => by simp [keyPlaces, expr.reached_hidden_places, reached_keyPlaces items]

theorem Query.reached_hidden_places : ∀ query : Query, reached (query.places false) = []
  | .select ⟨_, _, top, columns, _, source, predicate, grouping, having, order⟩ => by
    simp [Query.places, reached_hidden_projection columns, reached_hidden_source source,
      reached_optionPlaces top, reached_optionPlaces predicate, reached_eachPlaces grouping,
      reached_optionPlaces having, reached_orderPlaces order]
  | .union _ left right order => by
    simp [Query.places, left.reached_hidden_places, right.reached_hidden_places, reached_orderPlaces order]

theorem reached_hidden_projection : ∀ columns : List Projected, reached (projectionPlaces false columns) = []
  | [] => rfl
  | ⟨_, expr, _⟩ :: columns => by
    simp [projectionPlaces, expr.reached_hidden_places, reached_hidden_projection columns]

theorem reached_hidden_source : ∀ source : Option Source, reached (sourcePlaces false source) = []
  | none => rfl
  | some source => by simp [sourcePlaces, source.reached_hidden_places]

theorem Source.reached_hidden_places : ∀ source : Source, reached (source.places false) = []
  | .table _ => rfl
  | .derived ⟨_, query, _⟩ => by simp [Source.places, query.reached_hidden_places]
  | .join _ left right condition => by
    simp [Source.places, left.reached_hidden_places, right.reached_hidden_places, reached_optionPlaces condition]

end

/-- Of all expressions only a subquery leaves the way open. -/
theorem Expr.places_closing {e : Expr} (other : ∀ query, e ≠ .subquery query) : e.places true = e.places false := by
  cases e with
  | subquery query => exact absurd rfl (other query)
  | call call =>
    cases call
    rfl
  | _ => rfl

theorem Expr.reached_closing_places {e : Expr} (other : ∀ query, e ≠ .subquery query) (id : NodeId)
    (asName : Option String) : reached (e.places true) = Projected.innerProjections ⟨id, e, asName⟩ := by
  rw [e.places_closing other, e.reached_hidden_places]
  cases e with
  | subquery query => exact absurd rfl (other query)
  | _ => rfl

mutual

theorem Query.reached_places : ∀ query : Query, reached (query.places true) = query.projections
  | .select ⟨_, _, top, columns, _, source, predicate, grouping, having, order⟩ => by
    have rows : reached (sourcePlaces true source) = Statement.sourceProjections source := by
      cases source with
      | none => rfl
      | some source => exact source.reached_places
    simp only [Query.places, Place.reached_append, reached_projectionPlaces columns, rows,
      reached_optionPlaces, reached_eachPlaces, reached_orderPlaces, List.append_nil]
    cases source <;> rfl
  | .union _ left right order => by
    simp only [Query.places, Place.reached_append, left.reached_places, right.reached_places,
      reached_orderPlaces, List.append_nil, Query.projections]

theorem reached_projectionPlaces : ∀ columns : List Projected,
    reached (projectionPlaces true columns) = projectionsOf columns
  | [] => rfl
  | ⟨id, expr, asName⟩ :: columns => by
    have inner : reached (expr.places true) = Projected.innerProjections ⟨id, expr, asName⟩ := by
      cases expr with
      | subquery query => exact query.reached_places
      | _ => exact Expr.reached_closing_places (by simp) id asName
    rw [projectionPlaces, List.cons_append, Place.reached_open, Place.reached_append, inner,
      reached_projectionPlaces columns, projectionsOf, List.cons_append]

theorem Source.reached_places : ∀ source : Source, reached (source.places true) = source.projections
  | .table _ => rfl
  | .derived ⟨_, query, _⟩ => by
    rw [Source.places, query.reached_places, Source.projections]
  | .join _ left right condition => by
    rw [Source.places, Place.reached_append, Place.reached_append, left.reached_places, right.reached_places,
      reached_optionPlaces, List.append_nil, Source.projections]

end

namespace Statement

theorem reached_source (source : Option Source) :
    reached (Reading.places.source source) = sourceProjections source := by
  cases source with
  | none => rfl
  | some source => exact source.reached_places

theorem reached_output (output : Option Output) : reached (Reading.places.output output) = outputProjections output := by
  cases output with
  | none => rfl
  | some output => exact reached_projectionPlaces output.columns

theorem reached_change (assignments : List Assignment) (predicate : Option Expr) :
    reached (Reading.places.change assignments predicate) = [] := by
  simp [Reading.change, Reading.places, Place.reached_flatMap, reached_optionPlaces]

theorem reached_ctes (ctes : List Cte) :
    reached (Reading.places.ctes ctes) = ctes.flatMap (·.query.projections) := by
  simp [Reading.ctes, Reading.places, Place.reached_flatMap, Query.reached_places]

/-- The columns of the index are those at the open places of a statement, in their order. -/
theorem reached_places (statement : Statement) : reached statement.places = statement.projections := by
  unfold places Reading.statement
  cases statement with
  | select s =>
    rw [Place.reached_append, reached_ctes]
    exact congrArg _ s.query.reached_places
  | insert s =>
    rw [Place.reached_append, reached_ctes, projections, ownProjections]
    cases s.source with
    | table table => rfl
    | derived derived => exact congrArg _ derived.query.reached_places
    | query query => exact congrArg _ query.reached_places
  | update s =>
    simp only [Place.reached_append, reached_ctes, reached_source, reached_output, reached_change, List.append_nil]
    rfl
  | delete s =>
    simp only [Place.reached_append, reached_ctes, reached_source, reached_output, reached_change, List.append_nil]
    rfl
  | upsert s =>
    simp only [Place.reached_append, reached_ctes, reached_source, reached_change, List.append_nil]
    rfl
  | consume s =>
    have clauses : reached (Reading.places.option s.top ++ Reading.places.option s.predicate ++
        Reading.places.order s.order) = [] := by
      simp [Reading.places, reached_optionPlaces, reached_orderPlaces]
    rw [Place.reached_append, Place.reached_append, clauses, List.append_nil, reached_source]
    exact congrArg (· ++ sourceProjections s.source) (reached_projectionPlaces s.columns)
  | tableVariable s => exact s.query.reached_places
  | temporaryTable s => exact s.query.reached_places
  | _ => rfl

end Statement

/-- Every column that is projected somewhere in a script. -/
def scriptPlaces (statements : List Statement) : List Place :=
  statements.flatMap Statement.places

section

variable {statements : List Statement}

theorem columnIndex_eq : columnIndex statements =
    Dict.ofList ((reached (scriptPlaces statements)).map fun column => (column.id, column)) := by
  simp only [columnIndex, scriptPlaces, Place.reached_flatMap, Statement.reached_places]

/-- The index has the column at an open place and nothing for a hidden one. -/
theorem find?_columnIndex (apart : ((scriptPlaces statements).map (·.column.id)).Nodup) {place : Place}
    (mem : place ∈ scriptPlaces statements) :
    (columnIndex statements).find? place.column.id = if place.isOpen then some place.column else none := by
  obtain ⟨column, isOpen⟩ := place
  rw [columnIndex_eq]
  cases isOpen with
  | true =>
    refine Dict.find?_ofList_of_mem ?_ (List.mem_map_of_mem (Place.mem_reached.mpr mem))
    have kept := (List.filter_sublist (p := Place.isOpen) (l := scriptPlaces statements)).map (·.column.id)
    simpa [reached, List.map_map, Function.comp_def] using apart.sublist kept
  | false =>
    rw [Dict.find?_ofList]
    simp only [Bool.false_eq_true, if_false, Option.map_eq_none_iff, List.find?_eq_none]
    intro entry listed same
    obtain ⟨other, present, rfl⟩ := List.mem_map.mp (List.mem_reverse.mp listed)
    have one := List.inj_on_of_nodup_map apart (Place.mem_reached.mp present) mem (of_decide_eq_true same)
    cases one

end

namespace Context

variable {cx : Context} {ref : ColumnRef} {id : NodeId}

/-- A reference to an indexed column has the type of its definition. -/
theorem shapes_of_definition (bound : cx.binding? ref.id = some (.column id)) {column : Projected}
    (defined : cx.definition? id = some column) (shapes : List Shape) :
    cx.shapes (.column ref) = .ok shapes ↔ cx.shapes column.expr = .ok shapes := by
  rw [shapes_eq_ok_iff, shapes_eq_ok_iff]
  constructor
  · intro inferred
    cases inferred with
    | computed bound' defined' inferred =>
      obtain rfl := Binding.column.inj (Option.some.inj (bound.symm.trans bound'))
      obtain rfl := Option.some.inj (defined.symm.trans defined')
      exact inferred
    | enumValue bound' | property bound' | primitive bound' => cases bound.symm.trans bound'
  · exact .computed bound defined

theorem shapes_of_undefined (bound : cx.binding? ref.id = some (.column id)) (absent : cx.definition? id = none) :
    cx.shapes (.column ref) = .error (.definitionUnresolved ref.id ref.identifier) := by
  simp only [shapes, Expr.typeSource, shapesWithin, bound, absent]

end Context

/-- In a script whose projected columns have distinct ids the index holds exactly the columns at open
places, so it is complete exactly if no place is hidden. A reference to an indexed column has the type
of its definition; a reference to a hidden one has none. -/
theorem columnIndex_holds_open_places {statements : List Statement}
    (apart : ((scriptPlaces statements).map (·.column.id)).Nodup) :
    ((∀ place ∈ scriptPlaces statements, (columnIndex statements).find? place.column.id = some place.column) ↔
      ∀ place ∈ scriptPlaces statements, place.isOpen = true) ∧
    ∀ place ∈ scriptPlaces statements,
      (columnIndex statements).find? place.column.id = (if place.isOpen then some place.column else none) ∧
      ∀ (cx : Context) (ref : ColumnRef), cx.columns = columnIndex statements →
        cx.binding? ref.id = some (.column place.column.id) →
        if place.isOpen then
          ∀ shapes, cx.shapes (.column ref) = .ok shapes ↔ cx.shapes place.column.expr = .ok shapes
        else cx.shapes (.column ref) = .error (.definitionUnresolved ref.id ref.identifier) := by
  refine ⟨forall₂_congr fun place mem => ?_, fun place mem => ⟨find?_columnIndex apart mem, ?_⟩⟩
  · rw [find?_columnIndex apart mem]
    cases place.isOpen <;> simp
  · intro cx ref indexed bound
    have found : cx.definition? place.column.id = if place.isOpen then some place.column else none := by
      rw [Context.definition?, indexed, find?_columnIndex apart mem]
    cases isOpen : place.isOpen with
    | true =>
      rw [isOpen] at found
      exact Context.shapes_of_definition bound found
    | false =>
      rw [isOpen] at found
      exact Context.shapes_of_undefined bound found

namespace Parenthesized

def total : Projected :=
  ⟨⟨4⟩, .literal ⟨.number, "7"⟩, some "Total"⟩

def read : Projected :=
  ⟨⟨2⟩, .column ⟨⟨3⟩, "d.Total"⟩, none⟩

def subquery : Expr :=
  .subquery (.select (.plain ⟨10⟩ [read] (some (.derived ⟨⟨11⟩, .select (.plain ⟨12⟩ [total] none), "d"⟩))))

def statement (expr : Expr) : Statement :=
  .select ⟨⟨14⟩, [], .select (.plain ⟨13⟩ [⟨⟨1⟩, expr, some "N"⟩] none)⟩

def context (expr : Expr) : Context :=
  .ofStatements .sqlServer (Bindings.empty.bind ⟨3⟩ (.column ⟨4⟩)) Catalog.empty Registry.standard 0
    (fun _ => default) [statement expr]

end Parenthesized

open Parenthesized in
/-- As a whole column the subquery is entered and the total it reads is followed; parentheses around it
hide the total. -/
theorem columnIndex_holds_open_places_parenthesized :
    (⟨total, true⟩ ∈ scriptPlaces [statement subquery] ∧
      ∀ shapes, (context subquery).shapes read.expr = .ok shapes ↔ (context subquery).shapes total.expr = .ok shapes) ∧
    (⟨total, false⟩ ∈ scriptPlaces [statement (.group subquery)] ∧
      (columnIndex [statement (.group subquery)]).find? ⟨4⟩ = none ∧
      (context (.group subquery)).shapes read.expr = .error (.definitionUnresolved ⟨3⟩ "d.Total")) := by
  have shown : ⟨total, true⟩ ∈ scriptPlaces [statement subquery] := .tail _ (.tail _ (.head _))
  have hidden : ⟨total, false⟩ ∈ scriptPlaces [statement (.group subquery)] := .tail _ (.tail _ (.head _))
  have apart : ((scriptPlaces [statement subquery]).map (·.column.id)).Nodup := by decide
  have apart' : ((scriptPlaces [statement (.group subquery)]).map (·.column.id)).Nodup := by decide
  obtain ⟨-, whole⟩ := columnIndex_holds_open_places apart
  obtain ⟨-, grouped⟩ := columnIndex_holds_open_places apart'
  obtain ⟨absent, unresolved⟩ := grouped _ hidden
  refine ⟨⟨shown, (whole _ shown).2 (context subquery) ⟨⟨3⟩, "d.Total"⟩ rfl rfl⟩, hidden, absent, ?_⟩
  exact unresolved (context (.group subquery)) ⟨⟨3⟩, "d.Total"⟩ rfl rfl

end SqlEmit
