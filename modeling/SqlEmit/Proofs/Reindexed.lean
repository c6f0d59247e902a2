import SqlEmit.Proofs.Agreement
import SqlEmit.Statement

/-! The indexes of a script play no part in the text of its expressions, queries and row sources:
columns are written from what is recorded for them, tables from what they denote. Of the statements
only those that declare columns or insert from a named query look into the indexes. -/
namespace SqlEmit

namespace Context

/-- The context with the columns and named queries of another script. -/
def reindexed (cx : Context) (columns : Dict NodeId Projected) (tables : Dict String Query) : Context :=
  { cx with columns, tables }

variable (cx : Context) (columns : Dict NodeId Projected) (tables : Dict String Query)

@[simp] theorem reindexed_dialect : (cx.reindexed columns tables).dialect = cx.dialect := rfl

@[simp] theorem reindexed_binding? (id : NodeId) :
    (cx.reindexed columns tables).binding? id = cx.binding? id := rfl

@[simp] theorem reindexed_referenceMapping? (e : Expr) :
    (cx.reindexed columns tables).referenceMapping? e = cx.referenceMapping? e := by
  cases e <;> rfl

@[simp] theorem reindexed_tableName (table : TableRef) :
    (cx.reindexed columns tables).tableName table = cx.tableName table := rfl

@[simp] theorem reindexed_tableSource (table : TableRef) :
    (cx.reindexed columns tables).tableSource table = cx.tableSource table := rfl

@[simp] theorem reindexed_withHint (id : NodeId) (hint : String) :
    (cx.reindexed columns tables).withHint id hint = (cx.withHint id hint).reindexed columns tables := rfl

end Context

section

variable {cx : Context} {columns : Dict NodeId Projected} {tables : Dict String Query}

theorem Context.agrees_reindexed : cx.Agrees (cx.reindexed columns tables) :=
  ⟨rfl, rfl, rfl, rfl, rfl, rfl⟩

theorem Call.alike_reindexed (call : Call) : call.Alike false True cx (cx.reindexed columns tables) :=
  Context.alike_call Context.agrees_reindexed rfl cx.registry.ignores_false fun _ _ _ => rfl

theorem Expr.emit_reindexed (e : Expr) : e.emit (cx.reindexed columns tables) = e.emit cx :=
  e.emit_agrees Context.agrees_reindexed fun call _ => call.alike_reindexed

theorem emitOption_reindexed (e : Option Expr) :
    emitOption (cx.reindexed columns tables) e = emitOption cx e :=
  emitOption_agrees Context.agrees_reindexed Call.alike_reindexed e

theorem Query.emit_reindexed (q : Query) : q.emit (cx.reindexed columns tables) = q.emit cx :=
  q.emit_agrees Context.agrees_reindexed fun call _ => call.alike_reindexed

theorem Select.emit_reindexed (s : Select) : s.emit (cx.reindexed columns tables) = s.emit cx :=
  s.emit_agrees Context.agrees_reindexed Call.alike_reindexed

theorem emitProjection_reindexed (projection : List Projected) :
    emitProjection (cx.reindexed columns tables) projection = emitProjection cx projection :=
  emitProjection_agrees Context.agrees_reindexed Call.alike_reindexed projection

theorem emitSource_reindexed (source : Option Source) :
    emitSource (cx.reindexed columns tables) source = emitSource cx source :=
  emitSource_agrees Context.agrees_reindexed Call.alike_reindexed source

theorem Derived.emit_reindexed (derived : Derived) :
    derived.emit (cx.reindexed columns tables) = derived.emit cx := by
  obtain ⟨_, query, _⟩ := derived
  simp only [Derived.emit, query.emit_reindexed, Context.reindexed_dialect]

theorem Cte.emit_reindexed : Cte.emit (cx.reindexed columns tables) = Cte.emit cx := by
  funext cte
  simp only [Cte.emit, Query.emit_reindexed, Context.reindexed_dialect]

theorem emitWith_reindexed (ctes : List Cte) (ending : String) :
    emitWith (cx.reindexed columns tables) ctes ending = emitWith cx ctes ending := by
  simp only [emitWith, Cte.emit_reindexed, Context.reindexed_dialect]

theorem emitValues_reindexed (target : List PhysicalColumn) (value : Expr) :
    emitValues (cx.reindexed columns tables) target value = emitValues cx target value := by
  simp only [emitValues, Expr.emit_reindexed, Context.reindexed_referenceMapping?,
    Context.reindexed_dialect]

theorem Assignment.emit_reindexed :
    Assignment.emit (cx.reindexed columns tables) = Assignment.emit cx := by
  funext assignment
  simp only [Assignment.emit, emitValues_reindexed]
  rfl

theorem emitAssignments_reindexed (assignments : List Assignment) :
    emitAssignments (cx.reindexed columns tables) assignments = emitAssignments cx assignments := by
  simp only [emitAssignments, Assignment.emit_reindexed]

theorem Output.images_reindexed (image : String) (output : Option Output) :
    Output.images (cx.reindexed columns tables) image output =
      (Output.images cx image output).reindexed columns tables := by
  cases output <;> rfl

theorem emitReturned_reindexed (projection : List Projected) :
    emitReturned (cx.reindexed columns tables) projection = emitReturned cx projection := by
  simp only [emitReturned, emitProjection_reindexed]

theorem Output.emit_reindexed (output : Option Output) :
    Output.emit (cx.reindexed columns tables) output = Output.emit cx output := by
  cases output with
  | none => rfl
  | some output => simp only [Output.emit, emitReturned_reindexed, Context.reindexed_tableName]

theorem emitReturning_reindexed (ctes : List Cte) (body : Sql) (output : Option Output) :
    emitReturning (cx.reindexed columns tables) ctes body output = emitReturning cx ctes body output := by
  simp only [emitReturning, emitReturned_reindexed, emitWith_reindexed, Context.reindexed_tableName,
    Context.reindexed_dialect]

theorem SelectStatement.emit_reindexed (s : SelectStatement) :
    s.emit (cx.reindexed columns tables) = s.emit cx := by
  simp only [SelectStatement.emit, emitWith_reindexed, Query.emit_reindexed, Context.reindexed_dialect]

theorem Update.emit_reindexed (s : Update) : s.emit (cx.reindexed columns tables) = s.emit cx := by
  simp only [Update.emit, Update.emitSqlServer, Update.emitPostgres, emitWith_reindexed,
    emitAssignments_reindexed, Output.images_reindexed, Output.emit_reindexed, emitSource_reindexed,
    emitOption_reindexed, emitReturning_reindexed, Context.reindexed_dialect]
  rfl

theorem Delete.emit_reindexed (s : Delete) : s.emit (cx.reindexed columns tables) = s.emit cx := by
  simp only [Delete.emit, Delete.emitSqlServer, Delete.emitPostgres, emitWith_reindexed,
    Output.images_reindexed, Output.emit_reindexed, emitSource_reindexed, emitOption_reindexed,
    emitReturning_reindexed, Context.reindexed_dialect]
  rfl

theorem Insert.lists_reindexed (target : TableRef) (source : String) (projection : List Projected) :
    Insert.lists (cx.reindexed columns tables) target source projection =
      Insert.lists cx target source projection := by
  have values : Insert.propertyValues (cx.reindexed columns tables) = Insert.propertyValues cx := by
    funext source column targets
    simp only [Insert.propertyValues, emitValues_reindexed]
    rfl
  have properties : Insert.propertyLists (cx.reindexed columns tables) = Insert.propertyLists cx := by
    funext source projection property
    simp only [Insert.propertyLists, values]
  simp only [Insert.lists, properties]
  rfl

theorem InsertSource.emit_reindexed (source : InsertSource) :
    source.emit (cx.reindexed columns tables) = source.emit cx := by
  cases source <;>
    simp only [InsertSource.emit, Context.reindexed_tableSource, Derived.emit_reindexed,
      Query.emit_reindexed, Context.reindexed_dialect]

/-- An INSERT looks up the projection of its source and nothing else. -/
theorem Insert.emitBody_reindexed {s : Insert}
    (same : s.source.projection (cx.reindexed columns tables) = s.source.projection cx) :
    s.emitBody (cx.reindexed columns tables) = s.emitBody cx := by
  simp only [Insert.emitBody, same, Insert.lists_reindexed, emitWith_reindexed,
    InsertSource.emit_reindexed, Context.reindexed_dialect]
  rfl

theorem Upsert.disambiguated_reindexed (s : Upsert) (source : String) :
    s.disambiguated (cx.reindexed columns tables) source =
      (s.disambiguated cx source).reindexed columns tables := rfl

end

end SqlEmit
