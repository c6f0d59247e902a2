import SqlEmit.Script.Statement

/-! The JSON form of scripts. Every field is written, `null` for what is absent. -/
namespace SqlEmit

def ColumnRef.toJson (ref : ColumnRef) : Json :=
  .obj [("id", ref.id.toJson), ("identifier", .str ref.identifier)]

def VariableRef.toJson (ref : VariableRef) : Json :=
  .obj [("id", ref.id.toJson), ("identifier", .str ref.identifier)]

def MemberRef.toJson (ref : MemberRef) : Json :=
  .obj [("id", ref.id.toJson), ("variable", .str ref.object), ("member", .str ref.member)]

def Literal.toJson (literal : Literal) : Json :=
  .obj [("kind", Named.toJson literal.kind), ("literal", .str literal.text)]

def WindowFrame.toJson (frame : WindowFrame) : Json :=
  .obj [("kind", Named.toJson frame.kind), ("preceding", .ofOption FrameBound.toJson frame.start),
    ("following", .ofOption FrameBound.toJson frame.stop)]

def TableRef.toJson (table : TableRef) : Json :=
  .obj [("id", table.id.toJson), ("identifier", .str table.identifier),
    ("alias", .ofOption .str table.asName)]

mutual

def Expr.toJson : Expr → Json
  | .column ref => .obj [("Column", ref.toJson)]
  | .literal value => .obj [("Scalar", value.toJson)]
  | .variableRef ref => .obj [("Variable", ref.toJson)]
  | .memberRef ref => .obj [("Member", ref.toJson)]
  | .call call => .obj [("Function", call.toJson)]
  | .caseWhen branches otherwise =>
    .obj [("Case", .obj [("branches", .arr (branchesToJson branches)),
      ("otherwise", match otherwise with | none => .null | some e => e.toJson)])]
  | .unary op operand =>
    .obj [("Unary", .obj [("op", Named.toJson op), ("expr", operand.toJson)])]
  | .logical op left right =>
    .obj [("Logical", .obj [("op", Named.toJson op), ("left", left.toJson),
      ("right", right.toJson)])]
  | .arithmetic op left right =>
    .obj [("Arithmetic", .obj [("op", Named.toJson op), ("left", left.toJson),
      ("right", right.toJson)])]
  | .compare op modifier left right =>
    .obj [("Comparison", .obj [("op", Named.toJson op),
      ("modifier", .ofOption Named.toJson modifier), ("left", left.toJson),
      ("right", right.toJson)])]
  | .group inner => .obj [("Group", inner.toJson)]
  | .values items => .obj [("Values", .arr (exprsToJson items))]
  | .subquery query => .obj [("Subquery", query.toJson)]
  | .star => .str "Star"

def exprsToJson : List Expr → List Json
  | [] => []
  | e :: es => e.toJson :: exprsToJson es

def Branch.toJson : Branch → Json
  | ⟨condition, result⟩ => .obj [("when", condition.toJson), ("then", result.toJson)]

def branchesToJson : List Branch → List Json
  | [] => []
  | b :: bs => b.toJson :: branchesToJson bs

def Call.toJson : Call → Json
  | ⟨id, name, args, distinct, window⟩ =>
    .obj [("id", id.toJson), ("name", .str name), ("args", .arr (exprsToJson args)),
      ("distinct", .bool distinct),
      ("over", match window with | none => .null | some w => w.toJson)]

def Window.toJson : Window → Json
  | ⟨partition, order, frame⟩ =>
    .obj [("partition", .arr (exprsToJson partition)),
      ("order", match order with | none => .null | some o => o.toJson),
      ("frame", .ofOption WindowFrame.toJson frame)]

def SortClause.toJson : SortClause → Json
  | ⟨items, offset, fetch⟩ =>
    .obj [("items", .arr (sortItemsToJson items)),
      ("offset", match offset with | none => .null | some e => e.toJson),
      ("fetch", match fetch with | none => .null | some e => e.toJson)]

def SortItem.toJson : SortItem → Json
  | ⟨expr, descending⟩ => .obj [("expr", expr.toJson), ("descending", .bool descending)]

def sortItemsToJson : List SortItem → List Json
  | [] => []
  | i :: is => i.toJson :: sortItemsToJson is

def Query.toJson : Query → Json
  | .select s => .obj [("Select", s.toJson)]
  | .union all left right order =>
    .obj [("Union", .obj [("all", .bool all), ("left", left.toJson), ("right", right.toJson),
      ("order", match order with | none => .null | some o => o.toJson)])]

def Select.toJson : Select → Json
  | ⟨id, distinct, top, columns, intoTable, source, predicate, grouping, having, order⟩ =>
    .obj [("id", id.toJson), ("distinct", .bool distinct),
      ("top", match top with | none => .null | some e => e.toJson),
      ("columns", .arr (projectedToJson columns)),
      ("into", .ofOption TableRef.toJson intoTable),
      ("from", match source with | none => .null | some s => s.toJson),
      ("where", match predicate with | none => .null | some e => e.toJson),
      ("group", .arr (exprsToJson grouping)),
      ("having", match having with | none => .null | some e => e.toJson),
      ("order", match order with | none => .null | some o => o.toJson)]

def Projected.toJson : Projected → Json
  | ⟨id, expr, asName⟩ =>
    .obj [("id", id.toJson), ("expr", expr.toJson), ("alias", .ofOption .str asName)]

def projectedToJson : List Projected → List Json
  | [] => []
  | c :: cs => c.toJson :: projectedToJson cs

def Source.toJson : Source → Json
  | .table t => .obj [("Table", t.toJson)]
  | .derived d => .obj [("Derived", d.toJson)]
  | .join kind left right condition =>
    .obj [("Join", .obj [("kind", Named.toJson kind), ("left", left.toJson),
      ("right", right.toJson),
      ("on", match condition with | none => .null | some e => e.toJson)])]

def Derived.toJson : Derived → Json
  | ⟨id, query, asName⟩ =>
    .obj [("id", id.toJson), ("query", query.toJson), ("alias", .str asName)]

end

def Cte.toJson (cte : Cte) : Json :=
  .obj [("id", cte.id.toJson), ("name", .str cte.name), ("query", cte.query.toJson)]

def Declare.toJson (s : Declare) : Json :=
  .obj [("id", s.id.toJson), ("name", .str s.name), ("type_name", .ofOption .str s.typeName)]

def SelectStatement.toJson (s : SelectStatement) : Json :=
  .obj [("id", s.id.toJson), ("ctes", .ofList Cte.toJson s.ctes), ("query", s.query.toJson)]

def InsertSource.toJson : InsertSource → Json
  | .table t => .obj [("Table", t.toJson)]
  | .derived d => .obj [("Derived", d.toJson)]
  | .query q => .obj [("Query", q.toJson)]

def Insert.toJson (s : Insert) : Json :=
  .obj [("id", s.id.toJson), ("ctes", .ofList Cte.toJson s.ctes), ("target", s.target.toJson),
    ("source", s.source.toJson)]

def Assignment.toJson (a : Assignment) : Json :=
  .obj [("column", a.column.toJson), ("value", a.value.toJson)]

def Output.toJson (o : Output) : Json :=
  .obj [("columns", .ofList Projected.toJson o.columns),
    ("into", .ofOption TableRef.toJson o.intoTable)]

def Update.toJson (s : Update) : Json :=
  .obj [("id", s.id.toJson), ("ctes", .ofList Cte.toJson s.ctes), ("target", s.target.toJson),
    ("set", .ofList Assignment.toJson s.assignments), ("output", .ofOption Output.toJson s.output),
    ("source", .ofOption Source.toJson s.source), ("where", .ofOption Expr.toJson s.predicate),
    ("hints", .ofList .str s.hints)]

def Delete.toJson (s : Delete) : Json :=
  .obj [("id", s.id.toJson), ("ctes", .ofList Cte.toJson s.ctes), ("target", s.target.toJson),
    ("output", .ofOption Output.toJson s.output), ("source", .ofOption Source.toJson s.source),
    ("where", .ofOption Expr.toJson s.predicate)]

def Upsert.toJson (s : Upsert) : Json :=
  .obj [("id", s.id.toJson), ("ctes", .ofList Cte.toJson s.ctes), ("target", s.target.toJson),
    ("source", .ofOption Source.toJson s.source), ("set", .ofList Assignment.toJson s.assignments),
    ("where", .ofOption Expr.toJson s.predicate), ("ignore_update", .bool s.ignoreUpdate)]

def Consume.toJson (s : Consume) : Json :=
  .obj [("id", s.id.toJson), ("top", .ofOption Expr.toJson s.top),
    ("columns", .ofList Projected.toJson s.columns),
    ("into", .ofOption TableRef.toJson s.intoTable), ("from", .ofOption Source.toJson s.source),
    ("where", .ofOption Expr.toJson s.predicate), ("order", .ofOption SortClause.toJson s.order),
    ("strict_order", .bool s.strictOrder), ("target", .ofOption .str s.target)]

def TableVariable.toJson (s : TableVariable) : Json :=
  .obj [("id", s.id.toJson), ("name", .str s.name), ("query", s.query.toJson)]

def TypeName.toJson (t : TypeName) : Json :=
  .obj [("id", t.id.toJson), ("identifier", .str t.identifier),
    ("qualifier1", .int t.qualifier1.toNat), ("qualifier2", .int t.qualifier2.toNat)]

def TypeColumn.toJson (c : TypeColumn) : Json :=
  .obj [("name", .str c.name), ("data_type", c.dataType.toJson)]

def CreateType.toJson (s : CreateType) : Json :=
  .obj [("id", s.id.toJson), ("name", .str s.name), ("columns", .ofList TypeColumn.toJson s.columns)]

def CreateSequence.toJson (s : CreateSequence) : Json :=
  .obj [("id", s.id.toJson), ("name", .str s.name),
    ("data_type", .ofOption TypeName.toJson s.dataType), ("start_with", .int s.startWith.toInt),
    ("increment", .int s.increment.toInt), ("cache_size", .int s.cacheSize.toInt)]

def DropSequence.toJson (s : DropSequence) : Json :=
  .obj [("id", s.id.toJson), ("name", .str s.name)]

def ApplySequence.toJson (s : ApplySequence) : Json :=
  .obj [("id", s.id.toJson), ("name", .str s.name), ("table", s.table.toJson),
    ("column", s.column.toJson), ("recalculate", .bool s.recalculate)]

def RevokeSequence.toJson (s : RevokeSequence) : Json :=
  .obj [("id", s.id.toJson), ("name", .str s.name), ("table", s.table.toJson)]

def Statement.toJson : Statement → Json
  | .declare s => .obj [("Declare", s.toJson)]
  | .select s => .obj [("Select", s.toJson)]
  | .insert s => .obj [("Insert", s.toJson)]
  | .update s => .obj [("Update", s.toJson)]
  | .delete s => .obj [("Delete", s.toJson)]
  | .upsert s => .obj [("Upsert", s.toJson)]
  | .consume s => .obj [("Consume", s.toJson)]
  | .tableVariable s => .obj [("TableVariable", s.toJson)]
  | .temporaryTable s => .obj [("TemporaryTable", s.toJson)]
  | .createType s => .obj [("CreateType", s.toJson)]
  | .createSequence s => .obj [("CreateSequence", s.toJson)]
  | .dropSequence s => .obj [("DropSequence", s.toJson)]
  | .applySequence s => .obj [("ApplySequence", s.toJson)]
  | .revokeSequence s => .obj [("RevokeSequence", s.toJson)]

def Script.toJson (script : Script) : Json :=
  .obj [("statements", .ofList Statement.toJson script.statements),
    ("bindings", script.bindings.toJson)]

end SqlEmit
