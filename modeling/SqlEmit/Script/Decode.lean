import SqlEmit.Json.Reader
import SqlEmit.Script.Statement

/-! Reading scripts from their JSON form. The recursive readers take fuel besides the nesting
allowance; each call enters a container, so fuel one above the allowance never runs out. -/
namespace SqlEmit

def ColumnRef.decode : Decoder ColumnRef :=
  Decoder.record ["id", "identifier"] fun n fields =>
    match fields with
    | [id, identifier] => do
      return {
        id := ← id.required NodeId.decode n
        identifier := ← identifier.required Decoder.string n }
    | _ => none

def VariableRef.decode : Decoder VariableRef :=
  Decoder.record ["id", "identifier"] fun n fields =>
    match fields with
    | [id, identifier] => do
      return {
        id := ← id.required NodeId.decode n
        identifier := ← identifier.required Decoder.string n }
    | _ => none

def MemberRef.decode : Decoder MemberRef :=
  Decoder.record ["id", "variable", "member"] fun n fields =>
    match fields with
    | [id, object, member] => do
      return {
        id := ← id.required NodeId.decode n
        object := ← object.required Decoder.string n
        member := ← member.required Decoder.string n }
    | _ => none

def Literal.decode : Decoder Literal :=
  Decoder.record ["kind", "literal"] fun n fields =>
    match fields with
    | [kind, text] => do
      return {
        kind := ← kind.required Named.decode n
        text := ← text.required Decoder.string n }
    | _ => none

def WindowFrame.decode : Decoder WindowFrame :=
  Decoder.record ["kind", "preceding", "following"] fun n fields =>
    match fields with
    | [kind, start, stop] => do
      return {
        kind := ← kind.required Named.decode n
        start := ← start.nullable FrameBound.decode n
        stop := ← stop.optional FrameBound.decode n }
    | _ => none

def TableRef.decode : Decoder TableRef :=
  Decoder.record ["id", "identifier", "alias"] fun n fields =>
    match fields with
    | [id, identifier, asName] => do
      return {
        id := ← id.required NodeId.decode n
        identifier := ← identifier.required Decoder.string n
        asName := ← asName.optional Decoder.string n }
    | _ => none

mutual

def Expr.decodeWith : Nat → Decoder Expr
  | 0 => fun _ _ => none
  | fuel + 1 =>
    Decoder.variant fun n name content =>
      match name with
      | "Column" => (Decoder.wrapped ColumnRef.decode n content).map .column
      | "Scalar" => (Decoder.wrapped Literal.decode n content).map .literal
      | "Variable" => (Decoder.wrapped VariableRef.decode n content).map .variableRef
      | "Member" => (Decoder.wrapped MemberRef.decode n content).map .memberRef
      | "Function" => (Decoder.wrapped (Call.decodeWith fuel) n content).map .call
      | "Case" => Decoder.wrapped (Expr.decodeCase fuel) n content
      | "Unary" => Decoder.wrapped (Expr.decodeUnary fuel) n content
      | "Logical" => Decoder.wrapped (Expr.decodeLogical fuel) n content
      | "Arithmetic" => Decoder.wrapped (Expr.decodeArithmetic fuel) n content
      | "Comparison" => Decoder.wrapped (Expr.decodeComparison fuel) n content
      | "Group" => (Decoder.wrapped (Expr.decodeWith fuel) n content).map .group
      | "Values" => (Decoder.wrapped (Decoder.list (Expr.decodeWith fuel)) n content).map .values
      | "Subquery" => (Decoder.wrapped (Query.decodeWith fuel) n content).map .subquery
      | "Star" => Decoder.plain .star content
      | _ => none

def Expr.decodeCase : Nat → Decoder Expr
  | 0 => fun _ _ => none
  | fuel + 1 =>
    Decoder.record ["branches", "otherwise"] fun n fields =>
      match fields with
      | [branches, otherwise] => do
        return .caseWhen (← branches.required (Decoder.list (Branch.decodeWith fuel)) n)
          (← otherwise.optional (Expr.decodeWith fuel) n)
      | _ => none

def Expr.decodeUnary : Nat → Decoder Expr
  | 0 => fun _ _ => none
  | fuel + 1 =>
    Decoder.record ["op", "expr"] fun n fields =>
      match fields with
      | [op, operand] => do
        return .unary (← op.required Named.decode n) (← operand.required (Expr.decodeWith fuel) n)
      | _ => none

def Expr.decodeLogical : Nat → Decoder Expr
  | 0 => fun _ _ => none
  | fuel + 1 =>
    Decoder.record ["op", "left", "right"] fun n fields =>
      match fields with
      | [op, left, right] => do
        return .logical (← op.required Named.decode n) (← left.required (Expr.decodeWith fuel) n)
          (← right.required (Expr.decodeWith fuel) n)
      | _ => none

def Expr.decodeArithmetic : Nat → Decoder Expr
  | 0 => fun _ _ => none
  | fuel + 1 =>
    Decoder.record ["op", "left", "right"] fun n fields =>
      match fields with
      | [op, left, right] => do
        return .arithmetic (← op.required Named.decode n)
          (← left.required (Expr.decodeWith fuel) n) (← right.required (Expr.decodeWith fuel) n)
      | _ => none

def Expr.decodeComparison : Nat → Decoder Expr
  | 0 => fun _ _ => none
  | fuel + 1 =>
    Decoder.record ["op", "modifier", "left", "right"] fun n fields =>
      match fields with
      | [op, modifier, left, right] => do
        return .compare (← op.required Named.decode n) (← modifier.optional Named.decode n)
          (← left.required (Expr.decodeWith fuel) n) (← right.required (Expr.decodeWith fuel) n)
      | _ => none

def Branch.decodeWith : Nat → Decoder Branch
  | 0 => fun _ _ => none
  | fuel + 1 =>
    Decoder.record ["when", "then"] fun n fields =>
      match fields with
      | [condition, result] => do
        return {
          condition := ← condition.required (Expr.decodeWith fuel) n
          result := ← result.required (Expr.decodeWith fuel) n }
      | _ => none

def Call.decodeWith : Nat → Decoder Call
  | 0 => fun _ _ => none
  | fuel + 1 =>
    Decoder.record ["id", "name", "args", "distinct", "over"] fun n fields =>
      match fields with
      | [id, name, args, distinct, window] => do
        return {
          id := ← id.required NodeId.decode n
          name := ← name.required Decoder.string n
          args := ← args.orElse [] (Decoder.list (Expr.decodeWith fuel)) n
          distinct := ← distinct.orElse false Decoder.bool n
          window := ← window.optional (Window.decodeWith fuel) n }
      | _ => none

def Window.decodeWith : Nat → Decoder Window
  | 0 => fun _ _ => none
  | fuel + 1 =>
    Decoder.record ["partition", "order", "frame"] fun n fields =>
      match fields with
      | [partition, order, frame] => do
        return {
          partition := ← partition.orElse [] (Decoder.list (Expr.decodeWith fuel)) n
          order := ← order.optional (SortClause.decodeWith fuel) n
          frame := ← frame.optional WindowFrame.decode n }
      | _ => none

def SortClause.decodeWith : Nat → Decoder SortClause
  | 0 => fun _ _ => none
  | fuel + 1 =>
    Decoder.record ["items", "offset", "fetch"] fun n fields =>
      match fields with
      | [items, offset, fetch] => do
        return {
          items := ← items.required (Decoder.list (SortItem.decodeWith fuel)) n
          offset := ← offset.optional (Expr.decodeWith fuel) n
          fetch := ← fetch.optional (Expr.decodeWith fuel) n }
      | _ => none

def SortItem.decodeWith : Nat → Decoder SortItem
  | 0 => fun _ _ => none
  | fuel + 1 =>
    Decoder.record ["expr", "descending"] fun n fields =>
      match fields with
      | [expr, descending] => do
        return {
          expr := ← expr.required (Expr.decodeWith fuel) n
          descending := ← descending.orElse false Decoder.bool n }
      | _ => none

def Query.decodeWith : Nat → Decoder Query
  | 0 => fun _ _ => none
  | fuel + 1 =>
    Decoder.variant fun n name content =>
      match name with
      | "Select" => (Decoder.wrapped (Select.decodeWith fuel) n content).map .select
      | "Union" => Decoder.wrapped (Query.decodeUnion fuel) n content
      | _ => none

def Query.decodeUnion : Nat → Decoder Query
  | 0 => fun _ _ => none
  | fuel + 1 =>
    Decoder.record ["all", "left", "right", "order"] fun n fields =>
      match fields with
      | [all, left, right, order] => do
        return .union (← all.orElse false Decoder.bool n)
          (← left.required (Query.decodeWith fuel) n) (← right.required (Query.decodeWith fuel) n)
          (← order.optional (SortClause.decodeWith fuel) n)
      | _ => none

def Select.decodeWith : Nat → Decoder Select
  | 0 => fun _ _ => none
  | fuel + 1 =>
    Decoder.record ["id", "distinct", "top", "columns", "into", "from", "where", "group", "having",
      "order"] fun n fields =>
      match fields with
      | [id, distinct, top, columns, intoTable, source, predicate, grouping, having, order] => do
        return {
          id := ← id.required NodeId.decode n
          distinct := ← distinct.orElse false Decoder.bool n
          top := ← top.optional (Expr.decodeWith fuel) n
          columns := ← columns.required (Decoder.list (Projected.decodeWith fuel)) n
          intoTable := ← intoTable.optional TableRef.decode n
          source := ← source.optional (Source.decodeWith fuel) n
          predicate := ← predicate.optional (Expr.decodeWith fuel) n
          grouping := ← grouping.orElse [] (Decoder.list (Expr.decodeWith fuel)) n
          having := ← having.optional (Expr.decodeWith fuel) n
          order := ← order.optional (SortClause.decodeWith fuel) n }
      | _ => none

def Projected.decodeWith : Nat → Decoder Projected
  | 0 => fun _ _ => none
  | fuel + 1 =>
    Decoder.record ["id", "expr", "alias"] fun n fields =>
      match fields with
      | [id, expr, asName] => do
        return {
          id := ← id.required NodeId.decode n
          expr := ← expr.required (Expr.decodeWith fuel) n
          asName := ← asName.optional Decoder.string n }
      | _ => none

def Source.decodeWith : Nat → Decoder Source
  | 0 => fun _ _ => none
  | fuel + 1 =>
    Decoder.variant fun n name content =>
      match name with
      | "Table" => (Decoder.wrapped TableRef.decode n content).map .table
      | "Derived" => (Decoder.wrapped (Derived.decodeWith fuel) n content).map .derived
      | "Join" => Decoder.wrapped (Source.decodeJoin fuel) n content
      | _ => none

def Source.decodeJoin : Nat → Decoder Source
  | 0 => fun _ _ => none
  | fuel + 1 =>
    Decoder.record ["kind", "left", "right", "on"] fun n fields =>
      match fields with
      | [kind, left, right, condition] => do
        return .join (← kind.required Named.decode n) (← left.required (Source.decodeWith fuel) n)
          (← right.required (Source.decodeWith fuel) n)
          (← condition.optional (Expr.decodeWith fuel) n)
      | _ => none

def Derived.decodeWith : Nat → Decoder Derived
  | 0 => fun _ _ => none
  | fuel + 1 =>
    Decoder.record ["id", "query", "alias"] fun n fields =>
      match fields with
      | [id, query, asName] => do
        return {
          id := ← id.required NodeId.decode n
          query := ← query.required (Query.decodeWith fuel) n
          asName := ← asName.required Decoder.string n }
      | _ => none

end

def Expr.decode : Decoder Expr := fun n => Expr.decodeWith (n + 1) n

def Call.decode : Decoder Call := fun n => Call.decodeWith (n + 1) n

def Window.decode : Decoder Window := fun n => Window.decodeWith (n + 1) n

def SortClause.decode : Decoder SortClause := fun n => SortClause.decodeWith (n + 1) n

def SortItem.decode : Decoder SortItem := fun n => SortItem.decodeWith (n + 1) n

def Query.decode : Decoder Query := fun n => Query.decodeWith (n + 1) n

def Select.decode : Decoder Select := fun n => Select.decodeWith (n + 1) n

def Projected.decode : Decoder Projected := fun n => Projected.decodeWith (n + 1) n

def Source.decode : Decoder Source := fun n => Source.decodeWith (n + 1) n

def Derived.decode : Decoder Derived := fun n => Derived.decodeWith (n + 1) n

def Cte.decode : Decoder Cte :=
  Decoder.record ["id", "name", "query"] fun n fields =>
    match fields with
    | [id, name, query] => do
      return {
        id := ← id.required NodeId.decode n
        name := ← name.required Decoder.string n
        query := ← query.required Query.decode n }
    | _ => none

def Declare.decode : Decoder Declare :=
  Decoder.record ["id", "name", "type_name"] fun n fields =>
    match fields with
    | [id, name, typeName] => do
      return {
        id := ← id.required NodeId.decode n
        name := ← name.required Decoder.string n
        typeName := ← typeName.optional Decoder.string n }
    | _ => none

def SelectStatement.decode : Decoder SelectStatement :=
  Decoder.record ["id", "ctes", "query"] fun n fields =>
    match fields with
    | [id, ctes, query] => do
      return {
        id := ← id.required NodeId.decode n
        ctes := ← ctes.orElse [] (Decoder.list Cte.decode) n
        query := ← query.required Query.decode n }
    | _ => none

def InsertSource.decode : Decoder InsertSource :=
  Decoder.variant fun n name content =>
    match name with
    | "Table" => (Decoder.wrapped TableRef.decode n content).map .table
    | "Derived" => (Decoder.wrapped Derived.decode n content).map .derived
    | "Query" => (Decoder.wrapped Query.decode n content).map .query
    | _ => none

def Insert.decode : Decoder Insert :=
  Decoder.record ["id", "ctes", "target", "source"] fun n fields =>
    match fields with
    | [id, ctes, target, source] => do
      return {
        id := ← id.required NodeId.decode n
        ctes := ← ctes.orElse [] (Decoder.list Cte.decode) n
        target := ← target.required TableRef.decode n
        source := ← source.required InsertSource.decode n }
    | _ => none

def Assignment.decode : Decoder Assignment :=
  Decoder.record ["column", "value"] fun n fields =>
    match fields with
    | [column, value] => do
      return {
        column := ← column.required ColumnRef.decode n
        value := ← value.required Expr.decode n }
    | _ => none

def Output.decode : Decoder Output :=
  Decoder.record ["columns", "into"] fun n fields =>
    match fields with
    | [columns, intoTable] => do
      return {
        columns := ← columns.required (Decoder.list Projected.decode) n
        intoTable := ← intoTable.optional TableRef.decode n }
    | _ => none

def Update.decode : Decoder Update :=
  Decoder.record ["id", "ctes", "target", "set", "output", "source", "where", "hints"]
    fun n fields =>
    match fields with
    | [id, ctes, target, assignments, output, source, predicate, hints] => do
      return {
        id := ← id.required NodeId.decode n
        ctes := ← ctes.orElse [] (Decoder.list Cte.decode) n
        target := ← target.required TableRef.decode n
        assignments := ← assignments.required (Decoder.list Assignment.decode) n
        output := ← output.optional Output.decode n
        source := ← source.optional Source.decode n
        predicate := ← predicate.optional Expr.decode n
        hints := ← hints.orElse [] (Decoder.list Decoder.string) n }
    | _ => none

def Delete.decode : Decoder Delete :=
  Decoder.record ["id", "ctes", "target", "output", "source", "where"] fun n fields =>
    match fields with
    | [id, ctes, target, output, source, predicate] => do
      return {
        id := ← id.required NodeId.decode n
        ctes := ← ctes.orElse [] (Decoder.list Cte.decode) n
        target := ← target.required TableRef.decode n
        output := ← output.optional Output.decode n
        source := ← source.optional Source.decode n
        predicate := ← predicate.optional Expr.decode n }
    | _ => none

def Upsert.decode : Decoder Upsert :=
  Decoder.record ["id", "ctes", "target", "source", "set", "where", "ignore_update"]
    fun n fields =>
    match fields with
    | [id, ctes, target, source, assignments, predicate, ignoreUpdate] => do
      return {
        id := ← id.required NodeId.decode n
        ctes := ← ctes.orElse [] (Decoder.list Cte.decode) n
        target := ← target.required TableRef.decode n
        source := ← source.optional Source.decode n
        assignments := ← assignments.orElse [] (Decoder.list Assignment.decode) n
        predicate := ← predicate.optional Expr.decode n
        ignoreUpdate := ← ignoreUpdate.orElse false Decoder.bool n }
    | _ => none

def Consume.decode : Decoder Consume :=
  Decoder.record ["id", "top", "columns", "into", "from", "where", "order", "strict_order",
    "target"] fun n fields =>
    match fields with
    | [id, top, columns, intoTable, source, predicate, order, strictOrder, target] => do
      return {
        id := ← id.required NodeId.decode n
        top := ← top.optional Expr.decode n
        columns := ← columns.required (Decoder.list Projected.decode) n
        intoTable := ← intoTable.optional TableRef.decode n
        source := ← source.nullable Source.decode n
        predicate := ← predicate.optional Expr.decode n
        order := ← order.optional SortClause.decode n
        strictOrder := ← strictOrder.orElse false Decoder.bool n
        target := ← target.optional Decoder.string n }
    | _ => none

def TableVariable.decode : Decoder TableVariable :=
  Decoder.record ["id", "name", "query"] fun n fields =>
    match fields with
    | [id, name, query] => do
      return {
        id := ← id.required NodeId.decode n
        name := ← name.required Decoder.string n
        query := ← query.required Query.decode n }
    | _ => none

def TypeName.decode : Decoder TypeName :=
  Decoder.record ["id", "identifier", "qualifier1", "qualifier2"] fun n fields =>
    match fields with
    | [id, identifier, qualifier1, qualifier2] => do
      return {
        id := ← id.required NodeId.decode n
        identifier := ← identifier.required Decoder.string n
        qualifier1 := ← qualifier1.orElse 0 Decoder.uint32 n
        qualifier2 := ← qualifier2.orElse 0 Decoder.uint32 n }
    | _ => none

def TypeColumn.decode : Decoder TypeColumn :=
  Decoder.record ["name", "data_type"] fun n fields =>
    match fields with
    | [name, dataType] => do
      return {
        name := ← name.required Decoder.string n
        dataType := ← dataType.required TypeName.decode n }
    | _ => none

def CreateType.decode : Decoder CreateType :=
  Decoder.record ["id", "name", "columns"] fun n fields =>
    match fields with
    | [id, name, columns] => do
      return {
        id := ← id.required NodeId.decode n
        name := ← name.required Decoder.string n
        columns := ← columns.required (Decoder.list TypeColumn.decode) n }
    | _ => none

def CreateSequence.decode : Decoder CreateSequence :=
  Decoder.record ["id", "name", "data_type", "start_with", "increment", "cache_size"]
    fun n fields =>
    match fields with
    | [id, name, dataType, startWith, increment, cacheSize] => do
      return {
        id := ← id.required NodeId.decode n
        name := ← name.required Decoder.string n
        dataType := ← dataType.optional TypeName.decode n
        startWith := ← startWith.orElse 1 Decoder.int64 n
        increment := ← increment.orElse 1 Decoder.int64 n
        cacheSize := ← cacheSize.orElse 0 Decoder.int64 n }
    | _ => none

def DropSequence.decode : Decoder DropSequence :=
  Decoder.record ["id", "name"] fun n fields =>
    match fields with
    | [id, name] => do
      return {
        id := ← id.required NodeId.decode n
        name := ← name.required Decoder.string n }
    | _ => none

def ApplySequence.decode : Decoder ApplySequence :=
  Decoder.record ["id", "name", "table", "column", "recalculate"] fun n fields =>
    match fields with
    | [id, name, table, column, recalculate] => do
      return {
        id := ← id.required NodeId.decode n
        name := ← name.required Decoder.string n
        table := ← table.required TableRef.decode n
        column := ← column.required ColumnRef.decode n
        recalculate := ← recalculate.orElse false Decoder.bool n }
    | _ => none

def RevokeSequence.decode : Decoder RevokeSequence :=
  Decoder.record ["id", "name", "table"] fun n fields =>
    match fields with
    | [id, name, table] => do
      return {
        id := ← id.required NodeId.decode n
        name := ← name.required Decoder.string n
        table := ← table.required TableRef.decode n }
    | _ => none

def Statement.decode : Decoder Statement :=
  Decoder.variant fun n name content =>
    match name with
    | "Declare" => (Decoder.wrapped Declare.decode n content).map .declare
    | "Select" => (Decoder.wrapped SelectStatement.decode n content).map .select
    | "Insert" => (Decoder.wrapped Insert.decode n content).map .insert
    | "Update" => (Decoder.wrapped Update.decode n content).map .update
    | "Delete" => (Decoder.wrapped Delete.decode n content).map .delete
    | "Upsert" => (Decoder.wrapped Upsert.decode n content).map .upsert
    | "Consume" => (Decoder.wrapped Consume.decode n content).map .consume
    | "TableVariable" => (Decoder.wrapped TableVariable.decode n content).map .tableVariable
    | "TemporaryTable" => (Decoder.wrapped TableVariable.decode n content).map .temporaryTable
    | "CreateType" => (Decoder.wrapped CreateType.decode n content).map .createType
    | "CreateSequence" => (Decoder.wrapped CreateSequence.decode n content).map .createSequence
    | "DropSequence" => (Decoder.wrapped DropSequence.decode n content).map .dropSequence
    | "ApplySequence" => (Decoder.wrapped ApplySequence.decode n content).map .applySequence
    | "RevokeSequence" => (Decoder.wrapped RevokeSequence.decode n content).map .revokeSequence
    | _ => none

def Script.decode : Decoder Script :=
  Decoder.record ["statements", "bindings"] fun n fields =>
    match fields with
    | [statements, bindings] => do
      return {
        statements := ← statements.required (Decoder.list Statement.decode) n
        bindings := ← bindings.orElse Bindings.empty Bindings.decode n }
    | _ => none

def Script.ofJson (json : Json) : Option Script :=
  Script.decode Decoder.maxNesting json

def Script.parse (text : String) : Option Script :=
  (Json.parse text).bind Script.ofJson

end SqlEmit
