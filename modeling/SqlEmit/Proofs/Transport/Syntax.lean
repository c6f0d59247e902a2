import SqlEmit.Proofs.Transport.Binding
import SqlEmit.Script.Decode
import SqlEmit.Script.Encode

/-! Expressions, queries and row sources are read back from what is written for them. The syntax is
one mutual recursion, and so are its writers and readers; every reader costs one unit of fuel where
the written value has one level. -/
namespace SqlEmit

open Json Decoder

instance : LawfulNamed LogicalOp := ⟨by intro a; cases a <;> decide, by decide⟩

instance : LawfulNamed ArithmeticOp := ⟨by intro a; cases a <;> decide, by decide⟩

instance : LawfulNamed UnaryOp := ⟨by intro a; cases a <;> decide, by decide⟩

instance : LawfulNamed CompareOp := ⟨by intro a; cases a <;> decide, by decide⟩

instance : LawfulNamed CompareModifier := ⟨by intro a; cases a <;> decide, by decide⟩

instance : LawfulNamed JoinKind := ⟨by intro a; cases a <;> decide, by decide⟩

instance : LawfulNamed FrameKind := ⟨by intro a; cases a <;> decide, by decide⟩

instance : LawfulNamed LiteralKind := ⟨by intro a; cases a <;> decide, by decide⟩

theorem FrameBound.reads_toJson (bound : FrameBound) (limit : Nat) :
    FrameBound.decode.Reads limit bound.toJson bound := by
  cases bound with
  | unboundedPreceding => exact .unit fun _ => rfl
  | preceding rows =>
    exact .variant (by decide) (reads_uint32 rows _) fun _ _ => rfl
  | currentRow => exact .unit fun _ => rfl
  | following rows =>
    exact .variant (by decide) (reads_uint32 rows _) fun _ _ => rfl
  | unboundedFollowing => exact .unit fun _ => rfl

theorem ColumnRef.reads_toJson (ref : ColumnRef) (limit : Nat) :
    ColumnRef.decode.Reads limit ref.toJson ref :=
  .record rfl (by decide) <| .field (ref.id.reads_toJson _).required <|
    .field (reads_string ref.identifier _).required .done

theorem VariableRef.reads_toJson (ref : VariableRef) (limit : Nat) :
    VariableRef.decode.Reads limit ref.toJson ref :=
  .record rfl (by decide) <| .field (ref.id.reads_toJson _).required <|
    .field (reads_string ref.identifier _).required .done

theorem MemberRef.reads_toJson (ref : MemberRef) (limit : Nat) :
    MemberRef.decode.Reads limit ref.toJson ref :=
  .record rfl (by decide) <| .field (ref.id.reads_toJson _).required <|
    .field (reads_string ref.object _).required <| .field (reads_string ref.member _).required .done

theorem Literal.reads_toJson (literal : Literal) (limit : Nat) :
    Literal.decode.Reads limit literal.toJson literal :=
  .record rfl (by decide) <| .field (Named.reads_toJson literal.kind _).required <|
    .field (reads_string literal.text _).required .done

theorem WindowFrame.reads_toJson (frame : WindowFrame) (limit : Nat) :
    WindowFrame.decode.Reads limit frame.toJson frame :=
  .record rfl (by decide) <| .field (Named.reads_toJson frame.kind _).required <|
    .field (.nullable frame.start fun part _ => part.reads_toJson _) <|
    .field (.optional frame.stop fun part _ => part.reads_toJson _) .done

theorem TableRef.reads_toJson (table : TableRef) (limit : Nat) :
    TableRef.decode.Reads limit table.toJson table :=
  .record rfl (by decide) <| .field (table.id.reads_toJson _).required <|
    .field (reads_string table.identifier _).required <|
    .field (.optional table.asName fun text _ => reads_string text _) .done

theorem exprsToJson_eq (es : List Expr) : exprsToJson es = es.map Expr.toJson := by
  induction es with
  | nil => rfl
  | cons e es ih => rw [exprsToJson, ih, List.map_cons]

theorem branchesToJson_eq (bs : List Branch) : branchesToJson bs = bs.map Branch.toJson := by
  induction bs with
  | nil => rfl
  | cons b bs ih => rw [branchesToJson, ih, List.map_cons]

theorem sortItemsToJson_eq (items : List SortItem) :
    sortItemsToJson items = items.map SortItem.toJson := by
  induction items with
  | nil => rfl
  | cons i items ih => rw [sortItemsToJson, ih, List.map_cons]

theorem projectedToJson_eq (columns : List Projected) :
    projectedToJson columns = columns.map Projected.toJson := by
  induction columns with
  | nil => rfl
  | cons c columns ih => rw [projectedToJson, ih, List.map_cons]

theorem Expr.toJson_caseWhen (branches : List Branch) (otherwise : Option Expr) :
    (Expr.caseWhen branches otherwise).toJson =
      .obj [("Case", .obj [("branches", .ofList Branch.toJson branches),
        ("otherwise", .ofOption Expr.toJson otherwise)])] := by
  rw [Json.ofList, ← branchesToJson_eq]
  cases otherwise <;> rfl

theorem Call.toJson_eq (c : Call) :
    c.toJson = .obj [("id", c.id.toJson), ("name", .str c.name),
      ("args", .ofList Expr.toJson c.args), ("distinct", .bool c.distinct),
      ("over", .ofOption Window.toJson c.window)] := by
  obtain ⟨id, name, args, distinct, window⟩ := c
  rw [Json.ofList, ← exprsToJson_eq]
  cases window <;> rfl

theorem Window.toJson_eq (w : Window) :
    w.toJson = .obj [("partition", .ofList Expr.toJson w.partition),
      ("order", .ofOption SortClause.toJson w.order),
      ("frame", .ofOption WindowFrame.toJson w.frame)] := by
  obtain ⟨partition, order, frame⟩ := w
  rw [Json.ofList, ← exprsToJson_eq]
  cases order <;> rfl

theorem SortClause.toJson_eq (o : SortClause) :
    o.toJson = .obj [("items", .ofList SortItem.toJson o.items),
      ("offset", .ofOption Expr.toJson o.offset), ("fetch", .ofOption Expr.toJson o.fetch)] := by
  obtain ⟨items, offset, fetch⟩ := o
  rw [Json.ofList, ← sortItemsToJson_eq]
  cases offset <;> cases fetch <;> rfl

theorem Query.toJson_union (all : Bool) (left right : Query) (order : Option SortClause) :
    (Query.union all left right order).toJson =
      .obj [("Union", .obj [("all", .bool all), ("left", left.toJson), ("right", right.toJson),
        ("order", .ofOption SortClause.toJson order)])] := by
  cases order <;> rfl

theorem Source.toJson_join (kind : JoinKind) (left right : Source) (condition : Option Expr) :
    (Source.join kind left right condition).toJson =
      .obj [("Join", .obj [("kind", Named.toJson kind), ("left", left.toJson),
        ("right", right.toJson), ("on", .ofOption Expr.toJson condition)])] := by
  cases condition <;> rfl

theorem Select.toJson_eq (s : Select) :
    s.toJson = .obj [("id", s.id.toJson), ("distinct", .bool s.distinct),
      ("top", .ofOption Expr.toJson s.top), ("columns", .ofList Projected.toJson s.columns),
      ("into", .ofOption TableRef.toJson s.intoTable), ("from", .ofOption Source.toJson s.source),
      ("where", .ofOption Expr.toJson s.predicate), ("group", .ofList Expr.toJson s.grouping),
      ("having", .ofOption Expr.toJson s.having),
      ("order", .ofOption SortClause.toJson s.order)] := by
  obtain ⟨id, distinct, top, columns, intoTable, source, predicate, grouping, having, order⟩ := s
  simp only [Json.ofList, ← projectedToJson_eq, ← exprsToJson_eq]
  cases top <;> cases source <;> cases predicate <;> cases having <;> cases order <;> rfl

mutual

theorem Expr.restores : ∀ e : Expr, Restores Expr.decodeWith e.toJson e
  | .column ref => restores_of_succ fun fuel => by
    rw [Expr.decodeWith]
    exact .variant (by decide) (ref.reads_toJson fuel) fun _ _ => rfl
  | .literal value => restores_of_succ fun fuel => by
    rw [Expr.decodeWith]
    exact .variant (by decide) (value.reads_toJson fuel) fun _ _ => rfl
  | .variableRef ref => restores_of_succ fun fuel => by
    rw [Expr.decodeWith]
    exact .variant (by decide) (ref.reads_toJson fuel) fun _ _ => rfl
  | .memberRef ref => restores_of_succ fun fuel => by
    rw [Expr.decodeWith]
    exact .variant (by decide) (ref.reads_toJson fuel) fun _ _ => rfl
  | .call call => restores_of_succ fun fuel => by
    rw [Expr.decodeWith]
    exact .variant (by decide) (call.restores fuel) fun _ _ => rfl
  | .caseWhen branches otherwise => restores_of_succ fun fuel => by
    -- A variant with fields has two levels, one for its name and one for the fields.
    rw [Expr.decodeWith, Expr.toJson_caseWhen]
    refine .structVariant (by decide) (restores_of_succ (fun fuel => ?_) fuel) fun _ _ => rfl
    rw [Expr.decodeCase]
    exact .record rfl (by decide) <|
      .field (Reads.list branches fun a mem => branches_restore branches a mem fuel).required <|
      .field (.optional otherwise fun a mem => expr_restores otherwise a mem fuel) .done
  | .unary op operand => restores_of_succ fun fuel => by
    rw [Expr.decodeWith]
    refine .structVariant (by decide) (restores_of_succ (fun fuel => ?_) fuel) fun _ _ => rfl
    rw [Expr.decodeUnary]
    exact .record rfl (by decide) <| .field (Named.reads_toJson op fuel).required <|
      .field (operand.restores fuel).required .done
  | .logical op left right => restores_of_succ fun fuel => by
    rw [Expr.decodeWith]
    refine .structVariant (by decide) (restores_of_succ (fun fuel => ?_) fuel) fun _ _ => rfl
    rw [Expr.decodeLogical]
    exact .record rfl (by decide) <| .field (Named.reads_toJson op fuel).required <|
      .field (left.restores fuel).required <| .field (right.restores fuel).required .done
  | .arithmetic op left right => restores_of_succ fun fuel => by
    rw [Expr.decodeWith]
    refine .structVariant (by decide) (restores_of_succ (fun fuel => ?_) fuel) fun _ _ => rfl
    rw [Expr.decodeArithmetic]
    exact .record rfl (by decide) <| .field (Named.reads_toJson op fuel).required <|
      .field (left.restores fuel).required <| .field (right.restores fuel).required .done
  | .compare op modifier left right => restores_of_succ fun fuel => by
    rw [Expr.decodeWith]
    refine .structVariant (by decide) (restores_of_succ (fun fuel => ?_) fuel) fun _ _ => rfl
    rw [Expr.decodeComparison]
    exact .record rfl (by decide) <| .field (Named.reads_toJson op fuel).required <|
      .field (.optional modifier fun part _ => Named.reads_toJson part fuel) <|
      .field (left.restores fuel).required <| .field (right.restores fuel).required .done
  | .group inner => restores_of_succ fun fuel => by
    rw [Expr.decodeWith]
    exact .variant (by decide) (inner.restores fuel) fun _ _ => rfl
  | .values items => restores_of_succ fun fuel => by
    have content := Reads.list items fun a mem => exprs_restore items a mem fuel
    rw [Expr.decodeWith, Expr.toJson, exprsToJson_eq]
    exact .variant (by decide) content fun _ _ => rfl
  | .subquery query => restores_of_succ fun fuel => by
    rw [Expr.decodeWith]
    exact .variant (by decide) (query.restores fuel) fun _ _ => rfl
  | .star => restores_of_succ fun fuel => by
    rw [Expr.decodeWith]
    exact .unit fun _ => rfl

theorem Branch.restores : ∀ b : Branch, Restores Branch.decodeWith b.toJson b
  | ⟨condition, result⟩ => restores_of_succ fun fuel => by
    rw [Branch.decodeWith]
    exact .record rfl (by decide) <| .field (condition.restores fuel).required <|
      .field (result.restores fuel).required .done

theorem Call.restores : ∀ c : Call, Restores Call.decodeWith c.toJson c
  | ⟨id, name, args, distinct, window⟩ => restores_of_succ fun fuel => by
    rw [Call.decodeWith, Call.toJson_eq]
    exact .record rfl (by decide) <| .field (id.reads_toJson fuel).required <|
      .field (reads_string name fuel).required <|
      .field ((Reads.list args fun a mem => exprs_restore args a mem fuel).orElse []) <|
      .field ((reads_bool distinct fuel).orElse false) <|
      .field (.optional window fun a mem => window_restores window a mem fuel) .done

theorem Window.restores : ∀ w : Window, Restores Window.decodeWith w.toJson w
  | ⟨partition, order, frame⟩ => restores_of_succ fun fuel => by
    rw [Window.decodeWith, Window.toJson_eq]
    exact .record rfl (by decide) <|
      .field ((Reads.list partition fun a mem => exprs_restore partition a mem fuel).orElse []) <|
      .field (.optional order fun a mem => order_restores order a mem fuel) <|
      .field (.optional frame fun part _ => part.reads_toJson fuel) .done

theorem SortClause.restores : ∀ o : SortClause, Restores SortClause.decodeWith o.toJson o
  | ⟨items, offset, fetch⟩ => restores_of_succ fun fuel => by
    rw [SortClause.decodeWith, SortClause.toJson_eq]
    exact .record rfl (by decide) <|
      .field (Reads.list items fun a mem => sortItems_restore items a mem fuel).required <|
      .field (.optional offset fun a mem => expr_restores offset a mem fuel) <|
      .field (.optional fetch fun a mem => expr_restores fetch a mem fuel) .done

theorem SortItem.restores : ∀ i : SortItem, Restores SortItem.decodeWith i.toJson i
  | ⟨expr, descending⟩ => restores_of_succ fun fuel => by
    rw [SortItem.decodeWith]
    exact .record rfl (by decide) <| .field (expr.restores fuel).required <|
      .field ((reads_bool descending fuel).orElse false) .done

theorem Query.restores : ∀ q : Query, Restores Query.decodeWith q.toJson q
  | .select s => restores_of_succ fun fuel => by
    rw [Query.decodeWith]
    exact .variant (by decide) (s.restores fuel) fun _ _ => rfl
  | .union all left right order => restores_of_succ fun fuel => by
    rw [Query.decodeWith, Query.toJson_union]
    refine .structVariant (by decide) (restores_of_succ (fun fuel => ?_) fuel) fun _ _ => rfl
    rw [Query.decodeUnion]
    exact .record rfl (by decide) <| .field ((reads_bool all fuel).orElse false) <|
      .field (left.restores fuel).required <| .field (right.restores fuel).required <|
      .field (.optional order fun a mem => order_restores order a mem fuel) .done

theorem Select.restores : ∀ s : Select, Restores Select.decodeWith s.toJson s
  | ⟨id, distinct, top, columns, intoTable, source, predicate, grouping, having, order⟩ =>
    restores_of_succ fun fuel => by
      rw [Select.decodeWith, Select.toJson_eq]
      exact .record rfl (by decide) <| .field (id.reads_toJson fuel).required <|
        .field ((reads_bool distinct fuel).orElse false) <|
        .field (.optional top fun a mem => expr_restores top a mem fuel) <|
        .field (Reads.list columns fun a mem => projected_restore columns a mem fuel).required <|
        .field (.optional intoTable fun part _ => part.reads_toJson fuel) <|
        .field (.optional source fun a mem => source_restores source a mem fuel) <|
        .field (.optional predicate fun a mem => expr_restores predicate a mem fuel) <|
        .field ((Reads.list grouping fun a mem => exprs_restore grouping a mem fuel).orElse []) <|
        .field (.optional having fun a mem => expr_restores having a mem fuel) <|
        .field (.optional order fun a mem => order_restores order a mem fuel) .done

theorem Projected.restores : ∀ c : Projected, Restores Projected.decodeWith c.toJson c
  | ⟨id, expr, asName⟩ => restores_of_succ fun fuel => by
    rw [Projected.decodeWith]
    exact .record rfl (by decide) <| .field (id.reads_toJson fuel).required <|
      .field (expr.restores fuel).required <|
      .field (.optional asName fun text _ => reads_string text fuel) .done

theorem Source.restores : ∀ s : Source, Restores Source.decodeWith s.toJson s
  | .table t => restores_of_succ fun fuel => by
    rw [Source.decodeWith]
    exact .variant (by decide) (t.reads_toJson fuel) fun _ _ => rfl
  | .derived d => restores_of_succ fun fuel => by
    rw [Source.decodeWith]
    exact .variant (by decide) (d.restores fuel) fun _ _ => rfl
  | .join kind left right condition => restores_of_succ fun fuel => by
    rw [Source.decodeWith, Source.toJson_join]
    refine .structVariant (by decide) (restores_of_succ (fun fuel => ?_) fuel) fun _ _ => rfl
    rw [Source.decodeJoin]
    exact .record rfl (by decide) <| .field (Named.reads_toJson kind fuel).required <|
      .field (left.restores fuel).required <| .field (right.restores fuel).required <|
      .field (.optional condition fun a mem => expr_restores condition a mem fuel) .done

theorem Derived.restores : ∀ d : Derived, Restores Derived.decodeWith d.toJson d
  | ⟨id, query, asName⟩ => restores_of_succ fun fuel => by
    rw [Derived.decodeWith]
    exact .record rfl (by decide) <| .field (id.reads_toJson fuel).required <|
      .field (query.restores fuel).required <| .field (reads_string asName fuel).required .done

theorem exprs_restore : ∀ es : List Expr, ∀ e ∈ es, Restores Expr.decodeWith e.toJson e
  | [], _, mem => nomatch mem
  | first :: es, e, mem => (List.mem_cons.mp mem).elim (· ▸ first.restores) (exprs_restore es e)

theorem branches_restore : ∀ bs : List Branch, ∀ b ∈ bs, Restores Branch.decodeWith b.toJson b
  | [], _, mem => nomatch mem
  | first :: bs, b, mem => (List.mem_cons.mp mem).elim (· ▸ first.restores) (branches_restore bs b)

theorem sortItems_restore :
    ∀ items : List SortItem, ∀ i ∈ items, Restores SortItem.decodeWith i.toJson i
  | [], _, mem => nomatch mem
  | first :: items, i, mem =>
    (List.mem_cons.mp mem).elim (· ▸ first.restores) (sortItems_restore items i)

theorem projected_restore :
    ∀ columns : List Projected, ∀ c ∈ columns, Restores Projected.decodeWith c.toJson c
  | [], _, mem => nomatch mem
  | first :: columns, c, mem =>
    (List.mem_cons.mp mem).elim (· ▸ first.restores) (projected_restore columns c)

theorem expr_restores : ∀ o : Option Expr, ∀ e ∈ o, Restores Expr.decodeWith e.toJson e
  | some e, _, rfl => e.restores

theorem window_restores : ∀ o : Option Window, ∀ w ∈ o, Restores Window.decodeWith w.toJson w
  | some w, _, rfl => w.restores

theorem order_restores :
    ∀ o : Option SortClause, ∀ c ∈ o, Restores SortClause.decodeWith c.toJson c
  | some c, _, rfl => c.restores

theorem source_restores : ∀ o : Option Source, ∀ s ∈ o, Restores Source.decodeWith s.toJson s
  | some s, _, rfl => s.restores

end

end SqlEmit
