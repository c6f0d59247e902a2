import SqlEmit.Proofs.Fragments
import SqlEmit.Proofs.SetClause

/-! References of several columns where SQL has one value. An operand of a comparison and the value of a
single assigned column are written as any expression is, and a reference is written as its entries of a
select list: nothing refuses them, and nothing spreads them over the columns. Only a target of several
columns is filled column by column or refused. -/
namespace SqlEmit

/-- The entries of a reference with commas between them, as they stand in a select list. -/
def Context.bareList (cx : Context) (mapping : List PhysicalColumn) : String :=
  ", ".intercalate ((cx.items mapping).map fun item => item.sql.text)

theorem Context.text_lineSql (cx : Context) (mapping : List PhysicalColumn) :
    (Item.lineSql (cx.items mapping)).text = cx.bareList mapping := by
  rw [Item.lineSql, Sql.text_join, List.map_map]
  rfl

section

variable {cx : Context} {ref : ColumnRef} {mapping : List PhysicalColumn}

theorem Expr.emit_column (mapped : cx.mapping? ref.id = some mapping) :
    ((Expr.column ref).emit cx).result = .ok (Item.lineSql (cx.items mapping)) := by
  rw [Expr.emit, Emit.result_lift, Context.columnSql, mapped]

theorem Expr.emit_compare {left right : Expr} {op : CompareOp} {modifier : Option CompareModifier} {sql : Sql} :
    ((Expr.compare op modifier left right).emit cx).result = .ok sql ↔
      ∃ a, (left.emit cx).result = .ok a ∧ ∃ b, (right.emit cx).result = .ok b ∧
        binarySql a (op.spelled modifier) b = sql := by
  rw [Expr.emit]
  simp only [Emit.bind_ok, Emit.pure_ok]

/-- Wherever a comparison stands, its operands are written with the operator between them. -/
theorem Expr.compared_of_emit {left right : Expr} {op : CompareOp} {modifier : Option CompareModifier}
    {outer : Fragment} {sql : Sql} (stands : Fragment.StandsIn cx (.expr (.compare op modifier left right)) outer)
    (ok : (outer.emit cx).result = .ok sql) :
    ∃ a b before after, (left.emit cx).result = .ok a ∧ (right.emit cx).result = .ok b ∧
      sql.text = before ++ (a.text ++ " " ++ op.spelled modifier ++ " " ++ b.text) ++ after := by
  obtain ⟨_, emitted, before, after, rfl⟩ := stands.writtenIn ok
  obtain ⟨a, first, b, second, rfl⟩ := Expr.emit_compare.mp emitted
  refine ⟨a, b, before.text, after.text, first, second, ?_⟩
  simp only [binarySql, Sql.text_append, Sql.text_code, String.append_assoc]

/-- Several columns take those of a reference, if they are as many. -/
theorem emitValues_several (mapped : cx.mapping? ref.id = some mapping) {target : List PhysicalColumn}
    (several : 1 < target.length) {values : List Sql} :
    (emitValues cx target (.column ref)).result = .ok values ↔
      target.length = mapping.length ∧ values = mapping.map fun column => Sql.code column.name := by
  constructor
  · intro ok
    cases assigned_of_emit ok with
    | single one _ => omega
    | paired _ is same =>
      obtain rfl := Option.some.inj (mapped.symm.trans is)
      exact ⟨same.symm, rfl⟩
  · rintro ⟨same, rfl⟩
    rcases target with _ | ⟨first, _ | ⟨second, others⟩⟩
    · simp at several
    · simp at several
    · have chosen : (cx.referenceMapping? (.column ref)).filter
          (·.length = (first :: second :: others).length) = some mapping := by
        simp [Context.referenceMapping?, mapped, same, Option.filter_some]
      simp only [emitValues, chosen, Emit.pure_ok]

/-- A single assigned column has the list for its value. -/
theorem bareList_assigned (mapped : cx.mapping? ref.id = some mapping) {outer : Context} {statement : Statement}
    {s : Update} {sql : Sql} (half : statement.updateHalf? outer = some (cx, s))
    (ok : (statement.emit outer).result = .ok sql) {assignment : Assignment} (mem : assignment ∈ s.assignments)
    (value : assignment.value = .column ref) {target : PhysicalColumn}
    (single : cx.mapping? assignment.column.id = some [target]) :
    ∃ before items after, sql.text = before ++ "\nSET " ++ ",\n".intercalate items ++ after ∧
      target.columnName ++ " = " ++ cx.bareList mapping ∈ items := by
  obtain ⟨update, rest, emitted, rfl⟩ := Statement.updateHalf_emitted half ok
  obtain ⟨before, table, assigned, after, -, set, rfl, -⟩ := Update.set_of_emit emitted
  obtain ⟨parts, sets, rfl⟩ := sets_of_emit set
  obtain ⟨⟨columns, values⟩, there, own⟩ := forall₂_mem sets mem
  obtain rfl : columns = [target] := Option.some.inj (own.mapped.symm.trans single)
  have filled := own.assigned
  rw [value] at filled
  cases filled with
  | single _ written =>
    obtain rfl := Except.ok.inj ((Expr.emit_column mapped).symm.trans written)
    refine ⟨before.text ++ "UPDATE " ++ s.targetText cx.dialect table, parts.flatMap SetPart.items,
      (after ++ rest).text, ?_, List.mem_flatMap.mpr ⟨_, there, ?_⟩⟩
    · simp only [Sql.text_append, Sql.text_code, text_assignmentsSql, String.append_assoc]
    · simp [SetPart.items, cx.text_lineSql]
  | paired several => simp at several

end

/-- A reference of several columns stands as a bare list wherever a comparison has it for an operand, on
either side, in every fragment that holds the comparison; the comparison is written exactly where its
other operand is. As the value of a single assigned column it stands so too, in every UPDATE and in the
UPDATE of every UPSERT. Several assigned columns take its columns one by one, or nothing is written. -/
theorem Context.several_columns_stand_bare (cx : Context) (ref : ColumnRef) (mapping : List PhysicalColumn)
    (mapped : cx.mapping? ref.id = some mapping) (several : 2 ≤ mapping.length) :
    (∃ first second rest, cx.bareList mapping = first ++ ", " ++ ", ".intercalate (second :: rest) ∧
      mapping.length = rest.length + 2) ∧
    (∀ op modifier other outer sql,
      (Fragment.StandsIn cx (.expr (.compare op modifier (.column ref) other)) outer →
        (outer.emit cx).result = .ok sql → ∃ part before after, (other.emit cx).result = .ok part ∧
          sql.text = before ++ (cx.bareList mapping ++ " " ++ op.spelled modifier ++ " " ++ part.text) ++ after) ∧
      (Fragment.StandsIn cx (.expr (.compare op modifier other (.column ref))) outer →
        (outer.emit cx).result = .ok sql → ∃ part before after, (other.emit cx).result = .ok part ∧
          sql.text = before ++ (part.text ++ " " ++ op.spelled modifier ++ " " ++ cx.bareList mapping) ++ after)) ∧
    (∀ op modifier other part, (other.emit cx).result = .ok part →
      (∃ sql, ((Expr.compare op modifier (.column ref) other).emit cx).result = .ok sql) ∧
        ∃ sql, ((Expr.compare op modifier other (.column ref)).emit cx).result = .ok sql) ∧
    (∀ outer statement s sql, Statement.updateHalf? outer statement = some (cx, s) →
      (statement.emit outer).result = .ok sql → ∀ assignment ∈ s.assignments,
        assignment.value = .column ref → ∀ target, cx.mapping? assignment.column.id = some [target] →
          ∃ before items after, sql.text = before ++ "\nSET " ++ ",\n".intercalate items ++ after ∧
            target.columnName ++ " = " ++ cx.bareList mapping ∈ items) ∧
    ∀ target values, 1 < target.length → ((emitValues cx target (.column ref)).result = .ok values ↔
      target.length = mapping.length ∧ values = mapping.map fun column => Sql.code column.name) := by
  refine ⟨?_, ?_, ?_, ?_, fun target values wide => emitValues_several mapped wide⟩
  · rcases mapping with _ | ⟨first, _ | ⟨second, rest⟩⟩
    · simp at several
    · simp at several
    · refine ⟨(Item.ofPhysical cx.dialect first).sql.text, (Item.ofPhysical cx.dialect second).sql.text,
        (cx.items rest).map fun item => item.sql.text, ?_, by simp [Context.items]⟩
      simp only [Context.bareList, Context.items, List.map_cons, String.intercalate_cons_cons]
  · intro op modifier other outer sql
    constructor
    · intro stands ok
      obtain ⟨list, part, before, after, is, written, text⟩ := Expr.compared_of_emit stands ok
      obtain rfl := Except.ok.inj ((Expr.emit_column mapped).symm.trans is)
      exact ⟨part, before, after, written, cx.text_lineSql mapping ▸ text⟩
    · intro stands ok
      obtain ⟨part, list, before, after, written, is, text⟩ := Expr.compared_of_emit stands ok
      obtain rfl := Except.ok.inj ((Expr.emit_column mapped).symm.trans is)
      exact ⟨part, before, after, written, cx.text_lineSql mapping ▸ text⟩
  · intro op modifier other part written
    exact ⟨⟨_, Expr.emit_compare.mpr ⟨_, Expr.emit_column mapped, part, written, rfl⟩⟩,
      ⟨_, Expr.emit_compare.mpr ⟨part, written, _, Expr.emit_column mapped, rfl⟩⟩⟩
  · intro outer statement s sql half ok assignment mem value target single
    exact bareList_assigned mapped half ok mem value single

namespace Transfers

/-- `q.Basis = d.Basis`. -/
def sameBasis : Expr := .eq (.column ⟨⟨5⟩, "q.Basis"⟩) (.column ⟨⟨9⟩, "d.Basis"⟩)

/-- `SELECT q.Code FROM Document AS q INNER JOIN drafts ON q.Basis = d.Basis`. -/
def matched : Fragment :=
  .query <| .select <| .plain ⟨20⟩ [⟨⟨21⟩, .column ⟨⟨6⟩, "q.Code"⟩, none⟩]
    (some (.join .inner (.table target) drafts (some sameBasis)))

theorem sameBasis_standsIn (dialect : Dialect) :
    Fragment.StandsIn (context dialect) (.expr sameBasis) matched := by
  have free : (dialect.joinForm .inner).2 = "" := by cases dialect <;> rfl
  refine .tail (.single (.joinOn (by decide) free)) (.source rfl)

/-- `UPDATE Document AS q SET Code = d.Basis FROM drafts`. -/
def recoded : Statement :=
  .update ⟨⟨22⟩, [], target, [⟨⟨⟨6⟩, "q.Code"⟩, .column ⟨⟨9⟩, "d.Basis"⟩⟩], none, some drafts, none, []⟩

end Transfers

/-- Two references of two columns each are compared as lists in the condition of a join, and one of them is
assigned to a single column, on both backends. -/
theorem Context.several_columns_stand_bare_of_transfers :
    (∃ sql before after, (Transfers.matched.emit (Transfers.context .sqlServer)).result = .ok sql ∧
      sql.text = before ++ "q._BasisTRef, q._BasisRRef = d.Basis_TRef, d.Basis_RRef" ++ after) ∧
    (∃ sql before after, (Transfers.matched.emit (Transfers.context .postgres)).result = .ok sql ∧
      sql.text = before ++ "q._BasisTRef, q._BasisRRef = d.Basis_TRef, d.Basis_RRef" ++ after) ∧
    (∃ sql before items after, Transfers.emit .sqlServer Transfers.recoded = .ok sql ∧
      sql.text = before ++ "\nSET " ++ ",\n".intercalate items ++ after ∧
      "_Code = d.Basis_TRef, d.Basis_RRef" ∈ items) ∧
    ∃ sql before items after, Transfers.emit .postgres Transfers.recoded = .ok sql ∧
      sql.text = before ++ "\nSET " ++ ",\n".intercalate items ++ after ∧
      "_Code = d.Basis_TRef, d.Basis_RRef" ∈ items := by
  have compared {dialect : Dialect}
      (list : (Transfers.context dialect).bareList Transfers.basis ++ " " ++ CompareOp.eq.spelled none ++ " " =
        "q._BasisTRef, q._BasisRRef = ")
      (other : ∃ part, ((Expr.column ⟨⟨9⟩, "d.Basis"⟩).emit (Transfers.context dialect)).result = .ok part ∧
        part.text = "d.Basis_TRef, d.Basis_RRef")
      (emits : ∃ sql, (Transfers.matched.emit (Transfers.context dialect)).result = .ok sql ∧ True) :
      ∃ sql before after, (Transfers.matched.emit (Transfers.context dialect)).result = .ok sql ∧
        sql.text = before ++ "q._BasisTRef, q._BasisRRef = d.Basis_TRef, d.Basis_RRef" ++ after := by
    obtain ⟨sql, ok, -⟩ := emits
    have bare := several_columns_stand_bare (Transfers.context dialect) ⟨⟨5⟩, "q.Basis"⟩ Transfers.basis rfl
      (by decide)
    obtain ⟨part, before, after, written, text⟩ :=
      (bare.2.1 .eq none _ _ sql).1 (Transfers.sameBasis_standsIn dialect) ok
    obtain ⟨expected, is, name⟩ := other
    obtain rfl := Except.ok.inj (written.symm.trans is)
    refine ⟨sql, before, after, ok, ?_⟩
    rw [text, list, name]
    rfl
  have assigned {dialect : Dialect} {other : List PhysicalColumn}
      (mapped : (Transfers.context dialect).mapping? ⟨9⟩ = some other) (several : 2 ≤ other.length)
      (list : "_Code = " ++ (Transfers.context dialect).bareList other = "_Code = d.Basis_TRef, d.Basis_RRef")
      (emits : ∃ sql, Transfers.emit dialect Transfers.recoded = .ok sql ∧ True) :
      ∃ sql before items after, Transfers.emit dialect Transfers.recoded = .ok sql ∧
        sql.text = before ++ "\nSET " ++ ",\n".intercalate items ++ after ∧
        "_Code = d.Basis_TRef, d.Basis_RRef" ∈ items := by
    obtain ⟨sql, ok, -⟩ := emits
    have bare := several_columns_stand_bare (Transfers.context dialect) ⟨⟨9⟩, "d.Basis"⟩ other mapped several
    obtain ⟨before, items, after, text, mem⟩ := bare.2.2.2.1 (Transfers.context dialect) Transfers.recoded _ sql
      rfl ok _ (List.mem_singleton_self _) rfl ⟨"q._Code", none, none, none⟩ rfl
    refine ⟨sql, before, items, after, ok, text, ?_⟩
    rw [← list]
    exact mem
  refine ⟨compared ?_ ?_ ?_, compared ?_ ?_ ?_, assigned rfl ?_ ?_ ?_, assigned rfl ?_ ?_ ?_⟩
  all_goals first
    | exact Except.exists_ok (by decide +kernel)
    | decide +kernel

end SqlEmit
