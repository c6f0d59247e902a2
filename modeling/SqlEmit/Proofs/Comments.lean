import SqlEmit.Proofs.Query

/-! Comments in operator expressions. Two hyphens start a comment in both backends. Operators between
two operands are written with blanks around them; a minus in front of an operand is not, so it meets
the minus that the operand may start with. -/
namespace SqlEmit

namespace Text

/-- Two hyphens stand side by side, so the rest of the line is a comment. -/
def StartsComment (cs : List Char) : Prop :=
  ['-', '-'] <:+: cs

theorem startsComment_cons {c : Char} {cs : List Char} :
    StartsComment (c :: cs) ↔ c = '-' ∧ cs.head? = some '-' ∨ StartsComment cs := by
  have next : ['-'] <+: cs ↔ cs.head? = some '-' := by
    cases cs <;> simp [eq_comm]
  rw [StartsComment, List.infix_cons_iff, List.cons_prefix_cons, next, eq_comm, StartsComment]

theorem not_startsComment_nil : ¬StartsComment [] := by
  simp [StartsComment]

/-- What stands on two sides of another character does not meet. -/
theorem startsComment_append {c : Char} (other : c ≠ '-') (a b : List Char) :
    StartsComment (a ++ c :: b) ↔ StartsComment a ∨ StartsComment b := by
  induction a with
  | nil => simp [startsComment_cons, other, not_startsComment_nil]
  | cons d a ih =>
    have first : (a ++ c :: b).head? = some '-' ↔ a.head? = some '-' := by
      cases a <;> simp [other]
    rw [List.cons_append, startsComment_cons, startsComment_cons, ih, first, or_assoc]

theorem not_startsComment_of_not_mem {cs : List Char} (plain : '-' ∉ cs.tail) : ¬StartsComment cs := by
  cases cs with
  | nil => exact not_startsComment_nil
  | cons c cs =>
    rw [startsComment_cons]
    rintro (⟨-, first⟩ | later)
    · exact plain (List.mem_of_head? first)
    · exact plain (later.subset (by simp))

end Text

theorem LogicalOp.not_startsComment (op : LogicalOp) : ¬Text.StartsComment op.text.toList := by
  cases op <;> exact Text.not_startsComment_of_not_mem (by decide)

theorem ArithmeticOp.not_startsComment (op : ArithmeticOp) : ¬Text.StartsComment op.text.toList := by
  cases op <;> exact Text.not_startsComment_of_not_mem (by decide)

theorem CompareOp.not_startsComment (op : CompareOp) (modifier : Option CompareModifier) :
    ¬Text.StartsComment (op.spelled modifier).toList := by
  apply Text.not_startsComment_of_not_mem
  cases op <;> rcases modifier with _ | _ | _ | _ <;> decide

section

variable (left right : Sql) (op : String)

theorem toList_binarySql :
    (binarySql left op right).text.toList =
      left.text.toList ++ ' ' :: (op.toList ++ ' ' :: right.text.toList) := by
  simp [binarySql]

/-- Blanks keep the operands apart from the operator between them. -/
theorem startsComment_binarySql (plain : ¬Text.StartsComment op.toList) :
    Text.StartsComment (binarySql left op right).text.toList ↔
      Text.StartsComment left.text.toList ∨ Text.StartsComment right.text.toList := by
  have blank : ' ' ≠ '-' := by decide
  rw [toList_binarySql, Text.startsComment_append blank, Text.startsComment_append blank]
  simp only [plain, false_or]

theorem head_binarySql :
    (binarySql left op right).text.toList.head? = some '-' ↔ left.text.toList.head? = some '-' := by
  rw [toList_binarySql]
  cases left.text.toList <;> simp

end

namespace Expr

/-- Operator expressions over numbers and variables. A number may start with a minus, and no other
minus stands in a number or a name. -/
inductive OverNumbers : Expr → Prop where
  | number {text : String} (plain : '-' ∉ text.toList.tail) : OverNumbers (.literal ⟨.number, text⟩)
  | variableRef {ref : VariableRef} (plain : '-' ∉ ref.identifier.toList) : OverNumbers (.variableRef ref)
  | unary (op : UnaryOp) {operand : Expr} (inner : operand.OverNumbers) : OverNumbers (.unary op operand)
  | logical (op : LogicalOp) {left right : Expr} (first : left.OverNumbers) (second : right.OverNumbers) :
    OverNumbers (.logical op left right)
  | arithmetic (op : ArithmeticOp) {left right : Expr} (first : left.OverNumbers) (second : right.OverNumbers) :
    OverNumbers (.arithmetic op left right)
  | compare (op : CompareOp) (modifier : Option CompareModifier) {left right : Expr} (first : left.OverNumbers)
    (second : right.OverNumbers) : OverNumbers (.compare op modifier left right)
  | group {inner : Expr} (enclosed : inner.OverNumbers) : OverNumbers (.group inner)

/-- The expression starts with a minus: its first operand is a negative number or has a minus in front. -/
def leadsMinus : Expr → Bool
  | .literal ⟨.number, text⟩ => text.toList.head? = some '-'
  | .unary op _ => op = .minus
  | .logical _ left _ => left.leadsMinus
  | .arithmetic _ left _ => left.leadsMinus
  | .compare _ _ left _ => left.leadsMinus
  | _ => false

/-- Somewhere a minus stands in front of an operand that starts with a minus. -/
def doublesMinus : Expr → Bool
  | .unary op operand => op = .minus && operand.leadsMinus || operand.doublesMinus
  | .logical _ left right => left.doublesMinus || right.doublesMinus
  | .arithmetic _ left right => left.doublesMinus || right.doublesMinus
  | .compare _ _ left right => left.doublesMinus || right.doublesMinus
  | .group inner => inner.doublesMinus
  | _ => false

section

variable (ref : VariableRef) (text : String) (op : UnaryOp) (operand : Expr)

@[simp] theorem leadsMinus_number :
    (Expr.literal ⟨.number, text⟩).leadsMinus = decide (text.toList.head? = some '-') := rfl

@[simp] theorem leadsMinus_variableRef : (Expr.variableRef ref).leadsMinus = false := rfl

@[simp] theorem leadsMinus_unary : (Expr.unary op operand).leadsMinus = decide (op = .minus) := rfl

@[simp] theorem leadsMinus_group : (Expr.group operand).leadsMinus = false := rfl

@[simp] theorem doublesMinus_literal (literal : Literal) : (Expr.literal literal).doublesMinus = false := rfl

@[simp] theorem doublesMinus_variableRef : (Expr.variableRef ref).doublesMinus = false := rfl

@[simp] theorem doublesMinus_group : (Expr.group operand).doublesMinus = operand.doublesMinus := rfl

@[simp] theorem doublesMinus_unary : (Expr.unary op operand).doublesMinus =
    (decide (op = .minus) && operand.leadsMinus || operand.doublesMinus) := rfl

end

/-- The text shows whether the expression starts with a minus and whether it doubles one. -/
structure ShowsMinus (e : Expr) (sql : Sql) : Prop where
  comment : Text.StartsComment sql.text.toList ↔ e.doublesMinus = true
  leads : sql.text.toList.head? = some '-' ↔ e.leadsMinus = true

/-- The expression is written, and its text shows the minuses. -/
def Written (cx : Context) (e : Expr) : Prop :=
  ∃ sql, (e.emit cx).result = .ok sql ∧ e.ShowsMinus sql

theorem written_binary {cx : Context} {e left right : Expr} {op : String}
    (emits : e.emit cx = do return binarySql (← left.emit cx) op (← right.emit cx))
    (doubles : e.doublesMinus = (left.doublesMinus || right.doublesMinus)) (leads : e.leadsMinus = left.leadsMinus)
    (plain : ¬Text.StartsComment op.toList) (first : left.Written cx) (second : right.Written cx) :
    e.Written cx := by
  obtain ⟨a, emittedLeft, shownLeft⟩ := first
  obtain ⟨b, emittedRight, shownRight⟩ := second
  refine ⟨binarySql a op b, ?_, ?_, ?_⟩
  · rw [emits, Emit.bind_ok]
    exact ⟨a, emittedLeft, Emit.bind_ok.mpr ⟨b, emittedRight, rfl⟩⟩
  · rw [startsComment_binarySql a b op plain, doubles, Bool.or_eq_true, shownLeft.comment, shownRight.comment]
  · rw [head_binarySql, leads, shownLeft.leads]

theorem showsMinus_unary {operand : Expr} {sql : Sql} (op : UnaryOp) (shown : operand.ShowsMinus sql) :
    (Expr.unary op operand).ShowsMinus (Sql.code op.text ++ sql) := by
  cases op with
  | minus =>
    have text : (Sql.code UnaryOp.minus.text ++ sql).text.toList = '-' :: sql.text.toList := by
      simp [UnaryOp.text]
    refine ⟨?_, by rw [text]; simp⟩
    rw [text, Text.startsComment_cons, shown.leads, shown.comment]
    simp
  | not =>
    have text : (Sql.code UnaryOp.not.text ++ sql).text.toList =
        ['N', 'O', 'T'] ++ ' ' :: sql.text.toList := by
      simp [UnaryOp.text]
    have word : ¬Text.StartsComment ['N', 'O', 'T'] := Text.not_startsComment_of_not_mem (by decide)
    refine ⟨?_, by rw [text]; simp⟩
    rw [text, Text.startsComment_append (by decide), shown.comment]
    simp [word]

theorem showsMinus_group {inner : Expr} {sql : Sql} (shown : inner.ShowsMinus sql) :
    (Expr.group inner).ShowsMinus sql.parens := by
  have text : sql.parens.text.toList = '(' :: (sql.text.toList ++ ')' :: []) := by
    simp [Sql.parens]
  refine ⟨?_, by rw [text]; simp⟩
  rw [text, Text.startsComment_cons, Text.startsComment_append (by decide), shown.comment]
  simp [Text.not_startsComment_nil]

theorem showsMinus_number {text : String} (plain : '-' ∉ text.toList.tail) :
    (Expr.literal ⟨.number, text⟩).ShowsMinus (Sql.code text) :=
  ⟨by simp [Text.not_startsComment_of_not_mem plain], by simp⟩

theorem showsMinus_variableRef {ref : VariableRef} (plain : '-' ∉ ref.identifier.toList) (cx : Context) :
    (Expr.variableRef ref).ShowsMinus (cx.parameterSql ref.id ref.identifier) := by
  have absent : '-' ∉ (cx.parameterSql ref.id ref.identifier).text.toList := by
    unfold Context.parameterSql
    split
    · simp [Sql.cast, plain]
    · simpa using plain
  refine ⟨?_, ?_⟩
  · have none := Text.not_startsComment_of_not_mem (fun mem => absent (List.mem_of_mem_tail mem))
    simp [none]
  · have other : (cx.parameterSql ref.id ref.identifier).text.toList.head? ≠ some '-' :=
      fun first => absent (List.mem_of_head? first)
    simp [other]

/-- Every operator expression over numbers is written on both backends, and its text holds the start of a
comment exactly if somewhere a minus stands in front of an operand that starts with a minus: a negative
number, another minus, or operators whose first operand is one of these. -/
theorem comment_written_iff {e : Expr} (numbers : e.OverNumbers) (cx : Context) :
    ∃ sql, (e.emit cx).result = .ok sql ∧ (Text.StartsComment sql.text.toList ↔ e.doublesMinus = true) := by
  have written : e.Written cx := by
    induction numbers with
    | @number text plain => exact ⟨Sql.code text, by rw [Expr.emit]; rfl, showsMinus_number plain⟩
    | @variableRef ref plain =>
      exact ⟨cx.parameterSql ref.id ref.identifier, by rw [Expr.emit]; rfl, showsMinus_variableRef plain cx⟩
    | unary op _ ih =>
      obtain ⟨sql, emitted, shown⟩ := ih
      refine ⟨Sql.code op.text ++ sql, ?_, showsMinus_unary op shown⟩
      rw [Expr.emit, Emit.bind_ok]
      exact ⟨sql, emitted, rfl⟩
    | logical op _ _ left right =>
      exact written_binary (by rw [Expr.emit]) rfl rfl op.not_startsComment left right
    | arithmetic op _ _ left right =>
      exact written_binary (by rw [Expr.emit]) rfl rfl op.not_startsComment left right
    | compare op modifier _ _ left right =>
      exact written_binary (by rw [Expr.emit]) rfl rfl (op.not_startsComment modifier) left right
    | group _ ih =>
      obtain ⟨inner, emitted, shown⟩ := ih
      refine ⟨inner.parens, ?_, showsMinus_group shown⟩
      rw [Expr.emit, Emit.bind_ok]
      exact ⟨inner, emitted, rfl⟩
  obtain ⟨sql, emitted, shown⟩ := written
  exact ⟨sql, emitted, shown.comment⟩

/-- `@Balance > --5 AND @Open = 1`: the number is negative and has a minus in front. -/
def openBalance : Expr :=
  .logical .and
    (.compare .gt none (.variableRef ⟨⟨1⟩, "@Balance"⟩) (.unary .minus (.literal ⟨.number, "-5"⟩)))
    (.compare .eq none (.variableRef ⟨⟨2⟩, "@Open"⟩) (.literal ⟨.number, "1"⟩))

/-- The second condition is part of the comment. -/
theorem comment_written_iff_of_openBalance :
    ∃ sql, (openBalance.emit (Context.bare .postgres)).result = .ok sql ∧
      sql.text = "@Balance > --5 AND @Open = 1" ∧ Text.StartsComment sql.text.toList := by
  have numbers : openBalance.OverNumbers := by
    refine .logical _ (.compare _ _ (.variableRef ?_) (.unary _ (.number ?_)))
      (.compare _ _ (.variableRef ?_) (.number ?_))
    all_goals decide
  obtain ⟨sql, emitted, comment⟩ := comment_written_iff numbers (Context.bare .postgres)
  obtain ⟨written, same, text⟩ : ∃ sql, (openBalance.emit (Context.bare .postgres)).result = .ok sql ∧
      sql.text = "@Balance > --5 AND @Open = 1" := Except.exists_ok (by decide +kernel)
  obtain rfl : sql = written := Except.ok.inj (emitted.symm.trans same)
  exact ⟨sql, emitted, text, comment.mpr rfl⟩

end Expr

end SqlEmit
