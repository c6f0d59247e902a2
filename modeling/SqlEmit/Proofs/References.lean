import SqlEmit.Proofs.Query

/-! The column references of an expression in the text written for it. References outside subqueries
and windows are written one after the other, in the order of the expression; only calls that are
written without their arguments leave some out. -/
namespace SqlEmit

namespace Sql

/-- The text holds a part for each of the things, in their order, with other text around the parts. -/
def Shows (writes : α → Sql → Prop) : List α → Sql → Prop
  | [], _ => True
  | x :: xs, sql => ∃ before part rest, writes x part ∧ sql = before ++ part ++ rest ∧ Shows writes xs rest

namespace Shows

variable {writes : α → Sql → Prop} {xs ys : List α} {a b : Sql}

theorem single {x : α} (written : writes x a) : Shows writes [x] a :=
  ⟨empty, a, empty, written, congrArg Sql.mk (by simp), trivial⟩

theorem behind (before : Sql) (shown : Shows writes xs a) : Shows writes xs (before ++ a) := by
  cases xs with
  | nil => trivial
  | cons x xs =>
    obtain ⟨first, part, rest, written, rfl, shown⟩ := shown
    exact ⟨before ++ first, part, rest, written, by simp only [append_assoc], shown⟩

theorem append (left : Shows writes xs a) (right : Shows writes ys b) : Shows writes (xs ++ ys) (a ++ b) := by
  induction xs generalizing a with
  | nil => exact right.behind a
  | cons x xs ih =>
    obtain ⟨before, part, rest, written, rfl, shown⟩ := left
    exact ⟨before, part, rest ++ b, written, by simp only [append_assoc], ih shown⟩

theorem before (shown : Shows writes xs a) (after : Sql) : Shows writes xs (a ++ after) := by
  have nothing : Shows writes [] after := trivial
  simpa only [List.append_nil] using shown.append nothing

theorem parens (shown : Shows writes xs a) : Shows writes xs a.parens :=
  (shown.behind _).before _

theorem cast (shown : Shows writes xs a) (typeName : String) : Shows writes xs (a.cast typeName) :=
  (shown.behind _).before _

theorem join (separator : String) {lists : List (List α)} {parts : List Sql}
    (each : List.Forall₂ (Shows writes) lists parts) : Shows writes lists.flatten (Sql.join separator parts) := by
  induction each with
  | nil => trivial
  | cons head tail ih =>
    rw [List.flatten_cons]
    cases tail with
    | nil => simpa [Sql.join] using head
    | cons => exact (head.before _).append ih

/-- Shown things may be written by a weaker rule. -/
theorem imp {weaker : α → Sql → Prop} (implies : ∀ x ∈ xs, ∀ part, writes x part → weaker x part)
    (shown : Shows writes xs a) : Shows weaker xs a := by
  induction xs generalizing a with
  | nil => trivial
  | cons x xs ih =>
    obtain ⟨before, part, rest, written, same, shown⟩ := shown
    have others := fun y mem => implies y (List.mem_cons_of_mem x mem)
    exact ⟨before, part, rest, implies x (List.mem_cons_self ..) part written, same, ih others shown⟩

end Shows

end Sql

def CallPart.argument? (args : List α) : CallPart → Option α
  | .argument place => args[place]?
  | _ => none

/-- The arguments that are part of the text. -/
def CallForm.writtenArgs : CallForm → List α → List α
  | .fixed _, _ => []
  | .named _, args => args
  | .byteLength, args => args.take 1
  | .custom text, args => (text.before ++ text.after).filterMap (CallPart.argument? args)

/-- How the context writes a call, if it can. -/
def Context.form? (cx : Context) (call : Call) : Option CallForm :=
  (cx.callForm call).result.toOption

mutual

/-- The references outside subqueries and windows that are part of the text, given how calls are
written. -/
def Expr.writtenRefs (form? : Call → Option CallForm) : Expr → List ColumnRef
  | .column ref => [ref]
  | .call ⟨id, name, args, distinct, window⟩ =>
    match form? ⟨id, name, args, distinct, window⟩ with
    | some form => (form.writtenArgs (writtenRefsOf form? args)).flatten
    | none => []
  | .caseWhen branches otherwise =>
    (writtenBranchRefs form? branches).flatten ++
      (match otherwise with | none => [] | some e => e.writtenRefs form?)
  | .unary _ operand => operand.writtenRefs form?
  | .logical _ left right => left.writtenRefs form? ++ right.writtenRefs form?
  | .arithmetic _ left right => left.writtenRefs form? ++ right.writtenRefs form?
  | .compare _ _ left right => left.writtenRefs form? ++ right.writtenRefs form?
  | .group inner => inner.writtenRefs form?
  | .values items => (writtenRefsOf form? items).flatten
  | .literal _ | .variableRef _ | .memberRef _ | .subquery _ | .star => []

def writtenRefsOf (form? : Call → Option CallForm) : List Expr → List (List ColumnRef)
  | [] => []
  | e :: es => e.writtenRefs form? :: writtenRefsOf form? es

def writtenBranchRefs (form? : Call → Option CallForm) : List Branch → List (List ColumnRef)
  | [] => []
  | ⟨condition, result⟩ :: branches =>
    (condition.writtenRefs form? ++ result.writtenRefs form?) :: writtenBranchRefs form? branches

end

theorem CallPart.mem_of_argument? {args : List α} {part : CallPart} {arg : α}
    (is : part.argument? args = some arg) : arg ∈ args := by
  cases part with
  | argument place => exact List.mem_of_getElem? is
  | _ => cases is

theorem CallForm.writtenArgs_subset (form : CallForm) (args : List α) : form.writtenArgs args ⊆ args := by
  cases form with
  | fixed => exact List.nil_subset _
  | named => exact List.Subset.refl _
  | byteLength => exact List.take_subset 1 args
  | custom text =>
    intro arg mem
    obtain ⟨part, -, is⟩ := List.mem_filterMap.mp mem
    exact CallPart.mem_of_argument? is

section

variable {form? : Call → Option CallForm} {ref : ColumnRef}

mutual

theorem Expr.mem_columnRefs : ∀ e : Expr, ref ∈ e.writtenRefs form? → ref ∈ e.columnRefs
  | .column _ | .literal _ | .variableRef _ | .memberRef _ | .subquery _ | .star => by
    simp only [Expr.writtenRefs, Expr.columnRefs, imp_self]
  | .call ⟨_, _, args, _, _⟩ => by
    simp only [Expr.writtenRefs, Expr.columnRefs]
    intro mem
    split at mem
    next form _ =>
      obtain ⟨refs, there, mem⟩ := List.mem_flatten.mp mem
      exact mem_columnRefsOf args (List.mem_flatten.mpr ⟨refs, form.writtenArgs_subset _ there, mem⟩)
    next => cases mem
  | .caseWhen branches none => by
    simpa only [Expr.writtenRefs, Expr.columnRefs, List.append_nil] using mem_branchColumnRefs branches
  | .caseWhen branches (some e) => by
    simp only [Expr.writtenRefs, Expr.columnRefs, List.mem_append]
    exact Or.imp (mem_branchColumnRefs branches) e.mem_columnRefs
  | .unary _ operand => by
    simpa only [Expr.writtenRefs, Expr.columnRefs] using operand.mem_columnRefs
  | .logical _ left right | .arithmetic _ left right | .compare _ _ left right => by
    simp only [Expr.writtenRefs, Expr.columnRefs, List.mem_append]
    exact Or.imp left.mem_columnRefs right.mem_columnRefs
  | .group inner => by
    simpa only [Expr.writtenRefs, Expr.columnRefs] using inner.mem_columnRefs
  | .values items => by
    simpa only [Expr.writtenRefs, Expr.columnRefs] using mem_columnRefsOf items

theorem mem_columnRefsOf : ∀ es : List Expr, ref ∈ (writtenRefsOf form? es).flatten → ref ∈ columnRefsOf es
  | [] => by simp only [writtenRefsOf, columnRefsOf, List.flatten_nil, imp_self]
  | e :: es => by
    simp only [writtenRefsOf, columnRefsOf, List.flatten_cons, List.mem_append]
    exact Or.imp e.mem_columnRefs (mem_columnRefsOf es)

theorem mem_branchColumnRefs : ∀ branches : List Branch,
    ref ∈ (writtenBranchRefs form? branches).flatten → ref ∈ branchColumnRefs branches
  | [] => by simp only [writtenBranchRefs, branchColumnRefs, List.flatten_nil, imp_self]
  | ⟨condition, result⟩ :: branches => by
    simp only [writtenBranchRefs, branchColumnRefs, List.flatten_cons, List.mem_append]
    exact Or.imp (Or.imp condition.mem_columnRefs result.mem_columnRefs) (mem_branchColumnRefs branches)

end

end

namespace Call

variable {writes : α → Sql → Prop} {lists : List (List α)} {args : List Sql}

theorem shows_castArguments (dialect : Dialect) (upperName : String)
    (each : List.Forall₂ (Sql.Shows writes) lists args) :
    List.Forall₂ (Sql.Shows writes) lists (castArguments dialect upperName args) := by
  cases dialect with
  | sqlServer => exact each
  | postgres =>
    simp only [castArguments]
    split
    · cases each with
      | nil => exact .nil
      | cons text rest => exact .cons (text.cast _) rest
    · split
      · exact List.forall₂_map_right_iff.mpr (each.imp fun _ _ shown => shown.cast _)
      · exact each

theorem shows_written (call : Call) (dialect : Dialect) (name : String) (window : Option Sql)
    (each : List.Forall₂ (Sql.Shows writes) lists args) :
    Sql.Shows writes lists.flatten (call.written dialect name args window) := by
  have list := (Sql.Shows.join ", " (shows_castArguments dialect call.upperName each)).behind
    (Sql.code (if call.distinct then "DISTINCT " else ""))
  rw [written]
  by_cases bare : call.isNamed "EXISTS" = true
  · rw [if_pos bare]
    exact (list.behind _).before _
  · rw [if_neg bare]
    exact (list.parens.behind _).before _

end Call

theorem shows_caseSql {writes : α → Sql → Prop} {lists : List (List α)} {branches : List (Sql × Sql)}
    {others : List α} {otherwise : Option Sql}
    (each : List.Forall₂ (fun xs (branch : Sql × Sql) =>
      Sql.Shows writes xs (Sql.code " WHEN " ++ branch.1 ++ Sql.code " THEN " ++ branch.2)) lists branches)
    (rest : Sql.Shows writes others (Sql.clause " ELSE " otherwise)) :
    Sql.Shows writes (lists.flatten ++ others) (caseSql branches otherwise) := by
  have written := Sql.Shows.join "" (List.forall₂_map_right_iff.mpr each)
  exact ((written.behind (Sql.code "CASE")).append rest).before _

theorem Emit.gives_shows_binary {writes : α → Sql → Prop} {xs ys : List α} {left right : Emit Sql}
    (op : String) (first : Gives (Sql.Shows writes xs) left) (second : Gives (Sql.Shows writes ys) right) :
    Gives (Sql.Shows writes (xs ++ ys)) (do return binarySql (← left) op (← right)) :=
  first.bind fun _ shownLeft => second.bind fun _ shownRight => .pure ((shownLeft.before _).append shownRight)

theorem CallPart.gives_shows {writes : α → Sql → Prop} {lists : List (List α)} {args : List (Emit Sql)}
    {window : Option (Emit Sql)}
    (each : List.Forall₂ (fun xs arg => Emit.Gives (Sql.Shows writes xs) arg) lists args) (part : CallPart) :
    Emit.Gives (Sql.Shows writes ((part.argument? lists).getD [])) (part.write args window) := by
  cases part with
  | argument place =>
    cases stands : lists[place]? with
    | none =>
      simp only [argument?, stands, Option.getD_none]
      exact fun _ _ => trivial
    | some xs =>
      obtain ⟨arg, there, shows⟩ := forall₂_getElem? each stands
      simpa only [argument?, stands, Option.getD_some, write, List.getD_eq_getElem?_getD, there] using shows
  | _ => exact fun _ _ => trivial

theorem CallPart.gives_shows_all {writes : α → Sql → Prop} {lists : List (List α)} {args : List (Emit Sql)}
    {window : Option (Emit Sql)}
    (each : List.Forall₂ (fun xs arg => Emit.Gives (Sql.Shows writes xs) arg) lists args)
    (parts : List CallPart) :
    Emit.Gives (fun sqls => Sql.Shows writes (parts.filterMap (argument? lists)).flatten (Sql.join "" sqls))
      (Emit.all (parts.map (write args window))) := by
  have written : (parts.filterMap (argument? lists)).flatten =
      (parts.map fun part => (part.argument? lists).getD []).flatten := by
    induction parts with
    | nil => rfl
    | cons part parts ih => cases is : part.argument? lists <;> simp [is, ih]
  intro sqls ok
  rw [written]
  refine Sql.Shows.join "" (Emit.Gives.forall₂ ?_ sqls ok)
  rw [List.forall₂_map_left_iff, List.forall₂_map_right_iff, List.forall₂_same]
  exact fun part _ => part.gives_shows each

/-- A call shows the arguments that its form writes. -/
theorem Context.gives_shows_call {writes : α → Sql → Prop} {cx : Context} {call : Call}
    {lists : List (List α)} {args : List (Emit Sql)} {window : Option (Emit Sql)}
    (each : List.Forall₂ (fun xs arg => Emit.Gives (Sql.Shows writes xs) arg) lists args) :
    Emit.Gives (fun sql => ∃ form, cx.form? call = some form ∧
      Sql.Shows writes (form.writtenArgs lists).flatten sql) (cx.writeCall call args window) := by
  intro sql ok
  obtain ⟨form, is, ok⟩ := Emit.bind_ok.mp ok
  refine ⟨form, by rw [Context.form?, is]; rfl, ?_⟩
  cases form with
  | fixed => exact trivial
  | named name =>
    obtain ⟨parts, written, ok⟩ := Emit.bind_ok.mp ok
    obtain ⟨after, -, ok⟩ := Emit.bind_ok.mp ok
    obtain rfl := Emit.pure_ok.mp ok
    exact call.shows_written cx.dialect name after (Emit.Gives.forall₂ each parts written)
  | byteLength =>
    cases each with
    | nil => simp at ok
    | cons first rest =>
      obtain ⟨part, written, ok⟩ := Emit.bind_ok.mp ok
      obtain rfl := Emit.pure_ok.mp ok
      simpa [CallForm.writtenArgs] using ((first part written).cast "text").parens.behind _
  | custom text =>
    obtain ⟨before, first, ok⟩ := Emit.bind_ok.mp ok
    obtain ⟨after, second, ok⟩ := Emit.bind_ok.mp ok
    have left := CallPart.gives_shows_all each text.before before first
    have right := CallPart.gives_shows_all each text.after after second
    rw [CallForm.writtenArgs, List.filterMap_append, List.flatten_append]
    cases deferred : text.deferred with
    | none =>
      simp only [deferred] at ok
      obtain rfl := Emit.pure_ok.mp ok
      exact left.append right
    | some call =>
      simp only [deferred] at ok
      obtain ⟨-, -, ok⟩ := Emit.bind_ok.mp ok
      obtain rfl := Emit.pure_ok.mp ok
      exact (left.before _).append right

def Context.Writes (cx : Context) (ref : ColumnRef) (part : Sql) : Prop :=
  cx.columnSql ref = .ok part

section

variable {cx : Context}

mutual

/-- The text of an expression shows its written references. -/
theorem Expr.gives_shows : ∀ e : Expr,
    Emit.Gives (Sql.Shows cx.Writes (e.writtenRefs cx.form?)) (e.emit cx)
  | .column ref => by
    simp only [Expr.writtenRefs, Expr.emit]
    exact .lift fun part is => Sql.Shows.single is
  | .literal _ | .variableRef _ | .memberRef _ | .subquery _ | .star => by
    simp only [Expr.writtenRefs]
    exact fun _ _ => trivial
  | .call ⟨id, name, args, distinct, window⟩ => by
    simp only [Expr.writtenRefs, Expr.emit]
    intro sql ok
    obtain ⟨form, is, shown⟩ := Context.gives_shows_call (emitEach_gives_shows args) sql ok
    simpa only [is] using shown
  | .caseWhen branches otherwise => by
    simp only [Expr.emit]
    refine .bind (.forall₂ (emitBranches_gives_shows branches)) fun written each => ?_
    cases otherwise with
    | none =>
      simp only [Expr.writtenRefs, emitOption]
      have other : Emit.Gives (fun other => Sql.Shows cx.Writes [] (Sql.clause " ELSE " other)) (pure none) :=
        .pure trivial
      exact .bind other fun _ shown => .pure (shows_caseSql each shown)
    | some e =>
      simp only [Expr.writtenRefs, emitOption]
      have other : Emit.Gives (fun other => Sql.Shows cx.Writes (e.writtenRefs cx.form?)
          (Sql.clause " ELSE " other)) (do return some (← e.emit cx)) :=
        .bind e.gives_shows fun _ shown => .pure (shown.behind _)
      exact .bind other fun _ shown => .pure (shows_caseSql each shown)
  | .unary _ operand => by
    simp only [Expr.writtenRefs, Expr.emit]
    exact .bind operand.gives_shows fun _ shown => .pure (shown.behind _)
  | .logical _ left right | .arithmetic _ left right | .compare _ _ left right => by
    simp only [Expr.writtenRefs, Expr.emit]
    exact Emit.gives_shows_binary _ left.gives_shows right.gives_shows
  | .group inner => by
    simp only [Expr.writtenRefs, Expr.emit]
    exact .bind inner.gives_shows fun _ shown => .pure shown.parens
  | .values items => by
    simp only [Expr.writtenRefs, Expr.emit]
    exact .bind (.forall₂ (emitEach_gives_shows items)) fun _ each => .pure (Sql.Shows.join ", " each).parens

theorem emitEach_gives_shows : ∀ es : List Expr,
    List.Forall₂ (fun refs part => Emit.Gives (Sql.Shows cx.Writes refs) part)
      (writtenRefsOf cx.form? es) (emitEach cx es)
  | [] => by
    simp only [writtenRefsOf, emitEach]
    exact .nil
  | e :: es => by
    simp only [writtenRefsOf, emitEach]
    exact .cons e.gives_shows (emitEach_gives_shows es)

theorem emitBranches_gives_shows : ∀ branches : List Branch,
    List.Forall₂ (fun refs branch => Emit.Gives (fun written => Sql.Shows cx.Writes refs
        (Sql.code " WHEN " ++ written.1 ++ Sql.code " THEN " ++ written.2)) branch)
      (writtenBranchRefs cx.form? branches) (emitBranches cx branches)
  | [] => by
    simp only [writtenBranchRefs, emitBranches]
    exact .nil
  | ⟨condition, result⟩ :: branches => by
    simp only [writtenBranchRefs, emitBranches]
    refine .cons ?_ (emitBranches_gives_shows branches)
    exact .bind condition.gives_shows fun _ first => .bind result.gives_shows fun _ second =>
      .pure (((first.behind _).before _).append second)

end

end

end SqlEmit
