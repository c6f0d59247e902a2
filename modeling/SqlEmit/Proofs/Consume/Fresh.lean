import SqlEmit.Proofs.Consume.Shape

/-! Order columns that the projection lacks. The search for the name of such a column ends, and the
column stands behind the projection under a name that no other carried column has. -/
namespace SqlEmit.Consume

/-- The search as it runs: a name that is taken gets an underscore and is looked at again. -/
inductive Settles (taken : List String) : Nat → String → String → Prop where
  | free {name : String} (absent : name ∉ taken) : Settles taken 0 name name
  | again {passes : Nat} {name last : String} (present : name ∈ taken)
      (onward : Settles taken passes (name.push '_') last) : Settles taken (passes + 1) name last

/-- A search that has found a free name within some passes has not been cut short by them. -/
theorem settles_untaken {taken : List String} {steps : Nat} {name : String}
    (absent : untaken taken steps name ∉ taken) :
    ∃ passes ≤ steps, Settles taken passes name (untaken taken steps name) := by
  induction steps generalizing name with
  | zero => exact ⟨0, Nat.le_refl 0, .free absent⟩
  | succ steps ih =>
    unfold untaken at absent ⊢
    split
    next present =>
      rw [if_pos present] at absent
      obtain ⟨passes, bound, onward⟩ := ih absent
      exact ⟨passes + 1, Nat.succ_le_succ bound, .again present onward⟩
    next free => exact ⟨0, Nat.zero_le _, .free free⟩

/-- How an order column comes to its name. The physical name is kept if it is free; else the search
starts from the one with its table in front, and takes no more passes than there are taken names. -/
inductive Named (taken : List String) (qualifier : String) (column : PhysicalColumn) : String → Prop where
  | own (free : column.columnName ∉ taken) : Named taken qualifier column column.columnName
  | searched {passes : Nat} {name : String} (present : column.columnName ∈ taken)
      (bound : passes ≤ taken.length)
      (search : Settles taken passes
        ((Text.splitIdentifier column.name).1.getD qualifier ++ "_" ++ column.columnName) name) :
      Named taken qualifier column name

theorem named_hiddenName (carried : List Carried) (qualifier : String) (reserved : List String)
    (column : PhysicalColumn) :
    Named (takenNames carried qualifier reserved column) qualifier column
      (hiddenName carried qualifier reserved column) := by
  simp only [hiddenName]
  split
  next present =>
    obtain ⟨passes, bound, search⟩ := settles_untaken (untaken_fresh
      (takenNames carried qualifier reserved column)
      ((Text.splitIdentifier column.name).1.getD qualifier ++ "_" ++ column.columnName))
    exact .searched present bound search
  next free => exact .own free

/-- Behind a hidden column all columns are hidden, and a hidden column has the name of none before it. -/
theorem Planned.pairwise {cx : Context} {s : Consume} {qualifier : String} {reserved : List String}
    {plan : Plan} (planned : Planned cx s qualifier reserved plan) :
    plan.carried.Pairwise fun before after =>
      (before.isHidden = true → after.isHidden = true) ∧
        (after.isHidden = true → before.name ≠ after.name) := by
  have shown : ∀ column ∈ plan.visible, column.isHidden = false := by
    intro column mem
    simpa using (List.mem_filter.mp mem).2
  have carried : ∀ column ∈ plan.hidden, column.isHidden = true := fun _ mem => (List.mem_filter.mp mem).2
  rw [planned.carried, List.pairwise_append]
  refine ⟨?_, ?_, ?_⟩
  · apply List.pairwise_of_forall_mem_list
    intro before memBefore after memAfter
    simp [shown before memBefore, shown after memAfter]
  · have distinct := List.pairwise_map.mp planned.distinct
    refine distinct.imp_of_mem fun _ memAfter different => ⟨fun _ => carried _ memAfter, fun _ => different⟩
  · intro before memBefore after memAfter
    refine ⟨fun _ => carried after memAfter, fun _ same => ?_⟩
    exact planned.fresh after memAfter (List.mem_map.mpr ⟨before, memBefore, same⟩)

/-- The search for the name of an order column ends with one that no carried column has, nor any
reserved key if the column is not one of the target. In the plan of a statement every column of the
projection therefore stands before every hidden one, and a hidden one shares its name with no other
column. -/
theorem hidden_names_fresh :
    (∀ (carried : List Carried) (qualifier : String) (reserved : List String) (column : PhysicalColumn),
      Named (takenNames carried qualifier reserved column) qualifier column
        (hiddenName carried qualifier reserved column) ∧
      (∀ other ∈ carried, hiddenName carried qualifier reserved column ≠ other.name) ∧
      (column.name ≠ column.columnName → column.name ≠ qualifier ++ "." ++ column.columnName →
        hiddenName carried qualifier reserved column ∉ reserved)) ∧
    ∀ (cx : Context) (s : Consume) (qualifier : String) (reserved : List String) (plan : Plan),
      Plan.ofStatement cx s qualifier reserved = .ok plan →
      ∀ (i j : Nat) (column hidden : Carried), plan.carried[i]? = some column →
        plan.carried[j]? = some hidden → hidden.isHidden = true →
        (column.isHidden = false → i < j) ∧ (i ≠ j → column.name ≠ hidden.name) := by
  refine ⟨fun carried qualifier reserved column => ⟨named_hiddenName .., ?_, ?_⟩, ?_⟩
  · intro other mem same
    exact hiddenName_not_carried carried qualifier reserved column (List.mem_map.mpr ⟨other, mem, same.symm⟩)
  · intro unqualified foreign
    apply hiddenName_not_reserved
    simp [isTargetColumn, unqualified, foreign]
  · intro cx s qualifier reserved plan ok i j column hidden atI atJ isHidden
    have pairs := List.pairwise_iff_getElem.mp (planned_of_ok ok).pairwise
    obtain ⟨inI, rfl⟩ := List.getElem?_eq_some_iff.mp atI
    obtain ⟨inJ, rfl⟩ := List.getElem?_eq_some_iff.mp atJ
    rcases Nat.lt_trichotomy i j with before | rfl | after
    · exact ⟨fun _ => before, fun _ => (pairs i j inI inJ before).2 isHidden⟩
    · exact ⟨fun shown => by simp [shown] at isHidden, fun apart => absurd rfl apart⟩
    · have both := pairs j i inJ inI after
      have alsoHidden := both.1 isHidden
      exact ⟨fun shown => by simp [shown] at alsoHidden, fun _ => (both.2 alsoHidden).symm⟩

namespace Queue

/-- The projection has taken the name of the first sort key, and that name with its table in front. -/
def crowded : Consume :=
  read true [column ⟨5⟩ (some "_Fld43"), column ⟨6⟩ (some "q__Fld43")]
    (some ⟨[ascending ⟨7⟩, ascending ⟨8⟩, ascending ⟨7⟩], none, none⟩)

end Queue

/-- The key of the queue is carried with an underscore behind its name, that of the nodes with its
table in front. A column of the nodes does so too if only a reserved key has its name. -/
theorem hidden_names_of_crowded :
    (∃ plan, Plan.ofStatement (Queue.context .postgres) Queue.crowded "q" Queue.index.keyNames = .ok plan ∧
      plan.names = ["_Fld43", "q__Fld43", "q__Fld43_", "dbo._Node7__Fld43"] ∧
      ∀ i column, plan.carried[i]? = some column → i ≠ 2 → column.name ≠ "q__Fld43_") ∧
    hiddenName [] "q" Queue.index.keyNames (.named "n._Fld43") = "n__Fld43" ∧
      "n__Fld43" ∉ Queue.index.keyNames := by
  obtain ⟨plan, ok, names, third⟩ : ∃ plan,
      Plan.ofStatement (Queue.context .postgres) Queue.crowded "q" Queue.index.keyNames = .ok plan ∧
        plan.names = ["_Fld43", "q__Fld43", "q__Fld43_", "dbo._Node7__Fld43"] ∧
        plan.carried[2]? = some ⟨"q._Fld43", "q__Fld43_", some "numeric(19,0)", .sortOnly ⟨⟨7⟩, ""⟩ 0⟩ :=
    Except.exists_ok (by decide +kernel)
  have foreign : hiddenName [] "q" Queue.index.keyNames (.named "n._Fld43") = "n__Fld43" := by
    decide +kernel
  refine ⟨⟨plan, ok, names, ?_⟩, foreign, ?_⟩
  · intro i column stands apart
    exact (hidden_names_fresh.2 _ _ _ _ plan ok i 2 column _ stands third rfl).2 apart
  · rw [← foreign]
    exact (hidden_names_fresh.1 [] "q" Queue.index.keyNames (.named "n._Fld43")).2.2
      (by decide +kernel) (by decide +kernel)

end SqlEmit.Consume
