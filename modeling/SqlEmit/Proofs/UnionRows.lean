import Mathlib.Data.Multiset.Dedup
import SqlEmit.Proofs.Query

/-! Rows of unions. A tree of unions is written as a chain of selects with operators between them and
is read from left to right, where UNION removes the duplicates of everything combined so far. The
chain keeps the rows of the tree if the duplicates that the tree removes are those of a beginning of
the chain; parentheses, which would keep all trees apart, are not written. -/
namespace SqlEmit

/-- The rows that an operator makes of two row sets; only UNION ALL keeps duplicates. -/
def combineRows [DecidableEq ρ] (all : Bool) (left right : Multiset ρ) : Multiset ρ :=
  if all then left + right else (left + right).dedup

/-- Goes on from the rows so far to the selects from `next` on, one for each operator. -/
def readRowsFrom [DecidableEq ρ] (rows : Nat → Multiset ρ) :
    Multiset ρ → Nat → List Bool → Multiset ρ
  | sofar, _, [] => sofar
  | sofar, next, all :: operators =>
    readRowsFrom rows (combineRows all sofar (rows next)) (next + 1) operators

/-- The rows of a chain of selects that is read from left to right. The select in position `n` has the
rows `rows n`. -/
def readRows [DecidableEq ρ] (rows : Nat → Multiset ρ) (operators : List Bool) : Multiset ρ :=
  readRowsFrom rows (rows 0) 1 operators

/-- Texts with operators between them. -/
def chainText : List String → List Bool → String
  | text :: texts, all :: operators => text ++ QuerySql.unionText all ++ chainText texts operators
  | text :: _, [] => text
  | [], _ => ""

namespace Query

/-- The selects in the order in which they are written. -/
def selects : Query → List Select
  | .select s => [s]
  | .union _ left right _ => left.selects ++ right.selects

/-- The operators in the order in which they are written. -/
def operators : Query → List Bool
  | .select _ => []
  | .union all left right _ => left.operators ++ all :: right.operators

/-- The rows of the tree itself, whose first select is in position `first`. -/
def rowsFrom [DecidableEq ρ] (rows : Nat → Multiset ρ) (first : Nat) : Query → Multiset ρ
  | .select _ => rows first
  | .union all left right _ =>
    combineRows all (left.rowsFrom rows first) (right.rowsFrom rows (first + left.selects.length))

/-- No part of the tree is ordered, bounded or stored. -/
def Unadorned : Query → Prop
  | .select s => s.top = none ∧ s.intoTable = none ∧ s.order = none
  | .union _ left right order => left.Unadorned ∧ right.Unadorned ∧ order = none

/-- Reading from left to right removes the duplicates that the tree removes: everything under a UNION
has a UNION as its last operator, and nothing to the right of a UNION ALL removes duplicates. -/
def keepsGrouping : Query → Bool
  | .select _ => true
  | .union true left right _ => left.keepsGrouping && right.operators.all id
  | .union false _ right _ => right.operators.getLast? != some true

theorem length_selects (q : Query) : q.selects.length = q.operators.length + 1 := by
  fun_induction operators q with
  | case1 => rfl
  | case2 all left right _ ihLeft ihRight =>
    simp only [selects, List.length_append, List.length_cons, ihLeft, ihRight]
    omega

section

variable {ρ : Type} [DecidableEq ρ] {rows : Nat → Multiset ρ}

theorem mem_combineRows {all : Bool} {left right : Multiset ρ} {row : ρ} :
    row ∈ combineRows all left right ↔ row ∈ left ∨ row ∈ right := by
  cases all <;> simp [combineRows]

theorem readRowsFrom_append (sofar : Multiset ρ) (next : Nat) (before after : List Bool) :
    readRowsFrom rows sofar next (before ++ after) =
      readRowsFrom rows (readRowsFrom rows sofar next before) (next + before.length) after := by
  induction before generalizing sofar next with
  | nil => rfl
  | cons all before ih =>
    rw [List.cons_append, readRowsFrom, ih, readRowsFrom, List.length_cons]
    congr 1
    omega

theorem mem_readRowsFrom {sofar : Multiset ρ} {next : Nat} {operators : List Bool} {row : ρ} :
    row ∈ readRowsFrom rows sofar next operators ↔
      row ∈ sofar ∨ ∃ n, next ≤ n ∧ n < next + operators.length ∧ row ∈ rows n := by
  induction operators generalizing sofar next with
  | nil =>
    simp only [readRowsFrom, List.length_nil]
    constructor
    · exact .inl
    · rintro (mem | ⟨n, le, lt, _⟩)
      · exact mem
      · omega
  | cons all operators ih =>
    rw [readRowsFrom, ih, mem_combineRows, List.length_cons]
    constructor
    · rintro ((mem | mem) | ⟨n, le, lt, mem⟩)
      · exact .inl mem
      · exact .inr ⟨next, by omega, by omega, mem⟩
      · exact .inr ⟨n, by omega, by omega, mem⟩
    · rintro (mem | ⟨n, le, lt, mem⟩)
      · exact .inl (.inl mem)
      · rcases Nat.eq_or_lt_of_le le with rfl | later
        · exact .inl (.inr mem)
        · exact .inr ⟨n, by omega, by omega, mem⟩

/-- Rows behind a UNION have no duplicates. -/
theorem nodup_readRowsFrom (sofar : Multiset ρ) (next : Nat) (operators : List Bool) :
    (readRowsFrom rows sofar next (operators ++ [false])).Nodup := by
  rw [readRowsFrom_append]
  exact Multiset.nodup_dedup _

theorem readRowsFrom_all_zero {sofar : Multiset ρ} {next : Nat} {operators : List Bool}
    (all : ∀ op ∈ operators, op = true) (none : ∀ n, next ≤ n → rows n = 0) :
    readRowsFrom rows sofar next operators = sofar := by
  induction operators generalizing sofar next with
  | nil => rfl
  | cons op operators ih =>
    obtain rfl : op = true := all op (by simp)
    rw [readRowsFrom, none next (Nat.le_refl next),
      ih (fun op mem => all op (by simp [mem])) fun n le => none n (by omega)]
    simp [combineRows]

theorem mem_rowsFrom {q : Query} {first : Nat} {row : ρ} :
    row ∈ q.rowsFrom rows first ↔
      ∃ n, first ≤ n ∧ n < first + q.selects.length ∧ row ∈ rows n := by
  fun_induction rowsFrom rows first q with
  | case1 first s =>
    simp only [selects, List.length_singleton]
    constructor
    · intro mem
      exact ⟨first, by omega, by omega, mem⟩
    · rintro ⟨n, le, lt, mem⟩
      obtain rfl : n = first := by omega
      exact mem
  | case2 first all left right _ ihLeft ihRight =>
    rw [mem_combineRows, ihLeft, ihRight]
    simp only [selects, List.length_append]
    constructor
    · rintro (⟨n, le, lt, mem⟩ | ⟨n, le, lt, mem⟩)
      · exact ⟨n, by omega, by omega, mem⟩
      · exact ⟨n, by omega, by omega, mem⟩
    · rintro ⟨n, le, lt, mem⟩
      by_cases within : n < first + left.selects.length
      · exact .inl ⟨n, le, within, mem⟩
      · exact .inr ⟨n, by omega, by omega, mem⟩

/-- The rows of the chain in which the tree is written. -/
def readFrom (rows : Nat → Multiset ρ) (first : Nat) (q : Query) : Multiset ρ :=
  readRowsFrom rows (rows first) (first + 1) q.operators

/-- Tree and chain have the same rows up to duplicates. -/
theorem mem_readFrom {q : Query} {first : Nat} {row : ρ} :
    row ∈ q.readFrom rows first ↔ row ∈ q.rowsFrom rows first := by
  rw [readFrom, mem_readRowsFrom, mem_rowsFrom, length_selects]
  constructor
  · rintro (mem | ⟨n, le, lt, mem⟩)
    · exact ⟨first, by omega, by omega, mem⟩
    · exact ⟨n, by omega, by omega, mem⟩
  · rintro ⟨n, le, lt, mem⟩
    rcases Nat.eq_or_lt_of_le le with rfl | later
    · exact .inl mem
    · exact .inr ⟨n, by omega, by omega, mem⟩

/-- Behind UNION ALL, a tree of UNION ALL alone adds its rows, however it is grouped. -/
theorem readRowsFrom_all {q : Query} (all : ∀ op ∈ q.operators, op = true) (sofar : Multiset ρ)
    (first : Nat) :
    readRowsFrom rows sofar first (true :: q.operators) = sofar + q.rowsFrom rows first := by
  fun_induction rowsFrom rows first q generalizing sofar with
  | case1 first s => rfl
  | case2 first op left right _ ihLeft ihRight =>
    simp only [operators, List.mem_append, List.mem_cons] at all
    obtain rfl : op = true := all op (.inr (.inl rfl))
    have leftRows := ihLeft (fun op mem => all op (.inl mem)) sofar
    have rightRows := ihRight (fun op mem => all op (.inr (.inr mem))) (sofar + left.rowsFrom rows first)
    calc
      readRowsFrom rows sofar first (true :: (left.operators ++ true :: right.operators))
      _ = readRowsFrom rows (readRowsFrom rows sofar first (true :: left.operators))
            (first + left.selects.length) (true :: right.operators) := by
          rw [← List.cons_append, readRowsFrom_append, length_selects, List.length_cons]
      _ = sofar + left.rowsFrom rows first + right.rowsFrom rows (first + left.selects.length) := by
          rw [leftRows, rightRows]
      _ = _ := by rw [combineRows, if_pos rfl, Multiset.add_assoc]

/-- To the right of a UNION ALL only further rows are added. -/
theorem readFrom_union_all {left right : Query} {order : Option SortClause}
    (all : ∀ op ∈ right.operators, op = true) (first : Nat) :
    (Query.union true left right order).readFrom rows first =
      left.readFrom rows first + right.rowsFrom rows (first + left.selects.length) := by
  rw [readFrom, operators, readRowsFrom_append, Nat.add_right_comm, Nat.add_assoc, ← length_selects]
  exact readRowsFrom_all all _ _

/-- A chain that ends with a UNION has the rows of the tree without duplicates. -/
theorem readFrom_union {left right : Query} {order : Option SortClause}
    (ends : right.operators.getLast? ≠ some true) (first : Nat) :
    (Query.union false left right order).readFrom rows first =
      (Query.union false left right order).rowsFrom rows first := by
  have last : ∃ before, left.operators ++ false :: right.operators = before ++ [false] := by
    rcases List.eq_nil_or_concat right.operators with none | ⟨before, op, some⟩
    · exact ⟨left.operators, by rw [none]⟩
    · cases op with
      | true => exact absurd (by simp [some]) ends
      | false => exact ⟨left.operators ++ false :: before, by simp [some]⟩
  obtain ⟨before, last⟩ := last
  have chain : ((Query.union false left right order).readFrom rows first).Nodup := by
    rw [readFrom, operators, last]
    exact nodup_readRowsFrom _ _ _
  have tree : ((Query.union false left right order).rowsFrom rows first).Nodup :=
    Multiset.nodup_dedup _
  exact (Multiset.Nodup.ext chain tree).mpr fun _ => mem_readFrom

theorem readFrom_of_keepsGrouping {q : Query} (keeps : q.keepsGrouping = true) (first : Nat) :
    q.readFrom rows first = q.rowsFrom rows first := by
  fun_induction keepsGrouping q with
  | case1 s => rfl
  | case2 left right order ih =>
    simp only [Bool.and_eq_true, List.all_eq_true, id] at keeps
    rw [readFrom_union_all keeps.2, ih keeps.1]
    rfl
  | case3 left right order => exact readFrom_union (by simpa using keeps) first

end

section

variable {ρ : Type} [DecidableEq ρ]

/-- To the right of a UNION ALL, a UNION removes duplicates of rows before it, which the tree keeps. -/
theorem readFrom_ne_of_union {left right : Query} {order : Option SortClause} (row : ρ) (first : Nat)
    (removes : false ∈ right.operators) :
    ∃ rows : Nat → Multiset ρ, (Query.union true left right order).readFrom rows first ≠
      (Query.union true left right order).rowsFrom rows first := by
  obtain ⟨after, before, split, all⟩ := List.eq_append_cons_of_mem (List.mem_reverse.mpr removes)
  have last : right.operators = before.reverse ++ [false] ++ after.reverse := by
    rw [← List.reverse_inj, split]
    simp
  have behind : ∀ op ∈ after.reverse, op = true := by
    intro op mem
    cases op with
    | true => rfl
    | false => exact absurd (List.mem_reverse.mp mem) all
  -- the row stands in all selects up to the one behind the last UNION
  let stop := first + left.selects.length + before.length + 1
  let rows : Nat → Multiset ρ := fun n => if n ≤ stop then {row} else 0
  have given {n : Nat} (le : n ≤ stop) : row ∈ rows n := by simp [rows, le]
  refine ⟨rows, fun same => ?_⟩
  have chain : ((Query.union true left right order).readFrom rows first).count row ≤ 1 := by
    have chainEnd : left.operators ++ true :: right.operators =
        (left.operators ++ true :: before.reverse ++ [false]) ++ after.reverse := by simp [last]
    rw [readFrom, operators, chainEnd, readRowsFrom_append, readRowsFrom_all_zero behind]
    · exact Multiset.nodup_iff_count_le_one.mp (nodup_readRowsFrom _ _ _) row
    · intro n le
      have beyond : ¬n ≤ stop := by
        simp only [List.length_append, List.length_cons, List.length_reverse, List.length_nil] at le
        have := length_selects left
        omega
      simp [rows, beyond]
  have tree : 2 ≤ ((Query.union true left right order).rowsFrom rows first).count row := by
    have leftRow : row ∈ left.rowsFrom rows first := by
      have := length_selects left
      exact mem_rowsFrom.mpr ⟨first, by omega, by omega, given (by omega)⟩
    have rightRow : row ∈ right.rowsFrom rows (first + left.selects.length) := by
      have length : right.selects.length = before.length + after.length + 2 := by
        rw [length_selects, last]
        simp only [List.length_append, List.length_reverse, List.length_singleton]
        omega
      exact mem_rowsFrom.mpr ⟨stop, by omega, by omega, given (Nat.le_refl stop)⟩
    have leftCount := Multiset.one_le_count_iff_mem.mpr leftRow
    have rightCount := Multiset.one_le_count_iff_mem.mpr rightRow
    rw [rowsFrom, combineRows, if_pos rfl, Multiset.count_add]
    omega
  rw [same] at chain
  omega

/-- Behind its last UNION ALL, a chain keeps duplicates that the UNION of the tree removes. -/
theorem readFrom_ne_of_all {left right : Query} {order : Option SortClause} (row : ρ) (first : Nat)
    (ends : right.operators.getLast? = some true) :
    ∃ rows : Nat → Multiset ρ, (Query.union false left right order).readFrom rows first ≠
      (Query.union false left right order).rowsFrom rows first := by
  obtain ⟨before, last⟩ : ∃ before, right.operators = before ++ [true] := by
    obtain ⟨before, split⟩ := List.getLast?_eq_some_iff.mp ends
    exact ⟨before, split⟩
  refine ⟨fun _ => {row}, fun same => ?_⟩
  have chain : 2 ≤ ((Query.union false left right order).readFrom (fun _ => {row}) first).count row := by
    have chainEnd : left.operators ++ false :: right.operators =
        (left.operators ++ false :: before) ++ [true] := by simp [last]
    have sofar : row ∈ readRowsFrom (fun _ => {row}) {row} (first + 1) (left.operators ++ false :: before) :=
      mem_readRowsFrom.mpr (.inl (by simp))
    have sofarCount := Multiset.one_le_count_iff_mem.mpr sofar
    rw [readFrom, operators, chainEnd, readRowsFrom_append, readRowsFrom, readRowsFrom, combineRows,
      if_pos rfl, Multiset.count_add, Multiset.count_singleton_self]
    omega
  have tree : ((Query.union false left right order).rowsFrom (fun _ => {row}) first).count row ≤ 1 :=
    Multiset.nodup_iff_count_le_one.mp (Multiset.nodup_dedup _) row
  rw [same] at chain
  omega

theorem keepsGrouping_of_readFrom {q : Query} (row : ρ) (first : Nat)
    (same : ∀ rows : Nat → Multiset ρ, q.readFrom rows first = q.rowsFrom rows first) :
    q.keepsGrouping = true := by
  fun_induction keepsGrouping q with
  | case1 s => rfl
  | case2 left right order ih =>
    have all : ∀ op ∈ right.operators, op = true := by
      intro op mem
      cases op with
      | true => rfl
      | false =>
        obtain ⟨rows, differ⟩ := @readFrom_ne_of_union ρ _ left right order row first mem
        exact absurd (same rows) differ
    have leftSame (rows : Nat → Multiset ρ) : left.readFrom rows first = left.rowsFrom rows first := by
      have whole := same rows
      rw [readFrom_union_all all] at whole
      exact Multiset.add_left_inj.mp whole
    rw [Bool.and_eq_true, List.all_eq_true]
    exact ⟨ih leftSame, all⟩
  | case3 left right order =>
    refine bne_iff_ne.mpr fun ends => ?_
    obtain ⟨rows, differ⟩ := @readFrom_ne_of_all ρ _ left right order row first ends
    exact differ (same rows)

end

end Query

theorem chainText_append {texts₁ texts₂ : List String} {operators₁ operators₂ : List Bool}
    (length : texts₁.length = operators₁.length + 1) (all : Bool) :
    chainText (texts₁ ++ texts₂) (operators₁ ++ all :: operators₂) =
      chainText texts₁ operators₁ ++ QuerySql.unionText all ++ chainText texts₂ operators₂ := by
  induction operators₁ generalizing texts₁ with
  | nil =>
    obtain ⟨text, rfl⟩ := List.length_eq_one_iff.mp length
    rfl
  | cons op operators₁ ih =>
    cases texts₁ with
    | nil => simp at length
    | cons text texts₁ =>
      have rest := @ih texts₁ (by simpa using length)
      simp only [List.cons_append, chainText, rest, String.append_assoc]

/-- The written operators can be told apart. -/
theorem unionText_inj {all₁ all₂ : Bool} {rest₁ rest₂ : String}
    (same : QuerySql.unionText all₁ ++ rest₁ = QuerySql.unionText all₂ ++ rest₂) :
    all₁ = all₂ ∧ rest₁ = rest₂ := by
  have chars := congrArg String.toList same
  cases all₁ <;> cases all₂ <;> simp_all [QuerySql.unionText, String.toList_append, String.ext_iff]

/-- The text and the texts of the selects show the operators. -/
theorem operators_of_chainText {texts : List String} {operators₁ operators₂ : List Bool}
    (length₁ : texts.length = operators₁.length + 1) (length₂ : texts.length = operators₂.length + 1)
    (same : chainText texts operators₁ = chainText texts operators₂) : operators₁ = operators₂ := by
  induction texts generalizing operators₁ operators₂ with
  | nil => simp at length₁
  | cons text texts ih =>
    cases operators₁ with
    | nil =>
      have none : operators₂.length = 0 := by
        rw [length₁, List.length_nil] at length₂
        omega
      exact (List.length_eq_zero_iff.mp none).symm
    | cons op₁ operators₁ =>
      cases operators₂ with
      | nil =>
        rw [length₁, List.length_cons, List.length_nil] at length₂
        omega
      | cons op₂ operators₂ =>
        simp only [chainText, String.append_assoc, String.append_right_inj] at same
        obtain ⟨rfl, rest⟩ := unionText_inj same
        rw [ih (by simpa using length₁) (by simpa using length₂) rest]

namespace Query

/-- The texts of the selects of a query in order, each as it is written alone. -/
def SelectTexts (cx : Context) (q : Query) (texts : List String) : Prop :=
  List.Forall₂ (fun s text => ∃ sql, (s.emit cx).result = .ok sql ∧ (sql.sql cx.dialect).text = text)
    q.selects texts

theorem chainText_of_emit {cx : Context} {q : Query} {written : QuerySql} (unadorned : q.Unadorned)
    (emitted : (q.emit cx).result = .ok written) :
    ∃ texts, q.SelectTexts cx texts ∧
      (written.sql cx.dialect).text = chainText texts q.operators := by
  fun_induction Unadorned q generalizing written with
  | case1 s =>
    rw [Query.emit, Emit.bind_ok] at emitted
    obtain ⟨sql, select, is⟩ := emitted
    obtain rfl := Emit.pure_ok.mp is
    exact ⟨[(sql.sql cx.dialect).text], .cons ⟨sql, select, rfl⟩ .nil, rfl⟩
  | case2 all left right order ihLeft ihRight =>
    obtain ⟨leftPlain, rightPlain, rfl⟩ := unadorned
    simp only [Query.emit, Emit.bind_ok, Emit.pure_ok, emitOrder] at emitted
    obtain ⟨leftSql, leftEmitted, rightSql, rightEmitted, _, rfl, rfl⟩ := emitted
    obtain ⟨leftTexts, leftEach, leftText⟩ := ihLeft leftPlain leftEmitted
    obtain ⟨rightTexts, rightEach, rightText⟩ := ihRight rightPlain rightEmitted
    refine ⟨leftTexts ++ rightTexts, List.rel_append leftEach rightEach, ?_⟩
    have length : leftTexts.length = left.operators.length + 1 := by
      rw [← leftEach.length_eq, length_selects]
    rw [operators, chainText_append length, ← leftText, ← rightText]
    simp [QuerySql.sql, Sql.clause, String.append_assoc]

/-- A tree of unions is written as its selects with its operators between them, and the text shows
which operators these are. The rows that are read off the chain from left to right are those of the
tree, whatever the rows of the selects are, if and only if the tree keeps its grouping. -/
theorem union_rows_kept_iff {cx : Context} {q : Query} {written : QuerySql} (unadorned : q.Unadorned)
    (emitted : (q.emit cx).result = .ok written) (ρ : Type) [DecidableEq ρ] [Inhabited ρ] :
    (∃ texts, q.SelectTexts cx texts ∧ texts.length = q.operators.length + 1 ∧
      ∀ operators, texts.length = operators.length + 1 →
        ((written.sql cx.dialect).text = chainText texts operators ↔ operators = q.operators)) ∧
    ((∀ rows : Nat → Multiset ρ, readRows rows q.operators = q.rowsFrom rows 0) ↔
      q.keepsGrouping = true) := by
  obtain ⟨texts, each, text⟩ := chainText_of_emit unadorned emitted
  have length : texts.length = q.operators.length + 1 := by
    rw [← each.length_eq, length_selects]
  refine ⟨⟨texts, each, length, ?_⟩, ?_, ?_⟩
  · intro operators otherLength
    constructor
    · exact fun other => operators_of_chainText otherLength length (other.symm.trans text)
    · rintro rfl
      exact text
  · exact fun same => keepsGrouping_of_readFrom (default : ρ) 0 same
  · exact fun keeps rows => readFrom_of_keepsGrouping keeps 0

end Query

namespace Stock

def count (number : String) : Query :=
  .select (.plain ⟨1⟩ [⟨⟨2⟩, .literal ⟨.number, number⟩, some "Count"⟩] none)

/-- The third count stands beside what is different in the first two. -/
def leaning : Query := .union true (.union false (count "1") (count "2") none) (count "3") none

/-- The first count stands beside what is different in the other two. -/
def nested : Query := .union true (count "1") (.union false (count "2") (count "3") none) none

end Stock

/-- UNION ALL behind a UNION is read as it was meant. In front of a UNION it is not: a row that the
first two selects share is there once in what is read and twice in the tree. -/
theorem Query.union_rows_kept_of_stock :
    (∃ written, (Stock.leaning.emit (Context.bare .postgres)).result = .ok written ∧
      (written.sql .postgres).text =
        "SELECT\n1 AS Count\nUNION\nSELECT\n2 AS Count\nUNION ALL\nSELECT\n3 AS Count" ∧
      ∀ rows : Nat → Multiset Nat, readRows rows [false, true] = Stock.leaning.rowsFrom rows 0) ∧
    ∃ written, (Stock.nested.emit (Context.bare .postgres)).result = .ok written ∧
      (written.sql .postgres).text =
        "SELECT\n1 AS Count\nUNION ALL\nSELECT\n2 AS Count\nUNION\nSELECT\n3 AS Count" ∧
      ¬∀ rows : Nat → Multiset Nat, readRows rows [true, false] = Stock.nested.rowsFrom rows 0 := by
  constructor
  · obtain ⟨written, emitted, text⟩ : ∃ written,
        (Stock.leaning.emit (Context.bare .postgres)).result = .ok written ∧
        (written.sql .postgres).text =
          "SELECT\n1 AS Count\nUNION\nSELECT\n2 AS Count\nUNION ALL\nSELECT\n3 AS Count" :=
      Except.exists_ok (by decide +kernel)
    have unadorned : Stock.leaning.Unadorned := by simp [Stock.leaning, Stock.count, Unadorned, Select.plain]
    exact ⟨written, emitted, text, (union_rows_kept_iff unadorned emitted Nat).2.mpr rfl⟩
  · obtain ⟨written, emitted, text⟩ : ∃ written,
        (Stock.nested.emit (Context.bare .postgres)).result = .ok written ∧
        (written.sql .postgres).text =
          "SELECT\n1 AS Count\nUNION ALL\nSELECT\n2 AS Count\nUNION\nSELECT\n3 AS Count" :=
      Except.exists_ok (by decide +kernel)
    have unadorned : Stock.nested.Unadorned := by simp [Stock.nested, Stock.count, Unadorned, Select.plain]
    refine ⟨written, emitted, text, fun same => ?_⟩
    have keeps := (union_rows_kept_iff unadorned emitted Nat).2.mp same
    exact absurd keeps (by decide)

end SqlEmit
