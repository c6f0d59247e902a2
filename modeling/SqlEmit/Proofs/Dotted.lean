import SqlEmit.Text

/-! Dotted identifiers. The name behind the last dot has no dot itself, and a qualifier in front does
not change it. -/
namespace SqlEmit.Text

/-- A name that no dot divides. -/
def Plain (name : String) : Prop := '.' ∉ name.toList

instance (name : String) : Decidable (Plain name) := inferInstanceAs (Decidable ('.' ∉ name.toList))

theorem splitLastDot_none {cs : List Char} : splitLastDot cs = none ↔ '.' ∉ cs := by
  induction cs with
  | nil => simp [splitLastDot]
  | cons c cs ih =>
    unfold splitLastDot
    cases split : splitLastDot cs with
    | some parts => simp_all
    | none =>
      have rest := ih.mp split
      by_cases dot : c = '.'
      · simp [dot]
      · simp [dot, Ne.symm dot, rest]

theorem splitLastDot_some {cs before after : List Char}
    (split : splitLastDot cs = some (before, after)) : cs = before ++ '.' :: after ∧ '.' ∉ after := by
  induction cs generalizing before with
  | nil => simp [splitLastDot] at split
  | cons c cs ih =>
    unfold splitLastDot at split
    cases rest : splitLastDot cs with
    | some parts =>
      obtain ⟨front, back⟩ := parts
      simp only [rest, Option.some.injEq, Prod.mk.injEq] at split
      obtain ⟨rfl, rfl⟩ := split
      obtain ⟨rfl, plain⟩ := ih rest
      exact ⟨rfl, plain⟩
    | none =>
      have plain := splitLastDot_none.mp rest
      by_cases dot : c = '.'
      · simp only [rest, dot, if_true, Option.some.injEq, Prod.mk.injEq] at split
        obtain ⟨rfl, rfl⟩ := split
        exact ⟨by rw [dot, List.nil_append], plain⟩
      · simp [rest, dot] at split

/-- The last dot is found behind any text. -/
theorem splitLastDot_append (before after : List Char) (plain : '.' ∉ after) :
    splitLastDot (before ++ '.' :: after) = some (before, after) := by
  induction before with
  | nil => simp [splitLastDot, splitLastDot_none.mpr plain]
  | cons c before ih => simp [splitLastDot, ih]

theorem unqualified_of_plain {name : String} (plain : Plain name) : unqualified name = name := by
  simp [unqualified, splitIdentifier, splitLastDot_none.mpr plain]

theorem plain_unqualified (name : String) : Plain (unqualified name) := by
  unfold unqualified splitIdentifier
  cases split : splitLastDot name.toList with
  | none => exact splitLastDot_none.mp split
  | some parts => simpa [Plain] using (splitLastDot_some split).2

theorem unqualified_eq_self {name : String} : unqualified name = name ↔ Plain name :=
  ⟨fun same => same ▸ plain_unqualified name, unqualified_of_plain⟩

@[simp] theorem unqualified_qualified (table name : String) :
    unqualified (table ++ "." ++ name) = unqualified name := by
  have parts : (table ++ "." ++ name).toList = table.toList ++ '.' :: name.toList := by simp
  cases split : splitLastDot name.toList with
  | none =>
    simp [unqualified, splitIdentifier, parts, split,
      splitLastDot_append table.toList name.toList (splitLastDot_none.mp split)]
  | some rest =>
    obtain ⟨before, after⟩ := rest
    obtain ⟨whole, plain⟩ := splitLastDot_some split
    have last := splitLastDot_append (table.toList ++ '.' :: before) after plain
    simp only [List.append_assoc, List.cons_append] at last
    simp [unqualified, splitIdentifier, parts, whole, last, splitLastDot_append before after plain]

end SqlEmit.Text
