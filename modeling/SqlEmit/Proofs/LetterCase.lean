import SqlEmit.Text.Case

/-! Letter case. A text in lower case stays as it is when it is put into lower case again, and a change in the
case of ASCII letters is not seen in the lower case of a text. -/
namespace SqlEmit.Text

/-- Only a capital letter is moved. -/
theorem asciiLower_cases (c : Char) :
    asciiLower c = c ∨ ∃ n, n < 26 ∧ c = Char.ofNat (65 + n) ∧ asciiLower c = Char.ofNat (97 + n) := by
  unfold asciiLower
  split
  next letter =>
    have least : 65 ≤ c.toNat := letter.1
    have most : c.toNat ≤ 90 := letter.2
    refine .inr ⟨c.toNat - 65, by omega, ?_, ?_⟩
    · rw [Nat.add_sub_cancel' least, Char.ofNat_toNat]
    · rw [show 97 + (c.toNat - 65) = c.toNat + 32 by omega]
  next => exact .inl rfl

/-- What is the same for both cases of each letter is not changed by the lower case. -/
theorem eq_of_asciiLower {f : Char → α}
    (each : ∀ n, n < 26 → f (Char.ofNat (97 + n)) = f (Char.ofNat (65 + n))) (c : Char) :
    f (asciiLower c) = f c := by
  rcases asciiLower_cases c with same | ⟨n, letter, rfl, moved⟩
  · rw [same]
  · rw [moved, each n letter]

theorem asciiLower_asciiLower (c : Char) : asciiLower (asciiLower c) = asciiLower c :=
  eq_of_asciiLower (by decide) c

/-- A character that is no letter is the lower case of itself only. -/
theorem asciiLower_eq_iff {c d : Char} (apart : ∀ n, n < 26 → d ≠ Char.ofNat (65 + n) ∧ d ≠ Char.ofNat (97 + n)) :
    asciiLower c = d ↔ c = d := by
  rcases asciiLower_cases c with same | ⟨n, letter, rfl, moved⟩
  · rw [same]
  · rw [moved]
    exact iff_of_false (apart n letter).2.symm (apart n letter).1.symm

theorem lowerChar_ascii {c : Char} (ascii : c.toNat < 128) : lowerChar c = [asciiLower c] :=
  if_pos ascii

/-- The lower case of ASCII letters does not depend on what stands around them. -/
theorem lowerFrom_ascii {before cs : List Char} (ascii : ∀ c ∈ cs, c.toNat < 128) :
    lowerFrom before cs = cs.map asciiLower := by
  induction cs generalizing before with
  | nil => rfl
  | cons c cs ih =>
    have small := ascii c List.mem_cons_self
    have plain : c ≠ 'Σ' := by
      rintro rfl
      exact absurd small (by decide)
    rw [lowerFrom, if_neg plain, lowerChar_ascii small, ih fun d mem => ascii d (List.mem_cons_of_mem c mem)]
    rfl

theorem lower_ascii {s : String} (ascii : ∀ c ∈ s.toList, c.toNat < 128) :
    (lower s).toList = s.toList.map asciiLower := by
  rw [lower, String.toList_ofList, lowerFrom_ascii ascii]

/-- The set of the numbers as the bits of one number, for a quick look at large tables. -/
def bitSet (ns : List Nat) : Nat :=
  ns.foldr (fun n bits => bits ||| 1 <<< n) 0

theorem testBit_bitSet {ns : List Nat} {n : Nat} (mem : n ∈ ns) : (bitSet ns).testBit n = true := by
  induction ns with
  | nil => cases mem
  | cons first ns ih =>
    rw [bitSet, List.foldr_cons, Nat.testBit_or, Bool.or_eq_true]
    rcases List.mem_cons.mp mem with rfl | later
    · exact .inr (by simp [Nat.testBit_shiftLeft])
    · exact .inl (ih later)

theorem not_mem_of_bitSet {ns ms : List Nat} (apart : bitSet ns &&& bitSet ms = 0) {n : Nat} (mem : n ∈ ns) :
    n ∉ ms := by
  intro mem'
  have both : (bitSet ns &&& bitSet ms).testBit n = true := by
    rw [Nat.testBit_and, testBit_bitSet mem, testBit_bitSet mem', Bool.and_self]
  simp [apart] at both

namespace CaseRun

def letters (run : CaseRun) : List Nat :=
  (List.range ((run.last - run.first) / run.step + 1)).map fun k => run.first + run.step * k

def image (run : CaseRun) (n : Nat) : Nat :=
  ((n : Int) + run.shift).toNat

theorem mem_letters {run : CaseRun} {n : Nat} (inside : run.contains n = true) : n ∈ run.letters := by
  simp only [contains, Bool.and_eq_true, decide_eq_true_eq, beq_iff_eq] at inside
  obtain ⟨⟨least, most⟩, steps⟩ := inside
  refine List.mem_map.mpr ⟨(n - run.first) / run.step, List.mem_range.mpr (Nat.lt_succ_of_le ?_), ?_⟩
  · exact Nat.div_le_div_right (Nat.sub_le_sub_right most run.first)
  · have whole := Nat.div_add_mod (n - run.first) run.step
    omega

end CaseRun

/-- The characters that have another lower case: ASCII capitals, the dotted capital I and the letters of the
runs. -/
def capitals : List Nat :=
  0x130 :: (List.range 26).map (65 + ·) ++ lowerRuns.flatMap CaseRun.letters

/-- A run leads to letters that have no other lower case. -/
theorem images_settled :
    bitSet (lowerRuns.flatMap fun run => run.letters.map run.image) &&& bitSet capitals = 0 := by
  decide +kernel

/-- A character that the lower case keeps. -/
def IsSettled (c : Char) : Prop :=
  lowerChar c = [c] ∧ c ≠ 'Σ'

theorem isSettled_of_unmoved {c : Char} (small : asciiLower c = c) (dotless : c.toNat ≠ 0x130)
    (unmoved : lowerRuns.find? (·.contains c.toNat) = none) : IsSettled c := by
  refine ⟨by simp [lowerChar, small, dotless, shiftChar, unmoved], ?_⟩
  rintro rfl
  exact absurd unmoved (by decide)

theorem isSettled_of_not_mem {c : Char} (small : c.toNat ∉ capitals) : IsSettled c := by
  simp only [capitals, List.mem_append, List.mem_cons, List.mem_map, List.mem_range, List.mem_flatMap,
    not_or] at small
  obtain ⟨⟨dotless, ascii⟩, unmoved⟩ := small
  refine isSettled_of_unmoved (if_neg fun letter => ascii ?_) dotless (List.find?_eq_none.mpr ?_)
  · have most : c.toNat ≤ 90 := letter.2
    exact ⟨c.toNat - 65, by omega, Nat.add_sub_cancel' letter.1⟩
  · exact fun run mem inside => unmoved ⟨run, mem, CaseRun.mem_letters inside⟩

theorem toNat_ofNat (n : Nat) : (Char.ofNat n).toNat = n ∨ Char.ofNat n = '\x00' := by
  by_cases valid : n.isValidChar
  · exact .inl (by rw [Char.ofNat, dif_pos valid]; rfl)
  · exact .inr (by rw [Char.ofNat, dif_neg valid]; rfl)

theorem isSettled_asciiLower {c : Char} (ascii : c.toNat < 128) : IsSettled (asciiLower c) := by
  obtain ⟨small, kept⟩ : (asciiLower c).toNat < 128 ∧ asciiLower (asciiLower c) = asciiLower c := by
    rcases asciiLower_cases c with same | ⟨n, letter, -, moved⟩
    · rw [same]
      exact ⟨ascii, same⟩
    · have each : ∀ n, n < 26 → (Char.ofNat (97 + n)).toNat < 128 ∧
          asciiLower (Char.ofNat (97 + n)) = Char.ofNat (97 + n) := by decide
      rw [moved]
      exact each n letter
  refine ⟨by rw [lowerChar_ascii small, kept], ?_⟩
  intro sigma
  rw [sigma] at small
  exact absurd small (by decide)

theorem isSettled_of_mem_lowerChar {c d : Char} (mem : d ∈ lowerChar c) : IsSettled d := by
  unfold lowerChar at mem
  split at mem
  next ascii =>
    obtain rfl := List.mem_singleton.mp mem
    exact isSettled_asciiLower ascii
  next beyond =>
    split at mem
    next =>
      simp only [List.mem_cons, List.not_mem_nil, or_false] at mem
      rcases mem with rfl | rfl <;> exact ⟨by decide +kernel, by decide⟩
    next dotless =>
      obtain rfl := List.mem_singleton.mp mem
      unfold shiftChar
      split
      next run found =>
        have inside : run.contains c.toNat = true := by simpa using List.find?_some found
        have image : run.image c.toNat ∈ lowerRuns.flatMap fun run => run.letters.map run.image :=
          List.mem_flatMap.mpr ⟨run, List.mem_of_find?_eq_some found,
            List.mem_map_of_mem (CaseRun.mem_letters inside)⟩
        rcases toNat_ofNat (run.image c.toNat) with place | zero
        · apply isSettled_of_not_mem
          exact place.symm ▸ not_mem_of_bitSet images_settled image
        · exact zero.symm ▸ ⟨by decide, by decide⟩
      next unmoved =>
        refine isSettled_of_unmoved (if_neg fun letter => beyond ?_) dotless unmoved
        exact Nat.lt_of_le_of_lt letter.2 (by decide)

theorem isSettled_of_mem_lowerFrom {before cs : List Char} {d : Char} (mem : d ∈ lowerFrom before cs) :
    IsSettled d := by
  induction cs generalizing before with
  | nil => cases mem
  | cons c cs ih =>
    rw [lowerFrom, List.mem_append] at mem
    rcases mem with here | later
    · split at here
      · obtain rfl := List.mem_singleton.mp here
        split <;> exact ⟨by decide +kernel, by decide⟩
      · exact isSettled_of_mem_lowerChar here
    · exact ih later

theorem lowerFrom_settled {before cs : List Char} (settled : ∀ c ∈ cs, IsSettled c) :
    lowerFrom before cs = cs := by
  induction cs generalizing before with
  | nil => rfl
  | cons c cs ih =>
    obtain ⟨kept, plain⟩ := settled c List.mem_cons_self
    rw [lowerFrom, if_neg plain, kept, ih fun d mem => settled d (List.mem_cons_of_mem c mem)]
    rfl

/-- A text in lower case is its own lower case. -/
theorem lower_lower (s : String) : lower (lower s) = lower s := by
  simp only [lower, String.toList_ofList, lowerFrom_settled fun c => isSettled_of_mem_lowerFrom]

theorem ascii_ignorable : (caseIgnorableRanges.all fun range => Nat.blt range.last 65 ||
    Nat.blt 90 range.first && Nat.blt range.last 97 || Nat.blt 122 range.first) = true := by
  decide +kernel

/-- Letters are not passed over in the search for a cased letter. -/
theorem letter_not_ignorable {n : Nat} (letter : 65 ≤ n ∧ n ≤ 90 ∨ 97 ≤ n ∧ n ≤ 122) :
    (caseIgnorableRanges.any (·.contains n)) = false := by
  refine List.any_eq_false.mpr fun range mem inside => ?_
  have checked := List.all_eq_true.mp ascii_ignorable range mem
  simp only [Bool.or_eq_true, Bool.and_eq_true, Nat.blt_eq] at checked
  simp only [CharRange.contains, Bool.and_eq_true, decide_eq_true_eq] at inside
  omega

/-- A capital letter is moved to a letter that has the same lower case and is of the same classes. -/
theorem asciiLower_keeps (c : Char) :
    lowerChar (asciiLower c) = lowerChar c ∧ (asciiLower c = 'Σ' ↔ c = 'Σ') ∧
      (casedRanges.any (·.contains (asciiLower c).toNat)) = casedRanges.any (·.contains c.toNat) ∧
      (caseIgnorableRanges.any (·.contains (asciiLower c).toNat)) =
        caseIgnorableRanges.any (·.contains c.toNat) := by
  rcases asciiLower_cases c with same | ⟨n, letter, rfl, moved⟩
  · simp [same]
  · have each : ∀ n, n < 26 → lowerChar (Char.ofNat (97 + n)) = lowerChar (Char.ofNat (65 + n)) ∧
        (Char.ofNat (97 + n) = 'Σ' ↔ Char.ofNat (65 + n) = 'Σ') ∧
        (casedRanges.any (·.contains (Char.ofNat (97 + n)).toNat)) =
          casedRanges.any (·.contains (Char.ofNat (65 + n)).toNat) ∧
        (Char.ofNat (65 + n)).toNat = 65 + n ∧ (Char.ofNat (97 + n)).toNat = 97 + n := by
      decide
    obtain ⟨lower, sigma, cased, capital, small⟩ := each n letter
    rw [moved, letter_not_ignorable (.inr (by omega)), letter_not_ignorable (.inl (by omega))]
    exact ⟨lower, sigma, cased, rfl⟩

theorem meetsCased_map_asciiLower (cs : List Char) : meetsCased (cs.map asciiLower) = meetsCased cs := by
  induction cs with
  | nil => rfl
  | cons c cs ih =>
    obtain ⟨-, -, cased, ignorable⟩ := asciiLower_keeps c
    unfold meetsCased at ih ⊢
    by_cases passed : (caseIgnorableRanges.any (·.contains c.toNat)) = true
    · simpa only [List.map_cons, List.dropWhile_cons, ignorable, passed, if_true] using ih
    · simp only [List.map_cons, List.dropWhile_cons, ignorable, passed, Bool.false_eq_true, if_false, cased]

theorem lowerFrom_map_asciiLower (before cs : List Char) :
    lowerFrom (before.map asciiLower) (cs.map asciiLower) = lowerFrom before cs := by
  induction cs generalizing before with
  | nil => rfl
  | cons c cs ih =>
    obtain ⟨lower, sigma, -, -⟩ := asciiLower_keeps c
    have rest := ih (c :: before)
    rw [List.map_cons] at rest
    simp only [List.map_cons, lowerFrom, lower, sigma, meetsCased_map_asciiLower, rest]

/-- Names that differ in the case of ASCII letters only have the same lower case. -/
theorem lower_of_sameName {a b : String} (same : sameName a b = true) : lower a = lower b := by
  rw [sameName_iff] at same
  rw [lower, lower, ← lowerFrom_map_asciiLower [] a.toList, ← lowerFrom_map_asciiLower [] b.toList, same]

end SqlEmit.Text
