import SqlEmit.Binding
import SqlEmit.Text

/-! Written numbers are read back: decimal numbers, which have no leading zero, and hexadecimal
numbers of a fixed width. -/
namespace SqlEmit

namespace Text

theorem ne_of_holds {p : Char → Bool} {c d : Char} (holds : p c = true) (fails : p d = false) :
    c ≠ d := by
  rintro rfl
  exact absurd (holds.symm.trans fails) (by decide)

theorem isDigit_of_mem_toDigits {n : Nat} {c : Char} (mem : c ∈ Nat.toDigits 10 n) :
    isDigit c = true := by
  have digit := Nat.isDigit_of_mem_toDigits (by decide) (by decide) mem
  simp only [Char.isDigit, Bool.and_eq_true, decide_eq_true_eq] at digit
  simp only [isDigit, Bool.and_eq_true, decide_eq_true_eq]
  exact digit

theorem toNat_of_isDigit {c : Char} (digit : isDigit c = true) : 48 ≤ c.toNat ∧ c.toNat ≤ 57 := by
  simp only [isDigit, Bool.and_eq_true, decide_eq_true_eq] at digit
  exact ⟨UInt32.le_iff_toNat_le.mp digit.1, UInt32.le_iff_toNat_le.mp digit.2⟩

theorem not_blank_of_visible {c : Char} (visible : 33 ≤ c.toNat ∧ c.toNat ≤ 126) : isBlank c = false := by
  simp only [isBlank, Bool.or_eq_false_iff, Bool.and_eq_false_iff, decide_eq_false_iff_not,
    beq_eq_false_iff_ne]
  omega

theorem digitsValue_toDigits (n : Nat) : digitsValue (Nat.toDigits 10 n) = n := by
  have value : Nat.ofDigitChars 10 (Nat.toDigits 10 n) 0 = n := Nat.ofDigitChars_ten_toDigits
  rw [Nat.ofDigitChars_eq_foldl] at value
  exact value

theorem head_toDigits_ne_zero {n : Nat} (positive : 0 < n) :
    (Nat.toDigits 10 n).head? ≠ some '0' := by
  induction n using Nat.strongRecOn with
  | ind n ih =>
    by_cases small : n < 10
    · have digit : ∀ d, d < 10 → 0 < d → d.digitChar ≠ '0' := by decide
      rw [Nat.toDigits_of_lt_base small]
      simpa using digit n small positive
    · -- The first digit is that of the number without its last digit.
      have tail := ih (n / 10) (by omega) (by omega)
      rw [Nat.toDigits_of_base_le (by decide) (by omega), List.head?_append]
      cases found : (Nat.toDigits 10 (n / 10)).head? with
      | none => exact absurd (List.head?_eq_none_iff.mp found) Nat.toDigits_ne_nil
      | some c => rwa [found] at tail

/-- No number but zero starts with the digit zero. -/
theorem no_leading_zero (n : Nat) :
    ¬((Nat.toDigits 10 n).head? = some '0' ∧ 1 < (Nat.toDigits 10 n).length) := by
  rintro ⟨zero, several⟩
  by_cases positive : 0 < n
  · exact head_toDigits_ne_zero positive zero
  · obtain rfl : n = 0 := by omega
    exact absurd several (by decide)

theorem readNat_toDigits (n : Nat) : readNat (Nat.toDigits 10 n) = some n := by
  have digits : (Nat.toDigits 10 n).all isDigit = true :=
    List.all_eq_true.mpr fun _ mem => isDigit_of_mem_toDigits mem
  rw [readNat, if_pos ⟨Nat.toDigits_ne_nil, digits⟩, digitsValue_toDigits]

theorem toList_toString (n : Nat) : (toString n).toList = Nat.toDigits 10 n := by
  rw [Nat.toString_eq_ofList_toDigits, String.toList_ofList]

theorem toList_toString_int (n : Int) : (toString n).toList =
    if 0 ≤ n then Nat.toDigits 10 n.toNat else '-' :: Nat.toDigits 10 (-n).toNat := by
  have digits : ∀ k : Nat, k.repr.toList = Nat.toDigits 10 k := toList_toString
  rw [Int.toString_eq_repr, Int.repr_eq_if]
  split
  · exact digits _
  · rw [String.toList_append, digits]
    rfl

/-- The characters of a whole number are digits, or the sign in front of them. -/
theorem toNat_of_mem_toString {n : Int} {c : Char} (mem : c ∈ (toString n).toList) :
    45 ≤ c.toNat ∧ c.toNat ≤ 57 := by
  have digit {k : Nat} (mem : c ∈ Nat.toDigits 10 k) : 45 ≤ c.toNat ∧ c.toNat ≤ 57 := by
    have bounds := toNat_of_isDigit (isDigit_of_mem_toDigits mem)
    omega
  rw [toList_toString_int] at mem
  split at mem
  · exact digit mem
  · rcases List.mem_cons.mp mem with rfl | rest
    · decide
    · exact digit rest

@[simp] theorem length_hexDigits (digit : Nat → Char) (width n : Nat) :
    (hexDigits digit width n).length = width := by
  induction width generalizing n with
  | zero => rfl
  | succ width ih => simp [hexDigits, ih]

theorem of_mem_hexDigits {digit : Nat → Char} {width n : Nat} {c : Char} (mem : c ∈ hexDigits digit width n) :
    ∃ k, k < 16 ∧ c = digit k := by
  induction width generalizing n with
  | zero => simp [hexDigits] at mem
  | succ width ih =>
    rw [hexDigits, List.mem_append, List.mem_singleton] at mem
    rcases mem with earlier | rfl
    · exact ih earlier
    · exact ⟨n % 16, Nat.mod_lt n (by decide), rfl⟩

theorem hexValue_lowerHexDigit : ∀ n, n < 16 → hexValue (lowerHexDigit n) = some n := by
  decide

theorem readHex_append_singleton {cs : List Char} {c : Char} {high low : Nat}
    (front : readHex cs = some high) (last : hexValue c = some low) :
    readHex (cs ++ [c]) = some (16 * high + low) := by
  simp only [readHex] at front
  simp [readHex, List.foldlM_append, front, last]

theorem readHex_hexDigits {width n : Nat} (fits : n < Nat.pow 16 width) :
    readHex (hexDigits lowerHexDigit width n) = some n := by
  induction width generalizing n with
  | zero =>
    obtain rfl : n = 0 := by simpa using fits
    rfl
  | succ width ih =>
    have wide : n < 16 * Nat.pow 16 width := by
      rw [Nat.mul_comm]
      exact fits
    have front := ih (Nat.div_lt_of_lt_mul wide)
    have last := hexValue_lowerHexDigit (n % 16) (Nat.mod_lt n (by decide))
    rw [hexDigits, readHex_append_singleton front last, Nat.div_add_mod]

end Text

namespace NodeId

theorem ofKey_toKey (id : NodeId) : ofKey id.toKey = some id := by
  have digits : id.toKey.toList = Nat.toDigits 10 id.index.toNat := Text.toList_toString _
  have bound : id.index.toNat < 4294967296 := id.index.toNat_lt
  simp only [ofKey, digits, Text.readNat_toDigits, if_neg (Text.no_leading_zero _),
    Option.bind_some, if_pos bound, UInt32.ofNat_toNat]

end NodeId

end SqlEmit
