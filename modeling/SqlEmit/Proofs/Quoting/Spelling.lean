import SqlEmit.Emit.Query
import SqlEmit.Proofs.Quoting.Scan

/-! Literals and names as the backends spell them. Digits, changes of case and the marks of local
tables bring in no quote and no parenthesis, and what a backend puts around a text is closed
again. -/
namespace SqlEmit

namespace Text

theorem isPlain_of_toNat {c : Char} (apart : c.toNat < 39 ∨ 41 < c.toNat) : IsPlain c := by
  refine ⟨?_, ?_, ?_⟩ <;>
    (rintro rfl; revert apart; decide)

/-- A code point behind the parentheses, or the one that stands for an invalid number. -/
theorem isPlain_ofNat {n : Nat} (behind : 41 < n) : IsPlain (Char.ofNat n) := by
  by_cases valid : n.isValidChar
  · rw [Char.ofNat, dif_pos valid]
    exact isPlain_of_toNat (.inr behind)
  · rw [Char.ofNat, dif_neg valid]
    decide

theorem isPlain_hexDigit {n : Nat} : IsPlain (hexDigit n) := by
  unfold hexDigit
  split <;> exact isPlain_ofNat (by omega)

theorem isPlain_of_mem_hexDigits {width n : Nat} {c : Char} (mem : c ∈ hexDigits hexDigit width n) :
    IsPlain c := by
  induction width generalizing n with
  | zero => simp [hexDigits] at mem
  | succ width ih =>
    rw [hexDigits, List.mem_append, List.mem_singleton] at mem
    rcases mem with earlier | rfl
    · exact ih earlier
    · exact isPlain_hexDigit

theorem isPlain_of_isDigit {c : Char} (digit : c.isDigit = true) : IsPlain c := by
  simp only [Char.isDigit, Bool.and_eq_true, decide_eq_true_eq] at digit
  have least : 48 ≤ c.toNat := UInt32.le_iff_toNat_le.mp digit.1
  exact isPlain_of_toNat (.inr (by omega))

theorem clean_toString_nat (n : Nat) : Clean (toString n) := by
  intro c mem
  rw [Nat.toString_eq_repr, Nat.toList_repr] at mem
  exact isPlain_of_isDigit (Nat.isDigit_of_mem_toDigits (by decide) (by decide) mem)

theorem clean_toString_int (n : Int) : Clean (toString n) := by
  cases n with
  | ofNat n => exact clean_toString_nat n
  | negSucc n => exact Clean.append (by decide) (clean_toString_nat (n + 1))

theorem lowerRuns_behind : ∀ run ∈ lowerRuns, 41 < (run.first : Int) + run.shift := by
  decide +kernel

theorem isPlain_asciiLower {c : Char} (plain : IsPlain c) : IsPlain (asciiLower c) := by
  unfold asciiLower
  split
  case isTrue upper =>
    have least : 65 ≤ c.toNat := UInt32.le_iff_toNat_le.mp upper.1
    exact isPlain_ofNat (by omega)
  case isFalse => exact plain

/-- No letter has a lower case among the quotes and parentheses. -/
theorem isPlain_shiftChar {c : Char} (plain : IsPlain c) : IsPlain (shiftChar c lowerRuns) := by
  unfold shiftChar
  split
  case h_1 run found =>
    have within : run.first ≤ c.toNat := by
      have contains := List.find?_some found
      simp only [CaseRun.contains, Bool.and_eq_true, decide_eq_true_eq] at contains
      exact contains.1.1
    have behind := lowerRuns_behind run (List.mem_of_find?_eq_some found)
    exact isPlain_ofNat (by omega)
  case h_2 => exact plain

theorem isPlain_of_mem_lowerChar {c d : Char} (plain : IsPlain c) (mem : d ∈ lowerChar c) : IsPlain d := by
  unfold lowerChar at mem
  split at mem
  · obtain rfl := List.mem_singleton.mp mem
    exact isPlain_asciiLower plain
  · split at mem
    · simp only [List.mem_cons, List.not_mem_nil, or_false] at mem
      rcases mem with rfl | rfl <;> decide
    · obtain rfl := List.mem_singleton.mp mem
      exact isPlain_shiftChar plain

theorem isPlain_of_mem_lowerFrom {before cs : List Char} (plain : ∀ c ∈ cs, IsPlain c) {d : Char}
    (mem : d ∈ lowerFrom before cs) : IsPlain d := by
  induction cs generalizing before with
  | nil => simp [lowerFrom] at mem
  | cons c cs ih =>
    rw [lowerFrom, List.mem_append] at mem
    rcases mem with first | rest
    · split at first
      · obtain rfl := List.mem_singleton.mp first
        split <;> decide
      · exact isPlain_of_mem_lowerChar (plain c (by simp)) first
    · exact ih (fun d mem => plain d (List.mem_cons_of_mem c mem)) rest

theorem Clean.lower {text : String} (clean : Clean text) : Clean (Text.lower text) :=
  clean_ofList.mpr fun _ => isPlain_of_mem_lowerFrom clean

end Text

theorem Moment.isPlain_of_mem_padded {width n : Nat} {c : Char} (mem : c ∈ padded width n) :
    Text.IsPlain c := by
  rw [padded, List.mem_append] at mem
  rcases mem with zero | digit
  · rw [List.eq_of_mem_replicate zero]
    decide
  · exact Text.clean_toString_nat n c digit

theorem Moment.clean_literal (m : Moment) : Text.Clean m.literal := by
  have year : ∀ c ∈ yearChars m.date.year, Text.IsPlain c := by
    intro c mem
    unfold yearChars at mem
    split at mem
    · exact isPlain_of_mem_padded mem
    · rcases List.mem_cons.mp mem with rfl | digit
      · split <;> decide
      · exact isPlain_of_mem_padded digit
  have field {width n : Nat} : ∀ c ∈ padded width n, Text.IsPlain c := fun _ => isPlain_of_mem_padded
  have mark : Text.IsPlain '-' ∧ Text.IsPlain 'T' ∧ Text.IsPlain ':' := by decide
  rw [Moment.literal, Text.clean_ofList, dateChars, timeChars]
  simp only [List.forall_mem_append, List.forall_mem_cons]
  exact ⟨⟨⟨year, mark.1, field⟩, mark.1, field⟩, mark.2.1, ⟨field, mark.2.2, field⟩, mark.2.2, field⟩

theorem Uuid.clean_storedHex (u : Uuid) : Text.Clean u.storedHex := by
  have digits {width n : Nat} : ∀ c ∈ Text.hexDigits Text.hexDigit width n, Text.IsPlain c :=
    fun _ => Text.isPlain_of_mem_hexDigits
  rw [Uuid.storedHex, Text.clean_ofList]
  simp only [List.forall_mem_append]
  exact ⟨⟨⟨⟨digits, digits⟩, digits⟩, digits⟩, digits⟩

theorem Literal.clean_typeCodeHex (code : Int32) : Text.Clean (typeCodeHex code) :=
  Text.clean_ofList.mpr fun _ => Text.isPlain_of_mem_hexDigits

namespace Dialect

open Text

variable (dialect : Dialect)

theorem nests_boolLiteral (value : Bool) : Nests (dialect.boolLiteral value) := by
  cases dialect <;> cases value <;> exact Clean.nests (by decide)

theorem nests_bytesLiteral {hex : String} (clean : Clean hex) : Nests (dialect.bytesLiteral hex) := by
  cases dialect with
  | sqlServer => exact (Clean.append (by decide) clean).nests
  | postgres =>
    intro depth
    have opens : Leads ⟨false, depth⟩ ⟨true, depth + 1⟩ "CAST(E'\\\\x" := rfl
    have closes : Leads ⟨true, depth + 1⟩ ⟨false, depth⟩ "' AS bytea)" := rfl
    exact (opens.append (clean.leads _)).append closes

theorem nests_uuidLiteral (uuid : Uuid) : Nests (dialect.uuidLiteral uuid) :=
  dialect.nests_bytesLiteral uuid.clean_storedHex

theorem nests_datetimeLiteral {text : String} (clean : Clean text) :
    Nests (dialect.datetimeLiteral text) := by
  intro depth
  cases dialect with
  | sqlServer =>
    have opens : Leads ⟨false, depth⟩ ⟨true, depth + 1⟩ "CAST('" := rfl
    have closes : Leads ⟨true, depth + 1⟩ ⟨false, depth⟩ "' AS datetime2)" := rfl
    exact (opens.append (clean.leads _)).append closes
  | postgres =>
    have opens : Leads ⟨false, depth⟩ ⟨true, depth⟩ "'" := rfl
    have closes : Leads ⟨true, depth⟩ ⟨false, depth⟩ "'::timestamp" := rfl
    exact (opens.append (clean.leads _)).append closes

theorem clean_hexBody {literal : String} (clean : Clean literal) : Clean (hexBody literal) := by
  unfold hexBody
  split
  case h_1 digits is => exact clean_ofList.mpr fun c mem => clean c (by simp [is, mem])
  case h_2 digits is => exact clean_ofList.mpr fun c mem => clean c (by simp [is, mem])
  case h_3 => exact clean

theorem nests_binaryLiteral {literal : String} (clean : Clean literal) :
    Nests (dialect.binaryLiteral literal) := by
  unfold binaryLiteral
  split
  · exact clean.nests
  · split
    · exact nests_boolLiteral _ _
    · split
      · exact nests_boolLiteral _ _
      · exact nests_bytesLiteral _ (clean_hexBody clean)

theorem clean_marked {mark : Char} {name : String} (plain : IsPlain mark) (clean : Clean name) :
    Clean (marked mark name) := by
  refine clean_ofList.mpr fun c mem => ?_
  rcases List.mem_cons.mp mem with rfl | kept
  · exact plain
  · exact clean c ((List.dropWhile_sublist _).mem kept)

theorem clean_tableVariableName {name : String} (clean : Clean name) :
    Clean (dialect.tableVariableName name) := by
  cases dialect with
  | sqlServer => exact clean_marked (by decide) clean
  | postgres => exact clean

theorem clean_temporaryTableName {name : String} (clean : Clean name) :
    Clean (dialect.temporaryTableName name) := by
  cases dialect with
  | sqlServer => exact clean_marked (by decide) clean
  | postgres => exact clean

theorem nests_userTypeSource {tableName identifier : String} (table : Clean tableName)
    (name : Clean identifier) : Nests (dialect.userTypeSource tableName identifier) := by
  cases dialect with
  | sqlServer => exact name.nests
  | postgres => exact .enclosed (fun _ => rfl) table.nests fun _ => rfl

theorem nests_nextValue {sequence : String} (clean : Clean sequence) :
    Nests (dialect.nextValue sequence) := by
  cases dialect with
  | sqlServer => exact (Clean.append (by decide) clean).nests
  | postgres =>
    intro depth
    have opens : Leads ⟨false, depth⟩ ⟨true, depth + 1⟩ "nextval('" := rfl
    have closes : Leads ⟨true, depth + 1⟩ ⟨false, depth⟩ "')" := rfl
    exact (opens.append (clean.lower.leads _)).append closes

theorem nests_shiftedClock {clock : String} (nests : Nests clock) (years : Int32) :
    Nests (dialect.shiftedClock clock years) := by
  unfold shiftedClock
  split
  · exact nests
  have offset := clean_toString_int years.toInt
  cases dialect with
  | sqlServer =>
    intro depth
    have opens : Leads ⟨false, depth⟩ ⟨false, depth + 1⟩ "DATEADD(year, " := rfl
    have comma : Leads ⟨false, depth + 1⟩ ⟨false, depth + 1⟩ ", " := rfl
    have closes : Leads ⟨false, depth + 1⟩ ⟨false, depth⟩ ")" := rfl
    exact (((opens.append (offset.leads _)).append comma).append (nests _)).append closes
  | postgres =>
    intro depth
    have opens : Leads ⟨false, depth⟩ ⟨false, depth + 1⟩ "(" := rfl
    have interval : Leads ⟨false, depth + 1⟩ ⟨true, depth + 1⟩ " + INTERVAL '" := rfl
    have closes : Leads ⟨true, depth + 1⟩ ⟨false, depth⟩ " years')" := rfl
    exact (((opens.append (nests _)).append interval).append (offset.leads _)).append closes

end Dialect

end SqlEmit
