import SqlEmit.Moment
import SqlEmit.Proofs.Digits

/-! Datetime literals under a year offset. What is written for a moment is read as the same moment
without its fraction, so a shift by some years can be taken back by the opposite shift, unless a leap
day was moved to a common year or the year would have left the calendar. -/
namespace SqlEmit

namespace Date

/-- The years that dates have. -/
def InCalendar (year : Int) : Prop :=
  minYear ≤ year ∧ year ≤ maxYear

theorem isValid_iff {d : Date} : d.isValid = true ↔
    InCalendar d.year ∧ (1 ≤ d.month ∧ d.month ≤ 12) ∧ 1 ≤ d.day ∧ d.day ≤ monthLength d.year d.month := by
  simp only [isValid, InCalendar, Bool.and_eq_true, decide_eq_true_eq, and_assoc]

/-- The day is February 29, and the year has none. -/
def LosesLeapDay (d : Date) (year : Int) : Prop :=
  d.month = 2 ∧ d.day = 29 ∧ isLeap year = false

/-- A day of the calendar is a day of another year too, unless it is a leap day. -/
theorem isValid_inYear {d : Date} (valid : d.isValid = true) (year : Int) :
    ({ d with year } : Date).isValid = true ↔ InCalendar year ∧ ¬d.LosesLeapDay year := by
  obtain ⟨-, month, first, last⟩ := isValid_iff.mp valid
  rw [isValid_iff]
  -- Only February has a length that depends on the year.
  by_cases february : d.month = 2
  · have longest : d.day ≤ 29 := by
      simp only [monthLength, february, if_true] at last
      split at last <;> omega
    have length : d.day ≤ monthLength year d.month ↔ ¬d.LosesLeapDay year := by
      simp only [monthLength, LosesLeapDay, february, if_true, true_and]
      cases isLeap year <;> simp <;> omega
    simp only [month, first, length, true_and, and_true]
  · have length : monthLength year d.month = monthLength d.year d.month := by
      simp only [monthLength, february, if_false]
    have kept : ¬d.LosesLeapDay year := fun lost => february lost.1
    simp only [month, first, length, last, kept, not_false_eq_true, and_true]

theorem isValid_february {year : Int} (inside : InCalendar year) : Date.isValid ⟨year, 2, 28⟩ = true := by
  have length : 28 ≤ monthLength year 2 := by
    simp only [monthLength, if_true]
    split <;> omega
  exact isValid_iff.mpr ⟨inside, ⟨by simp, by simp⟩, by simp, length⟩

theorem monthLength_le (year : Int) (month : Nat) : monthLength year month ≤ 31 := by
  unfold monthLength
  split
  · split <;> omega
  · split <;> omega

end Date

namespace Moment

theorem isValid_iff {m : Moment} : m.isValid = true ↔
    m.date.isValid = true ∧ m.hour ≤ 23 ∧ m.minute ≤ 59 ∧ m.second ≤ 60 := by
  simp only [isValid, Bool.and_eq_true, decide_eq_true_eq, and_assoc]

theorem padded_eq (width n : Nat) :
    padded width n = List.replicate (width - (Nat.toDigits 10 n).length) '0' ++ Nat.toDigits 10 n := by
  rw [padded, Text.toList_toString]

theorem isDigit_of_mem_padded {width n : Nat} {c : Char} (mem : c ∈ padded width n) :
    Text.isDigit c = true := by
  rw [padded_eq, List.mem_append] at mem
  rcases mem with zero | digit
  · obtain rfl := List.eq_of_mem_replicate zero
    decide
  · exact Text.isDigit_of_mem_toDigits digit

theorem padded_ne_nil (width n : Nat) : padded width n ≠ [] := by
  rw [padded_eq]
  exact List.append_ne_nil_of_right_ne_nil _ Nat.toDigits_ne_nil

theorem length_padded {width n : Nat} (fits : (Nat.toDigits 10 n).length ≤ width) :
    (padded width n).length = width := by
  rw [padded_eq, List.length_append, List.length_replicate]
  omega

/-- Zeros in front do not count. -/
theorem digitsValue_padded (width n : Nat) : Text.digitsValue (padded width n) = n := by
  have zeros (k : Nat) (cs : List Char) :
      Text.digitsValue (List.replicate k '0' ++ cs) = Text.digitsValue cs := by
    induction k with
    | zero => rfl
    | succ k ih => exact ih
  rw [padded_eq, zeros, Text.digitsValue_toDigits]

/-- No digit comes next. -/
def Stops (rest : List Char) : Prop :=
  ∀ c ∈ rest.head?, Text.isDigit c = false

theorem stops_cons {c : Char} (rest : List Char) (other : Text.isDigit c = false) : Stops (c :: rest) := by
  intro d first
  obtain rfl : c = d := by simpa using first
  exact other

/-- Digits are read up to the first character that is none. -/
theorem readDigits_append {limit : Nat} {digits rest : List Char} (some : digits ≠ [])
    (each : ∀ c ∈ digits, Text.isDigit c = true) (within : digits.length ≤ limit) (stops : Stops rest) :
    readDigits limit (digits ++ rest) = .some (Text.digitsValue digits, rest) := by
  have ends : (rest.take (limit - digits.length)).takeWhile Text.isDigit = [] := by
    cases rest with
    | nil => simp
    | cons c rest =>
      have other : Text.isDigit c = false := stops c rfl
      cases limit - digits.length with
      | zero => rfl
      | succ k => simp [other]
  have taken : ((digits ++ rest).take limit).takeWhile Text.isDigit = digits := by
    rw [List.take_append, List.take_of_length_le within, List.takeWhile_append_of_pos each, ends,
      List.append_nil]
  simp only [readDigits, taken, if_neg some, List.drop_left]

theorem dropStart_digits {digits : List Char} (some : digits ≠ []) (each : ∀ c ∈ digits, Text.isDigit c = true)
    (rest : List Char) : Text.dropStart Text.isBlank (digits ++ rest) = digits ++ rest := by
  cases digits with
  | nil => exact absurd rfl some
  | cons c digits =>
    have bounds := Text.toNat_of_isDigit (each c (by simp))
    have kept := Text.not_blank_of_visible (show 33 ≤ c.toNat ∧ c.toNat ≤ 126 by omega)
    exact List.dropWhile_cons_of_neg (by simp [kept])

/-- A number of two digits is read back in front of anything but another digit. -/
theorem readField_padded {n : Nat} (fits : n < 100) {rest : List Char} (stops : Stops rest) :
    readField 2 (padded 2 n ++ rest) = some (n, rest) := by
  have width : (padded 2 n).length = 2 :=
    length_padded ((Nat.length_toDigits_le_iff (by decide) (by decide)).mpr fits)
  have each : ∀ c ∈ padded 2 n, Text.isDigit c = true := fun c => isDigit_of_mem_padded
  rw [readField, dropStart_digits (padded_ne_nil 2 n) each, readDigits_append (padded_ne_nil 2 n) each
    (Nat.le_of_eq width) stops, digitsValue_padded]

theorem readSigned_padded {n : Nat} (fits : n ≤ 9223372036854775807) {rest : List Char} (stops : Stops rest) :
    readSigned (padded 4 n ++ rest) = some (n, rest) := by
  have read : readDigits (padded 4 n ++ rest).length (padded 4 n ++ rest) = some (n, rest) := by
    rw [readDigits_append (padded_ne_nil 4 n) (fun c => isDigit_of_mem_padded) (by simp) stops,
      digitsValue_padded]
  rw [readSigned, read]
  exact if_pos fits

theorem readYear_unsigned {digits : List Char} (some : digits ≠ []) (each : ∀ c ∈ digits, Text.isDigit c = true)
    (rest : List Char) :
    readYear (digits ++ rest) = (readDigits 4 (digits ++ rest)).map fun (n, rest) => ((n : Int), rest) := by
  cases digits with
  | nil => exact absurd rfl some
  | cons c digits =>
    have digit := each c (by simp)
    unfold readYear
    rw [dropStart_digits some each, List.cons_append]
    split
    next same => exact absurd (List.cons.inj same).1 (Text.ne_of_holds digit (by decide))
    next same => exact absurd (List.cons.inj same).1 (Text.ne_of_holds digit (by decide))
    next => rfl

/-- A year is read back with its sign, or without one if it has four digits. -/
theorem readYear_yearChars {year : Int} (fits : year.natAbs ≤ 9223372036854775807) {rest : List Char}
    (stops : Stops rest) : readYear (yearChars year ++ rest) = some (year, rest) := by
  have each {n : Nat} : ∀ c ∈ padded 4 n, Text.isDigit c = true := fun c => isDigit_of_mem_padded
  unfold yearChars
  split
  next plain =>
    have width : (padded 4 year.toNat).length = 4 := by
      apply length_padded
      rw [Nat.length_toDigits_le_iff (by decide) (by decide)]
      omega
    have read : readDigits 4 (padded 4 year.toNat ++ rest) = some (year.toNat, rest) := by
      rw [readDigits_append (padded_ne_nil 4 _) each (Nat.le_of_eq width) stops, digitsValue_padded]
    have value : (year.toNat : Int) = year := Int.toNat_of_nonneg plain.1
    rw [readYear_unsigned (padded_ne_nil 4 _) each, read]
    exact congrArg (fun year => some (year, rest)) value
  next signed =>
    rw [List.cons_append]
    have kept (c : Char) (visible : Text.isBlank c = false) (cs : List Char) :
        Text.dropStart Text.isBlank (c :: cs) = c :: cs :=
      List.dropWhile_cons_of_neg (by simp [visible])
    split
    next negative =>
      have value : -(year.natAbs : Int) = year := by omega
      simp only [readYear, kept '-' (by decide), readSigned_padded fits stops]
      exact congrArg (fun year => some (year, rest)) value
    next positive =>
      have value : (year.natAbs : Int) = year := by omega
      simp only [readYear, kept '+' (by decide), readSigned_padded fits stops]
      exact congrArg (fun year => some (year, rest)) value

theorem expect_self (c : Char) (cs : List Char) : expect c (c :: cs) = some cs :=
  if_pos rfl

theorem readDate_dateChars {d : Date} (valid : d.isValid = true) {rest : List Char} (stops : Stops rest) :
    readDate (dateChars d ++ rest) = some (d, rest) := by
  obtain ⟨⟨least, most⟩, ⟨-, month⟩, -, day⟩ := Date.isValid_iff.mp valid
  have short := Date.monthLength_le d.year d.month
  have year : d.year.natAbs ≤ 9223372036854775807 := by
    simp only [Date.minYear, Date.maxYear] at least most
    omega
  have hyphen : Text.isDigit '-' = false := by decide
  have readDay := readField_padded (show d.day < 100 by omega) stops
  have readMonth := readField_padded (show d.month < 100 by omega)
    (stops_cons (padded 2 d.day ++ rest) hyphen)
  have readYear := readYear_yearChars year
    (stops_cons (padded 2 d.month ++ '-' :: (padded 2 d.day ++ rest)) hyphen)
  simp [readDate, dateChars, readYear, readMonth, readDay, expect_self]

theorem readTime_timeChars {m : Moment} (hour : m.hour ≤ 23) (minute : m.minute ≤ 59) (second : m.second ≤ 60)
    {rest : List Char} (stops : Stops rest) :
    readTime (m.timeChars ++ rest) = some ((m.hour, m.minute, m.second), rest) := by
  have colon : Text.isDigit ':' = false := by decide
  have readSecond := readField_padded (show m.second < 100 by omega) stops
  have readMinute := readField_padded (show m.minute < 100 by omega)
    (stops_cons (padded 2 m.second ++ rest) colon)
  have readHour := readField_padded (show m.hour < 100 by omega)
    (stops_cons (padded 2 m.minute ++ ':' :: (padded 2 m.second ++ rest)) colon)
  simp [readTime, timeChars, readHour, readMinute, readSecond, expect_self]

/-- A moment without the fraction of its second. -/
def wholeSecond (m : Moment) : Moment :=
  { m with nano := 0 }

/-- What is written for a moment is read as the moment without its fraction. -/
theorem parse_literal {m : Moment} (valid : m.isValid = true) : parse m.literal = some m.wholeSecond := by
  obtain ⟨date, hour, minute, second⟩ := isValid_iff.mp valid
  have letter : Text.isDigit 'T' = false := by decide
  have readDate := readDate_dateChars date (stops_cons m.timeChars letter)
  have readTime : readTime m.timeChars = some ((m.hour, m.minute, m.second), []) := by
    simpa using readTime_timeChars hour minute second (show Stops [] by simp [Stops])
  have accepted : accept ⟨m.date, m.hour, m.minute, m.second, 0⟩ [] = some m.wholeSecond :=
    if_pos ⟨rfl, valid⟩
  have read : readDateTime true m.literal.toList = some m.wholeSecond := by
    simpa [readDateTime, literal, readDate, readDivider, expect_self, readTime, readFraction] using accepted
  rw [parse, read, Option.some_or]

theorem isValid_of_accept {m read : Moment} {rest : List Char} (accepted : accept m rest = some read) :
    read.isValid = true := by
  unfold accept at accepted
  split at accepted
  next valid =>
    obtain rfl := Option.some.inj accepted
    exact valid.2
  next => cases accepted

theorem isValid_of_parse {text : String} {m : Moment} (read : parse text = some m) : m.isValid = true := by
  have whole {letter : Bool} {cs : List Char} (read : readDateTime letter cs = some m) : m.isValid = true := by
    simp only [readDateTime, Option.bind_eq_bind, Option.bind_eq_some_iff] at read
    obtain ⟨_, -, _, -, _, -, _, -, accepted⟩ := read
    exact isValid_of_accept accepted
  have day {cs : List Char} (read : readDay cs = some m) : m.isValid = true := by
    simp only [readDay, Option.bind_eq_bind, Option.bind_eq_some_iff] at read
    obtain ⟨_, -, accepted⟩ := read
    exact isValid_of_accept accepted
  simp only [parse, Option.or_eq_some_iff] at read
  rcases read with first | ⟨-, second | ⟨-, third⟩⟩
  · exact whole first
  · exact whole second
  · exact day third

def inYear (m : Moment) (year : Int) : Moment :=
  { m with date := { m.date with year } }

theorem withYear_eq (m : Moment) (year : Int) :
    m.withYear year = if ({ m.date with year } : Date).isValid then some (m.inYear year) else none := rfl

theorem shiftYears_kept {m : Moment} (valid : m.date.isValid = true) {years : Int}
    (inside : Date.InCalendar (m.date.year + years)) (kept : ¬m.date.LosesLeapDay (m.date.year + years)) :
    m.shiftYears years = m.inYear (m.date.year + years) := by
  unfold shiftYears
  split
  next zero =>
    rw [zero, Int.add_zero]
    rfl
  next =>
    have there := (Date.isValid_inYear valid _).mpr ⟨inside, kept⟩
    simp [withYear_eq, there]

theorem shiftYears_leapDay {m : Moment} (valid : m.date.isValid = true) {years : Int}
    (inside : Date.InCalendar (m.date.year + years)) (lost : m.date.LosesLeapDay (m.date.year + years)) :
    m.shiftYears years = { m with date := ⟨m.date.year + years, 2, 28⟩ } := by
  unfold shiftYears
  split
  next zero =>
    rw [zero, Int.add_zero] at lost
    exact absurd lost ((Date.isValid_inYear valid _).mp valid).2
  next =>
    have missing : m.withYear (m.date.year + years) = none := by
      rw [withYear_eq, if_neg]
      intro there
      exact ((Date.isValid_inYear valid _).mp there).2 lost
    have dayBefore : (m.withDay 28).withYear (m.date.year + years) =
        some { m with date := ⟨m.date.year + years, 2, 28⟩ } := by
      simp [withYear_eq, inYear, withDay, lost.1, Date.isValid_february inside]
    simp [missing, dayBefore]

theorem shiftYears_outside {m : Moment} {years : Int} (outside : ¬Date.InCalendar (m.date.year + years)) :
    m.shiftYears years = m := by
  have never (d : Date) (year : d.year = m.date.year + years) : d.isValid = false := by
    refine Bool.eq_false_iff.mpr fun valid => outside ?_
    rw [← year]
    exact (Date.isValid_iff.mp valid).1
  unfold shiftYears
  split
  next => rfl
  next => simp [withYear_eq, withDay, never]

theorem isValid_shiftYears {m : Moment} (valid : m.isValid = true) (years : Int) :
    (m.shiftYears years).isValid = true := by
  obtain ⟨date, time⟩ := isValid_iff.mp valid
  by_cases inside : Date.InCalendar (m.date.year + years)
  · by_cases lost : m.date.LosesLeapDay (m.date.year + years)
    · rw [shiftYears_leapDay date inside lost]
      exact isValid_iff.mpr ⟨Date.isValid_february inside, time⟩
    · rw [shiftYears_kept date inside lost]
      exact isValid_iff.mpr ⟨(Date.isValid_inYear date _).mpr ⟨inside, lost⟩, time⟩
  · rw [shiftYears_outside inside]
    exact valid

/-- The literal behind its year. -/
def afterYear (m : Moment) : String :=
  String.ofList ('-' :: padded 2 m.date.month ++ '-' :: padded 2 m.date.day ++ 'T' :: m.timeChars)

def yearText (year : Int) : String :=
  String.ofList (yearChars year)

theorem literal_eq (m : Moment) : m.literal = yearText m.date.year ++ m.afterYear := by
  rw [literal, yearText, afterYear, ← String.ofList_append]
  congr 1
  simp [dateChars]

theorem formatLiteral_of_parse {text : String} {m : Moment} (read : parse text = some m) (years : Int) :
    formatLiteral text years = some (m.shiftYears years).literal := by
  rw [formatLiteral, read, Option.map_some]

theorem formatLiteral_zero {text : String} {m : Moment} (read : parse text = some m) :
    formatLiteral text 0 = some m.literal := by
  have same : m.shiftYears 0 = m := if_pos rfl
  rw [formatLiteral_of_parse read, same]

/-- The opposite shift leads back to the year. -/
theorem shiftYears_back {m : Moment} (valid : m.date.isValid = true) {years : Int}
    (inside : Date.InCalendar (m.date.year + years)) (kept : ¬m.date.LosesLeapDay (m.date.year + years)) :
    (m.inYear (m.date.year + years)).shiftYears (-years) = m := by
  have there : (m.inYear (m.date.year + years)).date.isValid = true :=
    (Date.isValid_inYear valid _).mpr ⟨inside, kept⟩
  have home := (Date.isValid_inYear valid m.date.year).mp valid
  have year : (m.inYear (m.date.year + years)).date.year + -years = m.date.year :=
    Int.add_neg_cancel_right m.date.year years
  have back := shiftYears_kept there (by rw [year]; exact home.1) (by rw [year]; exact home.2)
  rw [back, year]
  rfl

theorem toInt_neg_of_inCalendar {year : Int} {years : Int32} (start : Date.InCalendar year)
    (inside : Date.InCalendar (year + years.toInt)) : (-years).toInt = -years.toInt := by
  simp only [Date.InCalendar, Date.minYear, Date.maxYear] at start inside
  rw [Int32.toInt_neg]
  exact Int.bmod_eq_of_le_mul_two (by omega) (by omega)

/-- A shifted datetime literal stands for itself. In the calendar and without a lost leap day it has
the year of the shift in place of the old one, and the opposite shift gives the literal as it was. A
leap day in a common year becomes February 28 at the same time, and a year outside the calendar leaves
the literal unshifted. -/
theorem shifted_literal_round_trip {text shifted : String} {years : Int32} {m : Moment}
    (formatted : formatLiteral text years.toInt = some shifted) (read : parse text = some m) :
    formatLiteral shifted 0 = some shifted ∧
    (Date.InCalendar (m.date.year + years.toInt) →
      (¬m.date.LosesLeapDay (m.date.year + years.toInt) →
        formatLiteral shifted (-years).toInt = formatLiteral text 0 ∧
        ∃ rest, shifted = yearText (m.date.year + years.toInt) ++ rest ∧
          formatLiteral text 0 = some (yearText m.date.year ++ rest)) ∧
      (m.date.LosesLeapDay (m.date.year + years.toInt) →
        shifted = literal { m with date := ⟨m.date.year + years.toInt, 2, 28⟩ })) ∧
    (¬Date.InCalendar (m.date.year + years.toInt) → formatLiteral text 0 = some shifted) := by
  have valid := isValid_of_parse read
  obtain ⟨date, -⟩ := isValid_iff.mp valid
  obtain rfl : (m.shiftYears years.toInt).literal = shifted :=
    Option.some.inj ((formatLiteral_of_parse read _).symm.trans formatted)
  -- The shifted literal is read as the shifted moment, so the rest is about moments.
  have reread := parse_literal (isValid_shiftYears valid years.toInt)
  have again := formatLiteral_zero reread
  rw [formatLiteral_zero read]
  refine ⟨again, fun inside => ⟨fun kept => ⟨?_, m.afterYear, ?_, ?_⟩, fun lost => ?_⟩,
    fun outside => ?_⟩
  · rw [toInt_neg_of_inCalendar (Date.isValid_iff.mp date).1 inside, formatLiteral_of_parse reread,
      shiftYears_kept date inside kept]
    have back : (m.inYear (m.date.year + years.toInt)).wholeSecond.shiftYears (-years.toInt) = m.wholeSecond :=
      @shiftYears_back m.wholeSecond date years.toInt inside kept
    rw [back]
    rfl
  · rw [shiftYears_kept date inside kept, literal_eq]
    rfl
  · rw [literal_eq]
  · rw [shiftYears_leapDay date inside lost]
  · rw [shiftYears_outside outside]

/-- A leap day before year 0, in its last second and with a fraction, is shifted behind year 9999 and
back. -/
theorem shifted_literal_round_trip_of_leap_second :
    formatLiteral "-0004-02-29 23:59:60.5" (12000 : Int32).toInt = some "+11996-02-29T23:59:60" ∧
    formatLiteral "+11996-02-29T23:59:60" (-12000 : Int32).toInt =
      formatLiteral "-0004-02-29 23:59:60.5" 0 := by
  have formatted : formatLiteral "-0004-02-29 23:59:60.5" (12000 : Int32).toInt =
      some "+11996-02-29T23:59:60" := by decide
  have read : parse "-0004-02-29 23:59:60.5" = some ⟨⟨-4, 2, 29⟩, 23, 59, 60, 500000000⟩ := by decide
  have inside : Date.InCalendar (-4 + (12000 : Int32).toInt) := ⟨by decide, by decide⟩
  have kept : ¬Date.LosesLeapDay ⟨-4, 2, 29⟩ (-4 + (12000 : Int32).toInt) := by
    rintro ⟨-, -, common⟩
    exact absurd common (by decide)
  exact ⟨formatted, (((shifted_literal_round_trip formatted read).2.1 inside).1 kept).1⟩

end Moment

end SqlEmit
