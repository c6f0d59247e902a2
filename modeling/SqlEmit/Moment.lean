import SqlEmit.Text

/-! Dates and times of the proleptic Gregorian calendar: reading, shifting by years, writing. -/
namespace SqlEmit

structure Date where
  year : Int
  month : Nat
  day : Nat
  deriving DecidableEq

namespace Date

def isLeap (year : Int) : Bool :=
  year % 4 == 0 && (year % 100 != 0 || year % 400 == 0)

def monthLength (year : Int) (month : Nat) : Nat :=
  if month = 2 then if isLeap year then 29 else 28
  else if month = 4 ∨ month = 6 ∨ month = 9 ∨ month = 11 then 30
  else 31

def minYear : Int := -262143

def maxYear : Int := 262142

def isValid (d : Date) : Bool :=
  minYear ≤ d.year && d.year ≤ maxYear && 1 ≤ d.month && d.month ≤ 12 &&
    1 ≤ d.day && d.day ≤ monthLength d.year d.month

end Date

/-- A point in time. The second may be 60. -/
structure Moment where
  date : Date
  hour : Nat
  minute : Nat
  second : Nat
  nano : Nat
  deriving DecidableEq

namespace Moment

def isValid (m : Moment) : Bool :=
  m.date.isValid && m.hour ≤ 23 && m.minute ≤ 59 && m.second ≤ 60

def readDigits (limit : Nat) (cs : List Char) : Option (Nat × List Char) :=
  let digits := (cs.take limit).takeWhile Text.isDigit
  if digits = [] then none else some (Text.digitsValue digits, cs.drop digits.length)

def readField (limit : Nat) (cs : List Char) : Option (Nat × List Char) :=
  readDigits limit (Text.dropStart Text.isBlank cs)

/-- The digits after a sign; their value fits 64 bits. -/
def readSigned (cs : List Char) : Option (Nat × List Char) := do
  let (n, rest) ← readDigits cs.length cs
  if n ≤ 9223372036854775807 then some (n, rest) else none

/-- A year has up to four digits, or any number of digits after a sign. -/
def readYear (cs : List Char) : Option (Int × List Char) :=
  match Text.dropStart Text.isBlank cs with
  | '-' :: cs => (readSigned cs).map fun (n, rest) => (-(n : Int), rest)
  | '+' :: cs => (readSigned cs).map fun (n, rest) => ((n : Int), rest)
  | cs => (readDigits 4 cs).map fun (n, rest) => ((n : Int), rest)

def expect (c : Char) : List Char → Option (List Char)
  | [] => none
  | d :: cs => if d = c then some cs else none

def readDate (cs : List Char) : Option (Date × List Char) := do
  let (year, cs) ← readYear cs
  let (month, cs) ← readField 2 (← expect '-' cs)
  let (day, cs) ← readField 2 (← expect '-' cs)
  return (⟨year, month, day⟩, cs)

def readTime (cs : List Char) : Option ((Nat × Nat × Nat) × List Char) := do
  let (hour, cs) ← readField 2 cs
  let (minute, cs) ← readField 2 (← expect ':' cs)
  let (second, cs) ← readField 2 (← expect ':' cs)
  return ((hour, minute, second), cs)

/-- An optional fraction of a second in nanoseconds; digits after the ninth are dropped. -/
def readFraction : List Char → Option (Nat × List Char)
  | '.' :: cs => do
    let digits := (cs.take 9).takeWhile Text.isDigit
    if digits = [] then none
    else some (Text.digitsValue digits * Nat.pow 10 (9 - digits.length), cs.dropWhile Text.isDigit)
  | cs => some (0, cs)

/-- Date and time divided by a `T` or by white space, which may be empty. -/
def readDivider (letter : Bool) (cs : List Char) : Option (List Char) :=
  if letter then expect 'T' cs else some (Text.dropStart Text.isBlank cs)

def accept (m : Moment) (rest : List Char) : Option Moment :=
  if rest = [] ∧ m.isValid then some m else none

def readDateTime (letter : Bool) (cs : List Char) : Option Moment := do
  let (date, cs) ← readDate cs
  let ((hour, minute, second), cs) ← readTime (← readDivider letter cs)
  let (nano, cs) ← readFraction cs
  accept ⟨date, hour, minute, second, nano⟩ cs

def readDay (cs : List Char) : Option Moment := do
  let (date, cs) ← readDate cs
  accept ⟨date, 0, 0, 0, 0⟩ cs

/-- A date with a time, or a date alone, which stands for its midnight. -/
def parse (literal : String) : Option Moment :=
  let cs := literal.toList
  (readDateTime true cs).or ((readDateTime false cs).or (readDay cs))

def withYear (m : Moment) (year : Int) : Option Moment :=
  let date := { m.date with year }
  if date.isValid then some { m with date } else none

def withDay (m : Moment) (day : Nat) : Moment :=
  { m with date := { m.date with day } }

/-- The same moment some years later. A leap day lands on February 28 of a common year, and a year
outside the calendar leaves the moment as it is. -/
def shiftYears (m : Moment) (years : Int) : Moment :=
  if years = 0 then m
  else
    let year := m.date.year + years
    ((m.withYear year).or ((m.withDay 28).withYear year)).getD m

def padded (width n : Nat) : List Char :=
  let digits := (toString n).toList
  List.replicate (width - digits.length) '0' ++ digits

/-- Four digits, and a sign for years outside 0 to 9999. -/
def yearChars (year : Int) : List Char :=
  if 0 ≤ year ∧ year ≤ 9999 then padded 4 year.toNat
  else (if year < 0 then '-' else '+') :: padded 4 year.natAbs

def dateChars (d : Date) : List Char :=
  yearChars d.year ++ '-' :: padded 2 d.month ++ '-' :: padded 2 d.day

def timeChars (m : Moment) : List Char :=
  padded 2 m.hour ++ ':' :: padded 2 m.minute ++ ':' :: padded 2 m.second

/-- The fraction in 3, 6 or 9 digits, the fewest that are exact. -/
def fractionChars (nano : Nat) : List Char :=
  if nano = 0 then []
  else if nano % 1000000 = 0 then '.' :: padded 3 (nano / 1000000)
  else if nano % 1000 = 0 then '.' :: padded 6 (nano / 1000)
  else '.' :: padded 9 nano

def display (m : Moment) : String :=
  String.ofList (dateChars m.date ++ ' ' :: m.timeChars ++ fractionChars m.nano)

/-- `yyyy-MM-ddTHH:mm:ss` without the fraction. -/
def literal (m : Moment) : String :=
  String.ofList (dateChars m.date ++ 'T' :: m.timeChars)

/-- A datetime literal shifted by whole years; `none` if the text is no datetime. -/
def formatLiteral (text : String) (years : Int) : Option String :=
  (parse text).map fun m => (m.shiftYears years).literal

end Moment

end SqlEmit
