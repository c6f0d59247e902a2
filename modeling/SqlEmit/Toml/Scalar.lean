import SqlEmit.Moment
import SqlEmit.Text
import SqlEmit.Toml

/-! Values of a configuration document that hold no other values. Every reader takes what it can from
the front of a text and gives the rest, so whether a value ends properly is seen at the rest. -/
namespace SqlEmit.Toml

def isSpace (c : Char) : Bool :=
  c = ' ' || c = '\t'

def dropSpaces (cs : List Char) : List Char :=
  cs.dropWhile isSpace

/-- Characters that may stand in strings and comments. -/
def isPrintable (c : Char) : Bool :=
  c = '\t' || (0x20 ≤ c.toNat && c.toNat ≠ 0x7F)

/-- What follows the end of a line, if the text starts with one. -/
def afterNewline : List Char → Option (List Char)
  | '\n' :: rest => some rest
  | '\r' :: '\n' :: rest => some rest
  | _ => none

def charOfHex (digits : List Char) : Option Char :=
  (Text.readHex digits).bind fun n =>
    if n < 0xD800 ∨ (0xDFFF < n ∧ n < 0x110000) then some (Char.ofNat n) else none

def unescape (c : Char) : Option Char :=
  if c = '"' ∨ c = '\\' then some c
  else if c = 'b' then some (Char.ofNat 8)
  else if c = 't' then some '\t'
  else if c = 'n' then some '\n'
  else if c = 'f' then some (Char.ofNat 12)
  else if c = 'r' then some '\r'
  else none

/-- The character that an escape stands for, after its backslash. -/
def readEscape : List Char → Option (Char × List Char)
  | 'u' :: a :: b :: c :: d :: rest => (charOfHex [a, b, c, d]).map (·, rest)
  | 'U' :: a :: b :: c :: d :: e :: f :: g :: h :: rest =>
    (charOfHex [a, b, c, d, e, f, g, h]).map (·, rest)
  | c :: rest => (unescape c).map (·, rest)
  | [] => none

theorem length_lt_of_readEscape {cs rest : List Char} {c : Char}
    (h : readEscape cs = some (c, rest)) : rest.length < cs.length := by
  unfold readEscape at h
  split at h <;> simp_all only [Option.map_eq_some_iff, Prod.mk.injEq, List.length_cons, reduceCtorEq] <;>
    grind

/-- The rest of a string with escapes, and what follows its closing quote. -/
def readBasic (cs : List Char) : Option (List Char × List Char) :=
  match cs with
  | [] => none
  | '"' :: rest => some ([], rest)
  | '\\' :: escaped =>
    match _found : readEscape escaped with
    | none => none
    | some (c, rest) => (readBasic rest).map fun (value, rest) => (c :: value, rest)
  | c :: rest =>
    if isPrintable c then (readBasic rest).map fun (value, rest) => (c :: value, rest) else none
termination_by cs.length
decreasing_by
  · have := length_lt_of_readEscape _found
    simp only [List.length_cons]
    omega
  · simp

/-- The rest of a string without escapes, and what follows its closing quote. -/
def readPlain : List Char → Option (List Char × List Char)
  | [] => none
  | '\x27' :: rest => some ([], rest)
  | c :: rest =>
    if isPrintable c then (readPlain rest).map fun (value, rest) => (c :: value, rest) else none

/-- The end of a string of several lines: three quotes, and one or two before them that belong to
the string. -/
def readBlockEnd (quote : Char) (cs : List Char) : Option (List Char × List Char) :=
  let quotes := (cs.takeWhile (· = quote)).length
  if quotes < 3 then none
  else some (List.replicate (min quotes 5 - 3) quote, cs.drop (min quotes 5))

/-- The rest of a string of several lines with escapes. A backslash at the end of a line takes the
blanks and line ends that follow with it; `skipping` says that it is about them. -/
def readBasicBlock (skipping : Bool) (cs : List Char) : Option (List Char × List Char) :=
  match readBlockEnd '"' cs with
  | some found => some found
  | none =>
    match cs with
    | [] => none
    | '\\' :: escaped =>
      if (afterNewline (dropSpaces escaped)).isSome then readBasicBlock true escaped
      else
        match _found : readEscape escaped with
        | none => none
        | some (c, rest) => (readBasicBlock false rest).map fun (value, rest) => (c :: value, rest)
    | '\r' :: '\n' :: rest => readBasicBlock skipping ('\n' :: rest)
    | c :: rest =>
      if skipping && (isSpace c || c = '\n') then readBasicBlock true rest
      else if isPrintable c || c = '\n' then
        (readBasicBlock false rest).map fun (value, rest) => (c :: value, rest)
      else none
termination_by cs.length
decreasing_by
  · simp
  · have := length_lt_of_readEscape _found
    simp only [List.length_cons]
    omega
  · simp
  · simp
  · simp

/-- The rest of a string of several lines without escapes. -/
def readPlainBlock (cs : List Char) : Option (List Char × List Char) :=
  match readBlockEnd '\x27' cs with
  | some found => some found
  | none =>
    match cs with
    | [] => none
    | '\r' :: '\n' :: rest => readPlainBlock ('\n' :: rest)
    | c :: rest =>
      if isPrintable c || c = '\n' then
        (readPlainBlock rest).map fun (value, rest) => (c :: value, rest)
      else none
termination_by cs.length

/-- A line end right after the opening quotes is no part of the string. -/
def dropNewline (cs : List Char) : List Char :=
  (afterNewline cs).getD cs

def readString (cs : List Char) : Option (List Char × List Char) :=
  match cs with
  | '"' :: '"' :: '"' :: rest => readBasicBlock false (dropNewline rest)
  | '"' :: rest => readBasic rest
  | '\x27' :: '\x27' :: '\x27' :: rest => readPlainBlock (dropNewline rest)
  | '\x27' :: rest => readPlain rest
  | _ => none

/-- Digits with single underscores between them, which are dropped. -/
def readDigits (isDigit : Char → Bool) : List Char → Option (List Char × List Char)
  | [] => none
  | d :: rest =>
    if !isDigit d then none
    else
      match rest with
      | [] => some ([d], [])
      | '_' :: more => (readDigits isDigit more).map fun (digits, rest) => (d :: digits, rest)
      | e :: more =>
        if isDigit e then (readDigits isDigit (e :: more)).map fun (digits, rest) => (d :: digits, rest)
        else some ([d], e :: more)

/-- Decimal digits; a zero at the front stands alone. -/
def readWhole : List Char → Option (List Char × List Char)
  | '0' :: rest => some (['0'], rest)
  | cs => readDigits Text.isDigit cs

/-- Integers have 64 bits. -/
def integer (value : Int) : Option Node :=
  if value < -9223372036854775808 ∨ 9223372036854775807 < value then none else some (.integer value)

/-- Digits to the base that the letter after a zero stands for. -/
def readBased (base : Nat) (cs : List Char) : Option (Node × List Char) := do
  let (digits, rest) ← readDigits (fun c => (Text.hexValue c).any (· < base)) cs
  let value := digits.foldl (fun n c => base * n + (Text.hexValue c).getD 0) 0
  return (← integer value, rest)

/-- Halfway between the largest number of 64 bits and the power of two after it. -/
def realLimit : Nat := Nat.pow 2 1024 - Nat.pow 2 970

/-- Whether `digits` times ten to the power `exponent` is rounded to infinity. -/
def isInfinite (digits : List Char) (exponent : Int) : Bool :=
  let digits := digits.dropWhile (· = '0')
  let magnitude := exponent + digits.length
  if digits = [] ∨ magnitude < 309 then false
  else if 309 < magnitude then true
  else if 0 ≤ exponent then realLimit ≤ Text.digitsValue digits * Nat.pow 10 exponent.toNat
  else realLimit * Nat.pow 10 (-exponent).toNat ≤ Text.digitsValue digits

def readExponent (cs : List Char) : Option (Int × List Char) := do
  let (negative, cs) := match cs with
    | '+' :: cs => (false, cs)
    | '-' :: cs => (true, cs)
    | cs => (false, cs)
  let (digits, rest) ← readDigits Text.isDigit cs
  let value := Text.digitsValue digits
  return (if negative then -(value : Int) else value, rest)

/-- A number with a fraction or an exponent may be too small for 64 bits, but not too large. -/
def real (negative : Bool) (digits : List Char) (exponent : Int) (rest : List Char) :
    Option (Node × List Char) :=
  if !negative && isInfinite digits exponent then none else some (.real, rest)

def isExponentMark (c : Char) : Bool :=
  c = 'e' || c = 'E'

def readDecimal (negative : Bool) (cs : List Char) : Option (Node × List Char) := do
  let (whole, rest) ← readWhole cs
  match rest with
  | '.' :: rest =>
    let (fraction, rest) ← readDigits Text.isDigit rest
    let places : Int := fraction.length
    match rest with
    | c :: more =>
      if isExponentMark c then
        let (exponent, rest) ← readExponent more
        real negative (whole ++ fraction) (exponent - places) rest
      else real negative (whole ++ fraction) (-places) rest
    | [] => real negative (whole ++ fraction) (-places) []
  | rest =>
    let n := Text.digitsValue whole
    match rest with
    | c :: more =>
      if isExponentMark c then
        let (exponent, rest) ← readExponent more
        real negative whole exponent rest
      else return (← integer (if negative then -(n : Int) else n), rest)
    | [] => return (← integer (if negative then -(n : Int) else n), [])

def readWord (word : String) (node : Node) (cs : List Char) : Option (Node × List Char) :=
  if word.toList.isPrefixOf cs then some (node, cs.drop word.length) else none

def readUnsigned (negative : Bool) (cs : List Char) : Option (Node × List Char) :=
  ((readWord "inf" .real cs).or (readWord "nan" .real cs)).or (readDecimal negative cs)

def readNumber : List Char → Option (Node × List Char)
  | '0' :: 'x' :: cs => readBased 16 cs
  | '0' :: 'o' :: cs => readBased 8 cs
  | '0' :: 'b' :: cs => readBased 2 cs
  | '+' :: cs => readUnsigned false cs
  | '-' :: cs => readUnsigned true cs
  | cs => readUnsigned false cs

def readFixed (width : Nat) (cs : List Char) : Option (Nat × List Char) :=
  let digits := cs.take width
  if digits.length = width ∧ digits.all Text.isDigit then
    some (Text.digitsValue digits, cs.drop width)
  else none

def afterChar (c : Char) : List Char → Option (List Char)
  | d :: rest => if d = c then some rest else none
  | [] => none

def afterDate (cs : List Char) : Option (List Char) := do
  let (year, rest) ← readFixed 4 cs
  let (month, rest) ← readFixed 2 (← afterChar '-' rest)
  let (day, rest) ← readFixed 2 (← afterChar '-' rest)
  if Date.isValid ⟨year, month, day⟩ then some rest else none

def afterMinutes (cs : List Char) : Option (List Char) := do
  let (hour, rest) ← readFixed 2 cs
  let (minute, rest) ← readFixed 2 (← afterChar ':' rest)
  if hour < 24 ∧ minute < 60 then some rest else none

def dropFraction : List Char → List Char
  | '.' :: d :: rest => if Text.isDigit d then rest.dropWhile Text.isDigit else '.' :: d :: rest
  | cs => cs

def afterTime (cs : List Char) : Option (List Char) := do
  let (second, rest) ← readFixed 2 (← afterChar ':' (← afterMinutes cs))
  if second ≤ 60 then some (dropFraction rest) else none

def dropOffset : List Char → List Char
  | c :: rest =>
    if c = 'Z' ∨ c = 'z' then rest
    else if c = '+' ∨ c = '-' then (afterMinutes rest).getD (c :: rest)
    else c :: rest
  | [] => []

/-- What follows a date, a time, or both with a blank or a letter between them. -/
def afterMoment (cs : List Char) : Option (List Char) :=
  match afterDate cs with
  | none => afterTime cs
  | some [] => some []
  | some (c :: rest) =>
    if c = 'T' ∨ c = 't' ∨ c = ' ' then some (((afterTime rest).map dropOffset).getD (c :: rest))
    else some (c :: rest)

def readScalar (cs : List Char) : Option (Node × List Char) :=
  match readString cs with
  | some (value, rest) => some (.text (String.ofList value), rest)
  | none =>
    match afterMoment cs with
    | some rest => some (.moment, rest)
    | none =>
      ((readWord "true" (.bool true) cs).or (readWord "false" (.bool false) cs)).or (readNumber cs)

end SqlEmit.Toml
