/-! Texts as lists of characters. Names of functions, properties and tables are compared up to the case of
ASCII letters only. In a dotted identifier the part after the last dot names a column or table, and the part
before it qualifies the name. A quote inside a quoted SQL string is written twice; `readQuoted` reads such a
string back and stops at its closing quote. -/
namespace SqlEmit.Text

def asciiLower (c : Char) : Char :=
  if 'A' ≤ c ∧ c ≤ 'Z' then Char.ofNat (c.toNat + 32) else c

def asciiUpper (c : Char) : Char :=
  if 'a' ≤ c ∧ c ≤ 'z' then Char.ofNat (c.toNat - 32) else c

/-- Equality up to the case of ASCII letters. -/
def sameName (a b : String) : Bool :=
  a.toList.map asciiLower == b.toList.map asciiLower

theorem sameName_iff (a b : String) :
    sameName a b = true ↔ a.toList.map asciiLower = b.toList.map asciiLower := by
  simp [sameName]

def isDigit (c : Char) : Bool :=
  '0' ≤ c && c ≤ '9'

def digitValue (c : Char) : Nat :=
  c.toNat - 48

def digitsValue (cs : List Char) : Nat :=
  cs.foldl (fun n c => 10 * n + digitValue c) 0

def readNat (cs : List Char) : Option Nat :=
  if cs ≠ [] ∧ cs.all isDigit then some (digitsValue cs) else none

/-- A decimal number with at most one sign in front. -/
def readInt : List Char → Option Int
  | '-' :: cs => (readNat cs).map fun n => -(n : Int)
  | '+' :: cs => (readNat cs).map fun n => (n : Int)
  | cs => (readNat cs).map fun n => (n : Int)

/-- The characters with the White_Space property. -/
def isBlank (c : Char) : Bool :=
  let n := c.toNat
  (9 ≤ n && n ≤ 13) || n == 0x20 || n == 0x85 || n == 0xA0 || n == 0x1680 ||
    (0x2000 ≤ n && n ≤ 0x200A) || n == 0x2028 || n == 0x2029 || n == 0x202F || n == 0x205F ||
    n == 0x3000

def dropStart (p : Char → Bool) (cs : List Char) : List Char :=
  cs.dropWhile p

def dropEnd (p : Char → Bool) (cs : List Char) : List Char :=
  (cs.reverse.dropWhile p).reverse

def trimOf (p : Char → Bool) (cs : List Char) : List Char :=
  dropEnd p (dropStart p cs)

def trim (s : String) : String :=
  String.ofList (trimOf isBlank s.toList)

/-- Lines end in a line feed that a carriage return may precede. What follows the last end is a line
too, even if it is empty. -/
def splitLines : List Char → List (List Char)
  | [] => [[]]
  | '\r' :: '\n' :: cs => [] :: splitLines cs
  | c :: cs =>
    if c = '\n' then [] :: splitLines cs
    else
      match splitLines cs with
      | [] => [[c]]
      | line :: lines => (c :: line) :: lines

/-- The lines of a text; an end at the very end starts no further line. -/
def lines (text : String) : List String :=
  let lines := splitLines text.toList
  (if lines.getLast? = some [] then lines.dropLast else lines).map String.ofList

/-- The parts before and after the last dot. -/
def splitLastDot : List Char → Option (List Char × List Char)
  | [] => none
  | c :: cs =>
    match splitLastDot cs with
    | some (before, after) => some (c :: before, after)
    | none => if c = '.' then some ([], cs) else none

/-- The qualifier of an identifier, if it has one, and the name it qualifies. -/
def splitIdentifier (identifier : String) : Option String × String :=
  match splitLastDot identifier.toList with
  | some (before, after) => (some (String.ofList before), String.ofList after)
  | none => (none, identifier)

def unqualified (identifier : String) : String :=
  (splitIdentifier identifier).2

/-- `table.column`, or the column alone when there is no table or its name is empty. -/
def qualify (table : Option String) (column : String) : String :=
  match table with
  | some table => if table.isEmpty then column else table ++ "." ++ column
  | none => column

def hexDigit (n : Nat) : Char :=
  if n < 10 then Char.ofNat (48 + n) else Char.ofNat (55 + n)

def lowerHexDigit (n : Nat) : Char :=
  if n < 10 then Char.ofNat (48 + n) else Char.ofNat (87 + n)

/-- The last `width` digits of `n` to base 16, most significant first. -/
def hexDigits (digit : Nat → Char) : Nat → Nat → List Char
  | 0, _ => []
  | width + 1, n => hexDigits digit width (n / 16) ++ [digit (n % 16)]

def hexValue (c : Char) : Option Nat :=
  if '0' ≤ c ∧ c ≤ '9' then some (c.toNat - 48)
  else if 'a' ≤ c ∧ c ≤ 'f' then some (c.toNat - 87)
  else if 'A' ≤ c ∧ c ≤ 'F' then some (c.toNat - 55)
  else none

def readHex (cs : List Char) : Option Nat :=
  cs.foldlM (fun n c => (hexValue c).map (16 * n + ·)) 0

def doubleQuotes : List Char → List Char
  | [] => []
  | c :: cs => if c = '\x27' then '\x27' :: '\x27' :: doubleQuotes cs else c :: doubleQuotes cs

def escapeQuotes (value : String) : String :=
  String.ofList (doubleQuotes value.toList)

def quote (value : String) : String :=
  "'" ++ escapeQuotes value ++ "'"

/-- Reads a string after its opening quote: two quotes stand for one, the first lone quote ends
the string. Gives the value and the rest of the text. -/
def readQuoted : List Char → Option (List Char × List Char)
  | [] => none
  | '\x27' :: '\x27' :: cs => (readQuoted cs).map fun (value, rest) => ('\x27' :: value, rest)
  | c :: cs =>
    if c = '\x27' then some ([], cs)
    else (readQuoted cs).map fun (value, rest) => (c :: value, rest)

structure CharRange where
  first : Nat
  last : Nat

def CharRange.contains (range : CharRange) (n : Nat) : Bool :=
  range.first ≤ n && n ≤ range.last

end SqlEmit.Text
