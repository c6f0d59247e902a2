import SqlEmit.Toml.Scalar

/-! Reading configuration documents: keys, values that hold values, lines. -/
namespace SqlEmit.Toml

/-- Parts that a key may have, and levels that arrays and tables may nest in a value. -/
def maxDepth : Nat := 79

def isBareChar (c : Char) : Bool :=
  ('a' ≤ c && c ≤ 'z') || ('A' ≤ c && c ≤ 'Z') || Text.isDigit c || c = '_' || c = '-'

def readKeyPart (cs : List Char) : Option (String × List Char) :=
  match cs with
  | '"' :: rest => (readBasic rest).map fun (value, rest) => (String.ofList value, rest)
  | '\x27' :: rest => (readPlain rest).map fun (value, rest) => (String.ofList value, rest)
  | cs =>
    let name := cs.takeWhile isBareChar
    if name.isEmpty then none else some (String.ofList name, cs.dropWhile isBareChar)

def readKey : Nat → List Char → Option (List String × List Char)
  | 0, _ => none
  | limit + 1, cs => do
    let (part, rest) ← readKeyPart (dropSpaces cs)
    match dropSpaces rest with
    | '.' :: rest => do
      let (parts, rest) ← readKey limit rest
      return (part :: parts, rest)
    | rest => return ([part], rest)

/-- Drops blanks, line ends and comments. -/
def dropTrivia (inComment : Bool) : List Char → List Char
  | [] => []
  | '\n' :: rest => dropTrivia false rest
  | '\r' :: '\n' :: rest => dropTrivia false rest
  | c :: rest =>
    if inComment then if isPrintable c then dropTrivia true rest else c :: rest
    else if isSpace c then dropTrivia false rest
    else if c = '#' then dropTrivia true rest
    else c :: rest

/-- The rest of an array, with at most `limit` items. A comma may follow the last one. -/
def readItems (readItem : List Char → Option (Node × List Char)) :
    Nat → List Char → Option (List Node × List Char)
  | 0, _ => none
  | limit + 1, cs =>
    match dropTrivia false cs with
    | ']' :: rest => some ([], rest)
    | cs => do
      let (item, rest) ← readItem cs
      match dropTrivia false rest with
      | ',' :: rest => do
        let (items, rest) ← readItems readItem limit rest
        return (item :: items, rest)
      | ']' :: rest => return ([item], rest)
      | _ => none

def readAssignment (readItem : List Char → Option (Node × List Char)) (cs : List Char) :
    Option ((List String × Node) × List Char) := do
  let (key, rest) ← readKey maxDepth cs
  let (node, rest) ← readItem (dropSpaces (← afterChar '=' rest))
  return ((key, node), rest)

/-- The rest of a table between braces that has an entry, with at most `limit` entries. -/
def readEntries (readItem : List Char → Option (Node × List Char)) :
    Nat → Entries → List Char → Option (Entries × List Char)
  | 0, _, _ => none
  | limit + 1, entries, cs => do
    let ((key, node), rest) ← readAssignment readItem cs
    let entries ← entries.assign key node .closed
    match dropSpaces rest with
    | ',' :: rest => readEntries readItem limit entries rest
    | '\x7d' :: rest => return (entries, rest)
    | _ => none

/-- A value that nests no deeper than `levels`. -/
def readValue : Nat → List Char → Option (Node × List Char)
  | levels + 1, '[' :: cs =>
    (readItems (readValue levels) cs.length cs).map fun (items, rest) => (.array items, rest)
  | levels + 1, '\x7b' :: cs =>
    match dropSpaces cs with
    | '\x7d' :: rest => some (.table .closed [], rest)
    | cs =>
      (readEntries (readValue levels) cs.length [] cs).map fun (entries, rest) =>
        (.table .closed entries, rest)
  | _, cs => readScalar cs

/-- What follows the end of a line that has a comment at most. -/
def afterLine (cs : List Char) : Option (List Char) :=
  match dropSpaces cs with
  | [] => some []
  | '#' :: comment =>
    match comment.dropWhile isPrintable with
    | [] => some []
    | rest => afterNewline rest
  | rest => afterNewline rest

def readLine : List Char → Option (Line × List Char)
  | '[' :: '[' :: cs => do
    let (path, rest) ← readKey maxDepth cs
    return (.repeatedHeader path, ← afterChar ']' (← afterChar ']' rest))
  | '[' :: cs => do
    let (path, rest) ← readKey maxDepth cs
    return (.header path, ← afterChar ']' rest)
  | cs => do
    let ((key, node), rest) ← readAssignment (readValue maxDepth) cs
    return (.assignment key node, rest)

/-- Adds the lines of a text, at most `limit` of them, to a document. -/
def readLines : Nat → Document → List Char → Option Document
  | _, doc, [] => some doc
  | 0, _, _ => none
  | limit + 1, doc, cs =>
    match afterLine cs with
    | some rest => readLines limit doc rest
    | none => do
      let (line, rest) ← readLine (dropSpaces cs)
      readLines limit (← doc.add line) (← afterLine rest)

/-- A byte order mark may stand before the first line. -/
def dropMark : List Char → List Char
  | c :: cs => if c.toNat = 0xFEFF then cs else c :: cs
  | [] => []

def parse (text : String) : Option Document :=
  let cs := dropMark text.toList
  readLines cs.length .empty cs

end SqlEmit.Toml
