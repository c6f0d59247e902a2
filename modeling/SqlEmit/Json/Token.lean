import SqlEmit.Json
import SqlEmit.Text

/-! Lexical structure of JSON texts. The scanner takes one character at a time; names and numbers
are collected as words and classified when they end. -/
namespace SqlEmit.Json

structure Spelling where
  value : String
  /-- Without escapes. -/
  plain : Bool
  /-- Without half of a surrogate pair. -/
  wellFormed : Bool

inductive Token where
  | openBrace | closeBrace | openBracket | closeBracket | colon | comma
  | null
  | bool (value : Bool)
  | int (value : Int)
  | real (text : String)
  | str (spelling : Spelling)

structure Draft where
  /-- The characters, last one first. -/
  rev : List Char
  plain : Bool
  wellFormed : Bool
  /-- A surrogate whose other half has to follow. -/
  high : Option Nat

/-- What the scanner is inside of; words are kept last character first. -/
inductive Mode where
  | blank
  | word (rev : List Char)
  | text (draft : Draft)
  | escape (draft : Draft)
  /-- `\u` escape with the digits read so far. -/
  | unicode (draft : Draft) (digits : List Char)

structure Scan where
  mode : Mode
  /-- Tokens read so far, last one first. -/
  tokens : List Token

def isWordChar (c : Char) : Bool :=
  ('a' ≤ c && c ≤ 'z') || ('A' ≤ c && c ≤ 'Z') || ('0' ≤ c && c ≤ '9') ||
    c == '+' || c == '-' || c == '.'

def isSpace (c : Char) : Bool :=
  c == ' ' || c == '\n' || c == '\r' || c == '\t'

/-- Fraction and exponent of a number, possibly none. -/
def isNumberTail (cs : List Char) : Bool :=
  let exponent (cs : List Char) : Bool :=
    match cs with
    | [] => true
    | e :: cs =>
      (e == 'e' || e == 'E') &&
        (match cs with
          | '+' :: ds => ds ≠ [] && ds.all Text.isDigit
          | '-' :: ds => ds ≠ [] && ds.all Text.isDigit
          | ds => ds ≠ [] && ds.all Text.isDigit)
  match cs with
  | '.' :: cs => cs.takeWhile Text.isDigit ≠ [] && exponent (cs.dropWhile Text.isDigit)
  | cs => exponent cs

/-- A number without its sign: no leading zero, at least one digit. -/
def readMagnitude (negative : Bool) (word : String) (cs : List Char) : Option Token :=
  let digits := cs.takeWhile Text.isDigit
  let tail := cs.dropWhile Text.isDigit
  if digits = [] ∨ (digits.head? = some '0' ∧ 1 < digits.length) then none
  else if tail = [] then
    let n := Text.digitsValue digits
    if negative then
      if n = 0 then some (.real word) else some (.int (-(n : Int)))
    else some (.int n)
  else if isNumberTail tail then some (.real word) else none

def readWord (cs : List Char) : Option Token :=
  if cs = ['n', 'u', 'l', 'l'] then some .null
  else if cs = ['t', 'r', 'u', 'e'] then some (.bool true)
  else if cs = ['f', 'a', 'l', 's', 'e'] then some (.bool false)
  else match cs with
    | '-' :: rest => readMagnitude true (String.ofList cs) rest
    | cs => readMagnitude false (String.ofList cs) cs

def isHighSurrogate (n : Nat) : Bool := 0xD800 ≤ n && n < 0xDC00

def isLowSurrogate (n : Nat) : Bool := 0xDC00 ≤ n && n < 0xE000

namespace Draft

def empty : Draft := ⟨[], true, true, none⟩

def spoil (draft : Draft) : Draft :=
  { draft with wellFormed := false, high := none }

/-- Adds a character, which is no half of a pair. -/
def push (draft : Draft) (c : Char) : Draft :=
  match draft.high with
  | none => { draft with rev := c :: draft.rev }
  | some _ => draft.spoil

/-- Adds a four-digit escape: a character or half of a pair. -/
def pushUnit (draft : Draft) (code : Nat) : Draft :=
  match draft.high with
  | none =>
    if isHighSurrogate code then { draft with high := some code }
    else if isLowSurrogate code then draft.spoil
    else draft.push (Char.ofNat code)
  | some high =>
    if isLowSurrogate code then
      { draft with
        rev := Char.ofNat (0x10000 + (high - 0xD800) * 0x400 + (code - 0xDC00)) :: draft.rev
        high := none }
    else draft.spoil

def spelling (draft : Draft) : Spelling :=
  ⟨String.ofList draft.rev.reverse, draft.plain, draft.wellFormed && draft.high.isNone⟩

end Draft

def scanBlank (tokens : List Token) (c : Char) : Option Scan :=
  if isSpace c then some ⟨.blank, tokens⟩
  else if c = '\x7b' then some ⟨.blank, .openBrace :: tokens⟩
  else if c = '\x7d' then some ⟨.blank, .closeBrace :: tokens⟩
  else if c = '[' then some ⟨.blank, .openBracket :: tokens⟩
  else if c = ']' then some ⟨.blank, .closeBracket :: tokens⟩
  else if c = ':' then some ⟨.blank, .colon :: tokens⟩
  else if c = ',' then some ⟨.blank, .comma :: tokens⟩
  else if c = '"' then some ⟨.text .empty, tokens⟩
  else if isWordChar c then some ⟨.word [c], tokens⟩
  else none

/-- The character that a backslash and this letter stand for. -/
def unescape (c : Char) : Option Char :=
  if c = '"' ∨ c = '\\' ∨ c = '/' then some c
  else if c = 'b' then some (Char.ofNat 8)
  else if c = 'f' then some (Char.ofNat 12)
  else if c = 'n' then some '\n'
  else if c = 'r' then some '\r'
  else if c = 't' then some '\t'
  else none

def scanStep (s : Scan) (c : Char) : Option Scan :=
  match s.mode with
  | .blank => scanBlank s.tokens c
  | .word rev =>
    if isWordChar c then some ⟨.word (c :: rev), s.tokens⟩
    else (readWord rev.reverse).bind fun token => scanBlank (token :: s.tokens) c
  | .text draft =>
    if c = '"' then some ⟨.blank, .str draft.spelling :: s.tokens⟩
    else if c = '\\' then some ⟨.escape { draft with plain := false }, s.tokens⟩
    else if c.toNat < 0x20 then none
    else some ⟨.text (draft.push c), s.tokens⟩
  | .escape draft =>
    if c = 'u' then some ⟨.unicode draft [], s.tokens⟩
    else (unescape c).map fun c => ⟨.text (draft.push c), s.tokens⟩
  | .unicode draft digits =>
    if digits.length < 3 then
      (Text.hexValue c).map fun _ => ⟨.unicode draft (digits ++ [c]), s.tokens⟩
    else
      (Text.readHex (digits ++ [c])).map fun code => ⟨.text (draft.pushUnit code), s.tokens⟩

def scanEnd (s : Scan) : Option (List Token) :=
  match s.mode with
  | .blank => some s.tokens.reverse
  | .word rev => (readWord rev.reverse).map fun token => (token :: s.tokens).reverse
  | _ => none

def scan (cs : List Char) : Option (List Token) :=
  (cs.foldlM scanStep ⟨.blank, []⟩).bind scanEnd

end SqlEmit.Json
