import SqlEmit.Json
import SqlEmit.Text

/-! Writing JSON texts, on one line or with one member a line. -/
namespace SqlEmit.Json

/-- The letter after the backslash for the characters with a short escape. -/
def shortEscape (c : Char) : Option Char :=
  if c = '"' ∨ c = '\\' then some c
  else if c = '\n' then some 'n'
  else if c = '\r' then some 'r'
  else if c = '\t' then some 't'
  else if c.toNat = 8 then some 'b'
  else if c.toNat = 12 then some 'f'
  else none

def escapeChar (c : Char) : List Char :=
  match shortEscape c with
  | some e => ['\\', e]
  | none =>
    if c.toNat < 0x20 then ['\\', 'u'] ++ Text.hexDigits Text.lowerHexDigit 4 c.toNat else [c]

def renderString (s : String) : List Char :=
  '"' :: s.toList.flatMap escapeChar ++ ['"']

mutual

/-- A value on one line. An ill-formed value has no text of its own and is written as half of a
surrogate pair. -/
def renderChars : Json → List Char
  | .null => "null".toList
  | .bool true => "true".toList
  | .bool false => "false".toList
  | .int n => (toString n).toList
  | .real text => text.toList
  | .str s => renderString s
  | .arr items => '[' :: renderItems items ++ [']']
  | .obj members _ => '\x7b' :: renderMembers members ++ ['\x7d']
  | .illFormed => "\"\\ud800\"".toList

def renderItems : List Json → List Char
  | [] => []
  | [item] => renderChars item
  | item :: items => renderChars item ++ ',' :: renderItems items

def renderMembers : List (String × Json) → List Char
  | [] => []
  | [(name, value)] => renderString name ++ ':' :: renderChars value
  | (name, value) :: members =>
    renderString name ++ ':' :: renderChars value ++ ',' :: renderMembers members

end

def render (json : Json) : String :=
  String.ofList (renderChars json)

def newLine (depth : Nat) : List Char :=
  '\n' :: List.replicate (2 * depth) ' '

mutual

def indentChars (depth : Nat) : Json → List Char
  | .arr [] => ['[', ']']
  | .arr items => '[' :: indentItems (depth + 1) items ++ newLine depth ++ [']']
  | .obj [] _ => ['\x7b', '\x7d']
  | .obj members _ => '\x7b' :: indentMembers (depth + 1) members ++ newLine depth ++ ['\x7d']
  | json => renderChars json

def indentItems (depth : Nat) : List Json → List Char
  | [] => []
  | [item] => newLine depth ++ indentChars depth item
  | item :: items => newLine depth ++ indentChars depth item ++ ',' :: indentItems depth items

def indentMembers (depth : Nat) : List (String × Json) → List Char
  | [] => []
  | [(name, value)] => newLine depth ++ renderString name ++ [':', ' '] ++ indentChars depth value
  | (name, value) :: members =>
    newLine depth ++ renderString name ++ [':', ' '] ++ indentChars depth value ++
      ',' :: indentMembers depth members

end

/-- The text of a value with two blanks of indentation a level. -/
def pretty (json : Json) : String :=
  String.ofList (indentChars 0 json)

end SqlEmit.Json
