import SqlEmit.Dict
import SqlEmit.Text

/-! JSON values, and reading typed values out of them. Members keep their order and repetitions, and a number
that is not written as a plain integer keeps its text. Half of a surrogate pair stands for no character: such a
value has its place in a document, but nothing can be read from it.

A record is an object with its field names or an array of its fields in order; a variant is its name, or an
object with its name as the only member. Every container that is read costs one level of the nesting allowance;
members that no field asks for are not looked at. -/
namespace SqlEmit

inductive Json where
  | null
  | bool (value : Bool)
  | int (value : Int)
  | real (text : String)
  | str (value : String)
  | arr (items : List Json)
  /-- The names of a `plain` object are written without escapes. -/
  | obj (members : List (String × Json)) (plain : Bool := true)
  /-- A string with half of a surrogate pair, or an object with such a name. -/
  | illFormed

namespace Json

def isNull : Json → Bool
  | .null => true
  | _ => false

def member? (name : String) : Json → Option Json
  | .obj members _ => (members.find? (·.1 == name)).map (·.2)
  | _ => none

def ofOption (write : α → Json) : Option α → Json
  | none => .null
  | some a => write a

def ofList (write : α → Json) (items : List α) : Json :=
  .arr (items.map write)

end Json

/-- Reads a value that nests no deeper than the allowance. -/
abbrev Decoder (α : Type) := Nat → Json → Option α

namespace Decoder

/-- Levels of objects and arrays that a document may nest. -/
def maxNesting : Nat := 127

def bool : Decoder Bool
  | _, .bool b => some b
  | _, _ => none

def string : Decoder String
  | _, .str s => some s
  | _, _ => none

def int (low high : Int) : Decoder Int
  | _, .int n => if low ≤ n ∧ n ≤ high then some n else none
  | _, _ => none

def uint32 : Decoder UInt32 :=
  fun n json => (int 0 4294967295 n json).map fun i => UInt32.ofNat i.toNat

def int32 : Decoder Int32 :=
  fun n json => (int (-2147483648) 2147483647 n json).map Int32.ofInt

def int64 : Decoder Int64 :=
  fun n json => (int (-9223372036854775808) 9223372036854775807 n json).map Int64.ofInt

/-- `null` stands for no value. -/
def option (decode : Decoder α) : Decoder (Option α)
  | _, .null => some none
  | n, json => (decode n json).map some

def list (decode : Decoder α) : Decoder (List α)
  | n + 1, .arr items => items.mapM (decode n)
  | _, _ => none

/-- Members as a table. The last of several members with one key wins. -/
def table [DecidableEq κ] (key : String → Option κ) (value : Json → Option α)
    (members : List (String × Json)) : Option (Dict κ α) :=
  (members.mapM fun (name, json) => do return (← key name, ← value json)).map Dict.ofList

def dict (decode : Decoder α) : Decoder (Dict String α)
  | n + 1, .obj members _ => table some (decode n) members
  | _, _ => none

/-- An object as a table whose keys are numbers. Numbers have no escapes. -/
def numbered [DecidableEq κ] (key : String → Option κ) (decode : Decoder α) : Decoder (Dict κ α)
  | n + 1, .obj members true => table key (decode n) members
  | _, _ => none

inductive Field where
  | given (value : Json)
  /-- An object without a member of that name. -/
  | missing
  /-- An array that ends before the field. -/
  | cut

namespace Field

def required (decode : Decoder α) (n : Nat) : Field → Option α
  | .given json => decode n json
  | _ => none

def orElse (value : α) (decode : Decoder α) (n : Nat) : Field → Option α
  | .given json => decode n json
  | _ => some value

def optional (decode : Decoder α) (n : Nat) : Field → Option (Option α) :=
  orElse none (option decode) n

/-- An optional field that an array must still contain. -/
def nullable (decode : Decoder α) (n : Nat) : Field → Option (Option α)
  | .given json => option decode n json
  | .missing => some none
  | .cut => none

end Field

def objectFields (names : List String) (members : List (String × Json)) : Option (List Field) :=
  if names.all fun name => (members.filter (·.1 == name)).length ≤ 1 then
    some (names.map fun name =>
      match members.find? (·.1 == name) with
      | some (_, value) => .given value
      | none => .missing)
  else none

def arrayFields (names : List String) (items : List Json) : Option (List Field) :=
  if items.length ≤ names.length then
    some (items.map .given ++ List.replicate (names.length - items.length) .cut)
  else none

/-- A record with the named fields, in their order. A field may not be given twice. -/
def record (names : List String) (read : Nat → List Field → Option α) : Decoder α
  | n + 1, .obj members _ => (objectFields names members).bind (read n)
  | n + 1, .arr items => (arrayFields names items).bind (read n)
  | _, _ => none

def variant (read : Nat → String → Option Json → Option α) : Decoder α
  | n, .str name => read n name none
  | n + 1, .obj [(name, content)] _ => read n name (some content)
  | _, _ => none

def plain (value : α) : Option Json → Option α
  | none | some .null => some value
  | _ => none

def wrapped (decode : Decoder α) (n : Nat) : Option Json → Option α
  | some json => decode n json
  | none => none

def choice (values : List (String × α)) : Decoder α :=
  variant fun _ name content =>
    match values.find? (·.1 == name) with
    | some (_, value) => plain value content
    | none => none

end Decoder

class Named (α : Type) where
  all : List α
  name : α → String

namespace Named

variable {α : Type} [Named α]

def toJson (a : α) : Json :=
  .str (name a)

def decode : Decoder α :=
  Decoder.choice (all.map fun a => (name a, a))

end Named

end SqlEmit
