import SqlEmit.Error
import SqlEmit.Text
import SqlEmit.Uuid

/-! Values of literals: truth, uuids and entity references `{code:uuid}`. -/
namespace SqlEmit.Literal

def isTrue (text : String) : Bool :=
  Text.sameName text "true" || text = "1" || text = "0x01"

def isBrace (c : Char) : Bool :=
  c = '\x7b' || c = '\x7d'

/-- A uuid, with any number of braces around it. -/
def readUuid (text : String) : Except Error Uuid :=
  match Uuid.ofChars (Text.trimOf isBrace text.toList) with
  | some uuid => .ok uuid
  | none => .error (.invalidUuid text)

/-- A decimal number of 32 bits with at most one sign. -/
def readInt32 (cs : List Char) : Option Int32 :=
  (Text.readInt cs).bind fun n =>
    if -2147483648 ≤ n ∧ n ≤ 2147483647 then some (Int32.ofInt n) else none

def splitColon : List Char → Option (List Char × List Char)
  | [] => none
  | c :: cs =>
    if c = ':' then some ([], cs)
    else (splitColon cs).map fun (before, after) => (c :: before, after)

/-- The type code and identity of an entity reference. White space may stand around each part. -/
def readEntity (text : String) : Except Error (Int32 × Uuid) :=
  let inner := Text.dropEnd (· = '\x7d')
    (Text.dropStart (· = '\x7b') (Text.trimOf Text.isBlank text.toList))
  match splitColon inner with
  | none => .error (.invalidEntity text)
  | some (code, identity) =>
    match readInt32 (Text.trimOf Text.isBlank code) with
    | none => .error (.invalidTypeCode text)
    | some code => do
      let uuid ← readUuid (String.ofList (Text.trimOf Text.isBlank identity))
      return (code, uuid)

/-- The eight digits of a type code in two's complement. -/
def typeCodeHex (code : Int32) : String :=
  String.ofList (Text.hexDigits Text.hexDigit 8 code.toUInt32.toNat)

end SqlEmit.Literal
