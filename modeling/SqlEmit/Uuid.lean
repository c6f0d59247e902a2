import SqlEmit.Json
import SqlEmit.Text

/-! 128-bit identifiers, their written forms and the order in which the backends store them. -/
namespace SqlEmit

structure Uuid where
  timeLow : BitVec 32
  timeMid : BitVec 16
  timeHigh : BitVec 16
  clock : BitVec 16
  node : BitVec 48
  deriving DecidableEq, Inhabited

namespace Uuid

/-- The canonical form: lower-case digits in groups of 8, 4, 4, 4 and 12. -/
def text (u : Uuid) : String :=
  let digits := Text.hexDigits Text.lowerHexDigit
  String.ofList (digits 8 u.timeLow.toNat ++ '-' :: digits 4 u.timeMid.toNat ++
    '-' :: digits 4 u.timeHigh.toNat ++ '-' :: digits 4 u.clock.toNat ++
    '-' :: digits 12 u.node.toNat)

/-- Upper-case digits with the groups in stored order: fourth, fifth, third, second, first. -/
def storedHex (u : Uuid) : String :=
  let digits := Text.hexDigits Text.hexDigit
  String.ofList (digits 4 u.clock.toNat ++ digits 12 u.node.toNat ++
    digits 4 u.timeHigh.toNat ++ digits 4 u.timeMid.toNat ++ digits 8 u.timeLow.toNat)

def ofGroups (a b c d e : List Char) : Option Uuid := do
  let a ← Text.readHex a
  let b ← Text.readHex b
  let c ← Text.readHex c
  let d ← Text.readHex d
  let e ← Text.readHex e
  return ⟨BitVec.ofNat 32 a, BitVec.ofNat 16 b, BitVec.ofNat 16 c, BitVec.ofNat 16 d,
    BitVec.ofNat 48 e⟩

def ofSimple (cs : List Char) : Option Uuid :=
  if cs.length = 32 then
    ofGroups (cs.take 8) ((cs.drop 8).take 4) ((cs.drop 12).take 4) ((cs.drop 16).take 4)
      (cs.drop 20)
  else none

def ofHyphenated (cs : List Char) : Option Uuid :=
  if cs.length = 36 ∧ cs[8]? = some '-' ∧ cs[13]? = some '-' ∧ cs[18]? = some '-' ∧
      cs[23]? = some '-' then
    ofGroups (cs.take 8) ((cs.drop 9).take 4) ((cs.drop 14).take 4) ((cs.drop 19).take 4)
      (cs.drop 24)
  else none

def isUrn (cs : List Char) : Bool :=
  (cs.take 9).map Text.asciiLower == "urn:uuid:".toList

/-- The written forms: plain digits, hyphenated groups, and the groups in braces or after
`urn:uuid:`. -/
def ofChars (cs : List Char) : Option Uuid :=
  if cs.length = 32 then ofSimple cs
  else if cs.length = 36 then ofHyphenated cs
  else if cs.length = 38 ∧ cs.head? = some '\x7b' ∧ cs.getLast? = some '\x7d' then
    ofHyphenated (cs.drop 1).dropLast
  else if cs.length = 45 ∧ isUrn cs then ofHyphenated (cs.drop 9)
  else none

def parse (s : String) : Option Uuid :=
  ofChars s.toList

def toJson (u : Uuid) : Json :=
  .str u.text

def decode : Decoder Uuid :=
  fun n json => (Decoder.string n json).bind parse

end Uuid

end SqlEmit
