import SqlEmit.Dialect
import SqlEmit.Proofs.EntityText

/-! Entity references as they are stored: the type code in two's complement and the identity with its
groups in stored order, both in hexadecimal digits of a fixed width. Both are read back from their
digits, so references that differ are stored differently. -/
namespace SqlEmit

namespace Text

def isUpperHex (c : Char) : Bool :=
  isDigit c || 'A' ≤ c && c ≤ 'F'

theorem isUpperHex_of_mem_hexDigits {width n : Nat} {c : Char} (mem : c ∈ hexDigits hexDigit width n) :
    isUpperHex c = true := by
  have each : ∀ k, k < 16 → isUpperHex (hexDigit k) = true := by decide
  obtain ⟨k, small, rfl⟩ := of_mem_hexDigits mem
  exact each k small

/-- Digits of both cases differ in nothing else. -/
theorem map_asciiLower_hexDigits (width n : Nat) :
    (hexDigits hexDigit width n).map asciiLower = (hexDigits lowerHexDigit width n).map asciiLower := by
  have each : ∀ k, k < 16 → asciiLower (hexDigit k) = asciiLower (lowerHexDigit k) := by decide
  induction width generalizing n with
  | zero => rfl
  | succ width ih => simp [hexDigits, ih, each (n % 16) (Nat.mod_lt n (by decide))]

theorem readHex_upper {width n : Nat} (fits : n < Nat.pow 16 width) :
    readHex (hexDigits hexDigit width n) = some n := by
  rw [← readHex_map_asciiLower, map_asciiLower_hexDigits, readHex_map_asciiLower, readHex_hexDigits fits]

/-- The number that 32 bits stand for in two's complement. -/
def twosComplement (bits : Nat) : Int :=
  if bits < 2147483648 then bits else bits - 4294967296

end Text

namespace Uuid

/-- The hyphenated form of digits that stand in stored order. -/
def hyphenate (stored : List Char) : List Char :=
  stored.drop 24 ++ '-' :: (stored.drop 20).take 4 ++ '-' :: (stored.drop 16).take 4 ++
    '-' :: stored.take 4 ++ '-' :: (stored.drop 4).take 12

theorem hyphenate_groups (a : List Char) {b c d e : List Char} (hb : b.length = 4) (hc : c.length = 4)
    (hd : d.length = 4) (he : e.length = 12) :
    hyphenate (d ++ e ++ c ++ b ++ a) = a ++ '-' :: b ++ '-' :: c ++ '-' :: d ++ '-' :: e := by
  simp [hyphenate, List.drop_append, List.drop_eq_nil_of_le, hb, hc, hd, he]

theorem sameName_hyphenate (u : Uuid) :
    Text.sameName (String.ofList (hyphenate u.storedHex.toList)) u.text = true := by
  rw [Text.sameName_iff, storedHex, text, String.toList_ofList, String.toList_ofList, String.toList_ofList,
    hyphenate_groups]
  · simp [Text.map_asciiLower_hexDigits]
  all_goals exact Text.length_hexDigits _ _ _

theorem parse_hyphenate (u : Uuid) : parse (String.ofList (hyphenate u.storedHex.toList)) = some u :=
  Spelling.read ⟨_, u.sameName_hyphenate⟩

theorem length_storedHex (u : Uuid) : u.storedHex.toList.length = 32 := by
  simp [storedHex]

theorem isUpperHex_storedHex (u : Uuid) : ∀ c ∈ u.storedHex.toList, Text.isUpperHex c = true := by
  intro c mem
  simp only [storedHex, String.toList_ofList, List.mem_append] at mem
  rcases mem with (((clock | node) | high) | mid) | low
  all_goals exact Text.isUpperHex_of_mem_hexDigits ‹_›

end Uuid

namespace Literal

theorem readHex_typeCodeHex (code : Int32) :
    Text.readHex (typeCodeHex code).toList = some code.toUInt32.toNat := by
  rw [typeCodeHex, String.toList_ofList, Text.readHex_upper code.toUInt32.toNat_lt]

theorem twosComplement_toNat (code : Int32) : Text.twosComplement code.toUInt32.toNat = code.toInt := by
  have signed : code.toInt = code.toUInt32.toBitVec.toInt := rfl
  have bits : code.toUInt32.toBitVec.toNat = code.toUInt32.toNat := rfl
  rw [signed, BitVec.toInt_eq_toNat_cond, Text.twosComplement, bits]
  split <;> split <;> omega

theorem isUpperHex_typeCodeHex (code : Int32) : ∀ c ∈ (typeCodeHex code).toList, Text.isUpperHex c = true := by
  intro c mem
  rw [typeCodeHex, String.toList_ofList] at mem
  exact Text.isUpperHex_of_mem_hexDigits mem

theorem length_typeCodeHex (code : Int32) : (typeCodeHex code).toList.length = 8 := by
  simp [typeCodeHex]

theorem typeCodeHex_inj {a b : Int32} : typeCodeHex a = typeCodeHex b ↔ a = b := by
  refine ⟨fun same => ?_, fun same => by rw [same]⟩
  have read := readHex_typeCodeHex a
  rw [same, readHex_typeCodeHex b, Option.some.injEq] at read
  rw [← Int32.toInt_inj, ← twosComplement_toNat a, ← twosComplement_toNat b, read]

end Literal

theorem Uuid.storedHex_inj {a b : Uuid} : a.storedHex = b.storedHex ↔ a = b := by
  refine ⟨fun same => ?_, fun same => by rw [same]⟩
  have read := a.parse_hyphenate
  rw [same, b.parse_hyphenate, Option.some.injEq] at read
  exact read.symm

theorem Dialect.bytesLiteral_inj {dialect : Dialect} {a b : String} :
    dialect.bytesLiteral a = dialect.bytesLiteral b ↔ a = b := by
  cases dialect <;> simp [bytesLiteral, pick, ← String.toList_inj]

namespace Literal

/-- The type code and the identity as a backend takes them for the columns of a reference. -/
def storedPair (dialect : Dialect) (code : Int32) (identity : Uuid) : String × String :=
  (dialect.bytesLiteral (typeCodeHex code), dialect.uuidLiteral identity)

/-- An entity literal is read as its code and identity whatever white space it holds and whichever
letters are capital, and so is a uuid literal with or without braces. The stored digits of both are
upper-case hexadecimal of a fixed width and give the identity and the code back, so no two references
are stored alike. -/
theorem encoding_survives (code : Int32) (identity : Uuid) (spelling : identity.Spelling) (pad : Padding)
    (dialect : Dialect) (otherCode : Int32) (otherIdentity : Uuid) :
    readEntity (pad.entity code spelling.text) = .ok (code, identity) ∧
    readUuid spelling.text = .ok identity ∧
    readUuid ("\x7b" ++ spelling.text ++ "\x7d") = .ok identity ∧
    (identity.storedHex.toList.length = 32 ∧ (∀ c ∈ identity.storedHex.toList, Text.isUpperHex c = true) ∧
      Uuid.parse (String.ofList (Uuid.hyphenate identity.storedHex.toList)) = some identity) ∧
    ((typeCodeHex code).toList.length = 8 ∧ (∀ c ∈ (typeCodeHex code).toList, Text.isUpperHex c = true) ∧
      (Text.readHex (typeCodeHex code).toList).map Text.twosComplement = some code.toInt) ∧
    (storedPair dialect code identity = storedPair dialect otherCode otherIdentity ↔
      (code, identity) = (otherCode, otherIdentity)) := by
  refine ⟨readEntity_padded pad code spelling, readUuid_bare spelling, ?_,
    ⟨identity.length_storedHex, identity.isUpperHex_storedHex, identity.parse_hyphenate⟩,
    ⟨length_typeCodeHex code, isUpperHex_typeCodeHex code, ?_⟩, ?_⟩
  · have braces : readUuid (String.ofList (['\x7b'] ++ spelling.text.toList ++ ['\x7d'])) = .ok identity :=
      readUuid_spelling spelling (by simp [isBrace]) (by simp [isBrace])
    simpa [String.append_assoc] using braces
  · rw [readHex_typeCodeHex, Option.map_some, twosComplement_toNat]
  · simp only [storedPair, Dialect.uuidLiteral, Prod.mk.injEq, Dialect.bytesLiteral_inj, typeCodeHex_inj,
      Uuid.storedHex_inj]

end Literal

end SqlEmit
