import SqlEmit.Literal
import SqlEmit.Proofs.LetterCase
import SqlEmit.Proofs.Transport.Binding

/-! Entity literals `{code:identity}` are read back. White space may stand around both parts and around
the whole, and the identity may be written in any letter case. None of the characters of a code or an
identity is one of those that stand around them. -/
namespace SqlEmit

namespace Text

theorem dropStart_padding {p : Char → Bool} {pad cs : List Char} (drops : ∀ c ∈ pad, p c = true)
    (stops : ∀ c ∈ cs.head?, p c = false) : dropStart p (pad ++ cs) = cs := by
  rw [dropStart, List.dropWhile_append_of_pos drops]
  cases cs with
  | nil => rfl
  | cons c cs => exact List.dropWhile_cons_of_neg (by simp [stops c rfl])

theorem dropEnd_padding {p : Char → Bool} {cs pad : List Char} (drops : ∀ c ∈ pad, p c = true)
    (stops : ∀ c ∈ cs.getLast?, p c = false) : dropEnd p (cs ++ pad) = cs := by
  have reversed : dropStart p (pad.reverse ++ cs.reverse) = cs.reverse :=
    dropStart_padding (by simpa using drops) (by simpa using stops)
  rw [dropStart] at reversed
  rw [dropEnd, List.reverse_append, reversed, List.reverse_reverse]

theorem trimOf_padding {p : Char → Bool} {front cs back : List Char} (before : ∀ c ∈ front, p c = true)
    (after : ∀ c ∈ back, p c = true) (stops : ∀ c, c ∈ cs.head? ∨ c ∈ cs.getLast? → p c = false) :
    trimOf p (front ++ cs ++ back) = cs := by
  cases cs with
  | nil =>
    have all : ∀ c ∈ front ++ back, p c = true := by
      intro c mem
      exact (List.mem_append.mp mem).elim (before c) (after c)
    have nothing : dropStart p (front ++ back ++ []) = [] := dropStart_padding all (by simp)
    rw [List.append_nil] at nothing
    rw [trimOf, List.append_nil, nothing]
    rfl
  | cons c cs =>
    have opening : dropStart p (front ++ (c :: cs ++ back)) = c :: cs ++ back :=
      dropStart_padding before fun d first => stops d (.inl first)
    rw [trimOf, List.append_assoc, opening, dropEnd_padding after fun d last => stops d (.inr last)]

theorem trimOf_kept {p : Char → Bool} {front cs back : List Char} (before : ∀ c ∈ front, p c = true)
    (after : ∀ c ∈ back, p c = true) (keeps : ∀ c ∈ cs, p c = false) :
    trimOf p (front ++ cs ++ back) = cs :=
  trimOf_padding before after fun c ends =>
    keeps c (ends.elim List.mem_of_mem_head? List.mem_of_getLast?)

structure Blanks where
  text : String
  blank : ∀ c ∈ text.toList, isBlank c = true

def Blanks.none : Blanks := ⟨"", by simp⟩

theorem readInt_toString (n : Int) : readInt (toString n).toList = some n := by
  rw [toList_toString_int]
  split
  next nonneg =>
    have read := readNat_toDigits n.toNat
    have digits : ∀ c ∈ Nat.toDigits 10 n.toNat, isDigit c = true := fun _ => isDigit_of_mem_toDigits
    generalize Nat.toDigits 10 n.toNat = cs at read digits
    unfold readInt
    split
    · exact absurd (digits '-' (by simp)) (by decide)
    · exact absurd (digits '+' (by simp)) (by decide)
    · simp [read, Int.toNat_of_nonneg nonneg]
  next negative =>
    have magnitude : ((-n).toNat : Int) = -n := Int.toNat_of_nonneg (by omega)
    simp [readInt, readNat_toDigits, magnitude]

theorem hexValue_asciiLower (c : Char) : hexValue (asciiLower c) = hexValue c :=
  eq_of_asciiLower (by decide) c

theorem readHex_map_asciiLower (cs : List Char) : readHex (cs.map asciiLower) = readHex cs := by
  simp only [readHex, List.foldlM_map, hexValue_asciiLower]

end Text

namespace Uuid

theorem ofGroups_map_asciiLower (a b c d e : List Char) :
    ofGroups (a.map Text.asciiLower) (b.map Text.asciiLower) (c.map Text.asciiLower)
      (d.map Text.asciiLower) (e.map Text.asciiLower) = ofGroups a b c d e := by
  simp only [ofGroups, Text.readHex_map_asciiLower]

theorem ofHyphenated_map_asciiLower (cs : List Char) :
    ofHyphenated (cs.map Text.asciiLower) = ofHyphenated cs := by
  have hyphen (c : Char) : Text.asciiLower c = '-' ↔ c = '-' := Text.asciiLower_eq_iff (by decide)
  simp only [ofHyphenated, List.length_map, List.getElem?_map, Option.map_eq_some_iff, hyphen,
    exists_eq_right, ← List.map_drop, ← List.map_take, ofGroups_map_asciiLower]

theorem ofChars_map_asciiLower (cs : List Char) : ofChars (cs.map Text.asciiLower) = ofChars cs := by
  have opening (c : Char) : Text.asciiLower c = '\x7b' ↔ c = '\x7b' := Text.asciiLower_eq_iff (by decide)
  have closing (c : Char) : Text.asciiLower c = '\x7d' ↔ c = '\x7d' := Text.asciiLower_eq_iff (by decide)
  have simple : ofSimple (cs.map Text.asciiLower) = ofSimple cs := by
    simp only [ofSimple, List.length_map, ← List.map_drop, ← List.map_take, ofGroups_map_asciiLower]
  have urn : isUrn (cs.map Text.asciiLower) = isUrn cs := by
    simp only [isUrn, ← List.map_take, List.map_map, Function.comp_def, Text.asciiLower_asciiLower]
  simp only [ofChars, List.length_map, simple, urn, List.head?_map, List.getLast?_map, Option.map_eq_some_iff,
    opening, closing, exists_eq_right, ← List.map_drop, ← List.map_dropLast, ofHyphenated_map_asciiLower]

/-- The hyphenated form in any letter case. -/
structure Spelling (u : Uuid) where
  text : String
  same : Text.sameName text u.text = true

def Spelling.plain (u : Uuid) : u.Spelling := ⟨u.text, by simp [Text.sameName]⟩

theorem Spelling.read {u : Uuid} (spelling : u.Spelling) : ofChars spelling.text.toList = some u := by
  have canonical : ofChars u.text.toList = some u := u.parse_text
  rw [← ofChars_map_asciiLower, (Text.sameName_iff _ _).mp spelling.same, ofChars_map_asciiLower, canonical]

end Uuid

namespace Literal

/-- Characters that stand around the parts of an entity literal. -/
def isDelimiter (c : Char) : Bool :=
  Text.isBlank c || isBrace c || c = ':'

theorem not_delimiter {c : Char} (free : isDelimiter c = false) :
    Text.isBlank c = false ∧ isBrace c = false ∧ c ≠ ':' := by
  simp only [isDelimiter, Bool.or_eq_false_iff, decide_eq_false_iff_not] at free
  exact ⟨free.1.1, free.1.2, free.2⟩

theorem isDelimiter_of_toNat {c : Char}
    (inside : 45 ≤ c.toNat ∧ c.toNat ≤ 57 ∨ 97 ≤ c.toNat ∧ c.toNat ≤ 102) : isDelimiter c = false := by
  have apart (d : Char) (outside : 57 < d.toNat ∧ d.toNat < 97 ∨ 102 < d.toNat) : c ≠ d := by
    rintro rfl
    omega
  have blank : Text.isBlank c = false := Text.not_blank_of_visible (by omega)
  simp [isDelimiter, isBrace, blank, apart '\x7b' (by decide), apart '\x7d' (by decide),
    apart ':' (by decide)]

theorem isDelimiter_asciiLower (c : Char) : isDelimiter (Text.asciiLower c) = isDelimiter c :=
  Text.eq_of_asciiLower (by decide) c

theorem isDelimiter_code {n : Int} {c : Char} (mem : c ∈ (toString n).toList) : isDelimiter c = false :=
  isDelimiter_of_toNat (.inl (Text.toNat_of_mem_toString mem))

theorem isDelimiter_identity {identity : Uuid} {c : Char} (mem : c ∈ identity.text.toList) :
    isDelimiter c = false := by
  have digits {width n : Nat} (mem : c ∈ Text.hexDigits Text.lowerHexDigit width n) : isDelimiter c = false := by
    have each : ∀ k, k < 16 → isDelimiter (Text.lowerHexDigit k) = false := by decide
    obtain ⟨k, small, rfl⟩ := Text.of_mem_hexDigits mem
    exact each k small
  have hyphen : c = '-' → isDelimiter c = false := by
    rintro rfl
    decide
  simp only [Uuid.text, String.toList_ofList, List.mem_append, List.mem_cons] at mem
  rcases mem with (((low | h | mid) | h | high) | h | clock) | h | node
  all_goals first
    | exact hyphen h
    | exact digits ‹_›

theorem isDelimiter_spelling {identity : Uuid} (spelling : identity.Spelling) {c : Char}
    (mem : c ∈ spelling.text.toList) : isDelimiter c = false := by
  have lower : Text.asciiLower c ∈ identity.text.toList.map Text.asciiLower := by
    rw [← (Text.sameName_iff _ _).mp spelling.same]
    exact List.mem_map_of_mem mem
  obtain ⟨d, there, same⟩ := List.mem_map.mp lower
  rw [← isDelimiter_asciiLower c, ← same, isDelimiter_asciiLower, isDelimiter_identity there]

theorem not_delimiter_blank {c : Char} (blank : Text.isBlank c = true) : isBrace c = false ∧ c ≠ ':' := by
  have opening : c ≠ '\x7b' := Text.ne_of_holds blank (by decide)
  have closing : c ≠ '\x7d' := Text.ne_of_holds blank (by decide)
  exact ⟨by simp [isBrace, opening, closing], Text.ne_of_holds blank (by decide)⟩

theorem splitColon_append {before after : List Char} (plain : ':' ∉ before) :
    splitColon (before ++ ':' :: after) = some (before, after) := by
  induction before with
  | nil => rfl
  | cons c before ih =>
    have apart : c ≠ ':' := fun same => plain (by simp [same])
    have rest : ':' ∉ before := fun mem => plain (List.mem_cons_of_mem c mem)
    simp [splitColon, apart, ih rest]

theorem readUuid_spelling {identity : Uuid} (spelling : identity.Spelling) {front back : List Char}
    (before : ∀ c ∈ front, isBrace c = true) (after : ∀ c ∈ back, isBrace c = true) :
    readUuid (String.ofList (front ++ spelling.text.toList ++ back)) = .ok identity := by
  have kept : Text.trimOf isBrace (front ++ spelling.text.toList ++ back) = spelling.text.toList :=
    Text.trimOf_kept before after fun c mem => (not_delimiter (isDelimiter_spelling spelling mem)).2.1
  rw [readUuid, String.toList_ofList, kept, spelling.read]

theorem readUuid_bare {identity : Uuid} (spelling : identity.Spelling) :
    readUuid spelling.text = .ok identity := by
  have bare : readUuid (String.ofList ([] ++ spelling.text.toList ++ [])) = .ok identity :=
    readUuid_spelling spelling (by simp) (by simp)
  simpa using bare

theorem readInt32_toString (code : Int32) : readInt32 (toString code.toInt).toList = some code := by
  have inside : -2147483648 ≤ code.toInt ∧ code.toInt ≤ 2147483647 :=
    ⟨code.minValue_le_toInt, code.toInt_le⟩
  rw [readInt32, Text.readInt_toString, Option.bind_some, if_pos inside, Int32.ofInt_toInt]

/-- White space at the places of an entity literal where it may stand. -/
structure Padding where
  front : Text.Blanks
  beforeCode : Text.Blanks
  afterCode : Text.Blanks
  beforeIdentity : Text.Blanks
  afterIdentity : Text.Blanks
  back : Text.Blanks

def Padding.none : Padding := ⟨.none, .none, .none, .none, .none, .none⟩

/-- `{code:identity}` with white space. -/
def Padding.entity (pad : Padding) (code : Int32) (identity : String) : String :=
  pad.front.text ++ "\x7b" ++ pad.beforeCode.text ++ toString code.toInt ++ pad.afterCode.text ++ ":" ++
    pad.beforeIdentity.text ++ identity ++ pad.afterIdentity.text ++ "\x7d" ++ pad.back.text

/-- White space around the braces and the braces are taken off, and nothing between them is. -/
theorem dropBraces {front inner back : List Char} (before : ∀ c ∈ front, Text.isBlank c = true)
    (after : ∀ c ∈ back, Text.isBlank c = true) (free : ∀ c ∈ inner, isBrace c = false) :
    Text.dropEnd (· = '\x7d') (Text.dropStart (· = '\x7b')
      (Text.trimOf Text.isBlank (front ++ '\x7b' :: (inner ++ ['\x7d']) ++ back))) = inner := by
  have apart : ∀ c ∈ inner, c ≠ '\x7b' ∧ c ≠ '\x7d' := by
    intro c mem
    simpa [isBrace] using free c mem
  have trimmed : Text.trimOf Text.isBlank (front ++ '\x7b' :: (inner ++ ['\x7d']) ++ back) =
      ['\x7b'] ++ (inner ++ ['\x7d']) := by
    refine Text.trimOf_padding before after fun c ends => ?_
    rcases ends with first | last
    · obtain rfl : '\x7b' = c := by simpa using first
      decide
    · rw [← List.cons_append, List.getLast?_concat] at last
      obtain rfl : '\x7d' = c := by simpa using last
      decide
  have opened : Text.dropStart (· = '\x7b') (['\x7b'] ++ (inner ++ ['\x7d'])) = inner ++ ['\x7d'] := by
    refine Text.dropStart_padding (by simp) fun c first => ?_
    rcases List.mem_append.mp (List.mem_of_mem_head? first) with mem | last
    · exact decide_eq_false (apart c mem).1
    · rw [List.mem_singleton.mp last]
      decide
  rw [trimmed, opened]
  exact Text.dropEnd_padding (by simp) fun c last =>
    decide_eq_false (apart c (List.mem_of_getLast? last)).2

/-- A part with white space around it holds neither braces nor colons. -/
theorem not_mark_of_padded {before after : Text.Blanks} {cs : List Char} (free : ∀ c ∈ cs, isDelimiter c = false)
    {c : Char} (mem : c ∈ before.text.toList ++ cs ++ after.text.toList) : isBrace c = false ∧ c ≠ ':' := by
  simp only [List.mem_append] at mem
  rcases mem with (blank | inner) | blank
  · exact not_delimiter_blank (before.blank c blank)
  · exact (not_delimiter (free c inner)).2
  · exact not_delimiter_blank (after.blank c blank)

theorem trimOf_padded {before after : Text.Blanks} {cs : List Char} (free : ∀ c ∈ cs, isDelimiter c = false) :
    Text.trimOf Text.isBlank (before.text.toList ++ cs ++ after.text.toList) = cs :=
  Text.trimOf_kept before.blank after.blank fun c mem => (not_delimiter (free c mem)).1

theorem readEntity_padded (pad : Padding) (code : Int32) {identity : Uuid} (spelling : identity.Spelling) :
    readEntity (pad.entity code spelling.text) = .ok (code, identity) := by
  have digits : ∀ c ∈ (toString code.toInt).toList, isDelimiter c = false := fun c => isDelimiter_code
  have hex : ∀ c ∈ spelling.text.toList, isDelimiter c = false := fun c => isDelimiter_spelling spelling
  let first := pad.beforeCode.text.toList ++ (toString code.toInt).toList ++ pad.afterCode.text.toList
  let second := pad.beforeIdentity.text.toList ++ spelling.text.toList ++ pad.afterIdentity.text.toList
  have text : (pad.entity code spelling.text).toList =
      pad.front.text.toList ++ '\x7b' :: (first ++ ':' :: second ++ ['\x7d']) ++ pad.back.text.toList := by
    simp [Padding.entity, first, second]
  have free : ∀ c ∈ first ++ ':' :: second, isBrace c = false := by
    intro c mem
    rcases List.mem_append.mp mem with before | after
    · exact (not_mark_of_padded digits before).1
    · rcases List.mem_cons.mp after with rfl | after
      · decide
      · exact (not_mark_of_padded hex after).1
  -- The colon between the parts is the first one.
  have split : splitColon (first ++ ':' :: second) = some (first, second) :=
    splitColon_append fun mem => (not_mark_of_padded digits mem).2 rfl
  have front : Text.trimOf Text.isBlank first = (toString code.toInt).toList := trimOf_padded digits
  have back : Text.trimOf Text.isBlank second = spelling.text.toList := trimOf_padded hex
  simp only [readEntity, text, dropBraces pad.front.blank pad.back.blank free, split, front, back,
    readInt32_toString, String.ofList_toList, readUuid_bare]
  rfl

def entityText (code : Int32) (identity : Uuid) : String :=
  "\x7b" ++ toString code.toInt ++ ":" ++ identity.text ++ "\x7d"

theorem readEntity_entityText (code : Int32) (identity : Uuid) :
    readEntity (entityText code identity) = .ok (code, identity) := by
  have plain : entityText code identity = Padding.none.entity code (Uuid.Spelling.plain identity).text := by
    simp [entityText, Padding.entity, Padding.none, Text.Blanks.none, Uuid.Spelling.plain]
  rw [plain, readEntity_padded]

end Literal

end SqlEmit
