import Mathlib.Data.List.TakeWhile
import SqlEmit.Json.Token
import SqlEmit.Json.Writer
import SqlEmit.Proofs.Digits

/-! A written JSON value is scanned into its tokens. A word ends only at the character behind it, so
a scan that has come to the end of a value may still hold its last token back. -/
namespace SqlEmit.Json

/-- Written as itself, without an escape. -/
def isBare (c : Char) : Bool :=
  (shortEscape c).isNone && !decide (c.toNat < 0x20)

/-- The spelling under which a string is written. -/
def spelled (s : String) : Spelling :=
  ⟨s, s.toList.all isBare, true⟩

mutual

def tokens : Json → List Token
  | .null => [.null]
  | .bool b => [.bool b]
  | .int n => [.int n]
  | .real text => [.real text]
  | .str s => [.str (spelled s)]
  | .arr items => .openBracket :: (itemTokens items ++ [.closeBracket])
  | .obj members _ => .openBrace :: (memberTokens members ++ [.closeBrace])
  | .illFormed => [.str ⟨"", false, false⟩]

def itemTokens : List Json → List Token
  | [] => []
  | [item] => item.tokens
  | item :: items => item.tokens ++ .comma :: itemTokens items

def memberTokens : List (String × Json) → List Token
  | [] => []
  | [(name, value)] => .str (spelled name) :: .colon :: value.tokens
  | (name, value) :: members =>
    .str (spelled name) :: .colon :: (value.tokens ++ .comma :: memberTokens members)

end

/-- Values that a text can show as they are. A number that is no plain integer is one word, and an
object knows whether its names need escapes. -/
inductive Exact : Json → Prop where
  | null : Exact .null
  | bool (b : Bool) : Exact (.bool b)
  | int (n : Int) : Exact (.int n)
  | real (text : String) (word : text.toList.all isWordChar = true)
      (number : readWord text.toList = some (.real text)) : Exact (.real text)
  | str (s : String) : Exact (.str s)
  | arr {items : List Json} (each : ∀ item ∈ items, Exact item) : Exact (.arr items)
  | obj {members : List (String × Json)} {plain : Bool} (each : ∀ m ∈ members, Exact m.2)
      (bare : plain = members.all (·.1.toList.all isBare)) : Exact (.obj members plain)
  | illFormed : Exact .illFormed

/-- The scanner has come to the end of these tokens, which are given last one first. -/
inductive Scan.Read : Scan → List Token → Prop where
  | blank (tokens : List Token) : Read ⟨.blank, tokens⟩ tokens
  | word {rev : List Char} {token : Token} (tokens : List Token)
      (is : readWord rev.reverse = some token) : Read ⟨.word rev, tokens⟩ (token :: tokens)

theorem Scan.Read.scanStep {s : Scan} {tokens : List Token} {c : Char} (read : s.Read tokens)
    (stop : isWordChar c = false) : scanStep s c = scanBlank tokens c := by
  cases read with
  | blank => rfl
  | word tokens is => simp [Json.scanStep, stop, is]

theorem Scan.Read.scanEnd {s : Scan} {tokens : List Token} (read : s.Read tokens) :
    scanEnd s = some tokens.reverse := by
  cases read with
  | blank => rfl
  | word tokens is => simp [Json.scanEnd, is]

/-- Between tokens, the characters are scanned as these tokens. -/
def Scans (cs : List Char) (tokens : List Token) : Prop :=
  ∀ before, ∃ s, cs.foldlM scanStep ⟨.blank, before⟩ = some s ∧ s.Read (tokens.reverse ++ before)

/-- A character that is a token by itself. -/
structure Marks (c : Char) (token : Token) : Prop where
  stop : isWordChar c = false
  single : ∀ tokens, scanBlank tokens c = some ⟨.blank, token :: tokens⟩

namespace Marks

theorem openBrace : Marks '\x7b' .openBrace := ⟨by decide, fun _ => rfl⟩

theorem closeBrace : Marks '\x7d' .closeBrace := ⟨by decide, fun _ => rfl⟩

theorem openBracket : Marks '[' .openBracket := ⟨by decide, fun _ => rfl⟩

theorem closeBracket : Marks ']' .closeBracket := ⟨by decide, fun _ => rfl⟩

theorem colon : Marks ':' .colon := ⟨by decide, fun _ => rfl⟩

theorem comma : Marks ',' .comma := ⟨by decide, fun _ => rfl⟩

end Marks

namespace Scans

theorem nil : Scans [] [] :=
  fun before => ⟨_, rfl, .blank before⟩

/-- A mark ends what stands before it. -/
theorem append_mark {cs rest : List Char} {c : Char} {ts later : List Token} {token : Token}
    (first : Scans cs ts) (mark : Marks c token) (second : Scans rest later) :
    Scans (cs ++ c :: rest) (ts ++ token :: later) := by
  intro before
  obtain ⟨s, scanned, read⟩ := first before
  obtain ⟨t, rescanned, reread⟩ := second (token :: (ts.reverse ++ before))
  refine ⟨t, ?_, by simpa using reread⟩
  have step : scanStep s c = some ⟨.blank, token :: (ts.reverse ++ before)⟩ :=
    (read.scanStep mark.stop).trans (mark.single _)
  simp [List.foldlM_append, List.foldlM_cons, scanned, step, rescanned]

theorem mark_cons {rest : List Char} {c : Char} {later : List Token} {token : Token}
    (mark : Marks c token) (second : Scans rest later) : Scans (c :: rest) (token :: later) :=
  nil.append_mark mark second

theorem scan_eq {cs : List Char} {ts : List Token} (scans : Scans cs ts) : scan cs = some ts := by
  obtain ⟨s, scanned, read⟩ := scans []
  rw [scan, scanned, Option.bind_some, read.scanEnd]
  simp

end Scans

theorem scanBlank_word {c : Char} (word : isWordChar c = true) (tokens : List Token) :
    scanBlank tokens c = some ⟨.word [c], tokens⟩ := by
  have other : ∀ d, isWordChar d = false → c ≠ d := fun _ => Text.ne_of_holds word
  have space : isSpace c = false := by
    simp [isSpace, other ' ' (by decide), other '\n' (by decide), other '\r' (by decide),
      other '\t' (by decide)]
  simp [scanBlank, word, space, other '\x7b' (by decide), other '\x7d' (by decide),
    other '[' (by decide), other ']' (by decide), other ':' (by decide), other ',' (by decide),
    other '"' (by decide)]

theorem foldlM_word {cs : List Char} (word : ∀ c ∈ cs, isWordChar c = true) (rev : List Char)
    (tokens : List Token) :
    cs.foldlM scanStep ⟨.word rev, tokens⟩ = some ⟨.word (cs.reverse ++ rev), tokens⟩ := by
  induction cs generalizing rev with
  | nil => rfl
  | cons c cs ih =>
    have step : scanStep ⟨.word rev, tokens⟩ c = some ⟨.word (c :: rev), tokens⟩ := by
      simp [scanStep, word c List.mem_cons_self]
    rw [List.foldlM_cons, step, Option.bind_eq_bind, Option.bind_some,
      ih (fun d mem => word d (List.mem_cons_of_mem c mem))]
    simp

theorem scans_word {cs : List Char} {token : Token} (word : cs.all isWordChar = true)
    (is : readWord cs = some token) : Scans cs [token] := by
  intro before
  rw [List.all_eq_true] at word
  cases cs with
  | nil =>
    have nothing : readWord [] = none := rfl
    cases nothing.symm.trans is
  | cons c cs =>
    refine ⟨⟨.word (cs.reverse ++ [c]), before⟩, ?_, .word before (by simpa using is)⟩
    rw [List.foldlM_cons]
    simp only [scanStep, scanBlank_word (word c List.mem_cons_self), Option.bind_eq_bind,
      Option.bind_some]
    exact foldlM_word (fun d mem => word d (List.mem_cons_of_mem c mem)) [c] before

theorem isWordChar_of_isDigit {c : Char} (digit : Text.isDigit c = true) : isWordChar c = true := by
  simp only [Text.isDigit] at digit
  simp [isWordChar, digit]

theorem readMagnitude_toDigits (negative : Bool) (word : String) (n : Nat) :
    readMagnitude negative word (Nat.toDigits 10 n) =
      if negative then if n = 0 then some (.real word) else some (.int (-(n : Int)))
      else some (.int n) := by
  have digits : ∀ c ∈ Nat.toDigits 10 n, Text.isDigit c = true :=
    fun _ mem => Text.isDigit_of_mem_toDigits mem
  have digitsOnly : (Nat.toDigits 10 n).takeWhile Text.isDigit = Nat.toDigits 10 n :=
    List.takeWhile_eq_self_iff.mpr digits
  have noTail : (Nat.toDigits 10 n).dropWhile Text.isDigit = [] :=
    List.dropWhile_eq_nil_iff.mpr digits
  have shape : ¬(Nat.toDigits 10 n = [] ∨
      ((Nat.toDigits 10 n).head? = some '0' ∧ 1 < (Nat.toDigits 10 n).length)) :=
    fun wrong => wrong.elim Nat.toDigits_ne_nil (Text.no_leading_zero n)
  simp only [readMagnitude, digitsOnly, noTail, if_neg shape, Text.digitsValue_toDigits]
  rfl

/-- The first character tells a number from the three names, and a positive number from a negative
one. -/
theorem readWord_of_isDigit {cs : List Char} (digits : ∀ c ∈ cs, Text.isDigit c = true)
    (nonempty : cs ≠ []) : readWord cs = readMagnitude false (String.ofList cs) cs := by
  cases cs with
  | nil => exact absurd rfl nonempty
  | cons c cs =>
    have digit := digits c List.mem_cons_self
    have other : ∀ d, Text.isDigit d = false → c ≠ d := fun _ => Text.ne_of_holds digit
    simp [readWord, other 'n' (by decide), other 't' (by decide), other 'f' (by decide),
      other '-' (by decide)]

theorem readWord_int (n : Int) : readWord (toString n).toList = some (.int n) := by
  rw [Text.toList_toString_int]
  split
  case isTrue nonneg =>
    rw [readWord_of_isDigit (fun _ mem => Text.isDigit_of_mem_toDigits mem) Nat.toDigits_ne_nil,
      readMagnitude_toDigits]
    simp [Int.toNat_of_nonneg nonneg]
  case isFalse negative =>
    have nonzero : (-n).toNat ≠ 0 := by omega
    have value : -((-n).toNat : Int) = n := by omega
    have word : ∀ cs, readWord ('-' :: cs) = readMagnitude true (String.ofList ('-' :: cs)) cs := by
      simp [readWord]
    rw [word, readMagnitude_toDigits, if_pos rfl, if_neg nonzero, value]

theorem isWordChar_int (n : Int) : (toString n).toList.all isWordChar = true := by
  rw [List.all_eq_true]
  have digits : ∀ k : Nat, ∀ c ∈ Nat.toDigits 10 k, isWordChar c = true :=
    fun _ _ mem => isWordChar_of_isDigit (Text.isDigit_of_mem_toDigits mem)
  rw [Text.toList_toString_int]
  split
  · exact digits _
  · exact List.forall_mem_cons.mpr ⟨by decide, digits _⟩

namespace Draft

/-- The draft with one more character, as it is written. -/
def write (draft : Draft) (c : Char) : Draft :=
  { draft with rev := c :: draft.rev, plain := draft.plain && isBare c }

end Draft

/-- The letter of a short escape stands for the character. -/
theorem unescape_shortEscape {c e : Char} (short : shortEscape c = some e) :
    e ≠ 'u' ∧ unescape e = some c := by
  have ofCode : ∀ n, c.toNat = n → some (Char.ofNat n) = some c := by
    rintro n rfl
    rw [Char.ofNat_toNat]
  simp only [shortEscape] at short
  split at short
  case isTrue self =>
    obtain rfl := Option.some.inj short
    rcases self with rfl | rfl <;> decide
  case isFalse =>
    repeat' split at short
    all_goals cases short
    all_goals first
      | (subst_vars; decide)
      | exact ⟨by decide, ofCode _ ‹_›⟩

theorem foldlM_hexDigits {n : Nat} (fits : n < 65536) (draft : Draft) (tokens : List Token) :
    (Text.hexDigits Text.lowerHexDigit 4 n).foldlM scanStep ⟨.unicode draft [], tokens⟩ =
      some ⟨.text (draft.pushUnit n), tokens⟩ := by
  have digit : ∀ k, Text.hexValue (Text.lowerHexDigit (k % 16)) = some (k % 16) :=
    fun k => Text.hexValue_lowerHexDigit _ (Nat.mod_lt k (by decide))
  have value : Text.readHex (Text.hexDigits Text.lowerHexDigit 4 n) = some n :=
    Text.readHex_hexDigits fits
  simp only [Text.hexDigits, List.nil_append, List.cons_append] at value ⊢
  simp [List.foldlM_cons, scanStep, digit, value]

theorem Draft.pushUnit_control {c : Char} (control : c.toNat < 0x20) {draft : Draft}
    (whole : draft.high = none) :
    draft.pushUnit c.toNat = { draft with rev := c :: draft.rev } := by
  have low : isHighSurrogate c.toNat = false ∧ isLowSurrogate c.toNat = false := by
    constructor
    · simp only [isHighSurrogate, Bool.and_eq_false_iff, decide_eq_false_iff_not]
      omega
    · simp only [isLowSurrogate, Bool.and_eq_false_iff, decide_eq_false_iff_not]
      omega
  simp [pushUnit, whole, low, push]

theorem foldlM_escapeChar (c : Char) {draft : Draft} (whole : draft.high = none)
    (tokens : List Token) :
    (escapeChar c).foldlM scanStep ⟨.text draft, tokens⟩ =
      some ⟨.text (draft.write c), tokens⟩ := by
  cases short : shortEscape c with
  | some e =>
    obtain ⟨other, back⟩ := unescape_shortEscape short
    simp [escapeChar, short, List.foldlM_cons, scanStep, other, back, Draft.push, whole,
      Draft.write, isBare]
  | none =>
    by_cases control : c.toNat < 0x20
    · have escape : scanStep ⟨.text draft, tokens⟩ '\\' =
          some ⟨.escape { draft with plain := false }, tokens⟩ := rfl
      have unicode : ∀ draft, scanStep ⟨.escape draft, tokens⟩ 'u' =
          some ⟨.unicode draft [], tokens⟩ := fun _ => rfl
      simp [escapeChar, short, control, List.foldlM_cons, escape, unicode,
        foldlM_hexDigits (Nat.lt_trans control (by decide)), Draft.pushUnit_control control, whole,
        Draft.write, isBare]
    · have ordinary : c ≠ '"' ∧ c ≠ '\\' := by
        constructor <;> (rintro rfl; cases short)
      simp [escapeChar, short, control, List.foldlM_cons, scanStep, ordinary, Draft.push, whole,
        Draft.write, isBare]

theorem foldlM_escapes (cs : List Char) {draft : Draft} (whole : draft.high = none)
    (tokens : List Token) :
    (cs.flatMap escapeChar).foldlM scanStep ⟨.text draft, tokens⟩ =
      some ⟨.text { draft with
        rev := cs.reverse ++ draft.rev, plain := draft.plain && cs.all isBare }, tokens⟩ := by
  induction cs generalizing draft with
  | nil => simp
  | cons c cs ih =>
    rw [List.flatMap_cons, List.foldlM_append, foldlM_escapeChar c whole, Option.bind_eq_bind,
      Option.bind_some, @ih (draft.write c) whole]
    simp [Draft.write, Bool.and_assoc]

theorem scans_string (s : String) : Scans (renderString s) [.str (spelled s)] := by
  intro before
  refine ⟨⟨.blank, .str (spelled s) :: before⟩, ?_, .blank _⟩
  have opened : scanStep ⟨.blank, before⟩ '"' = some ⟨.text .empty, before⟩ := rfl
  rw [renderString, List.cons_append, List.foldlM_cons, opened, Option.bind_eq_bind,
    Option.bind_some, List.foldlM_append, foldlM_escapes s.toList rfl]
  simp [List.foldlM_cons, scanStep, Draft.spelling, Draft.empty, spelled]

theorem scans_items {items : List Json}
    (each : ∀ item ∈ items, Scans item.renderChars item.tokens) :
    Scans (renderItems items) (itemTokens items) := by
  induction items with
  | nil => exact .nil
  | cons item items ih =>
    obtain ⟨first, others⟩ := List.forall_mem_cons.mp each
    cases items with
    | nil => exact first
    | cons next items => exact first.append_mark .comma (ih others)

theorem scans_members {members : List (String × Json)}
    (each : ∀ m ∈ members, Scans m.2.renderChars m.2.tokens) :
    Scans (renderMembers members) (memberTokens members) := by
  induction members with
  | nil => exact .nil
  | cons m members ih =>
    obtain ⟨name, value⟩ := m
    obtain ⟨first, others⟩ := List.forall_mem_cons.mp each
    cases members with
    | nil => exact (scans_string name).append_mark .colon first
    | cons next members =>
      have rest := first.append_mark .comma (ih others)
      simpa [renderMembers, memberTokens] using (scans_string name).append_mark .colon rest

/-- A written value is scanned as its tokens. -/
theorem scans_renderChars {json : Json} (shown : json.Exact) :
    Scans json.renderChars json.tokens := by
  induction shown with
  | null => exact scans_word (by decide) rfl
  | bool b => cases b <;> exact scans_word (by decide) rfl
  | int n => exact scans_word (isWordChar_int n) (readWord_int n)
  | real text word number => exact scans_word word number
  | str s => exact scans_string s
  | arr each ih =>
    have items := (scans_items ih).append_mark .closeBracket .nil
    exact .mark_cons .openBracket items
  | obj each bare ih =>
    have members := (scans_members ih).append_mark .closeBrace .nil
    exact .mark_cons .openBrace members
  | illFormed => exact fun before => ⟨_, rfl, .blank _⟩

end SqlEmit.Json
