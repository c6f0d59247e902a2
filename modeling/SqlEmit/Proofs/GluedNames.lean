import Mathlib.Data.List.Forall2
import SqlEmit.Emit.Call
import SqlEmit.Proofs.Digits
import SqlEmit.Proofs.LetterCase
import SqlEmit.Statement.UserType

/-! Names that are glued from parts with underscores. Two glued names are the same if their parts are, or if an
underscore of one part is taken for the one between the parts. The names of physical columns end in a part that
has no underscore, so they tell their parts; the names of parameters do not. -/
namespace SqlEmit

/-- Two texts around a separator are the same if their parts are, or if the separator stands in a part too: in
the first of one and the second of the other. -/
theorem Text.append_cons_eq_iff {separator : Char} {a b s t : List Char} :
    a ++ separator :: s = b ++ separator :: t ↔ (a = b ∧ s = t) ∨
      (∃ between, b = a ++ separator :: between ∧ s = between ++ separator :: t) ∨
      ∃ between, a = b ++ separator :: between ∧ t = between ++ separator :: s := by
  constructor
  · intro same
    rcases List.append_eq_append_iff.mp same with ⟨more, rfl, rest⟩ | ⟨more, rfl, rest⟩
    · cases more with
      | nil => exact .inl ⟨by simp, by simpa using rest⟩
      | cons c more =>
        obtain ⟨rfl, rfl⟩ := List.cons.inj rest
        exact .inr (.inl ⟨more, rfl, rfl⟩)
    · cases more with
      | nil => exact .inl ⟨by simp, by simpa using rest.symm⟩
      | cons c more =>
        obtain ⟨rfl, rfl⟩ := List.cons.inj rest
        exact .inr (.inr ⟨more, rfl, rfl⟩)
  · rintro (⟨rfl, rfl⟩ | ⟨between, rfl, rfl⟩ | ⟨between, rfl, rfl⟩) <;> simp

/-- A last part without the separator is told from what stands before it. -/
theorem Text.append_cons_inj {separator : Char} {a b s t : List Char} (last : separator ∉ s)
    (last' : separator ∉ t) (same : a ++ separator :: s = b ++ separator :: t) : a = b ∧ s = t := by
  rcases append_cons_eq_iff.mp same with parts | ⟨between, -, rfl⟩ | ⟨between, -, rfl⟩
  · exact parts
  · exact absurd (by simp) last
  · exact absurd (by simp) last'

/-- Two names differ at most in dots against underscores. -/
def Text.Blurs (a b : String) : Prop :=
  List.Forall₂ (fun c d => c = d ∨ c ∈ ['.', '_'] ∧ d ∈ ['.', '_']) a.toList b.toList

/-- The type codes of two entities share a parameter if their names differ at most in dots against
underscores. -/
theorem Call.typeParameter_eq_iff {a b : String} :
    typeParameter a = typeParameter b ↔ Text.Blurs a b := by
  unfold typeParameter Text.Blurs
  rw [String.append_right_inj, String.ofList_inj]
  generalize a.toList = cs
  generalize b.toList = ds
  induction cs generalizing ds with
  | nil => cases ds <;> simp
  | cons c cs ih =>
    cases ds with
    | nil => simp
    | cons d ds =>
      have blurred : (if c = '.' then '_' else c) = (if d = '.' then '_' else d) ↔
          c = d ∨ c ∈ ['.', '_'] ∧ d ∈ ['.', '_'] := by
        by_cases dot : c = '.' <;> by_cases dot' : d = '.' <;> simp_all [eq_comm]
      rw [List.map_cons, List.map_cons, List.cons.injEq, List.forall₂_cons, blurred, ih]

namespace MemberRef

def objectName (ref : MemberRef) : List Char :=
  if ref.object.toList.head? = some '@' then ref.object.toList.tail else ref.object.toList

theorem parameterName_toList (ref : MemberRef) :
    ref.parameterName.toList = '@' :: (ref.objectName ++ '_' :: ref.member.toList) := by
  unfold parameterName objectName
  split
  next signed =>
    obtain ⟨name, is⟩ := List.head?_eq_some_iff.mp signed
    simp [is]
  next => simp

/-- The object of `b` goes on with what the member of `a` starts with: `@order.line_id` and
`@order_line.id`. -/
def Overlaps (a b : MemberRef) : Prop :=
  ∃ between, b.objectName = a.objectName ++ '_' :: between ∧
    a.member.toList = between ++ '_' :: b.member.toList

/-- Two members share a parameter if they are the same member of the same object, or if one overlaps the
other. -/
theorem parameterName_eq_iff {a b : MemberRef} : a.parameterName = b.parameterName ↔
    (a.objectName = b.objectName ∧ a.member = b.member) ∨ a.Overlaps b ∨ b.Overlaps a := by
  rw [← String.toList_inj, parameterName_toList, parameterName_toList, List.cons.injEq,
    Text.append_cons_eq_iff, String.toList_inj]
  simp [Overlaps]

end MemberRef

namespace TypeColumnKind

/-- The suffixes of the physical columns: a letter for the kind of the type, or the code of the only type that
a reference has. -/
def suffixes : TypeColumnKind → List String
  | .reference code => ["R_" ++ toString code.toInt]
  | .primitive .boolean => ["L"]
  | .primitive .decimal => ["N"]
  | .primitive .dateTime => ["T"]
  | .primitive .string => ["S"]
  | .primitive .binary => ["B"]
  | .primitive .uuid => ["U"]
  | .primitive .entity => ["C", "R"]
  | .primitive .integer | .primitive .version => []

theorem suffixes_nodup (kind : TypeColumnKind) : kind.suffixes.Nodup := by
  cases kind with
  | reference code => simp [suffixes]
  | primitive type => cases type <;> decide

end TypeColumnKind

/-- A declared type has at least one physical column, one for each suffix of its kind. -/
theorem TypeName.parts_ok {dialect : Dialect} {type : TypeName} {kind : TypeColumnKind}
    {parts : List (String × String)} (ok : type.parts dialect kind = .ok parts) :
    parts ≠ [] ∧ parts.map (·.1) = kind.suffixes := by
  cases kind with
  | reference code =>
    obtain rfl := Except.ok.inj ok
    exact ⟨List.cons_ne_nil _ _, rfl⟩
  | primitive type =>
    cases type with
    | integer | version => cases ok
    | _ =>
      obtain rfl := Except.ok.inj ok
      exact ⟨List.cons_ne_nil _ _, rfl⟩

namespace CreateType

def kindLetters : List Char := ['L', 'N', 'T', 'S', 'B', 'U', 'C', 'R']

theorem suffix_cases {kind : TypeColumnKind} {suffix : String} (mem : suffix ∈ kind.suffixes) :
    (∃ letter ∈ kindLetters, suffix = String.singleton letter) ∨ ∃ code : Int, suffix = "R_" ++ toString code := by
  cases kind with
  | reference code => exact .inr ⟨code.toInt, List.mem_singleton.mp mem⟩
  | primitive type =>
    have known : ∀ suffix ∈ (TypeColumnKind.primitive type).suffixes,
        suffix ∈ kindLetters.map String.singleton := by
      cases type <;> decide
    obtain ⟨letter, kind, rfl⟩ := List.mem_map.mp (known suffix mem)
    exact .inl ⟨letter, kind, rfl⟩

/-- A letter as each backend has it. -/
def spelled (dialect : Dialect) (letter : Char) : Char :=
  dialect.pick letter (Text.asciiLower letter)

theorem spelled_cases (dialect : Dialect) : ∀ letter ∈ kindLetters, 57 < (spelled dialect letter).toNat ∧
    spelled dialect letter ≠ '_' ∧ ∀ other ∈ kindLetters, spelled dialect letter = spelled dialect other →
      letter = other := by
  have checked : (kindLetters.all fun letter => Nat.blt 57 (spelled dialect letter).toNat &&
      (spelled dialect letter != '_' && kindLetters.all fun other =>
        !(spelled dialect letter == spelled dialect other) || letter == other)) = true := by
    cases dialect <;> decide
  intro letter mem
  have one := List.all_eq_true.mp checked letter mem
  simp only [Bool.and_eq_true, Nat.blt_eq, bne_iff_ne, List.all_eq_true, Bool.or_eq_true,
    Bool.not_eq_true', beq_eq_false_iff_ne, beq_iff_eq] at one
  obtain ⟨above, mark, apart⟩ := one
  refine ⟨above, mark, fun other mem' same => ?_⟩
  exact (apart other mem').resolve_left fun differ => differ same

theorem physicalName_toList (dialect : Dialect) (name suffix : String) (ascii : ∀ c ∈ suffix.toList, c.toNat < 128) :
    (physicalName dialect name suffix).toList =
      '_' :: name.toList ++ '_' :: suffix.toList.map (spelled dialect) := by
  cases dialect with
  | sqlServer =>
    have kept : spelled .sqlServer = fun letter => letter := rfl
    simp [physicalName, Dialect.pick, kept]
  | postgres =>
    have moved : spelled .postgres = Text.asciiLower := rfl
    simp [physicalName, Dialect.pick, moved, Text.lower_ascii ascii]

theorem physicalName_letter (dialect : Dialect) (name : String) {letter : Char} (mem : letter ∈ kindLetters) :
    (physicalName dialect name (String.singleton letter)).toList =
      ('_' :: name.toList) ++ '_' :: [spelled dialect letter] := by
  have ascii : (kindLetters.all fun letter => Nat.blt letter.toNat 128) = true := by decide
  have small : letter.toNat < 128 := Nat.blt_eq.mp (List.all_eq_true.mp ascii letter mem)
  rw [physicalName_toList dialect name _ (by simpa using small)]
  simp

theorem physicalName_code (dialect : Dialect) (name : String) (code : Int) :
    (physicalName dialect name ("R_" ++ toString code)).toList =
      ('_' :: name.toList ++ ['_', spelled dialect 'R']) ++ '_' :: (toString code).toList := by
  have parts : ("R_" ++ toString code).toList = 'R' :: '_' :: (toString code).toList := by
    rw [String.toList_append]
    rfl
  have ascii : ∀ c ∈ ("R_" ++ toString code).toList, c.toNat < 128 := by
    simp only [parts, List.forall_mem_cons]
    exact ⟨by decide, by decide, fun c mem => Nat.lt_of_le_of_lt (Text.toNat_of_mem_toString mem).2 (by decide)⟩
  have kept : (toString code).toList.map (spelled dialect) = (toString code).toList := by
    refine (List.map_congr_left fun c mem => ?_).trans (List.map_id _)
    have small : ¬('A' ≤ c ∧ c ≤ 'Z') := fun letter =>
      absurd (Nat.le_trans letter.1 (Text.toNat_of_mem_toString mem).2) (by decide)
    cases dialect with
    | sqlServer => rfl
    | postgres => exact if_neg small
  have underscore : spelled dialect '_' = '_' := by cases dialect <;> rfl
  rw [physicalName_toList dialect name _ ascii, parts, List.map_cons, List.map_cons, kept, underscore]
  simp

/-- The name of a physical column tells the declared name and the suffix. -/
theorem physicalName_inj {dialect : Dialect} {kind kind' : TypeColumnKind} {name name' suffix suffix' : String}
    (mem : suffix ∈ kind.suffixes) (mem' : suffix' ∈ kind'.suffixes)
    (same : physicalName dialect name suffix = physicalName dialect name' suffix') :
    name = name' ∧ suffix = suffix' := by
  have chars := congrArg String.toList same
  have plain {letter : Char} (known : letter ∈ kindLetters) : '_' ∉ [spelled dialect letter] := by
    simpa [eq_comm] using (spelled_cases dialect letter known).2.1
  have code (n : Int) : '_' ∉ (toString n).toList := fun mem =>
    absurd (Text.toNat_of_mem_toString mem).2 (by decide)
  -- a letter is no type code, neither in upper nor in lower case
  have apart {letter : Char} (known : letter ∈ kindLetters) (n : Int) :
      [spelled dialect letter] ≠ (toString n).toList := by
    intro is
    have digit := Text.toNat_of_mem_toString (is ▸ List.mem_singleton_self _)
    exact absurd digit.2 (Nat.not_le_of_lt (spelled_cases dialect letter known).1)
  rcases suffix_cases mem with ⟨letter, known, rfl⟩ | ⟨n, rfl⟩
  · rcases suffix_cases mem' with ⟨letter', known', rfl⟩ | ⟨n', rfl⟩
    · rw [physicalName_letter dialect name known, physicalName_letter dialect name' known'] at chars
      obtain ⟨front, last⟩ := Text.append_cons_inj (plain known) (plain known') chars
      have kinds := (spelled_cases dialect letter known).2.2 letter' known' (List.singleton_inj.mp last)
      exact ⟨String.toList_inj.mp (List.cons.inj front).2, by rw [kinds]⟩
    · rw [physicalName_letter dialect name known, physicalName_code] at chars
      exact absurd (Text.append_cons_inj (plain known) (code n') chars).2 (apart known n')
  · rcases suffix_cases mem' with ⟨letter', known', rfl⟩ | ⟨n', rfl⟩
    · rw [physicalName_code, physicalName_letter dialect name' known'] at chars
      exact absurd (Text.append_cons_inj (code n) (plain known') chars).2.symm (apart known' n)
    · rw [physicalName_code, physicalName_code] at chars
      obtain ⟨front, last⟩ := Text.append_cons_inj (code n) (code n') chars
      have names := List.append_cancel_right (List.cons.inj front).2
      exact ⟨String.toList_inj.mp names, by rw [String.toList_inj.mp last]⟩

end CreateType

end SqlEmit
