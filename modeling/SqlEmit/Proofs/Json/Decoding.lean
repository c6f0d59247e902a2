import SqlEmit.Json
import SqlEmit.Proofs.Json.Scanning

/-! What a decoder reads from the value that was written for it. Each combinator of decoders has one
lemma: if the parts are read back, the whole is. A value that nests deeper than the allowance is
refused, so what is said about a decoder is one equation for both cases. -/
namespace SqlEmit

namespace Json

mutual

def nesting : Json → Nat
  | .arr items => itemsNesting items + 1
  | .obj members _ => membersNesting members + 1
  | _ => 0

def itemsNesting : List Json → Nat
  | [] => 0
  | item :: items => max item.nesting (itemsNesting items)

def membersNesting : List (String × Json) → Nat
  | [] => 0
  | (_, value) :: members => max value.nesting (membersNesting members)

end

theorem itemsNesting_le {items : List Json} {n : Nat} :
    itemsNesting items ≤ n ↔ ∀ item ∈ items, item.nesting ≤ n := by
  induction items with
  | nil => simp [itemsNesting]
  | cons item items ih => rw [itemsNesting, Nat.max_le, ih, List.forall_mem_cons]

theorem membersNesting_eq (members : List (String × Json)) :
    membersNesting members = itemsNesting (members.map (·.2)) := by
  induction members with
  | nil => rfl
  | cons m members ih => rw [membersNesting, ih, List.map_cons, itemsNesting]

/-- A name that is written without escapes. -/
def IsBareName (name : String) : Prop :=
  name.toList.all isBare = true

instance (name : String) : Decidable (IsBareName name) :=
  inferInstanceAs (Decidable (_ = true))

def FieldNames (names : List String) : Prop :=
  names.Nodup ∧ ∀ name ∈ names, IsBareName name

instance (names : List String) : Decidable (FieldNames names) :=
  inferInstanceAs (Decidable (_ ∧ _))

theorem exact_obj {members : List (String × Json)} (bare : ∀ m ∈ members, IsBareName m.1)
    (each : ∀ m ∈ members, m.2.Exact) : (Json.obj members).Exact :=
  .obj each (List.all_eq_true.mpr bare).symm

end Json

open Json

namespace Decoder

/-- The value can be shown as a text, and with every allowance below the limit the decoder takes it
for `a`, unless it nests deeper than that. -/
structure Reads (limit : Nat) (decode : Decoder α) (json : Json) (a : α) : Prop where
  shown : json.Exact
  present : json ≠ .null
  decoded : ∀ n, n < limit → decode n json = if json.nesting ≤ n then some a else none

/-- The same for what a record does with one of its fields. -/
structure Gives (limit : Nat) (take : Nat → Field → Option α) (json : Json) (a : α) : Prop where
  shown : json.Exact
  given : ∀ n, n < limit → take n (.given json) = if json.nesting ≤ n then some a else none

section Fields

variable {limit : Nat} {decode : Decoder α} {json : Json} {a : α}

theorem Reads.required (reads : decode.Reads limit json a) :
    Gives limit (Field.required decode) json a :=
  ⟨reads.shown, reads.decoded⟩

theorem Reads.orElse (reads : decode.Reads limit json a) (value : α) :
    Gives limit (Field.orElse value decode) json a :=
  ⟨reads.shown, reads.decoded⟩

theorem exact_ofOption {write : α → Json} {o : Option α}
    (reads : ∀ a ∈ o, decode.Reads limit (write a) a) : (Json.ofOption write o).Exact := by
  cases o with
  | none => exact .null
  | some a => exact (reads a rfl).shown

/-- What is written is never taken for an absent value. -/
theorem option_ofOption {write : α → Json} {o : Option α}
    (reads : ∀ a ∈ o, decode.Reads limit (write a) a) {n : Nat} (within : n < limit) :
    option decode n (Json.ofOption write o) =
      if (Json.ofOption write o).nesting ≤ n then some o else none := by
  cases o with
  | none => simp [Json.ofOption, nesting, option]
  | some a =>
    have read := reads a rfl
    have present := read.present
    have skip : option decode n (write a) = (decode n (write a)).map some := by
      cases value : write a with
      | null => exact absurd value present
      | _ => rfl
    rw [Json.ofOption, skip, read.decoded n within]
    split <;> rfl

theorem Gives.optional {write : α → Json} (o : Option α)
    (reads : ∀ a ∈ o, decode.Reads limit (write a) a) :
    Gives limit (Field.optional decode) (Json.ofOption write o) o :=
  ⟨exact_ofOption reads, fun _ => option_ofOption reads⟩

theorem Gives.nullable {write : α → Json} (o : Option α)
    (reads : ∀ a ∈ o, decode.Reads limit (write a) a) :
    Gives limit (Field.nullable decode) (Json.ofOption write o) o :=
  ⟨exact_ofOption reads, fun _ => option_ofOption reads⟩

end Fields

section Containers

variable {limit : Nat}

theorem find?_of_mem {entries : List (String × α)} (nodup : (entries.map (·.1)).Nodup)
    {entry : String × α} (mem : entry ∈ entries) :
    entries.find? (·.1 == entry.1) = some entry := by
  induction entries with
  | nil => cases mem
  | cons first entries ih =>
    obtain ⟨fresh, nodup⟩ := List.nodup_cons.mp nodup
    rcases List.mem_cons.mp mem with rfl | later
    · simp
    · have other : first.1 ≠ entry.1 :=
        fun same => fresh (List.mem_map.mpr ⟨entry, later, same.symm⟩)
      simp [other, ih nodup later]

theorem length_filter_le_one {members : List (String × Json)}
    (nodup : (members.map (·.1)).Nodup) (name : String) :
    (members.filter (·.1 == name)).length ≤ 1 := by
  induction members with
  | nil => simp
  | cons first members ih =>
    obtain ⟨fresh, nodup⟩ := List.nodup_cons.mp nodup
    by_cases is : first.1 = name
    · have others : members.filter (·.1 == name) = [] := by
        refine List.filter_eq_nil_iff.mpr fun m mem same => fresh ?_
        exact List.mem_map.mpr ⟨m, mem, (eq_of_beq same).trans is.symm⟩
      simp [is, others]
    · simpa [is] using ih nodup

/-- An object with one member for each name gives every field. -/
theorem objectFields_members {members : List (String × Json)}
    (nodup : (members.map (·.1)).Nodup) :
    objectFields (members.map (·.1)) members = some (members.map fun m => .given m.2) := by
  have single : (members.map (·.1)).all
      (fun name => decide ((members.filter (·.1 == name)).length ≤ 1)) = true := by
    simp [length_filter_le_one nodup]
  rw [objectFields, if_pos single, List.map_map]
  refine congrArg some (List.map_congr_left fun m mem => ?_)
  simp [find?_of_mem nodup mem]

/-- The same for what a record does with the fields that are still to be read. -/
structure Takes (limit : Nat) (run : Nat → Option α) (values : List Json) (a : α) : Prop where
  shown : ∀ json ∈ values, json.Exact
  given : ∀ n, n < limit → run n = if itemsNesting values ≤ n then some a else none

theorem Takes.done {a : α} : Takes limit (fun _ => pure a) [] a :=
  ⟨nofun, fun n _ => (if_pos n.zero_le).symm⟩

theorem Takes.field {take : Nat → Field → Option β} {next : β → Nat → Option α} {json : Json}
    {values : List Json} {b : β} {a : α} (first : Gives limit take json b)
    (rest : Takes limit (next b) values a) :
    Takes limit (fun n => take n (.given json) >>= fun x => next x n) (json :: values) a := by
  refine ⟨List.forall_mem_cons.mpr ⟨first.shown, rest.shown⟩, fun n within => ?_⟩
  rw [first.given n within, itemsNesting]
  by_cases room : json.nesting ≤ n
  · rw [if_pos room, Option.bind_eq_bind, Option.bind_some, rest.given n within]
    exact if_congr ((and_iff_right room).symm.trans Nat.max_le.symm) rfl rfl
  · rw [if_neg room, if_neg fun both => room (Nat.max_le.mp both).1]
    rfl

/-- A record that is nothing but its last field. -/
theorem Takes.last {take : Nat → Field → Option α} {json : Json} {a : α}
    (only : Gives limit take json a) : Takes limit (fun n => take n (.given json)) [json] a :=
  ⟨by simpa using only.shown, fun n within => by simp [only.given n within, itemsNesting]⟩

/-- A record is read from an object with its fields if it takes each of them. -/
theorem Reads.record {names : List String} {read : Nat → List Field → Option α}
    {members : List (String × Json)} {a : α} (named : members.map (·.1) = names)
    (fieldNames : FieldNames names)
    (fields : Takes (limit - 1) (fun n => read n (members.map fun m => .given m.2))
      (members.map (·.2)) a) :
    (Decoder.record names read).Reads limit (.obj members) a := by
  subst named
  obtain ⟨nodup, bare⟩ := fieldNames
  refine ⟨exact_obj (List.forall_mem_map.mp bare) (List.forall_mem_map.mp fields.shown), nofun, ?_⟩
  intro n within
  cases n with
  | zero => simp [nesting, Decoder.record]
  | succ n =>
    have read := fields.given n (by omega)
    rw [Decoder.record, objectFields_members nodup, Option.bind_some, read, nesting,
      membersNesting_eq]
    simp

section Variants

variable {read : Nat → String → Option Json → Option α} {name : String}

/-- A variant is read from an object with its name as the only member if its content is. -/
theorem Reads.variant {json : Json} {inner : Decoder β} {make : β → α} {b : β}
    (bare : IsBareName name) (content : inner.Reads (limit - 1) json b)
    (is : ∀ n content, read n name content = (wrapped inner n content).map make) :
    (Decoder.variant read).Reads limit (.obj [(name, json)]) (make b) := by
  refine ⟨exact_obj (by simpa using bare) (by simpa using content.shown), nofun, ?_⟩
  intro n within
  cases n with
  | zero => simp [nesting, Decoder.variant]
  | succ n =>
    rw [Decoder.variant, is, wrapped, content.decoded n (by omega)]
    by_cases room : json.nesting ≤ n <;> simp [room, nesting, membersNesting]

/-- A variant whose content is read as the variant. -/
theorem Reads.structVariant {json : Json} {inner : Decoder α} {a : α} (bare : IsBareName name)
    (content : inner.Reads (limit - 1) json a)
    (is : ∀ n content, read n name content = wrapped inner n content) :
    (Decoder.variant read).Reads limit (.obj [(name, json)]) a := by
  show (Decoder.variant read).Reads limit (.obj [(name, json)]) (id a)
  exact .variant bare content fun n content => by rw [is, Option.map_id, id]

theorem Reads.unit {a : α} (is : ∀ n, read n name none = some a) :
    (Decoder.variant read).Reads limit (.str name) a :=
  ⟨.str name, nofun, fun n _ => (is n).trans (if_pos n.zero_le).symm⟩

end Variants

theorem mapM_map_eq {f : β → Option α} {write : α → β} {fits : α → Prop} [DecidablePred fits]
    {items : List α} (each : ∀ a ∈ items, f (write a) = if fits a then some a else none) :
    (items.map write).mapM f = if ∀ a ∈ items, fits a then some items else none := by
  induction items with
  | nil => rfl
  | cons a items ih =>
    obtain ⟨first, others⟩ := List.forall_mem_cons.mp each
    rw [List.map_cons, List.mapM_cons, first, ih others]
    by_cases all : ∀ b ∈ a :: items, fits b
    · obtain ⟨here, there⟩ := List.forall_mem_cons.mp all
      rw [if_pos here, if_pos there, if_pos all]
      rfl
    · rw [if_neg all]
      by_cases here : fits a
      · rw [if_pos here, if_neg fun there => all (List.forall_mem_cons.mpr ⟨here, there⟩)]
        rfl
      · rw [if_neg here]
        rfl

theorem Reads.list {decode : Decoder α} {write : α → Json} (items : List α)
    (each : ∀ a ∈ items, decode.Reads limit (write a) a) :
    (Decoder.list decode).Reads limit (.ofList write items) items := by
  refine ⟨.arr ?_, nofun, fun n within => ?_⟩
  · exact List.forall_mem_map.mpr fun a mem => (each a mem).shown
  · cases n with
    | zero => simp [Json.ofList, nesting, Decoder.list]
    | succ n =>
      rw [Json.ofList, Decoder.list, mapM_map_eq fun a mem => (each a mem).decoded n (by omega)]
      simp [nesting, itemsNesting_le]

end Containers

theorem reads_string (s : String) (limit : Nat) : string.Reads limit (.str s) s :=
  ⟨.str s, nofun, fun n _ => (if_pos n.zero_le).symm⟩

theorem reads_bool (b : Bool) (limit : Nat) : bool.Reads limit (.bool b) b :=
  ⟨.bool b, nofun, fun n _ => (if_pos n.zero_le).symm⟩

theorem reads_uint32 (i : UInt32) (limit : Nat) : uint32.Reads limit (.int i.toNat) i := by
  refine ⟨.int _, nofun, fun n _ => ?_⟩
  have bound := i.toNat_lt
  have inside : (0 : Int) ≤ i.toNat ∧ (i.toNat : Int) ≤ 4294967295 := by omega
  simp [uint32, int, inside, nesting]

theorem reads_int32 (i : Int32) (limit : Nat) : int32.Reads limit (.int i.toInt) i := by
  refine ⟨.int _, nofun, fun n _ => ?_⟩
  have inside : -2147483648 ≤ i.toInt ∧ i.toInt ≤ 2147483647 :=
    ⟨i.minValue_le_toInt, i.toInt_le⟩
  simp [int32, int, inside, nesting]

theorem reads_int64 (i : Int64) (limit : Nat) : int64.Reads limit (.int i.toInt) i := by
  refine ⟨.int _, nofun, fun n _ => ?_⟩
  have inside : -9223372036854775808 ≤ i.toInt ∧ i.toInt ≤ 9223372036854775807 :=
    ⟨i.minValue_le_toInt, i.toInt_le⟩
  simp [int64, int, inside, nesting]

/-- A reader with fuel takes the value for `a`, as far as the fuel goes. -/
def Restores (decode : Nat → Decoder α) (json : Json) (a : α) : Prop :=
  ∀ fuel, (decode fuel).Reads fuel json a

theorem restores_of_succ {decode : Nat → Decoder α} {json : Json} {a : α}
    (each : ∀ fuel, (decode (fuel + 1)).Reads (fuel + 1) json a) : Restores decode json a := by
  intro fuel
  cases fuel with
  | zero => exact ⟨(each 0).shown, (each 0).present, nofun⟩
  | succ fuel => exact each fuel

/-- Fuel one above the allowance is enough. -/
theorem Restores.reads {decode : Nat → Decoder α} {json : Json} {a : α}
    (restores : Restores decode json a) (limit : Nat) :
    Reads limit (fun n => decode (n + 1) n) json a :=
  ⟨(restores 0).shown, (restores 0).present,
    fun n _ => (restores (n + 1)).decoded n n.lt_succ_self⟩

end Decoder

/-- Every value has a name, and no two names are the same. -/
class LawfulNamed (α : Type) [Named α] : Prop where
  complete : ∀ a : α, a ∈ Named.all
  distinct : ((Named.all : List α).map Named.name).Nodup

theorem Named.reads_toJson [Named α] [LawfulNamed α] (a : α) (limit : Nat) :
    Named.decode.Reads limit (Named.toJson a) a := by
  refine ⟨.str _, nofun, fun n _ => ?_⟩
  have names : ((all.map fun a : α => (name a, a)).map (·.1)).Nodup := by
    simpa [Function.comp_def] using LawfulNamed.distinct (α := α)
  have entry : (name a, a) ∈ all.map fun a : α => (name a, a) :=
    List.mem_map_of_mem (LawfulNamed.complete a)
  have found := Decoder.find?_of_mem names entry
  simp only at found
  simp [decode, Decoder.choice, Decoder.variant, toJson, found, Decoder.plain, nesting]

end SqlEmit
