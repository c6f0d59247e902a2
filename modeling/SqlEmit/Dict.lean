/-! Tables of entries with distinct keys, in the order in which the keys first appeared. -/
namespace SqlEmit

/-- A finite table. Every key has at most one entry. -/
structure Dict (κ : Type) (α : Type) where
  entries : List (κ × α)
  nodup : (entries.map (·.1)).Nodup

namespace Dict

variable {κ : Type} [DecidableEq κ] {α : Type}

def empty : Dict κ α := ⟨[], List.nodup_nil⟩

instance : Inhabited (Dict κ α) := ⟨empty⟩

def size (d : Dict κ α) : Nat := d.entries.length

def isEmpty (d : Dict κ α) : Bool := d.entries.isEmpty

def find? (d : Dict κ α) (key : κ) : Option α :=
  (d.entries.find? (·.1 = key)).map (·.2)

def contains (d : Dict κ α) (key : κ) : Bool :=
  (d.find? key).isSome

/-- Replaces the value of `key`, or adds the entry at the end. -/
def setEntry (key : κ) (value : α) : List (κ × α) → List (κ × α)
  | [] => [(key, value)]
  | (k, v) :: rest => if k = key then (key, value) :: rest else (k, v) :: setEntry key value rest

theorem mem_keys_setEntry (key : κ) (value : α) (entries : List (κ × α)) (k : κ) :
    k ∈ (setEntry key value entries).map (·.1) ↔ k = key ∨ k ∈ entries.map (·.1) := by
  induction entries with
  | nil => simp [setEntry]
  | cons entry rest ih =>
    obtain ⟨k', v'⟩ := entry
    by_cases h : k' = key
    · subst h; simp [setEntry]
    · simp only [setEntry, h, if_false, List.map_cons, List.mem_cons, ih]
      grind

theorem nodup_setEntry (key : κ) (value : α) (entries : List (κ × α))
    (nodup : (entries.map (·.1)).Nodup) : ((setEntry key value entries).map (·.1)).Nodup := by
  induction entries with
  | nil => simp [setEntry]
  | cons entry rest ih =>
    obtain ⟨k', v'⟩ := entry
    simp only [List.map_cons, List.nodup_cons] at nodup
    by_cases h : k' = key
    · subst h; simpa [setEntry] using nodup
    · simp only [setEntry, h, if_false, List.map_cons, List.nodup_cons]
      exact ⟨fun mem => ((mem_keys_setEntry _ _ _ _).1 mem).elim h nodup.1, ih nodup.2⟩

/-- Sets the value of a key; a later value replaces an earlier one. -/
def insert (d : Dict κ α) (key : κ) (value : α) : Dict κ α :=
  ⟨setEntry key value d.entries, nodup_setEntry key value d.entries d.nodup⟩

/-- Records a value for a key that has none; an earlier value stays. -/
def insertNew (d : Dict κ α) (key : κ) (value : α) : Dict κ α :=
  if d.contains key then d else d.insert key value

def insertAll (d : Dict κ α) (entries : List (κ × α)) : Dict κ α :=
  entries.foldl (fun d entry => d.insert entry.1 entry.2) d

/-- The last value given for a key wins. -/
def ofList (entries : List (κ × α)) : Dict κ α :=
  insertAll empty entries

omit [DecidableEq κ] in
theorem ext {a b : Dict κ α} (same : a.entries = b.entries) : a = b := by
  cases a; cases b; simp_all

@[simp] theorem find?_empty (key : κ) : (empty : Dict κ α).find? key = none := rfl

theorem find?_setEntry (key : κ) (value : α) (entries : List (κ × α)) (k : κ) :
    ((setEntry key value entries).find? (·.1 = k)).map (·.2) =
      if key = k then some value else (entries.find? (·.1 = k)).map (·.2) := by
  induction entries with
  | nil => by_cases h : key = k <;> simp [setEntry, h]
  | cons entry rest ih =>
    obtain ⟨k', v'⟩ := entry
    by_cases h : k' = key
    · subst h; by_cases hk : k' = k <;> simp [setEntry, hk]
    · by_cases hk : k' = k
      · subst hk; simp [setEntry, h, Ne.symm h]
      · simp only [setEntry, h, if_false, List.find?_cons, hk, decide_false]
        exact ih

@[simp] theorem find?_insert (d : Dict κ α) (key : κ) (value : α) (k : κ) :
    (d.insert key value).find? k = if key = k then some value else d.find? k :=
  find?_setEntry key value d.entries k

@[simp] theorem find?_insertNew (d : Dict κ α) (key : κ) (value : α) (k : κ) :
    (d.insertNew key value).find? k =
      if key = k then some ((d.find? key).getD value) else d.find? k := by
  unfold insertNew contains
  cases h : d.find? key with
  | none => by_cases hk : key = k <;> simp [hk]
  | some v => by_cases hk : key = k <;> simp_all

/-- Of the values given for a key the last one is found. -/
theorem find?_insertAll (d : Dict κ α) (entries : List (κ × α)) (k : κ) :
    (d.insertAll entries).find? k =
      ((entries.reverse.find? (·.1 = k)).map (·.2)).or (d.find? k) := by
  induction entries generalizing d with
  | nil => rfl
  | cons entry rest ih =>
    have step : d.insertAll (entry :: rest) = (d.insert entry.1 entry.2).insertAll rest := rfl
    rw [step, ih, find?_insert, List.reverse_cons, List.find?_append]
    cases rest.reverse.find? (·.1 = k) with
    | some last => simp
    | none => by_cases given : entry.1 = k <;> simp [given]

theorem find?_ofList (entries : List (κ × α)) (k : κ) :
    (ofList entries).find? k = (entries.reverse.find? (·.1 = k)).map (·.2) := by
  rw [ofList, find?_insertAll, find?_empty, Option.or_none]

/-- In a list whose keys are distinct the only value of a key is found. -/
theorem find?_ofList_of_nodup {entries : List (κ × α)}
    (nodup : (entries.map (·.1)).Nodup) (k : κ) :
    (ofList entries).find? k = (entries.find? (·.1 = k)).map (·.2) := by
  rw [find?_ofList]
  induction entries with
  | nil => rfl
  | cons entry rest ih =>
    rw [List.map_cons, List.nodup_cons] at nodup
    rw [List.reverse_cons, List.find?_append, List.find?_cons]
    by_cases given : entry.1 = k
    · have absent : rest.reverse.find? (·.1 = k) = none := by
        refine List.find?_eq_none.mpr fun other mem same => nodup.1 ?_
        rw [given, ← of_decide_eq_true same]
        exact List.mem_map_of_mem (List.mem_reverse.mp mem)
      simp [absent, given]
    · simpa [given] using ih nodup.2

theorem find?_ofList_of_mem {entries : List (κ × α)} (nodup : (entries.map (·.1)).Nodup) {key : κ} {value : α}
    (mem : (key, value) ∈ entries) : (ofList entries).find? key = some value := by
  rw [find?_ofList_of_nodup nodup]
  induction entries with
  | nil => cases mem
  | cons entry rest ih =>
    rw [List.map_cons, List.nodup_cons] at nodup
    rcases List.mem_cons.mp mem with rfl | later
    · simp
    · have other : entry.1 ≠ key := fun same => nodup.1 (same ▸ List.mem_map_of_mem later)
      simpa [other] using ih nodup.2 later

theorem find?_ofList_append (before after : List (κ × α)) (k : κ) :
    (ofList (before ++ after)).find? k = ((ofList after).find? k).or ((ofList before).find? k) := by
  simp only [find?_ofList, List.reverse_append, List.find?_append, Option.map_or]

theorem mem_keys_iff (d : Dict κ α) (k : κ) :
    k ∈ d.entries.map (·.1) ↔ ∃ value, d.find? k = some value := by
  constructor
  · intro mem
    obtain ⟨entry, present, rfl⟩ := List.mem_map.mp mem
    have found : (d.entries.find? (·.1 = entry.1)).isSome :=
      List.find?_isSome.mpr ⟨entry, present, by simp⟩
    obtain ⟨first, is⟩ := Option.isSome_iff_exists.mp found
    exact ⟨first.2, by rw [find?, is]; rfl⟩
  · rintro ⟨value, found⟩
    obtain ⟨entry, is, rfl⟩ := Option.map_eq_some_iff.mp found
    have key : entry.1 = k := by simpa using List.find?_some is
    exact key ▸ List.mem_map_of_mem (List.mem_of_find?_eq_some is)

end Dict

end SqlEmit
