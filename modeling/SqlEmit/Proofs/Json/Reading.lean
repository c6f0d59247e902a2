import SqlEmit.Json.Reader
import SqlEmit.Proofs.Json.Scanning

/-! The tokens of a value are put together to the value, so a text that was written is read back. -/
namespace SqlEmit.Json

/-- The tokens of the value are taken as the value, wherever a value may stand. -/
def Settles (json : Json) : Prop :=
  ∀ stack, json.tokens.foldlM readStep (.value stack) = some (close json stack)

/-- Behind an opening bracket a value is the first item of the array. -/
theorem foldlM_item (json : Json) (later : List Token) (stack : List Frame) :
    (json.tokens ++ later).foldlM readStep (.item stack) =
      (json.tokens ++ later).foldlM readStep (.value (.arr [] :: stack)) := by
  cases json <;> rfl

theorem foldlM_firstItem (item : Json) (items : List Json) (later : List Token)
    (stack : List Frame) :
    (itemTokens (item :: items) ++ later).foldlM readStep (.item stack) =
      (itemTokens (item :: items) ++ later).foldlM readStep (.value (.arr [] :: stack)) := by
  cases items with
  | nil => exact foldlM_item item later stack
  | cons next items =>
    rw [itemTokens, List.append_assoc]
    · exact foldlM_item item _ stack
    · simp

theorem foldlM_items {item : Json} {items : List Json} (first : item.Settles)
    (others : ∀ json ∈ items, json.Settles) (before : List Json) (stack : List Frame) :
    (itemTokens (item :: items)).foldlM readStep (.value (.arr before :: stack)) =
      some (.afterItem (items.reverse ++ item :: before) stack) := by
  induction items generalizing item before with
  | nil => exact first _
  | cons next items ih =>
    obtain ⟨second, rest⟩ := List.forall_mem_cons.mp others
    have comma : readStep (.afterItem (item :: before) stack) .comma =
        some (.value (.arr (item :: before) :: stack)) := rfl
    have more := ih second rest (item :: before)
    rw [itemTokens, List.foldlM_append, first]
    · simp [close, List.foldlM_cons, comma, more]
    · simp

theorem settles_arr {items : List Json} (each : ∀ item ∈ items, item.Settles) :
    (Json.arr items).Settles := by
  intro stack
  have opened : readStep (.value stack) .openBracket = some (.item stack) := rfl
  rw [tokens, List.foldlM_cons, opened, Option.bind_eq_bind, Option.bind_some]
  cases items with
  | nil => rfl
  | cons item items =>
    obtain ⟨first, others⟩ := List.forall_mem_cons.mp each
    rw [foldlM_firstItem, List.foldlM_append, foldlM_items first others]
    simp [List.foldlM_cons, readStep]

theorem foldlM_firstMember (m : String × Json) (members : List (String × Json))
    (later : List Token) (stack : List Frame) :
    (memberTokens (m :: members) ++ later).foldlM readStep (.name stack) =
      (memberTokens (m :: members) ++ later).foldlM readStep (.nextName [] stack) := by
  cases members <;> rfl

theorem foldlM_members {m : String × Json} {members : List (String × Json)}
    (first : m.2.Settles) (others : ∀ m ∈ members, m.2.Settles)
    (before : List (Spelling × Json)) (stack : List Frame) :
    (memberTokens (m :: members)).foldlM readStep (.nextName before stack) =
      some (.afterMember
        ((members.map fun m => (spelled m.1, m.2)).reverse ++ (spelled m.1, m.2) :: before)
        stack) := by
  induction members generalizing m before with
  | nil => exact first _
  | cons next members ih =>
    obtain ⟨second, rest⟩ := List.forall_mem_cons.mp others
    have more := ih second rest ((spelled m.1, m.2) :: before)
    have value := first (.obj before (spelled m.1) :: stack)
    rw [memberTokens]
    · simp only [List.foldlM_cons, readStep, List.foldlM_append, Option.bind_eq_bind,
        Option.bind_some, value, close]
      simp [more]
    · simp

/-- The members of an object, as they are written, make up the object. -/
theorem ofMembers_spelled (members : List (String × Json)) :
    ofMembers (members.map fun m => (spelled m.1, m.2)).reverse =
      .obj members (members.all (·.1.toList.all isBare)) := by
  simp [ofMembers, Function.comp_def, spelled]

theorem settles_obj {members : List (String × Json)} (each : ∀ m ∈ members, m.2.Settles) :
    (Json.obj members (members.all (·.1.toList.all isBare))).Settles := by
  intro stack
  have opened : readStep (.value stack) .openBrace = some (.name stack) := rfl
  rw [tokens, List.foldlM_cons, opened, Option.bind_eq_bind, Option.bind_some]
  cases members with
  | nil => rfl
  | cons m members =>
    obtain ⟨first, others⟩ := List.forall_mem_cons.mp each
    rw [foldlM_firstMember, List.foldlM_append, foldlM_members first others, ← ofMembers_spelled]
    simp [List.foldlM_cons, readStep]

theorem settles_of_exact {json : Json} (shown : json.Exact) : json.Settles := by
  induction shown with
  | null | bool | int | real | str | illFormed => exact fun _ => rfl
  | arr each ih => exact settles_arr ih
  | obj each bare ih => exact bare ▸ settles_obj ih

theorem ofTokens_tokens {json : Json} (shown : json.Exact) : ofTokens json.tokens = some json := by
  rw [ofTokens, settles_of_exact shown]
  rfl

/-- A value that a text can show is read back from its text. -/
theorem parse_render {json : Json} (shown : json.Exact) : parse json.render = some json := by
  rw [parse, render, String.toList_ofList, (scans_renderChars shown).scan_eq, Option.bind_some,
    ofTokens_tokens shown]

end SqlEmit.Json
