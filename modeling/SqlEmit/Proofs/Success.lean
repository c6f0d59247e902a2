import Mathlib.Data.List.Forall2
import SqlEmit.Emit

/-! What a computation that succeeds has gone through. A result is followed back through each step
of the computation; the calls that it defers play no part. -/
namespace SqlEmit

theorem forall₂_getElem? {R : α → β → Prop} {xs : List α} {ys : List β} (each : List.Forall₂ R xs ys)
    {i : Nat} {x : α} (stands : xs[i]? = some x) : ∃ y, ys[i]? = some y ∧ R x y := by
  induction each generalizing i with
  | nil => simp at stands
  | cons head _ ih =>
    cases i with
    | zero =>
      obtain rfl : _ = x := by simpa using stands
      exact ⟨_, rfl, head⟩
    | succ i => simpa using ih (by simpa using stands)

theorem forall₂_mem {R : α → β → Prop} {xs : List α} {ys : List β} (each : List.Forall₂ R xs ys) {x : α}
    (mem : x ∈ xs) : ∃ y ∈ ys, R x y := by
  obtain ⟨i, stands⟩ := List.mem_iff_getElem?.mp mem
  obtain ⟨y, there, related⟩ := forall₂_getElem? each stands
  exact ⟨y, List.mem_of_getElem? there, related⟩

namespace Except

theorem bind_ok {x : Except ε α} {f : α → Except ε β} :
    x >>= f = .ok b ↔ ∃ a, x = .ok a ∧ f a = .ok b := by
  cases x <;> simp [bind, Except.bind]

@[simp] theorem pure_ok {a b : α} : (pure a : Except ε α) = .ok b ↔ a = b := by
  simp [pure, Except.pure]

theorem mapM_ok {f : α → Except ε β} {xs : List α} {ys : List β} :
    xs.mapM f = .ok ys ↔ List.Forall₂ (fun x y => f x = .ok y) xs ys := by
  induction xs generalizing ys with
  | nil => rw [List.mapM_nil, pure_ok, List.forall₂_nil_left_iff, eq_comm]
  | cons x xs ih =>
    simp only [List.mapM_cons, bind_ok, pure_ok, ih, List.forall₂_cons_left_iff]
    constructor
    · rintro ⟨y, head, rest, tail, rfl⟩
      exact ⟨y, rest, head, tail, rfl⟩
    · rintro ⟨y, rest, head, tail, rfl⟩
      exact ⟨y, head, rest, tail, rfl⟩

theorem bind_error {x : Except ε α} {f : α → Except ε β} {error : ε} :
    x >>= f = .error error ↔ x = .error error ∨ ∃ a, x = .ok a ∧ f a = .error error := by
  cases x <;> simp [bind, Except.bind]

theorem exists_of_mapM_error {f : α → Except ε β} {xs : List α} {error : ε} (failed : xs.mapM f = .error error) :
    ∃ x ∈ xs, f x = .error error := by
  induction xs with
  | nil => simp [pure, Except.pure] at failed
  | cons x xs ih =>
    rw [List.mapM_cons] at failed
    rcases bind_error.mp failed with here | ⟨y, -, later⟩
    · exact ⟨x, List.mem_cons_self, here⟩
    · rcases bind_error.mp later with rest | ⟨ys, -, done⟩
      · obtain ⟨z, mem, there⟩ := ih rest
        exact ⟨z, List.mem_cons_of_mem x mem, there⟩
      · cases done

/-- A result is found, and shown to have a property, by running the computation. -/
theorem exists_ok {x : Except ε α} {property : α → Prop} [DecidablePred property]
    (found : (x.toOption.any fun a => property a) = true) : ∃ a, x = .ok a ∧ property a := by
  cases x with
  | error _ => simp [Except.toOption] at found
  | ok a => exact ⟨a, rfl, by simpa [Except.toOption] using found⟩

end Except

namespace Emit

theorem bind_ok {x : Emit α} {f : α → Emit β} :
    (x >>= f).result = .ok b ↔ ∃ a, x.result = .ok a ∧ (f a).result = .ok b := by
  rw [result_bind]
  exact Except.bind_ok

theorem bind_of_ok {x : Emit α} {a : α} (ok : x.result = .ok a) (f : α → Emit β) :
    x >>= f = ⟨x.deferred ++ (f a).deferred, (f a).result⟩ := by
  obtain ⟨deferred, result⟩ := x
  obtain rfl : result = .ok a := ok
  rfl

@[simp] theorem pure_ok {a b : α} : (pure a : Emit α).result = .ok b ↔ a = b := by
  simp

@[simp] theorem result_lift (x : Except Error α) : (liftM x : Emit α).result = x := rfl

theorem all_ok {xs : List (Emit α)} {ys : List α} :
    (all xs).result = .ok ys ↔ List.Forall₂ (fun x y => x.result = .ok y) xs ys := by
  induction xs generalizing ys with
  | nil => rw [all, pure_ok, List.forall₂_nil_left_iff, eq_comm]
  | cons x xs ih =>
    simp only [all, bind_ok, pure_ok, ih, List.forall₂_cons_left_iff]
    constructor
    · rintro ⟨y, head, rest, tail, rfl⟩
      exact ⟨y, rest, head, tail, rfl⟩
    · rintro ⟨y, rest, head, tail, rfl⟩
      exact ⟨y, head, rest, tail, rfl⟩

end Emit

/-- If the computation succeeds, its result has the property. -/
def Emit.Gives (property : α → Prop) (x : Emit α) : Prop :=
  ∀ a, x.result = .ok a → property a

namespace Emit.Gives

theorem pure {property : α → Prop} {a : α} (holds : property a) : Gives property (Pure.pure a) := by
  intro b is
  obtain rfl := Emit.pure_ok.mp is
  exact holds

theorem bind {first : α → Prop} {property : β → Prop} {x : Emit α} {f : α → Emit β} (gives : Gives first x)
    (rest : ∀ a, first a → Gives property (f a)) : Gives property (x >>= f) := by
  intro b is
  obtain ⟨a, isA, isB⟩ := Emit.bind_ok.mp is
  exact rest a (gives a isA) b isB

/-- What a computation ends with may not depend on how it starts. -/
theorem after {property : β → Prop} {x : Emit α} {f : α → Emit β}
    (rest : ∀ a, Gives property (f a)) : Gives property (x >>= f) :=
  bind (fun _ _ => trivial : Gives (fun _ => True) x) fun a _ => rest a

theorem lift {property : α → Prop} {x : Except Error α} (gives : ∀ a, x = .ok a → property a) :
    Gives property (liftM x : Emit α) := gives

theorem forall₂ {R : α → β → Prop} {xs : List α} {ys : List (Emit β)}
    (each : List.Forall₂ (fun x y => Gives (R x) y) xs ys) : Gives (List.Forall₂ R xs) (Emit.all ys) := by
  induction each with
  | nil => exact pure .nil
  | cons head _ ih => exact bind head fun _ first => bind ih fun _ rest => pure (.cons first rest)

end Emit.Gives

end SqlEmit
