import SqlEmit.Error
import SqlEmit.Functions
import SqlEmit.Sql

/-! Writing SQL: a computation that collects the calls it defers to parameters and may fail. What
was collected before a failure is kept. -/
namespace SqlEmit

structure Emit (α : Type) where
  deferred : List Deferred
  result : Except Error α

namespace Emit

instance : Monad Emit where
  pure a := ⟨[], .ok a⟩
  bind x f :=
    match x.result with
    | .ok a => ⟨x.deferred ++ (f a).deferred, (f a).result⟩
    | .error e => ⟨x.deferred, .error e⟩

def fail (error : Error) : Emit α :=
  ⟨[], .error error⟩

def ofExcept (result : Except Error α) : Emit α :=
  ⟨[], result⟩

instance : MonadLift (Except Error) Emit := ⟨ofExcept⟩

/-- Leaves the value of a call to the caller. -/
def defer (call : Deferred) : Emit Unit :=
  ⟨[call], .ok ()⟩

/-- Runs computations from left to right. -/
def all : List (Emit α) → Emit (List α)
  | [] => pure []
  | x :: xs => do return (← x) :: (← all xs)

/-- Runs a computation that may be missing. -/
def optional : Option (Emit α) → Emit (Option α)
  | none => pure none
  | some x => do return some (← x)

@[simp] theorem result_pure (a : α) : (pure a : Emit α).result = .ok a := rfl

@[simp] theorem deferred_pure (a : α) : (pure a : Emit α).deferred = [] := rfl

@[simp] theorem result_bind (x : Emit α) (f : α → Emit β) :
    (x >>= f).result = x.result.bind fun a => (f a).result := by
  show (match x.result with | .ok a => _ | .error e => _ : Emit β).result = _
  cases x.result <;> rfl

@[simp] theorem result_fail (error : Error) : (fail error : Emit α).result = .error error := rfl

@[simp] theorem result_ofExcept (result : Except Error α) : (ofExcept result).result = result := rfl

end Emit

end SqlEmit
