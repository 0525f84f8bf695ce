/-
This file describes memory that is allocated and released object by object.
-/
import Mathlib.Data.List.Basic

namespace E2eeSecurity

/-- A null pointer has no address. -/
abbrev Pointer := Option Nat

/-- The objects are listed by their addresses, and a released object leaves nothing behind.
An address is never given out again. -/
abbrev Heap (κ : Type) := List (Option κ)

/-- A step that touches a null pointer or released memory has no outcome. -/
abbrev Memory (κ α : Type) := StateT (Heap κ) Option α

namespace Memory

variable {κ α ω : Type}

def load (pointer : Pointer) : Memory κ κ := fun heap =>
  (pointer.bind fun address => (heap[address]?).join).map fun object => (object, heap)

def alloc (object : κ) : Memory κ Pointer := fun heap =>
  some (some heap.length, heap ++ [some object])

def store (pointer : Pointer) (object : κ) : Memory κ Unit := do
  let _ ← load pointer
  fun heap => pointer.map fun address => ((), heap.set address (some object))

def free (pointer : Pointer) : Memory κ Unit := do
  let _ ← load pointer
  fun heap => pointer.map fun address => ((), heap.set address none)

/-- The step has no outcome in any memory. -/
def Faults (step : Memory κ α) : Prop := ∀ heap, step heap = none

theorem load_null_faults : (load none : Memory κ κ).Faults := fun _ => rfl

/-- A step faults when it begins with a fault. -/
theorem Faults.bind {step : Memory κ α} (faults : step.Faults) (rest : α → Memory κ ω) :
    (step >>= rest).Faults := by
  intro heap
  show (step heap).bind _ = none
  rw [faults heap]
  rfl

/-- A step faults when all that may follow its beginning faults. -/
theorem faults_of_rest (step : Memory κ α) {rest : α → Memory κ ω}
    (faults : ∀ value, (rest value).Faults) : (step >>= rest).Faults := by
  intro heap
  show (step heap).bind (fun outcome => rest outcome.1 outcome.2) = none
  cases step heap with
  | none => rfl
  | some outcome => exact faults outcome.1 outcome.2

end Memory

end E2eeSecurity
