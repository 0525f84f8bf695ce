/-
This file describes an allocated array of pointers whose slots are written one after another.
-/
import Mathlib.Data.List.Basic

namespace E2eeSecurity

/-- A slot holds nothing until it is written. -/
abbrev Slots (α : Type) := List (Option α)

namespace Slots

variable {α : Type}

/-- This is the array as it comes from the allocator. -/
def malloc (α : Type) (count : Nat) : Slots α := List.replicate count none

/-- A write behind the last slot is outside of the array. -/
def write (slots : Slots α) (position : Nat) (value : α) : Option (Slots α) :=
  if position < slots.length then some (slots.set position (some value)) else none

/-- The values are written into neighbouring slots. -/
def fill : Slots α → Nat → List α → Option (Slots α)
  | slots, _, [] => some slots
  | slots, position, value :: rest =>
      (slots.write position value).bind fun written => written.fill (position + 1) rest

/-- These are the first slots with their values and the free slots behind them. -/
def partly (values : List α) (free : Nat) : Slots α :=
  values.map some ++ List.replicate free none

theorem partly_nil (free : Nat) : partly ([] : List α) free = malloc α free := rfl

theorem partly_zero (values : List α) : partly values 0 = values.map some := by
  rw [partly, List.replicate_zero, List.append_nil]

/-- The next write takes the first free slot. -/
theorem write_partly (values : List α) (free : Nat) (value : α) :
    (partly values (free + 1)).write values.length value =
      some (partly (values ++ [value]) free) := by
  have inside : values.length < (partly values (free + 1)).length := by
    rw [partly, List.length_append, List.length_map, List.length_replicate]
    omega
  rw [write, if_pos inside, partly, partly, List.set_append_right _ _ (by simp)]
  simp [List.replicate_succ]

theorem write_full (values : List α) (value : α) :
    (partly values 0).write values.length value = none := by
  rw [write, if_neg]
  rw [partly_zero, List.length_map]
  omega

/-- Writing on succeeds exactly while there are free slots. -/
theorem fill_partly (values written : List α) (free : Nat) :
    (partly written free).fill written.length values =
      if values.length ≤ free then some (partly (written ++ values) (free - values.length))
      else none := by
  induction values generalizing written free with
  | nil => simp [fill]
  | cons value rest ih =>
      cases free with
      | zero => simp [fill, write_full]
      | succ free =>
          have next := ih (written ++ [value]) free
          rw [List.length_append, List.length_singleton] at next
          rw [fill, write_partly, Option.bind_some, next]
          simp only [List.length_cons, Nat.add_le_add_iff_right, Nat.add_sub_add_right,
            List.append_assoc, List.singleton_append]

end Slots

end E2eeSecurity
