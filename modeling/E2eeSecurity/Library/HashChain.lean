/-
This file compares keys of hash chains by their origins and their distances.
-/
import Mathlib.Logic.Function.Iterate
import Mathlib.Data.List.Basic
import Mathlib.Data.List.Induction
import Mathlib.Data.Set.Defs

namespace HashChain

variable {Key : Type*} {advance : Key → Key} {origins : Set Key}

/-- A key on a chain determines the origin of the chain and the distance from it. -/
theorem iterate_inj (injective : Function.Injective advance)
    (separate : ∀ key, advance key ∉ origins) {first second : Key}
    (firstOrigin : first ∈ origins) (secondOrigin : second ∈ origins) {i j : Nat}
    (same : advance^[i] first = advance^[j] second) : first = second ∧ i = j := by
  induction i generalizing j with
  | zero =>
      cases j with
      | zero => exact ⟨same, rfl⟩
      | succ j =>
          rw [Function.iterate_succ_apply', Function.iterate_zero_apply] at same
          rw [same] at firstOrigin
          exact absurd firstOrigin (separate _)
  | succ i ih =>
      rw [Function.iterate_succ_apply'] at same
      cases j with
      | zero =>
          rw [Function.iterate_zero_apply] at same
          rw [← same] at secondOrigin
          exact absurd secondOrigin (separate _)
      | succ j =>
          rw [Function.iterate_succ_apply'] at same
          obtain ⟨sameOrigin, sameDistance⟩ := ih (injective same)
          exact ⟨sameOrigin, congrArg (· + 1) sameDistance⟩

/-- The number of labelled steps from one origin is determined by the last key. -/
theorem foldl_length_inj {Label : Type*} {step : Key → Label → Key}
    (injective : ∀ first second label label', step first label = step second label' →
      first = second)
    {origin : Key} (separate : ∀ key label, step key label ≠ origin) {first second : List Label}
    (same : first.foldl step origin = second.foldl step origin) :
    first.length = second.length := by
  induction first using List.reverseRecOn generalizing second with
  | nil =>
      rcases List.eq_nil_or_concat second with rfl | ⟨rest, last, rfl⟩
      · rfl
      · simp only [List.concat_eq_append, List.foldl_append, List.foldl_cons, List.foldl_nil] at same
        exact absurd same.symm (separate _ _)
  | append_singleton first label ih =>
      rcases List.eq_nil_or_concat second with rfl | ⟨rest, last, rfl⟩
      · simp only [List.foldl_append, List.foldl_cons, List.foldl_nil] at same
        exact absurd same (separate _ _)
      · simp only [List.concat_eq_append, List.foldl_append, List.foldl_cons, List.foldl_nil]
          at same
        have shorter := ih (injective _ _ _ _ same)
        simp [shorter]

end HashChain
