/-
This file gives what an observer derives from known values by forward rules.
-/
import Mathlib.Data.Set.Basic

namespace Deduction

variable {Value : Type*}

/-- A rule leads from a list of premises to a conclusion. -/
inductive Derives (rule : List Value → Value → Prop) (known : Set Value) : Value → Prop
  | known {value : Value} (member : value ∈ known) : Derives rule known value
  | apply {premises : List Value} {conclusion : Value} (step : rule premises conclusion)
      (derived : ∀ premise ∈ premises, Derives rule known premise) :
      Derives rule known conclusion

/-- A set is closed when the rules do not lead out of it. -/
def Closed (rule : List Value → Value → Prop) (values : Set Value) : Prop :=
  ∀ premises conclusion, rule premises conclusion → (∀ premise ∈ premises, premise ∈ values) →
    conclusion ∈ values

/-- A closed set that holds the known values holds everything that is derived from them. -/
theorem Derives.mem_of_closed {rule : List Value → Value → Prop} {known values : Set Value}
    (closed : Closed rule values) (subset : known ⊆ values) {value : Value}
    (derives : Derives rule known value) : value ∈ values := by
  induction derives with
  | known member => exact subset member
  | apply step _ ih => exact closed _ _ step ih

end Deduction
