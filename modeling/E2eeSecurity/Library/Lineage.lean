/-
This file gives values that are derived from one another one at a time, and says when the values
that someone holds lead to no value of the past.
-/
import Mathlib.Data.Set.Insert
import Mathlib.Logic.Relation

namespace Lineage

variable {Value : Type*} (gives : Value → Value → Prop)

/-- The value goes back to a known one. -/
def Traced (known : Set Value) (value : Value) : Prop :=
  ∃ origin ∈ known, Relation.ReflTransGen gives origin value

/-- No known value leads to a value of the past. -/
def Shut (known past : Set Value) : Prop :=
  ∀ value ∈ known, ∀ old ∈ past, ¬Relation.ReflTransGen gives value old

variable {gives} {known later past : Set Value} {value next : Value}

theorem Traced.of_mem (member : value ∈ known) : Traced gives known value :=
  ⟨value, member, .refl⟩

theorem Traced.step (traced : Traced gives known value) (step : gives value next) :
    Traced gives known next := by
  obtain ⟨origin, inside, leads⟩ := traced
  exact ⟨origin, inside, leads.tail step⟩

/-- What goes back to the known values leads to no older value than they do. -/
theorem Shut.traced (shut : Shut gives known past)
    (traced : ∀ value ∈ later, Traced gives known value) : Shut gives later past := by
  intro value member old before leads
  obtain ⟨origin, inside, fromOrigin⟩ := traced value member
  exact shut origin inside old before (fromOrigin.trans leads)

theorem Shut.union {more : Set Value} (shut : Shut gives known past)
    (moreShut : Shut gives more past) : Shut gives (known ∪ more) past := by
  rintro value (member | member)
  · exact shut value member
  · exact moreShut value member

theorem Shut.insert (shut : Shut gives known past)
    (apart : ∀ other ∈ known, ¬Relation.ReflTransGen gives other value) :
    Shut gives known (Insert.insert value past) := by
  rintro other member old (rfl | before)
  · exact apart other member
  · exact shut other member old before

/-- A value that grows with every step is never met again. -/
theorem irreflexive_of_rank (rank : Value → Nat)
    (grows : ∀ value next, gives value next → rank value < rank next)
    (leads : Relation.TransGen gives value next) : ¬Relation.ReflTransGen gives next value := by
  have larger : ∀ {first last : Value}, Relation.ReflTransGen gives first last →
      rank first ≤ rank last := by
    intro first last path
    induction path with
    | refl => exact Nat.le_refl _
    | tail _ step ih => exact ih.trans (grows _ _ step).le
  intro back
  obtain ⟨middle, step, path⟩ := Relation.TransGen.head'_iff.mp leads
  exact absurd (grows _ _ step) (Nat.not_lt.mpr ((larger path).trans (larger back)))

/-- Two values that lead to the same value are on one line, unless they are origins that the
derivation does not tell apart. -/
theorem leads_of_common {alike : Value → Value → Prop}
    (merges : ∀ first second next, gives first next → gives second next →
      first = second ∨ alike first second)
    (origins : ∀ first second before, alike first second →
      ¬gives before first ∧ ¬gives before second)
    {first second last : Value} (firstLeads : Relation.ReflTransGen gives first last)
    (secondLeads : Relation.ReflTransGen gives second last) :
    Relation.ReflTransGen gives first second ∨ Relation.ReflTransGen gives second first ∨
      alike first second := by
  have origin : ∀ {start value : Value}, Relation.ReflTransGen gives start value →
      (∀ before, ¬gives before value) → start = value := by
    intro start value path root
    obtain same | ⟨before, -, step⟩ := Relation.ReflTransGen.cases_tail path
    · exact same.symm
    · exact absurd step (root before)
  induction firstLeads with
  | refl => exact .inr (.inl secondLeads)
  | tail path step ih =>
      obtain rfl | ⟨before, otherPath, otherStep⟩ := Relation.ReflTransGen.cases_tail secondLeads
      · exact .inl (path.tail step)
      · obtain rfl | similar := merges _ _ _ step otherStep
        · exact ih otherPath
        · obtain rfl := origin path fun other => (origins _ _ other similar).1
          obtain rfl := origin otherPath fun other => (origins _ _ other similar).2
          exact .inr (.inr similar)

end Lineage
