/-
This file tracks which positions of a numbered stream were read, in any order.
-/
import Mathlib.Data.List.Basic
import Mathlib.Data.List.Forall2
import Mathlib.Data.List.Range

namespace Window

/-- This is the first position after every position that was read. -/
def highest (delivered : List Nat) : Nat :=
  delivered.foldr (fun position bound => max (position + 1) bound) 0

/-- These are the unread positions before some position that was read, in order. -/
def missing (delivered : List Nat) : List Nat :=
  (List.range (highest delivered)).filter fun position => position ∉ delivered

theorem highest_append (delivered : List Nat) (position : Nat) :
    highest (delivered ++ [position]) = max (highest delivered) (position + 1) := by
  induction delivered with
  | nil => simp [highest]
  | cons head tail ih =>
      simp only [highest, List.cons_append, List.foldr_cons] at ih ⊢
      rw [ih]
      omega

theorem lt_highest {delivered : List Nat} {position : Nat} (member : position ∈ delivered) :
    position < highest delivered := by
  induction delivered with
  | nil => cases member
  | cons head tail ih =>
      simp only [highest, List.foldr_cons]
      rcases List.mem_cons.mp member with rfl | later
      · omega
      · have := ih later
        simp only [highest] at this
        omega

theorem mem_missing {delivered : List Nat} {position : Nat} :
    position ∈ missing delivered ↔ position < highest delivered ∧ position ∉ delivered := by
  simp [missing]

/-- The bound is the least one above all positions that were read. -/
theorem highest_le_iff {delivered : List Nat} {bound : Nat} :
    highest delivered ≤ bound ↔ ∀ position ∈ delivered, position < bound := by
  induction delivered with
  | nil => simp [highest]
  | cons head tail ih =>
      simp only [highest, List.foldr_cons, List.forall_mem_cons] at ih ⊢
      rw [Nat.max_le, ih, Nat.succ_le_iff]

/-- Only the set of positions matters, not their order or their repetitions. -/
theorem missing_congr {first second : List Nat}
    (same : ∀ position, position ∈ first ↔ position ∈ second) : missing first = missing second := by
  have bound : highest first = highest second := by
    apply Nat.le_antisymm
    · exact highest_le_iff.mpr fun position member => lt_highest ((same position).mp member)
    · exact highest_le_iff.mpr fun position member => lt_highest ((same position).mpr member)
  unfold missing
  rw [bound]
  apply List.filter_congr
  intro position _
  simp [same position]

theorem missing_nodup (delivered : List Nat) : (missing delivered).Nodup :=
  List.nodup_range.filter _

theorem highest_range (count : Nat) : highest (List.range count) = count := by
  induction count with
  | zero => rfl
  | succ count ih =>
      rw [List.range_succ, highest_append, ih]
      omega

/-- A stream that is read in order has no gaps. -/
theorem missing_range (count : Nat) : missing (List.range count) = [] := by
  rw [missing, highest_range, List.filter_eq_nil_iff]
  intro position member
  simpa using member

/-- A position at or after the bound makes the positions before it unread. -/
theorem missing_ahead {delivered : List Nat} {position : Nat}
    (ahead : highest delivered ≤ position) :
    missing (delivered ++ [position]) =
      missing delivered ++ List.range' (highest delivered) (position - highest delivered) := by
  have bound : highest (delivered ++ [position]) =
      highest delivered + (position - highest delivered) + 1 := by
    rw [highest_append]
    omega
  have split : List.range (highest (delivered ++ [position])) = List.range (highest delivered) ++
      List.range' (highest delivered) (position - highest delivered) ++ [position] := by
    rw [bound, List.range_succ, List.range_add, List.range'_eq_map_range]
    congr 2
    omega
  have early : (List.range (highest delivered)).filter
      (fun other => other ∉ delivered ++ [position]) = missing delivered := by
    apply List.filter_congr
    intro other inside
    have less := List.mem_range.mp inside
    have different : other ≠ position := by omega
    simp [different]
  have late : (List.range' (highest delivered) (position - highest delivered)).filter
      (fun other => other ∉ delivered ++ [position]) =
        List.range' (highest delivered) (position - highest delivered) := by
    rw [List.filter_eq_self]
    intro other inside
    obtain ⟨lower, upper⟩ := List.mem_range'_1.mp inside
    have unread : other ∉ delivered := fun member => by
      have := lt_highest member
      omega
    have different : other ≠ position := by omega
    simp [unread, different]
  rw [missing, split, List.filter_append, List.filter_append, early, late]
  simp

/-- A position before the bound is removed from the unread positions. -/
theorem missing_behind {delivered : List Nat} {position : Nat}
    (behind : position < highest delivered) (unread : position ∉ delivered) :
    ∃ before after, missing delivered = before ++ position :: after ∧
      missing (delivered ++ [position]) = before ++ after := by
  have bound : highest (delivered ++ [position]) = highest delivered := by
    rw [highest_append]
    omega
  obtain ⟨rest, length⟩ : ∃ rest, highest delivered = position + 1 + rest :=
    ⟨highest delivered - (position + 1), by omega⟩
  have split : List.range (highest delivered) = List.range position ++ position ::
      (List.range rest).map (fun offset => position + 1 + offset) := by
    rw [length, List.range_add, List.range_succ, List.append_assoc]
    rfl
  have same : ∀ others : List Nat, (∀ other ∈ others, other ≠ position) →
      others.filter (fun other => other ∉ delivered ++ [position]) =
        others.filter (fun other => other ∉ delivered) := by
    intro others apart
    apply List.filter_congr
    intro other inside
    simp [apart other inside]
  refine ⟨(List.range position).filter fun other => other ∉ delivered,
    ((List.range rest).map fun offset => position + 1 + offset).filter
      fun other => other ∉ delivered, ?_, ?_⟩
  · rw [missing, split, List.filter_append, List.filter_cons_of_pos (by simpa using unread)]
  · rw [missing, bound, split, List.filter_append, List.filter_cons_of_neg (by simp),
      same _ ?_, same _ ?_]
    · intro other inside
      obtain ⟨offset, -, rfl⟩ := List.mem_map.mp inside
      omega
    · intro other inside
      have := List.mem_range.mp inside
      omega

/-- An entry of a longer record is an old entry or the new one. -/
theorem getElem?_concat {α : Type*} {entries : List α} {position : Nat} {last entry : α}
    (found : (entries ++ [last])[position]? = some entry) :
    entries[position]? = some entry ∨ position = entries.length ∧ entry = last := by
  rcases Nat.lt_or_ge position entries.length with inside | beyond
  · rw [List.getElem?_append_left inside] at found
    exact Or.inl found
  · rw [List.getElem?_append_right beyond, List.getElem?_singleton] at found
    split at found
    case isTrue here => exact Or.inr ⟨by omega, (Option.some.inj found).symm⟩
    case isFalse => cases found

/-- An entry keeps its position in a longer record. -/
theorem getElem?_kept {α : Type*} {entries : List α} {position : Nat} {entry : α}
    (found : entries[position]? = some entry) (more : List α) :
    (entries ++ more)[position]? = some entry := by
  rw [List.getElem?_append_left (List.getElem?_eq_some_iff.mp found).1]
  exact found

/-- Two entries at one distance are old, or the latter is new and the former is the old entry at
that distance from it. -/
theorem getElem?_concat_pair {α : Type*} {entries : List α} {position place distance : Nat}
    {last next former latter : α} (apart : 0 < distance) (found : entries[position]? = some last)
    (length : entries.length = position + distance)
    (foundFormer : (entries ++ [next])[place]? = some former)
    (foundLatter : (entries ++ [next])[place + distance]? = some latter) :
    entries[place]? = some former ∧ entries[place + distance]? = some latter ∨
      place = position ∧ former = last ∧ latter = next := by
  rcases getElem?_concat foundLatter with old | ⟨atEnd, new⟩
  · have inside := (List.getElem?_eq_some_iff.mp old).1
    rw [List.getElem?_append_left (by omega)] at foundFormer
    exact Or.inl ⟨foundFormer, old⟩
  · have here : place = position := by omega
    rw [here, List.getElem?_append_left (by omega), found, Option.some.injEq] at foundFormer
    exact Or.inr ⟨here, foundFormer.symm, new⟩

/-- The positions up to a later one split at a middle one. -/
theorem range'_split {first middle last : Nat} (early : first ≤ middle) (late : middle ≤ last) :
    List.range' first (last - first) =
      List.range' first (middle - first) ++ List.range' middle (last - middle) := by
  have meet : first + (middle - first) = middle := by omega
  have sum : last - first = middle - first + (last - middle) := by omega
  rw [sum, ← List.range'_append_1, meet]

/-- The records of positions split where the positions split. -/
theorem forall₂_split {α β : Type*} {related : α → β → Prop} {before after : List α} {middle : α}
    {records : List β} (aligned : List.Forall₂ related (before ++ middle :: after) records) :
    ∃ recordsBefore record recordsAfter, records = recordsBefore ++ record :: recordsAfter ∧
      List.Forall₂ related before recordsBefore ∧ related middle record ∧
      List.Forall₂ related after recordsAfter := by
  induction before generalizing records with
  | nil =>
      obtain ⟨record, rest, here, later, rfl⟩ := List.forall₂_cons_left_iff.mp aligned
      exact ⟨[], record, rest, rfl, .nil, here, later⟩
  | cons head tail ih =>
      obtain ⟨first, rest, here, later, rfl⟩ := List.forall₂_cons_left_iff.mp aligned
      obtain ⟨recordsBefore, record, recordsAfter, rfl, early, found, late⟩ := ih later
      exact ⟨first :: recordsBefore, record, recordsAfter, rfl, .cons here early, found, late⟩

/-- Every record belongs to a position. -/
theorem forall₂_position {α β : Type*} {related : α → β → Prop} {positions : List α}
    {records : List β} (aligned : List.Forall₂ related positions records) {record : β}
    (member : record ∈ records) : ∃ position ∈ positions, related position record := by
  obtain ⟨before, after, rfl⟩ := List.append_of_mem member
  obtain ⟨early, position, late, rfl, -, found, -⟩ := forall₂_split aligned.flip
  exact ⟨position, by simp, found⟩

end Window
