/-
This file gives tables whose entries are found by a key, and in which a new entry may also replace
entries under other keys.
-/
import Mathlib.Data.List.Induction
import Mathlib.Data.List.Nodup
import Mathlib.Data.List.Forall2

/-- An entry under the first key replaces the entries under the keys that it covers. -/
structure Supersession (Key : Type*) where
  covers : Key → Key → Bool
  refl : ∀ key, covers key key = true

/-- The keys of a table are distinct. -/
structure KeyedTable {Entry Key : Type*} (key : Entry → Key) where
  entries : List Entry
  distinct : (entries.map key).Nodup

namespace KeyedTable

variable {Entry Key : Type*} {key : Entry → Key}

def empty : KeyedTable key := ⟨[], List.nodup_nil⟩

/-- The new entry comes last, and the entries that it covers are gone. -/
def insert (supersession : Supersession Key) (table : KeyedTable key) (entry : Entry) :
    KeyedTable key where
  entries := table.entries.filter (fun old => !supersession.covers (key entry) (key old)) ++ [entry]
  distinct := by
    rw [List.map_append, List.map_singleton, List.nodup_append]
    refine ⟨?_, List.nodup_singleton _, ?_⟩
    · exact table.distinct.sublist (List.filter_sublist.map key)
    · intro old oldMember new newMember same
      rw [List.mem_singleton] at newMember
      obtain ⟨other, otherMember, rfl⟩ := List.mem_map.mp oldMember
      have uncovered := (List.mem_filter.mp otherMember).2
      rw [same, newMember, supersession.refl] at uncovered
      simp at uncovered

/-- Only the entries that pass the test stay. -/
def restrict (table : KeyedTable key) (keep : Entry → Bool) : KeyedTable key where
  entries := table.entries.filter keep
  distinct := table.distinct.sublist (List.filter_sublist.map key)

/-- A test that all entries have passed drops none of them. -/
theorem restrict_restrict (table : KeyedTable key) (keep : Entry → Bool) :
    (table.restrict keep).restrict keep = table.restrict keep := by
  simp only [restrict, List.filter_filter, Bool.and_self]

variable [DecidableEq Key]

def lookup (table : KeyedTable key) (wanted : Key) : Option Entry :=
  table.entries.find? fun entry => key entry = wanted

theorem lookup_key {table : KeyedTable key} {wanted : Key} {entry : Entry}
    (found : table.lookup wanted = some entry) : key entry = wanted := by
  simpa using List.find?_some found

theorem lookup_mem {table : KeyedTable key} {wanted : Key} {entry : Entry}
    (found : table.lookup wanted = some entry) : entry ∈ table.entries :=
  List.mem_of_find?_eq_some found

/-- Distinct keys make the search exact. -/
theorem lookup_of_mem (table : KeyedTable key) {entry : Entry} (member : entry ∈ table.entries) :
    table.lookup (key entry) = some entry := by
  obtain ⟨found, search⟩ : ∃ found, table.lookup (key entry) = some found := by
    rw [← Option.isSome_iff_exists, lookup, List.find?_isSome]
    exact ⟨entry, member, by simp⟩
  rw [search, Option.some.injEq]
  exact List.inj_on_of_nodup_map table.distinct (lookup_mem search) member (lookup_key search)

/-- An entry that passes the test is still found. -/
theorem lookup_restrict {table : KeyedTable key} {wanted : Key} {entry : Entry}
    (found : table.lookup wanted = some entry) {keep : Entry → Bool} (kept : keep entry = true) :
    (table.restrict keep).lookup wanted = some entry := by
  rw [← lookup_key found]
  exact lookup_of_mem _ (List.mem_filter.mpr ⟨lookup_mem found, kept⟩)

section Insertion

variable {supersession : Supersession Key}

omit [DecidableEq Key] in
theorem mem_insert {table : KeyedTable key} {entry other : Entry} :
    other ∈ (table.insert supersession entry).entries ↔
      (other ∈ table.entries ∧ supersession.covers (key entry) (key other) = false) ∨
        other = entry := by
  simp [insert]

@[simp] theorem lookup_insert (table : KeyedTable key) (entry : Entry) :
    (table.insert supersession entry).lookup (key entry) = some entry :=
  lookup_of_mem _ (mem_insert.mpr (.inr rfl))

/-- Keys that the new entry does not cover keep their entries. -/
theorem lookup_insert_other (table : KeyedTable key) {entry : Entry} {wanted : Key}
    (uncovered : supersession.covers (key entry) wanted = false) :
    (table.insert supersession entry).lookup wanted = table.lookup wanted := by
  have different : key entry ≠ wanted := by
    intro same
    rw [same, supersession.refl] at uncovered
    simp at uncovered
  rw [lookup, lookup, insert, List.find?_append, List.find?_filter]
  have last : List.find? (fun candidate => decide (key candidate = wanted)) [entry] = none := by
    simp [different]
  rw [last, Option.or_none]
  congr 1
  funext old
  by_cases same : key old = wanted
  · simp [same, uncovered]
  · simp [same]

/-- A covered key other than the new one has no entry any more. -/
theorem lookup_insert_covered (table : KeyedTable key) {entry : Entry} {wanted : Key}
    (covered : supersession.covers (key entry) wanted = true) (different : key entry ≠ wanted) :
    (table.insert supersession entry).lookup wanted = none := by
  rw [lookup, List.find?_eq_none]
  intro other member found
  have same : key other = wanted := of_decide_eq_true found
  obtain ⟨-, uncovered⟩ | rfl := mem_insert.mp member
  · rw [same, covered] at uncovered
    cases uncovered
  · exact different same

end Insertion

section Runs

variable {Step : Type*} {step : KeyedTable key → Step → KeyedTable key} {steps : List Step}

/-- A key that no step of a run touches keeps its entry. -/
theorem lookup_foldl_other {wanted : Key}
    (keeps : ∀ other ∈ steps, ∀ table, (step table other).lookup wanted = table.lookup wanted)
    (table : KeyedTable key) :
    (steps.foldl step table).lookup wanted = table.lookup wanted := by
  induction steps generalizing table with
  | nil => rfl
  | cons first rest ih =>
      rw [List.foldl_cons, ih fun other later => keeps other (List.mem_cons_of_mem _ later)]
      exact keeps first List.mem_cons_self table

/-- A key keeps what its writer left there when no other step of a run touches it. -/
theorem lookup_foldl {wanted : Key} {result : Option Entry} {writer : Step}
    (writes : ∀ table, (step table writer).lookup wanted = result)
    (keeps : ∀ other ∈ steps, other ≠ writer →
      ∀ table, (step table other).lookup wanted = table.lookup wanted)
    (member : writer ∈ steps) (table : KeyedTable key) :
    (steps.foldl step table).lookup wanted = result := by
  induction steps using List.reverseRecOn with
  | nil => cases member
  | append_singleton rest last ih =>
      rw [List.foldl_append, List.foldl_cons, List.foldl_nil]
      by_cases same : last = writer
      · rw [same]
        exact writes _
      · rw [keeps last (by simp) same]
        apply ih fun other earlier => keeps other (List.mem_append_left _ earlier)
        simpa [Ne.symm same] using member

end Runs

section Relations

variable {supersession : Supersession Key} {rel : Entry → Entry → Prop}

/-- Two tables are related entry by entry. -/
def Related (rel : Entry → Entry → Prop) (first second : KeyedTable key) : Prop :=
  List.Forall₂ rel first.entries second.entries

omit [DecidableEq Key] in
theorem Related.refl (reflexive : ∀ entry, rel entry entry) (table : KeyedTable key) :
    table.Related rel table :=
  List.forall₂_same.mpr fun entry _ => reflexive entry

omit [DecidableEq Key] in
theorem Related.insert (sameKey : ∀ entry other, rel entry other → key entry = key other)
    {first second : KeyedTable key} (related : first.Related rel second) {entry other : Entry}
    (same : rel entry other) :
    (first.insert supersession entry).Related rel (second.insert supersession other) := by
  refine List.rel_append (List.rel_filter ?_ related) (.cons same .nil)
  intro old oldOther sameOld
  simp only [sameKey _ _ same, sameKey _ _ sameOld]

/-- A search has related results in related tables. -/
theorem Related.lookup (sameKey : ∀ entry other, rel entry other → key entry = key other)
    {first second : KeyedTable key} (related : first.Related rel second) (wanted : Key) :
    Option.Rel rel (first.lookup wanted) (second.lookup wanted) := by
  unfold Related at related
  unfold KeyedTable.lookup
  generalize first.entries = entries, second.entries = others at related ⊢
  induction related with
  | nil => exact .none
  | @cons entry other _ _ same _ ih =>
      rw [List.find?_cons, List.find?_cons, sameKey entry other same]
      split
      · exact .some same
      · exact ih

end Relations

section Agreement

variable {supersession : Supersession Key} {keep : Entry → Bool}

/-- Two tables have the same entries that pass a test, in the same order. -/
def AgreeOn (keep : Entry → Bool) (before after : KeyedTable key) : Prop :=
  after.entries.filter keep = before.entries.filter keep

omit [DecidableEq Key] in
theorem AgreeOn.refl (table : KeyedTable key) : AgreeOn keep table table := rfl

omit [DecidableEq Key] in
theorem AgreeOn.trans {before between after : KeyedTable key} (first : AgreeOn keep before between)
    (second : AgreeOn keep between after) : AgreeOn keep before after :=
  Eq.trans second first

omit [DecidableEq Key] in
/-- The test looks neither at the new entry nor at those that it covers. -/
theorem agreeOn_insert (table : KeyedTable key) {entry : Entry} (fails : keep entry = false)
    (covered : ∀ old, supersession.covers (key entry) (key old) = true → keep old = false) :
    AgreeOn keep table (table.insert supersession entry) := by
  have last : [entry].filter keep = [] := by simp [fails]
  rw [AgreeOn, insert, List.filter_append, last, List.append_nil, List.filter_filter]
  apply List.filter_congr
  intro old _
  cases stays : supersession.covers (key entry) (key old) with
  | false => simp
  | true => simp [covered old stays]

omit [DecidableEq Key] in
/-- The entries that pass the test stay. -/
theorem agreeOn_restrict (table : KeyedTable key) {stays : Entry → Bool}
    (kept : ∀ entry, keep entry = true → stays entry = true) :
    AgreeOn keep table (table.restrict stays) := by
  rw [AgreeOn, restrict, List.filter_filter]
  apply List.filter_congr
  intro entry _
  cases passes : keep entry with
  | false => simp
  | true => simp [kept entry passes]

omit [DecidableEq Key] in
/-- A run of steps that agree agrees as a whole. -/
theorem agreeOn_foldl {Step : Type*} {step : KeyedTable key → Step → KeyedTable key}
    {steps : List Step} (agrees : ∀ next ∈ steps, ∀ table, AgreeOn keep table (step table next))
    (table : KeyedTable key) : AgreeOn keep table (steps.foldl step table) := by
  induction steps generalizing table with
  | nil => exact .refl table
  | cons first rest ih =>
      rw [List.forall_mem_cons] at agrees
      exact (agrees.1 table).trans (ih agrees.2 (step table first))

end Agreement

end KeyedTable
