/-
This file numbers the tokens of a list and records which owner holds which token.
-/
import Mathlib.Data.List.Nodup
import Mathlib.Logic.Function.Basic

/-- The tokens of a list have numbers, and an owner may hold the token of one number. -/
structure TokenLedger (Owner : Type*) where
  numbers : List Nat
  issued : Nat
  holder : Owner → Option Nat

namespace TokenLedger

variable {Owner : Type*}

/-- The first tokens are numbered from 0, and nobody holds one. -/
def start (Owner : Type*) (count : Nat) : TokenLedger Owner :=
  ⟨List.range count, count, fun _ => none⟩

/-- New tokens come last and get the next numbers. -/
def issue (ledger : TokenLedger Owner) (count : Nat) : TokenLedger Owner :=
  { ledger with
    numbers := ledger.numbers ++ List.range' ledger.issued count
    issued := ledger.issued + count }

/-- The token at one place of the list goes away. -/
def erase (ledger : TokenLedger Owner) (index : Nat) : TokenLedger Owner :=
  { ledger with numbers := ledger.numbers.eraseIdx index }

/-- The owner gives up its token and takes the given one. -/
def assign [DecidableEq Owner] (ledger : TokenLedger Owner) (owner : Owner)
    (number : Option Nat) : TokenLedger Owner :=
  { ledger with holder := Function.update ledger.holder owner number }

/-- No two owners hold one token. -/
def HeldOnce (ledger : TokenLedger Owner) : Prop :=
  ∀ number first second, ledger.holder first = some number → ledger.holder second = some number →
    first = second

/-- The list has one flag for each token, and the flags of held tokens are set. -/
structure Sound (ledger : TokenLedger Owner) (flags : List Bool) : Prop where
  length : ledger.numbers.length = flags.length
  distinct : ledger.numbers.Nodup
  bounded : ∀ number ∈ ledger.numbers, number < ledger.issued
  held : ∀ owner number, ledger.holder owner = some number → number < ledger.issued
  spent : ∀ owner number (index : Nat), ledger.holder owner = some number →
    ledger.numbers[index]? = some number → flags[index]? = some true
  once : ledger.HeldOnce

variable {ledger : TokenLedger Owner} {flags : List Bool}

theorem start_sound (flags : List Bool) : (start Owner flags.length).Sound flags where
  length := by simp [start]
  distinct := List.nodup_range
  bounded := by simp [start]
  held := by simp [start]
  spent := by simp [start]
  once := by simp [HeldOnce, start]

theorem Sound.issue (sound : ledger.Sound flags) (count : Nat) :
    (ledger.issue count).Sound (flags ++ List.replicate count false) where
  length := by simp [TokenLedger.issue, sound.length]
  distinct := by
    rw [TokenLedger.issue, List.nodup_append]
    refine ⟨sound.distinct, List.nodup_range', ?_⟩
    intro old oldMember new newMember same
    have small := sound.bounded old oldMember
    have large := (List.mem_range'_1.mp newMember).1
    omega
  bounded := by
    intro number member
    simp only [TokenLedger.issue, List.mem_append, List.mem_range'_1] at member ⊢
    obtain old | new := member
    · exact Nat.lt_of_lt_of_le (sound.bounded number old) (Nat.le_add_right _ _)
    · exact new.2
  held := by
    intro owner number holds
    exact Nat.lt_of_lt_of_le (sound.held owner number holds) (Nat.le_add_right _ _)
  spent := by
    intro owner number index holds placed
    have small := sound.held owner number holds
    by_cases old : index < ledger.numbers.length
    · rw [TokenLedger.issue, List.getElem?_append_left old] at placed
      rw [List.getElem?_append_left (sound.length ▸ old)]
      exact sound.spent owner number index holds placed
    · rw [TokenLedger.issue, List.getElem?_append_right (Nat.le_of_not_lt old)] at placed
      have large := (List.mem_range'_1.mp (List.mem_of_getElem? placed)).1
      omega
  once := sound.once

theorem Sound.erase (sound : ledger.Sound flags) (index : Nat) :
    (ledger.erase index).Sound (flags.eraseIdx index) where
  length := by
    simp only [TokenLedger.erase, List.length_eraseIdx, sound.length]
  distinct := sound.distinct.sublist (List.eraseIdx_sublist _ _)
  bounded := by
    intro number member
    exact sound.bounded number ((List.eraseIdx_sublist _ _).subset member)
  held := sound.held
  spent := by
    intro owner number place holds placed
    simp only [TokenLedger.erase, List.getElem?_eraseIdx] at placed ⊢
    split at placed
    case isTrue before =>
      rw [if_pos before]
      exact sound.spent owner number place holds placed
    case isFalse after =>
      rw [if_neg after]
      exact sound.spent owner number (place + 1) holds placed
  once := sound.once

/-- A flag may be set at any time. -/
theorem Sound.spend (sound : ledger.Sound flags) (index : Nat) :
    ledger.Sound (flags.set index true) where
  length := by rw [List.length_set, sound.length]
  distinct := sound.distinct
  bounded := sound.bounded
  held := sound.held
  spent := by
    intro owner number place holds placed
    have set := sound.spent owner number place holds placed
    rw [List.getElem?_set]
    split
    case isTrue same =>
      have inside := (List.getElem?_eq_some_iff.mp set).1
      rw [same, if_pos inside]
    case isFalse => exact set
  once := sound.once

variable [DecidableEq Owner]

theorem assign_holder_self (ledger : TokenLedger Owner) (owner : Owner) (number : Option Nat) :
    (ledger.assign owner number).holder owner = number := by
  simp [assign]

theorem assign_holder_of_ne (ledger : TokenLedger Owner) {owner other : Owner}
    (different : other ≠ owner) (number : Option Nat) :
    (ledger.assign owner number).holder other = ledger.holder other := by
  simp [assign, different]

theorem Sound.release (sound : ledger.Sound flags) (owner : Owner) :
    (ledger.assign owner none).Sound flags := by
  have holds {other : Owner} {number : Nat}
      (assigned : (ledger.assign owner none).holder other = some number) :
      ledger.holder other = some number := by
    by_cases same : other = owner
    · rw [same, assign_holder_self] at assigned
      cases assigned
    · rwa [assign_holder_of_ne _ same] at assigned
  exact {
    length := sound.length
    distinct := sound.distinct
    bounded := sound.bounded
    held := fun other number assigned => sound.held other number (holds assigned)
    spent := fun other number index assigned =>
      sound.spent other number index (holds assigned)
    once := fun number first second firstHolds secondHolds =>
      sound.once number first second (holds firstHolds) (holds secondHolds) }

/-- An owner may take a token whose flag is not yet set, and the flag is set with it. -/
theorem Sound.take (sound : ledger.Sound flags) (owner : Owner) {index : Nat}
    (free : flags[index]? = some false) :
    (ledger.assign owner ledger.numbers[index]?).Sound (flags.set index true) := by
  have inside : index < flags.length := (List.getElem?_eq_some_iff.mp free).1
  have placed : index < ledger.numbers.length := sound.length ▸ inside
  have taken : ledger.numbers[index]? = some ledger.numbers[index] :=
    List.getElem?_eq_getElem placed
  have unheld {other : Owner} : ledger.holder other ≠ some ledger.numbers[index] := by
    intro holds
    have set := sound.spent other _ index holds taken
    rw [free] at set
    simp at set
  rw [taken]
  have spent := sound.spend index
  exact {
    length := spent.length
    distinct := spent.distinct
    bounded := spent.bounded
    held := by
      intro other number assigned
      by_cases same : other = owner
      · rw [same, assign_holder_self, Option.some.injEq] at assigned
        exact assigned ▸ sound.bounded _ (List.getElem_mem placed)
      · rw [assign_holder_of_ne _ same] at assigned
        exact sound.held other number assigned
    spent := by
      intro other number place assigned standing
      by_cases same : other = owner
      · rw [same, assign_holder_self, Option.some.injEq] at assigned
        rw [assign, ← assigned, ← taken] at standing
        have here := (List.getElem?_inj placed sound.distinct).mp standing.symm
        rw [← here, List.getElem?_set_self inside]
      · rw [assign_holder_of_ne _ same] at assigned
        exact spent.spent other number place assigned standing
    once := by
      intro number first second firstHolds secondHolds
      by_cases firstSame : first = owner
      · by_cases secondSame : second = owner
        · rw [firstSame, secondSame]
        · rw [firstSame, assign_holder_self, Option.some.injEq] at firstHolds
          rw [assign_holder_of_ne _ secondSame, ← firstHolds] at secondHolds
          exact absurd secondHolds unheld
      · rw [assign_holder_of_ne _ firstSame] at firstHolds
        by_cases secondSame : second = owner
        · rw [secondSame, assign_holder_self, Option.some.injEq] at secondHolds
          rw [← secondHolds] at firstHolds
          exact absurd firstHolds unheld
        · rw [assign_holder_of_ne _ secondSame] at secondHolds
          exact sound.once number first second firstHolds secondHolds }

end TokenLedger
