/-
This file gives an abstract account of one-time keys on hash chains.
A key is named by the origin of its chain and its distance from that origin.
-/
import Mathlib.Data.List.Nodup
import Mathlib.Data.List.Range
import Mathlib.Data.Set.Insert

/-- One sending chain, at most one receiving chain, the stored keys, and the used keys. -/
@[ext] structure KeyLedger (Origin : Type*) where
  sending : Origin × Nat
  receiving : Option (Origin × Nat)
  stored : List (Origin × Nat)
  used : List (Origin × Nat)

namespace KeyLedger

variable {Origin : Type*}

/-- No key is used twice, and no key can be used again. -/
structure Sound (ledger : KeyLedger Origin) : Prop where
  separate : ∀ place ∈ ledger.receiving, place.1 ≠ ledger.sending.1
  storedSending : ∀ key ∈ ledger.stored, key.1 ≠ ledger.sending.1
  storedReceiving : ∀ key ∈ ledger.stored, ∀ place ∈ ledger.receiving,
    key.1 = place.1 → key.2 < place.2
  usedSending : ∀ key ∈ ledger.used, key.1 = ledger.sending.1 → key.2 < ledger.sending.2
  usedReceiving : ∀ key ∈ ledger.used, ∀ place ∈ ledger.receiving,
    key.1 = place.1 → key.2 < place.2
  storedUnused : ∀ key ∈ ledger.stored, key ∉ ledger.used
  storedNodup : ledger.stored.Nodup
  usedNodup : ledger.used.Nodup

/-- Every chain of the ledger starts at a known origin. -/
structure Within (ledger : KeyLedger Origin) (known : Set Origin) : Prop where
  sending : ledger.sending.1 ∈ known
  receiving : ∀ place ∈ ledger.receiving, place.1 ∈ known
  stored : ∀ key ∈ ledger.stored, key.1 ∈ known
  used : ∀ key ∈ ledger.used, key.1 ∈ known

theorem Within.mono {ledger : KeyLedger Origin} {known more : Set Origin}
    (within : ledger.Within known) (subset : known ⊆ more) : ledger.Within more where
  sending := subset within.sending
  receiving place member := subset (within.receiving place member)
  stored key member := subset (within.stored key member)
  used key member := subset (within.used key member)

/-- The sending chain uses its next key. -/
def send (ledger : KeyLedger Origin) : KeyLedger Origin :=
  { ledger with
    sending := (ledger.sending.1, ledger.sending.2 + 1)
    used := ledger.sending :: ledger.used }

/-- The receiving chain stores its next keys. -/
def store (ledger : KeyLedger Origin) (place : Origin × Nat) (count : Nat) : KeyLedger Origin :=
  { ledger with
    receiving := some (place.1, place.2 + count)
    stored := ledger.stored ++ (List.range count).map fun offset => (place.1, place.2 + offset) }

/-- The receiving chain uses its next key. -/
def read (ledger : KeyLedger Origin) (place : Origin × Nat) : KeyLedger Origin :=
  { ledger with
    receiving := some (place.1, place.2 + 1)
    used := place :: ledger.used }

/-- A stored key between two parts of the list is used. -/
def take (ledger : KeyLedger Origin) (before : List (Origin × Nat)) (key : Origin × Nat)
    (after : List (Origin × Nat)) : KeyLedger Origin :=
  { ledger with
    stored := before ++ after
    used := key :: ledger.used }

/-- Both chains are replaced by new ones. -/
def renew (ledger : KeyLedger Origin) (receiving sending : Origin) : KeyLedger Origin :=
  { ledger with
    sending := (sending, 0)
    receiving := some (receiving, 0) }

/-- Some stored keys are dropped. -/
def drop (ledger : KeyLedger Origin) (count : Nat) : KeyLedger Origin :=
  { ledger with stored := ledger.stored.drop count }

theorem Sound.send {ledger : KeyLedger Origin} (sound : ledger.Sound) : ledger.send.Sound where
  separate := sound.separate
  storedSending := sound.storedSending
  storedReceiving := sound.storedReceiving
  usedSending key member same := by
    simp only [KeyLedger.send, List.mem_cons] at member same ⊢
    rcases member with rfl | old
    · exact Nat.lt_succ_self _
    · exact Nat.lt_succ_of_lt (sound.usedSending key old same)
  usedReceiving key member place present same := by
    rcases List.mem_cons.mp member with rfl | old
    · exact absurd same.symm (sound.separate place present)
    · exact sound.usedReceiving key old place present same
  storedUnused key member := by
    simp only [KeyLedger.send, List.mem_cons, not_or]
    exact ⟨fun same => sound.storedSending key member (congrArg Prod.fst same),
      sound.storedUnused key member⟩
  storedNodup := sound.storedNodup
  usedNodup := by
    refine List.nodup_cons.mpr ⟨fun member => ?_, sound.usedNodup⟩
    exact absurd (sound.usedSending _ member rfl) (Nat.lt_irrefl _)

theorem Sound.store {ledger : KeyLedger Origin} (sound : ledger.Sound) {place : Origin × Nat}
    (current : ledger.receiving = some place) (count : Nat) : (ledger.store place count).Sound := by
  have present : place ∈ ledger.receiving := by simp [current]
  constructor
  case separate =>
    intro next member
    simp only [KeyLedger.store, Option.mem_some_iff] at member
    subst member
    exact sound.separate place present
  case storedSending =>
    intro key member
    simp only [KeyLedger.store, List.mem_append, List.mem_map, List.mem_range] at member
    rcases member with old | ⟨offset, _, rfl⟩
    · exact sound.storedSending key old
    · exact sound.separate place present
  case storedReceiving =>
    intro key member next current' same
    simp only [KeyLedger.store, List.mem_append, List.mem_map, List.mem_range,
      Option.mem_some_iff] at member current'
    subst current'
    rcases member with old | ⟨offset, inside, rfl⟩
    · exact Nat.lt_add_right count (sound.storedReceiving key old place present same)
    · simpa using inside
  case usedSending => exact sound.usedSending
  case usedReceiving =>
    intro key member next current' same
    simp only [KeyLedger.store, Option.mem_some_iff] at current'
    subst current'
    exact Nat.lt_add_right count (sound.usedReceiving key member place present same)
  case storedUnused =>
    intro key member
    simp only [KeyLedger.store, List.mem_append, List.mem_map, List.mem_range] at member
    rcases member with old | ⟨offset, _, rfl⟩
    · exact sound.storedUnused key old
    · intro used
      have behind := sound.usedReceiving _ used place present rfl
      dsimp only at behind
      omega
  case storedNodup =>
    refine List.Nodup.append sound.storedNodup ?_ ?_
    · refine List.Nodup.map ?_ List.nodup_range
      intro first second same
      simpa using same
    · intro key old new
      obtain ⟨offset, _, rfl⟩ := List.mem_map.mp new
      have behind := sound.storedReceiving _ old place present rfl
      dsimp only at behind
      omega
  case usedNodup => exact sound.usedNodup

theorem Sound.read {ledger : KeyLedger Origin} (sound : ledger.Sound) {place : Origin × Nat}
    (current : ledger.receiving = some place) : (ledger.read place).Sound := by
  have present : place ∈ ledger.receiving := by simp [current]
  constructor
  case separate =>
    intro next member
    simp only [KeyLedger.read, Option.mem_some_iff] at member
    subst member
    exact sound.separate place present
  case storedSending => exact sound.storedSending
  case storedReceiving =>
    intro key member next current' same
    simp only [KeyLedger.read, Option.mem_some_iff] at current'
    subst current'
    exact Nat.lt_succ_of_lt (sound.storedReceiving key member place present same)
  case usedSending =>
    intro key member same
    rcases List.mem_cons.mp member with rfl | old
    · exact absurd same (sound.separate key present)
    · exact sound.usedSending key old same
  case usedReceiving =>
    intro key member next current' same
    simp only [KeyLedger.read, Option.mem_some_iff] at current'
    subst current'
    rcases List.mem_cons.mp member with rfl | old
    · exact Nat.lt_succ_self _
    · exact Nat.lt_succ_of_lt (sound.usedReceiving key old place present same)
  case storedUnused =>
    intro key member
    simp only [KeyLedger.read, List.mem_cons, not_or]
    refine ⟨?_, sound.storedUnused key member⟩
    rintro rfl
    exact absurd (sound.storedReceiving key member key present rfl) (Nat.lt_irrefl _)
  case storedNodup => exact sound.storedNodup
  case usedNodup =>
    refine List.nodup_cons.mpr ⟨fun member => ?_, sound.usedNodup⟩
    exact absurd (sound.usedReceiving _ member place present rfl) (Nat.lt_irrefl _)

theorem Sound.take {ledger : KeyLedger Origin} (sound : ledger.Sound)
    {before after : List (Origin × Nat)} {key : Origin × Nat}
    (split : ledger.stored = before ++ key :: after) :
    (ledger.take before key after).Sound := by
  have member : key ∈ ledger.stored := by simp [split]
  have subset : ∀ other ∈ before ++ after, other ∈ ledger.stored := by
    intro other inside
    rw [split]
    simp only [List.mem_append, List.mem_cons] at inside ⊢
    tauto
  have nodup : (key :: (before ++ after)).Nodup := by
    have original := sound.storedNodup
    rw [split] at original
    exact (List.perm_middle.nodup_iff).mp original
  constructor
  case separate => exact sound.separate
  case storedSending => exact fun other inside => sound.storedSending other (subset other inside)
  case storedReceiving =>
    exact fun other inside => sound.storedReceiving other (subset other inside)
  case usedSending =>
    intro other used same
    rcases List.mem_cons.mp used with rfl | old
    · exact absurd same (sound.storedSending other member)
    · exact sound.usedSending other old same
  case usedReceiving =>
    intro other used place present same
    rcases List.mem_cons.mp used with rfl | old
    · exact sound.storedReceiving other member place present same
    · exact sound.usedReceiving other old place present same
  case storedUnused =>
    intro other inside
    simp only [KeyLedger.take, List.mem_cons, not_or]
    refine ⟨?_, sound.storedUnused other (subset other inside)⟩
    rintro rfl
    exact (List.nodup_cons.mp nodup).1 inside
  case storedNodup => exact (List.nodup_cons.mp nodup).2
  case usedNodup => exact List.nodup_cons.mpr ⟨sound.storedUnused key member, sound.usedNodup⟩

theorem Sound.renew {ledger : KeyLedger Origin} (sound : ledger.Sound) {known : Set Origin}
    (within : ledger.Within known) {receiving sending : Origin}
    (freshReceiving : receiving ∉ known) (freshSending : sending ∉ known)
    (different : receiving ≠ sending) : (ledger.renew receiving sending).Sound := by
  have storedOld : ∀ key ∈ ledger.stored, ∀ fresh, fresh ∉ known → key.1 ≠ fresh := by
    rintro key member fresh unknown rfl
    exact unknown (within.stored key member)
  have usedOld : ∀ key ∈ ledger.used, ∀ fresh, fresh ∉ known → key.1 ≠ fresh := by
    rintro key member fresh unknown rfl
    exact unknown (within.used key member)
  constructor
  case separate =>
    intro place member
    simp only [KeyLedger.renew, Option.mem_some_iff] at member
    subst member
    exact different
  case storedSending => exact fun key member => storedOld key member sending freshSending
  case storedReceiving =>
    intro key member place present same
    simp only [KeyLedger.renew, Option.mem_some_iff] at present
    subst present
    exact absurd same (storedOld key member receiving freshReceiving)
  case usedSending =>
    exact fun key member same => absurd same (usedOld key member sending freshSending)
  case usedReceiving =>
    intro key member place present same
    simp only [KeyLedger.renew, Option.mem_some_iff] at present
    subst present
    exact absurd same (usedOld key member receiving freshReceiving)
  case storedUnused => exact sound.storedUnused
  case storedNodup => exact sound.storedNodup
  case usedNodup => exact sound.usedNodup

theorem Sound.drop {ledger : KeyLedger Origin} (sound : ledger.Sound) (count : Nat) :
    (ledger.drop count).Sound where
  separate := sound.separate
  storedSending key member := sound.storedSending key (List.mem_of_mem_drop member)
  storedReceiving key member := sound.storedReceiving key (List.mem_of_mem_drop member)
  usedSending := sound.usedSending
  usedReceiving := sound.usedReceiving
  storedUnused key member := sound.storedUnused key (List.mem_of_mem_drop member)
  storedNodup := sound.storedNodup.sublist (List.drop_sublist _ _)
  usedNodup := sound.usedNodup

theorem Within.send {ledger : KeyLedger Origin} {known : Set Origin}
    (within : ledger.Within known) : ledger.send.Within known where
  sending := within.sending
  receiving := within.receiving
  stored := within.stored
  used key member := by
    rcases List.mem_cons.mp member with rfl | old
    · exact within.sending
    · exact within.used key old

theorem Within.store {ledger : KeyLedger Origin} {known : Set Origin}
    (within : ledger.Within known) {place : Origin × Nat}
    (current : ledger.receiving = some place) (count : Nat) :
    (ledger.store place count).Within known := by
  have start := within.receiving place (by simp [current])
  constructor
  case sending => exact within.sending
  case receiving =>
    intro next member
    simp only [KeyLedger.store, Option.mem_some_iff] at member
    subst member
    exact start
  case stored =>
    intro key member
    simp only [KeyLedger.store, List.mem_append, List.mem_map] at member
    rcases member with old | ⟨offset, _, rfl⟩
    · exact within.stored key old
    · exact start
  case used => exact within.used

theorem Within.read {ledger : KeyLedger Origin} {known : Set Origin}
    (within : ledger.Within known) {place : Origin × Nat}
    (current : ledger.receiving = some place) : (ledger.read place).Within known := by
  have start := within.receiving place (by simp [current])
  constructor
  case sending => exact within.sending
  case receiving =>
    intro next member
    simp only [KeyLedger.read, Option.mem_some_iff] at member
    subst member
    exact start
  case stored => exact within.stored
  case used =>
    intro key member
    rcases List.mem_cons.mp member with rfl | old
    · exact start
    · exact within.used key old

theorem Within.take {ledger : KeyLedger Origin} {known : Set Origin}
    (within : ledger.Within known) {before after : List (Origin × Nat)} {key : Origin × Nat}
    (split : ledger.stored = before ++ key :: after) :
    (ledger.take before key after).Within known := by
  have stored := within.stored
  rw [split] at stored
  constructor
  case sending => exact within.sending
  case receiving => exact within.receiving
  case stored =>
    intro other member
    apply stored
    simp only [KeyLedger.take, List.mem_append, List.mem_cons] at member ⊢
    tauto
  case used =>
    intro other member
    rcases List.mem_cons.mp member with rfl | old
    · exact stored other (by simp)
    · exact within.used other old

theorem Within.renew {ledger : KeyLedger Origin} {known : Set Origin}
    (within : ledger.Within known) {receiving sending : Origin}
    (knownReceiving : receiving ∈ known) (knownSending : sending ∈ known) :
    (ledger.renew receiving sending).Within known where
  sending := knownSending
  receiving place member := by
    simp only [KeyLedger.renew, Option.mem_some_iff] at member
    subst member
    exact knownReceiving
  stored := within.stored
  used := within.used

theorem Within.drop {ledger : KeyLedger Origin} {known : Set Origin}
    (within : ledger.Within known) (count : Nat) : (ledger.drop count).Within known where
  sending := within.sending
  receiving := within.receiving
  stored key member := within.stored key (List.mem_of_mem_drop member)
  used := within.used

end KeyLedger
