/-
This file follows `insert_opks` of `account.c` through the memory that it allocates and releases.
-/
import E2eeSecurity.Library.Heap
import E2eeSecurity.Library.Slots
import E2eeSecurity.Session.Account

namespace E2eeSecurity

variable {β : Type}

/-- A one-time pre-key is released together with its key pair. -/
inductive OpkObject (β : Type) where
  | array (slots : Slots Pointer)
  | oneTimePreKey (key : OneTimePreKey β)

/-- These are the fields of an account in memory that the insertion reads and writes. -/
structure OpkAccount where
  oneTimePreKeyList : Pointer
  nOneTimePreKeyList : Nat
  nextOneTimePreKeyId : UInt32

section Access

/-- This is the size of a pointer in bytes. -/
def pointerSize : Nat := 8

def loadSlot (array : Pointer) (position : Nat) : Memory (OpkObject β) Pointer := do
  match ← Memory.load array with
  | .array slots => StateT.lift (slots[position]?).join
  | .oneTimePreKey _ => StateT.lift none

def storeSlot (array : Pointer) (position : Nat) (pointer : Pointer) :
    Memory (OpkObject β) Unit := do
  match ← Memory.load array with
  | .array slots => do
      let written ← StateT.lift (slots.write position pointer)
      Memory.store array (.array written)
  | .oneTimePreKey _ => StateT.lift none

def loadOpk (pointer : Pointer) : Memory (OpkObject β) (OneTimePreKey β) := do
  match ← Memory.load pointer with
  | .oneTimePreKey key => pure key
  | .array _ => StateT.lift none

/-- The result is the pointer variable after the call. -/
def freeMem (buffer : Pointer) (bufferLen : Nat) : Memory (OpkObject β) Pointer :=
  if buffer = none ∨ bufferLen = 0 then pure buffer
  else do
    Memory.free buffer
    pure none

/-- These are the keys of the slots from the given position on. -/
def loadOpks (list : Pointer) : Nat → Nat → Memory (OpkObject β) (List (OneTimePreKey β))
  | _, 0 => pure []
  | position, count + 1 => do
      let key ← loadOpk (← loadSlot list position)
      return key :: (← loadOpks list (position + 1) count)

end Access

section Insertion

/-- The check stops at the first key that fails it. -/
def allValidOpks (list : Pointer) : Nat → Nat → Memory (OpkObject β) Bool
  | _, 0 => pure true
  | position, count + 1 => do
      match ← loadSlot list position with
      | none => pure false
      | some address => do
          if isValidOneTimePreKey (← loadOpk (some address)) then
            allValidOpks list (position + 1) count
          else pure false

def isValidOneTimePreKeyList (list : Pointer) (len : Nat) : Memory (OpkObject β) Bool :=
  if len > 0 ∧ list = none then pure false
  else if len = 0 ∧ list ≠ none then pure false
  else allValidOpks list 0 len

/-- Both loops copy the keys of a list behind each other and release the originals. -/
def moveOpks (init : OneTimePreKey β) (temp : Pointer) (offset : Nat) (list : Pointer) :
    Nat → Nat → Memory (OpkObject β) Unit
  | _, 0 => pure ()
  | position, count + 1 => do
      let copy ← Memory.alloc (.oneTimePreKey init)
      storeSlot temp (offset + position) copy
      let cur ← loadSlot list position
      let key ← loadOpk cur
      Memory.store copy (.oneTimePreKey key)
      Memory.free cur
      moveOpks init temp offset list (position + 1) count

/-- The identifier is read through the variable `src` as it is at that time. -/
def nextOpkId (src : Pointer) (srcNum : Nat) : Memory (OpkObject β) UInt32 := do
  let key ← loadOpk (← loadSlot src (srcNum - 1))
  return key.opkId + 1

/-- The account has one-time pre-keys, and both lists are moved into a new array.
The variable `src` is null after its release, and its last element is read behind that. -/
def growOpks (init : OneTimePreKey β) (account : OpkAccount) (src : Pointer) (srcNum : Nat) :
    Memory (OpkObject β) (Bool × OpkAccount) := do
  let oldOpkNum := account.nOneTimePreKeyList
  let newOpkNum := oldOpkNum + srcNum
  let temp ← Memory.alloc (.array (Slots.malloc Pointer newOpkNum))
  moveOpks init temp 0 account.oneTimePreKeyList 0 oldOpkNum
  let _ ← freeMem account.oneTimePreKeyList (pointerSize * oldOpkNum)
  moveOpks init temp oldOpkNum src 0 srcNum
  let src ← freeMem src (pointerSize * srcNum)
  let nextOneTimePreKeyId ← nextOpkId src srcNum
  return (true, ⟨temp, newOpkNum, nextOneTimePreKeyId⟩)

/-- The first result tells whether the call succeeds. -/
def insertOpks (init : OneTimePreKey β) (account : OpkAccount) (src : Pointer) (srcNum : Nat) :
    Memory (OpkObject β) (Bool × OpkAccount) := do
  if ← isValidOneTimePreKeyList account.oneTimePreKeyList account.nOneTimePreKeyList then
    if account.nOneTimePreKeyList = 0 then
      let nextOneTimePreKeyId ← nextOpkId src srcNum
      return (true, ⟨src, srcNum, nextOneTimePreKeyId⟩)
    else growOpks init account src srcNum
  else return (false, account)

end Insertion

section Reading

variable {heap : Heap (OpkObject β)}

/-- A step that was taken has a first part and a rest. -/
theorem bind_some {α ω : Type} {step : Memory (OpkObject β) α}
    {rest : α → Memory (OpkObject β) ω} {result : ω × Heap (OpkObject β)}
    (taken : (step >>= rest) heap = some result) :
    ∃ value between, step heap = some (value, between) ∧ rest value between = some result := by
  have unfolded : (step heap).bind (fun outcome => rest outcome.1 outcome.2) = some result := taken
  obtain ⟨⟨value, between⟩, first, second⟩ := Option.bind_eq_some_iff.mp unfolded
  exact ⟨value, between, first, second⟩

theorem loadOpks_length {list : Pointer} (count : Nat) {position : Nat}
    {keys : List (OneTimePreKey β)} {after : Heap (OpkObject β)}
    (loaded : loadOpks list position count heap = some (keys, after)) : keys.length = count := by
  induction count generalizing position keys heap with
  | zero =>
      cases loaded
      rfl
  | succ count ih =>
      obtain ⟨pointer, first, -, loaded⟩ := bind_some loaded
      obtain ⟨key, second, -, loaded⟩ := bind_some loaded
      obtain ⟨rest, third, tail, loaded⟩ := bind_some loaded
      cases loaded
      rw [List.length_cons, ih tail]

theorem load_same {pointer : Pointer} {object : OpkObject β} {after : Heap (OpkObject β)}
    (loaded : Memory.load pointer heap = some (object, after)) : after = heap := by
  rw [Memory.load, Option.map_eq_some_iff] at loaded
  obtain ⟨found, -, same⟩ := loaded
  exact (congrArg Prod.snd same).symm

theorem lift_same {α : Type} {value : Option α} {result : α} {after : Heap (OpkObject β)}
    (lifted : (StateT.lift value : Memory (OpkObject β) α) heap = some (result, after)) :
    after = heap := by
  cases value with
  | none => cases lifted
  | some found =>
      cases lifted
      rfl

theorem loadSlot_same {array : Pointer} {position : Nat} {pointer : Pointer}
    {after : Heap (OpkObject β)}
    (loaded : loadSlot array position heap = some (pointer, after)) : after = heap := by
  obtain ⟨object, between, first, rest⟩ := bind_some loaded
  obtain rfl := load_same first
  cases object with
  | array slots => exact lift_same rest
  | oneTimePreKey key => exact lift_same rest

theorem loadOpk_same {pointer : Pointer} {key : OneTimePreKey β} {after : Heap (OpkObject β)}
    (loaded : loadOpk pointer heap = some (key, after)) : after = heap := by
  obtain ⟨object, between, first, rest⟩ := bind_some loaded
  obtain rfl := load_same first
  cases object with
  | array slots => exact lift_same rest
  | oneTimePreKey key =>
      cases rest
      rfl

/-- The last key is the one in the last slot. -/
theorem loadOpks_last {list : Pointer} (count : Nat) {position : Nat}
    {keys : List (OneTimePreKey β)} {after : Heap (OpkObject β)}
    (loaded : loadOpks list position (count + 1) heap = some (keys, after)) :
    ∃ last, keys.getLast? = some last ∧
      (loadSlot list (position + count) >>= loadOpk) heap = some (last, heap) := by
  induction count generalizing position keys with
  | zero =>
      obtain ⟨pointer, between, slot, opened⟩ := bind_some loaded
      have same := loadSlot_same slot
      subst same
      obtain ⟨key, later, read, listed⟩ := bind_some opened
      have unchanged := loadOpk_same read
      subst unchanged
      cases listed
      refine ⟨key, rfl, ?_⟩
      show (loadSlot list position _).bind _ = _
      rw [slot]
      exact read
  | succ count ih =>
      obtain ⟨pointer, between, slot, opened⟩ := bind_some loaded
      rw [loadSlot_same slot] at opened
      obtain ⟨key, later, read, listed⟩ := bind_some opened
      rw [loadOpk_same read] at listed
      obtain ⟨rest, final, tail, ended⟩ := bind_some listed
      cases ended
      obtain ⟨last, ends, found⟩ := ih tail
      refine ⟨last, ?_, ?_⟩
      · rw [List.getLast?_cons, ends]
        rfl
      · rw [Nat.add_right_comm, Nat.add_assoc] at found
        exact found

end Reading

section Faulting

theorem nextOpkId_null_faults (srcNum : Nat) :
    (nextOpkId none srcNum : Memory (OpkObject β) UInt32).Faults := by
  have slot : (loadSlot none (srcNum - 1) : Memory (OpkObject β) Pointer).Faults := by
    rw [loadSlot]
    exact Memory.load_null_faults.bind _
  rw [nextOpkId]
  exact slot.bind _

/-- The released variable is null, whether it was null before or not. -/
theorem freeMem_faults {α : Type} (buffer : Pointer) {bufferLen : Nat} (positive : bufferLen ≠ 0)
    {rest : Pointer → Memory (OpkObject β) α} (faults : (rest none).Faults) :
    (freeMem buffer bufferLen >>= rest).Faults := by
  cases buffer with
  | none =>
      rw [freeMem, if_pos (Or.inl rfl)]
      exact faults
  | some address =>
      have held : ¬ ((some address : Pointer) = none ∨ bufferLen = 0) := by simp [positive]
      rw [freeMem, if_neg held, bind_assoc]
      apply Memory.faults_of_rest
      intro
      exact faults

/-- A list that is not empty is moved, and then the call reads through a null pointer. -/
theorem growOpks_faults (init : OneTimePreKey β) (account : OpkAccount) (src : Pointer)
    {srcNum : Nat} (positive : srcNum ≠ 0) : (growOpks init account src srcNum).Faults := by
  have size : pointerSize * srcNum ≠ 0 := by
    rw [pointerSize]
    omega
  rw [growOpks]
  apply Memory.faults_of_rest
  intro temp
  apply Memory.faults_of_rest
  intro
  apply Memory.faults_of_rest
  intro
  apply Memory.faults_of_rest
  intro
  apply freeMem_faults src size
  exact (nextOpkId_null_faults srcNum).bind _

/-- A list that passes its check is extended in the way of its length. -/
theorem insertOpks_valid (init : OneTimePreKey β) {heap : Heap (OpkObject β)}
    {account : OpkAccount} (src : Pointer) (srcNum : Nat)
    (valid : isValidOneTimePreKeyList account.oneTimePreKeyList account.nOneTimePreKeyList heap =
      some (true, heap)) :
    insertOpks init account src srcNum heap =
      if account.nOneTimePreKeyList = 0 then
        (nextOpkId src srcNum heap).map fun next => ((true, ⟨src, srcNum, next.1⟩), next.2)
      else growOpks init account src srcNum heap := by
  rw [insertOpks]
  show (isValidOneTimePreKeyList _ _ heap).bind _ = _
  rw [valid, Option.bind_some]
  show (if account.nOneTimePreKeyList = 0 then (nextOpkId src srcNum >>= fun next =>
    pure (true, ⟨src, srcNum, next⟩)) else growOpks init account src srcNum) heap = _
  split
  case isTrue empty =>
    show (nextOpkId src srcNum heap).bind _ = _
    rw [Option.map_eq_bind]
    rfl
  case isFalse => rfl

end Faulting

/-- The insertion succeeds, and the account lists its old keys followed by the new ones. -/
def Appends (init : OneTimePreKey β) (heap : Heap (OpkObject β)) (account : OpkAccount)
    (src : Pointer) (srcNum : Nat) (old new : List (OneTimePreKey β)) : Prop :=
  ∃ after memory, insertOpks init account src srcNum heap = some ((true, after), memory) ∧
    (loadOpks after.oneTimePreKeyList 0 after.nOneTimePreKeyList memory).map Prod.fst =
      some (old ++ new) ∧
    after.nOneTimePreKeyList = account.nOneTimePreKeyList + srcNum ∧
    ∀ last, new.getLast? = some last → after.nextOneTimePreKeyId = last.opkId + 1

/-- The insertion reads through a null pointer unless the account has no one-time pre-key. -/
theorem insertOpks_appends_iff (init : OneTimePreKey β) (heap : Heap (OpkObject β))
    (account : OpkAccount) (src : Pointer) (srcNum : Nat) (old new : List (OneTimePreKey β))
    (valid : isValidOneTimePreKeyList account.oneTimePreKeyList account.nOneTimePreKeyList heap =
      some (true, heap))
    (held : loadOpks account.oneTimePreKeyList 0 account.nOneTimePreKeyList heap =
      some (old, heap))
    (given : loadOpks src 0 srcNum heap = some (new, heap)) (nonempty : new ≠ []) :
    Appends init heap account src srcNum old new ↔ old = [] := by
  have counted := loadOpks_length _ held
  have newCounted := loadOpks_length _ given
  have emptied : old = [] ↔ account.nOneTimePreKeyList = 0 := by
    rw [← counted, List.length_eq_zero_iff]
  obtain ⟨count, rfl⟩ : ∃ count, srcNum = count + 1 := by
    have positive := List.length_pos_iff.mpr nonempty
    exact ⟨srcNum - 1, by omega⟩
  rw [Appends, insertOpks_valid init src (count + 1) valid, emptied]
  by_cases empty : account.nOneTimePreKeyList = 0
  · obtain ⟨last, ends, found⟩ := loadOpks_last count given
    rw [Nat.zero_add] at found
    have next : nextOpkId src (count + 1) heap = some (last.opkId + 1, heap) := by
      rw [nextOpkId, ← bind_assoc, Nat.add_sub_cancel]
      show ((loadSlot src count >>= loadOpk) heap).bind _ = _
      rw [found]
      rfl
    rw [if_pos empty, next, empty, emptied.mpr empty]
    refine ⟨fun _ => rfl, fun _ => ⟨_, heap, rfl, ?_, (Nat.zero_add _).symm, ?_⟩⟩
    · show (loadOpks src 0 (count + 1) heap).map Prod.fst = _
      rw [given]
      rfl
    · intro other otherEnds
      rw [ends, Option.some.injEq] at otherEnds
      rw [otherEnds]
  · rw [if_neg empty, growOpks_faults init account src (Nat.succ_ne_zero count)]
    constructor
    · rintro ⟨after, memory, made, -⟩
      cases made
    · intro none
      exact absurd none empty

/-- One key and a list of it stand first in memory, and another key and its list behind. -/
def sampleOpks : Heap (OpkObject UInt8) :=
  [some (.oneTimePreKey ⟨1, false, ⟨[1], [2]⟩⟩), some (.array [some (some 0)]),
    some (.oneTimePreKey ⟨2, false, ⟨[3], [4]⟩⟩), some (.array [some (some 2)])]

theorem insertOpks_appends_first :
    Appends ⟨0, false, ⟨[], []⟩⟩ sampleOpks ⟨none, 0, 0⟩ (some 3) 1 []
      [⟨2, false, ⟨[3], [4]⟩⟩] :=
  (insertOpks_appends_iff _ sampleOpks ⟨none, 0, 0⟩ (some 3) 1 [] [⟨2, false, ⟨[3], [4]⟩⟩] rfl rfl
    rfl (by simp)).mpr rfl

/-- A second key for an account with one key cannot be inserted. -/
theorem insertOpks_second_faults :
    ¬ ∀ (init : OneTimePreKey UInt8) (heap : Heap (OpkObject UInt8)) (account : OpkAccount)
      (src : Pointer) (srcNum : Nat) (old new : List (OneTimePreKey UInt8)),
      isValidOneTimePreKeyList account.oneTimePreKeyList account.nOneTimePreKeyList heap =
        some (true, heap) →
      loadOpks account.oneTimePreKeyList 0 account.nOneTimePreKeyList heap = some (old, heap) →
      loadOpks src 0 srcNum heap = some (new, heap) → new ≠ [] →
      Appends init heap account src srcNum old new := by
  intro claimed
  obtain ⟨after, memory, made, -⟩ := claimed ⟨0, false, ⟨[], []⟩⟩ sampleOpks ⟨some 1, 1, 2⟩
    (some 3) 1 [⟨1, false, ⟨[1], [2]⟩⟩] [⟨2, false, ⟨[3], [4]⟩⟩] rfl rfl rfl (by simp)
  have fault : insertOpks ⟨0, false, ⟨[], []⟩⟩ ⟨some 1, 1, 2⟩ (some 3) 1 sampleOpks = none := rfl
  rw [fault] at made
  cases made

end E2eeSecurity
