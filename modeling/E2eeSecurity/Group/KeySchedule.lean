/-
This file treats the key schedule of the groups as free functions, and gives what follows from a
chain key or a seed.
-/
import E2eeSecurity.Group.Messages
import E2eeSecurity.Group.Stored
import E2eeSecurity.Symbolic
import Mathlib.Logic.Relation

namespace E2eeSecurity

variable {β : Type}

/-- These are the ways in which a group derives one key from another. -/
inductive GroupDerivation (β : Type)
  | advance (chainKey : Bytes β)
  | welcome (chainKey : Bytes β)
  | add (chainKey : Bytes β)
  | messageKey (chainKey : Bytes β)

def GroupDerivation.source : GroupDerivation β → Bytes β
  | .advance chainKey => chainKey
  | .welcome chainKey => chainKey
  | .add chainKey => chainKey
  | .messageKey chainKey => chainKey

/-- This is the chain key after an addition. -/
def CipherSuite.added (cipherSuite : CipherSuite β) (chainKey : Bytes β) : Bytes β :=
  cipherSuite.hf.hkdf chainKey (cipherSuite.text "add") [cipherSuite.byte 0x02]
    cipherSuite.hf.hfLen

def CipherSuite.deriveGroup (cipherSuite : CipherSuite β) : GroupDerivation β → Bytes β
  | .advance chainKey => cipherSuite.advance chainKey
  | .welcome chainKey => advanceGroupChainKeyByWelcome cipherSuite chainKey
  | .add chainKey => cipherSuite.added chainKey
  | .messageKey chainKey => createGroupMessageKey cipherSuite chainKey

/-- The key schedule has no collisions, and no key leads back to itself. -/
structure CipherSuite.FreeGroupKeys (cipherSuite : CipherSuite β) : Prop where
  injective : Function.Injective cipherSuite.deriveGroup
  grounded : ∃ rank : Bytes β → Nat, ∀ derivation : GroupDerivation β,
    rank derivation.source < rank (cipherSuite.deriveGroup derivation)

section FullKeys

variable {cipherSuite : CipherSuite β}

theorem welcome_full (chainKey : Bytes β) :
    cipherSuite.FullKey (advanceGroupChainKeyByWelcome cipherSuite chainKey) :=
  cipherSuite.hf.hkdfLength _ _ _ _

theorem added_full (chainKey : Bytes β) : cipherSuite.FullKey (cipherSuite.added chainKey) :=
  cipherSuite.hf.hkdfLength _ _ _ _

theorem groupChainKey_full (groupSeed signPublicKey : Bytes β) :
    cipherSuite.FullKey (cipherSuite.groupChainKey groupSeed signPublicKey) :=
  cipherSuite.hf.hkdfLength _ _ _ _

/-- The copy into a full chain key keeps all of the new one. -/
theorem overwriteProtobuf_full {dest source : Bytes β} (full : cipherSuite.FullKey dest)
    (sourceFull : cipherSuite.FullKey source) : overwriteProtobuf dest source = source := by
  rw [overwriteProtobuf, List.take_of_length_le]
  exact (sourceFull.trans full.symm).le

theorem advanceGroupChainKey_full {chainKey : Bytes β} (full : cipherSuite.FullKey chainKey) :
    advanceGroupChainKey cipherSuite chainKey = cipherSuite.advance chainKey :=
  overwriteProtobuf_full full (cipherSuite.hf.hmacLength _ _)

theorem advanceGroupChainKeyByAdd_full (srcChainKey : Bytes β) {destChainKey : Bytes β}
    (full : cipherSuite.FullKey destChainKey) :
    advanceGroupChainKeyByAdd cipherSuite srcChainKey destChainKey =
      cipherSuite.added srcChainKey :=
  overwriteProtobuf_full full (added_full srcChainKey)

theorem advanceGroupChainKey_iterate_full {chainKey : Bytes β}
    (full : cipherSuite.FullKey chainKey) (count : Nat) :
    (advanceGroupChainKey cipherSuite)^[count] chainKey = cipherSuite.advance^[count] chainKey := by
  induction count with
  | zero => rfl
  | succ count ih =>
      rw [Function.iterate_succ_apply', ih,
        advanceGroupChainKey_full (advance_iterate_full full count), Function.iterate_succ_apply']

theorem welcomeAndAdd_full (infos : List (GroupMemberInfo β)) {chainKey : Bytes β}
    (full : cipherSuite.FullKey chainKey) :
    cipherSuite.FullKey (welcomeAndAdd cipherSuite infos chainKey).2 := by
  induction infos generalizing chainKey with
  | nil => exact full
  | cons info rest ih =>
      apply ih
      rw [advanceGroupChainKeyByAdd_full _ full]
      exact added_full _

theorem welcomeAndAdd_welcome_full (infos : List (GroupMemberInfo β)) (chainKey : Bytes β)
    {theirs : Bytes β} (member : theirs ∈ (welcomeAndAdd cipherSuite infos chainKey).1) :
    cipherSuite.FullKey theirs := by
  induction infos generalizing chainKey with
  | nil => cases member
  | cons info rest ih =>
      obtain rfl | later := List.mem_cons.mp member
      · exact welcome_full chainKey
      · exact ih _ later

theorem CipherSuite.FullKey.valid {chainKey : Bytes β} (full : cipherSuite.FullKey chainKey) :
    isValidProtobuf chainKey = true :=
  isValidProtobuf_of_length full cipherSuite.hf.hfLenPositive

/-- The steps of a session add up. -/
theorem GroupSession.advance_iterate (session : GroupSession β) (count : Nat) :
    (GroupSession.advance cipherSuite)^[count] session =
      { session with
        chainKey := (advanceGroupChainKey cipherSuite)^[count] session.chainKey
        sequence := session.sequence + UInt32.ofNat count } := by
  induction count with
  | zero => simp
  | succ count ih =>
      rw [Function.iterate_succ_apply', ih, GroupSession.advance, Function.iterate_succ_apply']
      simp only [UInt32.ofNat_add, UInt32.add_assoc]
      rfl

theorem advanceGroupChainKey_valid {chainKey : Bytes β}
    (valid : isValidProtobuf chainKey = true) :
    isValidProtobuf (advanceGroupChainKey cipherSuite chainKey) = true := by
  have positive := cipherSuite.hf.hfLenPositive
  rw [isValidProtobuf_iff, ← List.length_pos_iff] at valid ⊢
  rw [advanceGroupChainKey, overwriteProtobuf, List.length_take, cipherSuite.hf.hmacLength]
  omega

theorem GroupSession.advance_valid {getE2eesPack : Packs β} {session : GroupSession β}
    (valid : isValidGroupSession getE2eesPack session = true) :
    isValidGroupSession getE2eesPack (session.advance cipherSuite) = true := by
  simp only [isValidGroupSession, isValidGroupSessionHead, Bool.and_eq_true] at valid
  simp only [isValidGroupSession, isValidGroupSessionHead, GroupSession.advance, valid,
    advanceGroupChainKey_valid valid.1.2, Bool.and_self]

/-- A session stays valid however far its chain moves. -/
theorem GroupSession.advance_iterate_valid {getE2eesPack : Packs β} {session : GroupSession β}
    (valid : isValidGroupSession getE2eesPack session = true) (count : Nat) :
    isValidGroupSession getE2eesPack ((GroupSession.advance cipherSuite)^[count] session) =
      true := by
  induction count with
  | zero => exact valid
  | succ count ih =>
      rw [Function.iterate_succ_apply']
      exact GroupSession.advance_valid ih

@[simp] theorem GroupSession.advance_iterate_key (session : GroupSession β) (count : Nat) :
    ((GroupSession.advance cipherSuite)^[count] session).key = session.key := by
  rw [GroupSession.advance_iterate]
  rfl

@[simp] theorem GroupSession.advance_iterate_e2eesPackId (session : GroupSession β) (count : Nat) :
    ((GroupSession.advance cipherSuite)^[count] session).e2eesPackId = session.e2eesPackId := by
  rw [GroupSession.advance_iterate]

@[simp] theorem GroupSession.advance_iterate_sessionId (session : GroupSession β) (count : Nat) :
    ((GroupSession.advance cipherSuite)^[count] session).sessionId = session.sessionId := by
  rw [GroupSession.advance_iterate]

@[simp] theorem GroupSession.advance_iterate_sender (session : GroupSession β) (count : Nat) :
    ((GroupSession.advance cipherSuite)^[count] session).sender = session.sender := by
  rw [GroupSession.advance_iterate]

@[simp] theorem GroupSession.advance_iterate_sessionOwner (session : GroupSession β) (count : Nat) :
    ((GroupSession.advance cipherSuite)^[count] session).sessionOwner = session.sessionOwner := by
  rw [GroupSession.advance_iterate]

@[simp] theorem GroupSession.advance_iterate_groupInfo (session : GroupSession β) (count : Nat) :
    ((GroupSession.advance cipherSuite)^[count] session).groupInfo = session.groupInfo := by
  rw [GroupSession.advance_iterate]

@[simp] theorem GroupSession.advance_iterate_associatedData (session : GroupSession β)
    (count : Nat) : ((GroupSession.advance cipherSuite)^[count] session).associatedData =
      session.associatedData := by
  rw [GroupSession.advance_iterate]

theorem GroupSession.advance_iterate_chainKey {session : GroupSession β}
    (full : cipherSuite.FullKey session.chainKey) (count : Nat) :
    ((GroupSession.advance cipherSuite)^[count] session).chainKey =
      cipherSuite.advance^[count] session.chainKey := by
  rw [GroupSession.advance_iterate]
  exact advanceGroupChainKey_iterate_full full count

theorem GroupSession.advance_iterate_full {session : GroupSession β}
    (full : cipherSuite.FullKey session.chainKey) (count : Nat) :
    cipherSuite.FullKey ((GroupSession.advance cipherSuite)^[count] session).chainKey := by
  rw [GroupSession.advance_iterate_chainKey full]
  exact E2eeSecurity.advance_iterate_full full count

theorem GroupSession.catchUp_eq (session : GroupSession β) (sequence : UInt32) :
    session.catchUp cipherSuite sequence =
      { session with
        chainKey := (advanceGroupChainKey cipherSuite)^[sequence.toNat - session.sequence.toNat]
          session.chainKey
        sequence := session.sequence +
          UInt32.ofNat (sequence.toNat - session.sequence.toNat) } :=
  session.advance_iterate _

end FullKeys

section Ranks

variable {cipherSuite : CipherSuite β} {rank : Bytes β → Nat}
  (grows : ∀ derivation : GroupDerivation β,
    rank derivation.source < rank (cipherSuite.deriveGroup derivation))

include grows

theorem advance_iterate_rank (chainKey : Bytes β) (count : Nat) :
    rank chainKey + count ≤ rank (cipherSuite.advance^[count] chainKey) := by
  induction count with
  | zero => exact Nat.le_refl _
  | succ count ih =>
      rw [Function.iterate_succ_apply']
      have larger := grows (.advance (cipherSuite.advance^[count] chainKey))
      simp only [GroupDerivation.source, CipherSuite.deriveGroup] at larger
      omega

/-- Every new device takes the chain of the adder further. -/
theorem welcomeAndAdd_rank (infos : List (GroupMemberInfo β)) {chainKey : Bytes β}
    (full : cipherSuite.FullKey chainKey) :
    rank chainKey + infos.length ≤ rank (welcomeAndAdd cipherSuite infos chainKey).2 := by
  induction infos generalizing chainKey with
  | nil => exact Nat.le_refl _
  | cons info rest ih =>
      rw [welcomeAndAdd, advanceGroupChainKeyByAdd_full _ full]
      have welcome := grows (.welcome chainKey)
      have add := grows (.add (advanceGroupChainKeyByWelcome cipherSuite chainKey))
      have later := ih (added_full (advanceGroupChainKeyByWelcome cipherSuite chainKey))
      simp only [GroupDerivation.source, CipherSuite.deriveGroup] at welcome add
      rw [List.length_cons]
      dsimp only
      omega

end Ranks

section Freeness

variable {cipherSuite : CipherSuite β} (free : cipherSuite.FreeGroupKeys)

include free

theorem createGroupMessageKey_inj {first second : Bytes β}
    (same : createGroupMessageKey cipherSuite first = createGroupMessageKey cipherSuite second) :
    first = second := by
  have equal := @free.injective (.messageKey first) (.messageKey second) same
  simpa using equal

/-- The places of a chain have different keys. -/
theorem advance_iterate_inj (chainKey : Bytes β) {i j : Nat}
    (same : cipherSuite.advance^[i] chainKey = cipherSuite.advance^[j] chainKey) : i = j := by
  obtain ⟨rank, grows⟩ := free.grounded
  have increasing : StrictMono fun count => rank (cipherSuite.advance^[count] chainKey) := by
    refine strictMono_nat_of_lt_succ fun count => ?_
    rw [Function.iterate_succ_apply']
    exact grows (.advance _)
  exact increasing.injective (congrArg rank same)

/-- A walk over new devices leaves its chain behind for good. -/
theorem walked_ne {infos : List (GroupMemberInfo β)} (nonempty : infos ≠ []) {chainKey : Bytes β}
    (full : cipherSuite.FullKey chainKey) (count : Nat) :
    (welcomeAndAdd cipherSuite infos (cipherSuite.advance^[count] chainKey)).2 ≠ chainKey := by
  obtain ⟨rank, grows⟩ := free.grounded
  intro same
  have advanced := advance_iterate_rank grows chainKey count
  have walked := welcomeAndAdd_rank grows infos (advance_iterate_full full count)
  rw [same] at walked
  have positive := List.length_pos_iff.mpr nonempty
  omega

end Freeness

theorem symbolicSuite_freeGroupKeys : symbolicSuite.FreeGroupKeys where
  injective := by
    rintro first second same
    cases first <;> cases second <;>
      simp [CipherSuite.deriveGroup, CipherSuite.advance, CipherSuite.added,
        advanceGroupChainKeyByWelcome, createGroupMessageKey, symbolicSuite, Symbolic.hfSuite,
        Symbolic.seSuite, List.range_succ, CipherSuite.text] at same ⊢ <;>
      exact same
  grounded := by
    refine ⟨fun key => sizeOf (FreeTerm.pack key), fun derivation => ?_⟩
    cases derivation <;>
      simp [GroupDerivation.source, CipherSuite.deriveGroup, CipherSuite.advance,
        CipherSuite.added, advanceGroupChainKeyByWelcome, createGroupMessageKey, symbolicSuite,
        Symbolic.hfSuite, Symbolic.seSuite, List.range_succ, FreeTerm.pack] <;>
      omega

end E2eeSecurity
