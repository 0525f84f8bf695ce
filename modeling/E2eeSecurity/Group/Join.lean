/-
This file shows that the bundles of the old devices bring a new device to the same keys, in whatever
order they arrive.
-/
import E2eeSecurity.Group.Add

namespace E2eeSecurity

variable {β : Type}

section Invited

variable (getE2eesPack : Packs β) (cipherSuite : CipherSuite β) (userAddress : E2eeAddress)

/-- The loop over the added devices walks the chain of the adder.
The sessions that it stores do not depend on the chain key of the invited device. -/
theorem invitedStep_foldl (infos : List (GroupMemberInfo β)) (outbound : GroupSession β)
    (groups : GroupStore β) (senderChainKey : Bytes β) :
    (infos.foldl (invitedStep getE2eesPack cipherSuite userAddress)
      ⟨outbound, groups, senderChainKey⟩).groups =
      (infos.zip (welcomeAndAdd cipherSuite infos senderChainKey).1).foldl (fun groups added =>
        if added.1.memberAddress = userAddress then groups
        else groups.storeResult (newAndCompleteInboundGroupSessionWithChainKey getE2eesPack
          added.1 outbound added.2)) groups ∧
    (infos.foldl (invitedStep getE2eesPack cipherSuite userAddress)
      ⟨outbound, groups, senderChainKey⟩).senderChainKey =
      (welcomeAndAdd cipherSuite infos senderChainKey).2 := by
  induction infos generalizing outbound groups senderChainKey with
  | nil => exact ⟨rfl, rfl⟩
  | cons info rest ih =>
      rw [List.foldl_cons, invitedStep]
      by_cases own : info.memberAddress = userAddress
      · rw [if_pos own, welcomeAndAdd, List.zip_cons_cons, List.foldl_cons, if_pos own]
        exact ih _ _ _
      · rw [if_neg own, welcomeAndAdd, List.zip_cons_cons, List.foldl_cons, if_neg own]
        exact ih _ _ _

theorem invitedStep_outbound_other {infos : List (GroupMemberInfo β)} (state : InvitedState β)
    (others : ∀ info ∈ infos, info.memberAddress ≠ userAddress) :
    (infos.foldl (invitedStep getE2eesPack cipherSuite userAddress) state).outbound =
      state.outbound := by
  induction infos generalizing state with
  | nil => rfl
  | cons info rest ih =>
      rw [List.foldl_cons, ih _ fun other later => others other (List.mem_cons_of_mem _ later),
        invitedStep, if_neg (others info List.mem_cons_self)]

/-- The invited device sends with its own welcome key. -/
theorem invitedStep_outbound {infos : List (GroupMemberInfo β)} (outbound : GroupSession β)
    (groups : GroupStore β) {senderChainKey : Bytes β} (unused : outbound.sequence = 0)
    (distinct : (infos.map fun info => info.memberAddress).Nodup) {info : GroupMemberInfo β}
    {theirs : Bytes β}
    (assigned : (info, theirs) ∈ infos.zip (welcomeAndAdd cipherSuite infos senderChainKey).1)
    (own : info.memberAddress = userAddress) :
    (infos.foldl (invitedStep getE2eesPack cipherSuite userAddress)
      ⟨outbound, groups, senderChainKey⟩).outbound = { outbound with chainKey := theirs } := by
  induction infos generalizing groups senderChainKey with
  | nil => cases assigned
  | cons first rest ih =>
      rw [List.map_cons, List.nodup_cons] at distinct
      rw [welcomeAndAdd, List.zip_cons_cons, List.mem_cons, Prod.mk.injEq] at assigned
      rw [List.foldl_cons, invitedStep]
      obtain ⟨rfl, rfl⟩ | later := assigned
      · rw [if_pos own, invitedStep_outbound_other]
        · simp only [unused]
        · intro other present same
          exact distinct.1 (List.mem_map.mpr ⟨other, present, same.trans own.symm⟩)
      · rw [if_neg]
        · exact ih _ distinct.2 later
        · intro same
          apply distinct.1
          rw [same, ← own]
          exact List.mem_map_of_mem (List.of_mem_zip later).1

end Invited

section Bundles

namespace GroupUpdateKeyBundle

variable (bundle : GroupUpdateKeyBundle β) (cipherSuite : CipherSuite β)

def key (sender owner : E2eeAddress) : GroupKey :=
  ⟨bundle.sessionId, sender, owner, bundle.groupInfo.groupAddress⟩

/-- This is the outbound session of an invited device before it has a chain key. -/
def joined (owner : E2eeAddress) (signPublicKey : Bytes β) : GroupSession β where
  version := bundle.version
  e2eesPackId := bundle.e2eesPackId
  sessionId := bundle.sessionId
  sender := owner
  sessionOwner := owner
  groupInfo := bundle.groupInfo
  sequence := 0
  groupSeed := []
  chainKey := []
  associatedData := cipherSuite.groupAssociatedData signPublicKey

/-- This is the session that the bundle leaves for its sender. -/
def stated (owner : E2eeAddress) (chainKey : Bytes β) : GroupSession β where
  version := bundle.version
  e2eesPackId := bundle.e2eesPackId
  sessionId := bundle.sessionId
  sender := bundle.sender
  sessionOwner := owner
  groupInfo := bundle.groupInfo
  sequence := 0
  groupSeed := []
  chainKey := chainKey
  associatedData := cipherSuite.groupAssociatedData bundle.signPublicKey

/-- This is the session that an invited device stores for another new device. -/
def fellow (owner : E2eeAddress) (signPublicKey : Bytes β) (info : GroupMemberInfo β)
    (theirs : Bytes β) : GroupSession β :=
  { insertInboundGroupSessionData info (bundle.joined cipherSuite owner signPublicKey) with
    chainKey := theirs
    associatedData := cipherSuite.groupAssociatedData info.signPublicKey }

def walked : List (Bytes β) × Bytes β :=
  welcomeAndAdd cipherSuite bundle.addingMemberInfoList bundle.chainKey

def welcomed : List (GroupMemberInfo β × Bytes β) :=
  bundle.addingMemberInfoList.zip (bundle.walked cipherSuite).1

/-- The bundle of the adder gives the new device this welcome key. -/
structure Invites (getE2eesPack : Packs β) (store : Store β) (signPublicKey : Bytes β)
    (info : GroupMemberInfo β) (theirs : Bytes β) : Prop where
  adding : bundle.adding = true
  pack : getE2eesPack bundle.e2eesPackId = some cipherSuite
  valid : isValidGroupUpdateKeyBundle getE2eesPack bundle = true
  own : loadSignPublicKey store info.memberAddress = some signPublicKey
  ownValid : isValidProtobuf signPublicKey = true
  distinct : (bundle.addingMemberInfoList.map fun info => info.memberAddress).Nodup
  apart : ∀ info ∈ bundle.addingMemberInfoList, bundle.sender ≠ info.memberAddress
  assigned : (info, theirs) ∈ bundle.welcomed cipherSuite

variable {bundle cipherSuite} {getE2eesPack : Packs β}

/-- The bundle of another old device leaves one session. -/
theorem consume_renewing (adding : bundle.adding = false)
    (pack : getE2eesPack bundle.e2eesPackId = some cipherSuite)
    (valid : isValidGroupUpdateKeyBundle getE2eesPack bundle = true) {owner : E2eeAddress}
    (ownerValid : isValidAddress owner = true) (store : Store β) (groups : GroupStore β) :
    consumeGroupUpdateKeyBundle getE2eesPack ⟨store, groups⟩ owner bundle =
      groups.storeGroupSession (bundle.stated cipherSuite owner
        (advanceGroupChainKeyByAdd cipherSuite bundle.chainKey bundle.chainKey)) := by
  rw [consumeGroupUpdateKeyBundle, adding]
  simp only [Bool.false_eq_true, if_false, newAndCompleteInboundGroupSessionWithRatchetState,
    ownerValid, valid, Bool.and_self, if_true, pack, Option.map_some, adding]
  rfl

theorem stated_valid (valid : isValidGroupUpdateKeyBundle getE2eesPack bundle = true)
    {owner : E2eeAddress} (ownerValid : isValidAddress owner = true) {chainKey : Bytes β}
    (chainKeyValid : isValidProtobuf chainKey = true) :
    isValidGroupSession getE2eesPack (bundle.stated cipherSuite owner chainKey) = true := by
  simp only [isValidGroupUpdateKeyBundle, Bool.and_eq_true] at valid
  have associatedData := groupAssociatedData_of_valid cipherSuite valid.1.2
  simp only [isValidGroupSession, isValidGroupSessionHead, stated, valid, ownerValid,
    chainKeyValid, associatedData, Bool.and_self]

/-- A new device takes the chain of the adder as far as the loop has walked it. -/
theorem withRatchetState_stated {owner : E2eeAddress} (ownerValid : isValidAddress owner = true)
    (valid : isValidGroupUpdateKeyBundle getE2eesPack bundle = true)
    (pack : getE2eesPack bundle.e2eesPackId = some cipherSuite) (adding : bundle.adding = true)
    {chainKey : Bytes β} (chainKeyValid : isValidProtobuf chainKey = true) :
    newAndCompleteInboundGroupSessionWithRatchetState getE2eesPack
        { bundle with chainKey := chainKey } owner =
      some (bundle.stated cipherSuite owner chainKey) := by
  have moved : isValidGroupUpdateKeyBundle getE2eesPack { bundle with chainKey := chainKey } =
      true := by
    simp only [isValidGroupUpdateKeyBundle, Bool.and_eq_true] at valid ⊢
    exact ⟨⟨⟨valid.1.1.1, chainKeyValid⟩, valid.1.2⟩, valid.2⟩
  rw [newAndCompleteInboundGroupSessionWithRatchetState, ownerValid, moved]
  simp only [Bool.and_self, if_true, pack, Option.map_some, adding]
  rfl

theorem welcomed_listed {info : GroupMemberInfo β} {theirs : Bytes β}
    (assigned : (info, theirs) ∈ bundle.welcomed cipherSuite) :
    info ∈ bundle.addingMemberInfoList :=
  (List.of_mem_zip assigned).1

namespace Invites

variable {store : Store β} {signPublicKey : Bytes β} {info : GroupMemberInfo β} {theirs : Bytes β}
  (invites : bundle.Invites cipherSuite getE2eesPack store signPublicKey info theirs)

include invites

theorem info_valid {other : GroupMemberInfo β} (listed : other ∈ bundle.addingMemberInfoList) :
    isValidGroupMemberInfo other = true := by
  have valid := invites.valid
  simp only [isValidGroupUpdateKeyBundle, Bool.and_eq_true, List.all_eq_true] at valid
  exact valid.2 other listed

theorem owner_valid : isValidAddress info.memberAddress = true := by
  have valid := invites.info_valid (welcomed_listed invites.assigned)
  rw [isValidGroupMemberInfo, Bool.and_eq_true] at valid
  exact valid.1

theorem walked_valid : isValidProtobuf (bundle.walked cipherSuite).2 = true := by
  have valid := invites.valid
  simp only [isValidGroupUpdateKeyBundle, Bool.and_eq_true] at valid
  exact welcomeAndAdd_valid _ _ valid.1.1.2

theorem joined_noChainKey : isValidGroupSessionNoChainKey getE2eesPack
    (bundle.joined cipherSuite info.memberAddress signPublicKey) = true := by
  have valid := invites.valid
  simp only [isValidGroupUpdateKeyBundle, Bool.and_eq_true] at valid
  simp only [isValidGroupSessionNoChainKey, isValidGroupSessionHead, joined, valid,
    invites.owner_valid, groupAssociatedData_of_valid cipherSuite invites.ownValid, Bool.and_self]

theorem joined_valid (theirsValid : isValidProtobuf theirs = true) :
    isValidGroupSession getE2eesPack
      { bundle.joined cipherSuite info.memberAddress signPublicKey with
        chainKey := theirs } = true := by
  have noChainKey := invites.joined_noChainKey
  simp only [isValidGroupSessionNoChainKey, isValidGroupSessionHead, Bool.and_eq_true] at noChainKey
  simp only [isValidGroupSession, isValidGroupSessionHead, noChainKey, theirsValid, Bool.and_self]

theorem fellow_valid {other : GroupMemberInfo β} (listed : other ∈ bundle.addingMemberInfoList)
    {otherKey : Bytes β} (otherValid : isValidProtobuf otherKey = true) :
    isValidGroupSession getE2eesPack
      (bundle.fellow cipherSuite info.memberAddress signPublicKey other otherKey) = true := by
  have noChainKey := invites.joined_noChainKey
  have infoValid := invites.info_valid listed
  simp only [isValidGroupSessionNoChainKey, isValidGroupSessionHead, Bool.and_eq_true] at noChainKey
  simp only [isValidGroupMemberInfo, Bool.and_eq_true] at infoValid
  simp only [isValidGroupSession, isValidGroupSessionHead, fellow, insertInboundGroupSessionData,
    noChainKey, infoValid, otherValid, groupAssociatedData_of_valid cipherSuite infoValid.2,
    Bool.and_self]

/-- A new device gives another new device the chain that the schedule says. -/
theorem newAndComplete_fellow {other : GroupMemberInfo β} {otherKey : Bytes β}
    (assigned : (other, otherKey) ∈ bundle.welcomed cipherSuite) :
    newAndCompleteInboundGroupSessionWithChainKey getE2eesPack other
      (bundle.joined cipherSuite info.memberAddress signPublicKey) otherKey =
    some (bundle.fellow cipherSuite info.memberAddress signPublicKey other otherKey) := by
  rw [newAndCompleteInboundGroupSessionWithChainKey, invites.info_valid (welcomed_listed assigned),
    invites.joined_noChainKey]
  simp only [joined, invites.pack]
  rfl

theorem invited_some (groups : GroupStore β) :
    newOutboundGroupSessionInvited getE2eesPack ⟨store, groups⟩ bundle info.memberAddress =
    some (GroupStore.storeGroupSession ((bundle.welcomed cipherSuite).foldl (fun groups added =>
        if added.1.memberAddress = info.memberAddress then groups
        else groups.storeResult (newAndCompleteInboundGroupSessionWithChainKey getE2eesPack
          added.1 (bundle.joined cipherSuite info.memberAddress signPublicKey) added.2)) groups)
        { bundle.joined cipherSuite info.memberAddress signPublicKey with chainKey := theirs },
      { bundle with chainKey := (bundle.walked cipherSuite).2 }) := by
  have nonempty : bundle.addingMemberInfoList.isEmpty = false := by
    rw [List.isEmpty_eq_false_iff]
    exact List.ne_nil_of_mem (welcomed_listed invites.assigned)
  have fold := invitedStep_foldl getE2eesPack cipherSuite info.memberAddress
    bundle.addingMemberInfoList (bundle.joined cipherSuite info.memberAddress signPublicKey) groups
    bundle.chainKey
  have outbound := invitedStep_outbound getE2eesPack cipherSuite info.memberAddress
    (bundle.joined cipherSuite info.memberAddress signPublicKey) groups rfl invites.distinct
    invites.assigned rfl
  rw [newOutboundGroupSessionInvited, invites.pack, invites.own]
  simp only [invites.owner_valid, invites.valid, nonempty, Bool.not_false, Bool.and_self, if_true,
    Option.some.injEq, Prod.mk.injEq]
  refine ⟨?_, ?_⟩
  · refine congrArg₂ GroupStore.storeGroupSession ?_ ?_
    · exact fold.1
    · exact outbound
  · refine congrArg (fun chainKey => { bundle with chainKey := chainKey }) ?_
    exact fold.2

/-- The adder has moved on from its bundle when the new device takes its chain. -/
theorem consume_eq (groups : GroupStore β) :
    consumeGroupUpdateKeyBundle getE2eesPack ⟨store, groups⟩ info.memberAddress bundle =
      GroupStore.storeGroupSession (GroupStore.storeGroupSession
        ((bundle.welcomed cipherSuite).foldl (fun groups added =>
          if added.1.memberAddress = info.memberAddress then groups
          else groups.storeResult (newAndCompleteInboundGroupSessionWithChainKey getE2eesPack
            added.1 (bundle.joined cipherSuite info.memberAddress signPublicKey) added.2)) groups)
        { bundle.joined cipherSuite info.memberAddress signPublicKey with chainKey := theirs })
        (bundle.stated cipherSuite info.memberAddress (bundle.walked cipherSuite).2) := by
  rw [consumeGroupUpdateKeyBundle, invites.adding, if_pos rfl, invites.invited_some,
    Option.getD_some]
  dsimp only
  rw [withRatchetState_stated invites.owner_valid invites.valid invites.pack invites.adding
    invites.walked_valid]
  rfl

/-- The bundle of the adder gives a new device its own chain. -/
theorem lookup_own (groups : GroupStore β) :
    (consumeGroupUpdateKeyBundle getE2eesPack ⟨store, groups⟩ info.memberAddress bundle).lookup
        (bundle.key info.memberAddress info.memberAddress) =
    some { bundle.joined cipherSuite info.memberAddress signPublicKey with
      chainKey := theirs } := by
  rw [invites.consume_eq, GroupStore.lookup_storeGroupSession_other]
  · exact GroupStore.lookup_storeGroupSession _
      { bundle.joined cipherSuite info.memberAddress signPublicKey with chainKey := theirs }
  · exact GroupKey.uncovered_of_sender (invites.apart info (welcomed_listed invites.assigned))

/-- It also gives the chain of the adder. -/
theorem lookup_sender (groups : GroupStore β) :
    (consumeGroupUpdateKeyBundle getE2eesPack ⟨store, groups⟩ info.memberAddress bundle).lookup
        (bundle.key bundle.sender info.memberAddress) =
    some (bundle.stated cipherSuite info.memberAddress (bundle.walked cipherSuite).2) := by
  rw [invites.consume_eq]
  exact GroupStore.lookup_storeGroupSession _
    (bundle.stated cipherSuite info.memberAddress (bundle.walked cipherSuite).2)

/-- It also gives the chains of the other new devices. -/
theorem lookup_fellow {other : GroupMemberInfo β} {otherKey : Bytes β}
    (assigned : (other, otherKey) ∈ bundle.welcomed cipherSuite)
    (different : other.memberAddress ≠ info.memberAddress) (groups : GroupStore β) :
    (consumeGroupUpdateKeyBundle getE2eesPack ⟨store, groups⟩ info.memberAddress bundle).lookup
        (bundle.key other.memberAddress info.memberAddress) =
    some (bundle.fellow cipherSuite info.memberAddress signPublicKey other otherKey) := by
  rw [invites.consume_eq, GroupStore.lookup_storeGroupSession_other,
    GroupStore.lookup_storeGroupSession_other]
  · refine GroupStore.lookup_loop _ assigned different (invites.newAndComplete_fellow assigned)
      rfl ?_
    rintro ⟨third, thirdKey⟩ thirdAssigned distinct stored - made
    rw [invites.newAndComplete_fellow thirdAssigned, Option.some.injEq] at made
    subst made
    exact GroupKey.uncovered_of_sender (welcome_address_ne (welcomeAndAdd_length _ _ _).ge
      invites.distinct assigned thirdAssigned distinct)
  · exact GroupKey.uncovered_of_sender different.symm
  · exact GroupKey.uncovered_of_sender (invites.apart other (welcomed_listed assigned))

/-- It leaves the chains of the other old devices alone. -/
theorem lookup_other {wanted : GroupKey} (notSender : bundle.sender ≠ wanted.sender)
    (old : ∀ other ∈ bundle.addingMemberInfoList, other.memberAddress ≠ wanted.sender)
    (groups : GroupStore β) :
    (consumeGroupUpdateKeyBundle getE2eesPack ⟨store, groups⟩ info.memberAddress bundle).lookup
      wanted = groups.lookup wanted := by
  rw [invites.consume_eq, GroupStore.lookup_storeGroupSession_other,
    GroupStore.lookup_storeGroupSession_other, GroupStore.lookup_loop_other]
  · rintro ⟨third, thirdKey⟩ thirdAssigned stored - made
    rw [invites.newAndComplete_fellow thirdAssigned, Option.some.injEq] at made
    subst made
    exact GroupKey.uncovered_of_sender (old third (welcomed_listed thirdAssigned))
  · exact GroupKey.uncovered_of_sender (old info (welcomed_listed invites.assigned))
  · exact GroupKey.uncovered_of_sender notSender

/-- It only leaves sessions of the adder and of the new devices. -/
theorem mem_consume {groups : GroupStore β} {session : GroupSession β}
    (present : session ∈ (consumeGroupUpdateKeyBundle getE2eesPack ⟨store, groups⟩
      info.memberAddress bundle).entries) :
    session ∈ groups.entries ∨
      ∃ writer ∈ bundle.sender :: bundle.addingMemberInfoList.map fun info => info.memberAddress,
        session.key = bundle.key writer info.memberAddress := by
  have new : ∀ other ∈ bundle.addingMemberInfoList, other.memberAddress ∈
      bundle.sender :: bundle.addingMemberInfoList.map fun info => info.memberAddress :=
    fun other listed => List.mem_cons_of_mem _ (List.mem_map_of_mem listed)
  rw [invites.consume_eq] at present
  obtain ⟨present, -⟩ | rfl := KeyedTable.mem_insert.mp present
  · obtain ⟨present, -⟩ | rfl := KeyedTable.mem_insert.mp present
    · obtain old | ⟨⟨other, otherKey⟩, assigned, -, made⟩ := GroupStore.mem_loop _ present
      · exact .inl old
      · rw [invites.newAndComplete_fellow assigned, Option.some.injEq] at made
        subst made
        exact .inr ⟨other.memberAddress, new other (welcomed_listed assigned), rfl⟩
    · exact .inr ⟨info.memberAddress, new info (welcomed_listed invites.assigned), rfl⟩
  · exact .inr ⟨bundle.sender, List.mem_cons_self, rfl⟩

end Invites

end GroupUpdateKeyBundle

end Bundles

section Addition

variable {getE2eesPack : Packs β} {addition : GroupAddition getE2eesPack}

namespace GroupAddition

variable (addition) in
/-- This is the outbound session of an invited device before it has a chain key. -/
def joined (owner : E2eeAddress) : GroupSession β where
  version := (addition.bundle addition.adder).version
  e2eesPackId := (addition.bundle addition.adder).e2eesPackId
  sessionId := (addition.bundle addition.adder).sessionId
  sender := owner
  sessionOwner := owner
  groupInfo := (addition.bundle addition.adder).groupInfo
  sequence := 0
  groupSeed := []
  chainKey := []
  associatedData := addition.cipherSuite.groupAssociatedData (addition.signPublicKey owner)

variable (addition) in
/-- This is the session that a bundle leaves for its sender. -/
def stated (sender owner : E2eeAddress) (chainKey : Bytes β) : GroupSession β where
  version := (addition.bundle sender).version
  e2eesPackId := (addition.bundle sender).e2eesPackId
  sessionId := (addition.bundle sender).sessionId
  sender := (addition.bundle sender).sender
  sessionOwner := owner
  groupInfo := (addition.bundle sender).groupInfo
  sequence := 0
  groupSeed := []
  chainKey := chainKey
  associatedData := addition.cipherSuite.groupAssociatedData (addition.signPublicKey sender)

theorem stated_key {sender : E2eeAddress} (member : sender ∈ addition.members)
    (owner : E2eeAddress) (chainKey : Bytes β) :
    (addition.stated sender owner chainKey).key = addition.key sender owner :=
  congrArg (fun key => { key with sessionOwner := owner }) (outbound_key member)

theorem stated_sender {sender : E2eeAddress} (member : sender ∈ addition.members)
    (owner : E2eeAddress) (chainKey : Bytes β) :
    (addition.stated sender owner chainKey).sender = sender :=
  congrArg GroupKey.sender (stated_key member owner chainKey)

theorem signPublicKey_valid {address : E2eeAddress} (listed : address ∈ addition.addresses) :
    isValidProtobuf (addition.signPublicKey address) = true :=
  isValidProtobuf_of_length (addition.keyLength address listed)
    addition.cipherSuite.ds.signPubKeyLenPositive

theorem Checked.bundle (checked : addition.Checked) {owner : E2eeAddress}
    (member : owner ∈ addition.members) :
    isValidGroupUpdateKeyBundle getE2eesPack (addition.bundle owner) = true := by
  have head := checked.head member
  have outbound := checked.outbound owner member
  have signed := signPublicKey_valid (List.mem_append_left _ member)
  simp only [isValidGroupSessionHead, Bool.and_eq_true] at head
  simp only [isValidGroupSession, Bool.and_eq_true] at outbound
  simp only [isValidGroupUpdateKeyBundle, GroupAddition.bundle, packGroupRatchetStatePlaintext,
    head, signed, List.all_eq_true.mpr checked.infos, Bool.and_true, Bool.true_and]
  exact outbound.1.2

theorem bundle_pack {owner : E2eeAddress} (member : owner ∈ addition.members) :
    getE2eesPack (addition.bundle owner).e2eesPackId = some addition.cipherSuite := by
  rw [← addition.pack, ← addition.outboundPack owner member]
  rfl

/-- The bundle of another old device leaves the chain that the schedule says. -/
theorem consume_member (checked : addition.Checked) {sender owner : E2eeAddress}
    (member : sender ∈ addition.members) (notAdder : sender ≠ addition.adder)
    (valid : isValidAddress owner = true) (store : Store β) (groups : GroupStore β) :
    consumeGroupUpdateKeyBundle getE2eesPack ⟨store, groups⟩ owner (addition.bundle sender) =
      groups.storeGroupSession (addition.stated sender owner
        (advanceGroupChainKeyByAdd addition.cipherSuite (addition.outbound sender).chainKey
          (addition.outbound sender).chainKey)) := by
  refine GroupUpdateKeyBundle.consume_renewing ?_ (bundle_pack member) (checked.bundle member) valid
    store groups
  simp [GroupAddition.bundle, packGroupRatchetStatePlaintext, notAdder]

theorem info_valid (checked : addition.Checked) {info : GroupMemberInfo β}
    (new : info ∈ addition.addingMemberInfoList) : isValidAddress info.memberAddress = true := by
  have valid := checked.infos info new
  rw [isValidGroupMemberInfo, Bool.and_eq_true] at valid
  exact valid.1

theorem new_listed {info : GroupMemberInfo β} (new : info ∈ addition.addingMemberInfoList) :
    info.memberAddress ∈ addition.addresses :=
  List.mem_append_right _ (List.mem_map_of_mem new)

theorem adder_sender_ne {info : GroupMemberInfo β} (new : info ∈ addition.addingMemberInfoList) :
    addition.adder ≠ info.memberAddress := by
  intro same
  exact addition.newAddress info new (same ▸ addition.adderMember)

theorem bundle_key {sender : E2eeAddress} (member : sender ∈ addition.members)
    (writer owner : E2eeAddress) :
    (addition.bundle sender).key writer owner = addition.key writer owner :=
  congrArg (fun key => { key with sender := writer, sessionOwner := owner }) (outbound_key member)

theorem bundle_sender {sender : E2eeAddress} (member : sender ∈ addition.members) :
    (addition.bundle sender).sender = sender :=
  congrArg GroupKey.sender (outbound_key member)

/-- The bundle of the adder gives every new device its welcome key. -/
theorem invites (checked : addition.Checked) {info : GroupMemberInfo β} {theirs : Bytes β}
    (assigned : (info, theirs) ∈ addition.welcomed) :
    (addition.bundle addition.adder).Invites addition.cipherSuite getE2eesPack
      (addition.devices info.memberAddress).store (addition.signPublicKey info.memberAddress)
      info theirs where
  adding := by simp [GroupAddition.bundle, packGroupRatchetStatePlaintext]
  pack := bundle_pack addition.adderMember
  valid := checked.bundle addition.adderMember
  own := addition.ownKey _ (new_listed (welcomed_new assigned))
  ownValid := signPublicKey_valid (new_listed (welcomed_new assigned))
  distinct := addition.distinct
  apart := by
    intro other new
    rw [bundle_sender addition.adderMember]
    exact adder_sender_ne new
  assigned := assigned

theorem joined_key (owner : E2eeAddress) :
    (addition.joined owner).key = addition.key owner owner :=
  bundle_key addition.adderMember owner owner

section Arrival

variable {info : GroupMemberInfo β} {theirs : Bytes β}

/-- The bundle of the adder gives a new device its own chain. -/
theorem consume_adder_own (checked : addition.Checked)
    (assigned : (info, theirs) ∈ addition.welcomed) (groups : GroupStore β) :
    (consumeGroupUpdateKeyBundle getE2eesPack
      ⟨(addition.devices info.memberAddress).store, groups⟩ info.memberAddress
      (addition.bundle addition.adder)).lookup
        (addition.key info.memberAddress info.memberAddress) =
    some { addition.joined info.memberAddress with chainKey := theirs } := by
  rw [← bundle_key addition.adderMember]
  exact (invites checked assigned).lookup_own groups

/-- It also gives the chain of the adder. -/
theorem consume_adder_adder (checked : addition.Checked)
    (assigned : (info, theirs) ∈ addition.welcomed) (groups : GroupStore β) :
    (consumeGroupUpdateKeyBundle getE2eesPack
      ⟨(addition.devices info.memberAddress).store, groups⟩ info.memberAddress
      (addition.bundle addition.adder)).lookup
        (addition.key addition.adder info.memberAddress) =
    some (addition.stated addition.adder info.memberAddress addition.walked.2) := by
  rw [← bundle_key addition.adderMember]
  have found := (invites checked assigned).lookup_sender groups
  rw [bundle_sender addition.adderMember] at found
  exact found

/-- It also gives the chains of the other new devices. -/
theorem consume_adder_added (checked : addition.Checked)
    (assigned : (info, theirs) ∈ addition.welcomed) {other : GroupMemberInfo β}
    {otherKey : Bytes β} (otherAssigned : (other, otherKey) ∈ addition.welcomed)
    (different : other.memberAddress ≠ info.memberAddress) (groups : GroupStore β) :
    (consumeGroupUpdateKeyBundle getE2eesPack
      ⟨(addition.devices info.memberAddress).store, groups⟩ info.memberAddress
      (addition.bundle addition.adder)).lookup
        (addition.key other.memberAddress info.memberAddress) =
    some { insertInboundGroupSessionData other (addition.joined info.memberAddress) with
      chainKey := otherKey
      associatedData := addition.cipherSuite.groupAssociatedData other.signPublicKey } := by
  rw [← bundle_key addition.adderMember]
  exact (invites checked assigned).lookup_fellow otherAssigned different groups

/-- It leaves the chains of the other old devices alone. -/
theorem consume_adder_member (checked : addition.Checked)
    (assigned : (info, theirs) ∈ addition.welcomed) {sender : E2eeAddress}
    (member : sender ∈ addition.members) (notAdder : sender ≠ addition.adder)
    (groups : GroupStore β) :
    (consumeGroupUpdateKeyBundle getE2eesPack
      ⟨(addition.devices info.memberAddress).store, groups⟩ info.memberAddress
      (addition.bundle addition.adder)).lookup (addition.key sender info.memberAddress) =
    groups.lookup (addition.key sender info.memberAddress) := by
  refine (invites checked assigned).lookup_other ?_ ?_ groups
  · rw [bundle_sender addition.adderMember]
    exact notAdder.symm
  · rintro other new rfl
    exact addition.newAddress other new member

section Arrived

variable {arrivals : List (GroupUpdateKeyBundle β)}
  (known : ∀ bundle ∈ arrivals, ∃ sender ∈ addition.members, bundle = addition.bundle sender)

include known

/-- What the bundle of the adder writes is not touched by the other bundles. -/
theorem join_of_adder (arrived : addition.bundle addition.adder ∈ arrivals)
    (checked : addition.Checked) (new : info ∈ addition.addingMemberInfoList)
    {wanted : GroupKey} {session : GroupSession β}
    (writes : ∀ groups, (consumeGroupUpdateKeyBundle getE2eesPack
      ⟨(addition.devices info.memberAddress).store, groups⟩ info.memberAddress
      (addition.bundle addition.adder)).lookup wanted = some session)
    (apart : ∀ sender ∈ addition.members, sender ≠ addition.adder → sender ≠ wanted.sender) :
    (addition.join arrivals info.memberAddress).lookup wanted = some session := by
  refine KeyedTable.lookup_foldl writes ?_ arrived _
  intro bundle present different groups
  obtain ⟨sender, member, rfl⟩ := known bundle present
  have notAdder : sender ≠ addition.adder := fun same => different (by rw [same])
  rw [consume_member checked member notAdder (info_valid checked new)]
  apply GroupStore.lookup_storeGroupSession_other
  rw [stated_key member]
  exact GroupKey.uncovered_of_sender (apart sender member notAdder)

/-- What the bundle of another old device writes stays as well. -/
theorem join_of_member (checked : addition.Checked)
    (assigned : (info, theirs) ∈ addition.welcomed) {sender : E2eeAddress}
    (arrived : addition.bundle sender ∈ arrivals) (member : sender ∈ addition.members)
    (notAdder : sender ≠ addition.adder) :
    (addition.join arrivals info.memberAddress).lookup
      (addition.key sender info.memberAddress) =
    some (addition.stated sender info.memberAddress
      (advanceGroupChainKeyByAdd addition.cipherSuite (addition.outbound sender).chainKey
        (addition.outbound sender).chainKey)) := by
  have valid := info_valid checked (welcomed_new assigned)
  refine KeyedTable.lookup_foldl ?_ ?_ arrived _
  · intro groups
    rw [consume_member checked member notAdder valid, ← stated_key member]
    exact GroupStore.lookup_storeGroupSession _ _
  · intro bundle present different groups
    obtain ⟨other, otherMember, rfl⟩ := known bundle present
    by_cases otherAdder : other = addition.adder
    · rw [otherAdder]
      exact consume_adder_member checked assigned member notAdder groups
    · rw [consume_member checked otherMember otherAdder valid]
      apply GroupStore.lookup_storeGroupSession_other
      rw [stated_key otherMember]
      apply GroupKey.uncovered_of_sender
      rintro rfl
      exact different rfl

/-- The bundle of the adder alone gives a new device its own chain. -/
theorem join_own (arrived : addition.bundle addition.adder ∈ arrivals)
    (checked : addition.Checked) (assigned : (info, theirs) ∈ addition.welcomed) :
    (addition.join arrivals info.memberAddress).lookup
      (addition.key info.memberAddress info.memberAddress) =
    some { addition.joined info.memberAddress with chainKey := theirs } := by
  refine join_of_adder known arrived checked (welcomed_new assigned)
    (consume_adder_own checked assigned) ?_
  rintro sender member - rfl
  exact addition.newAddress info (welcomed_new assigned) member

/-- It also gives the chain of the adder. -/
theorem join_adder (arrived : addition.bundle addition.adder ∈ arrivals)
    (checked : addition.Checked) (assigned : (info, theirs) ∈ addition.welcomed) :
    (addition.join arrivals info.memberAddress).lookup
      (addition.key addition.adder info.memberAddress) =
    some (addition.stated addition.adder info.memberAddress addition.walked.2) :=
  join_of_adder known arrived checked (welcomed_new assigned)
    (consume_adder_adder checked assigned) fun _ _ notAdder => notAdder

end Arrived

variable {arrivals : List (GroupUpdateKeyBundle β)}
  (everyBundle : ∀ bundle, bundle ∈ arrivals ↔ ∃ sender ∈ addition.members,
    bundle = addition.bundle sender)

include everyBundle

/-- A new device sends with its own welcome key. -/
theorem join_holds_outbound (checked : addition.Checked)
    (assigned : (info, theirs) ∈ addition.welcomed) :
    (addition.join arrivals info.memberAddress).Holds
      (addition.key info.memberAddress info.memberAddress) theirs :=
  ⟨_, join_own (fun bundle => (everyBundle bundle).mp)
    ((everyBundle _).mpr ⟨_, addition.adderMember, rfl⟩) checked assigned, rfl, rfl⟩

/-- A new device has the chain of every other device as the schedule says. -/
theorem join_holds_inbound (checked : addition.Checked)
    (assigned : (info, theirs) ∈ addition.welcomed) {sender : E2eeAddress} {senderNext : Bytes β}
    (nextKey : addition.Next sender senderNext) (different : sender ≠ info.memberAddress) :
    (addition.join arrivals info.memberAddress).Holds
      (addition.key sender info.memberAddress) senderNext := by
  have known := fun bundle => (everyBundle bundle).mp
  have arrived := (everyBundle _).mpr ⟨_, addition.adderMember, rfl⟩
  cases nextKey with
  | adder => exact ⟨_, join_adder known arrived checked assigned, rfl, rfl⟩
  | member member notAdder =>
      exact ⟨_, join_of_member known checked assigned
        ((everyBundle _).mpr ⟨sender, member, rfl⟩) member notAdder, rfl, rfl⟩
  | added otherAssigned =>
      refine ⟨_, join_of_adder known arrived checked (welcomed_new assigned)
        (consume_adder_added checked assigned otherAssigned different) ?_, rfl, rfl⟩
      rintro sender member - rfl
      exact addition.newAddress _ (welcomed_new otherAssigned) member

end Arrival

end GroupAddition

end Addition

end E2eeSecurity
