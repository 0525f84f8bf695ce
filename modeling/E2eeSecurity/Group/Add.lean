/-
This file shows that the devices of a group still have the same keys after new devices are added.
-/
import E2eeSecurity.Group.Create

namespace E2eeSecurity

variable {β : Type} {getE2eesPack : Packs β}

/-- The group session of a sender is stored with this chain key and is not used yet. -/
def GroupStore.Holds (groups : GroupStore β) (wanted : GroupKey) (chainKey : Bytes β) : Prop :=
  ∃ session, groups.lookup wanted = some session ∧ session.chainKey = chainKey ∧
    session.sequence = 0

/-- This is a group to which new devices are about to be added.
Every inbound chain of an old device is the outbound chain of its sender. -/
structure GroupAddition (getE2eesPack : Packs β) where
  cipherSuite : CipherSuite β
  e2eesPackId : UInt32
  sessionId : String
  groupAddress : E2eeAddress
  members : List E2eeAddress
  adder : E2eeAddress
  addingMemberInfoList : List (GroupMemberInfo β)
  addingGroupMembers : List GroupMember
  devices : E2eeAddress → Device β
  outbound : E2eeAddress → GroupSession β
  inbound : E2eeAddress → E2eeAddress → GroupSession β
  signPublicKey : E2eeAddress → Bytes β
  pack : getE2eesPack e2eesPackId = some cipherSuite
  named : sessionId ≠ ""
  adderMember : adder ∈ members
  outboundStored : ∀ owner ∈ members,
    (devices owner).groups.lookup ⟨sessionId, owner, owner, groupAddress⟩ = some (outbound owner)
  outboundPack : ∀ owner ∈ members, (outbound owner).e2eesPackId = e2eesPackId
  inboundStored : ∀ sender ∈ members, ∀ owner ∈ members, sender ≠ owner →
    (devices owner).groups.lookup ⟨sessionId, sender, owner, groupAddress⟩ =
      some (inbound sender owner)
  inboundPack : ∀ sender ∈ members, ∀ owner ∈ members, sender ≠ owner →
    (inbound sender owner).e2eesPackId = e2eesPackId
  inboundValid : ∀ sender ∈ members, ∀ owner ∈ members, sender ≠ owner →
    isValidGroupSession getE2eesPack (inbound sender owner) = true
  sameChain : ∀ sender ∈ members, ∀ owner ∈ members, sender ≠ owner →
    (inbound sender owner).chainKey = (outbound sender).chainKey ∧
      (inbound sender owner).sequence = (outbound sender).sequence
  distinct : (addingMemberInfoList.map fun info => info.memberAddress).Nodup
  newAddress : ∀ info ∈ addingMemberInfoList, info.memberAddress ∉ members
  ownKey : ∀ address ∈ members ++ addingMemberInfoList.map fun info => info.memberAddress,
    loadSignPublicKey (devices address).store address = some (signPublicKey address)
  keyLength : ∀ address ∈ members ++ addingMemberInfoList.map fun info => info.memberAddress,
    (signPublicKey address).length = cipherSuite.ds.signPubKeyLen

namespace GroupAddition

variable (addition : GroupAddition getE2eesPack)

def key (sender owner : E2eeAddress) : GroupKey :=
  ⟨addition.sessionId, sender, owner, addition.groupAddress⟩

/-- These are the old and the new devices. -/
def addresses : List E2eeAddress :=
  addition.members ++ addition.addingMemberInfoList.map fun info => info.memberAddress

/-- The adder passes none, and every other old device passes its inbound chain of the adder. -/
def senderChainKey (owner : E2eeAddress) : Option (Bytes β) :=
  if owner = addition.adder then none else some (addition.inbound addition.adder owner).chainKey

/-- An old device renews its sessions and makes a bundle. -/
def renew (owner : E2eeAddress) : Option (GroupStore β × GroupUpdateKeyBundle β) :=
  renewOutboundGroupSessionByWelcomeAndAdd getE2eesPack (addition.devices owner)
    (addition.outbound owner) (addition.senderChainKey owner) addition.adder
    addition.addingMemberInfoList addition.addingGroupMembers

/-- A new device handles the bundles as they arrive. -/
def join (arrivals : List (GroupUpdateKeyBundle β)) (owner : E2eeAddress) : GroupStore β :=
  arrivals.foldl (fun groups bundle => consumeGroupUpdateKeyBundle getE2eesPack
    ⟨(addition.devices owner).store, groups⟩ owner bundle) (addition.devices owner).groups

/-- This is the chain of the adder with the welcome keys of the new devices. -/
def walked : List (Bytes β) × Bytes β :=
  welcomeAndAdd addition.cipherSuite addition.addingMemberInfoList
    (addition.outbound addition.adder).chainKey

def welcomed : List (GroupMemberInfo β × Bytes β) :=
  addition.addingMemberInfoList.zip addition.walked.1

/-- This is the key schedule: which chain key a device sends with after the addition. -/
inductive Next : E2eeAddress → Bytes β → Prop
  | adder : Next addition.adder addition.walked.2
  | member {owner : E2eeAddress} : owner ∈ addition.members → owner ≠ addition.adder →
      Next owner (advanceGroupChainKeyByAdd addition.cipherSuite
        (addition.outbound owner).chainKey (addition.outbound owner).chainKey)
  | added {info : GroupMemberInfo β} {theirs : Bytes β} : (info, theirs) ∈ addition.welcomed →
      Next info.memberAddress theirs

/-- These are the checks that every old device has passed. -/
structure Checked : Prop where
  outbound : ∀ owner ∈ addition.members,
    isValidGroupSession getE2eesPack (addition.outbound owner) = true
  infos : ∀ info ∈ addition.addingMemberInfoList, isValidGroupMemberInfo info = true
  groupMembers : addition.addingGroupMembers.all isValidGroupMember = true

/-- This is the outbound session of an old device with the new members. -/
def current (owner : E2eeAddress) : GroupSession β :=
  { addition.outbound owner with
    groupInfo := addGroupMembersToGroupInfo (addition.outbound owner).groupInfo
      addition.addingGroupMembers }

/-- The outbound session of an old device has moved on. -/
def next (owner : E2eeAddress) (chainKey : Bytes β) : GroupSession β :=
  { addition.current owner with chainKey := chainKey, sequence := 0 }

/-- The old devices other than the adder take over the chain of the adder. -/
def adderChainKey (owner : E2eeAddress) : Option (Bytes β) :=
  if owner = addition.adder then none else some addition.walked.2

/-- These are the sessions after the stored chains have moved on. -/
def moved (owner : E2eeAddress) (chainKey : Bytes β) : GroupStore β :=
  let groups := (addition.devices owner).groups.storeGroupSession (addition.next owner chainKey)
  renewInboundGroupSessions getE2eesPack groups
    (groups.loadGroupSessions owner addition.groupAddress) owner addition.adder
    (addition.adderChainKey owner) (addition.next owner chainKey).groupInfo

/-- The chains of the new devices are stored last. -/
def extended (owner : E2eeAddress) (chainKey : Bytes β) : GroupStore β :=
  addition.welcomed.foldl (fun groups added => groups.storeResult
    (newAndCompleteInboundGroupSessionWithChainKey getE2eesPack added.1
      (addition.next owner chainKey) added.2)) (addition.moved owner chainKey)

def bundle (owner : E2eeAddress) : GroupUpdateKeyBundle β :=
  packGroupRatchetStatePlaintext (addition.current owner) (decide (owner = addition.adder))
    (addition.signPublicKey owner) addition.addingMemberInfoList

end GroupAddition

section Schedule

theorem welcomeAndAdd_length (cipherSuite : CipherSuite β) (infos : List (GroupMemberInfo β))
    (chainKey : Bytes β) : (welcomeAndAdd cipherSuite infos chainKey).1.length = infos.length := by
  induction infos generalizing chainKey with
  | nil => rfl
  | cons info rest ih => simp [welcomeAndAdd, ih]

/-- Every new device has one welcome key. -/
theorem welcome_address_ne {infos : List (GroupMemberInfo β)} {keys : List (Bytes β)}
    (enough : infos.length ≤ keys.length)
    (distinct : (infos.map fun info => info.memberAddress).Nodup)
    {added other : GroupMemberInfo β × Bytes β} (assigned : added ∈ infos.zip keys)
    (otherAssigned : other ∈ infos.zip keys) (different : other ≠ added) :
    other.1.memberAddress ≠ added.1.memberAddress := by
  have listed : (infos.zip keys).map Prod.fst = infos := List.map_fst_zip enough
  rw [← listed, List.map_map] at distinct
  exact fun same => different (List.inj_on_of_nodup_map distinct otherAssigned assigned same)

theorem advanceGroupChainKeyByAdd_valid (cipherSuite : CipherSuite β) (srcChainKey : Bytes β)
    {destChainKey : Bytes β} (valid : isValidProtobuf destChainKey = true) :
    isValidProtobuf (advanceGroupChainKeyByAdd cipherSuite srcChainKey destChainKey) = true := by
  have positive := cipherSuite.hf.hfLenPositive
  rw [isValidProtobuf_iff, ← List.length_pos_iff] at valid ⊢
  rw [advanceGroupChainKeyByAdd, overwriteProtobuf, List.length_take, cipherSuite.hf.hkdfLength]
  omega

/-- The chain of the adder never becomes empty. -/
theorem welcomeAndAdd_valid (cipherSuite : CipherSuite β) (infos : List (GroupMemberInfo β))
    {chainKey : Bytes β} (valid : isValidProtobuf chainKey = true) :
    isValidProtobuf (welcomeAndAdd cipherSuite infos chainKey).2 = true := by
  induction infos generalizing chainKey with
  | nil => exact valid
  | cons info rest ih => exact ih (advanceGroupChainKeyByAdd_valid cipherSuite _ valid)

end Schedule

theorem isValidGroupSessionHead_add {session : GroupSession β} {adding : List GroupMember}
    (valid : isValidGroupSessionHead getE2eesPack session = true)
    (addingValid : adding.all isValidGroupMember = true) :
    isValidGroupSessionHead getE2eesPack
      { session with groupInfo := addGroupMembersToGroupInfo session.groupInfo adding } = true := by
  simp only [isValidGroupSessionHead, isValidGroupInfo, Bool.and_eq_true] at valid
  simp only [isValidGroupSessionHead, isValidGroupInfo, addGroupMembersToGroupInfo, valid,
    List.all_append, addingValid, Bool.and_self]

/-- A renewed session only gets a new group. -/
theorem renewInbound_key {senderChainKey : Option (Bytes β)} {inbound stored : GroupSession β}
    {newGroupInfo : GroupInfo}
    (made : renewInboundGroupSessionByWelcomeAndAdd getE2eesPack senderChainKey inbound
      newGroupInfo = some stored) :
    stored.key = { inbound.key with groupAddress := newGroupInfo.groupAddress } := by
  unfold renewInboundGroupSessionByWelcomeAndAdd at made
  split at made
  · obtain ⟨cipherSuite, -, rfl⟩ := Option.map_eq_some_iff.mp made
    rfl
  · cases made

section Addition

variable {addition : GroupAddition getE2eesPack}

namespace GroupAddition

theorem outbound_key {owner : E2eeAddress} (member : owner ∈ addition.members) :
    (addition.outbound owner).key = addition.key owner owner :=
  KeyedTable.lookup_key (addition.outboundStored owner member)

theorem outbound_owner {owner : E2eeAddress} (member : owner ∈ addition.members) :
    (addition.outbound owner).sessionOwner = owner :=
  congrArg GroupKey.sessionOwner (outbound_key member)

theorem outbound_group {owner : E2eeAddress} (member : owner ∈ addition.members) :
    (addition.outbound owner).groupInfo.groupAddress = addition.groupAddress :=
  congrArg GroupKey.groupAddress (outbound_key member)

theorem next_key {owner : E2eeAddress} (member : owner ∈ addition.members) (chainKey : Bytes β) :
    (addition.next owner chainKey).key = addition.key owner owner :=
  outbound_key member

theorem senderChainKey_isNone (owner : E2eeAddress) :
    (addition.senderChainKey owner).isNone = decide (owner = addition.adder) := by
  by_cases isAdder : owner = addition.adder
  · simp [senderChainKey, isAdder]
  · simp [senderChainKey, isAdder]

/-- Both roles of the old devices follow the key schedule. -/
theorem renewedKeys_eq {owner : E2eeAddress} (member : owner ∈ addition.members) :
    ∃ chainKey, addition.Next owner chainKey ∧
      renewedKeys addition.cipherSuite (addition.outbound owner) (addition.senderChainKey owner)
        addition.addingMemberInfoList =
      (addition.walked.1, chainKey, addition.adderChainKey owner) := by
  by_cases isAdder : owner = addition.adder
  · refine ⟨addition.walked.2, ?_, ?_⟩
    · rw [isAdder]
      exact .adder
    · rw [senderChainKey, adderChainKey, if_pos isAdder, if_pos isAdder, isAdder]
      rfl
  · refine ⟨_, .member member isAdder, ?_⟩
    rw [senderChainKey, adderChainKey, if_neg isAdder, if_neg isAdder,
      (addition.sameChain _ addition.adderMember owner member (Ne.symm isAdder)).1]
    rfl

theorem renewed {owner : E2eeAddress} (member : owner ∈ addition.members)
    {groups : GroupStore β} {sent : GroupUpdateKeyBundle β}
    (renewed : addition.renew owner = some (groups, sent)) :
    (isValidGroupSession getE2eesPack (addition.outbound owner) = true ∧
      (∀ info ∈ addition.addingMemberInfoList, isValidGroupMemberInfo info = true) ∧
      addition.addingGroupMembers.all isValidGroupMember = true) ∧
    sent = addition.bundle owner ∧
    ∃ chainKey, addition.Next owner chainKey ∧ groups = addition.extended owner chainKey := by
  obtain ⟨chainKey, nextKey, keys⟩ := renewedKeys_eq member
  unfold renew renewOutboundGroupSessionByWelcomeAndAdd at renewed
  rw [addition.outboundPack owner member, addition.pack, outbound_owner member] at renewed
  split at renewed
  next cipherSuite loadedKey found loaded =>
    obtain rfl := Option.some.inj found
    have own := addition.ownKey owner (List.mem_append_left _ member)
    rw [loadSignPublicKey_of_sender loaded, Option.some.injEq] at own
    subst own
    split at renewed
    next checks =>
      simp only [Bool.and_eq_true, List.all_eq_true] at checks
      simp only [keys, Option.some.injEq, Prod.mk.injEq] at renewed
      refine ⟨⟨checks.1.1.1.2, checks.1.2, List.all_eq_true.mpr checks.2⟩, ?_,
        chainKey, nextKey, ?_⟩
      · rw [← renewed.2, bundle, ← senderChainKey_isNone]
        simp only [current, addition.outboundPack owner member, outbound_owner member]
      · rw [← renewed.1, extended, moved, ← outbound_group member]
        simp only [next, current, addition.outboundPack owner member, outbound_owner member]
        rfl
    · cases renewed
  · cases renewed

theorem Checked.head (checked : addition.Checked) {owner : E2eeAddress}
    (member : owner ∈ addition.members) :
    isValidGroupSessionHead getE2eesPack (addition.current owner) = true := by
  have valid := checked.outbound owner member
  simp only [isValidGroupSession, Bool.and_eq_true] at valid
  exact isValidGroupSessionHead_add valid.1.1 checked.groupMembers

/-- An old device gives a new device the chain that the schedule says. -/
theorem newAndComplete_some (checked : addition.Checked) {owner : E2eeAddress}
    (member : owner ∈ addition.members) {info : GroupMemberInfo β}
    (new : info ∈ addition.addingMemberInfoList) (chainKey theirs : Bytes β) :
    newAndCompleteInboundGroupSessionWithChainKey getE2eesPack info
      (addition.next owner chainKey) theirs =
    some { insertInboundGroupSessionData info (addition.next owner chainKey) with
      chainKey := theirs
      associatedData := addition.cipherSuite.groupAssociatedData info.signPublicKey } := by
  have valid := checked.outbound owner member
  simp only [isValidGroupSession, Bool.and_eq_true] at valid
  have noChainKey :
      isValidGroupSessionNoChainKey getE2eesPack (addition.next owner chainKey) = true := by
    rw [isValidGroupSessionNoChainKey, Bool.and_eq_true]
    exact ⟨checked.head member, valid.2⟩
  rw [newAndCompleteInboundGroupSessionWithChainKey, checked.infos info new, noChainKey]
  simp only [next, current, addition.outboundPack owner member, addition.pack]
  rfl

theorem welcomed_new {info : GroupMemberInfo β} {theirs : Bytes β}
    (assigned : (info, theirs) ∈ addition.welcomed) : info ∈ addition.addingMemberInfoList :=
  (List.of_mem_zip assigned).1

theorem welcomed_address_ne {added other : GroupMemberInfo β × Bytes β}
    (assigned : added ∈ addition.welcomed) (otherAssigned : other ∈ addition.welcomed)
    (different : other ≠ added) : other.1.memberAddress ≠ added.1.memberAddress :=
  welcome_address_ne (welcomeAndAdd_length _ _ _).ge addition.distinct assigned otherAssigned
    different

/-- The chains of the new devices do not touch those of the old ones. -/
theorem extended_old (checked : addition.Checked) {owner sender : E2eeAddress}
    (member : owner ∈ addition.members) (senderMember : sender ∈ addition.members)
    (chainKey : Bytes β) :
    (addition.extended owner chainKey).lookup (addition.key sender owner) =
      (addition.moved owner chainKey).lookup (addition.key sender owner) := by
  refine KeyedTable.lookup_foldl_other ?_ _
  rintro ⟨info, theirs⟩ assigned table
  rw [newAndComplete_some checked member (welcomed_new assigned)]
  apply GroupStore.lookup_storeGroupSession_other
  apply GroupKey.uncovered_of_sender
  rintro rfl
  exact addition.newAddress info (welcomed_new assigned) senderMember

theorem owner_holds_outbound (checked : addition.Checked) {owner : E2eeAddress}
    (member : owner ∈ addition.members) (chainKey : Bytes β) :
    (addition.extended owner chainKey).Holds (addition.key owner owner) chainKey := by
  refine ⟨addition.next owner chainKey, ?_, rfl, rfl⟩
  rw [extended_old checked member member, moved, renewInboundGroupSessions]
  refine (GroupStore.lookup_loop_other _ ?_).trans ?_
  · intro session loaded stored inbound made
    apply GroupKey.uncovered_of_sender
    rw [renewInbound_key made]
    exact inbound
  · rw [← next_key member chainKey]
    exact GroupStore.lookup_storeGroupSession _ _

/-- An old device moves the chain of another old device on as the schedule says. -/
theorem renewInbound_some {owner sender : E2eeAddress} (member : owner ∈ addition.members)
    (senderMember : sender ∈ addition.members) (different : sender ≠ owner)
    {senderNext : Bytes β} (nextKey : addition.Next sender senderNext) (groupInfo : GroupInfo) :
    renewInboundGroupSessionByWelcomeAndAdd getE2eesPack
      (if addition.adder = sender then addition.adderChainKey owner else none)
      (addition.inbound sender owner) groupInfo =
    some { addition.inbound sender owner with
      groupInfo := groupInfo
      chainKey := senderNext
      sequence := 0 } := by
  have pack : getE2eesPack (addition.inbound sender owner).e2eesPackId =
      some addition.cipherSuite := by
    rw [addition.inboundPack sender senderMember owner member different, addition.pack]
  rw [renewInboundGroupSessionByWelcomeAndAdd,
    if_pos (addition.inboundValid sender senderMember owner member different), pack,
    Option.map_some, (addition.sameChain sender senderMember owner member different).1]
  cases nextKey with
  | adder => rw [if_pos rfl, adderChainKey, if_neg different.symm, Option.getD_some]
  | member _ notAdder => rw [if_neg notAdder.symm, Option.getD_none]
  | added assigned => exact absurd senderMember (addition.newAddress _ (welcomed_new assigned))

/-- The inbound chains of the old devices are renewed one by one. -/
theorem owner_holds_inbound (checked : addition.Checked) {owner sender : E2eeAddress}
    (member : owner ∈ addition.members) (senderMember : sender ∈ addition.members)
    (different : sender ≠ owner) (chainKey : Bytes β) {senderNext : Bytes β}
    (nextKey : addition.Next sender senderNext) :
    (addition.extended owner chainKey).Holds (addition.key sender owner) senderNext := by
  have found := addition.inboundStored sender senderMember owner member different
  have inboundKey := KeyedTable.lookup_key found
  have inboundSender : (addition.inbound sender owner).sender = sender :=
    congrArg GroupKey.sender inboundKey
  have group : (addition.next owner chainKey).groupInfo.groupAddress = addition.groupAddress :=
    outbound_group member
  have stored : ((addition.devices owner).groups.storeGroupSession
      (addition.next owner chainKey)).lookup (addition.key sender owner) =
        some (addition.inbound sender owner) := by
    refine (GroupStore.lookup_storeGroupSession_other _ ?_).trans found
    rw [next_key member]
    exact GroupKey.uncovered_of_sender different.symm
  have loaded : addition.inbound sender owner ∈
      ((addition.devices owner).groups.storeGroupSession
        (addition.next owner chainKey)).loadGroupSessions owner addition.groupAddress :=
    GroupStore.mem_loadGroupSessions_of_lookup _ stored
  have made := renewInbound_some member senderMember different nextKey
    (addition.next owner chainKey).groupInfo
  refine ⟨{ addition.inbound sender owner with
    groupInfo := (addition.next owner chainKey).groupInfo
    chainKey := senderNext
    sequence := 0 }, ?_, rfl, rfl⟩
  rw [extended_old checked member senderMember, moved, renewInboundGroupSessions]
  refine GroupStore.lookup_loop _ loaded ?_ ?_ ?_ ?_
  · rw [inboundSender]
    exact different
  · rw [inboundSender]
    exact made
  · rw [renewInbound_key made, inboundKey, group]
    rfl
  · intro other otherLoaded distinct renewed _ otherMade
    rw [GroupStore.mem_loadGroupSessions] at otherLoaded
    apply GroupKey.uncovered_of_ne addition.named
    rw [renewInbound_key otherMade, group, ← otherLoaded.2.2]
    intro same
    have otherFound := KeyedTable.lookup_of_mem _ otherLoaded.1
    rw [show other.key = addition.key sender owner from same, stored, Option.some.injEq]
      at otherFound
    exact distinct otherFound.symm

/-- The welcome keys are stored last. -/
theorem owner_holds_added (checked : addition.Checked) {owner : E2eeAddress}
    (member : owner ∈ addition.members) (chainKey : Bytes β) {info : GroupMemberInfo β}
    {theirs : Bytes β} (assigned : (info, theirs) ∈ addition.welcomed) :
    (addition.extended owner chainKey).Holds (addition.key info.memberAddress owner) theirs := by
  refine ⟨{ insertInboundGroupSessionData info (addition.next owner chainKey) with
    chainKey := theirs
    associatedData := addition.cipherSuite.groupAssociatedData info.signPublicKey }, ?_, rfl, rfl⟩
  have sameKey := next_key member chainKey
  refine KeyedTable.lookup_foldl ?_ ?_ assigned _
  · intro table
    rw [newAndComplete_some checked member (welcomed_new assigned)]
    have found : ({ insertInboundGroupSessionData info (addition.next owner chainKey) with
        chainKey := theirs
        associatedData := addition.cipherSuite.groupAssociatedData info.signPublicKey } :
          GroupSession β).key = addition.key info.memberAddress owner :=
      congrArg (fun key => { key with sender := info.memberAddress }) sameKey
    rw [← found]
    exact GroupStore.lookup_storeGroupSession table _
  · rintro ⟨other, otherKey⟩ otherAssigned distinct table
    rw [newAndComplete_some checked member (welcomed_new otherAssigned)]
    apply GroupStore.lookup_storeGroupSession_other
    apply GroupKey.uncovered_of_sender
    exact welcomed_address_ne assigned otherAssigned distinct

end GroupAddition

end Addition

end E2eeSecurity
