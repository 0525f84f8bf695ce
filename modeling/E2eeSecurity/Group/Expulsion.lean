/-
This file shows that the members that stay after a removal share new keys, which no secret of the
time before leads to.
-/
import E2eeSecurity.Group.Newcomer
import E2eeSecurity.Group.Removal

namespace E2eeSecurity

variable {β : Type} {getE2eesPack : Packs β}

/-- This is a removal of members as the server has accepted it.
Every device that stays has its own signature key in the list, and sessions of one old group session
only. -/
structure GroupExpulsion (getE2eesPack : Packs β) where
  cipherSuite : CipherSuite β
  outbound : GroupSession β
  response : RemoveGroupMembersResponse β
  sessionId : String
  groupSeed : Bytes β
  devices : E2eeAddress → Device β
  pack : getE2eesPack outbound.e2eesPackId = some cipherSuite
  outboundValid : isValidGroupSession getE2eesPack outbound = true
  responseValid : isValidRemoveGroupMembersResponse response = true
  distinct : (response.memberInfoList.map fun info => info.memberAddress).Nodup
  removerListed : ∃ info ∈ response.memberInfoList, info.memberAddress = outbound.sessionOwner
  removerStays : userInGroup outbound.sessionOwner response.groupMemberList = true
  ownKey : ∀ info ∈ response.memberInfoList,
    loadSignPublicKey (devices info.memberAddress).store info.memberAddress =
      some info.signPublicKey
  keyLength : ∀ info ∈ response.memberInfoList,
    info.signPublicKey.length = cipherSuite.ds.signPubKeyLen
  named : isValidString sessionId = true
  renamed : sessionId ≠ outbound.sessionId
  seedLength : groupSeed.length = seedSecretLen
  stays : ∀ info ∈ response.memberInfoList,
    response.removedGroupMemberList.any (isSameUser info.memberAddress) = false
  stored : ∀ info ∈ response.memberInfoList, info.memberAddress ≠ outbound.sessionOwner →
    ∃ inbound, (devices info.memberAddress).groups.loadGroupSessionByAddress outbound.sessionOwner
        info.memberAddress outbound.groupInfo.groupAddress = some inbound ∧
      isValidGroupSession getE2eesPack inbound = true ∧
      response.groupMemberList.length < inbound.groupInfo.groupMemberList.length
  oldOnly : ∀ info ∈ response.memberInfoList,
    ∀ session ∈ (devices info.memberAddress).groups.loadGroupSessions info.memberAddress
      outbound.groupInfo.groupAddress, session.sessionId = outbound.sessionId

namespace GroupExpulsion

/-- The remover drops the old sessions and makes new ones and the bundle. -/
def start (expulsion : GroupExpulsion getE2eesPack) :
    Bool × GroupStore β × Option (GroupPreKeyBundle β) :=
  consumeRemoveGroupMembersResponse getE2eesPack
    (expulsion.devices expulsion.outbound.sessionOwner) expulsion.outbound expulsion.response
    expulsion.sessionId expulsion.groupSeed

def groupInfo (expulsion : GroupExpulsion getE2eesPack) : GroupInfo :=
  { expulsion.outbound.groupInfo with
    groupMemberList := expulsion.response.groupMemberList }

def msg (expulsion : GroupExpulsion getE2eesPack) : RemoveGroupMembersMsg β :=
  ⟨expulsion.outbound.e2eesPackId, expulsion.outbound.sessionOwner, expulsion.groupInfo,
    expulsion.response.removedGroupMemberList, expulsion.response.memberInfoList⟩

/-- Every other member that stays handles the message and then the bundle. -/
def finish (expulsion : GroupExpulsion getE2eesPack) (removerGroups : GroupStore β)
    (bundle : GroupPreKeyBundle β) (address : E2eeAddress) : GroupStore β :=
  if address = expulsion.outbound.sessionOwner then removerGroups
  else consumeGroupPreKeyBundle getE2eesPack ⟨(expulsion.devices address).store,
    consumeRemoveGroupMembersMsg getE2eesPack (expulsion.devices address) address expulsion.msg⟩
    address bundle

def key (expulsion : GroupExpulsion getE2eesPack) (sender owner : E2eeAddress) : GroupKey :=
  ⟨expulsion.sessionId, sender, owner, expulsion.outbound.groupInfo.groupAddress⟩

/-- The stored session has the first keys of the sender. -/
structure Agreed (expulsion : GroupExpulsion getE2eesPack) (info : GroupMemberInfo β)
    (session : GroupSession β) : Prop where
  sessionId : session.sessionId = expulsion.sessionId
  sequence : session.sequence = 0
  chainKey : session.chainKey =
    expulsion.cipherSuite.groupChainKey expulsion.groupSeed info.signPublicKey
  associatedData : session.associatedData =
    expulsion.cipherSuite.groupAssociatedData info.signPublicKey

/-- After the old sessions are gone, the remover creates the group anew. -/
def creation (expulsion : GroupExpulsion getE2eesPack) : GroupCreation getE2eesPack where
  cipherSuite := expulsion.cipherSuite
  e2eesPackId := expulsion.outbound.e2eesPackId
  creator := expulsion.outbound.sessionOwner
  groupInfo := expulsion.groupInfo
  memberInfoList := expulsion.response.memberInfoList
  sessionId := expulsion.sessionId
  groupSeed := expulsion.groupSeed
  devices address := ⟨(expulsion.devices address).store,
    if address = expulsion.outbound.sessionOwner then
      (expulsion.devices address).groups.unloadGroupSessionById expulsion.outbound.sessionOwner
        expulsion.outbound.sessionId
    else KeyedTable.empty⟩
  pack := expulsion.pack
  distinct := expulsion.distinct
  ownKey := expulsion.ownKey
  keyLength := expulsion.keyLength
  named := expulsion.named
  seedLength := expulsion.seedLength
  fresh info _ other := by
    rw [if_neg other]
    rfl

end GroupExpulsion

/-- The identifier of the old group session only goes into the bundle. -/
theorem newOutboundGroupSessionBySender_old (device : Device β)
    (memberInfoList : List (GroupMemberInfo β)) (e2eesPackId : UInt32)
    (userAddress : E2eeAddress) (groupName : String) (groupAddress : E2eeAddress)
    (groupMemberList : List GroupMember) (oldSessionId sessionId : String)
    (groupSeed : Bytes β) :
    newOutboundGroupSessionBySender getE2eesPack device memberInfoList e2eesPackId userAddress
        groupName groupAddress groupMemberList oldSessionId sessionId groupSeed =
      (newOutboundGroupSessionBySender getE2eesPack device memberInfoList e2eesPackId userAddress
        groupName groupAddress groupMemberList "" sessionId groupSeed).map fun made =>
          (made.1, { made.2 with oldSessionId := oldSessionId }) := by
  unfold newOutboundGroupSessionBySender
  split
  · split <;> rfl
  · rfl

section Agreement

variable {expulsion : GroupExpulsion getE2eesPack} {removerGroups : GroupStore β}
  {bundle : GroupPreKeyBundle β}

/-- A removal that succeeds is a creation with the identifier of the old group session. -/
theorem GroupExpulsion.started
    (started : expulsion.start = (true, removerGroups, some bundle)) :
    ∃ made, expulsion.creation.start = some (removerGroups, made) ∧
      bundle = { made with oldSessionId := expulsion.outbound.sessionId } := by
  unfold GroupExpulsion.start consumeRemoveGroupMembersResponse at started
  rw [expulsion.outboundValid, expulsion.responseValid, Bool.and_self, if_pos rfl,
    expulsion.removerStays, Bool.and_true] at started
  dsimp only at started
  split at started
  · rw [newOutboundGroupSessionBySender_old] at started
    split at started
    next groups made created =>
      simp only [Prod.mk.injEq, Option.some.injEq, true_and] at started
      obtain ⟨rfl, rfl⟩ := started
      obtain ⟨⟨other, first⟩, found, same⟩ := Option.map_eq_some_iff.mp created
      simp only [Prod.mk.injEq] at same
      obtain ⟨rfl, rfl⟩ := same
      refine ⟨first, ?_, rfl⟩
      rw [← found]
      simp only [GroupCreation.start, GroupExpulsion.creation, GroupExpulsion.groupInfo, if_true]
    · simp at started
  · simp at started

/-- This is what the bundle of the remover holds. -/
def GroupExpulsion.announcement (expulsion : GroupExpulsion getE2eesPack) (signPublicKey : Bytes β) :
    GroupPreKeyBundle β :=
  packGroupPreKeyPlaintext (expulsion.creation.outbound signPublicKey)
    expulsion.outbound.sessionId

theorem GroupExpulsion.started_bundle
    (started : expulsion.start = (true, removerGroups, some bundle)) :
    expulsion.creation.Checked ∧ ∃ signPublicKey, bundle = expulsion.announcement signPublicKey := by
  obtain ⟨made, created, rfl⟩ := GroupExpulsion.started started
  obtain ⟨checked, signPublicKey, -, rfl, -⟩ := GroupCreation.started created
  exact ⟨checked, signPublicKey, rfl⟩

theorem GroupExpulsion.outboundId : expulsion.outbound.sessionId ≠ "" := by
  have valid := expulsion.outboundValid
  simp only [isValidGroupSession, isValidGroupSessionHead, Bool.and_eq_true] at valid
  simpa [isValidString] using valid.1.1.1.1.1.2

/-- This is the removal as it reaches a member that stays. -/
def GroupExpulsion.removal (checked : expulsion.creation.Checked) (signPublicKey : Bytes β)
    {receiver : GroupMemberInfo β} (member : receiver ∈ expulsion.response.memberInfoList)
    (other : receiver.memberAddress ≠ expulsion.outbound.sessionOwner) (inbound : GroupSession β)
    (stored : (expulsion.devices receiver.memberAddress).groups.loadGroupSessionByAddress
        expulsion.outbound.sessionOwner receiver.memberAddress
          expulsion.outbound.groupInfo.groupAddress = some inbound ∧
      isValidGroupSession getE2eesPack inbound = true ∧
      expulsion.response.groupMemberList.length < inbound.groupInfo.groupMemberList.length) :
    GroupRemoval getE2eesPack where
  cipherSuite := expulsion.cipherSuite
  e2eesPackId := expulsion.outbound.e2eesPackId
  receiver := receiver.memberAddress
  groupInfo := expulsion.groupInfo
  infos := expulsion.response.memberInfoList
  pack := expulsion.pack
  suite := checked.suite
  receiverValid := checked.address member
  groupInfoValid := checked.groupInfo
  infosValid := checked.infos
  distinct := expulsion.distinct
  device := expulsion.devices receiver.memberAddress
  sender := expulsion.outbound.sessionOwner
  removingMemberList := expulsion.response.removedGroupMemberList
  bundle := expulsion.announcement signPublicKey
  signPublicKey := receiver.signPublicKey
  inbound := inbound
  fits := ⟨rfl, rfl, checked.preKeyBundle signPublicKey, expulsion.ownKey receiver member,
    isValidProtobuf_of_length (expulsion.keyLength receiver member)
      expulsion.cipherSuite.ds.signPubKeyLenPositive⟩
  removingValid := by
    have valid := expulsion.responseValid
    simp only [isValidRemoveGroupMembersResponse, Bool.and_eq_true] at valid
    exact valid.1.1.2
  bundleSender := rfl
  replaces := GroupExpulsion.outboundId
  renamed := expulsion.renamed
  stays := expulsion.stays receiver member
  otherSender := other.symm
  senderListed := expulsion.removerListed
  stored := stored.1
  inboundValid := stored.2.1
  oldOnly := expulsion.oldOnly receiver member
  fewer := stored.2.2

/-- A member that stays ends where the removal leaves it. -/
theorem GroupExpulsion.finish_eq
    (started : expulsion.start = (true, removerGroups, some bundle))
    {receiver : GroupMemberInfo β} (member : receiver ∈ expulsion.response.memberInfoList)
    (other : receiver.memberAddress ≠ expulsion.outbound.sessionOwner) :
    ∃ (checked : expulsion.creation.Checked) (signPublicKey : Bytes β)
      (inbound : GroupSession β) (stored : _),
      expulsion.finish removerGroups bundle receiver.memberAddress = GroupRemoval.finish
        (GroupExpulsion.removal checked signPublicKey member other inbound stored) := by
  obtain ⟨checked, signPublicKey, rfl⟩ := GroupExpulsion.started_bundle started
  obtain ⟨inbound, stored⟩ := expulsion.stored receiver member other
  refine ⟨checked, signPublicKey, inbound, stored, ?_⟩
  rw [GroupExpulsion.finish, if_neg other]
  rfl

/-- A member that stays has the new keys of all members, and no session of the old group session. -/
theorem GroupExpulsion.member_renewed
    (started : expulsion.start = (true, removerGroups, some bundle))
    {receiver : GroupMemberInfo β} (member : receiver ∈ expulsion.response.memberInfoList)
    (other : receiver.memberAddress ≠ expulsion.outbound.sessionOwner) :
    (∀ sender ∈ expulsion.response.memberInfoList,
      sender.memberAddress ≠ receiver.memberAddress →
      ∃ inbound, (expulsion.finish removerGroups bundle receiver.memberAddress).lookup
        (expulsion.key sender.memberAddress receiver.memberAddress) = some inbound ∧
          expulsion.Agreed sender inbound) ∧
      (∃ outbound, (expulsion.finish removerGroups bundle receiver.memberAddress).lookup
        (expulsion.key receiver.memberAddress receiver.memberAddress) = some outbound ∧
          expulsion.Agreed receiver outbound) ∧
      ∀ session ∈ (expulsion.finish removerGroups bundle receiver.memberAddress).entries,
        session.sessionOwner = receiver.memberAddress →
        session.sessionId ≠ expulsion.outbound.sessionId := by
  obtain ⟨checked, signPublicKey, inbound, stored, finish⟩ :=
    GroupExpulsion.finish_eq started member other
  rw [finish]
  refine ⟨?_, ?_, ?_⟩
  · intro sender senderMember different
    have sameKey : expulsion.cipherSuite.groupChainKey expulsion.groupSeed
        (expulsion.cipherSuite.groupAssociatedData sender.signPublicKey) =
          expulsion.cipherSuite.groupChainKey expulsion.groupSeed sender.signPublicKey := by
      rw [CipherSuite.groupChainKey, CipherSuite.groupChainKey,
        CipherSuite.take_groupAssociatedData _ (expulsion.keyLength sender senderMember)]
    exact ⟨_, GroupRemoval.lookup_finish ((GroupRemoval.mem_finish _).mpr
      (.inl ⟨sender, senderMember, different, rfl⟩)), rfl, rfl, sameKey, rfl⟩
  · exact ⟨_, GroupRemoval.lookup_finish ((GroupRemoval.mem_finish _).mpr (.inr rfl)),
      rfl, rfl, rfl, rfl⟩
  · intro session present owner
    exact GroupRemoval.finish_old present owner

/-- The remover drops the old sessions before it makes new ones. -/
theorem GroupExpulsion.remover_old
    (started : expulsion.start = (true, removerGroups, some bundle)) {session : GroupSession β}
    (present : session ∈ removerGroups.entries)
    (owner : session.sessionOwner = expulsion.outbound.sessionOwner) :
    session.sessionId ≠ expulsion.outbound.sessionId := by
  obtain ⟨made, created, -⟩ := GroupExpulsion.started started
  obtain ⟨checked, signPublicKey, -, -, rfl⟩ := GroupCreation.started created
  obtain ⟨earlier, -⟩ | rfl := KeyedTable.mem_insert.mp present
  · obtain old | ⟨info, member, -, madeHere⟩ := GroupStore.mem_loop _ earlier
    · simp only [GroupExpulsion.creation, if_true] at old
      intro same
      have kept := (List.mem_filter.mp old).2
      simp [owner, same] at kept
    · rw [GroupCreation.newAndComplete_some checked member, Option.some.injEq] at madeHere
      subst madeHere
      exact expulsion.renamed
  · exact expulsion.renamed

/-- After a removal every pair of devices that stay has the same new keys, whichever of them is the
remover, and none of them has a session of the old group session. -/
theorem groupExpulsion_agrees
    (started : expulsion.start = (true, removerGroups, some bundle))
    {sender receiver : GroupMemberInfo β}
    (senderMember : sender ∈ expulsion.response.memberInfoList)
    (receiverMember : receiver ∈ expulsion.response.memberInfoList)
    (different : sender.memberAddress ≠ receiver.memberAddress) :
    (∃ inbound outbound,
      (expulsion.finish removerGroups bundle receiver.memberAddress).lookup
        (expulsion.key sender.memberAddress receiver.memberAddress) = some inbound ∧
      (expulsion.finish removerGroups bundle sender.memberAddress).lookup
        (expulsion.key sender.memberAddress sender.memberAddress) = some outbound ∧
      inbound.chainKey = outbound.chainKey ∧ inbound.associatedData = outbound.associatedData ∧
      inbound.sequence = 0 ∧ outbound.sequence = 0 ∧
      outbound.chainKey = expulsion.cipherSuite.groupChainKey expulsion.groupSeed
        sender.signPublicKey) ∧
      ∀ session ∈ (expulsion.finish removerGroups bundle receiver.memberAddress).entries,
        session.sessionOwner = receiver.memberAddress →
        session.sessionId ≠ expulsion.outbound.sessionId := by
  obtain ⟨made, created, -⟩ := GroupExpulsion.started started
  have atRemover : expulsion.finish removerGroups bundle expulsion.outbound.sessionOwner =
      removerGroups := if_pos rfl
  obtain ⟨⟨inbound, inboundFound, inboundAgreed⟩, old⟩ :
      (∃ inbound, (expulsion.finish removerGroups bundle receiver.memberAddress).lookup
        (expulsion.key sender.memberAddress receiver.memberAddress) = some inbound ∧
          expulsion.Agreed sender inbound) ∧
        ∀ session ∈ (expulsion.finish removerGroups bundle receiver.memberAddress).entries,
          session.sessionOwner = receiver.memberAddress →
          session.sessionId ≠ expulsion.outbound.sessionId := by
    by_cases isRemover : receiver.memberAddress = expulsion.outbound.sessionOwner
    · rw [isRemover] at different ⊢
      rw [atRemover]
      obtain ⟨inbound, found, agreed⟩ :=
        GroupCreation.creator_inbound created senderMember different
      exact ⟨⟨inbound, found, ⟨agreed.sessionId, agreed.sequence, agreed.chainKey,
        agreed.associatedData⟩⟩, fun session present => GroupExpulsion.remover_old started present⟩
    · obtain ⟨inbound, -, gone⟩ :=
        GroupExpulsion.member_renewed started receiverMember isRemover
      exact ⟨inbound sender senderMember different, gone⟩
  obtain ⟨outbound, outboundFound, outboundAgreed⟩ :
      ∃ outbound, (expulsion.finish removerGroups bundle sender.memberAddress).lookup
        (expulsion.key sender.memberAddress sender.memberAddress) = some outbound ∧
          expulsion.Agreed sender outbound := by
    by_cases isRemover : sender.memberAddress = expulsion.outbound.sessionOwner
    · rw [isRemover, atRemover]
      obtain ⟨outbound, found, agreed⟩ :=
        GroupCreation.creator_outbound created senderMember isRemover
      exact ⟨outbound, found, ⟨agreed.sessionId, agreed.sequence, agreed.chainKey,
        agreed.associatedData⟩⟩
    · exact (GroupExpulsion.member_renewed started senderMember isRemover).2.1
  refine ⟨⟨inbound, outbound, inboundFound, outboundFound, ?_, ?_, inboundAgreed.sequence,
    outboundAgreed.sequence, outboundAgreed.chainKey⟩, old⟩
  · rw [inboundAgreed.chainKey, outboundAgreed.chainKey]
  · rw [inboundAgreed.associatedData, outboundAgreed.associatedData]

end Agreement

namespace Symbolic

/-- Alice removes Carol from the group that she has created, and Bob stays. -/
def expulsion : GroupExpulsion fun _ => some symbolicSuite where
  cipherSuite := symbolicSuite
  outbound := memberSession aliceAddress aliceAddress
  response := removalResponse [memberInfo aliceAddress, memberInfo bobAddress]
  sessionId := "next"
  groupSeed := List.replicate seedSecretLen (.byte 81)
  devices := memberDevice
  pack := symbolicPack
  outboundValid := by decide
  responseValid := by decide
  distinct := by decide
  removerListed := ⟨_, List.mem_cons_self, rfl⟩
  removerStays := by decide
  ownKey := by decide
  keyLength := by decide
  named := rfl
  renamed := by decide
  seedLength := List.length_replicate
  stays := by decide
  stored := by
    intro info member other
    obtain rfl | later := List.mem_cons.mp member
    · exact absurd rfl other
    · obtain rfl := List.mem_singleton.mp later
      exact ⟨memberSession aliceAddress bobAddress, by decide, by decide, by decide⟩
  oldOnly := by decide

end Symbolic

/-- Alice and Bob agree on new keys after Alice has removed Carol. -/
theorem expulsion_agrees : ∃ removerGroups bundle,
    Symbolic.expulsion.start = (true, removerGroups, some bundle) ∧
      ∃ inbound outbound,
        (Symbolic.expulsion.finish removerGroups bundle Symbolic.bobAddress).lookup
          (Symbolic.expulsion.key Symbolic.aliceAddress Symbolic.bobAddress) = some inbound ∧
        (Symbolic.expulsion.finish removerGroups bundle Symbolic.aliceAddress).lookup
          (Symbolic.expulsion.key Symbolic.aliceAddress Symbolic.aliceAddress) = some outbound ∧
        inbound.chainKey = outbound.chainKey := by
  have succeeds : Symbolic.expulsion.start.1 = true := by decide
  have bundled : Symbolic.expulsion.start.2.2.isSome = true := by decide
  obtain ⟨bundle, found⟩ := Option.isSome_iff_exists.mp bundled
  have started : Symbolic.expulsion.start =
      (true, Symbolic.expulsion.start.2.1, some bundle) := by
    rw [← succeeds, ← found]
  have aliceMember : Symbolic.memberInfo Symbolic.aliceAddress ∈
      Symbolic.expulsion.response.memberInfoList := List.mem_cons_self
  have bobMember : Symbolic.memberInfo Symbolic.bobAddress ∈
      Symbolic.expulsion.response.memberInfoList := List.mem_cons_of_mem _ List.mem_cons_self
  obtain ⟨⟨inbound, outbound, inboundFound, outboundFound, same, -⟩, -⟩ :=
    groupExpulsion_agrees started aliceMember bobMember (by decide)
  exact ⟨_, bundle, started, inbound, outbound, inboundFound, outboundFound, same⟩

end E2eeSecurity
