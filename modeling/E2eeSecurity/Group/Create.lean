/-
This file shows that a created group starts with the same keys on the devices of all its members.
-/
import E2eeSecurity.Group.Stored
import E2eeSecurity.Session.Agreement

namespace E2eeSecurity

variable {β : Type} {getE2eesPack : Packs β}

/-- This is a group that is about to be created.
Every listed device has its own signature key in the list, and has no session of the group yet. -/
structure GroupCreation (getE2eesPack : Packs β) where
  cipherSuite : CipherSuite β
  e2eesPackId : UInt32
  creator : E2eeAddress
  groupInfo : GroupInfo
  memberInfoList : List (GroupMemberInfo β)
  sessionId : String
  groupSeed : Bytes β
  devices : E2eeAddress → Device β
  pack : getE2eesPack e2eesPackId = some cipherSuite
  distinct : (memberInfoList.map fun info => info.memberAddress).Nodup
  ownKey : ∀ info ∈ memberInfoList,
    loadSignPublicKey (devices info.memberAddress).store info.memberAddress =
      some info.signPublicKey
  keyLength : ∀ info ∈ memberInfoList,
    info.signPublicKey.length = cipherSuite.ds.signPubKeyLen
  named : isValidString sessionId = true
  seedLength : groupSeed.length = seedSecretLen
  fresh : ∀ info ∈ memberInfoList, info.memberAddress ≠ creator →
    (devices info.memberAddress).groups.loadGroupSessions info.memberAddress
      groupInfo.groupAddress = []

namespace GroupCreation

/-- The creator makes its sessions and the bundle. -/
def start (creation : GroupCreation getE2eesPack) : Option (GroupStore β × GroupPreKeyBundle β) :=
  newOutboundGroupSessionBySender getE2eesPack (creation.devices creation.creator)
    creation.memberInfoList creation.e2eesPackId creation.creator creation.groupInfo.groupName
    creation.groupInfo.groupAddress creation.groupInfo.groupMemberList "" creation.sessionId
    creation.groupSeed

def msg (creation : GroupCreation getE2eesPack) : CreateGroupMsg β :=
  ⟨creation.e2eesPackId, creation.creator, creation.groupInfo, creation.memberInfoList⟩

/-- A member first learns the other members. -/
def listed (creation : GroupCreation getE2eesPack) (address : E2eeAddress) : GroupStore β :=
  consumeCreateGroupMsg getE2eesPack (creation.devices address) address creation.msg

/-- Then every other member also has the bundle of the creator. -/
def finish (creation : GroupCreation getE2eesPack) (creatorGroups : GroupStore β)
    (bundle : GroupPreKeyBundle β) (address : E2eeAddress) : GroupStore β :=
  if address = creation.creator then creatorGroups
  else consumeGroupPreKeyBundle getE2eesPack
    ⟨(creation.devices address).store, creation.listed address⟩ address bundle

def key (creation : GroupCreation getE2eesPack) (sender owner : E2eeAddress) : GroupKey :=
  ⟨creation.sessionId, sender, owner, creation.groupInfo.groupAddress⟩

/-- This is the session of the creator before the seed is dropped. -/
def outbound (creation : GroupCreation getE2eesPack) (signPublicKey : Bytes β) : GroupSession β :=
  insertOutboundGroupSessionData creation.cipherSuite creation.e2eesPackId creation.creator
    creation.groupInfo.groupName creation.groupInfo.groupAddress creation.sessionId
    creation.groupInfo.groupMemberList signPublicKey creation.groupSeed

/-- This is the session of a listed device before the bundle comes. -/
def waiting (creation : GroupCreation getE2eesPack) (owner : E2eeAddress)
    (info : GroupMemberInfo β) : GroupSession β where
  version := ""
  e2eesPackId := creation.e2eesPackId
  sessionId := ""
  sender := info.memberAddress
  sessionOwner := owner
  groupInfo := creation.groupInfo
  sequence := 0
  groupSeed := []
  chainKey := []
  associatedData := creation.cipherSuite.groupAssociatedData info.signPublicKey

/-- The stored session has the first keys of the sender. -/
structure Agreed (creation : GroupCreation getE2eesPack) (info : GroupMemberInfo β)
    (session : GroupSession β) : Prop where
  sessionId : session.sessionId = creation.sessionId
  sequence : session.sequence = 0
  chainKey : session.chainKey =
    creation.cipherSuite.groupChainKey creation.groupSeed info.signPublicKey
  associatedData : session.associatedData =
    creation.cipherSuite.groupAssociatedData info.signPublicKey

/-- These are the checks that the creator has passed. -/
structure Checked (creation : GroupCreation getE2eesPack) : Prop where
  suite : isValidCipherSuite creation.cipherSuite = true
  creator : isValidAddress creation.creator = true
  infos : ∀ info ∈ creation.memberInfoList, isValidGroupMemberInfo info = true
  groupInfo : isValidGroupInfo creation.groupInfo = true

end GroupCreation

/-- The key of a party that may send is also found where no authorisation is needed. -/
theorem loadSignPublicKey_of_sender {store : Store β} {address : E2eeAddress} {key : Bytes β}
    (loaded : loadSenderSignPublicKey store address = some key) :
    loadSignPublicKey store address = some key := by
  unfold loadSenderSignPublicKey at loaded
  split at loaded
  next identityKey cached =>
    split at loaded
    · rw [loadSignPublicKey, cached]
      exact loaded
    · cases loaded
  · exact loaded

section Creation

variable {creation : GroupCreation getE2eesPack} {creatorGroups : GroupStore β}
  {bundle : GroupPreKeyBundle β}

theorem GroupCreation.started (started : creation.start = some (creatorGroups, bundle)) :
    creation.Checked ∧ ∃ signPublicKey,
      loadSignPublicKey (creation.devices creation.creator).store creation.creator =
        some signPublicKey ∧
      bundle = packGroupPreKeyPlaintext (creation.outbound signPublicKey) "" ∧
      creatorGroups = GroupStore.storeGroupSession (creation.memberInfoList.foldl
        (fun groups info => if info.memberAddress = creation.creator then groups
          else groups.storeResult (newAndCompleteInboundGroupSession getE2eesPack info
            (creation.outbound signPublicKey))) (creation.devices creation.creator).groups)
        { creation.outbound signPublicKey with groupSeed := [] } := by
  unfold GroupCreation.start newOutboundGroupSessionBySender at started
  rw [creation.pack] at started
  split at started
  next cipherSuite signPublicKey found loaded =>
    obtain rfl := Option.some.inj found
    split at started
    next checks =>
      simp only [Bool.and_eq_true, List.all_eq_true] at checks
      obtain ⟨⟨⟨⟨⟨⟨⟨⟨suite, creator⟩, infos⟩, groupName⟩, groupAddress⟩, members⟩, -⟩, -⟩, -⟩ := checks
      simp only [Option.some.injEq, Prod.mk.injEq] at started
      refine ⟨⟨suite, creator, infos, ?_⟩, signPublicKey, loadSignPublicKey_of_sender loaded,
        started.2.symm, started.1.symm⟩
      simp only [isValidGroupInfo, groupName, groupAddress, List.all_eq_true.mpr members,
        Bool.and_self]
    · cases started
  · cases started

theorem GroupCreation.Checked.packId (checked : creation.Checked) :
    isValidE2eesPackId getE2eesPack creation.e2eesPackId = true := by
  rw [isValidE2eesPackId, creation.pack, Option.any_some]
  exact checked.suite

theorem GroupCreation.Checked.address (checked : creation.Checked) {info : GroupMemberInfo β}
    (member : info ∈ creation.memberInfoList) : isValidAddress info.memberAddress = true := by
  have valid := checked.infos info member
  rw [isValidGroupMemberInfo, Bool.and_eq_true] at valid
  exact valid.1

theorem GroupCreation.address_ne {info other : GroupMemberInfo β}
    (member : info ∈ creation.memberInfoList) (present : other ∈ creation.memberInfoList)
    (different : other ≠ info) : other.memberAddress ≠ info.memberAddress :=
  fun same => different (List.inj_on_of_nodup_map creation.distinct present member same)

theorem GroupCreation.seed_valid (creation : GroupCreation getE2eesPack) :
    isValidProtobuf creation.groupSeed = true :=
  isValidProtobuf_of_length creation.seedLength (by decide)

/-- The creator fills the session of every other listed device at once. -/
theorem GroupCreation.newAndComplete_some (checked : creation.Checked) {info : GroupMemberInfo β}
    (member : info ∈ creation.memberInfoList) (signPublicKey : Bytes β) :
    newAndCompleteInboundGroupSession getE2eesPack info (creation.outbound signPublicKey) =
      some { insertInboundGroupSessionData info (creation.outbound signPublicKey) with
        chainKey := creation.cipherSuite.groupChainKey creation.groupSeed info.signPublicKey
        associatedData := creation.cipherSuite.groupAssociatedData info.signPublicKey } := by
  have head : isValidGroupSessionByPreKeyBundle getE2eesPack
      (creation.outbound signPublicKey) = true := by
    simp only [isValidGroupSessionByPreKeyBundle, isValidGroupSessionHead, GroupCreation.outbound,
      insertOutboundGroupSessionData, checked.packId, checked.creator, creation.named,
      creation.seed_valid, Bool.and_true, Bool.and_eq_true]
    exact ⟨rfl, checked.groupInfo⟩
  rw [newAndCompleteInboundGroupSession, checked.infos info member, head]
  simp only [GroupCreation.outbound, insertOutboundGroupSessionData, creation.pack]
  rfl

/-- The creator has a session with the first keys of every other listed device. -/
theorem GroupCreation.creator_inbound (started : creation.start = some (creatorGroups, bundle))
    {sender : GroupMemberInfo β} (member : sender ∈ creation.memberInfoList)
    (different : sender.memberAddress ≠ creation.creator) :
    ∃ inbound, creatorGroups.lookup (creation.key sender.memberAddress creation.creator) =
      some inbound ∧ creation.Agreed sender inbound := by
  obtain ⟨checked, signPublicKey, -, -, rfl⟩ := GroupCreation.started started
  refine ⟨{ insertInboundGroupSessionData sender (creation.outbound signPublicKey) with
    chainKey := creation.cipherSuite.groupChainKey creation.groupSeed sender.signPublicKey
    associatedData := creation.cipherSuite.groupAssociatedData sender.signPublicKey },
    ?_, ⟨rfl, rfl, rfl, rfl⟩⟩
  refine (GroupStore.lookup_storeGroupSession_other _ ?_).trans ?_
  · exact GroupKey.uncovered_of_sender different.symm
  refine GroupStore.lookup_loop _ member different
    (GroupCreation.newAndComplete_some checked member signPublicKey) rfl ?_
  intro other present distinct stored _ made
  rw [GroupCreation.newAndComplete_some checked present, Option.some.injEq] at made
  subst made
  exact GroupKey.uncovered_of_sender (GroupCreation.address_ne member present distinct)

/-- The outbound session of the creator has the first keys of the creator. -/
theorem GroupCreation.creator_outbound (started : creation.start = some (creatorGroups, bundle))
    {sender : GroupMemberInfo β} (member : sender ∈ creation.memberInfoList)
    (same : sender.memberAddress = creation.creator) :
    ∃ outbound, creatorGroups.lookup (creation.key creation.creator creation.creator) =
      some outbound ∧ creation.Agreed sender outbound := by
  obtain ⟨-, signPublicKey, loaded, -, rfl⟩ := GroupCreation.started started
  have own := creation.ownKey sender member
  rw [same, loaded, Option.some.injEq] at own
  subst own
  exact ⟨_, GroupStore.lookup_storeGroupSession _ _, ⟨rfl, rfl, rfl, rfl⟩⟩

theorem GroupCreation.Checked.msg (checked : creation.Checked) :
    isValidCreateGroupMsg getE2eesPack creation.msg = true := by
  simp only [isValidCreateGroupMsg, GroupCreation.msg, checked.packId, checked.creator,
    checked.groupInfo, List.all_eq_true.mpr checked.infos, Bool.and_self]

theorem GroupCreation.Checked.preKeyBundle (checked : creation.Checked) (signPublicKey : Bytes β) :
    isValidGroupPreKeyBundle getE2eesPack
      (packGroupPreKeyPlaintext (creation.outbound signPublicKey) "") = true := by
  simp only [isValidGroupPreKeyBundle, packGroupPreKeyPlaintext, GroupCreation.outbound,
    insertOutboundGroupSessionData, checked.packId, checked.creator, creation.named,
    creation.seed_valid, Bool.and_true, Bool.and_eq_true]
  exact ⟨rfl, checked.groupInfo⟩

section Member

variable {receiver : GroupMemberInfo β}

theorem GroupCreation.newInbound_some (checked : creation.Checked)
    (receiverMember : receiver ∈ creation.memberInfoList) {info : GroupMemberInfo β}
    (member : info ∈ creation.memberInfoList) :
    newInboundGroupSessionByMemberId getE2eesPack creation.e2eesPackId receiver.memberAddress
      info creation.groupInfo = some (creation.waiting receiver.memberAddress info) := by
  rw [newInboundGroupSessionByMemberId, checked.packId, checked.address receiverMember,
    checked.infos info member, checked.groupInfo, creation.pack]
  rfl

/-- A member that has heard of the group waits for the keys of all other listed devices. -/
theorem GroupCreation.mem_listed (checked : creation.Checked)
    (receiverMember : receiver ∈ creation.memberInfoList)
    (other : receiver.memberAddress ≠ creation.creator) (session : GroupSession β) :
    session ∈ (creation.listed receiver.memberAddress).loadGroupSessions receiver.memberAddress
        creation.groupInfo.groupAddress ↔
      ∃ info ∈ creation.memberInfoList, info.memberAddress ≠ receiver.memberAddress ∧
        session = creation.waiting receiver.memberAddress info := by
  have fresh := creation.fresh receiver receiverMember other
  have loop : creation.listed receiver.memberAddress = creation.memberInfoList.foldl
      (fun groups info => if info.memberAddress = receiver.memberAddress then groups
        else groups.storeResult (newInboundGroupSessionByMemberId getE2eesPack
          creation.e2eesPackId receiver.memberAddress info creation.groupInfo))
      (creation.devices receiver.memberAddress).groups := by
    rw [GroupCreation.listed, consumeCreateGroupMsg, checked.address receiverMember, checked.msg,
      GroupCreation.msg, GroupStore.loadGroupSessionByAddress_none _ fresh]
    rfl
  rw [GroupStore.mem_loadGroupSessions, loop]
  constructor
  · rintro ⟨member, owner, group⟩
    obtain old | ⟨info, present, kept, made⟩ := GroupStore.mem_loop _ member
    · have loaded := (GroupStore.mem_loadGroupSessions _).mpr ⟨old, owner, group⟩
      rw [fresh] at loaded
      cases loaded
    · rw [GroupCreation.newInbound_some checked receiverMember present, Option.some.injEq] at made
      exact ⟨info, present, kept, made.symm⟩
  · rintro ⟨info, present, kept, rfl⟩
    refine ⟨?_, rfl, rfl⟩
    refine KeyedTable.lookup_mem (GroupStore.lookup_loop _ present kept
      (GroupCreation.newInbound_some checked receiverMember present) rfl ?_)
    intro next member distinct stored _ made
    rw [GroupCreation.newInbound_some checked receiverMember member, Option.some.injEq] at made
    subst made
    exact GroupKey.uncovered_of_sender (GroupCreation.address_ne present member distinct)

/-- The bundle completes a waiting session, with the signature key from the associated data. -/
theorem GroupCreation.completeInbound_some (checked : creation.Checked)
    (receiverMember : receiver ∈ creation.memberInfoList) {info : GroupMemberInfo β}
    (member : info ∈ creation.memberInfoList) (signPublicKey : Bytes β) :
    completeInboundGroupSessionByPreKeyBundle getE2eesPack
      (creation.waiting receiver.memberAddress info)
      (packGroupPreKeyPlaintext (creation.outbound signPublicKey) "") =
    some { creation.waiting receiver.memberAddress info with
      version := e2eesProtocolVersion
      sessionId := creation.sessionId
      chainKey := creation.cipherSuite.groupChainKey creation.groupSeed info.signPublicKey } := by
  have signed : isValidProtobuf info.signPublicKey = true :=
    isValidProtobuf_of_length (creation.keyLength info member)
      creation.cipherSuite.ds.signPubKeyLenPositive
  have valid : isValidGroupSessionByMemberId getE2eesPack
      (creation.waiting receiver.memberAddress info) = true := by
    simp only [isValidGroupSessionByMemberId, GroupCreation.waiting, checked.packId,
      checked.address member, checked.address receiverMember, checked.groupInfo,
      groupAssociatedData_of_valid creation.cipherSuite signed, Bool.and_self]
  have chainKey : creation.cipherSuite.groupChainKey creation.groupSeed
      (creation.cipherSuite.groupAssociatedData info.signPublicKey) =
      creation.cipherSuite.groupChainKey creation.groupSeed info.signPublicKey := by
    rw [CipherSuite.groupChainKey,
      creation.cipherSuite.take_groupAssociatedData (creation.keyLength info member)]
    rfl
  rw [completeInboundGroupSessionByPreKeyBundle, valid, checked.preKeyBundle, ← chainKey]
  simp only [GroupCreation.waiting, creation.pack]
  rfl

/-- The bundle fills the sessions that a member waits for, and gives the member its own session. -/
theorem GroupCreation.finish_eq (started : creation.start = some (creatorGroups, bundle))
    (receiverMember : receiver ∈ creation.memberInfoList)
    (other : receiver.memberAddress ≠ creation.creator) {sender : GroupMemberInfo β}
    (senderMember : sender ∈ creation.memberInfoList)
    (different : sender.memberAddress ≠ receiver.memberAddress) :
    creation.finish creatorGroups bundle receiver.memberAddress =
      GroupStore.storeGroupSession (((creation.listed receiver.memberAddress).loadGroupSessions
          receiver.memberAddress creation.groupInfo.groupAddress).foldl
        (fun groups session => if session.sender = receiver.memberAddress then groups
          else groups.storeResult (completeInboundGroupSessionByPreKeyBundle getE2eesPack
            session bundle)) (creation.listed receiver.memberAddress))
        { insertOutboundGroupSessionData creation.cipherSuite creation.e2eesPackId
            receiver.memberAddress creation.groupInfo.groupName creation.groupInfo.groupAddress
            creation.sessionId creation.groupInfo.groupMemberList receiver.signPublicKey
            creation.groupSeed with groupSeed := [] } := by
  obtain ⟨checked, signPublicKey, -, rfl, -⟩ := GroupCreation.started started
  have waits := (GroupCreation.mem_listed checked receiverMember other _).mpr
    ⟨sender, senderMember, different, rfl⟩
  have outbound : newOutboundGroupSessionByReceiver getE2eesPack
      (creation.devices receiver.memberAddress).store creation.groupSeed creation.e2eesPackId
      receiver.memberAddress creation.groupInfo.groupName creation.groupInfo.groupAddress
      creation.sessionId creation.groupInfo.groupMemberList =
      some { insertOutboundGroupSessionData creation.cipherSuite creation.e2eesPackId
        receiver.memberAddress creation.groupInfo.groupName creation.groupInfo.groupAddress
        creation.sessionId creation.groupInfo.groupMemberList receiver.signPublicKey
        creation.groupSeed with groupSeed := [] } := by
    have groupInfo := checked.groupInfo
    simp only [isValidGroupInfo, Bool.and_eq_true] at groupInfo
    rw [newOutboundGroupSessionByReceiver, creation.pack, creation.ownKey receiver receiverMember]
    simp only [checked.suite, checked.address receiverMember, creation.seed_valid, creation.named,
      groupInfo, Bool.and_self, if_true]
  rw [GroupCreation.finish, if_neg other, consumeGroupPreKeyBundle]
  simp only [packGroupPreKeyPlaintext, GroupCreation.outbound, insertOutboundGroupSessionData,
    ne_eq, not_true_eq_false, if_false]
  rw [if_neg (by simpa using List.ne_nil_of_mem waits)]
  rw [outbound]
  rfl

theorem GroupCreation.member_inbound (started : creation.start = some (creatorGroups, bundle))
    (receiverMember : receiver ∈ creation.memberInfoList)
    (other : receiver.memberAddress ≠ creation.creator) {sender : GroupMemberInfo β}
    (senderMember : sender ∈ creation.memberInfoList)
    (different : sender.memberAddress ≠ receiver.memberAddress) :
    ∃ inbound, (creation.finish creatorGroups bundle receiver.memberAddress).lookup
      (creation.key sender.memberAddress receiver.memberAddress) = some inbound ∧
        creation.Agreed sender inbound := by
  rw [GroupCreation.finish_eq started receiverMember other senderMember different]
  obtain ⟨checked, signPublicKey, -, rfl, -⟩ := GroupCreation.started started
  refine ⟨{ creation.waiting receiver.memberAddress sender with
    version := e2eesProtocolVersion
    sessionId := creation.sessionId
    chainKey := creation.cipherSuite.groupChainKey creation.groupSeed sender.signPublicKey },
    ?_, ⟨rfl, rfl, rfl, rfl⟩⟩
  refine (GroupStore.lookup_storeGroupSession_other _ ?_).trans ?_
  · exact GroupKey.uncovered_of_sender different.symm
  have waits := (GroupCreation.mem_listed checked receiverMember other _).mpr
    ⟨sender, senderMember, different, rfl⟩
  refine GroupStore.lookup_loop _ waits different
    (GroupCreation.completeInbound_some checked receiverMember senderMember signPublicKey) rfl ?_
  intro session loaded distinct stored _ made
  obtain ⟨info, present, -, rfl⟩ :=
    (GroupCreation.mem_listed checked receiverMember other session).mp loaded
  rw [GroupCreation.completeInbound_some checked receiverMember present, Option.some.injEq] at made
  subst made
  apply GroupKey.uncovered_of_sender
  apply GroupCreation.address_ne senderMember present
  rintro rfl
  exact distinct rfl

theorem GroupCreation.member_outbound (started : creation.start = some (creatorGroups, bundle))
    (receiverMember : receiver ∈ creation.memberInfoList)
    (other : receiver.memberAddress ≠ creation.creator) {sender : GroupMemberInfo β}
    (senderMember : sender ∈ creation.memberInfoList)
    (different : sender.memberAddress ≠ receiver.memberAddress) :
    ∃ outbound, (creation.finish creatorGroups bundle receiver.memberAddress).lookup
      (creation.key receiver.memberAddress receiver.memberAddress) = some outbound ∧
        creation.Agreed receiver outbound := by
  rw [GroupCreation.finish_eq started receiverMember other senderMember different]
  exact ⟨_, GroupStore.lookup_storeGroupSession _ _, ⟨rfl, rfl, rfl, rfl⟩⟩

end Member

/-- Both messages of the creation give every pair of listed devices the same first keys,
whichever of the two is the creator. -/
theorem groupCreation_agrees (started : creation.start = some (creatorGroups, bundle))
    {sender receiver : GroupMemberInfo β} (senderMember : sender ∈ creation.memberInfoList)
    (receiverMember : receiver ∈ creation.memberInfoList)
    (different : sender.memberAddress ≠ receiver.memberAddress) :
    ∃ inbound outbound,
      (creation.finish creatorGroups bundle receiver.memberAddress).lookup
        (creation.key sender.memberAddress receiver.memberAddress) = some inbound ∧
      (creation.finish creatorGroups bundle sender.memberAddress).lookup
        (creation.key sender.memberAddress sender.memberAddress) = some outbound ∧
      inbound.sessionId = outbound.sessionId ∧ inbound.chainKey = outbound.chainKey ∧
      inbound.associatedData = outbound.associatedData ∧
      inbound.sequence = 0 ∧ outbound.sequence = 0 ∧
      outbound.chainKey = creation.cipherSuite.hf.hkdf (creation.groupSeed ++ sender.signPublicKey)
        (creation.cipherSuite.zeros creation.cipherSuite.hf.hfLen)
        (creation.cipherSuite.text "ROOT") creation.cipherSuite.hf.hfLen := by
  have rootKey : creation.cipherSuite.groupChainKey creation.groupSeed sender.signPublicKey =
      creation.cipherSuite.hf.hkdf (creation.groupSeed ++ sender.signPublicKey)
        (creation.cipherSuite.zeros creation.cipherSuite.hf.hfLen)
        (creation.cipherSuite.text "ROOT") creation.cipherSuite.hf.hfLen := by
    rw [CipherSuite.groupChainKey, List.take_of_length_le creation.seedLength.le,
      List.take_of_length_le (creation.keyLength sender senderMember).le]
  obtain ⟨inbound, inboundFound, inboundAgreed⟩ :
      ∃ inbound, (creation.finish creatorGroups bundle receiver.memberAddress).lookup
        (creation.key sender.memberAddress receiver.memberAddress) = some inbound ∧
          creation.Agreed sender inbound := by
    by_cases isCreator : receiver.memberAddress = creation.creator
    · rw [isCreator] at different ⊢
      rw [GroupCreation.finish, if_pos rfl]
      exact GroupCreation.creator_inbound started senderMember different
    · exact GroupCreation.member_inbound started receiverMember isCreator senderMember different
  obtain ⟨outbound, outboundFound, outboundAgreed⟩ :
      ∃ outbound, (creation.finish creatorGroups bundle sender.memberAddress).lookup
        (creation.key sender.memberAddress sender.memberAddress) = some outbound ∧
          creation.Agreed sender outbound := by
    by_cases isCreator : sender.memberAddress = creation.creator
    · rw [GroupCreation.finish, if_pos isCreator, isCreator]
      exact GroupCreation.creator_outbound started senderMember isCreator
    · exact GroupCreation.member_outbound started senderMember isCreator receiverMember
        different.symm
  refine ⟨inbound, outbound, inboundFound, outboundFound, ?_, ?_, ?_, inboundAgreed.sequence,
    outboundAgreed.sequence, ?_⟩
  · rw [inboundAgreed.sessionId, outboundAgreed.sessionId]
  · rw [inboundAgreed.chainKey, outboundAgreed.chainKey]
  · rw [inboundAgreed.associatedData, outboundAgreed.associatedData]
  · rw [outboundAgreed.chainKey, rootKey]

end Creation

namespace Symbolic

def carolAddress : E2eeAddress := ⟨"domain", .user "carol" "device"⟩

def carolAccount : Account FreeTerm :=
  account carolAddress (keyPair 70) (keyPair 71) (keyPair 72) (keyPair 73)

def groupAddress : E2eeAddress := ⟨"domain", .group "group"⟩

def accountOf (address : E2eeAddress) : Account FreeTerm :=
  if address = aliceAddress then aliceAccount
  else if address = bobAddress then bobAccount else carolAccount

def groupDevice (address : E2eeAddress) : Device FreeTerm :=
  ⟨store address (accountOf address) none, KeyedTable.empty⟩

def memberInfo (address : E2eeAddress) : GroupMemberInfo FreeTerm :=
  ⟨address, (accountOf address).identityKey.signKeyPair.publicKey⟩

/-- Alice creates a group with Bob and Carol. -/
def creation : GroupCreation fun _ => some symbolicSuite where
  cipherSuite := symbolicSuite
  e2eesPackId := 0
  creator := aliceAddress
  groupInfo := ⟨"group", groupAddress, [⟨"alice", "domain", .manager⟩, ⟨"bob", "domain", .member⟩,
    ⟨"carol", "domain", .member⟩]⟩
  memberInfoList := [memberInfo aliceAddress, memberInfo bobAddress, memberInfo carolAddress]
  sessionId := "session"
  groupSeed := List.replicate seedSecretLen (.byte 80)
  devices := groupDevice
  pack := symbolicPack
  distinct := by decide
  ownKey := by decide
  keyLength := by decide
  named := rfl
  seedLength := List.length_replicate
  fresh := fun _ _ _ => rfl

/-- This is a session of the created group before any message. -/
def memberSession (sender owner : E2eeAddress) : GroupSession FreeTerm where
  version := e2eesProtocolVersion
  e2eesPackId := 0
  sessionId := "session"
  sender := sender
  sessionOwner := owner
  groupInfo := creation.groupInfo
  sequence := 0
  groupSeed := []
  chainKey := symbolicSuite.groupChainKey creation.groupSeed (memberInfo sender).signPublicKey
  associatedData := symbolicSuite.groupAssociatedData (memberInfo sender).signPublicKey

/-- This is the bundle of Alice for the group that she has created. -/
def creationBundle : GroupPreKeyBundle FreeTerm :=
  packGroupPreKeyPlaintext
    { memberSession aliceAddress aliceAddress with groupSeed := creation.groupSeed } ""

def memberDevice (owner : E2eeAddress) : Device FreeTerm where
  store := store owner (accountOf owner) none
  groups := ((GroupStore.storeGroupSession KeyedTable.empty (memberSession aliceAddress owner)
    ).storeGroupSession (memberSession bobAddress owner)).storeGroupSession
      (memberSession carolAddress owner)

end Symbolic

/-- Bob and Carol agree on the keys of Bob in the group of Alice. -/
theorem creation_agrees :
    ∃ creatorGroups bundle inbound outbound,
      Symbolic.creation.start = some (creatorGroups, bundle) ∧
      (Symbolic.creation.finish creatorGroups bundle Symbolic.carolAddress).lookup
        (Symbolic.creation.key Symbolic.bobAddress Symbolic.carolAddress) = some inbound ∧
      (Symbolic.creation.finish creatorGroups bundle Symbolic.bobAddress).lookup
        (Symbolic.creation.key Symbolic.bobAddress Symbolic.bobAddress) = some outbound ∧
      inbound.chainKey = outbound.chainKey := by
  obtain ⟨⟨creatorGroups, bundle⟩, started⟩ :=
    Option.isSome_iff_exists.mp (show Symbolic.creation.start.isSome = true from rfl)
  have bobMember : Symbolic.memberInfo Symbolic.bobAddress ∈ Symbolic.creation.memberInfoList := by
    simp [Symbolic.creation]
  have carolMember :
      Symbolic.memberInfo Symbolic.carolAddress ∈ Symbolic.creation.memberInfoList := by
    simp [Symbolic.creation]
  obtain ⟨inbound, outbound, inboundFound, outboundFound, -, sameKey, -⟩ :=
    groupCreation_agrees started bobMember carolMember (by decide)
  exact ⟨creatorGroups, bundle, inbound, outbound, started, inboundFound, outboundFound, sameKey⟩

end E2eeSecurity
