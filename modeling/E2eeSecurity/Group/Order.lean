/-
This file shows that the order of a membership message and its bundle matters: when the bundle comes
first, the receiver ends without an outbound session.
-/
import E2eeSecurity.Group.Create
import E2eeSecurity.Group.Waiting

namespace E2eeSecurity

variable {β : Type}

/-- Both stores have the same sessions under this session identifier. -/
def GroupStore.SameSessions (first second : GroupStore β) (sessionId : String) : Prop :=
  ∀ wanted : GroupKey, wanted.sessionId = sessionId → first.lookup wanted = second.lookup wanted

section Seeds

variable (getE2eesPack : Packs β) (receiver sender : E2eeAddress)

theorem isValidGroupSessionByPreKeyBundle_unseeded {session : GroupSession β}
    (unseeded : session.groupSeed = []) :
    isValidGroupSessionByPreKeyBundle getE2eesPack session = false := by
  simp [isValidGroupSessionByPreKeyBundle, unseeded, isValidProtobuf]

/-- Without the seed a turn of the loop stores nothing. -/
theorem createGroupStep_unseeded {state : GroupStore β × GroupSession β}
    (unseeded : state.2.groupSeed = []) (info : GroupMemberInfo β) :
    createGroupStep getE2eesPack receiver sender state info = state := by
  have invalid := isValidGroupSessionByPreKeyBundle_unseeded getE2eesPack unseeded
  simp only [createGroupStep, newAndCompleteInboundGroupSession,
    completeInboundGroupSessionByMemberId, invalid, Bool.and_false, Bool.false_and,
    Bool.false_eq_true, if_false, GroupStore.storeResult]
  split
  · split
    · rfl
    · rfl
  · rfl

theorem createGroupLoop_unseeded (state : GroupStore β × GroupSession β)
    (unseeded : state.2.groupSeed = []) (infos : List (GroupMemberInfo β)) :
    infos.foldl (createGroupStep getE2eesPack receiver sender) state = state := by
  induction infos with
  | nil => rfl
  | cons info rest ih =>
      rw [List.foldl_cons, createGroupStep_unseeded getE2eesPack receiver sender unseeded]
      exact ih

/-- The turn of the creator takes the seed out of the session. -/
theorem createGroupStep_sender {state : GroupStore β × GroupSession β} {info : GroupMemberInfo β}
    (valid : isValidGroupSessionByPreKeyBundle getE2eesPack state.2 = true)
    (infoValid : isValidGroupMemberInfo info = true) (isSender : info.memberAddress = sender) :
    (createGroupStep getE2eesPack receiver sender state info).2.groupSeed = [] := by
  have packId : isValidE2eesPackId getE2eesPack state.2.e2eesPackId = true := by
    simp only [isValidGroupSessionByPreKeyBundle, isValidGroupSessionHead, Bool.and_eq_true] at valid
    exact valid.1.1.1.1.1.2
  obtain ⟨cipherSuite, found, -⟩ := exists_pack packId
  simp only [createGroupStep, isSender, ne_eq, not_true_eq_false, if_false,
    completeInboundGroupSessionByMemberId, valid, infoValid, Bool.and_self, if_true, found,
    Option.map_some]

theorem createGroupStep_other {state : GroupStore β × GroupSession β} {info : GroupMemberInfo β}
    (notSender : info.memberAddress ≠ sender) :
    (createGroupStep getE2eesPack receiver sender state info).2 = state.2 := by
  rw [createGroupStep, if_pos notSender]
  split
  · rfl
  · rfl

/-- A list with the creator leaves no seed for the outbound session. -/
theorem createGroupLoop_seed (state : GroupStore β × GroupSession β)
    (valid : isValidGroupSessionByPreKeyBundle getE2eesPack state.2 = true)
    {infos : List (GroupMemberInfo β)}
    (infosValid : ∀ info ∈ infos, isValidGroupMemberInfo info = true)
    (listed : ∃ info ∈ infos, info.memberAddress = sender) :
    (infos.foldl (createGroupStep getE2eesPack receiver sender) state).2.groupSeed = [] := by
  induction infos generalizing state with
  | nil =>
      obtain ⟨info, member, -⟩ := listed
      cases member
  | cons info rest ih =>
      rw [List.foldl_cons]
      by_cases isSender : info.memberAddress = sender
      · have unseeded := createGroupStep_sender getE2eesPack receiver sender valid
          (infosValid info List.mem_cons_self) isSender
        rw [createGroupLoop_unseeded getE2eesPack receiver sender _ unseeded]
        exact unseeded
      · apply ih
        · rw [createGroupStep_other getE2eesPack receiver sender isSender]
          exact valid
        · exact fun other member => infosValid other (List.mem_cons_of_mem _ member)
        · obtain ⟨other, member, found⟩ := listed
          obtain rfl | later := List.mem_cons.mp member
          · exact absurd found isSender
          · exact ⟨other, later, found⟩

theorem newOutboundByReceiver_unseeded (store : Store β) (e2eesPackId : UInt32)
    (userAddress : E2eeAddress) (groupName : String) (groupAddress : E2eeAddress)
    (sessionId : String) (members : List GroupMember) :
    newOutboundGroupSessionByReceiver getE2eesPack store [] e2eesPackId userAddress groupName
      groupAddress sessionId members = none := by
  unfold newOutboundGroupSessionByReceiver
  split
  · simp [isValidProtobuf]
  · rfl

theorem newAndComplete_sender {info : GroupMemberInfo β} {other stored : GroupSession β}
    (made : newAndCompleteInboundGroupSession getE2eesPack info other = some stored) :
    stored.sender = info.memberAddress := by
  unfold newAndCompleteInboundGroupSession at made
  split at made
  · obtain ⟨cipherSuite, -, rfl⟩ := Option.map_eq_some_iff.mp made
    rfl
  · cases made

theorem completeByMemberId_key {inbound stored : GroupSession β} {info : GroupMemberInfo β}
    (made : completeInboundGroupSessionByMemberId getE2eesPack inbound info = some stored) :
    stored.key = inbound.key := by
  unfold completeInboundGroupSessionByMemberId at made
  split at made
  · obtain ⟨cipherSuite, -, rfl⟩ := Option.map_eq_some_iff.mp made
    rfl
  · cases made

/-- The loop never stores a session that the receiver sends with. -/
theorem createGroupStep_own {state : GroupStore β × GroupSession β}
    (notOwn : state.2.sender ≠ receiver) (info : GroupMemberInfo β) {wanted : GroupKey}
    (own : wanted.sender = receiver) :
    (createGroupStep getE2eesPack receiver sender state info).1.lookup wanted =
        state.1.lookup wanted ∧
      (createGroupStep getE2eesPack receiver sender state info).2.sender = state.2.sender := by
  unfold createGroupStep
  split
  · split
    next notReceiver =>
      refine ⟨GroupStore.lookup_storeResult_other _ ?_, rfl⟩
      intro stored made
      apply GroupKey.uncovered_of_sender
      rw [own, GroupSession.key, newAndComplete_sender getE2eesPack made]
      exact notReceiver
    · exact ⟨rfl, rfl⟩
  · split
    next completed made =>
      have sameSender : completed.sender = state.2.sender :=
        congrArg GroupKey.sender (completeByMemberId_key getE2eesPack made)
      refine ⟨GroupStore.lookup_storeGroupSession_other _ ?_, sameSender⟩
      apply GroupKey.uncovered_of_sender
      rw [own, GroupSession.key, sameSender]
      exact notOwn
    · exact ⟨rfl, rfl⟩

theorem createGroupLoop_own (state : GroupStore β × GroupSession β)
    (notOwn : state.2.sender ≠ receiver) (infos : List (GroupMemberInfo β)) {wanted : GroupKey}
    (own : wanted.sender = receiver) :
    (infos.foldl (createGroupStep getE2eesPack receiver sender) state).1.lookup wanted =
      state.1.lookup wanted := by
  induction infos generalizing state with
  | nil => rfl
  | cons info rest ih =>
      obtain ⟨sameSession, sameSender⟩ :=
        createGroupStep_own getE2eesPack receiver sender notOwn info own
      rw [List.foldl_cons, ih, sameSession]
      rw [sameSender]
      exact notOwn

/-- When the seed is already here, the message that lists the creator gives no outbound session. -/
theorem consumeCreateGroupMsg_own {device : Device β} {msg : CreateGroupMsg β}
    {inbound : GroupSession β} (addressValid : isValidAddress receiver = true)
    (msgValid : isValidCreateGroupMsg getE2eesPack msg = true)
    (found : device.groups.loadGroupSessionByAddress msg.senderAddress receiver
      msg.groupInfo.groupAddress = some inbound)
    (seeded : isValidGroupSessionByPreKeyBundle getE2eesPack inbound = true)
    (notOwn : inbound.sender ≠ receiver)
    (listed : ∃ info ∈ msg.memberInfoList, info.memberAddress = msg.senderAddress)
    {wanted : GroupKey} (own : wanted.sender = receiver) :
    (consumeCreateGroupMsg getE2eesPack device receiver msg).lookup wanted =
      device.groups.lookup wanted := by
  have infosValid : ∀ info ∈ msg.memberInfoList, isValidGroupMemberInfo info = true := by
    simp only [isValidCreateGroupMsg, Bool.and_eq_true, List.all_eq_true] at msgValid
    exact msgValid.2
  have used := createGroupLoop_seed getE2eesPack receiver msg.senderAddress
    (device.groups, inbound) seeded infosValid listed
  have kept := createGroupLoop_own getE2eesPack receiver msg.senderAddress
    (device.groups, inbound) notOwn msg.memberInfoList own
  rw [consumeCreateGroupMsg, addressValid, msgValid, Bool.and_self, if_pos rfl, found]
  simp only [seeded, if_true, used, newOutboundByReceiver_unseeded]
  exact kept

end Seeds

section Creation

variable {getE2eesPack : Packs β} {creation : GroupCreation getE2eesPack}
  {creatorGroups : GroupStore β} {bundle : GroupPreKeyBundle β} {receiver : GroupMemberInfo β}

variable (creation) in
/-- The bundle of the creator comes before the message that lists the members. -/
def GroupCreation.finishBundleFirst (bundle : GroupPreKeyBundle β) (address : E2eeAddress) :
    GroupStore β :=
  consumeCreateGroupMsg getE2eesPack ⟨(creation.devices address).store,
    consumeGroupPreKeyBundle getE2eesPack (creation.devices address) address bundle⟩ address
    creation.msg

variable (creation) in
/-- This is the session with the seed that waits for the message. -/
def GroupCreation.seeded (owner : E2eeAddress) : GroupSession β where
  version := e2eesProtocolVersion
  e2eesPackId := creation.e2eesPackId
  sessionId := creation.sessionId
  sender := creation.creator
  sessionOwner := owner
  groupInfo := creation.groupInfo
  sequence := 0
  groupSeed := creation.groupSeed
  chainKey := []
  associatedData := []

theorem GroupCreation.bundle_seeded (started : creation.start = some (creatorGroups, bundle))
    (receiverMember : receiver ∈ creation.memberInfoList)
    (other : receiver.memberAddress ≠ creation.creator) :
    consumeGroupPreKeyBundle getE2eesPack (creation.devices receiver.memberAddress)
        receiver.memberAddress bundle =
      (creation.devices receiver.memberAddress).groups.storeGroupSession
        (creation.seeded receiver.memberAddress) := by
  obtain ⟨checked, signPublicKey, -, rfl, -⟩ := GroupCreation.started started
  have fresh := creation.fresh receiver receiverMember other
  have made : newInboundGroupSessionByPreKeyBundle getE2eesPack creation.e2eesPackId
      receiver.memberAddress (packGroupPreKeyPlaintext (creation.outbound signPublicKey) "") =
      some (creation.seeded receiver.memberAddress) := by
    rw [newInboundGroupSessionByPreKeyBundle, checked.packId, checked.address receiverMember,
      checked.preKeyBundle]
    rfl
  have loaded : ((creation.devices receiver.memberAddress).groups.loadGroupSessions
      receiver.memberAddress creation.groupInfo.groupAddress).isEmpty = true := by
    rw [fresh]
    rfl
  rw [consumeGroupPreKeyBundle]
  simp only [packGroupPreKeyPlaintext, GroupCreation.outbound, insertOutboundGroupSessionData,
    ne_eq, not_true_eq_false, if_false]
  rw [if_pos loaded]
  exact congrArg _ made

theorem GroupCreation.seeded_valid (checked : creation.Checked) {owner : E2eeAddress}
    (valid : isValidAddress owner = true) :
    isValidGroupSessionByPreKeyBundle getE2eesPack (creation.seeded owner) = true := by
  simp only [isValidGroupSessionByPreKeyBundle, isValidGroupSessionHead, GroupCreation.seeded,
    checked.packId, checked.creator, creation.named, creation.seed_valid, valid, Bool.and_true,
    Bool.and_eq_true]
  exact ⟨rfl, checked.groupInfo⟩

/-- With the creator in the list, the receiver that had the bundle first has no outbound session. -/
theorem GroupCreation.finishBundleFirst_outbound
    (started : creation.start = some (creatorGroups, bundle))
    (receiverMember : receiver ∈ creation.memberInfoList)
    (other : receiver.memberAddress ≠ creation.creator)
    (creatorListed : ∃ info ∈ creation.memberInfoList, info.memberAddress = creation.creator) :
    (creation.finishBundleFirst bundle receiver.memberAddress).lookup
      (creation.key receiver.memberAddress receiver.memberAddress) = none := by
  obtain ⟨checked, -⟩ := GroupCreation.started started
  have fresh := creation.fresh receiver receiverMember other
  have address := checked.address receiverMember
  have found : ((creation.devices receiver.memberAddress).groups.storeGroupSession
      (creation.seeded receiver.memberAddress)).loadGroupSessionByAddress creation.creator
        receiver.memberAddress creation.groupInfo.groupAddress =
      some (creation.seeded receiver.memberAddress) :=
    GroupStore.loadGroupSessionByAddress_store _ (creation.seeded receiver.memberAddress) fresh
  rw [GroupCreation.finishBundleFirst, GroupCreation.bundle_seeded started receiverMember other,
    consumeCreateGroupMsg_own getE2eesPack receiver.memberAddress address checked.msg found
      (GroupCreation.seeded_valid checked address) other.symm creatorListed rfl]
  refine (GroupStore.lookup_storeGroupSession_other _ ?_).trans ?_
  · exact GroupKey.uncovered_of_sender other.symm
  · exact GroupStore.lookup_none_of_fresh _ fresh rfl rfl

/-- The two orders never leave the same sessions. -/
theorem groupCreation_order (started : creation.start = some (creatorGroups, bundle))
    (receiverMember : receiver ∈ creation.memberInfoList)
    (other : receiver.memberAddress ≠ creation.creator)
    (creatorListed : ∃ info ∈ creation.memberInfoList, info.memberAddress = creation.creator) :
    ¬(creation.finish creatorGroups bundle receiver.memberAddress).SameSessions
      (creation.finishBundleFirst bundle receiver.memberAddress) creation.sessionId := by
  intro same
  obtain ⟨creator, creatorMember, isCreator⟩ := creatorListed
  obtain ⟨outbound, found, -⟩ := GroupCreation.member_outbound started receiverMember other
    creatorMember (by rw [isCreator]; exact other.symm)
  have missing := GroupCreation.finishBundleFirst_outbound started receiverMember other
    ⟨creator, creatorMember, isCreator⟩
  rw [← same _ rfl, found] at missing
  cases missing

end Creation

/-- Bob has an outbound session when the message comes first, and none when the bundle does. -/
theorem creation_bundleFirst_differs :
    (Symbolic.creation.start.map fun started =>
      (((Symbolic.creation.finish started.1 started.2 Symbolic.bobAddress).lookup
          (Symbolic.creation.key Symbolic.bobAddress Symbolic.bobAddress)).isSome,
        ((Symbolic.creation.finishBundleFirst started.2 Symbolic.bobAddress).lookup
          (Symbolic.creation.key Symbolic.bobAddress Symbolic.bobAddress)).isSome)) =
      some (true, false) := by
  decide

/-- Bob ends with other sessions when the bundle of Alice comes first. -/
theorem creation_order : ∃ creatorGroups bundle,
    Symbolic.creation.start = some (creatorGroups, bundle) ∧
      ¬(Symbolic.creation.finish creatorGroups bundle Symbolic.bobAddress).SameSessions
        (Symbolic.creation.finishBundleFirst bundle Symbolic.bobAddress)
        Symbolic.creation.sessionId := by
  obtain ⟨⟨creatorGroups, bundle⟩, started⟩ :=
    Option.isSome_iff_exists.mp (show Symbolic.creation.start.isSome = true from rfl)
  have bobMember : Symbolic.memberInfo Symbolic.bobAddress ∈ Symbolic.creation.memberInfoList := by
    simp [Symbolic.creation]
  have aliceMember :
      Symbolic.memberInfo Symbolic.aliceAddress ∈ Symbolic.creation.memberInfoList := by
    simp [Symbolic.creation]
  exact ⟨creatorGroups, bundle, started, groupCreation_order started bobMember (by decide)
    ⟨_, aliceMember, rfl⟩⟩

/-- This is a removal as it reaches a member that stays.
All sessions of the group that the member has are of the old group session. -/
structure GroupRemoval (getE2eesPack : Packs β) extends GroupListing getE2eesPack where
  device : Device β
  sender : E2eeAddress
  removingMemberList : List GroupMember
  bundle : GroupPreKeyBundle β
  signPublicKey : Bytes β
  inbound : GroupSession β
  fits : toGroupListing.Matches device.store bundle signPublicKey
  removingValid : removingMemberList.all isValidGroupMember = true
  bundleSender : bundle.sender = sender
  replaces : bundle.oldSessionId ≠ ""
  renamed : bundle.sessionId ≠ bundle.oldSessionId
  stays : removingMemberList.any (isSameUser receiver) = false
  otherSender : sender ≠ receiver
  senderListed : ∃ info ∈ infos, info.memberAddress = sender
  stored : device.groups.loadGroupSessionByAddress sender receiver groupInfo.groupAddress =
    some inbound
  inboundValid : isValidGroupSession getE2eesPack inbound = true
  oldOnly : ∀ session ∈ device.groups.loadGroupSessions receiver groupInfo.groupAddress,
    session.sessionId = bundle.oldSessionId
  fewer : groupInfo.groupMemberList.length < inbound.groupInfo.groupMemberList.length

namespace GroupRemoval

variable {getE2eesPack : Packs β} (removal : GroupRemoval getE2eesPack)

def msg : RemoveGroupMembersMsg β :=
  ⟨removal.e2eesPackId, removal.sender, removal.groupInfo, removal.removingMemberList,
    removal.infos⟩

/-- The member first learns who stays. -/
def listed : Device β :=
  ⟨removal.device.store, consumeRemoveGroupMembersMsg getE2eesPack removal.device
    removal.receiver removal.msg⟩

def finish : GroupStore β :=
  consumeGroupPreKeyBundle getE2eesPack removal.listed removal.receiver removal.bundle

def finishBundleFirst : GroupStore β :=
  consumeRemoveGroupMembersMsg getE2eesPack ⟨removal.device.store, consumeGroupPreKeyBundle
    getE2eesPack removal.device removal.receiver removal.bundle⟩ removal.receiver removal.msg

def key (sender : E2eeAddress) : GroupKey :=
  ⟨removal.bundle.sessionId, sender, removal.receiver, removal.groupInfo.groupAddress⟩

/-- The new group session is complete, and the old one is gone. -/
structure Replaced (groups : GroupStore β) : Prop where
  outbound : ∃ session, groups.lookup (removal.key removal.receiver) = some session ∧
    isValidGroupSession getE2eesPack session = true
  inbound : ∀ info ∈ removal.infos, info.memberAddress ≠ removal.receiver →
    ∃ session, groups.lookup (removal.key info.memberAddress) = some session ∧
      isValidGroupSession getE2eesPack session = true
  old : ∀ session ∈ groups.entries, session.sessionOwner = removal.receiver →
    session.sessionId ≠ removal.bundle.oldSessionId

variable {removal}

theorem msg_valid : isValidRemoveGroupMembersMsg getE2eesPack removal.msg = true := by
  have bundle := removal.fits.valid
  simp only [isValidGroupPreKeyBundle, removal.bundleSender, Bool.and_eq_true] at bundle
  simp only [isValidRemoveGroupMembersMsg, msg, GroupListing.packId_valid, bundle,
    removal.groupInfoValid, removal.removingValid, List.all_eq_true.mpr removal.infosValid,
    Bool.and_self]

theorem inbound_oldId : removal.inbound.sessionId = removal.bundle.oldSessionId := by
  obtain ⟨loaded, -⟩ := GroupStore.loadGroupSessionByAddress_some _ removal.stored
  exact removal.oldOnly _ loaded

/-- Without the old group session the group has no sessions. -/
theorem unloaded_fresh :
    (removal.device.groups.unloadGroupSessionById removal.receiver
      removal.bundle.oldSessionId).loadGroupSessions removal.receiver
        removal.groupInfo.groupAddress = [] := by
  rw [List.eq_nil_iff_forall_not_mem]
  intro session loaded
  obtain ⟨member, owner, group⟩ := (GroupStore.mem_loadGroupSessions _).mp loaded
  obtain ⟨present, kept⟩ := List.mem_filter.mp member
  have old := removal.oldOnly session
    ((GroupStore.mem_loadGroupSessions _).mpr ⟨present, owner, group⟩)
  simp [owner, old] at kept

/-- The message makes the member wait for the keys of the new group session. -/
theorem consume_msg :
    consumeRemoveGroupMembersMsg getE2eesPack removal.device removal.receiver removal.msg =
      removal.wait (removal.device.groups.unloadGroupSessionById removal.receiver
        removal.bundle.oldSessionId) := by
  have differs : compareGroupMember removal.inbound.groupInfo.groupMemberList
      removal.groupInfo.groupMemberList = false := by
    have fewer := removal.fewer
    have different : removal.inbound.groupInfo.groupMemberList.length ≠
        removal.groupInfo.groupMemberList.length := by omega
    simp [compareGroupMember, different]
  rw [consumeRemoveGroupMembersMsg, removal.receiverValid, msg_valid, Bool.and_self, if_pos rfl,
    msg, removal.stays, removal.stored, Option.filter_some, removal.inboundValid]
  simp only [Bool.false_eq_true, if_false, if_true, differs, inbound_oldId]
  rfl

variable (removal) in
theorem waits : removal.Waits removal.listed.groups := by
  rw [listed, consume_msg]
  exact GroupListing.wait_waits unloaded_fresh

variable (removal) in
theorem someone : ∃ info ∈ removal.infos, info.memberAddress ≠ removal.receiver := by
  obtain ⟨info, member, isSender⟩ := removal.senderListed
  exact ⟨info, member, isSender ▸ removal.otherSender⟩

theorem mem_finish (session : GroupSession β) :
    session ∈ removal.finish.loadGroupSessions removal.receiver removal.groupInfo.groupAddress ↔
      (∃ info ∈ removal.infos, info.memberAddress ≠ removal.receiver ∧
        session = removal.completed removal.bundle info) ∨
      session = removal.outbound removal.bundle removal.signPublicKey :=
  GroupListing.mem_consumed removal.listed removal.waits removal.fits removal.someone session

theorem lookup_finish {session : GroupSession β}
    (loaded : session ∈ removal.finish.loadGroupSessions removal.receiver
      removal.groupInfo.groupAddress) : removal.finish.lookup session.key = some session :=
  KeyedTable.lookup_of_mem _ ((GroupStore.mem_loadGroupSessions _).mp loaded).1

/-- No session of the old identifier is left when the message comes first. -/
theorem finish_old {session : GroupSession β} (member : session ∈ removal.finish.entries)
    (owner : session.sessionOwner = removal.receiver) :
    session.sessionId ≠ removal.bundle.oldSessionId := by
  have waiting := GroupListing.Waits.unloaded removal.waits removal.bundle
  obtain ⟨info, infoMember, different⟩ := removal.someone
  have present := List.ne_nil_of_mem ((waiting _).mpr ⟨info, infoMember, different, rfl⟩)
  rw [finish, GroupListing.consumeGroupPreKeyBundle_eq removal.listed removal.fits present]
    at member
  obtain ⟨earlier, -⟩ | rfl := KeyedTable.mem_insert.mp member
  · obtain old | ⟨other, -, -, rfl⟩ := GroupListing.mem_complete waiting removal.fits earlier
    · exact (GroupListing.mem_unloaded old).2 removal.replaces owner
    · exact removal.renamed
  · exact removal.renamed

theorem finish_replaced : removal.Replaced removal.finish where
  outbound := ⟨_, lookup_finish ((mem_finish _).mpr (.inr rfl)),
    GroupListing.outbound_valid removal.fits⟩
  inbound info member different :=
    ⟨_, lookup_finish ((mem_finish _).mpr (.inl ⟨info, member, different, rfl⟩)),
      GroupListing.completed_valid removal.fits member⟩
  old _ member owner := finish_old member owner

variable (removal) in
/-- This is the session with the seed that waits for the message. -/
def seeded : GroupSession β where
  version := removal.bundle.version
  e2eesPackId := removal.e2eesPackId
  sessionId := removal.bundle.sessionId
  sender := removal.sender
  sessionOwner := removal.receiver
  groupInfo := removal.groupInfo
  sequence := removal.bundle.sequence
  groupSeed := removal.bundle.groupSeed
  chainKey := []
  associatedData := []

variable (removal) in
theorem consume_bundle :
    consumeGroupPreKeyBundle getE2eesPack removal.device removal.receiver removal.bundle =
      (removal.device.groups.unloadGroupSessionById removal.receiver
        removal.bundle.oldSessionId).storeGroupSession removal.seeded := by
  have made : newInboundGroupSessionByPreKeyBundle getE2eesPack removal.bundle.e2eesPackId
      removal.receiver removal.bundle = some removal.seeded := by
    rw [newInboundGroupSessionByPreKeyBundle, removal.fits.packId, GroupListing.packId_valid,
      removal.receiverValid, removal.fits.valid, seeded, ← removal.bundleSender,
      ← removal.fits.groupInfo]
    rfl
  rw [consumeGroupPreKeyBundle, if_pos removal.replaces, removal.fits.groupInfo, made]
  simp only [unloaded_fresh, List.isEmpty_nil, if_true]
  rfl

/-- A member that had the bundle first never gets an outbound session. -/
theorem finishBundleFirst_outbound :
    removal.finishBundleFirst.lookup (removal.key removal.receiver) = none := by
  have invalid : isValidGroupSession getE2eesPack removal.seeded = false := by
    simp [isValidGroupSession, isValidProtobuf, seeded]
  have found : (GroupStore.storeGroupSession (removal.device.groups.unloadGroupSessionById
      removal.receiver removal.bundle.oldSessionId) removal.seeded).loadGroupSessionByAddress
        removal.sender removal.receiver removal.groupInfo.groupAddress = some removal.seeded :=
    GroupStore.loadGroupSessionByAddress_store _ removal.seeded unloaded_fresh
  have message : removal.finishBundleFirst = removal.wait (GroupStore.storeGroupSession
      (removal.device.groups.unloadGroupSessionById removal.receiver
        removal.bundle.oldSessionId) removal.seeded) := by
    rw [finishBundleFirst, consume_bundle, consumeRemoveGroupMembersMsg, removal.receiverValid,
      msg_valid, Bool.and_self, if_pos rfl, msg, removal.stays]
    simp only [Bool.false_eq_true, if_false, found, Option.filter_some, invalid]
    rfl
  rw [message, GroupListing.lookup_wait_own _ rfl, GroupStore.lookup_storeGroupSession_other]
  · exact GroupStore.lookup_none_of_fresh _ unloaded_fresh rfl rfl
  · exact GroupKey.uncovered_of_sender removal.otherSender

end GroupRemoval

/-- The message before the bundle replaces the group session, and the other order never does. -/
theorem groupRemoval_order {getE2eesPack : Packs β} (removal : GroupRemoval getE2eesPack) :
    removal.Replaced removal.finish ∧
      ¬removal.finish.SameSessions removal.finishBundleFirst removal.bundle.sessionId := by
  refine ⟨GroupRemoval.finish_replaced, fun same => ?_⟩
  obtain ⟨outbound, found, -⟩ := GroupRemoval.finish_replaced.outbound
  have missing := removal.finishBundleFirst_outbound
  rw [← same _ rfl, found] at missing
  cases missing

namespace Symbolic

/-- Alice removes Carol, and Bob stays. -/
def removal : GroupRemoval fun _ => some symbolicSuite where
  cipherSuite := symbolicSuite
  e2eesPackId := 0
  receiver := bobAddress
  groupInfo := ⟨"group", groupAddress, [⟨"alice", "domain", .manager⟩, ⟨"bob", "domain", .member⟩]⟩
  infos := [memberInfo aliceAddress, memberInfo bobAddress]
  pack := symbolicPack
  suite := rfl
  receiverValid := by decide
  groupInfoValid := by decide
  infosValid := by decide
  distinct := by decide
  device := memberDevice bobAddress
  sender := aliceAddress
  removingMemberList := [⟨"carol", "domain", .member⟩]
  bundle := {
    version := e2eesProtocolVersion
    e2eesPackId := 0
    sessionId := "next"
    oldSessionId := "session"
    sender := aliceAddress
    groupInfo := ⟨"group", groupAddress,
      [⟨"alice", "domain", .manager⟩, ⟨"bob", "domain", .member⟩]⟩
    sequence := 0
    groupSeed := List.replicate seedSecretLen (.byte 81) }
  signPublicKey := (memberInfo bobAddress).signPublicKey
  inbound := memberSession aliceAddress bobAddress
  fits := ⟨rfl, rfl, by decide, by decide, by decide⟩
  removingValid := by decide
  bundleSender := rfl
  replaces := by decide
  renamed := by decide
  stays := by decide
  otherSender := by decide
  senderListed := ⟨_, List.mem_cons_self, rfl⟩
  stored := by decide
  inboundValid := by decide
  oldOnly := by decide
  fewer := by decide

end Symbolic

/-- Bob has the new group session after the message and the bundle, and other sessions after the
bundle and the message. -/
theorem removal_order : Symbolic.removal.Replaced Symbolic.removal.finish ∧
    ¬Symbolic.removal.finish.SameSessions Symbolic.removal.finishBundleFirst
      Symbolic.removal.bundle.sessionId :=
  groupRemoval_order Symbolic.removal

/-- Bob can send after the message and the bundle, but not after the bundle and the message. -/
theorem removal_bundleFirst_differs :
    (Symbolic.removal.finish.lookup (Symbolic.removal.key Symbolic.bobAddress)).isSome = true ∧
      Symbolic.removal.finishBundleFirst.lookup (Symbolic.removal.key Symbolic.bobAddress) =
        none := by
  decide

end E2eeSecurity
