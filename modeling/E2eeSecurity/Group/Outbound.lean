/-
This file follows the stored group sessions of a device through every call that stores or deletes
some, and says when the session that the device sends with has all its keys.
-/
import E2eeSecurity.Group.Removal
import E2eeSecurity.Group.Renewal
import E2eeSecurity.Group.Sending

namespace E2eeSecurity

structure CreateGroupResponse (β : Type) where
  code : ResponseCode
  groupAddress : E2eeAddress
  memberInfoList : List (GroupMemberInfo β)
  deriving DecidableEq

structure LeaveGroupResponse where
  code : ResponseCode
  leaveGroupMemberAddress : E2eeAddress
  groupAddress : E2eeAddress
  deriving DecidableEq

/-- The generated session identifier is never empty. -/
structure GroupDraw (β : Type) where
  sessionId : String
  groupSeed : Bytes β
  named : isValidString sessionId = true

/-- These are the calls that store or delete group sessions.
A response is for the outbound session that is stored when it comes. -/
inductive GroupCall (β : Type)
  | createGroupResponse (e2eesPackId : UInt32) (senderAddress : E2eeAddress) (groupName : String)
      (groupMemberList : List GroupMember) (response : CreateGroupResponse β) (draw : GroupDraw β)
  | createGroupMsg (receiverAddress : E2eeAddress) (msg : CreateGroupMsg β)
  | addGroupMembersResponse (userAddress groupAddress : E2eeAddress)
      (response : AddGroupMembersResponse β)
  | addGroupMemberDeviceResponse (userAddress groupAddress : E2eeAddress)
      (response : AddGroupMemberDeviceResponse β)
  | addMsg (receiverAddress : E2eeAddress) (msg : GroupAddMsg β)
  | removeGroupMembersResponse (userAddress groupAddress : E2eeAddress)
      (response : RemoveGroupMembersResponse β) (draw : GroupDraw β)
  | removeGroupMembersMsg (receiverAddress : E2eeAddress) (msg : RemoveGroupMembersMsg β)
  | leaveGroupResponse (userAddress : E2eeAddress) (response : LeaveGroupResponse)
  | sendGroupMsgResponse (userAddress groupAddress : E2eeAddress)
      (response : Option SendGroupMsgResponse)
  | groupMsg (receiverAddress : E2eeAddress) (msg : E2eeMsg β)
  | groupPreKeyBundle (receiverAddress : E2eeAddress) (bundle : GroupPreKeyBundle β)
  | groupUpdateKeyBundle (receiverAddress : E2eeAddress) (bundle : GroupUpdateKeyBundle β)

/-- This is a call with the other tables of the device.
Accounts pass their check before they get into the cache. -/
structure GroupTurn (β : Type) where
  store : Store β
  cached : ∀ address identityKey, store.cachedIdentityKey address = some identityKey →
    isValidIdentityKey identityKey = true
  call : GroupCall β

variable {β : Type}

section Calls

variable (getE2eesPack : Packs β)

def isValidCreateGroupResponse (response : CreateGroupResponse β) : Bool :=
  response.code == .ok && isValidAddress response.groupAddress &&
    response.memberInfoList.all isValidGroupMemberInfo

def isValidLeaveGroupResponse (response : LeaveGroupResponse) : Bool :=
  response.code == .ok && isValidAddress response.leaveGroupMemberAddress &&
    isValidAddress response.groupAddress

/-- The server gives the address of the group and the devices of its members. -/
def consumeCreateGroupResponse (device : Device β) (e2eesPackId : UInt32)
    (senderAddress : E2eeAddress) (groupName : String) (groupMemberList : List GroupMember)
    (response : CreateGroupResponse β) (sessionId : String) (groupSeed : Bytes β) :
    Option (GroupStore β × GroupPreKeyBundle β) :=
  if isValidE2eesPackId getE2eesPack e2eesPackId && isValidAddress senderAddress &&
      isValidString groupName && groupMemberList.all isValidGroupMember &&
      isValidCreateGroupResponse response then
    newOutboundGroupSessionBySender getE2eesPack device response.memberInfoList e2eesPackId
      senderAddress groupName response.groupAddress groupMemberList "" sessionId groupSeed
  else none

def consumeLeaveGroupResponse (groups : GroupStore β) (userAddress : E2eeAddress)
    (response : LeaveGroupResponse) : GroupStore β :=
  if isValidAddress userAddress && isValidLeaveGroupResponse response then
    groups.unloadGroupSessionByAddress userAddress response.groupAddress
  else groups

/-- Without an outbound session the response changes nothing. -/
def GroupStore.withOutbound (groups : GroupStore β) (userAddress groupAddress : E2eeAddress)
    (consume : GroupSession β → GroupStore β) : GroupStore β :=
  match groups.loadGroupSessionByAddress userAddress userAddress groupAddress with
  | some outbound => consume outbound
  | none => groups

def groupStep (groups : GroupStore β) (turn : GroupTurn β) : GroupStore β :=
  let device : Device β := ⟨turn.store, groups⟩
  match turn.call with
  | .createGroupResponse e2eesPackId senderAddress groupName groupMemberList response draw =>
      ((consumeCreateGroupResponse getE2eesPack device e2eesPackId senderAddress groupName
        groupMemberList response draw.sessionId draw.groupSeed).map Prod.fst).getD groups
  | .createGroupMsg receiverAddress msg =>
      consumeCreateGroupMsg getE2eesPack device receiverAddress msg
  | .addGroupMembersResponse userAddress groupAddress response =>
      groups.withOutbound userAddress groupAddress fun outbound =>
        ((consumeAddGroupMembersResponse getE2eesPack device outbound response).map
          Prod.fst).getD groups
  | .addGroupMemberDeviceResponse userAddress groupAddress response =>
      groups.withOutbound userAddress groupAddress fun outbound =>
        ((consumeAddGroupMemberDeviceResponse getE2eesPack device outbound response).map
          Prod.fst).getD groups
  | .addMsg receiverAddress msg => (msg.consume getE2eesPack device receiverAddress).1
  | .removeGroupMembersResponse userAddress groupAddress response draw =>
      groups.withOutbound userAddress groupAddress fun outbound =>
        (consumeRemoveGroupMembersResponse getE2eesPack device outbound response draw.sessionId
          draw.groupSeed).2.1
  | .removeGroupMembersMsg receiverAddress msg =>
      consumeRemoveGroupMembersMsg getE2eesPack device receiverAddress msg
  | .leaveGroupResponse userAddress response =>
      consumeLeaveGroupResponse groups userAddress response
  | .sendGroupMsgResponse userAddress groupAddress response =>
      groups.withOutbound userAddress groupAddress fun outbound =>
        consumeSendGroupMsgResponse getE2eesPack groups outbound response
  | .groupMsg receiverAddress msg => (consumeGroupMsg getE2eesPack groups receiverAddress msg).1
  | .groupPreKeyBundle receiverAddress bundle =>
      consumeGroupPreKeyBundle getE2eesPack device receiverAddress bundle
  | .groupUpdateKeyBundle receiverAddress bundle =>
      consumeGroupUpdateKeyBundle getE2eesPack device receiverAddress bundle

end Calls

section Usable

variable (getE2eesPack : Packs β)

/-- The owner can send with a session of its own. -/
def GroupSession.Usable (session : GroupSession β) : Prop :=
  session.sender = session.sessionOwner → isValidGroupSession getE2eesPack session = true

/-- Every stored outbound session can be used. -/
def GroupStore.Usable (groups : GroupStore β) : Prop :=
  ∀ session ∈ groups.entries, session.Usable getE2eesPack

/-- These are the stored sessions when the bundle has ended the old ones. -/
def GroupPreKeyBundle.unload (bundle : GroupPreKeyBundle β) (groups : GroupStore β)
    (receiverAddress : E2eeAddress) : GroupStore β :=
  if bundle.oldSessionId ≠ "" then groups.unloadGroupSessionById receiverAddress bundle.oldSessionId
  else groups

/-- A bundle that names the receiver as its sender finds a session of the group, and the bundle of
an adder lists the receiver, or names it as its sender. -/
def FillsKeys (groups : GroupStore β) (turn : GroupTurn β) : Prop :=
  match turn.call with
  | .groupPreKeyBundle receiverAddress bundle =>
      isValidAddress receiverAddress = true →
        isValidGroupPreKeyBundle getE2eesPack bundle = true →
        bundle.sender = receiverAddress →
        (bundle.unload groups receiverAddress).loadGroupSessions receiverAddress
          bundle.groupInfo.groupAddress ≠ []
  | .groupUpdateKeyBundle receiverAddress bundle =>
      isValidAddress receiverAddress = true →
        isValidGroupUpdateKeyBundle getE2eesPack bundle = true →
        (loadSignPublicKey turn.store receiverAddress).isSome = true →
        bundle.adding = true → bundle.addingMemberInfoList ≠ [] →
        bundle.sender = receiverAddress ∨
          ∃ info ∈ bundle.addingMemberInfoList, info.memberAddress = receiverAddress
  | _ => True

end Usable

section Made

variable {getE2eesPack : Packs β} {made : GroupSession β}

theorem newAndComplete_valid {info : GroupMemberInfo β} {other : GroupSession β}
    (madeHere : newAndCompleteInboundGroupSession getE2eesPack info other = some made) :
    isValidGroupSession getE2eesPack made = true := by
  unfold newAndCompleteInboundGroupSession at madeHere
  split at madeHere
  next checks =>
    simp only [Bool.and_eq_true, isValidGroupMemberInfo, isValidGroupSessionByPreKeyBundle,
      isValidGroupSessionHead] at checks
    obtain ⟨cipherSuite, -, rfl⟩ := Option.map_eq_some_iff.mp madeHere
    simp only [isValidGroupSession, isValidGroupSessionHead, insertInboundGroupSessionData, checks,
      groupChainKey_valid, groupAssociatedData_of_valid cipherSuite checks.1.2, Bool.and_self]
  · cases madeHere

theorem withChainKey_valid {info : GroupMemberInfo β} {other : GroupSession β}
    {theirChainKey : Bytes β} (chainKey : isValidProtobuf theirChainKey = true)
    (madeHere : newAndCompleteInboundGroupSessionWithChainKey getE2eesPack info other
      theirChainKey = some made) :
    isValidGroupSession getE2eesPack made = true := by
  unfold newAndCompleteInboundGroupSessionWithChainKey at madeHere
  split at madeHere
  next checks =>
    simp only [Bool.and_eq_true, isValidGroupMemberInfo, isValidGroupSessionNoChainKey,
      isValidGroupSessionHead] at checks
    obtain ⟨cipherSuite, -, rfl⟩ := Option.map_eq_some_iff.mp madeHere
    simp only [isValidGroupSession, isValidGroupSessionHead, insertInboundGroupSessionData, checks,
      chainKey, groupAssociatedData_of_valid cipherSuite checks.1.2, Bool.and_self]
  · cases madeHere

theorem completeByMemberId_valid {inbound : GroupSession β} {info : GroupMemberInfo β}
    (madeHere : completeInboundGroupSessionByMemberId getE2eesPack inbound info = some made) :
    isValidGroupSession getE2eesPack made = true := by
  unfold completeInboundGroupSessionByMemberId at madeHere
  split at madeHere
  next checks =>
    simp only [Bool.and_eq_true, isValidGroupMemberInfo, isValidGroupSessionByPreKeyBundle,
      isValidGroupSessionHead] at checks
    obtain ⟨cipherSuite, -, rfl⟩ := Option.map_eq_some_iff.mp madeHere
    simp only [isValidGroupSession, isValidGroupSessionHead, checks, groupChainKey_valid,
      groupAssociatedData_of_valid cipherSuite checks.2.2, Bool.and_self]
  · cases madeHere

theorem withRatchetState_valid {bundle : GroupUpdateKeyBundle β} {userAddress : E2eeAddress}
    (madeHere : newAndCompleteInboundGroupSessionWithRatchetState getE2eesPack bundle userAddress =
      some made) :
    isValidGroupSession getE2eesPack made = true := by
  unfold newAndCompleteInboundGroupSessionWithRatchetState at madeHere
  split at madeHere
  next checks =>
    simp only [Bool.and_eq_true, isValidGroupUpdateKeyBundle] at checks
    obtain ⟨cipherSuite, -, rfl⟩ := Option.map_eq_some_iff.mp madeHere
    have chainKey := advanceGroupChainKeyByAdd_valid cipherSuite bundle.chainKey checks.2.1.1.2
    have filled : isValidProtobuf (if bundle.adding = false then
        advanceGroupChainKeyByAdd cipherSuite bundle.chainKey bundle.chainKey
          else bundle.chainKey) = true := by
      split
      · exact chainKey
      · exact checks.2.1.1.2
    simp only [isValidGroupSession, isValidGroupSessionHead, checks, filled,
      groupAssociatedData_of_valid cipherSuite checks.2.1.2, Bool.and_self]
  · cases madeHere

/-- The signature key of the device is never empty. -/
theorem GroupTurn.signPublicKey_valid (turn : GroupTurn β) {address : E2eeAddress}
    {signPublicKey : Bytes β}
    (loaded : loadSignPublicKey turn.store address = some signPublicKey) :
    isValidProtobuf signPublicKey = true := by
  unfold loadSignPublicKey at loaded
  split at loaded
  next identityKey cached =>
    have valid := turn.cached address identityKey cached
    simp only [isValidIdentityKey, isValidKeyPair, Bool.and_eq_true] at valid
    rw [← Option.some.inj loaded]
    exact valid.2.2
  · exact (Option.filter_eq_some_iff.mp loaded).2

/-- An outbound session whose parts pass their checks is usable. -/
theorem insertOutbound_valid {cipherSuite : CipherSuite β} {e2eesPackId : UInt32}
    {userAddress groupAddress : E2eeAddress} {groupName sessionId : String}
    {groupMemberList : List GroupMember} {identityPublicKey : Bytes β}
    (pack : getE2eesPack e2eesPackId = some cipherSuite)
    (suite : isValidCipherSuite cipherSuite = true) (user : isValidAddress userAddress = true)
    (named : isValidString sessionId = true)
    (group : isValidGroupInfo ⟨groupName, groupAddress, groupMemberList⟩ = true)
    (key : isValidProtobuf identityPublicKey = true) (groupSeed : Bytes β) :
    isValidGroupSession getE2eesPack { insertOutboundGroupSessionData cipherSuite e2eesPackId
      userAddress groupName groupAddress sessionId groupMemberList identityPublicKey groupSeed with
        groupSeed := [] } = true := by
  have version : isValidString e2eesProtocolVersion = true := rfl
  simp only [isValidGroupSession, isValidGroupSessionHead, insertOutboundGroupSessionData,
    isValidE2eesPackId, pack, Option.any_some, suite, user, named, group, version,
    groupChainKey_valid, groupAssociatedData_of_valid cipherSuite key, Bool.and_self]

theorem newOutboundByReceiver_valid (turn : GroupTurn β) {groupSeed : Bytes β}
    {e2eesPackId : UInt32} {userAddress groupAddress : E2eeAddress} {groupName sessionId : String}
    {groupMemberList : List GroupMember}
    (madeHere : newOutboundGroupSessionByReceiver getE2eesPack turn.store groupSeed e2eesPackId
      userAddress groupName groupAddress sessionId groupMemberList = some made) :
    isValidGroupSession getE2eesPack made = true := by
  unfold newOutboundGroupSessionByReceiver at madeHere
  split at madeHere
  next cipherSuite identityPublicKey pack loaded =>
    split at madeHere
    next checks =>
      simp only [Bool.and_eq_true] at checks
      obtain ⟨⟨⟨⟨⟨⟨suite, user⟩, -⟩, name⟩, group⟩, named⟩, members⟩ := checks
      rw [← Option.some.inj madeHere]
      refine insertOutbound_valid pack suite user named ?_ (turn.signPublicKey_valid loaded) _
      simp only [isValidGroupInfo, name, group, members, Bool.and_self]
    · cases madeHere
  · cases madeHere

end Made

section Stored

variable {getE2eesPack : Packs β} {groups : GroupStore β}

theorem GroupSession.usable_of_valid {session : GroupSession β}
    (valid : isValidGroupSession getE2eesPack session = true) : session.Usable getE2eesPack :=
  fun _ => valid

theorem GroupSession.usable_of_inbound {session : GroupSession β}
    (inbound : session.sender ≠ session.sessionOwner) : session.Usable getE2eesPack :=
  fun own => absurd own inbound

theorem GroupStore.Usable.empty :
    GroupStore.Usable getE2eesPack (KeyedTable.empty : GroupStore β) := by
  intro session present
  cases present

theorem GroupStore.Usable.restrict (usable : groups.Usable getE2eesPack)
    (keep : GroupSession β → Bool) : GroupStore.Usable getE2eesPack (groups.restrict keep) :=
  fun session present => usable session (List.mem_of_mem_filter present)

theorem GroupStore.Usable.store (usable : groups.Usable getE2eesPack) {session : GroupSession β}
    (filled : session.Usable getE2eesPack) :
    (groups.storeGroupSession session).Usable getE2eesPack := by
  intro other present
  obtain ⟨old, -⟩ | rfl := KeyedTable.mem_insert.mp present
  · exact usable other old
  · exact filled

theorem GroupStore.Usable.storeResult (usable : groups.Usable getE2eesPack)
    {result : Option (GroupSession β)}
    (filled : ∀ session, result = some session → session.Usable getE2eesPack) :
    (groups.storeResult result).Usable getE2eesPack := by
  cases result with
  | none => exact usable
  | some session => exact usable.store (filled session rfl)

/-- A loop keeps the sessions usable when each turn stores a usable one. -/
theorem GroupStore.Usable.loop {Step : Type} {skip : Step → Prop} [DecidablePred skip]
    {make : Step → Option (GroupSession β)} {steps : List Step}
    (usable : groups.Usable getE2eesPack)
    (filled : ∀ step ∈ steps, ¬skip step → ∀ session, make step = some session →
      session.Usable getE2eesPack) :
    (steps.foldl (fun groups step => if skip step then groups else
      groups.storeResult (make step)) groups).Usable getE2eesPack := by
  intro session present
  obtain old | ⟨step, member, kept, made⟩ := GroupStore.mem_loop groups present
  · exact usable session old
  · exact filled step member kept session made

theorem GroupStore.Usable.withOutbound (usable : groups.Usable getE2eesPack)
    {userAddress groupAddress : E2eeAddress} {consume : GroupSession β → GroupStore β}
    (keeps : ∀ outbound, outbound.sender = outbound.sessionOwner →
      (consume outbound).Usable getE2eesPack) :
    (groups.withOutbound userAddress groupAddress consume).Usable getE2eesPack := by
  unfold GroupStore.withOutbound
  split
  next outbound loaded =>
    obtain ⟨member, sender⟩ := groups.loadGroupSessionByAddress_some loaded
    exact keeps outbound (sender.trans (groups.mem_loadGroupSessions.mp member).2.1.symm)
  · exact usable

/-- A renewal leaves valid sessions, and only renews inbound ones. -/
theorem GroupRenewal.finish_usable (renewal : GroupRenewal getE2eesPack)
    (usable : renewal.device.groups.Usable getE2eesPack) :
    renewal.finish.Usable getE2eesPack := by
  intro session present
  obtain old | rfl | ⟨old, cipherSuite, -, owner, -, inbound, -, -, rfl⟩ |
    ⟨info, theirs, assigned, rfl⟩ := renewal.mem_finish present
  · exact usable session old
  · exact GroupSession.usable_of_valid renewal.next_valid
  · apply GroupSession.usable_of_inbound
    intro own
    exact inbound (own.trans (owner.trans renewal.own.symm))
  · exact GroupSession.usable_of_valid (renewal.added_valid assigned)

end Stored

section Kept

variable {getE2eesPack : Packs β} {groups : GroupStore β} (turn : GroupTurn β)
  (usable : groups.Usable getE2eesPack)

include usable

/-- The creator of a group, and a member that has removed others, store usable sessions. -/
theorem newOutboundBySender_usable {memberInfoList : List (GroupMemberInfo β)}
    {e2eesPackId : UInt32} {userAddress groupAddress : E2eeAddress}
    {groupName oldSessionId : String} {groupMemberList : List GroupMember} (draw : GroupDraw β)
    {result : GroupStore β × GroupPreKeyBundle β}
    (made : newOutboundGroupSessionBySender getE2eesPack ⟨turn.store, groups⟩ memberInfoList
      e2eesPackId userAddress groupName groupAddress groupMemberList oldSessionId draw.sessionId
      draw.groupSeed = some result) : result.1.Usable getE2eesPack := by
  unfold newOutboundGroupSessionBySender at made
  split at made
  next cipherSuite identityPublicKey pack loaded =>
    split at made
    next checks =>
      simp only [Bool.and_eq_true] at checks
      obtain ⟨⟨⟨⟨⟨⟨⟨⟨suite, user⟩, -⟩, name⟩, group⟩, members⟩, -⟩, -⟩, -⟩ := checks
      have key := turn.signPublicKey_valid (loadSignPublicKey_of_sender loaded)
      rw [← Option.some.inj made]
      apply GroupStore.Usable.store
      · apply usable.loop
        intro info member other session madeHere
        exact GroupSession.usable_of_valid (newAndComplete_valid madeHere)
      · apply GroupSession.usable_of_valid
        apply insertOutbound_valid pack suite user draw.named _ key
        simp only [isValidGroupInfo, name, group, members, Bool.and_self]
    · cases made
  · cases made

/-- A call that fails stores nothing. -/
theorem result_usable {α : Type} {result : Option (GroupStore β × α)}
    (filled : ∀ made, result = some made → made.1.Usable getE2eesPack) :
    ((result.map Prod.fst).getD groups).Usable getE2eesPack := by
  cases result with
  | none => exact usable
  | some made => exact filled made rfl

theorem createGroupResponse_usable (e2eesPackId : UInt32) (senderAddress : E2eeAddress)
    (groupName : String) (groupMemberList : List GroupMember) (response : CreateGroupResponse β)
    (draw : GroupDraw β) :
    (((consumeCreateGroupResponse getE2eesPack ⟨turn.store, groups⟩ e2eesPackId senderAddress
      groupName groupMemberList response draw.sessionId draw.groupSeed).map Prod.fst).getD
        groups).Usable getE2eesPack := by
  apply result_usable usable
  intro result made
  unfold consumeCreateGroupResponse at made
  split at made
  · exact newOutboundBySender_usable turn usable draw made
  · cases made

/-- The loop over the listed devices only stores usable sessions. -/
theorem createGroupSteps_usable (receiverAddress senderAddress : E2eeAddress)
    (infos : List (GroupMemberInfo β)) (inbound : GroupSession β) :
    (infos.foldl (createGroupStep getE2eesPack receiverAddress senderAddress)
      (groups, inbound)).1.Usable getE2eesPack := by
  induction infos generalizing groups inbound with
  | nil => exact usable
  | cons info rest ih =>
      rw [List.foldl_cons, createGroupStep]
      split
      · split
        · apply ih
          apply usable.storeResult
          intro session made
          exact GroupSession.usable_of_valid (newAndComplete_valid made)
        · exact ih usable inbound
      · split
        next completed made =>
          apply ih
          exact usable.store (GroupSession.usable_of_valid (completeByMemberId_valid made))
        · exact ih usable inbound

/-- The sessions of the other listed devices are inbound. -/
theorem newInboundByMemberIds_usable (receiverAddress : E2eeAddress) (e2eesPackId : UInt32)
    (groupInfo : GroupInfo) (infos : List (GroupMemberInfo β)) :
    (infos.foldl (fun groups info => if info.memberAddress = receiverAddress then groups
      else groups.storeResult (newInboundGroupSessionByMemberId getE2eesPack e2eesPackId
        receiverAddress info groupInfo)) groups).Usable getE2eesPack := by
  apply usable.loop
  intro info member other session made
  obtain ⟨-, sender, owner, -⟩ := newInboundByMemberId_some made
  apply GroupSession.usable_of_inbound
  rw [sender, owner]
  exact other

theorem createGroupMsg_usable (receiverAddress : E2eeAddress) (msg : CreateGroupMsg β) :
    (consumeCreateGroupMsg getE2eesPack ⟨turn.store, groups⟩ receiverAddress msg).Usable
      getE2eesPack := by
  unfold consumeCreateGroupMsg
  split
  · split
    · exact newInboundByMemberIds_usable usable receiverAddress msg.e2eesPackId msg.groupInfo _
    · split
      · apply GroupStore.Usable.storeResult
        · exact createGroupSteps_usable usable receiverAddress msg.senderAddress _ _
        · intro session made
          exact GroupSession.usable_of_valid (newOutboundByReceiver_valid turn made)
      · exact usable
  · exact usable

theorem removeGroupMembersMsg_usable (receiverAddress : E2eeAddress)
    (msg : RemoveGroupMembersMsg β) :
    (consumeRemoveGroupMembersMsg getE2eesPack ⟨turn.store, groups⟩ receiverAddress msg).Usable
      getE2eesPack := by
  unfold consumeRemoveGroupMembersMsg
  split
  · split
    · exact usable.restrict _
    · split
      · exact newInboundByMemberIds_usable usable receiverAddress msg.e2eesPackId msg.groupInfo _
      · split
        · apply GroupStore.Usable.storeResult
          · exact createGroupSteps_usable usable receiverAddress msg.senderAddress _ _
          · intro session made
            exact GroupSession.usable_of_valid (newOutboundByReceiver_valid turn made)
        · exact newInboundByMemberIds_usable (usable.restrict _) receiverAddress msg.e2eesPackId
            msg.groupInfo _
  · exact usable

theorem addGroupMembersResponse_usable {outbound : GroupSession β}
    (own : outbound.sender = outbound.sessionOwner) (response : AddGroupMembersResponse β) :
    (((consumeAddGroupMembersResponse getE2eesPack ⟨turn.store, groups⟩ outbound response).map
      Prod.fst).getD groups).Usable getE2eesPack := by
  apply result_usable usable
  intro result made
  unfold consumeAddGroupMembersResponse at made
  split at made
  · obtain ⟨renewal, onDevice, -, -, -, -, -, rfl⟩ := renewOutbound_cases own made
    apply renewal.finish_usable
    rw [onDevice]
    exact usable
  · cases made

theorem addGroupMemberDeviceResponse_usable {outbound : GroupSession β}
    (own : outbound.sender = outbound.sessionOwner) (response : AddGroupMemberDeviceResponse β) :
    (((consumeAddGroupMemberDeviceResponse getE2eesPack ⟨turn.store, groups⟩ outbound
      response).map Prod.fst).getD groups).Usable getE2eesPack := by
  apply result_usable usable
  intro result made
  unfold consumeAddGroupMemberDeviceResponse at made
  split at made
  · obtain ⟨renewal, onDevice, -, -, -, -, -, rfl⟩ := renewWithNewDevice_cases own made
    apply renewal.finish_usable
    rw [onDevice]
    exact usable
  · cases made

theorem addMsg_usable (receiverAddress : E2eeAddress) (msg : GroupAddMsg β) :
    (msg.consume getE2eesPack ⟨turn.store, groups⟩ receiverAddress).1.Usable getE2eesPack := by
  obtain unchanged | ⟨renewal, renews, outcome⟩ :=
    msg.consume_cases getE2eesPack ⟨turn.store, groups⟩ receiverAddress
  · rw [unchanged]
    exact usable
  · rw [outcome]
    apply renewal.finish_usable
    rw [renews.onDevice]
    exact usable

theorem removeGroupMembersResponse_usable (outbound : GroupSession β)
    (response : RemoveGroupMembersResponse β) (draw : GroupDraw β) :
    (consumeRemoveGroupMembersResponse getE2eesPack ⟨turn.store, groups⟩ outbound response
      draw.sessionId draw.groupSeed).2.1.Usable getE2eesPack := by
  have unloaded := usable.restrict fun session => !decide (session.sessionOwner =
    outbound.sessionOwner ∧ session.sessionId = outbound.sessionId)
  unfold consumeRemoveGroupMembersResponse
  split
  · dsimp only
    split
    · split
      next result bundle made => exact newOutboundBySender_usable turn unloaded draw made
      · exact unloaded
    · exact unloaded
  · exact usable

theorem sendGroupMsgResponse_usable (outbound : GroupSession β)
    (response : Option SendGroupMsgResponse) :
    (consumeSendGroupMsgResponse getE2eesPack groups outbound response).Usable getE2eesPack := by
  unfold consumeSendGroupMsgResponse
  split
  next checks =>
    rw [Bool.and_eq_true] at checks
    split
    next cipherSuite pack =>
      apply usable.store
      exact GroupSession.usable_of_valid (GroupSession.advance_valid checks.1)
    · exact usable
  · exact usable

theorem groupMsg_usable (receiverAddress : E2eeAddress) (msg : E2eeMsg β) :
    (consumeGroupMsg getE2eesPack groups receiverAddress msg).1.Usable getE2eesPack := by
  obtain unchanged | ⟨inbound, cipherSuite, plaintext, -, -, valid, -, -, outcome⟩ :=
    consumeGroupMsg_cases getE2eesPack groups receiverAddress msg
  · rw [unchanged]
    exact usable
  · rw [outcome]
    apply usable.store
    apply GroupSession.usable_of_valid
    exact GroupSession.advance_valid (GroupSession.advance_iterate_valid valid _)

theorem leaveGroupResponse_usable (userAddress : E2eeAddress) (response : LeaveGroupResponse) :
    (consumeLeaveGroupResponse groups userAddress response).Usable getE2eesPack := by
  unfold consumeLeaveGroupResponse
  split
  · exact usable.restrict _
  · exact usable

end Kept

section Bundles

variable {getE2eesPack : Packs β} {groups : GroupStore β}

/-- An own session without a chain key cannot be used. -/
theorem GroupStore.not_usable {session : GroupSession β} (present : session ∈ groups.entries)
    (own : session.sender = session.sessionOwner) (empty : session.chainKey = []) :
    ¬ groups.Usable getE2eesPack := by
  intro usable
  have valid := usable session present own
  simp [isValidGroupSession, empty, isValidProtobuf] at valid

/-- A bundle passes the checks of the session that keeps its seed when it passes its own check. -/
theorem newInboundByPreKeyBundle_isSome_iff (receiverAddress : E2eeAddress)
    (bundle : GroupPreKeyBundle β) :
    (newInboundGroupSessionByPreKeyBundle getE2eesPack bundle.e2eesPackId receiverAddress
        bundle).isSome = true ↔
      isValidAddress receiverAddress = true ∧ isValidGroupPreKeyBundle getE2eesPack bundle = true := by
  have packed : isValidGroupPreKeyBundle getE2eesPack bundle = true →
      isValidE2eesPackId getE2eesPack bundle.e2eesPackId = true := by
    intro valid
    simp only [isValidGroupPreKeyBundle, Bool.and_eq_true] at valid
    exact valid.1.1.1.1.2
  unfold newInboundGroupSessionByPreKeyBundle
  split
  next checks =>
    simp only [Bool.and_eq_true] at checks
    exact iff_of_true rfl ⟨checks.1.2, checks.2⟩
  next fails =>
    simp only [Bool.and_eq_true] at fails
    refine iff_of_false (by simp) ?_
    intro passes
    exact fails ⟨⟨packed passes.2, passes.1⟩, passes.2⟩

/-- A bundle that comes before the list of the members only leaves the session of its sender. -/
theorem groupPreKeyBundle_usable_iff (turn : GroupTurn β) (usable : groups.Usable getE2eesPack)
    (receiverAddress : E2eeAddress) (bundle : GroupPreKeyBundle β) :
    (consumeGroupPreKeyBundle getE2eesPack ⟨turn.store, groups⟩ receiverAddress bundle).Usable
        getE2eesPack ↔
      (isValidAddress receiverAddress = true → isValidGroupPreKeyBundle getE2eesPack bundle = true →
        bundle.sender = receiverAddress →
        (bundle.unload groups receiverAddress).loadGroupSessions receiverAddress
          bundle.groupInfo.groupAddress ≠ []) := by
  have remaining : (bundle.unload groups receiverAddress).Usable getE2eesPack := by
    unfold GroupPreKeyBundle.unload
    split
    · exact usable.restrict _
    · exact usable
  unfold consumeGroupPreKeyBundle
  show GroupStore.Usable getE2eesPack (if ((bundle.unload groups receiverAddress).loadGroupSessions
    receiverAddress bundle.groupInfo.groupAddress).isEmpty then _ else _) ↔ _
  split
  next nothing =>
    rw [List.isEmpty_iff] at nothing
    constructor
    · intro after user valid own loaded
      obtain ⟨session, made⟩ := Option.isSome_iff_exists.mp
        ((newInboundByPreKeyBundle_isSome_iff receiverAddress bundle).mpr ⟨user, valid⟩)
      obtain ⟨-, sender, owner, -, -, empty⟩ := newInboundByPreKeyBundle_some made
      have present : session ∈ ((bundle.unload groups receiverAddress).storeGroupSession
          session).entries := KeyedTable.mem_insert.mpr (.inr rfl)
      rw [made] at after
      exact GroupStore.not_usable present (sender.trans (own.trans owner.symm)) empty after
    · intro fills
      apply remaining.storeResult
      intro session made
      obtain ⟨user, valid⟩ := (newInboundByPreKeyBundle_isSome_iff receiverAddress bundle).mp
        (Option.isSome_iff_exists.mpr ⟨session, made⟩)
      obtain ⟨-, sender, owner, -⟩ := newInboundByPreKeyBundle_some made
      apply GroupSession.usable_of_inbound
      rw [sender, owner]
      exact fun own => fills user valid own nothing
  next something =>
    rw [List.isEmpty_iff] at something
    refine iff_of_true ?_ fun _ _ _ => something
    apply GroupStore.Usable.storeResult
    · apply remaining.loop
      intro inbound loaded other session made
      obtain ⟨-, cipherSuite, -, rfl⟩ := completeByPreKeyBundle_some made
      apply GroupSession.usable_of_inbound
      intro own
      exact other (own.trans ((GroupStore.mem_loadGroupSessions _).mp loaded).2.1)
    · intro session made
      exact GroupSession.usable_of_valid (newOutboundByReceiver_valid turn made)

variable (getE2eesPack) in
/-- A listed device gets a full chain key, also when it is listed more than once. -/
theorem invitedStep_outbound_listed (cipherSuite : CipherSuite β) {userAddress : E2eeAddress}
    {infos : List (GroupMemberInfo β)}
    (listed : ∃ info ∈ infos, info.memberAddress = userAddress) (state : InvitedState β) :
    ∃ theirs, cipherSuite.FullKey theirs ∧
      (infos.foldl (invitedStep getE2eesPack cipherSuite userAddress) state).outbound =
        { state.outbound with chainKey := theirs, sequence := 0 } := by
  induction infos generalizing state with
  | nil =>
      obtain ⟨info, member, -⟩ := listed
      cases member
  | cons info rest ih =>
      rw [List.foldl_cons]
      by_cases later : ∃ other ∈ rest, other.memberAddress = userAddress
      · obtain ⟨theirs, full, outbound⟩ :=
          ih later (invitedStep getE2eesPack cipherSuite userAddress state info)
        refine ⟨theirs, full, outbound.trans ?_⟩
        unfold invitedStep
        split <;> rfl
      · have last : info.memberAddress = userAddress := by
          obtain ⟨found, member, own⟩ := listed
          obtain rfl | behind := List.mem_cons.mp member
          · exact own
          · exact absurd ⟨found, behind, own⟩ later
        refine ⟨_, welcome_full state.senderChainKey, ?_⟩
        rw [invitedStep_outbound_other]
        · rw [invitedStep, if_pos last]
        · intro other member own
          exact later ⟨other, member, own⟩

/-- This is the outbound session that an invited device stores. -/
def GroupUpdateKeyBundle.invited (bundle : GroupUpdateKeyBundle β) (getE2eesPack : Packs β)
    (cipherSuite : CipherSuite β) (groups : GroupStore β) (userAddress : E2eeAddress)
    (signPublicKey : Bytes β) : InvitedState β :=
  bundle.addingMemberInfoList.foldl (invitedStep getE2eesPack cipherSuite userAddress)
    ⟨bundle.joined cipherSuite userAddress signPublicKey, groups, bundle.chainKey⟩

/-- Every check passes, or the bundle invites nobody here. -/
theorem newOutboundGroupSessionInvited_cases (store : Store β) (groups : GroupStore β)
    (bundle : GroupUpdateKeyBundle β) (userAddress : E2eeAddress) :
    (newOutboundGroupSessionInvited getE2eesPack ⟨store, groups⟩ bundle userAddress = none ∧
      ¬ (isValidAddress userAddress = true ∧ isValidGroupUpdateKeyBundle getE2eesPack bundle = true ∧
        (loadSignPublicKey store userAddress).isSome = true ∧
          bundle.addingMemberInfoList ≠ [])) ∨
    ∃ cipherSuite signPublicKey, getE2eesPack bundle.e2eesPackId = some cipherSuite ∧
      loadSignPublicKey store userAddress = some signPublicKey ∧
      isValidAddress userAddress = true ∧ isValidGroupUpdateKeyBundle getE2eesPack bundle = true ∧
      bundle.addingMemberInfoList ≠ [] ∧
      newOutboundGroupSessionInvited getE2eesPack ⟨store, groups⟩ bundle userAddress =
        some ((bundle.invited getE2eesPack cipherSuite groups userAddress
            signPublicKey).groups.storeGroupSession
            (bundle.invited getE2eesPack cipherSuite groups userAddress signPublicKey).outbound,
          { bundle with chainKey := (bundle.walked cipherSuite).2 }) := by
  unfold newOutboundGroupSessionInvited
  split
  next cipherSuite signPublicKey pack loaded =>
    split
    next checks =>
      simp only [Bool.and_eq_true, Bool.not_eq_true', List.isEmpty_eq_false_iff] at checks
      right
      refine ⟨cipherSuite, signPublicKey, pack, loaded, checks.1.1, checks.1.2, checks.2, ?_⟩
      have walked := (invitedStep_foldl getE2eesPack cipherSuite userAddress
        bundle.addingMemberInfoList (bundle.joined cipherSuite userAddress signPublicKey) groups
        bundle.chainKey).2
      rw [GroupUpdateKeyBundle.walked, ← walked]
      rfl
    next fails =>
      left
      refine ⟨rfl, ?_⟩
      rintro ⟨user, valid, -, nonempty⟩
      apply fails
      simp only [user, valid, Bool.and_eq_true, Bool.not_eq_true', List.isEmpty_eq_false_iff,
        true_and]
      exact nonempty
  next missing =>
    left
    refine ⟨rfl, ?_⟩
    rintro ⟨-, valid, known, -⟩
    simp only [isValidGroupUpdateKeyBundle, Bool.and_eq_true] at valid
    obtain ⟨cipherSuite, pack, -⟩ := exists_pack valid.1.1.1.1.1.1.2
    obtain ⟨signPublicKey, loaded⟩ := Option.isSome_iff_exists.mp known
    exact missing cipherSuite signPublicKey pack loaded

section Invited

variable {cipherSuite : CipherSuite β} {bundle : GroupUpdateKeyBundle β}
  {userAddress : E2eeAddress} {signPublicKey : Bytes β}
  (user : isValidAddress userAddress = true)
  (valid : isValidGroupUpdateKeyBundle getE2eesPack bundle = true)
  (key : isValidProtobuf signPublicKey = true)

/-- The loop stores sessions for the other new devices, and all of them have a key. -/
theorem invited_groups_usable (usable : groups.Usable getE2eesPack) :
    (bundle.invited getE2eesPack cipherSuite groups userAddress signPublicKey).groups.Usable
      getE2eesPack := by
  have stored := (invitedStep_foldl getE2eesPack cipherSuite userAddress
    bundle.addingMemberInfoList (bundle.joined cipherSuite userAddress signPublicKey) groups
    bundle.chainKey).1
  rw [GroupUpdateKeyBundle.invited, stored]
  apply usable.loop
  intro added assigned other session made
  have full : cipherSuite.FullKey added.2 :=
    welcomeAndAdd_welcome_full _ _ (List.of_mem_zip assigned).2
  exact GroupSession.usable_of_valid (withChainKey_valid full.valid made)

include user valid key in
theorem invited_outbound_usable
    (listed : ∃ info ∈ bundle.addingMemberInfoList, info.memberAddress = userAddress) :
    (bundle.invited getE2eesPack cipherSuite groups userAddress signPublicKey).outbound.Usable
      getE2eesPack := by
  obtain ⟨theirs, full, outbound⟩ := invitedStep_outbound_listed getE2eesPack cipherSuite
    listed ⟨bundle.joined cipherSuite userAddress signPublicKey, groups,
      bundle.chainKey⟩
  apply GroupSession.usable_of_valid
  rw [GroupUpdateKeyBundle.invited, outbound]
  simp only [isValidGroupUpdateKeyBundle, Bool.and_eq_true] at valid
  simp only [isValidGroupSession, isValidGroupSessionHead, GroupUpdateKeyBundle.joined, valid,
    user, full.valid, groupAssociatedData_of_valid cipherSuite key, Bool.and_self]

include user valid key in
/-- A device that the bundle does not list gets a chain key only as the sender of the bundle. -/
theorem invited_stated_usable_iff (usable : groups.Usable getE2eesPack) {chainKey : Bytes β}
    (chainKeyValid : isValidProtobuf chainKey = true) :
    let invited := bundle.invited getE2eesPack cipherSuite groups userAddress signPublicKey
    ((invited.groups.storeGroupSession invited.outbound).storeGroupSession
        (bundle.stated cipherSuite userAddress chainKey)).Usable getE2eesPack ↔
      bundle.sender = userAddress ∨
        ∃ info ∈ bundle.addingMemberInfoList, info.memberAddress = userAddress := by
  intro invited
  have others : invited.groups.Usable getE2eesPack := invited_groups_usable usable
  have stated : (bundle.stated cipherSuite userAddress chainKey).Usable getE2eesPack :=
    GroupSession.usable_of_valid (GroupUpdateKeyBundle.stated_valid valid user chainKeyValid)
  by_cases listed : ∃ info ∈ bundle.addingMemberInfoList, info.memberAddress = userAddress
  · refine iff_of_true ?_ (.inr listed)
    exact (others.store (invited_outbound_usable user valid key listed)).store stated
  · have outbound : invited.outbound = bundle.joined cipherSuite userAddress signPublicKey := by
      apply invitedStep_outbound_other
      intro info member own
      exact listed ⟨info, member, own⟩
    rw [outbound]
    constructor
    · intro after
      by_contra unlisted
      rw [not_or] at unlisted
      have earlier : bundle.joined cipherSuite userAddress signPublicKey ∈
          (invited.groups.storeGroupSession
            (bundle.joined cipherSuite userAddress signPublicKey)).entries :=
        KeyedTable.mem_insert.mpr (.inr rfl)
      have present : bundle.joined cipherSuite userAddress signPublicKey ∈
          ((invited.groups.storeGroupSession
            (bundle.joined cipherSuite userAddress signPublicKey)).storeGroupSession
            (bundle.stated cipherSuite userAddress chainKey)).entries :=
        KeyedTable.mem_insert.mpr (.inl ⟨earlier, GroupKey.uncovered_of_sender unlisted.1⟩)
      exact GroupStore.not_usable present rfl rfl after
    · intro named
      have own : bundle.sender = userAddress := named.resolve_right listed
      intro session present
      obtain ⟨earlier, uncovered⟩ | rfl := KeyedTable.mem_insert.mp present
      · obtain ⟨old, -⟩ | rfl := KeyedTable.mem_insert.mp earlier
        · exact others session old
        · have sameKey : (bundle.stated cipherSuite userAddress chainKey).key =
              (bundle.joined cipherSuite userAddress signPublicKey).key := by
            simp only [GroupSession.key, GroupUpdateKeyBundle.stated, GroupUpdateKeyBundle.joined,
              own]
          rw [sameKey, groupSupersession.refl] at uncovered
          cases uncovered
      · exact stated

end Invited

/-- A bundle leaves an outbound session without a chain key exactly when it invites a device that it
does not list. -/
theorem groupUpdateKeyBundle_usable_iff (turn : GroupTurn β) (usable : groups.Usable getE2eesPack)
    (receiverAddress : E2eeAddress) (bundle : GroupUpdateKeyBundle β) :
    (consumeGroupUpdateKeyBundle getE2eesPack ⟨turn.store, groups⟩ receiverAddress bundle).Usable
        getE2eesPack ↔
      (isValidAddress receiverAddress = true →
        isValidGroupUpdateKeyBundle getE2eesPack bundle = true →
        (loadSignPublicKey turn.store receiverAddress).isSome = true →
        bundle.adding = true → bundle.addingMemberInfoList ≠ [] →
        bundle.sender = receiverAddress ∨
          ∃ info ∈ bundle.addingMemberInfoList, info.memberAddress = receiverAddress) := by
  have unchanged : (groups.storeResult (newAndCompleteInboundGroupSessionWithRatchetState
      getE2eesPack bundle receiverAddress)).Usable getE2eesPack := by
    apply usable.storeResult
    intro session made
    exact GroupSession.usable_of_valid (withRatchetState_valid made)
  unfold consumeGroupUpdateKeyBundle
  cases adding : bundle.adding with
  | false =>
      refine iff_of_true unchanged ?_
      intro _ _ _ contrary
      cases contrary
  | true =>
      obtain ⟨nothing, fails⟩ | ⟨cipherSuite, signPublicKey, pack, loaded, user, valid, nonempty,
        made⟩ := newOutboundGroupSessionInvited_cases turn.store groups bundle receiverAddress
      · rw [if_pos rfl, nothing]
        refine iff_of_true unchanged ?_
        intro user valid known _ nonempty
        exact absurd ⟨user, valid, known, nonempty⟩ fails
      · have walked : isValidProtobuf (bundle.walked cipherSuite).2 = true := by
          have parts := valid
          simp only [isValidGroupUpdateKeyBundle, Bool.and_eq_true] at parts
          exact welcomeAndAdd_valid _ _ parts.1.1.2
        have key := turn.signPublicKey_valid loaded
        rw [if_pos rfl, made, Option.getD_some]
        dsimp only
        rw [GroupUpdateKeyBundle.withRatchetState_stated user valid pack adding walked]
        refine (invited_stated_usable_iff user valid key usable walked).trans ?_
        constructor
        · intro fills _ _ _ _ _
          exact fills
        · intro fills
          exact fills user valid (Option.isSome_iff_exists.mpr ⟨_, loaded⟩) rfl nonempty

end Bundles

/-- A call keeps the outbound sessions usable exactly when it fills their keys. -/
theorem groupStep_usable_iff (getE2eesPack : Packs β) (groups : GroupStore β) (turn : GroupTurn β)
    (usable : groups.Usable getE2eesPack) :
    (groupStep getE2eesPack groups turn).Usable getE2eesPack ↔
      FillsKeys getE2eesPack groups turn := by
  unfold groupStep FillsKeys
  cases turn.call with
  | createGroupResponse e2eesPackId senderAddress groupName groupMemberList response draw =>
      exact iff_of_true (createGroupResponse_usable turn usable e2eesPackId senderAddress groupName
        groupMemberList response draw) trivial
  | createGroupMsg receiverAddress msg =>
      exact iff_of_true (createGroupMsg_usable turn usable receiverAddress msg) trivial
  | addGroupMembersResponse userAddress groupAddress response =>
      refine iff_of_true (usable.withOutbound ?_) trivial
      intro outbound own
      exact addGroupMembersResponse_usable turn usable own response
  | addGroupMemberDeviceResponse userAddress groupAddress response =>
      refine iff_of_true (usable.withOutbound ?_) trivial
      intro outbound own
      exact addGroupMemberDeviceResponse_usable turn usable own response
  | addMsg receiverAddress msg =>
      exact iff_of_true (addMsg_usable turn usable receiverAddress msg) trivial
  | removeGroupMembersResponse userAddress groupAddress response draw =>
      refine iff_of_true (usable.withOutbound ?_) trivial
      intro outbound _
      exact removeGroupMembersResponse_usable turn usable outbound response draw
  | removeGroupMembersMsg receiverAddress msg =>
      exact iff_of_true (removeGroupMembersMsg_usable turn usable receiverAddress msg) trivial
  | leaveGroupResponse userAddress response =>
      exact iff_of_true (leaveGroupResponse_usable usable userAddress response) trivial
  | sendGroupMsgResponse userAddress groupAddress response =>
      refine iff_of_true (usable.withOutbound ?_) trivial
      intro outbound _
      exact sendGroupMsgResponse_usable usable outbound response
  | groupMsg receiverAddress msg =>
      exact iff_of_true (groupMsg_usable usable receiverAddress msg) trivial
  | groupPreKeyBundle receiverAddress bundle =>
      exact groupPreKeyBundle_usable_iff turn usable receiverAddress bundle
  | groupUpdateKeyBundle receiverAddress bundle =>
      exact groupUpdateKeyBundle_usable_iff turn usable receiverAddress bundle

/-- From an empty store the outbound sessions are usable all along exactly when no call leaves one
without a chain key. -/
theorem outboundGroupSessions_usable_iff (getE2eesPack : Packs β) (turns : List (GroupTurn β)) :
    (∀ reached, reached <+: turns →
        (Machine.run (groupStep getE2eesPack) KeyedTable.empty reached).Usable getE2eesPack) ↔
      Machine.Along (groupStep getE2eesPack) (FillsKeys getE2eesPack) KeyedTable.empty turns :=
  Machine.prefixes_iff_along (fun groups turn usable => groupStep_usable_iff getE2eesPack groups
    turn usable) GroupStore.Usable.empty turns

namespace Symbolic

/-- The device of Bob gets the bundle in which Alice adds Carol. -/
def unlistedTurn : GroupTurn FreeTerm where
  store := (runningDevice bobAddress).store
  cached := by
    intro address identityKey cached
    cases cached
  call := .groupUpdateKeyBundle bobAddress (groupAddition.bundle aliceAddress)

end Symbolic

/-- The bundle is valid, and Bob stores an outbound session without a chain key. -/
theorem outboundGroupSessions_unlisted :
    isValidGroupUpdateKeyBundle (fun _ => some symbolicSuite)
        (Symbolic.groupAddition.bundle Symbolic.aliceAddress) = true ∧
      ∃ session ∈ (Machine.run (groupStep fun _ => some symbolicSuite) KeyedTable.empty
          [Symbolic.unlistedTurn]).entries,
        session.sender = session.sessionOwner ∧ session.chainKey = [] ∧
          isValidGroupSession (fun _ => some symbolicSuite) session = false := by
  decide

end E2eeSecurity
