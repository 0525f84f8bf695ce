/-
This file gives the calls of `group_session.c` that make and renew group sessions, and the handlers
of the group messages that lead to them.
-/
import E2eeSecurity.Group.Model

namespace E2eeSecurity

variable {β : Type}

section Creation

/-- The seed stays in the session until the bundle is packed. -/
def insertOutboundGroupSessionData (cipherSuite : CipherSuite β) (e2eesPackId : UInt32)
    (userAddress : E2eeAddress) (groupName : String) (groupAddress : E2eeAddress)
    (sessionId : String) (groupMemberList : List GroupMember)
    (identityPublicKey groupSeed : Bytes β) : GroupSession β where
  version := e2eesProtocolVersion
  e2eesPackId := e2eesPackId
  sessionId := sessionId
  sender := userAddress
  sessionOwner := userAddress
  groupInfo := ⟨groupName, groupAddress, groupMemberList⟩
  sequence := 0
  groupSeed := groupSeed
  chainKey := cipherSuite.groupChainKey groupSeed identityPublicKey
  associatedData := cipherSuite.groupAssociatedData identityPublicKey

/-- The keys of the inbound session are filled in afterwards. -/
def insertInboundGroupSessionData (info : GroupMemberInfo β) (other : GroupSession β) :
    GroupSession β where
  version := other.version
  e2eesPackId := other.e2eesPackId
  sessionId := other.sessionId
  sender := info.memberAddress
  sessionOwner := other.sessionOwner
  groupInfo := other.groupInfo
  sequence := 0
  groupSeed := []
  chainKey := []
  associatedData := []

def packGroupPreKeyPlaintext (outbound : GroupSession β) (oldSessionId : String) :
    GroupPreKeyBundle β where
  version := outbound.version
  e2eesPackId := outbound.e2eesPackId
  sessionId := outbound.sessionId
  oldSessionId := oldSessionId
  sender := outbound.sender
  groupInfo := outbound.groupInfo
  sequence := outbound.sequence
  groupSeed := outbound.groupSeed

variable (getE2eesPack : Packs β)

/-- The result is the session that the call stores, and no value stands for a failure. -/
def newAndCompleteInboundGroupSession (info : GroupMemberInfo β) (other : GroupSession β) :
    Option (GroupSession β) :=
  if isValidGroupMemberInfo info && isValidGroupSessionByPreKeyBundle getE2eesPack other then
    (getE2eesPack other.e2eesPackId).map fun cipherSuite =>
      { insertInboundGroupSessionData info other with
        chainKey := cipherSuite.groupChainKey other.groupSeed info.signPublicKey
        associatedData := cipherSuite.groupAssociatedData info.signPublicKey }
  else none

/-- The creator stores a session for every other device before its own, without the seed.
The bundle goes to the other members. -/
def newOutboundGroupSessionBySender (device : Device β) (memberInfoList : List (GroupMemberInfo β))
    (e2eesPackId : UInt32) (userAddress : E2eeAddress) (groupName : String)
    (groupAddress : E2eeAddress) (groupMemberList : List GroupMember)
    (oldSessionId sessionId : String) (groupSeed : Bytes β) :
    Option (GroupStore β × GroupPreKeyBundle β) :=
  match getE2eesPack e2eesPackId, loadSenderSignPublicKey device.store userAddress with
  | some cipherSuite, some identityPublicKey =>
      if isValidCipherSuite cipherSuite && isValidAddress userAddress &&
          memberInfoList.all isValidGroupMemberInfo && isValidString groupName &&
          isValidAddress groupAddress && groupMemberList.all isValidGroupMember &&
          !groupMemberList.isEmpty && !memberInfoList.isEmpty &&
          decide (groupMemberList.length ≤ memberInfoList.length) then
        let outbound := insertOutboundGroupSessionData cipherSuite e2eesPackId userAddress
          groupName groupAddress sessionId groupMemberList identityPublicKey groupSeed
        let inbound := memberInfoList.foldl (fun groups info =>
          if info.memberAddress = userAddress then groups
          else groups.storeResult
            (newAndCompleteInboundGroupSession getE2eesPack info outbound)) device.groups
        some (inbound.storeGroupSession { outbound with groupSeed := [] },
          packGroupPreKeyPlaintext outbound oldSessionId)
      else none
  | _, _ => none

/-- The receiver has the seed from the creator and does not store it either. -/
def newOutboundGroupSessionByReceiver (store : Store β) (groupSeed : Bytes β)
    (e2eesPackId : UInt32) (userAddress : E2eeAddress) (groupName : String)
    (groupAddress : E2eeAddress) (sessionId : String) (groupMemberList : List GroupMember) :
    Option (GroupSession β) :=
  match getE2eesPack e2eesPackId, loadSignPublicKey store userAddress with
  | some cipherSuite, some identityPublicKey =>
      if isValidCipherSuite cipherSuite && isValidAddress userAddress &&
          isValidProtobuf groupSeed && isValidString groupName && isValidAddress groupAddress &&
          isValidString sessionId && groupMemberList.all isValidGroupMember then
        some { insertOutboundGroupSessionData cipherSuite e2eesPackId userAddress groupName
          groupAddress sessionId groupMemberList identityPublicKey groupSeed with
          groupSeed := [] }
      else none
  | _, _ => none

/-- Without the message that lists the members, the seed is kept for later. -/
def newInboundGroupSessionByPreKeyBundle (e2eesPackId : UInt32) (userAddress : E2eeAddress)
    (bundle : GroupPreKeyBundle β) : Option (GroupSession β) :=
  if isValidE2eesPackId getE2eesPack e2eesPackId && isValidAddress userAddress &&
      isValidGroupPreKeyBundle getE2eesPack bundle then
    some {
      version := bundle.version
      e2eesPackId := e2eesPackId
      sessionId := bundle.sessionId
      sender := bundle.sender
      sessionOwner := userAddress
      groupInfo := bundle.groupInfo
      sequence := bundle.sequence
      groupSeed := bundle.groupSeed
      chainKey := []
      associatedData := [] }
  else none

/-- Without the bundle, the signature key is kept in the associated data. -/
def newInboundGroupSessionByMemberId (e2eesPackId : UInt32) (userAddress : E2eeAddress)
    (info : GroupMemberInfo β) (groupInfo : GroupInfo) : Option (GroupSession β) :=
  if isValidE2eesPackId getE2eesPack e2eesPackId && isValidAddress userAddress &&
      isValidGroupMemberInfo info && isValidGroupInfo groupInfo then
    (getE2eesPack e2eesPackId).map fun cipherSuite => {
      version := ""
      e2eesPackId := e2eesPackId
      sessionId := ""
      sender := info.memberAddress
      sessionOwner := userAddress
      groupInfo := groupInfo
      sequence := 0
      groupSeed := []
      chainKey := []
      associatedData := cipherSuite.groupAssociatedData info.signPublicKey }
  else none

/-- The signature key is the first half of the associated data. -/
def completeInboundGroupSessionByPreKeyBundle (inbound : GroupSession β)
    (bundle : GroupPreKeyBundle β) : Option (GroupSession β) :=
  if isValidGroupSessionByMemberId getE2eesPack inbound &&
      isValidGroupPreKeyBundle getE2eesPack bundle then
    (getE2eesPack inbound.e2eesPackId).map fun cipherSuite =>
      { inbound with
        version := bundle.version
        sessionId := bundle.sessionId
        sequence := bundle.sequence
        chainKey := cipherSuite.groupChainKey bundle.groupSeed inbound.associatedData }
  else none

/-- The kept seed is used up. -/
def completeInboundGroupSessionByMemberId (inbound : GroupSession β)
    (info : GroupMemberInfo β) : Option (GroupSession β) :=
  if isValidGroupSessionByPreKeyBundle getE2eesPack inbound && isValidGroupMemberInfo info then
    (getE2eesPack inbound.e2eesPackId).map fun cipherSuite =>
      { inbound with
        groupSeed := []
        chainKey := cipherSuite.groupChainKey inbound.groupSeed info.signPublicKey
        associatedData := cipherSuite.groupAssociatedData info.signPublicKey }
  else none

/-- This is one turn of the loop when the bundle came first.
The session of the creator changes in place, and later turns read it. -/
def createGroupStep (receiverAddress senderAddress : E2eeAddress)
    (state : GroupStore β × GroupSession β) (info : GroupMemberInfo β) :
    GroupStore β × GroupSession β :=
  if info.memberAddress ≠ senderAddress then
    if info.memberAddress ≠ receiverAddress then
      (state.1.storeResult (newAndCompleteInboundGroupSession getE2eesPack info state.2), state.2)
    else state
  else match completeInboundGroupSessionByMemberId getE2eesPack state.2 info with
    | some completed => (state.1.storeGroupSession completed, completed)
    | none => state

/-- The handler branches on whether the bundle of the creator is already here. -/
def consumeCreateGroupMsg (device : Device β) (receiverAddress : E2eeAddress)
    (msg : CreateGroupMsg β) : GroupStore β :=
  if isValidAddress receiverAddress && isValidCreateGroupMsg getE2eesPack msg then
    match device.groups.loadGroupSessionByAddress msg.senderAddress receiverAddress
        msg.groupInfo.groupAddress with
    | none => msg.memberInfoList.foldl (fun groups info =>
        if info.memberAddress = receiverAddress then groups
        else groups.storeResult (newInboundGroupSessionByMemberId getE2eesPack msg.e2eesPackId
          receiverAddress info msg.groupInfo)) device.groups
    | some inbound =>
        if isValidGroupSessionByPreKeyBundle getE2eesPack inbound then
          let state := msg.memberInfoList.foldl
            (createGroupStep getE2eesPack receiverAddress msg.senderAddress)
            (device.groups, inbound)
          state.1.storeResult (newOutboundGroupSessionByReceiver getE2eesPack device.store
            state.2.groupSeed msg.e2eesPackId receiverAddress msg.groupInfo.groupName
            msg.groupInfo.groupAddress state.2.sessionId msg.groupInfo.groupMemberList)
        else device.groups
  else device.groups

/-- The handler completes every stored session of the group except the outbound one.
With no session stored, it keeps the seed for the message that lists the members. -/
def consumeGroupPreKeyBundle (device : Device β) (receiverAddress : E2eeAddress)
    (bundle : GroupPreKeyBundle β) : GroupStore β :=
  let groups := if bundle.oldSessionId ≠ ""
    then device.groups.unloadGroupSessionById receiverAddress bundle.oldSessionId
    else device.groups
  let loaded := groups.loadGroupSessions receiverAddress bundle.groupInfo.groupAddress
  if loaded.isEmpty then
    groups.storeResult (newInboundGroupSessionByPreKeyBundle getE2eesPack bundle.e2eesPackId
      receiverAddress bundle)
  else
    let completed := loaded.foldl (fun groups session =>
      if session.sender = receiverAddress then groups
      else groups.storeResult
        (completeInboundGroupSessionByPreKeyBundle getE2eesPack session bundle)) groups
    completed.storeResult (newOutboundGroupSessionByReceiver getE2eesPack device.store
      bundle.groupSeed bundle.e2eesPackId receiverAddress bundle.groupInfo.groupName
      bundle.groupInfo.groupAddress bundle.sessionId bundle.groupInfo.groupMemberList)

end Creation

section Addition

variable (getE2eesPack : Packs β)

/-- The session takes over the head of another session of the owner. -/
def newAndCompleteInboundGroupSessionWithChainKey (info : GroupMemberInfo β)
    (other : GroupSession β) (theirChainKey : Bytes β) : Option (GroupSession β) :=
  if isValidGroupMemberInfo info && isValidGroupSessionNoChainKey getE2eesPack other then
    (getE2eesPack other.e2eesPackId).map fun cipherSuite =>
      { insertInboundGroupSessionData info other with
        chainKey := theirChainKey
        associatedData := cipherSuite.groupAssociatedData info.signPublicKey }
  else none

/-- An existing member moves its chain on, and the chain of the adder is taken as it is. -/
def newAndCompleteInboundGroupSessionWithRatchetState (bundle : GroupUpdateKeyBundle β)
    (userAddress : E2eeAddress) : Option (GroupSession β) :=
  if isValidAddress userAddress && isValidGroupUpdateKeyBundle getE2eesPack bundle then
    (getE2eesPack bundle.e2eesPackId).map fun cipherSuite => {
      version := bundle.version
      e2eesPackId := bundle.e2eesPackId
      sessionId := bundle.sessionId
      sender := bundle.sender
      sessionOwner := userAddress
      groupInfo := bundle.groupInfo
      sequence := 0
      groupSeed := []
      chainKey := if bundle.adding = false
        then advanceGroupChainKeyByAdd cipherSuite bundle.chainKey bundle.chainKey
        else bundle.chainKey
      associatedData := cipherSuite.groupAssociatedData bundle.signPublicKey }
  else none

/-- This is the state of the loop over the added devices. -/
structure InvitedState (β : Type) where
  outbound : GroupSession β
  groups : GroupStore β
  senderChainKey : Bytes β

/-- The invited device keeps its own welcome key and stores sessions for the others.
The chain key of the adder changes in place inside the bundle. -/
def invitedStep (cipherSuite : CipherSuite β) (userAddress : E2eeAddress)
    (state : InvitedState β) (info : GroupMemberInfo β) : InvitedState β :=
  let theirs := advanceGroupChainKeyByWelcome cipherSuite state.senderChainKey
  let next := advanceGroupChainKeyByAdd cipherSuite theirs state.senderChainKey
  if info.memberAddress = userAddress then
    ⟨{ state.outbound with chainKey := theirs, sequence := 0 }, state.groups, next⟩
  else
    ⟨state.outbound, state.groups.storeResult (newAndCompleteInboundGroupSessionWithChainKey
      getE2eesPack info state.outbound theirs), next⟩

/-- The second component is the bundle as the call leaves it. -/
def newOutboundGroupSessionInvited (device : Device β) (bundle : GroupUpdateKeyBundle β)
    (userAddress : E2eeAddress) : Option (GroupStore β × GroupUpdateKeyBundle β) :=
  match getE2eesPack bundle.e2eesPackId, loadSignPublicKey device.store userAddress with
  | some cipherSuite, some identityPublicKey =>
      if isValidAddress userAddress && isValidGroupUpdateKeyBundle getE2eesPack bundle &&
          !bundle.addingMemberInfoList.isEmpty then
        let outbound : GroupSession β := {
          version := bundle.version
          e2eesPackId := bundle.e2eesPackId
          sessionId := bundle.sessionId
          sender := userAddress
          sessionOwner := userAddress
          groupInfo := bundle.groupInfo
          sequence := 0
          groupSeed := []
          chainKey := []
          associatedData := cipherSuite.groupAssociatedData identityPublicKey }
        let state := bundle.addingMemberInfoList.foldl
          (invitedStep getE2eesPack cipherSuite userAddress)
          ⟨outbound, device.groups, bundle.chainKey⟩
        some (state.groups.storeGroupSession state.outbound,
          { bundle with chainKey := state.senderChainKey })
      else none
  | _, _ => none

/-- The bundle of the adder first makes the outbound session. -/
def consumeGroupUpdateKeyBundle (device : Device β) (receiverAddress : E2eeAddress)
    (bundle : GroupUpdateKeyBundle β) : GroupStore β :=
  let invited := if bundle.adding
    then (newOutboundGroupSessionInvited getE2eesPack device bundle receiverAddress).getD
      (device.groups, bundle)
    else (device.groups, bundle)
  invited.1.storeResult
    (newAndCompleteInboundGroupSessionWithRatchetState getE2eesPack invited.2 receiverAddress)

def packGroupRatchetStatePlaintext (outbound : GroupSession β) (adding : Bool)
    (identityPublicKey : Bytes β) (addingMemberInfoList : List (GroupMemberInfo β)) :
    GroupUpdateKeyBundle β where
  version := outbound.version
  e2eesPackId := outbound.e2eesPackId
  sessionId := outbound.sessionId
  sender := outbound.sender
  adding := adding
  groupInfo := outbound.groupInfo
  sequence := outbound.sequence
  chainKey := outbound.chainKey
  signPublicKey := identityPublicKey
  addingMemberInfoList := addingMemberInfoList

def addGroupMembersToGroupInfo (oldGroupInfo : GroupInfo) (addingMemberList : List GroupMember) :
    GroupInfo :=
  { oldGroupInfo with groupMemberList := oldGroupInfo.groupMemberList ++ addingMemberList }

/-- The chain of the adder is replaced, and every other chain moves on by itself. -/
def renewInboundGroupSessionByWelcomeAndAdd (senderChainKey : Option (Bytes β))
    (inbound : GroupSession β) (newGroupInfo : GroupInfo) : Option (GroupSession β) :=
  if isValidGroupSession getE2eesPack inbound then
    (getE2eesPack inbound.e2eesPackId).map fun cipherSuite =>
      { inbound with
        groupInfo := newGroupInfo
        chainKey := senderChainKey.getD
          (advanceGroupChainKeyByAdd cipherSuite inbound.chainKey inbound.chainKey)
        sequence := 0 }
  else none

/-- Both ways of adding renew the stored inbound sessions of the group by this loop. -/
def renewInboundGroupSessions (groups : GroupStore β) (loaded : List (GroupSession β))
    (sessionOwner senderAddress : E2eeAddress) (senderChainKey : Option (Bytes β))
    (groupInfo : GroupInfo) : GroupStore β :=
  loaded.foldl (fun groups session =>
    if session.sender = sessionOwner then groups
    else groups.storeResult (renewInboundGroupSessionByWelcomeAndAdd getE2eesPack
      (if senderAddress = session.sender then senderChainKey else none) session groupInfo)) groups

/-- These are the keys after the step: of the added devices, of our chain, and of the adder.
Without a chain key of the adder, we are the adder. -/
def renewedKeys (cipherSuite : CipherSuite β) (outbound : GroupSession β)
    (senderChainKey : Option (Bytes β)) (infos : List (GroupMemberInfo β)) :
    List (Bytes β) × Bytes β × Option (Bytes β) :=
  match senderChainKey with
  | none =>
      let walked := welcomeAndAdd cipherSuite infos outbound.chainKey
      (walked.1, walked.2, none)
  | some chainKey =>
      let walked := welcomeAndAdd cipherSuite infos chainKey
      (walked.1, advanceGroupChainKeyByAdd cipherSuite outbound.chainKey outbound.chainKey,
        some walked.2)

/-- The bundle is packed with the old chain key, and then all chains move on. -/
def renewOutboundGroupSessionByWelcomeAndAdd (device : Device β) (outbound : GroupSession β)
    (senderChainKey : Option (Bytes β)) (senderAddress : E2eeAddress)
    (addingMemberInfoList : List (GroupMemberInfo β)) (addingGroupMembers : List GroupMember) :
    Option (GroupStore β × GroupUpdateKeyBundle β) :=
  match getE2eesPack outbound.e2eesPackId,
      loadSenderSignPublicKey device.store outbound.sessionOwner with
  | some cipherSuite, some identityPublicKey =>
      if !addingMemberInfoList.isEmpty && isValidGroupSession getE2eesPack outbound &&
          isValidAddress senderAddress && addingMemberInfoList.all isValidGroupMemberInfo &&
          addingGroupMembers.all isValidGroupMember then
        let current := { outbound with
          groupInfo := addGroupMembersToGroupInfo outbound.groupInfo addingGroupMembers }
        let bundle := packGroupRatchetStatePlaintext current senderChainKey.isNone
          identityPublicKey addingMemberInfoList
        let keys := renewedKeys cipherSuite outbound senderChainKey addingMemberInfoList
        let next := { current with chainKey := keys.2.1, sequence := 0 }
        let groups := device.groups.storeGroupSession next
        let renewed := renewInboundGroupSessions getE2eesPack groups
          (groups.loadGroupSessions next.sessionOwner next.groupInfo.groupAddress)
          next.sessionOwner senderAddress keys.2.2 next.groupInfo
        let extended := (addingMemberInfoList.zip keys.1).foldl (fun groups added =>
          groups.storeResult (newAndCompleteInboundGroupSessionWithChainKey getE2eesPack added.1
            next added.2)) renewed
        some (extended, bundle)
      else none
  | _, _ => none

/-- The members stay, and the new session is only stored beside other stored sessions. -/
def renewGroupSessionsWithNewDevice (device : Device β) (outbound : GroupSession β)
    (senderChainKey : Option (Bytes β)) (senderAddress newDeviceAddress : E2eeAddress)
    (addingMemberDeviceInfo : GroupMemberInfo β) :
    Option (GroupStore β × GroupUpdateKeyBundle β) :=
  match getE2eesPack outbound.e2eesPackId,
      loadSenderSignPublicKey device.store outbound.sessionOwner with
  | some cipherSuite, some identityPublicKey =>
      if isValidGroupSession getE2eesPack outbound && isValidAddress senderAddress &&
          isValidAddress newDeviceAddress && isValidGroupMemberInfo addingMemberDeviceInfo then
        let bundle := packGroupRatchetStatePlaintext outbound senderChainKey.isNone
          identityPublicKey [addingMemberDeviceInfo]
        let keys := renewedKeys cipherSuite outbound senderChainKey [addingMemberDeviceInfo]
        let next := { outbound with chainKey := keys.2.1, sequence := 0 }
        let groups := device.groups.storeGroupSession next
        let loaded := groups.loadGroupSessions next.sessionOwner next.groupInfo.groupAddress
        if loaded.isEmpty then some (groups, bundle)
        else
          let renewed := renewInboundGroupSessions getE2eesPack groups loaded next.sessionOwner
            senderAddress keys.2.2 next.groupInfo
          some (renewed.storeResult (newAndCompleteInboundGroupSessionWithChainKey getE2eesPack
            addingMemberDeviceInfo next (keys.1.headD [])), bundle)
      else none
  | _, _ => none

end Addition

end E2eeSecurity
