/-
This file gives the membership messages of a group with their handlers, and the calls of the member
that adds others.
-/
import E2eeSecurity.Group.Messages

namespace E2eeSecurity

structure AddGroupMembersMsg (β : Type) where
  e2eesPackId : UInt32
  senderAddress : E2eeAddress
  sequence : UInt32
  groupInfo : GroupInfo
  addingMemberList : List GroupMember
  addingMemberInfoList : List (GroupMemberInfo β)
  deriving DecidableEq

structure RemoveGroupMembersMsg (β : Type) where
  e2eesPackId : UInt32
  senderAddress : E2eeAddress
  groupInfo : GroupInfo
  removingMemberList : List GroupMember
  memberInfoList : List (GroupMemberInfo β)
  deriving DecidableEq

structure AddGroupMembersResponse (β : Type) where
  code : ResponseCode
  addedGroupMemberList : List GroupMember
  groupMemberList : List GroupMember
  addingMemberInfoList : List (GroupMemberInfo β)
  deriving DecidableEq

structure AddGroupMemberDeviceResponse (β : Type) where
  code : ResponseCode
  groupMemberList : List GroupMember
  addingMemberDeviceInfo : GroupMemberInfo β
  deriving DecidableEq

variable {β : Type}

section Validation

variable (getE2eesPack : Packs β)

def isValidAddGroupMembersMsg (msg : AddGroupMembersMsg β) : Bool :=
  isValidE2eesPackId getE2eesPack msg.e2eesPackId && isValidAddress msg.senderAddress &&
    isValidGroupInfo msg.groupInfo && msg.addingMemberList.all isValidGroupMember &&
    msg.addingMemberInfoList.all isValidGroupMemberInfo

def isValidAddGroupMemberDeviceMsg (msg : AddGroupMemberDeviceMsg β) : Bool :=
  isValidE2eesPackId getE2eesPack msg.e2eesPackId && isValidAddress msg.senderAddress &&
    isValidGroupInfo msg.groupInfo && isValidGroupMemberInfo msg.addingMemberDevice

def isValidRemoveGroupMembersMsg (msg : RemoveGroupMembersMsg β) : Bool :=
  isValidE2eesPackId getE2eesPack msg.e2eesPackId && isValidAddress msg.senderAddress &&
    isValidGroupInfo msg.groupInfo && msg.removingMemberList.all isValidGroupMember &&
    msg.memberInfoList.all isValidGroupMemberInfo

def isValidAddGroupMembersResponse (response : AddGroupMembersResponse β) : Bool :=
  response.code == .ok && response.addedGroupMemberList.all isValidGroupMember &&
    response.groupMemberList.all isValidGroupMember &&
    response.addingMemberInfoList.all isValidGroupMemberInfo

def isValidAddGroupMemberDeviceResponse (response : AddGroupMemberDeviceResponse β) : Bool :=
  response.code == .ok && response.groupMemberList.all isValidGroupMember &&
    isValidGroupMemberInfo response.addingMemberDeviceInfo

end Validation

section Adding

variable (getE2eesPack : Packs β)

/-- Both ways of adding load the outbound session of the receiver and the chain of the adder.
The chain is moved up to the sequence number of the message. -/
def loadAddingSessions (groups : GroupStore β)
    (receiverAddress senderAddress groupAddress : E2eeAddress) (sequence : UInt32) :
    Option (GroupSession β × GroupSession β) :=
  (loadOutboundGroupSession getE2eesPack groups receiverAddress groupAddress).bind fun outbound =>
    (loadInboundGroupSession getE2eesPack groups senderAddress receiverAddress
      outbound.sessionId).bind fun inbound =>
        (getE2eesPack inbound.e2eesPackId).map fun cipherSuite =>
          (outbound, inbound.catchUp cipherSuite sequence)

/-- A device without an outbound session ignores the message.
The result is the stored sessions and the bundle for the new devices. -/
def consumeAddGroupMembersMsg (device : Device β) (receiverAddress : E2eeAddress)
    (msg : AddGroupMembersMsg β) : GroupStore β × Option (GroupUpdateKeyBundle β) :=
  let renewed :=
    if isValidAddress receiverAddress && isValidAddGroupMembersMsg getE2eesPack msg then
      (loadAddingSessions getE2eesPack device.groups receiverAddress msg.senderAddress
        msg.groupInfo.groupAddress msg.sequence).bind fun sessions =>
          renewOutboundGroupSessionByWelcomeAndAdd getE2eesPack device sessions.1
            (some sessions.2.chainKey) msg.senderAddress msg.addingMemberInfoList
            msg.addingMemberList
    else none
  match renewed with
  | some (groups, bundle) => (groups, some bundle)
  | none => (device.groups, none)

def consumeAddGroupMemberDeviceMsg (device : Device β) (receiverAddress : E2eeAddress)
    (msg : AddGroupMemberDeviceMsg β) : GroupStore β × Option (GroupUpdateKeyBundle β) :=
  let renewed :=
    if isValidAddress receiverAddress && isValidAddGroupMemberDeviceMsg getE2eesPack msg then
      (loadAddingSessions getE2eesPack device.groups receiverAddress msg.senderAddress
        msg.groupInfo.groupAddress msg.sequence).bind fun sessions =>
          renewGroupSessionsWithNewDevice getE2eesPack device sessions.1
            (some sessions.2.chainKey) msg.senderAddress msg.addingMemberDevice.memberAddress
            msg.addingMemberDevice
    else none
  match renewed with
  | some (groups, bundle) => (groups, some bundle)
  | none => (device.groups, none)

/-- The request tells the others how far the chain of the adder is. -/
def produceAddGroupMembersRequest (outbound : GroupSession β) (senderAddress : E2eeAddress)
    (addingMembers : List GroupMember) (addingMemberInfoList : List (GroupMemberInfo β)) :
    AddGroupMembersMsg β where
  e2eesPackId := outbound.e2eesPackId
  senderAddress := senderAddress
  sequence := outbound.sequence
  groupInfo := addGroupMembersToGroupInfo outbound.groupInfo addingMembers
  addingMemberList := addingMembers
  addingMemberInfoList := addingMemberInfoList

def consumeAddGroupMembersResponse (device : Device β) (outbound : GroupSession β)
    (response : AddGroupMembersResponse β) :
    Option (GroupStore β × GroupUpdateKeyBundle β) :=
  if isValidGroupSession getE2eesPack outbound && isValidAddGroupMembersResponse response then
    renewOutboundGroupSessionByWelcomeAndAdd getE2eesPack device outbound none
      outbound.sessionOwner response.addingMemberInfoList response.addedGroupMemberList
  else none

def consumeAddGroupMemberDeviceResponse (device : Device β) (outbound : GroupSession β)
    (response : AddGroupMemberDeviceResponse β) :
    Option (GroupStore β × GroupUpdateKeyBundle β) :=
  if isValidGroupSession getE2eesPack outbound && isValidAddGroupMemberDeviceResponse response then
    renewGroupSessionsWithNewDevice getE2eesPack device outbound none outbound.sessionOwner
      response.addingMemberDeviceInfo.memberAddress response.addingMemberDeviceInfo
  else none

/-- The server fills in the devices of the new members and passes the request on as a message. -/
def addGroupMembers (device : Device β) (senderAddress groupAddress : E2eeAddress)
    (addingMembers : List GroupMember) (response : AddGroupMembersResponse β) :
    Option (AddGroupMembersMsg β × GroupStore β × GroupUpdateKeyBundle β) :=
  if isValidAddress senderAddress && isValidAddress groupAddress && !addingMembers.isEmpty &&
      addingMembers.all isValidGroupMember && isValidString (device.store.auth senderAddress) then
    (loadOutboundGroupSession getE2eesPack device.groups senderAddress groupAddress).bind
      fun outbound =>
        (consumeAddGroupMembersResponse getE2eesPack device outbound response).map fun renewed =>
          (produceAddGroupMembersRequest outbound senderAddress addingMembers
            response.addingMemberInfoList, renewed)
  else none

def produceAddGroupMemberDeviceRequest (outbound : GroupSession β) (senderAddress : E2eeAddress)
    (addingMemberDevice : GroupMemberInfo β) : AddGroupMemberDeviceMsg β where
  e2eesPackId := outbound.e2eesPackId
  senderAddress := senderAddress
  sequence := outbound.sequence
  groupInfo := outbound.groupInfo
  addingMemberDevice := addingMemberDevice

/-- The server adds the signature key of the new device. -/
def addGroupMemberDeviceInternal (device : Device β)
    (senderAddress groupAddress newDeviceAddress : E2eeAddress)
    (response : AddGroupMemberDeviceResponse β) :
    Option (AddGroupMemberDeviceMsg β × GroupStore β × GroupUpdateKeyBundle β) :=
  if isValidAddress senderAddress && isValidAddress groupAddress &&
      isValidAddress newDeviceAddress && isValidString (device.store.auth senderAddress) then
    (loadOutboundGroupSession getE2eesPack device.groups senderAddress groupAddress).bind
      fun outbound =>
        (consumeAddGroupMemberDeviceResponse getE2eesPack device outbound response).map
          fun renewed => (produceAddGroupMemberDeviceRequest outbound senderAddress
            response.addingMemberDeviceInfo, renewed)
  else none

end Adding

section Removing

def GroupStore.unloadGroupSessionByAddress (groups : GroupStore β)
    (sessionOwner groupAddress : E2eeAddress) : GroupStore β :=
  groups.restrict fun session => !decide (session.sessionOwner = sessionOwner ∧
    session.groupInfo.groupAddress = groupAddress)

/-- The loop looks at the match of a member only when it reaches the next one. -/
def compareMembersFrom (others : List GroupMember) : Bool → List GroupMember → Bool
  | _, [] => true
  | matched, member :: rest =>
      matched && compareMembersFrom others (others.any fun other =>
        member.userId = other.userId ∧ member.domain = other.domain) rest

def compareGroupMember (members others : List GroupMember) : Bool :=
  members.length == others.length && compareMembersFrom others true members

def isSameUser (address : E2eeAddress) (member : GroupMember) : Bool :=
  match address.peer with
  | .user userId _ => userId = member.userId ∧ address.domain = member.domain
  | .group _ => false

variable (getE2eesPack : Packs β)

/-- These are the sessions for the other listed devices, without keys. -/
def newInboundGroupSessionsByMemberId (groups : GroupStore β) (receiverAddress : E2eeAddress)
    (msg : RemoveGroupMembersMsg β) : GroupStore β :=
  msg.memberInfoList.foldl (fun groups info =>
    if info.memberAddress = receiverAddress then groups
    else groups.storeResult (newInboundGroupSessionByMemberId getE2eesPack msg.e2eesPackId
      receiverAddress info msg.groupInfo)) groups

/-- The members that stay drop the old sessions, unless the stored session of the sender already has
the new members. -/
def consumeRemoveGroupMembersMsg (device : Device β) (receiverAddress : E2eeAddress)
    (msg : RemoveGroupMembersMsg β) : GroupStore β :=
  if isValidAddress receiverAddress && isValidRemoveGroupMembersMsg getE2eesPack msg then
    if msg.removingMemberList.any (isSameUser receiverAddress) then
      device.groups.unloadGroupSessionByAddress receiverAddress msg.groupInfo.groupAddress
    else
      match (device.groups.loadGroupSessionByAddress msg.senderAddress receiverAddress
          msg.groupInfo.groupAddress).filter (isValidGroupSession getE2eesPack) with
      | none => newInboundGroupSessionsByMemberId getE2eesPack device.groups receiverAddress msg
      | some inbound =>
          if compareGroupMember inbound.groupInfo.groupMemberList
              msg.groupInfo.groupMemberList then
            let state := msg.memberInfoList.foldl
              (createGroupStep getE2eesPack receiverAddress msg.senderAddress)
              (device.groups, inbound)
            state.1.storeResult (newOutboundGroupSessionByReceiver getE2eesPack device.store
              state.2.groupSeed msg.e2eesPackId receiverAddress msg.groupInfo.groupName
              msg.groupInfo.groupAddress state.2.sessionId msg.groupInfo.groupMemberList)
          else newInboundGroupSessionsByMemberId getE2eesPack
            (device.groups.unloadGroupSessionById receiverAddress inbound.sessionId)
            receiverAddress msg
  else device.groups

end Removing

end E2eeSecurity
