/-
This file sends the bundles of a group to its members over their one-to-one sessions, and gives the
calls that create, change and leave a group with all that they leave behind.
-/
import E2eeSecurity.Client.Copy
import E2eeSecurity.Client.Devices
import E2eeSecurity.Client.Outbox
import E2eeSecurity.Group.Members
import E2eeSecurity.Group.Outbound

namespace E2eeSecurity

variable {β : Type}

section Delivery

/-- This is what the loop over the members meets with one of them. -/
structure MemberReply (β : Type) where
  steps : Nat → SyncStep
  bundles : BundleReply β

/-- This is what a call on a group leaves behind: whether it succeeds, the client, and the record of
the bundles that were tried. -/
structure GroupOutcome (β : Type) where
  succeeded : Bool
  client : Client β
  attempts : List (PlaintextAttempt β)

variable (platform : Platform β)

def isSessionOwner (sessionOwner : E2eeAddress) (session : Session β) : Bool :=
  compareAddress session.theirAddress sessionOwner

/-- Without any session with the user, all its devices are asked for. -/
def sendToMember (sessionOwner : E2eeAddress) (auth : String) (data : Bytes β)
    (reply : MemberReply β) (client : Client β) (member : GroupMember) : SessionVisits β :=
  let sessions := outboundSessions platform client sessionOwner member.userId member.domain
  if sessions.isEmpty then
    ⟨(getPreKeyBundleInternal platform reply.bundles client sessionOwner auth
      ⟨member.domain, member.userId, ""⟩ true (some data)).2, [], false⟩
  else visitSessions platform.getE2eesPack (isSessionOwner sessionOwner) data reply.steps sessions
    client

/-- The sessions of a member are loaded when its turn comes. -/
def sendToMembers (sessionOwner : E2eeAddress) (auth : String) (data : Bytes β) :
    (Nat → MemberReply β) → List GroupMember → Client β → SessionVisits β
  | _, [], client => ⟨client, [], false⟩
  | replies, member :: rest, client =>
      let sent := sendToMember platform sessionOwner auth data (replies 0) client member
      let later := sendToMembers sessionOwner auth data (fun index => replies (index + 1)) rest
        sent.client
      ⟨later.client, sent.attempts ++ later.attempts, sent.accepted || later.accepted⟩

/-- The bundle goes to the members, and the sessions of the group are stored. -/
def Client.deliverBundle (client : Client β) (sessionOwner : E2eeAddress) (data : Bytes β)
    (replies : Nat → MemberReply β) (members : List GroupMember) (groups : GroupStore β) :
    GroupOutcome β :=
  let sent := sendToMembers platform sessionOwner (loadSenderAuth client.store sessionOwner) data
    replies members client
  ⟨true, { sent.client with groups := groups }, sent.attempts⟩

end Delivery

section Messages

/-- No group address is known yet. -/
structure CreateGroupRequest where
  e2eesPackId : UInt32
  senderAddress : E2eeAddress
  groupName : String
  groupMemberList : List GroupMember
  deriving DecidableEq

/-- The member list is the array that the removal leaves. -/
structure RemoveGroupMembersRequest where
  e2eesPackId : UInt32
  senderAddress : E2eeAddress
  groupInfo : GroupInfoSlots
  removingMemberList : List GroupMember

def isValidCreateGroupInputs (senderAddress : E2eeAddress) (groupName : String)
    (groupMembers : List GroupMember) : Bool :=
  isValidAddress senderAddress && isValidString groupName && !groupMembers.isEmpty &&
    groupMembers.all isValidGroupMember

/-- Adding and removing members check the same inputs. -/
def isValidChangeInputs (senderAddress groupAddress : E2eeAddress) (members : List GroupMember) :
    Bool :=
  isValidAddress senderAddress && isValidAddress groupAddress && !members.isEmpty &&
    members.all isValidGroupMember

end Messages

section Creating

/-- This is what a new outbound session draws, and what its bundle meets on the way. -/
structure OutboundGroupDraw (β : Type) extends GroupDraw β where
  replies : Nat → MemberReply β

variable (platform : Platform β) (packPlaintext : Plaintext β → Bytes β)

def Client.consumeCreateGroupResponse (client : Client β) (draw : OutboundGroupDraw β)
    (e2eesPackId : UInt32) (senderAddress : E2eeAddress) (groupName : String)
    (groupMemberList : List GroupMember) (response : CreateGroupResponse β) : GroupOutcome β :=
  match E2eeSecurity.consumeCreateGroupResponse platform.getE2eesPack client.toDevice e2eesPackId
      senderAddress groupName groupMemberList response draw.sessionId draw.groupSeed with
  | some (groups, bundle) => client.deliverBundle platform senderAddress
      (packPlaintext (.groupPreKeyBundle bundle)) draw.replies groupMemberList groups
  | none => ⟨false, client, []⟩

/-- A refused request is not kept. -/
def Client.createGroup (client : Client β)
    (respond : CreateGroupRequest → Option (CreateGroupResponse β)) (draw : OutboundGroupDraw β)
    (senderAddress : E2eeAddress) (groupName : String) (groupMembers : List GroupMember) :
    GroupOutcome β :=
  if isValidCreateGroupInputs senderAddress groupName groupMembers then
    match (client.store.account senderAddress).filter fun account =>
        isValidE2eesPackId platform.getE2eesPack account.e2eesPackId &&
          isValidString account.auth with
    | some account =>
        match (respond ⟨account.e2eesPackId, senderAddress, groupName, groupMembers⟩).filter
            isValidCreateGroupResponse with
        | some response => client.consumeCreateGroupResponse platform packPlaintext draw
            account.e2eesPackId senderAddress groupName groupMembers response
        | none => ⟨false, client, []⟩
    | none => ⟨false, client, []⟩
  else ⟨false, client, []⟩

end Creating

section Adding

variable (platform : Platform β)

def Client.consumeAddGroupMembersResponse (client : Client β) (replies : Nat → MemberReply β)
    (outbound : GroupSession β) (response : AddGroupMembersResponse β) : GroupOutcome β :=
  match E2eeSecurity.consumeAddGroupMembersResponse platform.getE2eesPack client.toDevice outbound
      response with
  | some (groups, bundle) => client.deliverBundle platform outbound.sessionOwner
      (platform.packGroupUpdateKeyBundle bundle) replies response.addedGroupMemberList groups
  | none => ⟨false, client, []⟩

/-- The server fills in the devices of the new members. -/
def Client.addGroupMembers (client : Client β)
    (respond : AddGroupMembersMsg β → Option (AddGroupMembersResponse β))
    (replies : Nat → MemberReply β) (senderAddress groupAddress : E2eeAddress)
    (addingMembers : List GroupMember) : GroupOutcome β :=
  if isValidChangeInputs senderAddress groupAddress addingMembers &&
      isValidString (client.store.auth senderAddress) then
    match loadOutboundGroupSession platform.getE2eesPack client.groups senderAddress
        groupAddress with
    | some outbound =>
        match (respond (produceAddGroupMembersRequest outbound senderAddress addingMembers
            [])).filter isValidAddGroupMembersResponse with
        | some response => client.consumeAddGroupMembersResponse platform replies outbound response
        | none => ⟨false, client, []⟩
    | none => ⟨false, client, []⟩
  else ⟨false, client, []⟩

/-- The outbound session is one of the receiver, so the bundle goes out in its name. -/
def Client.consumeAddGroupMembersMsg (client : Client β) (replies : Nat → MemberReply β)
    (receiverAddress : E2eeAddress) (msg : AddGroupMembersMsg β) : Client β :=
  match E2eeSecurity.consumeAddGroupMembersMsg platform.getE2eesPack client.toDevice
      receiverAddress msg with
  | (groups, some bundle) => (client.deliverBundle platform receiverAddress
      (platform.packGroupUpdateKeyBundle bundle) replies msg.addingMemberList groups).client
  | (_, none) => client

def Client.consumeAddGroupMemberDeviceMsg (client : Client β) (delivery : BundleDelivery β)
    (receiverAddress : E2eeAddress) (msg : AddGroupMemberDeviceMsg β) : Client β :=
  match E2eeSecurity.consumeAddGroupMemberDeviceMsg platform.getE2eesPack client.toDevice
      receiverAddress msg with
  | (groups, some bundle) =>
      { sendGroupUpdateKeyBundle platform delivery client receiverAddress
          msg.addingMemberDevice.memberAddress bundle with groups := groups }
  | (_, none) => client

end Adding

section Removing

variable (platform : Platform β) (packPlaintext : Plaintext β → Bytes β)

/-- The old sessions stay dropped when no new outbound session is made. -/
def Client.consumeRemoveGroupMembersResponse (client : Client β) (draw : OutboundGroupDraw β)
    (outbound : GroupSession β) (response : RemoveGroupMembersResponse β) : GroupOutcome β :=
  match E2eeSecurity.consumeRemoveGroupMembersResponse platform.getE2eesPack client.toDevice
      outbound response draw.sessionId draw.groupSeed with
  | (_, groups, some bundle) => client.deliverBundle platform outbound.sessionOwner
      (packPlaintext (.groupPreKeyBundle bundle)) draw.replies response.groupMemberList groups
  | (succeeded, groups, none) => ⟨succeeded, { client with groups := groups }, []⟩

def produceRemoveGroupMembersRequest (outbound : GroupSession β) (senderAddress : E2eeAddress)
    (removingMembers : List GroupMember) : Option RemoveGroupMembersRequest :=
  (removeGroupMembersFromGroupInfo outbound.groupInfo removingMembers).map fun groupInfo =>
    ⟨outbound.e2eesPackId, senderAddress, groupInfo, removingMembers⟩

/-- No result stands for a write behind the array of the request. -/
def Client.removeGroupMembers (client : Client β)
    (respond : RemoveGroupMembersRequest → Option (RemoveGroupMembersResponse β))
    (draw : OutboundGroupDraw β) (senderAddress groupAddress : E2eeAddress)
    (removingMembers : List GroupMember) : Option (GroupOutcome β) :=
  if isValidChangeInputs senderAddress groupAddress removingMembers &&
      isValidString (client.store.auth senderAddress) then
    match loadOutboundGroupSession platform.getE2eesPack client.groups senderAddress
        groupAddress with
    | some outbound =>
        (produceRemoveGroupMembersRequest outbound senderAddress removingMembers).map fun request =>
          match (respond request).filter isValidRemoveGroupMembersResponse with
          | some response => client.consumeRemoveGroupMembersResponse platform packPlaintext draw
              outbound response
          | none => ⟨false, client, []⟩
    | none => some ⟨false, client, []⟩
  else some ⟨false, client, []⟩

/-- The sessions of the group that the answer names are dropped. -/
def Client.leaveGroup (client : Client β) (respond : LeaveGroupMsg → Option LeaveGroupResponse)
    (senderAddress groupAddress : E2eeAddress) : Bool × Client β :=
  if isValidAddress senderAddress && isValidAddress groupAddress &&
      isValidString (client.store.auth senderAddress) then
    match (respond ⟨senderAddress, groupAddress⟩).filter isValidLeaveGroupResponse with
    | some response =>
        (true, { client with
          groups := consumeLeaveGroupResponse client.groups senderAddress response })
    | none => (false, client)
  else (false, client)

def isValidLeaveGroupMsg (msg : LeaveGroupMsg) : Bool :=
  isValidAddress msg.userAddress && isValidAddress msg.groupAddress

/-- The user that leaves is removed under the role of a plain member, whatever its role is. -/
def leavingMember (msg : LeaveGroupMsg) : GroupMember :=
  ⟨msg.userAddress.userId.getD "", msg.userAddress.domain, .member⟩

/-- The receiver removes the user from the group. -/
def Client.consumeLeaveGroupMsg (client : Client β)
    (respond : RemoveGroupMembersRequest → Option (RemoveGroupMembersResponse β))
    (draw : OutboundGroupDraw β) (receiverAddress : E2eeAddress) (msg : LeaveGroupMsg) :
    Option (Client β) :=
  if isValidAddress receiverAddress && isValidLeaveGroupMsg msg then
    (client.removeGroupMembers platform packPlaintext respond draw receiverAddress
      msg.groupAddress [leavingMember msg]).map GroupOutcome.client
  else some client

end Removing

end E2eeSecurity
