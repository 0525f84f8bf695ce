/-
This file puts the handlers of all messages together, and runs one client with all its accounts
through messages and calls in any order.
-/
import E2eeSecurity.Client.Groups
import E2eeSecurity.Client.UserDevices
import E2eeSecurity.Session.OneTimeKeys

namespace E2eeSecurity

variable {β : Type}

section Handlers

/-- New one-time pre-keys are made for the account that the receiver has in the database.
Only a failure leaves the message unconsumed. -/
def consumeSupplyOpksMsg (getE2eesPack : Packs β) (nextOneTimePreKeyId : UInt32)
    (coins : Nat → Bytes β) (response : Option ResponseCode) (client : Client β)
    (receiverAddress : E2eeAddress) (msg : SupplyOpksMsg) : Bool × Client β :=
  if isValidAddress receiverAddress && isValidAddress msg.userAddress &&
      compareAddress receiverAddress msg.userAddress then
    match client.store.account receiverAddress with
    | some account =>
        let supplied := supplyOpksInternal getE2eesPack account nextOneTimePreKeyId msg.opksNum
          coins response
        (supplied.1,
          { client with store := client.store.addOneTimePreKeys receiverAddress supplied.2 })
    | none => (false, client)
  else (true, client)

/-- The sessions with the removed device are dropped. -/
def consumeRemoveUserDeviceMsg (client : Client β) (receiverAddress : E2eeAddress)
    (msg : RemoveUserDeviceMsg) : Client β :=
  if isValidAddress receiverAddress && isValidAddress msg.userAddress then
    { client with store := client.store.unloadSession receiverAddress msg.userAddress }
  else client

/-- This is what the server, the database and the random source answer while one message is
handled. -/
structure Answers (β : Type) where
  nextOneTimePreKeyId : UInt32
  opkCoins : Nat → Bytes β
  supply : Option ResponseCode
  loadGroupAddresses : E2eeAddress → E2eeAddress → List E2eeAddress
  addDevices : Nat → AddDeviceReply β
  accept : AcceptMsg β → Option AcceptResponse
  inboundCoins : InboundCoins β
  attempts : Nat → SendAttempt
  ratchetCoins : Bytes β
  bundles : Nat → BundleReply β
  members : Nat → MemberReply β
  delivery : BundleDelivery β
  removal : RemoveGroupMembersRequest → Option (RemoveGroupMembersResponse β)
  draw : OutboundGroupDraw β
  consumed : String → Option ConsumeProtoMsgResponse

/-- The generated code packs and unpacks messages and plaintexts. -/
structure Packing (β : Type) where
  packPlaintext : Plaintext β → Bytes β
  unpackPlaintext : Bytes β → Option (Plaintext β)
  unpackProtoMsg : Bytes β → Option (ProtoMsg β)

variable [DecidableEq β] (platform : Platform β) (packing : Packing β)

/-- A leave message whose request cannot be built is set apart by `stepClient`. -/
def clientHandlers (answers : Answers β) : ProtoMsgHandlers β where
  consumeSupplyOpksMsg receiver msg client := consumeSupplyOpksMsg platform.getE2eesPack
    answers.nextOneTimePreKeyId answers.opkCoins answers.supply client receiver msg
  consumeAddUserDeviceMsg receiver msg client :=
    let outcome := consumeAddUserDeviceMsg platform answers.loadGroupAddresses answers.addDevices
      client receiver msg
    (outcome.consumed, outcome.client)
  consumeRemoveUserDeviceMsg receiver msg client :=
    (true, consumeRemoveUserDeviceMsg client receiver msg)
  consumeInviteMsg receiver msg client :=
    (true, { client with
      store := consumeInviteMsg platform.getE2eesPack answers.accept client.store receiver msg
        answers.inboundCoins })
  consumeAcceptMsg receiver msg client :=
    (true, consumeAcceptMsg platform.getE2eesPack answers.attempts client receiver msg
      answers.ratchetCoins)
  consumeOne2oneMsg receiver msg client :=
    (true, (consumeOne2oneMsg platform packing.unpackPlaintext answers.bundles
      answers.ratchetCoins client receiver msg).1)
  consumeGroupMsg receiver msg client :=
    (true, { client with
      groups := (consumeGroupMsg platform.getE2eesPack client.groups receiver msg).1 })
  consumeCreateGroupMsg receiver msg client :=
    (true, { client with
      groups := consumeCreateGroupMsg platform.getE2eesPack client.toDevice receiver msg })
  consumeAddGroupMembersMsg receiver msg client :=
    (true, client.consumeAddGroupMembersMsg platform answers.members receiver msg)
  consumeAddGroupMemberDeviceMsg receiver msg client :=
    (true, client.consumeAddGroupMemberDeviceMsg platform answers.delivery receiver msg)
  consumeRemoveGroupMembersMsg receiver msg client :=
    (true, { client with
      groups := consumeRemoveGroupMembersMsg platform.getE2eesPack client.toDevice receiver msg })
  consumeLeaveGroupMsg receiver msg client :=
    (true, (client.consumeLeaveGroupMsg platform packing.packPlaintext answers.removal answers.draw
      receiver msg).getD client)

end Handlers

section Runs

/-- All devices of the user are asked for. -/
def Client.invite (client : Client β) (platform : Platform β) (reply : BundleReply β)
    (fromAddress : E2eeAddress) (toUserId toDomain : String) : Bool × Client β :=
  let auth := client.store.auth fromAddress
  if isValidAddress fromAddress && isValidString auth && isValidString toUserId &&
      isValidString toDomain then
    getPreKeyBundleInternal platform reply client fromAddress auth ⟨toDomain, toUserId, ""⟩ true
      none
  else (false, client)

/-- These are the ways in which a client is used after its accounts are registered. -/
inductive ClientEvent (β : Type)
  | message (answers : Answers β) (data : Bytes β)
  | invite (reply : BundleReply β) (fromAddress : E2eeAddress) (toUserId toDomain : String)
  | sendOne2oneMsg (call : SendCall β)
  | createGroup (respond : CreateGroupRequest → Option (CreateGroupResponse β))
      (draw : OutboundGroupDraw β) (senderAddress : E2eeAddress) (groupName : String)
      (groupMembers : List GroupMember)
  | addGroupMembers (respond : AddGroupMembersMsg β → Option (AddGroupMembersResponse β))
      (replies : Nat → MemberReply β) (senderAddress groupAddress : E2eeAddress)
      (addingMembers : List GroupMember)
  | removeGroupMembers
      (respond : RemoveGroupMembersRequest → Option (RemoveGroupMembersResponse β))
      (draw : OutboundGroupDraw β) (senderAddress groupAddress : E2eeAddress)
      (removingMembers : List GroupMember)
  | leaveGroup (respond : LeaveGroupMsg → Option LeaveGroupResponse)
      (senderAddress groupAddress : E2eeAddress)
  | sendGroupMsg (params : SendGroupMsgParams) (plaintext : Bytes β) (draw : SignatureDraw β)
      (response : Option SendGroupMsgResponse)
  | resendPendingRequest (replies : Nat → ResendReply β) (userAddress : E2eeAddress)

/-- This is the address of the account for which the client is used. -/
def ClientEvent.address (packing : Packing β) : ClientEvent β → Option E2eeAddress
  | .message _ data => (packing.unpackProtoMsg data).map ProtoMsg.toAddress
  | .invite _ fromAddress _ _ => some fromAddress
  | .sendOne2oneMsg call => some call.fromAddress
  | .createGroup _ _ senderAddress _ _ => some senderAddress
  | .addGroupMembers _ _ senderAddress _ _ => some senderAddress
  | .removeGroupMembers _ _ senderAddress _ _ => some senderAddress
  | .leaveGroup _ senderAddress _ => some senderAddress
  | .sendGroupMsg params _ _ _ => some params.senderAddress
  | .resendPendingRequest _ userAddress => some userAddress

variable [DecidableEq β] (platform : Platform β) (packing : Packing β)

/-- The request that a leave message sets off writes behind its array. -/
def leaveOverruns (answers : Answers β) (client : Client β) (msg : ProtoMsg β) : Bool :=
  match msg.payload with
  | .leaveGroupMsg leave => (client.consumeLeaveGroupMsg platform packing.packPlaintext
      answers.removal answers.draw msg.toAddress leave).isNone
  | _ => false

def Client.processMessage (client : Client β) (answers : Answers β) (data : Bytes β) :
    Option (Client β) :=
  if (packing.unpackProtoMsg data).any fun msg =>
      acceptsProtoMsg platform.getDsSuite client msg &&
        leaveOverruns platform packing answers client msg then none
  else some (processProtoMsg platform (clientHandlers platform packing answers) answers.consumed
    packing.unpackProtoMsg client data).client

/-- No result stands for a write behind an array, after which nothing is known. -/
def stepClient (client : Client β) : ClientEvent β → Option (Client β)
  | .message answers data => client.processMessage platform packing answers data
  | .invite reply fromAddress toUserId toDomain =>
      some (client.invite platform reply fromAddress toUserId toDomain).2
  | .sendOne2oneMsg call => some (sendOne2oneMsg platform packing.packPlaintext client call).2.1
  | .createGroup respond draw senderAddress groupName groupMembers =>
      some (client.createGroup platform packing.packPlaintext respond draw senderAddress groupName
        groupMembers).client
  | .addGroupMembers respond replies senderAddress groupAddress addingMembers =>
      some (client.addGroupMembers platform respond replies senderAddress groupAddress
        addingMembers).client
  | .removeGroupMembers respond draw senderAddress groupAddress removingMembers =>
      (client.removeGroupMembers platform packing.packPlaintext respond draw senderAddress
        groupAddress removingMembers).map GroupOutcome.client
  | .leaveGroup respond senderAddress groupAddress =>
      some (client.leaveGroup respond senderAddress groupAddress).2
  | .sendGroupMsg params plaintext draw response =>
      some { client with
        groups := (sendGroupMsgWithFilter platform.getE2eesPack client.toDevice params plaintext
          draw response).2 }
  | .resendPendingRequest replies userAddress =>
      some (resendPendingRequest platform replies client userAddress).1

def runClient (client : Client β) (events : List (ClientEvent β)) : Option (Client β) :=
  events.foldlM (stepClient platform packing) client

end Runs

end E2eeSecurity
