/-
This file gives the call that adds a new device to a group, with the queue that keeps its request,
and the loop that sends the requests of the queue again.
-/
import E2eeSecurity.Client.Signed

namespace E2eeSecurity

variable {β : Type}

section Delivery

/-- This is what the bundle for a new device meets on its way. -/
structure BundleDelivery (β : Type) where
  attempt : SendAttempt
  pendingPlaintextId : String
  reply : BundleReply β

/-- The authorisation comes from the account, unless its identity key is cached. -/
def loadSenderAuth (store : Store β) (address : E2eeAddress) : String :=
  match store.cachedIdentityKey address with
  | some _ => store.auth address
  | none => ((store.account address).map fun account => account.auth).getD ""

/-- Without an answered session the bundle waits, and without a session one is started. -/
def sendGroupUpdateKeyBundle (platform : Platform β) (delivery : BundleDelivery β)
    (client : Client β) (sessionOwner newDeviceAddress : E2eeAddress)
    (bundle : GroupUpdateKeyBundle β) : Client β :=
  let data := platform.packGroupUpdateKeyBundle bundle
  match platform.loadOutboundSession client.store.sessions sessionOwner newDeviceAddress with
  | some session =>
      if session.responded then
        { client with
          store := (sendOne2oneMsgInternal platform.getE2eesPack delivery.attempt client.store
            session data).store }
      else client.storePendingPlaintextData session.ourAddress session.theirAddress
        ⟨delivery.pendingPlaintextId, data⟩
  | none =>
      (getPreKeyBundleInternal platform delivery.reply client sessionOwner
        (loadSenderAuth client.store sessionOwner)
        ⟨newDeviceAddress.domain, newDeviceAddress.userId.getD "",
          newDeviceAddress.deviceId.getD ""⟩ false (some data)).2

end Delivery

section Adding

/-- The bundle goes out, and the sessions of the group are renewed. -/
def Client.consumeAddGroupMemberDeviceResponse (client : Client β) (platform : Platform β)
    (delivery : BundleDelivery β) (outbound : Option (GroupSession β))
    (response : AddGroupMemberDeviceResponse β) : Client β :=
  match outbound.bind fun session => (E2eeSecurity.consumeAddGroupMemberDeviceResponse
      platform.getE2eesPack client.toDevice session response).map (session, ·) with
  | some (session, groups, bundle) =>
      { sendGroupUpdateKeyBundle platform delivery client session.sessionOwner
          response.addingMemberDeviceInfo.memberAddress bundle with groups := groups }
  | none => client

/-- The request has no signature key for the new device, which the server adds.
The last component is the request that goes to the server. -/
def Client.addGroupMemberDeviceInternal (client : Client β) (platform : Platform β)
    (respond : AddGroupMemberDeviceMsg β → Option (AddGroupMemberDeviceResponse β))
    (delivery : BundleDelivery β) (senderAddress groupAddress newDeviceAddress : E2eeAddress) :
    Client β × Option (AddGroupMemberDeviceMsg β) :=
  if isValidAddress senderAddress && isValidAddress groupAddress &&
      isValidAddress newDeviceAddress && isValidString (client.store.auth senderAddress) then
    match loadOutboundGroupSession platform.getE2eesPack client.groups senderAddress
        groupAddress with
    | some outbound =>
        let msg := produceAddGroupMemberDeviceRequest outbound senderAddress
          ⟨newDeviceAddress, []⟩
        match (respond msg).filter isValidAddGroupMemberDeviceResponse with
        | some response =>
            (client.consumeAddGroupMemberDeviceResponse platform delivery (some outbound) response,
              some msg)
        | none =>
            (client.storePendingRequest senderAddress (.addGroupMemberDevice msg), some msg)
    | none => (client, none)
  else (client, none)

end Adding

section Resending

/-- This is what the server answers when one request is sent again.
The last answer is that of `consumeProtoMsg`. -/
structure ResendReply (β : Type) where
  bundles : BundleReply β
  invite : Option InviteResponse
  accept : Option AcceptResponse
  send : Option SendOne2oneMsgResponse
  addDevice : Option (AddGroupMemberDeviceResponse β)
  delivery : BundleDelivery β
  consumed : Option ConsumeProtoMsgResponse

/-- The entries are told apart by their place in the queue. -/
def Client.unloadPendingRequest (client : Client β) (address : E2eeAddress) (index : Nat) :
    Client β :=
  { client with
    store := { client.store with
      pendingRequests := fun owner =>
        if owner = address then (client.store.pendingRequests owner).eraseIdx index
        else client.store.pendingRequests owner } }

/-- One request is sent again. The result says whether it is then unloaded. -/
def resendRequest (platform : Platform β) (userAddress : E2eeAddress) (reply : ResendReply β)
    (client : Client β) : PendingRequest β → Bool × Client β
  | .getPreKeyBundle request active groupPreKeyPlaintext =>
      let consumed := consumeBundleReply platform reply.bundles client userAddress request active
        groupPreKeyPlaintext
      (consumed.1 || reply.bundles.response.any fun response => response.code == .notFound,
        consumed.2)
  | .invite _ =>
      let consumed := consumeInviteResponse client.store userAddress reply.invite
      (consumed.1, { client with store := consumed.2 })
  | .accept msg => (consumeAcceptResponse msg.sender reply.accept, client)
  | .sendOne2oneMsg _ => (reply.send.any fun response => response.code == .ok, client)
  | .addGroupMemberDevice msg =>
      match reply.addDevice.filter isValidAddGroupMemberDeviceResponse with
      | some response =>
          (true, client.consumeAddGroupMemberDeviceResponse platform reply.delivery
            (client.groups.loadGroupSessionByAddress userAddress userAddress
              msg.groupInfo.groupAddress) response)
      | none => (reply.addDevice.any fun response => response.code == .notFound, client)
  | .protoMsg _ _ => (reply.consumed.any fun response => response.code == .ok, client)

/-- All entries are handled in the order of the loaded list. The number counts those that were kept
so far, and the result lists which entries were unloaded. -/
def drainRequests (handle : ResendReply β → Client β → PendingRequest β → Bool × Client β)
    (userAddress : E2eeAddress) :
    (Nat → ResendReply β) → List (PendingRequest β) → Nat → Client β → Client β × List Bool
  | _, [], _, client => (client, [])
  | replies, request :: rest, kept, client =>
      let handled := handle (replies 0) client request
      let later := drainRequests handle userAddress (fun index => replies (index + 1)) rest
        (if handled.1 then kept else kept + 1)
        (if handled.1 then handled.2.unloadPendingRequest userAddress kept else handled.2)
      (later.1, handled.1 :: later.2)

/-- Requests that are queued meanwhile are not sent again. -/
def resendPendingRequest (platform : Platform β) (replies : Nat → ResendReply β)
    (client : Client β) (userAddress : E2eeAddress) : Client β × List Bool :=
  drainRequests (resendRequest platform userAddress) userAddress replies
    (client.store.pendingRequests userAddress) 0 client

end Resending

end E2eeSecurity
