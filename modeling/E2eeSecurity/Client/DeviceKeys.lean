/-
This file follows the requests of one sender that add devices to its groups, and says when an
accepted request names the place of the chain from which the keys are renewed.
-/
import E2eeSecurity.Group.NewDevice
import E2eeSecurity.Group.Sending
import E2eeSecurity.Client.Resending

namespace E2eeSecurity

variable {β : Type}

section Model

/-- The keys are derived from this session when the answer to this message arrives. -/
structure DeviceRenewal (β : Type) where
  msg : AddGroupMemberDeviceMsg β
  outbound : GroupSession β
  deriving DecidableEq

/-- A good answer renews the group when all checks pass. -/
def deviceRenewal (getE2eesPack : Packs β) (client : Client β)
    (outbound : Option (GroupSession β)) (msg : AddGroupMemberDeviceMsg β)
    (response : Option (AddGroupMemberDeviceResponse β)) : Option (DeviceRenewal β) :=
  outbound.bind fun session =>
    (response.filter isValidAddGroupMemberDeviceResponse).bind fun answer =>
      (consumeAddGroupMemberDeviceResponse getE2eesPack client.toDevice session answer).map
        fun _ => ⟨msg, session⟩

/-- On the direct path the request is made from the session that is then renewed. -/
def addDeviceRenewal (platform : Platform β)
    (respond : AddGroupMemberDeviceMsg β → Option (AddGroupMemberDeviceResponse β))
    (client : Client β) (senderAddress groupAddress newDeviceAddress : E2eeAddress) :
    Option (DeviceRenewal β) :=
  if isValidAddress senderAddress && isValidAddress groupAddress &&
      isValidAddress newDeviceAddress && isValidString (client.store.auth senderAddress) then
    (loadOutboundGroupSession platform.getE2eesPack client.groups senderAddress
      groupAddress).bind fun outbound =>
        let msg := produceAddGroupMemberDeviceRequest outbound senderAddress ⟨newDeviceAddress, []⟩
        deviceRenewal platform.getE2eesPack client (some outbound) msg (respond msg)
  else none

/-- This is the client when the loop comes to a request, and how the server answers it. -/
structure ResendVisit (β : Type) where
  client : Client β
  request : PendingRequest β
  reply : ResendReply β

/-- The visits are those of `drainRequests`. -/
def drainVisits (handle : ResendReply β → Client β → PendingRequest β → Bool × Client β)
    (userAddress : E2eeAddress) :
    (Nat → ResendReply β) → List (PendingRequest β) → Nat → Client β → List (ResendVisit β)
  | _, [], _, _ => []
  | replies, request :: rest, kept, client =>
      let handled := handle (replies 0) client request
      ⟨client, request, replies 0⟩ ::
        drainVisits handle userAddress (fun index => replies (index + 1)) rest
          (if handled.1 then kept else kept + 1)
          (if handled.1 then handled.2.unloadPendingRequest userAddress kept else handled.2)

def resendVisits (platform : Platform β) (replies : Nat → ResendReply β) (client : Client β)
    (userAddress : E2eeAddress) : List (ResendVisit β) :=
  drainVisits (resendRequest platform userAddress) userAddress replies
    (client.store.pendingRequests userAddress) 0 client

/-- On the resend path the session is loaded when the answer is there. -/
def ResendVisit.renewal (visit : ResendVisit β) (platform : Platform β)
    (userAddress : E2eeAddress) : Option (DeviceRenewal β) :=
  match visit.request with
  | .addGroupMemberDevice msg =>
      deviceRenewal platform.getE2eesPack visit.client
        (visit.client.groups.loadGroupSessionByAddress userAddress userAddress
          msg.groupInfo.groupAddress) msg visit.reply.addDevice
  | _ => none

/-- These are the calls of one sender, each with the answers of the server. -/
inductive DeviceAction (β : Type)
  | addDevice (respond : AddGroupMemberDeviceMsg β → Option (AddGroupMemberDeviceResponse β))
      (delivery : BundleDelivery β) (groupAddress newDeviceAddress : E2eeAddress)
  | resend (replies : Nat → ResendReply β)
  | sendGroupMsg (groupAddress : E2eeAddress) (allowList denyList : List E2eeAddress)
      (plaintext : Bytes β) (draw : SignatureDraw β) (response : Option SendGroupMsgResponse)

/-- All renewals so far are listed beside the client. -/
structure DeviceHistory (β : Type) where
  client : Client β
  renewals : List (DeviceRenewal β)

def deviceStep (platform : Platform β) (senderAddress : E2eeAddress)
    (history : DeviceHistory β) : DeviceAction β → DeviceHistory β
  | .addDevice respond delivery groupAddress newDeviceAddress =>
      ⟨(history.client.addGroupMemberDeviceInternal platform respond delivery senderAddress
          groupAddress newDeviceAddress).1,
        history.renewals ++ (addDeviceRenewal platform respond history.client senderAddress
          groupAddress newDeviceAddress).toList⟩
  | .resend replies =>
      ⟨(resendPendingRequest platform replies history.client senderAddress).1,
        history.renewals ++ (resendVisits platform replies history.client
          senderAddress).filterMap fun visit => visit.renewal platform senderAddress⟩
  | .sendGroupMsg groupAddress allowList denyList plaintext draw response =>
      { history with
        client := { history.client with
          groups := (sendGroupMsgWithFilter platform.getE2eesPack history.client.toDevice
            ⟨senderAddress, groupAddress, allowList, denyList⟩ plaintext draw response).2 } }

/-- The request adds a device to this group. -/
def PendingRequest.addsDeviceTo (groupAddress : E2eeAddress) : PendingRequest β → Bool
  | .addGroupMemberDevice msg => msg.groupInfo.groupAddress = groupAddress
  | _ => false

/-- So many requests for new devices of this group wait in the queue. -/
def Client.waitingAdditions (client : Client β) (userAddress groupAddress : E2eeAddress) : Nat :=
  (client.store.pendingRequests userAddress).countP (PendingRequest.addsDeviceTo groupAddress)

/-- Nothing moves the chain of a group while a request for a new device waits. -/
def DeviceAction.Undisturbed (platform : Platform β) (senderAddress : E2eeAddress)
    (history : DeviceHistory β) : DeviceAction β → Prop
  | .addDevice respond delivery groupAddress newDeviceAddress =>
      ∀ msg, (history.client.addGroupMemberDeviceInternal platform respond delivery senderAddress
          groupAddress newDeviceAddress).2 = some msg →
        (respond msg).any isValidAddGroupMemberDeviceResponse = true →
          history.client.waitingAdditions senderAddress groupAddress = 0
  | .resend replies =>
      ∀ visit ∈ resendVisits platform replies history.client senderAddress,
        ∀ msg, visit.request = .addGroupMemberDevice msg →
          visit.reply.addDevice.any isValidAddGroupMemberDeviceResponse = true →
            visit.client.waitingAdditions senderAddress msg.groupInfo.groupAddress ≤ 1
  | .sendGroupMsg groupAddress _ _ _ _ response =>
      isValidSendGroupMsgResponse response = true →
        history.client.waitingAdditions senderAddress groupAddress = 0

end Model

section Apart

variable {getE2eesPack : Packs β}

/-- A stored session does not touch the sessions of other groups. -/
theorem GroupStore.load_store_apart (groups : GroupStore β) (session : GroupSession β)
    {groupAddress : E2eeAddress} (apart : groupAddress ≠ session.groupInfo.groupAddress)
    (sender sessionOwner : E2eeAddress) :
    (groups.storeGroupSession session).loadGroupSessionByAddress sender sessionOwner
      groupAddress = groups.loadGroupSessionByAddress sender sessionOwner groupAddress := by
  simp only [GroupStore.loadGroupSessionByAddress, GroupStore.storeGroupSession, KeyedTable.insert]
  rw [List.find?_append, List.find?_filter]
  have last : List.find? (fun other => decide (other.sender = sender ∧
      other.sessionOwner = sessionOwner ∧ other.groupInfo.groupAddress = groupAddress))
      [session] = none := by
    simp [apart.symm]
  rw [last, Option.or_none]
  congr 1
  funext old
  by_cases same : old.groupInfo.groupAddress = groupAddress
  · have uncovered : groupSupersession.covers session.key old.key = false := by
      simp [groupSupersession, GroupSession.key, same, apart]
    simp [uncovered]
  · simp [same]

theorem GroupStore.load_storeResult_apart (groups : GroupStore β)
    {result : Option (GroupSession β)} {groupAddress : E2eeAddress}
    (apart : ∀ session, result = some session → groupAddress ≠ session.groupInfo.groupAddress)
    (sender sessionOwner : E2eeAddress) :
    (groups.storeResult result).loadGroupSessionByAddress sender sessionOwner groupAddress =
      groups.loadGroupSessionByAddress sender sessionOwner groupAddress := by
  cases result with
  | none => rfl
  | some session => exact groups.load_store_apart session (apart session rfl) sender sessionOwner

theorem renewInboundGroupSessions_apart (loaded : List (GroupSession β))
    {groupInfo : GroupInfo} {groupAddress : E2eeAddress}
    (apart : groupAddress ≠ groupInfo.groupAddress) (groups : GroupStore β)
    (owner senderAddress : E2eeAddress) (senderChainKey : Option (Bytes β))
    (sender sessionOwner : E2eeAddress) :
    (renewInboundGroupSessions getE2eesPack groups loaded owner senderAddress senderChainKey
      groupInfo).loadGroupSessionByAddress sender sessionOwner groupAddress =
      groups.loadGroupSessionByAddress sender sessionOwner groupAddress := by
  unfold renewInboundGroupSessions
  induction loaded generalizing groups with
  | nil => rfl
  | cons session rest ih =>
      rw [List.foldl_cons, ih]
      split
      · rfl
      · refine groups.load_storeResult_apart ?_ sender sessionOwner
        intro renewed made
        unfold renewInboundGroupSessionByWelcomeAndAdd at made
        split at made
        · obtain ⟨cipherSuite, -, rfl⟩ := Option.map_eq_some_iff.mp made
          exact apart
        · simp at made

/-- A renewal stores sessions of its own group only. -/
theorem renewGroupSessionsWithNewDevice_apart {device : Device β} {outbound : GroupSession β}
    {senderChainKey : Option (Bytes β)} {senderAddress newDeviceAddress : E2eeAddress}
    {info : GroupMemberInfo β} {result : GroupStore β × GroupUpdateKeyBundle β}
    (made : renewGroupSessionsWithNewDevice getE2eesPack device outbound senderChainKey
      senderAddress newDeviceAddress info = some result) {groupAddress : E2eeAddress}
    (apart : groupAddress ≠ outbound.groupInfo.groupAddress) (sender sessionOwner : E2eeAddress) :
    result.1.loadGroupSessionByAddress sender sessionOwner groupAddress =
      device.groups.loadGroupSessionByAddress sender sessionOwner groupAddress := by
  unfold renewGroupSessionsWithNewDevice at made
  split at made
  · split at made
    · dsimp only at made
      split at made
      · cases made
        apply GroupStore.load_store_apart
        exact apart
      · cases made
        rw [GroupStore.load_storeResult_apart, renewInboundGroupSessions_apart]
        · apply GroupStore.load_store_apart
          exact apart
        · exact apart
        · intro added completed
          unfold newAndCompleteInboundGroupSessionWithChainKey at completed
          split at completed
          · obtain ⟨cipherSuite, -, rfl⟩ := Option.map_eq_some_iff.mp completed
            exact apart
          · simp at completed
    · simp at made
  · simp at made

/-- Only a renewal changes the groups, and no other group than its own. -/
theorem Client.consumeAddGroupMemberDeviceResponse_apart (client : Client β)
    (platform : Platform β) (delivery : BundleDelivery β) {outbound : Option (GroupSession β)}
    {response : AddGroupMemberDeviceResponse β} {groupAddress : E2eeAddress}
    (apart : ∀ session, outbound = some session → groupAddress ≠ session.groupInfo.groupAddress)
    (sender sessionOwner : E2eeAddress) :
    (client.consumeAddGroupMemberDeviceResponse platform delivery outbound
      response).groups.loadGroupSessionByAddress sender sessionOwner groupAddress =
      client.groups.loadGroupSessionByAddress sender sessionOwner groupAddress := by
  unfold Client.consumeAddGroupMemberDeviceResponse
  split
  · rename_i session groups bundle consumed
    obtain ⟨loaded, present, made⟩ := Option.bind_eq_some_iff.mp consumed
    obtain ⟨result, renewed, same⟩ := Option.map_eq_some_iff.mp made
    cases same
    unfold E2eeSecurity.consumeAddGroupMemberDeviceResponse at renewed
    split at renewed
    · exact renewGroupSessionsWithNewDevice_apart renewed (apart _ present) sender sessionOwner
    · simp at renewed
  · rfl

end Apart

section Current

variable {platform : Platform β} {senderAddress : E2eeAddress}

/-- Every waiting request names the place of the chain where the stored session is. -/
def Client.RequestsCurrent (client : Client β) (userAddress : E2eeAddress) : Prop :=
  ∀ msg, .addGroupMemberDevice msg ∈ client.store.pendingRequests userAddress →
    ∀ session, client.groups.loadGroupSessionByAddress userAddress userAddress
      msg.groupInfo.groupAddress = some session → session.sequence = msg.sequence

/-- The requests stay current when no new one comes and their sessions do not change. -/
theorem Client.RequestsCurrent.keep {before after : Client β}
    (current : before.RequestsCurrent senderAddress)
    (waiting : ∀ msg, .addGroupMemberDevice msg ∈ after.store.pendingRequests senderAddress →
      .addGroupMemberDevice msg ∈ before.store.pendingRequests senderAddress ∧
      after.groups.loadGroupSessionByAddress senderAddress senderAddress
          msg.groupInfo.groupAddress =
        before.groups.loadGroupSessionByAddress senderAddress senderAddress
          msg.groupInfo.groupAddress) : after.RequestsCurrent senderAddress := by
  intro msg member session loaded
  obtain ⟨earlier, same⟩ := waiting msg member
  rw [same] at loaded
  exact current msg earlier session loaded

theorem Client.not_mem_of_waitingAdditions {client : Client β} {groupAddress : E2eeAddress}
    (none : client.waitingAdditions senderAddress groupAddress = 0)
    {msg : AddGroupMemberDeviceMsg β}
    (member : .addGroupMemberDevice msg ∈ client.store.pendingRequests senderAddress) :
    msg.groupInfo.groupAddress ≠ groupAddress := by
  intro same
  rw [Client.waitingAdditions, List.countP_eq_zero] at none
  exact none _ member (decide_eq_true same)

/-- Requests that came meanwhile do not add devices. -/
theorem Store.QueueGrows.mem_addition {before after : Store β} (grows : before.QueueGrows after)
    {owner : E2eeAddress} {msg : AddGroupMemberDeviceMsg β}
    (member : .addGroupMemberDevice msg ∈ after.pendingRequests owner) :
    .addGroupMemberDevice msg ∈ before.pendingRequests owner := by
  obtain ⟨added, grown, kinds⟩ := grows owner
  rw [grown, List.mem_append] at member
  obtain earlier | later := member
  · exact earlier
  · have kind := kinds _ later
    simp [PendingRequest.addsDevice] at kind

/-- A renewal was made from the session that was loaded. -/
theorem deviceRenewal_some {getE2eesPack : Packs β} {client : Client β}
    {outbound : Option (GroupSession β)} {msg : AddGroupMemberDeviceMsg β}
    {response : Option (AddGroupMemberDeviceResponse β)} {renewal : DeviceRenewal β}
    (made : deviceRenewal getE2eesPack client outbound msg response = some renewal) :
    renewal.msg = msg ∧ outbound = some renewal.outbound := by
  obtain ⟨session, present, answered⟩ := Option.bind_eq_some_iff.mp made
  obtain ⟨answer, -, renewed⟩ := Option.bind_eq_some_iff.mp answered
  obtain ⟨result, -, rfl⟩ := Option.map_eq_some_iff.mp renewed
  exact ⟨rfl, present⟩

theorem loadGroupSessionByAddress_group {groups : GroupStore β}
    {sender sessionOwner groupAddress : E2eeAddress} {session : GroupSession β}
    (loaded : groups.loadGroupSessionByAddress sender sessionOwner groupAddress = some session) :
    session.groupInfo.groupAddress = groupAddress := by
  obtain ⟨member, -⟩ := groups.loadGroupSessionByAddress_some loaded
  exact (groups.mem_loadGroupSessions.mp member).2.2

/-- A group message only moves the chain of its own group, for which no request waits. -/
theorem sendGroupMsg_current {history : DeviceHistory β}
    (current : history.client.RequestsCurrent senderAddress) {groupAddress : E2eeAddress}
    {allowList denyList : List E2eeAddress} {plaintext : Bytes β} {draw : SignatureDraw β}
    {response : Option SendGroupMsgResponse}
    (undisturbed : (DeviceAction.sendGroupMsg groupAddress allowList denyList plaintext draw
      response).Undisturbed platform senderAddress history) :
    (deviceStep platform senderAddress history (.sendGroupMsg groupAddress allowList denyList
      plaintext draw response)).client.RequestsCurrent senderAddress := by
  refine current.keep fun msg member => ⟨member, ?_⟩
  simp only [deviceStep]
  obtain refused | ⟨account, outbound, cipherSuite, payload, -, -, loaded, -, -, -, sent⟩ :=
    sendGroupMsgWithFilter_cases platform.getE2eesPack history.client.toDevice
      ⟨senderAddress, groupAddress, allowList, denyList⟩ plaintext draw response
  · rw [refused]
  · rw [sent]
    dsimp only
    split
    · rename_i accepted
      apply GroupStore.load_store_apart
      have named := loadGroupSessionByAddress_group loaded
      simp only [GroupSession.advance, named]
      exact Client.not_mem_of_waitingAdditions (undisturbed accepted) member
    · rfl

/-- A request that is queued is made from the stored session. -/
theorem addDevice_current {history : DeviceHistory β}
    (current : history.client.RequestsCurrent senderAddress)
    {respond : AddGroupMemberDeviceMsg β → Option (AddGroupMemberDeviceResponse β)}
    {delivery : BundleDelivery β} {groupAddress newDeviceAddress : E2eeAddress}
    (undisturbed : (DeviceAction.addDevice respond delivery groupAddress
      newDeviceAddress).Undisturbed platform senderAddress history) :
    (deviceStep platform senderAddress history (.addDevice respond delivery groupAddress
      newDeviceAddress)).client.RequestsCurrent senderAddress := by
  simp only [DeviceAction.Undisturbed] at undisturbed
  simp only [deviceStep]
  unfold Client.addGroupMemberDeviceInternal at undisturbed ⊢
  split
  · rename_i checks
    rw [if_pos checks] at undisturbed
    split
    · rename_i outbound loaded
      rw [loaded] at undisturbed
      obtain ⟨found, -⟩ := Option.filter_eq_some_iff.mp loaded
      have named := loadGroupSessionByAddress_group found
      dsimp only at undisturbed ⊢
      split
      · rename_i response answered
        rw [answered] at undisturbed
        obtain ⟨received, valid⟩ := Option.filter_eq_some_iff.mp answered
        have none := undisturbed _ rfl (by rw [received]; exact valid)
        refine current.keep fun msg member => ?_
        have earlier := (history.client.consumeAddGroupMemberDeviceResponse_queueGrows platform
          delivery (some outbound) response).mem_addition member
        refine ⟨earlier, Client.consumeAddGroupMemberDeviceResponse_apart _ _ _ ?_ _ _⟩
        rintro session ⟨⟩
        rw [named]
        exact Client.not_mem_of_waitingAdditions none earlier
      · intro msg member session waiting
        simp only [Client.storePendingRequest, Store.storePendingRequest, if_true,
          List.mem_append, List.mem_singleton] at member
        obtain earlier | made := member
        · exact current msg earlier session waiting
        · cases made
          simp only [produceAddGroupMemberDeviceRequest, Client.storePendingRequest, named]
            at waiting ⊢
          rw [found, Option.some.injEq] at waiting
          rw [waiting]
    · exact current
  · exact current

/-- On the direct path the message always names the place of the session. -/
theorem addDeviceRenewal_sequence {client : Client β}
    {respond : AddGroupMemberDeviceMsg β → Option (AddGroupMemberDeviceResponse β)}
    {groupAddress newDeviceAddress : E2eeAddress} {renewal : DeviceRenewal β}
    (made : addDeviceRenewal platform respond client senderAddress groupAddress
      newDeviceAddress = some renewal) : renewal.msg.sequence = renewal.outbound.sequence := by
  unfold addDeviceRenewal at made
  split at made
  · obtain ⟨outbound, -, renewed⟩ := Option.bind_eq_some_iff.mp made
    obtain ⟨same, present⟩ := deviceRenewal_some renewed
    rw [same, ← Option.some.inj present]
    rfl
  · simp at made

end Current

section Visits

variable {platform : Platform β} {senderAddress : E2eeAddress}

theorem startSessions_groups {getE2eesPack : Packs β} (fromAddress : E2eeAddress)
    (groupPreKeyPlaintext : Option (Bytes β)) (bundles : List (SignedPreKeyBundle β))
    (starts : Nat → SessionStart β) (client : Client β) :
    (startSessions getE2eesPack fromAddress groupPreKeyPlaintext starts bundles client).groups =
      client.groups := by
  induction bundles generalizing starts client with
  | nil => rfl
  | cons bundle rest ih =>
      rw [startSessions_cons, ih]
      cases groupPreKeyPlaintext <;> rfl

theorem sendToOwnDevices_groups {getE2eesPack : Packs β} (fromAddress : E2eeAddress)
    (data : Bytes β) (sessions : List (Session β)) (steps : Nat → SyncStep) (client : Client β) :
    (sendToOwnDevices getE2eesPack fromAddress data steps sessions client).groups =
      client.groups := by
  induction sessions generalizing steps client with
  | nil => rfl
  | cons session rest ih =>
      rw [sendToOwnDevices, ih]
      split
      · rfl
      · split <;> rfl

theorem consumeBundleReply_groups (reply : BundleReply β) (client : Client β)
    (fromAddress : E2eeAddress) (request : GetPreKeyBundleRequest) (active : Bool)
    (groupPreKeyPlaintext : Option (Bytes β)) :
    (consumeBundleReply platform reply client fromAddress request active
      groupPreKeyPlaintext).2.groups = client.groups := by
  unfold consumeBundleReply
  split
  · rename_i response answered
    have consumed : (consumeGetPreKeyBundleResponse platform reply.starts client fromAddress
        groupPreKeyPlaintext (some response)).2.groups = client.groups := by
      unfold consumeGetPreKeyBundleResponse
      dsimp only
      split
      · exact startSessions_groups _ _ _ _ _
      · rfl
    dsimp only
    split
    · exact (sendToOwnDevices_groups _ _ _ _ _).trans consumed
    · exact consumed
  · rfl

/-- The groups change only with a good answer to a request that adds a device. -/
theorem resendRequest_groups (platform : Platform β) (senderAddress : E2eeAddress)
    (reply : ResendReply β) (client : Client β) (request : PendingRequest β) :
    (resendRequest platform senderAddress reply client request).2.groups = client.groups ∨
      ∃ msg response, request = .addGroupMemberDevice msg ∧
        reply.addDevice.filter isValidAddGroupMemberDeviceResponse = some response ∧
        resendRequest platform senderAddress reply client request =
          (true, client.consumeAddGroupMemberDeviceResponse platform reply.delivery
            (client.groups.loadGroupSessionByAddress senderAddress senderAddress
              msg.groupInfo.groupAddress) response) := by
  cases request with
  | getPreKeyBundle request active groupPreKeyPlaintext =>
      exact .inl (consumeBundleReply_groups _ _ _ _ _ _)
  | invite msg => exact .inl rfl
  | accept msg => exact .inl rfl
  | sendOne2oneMsg msg => exact .inl rfl
  | addGroupMemberDevice msg =>
      cases answered : reply.addDevice.filter isValidAddGroupMemberDeviceResponse with
      | none =>
          left
          simp only [resendRequest, answered]
      | some response =>
          refine .inr ⟨msg, response, rfl, rfl, ?_⟩
          simp only [resendRequest, answered]
  | protoMsg receiver protoMsgId => exact .inl rfl

/-- A request that is alone for its group has no other one before or behind it. -/
theorem alone_of_waitingAdditions {client : Client β}
    {keptBefore rest added : List (PendingRequest β)} {msg : AddGroupMemberDeviceMsg β}
    (queue : client.store.pendingRequests senderAddress =
      keptBefore ++ .addGroupMemberDevice msg :: rest ++ added)
    (alone : client.waitingAdditions senderAddress msg.groupInfo.groupAddress ≤ 1)
    {other : AddGroupMemberDeviceMsg β}
    (member : .addGroupMemberDevice other ∈ keptBefore ++ rest ++ added) :
    other.groupInfo.groupAddress ≠ msg.groupInfo.groupAddress := by
  intro same
  have counted : 0 < (keptBefore ++ rest ++ added).countP
      (PendingRequest.addsDeviceTo msg.groupInfo.groupAddress) :=
    List.countP_pos_iff.mpr ⟨_, member, decide_eq_true same⟩
  have itself : PendingRequest.addsDeviceTo msg.groupInfo.groupAddress
      (.addGroupMemberDevice msg) = true := decide_eq_true rfl
  rw [Client.waitingAdditions, queue] at alone
  simp only [List.countP_append, List.countP_cons, itself, if_true] at alone counted
  omega

/-- One visit of the loop keeps all requests current. -/
theorem resendRequest_current (platform : Platform β) {client : Client β}
    (current : client.RequestsCurrent senderAddress) {request : PendingRequest β}
    {reply : ResendReply β} {keptBefore rest added : List (PendingRequest β)}
    (queue : client.store.pendingRequests senderAddress =
      keptBefore ++ request :: rest ++ added)
    (alone : ∀ msg, request = .addGroupMemberDevice msg →
      reply.addDevice.any isValidAddGroupMemberDeviceResponse = true →
        client.waitingAdditions senderAddress msg.groupInfo.groupAddress ≤ 1) :
    let handled := resendRequest platform senderAddress reply client request
    (if handled.1 then handled.2.unloadPendingRequest senderAddress keptBefore.length
      else handled.2).RequestsCurrent senderAddress := by
  intro handled
  obtain ⟨more, kinds, step⟩ := drainStep_queue
    (resendRequest_queueGrows platform senderAddress reply client request) queue
  have sameGroups : (if handled.1 then handled.2.unloadPendingRequest senderAddress
      keptBefore.length else handled.2).groups = handled.2.groups := by
    split <;> rfl
  refine current.keep fun other member => ?_
  rw [step] at member
  have notMore : PendingRequest.addGroupMemberDevice other ∉ more := by
    intro newer
    have kind := kinds _ newer
    simp [PendingRequest.addsDevice] at kind
  have earlier : .addGroupMemberDevice other ∈ client.store.pendingRequests senderAddress := by
    have itself : .addGroupMemberDevice other ∈ (if handled.1 = true then [] else [request]) →
        .addGroupMemberDevice other = request := by
      split <;> simp
    rw [queue]
    simp only [List.mem_append, List.mem_cons] at member ⊢
    tauto
  refine ⟨earlier, ?_⟩
  rw [sameGroups]
  obtain unchanged | ⟨msg, response, rfl, answered, outcome⟩ :=
    resendRequest_groups platform senderAddress reply client request
  · rw [unchanged]
  · rw [outcome, if_pos rfl, List.append_nil] at member
    have waiting : PendingRequest.addGroupMemberDevice other ∈ keptBefore ++ rest ++ added := by
      simpa [notMore] using member
    obtain ⟨received, valid⟩ := Option.filter_eq_some_iff.mp answered
    have different := alone_of_waitingAdditions queue
      (alone msg rfl (by rw [received]; exact valid)) waiting
    rw [show handled = _ from outcome]
    refine Client.consumeAddGroupMemberDeviceResponse_apart _ _ _ ?_ _ _
    intro session loaded
    rw [loadGroupSessionByAddress_group loaded]
    exact different

/-- A renewal of a visit names the place of the session that was loaded. -/
theorem ResendVisit.renewal_sequence {visit : ResendVisit β}
    (current : visit.client.RequestsCurrent senderAddress)
    (waiting : visit.request ∈ visit.client.store.pendingRequests senderAddress)
    {renewal : DeviceRenewal β} (made : visit.renewal platform senderAddress = some renewal) :
    renewal.msg.sequence = renewal.outbound.sequence := by
  unfold ResendVisit.renewal at made
  split at made
  · rename_i msg named
    obtain ⟨same, loaded⟩ := deviceRenewal_some made
    rw [named] at waiting
    rw [same]
    exact (current msg waiting renewal.outbound loaded).symm
  · simp at made

/-- The whole loop keeps all requests current, and every renewal names its place. -/
theorem drainVisits_current (requests : List (PendingRequest β)) (replies : Nat → ResendReply β)
    (keptBefore added : List (PendingRequest β)) {client : Client β}
    (current : client.RequestsCurrent senderAddress)
    (queue : client.store.pendingRequests senderAddress = keptBefore ++ requests ++ added)
    (alone : ∀ visit ∈ drainVisits (resendRequest platform senderAddress) senderAddress replies
        requests keptBefore.length client,
      ∀ msg, visit.request = .addGroupMemberDevice msg →
        visit.reply.addDevice.any isValidAddGroupMemberDeviceResponse = true →
          visit.client.waitingAdditions senderAddress msg.groupInfo.groupAddress ≤ 1) :
    (drainRequests (resendRequest platform senderAddress) senderAddress replies requests
        keptBefore.length client).1.RequestsCurrent senderAddress ∧
      ∀ visit ∈ drainVisits (resendRequest platform senderAddress) senderAddress replies requests
          keptBefore.length client,
        ∀ renewal, visit.renewal platform senderAddress = some renewal →
          renewal.msg.sequence = renewal.outbound.sequence := by
  induction requests generalizing replies keptBefore added client with
  | nil => exact ⟨current, by simp [drainVisits]⟩
  | cons request rest ih =>
      have waiting : request ∈ client.store.pendingRequests senderAddress := by
        simp [queue]
      have next := resendRequest_current platform current queue (alone _ List.mem_cons_self)
      obtain ⟨more, -, step⟩ := drainStep_queue
        (resendRequest_queueGrows platform senderAddress (replies 0) client request) queue
      have count : (keptBefore ++ if (resendRequest platform senderAddress (replies 0) client
            request).1 then [] else [request]).length =
          if (resendRequest platform senderAddress (replies 0) client request).1
            then keptBefore.length else keptBefore.length + 1 := by
        split <;> simp
      simp only [drainVisits, drainRequests, ← count, List.mem_cons, forall_eq_or_imp] at alone ⊢
      obtain ⟨last, renewals⟩ := ih (fun index => replies (index + 1)) _ (added ++ more) next step
        alone.2
      exact ⟨last, fun renewal made => ResendVisit.renewal_sequence current waiting made, renewals⟩

end Visits

section Runs

variable {platform : Platform β} {senderAddress : E2eeAddress}

/-- All requests are current, and all renewals so far have named their place. -/
def DeviceHistory.Consistent (history : DeviceHistory β) (senderAddress : E2eeAddress) : Prop :=
  history.client.RequestsCurrent senderAddress ∧
    ∀ renewal ∈ history.renewals, renewal.msg.sequence = renewal.outbound.sequence

/-- One undisturbed call keeps the history consistent. -/
theorem deviceStep_consistent {history : DeviceHistory β} {action : DeviceAction β}
    (consistent : history.Consistent senderAddress)
    (undisturbed : action.Undisturbed platform senderAddress history) :
    (deviceStep platform senderAddress history action).Consistent senderAddress := by
  obtain ⟨current, sequences⟩ := consistent
  cases action with
  | addDevice respond delivery groupAddress newDeviceAddress =>
      refine ⟨addDevice_current current undisturbed, ?_⟩
      intro renewal member
      obtain earlier | now := List.mem_append.mp member
      · exact sequences renewal earlier
      · exact addDeviceRenewal_sequence (Option.mem_toList.mp now)
  | resend replies =>
      have queue : history.client.store.pendingRequests senderAddress =
          [] ++ history.client.store.pendingRequests senderAddress ++ [] := by
        simp
      obtain ⟨last, renewals⟩ := drainVisits_current _ replies [] [] current queue undisturbed
      refine ⟨last, ?_⟩
      intro renewal member
      obtain earlier | now := List.mem_append.mp member
      · exact sequences renewal earlier
      · obtain ⟨visit, visited, made⟩ := List.mem_filterMap.mp now
        exact renewals visit visited renewal made
  | sendGroupMsg groupAddress allowList denyList plaintext draw response =>
      exact ⟨sendGroupMsg_current current undisturbed, sequences⟩

/-- A receiver behind the sender reaches the same chain key when it is told the right place. -/
theorem GroupSession.catchUp_chainKey {cipherSuite : CipherSuite β}
    {inbound outbound : GroupSession β} {behind : Nat}
    (sameChain : ((GroupSession.advance cipherSuite)^[behind] inbound).chainKey =
      outbound.chainKey)
    (place : inbound.sequence.toNat + behind = outbound.sequence.toNat) :
    (inbound.catchUp cipherSuite outbound.sequence).chainKey = outbound.chainKey := by
  rw [GroupSession.catchUp, ← place, Nat.add_sub_cancel_left]
  exact sameChain

/-- In every run in which nothing moves the chain of a group while a request for a new device of it
waits, each accepted request names the place of the session whose keys are renewed. Receivers
behind it then come to the same chain key. -/
theorem deviceRenewals_current {client : Client β}
    (start : ∀ msg, .addGroupMemberDevice msg ∉ client.store.pendingRequests senderAddress)
    (actions : List (DeviceAction β))
    (undisturbed : Machine.Along (deviceStep platform senderAddress)
      (fun history action => action.Undisturbed platform senderAddress history) ⟨client, []⟩
      actions) :
    ∀ renewal ∈ (Machine.run (deviceStep platform senderAddress) ⟨client, []⟩ actions).renewals,
      renewal.msg.sequence = renewal.outbound.sequence ∧
      ∀ (cipherSuite : CipherSuite β) (inbound : GroupSession β) (behind : Nat),
        ((GroupSession.advance cipherSuite)^[behind] inbound).chainKey =
          renewal.outbound.chainKey →
        inbound.sequence.toNat + behind = renewal.outbound.sequence.toNat →
        (inbound.catchUp cipherSuite renewal.msg.sequence).chainKey =
          renewal.outbound.chainKey := by
  have first : (⟨client, []⟩ : DeviceHistory β).Consistent senderAddress :=
    ⟨fun msg member => absurd member (start msg), by simp⟩
  have kept (history : DeviceHistory β) (action : DeviceAction β)
      (consistent : history.Consistent senderAddress)
      (allowed : action.Undisturbed platform senderAddress history) :
      (deviceStep platform senderAddress history action).Consistent senderAddress :=
    deviceStep_consistent consistent allowed
  obtain ⟨-, sequences⟩ := Machine.run_invariant_along kept actions first undisturbed
  intro renewal member
  have same := sequences renewal member
  refine ⟨same, ?_⟩
  intro cipherSuite inbound behind sameChain place
  rw [same]
  exact GroupSession.catchUp_chainKey sameChain place

end Runs

namespace Symbolic

def tabletAddress : E2eeAddress := ⟨"domain", .user "alice" "tablet"⟩

/-- Alice has sent three messages to her group. -/
def groupClient : Client FreeTerm where
  toDevice := runningDevice aliceAddress
  pendingPlaintexts _ _ := []
  serverPublicKey _ := none

/-- The server does not answer the request for the new tablet of Alice. -/
def unansweredAddition : DeviceAction FreeTerm :=
  .addDevice (fun _ => none) ⟨⟨"", none⟩, "", noReply⟩ groupAddress tabletAddress

/-- The server adds the tablet when the request is sent again. -/
def addedReply : ResendReply FreeTerm :=
  { goneReply with addDevice := some ⟨.ok, [], ⟨tabletAddress, [.byte 5]⟩⟩ }

def acceptedMessage : DeviceAction FreeTerm :=
  .sendGroupMsg groupAddress [] [] [.byte 1] ⟨[], []⟩ (some ⟨.ok⟩)

def patientActions : List (DeviceAction FreeTerm) :=
  [unansweredAddition, .resend fun _ => addedReply]

def hastyActions : List (DeviceAction FreeTerm) :=
  [unansweredAddition, acceptedMessage, .resend fun _ => addedReply]

/-- These are the places that the message and the renewed session name. -/
def renewalPlaces (actions : List (DeviceAction FreeTerm)) : List (UInt32 × UInt32) :=
  (Machine.run (deviceStep platform aliceAddress) ⟨groupClient, []⟩ actions).renewals.map
    fun renewal => (renewal.msg.sequence, renewal.outbound.sequence)

end Symbolic

open Symbolic in
/-- Alice waits with her next message until the tablet is added. -/
theorem patientActions_current :
    renewalPlaces patientActions = [(3, 3)] ∧
      ∀ renewal ∈ (Machine.run (deviceStep platform aliceAddress) ⟨groupClient, []⟩
          patientActions).renewals, renewal.msg.sequence = renewal.outbound.sequence := by
  refine ⟨by decide, fun renewal member => (deviceRenewals_current ?_ patientActions ?_ renewal
    member).1⟩
  · intro msg member
    simp [groupClient, runningDevice, store] at member
  · refine ⟨fun _ _ accepted => by simp at accepted, ?_, trivial⟩
    have alone : ∀ visit ∈ resendVisits platform (fun _ => addedReply)
        (deviceStep platform aliceAddress ⟨groupClient, []⟩ unansweredAddition).client
        aliceAddress, visit.request.addsDeviceTo groupAddress = true ∧
          visit.client.waitingAdditions aliceAddress groupAddress ≤ 1 := by
      decide
    intro visit visited msg named _
    obtain ⟨same, few⟩ := alone visit visited
    rw [named] at same
    rw [of_decide_eq_true same]
    exact few

open Symbolic in
/-- Alice sends a message while the request waits, so that the request names an earlier place. -/
theorem hastyActions_behind :
    renewalPlaces hastyActions = [(3, 4)] ∧
      ¬ ∀ renewal ∈ (Machine.run (deviceStep platform aliceAddress) ⟨groupClient, []⟩
          hastyActions).renewals, renewal.msg.sequence = renewal.outbound.sequence := by
  decide

end E2eeSecurity
