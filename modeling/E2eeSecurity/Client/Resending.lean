/-
This file compares a request that is sent again from the queue with the same request on the direct
path: which answers end it, and what they do to the stored sessions.
-/
import E2eeSecurity.Client.Devices

namespace E2eeSecurity

variable {β : Type}

section Direct

/-- This is what the direct path does with the answer to the same request. The result says whether
the request is done, so that it is not queued. -/
def sendDirectly (platform : Platform β) (userAddress : E2eeAddress) (reply : ResendReply β)
    (client : Client β) : PendingRequest β → Bool × Client β
  | .getPreKeyBundle request active groupPreKeyPlaintext =>
      let consumed := consumeBundleReply platform reply.bundles client userAddress request active
        groupPreKeyPlaintext
      (consumed.1 || reply.bundles.response.all fun response => response.code == .notFound,
        consumed.2)
  | .invite _ =>
      let consumed := consumeInviteResponse client.store userAddress reply.invite
      (consumed.1, { client with store := consumed.2 })
  | .accept msg => (consumeAcceptResponse msg.sender reply.accept, client)
  | .sendOne2oneMsg msg =>
      match reply.send with
      | some ⟨.ok⟩ => (true, client)
      | some ⟨.notFound⟩ =>
          (true, { client with store := client.store.unloadSession msg.fromAddress msg.toAddress })
      | some ⟨.other⟩ => (false, client)
      | none => (false, client)
  | .addGroupMemberDevice msg =>
      match reply.addDevice.filter isValidAddGroupMemberDeviceResponse with
      | some response =>
          (true, client.consumeAddGroupMemberDeviceResponse platform reply.delivery
            (client.groups.loadGroupSessionByAddress userAddress userAddress
              msg.groupInfo.groupAddress) response)
      | none => (false, client)
  | .protoMsg _ _ =>
      (reply.consumed.any fun response => response.code == .ok || response.code == .notFound,
        client)

/-- A request that is not done is queued. -/
def queueUnlessDone (result : Bool × Client β) (userAddress : E2eeAddress)
    (request : PendingRequest β) : Client β :=
  if result.1 then result.2 else result.2.storePendingRequest userAddress request

variable {platform : Platform β} {reply : ResendReply β} {client : Client β}

theorem getPreKeyBundleInternal_direct {userAddress : E2eeAddress} {auth : String}
    {request : GetPreKeyBundleRequest} (checks : (isValidAddress userAddress &&
      isValidString auth && isValidString request.userId && isValidString request.domain) = true)
    (active : Bool) (groupPreKeyPlaintext : Option (Bytes β)) :
    (getPreKeyBundleInternal platform reply.bundles client userAddress auth request active
      groupPreKeyPlaintext).2 =
      queueUnlessDone (sendDirectly platform userAddress reply client
        (.getPreKeyBundle request active groupPreKeyPlaintext)) userAddress
        (.getPreKeyBundle request active groupPreKeyPlaintext) := by
  simp only [getPreKeyBundleInternal, checks, if_true, sendDirectly, queueUnlessDone]
  by_cases done : (consumeBundleReply platform reply.bundles client userAddress request active
      groupPreKeyPlaintext).1 = true
  · simp only [done, Bool.true_or, if_true]
  · rw [if_neg done]
    split
    · rename_i response answered
      by_cases gone : response.code = .notFound <;> simp [done, answered, gone]
    · rename_i answered
      simp [done, answered]

theorem inviteInternal_direct {session : Session β}
    (valid : isValidUncompletedSession platform.getE2eesPack session = true)
    (auth : isValidString (client.store.auth session.ourAddress) = true) :
    { client with
      store := (inviteInternal platform.getE2eesPack (fun _ => reply.invite) client.store
        session).2.1 } =
      queueUnlessDone (sendDirectly platform session.ourAddress reply client
        (.invite (produceInviteRequest session))) session.ourAddress
        (.invite (produceInviteRequest session)) := by
  simp only [inviteInternal, valid, auth, Bool.and_self, if_true, sendDirectly, queueUnlessDone]
  by_cases done : (consumeInviteResponse client.store session.ourAddress reply.invite).1 = true
  · simp only [done, if_true]
  · simp [done, Client.storePendingRequest]

theorem acceptInternal_direct {msg : AcceptMsg β}
    (valid : isValidAcceptMsg platform.getE2eesPack msg = true)
    (auth : isValidString (client.store.auth msg.sender) = true) :
    { client with
      store := (acceptInternal platform.getE2eesPack (fun _ => reply.accept) client.store
        msg).2.1 } =
      queueUnlessDone (sendDirectly platform msg.sender reply client (.accept msg)) msg.sender
        (.accept msg) := by
  simp only [acceptInternal, valid, auth, Bool.and_self, if_true, sendDirectly, queueUnlessDone]
  by_cases done : consumeAcceptResponse msg.sender reply.accept = true
  · simp only [done, if_true]
  · simp [done, Client.storePendingRequest]

/-- A session that is stored right before its peer is unloaded leaves no trace. -/
theorem Store.unloadSession_storeSession {store : Store β} {session previous : Session β}
    (stored : store.sessions.load session.sessionId session.ourAddress = some previous)
    (samePeer : previous.theirAddress = session.theirAddress) :
    (store.storeSession session).unloadSession session.ourAddress session.theirAddress =
      store.unloadSession session.ourAddress session.theirAddress := by
  have sameSessions : (store.sessions.store session).unloadSession session.ourAddress
      session.theirAddress =
        store.sessions.unloadSession session.ourAddress session.theirAddress := by
    simp only [SessionStore.unloadSession, SessionStore.mk.injEq]
    funext sessionId address
    simp only [SessionStore.store]
    by_cases same : sessionId = session.sessionId ∧ address = session.ourAddress
    · obtain ⟨rfl, rfl⟩ := same
      obtain ⟨-, sameAddress⟩ := store.sessions.keyed _ _ _ stored
      rw [if_pos ⟨rfl, rfl⟩, stored, Option.filter_some, Option.filter_some, sameAddress, samePeer]
      simp
    · rw [if_neg same]
  simp only [Store.unloadSession, Store.storeSession, sameSessions]

/-- A message that goes out names the addresses of its session, and its answer is consumed. -/
theorem sendOne2oneMsgInternal_dispatched {getE2eesPack : Packs β} {attempt : SendAttempt}
    {store : Store β} {session : Session β} {data : Bytes β} {msg : One2oneMsg β}
    (sent : (sendOne2oneMsgInternal getE2eesPack attempt store session data).dispatched =
      some msg) :
    let result := sendOne2oneMsgInternal getE2eesPack attempt store session data
    let consumed := consumeSendOne2oneMsgResponse store result.session attempt.response
    (∃ ratchet, result.session = { session with ratchet := ratchet }) ∧
      msg.fromAddress = session.ourAddress ∧ msg.toAddress = session.theirAddress ∧
      result.store = if consumed.1 then consumed.2
        else consumed.2.storePendingRequest session.ourAddress (.sendOne2oneMsg msg) := by
  intro result consumed
  have unfolded : result = sendOne2oneMsgInternal getE2eesPack attempt store session data := rfl
  rw [← unfolded] at sent
  unfold sendOne2oneMsgInternal at unfolded
  split at unfolded
  · split at unfolded
    · dsimp only at unfolded
      split at unfolded
      · split at unfolded
        · rename_i done
          simp only [consumed, unfolded] at sent ⊢
          cases sent
          exact ⟨⟨_, rfl⟩, rfl, rfl, (if_pos done).symm⟩
        · rename_i queued
          simp only [consumed, unfolded] at sent ⊢
          cases sent
          exact ⟨⟨_, rfl⟩, rfl, rfl, (if_neg queued).symm⟩
      · simp [unfolded] at sent
    · simp [unfolded] at sent
  · simp [unfolded] at sent

/-- The session in memory is stored before the answer is looked at. -/
theorem sendOne2oneMsgInternal_direct {session previous : Session β} {attempt : SendAttempt}
    {data : Bytes β} {msg : One2oneMsg β}
    (stored : client.store.sessions.load session.sessionId session.ourAddress = some previous)
    (samePeer : previous.theirAddress = session.theirAddress)
    (answered : attempt.response = reply.send)
    (sent : (sendOne2oneMsgInternal platform.getE2eesPack attempt client.store session
      data).dispatched = some msg) :
    let result := sendOne2oneMsgInternal platform.getE2eesPack attempt client.store session data
    { client with store := result.store } =
      queueUnlessDone (sendDirectly platform session.ourAddress reply
        { client with store := client.store.storeSession result.session } (.sendOne2oneMsg msg))
        session.ourAddress (.sendOne2oneMsg msg) := by
  intro result
  obtain ⟨⟨ratchet, moved⟩, sender, receiver, left⟩ := sendOne2oneMsgInternal_dispatched sent
  have unloaded : (client.store.storeSession result.session).unloadSession msg.fromAddress
      msg.toAddress = client.store.unloadSession msg.fromAddress msg.toAddress := by
    rw [sender, receiver, moved]
    exact Store.unloadSession_storeSession stored samePeer
  rw [left, answered]
  rcases received : reply.send with _ | ⟨_ | _ | _⟩
  · simp [consumeSendOne2oneMsgResponse, sendDirectly, queueUnlessDone, received,
      Client.storePendingRequest, result]
  · simp [consumeSendOne2oneMsgResponse, sendDirectly, queueUnlessDone, received, result]
  · simp only [consumeSendOne2oneMsgResponse, sendDirectly, queueUnlessDone, received, if_true,
      unloaded]
    rw [sender, receiver, moved]
  · simp [consumeSendOne2oneMsgResponse, sendDirectly, queueUnlessDone, received,
      Client.storePendingRequest, result]

theorem addGroupMemberDeviceInternal_direct
    {senderAddress groupAddress newDeviceAddress : E2eeAddress} {outbound : GroupSession β}
    (checks : (isValidAddress senderAddress && isValidAddress groupAddress &&
      isValidAddress newDeviceAddress &&
      isValidString (client.store.auth senderAddress)) = true)
    (loaded : loadOutboundGroupSession platform.getE2eesPack client.groups senderAddress
      groupAddress = some outbound) :
    let msg := produceAddGroupMemberDeviceRequest outbound senderAddress ⟨newDeviceAddress, []⟩
    (client.addGroupMemberDeviceInternal platform (fun _ => reply.addDevice) reply.delivery
      senderAddress groupAddress newDeviceAddress).1 =
      queueUnlessDone (sendDirectly platform senderAddress reply client
        (.addGroupMemberDevice msg)) senderAddress (.addGroupMemberDevice msg) := by
  intro msg
  obtain ⟨found, -⟩ := Option.filter_eq_some_iff.mp loaded
  have named : msg.groupInfo.groupAddress = groupAddress := by
    have holds := List.find?_some found
    simp only [decide_eq_true_eq] at holds
    exact holds.2.2
  simp only [Client.addGroupMemberDeviceInternal, checks, if_true, loaded, sendDirectly,
    queueUnlessDone, named, found]
  cases reply.addDevice.filter isValidAddGroupMemberDeviceResponse with
  | none => rfl
  | some response => rfl

theorem notifyConsumed_direct {answer : String → Option ConsumeProtoMsgResponse}
    {msg : ProtoMsg β} {protoMsgId : String} (tagged : msg.tag = some protoMsgId)
    (answered : consumeProtoMsg answer client.store msg.toAddress protoMsgId = reply.consumed) :
    (notifyConsumed answer client msg).1 =
      queueUnlessDone (sendDirectly platform msg.toAddress reply client
        (.protoMsg msg.toAddress protoMsgId)) msg.toAddress
        (.protoMsg msg.toAddress protoMsgId) := by
  rcases received : reply.consumed with _ | ⟨_ | _ | _⟩ <;>
    simp [notifyConsumed, tagged, answered, sendDirectly, queueUnlessDone, received]

end Direct

section Growing

variable {getE2eesPack : Packs β}

def PendingRequest.addsDevice : PendingRequest β → Bool
  | .addGroupMemberDevice _ => true
  | _ => false

/-- No waiting request is dropped, and new ones come behind them. None of these adds a device. -/
def Store.QueueGrows (before after : Store β) : Prop :=
  ∀ owner, ∃ added, after.pendingRequests owner = before.pendingRequests owner ++ added ∧
    ∀ request ∈ added, request.addsDevice = false

theorem Store.QueueGrows.of_eq {before after : Store β}
    (same : after.pendingRequests = before.pendingRequests) : before.QueueGrows after := by
  intro owner
  exact ⟨[], by rw [same, List.append_nil], by simp⟩

theorem Store.QueueGrows.refl (store : Store β) : store.QueueGrows store := .of_eq rfl

theorem Store.QueueGrows.trans {first second third : Store β} (left : first.QueueGrows second)
    (right : second.QueueGrows third) : first.QueueGrows third := by
  intro owner
  obtain ⟨earlier, middle, earlierKinds⟩ := left owner
  obtain ⟨later, last, laterKinds⟩ := right owner
  refine ⟨earlier ++ later, by rw [last, middle, List.append_assoc], ?_⟩
  intro request member
  rcases List.mem_append.mp member with before | after
  · exact earlierKinds request before
  · exact laterKinds request after

theorem Store.queueGrows_storePendingRequest (store : Store β) (address : E2eeAddress)
    {request : PendingRequest β} (kind : request.addsDevice = false) :
    store.QueueGrows (store.storePendingRequest address request) := by
  intro owner
  simp only [Store.storePendingRequest]
  split
  · exact ⟨[request], rfl, by simpa using kind⟩
  · exact ⟨[], (List.append_nil _).symm, by simp⟩

theorem consumeInviteResponse_pending (store : Store β) (userAddress : E2eeAddress)
    (response : Option InviteResponse) :
    (consumeInviteResponse store userAddress response).2.pendingRequests =
      store.pendingRequests := by
  obtain same | ⟨_, _, _, _, changed⟩ :=
    consumeInviteResponse_cases store userAddress response
  · rw [same]
  · rw [changed]
    rfl

theorem pqcNewOutboundSessionV2_queueGrows (invite : InviteMsg β → Option InviteResponse)
    (store : Store β) (sender : E2eeAddress) (bundle : PreKeyBundle β) (draw : OutboundDraw β) :
    store.QueueGrows
      (pqcNewOutboundSessionV2 getE2eesPack invite store sender bundle draw).2.1 := by
  rw [pqcNewOutboundSessionV2_eq]
  split
  · rename_i session started
    have stored : store.QueueGrows (store.storeSession session) := .of_eq rfl
    refine stored.trans ?_
    unfold inviteInternal
    split
    · have consumed : (store.storeSession session).QueueGrows (consumeInviteResponse
          (store.storeSession session) session.ourAddress
          (invite (produceInviteRequest session))).2 :=
        .of_eq (consumeInviteResponse_pending _ _ _)
      dsimp only
      split
      · exact consumed
      · exact consumed.trans (Store.queueGrows_storePendingRequest _ _ rfl)
    · exact .refl _
  · exact .refl _

theorem startSessions_queueGrows (fromAddress : E2eeAddress)
    (groupPreKeyPlaintext : Option (Bytes β)) (bundles : List (SignedPreKeyBundle β))
    (starts : Nat → SessionStart β) (client : Client β) :
    client.store.QueueGrows (startSessions getE2eesPack fromAddress groupPreKeyPlaintext starts
      bundles client).store := by
  induction bundles generalizing starts client with
  | nil => exact .refl _
  | cons bundle rest ih =>
      rw [startSessions_cons]
      refine Store.QueueGrows.trans ?_ (ih _ _)
      cases groupPreKeyPlaintext with
      | none => exact pqcNewOutboundSessionV2_queueGrows _ _ _ _ _
      | some data => exact pqcNewOutboundSessionV2_queueGrows _ _ _ _ _

theorem sendOne2oneMsgInternal_queueGrows (attempt : SendAttempt) (store : Store β)
    (session : Session β) (data : Bytes β) :
    store.QueueGrows (sendOne2oneMsgInternal getE2eesPack attempt store session data).store := by
  have consumed (moved : Session β) : store.QueueGrows
      (consumeSendOne2oneMsgResponse store moved attempt.response).2 :=
    .of_eq (consumeSendOne2oneMsgResponse_pending _ _ _)
  unfold sendOne2oneMsgInternal
  split
  · split
    · dsimp only
      split
      · split
        · exact consumed _
        · exact (consumed _).trans (Store.queueGrows_storePendingRequest _ _ rfl)
      · exact .refl _
    · exact .refl _
  · exact .refl _

theorem sendToOwnDevices_queueGrows (fromAddress : E2eeAddress) (data : Bytes β)
    (sessions : List (Session β)) (steps : Nat → SyncStep) (client : Client β) :
    client.store.QueueGrows
      (sendToOwnDevices getE2eesPack fromAddress data steps sessions client).store := by
  induction sessions generalizing steps client with
  | nil => exact .refl _
  | cons session rest ih =>
      refine Store.QueueGrows.trans ?_ (ih _ _)
      split
      · exact .refl _
      · split
        · exact sendOne2oneMsgInternal_queueGrows _ _ _ _
        · exact .refl _

variable (platform : Platform β)

theorem consumeBundleReply_queueGrows (reply : BundleReply β) (client : Client β)
    (fromAddress : E2eeAddress) (request : GetPreKeyBundleRequest) (active : Bool)
    (groupPreKeyPlaintext : Option (Bytes β)) :
    client.store.QueueGrows (consumeBundleReply platform reply client fromAddress request active
      groupPreKeyPlaintext).2.store := by
  unfold consumeBundleReply
  split
  · rename_i response answered
    have consumed : client.store.QueueGrows (consumeGetPreKeyBundleResponse platform reply.starts
        client fromAddress groupPreKeyPlaintext (some response)).2.store := by
      unfold consumeGetPreKeyBundleResponse
      dsimp only
      split
      · exact startSessions_queueGrows _ _ _ _ _
      · exact .refl _
    dsimp only
    split
    · exact consumed.trans (sendToOwnDevices_queueGrows _ _ _ _ _)
    · exact consumed
  · exact .refl _

theorem getPreKeyBundleInternal_queueGrows (reply : BundleReply β) (client : Client β)
    (fromAddress : E2eeAddress) (auth : String) (request : GetPreKeyBundleRequest)
    (active : Bool) (groupPreKeyPlaintext : Option (Bytes β)) :
    client.store.QueueGrows (getPreKeyBundleInternal platform reply client fromAddress auth request
      active groupPreKeyPlaintext).2.store := by
  have consumed := consumeBundleReply_queueGrows platform reply client fromAddress request active
    groupPreKeyPlaintext
  unfold getPreKeyBundleInternal
  split
  · dsimp only
    split
    · exact consumed
    · split
      · split
        · exact consumed
        · exact consumed.trans (Store.queueGrows_storePendingRequest _ _ rfl)
      · exact consumed
  · exact .refl _

theorem sendGroupUpdateKeyBundle_queueGrows (delivery : BundleDelivery β) (client : Client β)
    (sessionOwner newDeviceAddress : E2eeAddress) (bundle : GroupUpdateKeyBundle β) :
    client.store.QueueGrows (sendGroupUpdateKeyBundle platform delivery client sessionOwner
      newDeviceAddress bundle).store := by
  unfold sendGroupUpdateKeyBundle
  dsimp only
  split
  · split
    · exact sendOne2oneMsgInternal_queueGrows _ _ _ _
    · exact .refl _
  · exact getPreKeyBundleInternal_queueGrows _ _ _ _ _ _ _ _

theorem Client.consumeAddGroupMemberDeviceResponse_queueGrows (client : Client β)
    (delivery : BundleDelivery β) (outbound : Option (GroupSession β))
    (response : AddGroupMemberDeviceResponse β) :
    client.store.QueueGrows (client.consumeAddGroupMemberDeviceResponse platform delivery outbound
      response).store := by
  unfold Client.consumeAddGroupMemberDeviceResponse
  split
  · exact sendGroupUpdateKeyBundle_queueGrows _ _ _ _ _ _
  · exact .refl _

/-- Sending a request again can queue further requests, but it drops none. -/
theorem resendRequest_queueGrows (userAddress : E2eeAddress) (reply : ResendReply β)
    (client : Client β) (request : PendingRequest β) :
    client.store.QueueGrows
      (resendRequest platform userAddress reply client request).2.store := by
  cases request with
  | getPreKeyBundle request active groupPreKeyPlaintext =>
      exact consumeBundleReply_queueGrows _ _ _ _ _ _ _
  | invite msg => exact .of_eq (consumeInviteResponse_pending _ _ _)
  | accept msg => exact .refl _
  | sendOne2oneMsg msg => exact .refl _
  | addGroupMemberDevice msg =>
      simp only [resendRequest]
      split
      · exact client.consumeAddGroupMemberDeviceResponse_queueGrows _ _ _ _
      · exact .refl _
  | protoMsg receiver protoMsgId => exact .refl _

end Growing

section Remaining

/-- These are the entries of the old queue that were not unloaded. -/
def remainingRequests (requests : List (PendingRequest β)) (unloaded : List Bool) :
    List (PendingRequest β) :=
  ((requests.zip unloaded).filter fun entry => !entry.2).map Prod.fst

/-- A handled request leaves the queue or stays at its place, and newer ones come behind. -/
theorem drainStep_queue {handled : Bool × Client β} {client : Client β} {userAddress : E2eeAddress}
    {keptBefore rest added : List (PendingRequest β)} {request : PendingRequest β}
    (grows : client.store.QueueGrows handled.2.store)
    (queue : client.store.pendingRequests userAddress = keptBefore ++ request :: rest ++ added) :
    ∃ more, (∀ other ∈ more, PendingRequest.addsDevice other = false) ∧
      (if handled.1 then handled.2.unloadPendingRequest userAddress keptBefore.length
        else handled.2).store.pendingRequests userAddress =
          keptBefore ++ (if handled.1 then [] else [request]) ++ rest ++ (added ++ more) := by
  obtain ⟨more, grown, kinds⟩ := grows userAddress
  rw [queue] at grown
  refine ⟨more, kinds, ?_⟩
  cases handled.1 with
  | true => simp [Client.unloadPendingRequest, grown, List.eraseIdx_append_of_length_le]
  | false => simp [grown]

/-- The loop keeps the requests that it was told to keep, in their order, and all newer ones. -/
theorem drainRequests_queue
    {handle : ResendReply β → Client β → PendingRequest β → Bool × Client β}
    (grows : ∀ (reply : ResendReply β) (client : Client β) (request : PendingRequest β),
      client.store.QueueGrows (handle reply client request).2.store)
    {userAddress : E2eeAddress} (requests : List (PendingRequest β))
    (replies : Nat → ResendReply β) (keptBefore added : List (PendingRequest β))
    (client : Client β)
    (queue : client.store.pendingRequests userAddress = keptBefore ++ requests ++ added) :
    let result := drainRequests handle userAddress replies requests keptBefore.length client
    ∃ addedLater, result.1.store.pendingRequests userAddress =
      keptBefore ++ remainingRequests requests result.2 ++ addedLater := by
  induction requests generalizing replies keptBefore added client with
  | nil =>
      refine ⟨added, ?_⟩
      simpa [drainRequests, remainingRequests] using queue
  | cons request rest ih =>
      obtain ⟨more, -, step⟩ := drainStep_queue (grows (replies 0) client request) queue
      cases done : (handle (replies 0) client request).1 with
      | true =>
          rw [done, if_pos rfl, if_pos rfl, List.append_nil] at step
          obtain ⟨addedLater, result⟩ := ih (fun index => replies (index + 1)) keptBefore
            (added ++ more) _ step
          refine ⟨addedLater, ?_⟩
          simp only [drainRequests, done, if_true, result]
          simp [remainingRequests]
      | false =>
          rw [done, if_neg Bool.false_ne_true, if_neg Bool.false_ne_true] at step
          obtain ⟨addedLater, result⟩ := ih (fun index => replies (index + 1))
            (keptBefore ++ [request]) (added ++ more) _ step
          refine ⟨addedLater, ?_⟩
          rw [List.length_append, List.length_singleton] at result
          simp only [drainRequests, done, Bool.false_eq_true, if_false, result]
          simp [remainingRequests]

end Remaining

section Agreement

/-- The same answers are given to all requests on the direct path. -/
def sendPendingDirectly (platform : Platform β) (replies : Nat → ResendReply β)
    (client : Client β) (userAddress : E2eeAddress) : Client β × List Bool :=
  drainRequests (sendDirectly platform userAddress) userAddress replies
    (client.store.pendingRequests userAddress) 0 client

/-- The same entries of the old queue remain, and both tables of sessions are the same. -/
structure ResendAgrees (resent direct : Client β × List Bool) : Prop where
  unloaded : resent.2 = direct.2
  sessions : resent.1.store.sessions = direct.1.store.sessions
  groups : resent.1.groups = direct.1.groups

/-- The two copies of the code classify these answers differently: a request for bundles without an
answer, and all other kinds, except an invitation and its answer, when nothing is found. -/
def ResendReply.Disputed (reply : ResendReply β) : PendingRequest β → Prop
  | .getPreKeyBundle _ _ _ => reply.bundles.response = none
  | .invite _ => False
  | .accept _ => False
  | .sendOne2oneMsg _ => reply.send = some ⟨.notFound⟩
  | .addGroupMemberDevice _ =>
      ∃ response, reply.addDevice = some response ∧ response.code = .notFound
  | .protoMsg _ _ => reply.consumed = some ⟨.notFound⟩

variable (platform : Platform β) (userAddress : E2eeAddress)

/-- On all other answers both copies do the same. -/
theorem resendRequest_undisputed {reply : ResendReply β} {request : PendingRequest β}
    (undisputed : ¬ reply.Disputed request) (client : Client β) :
    resendRequest platform userAddress reply client request =
      sendDirectly platform userAddress reply client request := by
  cases request with
  | getPreKeyBundle request active groupPreKeyPlaintext =>
      simp only [ResendReply.Disputed] at undisputed
      obtain ⟨response, answered⟩ := Option.ne_none_iff_exists'.mp undisputed
      simp [resendRequest, sendDirectly, answered]
  | invite msg => rfl
  | accept msg => rfl
  | sendOne2oneMsg msg =>
      simp only [ResendReply.Disputed] at undisputed
      rcases answered : reply.send with _ | ⟨_ | _ | _⟩
      · simp [resendRequest, sendDirectly, answered]
      · simp [resendRequest, sendDirectly, answered]
      · exact absurd answered undisputed
      · simp [resendRequest, sendDirectly, answered]
  | addGroupMemberDevice msg =>
      simp only [ResendReply.Disputed, not_exists, not_and] at undisputed
      have found : (reply.addDevice.any fun response => response.code == .notFound) = false := by
        cases answered : reply.addDevice with
        | none => rfl
        | some response => simpa using undisputed response answered
      cases answered : reply.addDevice.filter isValidAddGroupMemberDeviceResponse with
      | none => simp [resendRequest, sendDirectly, found, answered]
      | some response => simp [resendRequest, sendDirectly, answered]
  | protoMsg receiver protoMsgId =>
      simp only [ResendReply.Disputed] at undisputed
      rcases answered : reply.consumed with _ | ⟨_ | _ | _⟩
      · simp [resendRequest, sendDirectly, answered]
      · simp [resendRequest, sendDirectly, answered]
      · exact absurd answered undisputed
      · simp [resendRequest, sendDirectly, answered]

/-- On a disputed answer one copy is done with the request and the other one keeps it. -/
theorem resendRequest_disputed {reply : ResendReply β} {request : PendingRequest β}
    (disputed : reply.Disputed request) (client : Client β) :
    (resendRequest platform userAddress reply client request).1 ≠
      (sendDirectly platform userAddress reply client request).1 := by
  cases request with
  | getPreKeyBundle request active groupPreKeyPlaintext =>
      have unanswered : reply.bundles.response = none := disputed
      simp [resendRequest, sendDirectly, unanswered, consumeBundleReply]
  | invite msg => exact disputed.elim
  | accept msg => exact disputed.elim
  | sendOne2oneMsg msg =>
      have answered : reply.send = some ⟨.notFound⟩ := disputed
      simp [resendRequest, sendDirectly, answered]
  | addGroupMemberDevice msg =>
      obtain ⟨response, answered, gone⟩ := disputed
      have refused : (some response).filter isValidAddGroupMemberDeviceResponse = none := by
        simp [isValidAddGroupMemberDeviceResponse, gone]
      simp [resendRequest, sendDirectly, answered, gone, refused]
  | protoMsg receiver protoMsgId =>
      have answered : reply.consumed = some ⟨.notFound⟩ := disputed
      simp [resendRequest, sendDirectly, answered]

/-- Both loops run alike exactly as long as no answer is disputed. -/
theorem drainRequests_agree_iff (requests : List (PendingRequest β))
    (replies : Nat → ResendReply β) (kept : Nat) (client : Client β) :
    ResendAgrees
        (drainRequests (resendRequest platform userAddress) userAddress replies requests kept
          client)
        (drainRequests (sendDirectly platform userAddress) userAddress replies requests kept
          client) ↔
      ∀ index request, requests[index]? = some request → ¬ (replies index).Disputed request := by
  induction requests generalizing replies kept client with
  | nil => simpa using ⟨rfl, rfl, rfl⟩
  | cons request rest ih =>
      by_cases disputed : (replies 0).Disputed request
      · constructor
        · rintro ⟨unloaded, -, -⟩
          have first := (List.cons.inj unloaded).1
          exact absurd first (resendRequest_disputed platform userAddress disputed client)
        · intro undisputed
          exact absurd disputed (undisputed 0 request rfl)
      · have same := resendRequest_undisputed platform userAddress disputed client
        have later := ih (fun index => replies (index + 1))
          (if (sendDirectly platform userAddress (replies 0) client request).1 then kept
            else kept + 1)
          (if (sendDirectly platform userAddress (replies 0) client request).1 then
            (sendDirectly platform userAddress (replies 0) client
              request).2.unloadPendingRequest userAddress kept
            else (sendDirectly platform userAddress (replies 0) client request).2)
        simp only [drainRequests, same]
        constructor
        · rintro ⟨unloaded, sessions, groups⟩ index other found
          cases index with
          | zero =>
              cases found
              exact disputed
          | succ index =>
              exact later.mp ⟨(List.cons.inj unloaded).2, sessions, groups⟩ index other found
        · intro undisputed
          obtain ⟨unloaded, sessions, groups⟩ := later.mpr fun index other found =>
            undisputed (index + 1) other found
          exact ⟨by rw [unloaded], sessions, groups⟩

/-- The queue is resent as the direct path would have sent it exactly when no answer is disputed. -/
theorem resendPendingRequest_agrees_iff (replies : Nat → ResendReply β) (client : Client β) :
    let requests := client.store.pendingRequests userAddress
    let resent := resendPendingRequest platform replies client userAddress
    (∃ added, resent.1.store.pendingRequests userAddress =
      remainingRequests requests resent.2 ++ added) ∧
      (ResendAgrees resent (sendPendingDirectly platform replies client userAddress) ↔
        ∀ index request, requests[index]? = some request →
          ¬ (replies index).Disputed request) := by
  intro requests resent
  refine ⟨?_, drainRequests_agree_iff platform userAddress _ _ _ _⟩
  have queue : client.store.pendingRequests userAddress = [] ++ requests ++ [] := by
    simp [requests]
  exact drainRequests_queue (resendRequest_queueGrows platform userAddress) requests replies [] []
    client queue

end Agreement

namespace Symbolic

/-- Alice has sent a message to Bob, and no answer came. -/
def unansweredClient : Client FreeTerm :=
  { waitingClient [] with
    store := (sendOne2oneMsgInternal handshake.getE2eesPack ⟨"auth", none⟩
      (waitingClient []).store completedSession [.byte 1]).store }

/-- The server now answers that the device of Bob is gone. -/
def goneReply : ResendReply FreeTerm where
  bundles := noReply
  invite := none
  accept := none
  send := some ⟨.notFound⟩
  addDevice := none
  delivery := ⟨⟨"", none⟩, "", noReply⟩
  consumed := none

end Symbolic

open Symbolic in
/-- The request stays in the queue and the session stays in the store, which the direct path would
have dropped. -/
theorem gone_request_kept :
    let resent := resendPendingRequest platform (fun _ => goneReply) unansweredClient aliceAddress
    let direct := sendPendingDirectly platform (fun _ => goneReply) unansweredClient aliceAddress
    (unansweredClient.store.pendingRequests aliceAddress).length = 1 ∧
      resent.1.store.pendingRequests aliceAddress =
        unansweredClient.store.pendingRequests aliceAddress ∧
      (resent.1.store.sessions.load "session" aliceAddress).isSome = true ∧
      direct.1.store.pendingRequests aliceAddress = [] ∧
      direct.1.store.sessions.load "session" aliceAddress = none ∧
      ¬ ResendAgrees resent direct := by
  refine ⟨by decide, by decide, by decide, by decide, by decide, ?_⟩
  intro agrees
  have unloaded := agrees.unloaded
  revert unloaded
  decide

end E2eeSecurity
