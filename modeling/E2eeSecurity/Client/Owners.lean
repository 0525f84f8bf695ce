/-
This file gives the rule for relations that let a client change what belongs to some addresses, and
follows it through every handler and every call.
-/
import E2eeSecurity.Client.Processing
import E2eeSecurity.Group.Owners

namespace E2eeSecurity

variable {β : Type}

/-- A relation of this kind holds when a table changes for the given addresses only. -/
structure ClientFrame (acts : E2eeAddress → Prop) (related : Client β → Client β → Prop) :
    Prop where
  refl : ∀ client, related client client
  trans : ∀ {before between after}, related before between → related between after →
    related before after
  sessions : ∀ (client : Client β) sessions, (∀ sessionId address, ¬ acts address →
    sessions.load sessionId address = client.store.sessions.load sessionId address) →
    related client { client with store := { client.store with sessions := sessions } }
  requests : ∀ (client : Client β) pendingRequests, (∀ owner, ¬ acts owner →
    pendingRequests owner = client.store.pendingRequests owner) →
    related client
      { client with store := { client.store with pendingRequests := pendingRequests } }
  plaintexts : ∀ (client : Client β) pendingPlaintexts, (∀ ourAddress, ¬ acts ourAddress →
    pendingPlaintexts ourAddress = client.pendingPlaintexts ourAddress) →
    related client { client with pendingPlaintexts := pendingPlaintexts }
  groups : ∀ (client : Client β) owner groups, acts owner →
    client.groups.OthersKept owner groups → related client { client with groups := groups }
  mark : ∀ (client : Client β) address opkId, acts address →
    related client { client with store := client.store.updateOneTimePreKey address opkId }
  supply : ∀ (client : Client β) address keys, acts address →
    related client { client with store := client.store.addOneTimePreKeys address keys }

/-- The database lists sessions of the address that asks. -/
structure Platform.LoadsFor (platform : Platform β) (acts : E2eeAddress → Prop) : Prop where
  many : ∀ sessions ourAddress userId domain, acts ourAddress →
    ∀ session ∈ platform.loadOutboundSessions sessions ourAddress userId domain,
      acts session.ourAddress
  one : ∀ sessions ourAddress theirAddress session, acts ourAddress →
    platform.loadOutboundSession sessions ourAddress theirAddress = some session →
      acts session.ourAddress

/-- The accounts of these addresses name addresses of this kind. -/
def Client.Homes (client : Client β) (acts : E2eeAddress → Prop) : Prop :=
  ∀ owner account address, acts owner → client.store.account owner = some account →
    account.address = some address → acts address

namespace ClientFrame

variable {acts : E2eeAddress → Prop} {related : Client β → Client β → Prop}
  (frame : ClientFrame acts related) {getE2eesPack : Packs β}

include frame

section Tables

theorem storeSession (client : Client β) {session : Session β} (ours : acts session.ourAddress) :
    related client { client with store := client.store.storeSession session } := by
  apply frame.sessions
  intro sessionId address other
  have different : address ≠ session.ourAddress := fun same => other (same ▸ ours)
  simp [SessionStore.store, different]

/-- Both calls that drop sessions look at our address. -/
theorem dropSessions (client : Client β) {sessions : SessionStore β} {keep : Session β → Bool}
    (kept : ∀ session : Session β, ¬ acts session.ourAddress → keep session = true)
    (filtered : ∀ sessionId address, sessions.load sessionId address =
      (client.store.sessions.load sessionId address).filter keep) :
    related client { client with store := { client.store with sessions := sessions } } := by
  apply frame.sessions
  intro sessionId address other
  rw [filtered]
  cases found : client.store.sessions.load sessionId address with
  | none => rfl
  | some session =>
      apply Option.filter_some_pos
      apply kept
      rw [(client.store.sessions.keyed sessionId address session found).2]
      exact other

theorem unloadSession (client : Client β) {ourAddress : E2eeAddress} (ours : acts ourAddress)
    (theirAddress : E2eeAddress) :
    related client
      { client with store := client.store.unloadSession ourAddress theirAddress } := by
  refine frame.dropSessions client ?_ fun _ _ => rfl
  intro session other
  have different : session.ourAddress ≠ ourAddress := fun same => other (same ▸ ours)
  simp [different]

theorem unloadOldSession (client : Client β) {ourAddress : E2eeAddress} (ours : acts ourAddress)
    (theirAddress : E2eeAddress) (inviteT : Int) :
    related client
      { client with store := client.store.unloadOldSession ourAddress theirAddress inviteT } := by
  refine frame.dropSessions client ?_ fun _ _ => rfl
  intro session other
  have different : session.ourAddress ≠ ourAddress := fun same => other (same ▸ ours)
  simp [different]

theorem queue (client : Client β) {address : E2eeAddress} (ours : acts address)
    (request : PendingRequest β) :
    related client (client.storePendingRequest address request) := by
  apply frame.requests
  intro owner other
  have different : owner ≠ address := fun same => other (same ▸ ours)
  simp [different]

theorem unqueue (client : Client β) {address : E2eeAddress} (ours : acts address) (index : Nat) :
    related client (client.unloadPendingRequest address index) := by
  apply frame.requests
  intro owner other
  have different : owner ≠ address := fun same => other (same ▸ ours)
  simp [different]

theorem wait (client : Client β) {fromAddress : E2eeAddress} (ours : acts fromAddress)
    (toAddress : E2eeAddress) (entry : PendingPlaintext β) :
    related client (client.storePendingPlaintextData fromAddress toAddress entry) := by
  apply frame.plaintexts
  intro ourAddress other
  have different : ourAddress ≠ fromAddress := fun same => other (same ▸ ours)
  simp [different]

theorem unwait (client : Client β) {fromAddress : E2eeAddress} (ours : acts fromAddress)
    (toAddress : E2eeAddress) (pendingPlaintextId : String) :
    related client
      (client.unloadPendingPlaintextData fromAddress toAddress pendingPlaintextId) := by
  apply frame.plaintexts
  intro ourAddress other
  have different : ourAddress ≠ fromAddress := fun same => other (same ▸ ours)
  simp [different]

end Tables

section Sessions

theorem inviteResponse (client : Client β) {userAddress : E2eeAddress} (ours : acts userAddress)
    (response : Option InviteResponse) :
    related client
      { client with store := (consumeInviteResponse client.store userAddress response).2 } := by
  obtain same | ⟨sessionId, session, inviteT, loaded, changed⟩ :=
    consumeInviteResponse_cases client.store userAddress response
  · rw [same]
    exact frame.refl client
  · rw [changed]
    apply frame.storeSession client
    rw [(client.store.sessions.keyed _ _ _ loaded).2]
    exact ours

theorem inviteInternal (client : Client β) (invite : InviteMsg β → Option InviteResponse)
    {session : Session β} (ours : acts session.ourAddress) :
    related client
      { client with
        store := (inviteInternal getE2eesPack invite client.store session).2.1 } := by
  have consumed := frame.inviteResponse client ours (invite (produceInviteRequest session))
  unfold E2eeSecurity.inviteInternal
  split
  · dsimp only
    split
    · exact consumed
    · exact frame.trans consumed (frame.queue _ ours _)
  · exact frame.refl client

theorem newSession (client : Client β) (invite : InviteMsg β → Option InviteResponse)
    {sender : E2eeAddress} (ours : acts sender) (bundle : PreKeyBundle β) (draw : OutboundDraw β) :
    related client
      { client with
        store := (pqcNewOutboundSessionV2 getE2eesPack invite client.store sender bundle
          draw).2.1 } := by
  unfold pqcNewOutboundSessionV2
  split
  next account cipherSuite _ _ =>
    have own : acts (outboundSession cipherSuite account sender bundle draw).ourAddress := ours
    split
    · exact frame.trans (frame.storeSession client own) (frame.inviteInternal _ invite own)
    · exact frame.refl client
  · exact frame.refl client

theorem sendResponse (client : Client β) {session : Session β} (ours : acts session.ourAddress)
    (response : Option SendOne2oneMsgResponse) :
    related client
      { client with
        store := (consumeSendOne2oneMsgResponse client.store session response).2 } := by
  rcases response with _ | ⟨_ | _ | _⟩
  · exact frame.storeSession client ours
  · exact frame.storeSession client ours
  · exact frame.unloadSession client ours _
  · exact frame.storeSession client ours

theorem send (client : Client β) (attempt : SendAttempt) {session : Session β}
    (ours : acts session.ourAddress) (data : Bytes β) :
    related client
      { client with
        store := (sendOne2oneMsgInternal getE2eesPack attempt client.store session
          data).store } := by
  unfold sendOne2oneMsgInternal
  split
  next ratchet cipherSuite _ _ =>
    let moved : Session β := { session with
      ratchet := some (encryptRatchet cipherSuite ratchet session.associatedData (some data)).2 }
    have own : acts moved.ourAddress := ours
    have consumed := frame.sendResponse client own attempt.response
    dsimp only
    split
    · split
      · split
        · exact consumed
        · exact frame.trans consumed (frame.queue _ ours _)
      · exact frame.refl client
    · exact frame.refl client
  · exact frame.refl client

/-- Requests for bundles take steps of this kind only. -/
theorem bundle {platform : Platform β} (loads : platform.LoadsFor acts) :
    BundleFrame platform acts related where
  refl := frame.refl
  trans _ _ _ := frame.trans
  loaded := loads.many
  newSession client invite _ bundle draw ours := frame.newSession client invite ours bundle draw
  send client attempt _ data ours := frame.send client attempt ours data
  wait client _ toAddress entry ours := frame.wait client ours toAddress entry
  queue client _ request ours := frame.queue client ours request

theorem pendingPlaintexts (attempts : Nat → SendAttempt) (pending : List (PendingPlaintext β))
    (client : Client β) {session : Session β} (ours : acts session.ourAddress) :
    related client
      (sendPendingPlaintexts getE2eesPack attempts pending client session).1 := by
  induction pending generalizing attempts client session with
  | nil => exact frame.refl client
  | cons entry rest ih =>
      rw [sendPendingPlaintexts_cons]
      have own : acts (sendOne2oneMsgInternal getE2eesPack (attempts 0) client.store session
          entry.plaintextData).session.ourAddress := by
        rw [(sendOne2oneMsgInternal_addresses ..).1]
        exact ours
      exact frame.trans (frame.send client (attempts 0) ours entry.plaintextData)
        (frame.trans (frame.unwait _ ours _ _) (ih _ _ own))

theorem acceptMsg (attempts : Nat → SendAttempt) (client : Client β)
    {receiverAddress : E2eeAddress} (ours : acts receiverAddress) (msg : AcceptMsg β)
    (coins : Bytes β) :
    related client (consumeAcceptMsg getE2eesPack attempts client receiverAddress msg coins) := by
  unfold consumeAcceptMsg
  split
  next checks =>
    simp only [Bool.and_eq_true, decide_eq_true_eq] at checks
    by_cases passes : ∃ session, AcceptPasses getE2eesPack client.store msg session
    · obtain ⟨session, passes⟩ := passes
      obtain ⟨cipherSuite, completed, -, reset, result⟩ :=
        pqcCompleteOutboundSession_passes passes coins
      have own : acts completed.ourAddress := by
        obtain ⟨_, _, _, _, _, _, _, _, rfl⟩ := reset
        show acts session.ourAddress
        rw [(client.store.sessions.keyed _ _ _ passes.2.1).2, ← checks.2]
        exact ours
      rw [result]
      exact frame.trans (frame.storeSession client own)
        (frame.pendingPlaintexts attempts _ _ own)
    · rw [pqcCompleteOutboundSession_refused (not_exists.mp passes)]
      exact frame.refl client
  · exact frame.refl client

theorem acceptInternal (client : Client β) (accept : AcceptMsg β → Option AcceptResponse)
    {msg : AcceptMsg β} (ours : acts msg.sender) :
    related client
      { client with store := (acceptInternal getE2eesPack accept client.store msg).2.1 } := by
  unfold E2eeSecurity.acceptInternal
  split
  · split
    · exact frame.refl client
    · exact frame.queue client ours _
  · exact frame.refl client

theorem inviteMsg (client : Client β) (homes : client.Homes acts)
    (accept : AcceptMsg β → Option AcceptResponse) {receiverAddress : E2eeAddress}
    (ours : acts receiverAddress) (msg : InviteMsg β) (coins : InboundCoins β) :
    related client
      { client with
        store := consumeInviteMsg getE2eesPack accept client.store receiverAddress msg
          coins } := by
  unfold consumeInviteMsg
  split
  next checks =>
    simp only [Bool.and_eq_true, decide_eq_true_eq] at checks
    have receiver : acts msg.receiver := by
      rw [← checks.1.2]
      exact ours
    split
    next account found =>
      rw [pqcNewInboundSession_outcome]
      cases chosen : inboundKeys getE2eesPack client.store account msg with
      | none => exact frame.refl client
      | some keys =>
          have marked : related client { client with
              store := client.store.markChosen keys.address keys.oneTimePreKey } := by
            cases keys.oneTimePreKey with
            | none => exact frame.refl client
            | some key =>
                apply frame.mark
                exact homes _ account _ receiver (Option.filter_eq_some_iff.mp found).1
                  (inboundKeys_some chosen).2.2.1
          dsimp only
          cases keys.ratchet account msg coins with
          | none => exact marked
          | some ratchet =>
              have own : acts (keys.session account msg ratchet).ourAddress := receiver
              have answered : acts (keys.answer account msg coins ratchet).sender := receiver
              exact frame.trans (frame.trans marked (frame.storeSession _ own))
                (frame.acceptInternal _ accept answered)
    · exact frame.refl client
  · exact frame.refl client

end Sessions

end ClientFrame

section Deliveries

variable {platform : Platform β} {acts : E2eeAddress → Prop}
  {related : Client β → Client β → Prop} (frame : BundleFrame platform acts related)

include frame

theorem BundleFrame.visitSessions (skips : Session β → Bool) (data : Bytes β)
    {sessions : List (Session β)} (ours : ∀ session ∈ sessions, acts session.ourAddress)
    (steps : Nat → SyncStep) (client : Client β) :
    related client
      (visitSessions platform.getE2eesPack skips data steps sessions client).client := by
  induction sessions generalizing steps client with
  | nil => exact frame.refl client
  | cons session rest ih =>
      rw [List.forall_mem_cons] at ours
      rw [E2eeSecurity.visitSessions]
      apply frame.trans _ _ _ _ (ih ours.2 _ _)
      split
      · exact frame.refl client
      · unfold visitSession
        split
        · exact frame.send client _ session data ours.1
        · exact frame.wait client _ _ _ ours.1

theorem BundleFrame.sendToMember {sessionOwner : E2eeAddress} (ours : acts sessionOwner)
    (auth : String) (data : Bytes β) (reply : MemberReply β) (client : Client β)
    (member : GroupMember) :
    related client
      (sendToMember platform sessionOwner auth data reply client member).client := by
  unfold E2eeSecurity.sendToMember
  dsimp only
  split
  · exact frame.getPreKeyBundleInternal ours reply.bundles client auth _ true (some data)
  · exact frame.visitSessions _ data (frame.loaded _ _ _ _ ours) reply.steps client

theorem BundleFrame.sendToMembers {sessionOwner : E2eeAddress} (ours : acts sessionOwner)
    (auth : String) (data : Bytes β) (members : List GroupMember) (replies : Nat → MemberReply β)
    (client : Client β) :
    related client
      (sendToMembers platform sessionOwner auth data replies members client).client := by
  induction members generalizing replies client with
  | nil => exact frame.refl client
  | cons member rest ih =>
      rw [E2eeSecurity.sendToMembers]
      exact frame.trans _ _ _ (frame.sendToMember ours auth data (replies 0) client member)
        (ih _ _)

theorem BundleFrame.sendOne2oneMsg (packPlaintext : Plaintext β → Bytes β) (client : Client β)
    (call : SendCall β) (ours : acts call.fromAddress) :
    related client (sendOne2oneMsg platform packPlaintext client call).2.1 := by
  have sent : related client (sendToUser platform packPlaintext client call).client := by
    unfold sendToUser
    dsimp only
    split
    · exact frame.wait client _ _ _ ours
    · exact frame.visitSessions _ _ (frame.loaded _ _ _ _ ours) call.steps client
  exact frame.trans _ _ _ sent
    (frame.visitSessions _ _ (frame.loaded _ _ _ _ ours) call.syncSteps _)

theorem BundleFrame.sendGroupUpdateKeyBundle (loads : platform.LoadsFor acts)
    (delivery : BundleDelivery β) (client : Client β) {sessionOwner : E2eeAddress}
    (ours : acts sessionOwner) (newDeviceAddress : E2eeAddress) (bundle : GroupUpdateKeyBundle β) :
    related client (sendGroupUpdateKeyBundle platform delivery client sessionOwner
      newDeviceAddress bundle) := by
  unfold E2eeSecurity.sendGroupUpdateKeyBundle
  dsimp only
  split
  next session found =>
    have own := loads.one _ _ _ session ours found
    split
    · exact frame.send client delivery.attempt session _ own
    · exact frame.wait client _ _ _ own
  · exact frame.getPreKeyBundleInternal ours delivery.reply client _ _ false _

end Deliveries

/-- A delivery leaves the group sessions alone. -/
theorem sameGroups_frame (platform : Platform β) :
    BundleFrame platform (fun _ => True) fun before after => after.groups = before.groups where
  refl _ := rfl
  trans _ _ _ first second := Eq.trans second first
  loaded _ _ _ _ _ _ _ := trivial
  newSession _ _ _ _ _ _ := rfl
  send _ _ _ _ _ := rfl
  wait _ _ _ _ _ := rfl
  queue _ _ _ _ := rfl

theorem Platform.loadsFor_all (platform : Platform β) : platform.LoadsFor fun _ => True where
  many _ _ _ _ _ _ _ := trivial
  one _ _ _ _ _ _ := trivial

namespace ClientFrame

variable {acts : E2eeAddress → Prop} {related : Client β → Client β → Prop}
  (frame : ClientFrame acts related) {platform : Platform β} (loads : platform.LoadsFor acts)

include frame loads

section Groups

omit loads in
/-- The bundle of a changed group goes out before the group sessions are stored. -/
theorem delivered {client sent : Client β} (delivery : related client sent)
    (same : sent.groups = client.groups) {owner : E2eeAddress} (ours : acts owner)
    {groups : GroupStore β} (kept : client.groups.OthersKept owner groups) :
    related client { sent with groups := groups } := by
  apply frame.trans delivery
  apply frame.groups sent owner groups ours
  rw [same]
  exact kept

theorem deliverBundle (client : Client β) {sessionOwner : E2eeAddress} (ours : acts sessionOwner)
    (data : Bytes β) (replies : Nat → MemberReply β) (members : List GroupMember)
    {groups : GroupStore β} (kept : client.groups.OthersKept sessionOwner groups) :
    related client
      (client.deliverBundle platform sessionOwner data replies members groups).client :=
  frame.delivered ((frame.bundle loads).sendToMembers ours _ data members replies client)
    ((sameGroups_frame platform).sendToMembers trivial _ data members replies client) ours kept

theorem createGroup (packPlaintext : Plaintext β → Bytes β) (client : Client β)
    (respond : CreateGroupRequest → Option (CreateGroupResponse β)) (draw : OutboundGroupDraw β)
    {senderAddress : E2eeAddress} (ours : acts senderAddress) (groupName : String)
    (groupMembers : List GroupMember) :
    related client (client.createGroup platform packPlaintext respond draw senderAddress groupName
      groupMembers).client := by
  unfold Client.createGroup
  split
  · split
    · split
      · unfold Client.consumeCreateGroupResponse
        split
        next groups bundle made =>
          exact frame.deliverBundle loads client ours _ _ _ (createGroupResponse_othersKept made)
        · exact frame.refl client
      · exact frame.refl client
    · exact frame.refl client
  · exact frame.refl client

theorem addGroupMembers (client : Client β)
    (respond : AddGroupMembersMsg β → Option (AddGroupMembersResponse β))
    (replies : Nat → MemberReply β) {senderAddress : E2eeAddress} (ours : acts senderAddress)
    (groupAddress : E2eeAddress) (addingMembers : List GroupMember) :
    related client (client.addGroupMembers platform respond replies senderAddress groupAddress
      addingMembers).client := by
  unfold Client.addGroupMembers
  split
  · split
    next outbound loaded =>
      obtain ⟨-, sender, owner, -⟩ := loadOutboundGroupSession_some loaded
      split
      · unfold Client.consumeAddGroupMembersResponse
        split
        next groups bundle made =>
          apply frame.deliverBundle loads client (owner ▸ ours)
          exact addGroupMembersResponse_othersKept (sender.trans owner.symm) made
        · exact frame.refl client
      · exact frame.refl client
    · exact frame.refl client
  · exact frame.refl client

theorem addGroupMembersMsg (client : Client β) (replies : Nat → MemberReply β)
    {receiverAddress : E2eeAddress} (ours : acts receiverAddress) (msg : AddGroupMembersMsg β) :
    related client
      (client.consumeAddGroupMembersMsg platform replies receiverAddress msg) := by
  have kept := @addMsg_othersKept β platform.getE2eesPack client.groups client.store
    receiverAddress (.members msg)
  unfold Client.consumeAddGroupMembersMsg
  split
  next groups bundle consumed =>
    rw [GroupAddMsg.consume, consumed] at kept
    exact frame.deliverBundle loads client ours _ _ _ kept
  · exact frame.refl client

theorem addGroupMemberDeviceMsg (client : Client β) (delivery : BundleDelivery β)
    {receiverAddress : E2eeAddress} (ours : acts receiverAddress)
    (msg : AddGroupMemberDeviceMsg β) :
    related client
      (client.consumeAddGroupMemberDeviceMsg platform delivery receiverAddress msg) := by
  have kept := @addMsg_othersKept β platform.getE2eesPack client.groups client.store
    receiverAddress (.device msg)
  unfold Client.consumeAddGroupMemberDeviceMsg
  split
  next groups bundle consumed =>
    rw [GroupAddMsg.consume, consumed] at kept
    exact frame.delivered
      ((frame.bundle loads).sendGroupUpdateKeyBundle loads delivery client ours _ bundle)
      ((sameGroups_frame platform).sendGroupUpdateKeyBundle platform.loadsFor_all delivery client
        trivial _ bundle) ours kept
  · exact frame.refl client

theorem addGroupMemberDeviceResponse (client : Client β) (delivery : BundleDelivery β)
    {outbound : GroupSession β} (own : outbound.sender = outbound.sessionOwner)
    (ours : acts outbound.sessionOwner) (response : AddGroupMemberDeviceResponse β) :
    related client (client.consumeAddGroupMemberDeviceResponse platform delivery (some outbound)
      response) := by
  unfold Client.consumeAddGroupMemberDeviceResponse
  split
  next session groups bundle found =>
    rw [Option.bind_some, Option.map_eq_some_iff] at found
    obtain ⟨result, made, same⟩ := found
    simp only [Prod.mk.injEq] at same
    obtain ⟨rfl, rfl⟩ := same
    exact frame.delivered
      ((frame.bundle loads).sendGroupUpdateKeyBundle loads delivery client ours _ bundle)
      ((sameGroups_frame platform).sendGroupUpdateKeyBundle platform.loadsFor_all delivery client
        trivial _ bundle) ours (addGroupMemberDeviceResponse_othersKept own made)
  · exact frame.refl client

theorem addGroupMemberDevice (client : Client β)
    (respond : AddGroupMemberDeviceMsg β → Option (AddGroupMemberDeviceResponse β))
    (delivery : BundleDelivery β) {senderAddress : E2eeAddress} (ours : acts senderAddress)
    (groupAddress newDeviceAddress : E2eeAddress) :
    related client (client.addGroupMemberDeviceInternal platform respond delivery senderAddress
      groupAddress newDeviceAddress).1 := by
  unfold Client.addGroupMemberDeviceInternal
  split
  · split
    next outbound loaded =>
      obtain ⟨-, sender, owner, -⟩ := loadOutboundGroupSession_some loaded
      dsimp only
      split
      · exact frame.addGroupMemberDeviceResponse loads client delivery (sender.trans owner.symm)
          (owner ▸ ours) _
      · exact frame.queue client ours _
    · exact frame.refl client
  · exact frame.refl client

theorem addUserDeviceMsg (client : Client β)
    (loadGroupAddresses : E2eeAddress → E2eeAddress → List E2eeAddress)
    (replies : Nat → AddDeviceReply β) {receiverAddress : E2eeAddress}
    (ours : acts receiverAddress) (msg : AddUserDeviceMsg) :
    related client (consumeAddUserDeviceMsg platform loadGroupAddresses replies client
      receiverAddress msg).client := by
  have walk (groupAddresses : List E2eeAddress) (replies : Nat → AddDeviceReply β)
      (client : Client β) : related client (addDeviceToGroups platform receiverAddress
        msg.userAddress replies groupAddresses client).1 := by
    induction groupAddresses generalizing replies client with
    | nil => exact frame.refl client
    | cons groupAddress rest ih =>
        rw [addDeviceToGroups]
        exact frame.trans (frame.addGroupMemberDevice loads client _ _ ours groupAddress _) (ih _ _)
  unfold consumeAddUserDeviceMsg
  split
  · exact walk _ replies client
  · exact frame.refl client

theorem removeGroupMembers (packPlaintext : Plaintext β → Bytes β) (client : Client β)
    (respond : RemoveGroupMembersRequest → Option (RemoveGroupMembersResponse β))
    (draw : OutboundGroupDraw β) {senderAddress : E2eeAddress} (ours : acts senderAddress)
    (groupAddress : E2eeAddress) (removingMembers : List GroupMember) {outcome : GroupOutcome β}
    (returned : client.removeGroupMembers platform packPlaintext respond draw senderAddress
      groupAddress removingMembers = some outcome) : related client outcome.client := by
  unfold Client.removeGroupMembers at returned
  split at returned
  · split at returned
    next outbound loaded =>
      obtain ⟨-, -, owner, -⟩ := loadOutboundGroupSession_some loaded
      obtain ⟨request, -, rfl⟩ := Option.map_eq_some_iff.mp returned
      split
      next response _ =>
        have kept := @removeGroupMembersResponse_othersKept β platform.getE2eesPack client.groups
          client.store outbound response draw.sessionId draw.groupSeed
        rw [owner] at kept
        unfold Client.consumeRemoveGroupMembersResponse
        split
        next groups bundle consumed =>
          rw [consumed] at kept
          rw [owner]
          exact frame.deliverBundle loads client ours _ _ _ kept
        next succeeded groups consumed =>
          rw [consumed] at kept
          exact frame.groups client senderAddress groups ours kept
      · exact frame.refl client
    · obtain rfl := Option.some.inj returned
      exact frame.refl client
  · obtain rfl := Option.some.inj returned
    exact frame.refl client

end Groups

section Messages

theorem leaveGroupMsg (packPlaintext : Plaintext β → Bytes β) (client : Client β)
    (respond : RemoveGroupMembersRequest → Option (RemoveGroupMembersResponse β))
    (draw : OutboundGroupDraw β) {receiverAddress : E2eeAddress} (ours : acts receiverAddress)
    (msg : LeaveGroupMsg) {after : Client β}
    (returned : client.consumeLeaveGroupMsg platform packPlaintext respond draw receiverAddress
      msg = some after) : related client after := by
  unfold Client.consumeLeaveGroupMsg at returned
  split at returned
  · obtain ⟨outcome, removed, rfl⟩ := Option.map_eq_some_iff.mp returned
    exact frame.removeGroupMembers loads packPlaintext client respond draw ours _ _ removed
  · obtain rfl := Option.some.inj returned
    exact frame.refl client

omit loads in
theorem supplyOpksMsg (getE2eesPack : Packs β) (nextOneTimePreKeyId : UInt32)
    (coins : Nat → Bytes β) (response : Option ResponseCode) (client : Client β)
    {receiverAddress : E2eeAddress} (ours : acts receiverAddress) (msg : SupplyOpksMsg) :
    related client (consumeSupplyOpksMsg getE2eesPack nextOneTimePreKeyId coins response client
      receiverAddress msg).2 := by
  unfold consumeSupplyOpksMsg
  split
  · split
    · exact frame.supply client receiverAddress _ ours
    · exact frame.refl client
  · exact frame.refl client

omit loads in
theorem removeUserDeviceMsg (client : Client β) {receiverAddress : E2eeAddress}
    (ours : acts receiverAddress) (msg : RemoveUserDeviceMsg) :
    related client (consumeRemoveUserDeviceMsg client receiverAddress msg) := by
  unfold consumeRemoveUserDeviceMsg
  split
  · exact frame.unloadSession client ours msg.userAddress
  · exact frame.refl client

theorem inviteDevices (auth : String) {receiverAddress : E2eeAddress} (ours : acts receiverAddress)
    (domain userId : String) (devices : List String) (replies : Nat → BundleReply β)
    (client : Client β) :
    related client (inviteDevices platform auth receiverAddress domain userId replies devices
      client) := by
  induction devices generalizing replies client with
  | nil => exact frame.refl client
  | cons deviceId rest ih =>
      rw [E2eeSecurity.inviteDevices]
      exact frame.trans
        ((frame.bundle loads).getPreKeyBundleInternal ours (replies 0) client auth _ false none)
        (ih _ _)

theorem plaintext (replies : Nat → BundleReply β) (client : Client β)
    {receiverAddress : E2eeAddress} (ours : acts receiverAddress) (msg : One2oneMsg β)
    (plaintext : Plaintext β) :
    related client
      (consumePlaintext platform replies client receiverAddress msg plaintext).1 := by
  cases plaintext with
  | commonMsg data => exact frame.refl client
  | commonSyncMsg data => exact frame.refl client
  | userDevicesBundle bundle =>
      dsimp only [consumePlaintext]
      split
      · exact frame.inviteDevices loads _ ours _ _ _ replies client
      · exact frame.refl client
  | groupPreKeyBundle bundle =>
      exact frame.groups client receiverAddress _ ours
        (groupPreKeyBundle_othersKept receiverAddress bundle)
  | groupUpdateKeyBundle bundle =>
      exact frame.groups client receiverAddress _ ours
        (groupUpdateKeyBundle_othersKept receiverAddress bundle)
  | unknown => exact frame.refl client

variable [DecidableEq β]

/-- The session that opens the message is one of the receiver. -/
theorem one2oneMsg (unpack : Bytes β → Option (Plaintext β)) (replies : Nat → BundleReply β)
    (coins : Bytes β) (client : Client β) {receiverAddress : E2eeAddress}
    (ours : acts receiverAddress) (msg : One2oneMsg β) :
    related client (consumeOne2oneMsg platform unpack replies coins client receiverAddress
      msg).1 := by
  unfold consumeOne2oneMsg
  split
  · exact frame.refl client
  next data opened found =>
    obtain ⟨session, _, _, loaded, -, -, -, -, moved⟩ := openOne2oneMsg_some found
    have own : acts opened.ourAddress := by
      rw [moved, (client.store.sessions.keyed _ _ _ loaded).2]
      exact ours
    have stored := frame.trans (frame.storeSession client own)
      (frame.unloadOldSession _ ours msg.fromAddress opened.inviteT)
    dsimp only
    split
    · exact stored
    · exact frame.trans stored (frame.plaintext loads replies _ ours msg _)

/-- Every handler works for the receiver. -/
theorem consume (packing : Packing β) (answers : Answers β) (client : Client β)
    (homes : client.Homes acts) {receiver : E2eeAddress} (ours : acts receiver)
    (payload : ProtoMsgPayload β) :
    related client
      ((clientHandlers platform packing answers).consume receiver client payload).2 := by
  cases payload with
  | supplyOpksMsg msg => exact frame.supplyOpksMsg _ _ _ _ client ours msg
  | addUserDeviceMsg msg => exact frame.addUserDeviceMsg loads client _ _ ours msg
  | removeUserDeviceMsg msg => exact frame.removeUserDeviceMsg client ours msg
  | inviteMsg msg => exact frame.inviteMsg client homes answers.accept ours msg _
  | acceptMsg msg => exact frame.acceptMsg answers.attempts client ours msg _
  | one2oneMsg msg => exact frame.one2oneMsg loads _ answers.bundles _ client ours msg
  | groupMsg msg =>
      exact frame.groups client receiver _ ours (groupMsg_othersKept receiver msg)
  | emptyE2eeMsg => exact frame.refl client
  | createGroupMsg msg =>
      exact frame.groups client receiver _ ours (createGroupMsg_othersKept receiver msg)
  | addGroupMembersMsg msg => exact frame.addGroupMembersMsg loads client _ ours msg
  | addGroupMemberDeviceMsg msg => exact frame.addGroupMemberDeviceMsg loads client _ ours msg
  | removeGroupMembersMsg msg =>
      exact frame.groups client receiver _ ours (removeGroupMembersMsg_othersKept receiver msg)
  | leaveGroupMsg msg =>
      dsimp only [ProtoMsgHandlers.consume, clientHandlers]
      cases left : client.consumeLeaveGroupMsg platform packing.packPlaintext answers.removal
          answers.draw receiver msg with
      | none => exact frame.refl client
      | some after =>
          exact frame.leaveGroupMsg loads packing.packPlaintext client _ _ ours msg left
  | other => exact frame.refl client

/-- A message changes what belongs to the address that it is sent to. -/
theorem message (packing : Packing β) (answers : Answers β) (client : Client β)
    (homes : client.Homes acts) (data : Bytes β)
    (ours : ∀ msg, packing.unpackProtoMsg data = some msg → acts msg.toAddress) :
    related client (processProtoMsg platform (clientHandlers platform packing answers)
      answers.consumed packing.unpackProtoMsg client data).client := by
  unfold processProtoMsg
  split
  next msg unpacked =>
    have receiver := ours msg unpacked
    have consumed := frame.consume loads packing answers client homes receiver msg.payload
    split
    · dsimp only
      split
      · apply frame.trans consumed
        unfold notifyConsumed
        split
        · dsimp only
          split
          · exact frame.refl _
          · exact frame.refl _
          · exact frame.queue _ receiver _
          · exact frame.queue _ receiver _
        · exact frame.refl _
      · exact consumed
    · exact frame.refl client
  · exact frame.refl client

end Messages

section Runs

/-- A request that is sent again works for the address whose queue it is in. -/
theorem resendRequest (client : Client β) {userAddress : E2eeAddress} (ours : acts userAddress)
    (reply : ResendReply β) (request : PendingRequest β) :
    related client (resendRequest platform userAddress reply client request).2 := by
  cases request with
  | getPreKeyBundle request active groupPreKeyPlaintext =>
      exact (frame.bundle loads).consumeBundleReply ours reply.bundles client request active _
  | invite msg => exact frame.inviteResponse client ours reply.invite
  | accept msg => exact frame.refl client
  | sendOne2oneMsg msg => exact frame.refl client
  | addGroupMemberDevice msg =>
      dsimp only [E2eeSecurity.resendRequest]
      split
      · cases found : client.groups.loadGroupSessionByAddress userAddress userAddress
            msg.groupInfo.groupAddress with
        | none => exact frame.refl client
        | some outbound =>
            obtain ⟨member, sender⟩ := client.groups.loadGroupSessionByAddress_some found
            have owner := (client.groups.mem_loadGroupSessions.mp member).2.1
            exact frame.addGroupMemberDeviceResponse loads client reply.delivery
              (sender.trans owner.symm) (owner ▸ ours) _
      · exact frame.refl client
  | protoMsg receiver protoMsgId => exact frame.refl client

theorem resendPendingRequest (client : Client β) (replies : Nat → ResendReply β)
    {userAddress : E2eeAddress} (ours : acts userAddress) :
    related client (resendPendingRequest platform replies client userAddress).1 := by
  have drained (requests : List (PendingRequest β)) (replies : Nat → ResendReply β) (kept : Nat)
      (client : Client β) : related client (drainRequests
        (E2eeSecurity.resendRequest platform userAddress) userAddress replies requests kept
          client).1 := by
    induction requests generalizing replies kept client with
    | nil => exact frame.refl client
    | cons request rest ih =>
        rw [drainRequests]
        apply frame.trans (frame.resendRequest loads client ours (replies 0) request)
        split
        · exact frame.trans (frame.unqueue _ ours kept) (ih _ _ _)
        · exact ih _ _ _
  exact drained _ replies 0 client

variable [DecidableEq β]

/-- Every event changes what belongs to its address. -/
theorem step (packing : Packing β) {client after : Client β} (homes : client.Homes acts)
    {event : ClientEvent β} (ours : ∀ address, event.address packing = some address → acts address)
    (stepped : stepClient platform packing client event = some after) : related client after := by
  cases event with
  | message answers data =>
      simp only [stepClient, Client.processMessage] at stepped
      split at stepped
      · cases stepped
      · obtain rfl := Option.some.inj stepped
        apply frame.message loads packing answers client homes data
        intro msg unpacked
        apply ours
        rw [ClientEvent.address, unpacked]
        rfl
  | invite reply fromAddress toUserId toDomain =>
      obtain rfl := Option.some.inj stepped
      unfold Client.invite
      dsimp only
      split
      · exact (frame.bundle loads).getPreKeyBundleInternal (ours _ rfl) reply client _ _ true none
      · exact frame.refl client
  | sendOne2oneMsg call =>
      obtain rfl := Option.some.inj stepped
      exact (frame.bundle loads).sendOne2oneMsg packing.packPlaintext client call (ours _ rfl)
  | createGroup respond draw senderAddress groupName groupMembers =>
      obtain rfl := Option.some.inj stepped
      exact frame.createGroup loads _ client respond draw (ours _ rfl) groupName groupMembers
  | addGroupMembers respond replies senderAddress groupAddress addingMembers =>
      obtain rfl := Option.some.inj stepped
      exact frame.addGroupMembers loads client respond replies (ours _ rfl) groupAddress _
  | removeGroupMembers respond draw senderAddress groupAddress removingMembers =>
      obtain ⟨outcome, removed, rfl⟩ := Option.map_eq_some_iff.mp stepped
      exact frame.removeGroupMembers loads _ client respond draw (ours _ rfl) _ _ removed
  | leaveGroup respond senderAddress groupAddress =>
      obtain rfl := Option.some.inj stepped
      unfold Client.leaveGroup
      split
      · split
        · exact frame.groups client senderAddress _ (ours _ rfl)
            (leaveGroupResponse_othersKept senderAddress _)
        · exact frame.refl client
      · exact frame.refl client
  | sendGroupMsg params plaintext draw response =>
      obtain rfl := Option.some.inj stepped
      exact frame.groups client params.senderAddress _ (ours _ rfl)
        (sendGroupMsg_othersKept params plaintext draw response)
  | resendPendingRequest replies userAddress =>
      obtain rfl := Option.some.inj stepped
      exact frame.resendPendingRequest loads client replies (ours _ rfl)

end Runs

end ClientFrame

end E2eeSecurity
