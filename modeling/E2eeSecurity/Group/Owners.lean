/-
This file shows that every call on the group sessions of one owner leaves those of all other owners
as they are.
-/
import E2eeSecurity.Group.Outbound

namespace E2eeSecurity

variable {β : Type} {getE2eesPack : Packs β}

/-- All owners on one device share a table. -/
def ownedBy (owner : E2eeAddress) (session : GroupSession β) : Bool :=
  decide (session.sessionOwner = owner)

/-- The sessions of all other owners are the same, in the same order. -/
def GroupStore.OthersKept (sessionOwner : E2eeAddress) (before after : GroupStore β) : Prop :=
  ∀ other, other ≠ sessionOwner → KeyedTable.AgreeOn (ownedBy other) before after

namespace GroupStore.OthersKept

variable {owner : E2eeAddress} {before between after groups : GroupStore β}

theorem refl (groups : GroupStore β) : groups.OthersKept owner groups :=
  fun _ _ => .refl groups

theorem trans (first : before.OthersKept owner between) (second : between.OthersKept owner after) :
    before.OthersKept owner after :=
  fun other different => (first other different).trans (second other different)

theorem restrict (groups : GroupStore β) {keep : GroupSession β → Bool}
    (kept : ∀ session : GroupSession β, session.sessionOwner ≠ owner → keep session = true) :
    groups.OthersKept owner (KeyedTable.restrict groups keep) := by
  intro other different
  apply groups.agreeOn_restrict
  intro session owned
  apply kept
  rw [of_decide_eq_true owned]
  exact different

theorem unloadById (groups : GroupStore β) (owner : E2eeAddress) (sessionId : String) :
    groups.OthersKept owner (groups.unloadGroupSessionById owner sessionId) :=
  restrict groups fun session different => by simp [different]

theorem unloadByAddress (groups : GroupStore β) (owner groupAddress : E2eeAddress) :
    groups.OthersKept owner (groups.unloadGroupSessionByAddress owner groupAddress) :=
  restrict groups fun session different => by simp [different]

/-- A session only replaces sessions of its own owner. -/
theorem store (groups : GroupStore β) {session : GroupSession β}
    (owned : session.sessionOwner = owner) :
    groups.OthersKept owner (groups.storeGroupSession session) := by
  intro other different
  apply groups.agreeOn_insert
  · simp [ownedBy, owned, different.symm]
  · intro old covered
    have same : old.sessionOwner = session.sessionOwner := by
      simp only [groupSupersession, GroupSession.key, decide_eq_true_eq] at covered
      exact covered.2.1
    simp [ownedBy, same, owned, different.symm]

theorem storeResult (groups : GroupStore β) {result : Option (GroupSession β)}
    (owned : ∀ session, result = some session → session.sessionOwner = owner) :
    groups.OthersKept owner (groups.storeResult result) := by
  cases result with
  | none => exact refl groups
  | some session => exact store groups (owned session rfl)

theorem foldl {Step : Type} {step : GroupStore β → Step → GroupStore β} {steps : List Step}
    (keeps : ∀ next ∈ steps, ∀ groups : GroupStore β,
      groups.OthersKept owner (step groups next))
    (groups : GroupStore β) : groups.OthersKept owner (steps.foldl step groups) :=
  fun other different => KeyedTable.agreeOn_foldl
    (fun next member table => keeps next member table other different) groups

/-- A loop keeps the other owners when each of its turns stores a session of this one. -/
theorem loop {Step : Type} {skip : Step → Prop} [DecidablePred skip]
    {make : Step → Option (GroupSession β)} {steps : List Step}
    (owned : ∀ step ∈ steps, ∀ session, make step = some session → session.sessionOwner = owner)
    (groups : GroupStore β) :
    groups.OthersKept owner (steps.foldl (fun groups step => if skip step then groups else
      groups.storeResult (make step)) groups) := by
  apply foldl
  intro step member table
  split
  · exact refl table
  · exact storeResult table (owned step member)

end GroupStore.OthersKept

section Made

variable {made : GroupSession β}

theorem newAndComplete_owner {info : GroupMemberInfo β} {other : GroupSession β}
    (madeHere : newAndCompleteInboundGroupSession getE2eesPack info other = some made) :
    made.sessionOwner = other.sessionOwner := by
  unfold newAndCompleteInboundGroupSession at madeHere
  split at madeHere
  · obtain ⟨cipherSuite, -, rfl⟩ := Option.map_eq_some_iff.mp madeHere
    rfl
  · cases madeHere

theorem withChainKey_owner {info : GroupMemberInfo β} {other : GroupSession β}
    {theirChainKey : Bytes β}
    (madeHere : newAndCompleteInboundGroupSessionWithChainKey getE2eesPack info other
      theirChainKey = some made) : made.sessionOwner = other.sessionOwner := by
  unfold newAndCompleteInboundGroupSessionWithChainKey at madeHere
  split at madeHere
  · obtain ⟨cipherSuite, -, rfl⟩ := Option.map_eq_some_iff.mp madeHere
    rfl
  · cases madeHere

theorem completeByMemberId_owner {inbound : GroupSession β} {info : GroupMemberInfo β}
    (madeHere : completeInboundGroupSessionByMemberId getE2eesPack inbound info = some made) :
    made.sessionOwner = inbound.sessionOwner := by
  unfold completeInboundGroupSessionByMemberId at madeHere
  split at madeHere
  · obtain ⟨cipherSuite, -, rfl⟩ := Option.map_eq_some_iff.mp madeHere
    rfl
  · cases madeHere

theorem renewInbound_owner {senderChainKey : Option (Bytes β)} {inbound : GroupSession β}
    {groupInfo : GroupInfo}
    (madeHere : renewInboundGroupSessionByWelcomeAndAdd getE2eesPack senderChainKey inbound
      groupInfo = some made) : made.sessionOwner = inbound.sessionOwner := by
  unfold renewInboundGroupSessionByWelcomeAndAdd at madeHere
  split at madeHere
  · obtain ⟨cipherSuite, -, rfl⟩ := Option.map_eq_some_iff.mp madeHere
    rfl
  · cases madeHere

theorem withRatchetState_owner {bundle : GroupUpdateKeyBundle β} {userAddress : E2eeAddress}
    (madeHere : newAndCompleteInboundGroupSessionWithRatchetState getE2eesPack bundle userAddress =
      some made) : made.sessionOwner = userAddress := by
  unfold newAndCompleteInboundGroupSessionWithRatchetState at madeHere
  split at madeHere
  · obtain ⟨cipherSuite, -, rfl⟩ := Option.map_eq_some_iff.mp madeHere
    rfl
  · cases madeHere

theorem newOutboundByReceiver_owner {store : Store β} {groupSeed : Bytes β} {e2eesPackId : UInt32}
    {userAddress groupAddress : E2eeAddress} {groupName sessionId : String}
    {groupMemberList : List GroupMember}
    (madeHere : newOutboundGroupSessionByReceiver getE2eesPack store groupSeed e2eesPackId
      userAddress groupName groupAddress sessionId groupMemberList = some made) :
    made.sessionOwner = userAddress := by
  obtain ⟨cipherSuite, identityPublicKey, -, -, rfl⟩ := newOutboundByReceiver_some madeHere
  rfl

theorem completeByPreKeyBundle_owner {inbound : GroupSession β} {bundle : GroupPreKeyBundle β}
    (madeHere : completeInboundGroupSessionByPreKeyBundle getE2eesPack inbound bundle =
      some made) : made.sessionOwner = inbound.sessionOwner := by
  obtain ⟨-, cipherSuite, -, rfl⟩ := completeByPreKeyBundle_some madeHere
  rfl

end Made

section Calls

variable {groups : GroupStore β} {store : Store β}

theorem newOutboundBySender_othersKept {memberInfoList : List (GroupMemberInfo β)}
    {e2eesPackId : UInt32} {userAddress groupAddress : E2eeAddress}
    {groupName oldSessionId sessionId : String} {groupMemberList : List GroupMember}
    {groupSeed : Bytes β} {result : GroupStore β × GroupPreKeyBundle β}
    (made : newOutboundGroupSessionBySender getE2eesPack ⟨store, groups⟩ memberInfoList
      e2eesPackId userAddress groupName groupAddress groupMemberList oldSessionId sessionId
      groupSeed = some result) : groups.OthersKept userAddress result.1 := by
  unfold newOutboundGroupSessionBySender at made
  split at made
  next cipherSuite identityPublicKey pack loaded =>
    split at made
    · rw [← Option.some.inj made]
      refine .trans ?_ (.store _ rfl)
      apply GroupStore.OthersKept.loop
      intro info _ session madeHere
      exact newAndComplete_owner madeHere
    · cases made
  · cases made

theorem createGroupResponse_othersKept {e2eesPackId : UInt32} {senderAddress : E2eeAddress}
    {groupName sessionId : String} {groupMemberList : List GroupMember}
    {response : CreateGroupResponse β} {groupSeed : Bytes β}
    {result : GroupStore β × GroupPreKeyBundle β}
    (made : consumeCreateGroupResponse getE2eesPack ⟨store, groups⟩ e2eesPackId senderAddress
      groupName groupMemberList response sessionId groupSeed = some result) :
    groups.OthersKept senderAddress result.1 := by
  unfold consumeCreateGroupResponse at made
  split at made
  · exact newOutboundBySender_othersKept made
  · cases made

variable (getE2eesPack) in
/-- The session of the creator keeps its owner through the loop. -/
theorem createGroupSteps_othersKept {receiverAddress : E2eeAddress} (senderAddress : E2eeAddress)
    (infos : List (GroupMemberInfo β)) {inbound : GroupSession β}
    (owned : inbound.sessionOwner = receiverAddress) (groups : GroupStore β) :
    groups.OthersKept receiverAddress (infos.foldl
      (createGroupStep getE2eesPack receiverAddress senderAddress) (groups, inbound)).1 := by
  induction infos generalizing groups inbound with
  | nil => exact .refl groups
  | cons info rest ih =>
      rw [List.foldl_cons, createGroupStep]
      split
      · split
        · refine .trans ?_ (ih owned _)
          exact .storeResult groups fun session made => (newAndComplete_owner made).trans owned
        · exact ih owned groups
      · split
        next completed made =>
          have kept := (completeByMemberId_owner made).trans owned
          exact .trans (.store groups kept) (ih kept _)
        · exact ih owned groups

theorem newInboundByMemberIds_othersKept (receiverAddress : E2eeAddress) (e2eesPackId : UInt32)
    (groupInfo : GroupInfo) (infos : List (GroupMemberInfo β)) (groups : GroupStore β) :
    groups.OthersKept receiverAddress (infos.foldl (fun groups info =>
      if info.memberAddress = receiverAddress then groups
      else groups.storeResult (newInboundGroupSessionByMemberId getE2eesPack e2eesPackId
        receiverAddress info groupInfo)) groups) :=
  .loop (fun _ _ _ made => (newInboundByMemberId_some made).2.2.1) groups

/-- Both messages that list the members end alike when the bundle came first. -/
theorem completeGroup_othersKept {receiverAddress senderAddress groupAddress : E2eeAddress}
    {inbound : GroupSession β} (loaded : groups.loadGroupSessionByAddress senderAddress
      receiverAddress groupAddress = some inbound) (infos : List (GroupMemberInfo β))
    (e2eesPackId : UInt32) (groupInfo : GroupInfo) :
    let state := infos.foldl (createGroupStep getE2eesPack receiverAddress senderAddress)
      (groups, inbound)
    groups.OthersKept receiverAddress (state.1.storeResult (newOutboundGroupSessionByReceiver
      getE2eesPack store state.2.groupSeed e2eesPackId receiverAddress groupInfo.groupName
      groupInfo.groupAddress state.2.sessionId groupInfo.groupMemberList)) := by
  have member := (groups.loadGroupSessionByAddress_some loaded).1
  have owned := (groups.mem_loadGroupSessions.mp member).2.1
  intro state
  refine .trans (createGroupSteps_othersKept getE2eesPack senderAddress infos owned groups) ?_
  exact .storeResult _ fun _ made => newOutboundByReceiver_owner made

theorem createGroupMsg_othersKept (receiverAddress : E2eeAddress) (msg : CreateGroupMsg β) :
    groups.OthersKept receiverAddress
      (consumeCreateGroupMsg getE2eesPack ⟨store, groups⟩ receiverAddress msg) := by
  unfold consumeCreateGroupMsg
  split
  · split
    · exact newInboundByMemberIds_othersKept receiverAddress msg.e2eesPackId msg.groupInfo _ groups
    next inbound loaded =>
      split
      · exact completeGroup_othersKept loaded msg.memberInfoList msg.e2eesPackId msg.groupInfo
      · exact .refl groups
  · exact .refl groups

theorem removeGroupMembersMsg_othersKept (receiverAddress : E2eeAddress)
    (msg : RemoveGroupMembersMsg β) :
    groups.OthersKept receiverAddress
      (consumeRemoveGroupMembersMsg getE2eesPack ⟨store, groups⟩ receiverAddress msg) := by
  unfold consumeRemoveGroupMembersMsg
  split
  · split
    · exact .unloadByAddress groups receiverAddress _
    · split
      · exact newInboundByMemberIds_othersKept receiverAddress msg.e2eesPackId msg.groupInfo _
          groups
      next inbound found =>
        have loaded := (Option.filter_eq_some_iff.mp found).1
        split
        · exact completeGroup_othersKept loaded msg.memberInfoList msg.e2eesPackId msg.groupInfo
        · refine .trans (.unloadById groups receiverAddress inbound.sessionId) ?_
          exact newInboundByMemberIds_othersKept receiverAddress msg.e2eesPackId msg.groupInfo _ _
  · exact .refl groups

theorem removeGroupMembersResponse_othersKept (outbound : GroupSession β)
    (response : RemoveGroupMembersResponse β) (sessionId : String) (groupSeed : Bytes β) :
    groups.OthersKept outbound.sessionOwner (consumeRemoveGroupMembersResponse getE2eesPack
      ⟨store, groups⟩ outbound response sessionId groupSeed).2.1 := by
  have unloaded := GroupStore.OthersKept.unloadById groups outbound.sessionOwner outbound.sessionId
  unfold consumeRemoveGroupMembersResponse
  split
  · dsimp only
    split
    · split
      next result bundle made => exact unloaded.trans (newOutboundBySender_othersKept made)
      · exact unloaded
    · exact unloaded
  · exact .refl groups

/-- A renewal stores sessions of the owner of the outbound session only. -/
theorem GroupRenewal.finish_othersKept (renewal : GroupRenewal getE2eesPack) :
    renewal.device.groups.OthersKept renewal.outbound.sessionOwner renewal.finish := by
  have stored : renewal.device.groups.OthersKept renewal.outbound.sessionOwner renewal.stored :=
    .store _ rfl
  have moved : renewal.stored.OthersKept renewal.outbound.sessionOwner renewal.moved := by
    apply GroupStore.OthersKept.loop
    intro session loaded made madeHere
    exact (renewInbound_owner madeHere).trans
      (renewal.stored.mem_loadGroupSessions.mp loaded).2.1
  refine (stored.trans moved).trans ?_
  apply GroupStore.OthersKept.foldl
  intro added _ groups
  apply GroupStore.OthersKept.storeResult
  intro session made
  have owned := withChainKey_owner made
  exact owned

theorem addGroupMembersResponse_othersKept {outbound : GroupSession β}
    (own : outbound.sender = outbound.sessionOwner) {response : AddGroupMembersResponse β}
    {result : GroupStore β × GroupUpdateKeyBundle β}
    (made : consumeAddGroupMembersResponse getE2eesPack ⟨store, groups⟩ outbound response =
      some result) : groups.OthersKept outbound.sessionOwner result.1 := by
  unfold consumeAddGroupMembersResponse at made
  split at made
  · obtain ⟨renewal, onDevice, rfl, -, -, -, -, rfl⟩ := renewOutbound_cases own made
    have kept := renewal.finish_othersKept
    rw [onDevice] at kept
    exact kept
  · cases made

theorem addGroupMemberDeviceResponse_othersKept {outbound : GroupSession β}
    (own : outbound.sender = outbound.sessionOwner) {response : AddGroupMemberDeviceResponse β}
    {result : GroupStore β × GroupUpdateKeyBundle β}
    (made : consumeAddGroupMemberDeviceResponse getE2eesPack ⟨store, groups⟩ outbound response =
      some result) : groups.OthersKept outbound.sessionOwner result.1 := by
  unfold consumeAddGroupMemberDeviceResponse at made
  split at made
  · obtain ⟨renewal, onDevice, rfl, -, -, -, -, rfl⟩ := renewWithNewDevice_cases own made
    have kept := renewal.finish_othersKept
    rw [onDevice] at kept
    exact kept
  · cases made

theorem addMsg_othersKept (receiverAddress : E2eeAddress) (msg : GroupAddMsg β) :
    groups.OthersKept receiverAddress
      (msg.consume getE2eesPack ⟨store, groups⟩ receiverAddress).1 := by
  obtain unchanged | ⟨renewal, renews, outcome⟩ :=
    msg.consume_cases getE2eesPack ⟨store, groups⟩ receiverAddress
  · rw [unchanged]
    exact .refl groups
  · have kept := renewal.finish_othersKept
    rw [renews.onDevice, (loadOutboundGroupSession_some renews.outbound).2.2.1] at kept
    rw [outcome]
    exact kept

theorem leaveGroupResponse_othersKept (userAddress : E2eeAddress) (response : LeaveGroupResponse) :
    groups.OthersKept userAddress (consumeLeaveGroupResponse groups userAddress response) := by
  unfold consumeLeaveGroupResponse
  split
  · exact .unloadByAddress groups userAddress _
  · exact .refl groups

theorem sendGroupMsgResponse_othersKept (outbound : GroupSession β)
    (response : Option SendGroupMsgResponse) :
    groups.OthersKept outbound.sessionOwner
      (consumeSendGroupMsgResponse getE2eesPack groups outbound response) := by
  unfold consumeSendGroupMsgResponse
  split
  · split
    · exact .store groups rfl
    · exact .refl groups
  · exact .refl groups

theorem sendGroupMsg_othersKept (params : SendGroupMsgParams) (plaintext : Bytes β)
    (draw : SignatureDraw β) (response : Option SendGroupMsgResponse) :
    groups.OthersKept params.senderAddress (sendGroupMsgWithFilter getE2eesPack ⟨store, groups⟩
      params plaintext draw response).2 := by
  unfold sendGroupMsgWithFilter
  split
  · split
    next account outbound _ loaded =>
      have kept := @sendGroupMsgResponse_othersKept β getE2eesPack groups outbound response
      rw [(loadOutboundGroupSession_some loaded).2.2.1] at kept
      split
      · exact kept
      · exact .refl groups
    · exact .refl groups
  · exact .refl groups

theorem groupMsg_othersKept (receiverAddress : E2eeAddress) (msg : E2eeMsg β) :
    groups.OthersKept receiverAddress
      (consumeGroupMsg getE2eesPack groups receiverAddress msg).1 := by
  obtain unchanged | ⟨inbound, cipherSuite, plaintext, loaded, -, -, -, -, outcome⟩ :=
    consumeGroupMsg_cases getE2eesPack groups receiverAddress msg
  · rw [unchanged]
    exact .refl groups
  · have owned := (groups.loadGroupSessionById_some loaded).2.2.1
    rw [outcome]
    apply GroupStore.OthersKept.store
    show (inbound.catchUp cipherSuite msg.groupMsg.sequence).sessionOwner = receiverAddress
    rw [GroupSession.catchUp_eq]
    exact owned

theorem groupPreKeyBundle_othersKept (receiverAddress : E2eeAddress)
    (bundle : GroupPreKeyBundle β) :
    groups.OthersKept receiverAddress
      (consumeGroupPreKeyBundle getE2eesPack ⟨store, groups⟩ receiverAddress bundle) := by
  have unloaded : groups.OthersKept receiverAddress (bundle.unload groups receiverAddress) := by
    unfold GroupPreKeyBundle.unload
    split
    · exact .unloadById groups receiverAddress _
    · exact .refl groups
  refine unloaded.trans ?_
  unfold consumeGroupPreKeyBundle
  show (bundle.unload groups receiverAddress).OthersKept receiverAddress
    (if ((bundle.unload groups receiverAddress).loadGroupSessions receiverAddress
      bundle.groupInfo.groupAddress).isEmpty then _ else _)
  split
  · exact .storeResult _ fun session made => (newInboundByPreKeyBundle_some made).2.2.1
  · refine .trans (.loop ?_ _) (.storeResult _ fun _ made => newOutboundByReceiver_owner made)
    intro session loaded made madeHere
    exact (completeByPreKeyBundle_owner madeHere).trans
      ((GroupStore.mem_loadGroupSessions _).mp loaded).2.1

/-- An invited device stores sessions of its own, and the outbound one last. -/
theorem invitedSteps_othersKept {cipherSuite : CipherSuite β} {userAddress : E2eeAddress}
    (infos : List (GroupMemberInfo β)) (state : InvitedState β)
    (owned : state.outbound.sessionOwner = userAddress) :
    let after := infos.foldl (invitedStep getE2eesPack cipherSuite userAddress) state
    state.groups.OthersKept userAddress (after.groups.storeGroupSession after.outbound) := by
  induction infos generalizing state with
  | nil => exact .store state.groups owned
  | cons info rest ih =>
      rw [List.foldl_cons, invitedStep]
      dsimp only
      split
      · exact ih _ owned
      · refine .trans (.storeResult state.groups ?_) (ih ⟨state.outbound, _, _⟩ owned)
        intro session made
        exact (withChainKey_owner made).trans owned

theorem groupUpdateKeyBundle_othersKept (receiverAddress : E2eeAddress)
    (bundle : GroupUpdateKeyBundle β) :
    groups.OthersKept receiverAddress
      (consumeGroupUpdateKeyBundle getE2eesPack ⟨store, groups⟩ receiverAddress bundle) := by
  have invited (result : GroupStore β × GroupUpdateKeyBundle β)
      (made : newOutboundGroupSessionInvited getE2eesPack ⟨store, groups⟩ bundle receiverAddress =
        some result) : groups.OthersKept receiverAddress result.1 := by
    unfold newOutboundGroupSessionInvited at made
    split at made
    · split at made
      · rw [← Option.some.inj made]
        exact invitedSteps_othersKept bundle.addingMemberInfoList _ rfl
      · cases made
    · cases made
  unfold consumeGroupUpdateKeyBundle
  refine .trans ?_ (.storeResult _ fun session made => withRatchetState_owner made)
  split
  · cases made : newOutboundGroupSessionInvited getE2eesPack ⟨store, groups⟩ bundle
        receiverAddress with
    | none => exact .refl groups
    | some result => exact invited result made
  · exact .refl groups

end Calls

end E2eeSecurity
