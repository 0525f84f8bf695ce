/-
This file shows how a member recognises a creation or a removal that it knows already.
-/
import E2eeSecurity.Group.Order

namespace E2eeSecurity

variable {β : Type}

/-- The list of a message names the device. -/
def IsListed (infos : List (GroupMemberInfo β)) (address : E2eeAddress) : Prop :=
  ∃ info ∈ infos, info.memberAddress = address

section Present

variable {sender owner groupAddress : E2eeAddress}

/-- A session of the sender is only replaced by another one. -/
theorem GroupStore.present_storeResult {groups : GroupStore β}
    (present : ∃ session ∈ groups.loadGroupSessions owner groupAddress, session.sender = sender)
    (result : Option (GroupSession β)) :
    ∃ session ∈ (groups.storeResult result).loadGroupSessions owner groupAddress,
      session.sender = sender := by
  cases result with
  | none => exact present
  | some stored =>
      obtain ⟨session, loaded, isSender⟩ := present
      obtain ⟨member, sessionOwner, group⟩ := groups.mem_loadGroupSessions.mp loaded
      cases covered : groupSupersession.covers stored.key session.key with
      | false =>
          exact ⟨session, (GroupStore.mem_loadGroupSessions _).mpr
            ⟨KeyedTable.mem_insert.mpr (.inl ⟨member, covered⟩), sessionOwner, group⟩, isSender⟩
      | true =>
          obtain ⟨sameSender, sameOwner, sameGroup, -⟩ := of_decide_eq_true covered
          exact ⟨stored, (GroupStore.mem_loadGroupSessions _).mpr
            ⟨KeyedTable.mem_insert.mpr (.inr rfl), sameOwner.symm.trans sessionOwner,
              sameGroup.symm.trans group⟩, sameSender.symm.trans isSender⟩

theorem GroupStore.present_loop {groups : GroupStore β} {Step : Type} {skip : Step → Prop}
    [DecidablePred skip] {make : Step → Option (GroupSession β)}
    (present : ∃ session ∈ groups.loadGroupSessions owner groupAddress, session.sender = sender)
    (steps : List Step) :
    ∃ session ∈ (steps.foldl (fun groups step => if skip step then groups else
        groups.storeResult (make step)) groups).loadGroupSessions owner groupAddress,
      session.sender = sender := by
  induction steps generalizing groups with
  | nil => exact present
  | cons step rest ih =>
      apply ih
      dsimp only
      split
      · exact present
      · exact GroupStore.present_storeResult present _

end Present

section Waiting

variable (getE2eesPack : Packs β)

/-- Both handlers store a session without keys for every other listed device. -/
def GroupStore.waitFor (receiver : E2eeAddress) (e2eesPackId : UInt32) (groupInfo : GroupInfo)
    (groups : GroupStore β) (infos : List (GroupMemberInfo β)) : GroupStore β :=
  infos.foldl (fun groups info => if info.memberAddress = receiver then groups
    else groups.storeResult (newInboundGroupSessionByMemberId getE2eesPack e2eesPackId receiver
      info groupInfo)) groups

variable {getE2eesPack} {receiver : E2eeAddress} {e2eesPackId : UInt32} {groupInfo : GroupInfo}
  {groups : GroupStore β} {infos : List (GroupMemberInfo β)}

variable (getE2eesPack receiver e2eesPackId groupInfo infos) in
/-- These are the checks that both handlers make of the list and its receiver. -/
structure ListValid : Prop where
  packId : isValidE2eesPackId getE2eesPack e2eesPackId = true
  receiver : isValidAddress receiver = true
  groupInfo : isValidGroupInfo groupInfo = true
  infos : ∀ info ∈ infos, isValidGroupMemberInfo info = true

/-- A session of a list that has passed the checks is one that a bundle can complete. -/
theorem ListValid.makes
    (valid : ListValid getE2eesPack receiver e2eesPackId groupInfo infos)
    {info : GroupMemberInfo β} (member : info ∈ infos) :
    ∃ session, newInboundGroupSessionByMemberId getE2eesPack e2eesPackId receiver info groupInfo =
      some session ∧ isValidGroupSessionByMemberId getE2eesPack session = true := by
  obtain ⟨cipherSuite, pack, -⟩ := exists_pack valid.packId
  have parts := valid.infos info member
  rw [isValidGroupMemberInfo, Bool.and_eq_true] at parts
  rw [newInboundGroupSessionByMemberId, valid.packId, valid.receiver, valid.infos info member,
    valid.groupInfo, pack]
  refine ⟨_, rfl, ?_⟩
  simp only [isValidGroupSessionByMemberId, valid.packId, valid.receiver, valid.groupInfo, parts.1,
    groupAssociatedData_of_valid cipherSuite parts.2, Bool.and_self]

theorem mem_waitFor {session : GroupSession β} (member : session ∈
      (groups.waitFor getE2eesPack receiver e2eesPackId groupInfo infos).entries) :
    session ∈ groups.entries ∨ ∃ info ∈ infos, info.memberAddress ≠ receiver ∧
      newInboundGroupSessionByMemberId getE2eesPack e2eesPackId receiver info groupInfo =
        some session :=
  GroupStore.mem_loop groups member

variable (groups) in
/-- The last session that is made for a listed device stays. -/
theorem lookup_waitFor
    (valid : ListValid getE2eesPack receiver e2eesPackId groupInfo infos) {address : E2eeAddress}
    (listed : IsListed infos address) (different : address ≠ receiver) :
    ∃ info ∈ infos, info.memberAddress = address ∧ ∃ session,
      newInboundGroupSessionByMemberId getE2eesPack e2eesPackId receiver info groupInfo =
        some session ∧ isValidGroupSessionByMemberId getE2eesPack session = true ∧
      (groups.waitFor getE2eesPack receiver e2eesPackId groupInfo infos).lookup
        ⟨"", address, receiver, groupInfo.groupAddress⟩ = some session := by
  induction infos using List.reverseRecOn with
  | nil =>
      obtain ⟨info, member, -⟩ := listed
      cases member
  | append_singleton rest last ih =>
      obtain ⟨made, lastMade, madeValid⟩ :=
        valid.makes (List.mem_append_right _ List.mem_cons_self)
      obtain ⟨sessionId, sender, owner, group, -⟩ := newInboundByMemberId_some lastMade
      unfold GroupStore.waitFor at ih ⊢
      rw [List.foldl_append, List.foldl_cons, List.foldl_nil]
      by_cases isLast : last.memberAddress = address
      · have key : made.key = ⟨"", address, receiver, groupInfo.groupAddress⟩ := by
          rw [GroupSession.key, sessionId, sender, owner, group, isLast]
        refine ⟨last, List.mem_append_right _ List.mem_cons_self, isLast, made, lastMade,
          madeValid, ?_⟩
        rw [if_neg (isLast ▸ different), lastMade, ← key]
        exact GroupStore.lookup_storeGroupSession _ made
      · obtain ⟨info, member, found⟩ := listed
        have earlier : info ∈ rest := by
          obtain earlier | same := List.mem_append.mp member
          · exact earlier
          · rw [List.mem_singleton.mp same] at found
            exact absurd found isLast
        have restValid : ListValid getE2eesPack receiver e2eesPackId groupInfo rest :=
          { valid with
            infos := fun other present => valid.infos other (List.mem_append_left _ present) }
        obtain ⟨writer, writerMember, isWriter, session, sessionMade, sessionValid, stored⟩ :=
          ih restValid ⟨info, earlier, found⟩
        refine ⟨writer, List.mem_append_left _ writerMember, isWriter, session, sessionMade,
          sessionValid, ?_⟩
        rw [← stored]
        apply GroupStore.lookup_turn_other
        intro other _ otherMade
        rw [lastMade, Option.some.injEq] at otherMade
        subst otherMade
        apply GroupKey.uncovered_of_sender
        rw [GroupSession.key, sender]
        exact isLast

/-- A device without a waiting session gets one. -/
theorem waitFor_ne (valid : ListValid getE2eesPack receiver e2eesPackId groupInfo infos)
    {address : E2eeAddress} (listed : IsListed infos address) (different : address ≠ receiver)
    (missing : groups.lookup ⟨"", address, receiver, groupInfo.groupAddress⟩ = none) :
    groups.waitFor getE2eesPack receiver e2eesPackId groupInfo infos ≠ groups := by
  intro same
  obtain ⟨-, -, -, session, -, -, found⟩ := lookup_waitFor groups valid listed different
  rw [same, missing] at found
  cases found

end Waiting

section Bundles

/-- A key that no turn stores under stays without a session. -/
theorem GroupStore.lookup_loop_none {groups : GroupStore β} {Step : Type} {skip : Step → Prop}
    [DecidablePred skip] {make : Step → Option (GroupSession β)} {wanted : GroupKey}
    (missing : groups.lookup wanted = none) {steps : List Step}
    (different : ∀ step ∈ steps, ∀ stored, make step = some stored → stored.key ≠ wanted) :
    (steps.foldl (fun groups step => if skip step then groups else
      groups.storeResult (make step)) groups).lookup wanted = none := by
  rw [Option.eq_none_iff_forall_ne_some]
  intro session found
  have key := KeyedTable.lookup_key found
  obtain old | ⟨step, present, -, made⟩ := mem_loop groups (KeyedTable.lookup_mem found)
  · have stored := groups.lookup_of_mem old
    rw [key, missing] at stored
    cases stored
  · exact different step present session made key

variable {getE2eesPack : Packs β} {device : Device β} {receiver : E2eeAddress}
  {bundle : GroupPreKeyBundle β} {current : GroupStore β}

/-- A bundle makes a usable session of every one that passes its check. -/
theorem completes_of_valid {session : GroupSession β}
    (valid : isValidGroupSessionByMemberId getE2eesPack session = true)
    (bundleValid : isValidGroupPreKeyBundle getE2eesPack bundle = true) :
    ∃ completed, completeInboundGroupSessionByPreKeyBundle getE2eesPack session bundle =
      some completed := by
  have parts := valid
  simp only [isValidGroupSessionByMemberId, Bool.and_eq_true] at parts
  obtain ⟨cipherSuite, pack, -⟩ := exists_pack parts.1.1.1.1
  rw [completeInboundGroupSessionByPreKeyBundle, valid, bundleValid, pack]
  exact ⟨_, rfl⟩

theorem completed_usable {session completed : GroupSession β}
    (made : completeInboundGroupSessionByPreKeyBundle getE2eesPack session bundle =
      some completed) : isValidGroupSession getE2eesPack completed = true := by
  unfold completeInboundGroupSessionByPreKeyBundle at made
  split at made
  next checks =>
    obtain ⟨cipherSuite, -, rfl⟩ := Option.map_eq_some_iff.mp made
    simp only [isValidGroupSessionByMemberId, isValidGroupPreKeyBundle, Bool.and_eq_true] at checks
    simp only [isValidGroupSession, isValidGroupSessionHead, checks, groupChainKey_valid,
      Bool.and_self]
  · cases made

/-- The group has sessions after the old ones are unloaded. -/
structure BundleMeets (device : Device β) (receiver : E2eeAddress) (bundle : GroupPreKeyBundle β)
    (current : GroupStore β) : Prop where
  unloaded : (if bundle.oldSessionId ≠ "" then
    device.groups.unloadGroupSessionById receiver bundle.oldSessionId else device.groups) = current
  present : current.loadGroupSessions receiver bundle.groupInfo.groupAddress ≠ []

namespace BundleMeets

variable (meets : BundleMeets device receiver bundle current)

include meets

theorem consume_eq : consumeGroupPreKeyBundle getE2eesPack device receiver bundle =
    ((current.loadGroupSessions receiver bundle.groupInfo.groupAddress).foldl
      (fun groups session => if session.sender = receiver then groups
        else groups.storeResult (completeInboundGroupSessionByPreKeyBundle getE2eesPack session
          bundle)) current).storeResult
      (newOutboundGroupSessionByReceiver getE2eesPack device.store bundle.groupSeed
        bundle.e2eesPackId receiver bundle.groupInfo.groupName bundle.groupInfo.groupAddress
        bundle.sessionId bundle.groupInfo.groupMemberList) := by
  rw [consumeGroupPreKeyBundle, meets.unloaded]
  refine if_neg ?_
  rw [List.isEmpty_iff]
  exact meets.present

theorem mem_consume {session : GroupSession β} (member : session ∈
      (consumeGroupPreKeyBundle getE2eesPack device receiver bundle).entries) :
    session ∈ current.entries ∨
      (∃ other ∈ current.loadGroupSessions receiver bundle.groupInfo.groupAddress,
        other.sender ≠ receiver ∧
        completeInboundGroupSessionByPreKeyBundle getE2eesPack other bundle = some session) ∨
      newOutboundGroupSessionByReceiver getE2eesPack device.store bundle.groupSeed
        bundle.e2eesPackId receiver bundle.groupInfo.groupName bundle.groupInfo.groupAddress
        bundle.sessionId bundle.groupInfo.groupMemberList = some session := by
  rw [meets.consume_eq] at member
  obtain earlier | made := GroupStore.mem_storeResult _ member
  · obtain old | completed := GroupStore.mem_loop _ earlier
    · exact .inl old
    · exact .inr (.inl completed)
  · exact .inr (.inr made)

/-- A sender that has a session before the bundle has one afterwards. -/
theorem present_consume {sender groupAddress : E2eeAddress}
    (present : ∃ session ∈ current.loadGroupSessions receiver groupAddress,
      session.sender = sender) :
    ∃ session ∈ (consumeGroupPreKeyBundle getE2eesPack device receiver bundle).loadGroupSessions
      receiver groupAddress, session.sender = sender := by
  rw [meets.consume_eq]
  exact GroupStore.present_storeResult (GroupStore.present_loop present _) _

/-- A bundle makes no session of a sender that has none. -/
theorem absent_consume {sender groupAddress : E2eeAddress} (different : sender ≠ receiver)
    (group : bundle.groupInfo.groupAddress = groupAddress)
    (absent : ∀ session ∈ current.loadGroupSessions receiver groupAddress,
      session.sender ≠ sender) :
    ∀ session ∈ (consumeGroupPreKeyBundle getE2eesPack device receiver bundle).loadGroupSessions
      receiver groupAddress, session.sender ≠ sender := by
  intro session loaded
  obtain ⟨member, facts⟩ := (GroupStore.mem_loadGroupSessions _).mp loaded
  obtain old | ⟨before, present, -, made⟩ | made := meets.mem_consume member
  · exact absent session ((GroupStore.mem_loadGroupSessions _).mpr ⟨old, facts⟩)
  · obtain ⟨-, cipherSuite, -, rfl⟩ := completeByPreKeyBundle_some made
    exact absent before (group ▸ present)
  · obtain ⟨cipherSuite, signPublicKey, -, -, rfl⟩ := newOutboundByReceiver_some made
    exact different.symm

/-- The bundle gives its identifier to a session that it completes, and the version without an
identifier is gone. -/
theorem lookup_unnamed {sender : E2eeAddress} (different : sender ≠ receiver)
    (valid : isValidGroupPreKeyBundle getE2eesPack bundle = true)
    {waiting completed : GroupSession β}
    (found : current.lookup ⟨"", sender, receiver, bundle.groupInfo.groupAddress⟩ = some waiting)
    (completes : completeInboundGroupSessionByPreKeyBundle getE2eesPack waiting bundle =
      some completed) :
    (consumeGroupPreKeyBundle getE2eesPack device receiver bundle).lookup
      ⟨"", sender, receiver, bundle.groupInfo.groupAddress⟩ = none := by
  have named : bundle.sessionId ≠ "" := by
    simp only [isValidGroupPreKeyBundle, Bool.and_eq_true] at valid
    simpa [isValidString] using valid.1.1.1.2
  have other (session stored : GroupSession β)
      (made : completeInboundGroupSessionByPreKeyBundle getE2eesPack session bundle = some stored) :
      stored.key ≠ ⟨"", sender, receiver, bundle.groupInfo.groupAddress⟩ := by
    intro same
    rw [GroupSession.key, (completeByPreKeyBundle_named made).1] at same
    exact named (congrArg GroupKey.sessionId same)
  have key := KeyedTable.lookup_key found
  have isSender : waiting.sender = sender := congrArg GroupKey.sender key
  have unnamed : waiting.sessionId = "" := congrArg GroupKey.sessionId key
  have loaded := current.mem_loadGroupSessions_of_lookup found
  obtain ⟨before, after, split⟩ := List.append_of_mem loaded
  dsimp only at split
  rw [meets.consume_eq, GroupStore.lookup_storeResult_other, split, List.foldl_append,
    List.foldl_cons]
  · apply GroupStore.lookup_loop_none
    · have kept : ¬waiting.sender = receiver := isSender.trans_ne different
      rw [if_neg kept, completes]
      refine KeyedTable.lookup_insert_covered _ ?_ (other waiting completed completes)
      obtain ⟨-, cipherSuite, -, rfl⟩ := completeByPreKeyBundle_some completes
      rw [← key]
      simp [groupSupersession, GroupSession.key, unnamed]
    · exact fun session _ stored made => other session stored made
  · intro outbound made
    obtain ⟨cipherSuite, signPublicKey, -, -, rfl⟩ := newOutboundByReceiver_some made
    exact GroupKey.uncovered_of_sender different.symm

end BundleMeets

end Bundles

section Creations

/-- The group has a session of the sender, and none of them waits for the list of the members. -/
structure GroupStore.Settled (groups : GroupStore β) (sender owner groupAddress : E2eeAddress) :
    Prop where
  present : ∃ session ∈ groups.loadGroupSessions owner groupAddress, session.sender = sender
  unseeded : ∀ session ∈ groups.loadGroupSessions owner groupAddress, session.sender = sender →
    session.groupSeed = []

variable {getE2eesPack : Packs β} {device : Device β} {receiver : E2eeAddress}

/-- A creation that is already known changes nothing. -/
theorem consumeCreateGroupMsg_settled {msg : CreateGroupMsg β}
    (settled : device.groups.Settled msg.senderAddress receiver msg.groupInfo.groupAddress) :
    consumeCreateGroupMsg getE2eesPack device receiver msg = device.groups := by
  unfold consumeCreateGroupMsg
  split
  · split
    next missing =>
      obtain ⟨session, loaded, isSender⟩ := settled.present
      obtain ⟨member, owner, group⟩ := (device.groups.mem_loadGroupSessions).mp loaded
      unfold GroupStore.loadGroupSessionByAddress at missing
      rw [List.find?_eq_none] at missing
      exact absurd (decide_eq_true ⟨isSender, owner, group⟩) (missing session member)
    next inbound found =>
      obtain ⟨loaded, isSender⟩ := device.groups.loadGroupSessionByAddress_some found
      rw [isValidGroupSessionByPreKeyBundle_unseeded getE2eesPack
        (settled.unseeded inbound loaded isSender)]
      rfl
  · rfl

theorem consumeCreateGroupMsg_ignored {msg : CreateGroupMsg β}
    (invalid : (isValidAddress receiver && isValidCreateGroupMsg getE2eesPack msg) = false) :
    consumeCreateGroupMsg getE2eesPack device receiver msg = device.groups := by
  rw [consumeCreateGroupMsg, invalid]
  rfl

/-- The bundle of a new group leaves a known creation known. -/
theorem consumeGroupPreKeyBundle_settled {sender groupAddress : E2eeAddress}
    {bundle : GroupPreKeyBundle β} (settled : device.groups.Settled sender receiver groupAddress)
    (first : bundle.oldSessionId = "") (group : bundle.groupInfo.groupAddress = groupAddress) :
    (consumeGroupPreKeyBundle getE2eesPack device receiver bundle).Settled sender receiver
      groupAddress := by
  obtain ⟨known, knownLoaded, knownSender⟩ := settled.present
  have meets : BundleMeets device receiver bundle device.groups := by
    refine ⟨if_neg (not_not_intro first), ?_⟩
    rw [group]
    exact List.ne_nil_of_mem knownLoaded
  refine ⟨meets.present_consume settled.present, ?_⟩
  intro session loaded isSender
  obtain ⟨member, owner, sessionGroup⟩ := (GroupStore.mem_loadGroupSessions _).mp loaded
  obtain old | ⟨completed, present, -, made⟩ | made := meets.mem_consume member
  · exact settled.unseeded session
      ((GroupStore.mem_loadGroupSessions _).mpr ⟨old, owner, sessionGroup⟩) isSender
  · obtain ⟨-, cipherSuite, -, rfl⟩ := completeByPreKeyBundle_some made
    exact settled.unseeded completed (group ▸ present) isSender
  · obtain ⟨cipherSuite, signPublicKey, -, -, rfl⟩ := newOutboundByReceiver_some made
    rfl

variable (getE2eesPack) in
/-- In the loop of the handler the session of the creator is the only one that it has. -/
theorem createGroupStep_only {sender groupAddress : E2eeAddress}
    {state : GroupStore β × GroupSession β} (isSender : state.2.sender = sender)
    (only : ∀ session ∈ state.1.loadGroupSessions receiver groupAddress,
      session.sender = sender → session = state.2) (info : GroupMemberInfo β) :
    (createGroupStep getE2eesPack receiver sender state info).2.sender = sender ∧
      ∀ session ∈ (createGroupStep getE2eesPack receiver sender state info).1.loadGroupSessions
          receiver groupAddress, session.sender = sender →
        session = (createGroupStep getE2eesPack receiver sender state info).2 := by
  unfold createGroupStep
  split
  next notSender =>
    split
    · refine ⟨isSender, fun session loaded same => ?_⟩
      obtain ⟨member, owner, group⟩ := (GroupStore.mem_loadGroupSessions _).mp loaded
      obtain old | made := GroupStore.mem_storeResult _ member
      · exact only session ((GroupStore.mem_loadGroupSessions _).mpr ⟨old, owner, group⟩) same
      · exact absurd ((newAndComplete_sender getE2eesPack made).symm.trans same) notSender
    · exact ⟨isSender, only⟩
  · split
    next completed made =>
      have completedSender : completed.sender = state.2.sender :=
        congrArg GroupKey.sender (completeByMemberId_key getE2eesPack made)
      refine ⟨completedSender.trans isSender, fun session loaded same => ?_⟩
      obtain ⟨member, owner, group⟩ := (GroupStore.mem_loadGroupSessions _).mp loaded
      obtain ⟨old, uncovered⟩ | rfl := KeyedTable.mem_insert.mp member
      · have found :=
          only session ((GroupStore.mem_loadGroupSessions _).mpr ⟨old, owner, group⟩) same
        rw [found, completeByMemberId_key getE2eesPack made, groupSupersession.refl] at uncovered
        cases uncovered
      · rfl
    · exact ⟨isSender, only⟩

theorem createGroupLoop_only {sender groupAddress : E2eeAddress}
    (state : GroupStore β × GroupSession β) (isSender : state.2.sender = sender)
    (only : ∀ session ∈ state.1.loadGroupSessions receiver groupAddress,
      session.sender = sender → session = state.2) (infos : List (GroupMemberInfo β)) :
    ∀ session ∈ (infos.foldl (createGroupStep getE2eesPack receiver sender)
        state).1.loadGroupSessions receiver groupAddress, session.sender = sender →
      session = (infos.foldl (createGroupStep getE2eesPack receiver sender) state).2 := by
  induction infos generalizing state with
  | nil => exact only
  | cons info rest ih =>
      have next := createGroupStep_only getE2eesPack isSender only info
      exact ih _ next.1 next.2

theorem createGroupLoop_present {sender groupAddress : E2eeAddress}
    {state : GroupStore β × GroupSession β}
    (present : ∃ session ∈ state.1.loadGroupSessions receiver groupAddress,
      session.sender = sender) (infos : List (GroupMemberInfo β)) :
    ∃ session ∈ (infos.foldl (createGroupStep getE2eesPack receiver sender)
        state).1.loadGroupSessions receiver groupAddress, session.sender = sender := by
  induction infos generalizing state with
  | nil => exact present
  | cons info rest ih =>
      apply ih
      unfold createGroupStep
      split
      · split
        · exact GroupStore.present_storeResult present _
        · exact present
      · split
        next completed made => exact GroupStore.present_storeResult present (some completed)
        · exact present

variable (getE2eesPack) in
/-- The handler knows the message by the sessions of its sender: they have no seed, or the list
names the sender and its only session waits for the list. -/
inductive CreateGroupMsg.Recognised (device : Device β) (receiver : E2eeAddress)
    (msg : CreateGroupMsg β) : Prop
  | ignored
      (invalid : (isValidAddress receiver && isValidCreateGroupMsg getE2eesPack msg) = false)
  | unseeded
      (unseeded : ∀ session ∈ device.groups.loadGroupSessions receiver msg.groupInfo.groupAddress,
        session.sender = msg.senderAddress → session.groupSeed = [])
      (known : (∃ session ∈ device.groups.loadGroupSessions receiver msg.groupInfo.groupAddress,
          session.sender = msg.senderAddress) ∨
        msg.senderAddress ≠ receiver ∧ IsListed msg.memberInfoList msg.senderAddress)
  | seeded (listed : IsListed msg.memberInfoList msg.senderAddress) (inbound : GroupSession β)
      (loaded : inbound ∈ device.groups.loadGroupSessions receiver msg.groupInfo.groupAddress)
      (isSender : inbound.sender = msg.senderAddress)
      (seeded : isValidGroupSessionByPreKeyBundle getE2eesPack inbound = true)
      (only : ∀ session ∈ device.groups.loadGroupSessions receiver msg.groupInfo.groupAddress,
        session.sender = msg.senderAddress → session = inbound)

theorem CreateGroupMsg.listValid {msg : CreateGroupMsg β}
    (valid : (isValidAddress receiver && isValidCreateGroupMsg getE2eesPack msg) = true) :
    ListValid getE2eesPack receiver msg.e2eesPackId msg.groupInfo msg.memberInfoList := by
  simp only [isValidCreateGroupMsg, Bool.and_eq_true, List.all_eq_true] at valid
  exact ⟨valid.2.1.1.1, valid.1, valid.2.1.2, valid.2.2⟩

/-- Without a session of the sender the handler waits for the keys of the listed devices. -/
theorem consumeCreateGroupMsg_waits {msg : CreateGroupMsg β}
    (valid : (isValidAddress receiver && isValidCreateGroupMsg getE2eesPack msg) = true)
    (absent : ¬∃ session ∈ device.groups.loadGroupSessions receiver msg.groupInfo.groupAddress,
      session.sender = msg.senderAddress) :
    consumeCreateGroupMsg getE2eesPack device receiver msg =
      device.groups.waitFor getE2eesPack receiver msg.e2eesPackId msg.groupInfo
        msg.memberInfoList := by
  have missing : device.groups.loadGroupSessionByAddress msg.senderAddress receiver
      msg.groupInfo.groupAddress = none := by
    rw [Option.eq_none_iff_forall_ne_some]
    intro session found
    obtain ⟨loaded, isSender⟩ := device.groups.loadGroupSessionByAddress_some found
    exact absent ⟨session, loaded, isSender⟩
  rw [consumeCreateGroupMsg, valid, if_pos rfl, missing]
  rfl

/-- A message that is recognised leaves its sender known, whether the bundle was here or not. -/
theorem CreateGroupMsg.Recognised.settles {msg : CreateGroupMsg β}
    (recognised : msg.Recognised getE2eesPack device receiver)
    (valid : (isValidAddress receiver && isValidCreateGroupMsg getE2eesPack msg) = true) :
    (consumeCreateGroupMsg getE2eesPack device receiver msg).Settled msg.senderAddress receiver
      msg.groupInfo.groupAddress := by
  cases recognised with
  | ignored invalid =>
      rw [valid] at invalid
      cases invalid
  | unseeded unseeded known =>
      by_cases present : ∃ session ∈ device.groups.loadGroupSessions receiver
          msg.groupInfo.groupAddress, session.sender = msg.senderAddress
      · have settled : device.groups.Settled msg.senderAddress receiver
          msg.groupInfo.groupAddress := ⟨present, unseeded⟩
        rw [consumeCreateGroupMsg_settled settled]
        exact settled
      · obtain ⟨different, listed⟩ := known.resolve_left present
        rw [consumeCreateGroupMsg_waits valid present]
        obtain ⟨info, -, isInfo, session, made, -, found⟩ :=
          lookup_waitFor device.groups (CreateGroupMsg.listValid valid) listed different
        refine ⟨⟨session, GroupStore.mem_loadGroupSessions_of_lookup _ found,
          (newInboundByMemberId_some made).2.1.trans isInfo⟩, ?_⟩
        intro other loaded isSender
        obtain ⟨member, facts⟩ := (GroupStore.mem_loadGroupSessions _).mp loaded
        obtain old | ⟨writer, -, -, otherMade⟩ := mem_waitFor member
        · exact unseeded other ((GroupStore.mem_loadGroupSessions _).mpr ⟨old, facts⟩) isSender
        · exact (newInboundByMemberId_some otherMade).2.2.2.2.1
  | seeded listed inbound loaded isSender seeded only =>
      obtain ⟨member, owner, group⟩ := (device.groups.mem_loadGroupSessions).mp loaded
      have found : device.groups.loadGroupSessionByAddress msg.senderAddress receiver
          msg.groupInfo.groupAddress = some inbound := by
        refine device.groups.find_only member (decide_eq_true ⟨isSender, owner, group⟩) ?_
        intro other present passed
        obtain ⟨otherSender, facts⟩ := of_decide_eq_true passed
        exact only other ((device.groups.mem_loadGroupSessions).mpr ⟨present, facts⟩) otherSender
      have unseeded := createGroupLoop_seed getE2eesPack receiver msg.senderAddress
        (device.groups, inbound) seeded (CreateGroupMsg.listValid valid).infos listed
      rw [consumeCreateGroupMsg, valid, if_pos rfl, found]
      dsimp only
      rw [if_pos seeded, unseeded, newOutboundByReceiver_unseeded]
      refine ⟨createGroupLoop_present ⟨inbound, loaded, isSender⟩ _, ?_⟩
      intro session present same
      rw [createGroupLoop_only (device.groups, inbound) isSender only _ session present same]
      exact unseeded

/-- Without the sender in the list nothing tells the handler that it knows the message. -/
theorem consumeCreateGroupMsg_unlisted {msg : CreateGroupMsg β} {bundle : GroupPreKeyBundle β}
    (valid : (isValidAddress receiver && isValidCreateGroupMsg getE2eesPack msg) = true)
    (bundleValid : isValidGroupPreKeyBundle getE2eesPack bundle = true)
    (first : bundle.oldSessionId = "")
    (group : bundle.groupInfo.groupAddress = msg.groupInfo.groupAddress)
    (different : msg.senderAddress ≠ receiver)
    (absent : ¬∃ session ∈ device.groups.loadGroupSessions receiver msg.groupInfo.groupAddress,
      session.sender = msg.senderAddress)
    (unlisted : ¬IsListed msg.memberInfoList msg.senderAddress)
    {address : E2eeAddress} (listed : IsListed msg.memberInfoList address)
    (other : address ≠ receiver) :
    consumeCreateGroupMsg getE2eesPack ⟨device.store, consumeGroupPreKeyBundle getE2eesPack
        ⟨device.store, consumeCreateGroupMsg getE2eesPack device receiver msg⟩ receiver bundle⟩
      receiver msg ≠
    consumeGroupPreKeyBundle getE2eesPack
      ⟨device.store, consumeCreateGroupMsg getE2eesPack device receiver msg⟩ receiver bundle := by
  rw [consumeCreateGroupMsg_waits valid absent]
  have listValid := CreateGroupMsg.listValid valid
  obtain ⟨-, -, -, waiting, -, waitingValid, found⟩ :=
    lookup_waitFor device.groups listValid listed other
  have meets : BundleMeets ⟨device.store, device.groups.waitFor getE2eesPack receiver
      msg.e2eesPackId msg.groupInfo msg.memberInfoList⟩ receiver bundle
      (device.groups.waitFor getE2eesPack receiver msg.e2eesPackId msg.groupInfo
        msg.memberInfoList) := by
    refine ⟨if_neg (not_not_intro first), ?_⟩
    rw [group]
    exact List.ne_nil_of_mem (GroupStore.mem_loadGroupSessions_of_lookup _ found)
  obtain ⟨completed, completes⟩ := completes_of_valid waitingValid bundleValid
  have gone := meets.lookup_unnamed other bundleValid (group ▸ found) completes
  have unknown : ∀ session ∈ (device.groups.waitFor getE2eesPack receiver msg.e2eesPackId
      msg.groupInfo msg.memberInfoList).loadGroupSessions receiver msg.groupInfo.groupAddress,
      session.sender ≠ msg.senderAddress := by
    intro session loaded isSender
    obtain ⟨member, facts⟩ := (GroupStore.mem_loadGroupSessions _).mp loaded
    obtain old | ⟨info, listed, -, made⟩ := mem_waitFor member
    · exact absent ⟨session, (GroupStore.mem_loadGroupSessions _).mpr ⟨old, facts⟩, isSender⟩
    · exact unlisted ⟨info, listed, (newInboundByMemberId_some made).2.1.symm.trans isSender⟩
  rw [consumeCreateGroupMsg_waits valid]
  · exact waitFor_ne listValid listed other (group ▸ gone)
  · rintro ⟨session, loaded, isSender⟩
    exact meets.absent_consume different group unknown session loaded isSender

end Creations

section Removals

/-- Every member of a list is found in the list. -/
theorem compareMembersFrom_self {members rest : List GroupMember}
    (inside : ∀ member ∈ rest, member ∈ members) : compareMembersFrom members true rest = true := by
  induction rest with
  | nil => rfl
  | cons member rest ih =>
      have found : (members.any fun other =>
          member.userId = other.userId ∧ member.domain = other.domain) = true :=
        List.any_eq_true.mpr ⟨member, inside member List.mem_cons_self, by simp⟩
      rw [compareMembersFrom, found, Bool.true_and]
      exact ih fun other later => inside other (List.mem_cons_of_mem _ later)

theorem compareGroupMember_self (members : List GroupMember) :
    compareGroupMember members members = true := by
  rw [compareGroupMember, compareMembersFrom_self fun _ member => member]
  simp

variable {getE2eesPack : Packs β} {device : Device β} {receiver : E2eeAddress}
  {msg : RemoveGroupMembersMsg β}

theorem consumeRemoveGroupMembersMsg_ignored
    (invalid : (isValidAddress receiver && isValidRemoveGroupMembersMsg getE2eesPack msg) = false) :
    consumeRemoveGroupMembersMsg getE2eesPack device receiver msg = device.groups := by
  rw [consumeRemoveGroupMembersMsg, invalid]
  rfl

/-- A member that is removed has nothing left to drop. -/
theorem consumeRemoveGroupMembersMsg_again
    (removed : msg.removingMemberList.any (isSameUser receiver) = true) :
    consumeRemoveGroupMembersMsg getE2eesPack ⟨device.store,
        consumeRemoveGroupMembersMsg getE2eesPack device receiver msg⟩ receiver msg =
      consumeRemoveGroupMembersMsg getE2eesPack device receiver msg := by
  unfold consumeRemoveGroupMembersMsg
  split
  · exact KeyedTable.restrict_restrict _ _
  · rfl

variable (getE2eesPack) in
/-- The group has a session of the sender, and every one of them is complete and has the members. -/
structure GroupStore.Informed (groups : GroupStore β) (sender owner : E2eeAddress)
    (groupInfo : GroupInfo) : Prop where
  present : ∃ session ∈ groups.loadGroupSessions owner groupInfo.groupAddress,
    session.sender = sender
  each : ∀ session ∈ groups.loadGroupSessions owner groupInfo.groupAddress,
    session.sender = sender → isValidGroupSession getE2eesPack session = true ∧
      session.groupSeed = [] ∧ compareGroupMember session.groupInfo.groupMemberList
        groupInfo.groupMemberList = true

/-- A session of the sender that has the new members already keeps its keys. -/
theorem consumeRemoveGroupMembersMsg_known {inbound : GroupSession β}
    (stays : msg.removingMemberList.any (isSameUser receiver) = false)
    (found : device.groups.loadGroupSessionByAddress msg.senderAddress receiver
      msg.groupInfo.groupAddress = some inbound)
    (valid : isValidGroupSession getE2eesPack inbound = true) (unseeded : inbound.groupSeed = [])
    (same : compareGroupMember inbound.groupInfo.groupMemberList msg.groupInfo.groupMemberList =
      true) :
    consumeRemoveGroupMembersMsg getE2eesPack device receiver msg = device.groups := by
  unfold consumeRemoveGroupMembersMsg
  split
  · rw [stays, found, Option.filter_some, valid]
    simp only [Bool.false_eq_true, if_false, if_true, same]
    rw [createGroupLoop_unseeded getE2eesPack _ _ (device.groups, inbound) unseeded]
    dsimp only
    rw [unseeded, newOutboundByReceiver_unseeded]
    rfl
  · rfl

theorem consumeRemoveGroupMembersMsg_informed
    (informed : device.groups.Informed getE2eesPack msg.senderAddress receiver msg.groupInfo)
    (stays : msg.removingMemberList.any (isSameUser receiver) = false) :
    consumeRemoveGroupMembersMsg getE2eesPack device receiver msg = device.groups := by
  obtain ⟨known, knownLoaded, knownSender⟩ := informed.present
  obtain ⟨member, owner, group⟩ := (device.groups.mem_loadGroupSessions).mp knownLoaded
  obtain ⟨inbound, found⟩ : ∃ inbound, device.groups.loadGroupSessionByAddress msg.senderAddress
      receiver msg.groupInfo.groupAddress = some inbound := by
    rw [← Option.isSome_iff_exists, GroupStore.loadGroupSessionByAddress, List.find?_isSome]
    exact ⟨known, member, decide_eq_true ⟨knownSender, owner, group⟩⟩
  obtain ⟨loaded, isSender⟩ := device.groups.loadGroupSessionByAddress_some found
  obtain ⟨valid, unseeded, same⟩ := informed.each inbound loaded isSender
  exact consumeRemoveGroupMembersMsg_known stays found valid unseeded same

theorem RemoveGroupMembersMsg.listValid
    (valid : (isValidAddress receiver && isValidRemoveGroupMembersMsg getE2eesPack msg) = true) :
    ListValid getE2eesPack receiver msg.e2eesPackId msg.groupInfo msg.memberInfoList := by
  simp only [isValidRemoveGroupMembersMsg, Bool.and_eq_true, List.all_eq_true] at valid
  exact ⟨valid.2.1.1.1.1, valid.1, valid.2.1.1.2, valid.2.2⟩

/-- Unless the stored session of the sender has the new members already, the handler drops sessions
and waits for the keys of the listed devices. -/
theorem consumeRemoveGroupMembersMsg_waits
    (valid : (isValidAddress receiver && isValidRemoveGroupMembersMsg getE2eesPack msg) = true)
    (stays : msg.removingMemberList.any (isSameUser receiver) = false)
    (differs : ∀ inbound, device.groups.loadGroupSessionByAddress msg.senderAddress receiver
      msg.groupInfo.groupAddress = some inbound → isValidGroupSession getE2eesPack inbound = true →
      compareGroupMember inbound.groupInfo.groupMemberList msg.groupInfo.groupMemberList = false) :
    ∃ before : GroupStore β, (∀ session ∈ before.entries, session ∈ device.groups.entries) ∧
      consumeRemoveGroupMembersMsg getE2eesPack device receiver msg =
        before.waitFor getE2eesPack receiver msg.e2eesPackId msg.groupInfo msg.memberInfoList := by
  unfold consumeRemoveGroupMembersMsg
  rw [valid, if_pos rfl, stays]
  simp only [Bool.false_eq_true, if_false]
  split
  · exact ⟨device.groups, fun _ member => member, rfl⟩
  next inbound found =>
    obtain ⟨loaded, inboundValid⟩ := Option.filter_eq_some_iff.mp found
    rw [differs inbound loaded inboundValid]
    exact ⟨_, fun _ member => List.mem_of_mem_filter member, rfl⟩

/-- Without a usable session of the sender the handler waits for the keys of the listed devices. -/
theorem consumeRemoveGroupMembersMsg_unknown
    (valid : (isValidAddress receiver && isValidRemoveGroupMembersMsg getE2eesPack msg) = true)
    (stays : msg.removingMemberList.any (isSameUser receiver) = false)
    (unusable : ∀ inbound, device.groups.loadGroupSessionByAddress msg.senderAddress receiver
        msg.groupInfo.groupAddress = some inbound →
      isValidGroupSession getE2eesPack inbound = false) :
    consumeRemoveGroupMembersMsg getE2eesPack device receiver msg =
      device.groups.waitFor getE2eesPack receiver msg.e2eesPackId msg.groupInfo
        msg.memberInfoList := by
  have missing : (device.groups.loadGroupSessionByAddress msg.senderAddress receiver
      msg.groupInfo.groupAddress).filter (isValidGroupSession getE2eesPack) = none := by
    rw [Option.eq_none_iff_forall_ne_some]
    intro inbound found
    obtain ⟨loaded, usable⟩ := Option.filter_eq_some_iff.mp found
    rw [unusable inbound loaded] at usable
    cases usable
  unfold consumeRemoveGroupMembersMsg
  rw [valid, if_pos rfl, stays, missing]
  rfl

variable (getE2eesPack) in
/-- The handler knows the message by the sessions of its sender: they are those of the group session
that the bundle replaces, or they have the new members already. -/
inductive RemoveGroupMembersMsg.Recognised (device : Device β) (receiver : E2eeAddress)
    (msg : RemoveGroupMembersMsg β) (oldSessionId : String) : Prop
  | ignored
      (invalid : (isValidAddress receiver && isValidRemoveGroupMembersMsg getE2eesPack msg) = false)
  | removed (removed : msg.removingMemberList.any (isSameUser receiver) = true)
  | old (different : msg.senderAddress ≠ receiver)
      (listed : IsListed msg.memberInfoList msg.senderAddress)
      (old : ∀ session ∈ device.groups.loadGroupSessions receiver msg.groupInfo.groupAddress,
        session.sender = msg.senderAddress →
        session.sessionId = oldSessionId ∨ session.sessionId = "")
      (differs : ∀ inbound, device.groups.loadGroupSessionByAddress msg.senderAddress receiver
        msg.groupInfo.groupAddress = some inbound →
        isValidGroupSession getE2eesPack inbound = true →
        compareGroupMember inbound.groupInfo.groupMemberList msg.groupInfo.groupMemberList = false)
  | replaced (different : msg.senderAddress ≠ receiver)
      (informed : device.groups.Informed getE2eesPack msg.senderAddress receiver msg.groupInfo)
      (renamed : ∀ session ∈ device.groups.loadGroupSessions receiver msg.groupInfo.groupAddress,
        session.sender = msg.senderAddress → session.sessionId ≠ oldSessionId)

theorem mem_unloadGroupSessionById {groups : GroupStore β} {oldSessionId : String}
    {session : GroupSession β} :
    session ∈ (groups.unloadGroupSessionById receiver oldSessionId).entries ↔
      session ∈ groups.entries ∧
        ¬(session.sessionOwner = receiver ∧ session.sessionId = oldSessionId) := by
  unfold GroupStore.unloadGroupSessionById KeyedTable.restrict
  simp only [List.mem_filter, Bool.not_eq_true', decide_eq_false_iff_not]

section Replacing

variable {bundle : GroupPreKeyBundle β}
  (bundleValid : isValidGroupPreKeyBundle getE2eesPack bundle = true)
  (replaces : bundle.oldSessionId ≠ "")
  (group : bundle.groupInfo.groupAddress = msg.groupInfo.groupAddress)
  (different : msg.senderAddress ≠ receiver)

include replaces group different

/-- A bundle that does not unload the sessions of the sender leaves the member informed. -/
theorem consumeGroupPreKeyBundle_informed
    (informed : device.groups.Informed getE2eesPack msg.senderAddress receiver msg.groupInfo)
    (renamed : ∀ session ∈ device.groups.loadGroupSessions receiver msg.groupInfo.groupAddress,
      session.sender = msg.senderAddress → session.sessionId ≠ bundle.oldSessionId) :
    (consumeGroupPreKeyBundle getE2eesPack device receiver bundle).Informed getE2eesPack
      msg.senderAddress receiver msg.groupInfo := by
  obtain ⟨known, knownLoaded, knownSender⟩ := informed.present
  obtain ⟨knownMember, knownFacts⟩ := (device.groups.mem_loadGroupSessions).mp knownLoaded
  have kept : known ∈ (device.groups.unloadGroupSessionById receiver
      bundle.oldSessionId).loadGroupSessions receiver msg.groupInfo.groupAddress :=
    (GroupStore.mem_loadGroupSessions _).mpr ⟨mem_unloadGroupSessionById.mpr ⟨knownMember,
      fun old => renamed known knownLoaded knownSender old.2⟩, knownFacts⟩
  have meets : BundleMeets device receiver bundle
      (device.groups.unloadGroupSessionById receiver bundle.oldSessionId) := by
    refine ⟨if_pos replaces, ?_⟩
    rw [group]
    exact List.ne_nil_of_mem kept
  refine ⟨meets.present_consume ⟨known, kept, knownSender⟩, ?_⟩
  intro session loaded isSender
  obtain ⟨member, facts⟩ := (GroupStore.mem_loadGroupSessions _).mp loaded
  obtain old | ⟨other, present, -, made⟩ | made := meets.mem_consume member
  · exact informed.each session ((GroupStore.mem_loadGroupSessions _).mpr
      ⟨(mem_unloadGroupSessionById.mp old).1, facts⟩) isSender
  · rw [group] at present
    obtain ⟨otherMember, otherFacts⟩ := (GroupStore.mem_loadGroupSessions _).mp present
    have usable := completed_usable made
    obtain ⟨-, cipherSuite, -, rfl⟩ := completeByPreKeyBundle_some made
    have before := informed.each other ((GroupStore.mem_loadGroupSessions _).mpr
      ⟨(mem_unloadGroupSessionById.mp otherMember).1, otherFacts⟩) isSender
    exact ⟨usable, before.2⟩
  · obtain ⟨cipherSuite, signPublicKey, -, -, rfl⟩ := newOutboundByReceiver_some made
    exact absurd isSender.symm different

include bundleValid

/-- A bundle completes the session that waits for the keys of the sender. -/
theorem consumeGroupPreKeyBundle_informs
    (valid : ListValid getE2eesPack receiver msg.e2eesPackId msg.groupInfo msg.memberInfoList)
    (listed : IsListed msg.memberInfoList msg.senderAddress) {before : GroupStore β}
    (old : ∀ session ∈ before.loadGroupSessions receiver msg.groupInfo.groupAddress,
      session.sender = msg.senderAddress →
      session.sessionId = bundle.oldSessionId ∨ session.sessionId = "") :
    (consumeGroupPreKeyBundle getE2eesPack ⟨device.store, before.waitFor getE2eesPack receiver
      msg.e2eesPackId msg.groupInfo msg.memberInfoList⟩ receiver bundle).Informed getE2eesPack
        msg.senderAddress receiver msg.groupInfo := by
  obtain ⟨info, -, isInfo, waiting, made, waitingValid, found⟩ :=
    lookup_waitFor before valid listed different
  obtain ⟨unnamed, waitingSender, -, waitingInfo, unseeded, -⟩ := newInboundByMemberId_some made
  have kept : ((before.waitFor getE2eesPack receiver msg.e2eesPackId msg.groupInfo
      msg.memberInfoList).unloadGroupSessionById receiver bundle.oldSessionId).lookup
        ⟨"", msg.senderAddress, receiver, msg.groupInfo.groupAddress⟩ = some waiting := by
    refine KeyedTable.lookup_restrict found ?_
    simp [unnamed, replaces.symm]
  have loadedWaiting := GroupStore.mem_loadGroupSessions_of_lookup _ kept
  have meets : BundleMeets ⟨device.store, before.waitFor getE2eesPack receiver msg.e2eesPackId
      msg.groupInfo msg.memberInfoList⟩ receiver bundle ((before.waitFor getE2eesPack receiver
        msg.e2eesPackId msg.groupInfo msg.memberInfoList).unloadGroupSessionById receiver
          bundle.oldSessionId) := by
    refine ⟨if_pos replaces, ?_⟩
    rw [group]
    exact List.ne_nil_of_mem loadedWaiting
  -- the sessions of the sender that are not unloaded have no identifier
  have key {session : GroupSession β} (member : session ∈ ((before.waitFor getE2eesPack receiver
      msg.e2eesPackId msg.groupInfo msg.memberInfoList).unloadGroupSessionById receiver
        bundle.oldSessionId).entries) (isSender : session.sender = msg.senderAddress)
      (owner : session.sessionOwner = receiver)
      (sessionGroup : session.groupInfo.groupAddress = msg.groupInfo.groupAddress) :
      session.key = ⟨"", msg.senderAddress, receiver, msg.groupInfo.groupAddress⟩ := by
    obtain ⟨stored, current⟩ := mem_unloadGroupSessionById.mp member
    have sessionId : session.sessionId = "" := by
      obtain earlier | ⟨writer, -, -, writerMade⟩ := mem_waitFor stored
      · refine (old session ((GroupStore.mem_loadGroupSessions _).mpr
          ⟨earlier, owner, sessionGroup⟩) isSender).resolve_left fun same => current ⟨owner, same⟩
      · exact (newInboundByMemberId_some writerMade).1
    rw [GroupSession.key, sessionId, isSender, owner, sessionGroup]
  obtain ⟨completed, completes⟩ := completes_of_valid waitingValid bundleValid
  have gone := meets.lookup_unnamed different bundleValid (group ▸ kept) completes
  refine ⟨meets.present_consume ⟨waiting, loadedWaiting, waitingSender.trans isInfo⟩, ?_⟩
  intro session loaded isSender
  obtain ⟨member, owner, sessionGroup⟩ := (GroupStore.mem_loadGroupSessions _).mp loaded
  obtain earlier | ⟨other, present, -, otherMade⟩ | otherMade := meets.mem_consume member
  · have stored := KeyedTable.lookup_of_mem _ member
    rw [key earlier isSender owner sessionGroup, ← group, gone] at stored
    cases stored
  · have usable := completed_usable otherMade
    obtain ⟨-, cipherSuite, -, rfl⟩ := completeByPreKeyBundle_some otherMade
    obtain ⟨otherMember, -⟩ := (GroupStore.mem_loadGroupSessions _).mp present
    have stored := KeyedTable.lookup_of_mem _ otherMember
    rw [key otherMember isSender owner sessionGroup, kept, Option.some.injEq] at stored
    subst stored
    refine ⟨usable, unseeded, ?_⟩
    dsimp only
    rw [waitingInfo]
    exact compareGroupMember_self _
  · obtain ⟨cipherSuite, signPublicKey, -, -, rfl⟩ := newOutboundByReceiver_some otherMade
    exact absurd isSender.symm different

end Replacing

/-- A member that stays is informed after the message and the bundle. -/
theorem RemoveGroupMembersMsg.Recognised.informs {bundle : GroupPreKeyBundle β}
    (recognised : msg.Recognised getE2eesPack device receiver bundle.oldSessionId)
    (valid : (isValidAddress receiver && isValidRemoveGroupMembersMsg getE2eesPack msg) = true)
    (stays : msg.removingMemberList.any (isSameUser receiver) = false)
    (bundleValid : isValidGroupPreKeyBundle getE2eesPack bundle = true)
    (replaces : bundle.oldSessionId ≠ "")
    (group : bundle.groupInfo.groupAddress = msg.groupInfo.groupAddress) :
    (consumeGroupPreKeyBundle getE2eesPack ⟨device.store, consumeRemoveGroupMembersMsg getE2eesPack
      device receiver msg⟩ receiver bundle).Informed getE2eesPack msg.senderAddress receiver
        msg.groupInfo := by
  cases recognised with
  | ignored invalid =>
      rw [valid] at invalid
      cases invalid
  | removed removed =>
      rw [stays] at removed
      cases removed
  | old different listed old differs =>
      obtain ⟨before, stored, waits⟩ := consumeRemoveGroupMembersMsg_waits valid stays differs
      rw [waits]
      refine consumeGroupPreKeyBundle_informs bundleValid replaces group different
        (RemoveGroupMembersMsg.listValid valid) listed ?_
      intro session loaded isSender
      obtain ⟨member, facts⟩ := (before.mem_loadGroupSessions).mp loaded
      exact old session ((GroupStore.mem_loadGroupSessions _).mpr ⟨stored session member, facts⟩)
        isSender
  | replaced different informed renamed =>
      rw [consumeRemoveGroupMembersMsg_informed informed stays]
      exact consumeGroupPreKeyBundle_informed replaces group different informed renamed

section Repeated

variable {bundle : GroupPreKeyBundle β}
  (valid : (isValidAddress receiver && isValidRemoveGroupMembersMsg getE2eesPack msg) = true)
  (stays : msg.removingMemberList.any (isSameUser receiver) = false)
  (bundleValid : isValidGroupPreKeyBundle getE2eesPack bundle = true)
  (replaces : bundle.oldSessionId ≠ "")
  (group : bundle.groupInfo.groupAddress = msg.groupInfo.groupAddress)
  (old : ∀ session ∈ device.groups.loadGroupSessions receiver msg.groupInfo.groupAddress,
    session.sessionId = bundle.oldSessionId)
  {address : E2eeAddress} (listed : IsListed msg.memberInfoList address)
  (other : address ≠ receiver)

include valid stays bundleValid replaces group old listed other

/-- When the old session of the sender has the new members already, the bundle unloads all sessions,
and the handler waits for new ones afterwards. -/
theorem consumeRemoveGroupMembersMsg_early {inbound : GroupSession β}
    (found : device.groups.loadGroupSessionByAddress msg.senderAddress receiver
      msg.groupInfo.groupAddress = some inbound)
    (usable : isValidGroupSession getE2eesPack inbound = true) (unseeded : inbound.groupSeed = [])
    (same : compareGroupMember inbound.groupInfo.groupMemberList msg.groupInfo.groupMemberList =
      true) :
    consumeRemoveGroupMembersMsg getE2eesPack ⟨device.store, consumeGroupPreKeyBundle getE2eesPack
        ⟨device.store, consumeRemoveGroupMembersMsg getE2eesPack device receiver msg⟩ receiver
          bundle⟩ receiver msg ≠
      consumeGroupPreKeyBundle getE2eesPack
        ⟨device.store, consumeRemoveGroupMembersMsg getE2eesPack device receiver msg⟩ receiver
          bundle := by
  rw [consumeRemoveGroupMembersMsg_known stays found usable unseeded same]
  have fresh : (device.groups.unloadGroupSessionById receiver
      bundle.oldSessionId).loadGroupSessions receiver msg.groupInfo.groupAddress = [] := by
    rw [List.eq_nil_iff_forall_not_mem]
    intro session loaded
    obtain ⟨member, facts⟩ := (GroupStore.mem_loadGroupSessions _).mp loaded
    obtain ⟨present, kept⟩ := mem_unloadGroupSessionById.mp member
    exact kept ⟨facts.1, old session ((GroupStore.mem_loadGroupSessions _).mpr ⟨present, facts⟩)⟩
  have only {session : GroupSession β} (loaded : session ∈ (consumeGroupPreKeyBundle getE2eesPack
      ⟨device.store, device.groups⟩ receiver bundle).loadGroupSessions receiver
        msg.groupInfo.groupAddress) :
      session.sessionId = bundle.sessionId ∧ session.chainKey = [] := by
    obtain ⟨member, facts⟩ := (GroupStore.mem_loadGroupSessions _).mp loaded
    rw [consumeGroupPreKeyBundle, if_pos replaces, group] at member
    dsimp only at member
    rw [fresh] at member
    obtain earlier | made := GroupStore.mem_storeResult _ member
    · have present := (GroupStore.mem_loadGroupSessions _).mpr ⟨earlier, facts⟩
      rw [fresh] at present
      cases present
    · obtain ⟨sessionId, -, -, -, -, chainKey⟩ := newInboundByPreKeyBundle_some made
      exact ⟨sessionId, chainKey⟩
  rw [consumeRemoveGroupMembersMsg_unknown valid stays]
  · apply waitFor_ne (RemoveGroupMembersMsg.listValid valid) listed other
    rw [Option.eq_none_iff_forall_ne_some]
    intro session stored
    have named : bundle.sessionId ≠ "" := by
      simp only [isValidGroupPreKeyBundle, Bool.and_eq_true] at bundleValid
      simpa [isValidString] using bundleValid.1.1.1.2
    have unnamed := congrArg GroupKey.sessionId (KeyedTable.lookup_key stored)
    exact named ((only (GroupStore.mem_loadGroupSessions_of_lookup _ stored)).1.symm.trans unnamed)
  · intro seeded seededFound
    obtain ⟨loaded, -⟩ := GroupStore.loadGroupSessionByAddress_some _ seededFound
    simp [isValidGroupSession, isValidProtobuf, (only loaded).2]

/-- Without the sender in the list nothing tells the handler that it knows the message. -/
theorem consumeRemoveGroupMembersMsg_unlisted (different : msg.senderAddress ≠ receiver)
    (unlisted : ¬IsListed msg.memberInfoList msg.senderAddress)
    (differs : ∀ inbound, device.groups.loadGroupSessionByAddress msg.senderAddress receiver
      msg.groupInfo.groupAddress = some inbound → isValidGroupSession getE2eesPack inbound = true →
      compareGroupMember inbound.groupInfo.groupMemberList msg.groupInfo.groupMemberList = false) :
    consumeRemoveGroupMembersMsg getE2eesPack ⟨device.store, consumeGroupPreKeyBundle getE2eesPack
        ⟨device.store, consumeRemoveGroupMembersMsg getE2eesPack device receiver msg⟩ receiver
          bundle⟩ receiver msg ≠
      consumeGroupPreKeyBundle getE2eesPack
        ⟨device.store, consumeRemoveGroupMembersMsg getE2eesPack device receiver msg⟩ receiver
          bundle := by
  obtain ⟨before, stored, waits⟩ := consumeRemoveGroupMembersMsg_waits valid stays differs
  rw [waits]
  have listValid := RemoveGroupMembersMsg.listValid valid
  obtain ⟨_, -, -, waiting, waitingMade, waitingValid, found⟩ :=
    lookup_waitFor before listValid listed other
  have kept : ((before.waitFor getE2eesPack receiver msg.e2eesPackId msg.groupInfo
      msg.memberInfoList).unloadGroupSessionById receiver bundle.oldSessionId).lookup
        ⟨"", address, receiver, msg.groupInfo.groupAddress⟩ = some waiting := by
    refine KeyedTable.lookup_restrict found ?_
    simp [(newInboundByMemberId_some waitingMade).1, replaces.symm]
  have meets : BundleMeets ⟨device.store, before.waitFor getE2eesPack receiver msg.e2eesPackId
      msg.groupInfo msg.memberInfoList⟩ receiver bundle ((before.waitFor getE2eesPack receiver
        msg.e2eesPackId msg.groupInfo msg.memberInfoList).unloadGroupSessionById receiver
          bundle.oldSessionId) := by
    refine ⟨if_pos replaces, ?_⟩
    rw [group]
    exact List.ne_nil_of_mem (GroupStore.mem_loadGroupSessions_of_lookup _ kept)
  obtain ⟨completed, completes⟩ := completes_of_valid waitingValid bundleValid
  have gone := meets.lookup_unnamed other bundleValid (group ▸ kept) completes
  have unknown : ∀ session ∈ ((before.waitFor getE2eesPack receiver msg.e2eesPackId msg.groupInfo
      msg.memberInfoList).unloadGroupSessionById receiver bundle.oldSessionId).loadGroupSessions
        receiver msg.groupInfo.groupAddress, session.sender ≠ msg.senderAddress := by
    intro session loaded isSender
    obtain ⟨member, facts⟩ := (GroupStore.mem_loadGroupSessions _).mp loaded
    obtain ⟨present, current⟩ := mem_unloadGroupSessionById.mp member
    obtain earlier | ⟨info, infoListed, -, writerMade⟩ := mem_waitFor present
    · exact current ⟨facts.1, old session ((GroupStore.mem_loadGroupSessions _).mpr
        ⟨stored session earlier, facts⟩)⟩
    · exact unlisted ⟨info, infoListed,
        (newInboundByMemberId_some writerMade).2.1.symm.trans isSender⟩
  rw [consumeRemoveGroupMembersMsg_unknown valid stays]
  · exact waitFor_ne listValid listed other (group ▸ gone)
  · intro inbound inboundFound
    obtain ⟨loaded, isSender⟩ := GroupStore.loadGroupSessionByAddress_some _ inboundFound
    exact absurd isSender (meets.absent_consume different group unknown inbound loaded)

end Repeated

end Removals

end E2eeSecurity
