/-
This file shows what a second copy of a membership message does.
A creation and a removal are recognised, and an addition is applied again.
-/
import E2eeSecurity.Group.Recognition
import E2eeSecurity.Group.Renewal

namespace E2eeSecurity

variable {β : Type}

/-- This is what a member has for a group: one session for each sender, all of one suite.
A session that has a seed waits for the list of the members. -/
structure GroupStore.Kept (getE2eesPack : Packs β) (groups : GroupStore β)
    (owner groupAddress : E2eeAddress) : Prop where
  once : ∀ session ∈ groups.loadGroupSessions owner groupAddress,
    ∀ other ∈ groups.loadGroupSessions owner groupAddress,
    session.sender = other.sender → session = other
  identifier : ∀ session ∈ groups.loadGroupSessions owner groupAddress, session.sessionId ≠ "" →
    ∀ other ∈ groups.entries, other.sessionOwner = owner → other.sessionId = session.sessionId →
    other.groupInfo.groupAddress = groupAddress
  samePack : ∀ session ∈ groups.loadGroupSessions owner groupAddress,
    ∀ other ∈ groups.loadGroupSessions owner groupAddress,
    session.e2eesPackId = other.e2eesPackId
  seeds : ∀ session ∈ groups.loadGroupSessions owner groupAddress, session.groupSeed ≠ [] →
    isValidGroupSessionByPreKeyBundle getE2eesPack session = true
  full : ∀ session ∈ groups.loadGroupSessions owner groupAddress, session.chainKey ≠ [] →
    ∀ cipherSuite, getE2eesPack session.e2eesPackId = some cipherSuite →
    cipherSuite.FullKey session.chainKey

section Additions

variable {getE2eesPack : Packs β} {device : Device β} {receiver : E2eeAddress}
  {msg : GroupAddMsg β} {renewal : GroupRenewal getE2eesPack}

/-- The chain of the adder that a renewal starts from belongs to the group. -/
theorem GroupAddMsg.Renews.adder (renews : msg.Renews device receiver renewal)
    (kept : device.groups.Kept getE2eesPack receiver msg.groupInfo.groupAddress) :
    ∃ inbound ∈ device.groups.loadGroupSessions receiver msg.groupInfo.groupAddress,
      inbound.sender = msg.senderAddress ∧
      inbound.sessionId = renewal.outbound.sessionId ∧
      inbound.e2eesPackId = renewal.outbound.e2eesPackId ∧
      isValidGroupSession getE2eesPack inbound = true ∧
      renewal.cipherSuite.FullKey inbound.chainKey ∧
      renewal.senderChainKey =
        some (inbound.catchUp renewal.cipherSuite msg.sequence).chainKey := by
  obtain ⟨inbound, cipherSuite, found, pack, chainKey⟩ := renews.sender
  obtain ⟨outboundMember, -, owner, group, -⟩ := loadOutboundGroupSession_some renews.outbound
  have outboundLoaded := (device.groups.mem_loadGroupSessions).mpr ⟨outboundMember, owner, group⟩
  obtain ⟨byId, valid⟩ := Option.filter_eq_some_iff.mp found
  obtain ⟨member, sender, inboundOwner, sessionId⟩ :=
    device.groups.loadGroupSessionById_some byId
  have inboundGroup := kept.identifier _ outboundLoaded (sessionId_of_valid renewal.valid) inbound
    member inboundOwner sessionId
  have loaded := (device.groups.mem_loadGroupSessions).mpr ⟨member, inboundOwner, inboundGroup⟩
  have samePack := kept.samePack inbound loaded _ outboundLoaded
  have sameSuite : cipherSuite = renewal.cipherSuite := by
    rw [samePack, renewal.pack] at pack
    exact (Option.some.inj pack).symm
  have nonempty : inbound.chainKey ≠ [] := by
    simp only [isValidGroupSession, Bool.and_eq_true, isValidProtobuf_iff] at valid
    exact valid.1.2
  subst sameSuite
  exact ⟨inbound, loaded, sender, sessionId, samePack, valid,
    kept.full inbound loaded nonempty _ pack, chainKey⟩

section Again

variable (renews : msg.Renews device receiver renewal)
  (kept : device.groups.Kept getE2eesPack receiver msg.groupInfo.groupAddress)

include renews kept

/-- After the first copy there is still one outbound session of the group. -/
theorem GroupAddMsg.Renews.outbound_again :
    ∃ outbound, loadOutboundGroupSession getE2eesPack renewal.finish receiver
        msg.groupInfo.groupAddress = some outbound ∧
      outbound.sessionId = renewal.outbound.sessionId ∧
      outbound.e2eesPackId = renewal.outbound.e2eesPackId := by
  obtain ⟨member, sender, owner, group, -⟩ := loadOutboundGroupSession_some renews.outbound
  have loaded := (device.groups.mem_loadGroupSessions).mpr ⟨member, owner, group⟩
  obtain ⟨outbound, found⟩ := Option.isSome_iff_exists.mp renewal.finish_outbound_isSome
  have origin : ∀ session ∈ renewal.finish.entries, session.sender = receiver →
      session.sessionOwner = receiver →
      session.groupInfo.groupAddress = msg.groupInfo.groupAddress →
      session.sessionId = renewal.outbound.sessionId ∧
        session.e2eesPackId = renewal.outbound.e2eesPackId ∧
        isValidGroupSession getE2eesPack session = true := by
    intro session present isOwn sessionOwner sessionGroup
    obtain old | rfl | ⟨old, cipherSuite, -, -, -, different, -, -, rfl⟩ |
      ⟨info, theirs, assigned, rfl⟩ := renewal.mem_finish present
    · rw [renews.onDevice] at old
      have same := kept.once session ((device.groups.mem_loadGroupSessions).mpr
        ⟨old, sessionOwner, sessionGroup⟩) _ loaded (isOwn.trans sender.symm)
      rw [same]
      exact ⟨rfl, rfl, renewal.valid⟩
    · exact ⟨rfl, rfl, renewal.next_valid⟩
    · exact absurd (isOwn.trans sender.symm) different
    · exact ⟨rfl, rfl, renewal.added_valid assigned⟩
  have key := KeyedTable.lookup_key found
  have facts := origin outbound (KeyedTable.lookup_mem found)
    ((congrArg GroupKey.sender key).trans sender)
    ((congrArg GroupKey.sessionOwner key).trans owner)
    ((congrArg GroupKey.groupAddress key).trans group)
  refine ⟨outbound, Option.filter_eq_some_iff.mpr ⟨?_, facts.2.2⟩, facts.1, facts.2.1⟩
  have wanted : renewal.outbound.key =
      ⟨renewal.outbound.sessionId, receiver, receiver, msg.groupInfo.groupAddress⟩ := by
    rw [GroupSession.key, sender, owner, group]
  rw [wanted] at found
  refine GroupStore.loadGroupSessionByAddress_of_lookup _ found ?_
  intro other present isOwn otherOwner otherGroup
  exact (origin other present isOwn otherOwner otherGroup).1

/-- The chain of the adder has moved on, and the second copy finds it there. -/
theorem GroupAddMsg.Renews.adder_again (otherSender : msg.senderAddress ≠ receiver)
    (apart : ∀ info ∈ msg.infos, info.memberAddress ≠ msg.senderAddress) :
    ∃ moved, renewal.finish.lookup moved.key = some moved ∧
      moved.sender = msg.senderAddress ∧ moved.sessionOwner = receiver ∧
      moved.groupInfo.groupAddress = msg.groupInfo.groupAddress ∧
      moved.e2eesPackId = renewal.outbound.e2eesPackId ∧
      isValidGroupSession getE2eesPack moved = true ∧
      renewal.cipherSuite.FullKey moved.chainKey ∧
      loadInboundGroupSession getE2eesPack renewal.finish msg.senderAddress receiver
        renewal.outbound.sessionId = some moved := by
  obtain ⟨inbound, loaded, sender, sessionId, samePack, valid, full, chainKey⟩ :=
    renews.adder kept
  obtain ⟨outboundMember, outboundSender, owner, group, -⟩ :=
    loadOutboundGroupSession_some renews.outbound
  obtain ⟨member, inboundOwner, inboundGroup⟩ := (device.groups.mem_loadGroupSessions).mp loaded
  have outboundLoaded := (device.groups.mem_loadGroupSessions).mpr ⟨outboundMember, owner, group⟩
  have isSender : renewal.senderAddress = inbound.sender := renews.senderAddress.trans sender.symm
  have movedKey := renewal.renewed_sender isSender chainKey renewal.cipherSuite
  have movedFull : renewal.cipherSuite.FullKey
      (renewal.renewed inbound renewal.cipherSuite).chainKey := by
    rw [movedKey, GroupSession.catchUp_eq]
    dsimp only
    rw [advanceGroupChainKey_iterate_full full]
    exact welcomeAndAdd_full _ (advance_iterate_full full _)
  have movedValid := renewal.renewed_valid renewal.cipherSuite valid movedFull.valid
  have sameKey : (renewal.renewed inbound renewal.cipherSuite).key = inbound.key :=
    congrArg (fun address => { inbound.key with groupAddress := address })
      (group.trans inboundGroup.symm)
  have found : renewal.finish.lookup inbound.key =
      some (renewal.renewed inbound renewal.cipherSuite) := by
    refine renewal.finish_inbound ?_ (inboundOwner.trans owner.symm)
      (inboundGroup.trans group.symm) ?_ valid ?_ ?_
    · rw [renews.onDevice]
      exact member
    · rw [sender, outboundSender]
      exact otherSender
    · rw [samePack]
      exact renewal.pack
    · intro info listed
      rw [renews.infos] at listed
      rw [sender]
      exact apart info listed
  refine ⟨renewal.renewed inbound renewal.cipherSuite, sameKey ▸ found, sender, inboundOwner,
    group, samePack, movedValid, movedFull, Option.filter_eq_some_iff.mpr ⟨?_, movedValid⟩⟩
  have wanted : inbound.key = ⟨renewal.outbound.sessionId, msg.senderAddress, receiver,
      msg.groupInfo.groupAddress⟩ := by
    rw [GroupSession.key, sessionId, sender, inboundOwner, inboundGroup]
  rw [wanted] at found
  refine GroupStore.loadGroupSessionById_of_lookup _ found ?_
  intro other present _ otherOwner otherId
  obtain old | rfl | ⟨_, _, _, _, _, _, _, _, rfl⟩ | ⟨_, _, _, rfl⟩ := renewal.mem_finish present
  · rw [renews.onDevice] at old
    exact kept.identifier _ outboundLoaded (sessionId_of_valid renewal.valid) other old otherOwner
      otherId
  · exact group
  · exact group
  · exact group

/-- The second copy moves the chain of the adder on once more. -/
theorem GroupAddMsg.Renews.again (free : renewal.cipherSuite.FreeGroupKeys)
    (otherSender : msg.senderAddress ≠ receiver)
    (apart : ∀ info ∈ msg.infos, info.memberAddress ≠ msg.senderAddress) :
    (msg.consume getE2eesPack ⟨device.store, renewal.finish⟩ receiver).1 ≠ renewal.finish := by
  obtain ⟨outbound, outboundFound, sessionId, samePack⟩ := renews.outbound_again kept
  obtain ⟨moved, found, sender, owner, group, movedPack, valid, full, inboundFound⟩ :=
    renews.adder_again kept otherSender apart
  obtain ⟨-, outboundSender, outboundOwner, outboundGroup, -⟩ :=
    loadOutboundGroupSession_some outboundFound
  have pack : getE2eesPack moved.e2eesPackId = some renewal.cipherSuite := by
    rw [movedPack]
    exact renewal.pack
  have authorised := renewal.authorised
  rw [renews.onDevice, (loadOutboundGroupSession_some renews.outbound).2.2.1] at authorised
  have nonempty : msg.infos ≠ [] := by
    rw [← renews.infos]
    exact renewal.nonempty
  rw [← sessionId] at inboundFound
  obtain ⟨second, secondRenews, rfl, chainKey⟩ := GroupAddMsg.exists_renews
    ⟨device.store, renewal.finish⟩ renews.receiverValid renews.valid nonempty outboundFound
    inboundFound pack authorised
  have sameSuite : second.cipherSuite = renewal.cipherSuite := by
    have secondPack := second.pack
    rw [samePack, renewal.pack] at secondPack
    exact (Option.some.inj secondPack).symm
  have isSender : second.senderAddress = moved.sender :=
    secondRenews.senderAddress.trans sender.symm
  rw [GroupAddMsg.consume_eq secondRenews]
  intro same
  have again : second.finish.lookup moved.key =
      some (second.renewed moved renewal.cipherSuite) := by
    refine second.finish_inbound ?_ (owner.trans outboundOwner.symm)
      (group.trans outboundGroup.symm) ?_ valid pack ?_
    · rw [secondRenews.onDevice]
      exact KeyedTable.lookup_mem found
    · rw [sender, outboundSender]
      exact otherSender
    · intro info listed
      rw [secondRenews.infos] at listed
      rw [sender]
      exact apart info listed
  rw [show second.finish = renewal.finish from same, found, Option.some.injEq] at again
  have movedKey := second.renewed_sender isSender chainKey renewal.cipherSuite
  rw [← again, GroupSession.catchUp_eq, sameSuite, secondRenews.infos] at movedKey
  dsimp only at movedKey
  rw [advanceGroupChainKey_iterate_full full] at movedKey
  exact walked_ne free nonempty full _ movedKey.symm

end Again

end Additions

/-- These are the messages of the server about the members of a group. -/
inductive MembershipMsg (β : Type)
  | create (msg : CreateGroupMsg β)
  | add (msg : GroupAddMsg β)
  | remove (msg : RemoveGroupMembersMsg β)

namespace MembershipMsg

section Handling

variable (getE2eesPack : Packs β)

def consume (device : Device β) (receiver : E2eeAddress) : MembershipMsg β → GroupStore β
  | .create msg => consumeCreateGroupMsg getE2eesPack device receiver msg
  | .add msg => (msg.consume getE2eesPack device receiver).1
  | .remove msg => consumeRemoveGroupMembersMsg getE2eesPack device receiver msg

/-- The member handles the message and then the bundle that comes with it, if there is one. -/
def deliver (device : Device β) (receiver : E2eeAddress) (msg : MembershipMsg β)
    (bundle : Option (GroupPreKeyBundle β)) : Device β :=
  let listed := msg.consume getE2eesPack device receiver
  ⟨device.store, match bundle with
    | some bundle => consumeGroupPreKeyBundle getE2eesPack ⟨device.store, listed⟩ receiver bundle
    | none => listed⟩

/-- The bundle belongs to the message. A creation replaces no group session, a removal replaces one,
an addition has no bundle, and a member that is removed gets none. -/
inductive Matching (receiver : E2eeAddress) :
    MembershipMsg β → Option (GroupPreKeyBundle β) → Prop
  | create {msg : CreateGroupMsg β} {bundle : GroupPreKeyBundle β}
      (valid : isValidGroupPreKeyBundle getE2eesPack bundle = true)
      (first : bundle.oldSessionId = "")
      (group : bundle.groupInfo.groupAddress = msg.groupInfo.groupAddress) :
      Matching receiver (.create msg) (some bundle)
  | add {msg : GroupAddMsg β} : Matching receiver (.add msg) none
  | stay {msg : RemoveGroupMembersMsg β} {bundle : GroupPreKeyBundle β}
      (stays : msg.removingMemberList.any (isSameUser receiver) = false)
      (valid : isValidGroupPreKeyBundle getE2eesPack bundle = true)
      (replaces : bundle.oldSessionId ≠ "")
      (group : bundle.groupInfo.groupAddress = msg.groupInfo.groupAddress) :
      Matching receiver (.remove msg) (some bundle)
  | leave {msg : RemoveGroupMembersMsg β}
      (removed : msg.removingMemberList.any (isSameUser receiver) = true) :
      Matching receiver (.remove msg) none

/-- The handler can tell by the stored sessions that it has nothing to do again. -/
def Recognised (device : Device β) (receiver : E2eeAddress)
    (bundle : Option (GroupPreKeyBundle β)) : MembershipMsg β → Prop
  | .create msg => msg.Recognised getE2eesPack device receiver
  | .add msg => ¬msg.Applies getE2eesPack device receiver
  | .remove msg => msg.Recognised getE2eesPack device receiver
      ((bundle.map GroupPreKeyBundle.oldSessionId).getD "")

/-- This is what an honest group leads to: the message comes from another device and is also for
another device, and the stored sessions are those of one group session. -/
inductive Regular (device : Device β) (receiver : E2eeAddress) :
    MembershipMsg β → Option (GroupPreKeyBundle β) → Prop
  | create {msg : CreateGroupMsg β} {bundle : Option (GroupPreKeyBundle β)}
      (kept : device.groups.Kept getE2eesPack receiver msg.groupInfo.groupAddress)
      (otherSender : msg.senderAddress ≠ receiver)
      (others : ∃ address, address ≠ receiver ∧ IsListed msg.memberInfoList address)
      (unseeded : ¬IsListed msg.memberInfoList msg.senderAddress →
        ∀ session ∈ device.groups.loadGroupSessions receiver msg.groupInfo.groupAddress,
          session.sender = msg.senderAddress → session.groupSeed = []) :
      Regular device receiver (.create msg) bundle
  | add {msg : GroupAddMsg β} {bundle : Option (GroupPreKeyBundle β)}
      (kept : device.groups.Kept getE2eesPack receiver msg.groupInfo.groupAddress)
      (otherSender : msg.senderAddress ≠ receiver)
      (apart : ∀ info ∈ msg.infos, info.memberAddress ≠ msg.senderAddress) :
      Regular device receiver (.add msg) bundle
  | remove {msg : RemoveGroupMembersMsg β} {bundle : GroupPreKeyBundle β}
      (otherSender : msg.senderAddress ≠ receiver)
      (others : ∃ address, address ≠ receiver ∧ IsListed msg.memberInfoList address)
      (old : ∀ session ∈ device.groups.loadGroupSessions receiver msg.groupInfo.groupAddress,
        session.sessionId = bundle.oldSessionId)
      (unseeded : ∀ session ∈ device.groups.loadGroupSessions receiver msg.groupInfo.groupAddress,
        session.groupSeed = []) :
      Regular device receiver (.remove msg) (some bundle)

end Handling

end MembershipMsg

variable {getE2eesPack : Packs β} {device : Device β} {receiver : E2eeAddress}
  {msg : MembershipMsg β} {bundle : Option (GroupPreKeyBundle β)}

/-- A second copy of a message that the member recognises leaves the stored sessions as they are. -/
theorem MembershipMsg.Recognised.again (matching : msg.Matching getE2eesPack receiver bundle)
    (recognised : msg.Recognised getE2eesPack device receiver bundle) :
    msg.consume getE2eesPack (msg.deliver getE2eesPack device receiver bundle) receiver =
      (msg.deliver getE2eesPack device receiver bundle).groups := by
  cases matching with
  | @create msg bundle valid first group =>
      by_cases accepted : (isValidAddress receiver && isValidCreateGroupMsg getE2eesPack msg) = true
      · exact consumeCreateGroupMsg_settled (consumeGroupPreKeyBundle_settled
          (CreateGroupMsg.Recognised.settles recognised accepted) first group)
      · exact consumeCreateGroupMsg_ignored (eq_false_of_ne_true accepted)
  | @add msg =>
      obtain unchanged | ⟨renewal, renews, -⟩ := msg.consume_cases getE2eesPack device receiver
      · simp only [MembershipMsg.consume, MembershipMsg.deliver, unchanged]
      · exact absurd (GroupAddMsg.applies_iff.mpr ⟨renewal, renews⟩) recognised
  | @stay msg bundle stays valid replaces group =>
      by_cases accepted :
          (isValidAddress receiver && isValidRemoveGroupMembersMsg getE2eesPack msg) = true
      · exact consumeRemoveGroupMembersMsg_informed (RemoveGroupMembersMsg.Recognised.informs
          recognised accepted stays valid replaces group) stays
      · exact consumeRemoveGroupMembersMsg_ignored (eq_false_of_ne_true accepted)
  | leave removed => exact consumeRemoveGroupMembersMsg_again removed

/-- A member that keeps one session for each sender recognises every creation but one that leaves
out its sender, of which it has no session. -/
theorem consumeCreateGroupMsg_repeats {msg : CreateGroupMsg β} {bundle : GroupPreKeyBundle β}
    (valid : isValidGroupPreKeyBundle getE2eesPack bundle = true)
    (first : bundle.oldSessionId = "")
    (group : bundle.groupInfo.groupAddress = msg.groupInfo.groupAddress)
    (kept : device.groups.Kept getE2eesPack receiver msg.groupInfo.groupAddress)
    (otherSender : msg.senderAddress ≠ receiver)
    (others : ∃ address, address ≠ receiver ∧ IsListed msg.memberInfoList address)
    (unseeded : ¬IsListed msg.memberInfoList msg.senderAddress →
      ∀ session ∈ device.groups.loadGroupSessions receiver msg.groupInfo.groupAddress,
        session.sender = msg.senderAddress → session.groupSeed = [])
    (unrecognised : ¬msg.Recognised getE2eesPack device receiver) :
    consumeCreateGroupMsg getE2eesPack ⟨device.store, consumeGroupPreKeyBundle getE2eesPack
        ⟨device.store, consumeCreateGroupMsg getE2eesPack device receiver msg⟩ receiver bundle⟩
      receiver msg ≠
    consumeGroupPreKeyBundle getE2eesPack
      ⟨device.store, consumeCreateGroupMsg getE2eesPack device receiver msg⟩ receiver bundle := by
  obtain ⟨address, other, listed⟩ := others
  have accepted : (isValidAddress receiver && isValidCreateGroupMsg getE2eesPack msg) = true := by
    by_contra invalid
    exact unrecognised (.ignored (eq_false_of_ne_true invalid))
  have absent : ¬∃ session ∈ device.groups.loadGroupSessions receiver msg.groupInfo.groupAddress,
      session.sender = msg.senderAddress := by
    rintro ⟨session, loaded, isSender⟩
    have only : ∀ next ∈ device.groups.loadGroupSessions receiver msg.groupInfo.groupAddress,
        next.sender = msg.senderAddress → next = session :=
      fun next present same => kept.once next present session loaded (same.trans isSender.symm)
    by_cases seed : session.groupSeed = []
    · refine unrecognised (.unseeded ?_ (.inl ⟨session, loaded, isSender⟩))
      intro next present same
      rw [only next present same]
      exact seed
    · refine unrecognised (.seeded ?_ session loaded isSender (kept.seeds session loaded seed) only)
      by_contra unlisted
      exact seed (unseeded unlisted session loaded isSender)
  have unlisted : ¬IsListed msg.memberInfoList msg.senderAddress := by
    intro named
    refine unrecognised (.unseeded ?_ (.inr ⟨otherSender, named⟩))
    intro session loaded isSender
    exact absurd ⟨session, loaded, isSender⟩ absent
  exact consumeCreateGroupMsg_unlisted accepted valid first group otherSender absent unlisted
    listed other

/-- A member that has only the old group session recognises every removal but one that leaves out
its sender, and one whose members the old session has already. -/
theorem consumeRemoveGroupMembersMsg_repeats {msg : RemoveGroupMembersMsg β}
    {bundle : GroupPreKeyBundle β}
    (stays : msg.removingMemberList.any (isSameUser receiver) = false)
    (valid : isValidGroupPreKeyBundle getE2eesPack bundle = true)
    (replaces : bundle.oldSessionId ≠ "")
    (group : bundle.groupInfo.groupAddress = msg.groupInfo.groupAddress)
    (otherSender : msg.senderAddress ≠ receiver)
    (others : ∃ address, address ≠ receiver ∧ IsListed msg.memberInfoList address)
    (old : ∀ session ∈ device.groups.loadGroupSessions receiver msg.groupInfo.groupAddress,
      session.sessionId = bundle.oldSessionId)
    (unseeded : ∀ session ∈ device.groups.loadGroupSessions receiver msg.groupInfo.groupAddress,
      session.groupSeed = [])
    (unrecognised : ¬msg.Recognised getE2eesPack device receiver bundle.oldSessionId) :
    consumeRemoveGroupMembersMsg getE2eesPack ⟨device.store, consumeGroupPreKeyBundle getE2eesPack
        ⟨device.store, consumeRemoveGroupMembersMsg getE2eesPack device receiver msg⟩ receiver
          bundle⟩ receiver msg ≠
      consumeGroupPreKeyBundle getE2eesPack
        ⟨device.store, consumeRemoveGroupMembersMsg getE2eesPack device receiver msg⟩ receiver
          bundle := by
  obtain ⟨address, other, listed⟩ := others
  have accepted :
      (isValidAddress receiver && isValidRemoveGroupMembersMsg getE2eesPack msg) = true := by
    by_contra invalid
    exact unrecognised (.ignored (eq_false_of_ne_true invalid))
  by_cases early : ∃ inbound, device.groups.loadGroupSessionByAddress msg.senderAddress receiver
      msg.groupInfo.groupAddress = some inbound ∧ isValidGroupSession getE2eesPack inbound = true ∧
      compareGroupMember inbound.groupInfo.groupMemberList msg.groupInfo.groupMemberList = true
  · obtain ⟨inbound, found, usable, same⟩ := early
    have loaded := (device.groups.loadGroupSessionByAddress_some found).1
    exact consumeRemoveGroupMembersMsg_early accepted stays valid replaces group old listed other
      found usable (unseeded inbound loaded) same
  · have differs : ∀ inbound, device.groups.loadGroupSessionByAddress msg.senderAddress receiver
        msg.groupInfo.groupAddress = some inbound →
        isValidGroupSession getE2eesPack inbound = true → compareGroupMember
          inbound.groupInfo.groupMemberList msg.groupInfo.groupMemberList = false := by
      intro inbound found usable
      exact eq_false_of_ne_true fun same => early ⟨inbound, found, usable, same⟩
    have unlisted : ¬IsListed msg.memberInfoList msg.senderAddress := by
      intro named
      refine unrecognised (.old otherSender named ?_ differs)
      exact fun session loaded _ => .inl (old session loaded)
    exact consumeRemoveGroupMembersMsg_unlisted accepted stays valid replaces group old listed other
      otherSender unlisted differs

/-- In an honest group a message that the member does not recognise changes the sessions again. -/
theorem MembershipMsg.Regular.repeats
    (free : ∀ e2eesPackId cipherSuite, getE2eesPack e2eesPackId = some cipherSuite →
      cipherSuite.FreeGroupKeys)
    (matching : msg.Matching getE2eesPack receiver bundle)
    (regular : MembershipMsg.Regular getE2eesPack device receiver msg bundle)
    (unrecognised : ¬msg.Recognised getE2eesPack device receiver bundle) :
    msg.consume getE2eesPack (msg.deliver getE2eesPack device receiver bundle) receiver ≠
      (msg.deliver getE2eesPack device receiver bundle).groups := by
  cases matching with
  | create valid first group =>
      cases regular with
      | create kept otherSender others unseeded =>
          exact consumeCreateGroupMsg_repeats valid first group kept otherSender others unseeded
            unrecognised
  | add =>
      cases regular with
      | add kept otherSender apart =>
          obtain ⟨renewal, renews⟩ := GroupAddMsg.applies_iff.mp (not_not.mp unrecognised)
          have once := GroupAddMsg.consume_eq renews
          have again := renews.again kept (free _ _ renewal.pack) otherSender apart
          simp only [MembershipMsg.consume, MembershipMsg.deliver, once]
          exact again
  | stay stays valid replaces group =>
      cases regular with
      | remove otherSender others old unseeded =>
          exact consumeRemoveGroupMembersMsg_repeats stays valid replaces group otherSender others
            old unseeded unrecognised
  | leave removed => exact absurd (.removed removed) unrecognised

namespace Symbolic

end Symbolic

end E2eeSecurity
