/-
This file shows when the bundles that a new member of a group receives lead to none of the message
keys that were used in the group before.
-/
import E2eeSecurity.Group.ForwardSecrecy

namespace E2eeSecurity

variable {β : Type}

/-- These are all devices, the devices in the group, and the outbound sessions as they were when a
message was sent with them. -/
structure GroupWorld (β : Type) where
  devices : E2eeAddress → Device β
  members : List E2eeAddress
  sent : List (GroupSession β)

/-- All members finish a round before the next one begins.
In an addition the bundles arrive at the new devices in any order. -/
inductive GroupRound (β : Type)
  | send (sender : E2eeAddress) (call : GroupSendCall β)
  | add (adder : E2eeAddress) (call : GroupAddCall β)
      (arrivals : E2eeAddress → List (GroupUpdateKeyBundle β))

/-- The device at the address sends with this session. -/
structure GroupSession.OutboundOf (address groupAddress : E2eeAddress)
    (session : GroupSession β) : Prop where
  sender : session.sender = address
  owner : session.sessionOwner = address
  group : session.groupInfo.groupAddress = groupAddress

section Machine

variable (getE2eesPack : Packs β) (groupAddress : E2eeAddress)

/-- These are the bundles for the new devices, first the one of the adder. -/
def GroupWorld.bundles (world : GroupWorld β) (adder : E2eeAddress) (call : GroupAddCall β) :
    List (GroupUpdateKeyBundle β) :=
  match call.request getE2eesPack (world.devices adder) adder groupAddress with
  | none => []
  | some (msg, _, bundle) =>
      bundle :: (world.members.filter (· ≠ adder)).filterMap fun address =>
        (msg.consume getE2eesPack (world.devices address) address).2

/-- A new device handles the bundles as they arrive. -/
def Device.join (device : Device β) (address : E2eeAddress)
    (bundles : List (GroupUpdateKeyBundle β)) : GroupStore β :=
  bundles.foldl (fun groups bundle => consumeGroupUpdateKeyBundle getE2eesPack
    ⟨device.store, groups⟩ address bundle) device.groups

def GroupWorld.step (world : GroupWorld β) : GroupRound β → GroupWorld β
  | .send sender call =>
      let outcome := call.outcome getE2eesPack (world.devices sender).store sender
        (world.devices sender).groups groupAddress
      { world with
        devices := fun address =>
          if address = sender then ⟨(world.devices sender).store, outcome.2⟩
          else match outcome.1 with
            | some request =>
                if address ∈ world.members then
                  ⟨(world.devices address).store, (consumeGroupMsg getE2eesPack
                    (world.devices address).groups address request.msg).1⟩
                else world.devices address
            | none => world.devices address
        sent := world.sent ++ (outcome.1.bind fun _ => loadOutboundGroupSession getE2eesPack
          (world.devices sender).groups sender groupAddress).toList }
  | .add adder call arrivals =>
      match call.request getE2eesPack (world.devices adder) adder groupAddress with
      | none => world
      | some (msg, groups, _) =>
          { world with
            devices := fun address =>
              if address = adder then ⟨(world.devices adder).store, groups⟩
              else if address ∈ world.members then
                ⟨(world.devices address).store,
                  (msg.consume getE2eesPack (world.devices address) address).1⟩
              else if address ∈ call.infos.map GroupMemberInfo.memberAddress then
                ⟨(world.devices address).store,
                  (world.devices address).join getE2eesPack address (arrivals address)⟩
              else world.devices address
            members := world.members ++ call.infos.map GroupMemberInfo.memberAddress }

/-- A member adds devices that are not yet in the group.
When a member sends, the outbound chain of no other member leads to its chain. -/
def GroupRound.Guarded (world : GroupWorld β) : GroupRound β → Prop
  | .send sender call => call.acknowledged = true ∧
      ((call.outcome getE2eesPack (world.devices sender).store sender
        (world.devices sender).groups groupAddress).1.isSome = true →
      ∀ session, loadOutboundGroupSession getE2eesPack (world.devices sender).groups sender
        groupAddress = some session →
      ∀ address, ∀ other ∈ (world.devices address).groups.entries,
        other.OutboundOf address groupAddress → other.key ≠ session.key → other.chainKey ≠ [] →
        ¬Relation.ReflTransGen (GroupSecret.Gives getE2eesPack) (.chain other.chainKey)
          (.chain session.chainKey))
  | .add adder call arrivals => adder ∈ world.members ∧
      (∀ info ∈ call.infos, info.memberAddress ∉ world.members) ∧
      ∀ address, ∀ bundle ∈ arrivals address,
        bundle ∈ world.bundles getE2eesPack groupAddress adder call

/-- These are the chain keys with which the devices send to the group. -/
def GroupWorld.chains (world : GroupWorld β) : Set (GroupSecret β) :=
  {secret | ∃ address, ∃ session ∈ (world.devices address).groups.entries,
    session.OutboundOf address groupAddress ∧ session.chainKey ≠ [] ∧
      secret = .chain session.chainKey}

/-- The outbound chain keys are whole, and none of them leads to a used one. -/
structure GroupWorld.Closed (world : GroupWorld β) : Prop where
  full : ∀ address, ∀ session ∈ (world.devices address).groups.entries,
    session.OutboundOf address groupAddress → session.chainKey ≠ [] →
    IsFullKey getE2eesPack session.chainKey
  shut : Lineage.Shut (GroupSecret.Gives getE2eesPack) (world.chains groupAddress)
    (usedKeys world.sent)

end Machine

section Rounds

variable {getE2eesPack : Packs β} {groupAddress : E2eeAddress}

namespace GroupWorld.Closed

variable {world : GroupWorld β} (closed : world.Closed getE2eesPack groupAddress)

include closed

theorem outbound_from {address : E2eeAddress} {session : GroupSession β}
    (present : session ∈ (world.devices address).groups.entries)
    (outbound : session.OutboundOf address groupAddress) (nonempty : session.chainKey ≠ []) :
    ChainKeyFrom getE2eesPack (world.chains groupAddress) session.chainKey :=
  ⟨closed.full address session present outbound nonempty,
    .of_mem ⟨address, session, present, outbound, nonempty, rfl⟩⟩

theorem loaded_from {address : E2eeAddress} {outbound : GroupSession β}
    (found : loadOutboundGroupSession getE2eesPack (world.devices address).groups address
      groupAddress = some outbound) :
    ChainKeyFrom getE2eesPack (world.chains groupAddress) outbound.chainKey := by
  obtain ⟨present, sender, owner, group, valid⟩ := loadOutboundGroupSession_some found
  exact closed.outbound_from present ⟨sender, owner, group⟩ (GroupSession.chainKey_ne valid)

/-- New outbound chains may follow from the old ones. -/
theorem follow (next : GroupWorld β) (sent : next.sent = world.sent)
    (origin : ∀ address, ∀ session ∈ (next.devices address).groups.entries,
      session.OutboundOf address groupAddress → session.chainKey ≠ [] →
      ChainKeyFrom getE2eesPack (world.chains groupAddress) session.chainKey) :
    next.Closed getE2eesPack groupAddress := by
  refine ⟨fun address session present outbound nonempty =>
    (origin address session present outbound nonempty).full, ?_⟩
  rw [sent]
  refine closed.shut.traced ?_
  rintro _ ⟨address, session, present, outbound, nonempty, rfl⟩
  exact (origin address session present outbound nonempty).traced

end GroupWorld.Closed

namespace GroupRenewal

variable {renewal : GroupRenewal getE2eesPack}

/-- The own chain only follows from itself. -/
theorem next_from (free : FreeGroupSchedule getE2eesPack) {known : Set (GroupSecret β)}
    (outbound : ChainKeyFrom getE2eesPack known renewal.outbound.chainKey) :
    ChainKeyFrom getE2eesPack known renewal.next.chainKey := by
  show ChainKeyFrom getE2eesPack known renewal.keys.2.1
  unfold keys
  cases renewal.senderChainKey with
  | none => exact (outbound.walk free renewal.pack renewal.infos).1
  | some chainKey => exact outbound.add free renewal.pack outbound.full

/-- A renewal for other devices leaves one new outbound session. -/
theorem finish_outbounds {address : E2eeAddress} (owner : renewal.outbound.sessionOwner = address)
    (apart : ∀ info ∈ renewal.infos, info.memberAddress ≠ address) {session : GroupSession β}
    (present : session ∈ renewal.finish.entries)
    (outbound : session.OutboundOf address groupAddress) :
    session ∈ renewal.device.groups.entries ∨ session = renewal.next := by
  obtain old | same | ⟨old, cipherSuite, -, -, -, inbound, -, -, rfl⟩ |
    ⟨info, theirs, assigned, rfl⟩ := renewal.mem_finish present
  · exact .inl old
  · exact .inr same
  · exact absurd (outbound.sender.trans (owner.symm.trans renewal.own.symm)) inbound
  · exact absurd outbound.sender (apart info (renewal.welcomed_info assigned))

end GroupRenewal

/-- The kept key of a bundle follows from its chain key. -/
theorem GroupUpdateKeyBundle.keptKey_traced {known : Set (GroupSecret β)} {device : Device β}
    {receiver : E2eeAddress} {bundle : GroupUpdateKeyBundle β}
    (traced : Lineage.Traced (GroupSecret.Gives getE2eesPack) known (.chain bundle.chainKey))
    {chainKey : Bytes β} (kept : bundle.keptKey getE2eesPack device receiver = some chainKey) :
    Lineage.Traced (GroupSecret.Gives getE2eesPack) known (.chain chainKey) := by
  obtain ⟨cipherSuite, pack, rfl⟩ := Option.map_eq_some_iff.mp kept
  split
  · exact traced.step (.add pack _)
  · split
    · exact traced.step (.welcome pack _)
    · exact traced

/-- A new device gets its sessions of the group from the bundles. -/
theorem Device.join_grows (free : FreeGroupSchedule getE2eesPack) {known : Set (GroupSecret β)}
    (store : Store β) (groups : GroupStore β) (address : E2eeAddress)
    {bundles : List (GroupUpdateKeyBundle β)}
    (origin : ∀ bundle ∈ bundles, ChainKeyFrom getE2eesPack known bundle.chainKey) :
    GroupStore.Grows getE2eesPack known groups
      ((Device.mk store groups).join getE2eesPack address bundles) := by
  unfold Device.join
  induction bundles generalizing groups with
  | nil => exact .refl groups
  | cons bundle rest ih =>
      have first := origin bundle List.mem_cons_self
      have here : GroupStore.Grows getE2eesPack known groups (consumeGroupUpdateKeyBundle
          getE2eesPack ⟨store, groups⟩ address bundle) :=
        consumeGroupUpdateKeyBundle_grows free first.full
          fun _ kept => GroupUpdateKeyBundle.keptKey_traced first.traced kept
      have later := ih (consumeGroupUpdateKeyBundle getE2eesPack ⟨store, groups⟩ address bundle)
        fun other member => origin other (List.mem_cons_of_mem _ member)
      intro session present
      obtain earlier | made := later session present
      · exact here session earlier
      · exact .inr made

/-- The bundles of an addition have the outbound chain keys of the members. -/
theorem GroupWorld.mem_bundles {world : GroupWorld β} {adder : E2eeAddress}
    {call : GroupAddCall β} {bundle : GroupUpdateKeyBundle β}
    (member : bundle ∈ world.bundles getE2eesPack groupAddress adder call) :
    ∃ address outbound, loadOutboundGroupSession getE2eesPack (world.devices address).groups
      address groupAddress = some outbound ∧ bundle.chainKey = outbound.chainKey := by
  unfold GroupWorld.bundles at member
  split at member
  · cases member
  next msg groups ownBundle requested =>
    obtain ⟨renewal, -, found, -, -, -, -, result, -, -, -, group⟩ :=
      GroupAddCall.request_some requested
    obtain rfl | theirs := List.mem_cons.mp member
    · obtain ⟨-, rfl⟩ := Prod.mk.inj result
      exact ⟨adder, renewal.outbound, found, rfl⟩
    · obtain ⟨address, -, made⟩ := List.mem_filterMap.mp theirs
      obtain unchanged | ⟨theirRenewal, renews, outcome⟩ :=
        msg.consume_cases getE2eesPack (world.devices address) address
      · rw [unchanged] at made
        cases made
      · rw [outcome, Option.some.injEq] at made
        rw [← made]
        have theirsFound := renews.outbound
        rw [group] at theirsFound
        exact ⟨address, theirRenewal.outbound, theirsFound, rfl⟩

namespace GroupWorld.Closed

variable {world : GroupWorld β} (closed : world.Closed getE2eesPack groupAddress)
  (free : FreeGroupSchedule getE2eesPack)

include closed free

/-- The outbound sessions of a member that has renewed its sessions follow from the old ones. -/
theorem renewed_from {address : E2eeAddress} {renewal : GroupRenewal getE2eesPack}
    (onDevice : renewal.device = world.devices address)
    (found : loadOutboundGroupSession getE2eesPack (world.devices address).groups address
      groupAddress = some renewal.outbound)
    (others : address ∉ renewal.infos.map GroupMemberInfo.memberAddress)
    {session : GroupSession β} (present : session ∈ renewal.finish.entries)
    (outbound : session.OutboundOf address groupAddress) (nonempty : session.chainKey ≠ []) :
    ChainKeyFrom getE2eesPack (world.chains groupAddress) session.chainKey := by
  have owner := (loadOutboundGroupSession_some found).2.2.1
  have apart : ∀ info ∈ renewal.infos, info.memberAddress ≠ address := by
    rintro info listed rfl
    exact others (List.mem_map_of_mem listed)
  obtain old | rfl := renewal.finish_outbounds owner apart present outbound
  · rw [onDevice] at old
    exact closed.outbound_from old outbound nonempty
  · exact renewal.next_from free (closed.loaded_from found)

/-- The same holds for a member that handles the addition. -/
theorem consumed_from {address : E2eeAddress} {msg : GroupAddMsg β}
    (group : msg.groupInfo.groupAddress = groupAddress)
    (others : address ∉ msg.infos.map GroupMemberInfo.memberAddress) {session : GroupSession β}
    (present : session ∈ (msg.consume getE2eesPack (world.devices address) address).1.entries)
    (outbound : session.OutboundOf address groupAddress) (nonempty : session.chainKey ≠ []) :
    ChainKeyFrom getE2eesPack (world.chains groupAddress) session.chainKey := by
  obtain unchanged | ⟨renewal, renews, consumed⟩ :=
    msg.consume_cases getE2eesPack (world.devices address) address
  · rw [unchanged] at present
    exact closed.outbound_from present outbound nonempty
  · rw [consumed] at present
    have found := renews.outbound
    rw [group] at found
    rw [← renews.infos] at others
    exact closed.renewed_from free renews.onDevice found others present outbound nonempty

/-- The outbound sessions of a device that joins follow from those of the members. -/
theorem joined_from {adder address : E2eeAddress} {call : GroupAddCall β}
    {arrivals : List (GroupUpdateKeyBundle β)}
    (arrived : ∀ bundle ∈ arrivals, bundle ∈ world.bundles getE2eesPack groupAddress adder call)
    {session : GroupSession β}
    (present : session ∈ ((world.devices address).join getE2eesPack address arrivals).entries)
    (outbound : session.OutboundOf address groupAddress) (nonempty : session.chainKey ≠ []) :
    ChainKeyFrom getE2eesPack (world.chains groupAddress) session.chainKey := by
  have origin : ∀ bundle ∈ arrivals,
      ChainKeyFrom getE2eesPack (world.chains groupAddress) bundle.chainKey := by
    intro bundle member
    obtain ⟨sender, theirs, theirsFound, chainKey⟩ :=
      GroupWorld.mem_bundles (arrived bundle member)
    rw [chainKey]
    exact closed.loaded_from theirsFound
  obtain old | made := Device.join_grows free (world.devices address).store
    (world.devices address).groups address origin session present
  · exact closed.outbound_from old outbound nonempty
  · exact made.chainKey nonempty

theorem add {adder : E2eeAddress} {call : GroupAddCall β}
    {arrivals : E2eeAddress → List (GroupUpdateKeyBundle β)}
    (guarded : (GroupRound.add adder call arrivals).Guarded getE2eesPack groupAddress world) :
    (world.step getE2eesPack groupAddress (.add adder call arrivals)).Closed getE2eesPack
      groupAddress := by
  obtain ⟨adderMember, new, arrived⟩ := guarded
  unfold GroupWorld.step
  dsimp only
  split
  · exact closed
  next msg groups ownBundle requested =>
    obtain ⟨renewal, onDevice, found, -, -, infos, -, result, -, -, msgInfos, group⟩ :=
      GroupAddCall.request_some requested
    obtain ⟨rfl, -⟩ := Prod.mk.inj result
    refine closed.follow _ rfl ?_
    intro address session present outbound nonempty
    have others {member : E2eeAddress} (isMember : member ∈ world.members) :
        member ∉ call.infos.map GroupMemberInfo.memberAddress := by
      intro listed
      obtain ⟨info, infoListed, rfl⟩ := List.mem_map.mp listed
      exact new info infoListed isMember
    dsimp only at present
    split at present
    next isAdder =>
      subst isAdder
      exact closed.renewed_from free onDevice found (infos ▸ others adderMember) present outbound
        nonempty
    next notAdder =>
      split at present
      next isMember =>
        exact closed.consumed_from free group (msgInfos ▸ others isMember) present outbound
          nonempty
      · split at present
        · exact closed.joined_from free (arrived address) present outbound nonempty
        · exact closed.outbound_from present outbound nonempty

omit free closed in
/-- A delivered message leaves the outbound sessions of the receiver alone. -/
theorem mem_received {groups : GroupStore β} {address : E2eeAddress} {msg : E2eeMsg β}
    (fromOther : address ≠ msg.fromAddress) {session : GroupSession β}
    (present : session ∈ (consumeGroupMsg getE2eesPack groups address msg).1.entries)
    (outbound : session.OutboundOf address groupAddress) : session ∈ groups.entries := by
  obtain unchanged | ⟨inbound, cipherSuite, plaintext, found, -, -, -, -, outcome⟩ :=
    consumeGroupMsg_cases getE2eesPack groups address msg
  · rw [unchanged] at present
    exact present
  · rw [outcome] at present
    obtain ⟨old, -⟩ | rfl := KeyedTable.mem_insert.mp present
    · exact old
    · have inboundSender := (groups.loadGroupSessionById_some found).2.1
      have sender := outbound.sender
      rw [GroupSession.catchUp, GroupSession.advance, GroupSession.advance_iterate_sender,
        inboundSender] at sender
      exact absurd sender.symm fromOther

/-- A chain that moves on after a message leaves the used key behind. -/
theorem use {next : GroupWorld β} {outbound : GroupSession β} {e2eesPackId : UInt32}
    {cipherSuite : CipherSuite β} (pack : getE2eesPack e2eesPackId = some cipherSuite)
    (origin : ChainKeyFrom getE2eesPack (world.chains groupAddress) outbound.chainKey)
    (sent : next.sent = world.sent ++ [outbound])
    (moved : ∀ address, ∀ session ∈ (next.devices address).groups.entries,
      session.OutboundOf address groupAddress →
      (session ∈ (world.devices address).groups.entries ∧ session.key ≠ outbound.key) ∨
        session.chainKey = advanceGroupChainKey cipherSuite outbound.chainKey)
    (unreached : ∀ address, ∀ other ∈ (world.devices address).groups.entries,
      other.OutboundOf address groupAddress → other.key ≠ outbound.key → other.chainKey ≠ [] →
      ¬Relation.ReflTransGen (GroupSecret.Gives getE2eesPack) (.chain other.chainKey)
        (.chain outbound.chainKey)) :
    next.Closed getE2eesPack groupAddress := by
  have advanced := origin.advance free pack
  have followed : ∀ address, ∀ session ∈ (next.devices address).groups.entries,
      session.OutboundOf address groupAddress → session.chainKey ≠ [] →
      ChainKeyFrom getE2eesPack (world.chains groupAddress) session.chainKey := by
    intro address session present own nonempty
    obtain ⟨old, -⟩ | chainKey := moved address session present own
    · exact closed.outbound_from old own nonempty
    · rw [chainKey]
      exact advanced
  have before := closed.follow { next with sent := world.sent } rfl followed
  refine ⟨before.full, ?_⟩
  rw [sent, usedKeys_append]
  refine before.shut.insert ?_
  rintro _ ⟨address, session, present, own, nonempty, rfl⟩
  obtain ⟨old, otherKey⟩ | chainKey := moved address session present own
  · exact unreached address session old own otherKey nonempty
  · rw [chainKey, advanceGroupChainKey_full (origin.full _ _ pack)]
    exact free.forward (.single (.advance pack _))

theorem send {sender : E2eeAddress} {call : GroupSendCall β}
    (guarded : (GroupRound.send sender call).Guarded getE2eesPack groupAddress world) :
    (world.step getE2eesPack groupAddress (.send sender call)).Closed getE2eesPack
      groupAddress := by
  obtain ⟨acknowledged, apart⟩ := guarded
  unfold GroupWorld.step
  dsimp only
  unfold GroupSendCall.outcome at apart ⊢
  obtain unchanged | ⟨-, outbound, cipherSuite, payload, -, -, found, valid, pack, -, outcome⟩ :=
    sendGroupMsgWithFilter_cases getE2eesPack
      ⟨(world.devices sender).store, (world.devices sender).groups⟩
      ⟨sender, groupAddress, call.allowList, call.denyList⟩ call.plaintext call.draw call.response
  · refine closed.follow _ (by simp [unchanged]) ?_
    intro address session present own nonempty
    simp only [unchanged] at present
    have old : session ∈ (world.devices address).groups.entries := by
      split at present
      next isSender =>
        rw [isSender]
        exact present
      · exact present
    exact closed.outbound_from old own nonempty
  · have loaded : loadOutboundGroupSession getE2eesPack (world.devices sender).groups sender
        groupAddress = some outbound := Option.filter_eq_some_iff.mpr ⟨found, valid⟩
    obtain ⟨present, outboundSender, outboundOwner, -, -⟩ := loadOutboundGroupSession_some loaded
    have origin := closed.loaded_from loaded
    have answered : isValidSendGroupMsgResponse call.response = true := acknowledged
    rw [outcome] at apart
    refine closed.use free pack origin ?_ ?_ (apart rfl outbound loaded)
    · simp only [outcome, Option.bind_some, loaded, Option.toList_some]
    · intro address session stored own
      simp only [outcome, if_pos answered] at stored
      split at stored
      next isSender =>
        subst isSender
        obtain ⟨old, uncovered⟩ | rfl := KeyedTable.mem_insert.mp stored
        · refine .inl ⟨old, fun sameKey => ?_⟩
          rw [sameKey] at uncovered
          exact absurd (groupSupersession.refl outbound.key) (Bool.eq_false_iff.mp uncovered)
        · exact .inr rfl
      next isOther =>
        have old : session ∈ (world.devices address).groups.entries := by
          split at stored
          · exact mem_received isOther stored own
          · exact stored
        refine .inl ⟨old, fun sameKey => isOther ?_⟩
        rw [← own.owner, ← outboundOwner]
        exact congrArg GroupKey.sessionOwner sameKey

theorem step {round : GroupRound β}
    (guarded : round.Guarded getE2eesPack groupAddress world) :
    (world.step getE2eesPack groupAddress round).Closed getE2eesPack groupAddress := by
  cases round with
  | send sender call => exact closed.send free guarded
  | add adder call arrivals => exact closed.add free guarded

end GroupWorld.Closed

variable (getE2eesPack groupAddress) in
/-- What the new devices of the round receive leads to no message key of the past. -/
def GroupRound.HidesPast (world : GroupWorld β) : GroupRound β → Prop
  | .send _ _ => True
  | .add adder call _ => ∀ session ∈ world.sent, ∀ cipherSuite,
      getE2eesPack session.e2eesPackId = some cipherSuite →
      ¬Lineage.Traced (GroupSecret.Gives getE2eesPack)
        {secret | ∃ bundle ∈ world.bundles getE2eesPack groupAddress adder call,
          secret = .chain bundle.chainKey}
        (.message (createGroupMessageKey cipherSuite session.chainKey))

theorem GroupWorld.Closed.hidesPast {world : GroupWorld β}
    (closed : world.Closed getE2eesPack groupAddress) (free : FreeGroupSchedule getE2eesPack)
    (round : GroupRound β) : round.HidesPast getE2eesPack groupAddress world := by
  cases round with
  | send sender call => trivial
  | add adder call arrivals =>
      rintro session sent cipherSuite pack ⟨_, ⟨bundle, member, rfl⟩, leads⟩
      obtain ⟨address, outbound, found, chainKey⟩ := GroupWorld.mem_bundles member
      rw [chainKey] at leads
      obtain ⟨present, sender, owner, group, valid⟩ := loadOutboundGroupSession_some found
      refine closed.shut (.chain outbound.chainKey) ⟨address, outbound, present,
        ⟨sender, owner, group⟩, GroupSession.chainKey_ne valid, rfl⟩ _ ⟨session, sent, rfl⟩ ?_
      exact free.chain_of_message pack (fun _ => by simp) leads

/-- In a run in which the chain of a sender is led to by no other outbound chain, no new device gets
a key that leads to a message key of the past. -/
theorem newMember_hidesPast {devices : E2eeAddress → Device β} {members : List E2eeAddress}
    {rounds : List (GroupRound β)} (free : FreeGroupSchedule getE2eesPack)
    (full : ∀ address, ∀ session ∈ (devices address).groups.entries,
      session.OutboundOf address groupAddress → session.chainKey ≠ [] →
      IsFullKey getE2eesPack session.chainKey)
    (guarded : Machine.Along (GroupWorld.step getE2eesPack groupAddress)
      (fun world round => round.Guarded getE2eesPack groupAddress world) ⟨devices, members, []⟩
      rounds) :
    Machine.Along (GroupWorld.step getE2eesPack groupAddress)
      (fun world round => round.HidesPast getE2eesPack groupAddress world) ⟨devices, members, []⟩
      rounds := by
  have start : (GroupWorld.mk devices members []).Closed getE2eesPack groupAddress := by
    refine ⟨full, ?_⟩
    rintro secret - old ⟨session, absent, -⟩
    cases absent
  have closed := Machine.along_invariant (fun _ _ closed now => closed.step free now) rounds start
    guarded
  exact Machine.along_mono (fun _ round now => GroupWorld.Closed.hidesPast now free round) closed

/-- This is the world after a creation that all members have handled. -/
def GroupCreation.world (creation : GroupCreation getE2eesPack) (creatorGroups : GroupStore β)
    (bundle : GroupPreKeyBundle β) : GroupWorld β where
  devices address :=
    if address ∈ creation.memberInfoList.map GroupMemberInfo.memberAddress then
      ⟨(creation.devices address).store, creation.finish creatorGroups bundle address⟩
    else creation.devices address
  members := creation.memberInfoList.map GroupMemberInfo.memberAddress
  sent := []

/-- A creation only makes whole chain keys. -/
theorem GroupCreation.world_full {creation : GroupCreation getE2eesPack}
    {creatorGroups : GroupStore β} {bundle : GroupPreKeyBundle β}
    (free : FreeGroupSchedule getE2eesPack)
    (started : creation.start = some (creatorGroups, bundle))
    (full : ∀ address, ∀ session ∈ (creation.devices address).groups.entries,
      session.chainKey ≠ [] → IsFullKey getE2eesPack session.chainKey) (address : E2eeAddress)
    {session : GroupSession β}
    (present : session ∈ ((creation.world creatorGroups bundle).devices address).groups.entries)
    (nonempty : session.chainKey ≠ []) : IsFullKey getE2eesPack session.chainKey := by
  have before : ∀ other, (creation.devices other).groups.Comes getE2eesPack Set.univ :=
    fun other => GroupStore.comes_self (full other) (Set.subset_univ _)
  have everything : ∀ secret, Lineage.Traced (GroupSecret.Gives getE2eesPack) Set.univ secret :=
    fun secret => .of_mem (Set.mem_univ secret)
  unfold GroupCreation.world at present
  dsimp only at present
  split at present
  · unfold GroupCreation.finish at present
    split at present
    · have comes := newOutboundBySender_comes free (before creation.creator) (everything _) started
      exact ((comes session present).chainKey nonempty).full
    · have listed := consumeCreateGroupMsg_comes free address creation.msg (before address)
      have comes := consumeGroupPreKeyBundle_comes free
        (⟨(creation.devices address).store, creation.listed address⟩ : Device β) address listed
        (everything (.seed bundle.groupSeed))
      exact ((comes session present).chainKey nonempty).full
  · exact full address session present nonempty

end Rounds

namespace Symbolic

def created : GroupWorld FreeTerm :=
  creation.world ((creation.start.map Prod.fst).getD KeyedTable.empty) creationBundle

theorem creation_started : creation.start =
    some ((creation.start.map Prod.fst).getD KeyedTable.empty, creationBundle) := by
  have sameBundle : creation.start.map Prod.snd = some creationBundle := by decide
  obtain ⟨⟨groups, bundle⟩, started, same⟩ := Option.map_eq_some_iff.mp sameBundle
  rw [started, ← same]
  rfl

def erinAddress : E2eeAddress := ⟨"domain", .user "erin" "device"⟩

def erinMember : GroupMember := ⟨"erin", "domain", .member⟩

/-- Bob adds Erin after Dave. -/
def addErin : GroupAddCall FreeTerm :=
  .members [erinMember] ⟨.ok, [erinMember], creation.groupInfo.groupMemberList ++
    [daveMember, erinMember], [memberInfo erinAddress]⟩

def aliceCall : GroupSendCall FreeTerm :=
  ⟨[], [], [.byte 1], ⟨[], []⟩, some ⟨.ok⟩⟩

/-- Alice adds Dave and then sends a message. -/
def daveRounds : List (GroupRound FreeTerm) :=
  [.add aliceAddress addDave fun _ => created.bundles (fun _ => some symbolicSuite) groupAddress
    aliceAddress addDave, .send aliceAddress aliceCall]

def daveWorld : GroupWorld FreeTerm :=
  Machine.run (GroupWorld.step (fun _ => some symbolicSuite) groupAddress) created daveRounds

end Symbolic

/-- When Bob adds Erin, she gets the idle chain of Dave, which leads to the message of Alice. -/
theorem idleBundle_leads :
    ¬Machine.Along (GroupWorld.step (fun _ => some symbolicSuite) Symbolic.groupAddress)
      (fun world round => round.HidesPast (fun _ => some symbolicSuite) Symbolic.groupAddress world)
      Symbolic.created (Symbolic.daveRounds ++ [.add Symbolic.bobAddress Symbolic.addErin fun _ =>
        Symbolic.daveWorld.bundles (fun _ => some symbolicSuite) Symbolic.groupAddress
          Symbolic.bobAddress Symbolic.addErin]) := by
  intro hidden
  obtain ⟨-, hides, -⟩ := (Machine.along_append _ _ _ _ _).mp hidden
  have sent : Symbolic.daveWorld.sent.map GroupSession.chainKey =
      [symbolicSuite.added Symbolic.daveKey] := by
    decide
  have received : Symbolic.daveKey ∈ (Symbolic.daveWorld.bundles (fun _ => some symbolicSuite)
      Symbolic.groupAddress Symbolic.bobAddress Symbolic.addErin).map
        GroupUpdateKeyBundle.chainKey := by
    decide
  obtain ⟨session, present, sessionKey⟩ := List.mem_map.mp (sent ▸ List.mem_singleton_self _)
  obtain ⟨bundle, member, bundleKey⟩ := List.mem_map.mp received
  refine hides session present symbolicSuite rfl ⟨_, ⟨bundle, member, rfl⟩, ?_⟩
  rw [bundleKey, sessionKey]
  exact (Relation.ReflTransGen.single (@GroupSecret.Gives.add _ _ 0 _ rfl _)).tail
    (@GroupSecret.Gives.messageKey _ _ 0 _ rfl _)

namespace Symbolic

/-- Alice sends a message before she adds Dave. -/
def earlyRounds : List (GroupRound FreeTerm) :=
  [.send aliceAddress aliceCall, .add aliceAddress addDave fun _ =>
    (created.step (fun _ => some symbolicSuite) groupAddress (.send aliceAddress aliceCall)).bundles
      (fun _ => some symbolicSuite) groupAddress aliceAddress addDave]

/-- The other members of the created group have their own first chain keys. -/
theorem created_apart {address : E2eeAddress} {other : GroupSession FreeTerm}
    (present : other ∈ (created.devices address).groups.entries) (sender : other.sender = address)
    (otherKey : other.key ≠ (memberSession aliceAddress aliceAddress).key) :
    other.chainKey ≠ (memberSession aliceAddress aliceAddress).chainKey := by
  by_cases member : address ∈ creation.memberInfoList.map GroupMemberInfo.memberAddress
  · have listed : address ∈ [aliceAddress, bobAddress, carolAddress] := member
    simp only [List.mem_cons, List.not_mem_nil, or_false] at listed
    revert otherKey sender other
    obtain rfl | rfl | rfl := listed
    · decide
    · decide
    · decide
  · unfold created GroupCreation.world at present
    dsimp only at present
    rw [if_neg member] at present
    cases present

end Symbolic

/-- The bundles for Dave lead to no message key when Alice has sent before. -/
theorem earlyRounds_hidesPast :
    Machine.Along (GroupWorld.step (fun _ => some symbolicSuite) Symbolic.groupAddress)
      (fun world round => round.HidesPast (fun _ => some symbolicSuite) Symbolic.groupAddress world)
      Symbolic.created Symbolic.earlyRounds := by
  refine newMember_hidesPast symbolicSuite_freeGroupKeys.schedule ?_ ?_
  · intro address session present _
    refine GroupCreation.world_full symbolicSuite_freeGroupKeys.schedule
      Symbolic.creation_started ?_ address present
    intro other absent stored
    cases stored
  · refine ⟨⟨rfl, ?_⟩, ⟨by decide, by decide, fun _ _ member => member⟩, trivial⟩
    · rintro - session loaded address other present own otherKey - leads
      have expected : loadOutboundGroupSession (fun _ => some symbolicSuite)
          (Symbolic.created.devices Symbolic.aliceAddress).groups Symbolic.aliceAddress
          Symbolic.groupAddress =
            some (Symbolic.memberSession Symbolic.aliceAddress Symbolic.aliceAddress) := by
        decide
      obtain rfl := Option.some.inj (expected.symm.trans loaded)
      exact Symbolic.created_apart present own.sender otherKey (Symbolic.chain_root leads)

end E2eeSecurity
