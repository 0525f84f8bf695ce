/-
This file shows that what a removed member holds leads to none of the message keys that the others
use after the removal.
-/
import E2eeSecurity.Group.Expulsion

namespace E2eeSecurity

variable {β : Type}

/-- Moreover the first chain keys of distinct whole seeds differ, and no derived key is a first
one. -/
structure FreeGroupSeeds (getE2eesPack : Packs β) : Prop extends FreeGroupSchedule getE2eesPack where
  seeds : ∀ {firstId secondId : UInt32} {firstSuite secondSuite : CipherSuite β}
    {firstSeed secondSeed firstKey secondKey : Bytes β}, getE2eesPack firstId = some firstSuite →
    getE2eesPack secondId = some secondSuite → firstSeed.length = seedSecretLen →
    secondSeed.length = seedSecretLen →
    firstSuite.groupChainKey firstSeed firstKey = secondSuite.groupChainKey secondSeed secondKey →
    firstSeed = secondSeed
  apart : ∀ {firstId secondId : UInt32} {firstSuite secondSuite : CipherSuite β}
    (derivation : GroupDerivation β) (groupSeed signPublicKey : Bytes β),
    getE2eesPack firstId = some firstSuite → getE2eesPack secondId = some secondSuite →
    firstSuite.deriveGroup derivation ≠ secondSuite.groupChainKey groupSeed signPublicKey

section Meeting

variable {getE2eesPack : Packs β} (free : FreeGroupSeeds getE2eesPack)

/-- These are seeds, and whole seeds are the same. -/
def GroupSecret.SameSeed : GroupSecret β → GroupSecret β → Prop
  | .seed first, .seed second =>
      first.length = seedSecretLen → second.length = seedSecretLen → first = second
  | _, _ => False

/-- A derived key tells what it was derived from. -/
theorem GroupSecret.Gives.source {secret next : GroupSecret β}
    (gives : GroupSecret.Gives getE2eesPack secret next) :
    (∃ e2eesPackId cipherSuite groupSeed signPublicKey,
      getE2eesPack e2eesPackId = some cipherSuite ∧ secret = .seed groupSeed ∧
      next = .chain (cipherSuite.groupChainKey groupSeed signPublicKey)) ∨
    ∃ e2eesPackId cipherSuite derivation, getE2eesPack e2eesPackId = some cipherSuite ∧
      secret = .chain derivation.source ∧
      (next = .chain (cipherSuite.deriveGroup derivation) ∨
        next = .message (cipherSuite.deriveGroup derivation)) := by
  cases gives with
  | first pack groupSeed signPublicKey => exact .inl ⟨_, _, _, _, pack, rfl, rfl⟩
  | advance pack chainKey => exact .inr ⟨_, _, .advance chainKey, pack, rfl, .inl rfl⟩
  | welcome pack chainKey => exact .inr ⟨_, _, .welcome chainKey, pack, rfl, .inl rfl⟩
  | add pack chainKey => exact .inr ⟨_, _, .add chainKey, pack, rfl, .inl rfl⟩
  | messageKey pack chainKey => exact .inr ⟨_, _, .messageKey chainKey, pack, rfl, .inr rfl⟩

include free

theorem GroupSecret.merges (first second next : GroupSecret β)
    (firstGives : GroupSecret.Gives getE2eesPack first next)
    (secondGives : GroupSecret.Gives getE2eesPack second next) :
    first = second ∨ first.SameSeed second := by
  obtain ⟨_, _, firstSeed, firstKey, firstPack, rfl, rfl⟩ |
    ⟨_, _, firstDerivation, firstPack, rfl, firstNext⟩ := firstGives.source
  · obtain ⟨_, _, secondSeed, secondKey, secondPack, rfl, same⟩ |
      ⟨_, _, secondDerivation, secondPack, rfl, same | same⟩ := secondGives.source
    · exact .inr fun first second =>
        free.seeds firstPack secondPack first second (GroupSecret.chain.inj same)
    · exact absurd (GroupSecret.chain.inj same).symm (free.apart _ _ _ secondPack firstPack)
    · cases same
  · obtain ⟨_, _, secondSeed, secondKey, secondPack, rfl, rfl⟩ |
      ⟨_, _, secondDerivation, secondPack, rfl, secondNext⟩ := secondGives.source
    · obtain same | same := firstNext
      · exact absurd (GroupSecret.chain.inj same).symm (free.apart _ _ _ firstPack secondPack)
      · cases same
    · refine .inl (congrArg (fun derivation => GroupSecret.chain derivation.source)
        (free.injective firstPack secondPack ?_))
      obtain rfl | rfl := firstNext
      · obtain same | same := secondNext
        · exact GroupSecret.chain.inj same
        · cases same
      · obtain same | same := secondNext
        · cases same
        · exact GroupSecret.message.inj same

omit free in
theorem GroupSecret.seed_origin (groupSeed : Bytes β) (before : GroupSecret β) :
    ¬GroupSecret.Gives getE2eesPack before (.seed groupSeed) := by
  intro gives
  cases gives

/-- Two secrets that lead to the same key are on one line, or they are the same seed. -/
theorem GroupSecret.meet {first second last : GroupSecret β}
    (firstLeads : Relation.ReflTransGen (GroupSecret.Gives getE2eesPack) first last)
    (secondLeads : Relation.ReflTransGen (GroupSecret.Gives getE2eesPack) second last) :
    Relation.ReflTransGen (GroupSecret.Gives getE2eesPack) first second ∨
      Relation.ReflTransGen (GroupSecret.Gives getE2eesPack) second first ∨
      first.SameSeed second := by
  refine Lineage.leads_of_common (GroupSecret.merges free) ?_ firstLeads secondLeads
  intro first second before same
  cases first with
  | seed firstSeed =>
      cases second with
      | seed secondSeed => exact ⟨GroupSecret.seed_origin _ _, GroupSecret.seed_origin _ _⟩
      | _ => cases same
  | _ => cases same

/-- Secrets that do not follow from a whole seed never lead to what follows from it. -/
theorem GroupSecret.foreign_leads {groupSeed : Bytes β} {held : Set (GroupSecret β)}
    (length : groupSeed.length = seedSecretLen)
    (seeds : ∀ other, .seed other ∈ held → other.length = seedSecretLen)
    (foreign : ∀ secret ∈ held,
      ¬Lineage.Traced (GroupSecret.Gives getE2eesPack) {.seed groupSeed} secret)
    {secret : GroupSecret β}
    (traced : Lineage.Traced (GroupSecret.Gives getE2eesPack) {.seed groupSeed} secret) :
    ¬Lineage.Traced (GroupSecret.Gives getE2eesPack) held secret := by
  rintro ⟨origin, inside, leads⟩
  obtain ⟨_, rfl, path⟩ := traced
  obtain back | here | same := GroupSecret.meet free leads path
  · obtain rfl | ⟨before, -, last⟩ := Relation.ReflTransGen.cases_tail back
    · exact foreign _ inside (.of_mem rfl)
    · exact GroupSecret.seed_origin _ _ last
  · exact foreign origin inside ⟨_, rfl, here⟩
  · cases origin with
    | seed other =>
        obtain rfl := same (seeds other inside) length
        exact foreign _ inside (.of_mem rfl)
    | _ => cases same

/-- Distinct whole seeds lead to nothing in common. -/
theorem GroupSecret.seeds_apart {first second : Bytes β} (different : first ≠ second)
    (firstLength : first.length = seedSecretLen) (secondLength : second.length = seedSecretLen)
    {secret : GroupSecret β}
    (traced : Lineage.Traced (GroupSecret.Gives getE2eesPack) {.seed first} secret) :
    ¬Lineage.Traced (GroupSecret.Gives getE2eesPack) {.seed second} secret := by
  refine GroupSecret.foreign_leads free firstLength ?_ ?_ traced
  · rintro other same
    obtain rfl := GroupSecret.seed.inj same
    exact secondLength
  · rintro _ rfl ⟨_, rfl, leads⟩
    obtain same | ⟨before, -, last⟩ := Relation.ReflTransGen.cases_tail leads
    · exact different (GroupSecret.seed.inj same).symm
    · exact GroupSecret.seed_origin _ _ last

end Meeting

theorem symbolicSuite_freeGroupSeeds : FreeGroupSeeds fun _ => some symbolicSuite where
  toFreeGroupSchedule := symbolicSuite_freeGroupKeys.schedule
  seeds := by
    rintro _ _ _ _ firstSeed secondSeed firstKey secondKey ⟨⟩ ⟨⟩ firstLength secondLength same
    have inputs : firstSeed.take seedSecretLen ++ firstKey.take symbolicSuite.ds.signPubKeyLen =
        secondSeed.take seedSecretLen ++ secondKey.take symbolicSuite.ds.signPubKeyLen := by
      simpa [CipherSuite.groupChainKey, symbolicSuite, Symbolic.hfSuite, List.range_succ] using same
    obtain ⟨seeds, -⟩ := List.append_inj inputs (by simp [firstLength, secondLength])
    rwa [List.take_of_length_le firstLength.le, List.take_of_length_le secondLength.le] at seeds
  apart := by
    rintro _ _ _ _ derivation groupSeed signPublicKey ⟨⟩ ⟨⟩
    cases derivation <;>
      simp [CipherSuite.deriveGroup, CipherSuite.advance, CipherSuite.added,
        advanceGroupChainKeyByWelcome, createGroupMessageKey, CipherSuite.groupChainKey,
        symbolicSuite, Symbolic.hfSuite, Symbolic.seSuite, List.range_succ, CipherSuite.text]

section Machine

variable (getE2eesPack : Packs β) (groupAddress : E2eeAddress)

/-- Only members send and add.
A device that is added is not in the group, and it has no session to send with. -/
def GroupRound.ByMembers (world : GroupWorld β) : GroupRound β → Prop
  | .send sender _ => sender ∈ world.members
  | .add adder call arrivals => adder ∈ world.members ∧
      (∀ info ∈ call.infos, info.memberAddress ∉ world.members ∧
        ∀ session ∈ (world.devices info.memberAddress).groups.entries,
          ¬session.OutboundOf info.memberAddress groupAddress) ∧
      ∀ address, ∀ bundle ∈ arrivals address,
        bundle ∈ world.bundles getE2eesPack groupAddress adder call

/-- The keys of the members and of the sent messages go back to known secrets. -/
structure GroupWorld.Rooted (known : Set (GroupSecret β)) (world : GroupWorld β) : Prop where
  outbound : ∀ address ∈ world.members, ∀ session ∈ (world.devices address).groups.entries,
    session.OutboundOf address groupAddress → session.chainKey ≠ [] →
    ChainKeyFrom getE2eesPack known session.chainKey
  sent : ∀ session ∈ world.sent,
    Lineage.Traced (GroupSecret.Gives getE2eesPack) known (.chain session.chainKey)

end Machine

section Rounds

variable {getE2eesPack : Packs β} {groupAddress : E2eeAddress} {known : Set (GroupSecret β)}

/-- The other devices are left out of the world. -/
def GroupWorld.among (world : GroupWorld β) : GroupWorld β where
  devices address :=
    if address ∈ world.members then world.devices address
    else ⟨(world.devices address).store, KeyedTable.empty⟩
  members := world.members
  sent := []

theorem GroupWorld.among_device {world : GroupWorld β} {address : E2eeAddress}
    (member : address ∈ world.members) : world.among.devices address = world.devices address :=
  if_pos member

/-- The other devices have no part in the bundles. -/
theorem GroupWorld.among_bundles {world : GroupWorld β} {adder : E2eeAddress}
    (member : adder ∈ world.members) (call : GroupAddCall β) :
    world.among.bundles getE2eesPack groupAddress adder call =
      world.bundles getE2eesPack groupAddress adder call := by
  unfold GroupWorld.bundles
  rw [GroupWorld.among_device member]
  split
  · rfl
  next msg groups bundle _ =>
    refine congrArg (bundle :: ·) (List.filterMap_congr fun address listed => ?_)
    have isMember : address ∈ world.members := List.mem_of_mem_filter listed
    rw [GroupWorld.among_device isMember]

theorem ChainKeyFrom.trans {origins : Set (GroupSecret β)} {chainKey : Bytes β}
    (origin : ChainKeyFrom getE2eesPack origins chainKey)
    (rooted : ∀ secret ∈ origins, Lineage.Traced (GroupSecret.Gives getE2eesPack) known secret) :
    ChainKeyFrom getE2eesPack known chainKey := by
  obtain ⟨full, start, inside, leads⟩ := origin
  obtain ⟨first, firstKnown, path⟩ := rooted start inside
  exact ⟨full, first, firstKnown, path.trans leads⟩

namespace GroupWorld.Rooted

variable {world : GroupWorld β} (rooted : world.Rooted getE2eesPack groupAddress known)

include rooted

theorem among_outbound {address : E2eeAddress} {session : GroupSession β}
    (present : session ∈ (world.among.devices address).groups.entries)
    (outbound : session.OutboundOf address groupAddress) (nonempty : session.chainKey ≠ []) :
    ChainKeyFrom getE2eesPack known session.chainKey := by
  by_cases member : address ∈ world.members
  · rw [GroupWorld.among_device member] at present
    exact rooted.outbound address member session present outbound nonempty
  · have absent : world.among.devices address =
        ⟨(world.devices address).store, KeyedTable.empty⟩ := if_neg member
    rw [absent] at present
    cases present

theorem among_closed : world.among.Closed getE2eesPack groupAddress where
  full _ _ present outbound nonempty := (rooted.among_outbound present outbound nonempty).full
  shut := by
    rintro secret - old ⟨session, absent, -⟩
    cases absent

/-- What follows from the keys of the members goes back to the known secrets. -/
theorem follows {chainKey : Bytes β}
    (origin : ChainKeyFrom getE2eesPack (world.among.chains groupAddress) chainKey) :
    ChainKeyFrom getE2eesPack known chainKey := by
  refine origin.trans ?_
  rintro _ ⟨address, session, present, outbound, nonempty, rfl⟩
  exact (rooted.among_outbound present outbound nonempty).traced

variable (free : FreeGroupSchedule getE2eesPack)

include free

theorem send {sender : E2eeAddress} (member : sender ∈ world.members) (call : GroupSendCall β) :
    (world.step getE2eesPack groupAddress (.send sender call)).Rooted getE2eesPack groupAddress
      known := by
  unfold GroupWorld.step GroupSendCall.outcome
  dsimp only
  obtain unchanged | ⟨-, outbound, cipherSuite, payload, -, -, found, valid, pack, -, outcome⟩ :=
    sendGroupMsgWithFilter_cases getE2eesPack
      ⟨(world.devices sender).store, (world.devices sender).groups⟩
      ⟨sender, groupAddress, call.allowList, call.denyList⟩ call.plaintext call.draw call.response
  · refine ⟨fun address isMember session present own nonempty => ?_, ?_⟩
    · simp only [unchanged] at present
      refine rooted.outbound address isMember session ?_ own nonempty
      split at present
      next isSender =>
        rw [isSender]
        exact present
      · exact present
    · simpa [unchanged] using rooted.sent
  · have loaded : loadOutboundGroupSession getE2eesPack (world.devices sender).groups sender
        groupAddress = some outbound := Option.filter_eq_some_iff.mpr ⟨found, valid⟩
    obtain ⟨stored, outboundSender, outboundOwner, group, -⟩ := loadOutboundGroupSession_some loaded
    have origin := rooted.outbound sender member outbound stored
      ⟨outboundSender, outboundOwner, group⟩ (GroupSession.chainKey_ne valid)
    refine ⟨fun address isMember session present own nonempty => ?_, ?_⟩
    · simp only [outcome] at present
      split at present
      next isSender =>
        subst isSender
        dsimp only at present
        split at present
        · obtain ⟨old, -⟩ | rfl := KeyedTable.mem_insert.mp present
          · exact rooted.outbound address isMember session old own nonempty
          · exact origin.advance free pack
        · exact rooted.outbound address isMember session present own nonempty
      next isOther =>
        dsimp only at present
        exact rooted.outbound address isMember session
          (GroupWorld.Closed.mem_received isOther present own) own nonempty
    · simp only [outcome, Option.bind_some, loaded, Option.toList_some]
      intro session listed
      obtain before | last := List.mem_append.mp listed
      · exact rooted.sent session before
      · obtain rfl := List.mem_singleton.mp last
        exact origin.traced

theorem add {adder : E2eeAddress} {call : GroupAddCall β}
    {arrivals : E2eeAddress → List (GroupUpdateKeyBundle β)}
    (allowed : (GroupRound.add adder call arrivals).ByMembers getE2eesPack groupAddress world) :
    (world.step getE2eesPack groupAddress (.add adder call arrivals)).Rooted getE2eesPack
      groupAddress known := by
  obtain ⟨adderMember, new, arrived⟩ := allowed
  have closed := rooted.among_closed
  unfold GroupWorld.step
  dsimp only
  split
  · exact rooted
  next msg groups ownBundle requested =>
    obtain ⟨renewal, onDevice, found, -, -, infos, -, result, -, -, msgInfos, group⟩ :=
      GroupAddCall.request_some requested
    obtain ⟨rfl, -⟩ := Prod.mk.inj result
    refine ⟨?_, rooted.sent⟩
    intro address listed session present outbound nonempty
    have others {member : E2eeAddress} (isMember : member ∈ world.members) :
        member ∉ call.infos.map GroupMemberInfo.memberAddress := by
      intro named
      obtain ⟨info, infoListed, rfl⟩ := List.mem_map.mp named
      exact (new info infoListed).1 isMember
    dsimp only at present
    split at present
    next isAdder =>
      subst isAdder
      rw [← GroupWorld.among_device adderMember] at onDevice found
      exact rooted.follows (closed.renewed_from free onDevice found (infos ▸ others adderMember)
        present outbound nonempty)
    next notAdder =>
      split at present
      next isMember =>
        rw [← GroupWorld.among_device isMember] at present
        exact rooted.follows (closed.consumed_from free group (msgInfos ▸ others isMember) present
          outbound nonempty)
      next notMember =>
        obtain old | isNew := List.mem_append.mp listed
        · exact absurd old notMember
        · rw [if_pos isNew] at present
          have origin : ∀ bundle ∈ arrivals address, ChainKeyFrom getE2eesPack
              (world.among.chains groupAddress) bundle.chainKey := by
            intro bundle member
            obtain ⟨sender, theirs, theirsFound, chainKey⟩ := GroupWorld.mem_bundles
              ((GroupWorld.among_bundles adderMember call).symm ▸ arrived address bundle member)
            rw [chainKey]
            exact closed.loaded_from theirsFound
          obtain ⟨info, infoListed, rfl⟩ := List.mem_map.mp isNew
          obtain old | made := Device.join_grows free _ _ _ origin session present
          · exact absurd outbound ((new info infoListed).2 session old)
          · exact rooted.follows (made.chainKey nonempty)

theorem step {round : GroupRound β}
    (allowed : round.ByMembers getE2eesPack groupAddress world) :
    (world.step getE2eesPack groupAddress round).Rooted getE2eesPack groupAddress known := by
  cases round with
  | send sender call => exact rooted.send free allowed call
  | add adder call arrivals => exact rooted.add free allowed

end GroupWorld.Rooted

/-- This is the world after a removal that all members that stay have handled.
The removed members keep what they have. -/
def GroupExpulsion.world (expulsion : GroupExpulsion getE2eesPack) (removerGroups : GroupStore β)
    (bundle : GroupPreKeyBundle β) : GroupWorld β where
  devices address :=
    if address ∈ expulsion.response.memberInfoList.map GroupMemberInfo.memberAddress then
      ⟨(expulsion.devices address).store, expulsion.finish removerGroups bundle address⟩
    else expulsion.devices address
  members := expulsion.response.memberInfoList.map GroupMemberInfo.memberAddress
  sent := []

/-- This is the world after what the members do next. -/
def GroupExpulsion.later (expulsion : GroupExpulsion getE2eesPack) (removerGroups : GroupStore β)
    (bundle : GroupPreKeyBundle β) (rounds : List (GroupRound β)) : GroupWorld β :=
  Machine.run (GroupWorld.step getE2eesPack expulsion.outbound.groupInfo.groupAddress)
    (expulsion.world removerGroups bundle) rounds

section Expulsion

variable {expulsion : GroupExpulsion getE2eesPack} {removerGroups : GroupStore β}
  {bundle : GroupPreKeyBundle β} (free : FreeGroupSchedule getE2eesPack)
  (started : expulsion.start = (true, removerGroups, some bundle))

include free

theorem GroupExpulsion.first_from (signPublicKey : Bytes β) :
    ChainKeyFrom getE2eesPack {.seed expulsion.groupSeed}
      (expulsion.cipherSuite.groupChainKey expulsion.groupSeed signPublicKey) :=
  .first free expulsion.pack (.of_mem (Set.mem_singleton _)) signPublicKey

include started

theorem GroupExpulsion.remover_from {session : GroupSession β}
    (present : session ∈ removerGroups.entries)
    (outbound : session.OutboundOf expulsion.outbound.sessionOwner
      expulsion.outbound.groupInfo.groupAddress) :
    ChainKeyFrom getE2eesPack {.seed expulsion.groupSeed} session.chainKey := by
  obtain ⟨made, created, -⟩ := GroupExpulsion.started started
  obtain ⟨checked, signPublicKey, -, -, rfl⟩ := GroupCreation.started created
  obtain ⟨earlier, -⟩ | rfl := KeyedTable.mem_insert.mp present
  · obtain old | ⟨info, member, -, madeHere⟩ := GroupStore.mem_loop _ earlier
    · simp only [GroupExpulsion.creation, if_true] at old
      obtain ⟨stored, kept⟩ := List.mem_filter.mp old
      obtain ⟨info, listed, isRemover⟩ := expulsion.removerListed
      have loaded := (GroupStore.mem_loadGroupSessions _).mpr
        ⟨stored, outbound.owner, outbound.group⟩
      have sessionId := expulsion.oldOnly info listed session (isRemover ▸ loaded)
      simp [outbound.owner, sessionId] at kept
    · rw [GroupCreation.newAndComplete_some checked member, Option.some.injEq] at madeHere
      subst madeHere
      exact GroupExpulsion.first_from free info.signPublicKey
  · exact GroupExpulsion.first_from free signPublicKey

theorem GroupExpulsion.world_rooted :
    (expulsion.world removerGroups bundle).Rooted getE2eesPack
      expulsion.outbound.groupInfo.groupAddress {.seed expulsion.groupSeed} := by
  refine ⟨?_, fun session absent => nomatch absent⟩
  intro address listed session present outbound nonempty
  have isListed : address ∈ expulsion.response.memberInfoList.map GroupMemberInfo.memberAddress :=
    listed
  obtain ⟨info, member, rfl⟩ := List.mem_map.mp isListed
  simp only [GroupExpulsion.world, if_pos isListed] at present
  by_cases other : info.memberAddress = expulsion.outbound.sessionOwner
  · rw [GroupExpulsion.finish, if_pos other] at present
    exact GroupExpulsion.remover_from free started present (other ▸ outbound)
  · obtain ⟨checked, signPublicKey, inbound, stored, finish⟩ :=
      GroupExpulsion.finish_eq started member other
    rw [finish] at present
    obtain ⟨theirs, theirsMember, -, rfl⟩ | rfl := (GroupRemoval.mem_finish session).mp
      ((GroupStore.mem_loadGroupSessions _).mpr ⟨present, outbound.owner, outbound.group⟩)
    · exact GroupExpulsion.first_from free _
    · exact GroupExpulsion.first_from free _

end Expulsion

/-- In whatever the members do after a removal, secrets that do not follow from its seed lead to no
key of a sent message and to no chain key of a member. -/
theorem groupExpulsion_hidesFuture {expulsion : GroupExpulsion getE2eesPack}
    {removerGroups : GroupStore β} {bundle : GroupPreKeyBundle β}
    (free : FreeGroupSeeds getE2eesPack)
    (started : expulsion.start = (true, removerGroups, some bundle))
    {rounds : List (GroupRound β)}
    (allowed : Machine.Along
      (GroupWorld.step getE2eesPack expulsion.outbound.groupInfo.groupAddress)
      (fun world round => round.ByMembers getE2eesPack
        expulsion.outbound.groupInfo.groupAddress world)
      (expulsion.world removerGroups bundle) rounds)
    {held : Set (GroupSecret β)}
    (seeds : ∀ groupSeed, .seed groupSeed ∈ held → groupSeed.length = seedSecretLen)
    (foreign : ∀ secret ∈ held,
      ¬Lineage.Traced (GroupSecret.Gives getE2eesPack) {.seed expulsion.groupSeed} secret) :
    (∀ session ∈ (expulsion.later removerGroups bundle rounds).sent,
      ∀ e2eesPackId cipherSuite, getE2eesPack e2eesPackId = some cipherSuite →
      ¬Lineage.Traced (GroupSecret.Gives getE2eesPack) held
        (.message (createGroupMessageKey cipherSuite session.chainKey))) ∧
    ∀ address ∈ (expulsion.later removerGroups bundle rounds).members, ∀ session,
      loadOutboundGroupSession getE2eesPack
        ((expulsion.later removerGroups bundle rounds).devices address).groups address
        expulsion.outbound.groupInfo.groupAddress = some session →
      ¬Lineage.Traced (GroupSecret.Gives getE2eesPack) held (.chain session.chainKey) := by
  have schedule := free.toFreeGroupSchedule
  have rooted : (expulsion.later removerGroups bundle rounds).Rooted getE2eesPack
      expulsion.outbound.groupInfo.groupAddress {.seed expulsion.groupSeed} := by
    unfold GroupExpulsion.later
    exact Machine.run_invariant_along (fun _ _ before now => before.step schedule now) rounds
      (GroupExpulsion.world_rooted schedule started) allowed
  refine ⟨fun session sent e2eesPackId cipherSuite pack => ?_,
    fun address member session loaded => ?_⟩
  · exact GroupSecret.foreign_leads free expulsion.seedLength seeds foreign
      ((rooted.sent session sent).step (.messageKey pack _))
  · obtain ⟨present, sender, owner, group, valid⟩ := loadOutboundGroupSession_some loaded
    exact GroupSecret.foreign_leads free expulsion.seedLength seeds foreign
      (rooted.outbound address member session present ⟨sender, owner, group⟩
        (GroupSession.chainKey_ne valid)).traced

end Rounds

namespace Symbolic

/-- Alice and Bob send messages after the removal. -/
def exileRounds : List (GroupRound FreeTerm) :=
  [.send aliceAddress aliceCall, .send bobAddress aliceCall]

/-- What Carol has of the group follows from the seed of the creation. -/
theorem carol_from {secret : GroupSecret FreeTerm}
    (held : secret ∈ (memberDevice carolAddress).groups.secrets) :
    Lineage.Traced (GroupSecret.Gives fun _ => some symbolicSuite) {.seed creation.groupSeed}
      secret := by
  have seeded : (memberDevice carolAddress).groups.Comes (fun _ => some symbolicSuite)
      {.seed creation.groupSeed} := by
    intro session present
    have stored : ∀ other ∈ (memberDevice carolAddress).groups.entries,
        other ∈ [aliceAddress, bobAddress, carolAddress].map (memberSession · carolAddress) := by
      decide
    obtain ⟨sender, -, rfl⟩ := List.mem_map.mp (stored session present)
    refine ⟨fun _ => ?_, fun seeded => absurd rfl seeded⟩
    exact @ChainKeyFrom.first _ _ symbolicSuite_freeGroupKeys.schedule 0 _ symbolicPack _ _
      (.of_mem (Set.mem_singleton _)) (memberInfo sender).signPublicKey
  exact seeded.traced held

end Symbolic

/-- Carol can derive none of the keys with which Alice and Bob go on. -/
theorem carol_excluded : ∃ removerGroups bundle,
    Symbolic.expulsion.start = (true, removerGroups, some bundle) ∧
      (Symbolic.expulsion.later removerGroups bundle Symbolic.exileRounds).sent.length = 2 ∧
      ∀ session ∈ (Symbolic.expulsion.later removerGroups bundle Symbolic.exileRounds).sent,
        ¬Lineage.Traced (GroupSecret.Gives fun _ => some symbolicSuite)
          (Symbolic.memberDevice Symbolic.carolAddress).groups.secrets
          (.message (createGroupMessageKey symbolicSuite session.chainKey)) := by
  have succeeds : Symbolic.expulsion.start.1 = true := by decide
  have bundled : Symbolic.expulsion.start.2.2 =
      some (Symbolic.expulsion.announcement
        (Symbolic.memberInfo Symbolic.aliceAddress).signPublicKey) := by decide
  have started : Symbolic.expulsion.start = (true, Symbolic.expulsion.start.2.1,
      some (Symbolic.expulsion.announcement
        (Symbolic.memberInfo Symbolic.aliceAddress).signPublicKey)) := by
    rw [← succeeds, ← bundled]
  refine ⟨_, _, started, by decide, fun session sent => ?_⟩
  refine (groupExpulsion_hidesFuture symbolicSuite_freeGroupSeeds started ?_ ?_ ?_).1 session sent 0
    symbolicSuite rfl
  · have aliceStays : Symbolic.aliceAddress ∈ [Symbolic.aliceAddress, Symbolic.bobAddress] := by
      decide
    have bobStays : Symbolic.bobAddress ∈ [Symbolic.aliceAddress, Symbolic.bobAddress] := by
      decide
    exact ⟨aliceStays, bobStays, trivial⟩
  · rintro groupSeed ⟨session, present, holds⟩
    have unseeded : ∀ other ∈ (Symbolic.memberDevice Symbolic.carolAddress).groups.entries,
        other.groupSeed = [] := by
      decide
    cases holds with
    | seed seeded => exact absurd (unseeded session present) seeded
  · intro secret held
    exact fun traced => GroupSecret.seeds_apart symbolicSuite_freeGroupSeeds (by decide)
      List.length_replicate List.length_replicate traced (Symbolic.carol_from held)

end E2eeSecurity
