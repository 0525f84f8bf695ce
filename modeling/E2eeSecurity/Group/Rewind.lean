/-
This file shows when a bundle of the creator leaves a running group session alone, and what follows
for the messages of the group.
-/
import E2eeSecurity.Group.Sending

namespace E2eeSecurity

variable {β : Type}

/-- These are the things that happen to a member of a group. -/
inductive GroupEvent (β : Type)
  | preKeyBundle (bundle : GroupPreKeyBundle β)
  | receive (msg : E2eeMsg β)
  | send (call : GroupSendCall β)

/-- This is what a member stores, the messages that it has delivered, and the outbound sessions that
it has encrypted with. -/
structure GroupHistory (β : Type) where
  groups : GroupStore β
  delivered : List (E2eeMsg β)
  sealedWith : List (GroupSession β)

/-- This is one member with the group that it sends to. -/
structure GroupMembership (β : Type) where
  store : Store β
  address : E2eeAddress
  groupAddress : E2eeAddress

section Machine

variable (getE2eesPack : Packs β) (member : GroupMembership β)

def GroupHistory.step (history : GroupHistory β) : GroupEvent β → GroupHistory β
  | .preKeyBundle bundle =>
      let groups := consumeGroupPreKeyBundle getE2eesPack ⟨member.store, history.groups⟩
        member.address bundle
      { history with groups := groups }
  | .receive msg =>
      let outcome := consumeGroupMsg getE2eesPack history.groups member.address msg
      { history with
        groups := outcome.1
        delivered := history.delivered ++ (outcome.2.map fun _ => msg).toList }
  | .send call =>
      let outcome := sendGroupMsgWithFilter getE2eesPack ⟨member.store, history.groups⟩
        ⟨member.address, member.groupAddress, call.allowList, call.denyList⟩ call.plaintext
        call.draw call.response
      { history with
        groups := outcome.2
        sealedWith := history.sealedWith ++ (outcome.1.bind fun _ =>
          loadOutboundGroupSession getE2eesPack history.groups member.address
            member.groupAddress).toList }

/-- The completed sessions of this identifier do not go back, and the outbound one stays. -/
def NotRewound (sessionId : String) (before after : GroupStore β) : Prop :=
  ∀ (wanted : GroupKey) (session : GroupSession β), wanted.sessionId = sessionId →
    wanted.sessionOwner = member.address → before.lookup wanted = some session →
    isValidGroupSession getE2eesPack session = true →
    ∃ next, after.lookup wanted = some next ∧ session.sequence ≤ next.sequence ∧
      (wanted.sender = member.address → next = session)

/-- The completed sessions of the bundle are still as the bundle makes them.
Beside them their senders have no other session of the group. -/
structure Unused (groups : GroupStore β) (bundle : GroupPreKeyBundle β) : Prop where
  inbound : isValidGroupPreKeyBundle getE2eesPack bundle = true →
    ∀ session ∈ groups.loadGroupSessions member.address bundle.groupInfo.groupAddress,
    session.sender ≠ member.address → session.sessionId = bundle.sessionId →
    isValidGroupSession getE2eesPack session = true →
    session.version = bundle.version ∧ session.sequence = bundle.sequence ∧
      ∀ cipherSuite, getE2eesPack session.e2eesPackId = some cipherSuite →
        session.chainKey = cipherSuite.groupChainKey bundle.groupSeed session.associatedData
  outbound : ∀ session ∈ groups.loadGroupSessions member.address bundle.groupInfo.groupAddress,
    session.sender = member.address → session.sessionId = bundle.sessionId →
    isValidGroupSession getE2eesPack session = true →
    ∀ cipherSuite signPublicKey, getE2eesPack bundle.e2eesPackId = some cipherSuite →
      loadSignPublicKey member.store member.address = some signPublicKey →
      session = { insertOutboundGroupSessionData cipherSuite bundle.e2eesPackId member.address
          bundle.groupInfo.groupName bundle.groupInfo.groupAddress bundle.sessionId
          bundle.groupInfo.groupMemberList signPublicKey bundle.groupSeed with groupSeed := [] }
  alone : ∀ session ∈ groups.loadGroupSessions member.address bundle.groupInfo.groupAddress,
    session.sessionId = bundle.sessionId → isValidGroupSession getE2eesPack session = true →
    ∀ other ∈ groups.loadGroupSessions member.address bundle.groupInfo.groupAddress,
    other.sender = session.sender → other = session

/-- The group session with this identifier is live, and the server has answered what is sent. -/
def GroupEvent.Guarded (sessionId : String) (history : GroupHistory β) : GroupEvent β → Prop
  | .preKeyBundle bundle => bundle.oldSessionId ≠ sessionId ∧ (bundle.sessionId = sessionId →
      bundle.groupInfo.groupAddress = member.groupAddress ∧
        Unused getE2eesPack member history.groups bundle)
  | .receive _ => True
  | .send call => call.acknowledged = true

end Machine

section Keeping

namespace GroupStore

variable {groups : GroupStore β} {wanted : GroupKey} {session : GroupSession β}

/-- A session stays when what is stored under its key is the same session. -/
theorem keeps_storeResult (named : wanted.sessionId ≠ "")
    (found : groups.lookup wanted = some session) {result : Option (GroupSession β)}
    (same : ∀ made, result = some made → made.key = wanted → made = session) :
    (groups.storeResult result).lookup wanted = some session := by
  cases result with
  | none => exact found
  | some made =>
      by_cases sameKey : made.key = wanted
      · obtain rfl := same made rfl sameKey
        rw [← sameKey]
        exact lookup_storeGroupSession groups made
      · rw [storeResult, lookup_storeGroupSession_other _ (GroupKey.uncovered_of_ne named sameKey)]
        exact found

theorem keeps_loop {Step : Type} {skip : Step → Prop} [DecidablePred skip]
    {make : Step → Option (GroupSession β)} {steps : List Step} (named : wanted.sessionId ≠ "")
    (found : groups.lookup wanted = some session)
    (same : ∀ step ∈ steps, ¬skip step → ∀ made, make step = some made → made.key = wanted →
      made = session) :
    (steps.foldl (fun groups step => if skip step then groups else
      groups.storeResult (make step)) groups).lookup wanted = some session := by
  induction steps generalizing groups with
  | nil => exact found
  | cons step rest ih =>
      refine ih ?_ fun other later => same other (List.mem_cons_of_mem _ later)
      dsimp only
      split
      · exact found
      next kept => exact keeps_storeResult named found (same step List.mem_cons_self kept)

/-- A bundle with an old session drops no session with another identifier. -/
theorem lookup_withoutOld (owner : E2eeAddress) {oldSessionId : String}
    (found : groups.lookup wanted = some session) (live : oldSessionId ≠ wanted.sessionId) :
    (if oldSessionId ≠ "" then groups.unloadGroupSessionById owner oldSessionId
      else groups).lookup wanted = some session := by
  split
  · refine KeyedTable.lookup_restrict found ?_
    rw [Bool.not_eq_true', decide_eq_false_iff_not]
    intro old
    have sessionId : session.sessionId = wanted.sessionId :=
      congrArg GroupKey.sessionId (KeyedTable.lookup_key found)
    exact live (old.2.symm.trans sessionId)
  · exact found

theorem loadGroupSessions_withoutOld (groups : GroupStore β) (owner groupAddress : E2eeAddress)
    (oldSessionId : String) :
    (if oldSessionId ≠ "" then groups.unloadGroupSessionById owner oldSessionId
      else groups).loadGroupSessions owner groupAddress ⊆
        groups.loadGroupSessions owner groupAddress := by
  intro session loaded
  obtain ⟨present, facts⟩ := (mem_loadGroupSessions _).mp loaded
  refine groups.mem_loadGroupSessions.mpr ⟨?_, facts⟩
  split at present
  · exact List.mem_of_mem_filter present
  · exact present

end GroupStore

variable {getE2eesPack : Packs β} {member : GroupMembership β} {groups : GroupStore β}
  {bundle : GroupPreKeyBundle β}

section Remade

variable {session made : GroupSession β} (unused : Unused getE2eesPack member groups bundle)
  (loaded : session ∈ groups.loadGroupSessions member.address bundle.groupInfo.groupAddress)
  (sessionId : session.sessionId = bundle.sessionId)
  (valid : isValidGroupSession getE2eesPack session = true)

include unused loaded sessionId valid

/-- A bundle makes an unused inbound session again as it is. -/
theorem Unused.complete {other : GroupSession β}
    (otherLoaded : other ∈ groups.loadGroupSessions member.address
      bundle.groupInfo.groupAddress) (inbound : other.sender ≠ member.address)
    (madeHere : completeInboundGroupSessionByPreKeyBundle getE2eesPack other bundle = some made)
    (sameSender : made.sender = session.sender) : made = session := by
  obtain ⟨bundleValid, cipherSuite, pack, rfl⟩ := completeByPreKeyBundle_some madeHere
  obtain rfl := unused.alone session loaded sessionId valid other otherLoaded sameSender
  obtain ⟨version, sequence, chainKey⟩ :=
    unused.inbound bundleValid other loaded inbound sessionId valid
  rw [← version, ← sessionId, ← sequence, ← chainKey cipherSuite pack]

theorem Unused.newOutbound
    (madeHere : newOutboundGroupSessionByReceiver getE2eesPack member.store bundle.groupSeed
      bundle.e2eesPackId member.address bundle.groupInfo.groupName
      bundle.groupInfo.groupAddress bundle.sessionId bundle.groupInfo.groupMemberList = some made)
    (sameSender : made.sender = session.sender) : made = session := by
  obtain ⟨cipherSuite, signPublicKey, pack, own, rfl⟩ := newOutboundByReceiver_some madeHere
  exact (unused.outbound session loaded sameSender.symm sessionId valid _ _ pack own).symm

end Remade

/-- A bundle leaves an unused session as it is. -/
theorem consumeGroupPreKeyBundle_keeps {wanted : GroupKey} {session : GroupSession β}
    (found : groups.lookup wanted = some session)
    (valid : isValidGroupSession getE2eesPack session = true)
    (owner : wanted.sessionOwner = member.address) (live : bundle.oldSessionId ≠ wanted.sessionId)
    (unused : bundle.sessionId = wanted.sessionId → Unused getE2eesPack member groups bundle) :
    (consumeGroupPreKeyBundle getE2eesPack ⟨member.store, groups⟩ member.address bundle).lookup
      wanted = some session := by
  have key := KeyedTable.lookup_key found
  have sessionId : session.sessionId = wanted.sessionId := congrArg GroupKey.sessionId key
  have named : wanted.sessionId ≠ "" := by
    intro empty
    rw [← sessionId] at empty
    simp [isValidGroupSession, isValidGroupSessionHead, isValidString, empty] at valid
  have loadedIn : ∀ current : GroupStore β, current.lookup wanted = some session →
      wanted.groupAddress = bundle.groupInfo.groupAddress →
      session ∈ current.loadGroupSessions member.address bundle.groupInfo.groupAddress := by
    intro current stored group
    rw [← owner, ← group]
    exact GroupStore.mem_loadGroupSessions_of_lookup _ stored
  have stored := GroupStore.lookup_withoutOld member.address found live
  have loaded := groups.loadGroupSessions_withoutOld member.address
    bundle.groupInfo.groupAddress bundle.oldSessionId
  unfold consumeGroupPreKeyBundle
  dsimp only
  generalize (if bundle.oldSessionId ≠ "" then
    groups.unloadGroupSessionById member.address bundle.oldSessionId else groups) = current
    at stored loaded ⊢
  split
  next empty =>
    refine GroupStore.keeps_storeResult named stored ?_
    intro made madeHere sameKey
    have group : wanted.groupAddress = bundle.groupInfo.groupAddress := by
      rw [← sameKey, GroupSession.key, (newInboundByPreKeyBundle_some madeHere).2.2.2.1]
    have inside := loadedIn current stored group
    rw [List.isEmpty_iff.mp empty] at inside
    cases inside
  · refine GroupStore.keeps_storeResult named (GroupStore.keeps_loop named stored ?_) ?_
    · intro other otherLoaded inbound made madeHere sameKey
      have otherHere := loaded otherLoaded
      obtain ⟨madeId, madeInfo⟩ := completeByPreKeyBundle_named madeHere
      have madeGroup : made.groupInfo.groupAddress = bundle.groupInfo.groupAddress := by
        rw [madeInfo]
        exact ((groups.mem_loadGroupSessions).mp otherHere).2.2
      have sameId : bundle.sessionId = wanted.sessionId :=
        madeId.symm.trans (congrArg GroupKey.sessionId sameKey)
      have group : wanted.groupAddress = bundle.groupInfo.groupAddress :=
        (congrArg GroupKey.groupAddress sameKey).symm.trans madeGroup
      exact (unused sameId).complete (loadedIn groups found group) (sessionId.trans sameId.symm)
        valid otherHere inbound madeHere (congrArg GroupKey.sender (sameKey.trans key.symm))
    · intro made madeHere sameKey
      obtain ⟨madeId, madeGroup⟩ := newOutboundByReceiver_named madeHere
      have sameId : bundle.sessionId = wanted.sessionId :=
        madeId.symm.trans (congrArg GroupKey.sessionId sameKey)
      have group : wanted.groupAddress = bundle.groupInfo.groupAddress :=
        (congrArg GroupKey.groupAddress sameKey).symm.trans madeGroup
      exact (unused sameId).newOutbound (loadedIn groups found group)
        (sessionId.trans sameId.symm) valid
        madeHere (congrArg GroupKey.sender (sameKey.trans key.symm))

end Keeping

section Advancing

variable {cipherSuite : CipherSuite β}

/-- A session that is stored further on its chain only moves on itself. -/
theorem GroupStore.lookup_storeAdvanced {groups : GroupStore β} {current session : GroupSession β}
    {wanted : GroupKey} (present : current ∈ groups.entries) (count : Nat)
    (named : wanted.sessionId ≠ "") (found : groups.lookup wanted = some session) :
    (groups.storeGroupSession ((GroupSession.advance cipherSuite)^[count] current)).lookup wanted =
      some session ∨
    (current = session ∧
      (groups.storeGroupSession ((GroupSession.advance cipherSuite)^[count] current)).lookup
        wanted = some ((GroupSession.advance cipherSuite)^[count] session)) := by
  by_cases sameKey : current.key = wanted
  · right
    have same := groups.lookup_of_mem present
    rw [sameKey, found, Option.some.injEq] at same
    refine ⟨same.symm, ?_⟩
    rw [← sameKey, same, ← GroupSession.advance_iterate_key current count]
    exact GroupStore.lookup_storeGroupSession _ _
  · left
    refine (GroupStore.lookup_storeGroupSession_other _ ?_).trans found
    rw [GroupSession.advance_iterate_key]
    exact GroupKey.uncovered_of_ne named sameKey

end Advancing

section Runs

variable (getE2eesPack : Packs β) (member : GroupMembership β) (sessionId : String)

/-- The sessions with this identifier are of the one group, and their chain keys are whole. -/
structure Scoped (groups : GroupStore β) : Prop where
  group : ∀ session ∈ groups.entries, session.sessionOwner = member.address →
    session.sessionId = sessionId → session.groupInfo.groupAddress = member.groupAddress
  full : ∀ session ∈ groups.entries, session.sessionOwner = member.address →
    session.sessionId = sessionId → isValidGroupSession getE2eesPack session = true →
    ∀ cipherSuite, getE2eesPack session.e2eesPackId = some cipherSuite →
    cipherSuite.FullKey session.chainKey

/-- The stored sessions with this identifier only move on along their chains. -/
def Advances (before after : GroupStore β) : Prop :=
  ∀ (wanted : GroupKey) (session : GroupSession β), wanted.sessionId = sessionId →
    wanted.sessionOwner = member.address → before.lookup wanted = some session →
    isValidGroupSession getE2eesPack session = true →
    ∃ cipherSuite count, getE2eesPack session.e2eesPackId = some cipherSuite ∧
      after.lookup wanted = some ((GroupSession.advance cipherSuite)^[count] session)

/-- The chain has left this session behind. -/
def Passed (groups : GroupStore β) (session : GroupSession β) : Prop :=
  ∃ cipherSuite count, getE2eesPack session.e2eesPackId = some cipherSuite ∧
    cipherSuite.FullKey session.chainKey ∧ isValidGroupSession getE2eesPack session = true ∧
    session.sessionId = sessionId ∧ session.sessionOwner = member.address ∧
    groups.lookup session.key = some ((GroupSession.advance cipherSuite)^[count + 1] session)

/-- The message was opened with a session that the chain has left behind. -/
def Opened (groups : GroupStore β) (msg : E2eeMsg β) : Prop :=
  ∃ session cipherSuite plaintext, Passed getE2eesPack member sessionId groups session ∧
    session.sender = msg.fromAddress ∧
    session.groupInfo.groupAddress = member.groupAddress ∧
    getE2eesPack session.e2eesPackId = some cipherSuite ∧
    cipherSuite.se.decrypt session.associatedData
      (createGroupMessageKey cipherSuite session.chainKey) msg.groupMsg.ciphertext = some plaintext

/-- Two messages of one sender are different also when only their ciphertexts are compared. -/
def DistinctMessages (first second : E2eeMsg β) : Prop :=
  first.sessionId = sessionId → second.sessionId = sessionId →
    first.fromAddress = second.fromAddress →
    first.groupMsg.ciphertext ≠ second.groupMsg.ciphertext

/-- Two uses of the outbound session have different message keys. -/
def DistinctKeys (first second : GroupSession β) : Prop :=
  first.sessionId = sessionId → second.sessionId = sessionId →
    ∀ cipherSuite, getE2eesPack second.e2eesPackId = some cipherSuite →
    createGroupMessageKey cipherSuite first.chainKey ≠
      createGroupMessageKey cipherSuite second.chainKey

structure GroupHistory.Live (history : GroupHistory β) : Prop where
  inScope : Scoped getE2eesPack member sessionId history.groups
  delivered : ∀ msg ∈ history.delivered, msg.sessionId = sessionId →
    Opened getE2eesPack member sessionId history.groups msg
  sealedWith : ∀ session ∈ history.sealedWith, session.sessionId = sessionId →
    session.sender = member.address ∧ session.groupInfo.groupAddress = member.groupAddress ∧
      Passed getE2eesPack member sessionId history.groups session
  deliveredOnce : history.delivered.Pairwise (DistinctMessages sessionId)
  sealedOnce : history.sealedWith.Pairwise (DistinctKeys getE2eesPack sessionId)

variable {getE2eesPack member sessionId}

theorem Advances.refl (groups : GroupStore β) :
    Advances getE2eesPack member sessionId groups groups := by
  intro wanted session _ _ found valid
  obtain ⟨cipherSuite, pack⟩ := exists_suite_of_valid valid
  exact ⟨cipherSuite, 0, pack, found⟩

theorem Advances.store {groups : GroupStore β} {current : GroupSession β}
    {cipherSuite : CipherSuite β} (present : current ∈ groups.entries)
    (pack : getE2eesPack current.e2eesPackId = some cipherSuite) (count : Nat) :
    Advances getE2eesPack member sessionId groups
      (groups.storeGroupSession ((GroupSession.advance cipherSuite)^[count] current)) := by
  intro wanted session isId owner found valid
  have named : wanted.sessionId ≠ "" := by
    rw [← congrArg GroupKey.sessionId (KeyedTable.lookup_key found)]
    exact sessionId_of_valid valid
  obtain kept | ⟨rfl, moved⟩ := GroupStore.lookup_storeAdvanced present count named found
  · obtain ⟨suite, samePack⟩ := exists_suite_of_valid valid
    exact ⟨suite, 0, samePack, kept⟩
  · exact ⟨cipherSuite, count, pack, moved⟩

theorem Scoped.store {groups : GroupStore β} (inScope : Scoped getE2eesPack member sessionId groups)
    {current : GroupSession β} {cipherSuite : CipherSuite β} (present : current ∈ groups.entries)
    (valid : isValidGroupSession getE2eesPack current = true)
    (pack : getE2eesPack current.e2eesPackId = some cipherSuite) (count : Nat) :
    Scoped getE2eesPack member sessionId
      (groups.storeGroupSession ((GroupSession.advance cipherSuite)^[count] current)) := by
  refine ⟨?_, ?_⟩
  · intro session stored owner isId
    obtain ⟨old, -⟩ | rfl := KeyedTable.mem_insert.mp stored
    · exact inScope.group session old owner isId
    · simp only [GroupSession.advance_iterate_sessionOwner,
        GroupSession.advance_iterate_sessionId] at owner isId
      rw [GroupSession.advance_iterate_groupInfo]
      exact inScope.group current present owner isId
  · intro session stored owner isId sessionValid suite sessionPack
    obtain ⟨old, -⟩ | rfl := KeyedTable.mem_insert.mp stored
    · exact inScope.full session old owner isId sessionValid suite sessionPack
    · simp only [GroupSession.advance_iterate_sessionOwner,
        GroupSession.advance_iterate_sessionId, GroupSession.advance_iterate_e2eesPackId]
        at owner isId sessionPack
      rw [pack, Option.some.injEq] at sessionPack
      subst sessionPack
      exact GroupSession.advance_iterate_full
        (inScope.full current present owner isId valid _ pack) count

/-- What a bundle makes is in the scope as well. -/
theorem Scoped.bundle {groups : GroupStore β}
    (inScope : Scoped getE2eesPack member sessionId groups) {bundle : GroupPreKeyBundle β}
    (group : bundle.sessionId = sessionId →
      bundle.groupInfo.groupAddress = member.groupAddress) :
    Scoped getE2eesPack member sessionId (consumeGroupPreKeyBundle getE2eesPack
      ⟨member.store, groups⟩ member.address bundle) := by
  refine ⟨?_, ?_⟩
  · intro session present owner isId
    obtain old | made | ⟨other, loaded, -, made⟩ | made := mem_consumeGroupPreKeyBundle present
    · exact inScope.group session old owner isId
    · obtain ⟨madeId, -, -, groupInfo, -⟩ := newInboundByPreKeyBundle_some made
      rw [groupInfo]
      exact group (madeId.symm.trans isId)
    · obtain ⟨madeId, madeInfo⟩ := completeByPreKeyBundle_named made
      rw [madeInfo]
      exact ((GroupStore.mem_loadGroupSessions _).mp loaded).2.2.trans
        (group (madeId.symm.trans isId))
    · obtain ⟨madeId, madeGroup⟩ := newOutboundByReceiver_named made
      exact madeGroup.trans (group (madeId.symm.trans isId))
  · intro session present owner isId valid suite pack
    obtain old | made | ⟨other, loaded, -, made⟩ | made := mem_consumeGroupPreKeyBundle present
    · exact inScope.full session old owner isId valid suite pack
    · obtain ⟨-, -, -, -, -, chainKey⟩ := newInboundByPreKeyBundle_some made
      simp [isValidGroupSession, chainKey, isValidProtobuf] at valid
    · obtain ⟨-, cipherSuite, otherPack, rfl⟩ := completeByPreKeyBundle_some made
      obtain rfl := Option.some.inj (otherPack.symm.trans pack)
      exact groupChainKey_full _ _
    · obtain ⟨cipherSuite, signPublicKey, otherPack, -, rfl⟩ := newOutboundByReceiver_some made
      obtain rfl := Option.some.inj (otherPack.symm.trans pack)
      exact groupChainKey_full _ _

theorem Passed.advances {before after : GroupStore β} {session : GroupSession β}
    (passed : Passed getE2eesPack member sessionId before session)
    (advances : Advances getE2eesPack member sessionId before after) :
    Passed getE2eesPack member sessionId after session := by
  obtain ⟨cipherSuite, count, pack, full, valid, isId, owner, found⟩ := passed
  obtain ⟨suite, more, samePack, moved⟩ := advances session.key _ isId owner found
    (GroupSession.advance_iterate_valid valid _)
  rw [GroupSession.advance_iterate_e2eesPackId, pack, Option.some.injEq] at samePack
  subst samePack
  rw [← Function.iterate_add_apply, ← Nat.add_assoc] at moved
  exact ⟨cipherSuite, more + count, pack, full, valid, isId, owner, moved⟩

theorem Opened.advances {before after : GroupStore β} {msg : E2eeMsg β}
    (opened : Opened getE2eesPack member sessionId before msg)
    (advances : Advances getE2eesPack member sessionId before after) :
    Opened getE2eesPack member sessionId after msg := by
  obtain ⟨session, cipherSuite, plaintext, passed, facts⟩ := opened
  exact ⟨session, cipherSuite, plaintext, passed.advances advances, facts⟩

/-- What the chain has left behind does not come again. -/
theorem Passed.fresh {groups : GroupStore β} {old current : GroupSession β}
    {cipherSuite : CipherSuite β} (passed : Passed getE2eesPack member sessionId groups old)
    (free : cipherSuite.FreeGroupKeys) (present : current ∈ groups.entries)
    (sameKey : current.key = old.key)
    (pack : getE2eesPack current.e2eesPackId = some cipherSuite) (count : Nat) :
    getE2eesPack old.e2eesPackId = some cipherSuite ∧
    createGroupMessageKey cipherSuite old.chainKey ≠ createGroupMessageKey cipherSuite
      ((GroupSession.advance cipherSuite)^[count] current).chainKey := by
  obtain ⟨suite, gone, oldPack, full, -, -, -, found⟩ := passed
  have same := groups.lookup_of_mem present
  rw [sameKey, found, Option.some.injEq] at same
  subst same
  rw [GroupSession.advance_iterate_e2eesPackId, oldPack, Option.some.injEq] at pack
  subst pack
  refine ⟨oldPack, fun sameMessageKey => ?_⟩
  have sameChain := createGroupMessageKey_inj free sameMessageKey
  rw [← Function.iterate_add_apply, GroupSession.advance_iterate_chainKey full] at sameChain
  have again := advance_iterate_inj free old.chainKey
    (show suite.advance^[0] old.chainKey = _ from sameChain)
  omega

namespace GroupHistory.Live

variable {history : GroupHistory β} (live : history.Live getE2eesPack member sessionId)

include live

/-- When the sessions only move on, what was used before stays behind. -/
theorem advances {groups : GroupStore β}
    (inScope : Scoped getE2eesPack member sessionId groups)
    (advances : Advances getE2eesPack member sessionId history.groups groups) :
    (GroupHistory.mk groups history.delivered history.sealedWith).Live getE2eesPack member
      sessionId where
  inScope := inScope
  delivered msg present isId := (live.delivered msg present isId).advances advances
  sealedWith session present isId :=
    have facts := live.sealedWith session present isId
    ⟨facts.1, facts.2.1, facts.2.2.advances advances⟩
  deliveredOnce := live.deliveredOnce
  sealedOnce := live.sealedOnce

theorem preKeyBundle {bundle : GroupPreKeyBundle β}
    (guarded : (GroupEvent.preKeyBundle bundle).Guarded getE2eesPack member sessionId history) :
    (history.step getE2eesPack member (.preKeyBundle bundle)).Live getE2eesPack member
      sessionId := by
  obtain ⟨replaced, unused⟩ := guarded
  refine live.advances (live.inScope.bundle fun isId => (unused isId).1) ?_
  intro wanted session isId owner found valid
  obtain ⟨cipherSuite, pack⟩ := exists_suite_of_valid valid
  refine ⟨cipherSuite, 0, pack, ?_⟩
  refine consumeGroupPreKeyBundle_keeps found valid owner ?_ fun same => (unused ?_).2
  · rw [isId]
    exact replaced
  · rw [same, isId]

section Receiving

variable {msg : E2eeMsg β} {inbound : GroupSession β} {cipherSuite : CipherSuite β}
  {plaintext : Bytes β} {count : Nat}
  (found : history.groups.loadGroupSessionById msg.fromAddress member.address msg.sessionId =
    some inbound)
  (pack : getE2eesPack inbound.e2eesPackId = some cipherSuite)
  (decrypted : cipherSuite.se.decrypt inbound.associatedData (createGroupMessageKey cipherSuite
    ((GroupSession.advance cipherSuite)^[count] inbound).chainKey) msg.groupMsg.ciphertext =
      some plaintext)

include found pack decrypted

/-- A message that has been delivered before does not open again. -/
theorem delivered_distinct (free : cipherSuite.FreeGroupKeys) (ideal : cipherSuite.se.Ideal)
    {earlier : E2eeMsg β} (present : earlier ∈ history.delivered) :
    DistinctMessages sessionId earlier msg := by
  intro earlierId isId sameSender sameCiphertext
  obtain ⟨old, suite, oldPlaintext, passed, sender, group, oldPack, oldDecrypted⟩ :=
    live.delivered earlier present earlierId
  obtain ⟨member, inboundSender, owner, inboundId⟩ :=
    history.groups.loadGroupSessionById_some found
  obtain ⟨_, _, _, _, _, oldId, oldOwner, _⟩ := id passed
  have inboundGroup := live.inScope.group inbound member owner (inboundId.trans isId)
  have sameKey : inbound.key = old.key := by
    rw [GroupSession.key, GroupSession.key, inboundSender, sender, sameSender, owner, oldOwner,
      inboundId, isId, oldId, inboundGroup, group]
  obtain ⟨samePack, different⟩ := passed.fresh free member sameKey pack count
  obtain rfl := Option.some.inj (oldPack.symm.trans samePack)
  rw [sameCiphertext] at oldDecrypted
  exact different (ideal _ _ _ _ _ _ _ oldDecrypted decrypted).2.1

/-- The session that has opened the message is left behind. -/
theorem opened (valid : isValidGroupSession getE2eesPack inbound = true)
    (isId : msg.sessionId = sessionId) :
    Opened getE2eesPack member sessionId (history.groups.storeGroupSession
      ((GroupSession.advance cipherSuite)^[count + 1] inbound)) msg := by
  obtain ⟨present, sender, owner, inboundId⟩ := history.groups.loadGroupSessionById_some found
  have inScope := inboundId.trans isId
  have full := live.inScope.full inbound present owner inScope valid _ pack
  refine ⟨(GroupSession.advance cipherSuite)^[count] inbound, cipherSuite, plaintext,
    ⟨cipherSuite, 0, ?_, GroupSession.advance_iterate_full full _,
      GroupSession.advance_iterate_valid valid _, ?_, ?_, ?_⟩, ?_, ?_, ?_, ?_⟩
  · simpa using pack
  · simpa using inScope
  · simpa using owner
  · rw [Nat.zero_add, Function.iterate_one, ← Function.iterate_succ_apply' (GroupSession.advance
      cipherSuite), GroupSession.advance_iterate_key,
      ← GroupSession.advance_iterate_key inbound (count + 1)]
    exact GroupStore.lookup_storeGroupSession _ _
  · simpa using sender
  · simpa using live.inScope.group inbound present owner inScope
  · simpa using pack
  · simpa using decrypted

end Receiving

theorem receive
    (ideal : ∀ e2eesPackId cipherSuite, getE2eesPack e2eesPackId = some cipherSuite →
      cipherSuite.FreeGroupKeys ∧ cipherSuite.se.Ideal) (msg : E2eeMsg β) :
    (history.step getE2eesPack member (.receive msg)).Live getE2eesPack member sessionId := by
  obtain unchanged | ⟨inbound, cipherSuite, plaintext, found, pack, valid, -, decrypted, outcome⟩ :=
    consumeGroupMsg_cases getE2eesPack history.groups member.address msg
  · simp only [GroupHistory.step, unchanged, Option.map_none, Option.toList_none, List.append_nil]
    exact live
  · have present := (history.groups.loadGroupSessionById_some found).1
    unfold GroupSession.catchUp at decrypted outcome
    rw [← Function.iterate_succ_apply' (GroupSession.advance cipherSuite)] at outcome
    have moved := live.advances (live.inScope.store present valid pack _)
      (Advances.store present pack (msg.groupMsg.sequence.toNat - inbound.sequence.toNat + 1))
    simp only [GroupHistory.step, outcome, Option.map_some, Option.toList_some]
    refine ⟨moved.inScope, ?_, moved.sealedWith, ?_, live.sealedOnce⟩
    · intro other delivered isId
      obtain earlier | now := List.mem_append.mp delivered
      · exact moved.delivered other earlier isId
      · obtain rfl := List.mem_singleton.mp now
        exact live.opened found pack decrypted valid isId
    · refine List.pairwise_append.mpr ⟨live.deliveredOnce, List.pairwise_singleton _ _, ?_⟩
      intro earlier delivered other now
      obtain rfl := List.mem_singleton.mp now
      obtain ⟨free, idealCipher⟩ := ideal _ _ pack
      exact live.delivered_distinct found pack decrypted free idealCipher delivered

theorem send
    (ideal : ∀ e2eesPackId cipherSuite, getE2eesPack e2eesPackId = some cipherSuite →
      cipherSuite.FreeGroupKeys ∧ cipherSuite.se.Ideal) {call : GroupSendCall β}
    (acknowledged : call.acknowledged = true) :
    (history.step getE2eesPack member (.send call)).Live getE2eesPack member sessionId := by
  obtain unchanged | ⟨-, outbound, cipherSuite, payload, -, -, found, valid, pack, -, outcome⟩ :=
    sendGroupMsgWithFilter_cases getE2eesPack ⟨member.store, history.groups⟩
      ⟨member.address, member.groupAddress, call.allowList, call.denyList⟩ call.plaintext call.draw
      call.response
  · simp only [GroupHistory.step, unchanged, Option.bind_none, Option.toList_none, List.append_nil]
    exact live
  · obtain ⟨loaded, sender⟩ := history.groups.loadGroupSessionByAddress_some found
    obtain ⟨present, owner, group⟩ := history.groups.mem_loadGroupSessions.mp loaded
    have outboundFound : loadOutboundGroupSession getE2eesPack history.groups member.address
        member.groupAddress = some outbound := Option.filter_eq_some_iff.mpr ⟨found, valid⟩
    have moved := live.advances (live.inScope.store present valid pack 1)
      (Advances.store present pack 1)
    have answered : isValidSendGroupMsgResponse call.response = true := acknowledged
    rw [if_pos answered] at outcome
    simp only [GroupHistory.step, outcome, Option.bind_some, outboundFound, Option.toList_some]
    refine ⟨moved.inScope, moved.delivered, ?_, live.deliveredOnce, ?_⟩
    · intro session used isId
      obtain earlier | now := List.mem_append.mp used
      · exact moved.sealedWith session earlier isId
      · obtain rfl := List.mem_singleton.mp now
        refine ⟨sender, group, cipherSuite, 0, pack, live.inScope.full session present owner isId
          valid _ pack, valid, isId, owner, ?_⟩
        exact GroupStore.lookup_storeGroupSession _ (session.advance cipherSuite)
    · refine List.pairwise_append.mpr ⟨live.sealedOnce, List.pairwise_singleton _ _, ?_⟩
      intro earlier used session now earlierId isId suite suitePack
      obtain rfl := List.mem_singleton.mp now
      obtain ⟨earlierSender, earlierGroup, passed⟩ := live.sealedWith earlier used earlierId
      obtain ⟨_, _, _, _, _, _, earlierOwner, _⟩ := id passed
      have sameKey : session.key = earlier.key := by
        rw [GroupSession.key, GroupSession.key, sender, earlierSender, owner, earlierOwner, group,
          earlierGroup, isId, earlierId]
      exact (passed.fresh (ideal _ _ suitePack).1 present sameKey suitePack 0).2

theorem step
    (ideal : ∀ e2eesPackId cipherSuite, getE2eesPack e2eesPackId = some cipherSuite →
      cipherSuite.FreeGroupKeys ∧ cipherSuite.se.Ideal) {event : GroupEvent β}
    (guarded : event.Guarded getE2eesPack member sessionId history) :
    (history.step getE2eesPack member event).Live getE2eesPack member sessionId := by
  cases event with
  | preKeyBundle bundle => exact live.preKeyBundle guarded
  | receive msg => exact live.receive ideal msg
  | send call => exact live.send ideal guarded

end GroupHistory.Live

/-- A guarded bundle does not rewind the group session. -/
theorem GroupEvent.Guarded.notRewound {history : GroupHistory β} {bundle : GroupPreKeyBundle β}
    (guarded : (GroupEvent.preKeyBundle bundle).Guarded getE2eesPack member sessionId history) :
    NotRewound getE2eesPack member sessionId history.groups
      (history.step getE2eesPack member (.preKeyBundle bundle)).groups := by
  intro wanted session isId owner found valid
  refine ⟨session, ?_, UInt32.le_refl _, fun _ => rfl⟩
  refine consumeGroupPreKeyBundle_keeps found valid owner ?_ fun same => (guarded.2 ?_).2
  · rw [isId]
    exact guarded.1
  · rw [same, isId]

end Runs

/-- In a run in which every bundle of a live group session finds its sessions unused, no bundle
rewinds them, no message is delivered twice, and no outbound message key is used twice. -/
theorem groupPreKeyBundle_notRewound {getE2eesPack : Packs β} {member : GroupMembership β}
    {sessionId : String} {groups : GroupStore β} {events : List (GroupEvent β)}
    (ideal : ∀ e2eesPackId cipherSuite, getE2eesPack e2eesPackId = some cipherSuite →
      cipherSuite.FreeGroupKeys ∧ cipherSuite.se.Ideal)
    (inScope : Scoped getE2eesPack member sessionId groups)
    (guarded : Machine.Along (GroupHistory.step getE2eesPack member)
      (fun history event => event.Guarded getE2eesPack member sessionId history) ⟨groups, [], []⟩
      events) :
    Machine.Along (GroupHistory.step getE2eesPack member)
        (fun history event => ∀ bundle, event = .preKeyBundle bundle →
          NotRewound getE2eesPack member sessionId history.groups
            (history.step getE2eesPack member event).groups) ⟨groups, [], []⟩ events ∧
      (Machine.run (GroupHistory.step getE2eesPack member) ⟨groups, [], []⟩
        events).delivered.Pairwise (DistinctMessages sessionId) ∧
      (Machine.run (GroupHistory.step getE2eesPack member) ⟨groups, [], []⟩
        events).sealedWith.Pairwise (DistinctKeys getE2eesPack sessionId) := by
  have start : (GroupHistory.mk groups [] []).Live getE2eesPack member sessionId :=
    ⟨inScope, by simp, by simp, .nil, .nil⟩
  refine ⟨Machine.along_mono ?_ guarded, ?_⟩
  · rintro history event now bundle rfl
    exact now.notRewound
  · have live := Machine.run_invariant_along (fun _ _ live now => live.step ideal now) events start
      guarded
    exact ⟨live.deliveredOnce, live.sealedOnce⟩

namespace Symbolic

def bobMembership : GroupMembership FreeTerm :=
  ⟨(memberDevice bobAddress).store, bobAddress, groupAddress⟩

/-- Bob handles the bundle, delivers a message of Alice, and sends one. -/
def liveEvents : List (GroupEvent FreeTerm) :=
  [.preKeyBundle creationBundle, .receive (groupMsg (memberSession aliceAddress bobAddress)
    [.byte 1]), .send ⟨[], [], [.byte 2], ⟨[], []⟩, some ⟨.ok⟩⟩]

def bobHistory (events : List (GroupEvent FreeTerm)) : GroupHistory FreeTerm :=
  Machine.run (GroupHistory.step (fun _ => some symbolicSuite) bobMembership)
    ⟨creation.listed bobAddress, [], []⟩ events

end Symbolic

/-- The second copy of the bundle takes both sessions of Bob back to the start. The same message of
Alice is delivered twice, and Bob encrypts twice with one key. -/
theorem liveEvents_rewound :
    (([Symbolic.aliceAddress, Symbolic.bobAddress].map fun sender =>
      (((Symbolic.bobHistory Symbolic.liveEvents).groups.lookup
          (Symbolic.creation.key sender Symbolic.bobAddress)).map GroupSession.sequence,
        ((Symbolic.bobHistory (Symbolic.liveEvents ++
          [.preKeyBundle Symbolic.creationBundle])).groups.lookup
            (Symbolic.creation.key sender Symbolic.bobAddress)).map GroupSession.sequence)) =
      [(some 1, some 0), (some 1, some 0)]) ∧
    (Symbolic.bobHistory (Symbolic.liveEvents ++ Symbolic.liveEvents)).delivered =
      [Symbolic.groupMsg (Symbolic.memberSession Symbolic.aliceAddress Symbolic.bobAddress)
        [.byte 1], Symbolic.groupMsg (Symbolic.memberSession Symbolic.aliceAddress
          Symbolic.bobAddress) [.byte 1]] ∧
    ∃ chainKey, (Symbolic.bobHistory (Symbolic.liveEvents ++
      Symbolic.liveEvents)).sealedWith.map GroupSession.chainKey = [chainKey, chainKey] := by
  refine ⟨by decide, by decide,
    (Symbolic.memberSession Symbolic.bobAddress Symbolic.bobAddress).chainKey, by decide⟩

/-- With one copy of the bundle before the messages, nothing is rewound and no key comes twice. -/
theorem liveEvents_notRewound :
    Symbolic.liveEvents.length = 3 ∧
      (Symbolic.bobHistory Symbolic.liveEvents).delivered.Pairwise (DistinctMessages "session") ∧
      (Symbolic.bobHistory Symbolic.liveEvents).sealedWith.Pairwise
        (DistinctKeys (fun _ => some symbolicSuite) "session") := by
  have waiting : ∀ session ∈ (Symbolic.creation.listed Symbolic.bobAddress).entries,
      session.sessionId ≠ "session" := by
    decide
  have inScope : Scoped (fun _ => some symbolicSuite) Symbolic.bobMembership "session"
      (Symbolic.creation.listed Symbolic.bobAddress) :=
    ⟨fun session present _ isId => absurd isId (waiting session present),
      fun session present _ isId => absurd isId (waiting session present)⟩
  have unused : Unused (fun _ => some symbolicSuite) Symbolic.bobMembership
      (Symbolic.creation.listed Symbolic.bobAddress) Symbolic.creationBundle := by
    have inside : ∀ session ∈ (Symbolic.creation.listed Symbolic.bobAddress).loadGroupSessions
        Symbolic.bobMembership.address Symbolic.creationBundle.groupInfo.groupAddress,
        session.sessionId ≠ "session" := fun session loaded =>
      waiting session ((GroupStore.mem_loadGroupSessions _).mp loaded).1
    exact ⟨fun _ session loaded _ isId => absurd isId (inside session loaded),
      fun session loaded _ isId => absurd isId (inside session loaded),
      fun session loaded isId => absurd isId (inside session loaded)⟩
  obtain ⟨-, delivered, keys⟩ := groupPreKeyBundle_notRewound
    (fun _ _ pack => Option.some.inj pack ▸ ⟨symbolicSuite_freeGroupKeys, symbolicSuite_ideal⟩)
    inScope (show Machine.Along _ _ _ Symbolic.liveEvents from
      ⟨⟨by decide, fun _ => ⟨rfl, unused⟩⟩, trivial, rfl, trivial⟩)
  exact ⟨rfl, delivered, keys⟩

end E2eeSecurity
