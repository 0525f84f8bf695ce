/-
This file gives the sessions that the group store has after one session is stored, and after a loop
in which every turn stores at most one session.
-/
import E2eeSecurity.Group.Operations

namespace E2eeSecurity

variable {β : Type}

/-- A pack identifier that passes its check has a usable suite. -/
theorem exists_pack {getE2eesPack : Packs β} {e2eesPackId : UInt32}
    (valid : isValidE2eesPackId getE2eesPack e2eesPackId = true) :
    ∃ cipherSuite, getE2eesPack e2eesPackId = some cipherSuite ∧
      isValidCipherSuite cipherSuite = true := by
  unfold isValidE2eesPackId at valid
  cases found : getE2eesPack e2eesPackId with
  | none => simp [found] at valid
  | some cipherSuite =>
      rw [found, Option.any_some] at valid
      exact ⟨cipherSuite, rfl, valid⟩

theorem sessionId_of_valid {getE2eesPack : Packs β} {session : GroupSession β}
    (valid : isValidGroupSession getE2eesPack session = true) : session.sessionId ≠ "" := by
  intro empty
  simp [isValidGroupSession, isValidGroupSessionHead, isValidString, empty] at valid

theorem exists_suite_of_valid {getE2eesPack : Packs β} {session : GroupSession β}
    (valid : isValidGroupSession getE2eesPack session = true) :
    ∃ cipherSuite, getE2eesPack session.e2eesPackId = some cipherSuite := by
  simp only [isValidGroupSession, isValidGroupSessionHead, Bool.and_eq_true] at valid
  obtain ⟨cipherSuite, pack, -⟩ := exists_pack valid.1.1.1.1.1.1.2
  exact ⟨cipherSuite, pack⟩

section Made

variable {getE2eesPack : Packs β} {made : GroupSession β}

/-- This is the session that a bundle makes of a waiting one. -/
theorem completeByPreKeyBundle_some {inbound : GroupSession β} {bundle : GroupPreKeyBundle β}
    (madeHere : completeInboundGroupSessionByPreKeyBundle getE2eesPack inbound bundle =
      some made) :
    isValidGroupPreKeyBundle getE2eesPack bundle = true ∧
      ∃ cipherSuite, getE2eesPack inbound.e2eesPackId = some cipherSuite ∧
        made = { inbound with
          version := bundle.version
          sessionId := bundle.sessionId
          sequence := bundle.sequence
          chainKey := cipherSuite.groupChainKey bundle.groupSeed inbound.associatedData } := by
  unfold completeInboundGroupSessionByPreKeyBundle at madeHere
  split at madeHere
  next checks =>
    rw [Bool.and_eq_true] at checks
    obtain ⟨cipherSuite, pack, rfl⟩ := Option.map_eq_some_iff.mp madeHere
    exact ⟨checks.2, cipherSuite, pack, rfl⟩
  · cases madeHere

/-- This is the outbound session that a bundle makes. -/
theorem newOutboundByReceiver_some {store : Store β} {groupSeed : Bytes β} {e2eesPackId : UInt32}
    {userAddress groupAddress : E2eeAddress} {groupName sessionId : String}
    {groupMemberList : List GroupMember}
    (madeHere : newOutboundGroupSessionByReceiver getE2eesPack store groupSeed e2eesPackId
      userAddress groupName groupAddress sessionId groupMemberList = some made) :
    ∃ cipherSuite identityPublicKey, getE2eesPack e2eesPackId = some cipherSuite ∧
      loadSignPublicKey store userAddress = some identityPublicKey ∧
      made = { insertOutboundGroupSessionData cipherSuite e2eesPackId userAddress groupName
        groupAddress sessionId groupMemberList identityPublicKey groupSeed with
        groupSeed := [] } := by
  unfold newOutboundGroupSessionByReceiver at madeHere
  split at madeHere
  next cipherSuite identityPublicKey pack loaded =>
    split at madeHere
    · exact ⟨cipherSuite, identityPublicKey, pack, loaded, (Option.some.inj madeHere).symm⟩
    · cases madeHere
  · cases madeHere

/-- The completed session has the id of the bundle and stays in its group. -/
theorem completeByPreKeyBundle_named {inbound : GroupSession β} {bundle : GroupPreKeyBundle β}
    (madeHere : completeInboundGroupSessionByPreKeyBundle getE2eesPack inbound bundle =
      some made) :
    made.sessionId = bundle.sessionId ∧ made.groupInfo = inbound.groupInfo := by
  obtain ⟨-, cipherSuite, -, rfl⟩ := completeByPreKeyBundle_some madeHere
  exact ⟨rfl, rfl⟩

theorem newOutboundByReceiver_named {store : Store β} {groupSeed : Bytes β} {e2eesPackId : UInt32}
    {userAddress groupAddress : E2eeAddress} {groupName sessionId : String}
    {groupMemberList : List GroupMember}
    (madeHere : newOutboundGroupSessionByReceiver getE2eesPack store groupSeed e2eesPackId
      userAddress groupName groupAddress sessionId groupMemberList = some made) :
    made.sessionId = sessionId ∧ made.groupInfo.groupAddress = groupAddress := by
  obtain ⟨cipherSuite, identityPublicKey, -, -, rfl⟩ := newOutboundByReceiver_some madeHere
  exact ⟨rfl, rfl⟩

/-- This is the session that keeps the seed of a bundle. -/
theorem newInboundByPreKeyBundle_some {e2eesPackId : UInt32} {userAddress : E2eeAddress}
    {bundle : GroupPreKeyBundle β}
    (madeHere : newInboundGroupSessionByPreKeyBundle getE2eesPack e2eesPackId userAddress bundle =
      some made) :
    made.sessionId = bundle.sessionId ∧ made.sender = bundle.sender ∧
      made.sessionOwner = userAddress ∧ made.groupInfo = bundle.groupInfo ∧
      made.groupSeed = bundle.groupSeed ∧ made.chainKey = [] := by
  unfold newInboundGroupSessionByPreKeyBundle at madeHere
  split at madeHere
  · obtain rfl := Option.some.inj madeHere
    exact ⟨rfl, rfl, rfl, rfl, rfl, rfl⟩
  · cases madeHere

/-- This is the session of a listed device before it has a key. -/
theorem newInboundByMemberId_some {e2eesPackId : UInt32} {userAddress : E2eeAddress}
    {info : GroupMemberInfo β} {groupInfo : GroupInfo}
    (madeHere : newInboundGroupSessionByMemberId getE2eesPack e2eesPackId userAddress info
      groupInfo = some made) :
    made.sessionId = "" ∧ made.sender = info.memberAddress ∧ made.sessionOwner = userAddress ∧
      made.groupInfo = groupInfo ∧ made.groupSeed = [] ∧ made.chainKey = [] := by
  unfold newInboundGroupSessionByMemberId at madeHere
  split at madeHere
  · obtain ⟨cipherSuite, -, rfl⟩ := Option.map_eq_some_iff.mp madeHere
    exact ⟨rfl, rfl, rfl, rfl, rfl, rfl⟩
  · cases madeHere

end Made

namespace GroupKey

theorem uncovered_of_sender {new old : GroupKey} (different : new.sender ≠ old.sender) :
    groupSupersession.covers new old = false := by
  simp [groupSupersession, different.symm]

/-- A session with an identifier is only replaced under its own key. -/
theorem uncovered_of_ne {new old : GroupKey} (named : old.sessionId ≠ "") (different : new ≠ old) :
    groupSupersession.covers new old = false := by
  cases new with
  | mk newId newSender newOwner newGroup =>
      cases old with
      | mk oldId oldSender oldOwner oldGroup =>
          simp only [ne_eq, GroupKey.mk.injEq] at different named
          simp only [groupSupersession, named, or_false, decide_eq_false_iff_not]
          rintro ⟨rfl, rfl, rfl, rfl⟩
          exact different ⟨rfl, rfl, rfl, rfl⟩

end GroupKey

namespace GroupStore

variable (groups : GroupStore β)

theorem lookup_storeGroupSession (session : GroupSession β) :
    (groups.storeGroupSession session).lookup session.key = some session :=
  groups.lookup_insert session

theorem lookup_storeGroupSession_other {session : GroupSession β} {wanted : GroupKey}
    (uncovered : groupSupersession.covers session.key wanted = false) :
    (groups.storeGroupSession session).lookup wanted = groups.lookup wanted :=
  groups.lookup_insert_other uncovered

theorem lookup_storeResult_other {result : Option (GroupSession β)} {wanted : GroupKey}
    (uncovered : ∀ session, result = some session →
      groupSupersession.covers session.key wanted = false) :
    (groups.storeResult result).lookup wanted = groups.lookup wanted := by
  cases result with
  | none => rfl
  | some session => exact lookup_storeGroupSession_other groups (uncovered session rfl)

/-- A session with an identifier is only replaced by a newer one. -/
theorem lookup_storeResult_isSome {wanted : GroupKey} (named : wanted.sessionId ≠ "")
    (present : (groups.lookup wanted).isSome = true) (result : Option (GroupSession β)) :
    ((groups.storeResult result).lookup wanted).isSome = true := by
  cases result with
  | none => exact present
  | some session =>
      by_cases same : session.key = wanted
      · rw [← same, storeResult, lookup_storeGroupSession]
        rfl
      · rw [storeResult, lookup_storeGroupSession_other _ (GroupKey.uncovered_of_ne named same)]
        exact present

theorem mem_storeResult {result : Option (GroupSession β)} {session : GroupSession β}
    (member : session ∈ (groups.storeResult result).entries) :
    session ∈ groups.entries ∨ result = some session := by
  cases result with
  | none => exact .inl member
  | some stored =>
      obtain ⟨old, -⟩ | rfl := KeyedTable.mem_insert.mp member
      · exact .inl old
      · exact .inr rfl

section Loops

variable {Step : Type} {skip : Step → Prop} [DecidablePred skip]
  {make : Step → Option (GroupSession β)} {steps : List Step}

/-- A turn that is skipped stores nothing. -/
theorem lookup_turn_other {step : Step} {wanted : GroupKey}
    (uncovered : ∀ stored, ¬skip step → make step = some stored →
      groupSupersession.covers stored.key wanted = false) :
    (if skip step then groups else groups.storeResult (make step)).lookup wanted =
      groups.lookup wanted := by
  split
  · rfl
  next kept => exact lookup_storeResult_other groups fun stored made => uncovered stored kept made

/-- The session of a turn stays when the other turns do not cover it. -/
theorem lookup_loop {writer : Step} {session : GroupSession β} {wanted : GroupKey}
    (member : writer ∈ steps) (kept : ¬skip writer) (made : make writer = some session)
    (found : session.key = wanted)
    (uncovered : ∀ other ∈ steps, other ≠ writer → ∀ stored, ¬skip other →
      make other = some stored → groupSupersession.covers stored.key wanted = false) :
    (steps.foldl (fun groups step => if skip step then groups else
      groups.storeResult (make step)) groups).lookup wanted = some session := by
  refine KeyedTable.lookup_foldl ?_ ?_ member groups
  · intro table
    rw [if_neg kept, made, ← found]
    exact lookup_storeGroupSession table session
  · intro other present different table
    exact lookup_turn_other table (uncovered other present different)

theorem lookup_loop_other {wanted : GroupKey}
    (uncovered : ∀ other ∈ steps, ∀ stored, ¬skip other → make other = some stored →
      groupSupersession.covers stored.key wanted = false) :
    (steps.foldl (fun groups step => if skip step then groups else
      groups.storeResult (make step)) groups).lookup wanted = groups.lookup wanted :=
  KeyedTable.lookup_foldl_other
    (fun other present table => lookup_turn_other table (uncovered other present)) groups

/-- A loop adds no session that was not made in a turn. -/
theorem mem_loop {session : GroupSession β}
    (member : session ∈ (steps.foldl (fun groups step => if skip step then groups else
      groups.storeResult (make step)) groups).entries) :
    session ∈ groups.entries ∨ ∃ step ∈ steps, ¬skip step ∧ make step = some session := by
  induction steps generalizing groups with
  | nil => exact .inl member
  | cons first rest ih =>
      obtain earlier | ⟨step, present, kept, made⟩ := ih _ member
      · dsimp only at earlier
        split at earlier
        · exact .inl earlier
        next kept =>
          obtain old | made := mem_storeResult groups earlier
          · exact .inl old
          · exact .inr ⟨first, List.mem_cons_self, kept, made⟩
      · exact .inr ⟨step, List.mem_cons_of_mem _ present, kept, made⟩

/-- The same holds for a loop that skips nothing. -/
theorem mem_foldl_storeResult {session : GroupSession β}
    (member : session ∈ (steps.foldl (fun groups step =>
      groups.storeResult (make step)) groups).entries) :
    session ∈ groups.entries ∨ ∃ step ∈ steps, make step = some session := by
  have unskipped : session ∈ (steps.foldl (fun groups step => if False then groups else
      groups.storeResult (make step)) groups).entries := by
    simpa using member
  obtain old | ⟨step, present, -, made⟩ := mem_loop groups unskipped
  · exact .inl old
  · exact .inr ⟨step, present, made⟩

end Loops

/-- The loaded sessions are the stored ones of the owner and the group. -/
theorem mem_loadGroupSessions {sessionOwner groupAddress : E2eeAddress}
    {session : GroupSession β} :
    session ∈ groups.loadGroupSessions sessionOwner groupAddress ↔
      session ∈ groups.entries ∧ session.sessionOwner = sessionOwner ∧
        session.groupInfo.groupAddress = groupAddress := by
  simp [loadGroupSessions]

/-- A session that is found by its key is among the loaded ones. -/
theorem mem_loadGroupSessions_of_lookup {wanted : GroupKey} {session : GroupSession β}
    (found : groups.lookup wanted = some session) :
    session ∈ groups.loadGroupSessions wanted.sessionOwner wanted.groupAddress := by
  have key := KeyedTable.lookup_key found
  exact (mem_loadGroupSessions groups).mpr ⟨KeyedTable.lookup_mem found,
    congrArg GroupKey.sessionOwner key, congrArg GroupKey.groupAddress key⟩

/-- A group without loaded sessions has no session under any key. -/
theorem lookup_none_of_fresh {sessionOwner groupAddress : E2eeAddress} {wanted : GroupKey}
    (fresh : groups.loadGroupSessions sessionOwner groupAddress = [])
    (owner : wanted.sessionOwner = sessionOwner) (group : wanted.groupAddress = groupAddress) :
    groups.lookup wanted = none := by
  rw [Option.eq_none_iff_forall_ne_some]
  intro session found
  have loaded := groups.mem_loadGroupSessions_of_lookup found
  rw [owner, group, fresh] at loaded
  cases loaded

theorem loadGroupSessionByAddress_none {sender sessionOwner groupAddress : E2eeAddress}
    (fresh : groups.loadGroupSessions sessionOwner groupAddress = []) :
    groups.loadGroupSessionByAddress sender sessionOwner groupAddress = none := by
  rw [loadGroupSessionByAddress, List.find?_eq_none]
  intro session member found
  have loaded : session ∈ groups.loadGroupSessions sessionOwner groupAddress := by
    rw [mem_loadGroupSessions]
    exact ⟨member, (of_decide_eq_true found).2⟩
  rw [fresh] at loaded
  cases loaded

/-- A search by address only finds what it looks for. -/
theorem loadGroupSessionByAddress_some {sender sessionOwner groupAddress : E2eeAddress}
    {session : GroupSession β}
    (found : groups.loadGroupSessionByAddress sender sessionOwner groupAddress = some session) :
    session ∈ groups.loadGroupSessions sessionOwner groupAddress ∧ session.sender = sender := by
  unfold loadGroupSessionByAddress at found
  have facts := List.find?_some found
  rw [decide_eq_true_eq] at facts
  exact ⟨groups.mem_loadGroupSessions.mpr ⟨List.mem_of_find?_eq_some found, facts.2⟩, facts.1⟩

/-- A search by identifier only finds what it looks for. -/
theorem loadGroupSessionById_some {sender sessionOwner : E2eeAddress} {sessionId : String}
    {session : GroupSession β}
    (found : groups.loadGroupSessionById sender sessionOwner sessionId = some session) :
    session ∈ groups.entries ∧ session.sender = sender ∧ session.sessionOwner = sessionOwner ∧
      session.sessionId = sessionId := by
  unfold loadGroupSessionById at found
  have facts := List.find?_some found
  rw [decide_eq_true_eq] at facts
  exact ⟨List.mem_of_find?_eq_some found, facts⟩

/-- A search by address finds a stored session when the group had none before. -/
theorem loadGroupSessionByAddress_store (session : GroupSession β)
    (fresh : groups.loadGroupSessions session.sessionOwner session.groupInfo.groupAddress = []) :
    (groups.storeGroupSession session).loadGroupSessionByAddress session.sender
      session.sessionOwner session.groupInfo.groupAddress = some session := by
  have missing : groups.entries.find? (fun old => decide (old.sender = session.sender ∧
      old.sessionOwner = session.sessionOwner ∧
        old.groupInfo.groupAddress = session.groupInfo.groupAddress)) = none :=
    loadGroupSessionByAddress_none groups fresh
  rw [List.find?_eq_none] at missing
  rw [loadGroupSessionByAddress, storeGroupSession, KeyedTable.insert, List.find?_append,
    List.find?_eq_none.mpr]
  · simp
  · intro old member
    exact missing old (List.mem_of_mem_filter member)

/-- A search that only one session passes finds it. -/
theorem find_only {passes : GroupSession β → Bool} {session : GroupSession β}
    (member : session ∈ groups.entries) (passed : passes session = true)
    (only : ∀ other ∈ groups.entries, passes other = true → other = session) :
    groups.entries.find? passes = some session := by
  obtain ⟨found, search⟩ : ∃ found, groups.entries.find? passes = some found := by
    rw [← Option.isSome_iff_exists, List.find?_isSome]
    exact ⟨session, member, passed⟩
  rw [search, only found (List.mem_of_find?_eq_some search) (List.find?_some search)]

/-- A search that only one session passes finds the next version of it. -/
theorem find_storeGroupSession (passes : GroupSession β → Bool) {session next : GroupSession β}
    (only : ∀ other ∈ groups.entries, passes other = true → other = session)
    (sameKey : next.key = session.key) (nextPasses : passes next = true) :
    (groups.storeGroupSession next).entries.find? passes = some next ∧
      ∀ other ∈ (groups.storeGroupSession next).entries, passes other = true → other = next := by
  have onlyNext : ∀ other ∈ (groups.storeGroupSession next).entries,
      passes other = true → other = next := by
    intro other member passed
    obtain ⟨present, uncovered⟩ | same := KeyedTable.mem_insert.mp member
    · rw [only other present passed, sameKey, groupSupersession.refl] at uncovered
      cases uncovered
    · exact same
  exact ⟨find_only _ (KeyedTable.mem_insert.mpr (.inr rfl)) nextPasses onlyNext, onlyNext⟩

/-- A search by address finds the session of the group when its identifier is the only one. -/
theorem loadGroupSessionByAddress_of_lookup {wanted : GroupKey} {session : GroupSession β}
    (found : groups.lookup wanted = some session)
    (only : ∀ other ∈ groups.entries, other.sender = wanted.sender →
      other.sessionOwner = wanted.sessionOwner →
      other.groupInfo.groupAddress = wanted.groupAddress → other.sessionId = wanted.sessionId) :
    groups.loadGroupSessionByAddress wanted.sender wanted.sessionOwner wanted.groupAddress =
      some session := by
  have key := KeyedTable.lookup_key found
  refine groups.find_only (KeyedTable.lookup_mem found) ?_ ?_
  · rw [decide_eq_true_eq, ← key]
    exact ⟨rfl, rfl, rfl⟩
  · intro other member passed
    obtain ⟨sender, owner, group⟩ := of_decide_eq_true passed
    have otherKey : other.key = wanted := by
      rw [GroupSession.key, sender, owner, group, only other member sender owner group]
    have otherFound := groups.lookup_of_mem member
    rw [otherKey, found, Option.some.injEq] at otherFound
    exact otherFound.symm

/-- A search by identifier finds the session when no other group has the identifier. -/
theorem loadGroupSessionById_of_lookup {wanted : GroupKey} {session : GroupSession β}
    (found : groups.lookup wanted = some session)
    (only : ∀ other ∈ groups.entries, other.sender = wanted.sender →
      other.sessionOwner = wanted.sessionOwner → other.sessionId = wanted.sessionId →
      other.groupInfo.groupAddress = wanted.groupAddress) :
    groups.loadGroupSessionById wanted.sender wanted.sessionOwner wanted.sessionId =
      some session := by
  have key := KeyedTable.lookup_key found
  refine groups.find_only (KeyedTable.lookup_mem found) ?_ ?_
  · rw [decide_eq_true_eq, ← key]
    exact ⟨rfl, rfl, rfl⟩
  · intro other member passed
    obtain ⟨sender, owner, sessionId⟩ := of_decide_eq_true passed
    have otherKey : other.key = wanted := by
      rw [GroupSession.key, sender, owner, sessionId, only other member sender owner sessionId]
    have otherFound := groups.lookup_of_mem member
    rw [otherKey, found, Option.some.injEq] at otherFound
    exact otherFound.symm

end GroupStore

/-- Every session after a bundle was there before, or the bundle has made it. -/
theorem mem_consumeGroupPreKeyBundle {getE2eesPack : Packs β} {device : Device β}
    {receiver : E2eeAddress} {bundle : GroupPreKeyBundle β} {session : GroupSession β}
    (present : session ∈ (consumeGroupPreKeyBundle getE2eesPack device receiver bundle).entries) :
    session ∈ device.groups.entries ∨
      newInboundGroupSessionByPreKeyBundle getE2eesPack bundle.e2eesPackId receiver bundle =
        some session ∨
      (∃ other ∈ device.groups.loadGroupSessions receiver bundle.groupInfo.groupAddress,
        other.sender ≠ receiver ∧
        completeInboundGroupSessionByPreKeyBundle getE2eesPack other bundle = some session) ∨
      newOutboundGroupSessionByReceiver getE2eesPack device.store bundle.groupSeed
        bundle.e2eesPackId receiver bundle.groupInfo.groupName bundle.groupInfo.groupAddress
        bundle.sessionId bundle.groupInfo.groupMemberList = some session := by
  have before : ∀ other ∈ (if bundle.oldSessionId ≠ "" then
      device.groups.unloadGroupSessionById receiver bundle.oldSessionId else
        device.groups).entries, other ∈ device.groups.entries := by
    intro other otherPresent
    split at otherPresent
    · exact List.mem_of_mem_filter otherPresent
    · exact otherPresent
  unfold consumeGroupPreKeyBundle at present
  dsimp only at present
  generalize (if bundle.oldSessionId ≠ "" then
    device.groups.unloadGroupSessionById receiver bundle.oldSessionId else device.groups) = current
    at before present
  split at present
  · obtain old | made := GroupStore.mem_storeResult _ present
    · exact .inl (before session old)
    · exact .inr (.inl made)
  · obtain earlier | made := GroupStore.mem_storeResult _ present
    · obtain old | ⟨other, loaded, inbound, made⟩ := GroupStore.mem_loop _ earlier
      · exact .inl (before session old)
      · obtain ⟨otherPresent, facts⟩ := (GroupStore.mem_loadGroupSessions _).mp loaded
        exact .inr (.inr (.inl ⟨other, (GroupStore.mem_loadGroupSessions _).mpr
          ⟨before other otherPresent, facts⟩, inbound, made⟩))
    · exact .inr (.inr (.inr made))

end E2eeSecurity
