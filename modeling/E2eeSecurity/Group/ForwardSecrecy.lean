/-
This file shows when the group sessions that a member stores lead to none of the message keys that
the member has used.
-/
import E2eeSecurity.Group.Secrets
import E2eeSecurity.Group.Sending

namespace E2eeSecurity

variable {β : Type}

/-- This is a group that a member creates, with the devices that the server has found. -/
structure GroupCreateCall (β : Type) where
  memberInfoList : List (GroupMemberInfo β)
  e2eesPackId : UInt32
  groupInfo : GroupInfo
  sessionId : String
  groupSeed : Bytes β

/-- These are the things that a member does in its groups, and what it gets from others. -/
inductive GroupOperation (β : Type)
  | create (call : GroupCreateCall β)
  | createMsg (msg : CreateGroupMsg β)
  | preKeyBundle (bundle : GroupPreKeyBundle β)
  | updateKeyBundle (bundle : GroupUpdateKeyBundle β)
  | add (groupAddress : E2eeAddress) (call : GroupAddCall β)
  | addMsg (msg : GroupAddMsg β)
  | send (groupAddress : E2eeAddress) (call : GroupSendCall β)
  | receive (msg : E2eeMsg β)

/-- This is what a member stores, and the sessions as they were when their keys were used. -/
structure GroupKeyUse (β : Type) where
  groups : GroupStore β
  used : List (GroupSession β)

section Machine

variable (getE2eesPack : Packs β) (store : Store β) (address : E2eeAddress)

/-- The chain key of this session opens the message. -/
def inboundInUse (groups : GroupStore β) (msg : E2eeMsg β) : Option (GroupSession β) :=
  (loadInboundGroupSession getE2eesPack groups msg.fromAddress address msg.sessionId).bind
    fun inbound => (getE2eesPack inbound.e2eesPackId).map fun cipherSuite =>
      inbound.catchUp cipherSuite msg.groupMsg.sequence

/-- These are the request that reaches the server and the sessions after its answer. -/
def GroupSendCall.outcome (groups : GroupStore β) (groupAddress : E2eeAddress)
    (call : GroupSendCall β) : Option (SendGroupMsgRequest β) × GroupStore β :=
  sendGroupMsgWithFilter getE2eesPack ⟨store, groups⟩
    ⟨address, groupAddress, call.allowList, call.denyList⟩ call.plaintext call.draw call.response

def GroupKeyUse.step (state : GroupKeyUse β) : GroupOperation β → GroupKeyUse β
  | .create call =>
      let created := newOutboundGroupSessionBySender getE2eesPack ⟨store, state.groups⟩
        call.memberInfoList call.e2eesPackId address call.groupInfo.groupName
        call.groupInfo.groupAddress call.groupInfo.groupMemberList "" call.sessionId call.groupSeed
      { state with groups := (created.map Prod.fst).getD state.groups }
  | .createMsg msg =>
      { state with groups :=
          consumeCreateGroupMsg getE2eesPack ⟨store, state.groups⟩ address msg }
  | .preKeyBundle bundle =>
      { state with groups :=
          consumeGroupPreKeyBundle getE2eesPack ⟨store, state.groups⟩ address bundle }
  | .updateKeyBundle bundle =>
      { state with groups :=
          consumeGroupUpdateKeyBundle getE2eesPack ⟨store, state.groups⟩ address bundle }
  | .add groupAddress call =>
      let added := call.request getE2eesPack ⟨store, state.groups⟩ address groupAddress
      { state with groups := (added.map fun outcome => outcome.2.1).getD state.groups }
  | .addMsg msg =>
      { state with groups := (msg.consume getE2eesPack ⟨store, state.groups⟩ address).1 }
  | .send groupAddress call =>
      let outcome := call.outcome getE2eesPack store address state.groups groupAddress
      { groups := outcome.2
        used := state.used ++ (outcome.1.bind fun _ =>
          loadOutboundGroupSession getE2eesPack state.groups address groupAddress).toList }
  | .receive msg =>
      let outcome := consumeGroupMsg getE2eesPack state.groups address msg
      { groups := outcome.1
        used := state.used ++ (outcome.2.bind fun _ =>
          inboundInUse getE2eesPack address state.groups msg).toList }

/-- No stored secret beside the chain key of the session itself leads to this chain key. -/
structure Unreached (groups : GroupStore β) (session : GroupSession β) : Prop where
  others : ∀ other ∈ groups.entries, other.key ≠ session.key → ∀ secret, other.Holds secret →
    ¬Relation.ReflTransGen (GroupSecret.Gives getE2eesPack) secret (.chain session.chainKey)
  groupSeed : session.groupSeed ≠ [] → ¬Relation.ReflTransGen (GroupSecret.Gives getE2eesPack)
    (.seed session.groupSeed) (.chain session.chainKey)

/-- These are the chain keys that have been used. -/
def usedKeys (used : List (GroupSession β)) : Set (GroupSecret β) :=
  {secret | ∃ session ∈ used, secret = .chain session.chainKey}

/-- The keys from outside lead to no used key, and a used key is led to by no other stored key. -/
def GroupOperation.Guarded (state : GroupKeyUse β) : GroupOperation β → Prop
  | .create call =>
      Lineage.Shut (GroupSecret.Gives getE2eesPack) {.seed call.groupSeed} (usedKeys state.used)
  | .createMsg _ => True
  | .preKeyBundle bundle =>
      Lineage.Shut (GroupSecret.Gives getE2eesPack) {.seed bundle.groupSeed} (usedKeys state.used)
  | .updateKeyBundle bundle => IsFullKey getE2eesPack bundle.chainKey ∧
      ∀ chainKey, bundle.keptKey getE2eesPack ⟨store, state.groups⟩ address = some chainKey →
      Lineage.Shut (GroupSecret.Gives getE2eesPack) {.chain chainKey} (usedKeys state.used)
  | .add _ _ => True
  | .addMsg _ => True
  | .send groupAddress call => call.acknowledged = true ∧
      ((call.outcome getE2eesPack store address state.groups groupAddress).1.isSome = true →
      ∀ session, loadOutboundGroupSession getE2eesPack state.groups address groupAddress =
        some session → Unreached getE2eesPack state.groups session)
  | .receive msg => (consumeGroupMsg getE2eesPack state.groups address msg).2.isSome = true →
      ∀ session, inboundInUse getE2eesPack address state.groups msg = some session →
        Unreached getE2eesPack state.groups session

end Machine

section Runs

variable {getE2eesPack : Packs β} {store : Store β} {address : E2eeAddress}

theorem usedKeys_append (used : List (GroupSession β)) (session : GroupSession β) :
    usedKeys (used ++ [session]) = insert (.chain session.chainKey) (usedKeys used) := by
  ext secret
  simp only [usedKeys, List.mem_append, List.mem_singleton, Set.mem_ofPred_eq, Set.mem_insert_iff]
  constructor
  · rintro ⟨other, before | rfl, same⟩
    · exact .inr ⟨other, before, same⟩
    · exact .inl same
  · rintro (same | ⟨other, before, same⟩)
    · exact ⟨session, .inr rfl, same⟩
    · exact ⟨other, .inl before, same⟩

variable (getE2eesPack) in
/-- The stored chain keys are whole, and no stored secret leads to a used chain key. -/
structure GroupKeyUse.Forward (state : GroupKeyUse β) : Prop where
  full : ∀ session ∈ state.groups.entries, session.chainKey ≠ [] →
    IsFullKey getE2eesPack session.chainKey
  shut : Lineage.Shut (GroupSecret.Gives getE2eesPack) state.groups.secrets (usedKeys state.used)

namespace GroupKeyUse.Forward

variable {state : GroupKeyUse β} (forward : state.Forward getE2eesPack)

include forward

/-- New sessions may hold what follows from stored secrets and from harmless ones. -/
theorem learn {brought : Set (GroupSecret β)} {groups : GroupStore β}
    (harmless : Lineage.Shut (GroupSecret.Gives getE2eesPack) brought (usedKeys state.used))
    (comes : groups.Comes getE2eesPack (state.groups.secrets ∪ brought)) :
    (GroupKeyUse.mk groups state.used).Forward getE2eesPack where
  full session present nonempty := ((comes session present).chainKey nonempty).full
  shut := (forward.shut.union harmless).traced fun _ held => comes.traced held

theorem keep {groups : GroupStore β} (comes : groups.Comes getE2eesPack state.groups.secrets) :
    (GroupKeyUse.mk groups state.used).Forward getE2eesPack where
  full session present nonempty := ((comes session present).chainKey nonempty).full
  shut := forward.shut.traced fun _ held => comes.traced held

theorem comes : state.groups.Comes getE2eesPack state.groups.secrets :=
  GroupStore.comes_self forward.full subset_rfl

theorem comes_more (brought : Set (GroupSecret β)) :
    state.groups.Comes getE2eesPack (state.groups.secrets ∪ brought) :=
  GroupStore.comes_self forward.full Set.subset_union_left

/-- A chain that moves on after a use leaves the used key behind. -/
theorem use (free : FreeGroupSchedule getE2eesPack) {session : GroupSession β}
    {cipherSuite : CipherSuite β} (present : session ∈ state.groups.entries)
    (valid : isValidGroupSession getE2eesPack session = true)
    (pack : getE2eesPack session.e2eesPackId = some cipherSuite) (count : Nat)
    (unreached : Unreached getE2eesPack state.groups
      ((GroupSession.advance cipherSuite)^[count] session)) :
    (GroupKeyUse.mk (state.groups.storeGroupSession
        ((GroupSession.advance cipherSuite)^[count + 1] session))
      (state.used ++ [(GroupSession.advance cipherSuite)^[count] session])).Forward
      getE2eesPack := by
  have sessionComes := forward.comes session present
  have nextComes := sessionComes.advances free pack valid (count + 1)
  have kept := forward.keep (forward.comes.store nextComes)
  refine ⟨kept.full, ?_⟩
  rw [usedKeys_append]
  refine kept.shut.insert ?_
  rintro secret ⟨other, stored, holds⟩
  obtain ⟨old, uncovered⟩ | rfl := KeyedTable.mem_insert.mp stored
  · refine unreached.others other old ?_ secret holds
    intro sameKey
    rw [GroupSession.advance_iterate_key] at uncovered sameKey
    rw [sameKey, groupSupersession.refl] at uncovered
    cases uncovered
  · cases holds with
    | chain nonempty =>
        have full := forward.full session present (GroupSession.chainKey_ne valid) _ _ pack
        rw [GroupSession.advance_iterate_chainKey full, GroupSession.advance_iterate_chainKey full,
          Function.iterate_succ_apply']
        exact free.forward (.single (.advance pack _))
    | seed seeded =>
        have unseeded := unreached.groupSeed
        rw [GroupSession.advance_iterate] at seeded ⊢
        rw [GroupSession.advance_iterate] at unseeded
        rw [GroupSession.advance_iterate]
        exact unseeded seeded

theorem send (free : FreeGroupSchedule getE2eesPack) {groupAddress : E2eeAddress}
    {call : GroupSendCall β}
    (guarded : (GroupOperation.send groupAddress call).Guarded getE2eesPack store address state) :
    (state.step getE2eesPack store address (.send groupAddress call)).Forward getE2eesPack := by
  obtain ⟨acknowledged, unreached⟩ := guarded
  unfold GroupKeyUse.step
  unfold GroupSendCall.outcome at unreached ⊢
  obtain unchanged | ⟨-, outbound, cipherSuite, payload, -, -, found, valid, pack, -, outcome⟩ :=
    sendGroupMsgWithFilter_cases getE2eesPack ⟨store, state.groups⟩
      ⟨address, groupAddress, call.allowList, call.denyList⟩ call.plaintext call.draw call.response
  · simp only [unchanged, Option.bind_none, Option.toList_none, List.append_nil]
    exact forward
  · have loaded : loadOutboundGroupSession getE2eesPack state.groups address groupAddress =
        some outbound := Option.filter_eq_some_iff.mpr ⟨found, valid⟩
    have present := (loadOutboundGroupSession_some loaded).1
    have answered : isValidSendGroupMsgResponse call.response = true := acknowledged
    rw [outcome] at unreached
    simp only [outcome, if_pos answered, Option.bind_some, loaded, Option.toList_some]
    exact forward.use free present valid pack 0 (unreached rfl outbound loaded)

theorem receive (free : FreeGroupSchedule getE2eesPack) {msg : E2eeMsg β}
    (guarded : (GroupOperation.receive msg).Guarded getE2eesPack store address state) :
    (state.step getE2eesPack store address (.receive msg)).Forward getE2eesPack := by
  have unreached : (consumeGroupMsg getE2eesPack state.groups address msg).2.isSome = true →
      ∀ session, inboundInUse getE2eesPack address state.groups msg = some session →
        Unreached getE2eesPack state.groups session := guarded
  unfold GroupKeyUse.step
  obtain unchanged | ⟨inbound, cipherSuite, plaintext, found, pack, valid, -, -, outcome⟩ :=
    consumeGroupMsg_cases getE2eesPack state.groups address msg
  · simp only [unchanged, Option.bind_none, Option.toList_none, List.append_nil]
    exact forward
  · have present := (state.groups.loadGroupSessionById_some found).1
    have inUse : inboundInUse getE2eesPack address state.groups msg =
        some (inbound.catchUp cipherSuite msg.groupMsg.sequence) := by
      rw [inboundInUse, loadInboundGroupSession, found, Option.filter_some, if_pos valid,
        Option.bind_some, pack, Option.map_some]
    rw [outcome] at unreached
    simp only [outcome, Option.bind_some, inUse, Option.toList_some]
    have apart := unreached rfl _ inUse
    unfold GroupSession.catchUp at apart ⊢
    rw [← Function.iterate_succ_apply' (GroupSession.advance cipherSuite)]
    exact forward.use free present valid pack _ apart

theorem step (free : FreeGroupSchedule getE2eesPack) {operation : GroupOperation β}
    (guarded : operation.Guarded getE2eesPack store address state) :
    (state.step getE2eesPack store address operation).Forward getE2eesPack := by
  cases operation with
  | create call =>
      refine forward.learn guarded ?_
      generalize created : newOutboundGroupSessionBySender getE2eesPack ⟨store, state.groups⟩
        call.memberInfoList call.e2eesPackId address call.groupInfo.groupName
        call.groupInfo.groupAddress call.groupInfo.groupMemberList "" call.sessionId
        call.groupSeed = result
      cases result with
      | none => exact forward.comes_more _
      | some result =>
          refine newOutboundBySender_comes free ?_ (.of_mem (.inr rfl)) created
          exact forward.comes_more _
  | createMsg msg =>
      refine forward.keep (consumeCreateGroupMsg_comes free address msg ?_)
      exact forward.comes
  | preKeyBundle bundle =>
      exact forward.learn guarded (consumeGroupPreKeyBundle_comes free ⟨store, state.groups⟩ address
        (forward.comes_more _) (.of_mem (.inr rfl)))
  | updateKeyBundle bundle =>
      obtain ⟨full, harmless⟩ := guarded
      cases kept : bundle.keptKey getE2eesPack ⟨store, state.groups⟩ address with
      | none =>
          refine forward.keep ((consumeGroupUpdateKeyBundle_grows free full ?_).comes
            forward.comes)
          intro chainKey given
          rw [kept] at given
          cases given
      | some chainKey =>
          refine forward.learn (harmless chainKey kept)
            ((consumeGroupUpdateKeyBundle_grows free full ?_).comes (forward.comes_more _))
          intro other given
          rw [kept, Option.some.injEq] at given
          exact .of_mem (.inr (congrArg GroupSecret.chain given.symm))
  | add groupAddress call =>
      refine forward.keep ?_
      cases made : call.request getE2eesPack ⟨store, state.groups⟩ address groupAddress with
      | none => exact forward.comes
      | some outcome =>
          refine GroupAddCall.request_comes free made ?_
          exact forward.comes
  | addMsg msg =>
      refine forward.keep (msg.consume_comes free address ?_)
      exact forward.comes
  | send groupAddress call => exact forward.send free guarded
  | receive msg => exact forward.receive free guarded

end GroupKeyUse.Forward

/-- In a run in which every used key is led to by no other stored key, and every key from outside
leads to no used key, the stored sessions never lead to a used message key. -/
theorem groupForwardSecrecy {groups : GroupStore β} {operations : List (GroupOperation β)}
    (free : FreeGroupSchedule getE2eesPack)
    (full : ∀ session ∈ groups.entries, session.chainKey ≠ [] →
      IsFullKey getE2eesPack session.chainKey)
    (guarded : Machine.Along (GroupKeyUse.step getE2eesPack store address)
      (fun state operation => operation.Guarded getE2eesPack store address state) ⟨groups, []⟩
      operations) :
    ∀ session ∈ (Machine.run (GroupKeyUse.step getE2eesPack store address) ⟨groups, []⟩
      operations).used, ∀ cipherSuite, getE2eesPack session.e2eesPackId = some cipherSuite →
      ¬Lineage.Traced (GroupSecret.Gives getE2eesPack)
        (Machine.run (GroupKeyUse.step getE2eesPack store address) ⟨groups, []⟩
          operations).groups.secrets
        (.message (createGroupMessageKey cipherSuite session.chainKey)) := by
  have start : (GroupKeyUse.mk groups []).Forward getE2eesPack := by
    refine ⟨full, ?_⟩
    rintro secret - old ⟨session, absent, -⟩
    cases absent
  have forward := Machine.run_invariant_along (fun _ _ forward now => forward.step free now)
    operations start guarded
  rintro session used cipherSuite pack ⟨secret, ⟨other, present, holds⟩, leads⟩
  exact forward.shut secret ⟨other, present, holds⟩ _ ⟨session, used, rfl⟩
    (free.chain_of_message pack holds.not_message leads)

end Runs

namespace Symbolic

def daveAddress : E2eeAddress := ⟨"domain", .user "dave" "device"⟩

def daveMember : GroupMember := ⟨"dave", "domain", .member⟩

/-- Alice adds Dave to the group that she has created. -/
def addDave : GroupAddCall FreeTerm :=
  .members [daveMember] ⟨.ok, [daveMember], creation.groupInfo.groupMemberList ++ [daveMember],
    [memberInfo daveAddress]⟩

def daveAdded : GroupAddMsg FreeTerm × GroupStore FreeTerm × GroupUpdateKeyBundle FreeTerm :=
  (addDave.request (fun _ => some symbolicSuite) (memberDevice aliceAddress) aliceAddress
    groupAddress).getD (additionMsg, KeyedTable.empty, groupAddition.bundle aliceAddress)

theorem addDave_succeeds : addDave.request (fun _ => some symbolicSuite)
    (memberDevice aliceAddress) aliceAddress groupAddress = some daveAdded := by
  obtain ⟨outcome, added⟩ := Option.isSome_iff_exists.mp (show (addDave.request
    (fun _ => some symbolicSuite) (memberDevice aliceAddress) aliceAddress
    groupAddress).isSome = true by decide)
  rw [daveAdded, added, Option.getD_some]

/-- This is the first chain key of Dave. -/
def daveKey : Bytes FreeTerm :=
  advanceGroupChainKeyByWelcome symbolicSuite (memberSession aliceAddress aliceAddress).chainKey

/-- Then Alice sends a message. -/
def aliceRequest : Option (SendGroupMsgRequest FreeTerm) :=
  (sendGroupMsg (fun _ => some symbolicSuite) ⟨(memberDevice aliceAddress).store, daveAdded.2.1⟩
    aliceAddress groupAddress [.byte 1] ⟨[], []⟩ (some ⟨.ok⟩)).1

def aliceMsg : E2eeMsg FreeTerm :=
  (aliceRequest.map SendGroupMsgRequest.msg).getD
    (groupMsg (memberSession aliceAddress aliceAddress) [])

/-- Bob joins the group of Alice. -/
def joinOperations : List (GroupOperation FreeTerm) :=
  [.createMsg creation.msg, .preKeyBundle creationBundle]

def bobUse (operations : List (GroupOperation FreeTerm)) : GroupKeyUse FreeTerm :=
  Machine.run (GroupKeyUse.step (fun _ => some symbolicSuite) (memberDevice bobAddress).store
    bobAddress) ⟨KeyedTable.empty, []⟩ operations

end Symbolic

/-- Bob handles the message that adds Dave, and then delivers a message of Alice.
The chain of Dave that Bob stores leads to the key of this message. -/
theorem idleChain_leads :
    Symbolic.addDave.request (fun _ => some symbolicSuite)
        (Symbolic.memberDevice Symbolic.aliceAddress) Symbolic.aliceAddress
        Symbolic.groupAddress = some Symbolic.daveAdded ∧
      Symbolic.aliceRequest.map SendGroupMsgRequest.msg = some Symbolic.aliceMsg ∧
      ∃ session ∈ (Symbolic.bobUse (Symbolic.joinOperations ++
          [.addMsg Symbolic.daveAdded.1, .receive Symbolic.aliceMsg])).used,
        Lineage.Traced (GroupSecret.Gives fun _ => some symbolicSuite)
          (Symbolic.bobUse (Symbolic.joinOperations ++
            [.addMsg Symbolic.daveAdded.1, .receive Symbolic.aliceMsg])).groups.secrets
          (.message (createGroupMessageKey symbolicSuite session.chainKey)) := by
  have used : (Symbolic.bobUse (Symbolic.joinOperations ++ [.addMsg Symbolic.daveAdded.1,
      .receive Symbolic.aliceMsg])).used.map GroupSession.chainKey =
      [symbolicSuite.added Symbolic.daveKey] := by
    decide
  have stored : Symbolic.daveKey ∈ (Symbolic.bobUse (Symbolic.joinOperations ++
      [.addMsg Symbolic.daveAdded.1, .receive Symbolic.aliceMsg])).groups.entries.map
        GroupSession.chainKey := by
    decide
  obtain ⟨session, present, sessionKey⟩ := List.mem_map.mp (used ▸ List.mem_singleton_self _)
  obtain ⟨idle, idlePresent, idleKey⟩ := List.mem_map.mp stored
  refine ⟨Symbolic.addDave_succeeds, by decide, session, present, .chain idle.chainKey,
    ⟨idle, idlePresent, .chain ?_⟩, ?_⟩
  · rw [idleKey]
    decide
  · rw [idleKey, sessionKey]
    exact (Relation.ReflTransGen.single (@GroupSecret.Gives.add _ _ 0 _ rfl _)).tail
      (@GroupSecret.Gives.messageKey _ _ 0 _ rfl _)

namespace Symbolic

/-- The first chain key of a sender follows from no other chain key. -/
theorem chain_root {chainKey groupSeed signPublicKey : Bytes FreeTerm}
    (leads : Relation.ReflTransGen (GroupSecret.Gives fun _ => some symbolicSuite)
      (.chain chainKey) (.chain (symbolicSuite.groupChainKey groupSeed signPublicKey))) :
    chainKey = symbolicSuite.groupChainKey groupSeed signPublicKey := by
  obtain same | ⟨before, path, last⟩ := Relation.ReflTransGen.cases_tail leads
  · exact (GroupSecret.chain.inj same).symm
  · generalize target : GroupSecret.chain (symbolicSuite.groupChainKey groupSeed signPublicKey) =
      secret at last
    cases last with
    | first pack seed key =>
        obtain same | ⟨before, -, last⟩ := Relation.ReflTransGen.cases_tail path
        · cases same
        · cases last
    | messageKey pack key => cases target
    | advance pack key =>
        obtain rfl := Option.some.inj pack
        simp [CipherSuite.groupChainKey, CipherSuite.advance, symbolicSuite, hfSuite] at target
    | welcome pack key =>
        obtain rfl := Option.some.inj pack
        simp [CipherSuite.groupChainKey, advanceGroupChainKeyByWelcome, symbolicSuite, hfSuite,
          CipherSuite.text] at target
    | add pack key =>
        obtain rfl := Option.some.inj pack
        simp [CipherSuite.groupChainKey, CipherSuite.added, symbolicSuite, hfSuite,
          CipherSuite.text] at target

theorem root_unreached {groups : GroupStore FreeTerm} {session : GroupSession FreeTerm}
    {groupSeed signPublicKey : Bytes FreeTerm}
    (root : session.chainKey = symbolicSuite.groupChainKey groupSeed signPublicKey)
    (unseeded : session.groupSeed = []) (noSeeds : ∀ other ∈ groups.entries, other.groupSeed = [])
    (distinct : ∀ other ∈ groups.entries, other.key ≠ session.key →
      other.chainKey ≠ session.chainKey) :
    Unreached (fun _ => some symbolicSuite) groups session := by
  refine ⟨?_, fun seeded => absurd unseeded seeded⟩
  intro other present otherKey secret holds leads
  cases holds with
  | chain nonempty =>
      rw [root] at leads
      exact distinct other present otherKey ((chain_root leads).trans root.symm)
  | seed seeded => exact seeded (noSeeds other present)

/-- Bob delivers the first message of Alice and sends one himself. -/
def quietOperations : List (GroupOperation FreeTerm) :=
  joinOperations ++ [.receive (groupMsg (memberSession aliceAddress bobAddress) [.byte 1]),
    .send groupAddress ⟨[], [], [.byte 2], ⟨[], []⟩, some ⟨.ok⟩⟩]

end Symbolic

/-- Without an addition the sessions of Bob lead to neither of the two used keys. -/
theorem quietOperations_secret :
    (Symbolic.bobUse Symbolic.quietOperations).used.length = 2 ∧
      ∀ session ∈ (Symbolic.bobUse Symbolic.quietOperations).used,
        ¬Lineage.Traced (GroupSecret.Gives fun _ => some symbolicSuite)
          (Symbolic.bobUse Symbolic.quietOperations).groups.secrets
          (.message (createGroupMessageKey symbolicSuite session.chainKey)) := by
  refine ⟨by decide, fun session used => ?_⟩
  refine groupForwardSecrecy symbolicSuite_freeGroupKeys.schedule ?_ ?_ session used _ rfl
  · intro other absent
    cases absent
  · refine ⟨trivial, ?_, ?_, ⟨rfl, ?_⟩, trivial⟩
    · rintro secret - old ⟨session, absent, -⟩
      cases absent
    · rintro - session inUse
      have expected : inboundInUse (fun _ => some symbolicSuite) Symbolic.bobAddress
          (Symbolic.bobUse Symbolic.joinOperations).groups (Symbolic.groupMsg
            (Symbolic.memberSession Symbolic.aliceAddress Symbolic.bobAddress) [.byte 1]) =
          some (Symbolic.memberSession Symbolic.aliceAddress Symbolic.bobAddress) := by
        decide
      obtain rfl := Option.some.inj (expected.symm.trans inUse)
      exact Symbolic.root_unreached rfl rfl (by decide) (by decide)
    · rintro - session loaded
      have expected : loadOutboundGroupSession (fun _ => some symbolicSuite)
          (Symbolic.bobUse (Symbolic.joinOperations ++ [.receive (Symbolic.groupMsg
            (Symbolic.memberSession Symbolic.aliceAddress Symbolic.bobAddress)
            [.byte 1])])).groups Symbolic.bobAddress Symbolic.groupAddress =
          some (Symbolic.memberSession Symbolic.bobAddress Symbolic.bobAddress) := by
        decide
      obtain rfl := Option.some.inj (expected.symm.trans loaded)
      exact Symbolic.root_unreached rfl rfl (by decide) (by decide)

end E2eeSecurity
