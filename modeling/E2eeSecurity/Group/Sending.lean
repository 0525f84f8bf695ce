/-
This file shows when a sender of group messages uses a message key for two plaintexts.
-/
import E2eeSecurity.Group.Delivery

namespace E2eeSecurity

variable {β : Type} {getE2eesPack : Packs β}

section Outcome

/-- A call either hands a request to the server, or it changes nothing. -/
theorem sendGroupMsgWithFilter_cases (getE2eesPack : Packs β) (device : Device β)
    (params : SendGroupMsgParams) (plaintext : Bytes β) (draw : SignatureDraw β)
    (response : Option SendGroupMsgResponse) :
    sendGroupMsgWithFilter getE2eesPack device params plaintext draw response =
      (none, device.groups) ∨
    ∃ account outbound cipherSuite payload,
      isValidSendGroupMsgInputs params = true ∧
      device.store.account params.senderAddress = some account ∧
      device.groups.loadGroupSessionByAddress params.senderAddress params.senderAddress
        params.groupAddress = some outbound ∧
      isValidGroupSession getE2eesPack outbound = true ∧
      getE2eesPack outbound.e2eesPackId = some cipherSuite ∧
      encryptGroupMsg cipherSuite plaintext outbound.chainKey outbound.associatedData
        outbound.sequence (Account.identityKey account) draw = some payload ∧
      sendGroupMsgWithFilter getE2eesPack device params plaintext draw response =
        (some (produceSendGroupMsgRequest params outbound payload),
          if isValidSendGroupMsgResponse response = true then
            device.groups.storeGroupSession (outbound.advance cipherSuite)
          else device.groups) := by
  unfold sendGroupMsgWithFilter
  split
  next inputs =>
    rw [Bool.and_eq_true] at inputs
    split
    next account outbound ownAccount loaded =>
      obtain ⟨found, valid⟩ := Option.filter_eq_some_iff.mp loaded
      have stored := (Option.filter_eq_some_iff.mp ownAccount).1
      split
      next payload made =>
        obtain ⟨cipherSuite, pack, encrypted⟩ := Option.bind_eq_some_iff.mp made
        refine .inr ⟨account, outbound, cipherSuite, payload, inputs.1, stored, found, valid, pack,
          encrypted, ?_⟩
        simp only [consumeSendGroupMsgResponse, valid, Bool.true_and, pack]
      · exact .inl rfl
    · exact .inl rfl
  · exact .inl rfl

end Outcome

section Run

/-- This is one call of the sender with the answer of the server. -/
structure GroupSendCall (β : Type) where
  allowList : List E2eeAddress
  denyList : List E2eeAddress
  plaintext : Bytes β
  draw : SignatureDraw β
  response : Option SendGroupMsgResponse

def GroupSendCall.acknowledged (call : GroupSendCall β) : Bool :=
  isValidSendGroupMsgResponse call.response

/-- These are the stored sessions of the sender and the requests that reached the server. -/
structure GroupOutbox (β : Type) where
  groups : GroupStore β
  handed : List (SendGroupMsgRequest β × GroupSendCall β)

def GroupOutbox.send (getE2eesPack : Packs β) (store : Store β)
    (senderAddress groupAddress : E2eeAddress) (outbox : GroupOutbox β) (call : GroupSendCall β) :
    GroupOutbox β :=
  let outcome := sendGroupMsgWithFilter getE2eesPack ⟨store, outbox.groups⟩
    ⟨senderAddress, groupAddress, call.allowList, call.denyList⟩ call.plaintext call.draw
    call.response
  ⟨outcome.2, outbox.handed ++ (outcome.1.map fun request => (request, call)).toList⟩

/-- The sender has one outbound session of the group. -/
structure OutboundStart (getE2eesPack : Packs β) (cipherSuite : CipherSuite β)
    (session : GroupSession β) (groups : GroupStore β) : Prop where
  pack : getE2eesPack session.e2eesPackId = some cipherSuite
  full : cipherSuite.FullKey session.chainKey
  stored : session ∈ groups.entries
  own : session.sender = session.sessionOwner
  only : ∀ other ∈ groups.entries, other.sender = session.sender →
    other.sessionOwner = session.sessionOwner →
      other.groupInfo.groupAddress = session.groupInfo.groupAddress → other = session

/-- Two requests are encrypted under one key, which also holds the nonce. -/
def SameMessageKey (cipherSuite : CipherSuite β)
    (first second : SendGroupMsgRequest β × GroupSendCall β) : Prop :=
  ∃ ad ad' key,
    cipherSuite.se.encrypt ad key first.2.plaintext = some first.1.msg.groupMsg.ciphertext ∧
    cipherSuite.se.encrypt ad' key second.2.plaintext = some second.1.msg.groupMsg.ciphertext

/-- No two of the requests carry different plaintexts under one key. -/
def KeysUsedOnce (cipherSuite : CipherSuite β)
    (handed : List (SendGroupMsgRequest β × GroupSendCall β)) : Prop :=
  ∀ before first between second after, handed = before ++ first :: between ++ second :: after →
    first.2.plaintext ≠ second.2.plaintext → ¬SameMessageKey cipherSuite first second

/-- Between two requests with different plaintexts the server has acknowledged one. -/
def AcknowledgedBetween (handed : List (SendGroupMsgRequest β × GroupSendCall β)) : Prop :=
  ∀ before first between second after, handed = before ++ first :: between ++ second :: after →
    first.2.plaintext ≠ second.2.plaintext →
      ∃ request ∈ first :: between, request.2.acknowledged = true

/-- This is the number of acknowledged requests. -/
def acknowledgedCount (handed : List (SendGroupMsgRequest β × GroupSendCall β)) : Nat :=
  handed.countP fun request => request.2.acknowledged

/-- Every request uses the key at the number of requests that were acknowledged before it. -/
structure GroupOutbox.At (cipherSuite : CipherSuite β) (session : GroupSession β)
    (outbox : GroupOutbox β) : Prop where
  stored : outbox.groups.loadGroupSessionByAddress session.sender session.sessionOwner
    session.groupInfo.groupAddress =
      some ((GroupSession.advance cipherSuite)^[acknowledgedCount outbox.handed] session)
  only : ∀ other ∈ outbox.groups.entries, other.sender = session.sender →
    other.sessionOwner = session.sessionOwner →
      other.groupInfo.groupAddress = session.groupInfo.groupAddress →
        other = (GroupSession.advance cipherSuite)^[acknowledgedCount outbox.handed] session
  encrypted : ∀ before request after, outbox.handed = before ++ request :: after →
    cipherSuite.se.encrypt session.associatedData
      (session.keyAt cipherSuite (acknowledgedCount before)) request.2.plaintext =
        some request.1.msg.groupMsg.ciphertext

variable {cipherSuite : CipherSuite β} {session : GroupSession β}

theorem OutboundStart.at_start {groups : GroupStore β}
    (start : OutboundStart getE2eesPack cipherSuite session groups) :
    GroupOutbox.At cipherSuite session ⟨groups, []⟩ where
  stored := by
    obtain ⟨found, search⟩ : ∃ found, groups.loadGroupSessionByAddress session.sender
        session.sessionOwner session.groupInfo.groupAddress = some found := by
      rw [← Option.isSome_iff_exists, GroupStore.loadGroupSessionByAddress, List.find?_isSome]
      exact ⟨session, start.stored, by simp⟩
    obtain ⟨loaded, sender⟩ := GroupStore.loadGroupSessionByAddress_some _ search
    obtain ⟨member, owner, group⟩ := (GroupStore.mem_loadGroupSessions _).mp loaded
    rw [search, start.only found member sender owner group]
    rfl
  only := start.only
  encrypted := by simp

theorem encryptGroupMsg_ciphertext {plaintext chainKey associatedData : Bytes β}
    {sequence : UInt32} {identityKey : IdentityKey β} {draw : SignatureDraw β}
    {payload : GroupMsgPayload β}
    (made : encryptGroupMsg cipherSuite plaintext chainKey associatedData sequence identityKey
      draw = some payload) :
    cipherSuite.se.encrypt associatedData (createGroupMessageKey cipherSuite chainKey) plaintext =
      some payload.ciphertext := by
  obtain ⟨ciphertext, encrypted, rfl⟩ := Option.map_eq_some_iff.mp made
  exact encrypted

theorem acknowledgedCount_append
    (first second : List (SendGroupMsgRequest β × GroupSendCall β)) :
    acknowledgedCount (first ++ second) = acknowledgedCount first + acknowledgedCount second :=
  List.countP_append

/-- The next request uses the key at the number of acknowledged requests. -/
theorem GroupOutbox.At.encrypted_next {outbox : GroupOutbox β}
    (place : outbox.At cipherSuite session) {next : SendGroupMsgRequest β × GroupSendCall β}
    (encrypted : cipherSuite.se.encrypt session.associatedData
      (session.keyAt cipherSuite (acknowledgedCount outbox.handed)) next.2.plaintext =
        some next.1.msg.groupMsg.ciphertext)
    {before after : List (SendGroupMsgRequest β × GroupSendCall β)}
    {request : SendGroupMsgRequest β × GroupSendCall β}
    (split : outbox.handed ++ [next] = before ++ request :: after) :
    cipherSuite.se.encrypt session.associatedData
      (session.keyAt cipherSuite (acknowledgedCount before)) request.2.plaintext =
        some request.1.msg.groupMsg.ciphertext := by
  rcases List.eq_nil_or_concat after with rfl | ⟨earlier, last, rfl⟩
  · obtain ⟨rfl, same⟩ := List.append_inj' split rfl
    obtain rfl := List.head_eq_of_cons_eq same
    exact encrypted
  · rw [List.concat_eq_append, ← List.cons_append, ← List.append_assoc] at split
    exact place.encrypted before request earlier (List.append_inj' split rfl).1

/-- A handed request moves the session when it is acknowledged. -/
theorem GroupOutbox.At.hand {outbox : GroupOutbox β} (place : outbox.At cipherSuite session)
    (next : SendGroupMsgRequest β × GroupSendCall β)
    (encrypted : cipherSuite.se.encrypt session.associatedData
      (session.keyAt cipherSuite (acknowledgedCount outbox.handed)) next.2.plaintext =
        some next.1.msg.groupMsg.ciphertext) :
    GroupOutbox.At cipherSuite session
      ⟨if next.2.acknowledged = true then outbox.groups.storeGroupSession
          ((GroupSession.advance cipherSuite)^[acknowledgedCount outbox.handed + 1] session)
        else outbox.groups, outbox.handed ++ [next]⟩ := by
  have sameKey (count other : Nat) : ((GroupSession.advance cipherSuite)^[count] session).key =
      ((GroupSession.advance cipherSuite)^[other] session).key := by
    rw [GroupSession.advance_iterate, GroupSession.advance_iterate]
    rfl
  by_cases acknowledged : next.2.acknowledged = true
  · have count : acknowledgedCount (outbox.handed ++ [next]) =
        acknowledgedCount outbox.handed + 1 := by
      simp [acknowledgedCount, acknowledged]
    obtain ⟨storedNext, onlyNext⟩ := GroupStore.find_storeGroupSession outbox.groups
      (fun other => decide (other.sender = session.sender ∧
        other.sessionOwner = session.sessionOwner ∧
          other.groupInfo.groupAddress = session.groupInfo.groupAddress))
      (fun other member passed => place.only other member (of_decide_eq_true passed).1
        (of_decide_eq_true passed).2.1 (of_decide_eq_true passed).2.2)
      (sameKey (acknowledgedCount outbox.handed + 1) _)
      (by rw [GroupSession.advance_iterate]; simp)
    rw [if_pos acknowledged]
    exact {
      stored := by
        rw [count]
        exact storedNext
      only := by
        rw [count]
        exact fun other member sender owner group =>
          onlyNext other member (decide_eq_true ⟨sender, owner, group⟩)
      encrypted := fun _ _ _ split => place.encrypted_next encrypted split }
  · have count : acknowledgedCount (outbox.handed ++ [next]) =
        acknowledgedCount outbox.handed := by
      simp [acknowledgedCount, acknowledged]
    rw [if_neg acknowledged]
    exact {
      stored := by
        rw [count]
        exact place.stored
      only := by
        rw [count]
        exact place.only
      encrypted := fun _ _ _ split => place.encrypted_next encrypted split }

/-- One call keeps the numbering of the keys. -/
theorem GroupOutbox.At.send (pack : getE2eesPack session.e2eesPackId = some cipherSuite)
    (own : session.sender = session.sessionOwner) (store : Store β) {outbox : GroupOutbox β}
    (place : outbox.At cipherSuite session) (call : GroupSendCall β) :
    (outbox.send getE2eesPack store session.sessionOwner session.groupInfo.groupAddress call).At
      cipherSuite session := by
  obtain same | ⟨account, outbound, suite, payload, -, -, found, -, outboundPack, made,
    outcome⟩ :=
    sendGroupMsgWithFilter_cases getE2eesPack ⟨store, outbox.groups⟩
      ⟨session.sessionOwner, session.groupInfo.groupAddress, call.allowList, call.denyList⟩
      call.plaintext call.draw call.response
  · rw [GroupOutbox.send, same, Option.map_none, Option.toList_none, List.append_nil]
    exact place
  · have stored := place.stored
    rw [own] at stored
    rw [stored, Option.some.injEq] at found
    subst found
    rw [GroupSession.advance_iterate, pack, Option.some.injEq] at outboundPack
    subst outboundPack
    have encrypted := encryptGroupMsg_ciphertext made
    rw [GroupSession.advance_iterate] at encrypted
    rw [← Function.iterate_succ_apply' (GroupSession.advance cipherSuite)] at outcome
    rw [GroupOutbox.send, outcome]
    exact place.hand (produceSendGroupMsgRequest _ _ payload, call) encrypted

theorem GroupOutbox.At.run (pack : getE2eesPack session.e2eesPackId = some cipherSuite)
    (own : session.sender = session.sessionOwner) (store : Store β) {outbox : GroupOutbox β}
    (place : outbox.At cipherSuite session) (calls : List (GroupSendCall β)) :
    (Machine.run (GroupOutbox.send getE2eesPack store session.sessionOwner
      session.groupInfo.groupAddress) outbox calls).At cipherSuite session :=
  Machine.run_invariant (fun _ call before => before.send pack own store call) calls place

/-- Two requests share a key when none since the first one was acknowledged. -/
theorem GroupOutbox.At.sameMessageKey_iff (correct : cipherSuite.se.Correct)
    (ideal : cipherSuite.se.Ideal) (free : cipherSuite.FreeGroupKeys)
    (full : cipherSuite.FullKey session.chainKey) {outbox : GroupOutbox β}
    (place : outbox.At cipherSuite session)
    {before between after : List (SendGroupMsgRequest β × GroupSendCall β)}
    {first second : SendGroupMsgRequest β × GroupSendCall β}
    (split : outbox.handed = before ++ first :: between ++ second :: after) :
    SameMessageKey cipherSuite first second ↔
      ¬∃ request ∈ first :: between, request.2.acknowledged = true := by
  have firstMade := place.encrypted before first (between ++ second :: after)
    (by rw [split, List.append_assoc, List.cons_append])
  have secondMade := place.encrypted (before ++ first :: between) second after split
  rw [acknowledgedCount_append] at secondMade
  have none_iff : acknowledgedCount (first :: between) = 0 ↔
      ¬∃ request ∈ first :: between, request.2.acknowledged = true := by
    rw [acknowledgedCount, List.countP_eq_zero]
    push Not
    rfl
  rw [← none_iff]
  constructor
  · rintro ⟨ad, ad', key, firstKey, secondKey⟩
    obtain ⟨-, firstSame, -⟩ := ideal _ _ _ _ _ _ _ (correct _ _ _ _ firstKey)
      (correct _ _ _ _ firstMade)
    obtain ⟨-, secondSame, -⟩ := ideal _ _ _ _ _ _ _ (correct _ _ _ _ secondKey)
      (correct _ _ _ _ secondMade)
    have places := GroupSession.keyAt_inj free full (firstSame.symm.trans secondSame)
    omega
  · intro unacknowledged
    rw [unacknowledged, Nat.add_zero] at secondMade
    exact ⟨_, _, _, firstMade, secondMade⟩

end Run

/-- A sender uses no message key for two plaintexts exactly when the server has acknowledged a
request between any two with different plaintexts. -/
theorem sendGroupMsg_keysUsedOnce_iff {cipherSuite : CipherSuite β} {session : GroupSession β}
    {groups : GroupStore β} (correct : cipherSuite.se.Correct) (ideal : cipherSuite.se.Ideal)
    (free : cipherSuite.FreeGroupKeys)
    (start : OutboundStart getE2eesPack cipherSuite session groups) (store : Store β)
    (calls : List (GroupSendCall β)) :
    KeysUsedOnce cipherSuite (Machine.run (GroupOutbox.send getE2eesPack store
        session.sessionOwner session.groupInfo.groupAddress) ⟨groups, []⟩ calls).handed ↔
      AcknowledgedBetween (Machine.run (GroupOutbox.send getE2eesPack store session.sessionOwner
        session.groupInfo.groupAddress) ⟨groups, []⟩ calls).handed := by
  have place := start.at_start.run start.pack start.own store calls
  constructor
  · intro once before first between second after split different
    have unshared := once before first between second after split different
    rw [place.sameMessageKey_iff correct ideal free start.full split, not_not] at unshared
    exact unshared
  · intro acknowledged before first between second after split different
    rw [place.sameMessageKey_iff correct ideal free start.full split, not_not]
    exact acknowledged before first between second after split different

namespace Symbolic

/-- Bob sends two messages, and the server does not answer the first one. -/
def lostCalls : List (GroupSendCall FreeTerm) :=
  [⟨[], [], [.byte 1], ⟨[], []⟩, none⟩, ⟨[], [], [.byte 2], ⟨[], []⟩, some ⟨.ok⟩⟩]

def bobOutbox (calls : List (GroupSendCall FreeTerm)) : GroupOutbox FreeTerm :=
  Machine.run (GroupOutbox.send (fun _ => some symbolicSuite) (memberDevice bobAddress).store
    bobAddress groupAddress) ⟨(memberDevice bobAddress).groups, []⟩ calls

theorem bob_outboundStart : OutboundStart (fun _ => some symbolicSuite) symbolicSuite
    (memberSession bobAddress bobAddress) (memberDevice bobAddress).groups :=
  ⟨rfl, rfl, by decide, rfl, by decide⟩

end Symbolic

/-- Both messages of Bob are encrypted under the first key of his chain. -/
theorem lostCalls_reuse :
    (Symbolic.bobOutbox Symbolic.lostCalls).handed.map (fun request =>
      some request.1.msg.groupMsg.ciphertext) =
    Symbolic.lostCalls.map fun call => symbolicSuite.se.encrypt
      (Symbolic.memberSession Symbolic.bobAddress Symbolic.bobAddress).associatedData
      (createGroupMessageKey symbolicSuite
        (Symbolic.memberSession Symbolic.bobAddress Symbolic.bobAddress).chainKey)
      call.plaintext := by
  decide

/-- The keys of Bob are used once in a run exactly when the server has acknowledged in between. -/
theorem lostCalls_keysUsedOnce_iff :
    KeysUsedOnce symbolicSuite (Symbolic.bobOutbox Symbolic.lostCalls).handed ↔
      AcknowledgedBetween (Symbolic.bobOutbox Symbolic.lostCalls).handed :=
  sendGroupMsg_keysUsedOnce_iff symbolicSuite_correct symbolicSuite_ideal
    symbolicSuite_freeGroupKeys Symbolic.bob_outboundStart _ Symbolic.lostCalls

end E2eeSecurity
