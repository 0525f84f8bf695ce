/-
This file shows that a receiver delivers the messages of one sender in order and never twice.
-/
import E2eeSecurity.Group.Create
import E2eeSecurity.Group.KeySchedule
import E2eeSecurity.Library.Run

namespace E2eeSecurity

variable {β : Type} {getE2eesPack : Packs β}

section Outcome

/-- A group message is delivered from the session it claims, or it changes nothing. -/
theorem consumeGroupMsg_cases (getE2eesPack : Packs β) (groups : GroupStore β)
    (receiver : E2eeAddress) (msg : E2eeMsg β) :
    consumeGroupMsg getE2eesPack groups receiver msg = (groups, none) ∨
    ∃ inbound cipherSuite plaintext,
      groups.loadGroupSessionById msg.fromAddress receiver msg.sessionId = some inbound ∧
      getE2eesPack inbound.e2eesPackId = some cipherSuite ∧
      isValidGroupSession getE2eesPack inbound = true ∧
      cipherSuite.ds.verify msg.groupMsg.signature msg.groupMsg.ciphertext
        (inbound.associatedData.take cipherSuite.ds.signPubKeyLen) = true ∧
      cipherSuite.se.decrypt inbound.associatedData (createGroupMessageKey cipherSuite
        (inbound.catchUp cipherSuite msg.groupMsg.sequence).chainKey) msg.groupMsg.ciphertext =
          some plaintext ∧
      consumeGroupMsg getE2eesPack groups receiver msg =
        (groups.storeGroupSession ((inbound.catchUp cipherSuite msg.groupMsg.sequence).advance
          cipherSuite), some plaintext) := by
  unfold consumeGroupMsg
  split
  · split
    next inbound loaded =>
      obtain ⟨found, valid⟩ := Option.filter_eq_some_iff.mp loaded
      split
      next cipherSuite pack =>
        unfold openGroupMsg
        split
        next verified =>
          dsimp only
          split
          next plaintext opened =>
            refine .inr ⟨inbound, cipherSuite, plaintext, found, pack, valid, verified, ?_, rfl⟩
            rw [← opened, GroupSession.catchUp_eq]
          · exact .inl rfl
        · exact .inl rfl
      · exact .inl rfl
    · exact .inl rfl
  · exact .inl rfl

/-- A call that delivers nothing stores nothing. -/
theorem consumeGroupMsg_none {groups : GroupStore β} {receiver : E2eeAddress} {msg : E2eeMsg β}
    (nothing : (consumeGroupMsg getE2eesPack groups receiver msg).2 = none) :
    (consumeGroupMsg getE2eesPack groups receiver msg).1 = groups := by
  obtain same | ⟨_, _, _, -, -, -, -, -, delivered⟩ :=
    consumeGroupMsg_cases getE2eesPack groups receiver msg
  · rw [same]
  · rw [delivered] at nothing
    cases nothing

end Outcome

section Run

/-- This is what a receiver stores and what it has delivered so far. -/
structure GroupInbox (β : Type) where
  groups : GroupStore β
  delivered : List (Bytes β)

def GroupInbox.receive (getE2eesPack : Packs β) (receiver : E2eeAddress) (inbox : GroupInbox β)
    (msg : E2eeMsg β) : GroupInbox β :=
  let outcome := consumeGroupMsg getE2eesPack inbox.groups receiver msg
  ⟨outcome.1, inbox.delivered ++ outcome.2.toList⟩

/-- The session is stored, and no other session has its identifier and its parties. -/
structure InboundStart (getE2eesPack : Packs β) (cipherSuite : CipherSuite β)
    (session : GroupSession β) (groups : GroupStore β) : Prop where
  pack : getE2eesPack session.e2eesPackId = some cipherSuite
  full : cipherSuite.FullKey session.chainKey
  stored : session ∈ groups.entries
  only : ∀ other ∈ groups.entries, other.sender = session.sender →
    other.sessionOwner = session.sessionOwner → other.sessionId = session.sessionId →
      other = session

/-- The message claims to be from the sender of the session. -/
def E2eeMsg.Claims (msg : E2eeMsg β) (session : GroupSession β) : Prop :=
  msg.fromAddress = session.sender ∧ msg.sessionId = session.sessionId

/-- This is the message key at a place of the chain of the session. -/
def GroupSession.keyAt (cipherSuite : CipherSuite β) (session : GroupSession β)
    (position : Nat) : Bytes β :=
  createGroupMessageKey cipherSuite
    ((advanceGroupChainKey cipherSuite)^[position] session.chainKey)

/-- These are the strings that the sender signs: its messages on this chain, what it encrypts under
other keys, and data that is no ciphertext. -/
inductive SenderSigned (cipherSuite : CipherSuite β) (session : GroupSession β)
    (sent : Nat → Bytes β → Prop) (ciphertext : Bytes β) : Prop
  | message {position : Nat} {plaintext : Bytes β} : sent position plaintext →
      cipherSuite.se.encrypt session.associatedData (session.keyAt cipherSuite position)
        plaintext = some ciphertext → SenderSigned cipherSuite session sent ciphertext
  | otherKey {ad key plaintext : Bytes β} :
      cipherSuite.se.encrypt ad key plaintext = some ciphertext →
      (∀ position, key ≠ session.keyAt cipherSuite position) →
        SenderSigned cipherSuite session sent ciphertext
  | otherData : (∀ ad key, cipherSuite.se.decrypt ad key ciphertext = none) →
      SenderSigned cipherSuite session sent ciphertext

/-- A good signature under the key of the sender is by the sender. -/
def E2eeMsg.Unforged (cipherSuite : CipherSuite β) (session : GroupSession β)
    (sent : Nat → Bytes β → Prop) (msg : E2eeMsg β) : Prop :=
  cipherSuite.ds.verify msg.groupMsg.signature msg.groupMsg.ciphertext
      (session.associatedData.take cipherSuite.ds.signPubKeyLen) = true →
    SenderSigned cipherSuite session sent msg.groupMsg.ciphertext

variable {cipherSuite : CipherSuite β} {session : GroupSession β} {sent : Nat → Bytes β → Prop}

theorem GroupSession.keyAt_inj (free : cipherSuite.FreeGroupKeys)
    (full : cipherSuite.FullKey session.chainKey) {i j : Nat}
    (same : session.keyAt cipherSuite i = session.keyAt cipherSuite j) : i = j := by
  have equal := createGroupMessageKey_inj free same
  rw [advanceGroupChainKey_iterate_full full, advanceGroupChainKey_iterate_full full] at equal
  exact advance_iterate_inj free session.chainKey equal

/-- What opens with the key of a place is the message of the sender for this place. -/
theorem SenderSigned.opened (correct : cipherSuite.se.Correct) (ideal : cipherSuite.se.Ideal)
    (free : cipherSuite.FreeGroupKeys) (full : cipherSuite.FullKey session.chainKey)
    {ciphertext plaintext : Bytes β} {position : Nat}
    (signed : SenderSigned cipherSuite session sent ciphertext)
    (opened : cipherSuite.se.decrypt session.associatedData (session.keyAt cipherSuite position)
      ciphertext = some plaintext) : sent position plaintext := by
  cases signed with
  | message made encrypted =>
      obtain ⟨-, sameKey, rfl⟩ := ideal _ _ _ _ _ _ _ opened (correct _ _ _ _ encrypted)
      rw [GroupSession.keyAt_inj free full sameKey]
      exact made
  | otherKey encrypted elsewhere =>
      obtain ⟨-, sameKey, -⟩ := ideal _ _ _ _ _ _ _ opened (correct _ _ _ _ encrypted)
      exact absurd sameKey.symm (elsewhere position)
  | otherData unopened =>
      rw [unopened] at opened
      cases opened

/-- The receiver is at a place of the chain and has delivered messages of earlier places. -/
structure GroupInbox.At (cipherSuite : CipherSuite β) (session : GroupSession β)
    (sent : Nat → Bytes β → Prop) (inbox : GroupInbox β) (count : Nat) (positions : List Nat) :
    Prop where
  stored : inbox.groups.loadGroupSessionById session.sender session.sessionOwner
    session.sessionId = some ((GroupSession.advance cipherSuite)^[count] session)
  only : ∀ other ∈ inbox.groups.entries, other.sender = session.sender →
    other.sessionOwner = session.sessionOwner → other.sessionId = session.sessionId →
      other = (GroupSession.advance cipherSuite)^[count] session
  increasing : positions.Pairwise (· < ·)
  passed : ∀ position ∈ positions, position < count
  delivered : List.Forall₂ (fun plaintext position => sent position plaintext) inbox.delivered
    positions

/-- A session moves from one place of its chain to a later one. -/
theorem GroupSession.catchUp_advance (cipherSuite : CipherSuite β) (session : GroupSession β)
    (count : Nat) (sequence : UInt32) :
    ∃ position, count ≤ position ∧
      ((GroupSession.advance cipherSuite)^[count] session).catchUp cipherSuite sequence =
        (GroupSession.advance cipherSuite)^[position] session := by
  refine ⟨sequence.toNat - ((GroupSession.advance cipherSuite)^[count] session).sequence.toNat +
    count, Nat.le_add_left _ _, ?_⟩
  rw [GroupSession.catchUp, ← Function.iterate_add_apply]

/-- One call keeps the place or moves it past a message of the sender. -/
theorem GroupInbox.At.receive (correct : cipherSuite.se.Correct) (ideal : cipherSuite.se.Ideal)
    (free : cipherSuite.FreeGroupKeys) (full : cipherSuite.FullKey session.chainKey)
    (pack : getE2eesPack session.e2eesPackId = some cipherSuite) {inbox : GroupInbox β}
    {count : Nat} {positions : List Nat} (place : inbox.At cipherSuite session sent count positions)
    {msg : E2eeMsg β} (claims : msg.Claims session)
    (unforged : msg.Unforged cipherSuite session sent) :
    ∃ count positions, (inbox.receive getE2eesPack session.sessionOwner msg).At cipherSuite session
      sent count positions := by
  obtain same | ⟨inbound, suite, plaintext, found, inboundPack, -, verified, opened, outcome⟩ :=
    consumeGroupMsg_cases getE2eesPack inbox.groups session.sessionOwner msg
  · refine ⟨count, positions, ?_⟩
    rw [GroupInbox.receive, same, Option.toList_none, List.append_nil]
    exact place
  · rw [claims.1, claims.2, place.stored, Option.some.injEq] at found
    subst found
    rw [GroupSession.advance_iterate, pack, Option.some.injEq] at inboundPack
    subst inboundPack
    obtain ⟨position, later, reached⟩ :=
      GroupSession.catchUp_advance cipherSuite session count msg.groupMsg.sequence
    rw [reached] at opened outcome
    have message : sent position plaintext := by
      refine SenderSigned.opened correct ideal free full (unforged ?_) ?_
      · simpa only [GroupSession.advance_iterate] using verified
      · simpa only [GroupSession.advance_iterate, GroupSession.keyAt] using opened
    have sameKey : ((GroupSession.advance cipherSuite)^[position + 1] session).key =
        ((GroupSession.advance cipherSuite)^[count] session).key := by
      rw [GroupSession.advance_iterate, GroupSession.advance_iterate]
      rfl
    obtain ⟨storedNext, onlyNext⟩ := GroupStore.find_storeGroupSession inbox.groups
      (fun other => decide (other.sender = session.sender ∧
        other.sessionOwner = session.sessionOwner ∧ other.sessionId = session.sessionId))
      (fun other member passed => place.only other member (of_decide_eq_true passed).1
        (of_decide_eq_true passed).2.1 (of_decide_eq_true passed).2.2)
      sameKey (by rw [GroupSession.advance_iterate]; simp)
    refine ⟨position + 1, positions ++ [position], ?_⟩
    rw [← Function.iterate_succ_apply' (GroupSession.advance cipherSuite) position session]
      at outcome
    rw [GroupInbox.receive, outcome]
    exact {
      stored := storedNext
      only := fun other member sender owner sessionId =>
        onlyNext other member (decide_eq_true ⟨sender, owner, sessionId⟩)
      increasing := by
        rw [List.pairwise_append]
        refine ⟨place.increasing, List.pairwise_singleton _ _, ?_⟩
        intro earlier member last isLast
        rw [List.mem_singleton.mp isLast]
        exact (place.passed earlier member).trans_le later
      passed := by
        intro earlier member
        obtain old | new := List.mem_append.mp member
        · have := place.passed earlier old
          omega
        · rw [List.mem_singleton.mp new]
          exact Nat.lt_succ_self position
      delivered := List.rel_append place.delivered (.cons message .nil) }

/-- A run of calls keeps the receiver at a place of the chain. -/
theorem GroupInbox.At.run (correct : cipherSuite.se.Correct) (ideal : cipherSuite.se.Ideal)
    (free : cipherSuite.FreeGroupKeys) (full : cipherSuite.FullKey session.chainKey)
    (pack : getE2eesPack session.e2eesPackId = some cipherSuite) {calls : List (E2eeMsg β)}
    (claims : ∀ msg ∈ calls, msg.Claims session)
    (unforged : ∀ msg ∈ calls, msg.Unforged cipherSuite session sent) {inbox : GroupInbox β}
    {count : Nat} {positions : List Nat}
    (place : inbox.At cipherSuite session sent count positions) :
    ∃ count positions,
      (Machine.run (GroupInbox.receive getE2eesPack session.sessionOwner) inbox calls).At
        cipherSuite session sent count positions := by
  induction calls generalizing inbox count positions with
  | nil => exact ⟨count, positions, place⟩
  | cons msg rest ih =>
      obtain ⟨next, nextPositions, moved⟩ := place.receive correct ideal free full pack
        (claims msg List.mem_cons_self) (unforged msg List.mem_cons_self)
      exact ih (fun other later => claims other (List.mem_cons_of_mem _ later))
        (fun other later => unforged other (List.mem_cons_of_mem _ later)) moved

theorem InboundStart.at_start {groups : GroupStore β}
    (start : InboundStart getE2eesPack cipherSuite session groups) :
    GroupInbox.At cipherSuite session sent ⟨groups, []⟩ 0 [] where
  stored := by
    obtain ⟨found, search⟩ : ∃ found, groups.loadGroupSessionById session.sender
        session.sessionOwner session.sessionId = some found := by
      rw [← Option.isSome_iff_exists, GroupStore.loadGroupSessionById, List.find?_isSome]
      exact ⟨session, start.stored, by simp⟩
    obtain ⟨member, sender, owner, sessionId⟩ := GroupStore.loadGroupSessionById_some _ search
    rw [search, start.only found member sender owner sessionId]
    rfl
  only := start.only
  increasing := .nil
  passed := by simp
  delivered := .nil

end Run

/-- The delivered messages are messages of the sender at strictly later and later places of its
chain, the stored session is as far as its chain, and nothing else is stored. -/
theorem consumeGroupMsg_ordered {cipherSuite : CipherSuite β} {session : GroupSession β}
    {sent : Nat → Bytes β → Prop} {groups : GroupStore β} {calls : List (E2eeMsg β)}
    (correct : cipherSuite.se.Correct) (ideal : cipherSuite.se.Ideal)
    (free : cipherSuite.FreeGroupKeys)
    (start : InboundStart getE2eesPack cipherSuite session groups)
    (claims : ∀ msg ∈ calls, msg.Claims session)
    (unforged : ∀ msg ∈ calls, msg.Unforged cipherSuite session sent) :
    (∃ (count : Nat) (positions : List Nat),
      (Machine.run (GroupInbox.receive getE2eesPack session.sessionOwner) ⟨groups, []⟩
        calls).groups.loadGroupSessionById session.sender session.sessionOwner
          session.sessionId = some { session with
            chainKey := (advanceGroupChainKey cipherSuite)^[count] session.chainKey
            sequence := session.sequence + UInt32.ofNat count } ∧
      positions.Pairwise (· < ·) ∧ (∀ position ∈ positions, position < count) ∧
      List.Forall₂ (fun plaintext position => sent position plaintext)
        (Machine.run (GroupInbox.receive getE2eesPack session.sessionOwner) ⟨groups, []⟩
          calls).delivered positions) ∧
    ∀ (stored : GroupStore β) (msg : E2eeMsg β),
      (consumeGroupMsg getE2eesPack stored session.sessionOwner msg).2 = none →
        (consumeGroupMsg getE2eesPack stored session.sessionOwner msg).1 = stored := by
  refine ⟨?_, fun stored msg nothing => consumeGroupMsg_none nothing⟩
  obtain ⟨count, positions, place⟩ :=
    start.at_start.run correct ideal free start.full start.pack claims unforged
  refine ⟨count, positions, ?_, place.increasing, place.passed, place.delivered⟩
  rw [place.stored, GroupSession.advance_iterate]

namespace Symbolic

/-- This is the message of Alice that her session sends next. -/
def groupMsg (session : GroupSession FreeTerm) (plaintext : Bytes FreeTerm) : E2eeMsg FreeTerm where
  version := session.version
  sessionId := session.sessionId
  fromAddress := session.sender
  toAddress := groupAddress
  groupMsg := (encryptGroupMsg symbolicSuite plaintext session.chainKey session.associatedData
    session.sequence aliceAccount.identityKey ⟨[], []⟩).getD ⟨0, [], []⟩

/-- Bob has the session of Alice at the last sequence number. -/
def lastSession : GroupSession FreeTerm :=
  { memberSession aliceAddress bobAddress with sequence := 4294967295 }

/-- The first message of Alice comes twice, and once more with another sequence number. -/
def replayedCalls : List (E2eeMsg FreeTerm) :=
  let msg := groupMsg (memberSession aliceAddress bobAddress) [.byte 1]
  [msg, msg, { msg with groupMsg := { msg.groupMsg with sequence := 7 } }]

end Symbolic

/-- The sequence number wraps: Bob delivers a message of Alice with the number 0 after one with the
number 4294967295. -/
theorem consumeGroupMsg_wraps :
    let first := Symbolic.groupMsg Symbolic.lastSession [.byte 1]
    let second := Symbolic.groupMsg (Symbolic.lastSession.advance symbolicSuite) [.byte 2]
    let inbox := Machine.run (GroupInbox.receive (fun _ => some symbolicSuite) Symbolic.bobAddress)
      ⟨GroupStore.storeGroupSession KeyedTable.empty Symbolic.lastSession, []⟩ [first, second]
    inbox.delivered = [[.byte 1], [.byte 2]] ∧
      ¬[first.groupMsg.sequence, second.groupMsg.sequence].Pairwise (· < ·) := by
  decide

/-- Bob delivers the message of Alice once. -/
theorem replayedCalls_ordered :
    ∃ count positions,
      (Machine.run (GroupInbox.receive (fun _ => some symbolicSuite) Symbolic.bobAddress)
        ⟨(Symbolic.memberDevice Symbolic.bobAddress).groups, []⟩
        Symbolic.replayedCalls).groups.loadGroupSessionById Symbolic.aliceAddress
          Symbolic.bobAddress "session" =
        some { Symbolic.memberSession Symbolic.aliceAddress Symbolic.bobAddress with
          chainKey := (advanceGroupChainKey symbolicSuite)^[count]
            (Symbolic.memberSession Symbolic.aliceAddress Symbolic.bobAddress).chainKey
          sequence := 0 + UInt32.ofNat count } ∧
      List.Forall₂ (fun plaintext position => position = 0 ∧ plaintext = [FreeTerm.byte 1])
        [[FreeTerm.byte 1]] positions := by
  have start : InboundStart (fun _ => some symbolicSuite) symbolicSuite
      (Symbolic.memberSession Symbolic.aliceAddress Symbolic.bobAddress)
      (Symbolic.memberDevice Symbolic.bobAddress).groups :=
    ⟨rfl, rfl, by decide, by decide⟩
  have claims : ∀ msg ∈ Symbolic.replayedCalls,
      msg.Claims (Symbolic.memberSession Symbolic.aliceAddress Symbolic.bobAddress) := by
    unfold E2eeMsg.Claims
    decide
  have unforged : ∀ msg ∈ Symbolic.replayedCalls, msg.Unforged symbolicSuite
      (Symbolic.memberSession Symbolic.aliceAddress Symbolic.bobAddress)
      (fun position plaintext => position = 0 ∧ plaintext = [.byte 1]) := by
    intro msg member _
    have same : msg.groupMsg.ciphertext = (Symbolic.groupMsg
        (Symbolic.memberSession Symbolic.aliceAddress Symbolic.bobAddress)
          [.byte 1]).groupMsg.ciphertext := by
      simp only [Symbolic.replayedCalls, List.mem_cons, List.not_mem_nil, or_false] at member
      obtain rfl | rfl | rfl := member
      · rfl
      · rfl
      · rfl
    rw [same]
    exact .message ⟨rfl, rfl⟩ rfl
  obtain ⟨⟨count, positions, stored, -, -, delivered⟩, -⟩ := consumeGroupMsg_ordered
    symbolicSuite_correct symbolicSuite_ideal symbolicSuite_freeGroupKeys start claims unforged
  exact ⟨count, positions, stored, delivered⟩

end E2eeSecurity
