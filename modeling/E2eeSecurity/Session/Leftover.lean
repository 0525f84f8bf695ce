/-
This file shows that a completed session still holds the secret of its handshake.
-/
import E2eeSecurity.Net.Secrecy
import E2eeSecurity.Session.Agreement

namespace E2eeSecurity

variable {β : Type} {cipherSuite : CipherSuite β}

/-- An observer of a session also evaluates the HKDF of the two initialisers. -/
inductive SessionForward (cipherSuite : CipherSuite β) : List (Bytes β) → Bytes β → Prop
  | ratchet {premises : List (Bytes β)} {conclusion : Bytes β}
      (step : Forward cipherSuite premises conclusion) :
      SessionForward cipherSuite premises conclusion
  | initialRoot (sharedSecret : Bytes β) :
      SessionForward cipherSuite [sharedSecret] (cipherSuite.initialRoot sharedSecret)
  | initialChain (sharedSecret : Bytes β) :
      SessionForward cipherSuite [sharedSecret] (cipherSuite.initialChain sharedSecret)

/-- These are all byte strings of a stored session outside of its ratchet. -/
def Session.leftover (session : Session β) : Set (Bytes β) :=
  {value | value = session.tempSharedSecret ∨
    (∃ pair ∈ session.aliceBaseKey, value = pair.publicKey ∨ value = pair.privateKey) ∨
    value ∈ session.preSharedInputList ∨ value = session.fingerprint ∨
    value = session.associatedData}

/-- These are the byte strings of the two handshake messages. -/
def handshakeWire (invited : InviteMsg β) (answer : AcceptMsg β) : Set (Bytes β) :=
  {value | value = invited.aliceIdentityKey ∨ value = invited.aliceBaseKey ∨
    value ∈ invited.preSharedInputList ∨ value = answer.encapsCiphertext ∨
    value = answer.ratchetKey}

/-- These are the chain keys and stored message keys of both ratchets, and the keys of all
messages that were sent. -/
def Net.sessionKeys (net : Net β) : Set (Bytes β) :=
  {value | ∃ party,
    (∃ chain ∈ (net.ratchet party).senderChain, ∃ key ∈ chain.chainKey, value = key.sharedKey) ∨
    (∃ chain ∈ (net.ratchet party).receiverChain, ∃ key ∈ chain.chainKey,
      value = key.sharedKey) ∨
    (∃ node ∈ (net.ratchet party).skipped, value = node.msgKey.derivedKey) ∨
    ∃ entry ∈ net.sent party, value = entry.messageKey}

/-- The session goes on with the other party, who has initialised from the same secret. -/
structure Session.Continues (session : Session β) (cipherSuite : CipherSuite β) (net : Net β) :
    Prop where
  alice : session.ratchet = some (net.ratchet .alice)
  bob : ∃ signedPreKey, ∃ baseKey ∈ session.aliceBaseKey, ∃ coins,
    initialiseAsBob cipherSuite session.tempSharedSecret signedPreKey baseKey.publicKey coins =
      some (net.ratchet .bob)
  unsent : ∀ party, net.sent party = []
  unread : ∀ party, net.received party = []

/-- No key of the session, at any time of any run, follows from the rest of the stored session
and the messages on the wire. -/
def Session.NoSecretSurvives [DecidableEq β] (session : Session β)
    (cipherSuite : CipherSuite β) (invited : InviteMsg β) (answer : AcceptMsg β) : Prop :=
  ∀ start, session.Continues cipherSuite start → ∀ events,
    let net := runNet cipherSuite session.associatedData start events
    ∀ key ∈ net.sessionKeys, ¬ Deduction.Derives (SessionForward cipherSuite)
      (session.leftover ∪ handshakeWire invited answer ∪ net.wire) key

/-- The secret of the session leads to every message key of the first chain of Bob. -/
theorem Session.leftover_derives (session : Session β) {known : Set (Bytes β)}
    (stored : session.tempSharedSecret ∈ known) (count : Nat) :
    Deduction.Derives (SessionForward cipherSuite) known
      (cipherSuite.advance^[count] (cipherSuite.initialChain session.tempSharedSecret)) := by
  induction count with
  | zero =>
      apply Deduction.Derives.apply (.initialChain session.tempSharedSecret)
      intro premise member
      rw [List.mem_singleton.mp member]
      exact .known stored
  | succ count ih =>
      rw [Function.iterate_succ_apply']
      apply Deduction.Derives.apply (.ratchet (.advance _))
      intro premise member
      rw [List.mem_singleton.mp member]
      exact ih

section Completion

variable {getE2eesPack : Packs β} {store later : Store β} {answer : AcceptMsg β}
  {coins : Bytes β} {session : Session β}

/-- A completed session is stored with the secret that its ratchet was made from. -/
theorem pqcCompleteOutboundSession_some
    (completed : pqcCompleteOutboundSession getE2eesPack store answer coins =
      (some session, later)) :
    later = store.storeSession session ∧ session.responded = true ∧
      ∃ cipherSuite baseKey theirRatchetKey ratchet,
        getE2eesPack session.e2eesPackId = some cipherSuite ∧
        session.aliceBaseKey = some baseKey ∧ isValidKeyPair baseKey = true ∧
        session.ratchet = some ratchet ∧
        initialiseAsAlice cipherSuite session.tempSharedSecret baseKey theirRatchetKey
          (some answer.ratchetKey) coins = some ratchet := by
  unfold pqcCompleteOutboundSession at completed
  split at completed
  case h_2 => simp at completed
  case h_1 uncompleted loaded =>
    split at completed
    case isFalse => simp at completed
    case isTrue valid =>
      split at completed
      case h_2 => simp at completed
      case h_1 identityKey suite baseKey chain identity pack base waiting =>
        dsimp only at completed
        split at completed
        case h_2 => simp at completed
        case h_1 ratchet made =>
          simp only [isValidUncompletedSession, Bool.and_eq_true, base, Option.any_some] at valid
          obtain ⟨-, ⟨⟨⟨-, baseValid⟩, -⟩, -⟩, -⟩ := valid
          rw [Prod.mk.injEq, Option.some.injEq] at completed
          obtain ⟨rfl, rfl⟩ := completed
          exact ⟨rfl, rfl, suite, baseKey, chain.theirRatchetPublicKey, ratchet, pack, base,
            baseValid, rfl, made⟩

/-- The shared secret was not empty. -/
theorem initialiseAsAlice_secret {sharedSecret : Bytes β} {ourRatchetKey : KeyPair β}
    {theirRatchetKey : Bytes β} {ciphertext : Option (Bytes β)} {ratchet : Ratchet β}
    (made : initialiseAsAlice cipherSuite sharedSecret ourRatchetKey theirRatchetKey ciphertext
      coins = some ratchet) : sharedSecret ≠ [] := by
  intro empty
  simp [initialiseAsAlice, empty] at made

variable [DecidableEq β]

/-- Every completed session gives a key of its own ratchets away. -/
theorem pqcCompleteOutboundSession_secret_survives
    (completed : pqcCompleteOutboundSession getE2eesPack store answer coins =
      (some session, later))
    (pack : getE2eesPack session.e2eesPackId = some cipherSuite) (invited : InviteMsg β) :
    later.sessions.load session.sessionId session.ourAddress = some session ∧
      session.responded = true ∧ ¬ session.NoSecretSurvives cipherSuite invited answer := by
  obtain ⟨stored, responded, suite, baseKey, theirRatchetKey, ratchet, found, base, baseValid,
    present, made⟩ := pqcCompleteOutboundSession_some completed
  rw [pack, Option.some.injEq] at found
  subst found
  refine ⟨?_, responded, ?_⟩
  · rw [stored]
    exact SessionStore.load_store _ _
  · obtain ⟨valid, -, -, ciphertext, -, -, shape⟩ := initialiseAsAlice_some made
    have basePublic : baseKey.publicKey ≠ [] := by
      simp only [isValidKeyPair, Bool.and_eq_true, isValidProtobuf_iff] at baseValid
      exact baseValid.2
    obtain ⟨bob, bobMade⟩ := initialiseAsBob_made valid (initialiseAsAlice_secret made) baseValid
      basePublic coins
    intro survives
    refine survives (Handshake.network ratchet bob)
      ⟨present, ⟨baseKey, baseKey, base, coins, bobMade⟩, fun _ => rfl, fun _ => rfl⟩ []
      (cipherSuite.initialChain session.tempSharedSecret) ?_ ?_
    · refine ⟨.alice, .inr (.inl ?_)⟩
      rw [runNet]
      simp only [Machine.run, Handshake.network]
      rw [shape]
      exact ⟨_, rfl, _, rfl, rfl⟩
    · exact session.leftover_derives (.inl (.inl (.inl rfl))) 0

end Completion

namespace Symbolic

/-- This is the session of Alice after the answer of Bob. -/
def completedSession : Session FreeTerm :=
  (handshake.completed handshake.invited.2.1 handshake.answer).1.get (by decide)

theorem completedSession_stored :
    pqcCompleteOutboundSession handshake.getE2eesPack handshake.invited.2.1 handshake.answer
      handshake.aliceCoins = (some completedSession,
        (handshake.completed handshake.invited.2.1 handshake.answer).2) :=
  Prod.ext (Option.some_get _).symm rfl

theorem completedSession_isSome : completedSession.ratchet.isSome = true := by
  decide

/-- This is the network of the two stored sessions. -/
def sessionNet : Net FreeTerm :=
  Handshake.network (completedSession.ratchet.get completedSession_isSome)
    (answeredSession.ratchet.get (by decide))

/-- Bob sends one message, and Alice reads it. -/
def delivery : List (NetEvent FreeTerm) :=
  [.encrypt .bob (some [.byte 70]), .decrypt .alice 0 [.byte 71]]

theorem sessionNet_continues : completedSession.Continues symbolicSuite sessionNet where
  alice := by decide
  bob := ⟨olderPreKey.keyPair, handshake.baseKey, by decide, handshake.bobCoins.baseKey, by decide⟩
  unsent _ := rfl
  unread _ := rfl

end Symbolic

/-- A message that Alice has read stays readable with her stored session alone. -/
theorem delivered_message_revealed :
    (Symbolic.handshake.completed Symbolic.handshake.invited.2.1 Symbolic.handshake.answer).1 =
        some Symbolic.completedSession ∧
      ((runNet symbolicSuite Symbolic.completedSession.associatedData Symbolic.sessionNet
        Symbolic.delivery).received .alice).map (fun reception => reception.result) =
          [some [.byte 70]] ∧
      ¬ Symbolic.completedSession.NoSecretSurvives symbolicSuite
        (Symbolic.handshake.delivered (produceInviteRequest Symbolic.handshake.outbound))
        Symbolic.handshake.answer := by
  refine ⟨by decide, by decide, ?_⟩
  intro survives
  refine survives Symbolic.sessionNet Symbolic.sessionNet_continues Symbolic.delivery
    (symbolicSuite.messageKey (symbolicSuite.initialChain
      Symbolic.completedSession.tempSharedSecret)) ?_ ?_
  · exact ⟨.bob, .inr (.inr (.inr ⟨_, List.mem_singleton.mpr rfl, by decide⟩))⟩
  · apply Deduction.Derives.apply (.ratchet (.messageKey _))
    intro premise member
    rw [List.mem_singleton.mp member]
    exact Symbolic.completedSession.leftover_derives (.inl (.inl (.inl rfl))) 0

/-- The completed session of the two symbolic accounts gives a key away. -/
theorem completedSession_secret_survives :
    ¬ Symbolic.completedSession.NoSecretSurvives symbolicSuite
      (Symbolic.handshake.delivered (produceInviteRequest Symbolic.handshake.outbound))
      Symbolic.handshake.answer :=
  (pqcCompleteOutboundSession_secret_survives Symbolic.completedSession_stored rfl _).2.2

end E2eeSecurity
