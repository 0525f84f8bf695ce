/-
This file compares the fingerprints that the two sides of a handshake store.
-/
import E2eeSecurity.Session.Agreement

namespace E2eeSecurity

variable {β : Type}

/-- A generated public key is as long as the fingerprint reads it. -/
theorem KemSuite.Generated.taken {kem : KemSuite β} {pair : KeyPair β}
    (generated : kem.Generated pair) :
    pair.publicKey.take kem.asymPubKeyLen = pair.publicKey :=
  List.take_of_length_le generated.lengths.1.le

namespace Handshake

variable {handshake : Handshake β}

/-- These are the public keys that a fingerprint hashes, for one signed pre-key of Bob. -/
def hashedKeys (handshake : Handshake β) (signedPreKey : Bytes β) : Bytes β :=
  handshake.alice.identityKey.asymKeyPair.publicKey ++
    handshake.bob.identityKey.asymKeyPair.publicKey ++ signedPreKey ++
      (handshake.bundle.oneTimePreKeyPublic.map fun key => key.publicKey).getD []

/-- Alice has used the signed pre-key that is still the current one of Bob. -/
def UsesCurrentPreKey (handshake : Handshake β) : Prop :=
  handshake.bundle.signedPreKeyPublic.publicKey = handshake.bob.signedPreKey.keyPair.publicKey

/-- Two different lists of public keys have the same hash. -/
def FingerprintsCollide (handshake : Handshake β) : Prop :=
  let ours := handshake.hashedKeys handshake.bundle.signedPreKeyPublic.publicKey
  let theirs := handshake.hashedKeys handshake.bob.signedPreKey.keyPair.publicKey
  ours ≠ theirs ∧
    sessionFingerprint handshake.cipherSuite ours =
      sessionFingerprint handshake.cipherSuite theirs

/-- The hashed keys of different signed pre-keys differ. -/
theorem hashedKeys_inj (handshake : Handshake β) {first second : Bytes β}
    (same : handshake.hashedKeys first = handshake.hashedKeys second) : first = second := by
  rw [hashedKeys, hashedKeys] at same
  exact List.append_cancel_left (List.append_cancel_right same)

/-- The published one-time pre-key has the length of the suite. -/
theorem Honest.oneTime_taken (honest : handshake.Honest) :
    handshake.bundle.oneTimePreKeyPublic.map (fun key =>
        key.publicKey.take handshake.cipherSuite.kem.asymPubKeyLen) =
      handshake.bundle.oneTimePreKeyPublic.map fun key => key.publicKey := by
  cases stock : handshake.bundle.oneTimePreKeyPublic with
  | none => rfl
  | some key =>
      obtain ⟨stored, -, -, same, generated⟩ := honest.bundle.oneTimeGenerated honest.bob stock
      rw [Option.map_some, Option.map_some, ← same, generated.taken]

/-- Alice hashes the signed pre-key of the bundle. -/
theorem Honest.outbound_fingerprint (honest : handshake.Honest) :
    handshake.outbound.fingerprint = sessionFingerprint handshake.cipherSuite
      (handshake.hashedKeys handshake.bundle.signedPreKeyPublic.publicKey) := by
  have ours := honest.alice.keyed.identityKey.taken
  have theirs := honest.bob.keyed.identityKey.taken
  have signed := (honest.bundle.generated honest.bob).taken
  simp only [outbound, outboundSession, hashedKeys, honest.oneTime_taken,
    honest.bundle.identityKey, honest.bundle.published, ours, theirs, signed]

/-- Bob hashes his current signed pre-key, whichever one the invitation names. -/
theorem Honest.inbound_fingerprint (honest : handshake.Honest)
    {oneTimePreKey : Option (OneTimePreKey β)}
    (published : oneTimePreKey.map (fun key => (⟨key.opkId, key.keyPair.publicKey⟩ :
      OneTimePreKeyPublic β)) = handshake.bundle.oneTimePreKeyPublic) (ratchet : Ratchet β) :
    (inboundSession handshake.cipherSuite handshake.bob oneTimePreKey ratchet
        (handshake.delivered (produceInviteRequest handshake.outbound))).fingerprint =
      sessionFingerprint handshake.cipherSuite
        (handshake.hashedKeys handshake.bob.signedPreKey.keyPair.publicKey) := by
  have ours := honest.bob.keyed.identityKey.taken
  have theirs := honest.alice.keyed.identityKey.taken
  have signed := honest.bob.keyed.signedPreKey.taken
  have oneTime : (oneTimePreKey.map fun key =>
      key.keyPair.publicKey.take handshake.cipherSuite.kem.asymPubKeyLen) =
        handshake.bundle.oneTimePreKeyPublic.map fun key => key.publicKey := by
    rw [← honest.oneTime_taken, ← published, Option.map_map]
    rfl
  simp only [inboundSession, delivered, hashedKeys, oneTime, ours, theirs, signed]

end Handshake

/-- The stored fingerprints are the same exactly when Alice has used the current signed pre-key
of Bob, unless the hash collides. -/
theorem pqcHandshake_fingerprints_agree_iff (handshake : Handshake β)
    (honest : handshake.Honest) :
    ∃ inviteMsg alice bob, handshake.invited.2.2 = some inviteMsg ∧
      handshake.invited.2.1.sessions.load handshake.draw.sessionId handshake.aliceAddress =
        some alice ∧
      (handshake.accepted inviteMsg).2.1.sessions.load handshake.draw.sessionId
        handshake.bobAddress = some bob ∧
      (alice.fingerprint = bob.fingerprint ↔
        handshake.UsesCurrentPreKey ∨ handshake.FingerprintsCollide) := by
  obtain ⟨sent, ⟨inviteT, stored⟩, -, -⟩ := honest.invited_sent
  obtain ⟨-, oneTimePreKey, chosen, published, generated⟩ := honest.chosen
  obtain ⟨ratchet, -, -, accepted⟩ := honest.accepted_sent chosen generated
  refine ⟨_, _, _, sent, stored, accepted, ?_⟩
  dsimp only
  rw [honest.outbound_fingerprint, honest.inbound_fingerprint published ratchet]
  constructor
  · intro same
    by_cases current : handshake.UsesCurrentPreKey
    · exact .inl current
    · exact .inr ⟨fun equal => current (handshake.hashedKeys_inj equal), same⟩
  · rintro (current | ⟨-, same⟩)
    · rw [current]
    · exact same

namespace Symbolic

/-- This is the session of Alice before the answer. -/
def invitedSession : Session FreeTerm :=
  (handshake.invited.2.1.sessions.load handshake.draw.sessionId aliceAddress).get (by decide)

/-- Alice uses the current signed pre-key of Bob. -/
def currentHandshake : Handshake FreeTerm :=
  { handshake with
    signedPreKey := bobAccount.signedPreKey
    bundle := { handshake.bundle with
      signedPreKeyPublic := ⟨2, (keyPair 52).publicKey, bobAccount.signedPreKey.signature⟩ } }

theorem currentHandshake_honest : currentHandshake.Honest where
  correct := handshake_honest.correct
  alice := handshake_honest.alice
  bob := handshake_honest.bob
  bundle := {
    pack := rfl
    addressed := rfl
    identityKey := rfl
    held := .inl rfl
    published := rfl
    signatureLength := rfl
    verified := by decide
    oneTimePreKey := handshake_honest.bundle.oneTimePreKey }
  sessionId := handshake_honest.sessionId

end Symbolic

/-- Bob still answers an invitation to his older signed pre-key, and the fingerprints differ. -/
theorem olderPreKey_fingerprints_differ :
    Symbolic.handshake.invited.2.1.sessions.load Symbolic.handshake.draw.sessionId
        Symbolic.aliceAddress = some Symbolic.invitedSession ∧
      (Symbolic.handshake.accepted (produceInviteRequest Symbolic.handshake.outbound)).1 = true ∧
      (Symbolic.handshake.accepted (produceInviteRequest
        Symbolic.handshake.outbound)).2.1.sessions.load Symbolic.handshake.draw.sessionId
          Symbolic.bobAddress = some Symbolic.answeredSession ∧
      Symbolic.invitedSession.fingerprint ≠ Symbolic.answeredSession.fingerprint := by
  decide

/-- The current signed pre-key leads to equal fingerprints. -/
theorem currentPreKey_fingerprints_agree :
    ∃ inviteMsg alice bob, Symbolic.currentHandshake.invited.2.2 = some inviteMsg ∧
      Symbolic.currentHandshake.invited.2.1.sessions.load
        Symbolic.currentHandshake.draw.sessionId Symbolic.aliceAddress = some alice ∧
      (Symbolic.currentHandshake.accepted inviteMsg).2.1.sessions.load
        Symbolic.currentHandshake.draw.sessionId Symbolic.bobAddress = some bob ∧
      alice.fingerprint = bob.fingerprint := by
  obtain ⟨inviteMsg, alice, bob, sent, stored, accepted, agree⟩ :=
    pqcHandshake_fingerprints_agree_iff Symbolic.currentHandshake Symbolic.currentHandshake_honest
  exact ⟨inviteMsg, alice, bob, sent, stored, accepted, agree.mpr (.inl rfl)⟩

end E2eeSecurity
