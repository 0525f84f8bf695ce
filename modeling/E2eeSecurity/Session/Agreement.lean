/-
This file shows that the handshake leaves two stored sessions that agree.
-/
import E2eeSecurity.Net.Model
import E2eeSecurity.Session.Handshake

namespace E2eeSecurity

variable {β : Type}

namespace Handshake

variable {handshake : Handshake β}

/-- This is the network of the two sessions before the first message. -/
def network (alice bob : Ratchet β) : Net β where
  ratchet
    | .alice => alice
    | .bob => bob
  sent _ := []
  received _ := []

/-- Alice ratchets with her base key, and Bob ratchets with his signed pre-key. -/
def ratchetKeys (handshake : Handshake β) : Party → KeyPair β
  | .alice => handshake.baseKey
  | .bob => handshake.signedPreKey.keyPair

def ratchetCoins (handshake : Handshake β) : Party → Bytes β
  | .alice => handshake.aliceCoins
  | .bob => handshake.bobCoins.baseKey

/-- The two ratchets of an honest handshake are a matched start of the network. -/
theorem Honest.matchedStart (honest : handshake.Honest) {sharedSecret : Bytes β}
    {alice bob : Ratchet β}
    (bobMade : initialiseAsBob handshake.cipherSuite sharedSecret handshake.signedPreKey.keyPair
      handshake.baseKey.publicKey handshake.bobCoins.baseKey = some bob)
    (aliceMade : initialiseAsAlice handshake.cipherSuite sharedSecret handshake.baseKey
      handshake.signedPreKey.keyPair.publicKey (some handshake.answer.ratchetKey)
      handshake.aliceCoins = some alice) :
    MatchedStart handshake.cipherSuite sharedSecret handshake.ratchetKeys handshake.ratchetCoins
      (network alice bob) where
  bob := bobMade
  alice := by
    obtain ⟨-, -, -, shape⟩ := initialiseAsBob_some bobMade
    rw [shape]
    exact aliceMade
  matching party := by
    cases party with
    | alice => exact honest.correct handshake.draw.baseKey
    | bob => exact (honest.bundle.generated honest.bob).matching honest.correct
  unsent _ := rfl
  unread _ := rfl

end Handshake

/-- Alice is one chain step ahead of Bob, and Bob can follow the step with his private key. -/
structure Paired (cipherSuite : CipherSuite β) (coins : Bytes β) (alice bob : Ratchet β)
    (aliceSender bobSender : SenderChainNode β) (aliceReceiver bobReceiver : ReceiverChainNode β)
    (aliceChainKey : ChainKey β) : Prop where
  aliceSends : alice.senderChain = some aliceSender
  aliceReceives : alice.receiverChain = some aliceReceiver
  bobSends : bob.senderChain = some bobSender
  bobReceives : bob.receiverChain = some bobReceiver
  sameChain : ∃ key, aliceReceiver.chainKey = some ⟨0, key⟩ ∧ bobSender.chainKey = some ⟨0, key⟩
  sameRatchetKey : aliceReceiver.theirRatchetPublicKey = bobSender.ourRatchetPublicKey
  bobToAlice : cipherSuite.kem.Matching bobSender.theirRatchetPublicKey
    aliceReceiver.ourRatchetPrivateKey
  aliceToBob : cipherSuite.kem.Matching aliceSender.theirRatchetPublicKey
    bobReceiver.ourRatchetPrivateKey
  ahead : aliceSender.chainKey = some aliceChainKey
  stepped : createChainKey cipherSuite bob.rootKey none aliceSender.theirRatchetPublicKey coins
    bob.rootKey ChainKey.initial =
      some (alice.rootKey, aliceChainKey, aliceSender.ourRatchetPublicKey)
  followed : ∀ unused, createChainKey cipherSuite bob.rootKey
    (some bobReceiver.ourRatchetPrivateKey) aliceSender.ourRatchetPublicKey unused bob.rootKey
    ChainKey.initial = some (alice.rootKey, aliceChainKey, [])

/-- A matched start pairs the ratchets. -/
theorem MatchedStart.paired {cipherSuite : CipherSuite β} {sharedSecret : Bytes β}
    {keys : Party → KeyPair β} {coins : Party → Bytes β} {start : Net β}
    (matched : MatchedStart cipherSuite sharedSecret keys coins start) :
    ∃ aliceSender bobSender aliceReceiver bobReceiver aliceChainKey,
      Paired cipherSuite (coins .alice) (start.ratchet .alice) (start.ratchet .bob) aliceSender
        bobSender aliceReceiver bobReceiver aliceChainKey := by
  obtain ⟨suite, privateKeys⟩ := matched.parts
  obtain ⟨-, -, theirs, -⟩ := initialiseAsAlice_some matched.alice
  obtain ⟨bob, alice⟩ := matched.ratchets
  have full : cipherSuite.FullKey (cipherSuite.initialRoot sharedSecret) := initialRoot_full _
  have outgoing : (cipherSuite.kem.encapsulate (coins .alice) (keys .bob).publicKey).2 ≠ [] :=
    encapsulate_nonempty suite _ _
  rw [bob, alice]
  exact ⟨_, _, _, _, _, {
    aliceSends := rfl
    aliceReceives := rfl
    bobSends := rfl
    bobReceives := rfl
    sameChain := ⟨_, rfl, rfl⟩
    sameRatchetKey := rfl
    bobToAlice := matched.matching .alice
    aliceToBob := matched.matching .bob
    ahead := rfl
    stepped := createChainKey_full suite full theirs _
    followed := by
      intro unused
      have followed := createChainKey_decaps_full suite full (privateKeys .bob) outgoing unused
      rw [matched.matching .bob (coins .alice)] at followed
      exact followed }⟩

/-- The three calls of an honest handshake succeed, and both stored sessions agree. -/
theorem pqcHandshake_agrees (handshake : Handshake β) (honest : handshake.Honest) :
    ∃ inviteMsg acceptMsg, handshake.invited.2.2 = some inviteMsg ∧
      (handshake.accepted inviteMsg).2.2 = some acceptMsg ∧
      ∀ later, handshake.Waiting later → ∃ alice bob : Session β,
        handshake.completed later acceptMsg = (some alice, later.storeSession alice) ∧
        (handshake.accepted inviteMsg).2.1.sessions.load alice.sessionId handshake.bobAddress =
          some bob ∧
        alice.responded = true ∧ bob.responded = true ∧
        (∃ signedPreKey oneTimePreKey,
          chooseSignedPreKey handshake.bobStore handshake.bob handshake.bobAddress
            inviteMsg.bobSignedPreKeyId = some signedPreKey ∧
          chooseOneTimePreKey handshake.bob inviteMsg.bobOneTimePreKeyId = some oneTimePreKey ∧
          alice.tempSharedSecret = inboundSecret handshake.cipherSuite
            handshake.bob.identityKey.asymKeyPair signedPreKey.keyPair
            (oneTimePreKey.map fun key => key.keyPair) (handshake.delivered inviteMsg)
            handshake.bobCoins.identityKey) ∧
        alice.associatedData = bob.associatedData ∧
        ∃ aliceRatchet bobRatchet aliceSender bobSender aliceReceiver bobReceiver aliceChainKey,
          alice.ratchet = some aliceRatchet ∧ bob.ratchet = some bobRatchet ∧
          Paired handshake.cipherSuite handshake.aliceCoins aliceRatchet bobRatchet aliceSender
            bobSender aliceReceiver bobReceiver aliceChainKey := by
  obtain ⟨signedChosen, oneTimePreKey, oneTimeChosen, published, generated⟩ := honest.chosen
  obtain ⟨bobRatchet, bobMade, answered, bobStored⟩ :=
    honest.accepted_sent oneTimeChosen generated
  refine ⟨_, _, honest.invited_sent.1, answered, ?_⟩
  intro later waiting
  obtain ⟨aliceRatchet, inviteT, aliceMade, completed⟩ :=
    honest.completed_made waiting published generated
  obtain ⟨aliceSender, bobSender, aliceReceiver, bobReceiver, aliceChainKey, paired⟩ :=
    (honest.matchedStart bobMade aliceMade).paired
  refine ⟨_, _, completed, bobStored, rfl, rfl,
    ⟨handshake.signedPreKey, oneTimePreKey, signedChosen, oneTimeChosen, rfl⟩, ?_,
    aliceRatchet, bobRatchet, aliceSender, bobSender, aliceReceiver, bobReceiver, aliceChainKey,
    rfl, rfl, paired⟩
  simp [Handshake.finished, Handshake.outbound, outboundSession, inboundSession,
    Handshake.delivered, honest.bundle.identityKey]

namespace Symbolic

def aliceAddress : E2eeAddress := ⟨"domain", .user "alice" "device"⟩

def bobAddress : E2eeAddress := ⟨"domain", .user "bob" "device"⟩

/-- The signing key of an account signs the public key. -/
def signedPreKey (spkId : UInt32) (pair signPair : KeyPair FreeTerm) : SignedPreKey FreeTerm where
  spkId := spkId
  keyPair := pair
  signature := symbolicSuite.ds.sign [] pair.publicKey signPair.privateKey

def account (address : E2eeAddress) (identity sign signed oneTime : KeyPair FreeTerm) :
    Account FreeTerm where
  e2eesPackId := 0
  address := some address
  identityKey := ⟨identity, sign⟩
  signedPreKey := signedPreKey 2 signed sign
  oneTimePreKeyList := [⟨1, false, oneTime⟩]
  password := "password"
  auth := "auth"

def aliceAccount : Account FreeTerm :=
  account aliceAddress (keyPair 40) (keyPair 41) (keyPair 42) (keyPair 43)

def bobAccount : Account FreeTerm :=
  account bobAddress (keyPair 50) (keyPair 51) (keyPair 52) (keyPair 53)

/-- Bob still stores a signed pre-key from before the current one. -/
def olderPreKey : SignedPreKey FreeTerm := signedPreKey 1 (keyPair 54) (keyPair 51)

def store (address : E2eeAddress) (account : Account FreeTerm)
    (older : Option (SignedPreKey FreeTerm)) : Store FreeTerm where
  account owner := if owner = address then some account else none
  cachedIdentityKey _ := none
  signedPreKey owner spkId :=
    if owner = address then older.filter fun key => key.spkId == spkId else none
  auth _ := "auth"
  sessions := ⟨fun _ _ => none, by simp⟩
  pendingRequests _ := []

/-- Alice uses the older signed pre-key of Bob and his one-time pre-key. -/
def handshake : Handshake FreeTerm where
  getE2eesPack _ := some symbolicSuite
  cipherSuite := symbolicSuite
  aliceStore := store aliceAddress aliceAccount none
  aliceAddress := aliceAddress
  alice := aliceAccount
  bobStore := store bobAddress bobAccount (some olderPreKey)
  bobAddress := bobAddress
  bob := bobAccount
  signedPreKey := olderPreKey
  bundle := {
    e2eesPackId := 0
    userAddress := bobAddress
    identityKeyPublic := ⟨(keyPair 50).publicKey, (keyPair 51).publicKey⟩
    signedPreKeyPublic := ⟨1, (keyPair 54).publicKey, olderPreKey.signature⟩
    oneTimePreKeyPublic := some ⟨1, (keyPair 53).publicKey⟩ }
  draw := ⟨"session", [.byte 60], [.byte 61], [.byte 62], [.byte 63], 7⟩
  bobCoins := ⟨[.byte 64], [.byte 65]⟩
  aliceCoins := [.byte 66]
  invite _ := some ⟨.ok, "session", 8⟩
  accept _ := some ⟨.ok⟩

theorem keyPair_generated (seed : UInt8) : symbolicSuite.kem.Generated (keyPair seed) :=
  ⟨_, rfl⟩

theorem account_keyed (address : E2eeAddress) (identity sign signed oneTime : UInt8) :
    (account address (keyPair identity) (keyPair sign) (keyPair signed)
      (keyPair oneTime)).Keyed symbolicSuite where
  identityKey := keyPair_generated identity
  signKey := ⟨_, rfl⟩
  signedPreKey := keyPair_generated signed
  oneTimePreKey := by
    intro key member
    rw [List.mem_singleton.mp member]
    exact keyPair_generated oneTime

theorem handshake_honest : handshake.Honest where
  correct := symbolicSuite_matching
  alice := {
    stored := rfl
    addressed := rfl
    valid := by decide
    pack := rfl
    keyed := account_keyed _ _ _ _ _
    cached := by simp [handshake, store]
    auth := rfl }
  bob := {
    stored := rfl
    addressed := rfl
    valid := by decide
    pack := rfl
    keyed := account_keyed _ _ _ _ _
    cached := by simp [handshake, store]
    auth := rfl }
  bundle := {
    pack := rfl
    addressed := rfl
    identityKey := rfl
    held := .inr ⟨by decide, by decide, by decide, keyPair_generated 54⟩
    published := rfl
    signatureLength := rfl
    verified := by decide
    oneTimePreKey := by
      rintro key ⟨⟩
      exact ⟨by decide, _, rfl, rfl⟩ }
  sessionId := by decide

/-- This is the session that Bob has stored with his answer. -/
def answeredSession : Session FreeTerm :=
  ((handshake.accepted (produceInviteRequest handshake.outbound)).2.1.sessions.load
    handshake.draw.sessionId bobAddress).get (by decide)

end Symbolic

/-- An older signed pre-key and a one-time pre-key lead to sessions that agree. -/
theorem olderPreKey_handshake_agrees :
    ∃ inviteMsg acceptMsg alice bob, Symbolic.handshake.invited.2.2 = some inviteMsg ∧
      (Symbolic.handshake.accepted inviteMsg).2.2 = some acceptMsg ∧
      (Symbolic.handshake.completed Symbolic.handshake.invited.2.1 acceptMsg).1 = some alice ∧
      (Symbolic.handshake.accepted inviteMsg).2.1.sessions.load alice.sessionId
        Symbolic.bobAddress = some bob ∧
      alice.associatedData = bob.associatedData := by
  obtain ⟨inviteMsg, acceptMsg, invited, accepted, completes⟩ :=
    pqcHandshake_agrees Symbolic.handshake Symbolic.handshake_honest
  obtain ⟨alice, bob, completed, stored, -, -, -, sameData, -⟩ :=
    completes Symbolic.handshake.invited.2.1 ⟨rfl, rfl, rfl⟩
  refine ⟨inviteMsg, acceptMsg, alice, bob, invited, accepted, ?_, stored, sameData⟩
  rw [completed]

end E2eeSecurity
