/-
This file runs the three calls of the handshake between two registered accounts.
-/
import E2eeSecurity.Ratchet.KeyHistory
import E2eeSecurity.Session.Model

namespace E2eeSecurity

variable {β : Type}

/-- A registered account lies in the store of its device.
Identity keys do not change, so the cache holds the same one or none. -/
structure Registered (getE2eesPack : Packs β) (cipherSuite : CipherSuite β) (store : Store β)
    (address : E2eeAddress) (account : Account β) : Prop where
  stored : store.account address = some account
  addressed : account.address = some address
  valid : isValidRegisteredAccount getE2eesPack account = true
  pack : getE2eesPack account.e2eesPackId = some cipherSuite
  keyed : account.Keyed cipherSuite
  cached : ∀ identityKey, store.cachedIdentityKey address = some identityKey →
    identityKey = account.identityKey
  auth : store.auth address = account.auth

/-- The key is the current one, or an older one that the store still has. -/
def HoldsSignedPreKey (cipherSuite : CipherSuite β) (store : Store β) (address : E2eeAddress)
    (account : Account β) (key : SignedPreKey β) : Prop :=
  key = account.signedPreKey ∨
    key.spkId ≠ account.signedPreKey.spkId ∧ store.signedPreKey address key.spkId = some key ∧
      isValidSignedPreKey key = true ∧ cipherSuite.kem.Generated key.keyPair

/-- The bundle publishes keys of the account, and its signature passes the check. -/
structure Publishes (cipherSuite : CipherSuite β) (store : Store β) (address : E2eeAddress)
    (account : Account β) (signedPreKey : SignedPreKey β) (bundle : PreKeyBundle β) : Prop where
  pack : bundle.e2eesPackId = account.e2eesPackId
  addressed : bundle.userAddress = address
  identityKey : bundle.identityKeyPublic = ⟨account.identityKey.asymKeyPair.publicKey,
    account.identityKey.signKeyPair.publicKey⟩
  held : HoldsSignedPreKey cipherSuite store address account signedPreKey
  published : bundle.signedPreKeyPublic =
    ⟨signedPreKey.spkId, signedPreKey.keyPair.publicKey, signedPreKey.signature⟩
  signatureLength : signedPreKey.signature.length = cipherSuite.ds.sigLen
  verified : cipherSuite.ds.verify signedPreKey.signature signedPreKey.keyPair.publicKey
    account.identityKey.signKeyPair.publicKey = true
  oneTimePreKey : ∀ key, bundle.oneTimePreKeyPublic = some key → key.opkId ≠ 0 ∧
    ∃ stored, lookupOneTimePreKey account key.opkId = some stored ∧
      stored.keyPair.publicKey = key.publicKey

/-- This is one handshake: the accounts and stores of both parties, the bundle of Bob, the
randomness of the three calls, and the answers of the server. -/
structure Handshake (β : Type) where
  getE2eesPack : Packs β
  cipherSuite : CipherSuite β
  aliceStore : Store β
  aliceAddress : E2eeAddress
  alice : Account β
  bobStore : Store β
  bobAddress : E2eeAddress
  bob : Account β
  signedPreKey : SignedPreKey β
  bundle : PreKeyBundle β
  draw : OutboundDraw β
  bobCoins : InboundCoins β
  aliceCoins : Bytes β
  invite : InviteMsg β → Option InviteResponse
  accept : AcceptMsg β → Option AcceptResponse

namespace Handshake

/-- Both accounts are registered with one pack, and the bundle is one of Bob. -/
structure Honest (handshake : Handshake β) : Prop where
  correct : handshake.cipherSuite.kem.Correct
  alice : Registered handshake.getE2eesPack handshake.cipherSuite handshake.aliceStore
    handshake.aliceAddress handshake.alice
  bob : Registered handshake.getE2eesPack handshake.cipherSuite handshake.bobStore
    handshake.bobAddress handshake.bob
  bundle : Publishes handshake.cipherSuite handshake.bobStore handshake.bobAddress handshake.bob
    handshake.signedPreKey handshake.bundle
  sessionId : handshake.draw.sessionId ≠ ""

/-- Alice stores a session and sends an invitation. -/
def invited (handshake : Handshake β) : Bool × Store β × Option (InviteMsg β) :=
  pqcNewOutboundSessionV2 handshake.getE2eesPack handshake.invite handshake.aliceStore
    handshake.aliceAddress handshake.bundle handshake.draw

/-- The server delivers the invitation with the identity key of Alice. -/
def delivered (handshake : Handshake β) (msg : InviteMsg β) : InviteMsg β :=
  { msg with aliceIdentityKey := handshake.alice.identityKey.asymKeyPair.publicKey }

/-- Bob stores a session and answers. -/
def accepted (handshake : Handshake β) (msg : InviteMsg β) :
    Bool × Store β × Option (AcceptMsg β) :=
  pqcNewInboundSession handshake.getE2eesPack handshake.accept handshake.bobStore handshake.bob
    (handshake.delivered msg) handshake.bobCoins

/-- Alice completes the session from a later state of her store. -/
def completed (handshake : Handshake β) (later : Store β) (msg : AcceptMsg β) :
    Option (Session β) × Store β :=
  pqcCompleteOutboundSession handshake.getE2eesPack later msg handshake.aliceCoins

/-- The invited session and the identity of Alice are still as the invitation left them. -/
structure Waiting (handshake : Handshake β) (later : Store β) : Prop where
  session : later.sessions.load handshake.draw.sessionId handshake.aliceAddress =
    handshake.invited.2.1.sessions.load handshake.draw.sessionId handshake.aliceAddress
  account : later.account handshake.aliceAddress =
    handshake.invited.2.1.account handshake.aliceAddress
  cached : later.cachedIdentityKey handshake.aliceAddress =
    handshake.invited.2.1.cachedIdentityKey handshake.aliceAddress

/-- This is the session that Alice stores before she invites. -/
def outbound (handshake : Handshake β) : Session β :=
  outboundSession handshake.cipherSuite handshake.alice handshake.aliceAddress handshake.bundle
    handshake.draw

end Handshake

section Outbound

variable {getE2eesPack : Packs β} {cipherSuite : CipherSuite β} {store : Store β}
  {address : E2eeAddress} {account : Account β} {signedPreKey : SignedPreKey β}
  {bundle : PreKeyBundle β}

theorem isValidString_iff (string : String) : isValidString string = true ↔ string ≠ "" := by
  simp [isValidString]

/-- A registered account has a valid suite and a valid address. -/
theorem Registered.checks
    (registered : Registered getE2eesPack cipherSuite store address account) :
    isValidE2eesPackId getE2eesPack account.e2eesPackId = true ∧
      isValidCipherSuite cipherSuite = true ∧ isValidAddress address = true ∧
      isValidString (store.auth address) = true := by
  have valid := registered.valid
  simp only [isValidRegisteredAccount, Bool.and_eq_true, registered.addressed,
    Option.any_some] at valid
  obtain ⟨⟨⟨⟨⟨⟨pack, addressed⟩, -⟩, -⟩, -⟩, -⟩, auth⟩ := valid
  refine ⟨pack, ?_, addressed, ?_⟩
  · simpa [isValidE2eesPackId, registered.pack] using pack
  · rw [registered.auth]
    exact auth

/-- The published signed pre-key is a generated one. -/
theorem Publishes.generated
    (registered : Registered getE2eesPack cipherSuite store address account)
    (publishes : Publishes cipherSuite store address account signedPreKey bundle) :
    cipherSuite.kem.Generated signedPreKey.keyPair := by
  obtain rfl | ⟨-, -, -, generated⟩ := publishes.held
  · exact registered.keyed.signedPreKey
  · exact generated

/-- The published one-time pre-key is a generated one. -/
theorem Publishes.oneTimeGenerated
    (registered : Registered getE2eesPack cipherSuite store address account)
    (publishes : Publishes cipherSuite store address account signedPreKey bundle)
    {key : OneTimePreKeyPublic β} (present : bundle.oneTimePreKeyPublic = some key) :
    ∃ stored, lookupOneTimePreKey account key.opkId = some stored ∧ stored.opkId = key.opkId ∧
      stored.keyPair.publicKey = key.publicKey ∧ cipherSuite.kem.Generated stored.keyPair := by
  obtain ⟨-, stored, found, same⟩ := publishes.oneTimePreKey key present
  have numbered : stored.opkId = key.opkId := by
    simpa using List.find?_some found
  exact ⟨stored, found, numbered, same,
    registered.keyed.oneTimePreKey stored (List.mem_of_find?_eq_some found)⟩

/-- A bundle of a registered account passes all checks of the inviting party. -/
theorem Publishes.checks
    (registered : Registered getE2eesPack cipherSuite store address account)
    (publishes : Publishes cipherSuite store address account signedPreKey bundle) :
    isValidPreKeyBundle bundle = true ∧ preKeyBundleFits cipherSuite bundle = true ∧
      cipherSuite.ds.verify bundle.signedPreKeyPublic.signature
        bundle.signedPreKeyPublic.publicKey bundle.identityKeyPublic.signPublicKey = true := by
  obtain ⟨-, -, validAddress, -⟩ := registered.checks
  obtain ⟨identityLength, -⟩ := registered.keyed.identityKey.lengths
  obtain ⟨signedLength, -⟩ := (publishes.generated registered).lengths
  obtain ⟨signCoins, signMade⟩ := registered.keyed.signKey
  have signLength := (cipherSuite.ds.dsKeyGenLength signCoins).1
  rw [signMade] at signLength
  have identityValid :=
    isValidProtobuf_of_length identityLength cipherSuite.kem.asymPubKeyLenPositive
  have signValid := isValidProtobuf_of_length signLength cipherSuite.ds.signPubKeyLenPositive
  have signedValid := isValidProtobuf_of_length signedLength cipherSuite.kem.asymPubKeyLenPositive
  have signatureValid :=
    isValidProtobuf_of_length publishes.signatureLength cipherSuite.ds.sigLenPositive
  refine ⟨?_, ?_, ?_⟩
  · simp only [isValidPreKeyBundle, publishes.addressed, publishes.identityKey,
      publishes.published, isValidIdentityKeyPublic, isValidSignedPreKeyPublic, validAddress,
      identityValid, signValid, signedValid, signatureValid, Bool.and_self]
  · have oneTime : (bundle.oneTimePreKeyPublic.all fun key =>
        key.publicKey.length == cipherSuite.kem.asymPubKeyLen) = true := by
      rw [Option.all_eq_true]
      intro key present
      obtain ⟨stored, -, -, same, generated⟩ := publishes.oneTimeGenerated registered present
      rw [← same, beq_iff_eq]
      exact generated.lengths.1
    simp [preKeyBundleFits, publishes.identityKey, publishes.published, identityLength,
      signLength, signedLength, publishes.signatureLength, oneTime]
  · rw [publishes.published, publishes.identityKey]
    exact publishes.verified

/-- A response keeps the store, or it sets the time of the session that it names. -/
theorem consumeInviteResponse_cases (store : Store β) (userAddress : E2eeAddress)
    (response : Option InviteResponse) :
    (consumeInviteResponse store userAddress response).2 = store ∨
      ∃ sessionId session inviteT, store.sessions.load sessionId userAddress = some session ∧
        (consumeInviteResponse store userAddress response).2 =
          store.storeSession { session with inviteT := inviteT } := by
  cases response with
  | none => exact .inl rfl
  | some response =>
      simp only [consumeInviteResponse]
      split
      · split
        · exact .inl rfl
        · cases loaded : store.sessions.load response.sessionId userAddress with
          | none => exact .inl rfl
          | some session => exact .inr ⟨_, session, response.inviteT, loaded, rfl⟩
      · exact .inl rfl

/-- The time of a stored session may change, and everything else stays. -/
theorem consumeInviteResponse_load {sessionId : String} {session : Session β}
    (found : store.sessions.load sessionId address = some session) (userAddress : E2eeAddress)
    (response : Option InviteResponse) :
    ∃ inviteT, (consumeInviteResponse store userAddress response).2.sessions.load sessionId
      address = some { session with inviteT := inviteT } := by
  obtain same | ⟨named, other, inviteT, loaded, changed⟩ :=
    consumeInviteResponse_cases store userAddress response
  · rw [same]
    exact ⟨session.inviteT, found⟩
  · rw [changed]
    obtain ⟨rfl, rfl⟩ := store.sessions.keyed _ _ _ loaded
    by_cases same : sessionId = other.sessionId ∧ address = other.ourAddress
    · rw [same.1, same.2, loaded, Option.some.injEq] at found
      subst found
      refine ⟨inviteT, ?_⟩
      simp [Store.storeSession, SessionStore.store, same]
    · refine ⟨session.inviteT, ?_⟩
      simpa [Store.storeSession, SessionStore.store, same] using found

/-- A response does not touch the accounts. -/
theorem consumeInviteResponse_accounts (store : Store β) (userAddress : E2eeAddress)
    (response : Option InviteResponse) :
    (consumeInviteResponse store userAddress response).2.account = store.account ∧
      (consumeInviteResponse store userAddress response).2.cachedIdentityKey =
        store.cachedIdentityKey := by
  obtain same | ⟨_, _, _, _, changed⟩ :=
    consumeInviteResponse_cases store userAddress response
  · rw [same]
    exact ⟨rfl, rfl⟩
  · rw [changed]
    exact ⟨rfl, rfl⟩

/-- A valid session goes out, and only its time may change in the store. -/
theorem inviteInternal_sent {invite : InviteMsg β → Option InviteResponse} {session : Session β}
    (valid : isValidUncompletedSession getE2eesPack session = true)
    (auth : isValidString (store.auth session.ourAddress) = true)
    (found : store.sessions.load session.sessionId session.ourAddress = some session) :
    let result := inviteInternal getE2eesPack invite store session
    result.2.2 = some (produceInviteRequest session) ∧
      (∃ inviteT, result.2.1.sessions.load session.sessionId session.ourAddress =
        some { session with inviteT := inviteT }) ∧
      result.2.1.account = store.account ∧
      result.2.1.cachedIdentityKey = store.cachedIdentityKey := by
  obtain ⟨inviteT, loaded⟩ := consumeInviteResponse_load found session.ourAddress
    (invite (produceInviteRequest session))
  obtain ⟨accounts, cached⟩ := consumeInviteResponse_accounts store session.ourAddress
    (invite (produceInviteRequest session))
  simp only [inviteInternal, valid, auth, Bool.and_self, if_true]
  split
  · exact ⟨rfl, ⟨inviteT, loaded⟩, accounts, cached⟩
  · exact ⟨rfl, ⟨inviteT, loaded⟩, accounts, cached⟩

/-- A session built from a bundle that passed its checks passes the check before the invitation. -/
theorem outboundSession_checks {draw : OutboundDraw β}
    (suite : isValidCipherSuite cipherSuite = true)
    (pack : getE2eesPack bundle.e2eesPackId = some cipherSuite)
    (ourAddress : isValidAddress address = true) (bundleValid : isValidPreKeyBundle bundle = true)
    (named : draw.sessionId ≠ "") :
    isValidUncompletedSession getE2eesPack
      (outboundSession cipherSuite account address bundle draw) = true := by
  simp only [isValidPreKeyBundle, Bool.and_eq_true, isValidSignedPreKeyPublic] at bundleValid
  obtain ⟨⟨theirAddress, -⟩, signed, -⟩ := bundleValid
  have packValid : isValidE2eesPackId getE2eesPack bundle.e2eesPackId = true := by
    simpa [isValidE2eesPackId, pack] using suite
  have secretLength := cipherSuite.kem.sharedSecretLenPositive
  have hashLength := cipherSuite.hf.hfLenPositive
  have temporary : isValidProtobuf
      (outboundSession cipherSuite account address bundle draw).tempSharedSecret = true := by
    rw [isValidProtobuf_iff, outboundSession, ← List.length_pos_iff]
    simp only [CipherSuite.zeros, List.length_append, List.length_replicate]
    omega
  have fingerprint : isValidProtobuf
      (outboundSession cipherSuite account address bundle draw).fingerprint = true :=
    isValidProtobuf_of_length (cipherSuite.hf.hkdfLength _ _ _ _) (by omega)
  have baseKey : isValidKeyPair ⟨(cipherSuite.kem.asymKeyGen draw.baseKey).1,
      (cipherSuite.kem.asymKeyGen draw.baseKey).2⟩ = true :=
    KemSuite.Generated.valid ⟨draw.baseKey, rfl⟩
  have ciphertexts (coins key : Bytes β) :
      (cipherSuite.kem.encapsulate coins key).2 ≠ [] :=
    encapsulate_nonempty suite coins key
  have inputs : isValidProtobufList
      (outboundSession cipherSuite account address bundle draw).preSharedInputList = true := by
    cases stock : bundle.oneTimePreKeyPublic with
    | none => simp [isValidProtobufList, outboundSession, stock, ciphertexts]
    | some key => simp [isValidProtobufList, outboundSession, stock, ciphertexts]
  rw [isValidUncompletedSession, temporary, fingerprint, inputs]
  simp [outboundSession, e2eesProtocolVersion, isValidString_iff, named, ourAddress, baseKey,
    packValid, theirAddress, signed]

/-- The session that Alice builds passes the check before the invitation. -/
theorem outboundSession_valid {theirStore : Store β} {theirAddress : E2eeAddress}
    {theirAccount : Account β} {draw : OutboundDraw β}
    (ours : Registered getE2eesPack cipherSuite store address account)
    (theirs : Registered getE2eesPack cipherSuite theirStore theirAddress theirAccount)
    (publishes : Publishes cipherSuite theirStore theirAddress theirAccount signedPreKey bundle)
    (named : draw.sessionId ≠ "") :
    isValidUncompletedSession getE2eesPack
      (outboundSession cipherSuite account address bundle draw) = true := by
  obtain ⟨-, suite, ourAddress, -⟩ := ours.checks
  refine outboundSession_checks suite ?_ ourAddress (publishes.checks theirs).1 named
  rw [publishes.pack, theirs.pack]

end Outbound

section Initialisation

variable {cipherSuite : CipherSuite β} {sharedSecret theirRatchetKey : Bytes β}
  {ourRatchetKey : KeyPair β}

theorem initialiseAsBob_made (suite : isValidCipherSuite cipherSuite = true)
    (secret : sharedSecret ≠ []) (ours : isValidKeyPair ourRatchetKey = true)
    (theirs : theirRatchetKey ≠ []) (coins : Bytes β) :
    ∃ ratchet, initialiseAsBob cipherSuite sharedSecret ourRatchetKey theirRatchetKey coins =
      some ratchet := by
  simp [initialiseAsBob, suite, secret, ours, theirs]

theorem initialiseAsAlice_made (suite : isValidCipherSuite cipherSuite = true)
    (secret : sharedSecret ≠ []) (ours : isValidKeyPair ourRatchetKey = true)
    (theirs : theirRatchetKey ≠ []) {ciphertext : Bytes β} (answered : ciphertext ≠ [])
    (coins : Bytes β) :
    ∃ ratchet, initialiseAsAlice cipherSuite sharedSecret ourRatchetKey theirRatchetKey
      (some ciphertext) coins = some ratchet := by
  simp [initialiseAsAlice, suite, pqcParam_of_valid suite, secret, ours, theirs, answered]

/-- An answer does not touch the accounts and the sessions. -/
theorem acceptInternal_keeps (getE2eesPack : Packs β)
    (accept : AcceptMsg β → Option AcceptResponse) (store : Store β) (msg : AcceptMsg β) :
    (acceptInternal getE2eesPack accept store msg).2.1.account = store.account ∧
      (acceptInternal getE2eesPack accept store msg).2.1.sessions = store.sessions := by
  unfold acceptInternal
  split
  · split <;> exact ⟨rfl, rfl⟩
  · exact ⟨rfl, rfl⟩

/-- A valid answer goes out, and the sessions stay as they are. -/
theorem acceptInternal_sent {getE2eesPack : Packs β}
    (accept : AcceptMsg β → Option AcceptResponse) (store : Store β) {msg : AcceptMsg β}
    (valid : isValidAcceptMsg getE2eesPack msg = true)
    (auth : isValidString (store.auth msg.sender) = true) :
    (acceptInternal getE2eesPack accept store msg).2.2 = some msg ∧
      (acceptInternal getE2eesPack accept store msg).2.1.sessions = store.sessions := by
  refine ⟨?_, (acceptInternal_keeps getE2eesPack accept store msg).2⟩
  simp only [acceptInternal, valid, auth, Bool.and_self, if_true]
  split <;> rfl

end Initialisation

namespace Handshake

variable {handshake : Handshake β}

/-- The invitation of an honest handshake goes out, and the session waits in the store. -/
theorem Honest.invited_sent (honest : handshake.Honest) :
    handshake.invited.2.2 = some (produceInviteRequest handshake.outbound) ∧
      (∃ inviteT, handshake.invited.2.1.sessions.load handshake.draw.sessionId
        handshake.aliceAddress = some { handshake.outbound with inviteT := inviteT }) ∧
      handshake.invited.2.1.account = handshake.aliceStore.account ∧
      handshake.invited.2.1.cachedIdentityKey = handshake.aliceStore.cachedIdentityKey := by
  obtain ⟨-, suite, address, auth⟩ := honest.alice.checks
  obtain ⟨bundleValid, bundleFits, verified⟩ := honest.bundle.checks honest.bob
  have pack : handshake.getE2eesPack handshake.bundle.e2eesPackId =
      some handshake.cipherSuite := by
    rw [honest.bundle.pack, honest.bob.pack]
  have sent : handshake.invited = inviteInternal handshake.getE2eesPack handshake.invite
      (handshake.aliceStore.storeSession handshake.outbound) handshake.outbound := by
    simp only [invited, pqcNewOutboundSessionV2, honest.alice.stored, pack, address,
      honest.alice.valid, bundleValid, suite, bundleFits, verified, Bool.and_self, if_true]
    rfl
  rw [sent]
  exact inviteInternal_sent
    (outboundSession_valid honest.alice honest.bob honest.bundle honest.sessionId) auth
    (SessionStore.load_store _ _)

/-- These are the keys of Bob that the delivered invitation selects. -/
theorem Honest.chosen (honest : handshake.Honest) :
    chooseSignedPreKey handshake.bobStore handshake.bob handshake.bobAddress
        handshake.outbound.bobSignedPreKeyId = some handshake.signedPreKey ∧
      ∃ oneTimePreKey, chooseOneTimePreKey handshake.bob handshake.outbound.bobOneTimePreKeyId =
          some oneTimePreKey ∧
        oneTimePreKey.map (fun key => (⟨key.opkId, key.keyPair.publicKey⟩ :
          OneTimePreKeyPublic β)) = handshake.bundle.oneTimePreKeyPublic ∧
        ∀ key, oneTimePreKey = some key →
          handshake.cipherSuite.kem.Generated key.keyPair := by
  constructor
  · have identifier : handshake.outbound.bobSignedPreKeyId = handshake.signedPreKey.spkId := by
      simp [outbound, outboundSession, honest.bundle.published]
    rw [identifier, chooseSignedPreKey]
    obtain current | ⟨older, stored, valid, -⟩ := honest.bundle.held
    · simp [current]
    · simp [older.symm, stored, valid]
  · cases stock : handshake.bundle.oneTimePreKeyPublic with
    | none =>
        refine ⟨none, ?_, rfl, by simp⟩
        simp [chooseOneTimePreKey, outbound, outboundSession, stock]
    | some key =>
        obtain ⟨stored, found, numbered, same, generated⟩ :=
          honest.bundle.oneTimeGenerated honest.bob stock
        have positive := (honest.bundle.oneTimePreKey key stock).1
        refine ⟨some stored, ?_, ?_, ?_⟩
        · simp [chooseOneTimePreKey, outbound, outboundSession, stock, positive, found,
            isValidOneTimePreKey, generated.valid]
        · simp [numbered, same]
        · rintro other ⟨⟩
          exact generated

/-- This is the secret of Bob, who reads the delivered invitation. -/
def bobSecret (handshake : Handshake β) (oneTimePreKey : Option (OneTimePreKey β)) : Bytes β :=
  inboundSecret handshake.cipherSuite handshake.bob.identityKey.asymKeyPair
    handshake.signedPreKey.keyPair (oneTimePreKey.map fun key => key.keyPair)
    (handshake.delivered (produceInviteRequest handshake.outbound))
    handshake.bobCoins.identityKey

/-- Bob encapsulates one slot to the identity key of Alice. -/
def reply (handshake : Handshake β) : Bytes β × Bytes β :=
  handshake.cipherSuite.kem.encapsulate handshake.bobCoins.identityKey
    handshake.alice.identityKey.asymKeyPair.publicKey

/-- Each slot of the secret is the same on both sides. -/
theorem Honest.secrets_agree (honest : handshake.Honest)
    {oneTimePreKey : Option (OneTimePreKey β)}
    (published : oneTimePreKey.map (fun key => (⟨key.opkId, key.keyPair.publicKey⟩ :
      OneTimePreKeyPublic β)) = handshake.bundle.oneTimePreKeyPublic)
    (generated : ∀ key, oneTimePreKey = some key →
      handshake.cipherSuite.kem.Generated key.keyPair) :
    completeSecret handshake.cipherSuite handshake.alice.identityKey
        handshake.outbound.tempSharedSecret handshake.reply.2 =
      handshake.bobSecret oneTimePreKey := by
  have aliceSlot : handshake.cipherSuite.kem.decaps
      handshake.alice.identityKey.asymKeyPair.privateKey handshake.reply.2 =
        handshake.reply.1 :=
    honest.alice.keyed.identityKey.matching honest.correct _
  have identitySlot := honest.bob.keyed.identityKey.matching honest.correct
    handshake.draw.identityKey
  have signedSlot := (honest.bundle.generated honest.bob).matching honest.correct
    handshake.draw.signedPreKey
  rw [completeSecret, aliceSlot, bobSecret, inboundSecret]
  cases oneTimePreKey with
  | none =>
      have stock : handshake.bundle.oneTimePreKeyPublic = none := published.symm
      simp [outbound, outboundSession, produceInviteRequest, delivered, stock, reply,
        honest.bundle.identityKey, honest.bundle.published, identitySlot, signedSlot,
        CipherSuite.zeros]
  | some key =>
      have oneTimeSlot := (generated key rfl).matching honest.correct handshake.draw.oneTimePreKey
      have stock : handshake.bundle.oneTimePreKeyPublic =
        some ⟨key.opkId, key.keyPair.publicKey⟩ := published.symm
      simp [outbound, outboundSession, produceInviteRequest, delivered, stock, reply,
        honest.bundle.identityKey, honest.bundle.published, identitySlot, signedSlot,
        oneTimeSlot, CipherSuite.zeros]

/-- Alice draws a base key with the invitation. -/
def baseKey (handshake : Handshake β) : KeyPair β :=
  ⟨(handshake.cipherSuite.kem.asymKeyGen handshake.draw.baseKey).1,
    (handshake.cipherSuite.kem.asymKeyGen handshake.draw.baseKey).2⟩

/-- This is the answer of Bob with his first ratchet key. -/
def answer (handshake : Handshake β) : AcceptMsg β where
  e2eesPackId := handshake.bundle.e2eesPackId
  sessionId := handshake.draw.sessionId
  sender := handshake.bobAddress
  receiver := handshake.aliceAddress
  encapsCiphertext := handshake.reply.2
  ratchetKey := (handshake.cipherSuite.kem.encapsulate handshake.bobCoins.baseKey
    handshake.baseKey.publicKey).2

/-- The delivered invitation passes the checks of Bob. -/
theorem Honest.delivered_valid (honest : handshake.Honest) :
    isValidInviteMsg handshake.getE2eesPack
      (handshake.delivered (produceInviteRequest handshake.outbound)) = true := by
  obtain ⟨-, suite, aliceAddress, -⟩ := honest.alice.checks
  have valid := outboundSession_valid honest.alice honest.bob honest.bundle honest.sessionId
  have identity := isValidProtobuf_of_length honest.alice.keyed.identityKey.lengths.1
    handshake.cipherSuite.kem.asymPubKeyLenPositive
  simp only [isValidUncompletedSession, Bool.and_eq_true, outboundSession, Option.any_some,
    isValidKeyPair] at valid
  obtain ⟨⟨⟨⟨⟨⟨⟨⟨⟨⟨version, pack⟩, named⟩, ours⟩, theirs⟩, -⟩, -⟩, base⟩, -⟩, inputs⟩, -⟩ := valid
  simp only [isValidInviteMsg, delivered, produceInviteRequest, outbound, outboundSession,
    Option.map_some, Option.getD_some, Bool.and_eq_true]
  exact ⟨⟨⟨⟨⟨⟨⟨version, pack⟩, named⟩, ours⟩, theirs⟩, identity⟩, base.2⟩, inputs⟩

/-- The answer passes the checks of both parties. -/
theorem Honest.answer_valid (honest : handshake.Honest) :
    isValidAcceptMsg handshake.getE2eesPack handshake.answer = true := by
  obtain ⟨-, suite, aliceAddress, -⟩ := honest.alice.checks
  obtain ⟨pack, -, bobAddress, -⟩ := honest.bob.checks
  have ciphertexts (coins key : Bytes β) :
      isValidProtobuf (handshake.cipherSuite.kem.encapsulate coins key).2 = true :=
    isValidProtobuf_of_length (encapsulate_length suite coins key).2 (kemCiphertextLen_pos suite)
  have named := (isValidString_iff _).mpr honest.sessionId
  rw [← honest.bundle.pack] at pack
  simp only [isValidAcceptMsg, answer, reply, pack, named, aliceAddress, bobAddress, ciphertexts,
    Bool.and_self]

/-- The secret of Bob starts with the slot that he encapsulates. -/
theorem Honest.bobSecret_nonempty (honest : handshake.Honest)
    (oneTimePreKey : Option (OneTimePreKey β)) : handshake.bobSecret oneTimePreKey ≠ [] := by
  obtain ⟨-, suite, -, -⟩ := honest.alice.checks
  have slot := (encapsulate_length suite handshake.bobCoins.identityKey
    handshake.alice.identityKey.asymKeyPair.publicKey).1
  have positive := handshake.cipherSuite.kem.sharedSecretLenPositive
  rw [← List.length_pos_iff, bobSecret, inboundSecret]
  simp only [delivered, List.length_append]
  omega

/-- All private keys of Bob have the length of the suite. -/
theorem Honest.privateKeys_fit (honest : handshake.Honest)
    {oneTimePreKey : Option (OneTimePreKey β)}
    (generated : ∀ key, oneTimePreKey = some key →
      handshake.cipherSuite.kem.Generated key.keyPair) :
    privateKeysFit handshake.cipherSuite ([handshake.bob.identityKey.asymKeyPair,
      handshake.signedPreKey.keyPair] ++ (oneTimePreKey.map fun key => key.keyPair).toList) =
        true := by
  have identity := honest.bob.keyed.identityKey.lengths.2
  have signed := (honest.bundle.generated honest.bob).lengths.2
  cases oneTimePreKey with
  | none => simp [privateKeysFit, identity, signed]
  | some key => simp [privateKeysFit, identity, signed, (generated key rfl).lengths.2]

/-- Bob answers, and his session lies in his store with a ratchet from the shared secret. -/
theorem Honest.accepted_sent (honest : handshake.Honest)
    {oneTimePreKey : Option (OneTimePreKey β)}
    (chosen : chooseOneTimePreKey handshake.bob handshake.outbound.bobOneTimePreKeyId =
      some oneTimePreKey)
    (generated : ∀ key, oneTimePreKey = some key →
      handshake.cipherSuite.kem.Generated key.keyPair) :
    ∃ ratchet,
      initialiseAsBob handshake.cipherSuite (handshake.bobSecret oneTimePreKey)
        handshake.signedPreKey.keyPair handshake.baseKey.publicKey handshake.bobCoins.baseKey =
          some ratchet ∧
      (handshake.accepted (produceInviteRequest handshake.outbound)).2.2 =
        some handshake.answer ∧
      (handshake.accepted (produceInviteRequest handshake.outbound)).2.1.sessions.load
          handshake.draw.sessionId handshake.bobAddress =
        some (inboundSession handshake.cipherSuite handshake.bob oneTimePreKey ratchet
          (handshake.delivered (produceInviteRequest handshake.outbound))) := by
  obtain ⟨-, suite, -, auth⟩ := honest.bob.checks
  have base : handshake.cipherSuite.kem.Generated handshake.baseKey := ⟨_, rfl⟩
  obtain ⟨ratchet, made⟩ := initialiseAsBob_made suite
    (honest.bobSecret_nonempty oneTimePreKey) (honest.bundle.generated honest.bob).valid
    ((isValidProtobuf_iff _).mp (isValidProtobuf_of_length base.lengths.1
      handshake.cipherSuite.kem.asymPubKeyLenPositive)) handshake.bobCoins.baseKey
  obtain ⟨-, -, -, shape⟩ := initialiseAsBob_some made
  have pack : handshake.getE2eesPack handshake.bundle.e2eesPackId =
      some handshake.cipherSuite := by
    rw [honest.bundle.pack, honest.bob.pack]
  have receiver : handshake.bundle.userAddress = handshake.bobAddress := honest.bundle.addressed
  let session := inboundSession handshake.cipherSuite handshake.bob oneTimePreKey ratchet
    (handshake.delivered (produceInviteRequest handshake.outbound))
  have owned : session.ourAddress = handshake.bobAddress := honest.bundle.addressed
  have produced : produceAcceptRequest session handshake.reply.2
      ((ratchet.senderChain.map fun chain => chain.ourRatchetPublicKey).getD []) =
        handshake.answer := by
    rw [produceAcceptRequest, owned, shape]
    rfl
  have sent : handshake.accepted (produceInviteRequest handshake.outbound) =
      acceptInternal handshake.getE2eesPack handshake.accept
        ((handshake.bobStore.markChosen handshake.bobAddress oneTimePreKey).storeSession session)
        handshake.answer := by
    rw [← produced]
    exact pqcNewInboundSession_eq handshake.accept honest.bob.valid honest.delivered_valid
      honest.bob.addressed pack honest.chosen.1 chosen (honest.privateKeys_fit generated) made
  have marked : (handshake.bobStore.markChosen handshake.bobAddress oneTimePreKey).auth =
      handshake.bobStore.auth := by
    cases oneTimePreKey <;> rfl
  rw [← marked] at auth
  obtain ⟨message, sessions⟩ := acceptInternal_sent handshake.accept
    ((handshake.bobStore.markChosen handshake.bobAddress oneTimePreKey).storeSession session)
    honest.answer_valid auth
  refine ⟨ratchet, made, ?_, ?_⟩
  · rw [sent, message]
  · rw [sent, sessions, ← owned]
    exact SessionStore.load_store _ session

/-- This is the session of Alice after the answer. -/
def finished (handshake : Handshake β) (oneTimePreKey : Option (OneTimePreKey β))
    (ratchet : Ratchet β) (inviteT : Int) : Session β :=
  { handshake.outbound with
    ratchet := some ratchet
    tempSharedSecret := handshake.bobSecret oneTimePreKey
    responded := true
    inviteT := inviteT }

/-- Alice loads her identity key from a later store. -/
theorem Honest.identity_loaded (honest : handshake.Honest) {later : Store β}
    (waiting : handshake.Waiting later) :
    loadIdentityKey handshake.getE2eesPack later handshake.aliceAddress =
      some handshake.alice.identityKey := by
  obtain ⟨-, -, accounts, cached⟩ := honest.invited_sent
  have stored : later.account handshake.aliceAddress = some handshake.alice := by
    rw [waiting.account, accounts, honest.alice.stored]
  cases cache : later.cachedIdentityKey handshake.aliceAddress with
  | none => simp [loadIdentityKey, cache, stored, honest.alice.valid]
  | some identityKey =>
      rw [waiting.cached, cached] at cache
      have same := honest.alice.cached identityKey cache
      rw [loadIdentityKey, waiting.cached, cached, cache, same]
      rfl

/-- Alice completes her session with a ratchet from the shared secret. -/
theorem Honest.completed_made (honest : handshake.Honest) {later : Store β}
    (waiting : handshake.Waiting later) {oneTimePreKey : Option (OneTimePreKey β)}
    (published : oneTimePreKey.map (fun key => (⟨key.opkId, key.keyPair.publicKey⟩ :
      OneTimePreKeyPublic β)) = handshake.bundle.oneTimePreKeyPublic)
    (generated : ∀ key, oneTimePreKey = some key →
      handshake.cipherSuite.kem.Generated key.keyPair) :
    ∃ ratchet inviteT,
      initialiseAsAlice handshake.cipherSuite (handshake.bobSecret oneTimePreKey)
        handshake.baseKey handshake.signedPreKey.keyPair.publicKey
        (some handshake.answer.ratchetKey) handshake.aliceCoins = some ratchet ∧
      handshake.completed later handshake.answer =
        (some (handshake.finished oneTimePreKey ratchet inviteT),
          later.storeSession (handshake.finished oneTimePreKey ratchet inviteT)) := by
  obtain ⟨-, suite, -, -⟩ := honest.alice.checks
  obtain ⟨-, ⟨inviteT, loaded⟩, -, -⟩ := honest.invited_sent
  rw [← waiting.session] at loaded
  have secrets := honest.secrets_agree published generated
  have base : handshake.cipherSuite.kem.Generated handshake.baseKey := ⟨_, rfl⟩
  have signed := isValidProtobuf_of_length (honest.bundle.generated honest.bob).lengths.1
    handshake.cipherSuite.kem.asymPubKeyLenPositive
  have answered : handshake.answer.ratchetKey ≠ [] :=
    encapsulate_nonempty suite _ _
  obtain ⟨ratchet, made⟩ := initialiseAsAlice_made suite
    (honest.bobSecret_nonempty oneTimePreKey) base.valid ((isValidProtobuf_iff _).mp signed)
    answered handshake.aliceCoins
  have pack : handshake.getE2eesPack handshake.bundle.e2eesPackId =
      some handshake.cipherSuite := by
    rw [honest.bundle.pack, honest.bob.pack]
  have chain : (handshake.outbound.ratchet.bind fun ratchet => ratchet.senderChain) =
      some ⟨[], handshake.signedPreKey.keyPair.publicKey, none⟩ := by
    simp [outbound, outboundSession, honest.bundle.published]
  refine ⟨ratchet, inviteT, made, ?_⟩
  rw [← secrets] at made
  rw [finished, ← secrets]
  have valid : isValidUncompletedSession handshake.getE2eesPack
      { handshake.outbound with inviteT := inviteT } = true :=
    outboundSession_valid honest.alice honest.bob honest.bundle honest.sessionId
  exact pqcCompleteOutboundSession_eq loaded honest.answer_valid valid
    (honest.identity_loaded waiting) pack rfl chain made

end Handshake

end E2eeSecurity
