/-
This file gives the session handshake of `session_pqc.c` with its messages and its store.
-/
import E2eeSecurity.Group.Info
import E2eeSecurity.Ratchet.Operations
import E2eeSecurity.Session.Account

namespace E2eeSecurity

/-- A missing ratchet or base key is a null pointer. -/
structure Session (β : Type) where
  version : String
  sessionId : String
  e2eesPackId : UInt32
  ourAddress : E2eeAddress
  theirAddress : E2eeAddress
  ratchet : Option (Ratchet β)
  tempSharedSecret : Bytes β
  aliceBaseKey : Option (KeyPair β)
  preSharedInputList : List (Bytes β)
  fingerprint : Bytes β
  associatedData : Bytes β
  bobSignedPreKeyId : UInt32
  bobOneTimePreKeyId : UInt32
  responded : Bool
  f2f : Bool
  inviteT : Int
  deriving DecidableEq

structure InviteMsg (β : Type) where
  version : String
  e2eesPackId : UInt32
  sessionId : String
  sender : E2eeAddress
  receiver : E2eeAddress
  aliceIdentityKey : Bytes β
  aliceBaseKey : Bytes β
  preSharedInputList : List (Bytes β)
  bobSignedPreKeyId : UInt32
  bobOneTimePreKeyId : UInt32
  inviteT : Int
  deriving DecidableEq

structure AcceptMsg (β : Type) where
  e2eesPackId : UInt32
  sessionId : String
  sender : E2eeAddress
  receiver : E2eeAddress
  encapsCiphertext : Bytes β
  ratchetKey : Bytes β
  deriving DecidableEq

inductive ResponseCode
  | ok
  | notFound
  | other
  deriving DecidableEq

structure InviteResponse where
  code : ResponseCode
  sessionId : String
  inviteT : Int

structure AcceptResponse where
  code : ResponseCode

/-- This is an end-to-end message whose payload is a one-to-one message. -/
structure One2oneMsg (β : Type) where
  version : String
  sessionId : String
  fromAddress : E2eeAddress
  toAddress : E2eeAddress
  payload : One2oneMsgPayload β
  deriving DecidableEq

/-- An empty device identifier asks for all devices of the user. -/
structure GetPreKeyBundleRequest where
  domain : String
  userId : String
  deviceId : String
  deriving DecidableEq

/-- A request without a good response is kept for a later attempt.
These six kinds are all that the code keeps. -/
inductive PendingRequest (β : Type)
  | getPreKeyBundle (request : GetPreKeyBundleRequest) (active : Bool)
      (groupPreKeyPlaintext : Option (Bytes β))
  | invite (msg : InviteMsg β)
  | accept (msg : AcceptMsg β)
  | sendOne2oneMsg (msg : One2oneMsg β)
  | addGroupMemberDevice (msg : AddGroupMemberDeviceMsg β)
  | protoMsg (receiver : E2eeAddress) (protoMsgId : String)
  deriving DecidableEq

/-- The session table is a map under the session identifier and our address. -/
structure SessionStore (β : Type) where
  load : String → E2eeAddress → Option (Session β)
  keyed : ∀ sessionId address session, load sessionId address = some session →
    session.sessionId = sessionId ∧ session.ourAddress = address

/-- These are the database tables and the account cache that the handshake reads. -/
structure Store (β : Type) where
  account : E2eeAddress → Option (Account β)
  cachedIdentityKey : E2eeAddress → Option (IdentityKey β)
  signedPreKey : E2eeAddress → UInt32 → Option (SignedPreKey β)
  auth : E2eeAddress → String
  sessions : SessionStore β
  pendingRequests : E2eeAddress → List (PendingRequest β)

variable {β : Type}

/-- A session replaces the one under the same identifier and address. -/
def SessionStore.store (sessions : SessionStore β) (session : Session β) : SessionStore β where
  load sessionId address :=
    if sessionId = session.sessionId ∧ address = session.ourAddress then some session
    else sessions.load sessionId address
  keyed := by
    intro sessionId address stored found
    split at found
    · rename_i same
      cases found
      exact ⟨same.1.symm, same.2.symm⟩
    · exact sessions.keyed sessionId address stored found

@[simp] theorem SessionStore.load_store (sessions : SessionStore β) (session : Session β) :
    (sessions.store session).load session.sessionId session.ourAddress = some session := by
  simp [SessionStore.store]

def Store.storeSession (store : Store β) (session : Session β) : Store β :=
  { store with sessions := store.sessions.store session }

/-- The key stays in the database and is marked. -/
def Store.updateOneTimePreKey (store : Store β) (address : E2eeAddress) (opkId : UInt32) :
    Store β :=
  { store with
    account := fun owner =>
      if owner = address then (store.account owner).map fun account => markOpkAsUsed account opkId
      else store.account owner }

def Store.storePendingRequest (store : Store β) (address : E2eeAddress)
    (request : PendingRequest β) : Store β :=
  { store with
    pendingRequests := fun owner =>
      if owner = address then store.pendingRequests owner ++ [request]
      else store.pendingRequests owner }

section Validation

variable (getE2eesPack : Packs β)

def isValidProtobufList (list : List (Bytes β)) : Bool := list.all isValidProtobuf

def isValidInviteMsg (msg : InviteMsg β) : Bool :=
  isValidString msg.version && isValidE2eesPackId getE2eesPack msg.e2eesPackId &&
    isValidString msg.sessionId && isValidAddress msg.sender && isValidAddress msg.receiver &&
    isValidProtobuf msg.aliceIdentityKey && isValidProtobuf msg.aliceBaseKey &&
    isValidProtobufList msg.preSharedInputList

def isValidAcceptMsg (msg : AcceptMsg β) : Bool :=
  isValidE2eesPackId getE2eesPack msg.e2eesPackId && isValidString msg.sessionId &&
    isValidAddress msg.sender && isValidAddress msg.receiver &&
    isValidProtobuf msg.encapsCiphertext && isValidProtobuf msg.ratchetKey

/-- The answer of the other party is not asked for, so a completed session also passes. -/
def isValidUncompletedSession (session : Session β) : Bool :=
  isValidString session.version && isValidE2eesPackId getE2eesPack session.e2eesPackId &&
    isValidString session.sessionId && isValidAddress session.ourAddress &&
    isValidAddress session.theirAddress && isValidProtobuf session.tempSharedSecret &&
    isValidProtobuf session.fingerprint && session.aliceBaseKey.any isValidKeyPair &&
    !session.preSharedInputList.isEmpty && isValidProtobufList session.preSharedInputList &&
    (session.ratchet.bind fun ratchet => ratchet.senderChain).any fun chain =>
      isValidProtobuf chain.theirRatchetPublicKey

def isValidInviteResponse (response : InviteResponse) : Bool :=
  match response.code with
  | .notFound => true
  | .ok => isValidString response.sessionId
  | .other => false

def isValidAcceptResponse (response : AcceptResponse) : Bool :=
  match response.code with
  | .notFound => true
  | .ok => true
  | .other => false

end Validation

section Fingerprint

/-- Both parties hash the public keys of the handshake. -/
def sessionFingerprint (cipherSuite : CipherSuite β) (hashInput : Bytes β) : Bytes β :=
  cipherSuite.hf.hkdf hashInput (cipherSuite.zeros cipherSuite.hf.hfLen)
    (cipherSuite.text "Fingerprint") (2 * cipherSuite.hf.hfLen)

end Fingerprint

section Outbound

/-- This is the protocol version, `E2EES_PROTOCOL_VERSION`. -/
def e2eesProtocolVersion : String := "\x01"

/-- This is what a new outbound session draws: its identifier, its coins, and its time. -/
structure OutboundDraw (β : Type) where
  sessionId : String
  identityKey : Bytes β
  signedPreKey : Bytes β
  oneTimePreKey : Bytes β
  baseKey : Bytes β
  now : Int

/-- The lengths of all published keys are checked. -/
def preKeyBundleFits (cipherSuite : CipherSuite β) (bundle : PreKeyBundle β) : Bool :=
  bundle.identityKeyPublic.asymPublicKey.length == cipherSuite.kem.asymPubKeyLen &&
    bundle.identityKeyPublic.signPublicKey.length == cipherSuite.ds.signPubKeyLen &&
    bundle.signedPreKeyPublic.publicKey.length == cipherSuite.kem.asymPubKeyLen &&
    bundle.signedPreKeyPublic.signature.length == cipherSuite.ds.sigLen &&
    bundle.oneTimePreKeyPublic.all fun key =>
      key.publicKey.length == cipherSuite.kem.asymPubKeyLen

/-- The first slot of the secret is zero until the other party answers.
The ratchet only keeps the signed pre-key of the other party. -/
def outboundSession (cipherSuite : CipherSuite β) (account : Account β) (ourAddress : E2eeAddress)
    (bundle : PreKeyBundle β) (draw : OutboundDraw β) : Session β :=
  let keyLen := cipherSuite.kem.asymPubKeyLen
  let ourKey := account.identityKey.asymKeyPair.publicKey.take keyLen
  let theirIk := bundle.identityKeyPublic.asymPublicKey
  let theirSpk := bundle.signedPreKeyPublic.publicKey
  let identity := cipherSuite.kem.encapsulate draw.identityKey theirIk
  let signed := cipherSuite.kem.encapsulate draw.signedPreKey theirSpk
  let oneTime := bundle.oneTimePreKeyPublic.map fun key =>
    cipherSuite.kem.encapsulate draw.oneTimePreKey key.publicKey
  let baseKey := cipherSuite.kem.asymKeyGen draw.baseKey
  { version := e2eesProtocolVersion
    sessionId := draw.sessionId
    e2eesPackId := bundle.e2eesPackId
    ourAddress := ourAddress
    theirAddress := bundle.userAddress
    ratchet := some {
      rootKey := []
      rootSequence := 0
      senderChain := some ⟨[], theirSpk, none⟩
      receiverChain := none
      skippedMsgKeyList := none
      receivedMessageSequence := 0
      sendingMessageSequence := 0 }
    tempSharedSecret := cipherSuite.zeros cipherSuite.kem.sharedSecretLen ++ identity.1 ++
      signed.1 ++ (oneTime.map fun call => call.1).getD []
    aliceBaseKey := some ⟨baseKey.1, baseKey.2⟩
    preSharedInputList := [identity.2, signed.2] ++ (oneTime.map fun call => call.2).toList
    fingerprint := sessionFingerprint cipherSuite (ourKey ++ theirIk.take keyLen ++
      theirSpk.take keyLen ++
        (bundle.oneTimePreKeyPublic.map fun key => key.publicKey.take keyLen).getD [])
    associatedData := ourKey ++ theirIk.take keyLen
    bobSignedPreKeyId := bundle.signedPreKeyPublic.spkId
    bobOneTimePreKeyId := (bundle.oneTimePreKeyPublic.map fun key => key.opkId).getD 0
    responded := false
    f2f := false
    inviteT := draw.now }

/-- The identity key is left empty, and the server fills it in. -/
def produceInviteRequest (session : Session β) : InviteMsg β where
  version := session.version
  e2eesPackId := session.e2eesPackId
  sessionId := session.sessionId
  sender := session.ourAddress
  receiver := session.theirAddress
  aliceIdentityKey := []
  aliceBaseKey := (session.aliceBaseKey.map fun pair => pair.publicKey).getD []
  preSharedInputList := session.preSharedInputList
  bobSignedPreKeyId := session.bobSignedPreKeyId
  bobOneTimePreKeyId := session.bobOneTimePreKeyId
  inviteT := session.inviteT

/-- The response names the session whose time is updated. -/
def consumeInviteResponse (store : Store β) (userAddress : E2eeAddress)
    (response : Option InviteResponse) : Bool × Store β :=
  match response with
  | some response =>
      if isValidAddress userAddress && isValidInviteResponse response then
        if response.code = .notFound then (true, store)
        else match store.sessions.load response.sessionId userAddress with
          | some session => (true, store.storeSession { session with inviteT := response.inviteT })
          | none => (false, store)
      else (false, store)
  | none => (false, store)

/-- The last component is the request that goes to the server. -/
def inviteInternal (getE2eesPack : Packs β) (invite : InviteMsg β → Option InviteResponse)
    (store : Store β) (session : Session β) : Bool × Store β × Option (InviteMsg β) :=
  if isValidUncompletedSession getE2eesPack session &&
      isValidString (store.auth session.ourAddress) then
    let msg := produceInviteRequest session
    let consumed := consumeInviteResponse store session.ourAddress (invite msg)
    if consumed.1 then (true, consumed.2, some msg)
    else (false, consumed.2.storePendingRequest session.ourAddress (.invite msg), some msg)
  else (false, store, none)

/-- The session is stored before the request is sent. -/
def pqcNewOutboundSessionV2 (getE2eesPack : Packs β)
    (invite : InviteMsg β → Option InviteResponse) (store : Store β) (sender : E2eeAddress)
    (bundle : PreKeyBundle β) (draw : OutboundDraw β) :
    Bool × Store β × Option (InviteMsg β) :=
  match store.account sender, getE2eesPack bundle.e2eesPackId with
  | some account, some cipherSuite =>
      if isValidAddress sender && isValidRegisteredAccount getE2eesPack account &&
          isValidPreKeyBundle bundle && isValidCipherSuite cipherSuite &&
          preKeyBundleFits cipherSuite bundle &&
          cipherSuite.ds.verify bundle.signedPreKeyPublic.signature
            bundle.signedPreKeyPublic.publicKey bundle.identityKeyPublic.signPublicKey then
        let session := outboundSession cipherSuite account sender bundle draw
        inviteInternal getE2eesPack invite (store.storeSession session) session
      else (false, store, none)
  | _, _ => (false, store, none)

end Outbound

section Inbound

/-- An identifier other than the current one asks the database for an older key. -/
def chooseSignedPreKey (store : Store β) (account : Account β) (address : E2eeAddress)
    (bobSignedPreKeyId : UInt32) : Option (SignedPreKey β) :=
  if account.signedPreKey.spkId ≠ bobSignedPreKeyId then
    (store.signedPreKey address bobSignedPreKeyId).filter isValidSignedPreKey
  else some account.signedPreKey

/-- The identifier 0 stands for no one-time pre-key. -/
def chooseOneTimePreKey (account : Account β) (bobOneTimePreKeyId : UInt32) :
    Option (Option (OneTimePreKey β)) :=
  if bobOneTimePreKeyId ≠ 0 then
    ((lookupOneTimePreKey account bobOneTimePreKeyId).filter isValidOneTimePreKey).map some
  else some none

/-- The four slots are encapsulated to Alice and decapsulated under three keys of Bob. -/
def inboundSecret (cipherSuite : CipherSuite β) (identityKey signedPreKey : KeyPair β)
    (oneTimePreKey : Option (KeyPair β)) (msg : InviteMsg β) (coins : Bytes β) : Bytes β :=
  (cipherSuite.kem.encapsulate coins msg.aliceIdentityKey).1 ++
    cipherSuite.kem.decaps identityKey.privateKey (msg.preSharedInputList.getD 0 []) ++
    cipherSuite.kem.decaps signedPreKey.privateKey (msg.preSharedInputList.getD 1 []) ++
    (oneTimePreKey.map fun pair =>
      cipherSuite.kem.decaps pair.privateKey (msg.preSharedInputList.getD 2 [])).getD []

/-- The fingerprint always hashes the current signed pre-key of the account. -/
def inboundSession (cipherSuite : CipherSuite β) (account : Account β)
    (oneTimePreKey : Option (OneTimePreKey β)) (ratchet : Ratchet β) (msg : InviteMsg β) :
    Session β :=
  let keyLen := cipherSuite.kem.asymPubKeyLen
  let theirKey := msg.aliceIdentityKey.take keyLen
  let ourKey := account.identityKey.asymKeyPair.publicKey.take keyLen
  { version := msg.version
    sessionId := msg.sessionId
    e2eesPackId := msg.e2eesPackId
    ourAddress := msg.receiver
    theirAddress := msg.sender
    ratchet := some ratchet
    tempSharedSecret := []
    aliceBaseKey := none
    preSharedInputList := []
    fingerprint := sessionFingerprint cipherSuite (theirKey ++ ourKey ++
      account.signedPreKey.keyPair.publicKey.take keyLen ++
        (oneTimePreKey.map fun key => key.keyPair.publicKey.take keyLen).getD [])
    associatedData := theirKey ++ ourKey
    bobSignedPreKeyId := msg.bobSignedPreKeyId
    bobOneTimePreKeyId := (oneTimePreKey.map fun key => key.opkId).getD 0
    responded := true
    f2f := false
    inviteT := msg.inviteT }

/-- The private keys must have the length of the suite. -/
def privateKeysFit (cipherSuite : CipherSuite β) (pairs : List (KeyPair β)) : Bool :=
  pairs.all fun pair => pair.privateKey.length == cipherSuite.kem.asymPrivKeyLen

def consumeAcceptResponse (userAddress : E2eeAddress) (response : Option AcceptResponse) : Bool :=
  isValidAddress userAddress && response.any isValidAcceptResponse

/-- The inputs pass the checks of the message before the request is built. -/
def acceptInternal (getE2eesPack : Packs β) (accept : AcceptMsg β → Option AcceptResponse)
    (store : Store β) (msg : AcceptMsg β) : Bool × Store β × Option (AcceptMsg β) :=
  if isValidAcceptMsg getE2eesPack msg && isValidString (store.auth msg.sender) then
    if consumeAcceptResponse msg.sender (accept msg) then (true, store, some msg)
    else (false, store.storePendingRequest msg.sender (.accept msg), some msg)
  else (false, store, none)

/-- The sender of the answer is the receiver of the invitation. -/
def produceAcceptRequest (session : Session β) (ciphertext ourRatchetKey : Bytes β) :
    AcceptMsg β where
  e2eesPackId := session.e2eesPackId
  sessionId := session.sessionId
  sender := session.ourAddress
  receiver := session.theirAddress
  encapsCiphertext := ciphertext
  ratchetKey := ourRatchetKey

/-- A chosen one-time pre-key is marked in the database. -/
def Store.markChosen (store : Store β) (address : E2eeAddress) :
    Option (OneTimePreKey β) → Store β
  | some key => store.updateOneTimePreKey address key.opkId
  | none => store

/-- These are the coins of an inbound session: for the identity key and for the base key. -/
structure InboundCoins (β : Type) where
  identityKey : Bytes β
  baseKey : Bytes β

/-- The one-time pre-key is marked as used before the lengths are checked.
The session is stored before the answer is sent. -/
def pqcNewInboundSession (getE2eesPack : Packs β) (accept : AcceptMsg β → Option AcceptResponse)
    (store : Store β) (account : Account β) (msg : InviteMsg β) (coins : InboundCoins β) :
    Bool × Store β × Option (AcceptMsg β) :=
  if isValidRegisteredAccount getE2eesPack account && isValidInviteMsg getE2eesPack msg then
    match account.address, getE2eesPack msg.e2eesPackId with
    | some address, some cipherSuite =>
        match chooseSignedPreKey store account address msg.bobSignedPreKeyId,
            chooseOneTimePreKey account msg.bobOneTimePreKeyId with
        | some signedPreKey, some oneTimePreKey =>
            let marked := store.markChosen address oneTimePreKey
            let identityPair := account.identityKey.asymKeyPair
            let oneTimePair := oneTimePreKey.map fun key => key.keyPair
            if privateKeysFit cipherSuite
                ([identityPair, signedPreKey.keyPair] ++ oneTimePair.toList) then
              let secret := inboundSecret cipherSuite identityPair signedPreKey.keyPair
                oneTimePair msg coins.identityKey
              match initialiseAsBob cipherSuite secret signedPreKey.keyPair msg.aliceBaseKey
                  coins.baseKey with
              | some ratchet =>
                  let session := inboundSession cipherSuite account oneTimePreKey ratchet msg
                  acceptInternal getE2eesPack accept (marked.storeSession session)
                    (produceAcceptRequest session
                      (cipherSuite.kem.encapsulate coins.identityKey msg.aliceIdentityKey).2
                      ((ratchet.senderChain.map fun chain => chain.ourRatchetPublicKey).getD []))
              | none => (false, marked, none)
            else (false, marked, none)
        | _, _ => (false, store, none)
    | _, _ => (false, store, none)
  else (false, store, none)

/-- The call answers when all of its keys are present and the ratchet is made. -/
theorem pqcNewInboundSession_eq {getE2eesPack : Packs β}
    (accept : AcceptMsg β → Option AcceptResponse) {store : Store β} {account : Account β}
    {msg : InviteMsg β} {coins : InboundCoins β} {cipherSuite : CipherSuite β}
    {address : E2eeAddress} {signedPreKey : SignedPreKey β}
    {oneTimePreKey : Option (OneTimePreKey β)} {ratchet : Ratchet β}
    (valid : isValidRegisteredAccount getE2eesPack account = true)
    (invited : isValidInviteMsg getE2eesPack msg = true)
    (addressed : account.address = some address)
    (pack : getE2eesPack msg.e2eesPackId = some cipherSuite)
    (signedChosen : chooseSignedPreKey store account address msg.bobSignedPreKeyId =
      some signedPreKey)
    (oneTimeChosen : chooseOneTimePreKey account msg.bobOneTimePreKeyId = some oneTimePreKey)
    (fit : privateKeysFit cipherSuite ([account.identityKey.asymKeyPair, signedPreKey.keyPair] ++
      (oneTimePreKey.map fun key => key.keyPair).toList) = true)
    (made : initialiseAsBob cipherSuite (inboundSecret cipherSuite
      account.identityKey.asymKeyPair signedPreKey.keyPair
      (oneTimePreKey.map fun key => key.keyPair) msg coins.identityKey) signedPreKey.keyPair
      msg.aliceBaseKey coins.baseKey = some ratchet) :
    let session := inboundSession cipherSuite account oneTimePreKey ratchet msg
    pqcNewInboundSession getE2eesPack accept store account msg coins =
      acceptInternal getE2eesPack accept
        ((store.markChosen address oneTimePreKey).storeSession session)
        (produceAcceptRequest session
          (cipherSuite.kem.encapsulate coins.identityKey msg.aliceIdentityKey).2
          ((ratchet.senderChain.map fun chain => chain.ourRatchetPublicKey).getD [])) := by
  simp only [pqcNewInboundSession, valid, invited, Bool.and_self, if_true, addressed, pack,
    signedChosen, oneTimeChosen, fit, made]

end Inbound

section Completion

/-- The cached identity key comes first, and then the one of a valid stored account. -/
def loadIdentityKey (getE2eesPack : Packs β) (store : Store β) (address : E2eeAddress) :
    Option (IdentityKey β) :=
  (store.cachedIdentityKey address).or
    (((store.account address).filter (isValidRegisteredAccount getE2eesPack)).map
      fun account => account.identityKey)

/-- Decapsulation writes over the first slot of the stored secret. -/
def completeSecret (cipherSuite : CipherSuite β) (identityKey : IdentityKey β)
    (tempSharedSecret encapsCiphertext : Bytes β) : Bytes β :=
  cipherSuite.kem.decaps identityKey.asymKeyPair.privateKey encapsCiphertext ++
    tempSharedSecret.drop cipherSuite.kem.sharedSecretLen

/-- The completed session keeps its secret and its base key, and it is stored. -/
def pqcCompleteOutboundSession (getE2eesPack : Packs β) (store : Store β) (msg : AcceptMsg β)
    (coins : Bytes β) : Option (Session β) × Store β :=
  match store.sessions.load msg.sessionId msg.receiver with
  | some session =>
      if isValidAcceptMsg getE2eesPack msg && isValidUncompletedSession getE2eesPack session then
        match loadIdentityKey getE2eesPack store session.ourAddress,
            getE2eesPack session.e2eesPackId, session.aliceBaseKey,
            session.ratchet.bind fun ratchet => ratchet.senderChain with
        | some identityKey, some cipherSuite, some baseKey, some chain =>
            let secret := completeSecret cipherSuite identityKey session.tempSharedSecret
              msg.encapsCiphertext
            match initialiseAsAlice cipherSuite secret baseKey chain.theirRatchetPublicKey
                (some msg.ratchetKey) coins with
            | some ratchet =>
                let completed : Session β := { session with
                  ratchet := some ratchet
                  tempSharedSecret := secret
                  responded := true }
                (some completed, store.storeSession completed)
            | none => (none, store)
        | _, _, _, _ => (none, store)
      else (none, store)
  | none => (none, store)

/-- The call stores the completed session when the ratchet is made. -/
theorem pqcCompleteOutboundSession_eq {getE2eesPack : Packs β} {store : Store β}
    {msg : AcceptMsg β} {coins : Bytes β} {session : Session β} {identityKey : IdentityKey β}
    {cipherSuite : CipherSuite β} {baseKey : KeyPair β} {chain : SenderChainNode β}
    {ratchet : Ratchet β}
    (loaded : store.sessions.load msg.sessionId msg.receiver = some session)
    (answered : isValidAcceptMsg getE2eesPack msg = true)
    (valid : isValidUncompletedSession getE2eesPack session = true)
    (identity : loadIdentityKey getE2eesPack store session.ourAddress = some identityKey)
    (pack : getE2eesPack session.e2eesPackId = some cipherSuite)
    (base : session.aliceBaseKey = some baseKey)
    (waiting : (session.ratchet.bind fun ratchet => ratchet.senderChain) = some chain)
    (made : initialiseAsAlice cipherSuite (completeSecret cipherSuite identityKey
      session.tempSharedSecret msg.encapsCiphertext) baseKey chain.theirRatchetPublicKey
      (some msg.ratchetKey) coins = some ratchet) :
    let completed : Session β := { session with
      ratchet := some ratchet
      tempSharedSecret := completeSecret cipherSuite identityKey session.tempSharedSecret
        msg.encapsCiphertext
      responded := true }
    pqcCompleteOutboundSession getE2eesPack store msg coins =
      (some completed, store.storeSession completed) := by
  simp only [pqcCompleteOutboundSession, loaded, answered, valid, Bool.and_self, if_true,
    identity, pack, base, waiting, made]

end Completion

end E2eeSecurity
