/-
This file gives the request for pre-key bundles: the signatures on the bundles, the sessions that
are started from them, and the request that waits for a later attempt.
-/
import E2eeSecurity.Client.Model

namespace E2eeSecurity

structure Subject where
  cn : String
  domain : String
  o : String
  ou : List String
  deriving DecidableEq

/-- The server signs a fingerprint that travels beside the signature. -/
structure ServerSignedSignature (β : Type) where
  signingAlg : UInt32
  signer : Subject
  signingPublicKeyFingerprint : Bytes β
  msgFingerprint : Bytes β
  signature : Bytes β
  deriving DecidableEq

structure SignedPreKeyBundle (β : Type) extends PreKeyBundle β where
  signature : Option (ServerSignedSignature β)
  deriving DecidableEq

structure GetPreKeyBundleResponse (β : Type) where
  code : ResponseCode
  userId : String
  preKeyBundles : List (SignedPreKeyBundle β)
  deriving DecidableEq

/-- These are the devices of a user that our other devices should also invite. -/
structure UserDevicesBundle where
  domain : String
  userId : String
  deviceIdList : List String
  deriving DecidableEq

/-- The generated code and the database are outside of this model, and so are the suites that a
signature algorithm selects; an unknown algorithm is a null pointer. -/
structure Platform (β : Type) where
  getE2eesPack : Packs β
  getDsSuite : UInt32 → Option (DsSuite β)
  loadOutboundSession : SessionStore β → E2eeAddress → E2eeAddress → Option (Session β)
  loadOutboundSessions : SessionStore β → E2eeAddress → String → String → List (Session β)
  packUserDevicesBundle : UserDevicesBundle → Bytes β
  packGroupUpdateKeyBundle : GroupUpdateKeyBundle β → Bytes β

variable {β : Type}

section Validation

def isValidSubject (subject : Subject) : Bool :=
  isValidString subject.cn && isValidString subject.domain && isValidString subject.o &&
    subject.ou.all isValidString

def isValidServerSignedSignature (entry : ServerSignedSignature β) : Bool :=
  isValidSubject entry.signer && isValidProtobuf entry.signingPublicKeyFingerprint &&
    isValidProtobuf entry.msgFingerprint && isValidProtobuf entry.signature

/-- An empty list passes. -/
def isValidServerSignedSignatureList (list : List (ServerSignedSignature β)) : Bool :=
  list.all isValidServerSignedSignature

def isValidGetPreKeyBundleResponse (response : GetPreKeyBundleResponse β) : Bool :=
  response.code == .ok && isValidString response.userId && !response.preKeyBundles.isEmpty &&
    response.preKeyBundles.all fun bundle => isValidPreKeyBundle bundle.toPreKeyBundle

/-- The signature is checked over the fingerprint that the entry itself carries. -/
def verifyServerSignature (getDsSuite : UInt32 → Option (DsSuite β))
    (serverPublicKey : Option (Bytes β)) (entry : ServerSignedSignature β) : Bool :=
  serverPublicKey.any fun publicKey =>
    (getDsSuite entry.signingAlg).any fun digitalSignatureSuite =>
      digitalSignatureSuite.verify entry.signature entry.msgFingerprint publicKey

def preKeyBundleSigned (getDsSuite : UInt32 → Option (DsSuite β))
    (serverPublicKey : Option (Bytes β)) (bundle : SignedPreKeyBundle β) : Bool :=
  bundle.signature.any fun entry =>
    isValidServerSignedSignature entry && verifyServerSignature getDsSuite serverPublicKey entry

end Validation

section Consuming

/-- This is what starting one session draws, and how the server answers the invitation. -/
structure SessionStart (β : Type) where
  pendingPlaintextId : String
  draw : OutboundDraw β
  invite : InviteMsg β → Option InviteResponse

def E2eeAddress.deviceId (address : E2eeAddress) : Option String :=
  match address.peer with
  | .user _ deviceId => some deviceId
  | .group _ => none

/-- The bundle of this device itself is skipped. -/
def otherPreKeyBundles (fromAddress : E2eeAddress) (response : GetPreKeyBundleResponse β) :
    List (SignedPreKeyBundle β) :=
  response.preKeyBundles.filter fun bundle =>
    !decide (fromAddress.userId = some response.userId ∧ fromAddress = bundle.userAddress)

/-- The plaintext is stored before the session that it waits for. -/
def startSessions (getE2eesPack : Packs β) (fromAddress : E2eeAddress)
    (groupPreKeyPlaintext : Option (Bytes β)) :
    (Nat → SessionStart β) → List (SignedPreKeyBundle β) → Client β → Client β
  | _, [], client => client
  | starts, bundle :: rest, client =>
      let waiting := match groupPreKeyPlaintext with
        | some data => client.storePendingPlaintextData fromAddress bundle.userAddress
            ⟨(starts 0).pendingPlaintextId, data⟩
        | none => client
      startSessions getE2eesPack fromAddress groupPreKeyPlaintext
        (fun index => starts (index + 1)) rest
        { waiting with
          store := (pqcNewOutboundSessionV2 getE2eesPack (starts 0).invite waiting.store
            fromAddress bundle.toPreKeyBundle (starts 0).draw).2.1 }

/-- One bad signature refuses all bundles. -/
def consumeGetPreKeyBundleResponse (platform : Platform β) (starts : Nat → SessionStart β)
    (client : Client β) (fromAddress : E2eeAddress) (groupPreKeyPlaintext : Option (Bytes β))
    (response : Option (GetPreKeyBundleResponse β)) : Bool × Client β :=
  match response with
  | some response =>
      if isValidAddress fromAddress && isValidGetPreKeyBundleResponse response &&
          (otherPreKeyBundles fromAddress response).all (preKeyBundleSigned platform.getDsSuite
            (client.serverPublicKey fromAddress)) then
        (true, startSessions platform.getE2eesPack fromAddress groupPreKeyPlaintext starts
          (otherPreKeyBundles fromAddress response) client)
      else (false, client)
  | none => (false, client)

end Consuming

section Syncing

/-- This is what one message to our own devices meets. -/
structure SyncStep where
  attempt : SendAttempt
  pendingPlaintextId : String

/-- A session without an answer keeps the message as a pending plaintext. -/
def sendToOwnDevices (getE2eesPack : Packs β) (fromAddress : E2eeAddress) (data : Bytes β) :
    (Nat → SyncStep) → List (Session β) → Client β → Client β
  | _, [], client => client
  | steps, session :: rest, client =>
      let sent : Client β :=
        if session.theirAddress.deviceId = fromAddress.deviceId then client
        else if session.responded then
          { client with
            store := (sendOne2oneMsgInternal getE2eesPack (steps 0).attempt client.store session
              data).store }
        else client.storePendingPlaintextData session.ourAddress session.theirAddress
          ⟨(steps 0).pendingPlaintextId, data⟩
      sendToOwnDevices getE2eesPack fromAddress data (fun index => steps (index + 1)) rest sent

/-- All sessions with our own user are loaded before the first message. -/
def sendSyncInviteMsg (platform : Platform β) (steps : Nat → SyncStep) (client : Client β)
    (fromAddress : E2eeAddress) (devices : UserDevicesBundle) : Client β :=
  sendToOwnDevices platform.getE2eesPack fromAddress (platform.packUserDevicesBundle devices) steps
    (platform.loadOutboundSessions client.store.sessions fromAddress
      (fromAddress.userId.getD "") fromAddress.domain) client

end Syncing

section Requesting

/-- This is what the server and the random source answer during one request for bundles. -/
structure BundleReply (β : Type) where
  response : Option (GetPreKeyBundleResponse β)
  starts : Nat → SessionStart β
  steps : Nat → SyncStep

/-- The devices of the answer are told to our own devices. -/
def bundleDevices (request : GetPreKeyBundleRequest) (response : GetPreKeyBundleResponse β) :
    UserDevicesBundle where
  domain := request.domain
  userId := request.userId
  deviceIdList := response.preKeyBundles.map fun bundle => bundle.userAddress.deviceId.getD ""

/-- Both paths consume the answer, and an active request is then told to our own devices. -/
def consumeBundleReply (platform : Platform β) (reply : BundleReply β) (client : Client β)
    (fromAddress : E2eeAddress) (request : GetPreKeyBundleRequest) (active : Bool)
    (groupPreKeyPlaintext : Option (Bytes β)) : Bool × Client β :=
  match reply.response with
  | some response =>
      let consumed := consumeGetPreKeyBundleResponse platform reply.starts client fromAddress
        groupPreKeyPlaintext (some response)
      if consumed.1 && active then
        (true, sendSyncInviteMsg platform reply.steps consumed.2 fromAddress
          (bundleDevices request response))
      else consumed
  | none => (false, client)

def Client.storePendingRequest (client : Client β) (address : E2eeAddress)
    (request : PendingRequest β) : Client β :=
  { client with store := client.store.storePendingRequest address request }

/-- Without any answer the request is dropped, and so is a request for a user that is gone. -/
def getPreKeyBundleInternal (platform : Platform β) (reply : BundleReply β) (client : Client β)
    (fromAddress : E2eeAddress) (auth : String) (request : GetPreKeyBundleRequest) (active : Bool)
    (groupPreKeyPlaintext : Option (Bytes β)) : Bool × Client β :=
  if isValidAddress fromAddress && isValidString auth && isValidString request.userId &&
      isValidString request.domain then
    let consumed := consumeBundleReply platform reply client fromAddress request active
      groupPreKeyPlaintext
    if consumed.1 then consumed
    else match reply.response with
      | some response =>
          if response.code = .notFound then consumed
          else (false, consumed.2.storePendingRequest fromAddress
            (.getPreKeyBundle request active groupPreKeyPlaintext))
      | none => consumed
  else (false, client)

end Requesting

end E2eeSecurity
