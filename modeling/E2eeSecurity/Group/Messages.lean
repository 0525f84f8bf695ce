/-
This file gives the group messages: how a sender encrypts one, what the answer of the server does to
the outbound session, and how a receiver opens the message.
-/
import E2eeSecurity.Group.Operations

namespace E2eeSecurity

structure GroupMsgPayload (β : Type) where
  sequence : UInt32
  ciphertext : Bytes β
  signature : Bytes β
  deriving DecidableEq

/-- This is an end-to-end message whose payload is a group message. -/
structure E2eeMsg (β : Type) where
  version : String
  sessionId : String
  fromAddress : E2eeAddress
  toAddress : E2eeAddress
  groupMsg : GroupMsgPayload β
  deriving DecidableEq

structure SendGroupMsgRequest (β : Type) where
  msg : E2eeMsg β
  allowList : List E2eeAddress
  denyList : List E2eeAddress
  deriving DecidableEq

structure SendGroupMsgResponse where
  code : ResponseCode
  deriving DecidableEq

structure SendGroupMsgParams where
  senderAddress : E2eeAddress
  groupAddress : E2eeAddress
  allowList : List E2eeAddress
  denyList : List E2eeAddress

/-- These are the random bytes of a signature and what is in a fresh signature buffer. -/
structure SignatureDraw (β : Type) where
  coins : Bytes β
  buffer : Bytes β

variable {β : Type}

def isValidGroupMsgPayload (payload : GroupMsgPayload β) : Bool :=
  isValidProtobuf payload.ciphertext && isValidProtobuf payload.signature

def isValidE2eeMsg (msg : E2eeMsg β) : Bool :=
  isValidString msg.version && isValidString msg.sessionId && isValidAddress msg.fromAddress &&
    isValidAddress msg.toAddress && isValidGroupMsgPayload msg.groupMsg

def isValidSendGroupMsgInputs (params : SendGroupMsgParams) : Bool :=
  isValidAddress params.senderAddress && isValidAddress params.groupAddress &&
    params.allowList.all isValidAddress && params.denyList.all isValidAddress

/-- No response at all is refused as well. -/
def isValidSendGroupMsgResponse (response : Option SendGroupMsgResponse) : Bool :=
  response.any fun answer => answer.code == .ok

section Keys

variable (cipherSuite : CipherSuite β)

def advanceGroupChainKey (chainKey : Bytes β) : Bytes β :=
  overwriteProtobuf chainKey (cipherSuite.hf.hmac chainKey [cipherSuite.byte 0x02])

def createGroupMessageKey (chainKey : Bytes β) : Bytes β :=
  cipherSuite.hf.hkdf chainKey (cipherSuite.zeros cipherSuite.hf.hfLen)
    (cipherSuite.text "MessageKeys") (cipherSuite.se.aeadKeyLen + cipherSuite.se.aeadIvLen)

/-- A used chain key is replaced, and the sequence number wraps at 32 bits. -/
def GroupSession.advance (session : GroupSession β) : GroupSession β :=
  { session with
    chainKey := advanceGroupChainKey cipherSuite session.chainKey
    sequence := session.sequence + 1 }

/-- The loops that reach a sequence number advance the chain once for every missing number. -/
def GroupSession.catchUp (sequence : UInt32) (session : GroupSession β) : GroupSession β :=
  (GroupSession.advance cipherSuite)^[sequence.toNat - session.sequence.toNat] session

end Keys

section Sending

/-- The signature only fills the front of its buffer. -/
def encryptGroupMsg (cipherSuite : CipherSuite β) (plaintext chainKey associatedData : Bytes β)
    (sequence : UInt32) (identityKey : IdentityKey β) (draw : SignatureDraw β) :
    Option (GroupMsgPayload β) :=
  (cipherSuite.se.encrypt associatedData (createGroupMessageKey cipherSuite chainKey)
    plaintext).map fun ciphertext =>
      let signature := cipherSuite.ds.sign draw.coins ciphertext
        identityKey.signKeyPair.privateKey
      ⟨sequence, ciphertext, signature ++ draw.buffer.drop signature.length⟩

def produceSendGroupMsgRequest (params : SendGroupMsgParams) (outbound : GroupSession β)
    (payload : GroupMsgPayload β) : SendGroupMsgRequest β where
  msg := {
    version := outbound.version
    sessionId := outbound.sessionId
    fromAddress := params.senderAddress
    toAddress := params.groupAddress
    groupMsg := payload }
  allowList := params.allowList
  denyList := params.denyList

variable (getE2eesPack : Packs β)

/-- Only a good response moves the chain on. -/
def consumeSendGroupMsgResponse (groups : GroupStore β) (outbound : GroupSession β)
    (response : Option SendGroupMsgResponse) : GroupStore β :=
  if isValidGroupSession getE2eesPack outbound && isValidSendGroupMsgResponse response then
    match getE2eesPack outbound.e2eesPackId with
    | some cipherSuite => groups.storeGroupSession (outbound.advance cipherSuite)
    | none => groups
  else groups

/-- This is the outbound session that a call of the owner works on. -/
def loadOutboundGroupSession (groups : GroupStore β) (address groupAddress : E2eeAddress) :
    Option (GroupSession β) :=
  (groups.loadGroupSessionByAddress address address groupAddress).filter
    (isValidGroupSession getE2eesPack)

/-- The first result is the request that reaches the server. -/
def sendGroupMsgWithFilter (device : Device β) (params : SendGroupMsgParams) (plaintext : Bytes β)
    (draw : SignatureDraw β) (response : Option SendGroupMsgResponse) :
    Option (SendGroupMsgRequest β) × GroupStore β :=
  if isValidSendGroupMsgInputs params && isValidString (device.store.auth params.senderAddress) then
    match (device.store.account params.senderAddress).filter
        (fun account => isValidIdentityKey account.identityKey),
      loadOutboundGroupSession getE2eesPack device.groups params.senderAddress
        params.groupAddress with
    | some account, some outbound =>
        match (getE2eesPack outbound.e2eesPackId).bind fun cipherSuite =>
            encryptGroupMsg cipherSuite plaintext outbound.chainKey outbound.associatedData
              outbound.sequence account.identityKey draw with
        | some payload => (some (produceSendGroupMsgRequest params outbound payload),
            consumeSendGroupMsgResponse getE2eesPack device.groups outbound response)
        | none => (none, device.groups)
    | _, _ => (none, device.groups)
  else (none, device.groups)

def sendGroupMsg (device : Device β) (senderAddress groupAddress : E2eeAddress)
    (plaintext : Bytes β) (draw : SignatureDraw β) (response : Option SendGroupMsgResponse) :
    Option (SendGroupMsgRequest β) × GroupStore β :=
  sendGroupMsgWithFilter getE2eesPack device ⟨senderAddress, groupAddress, [], []⟩ plaintext draw
    response

end Sending

section Receiving

variable (getE2eesPack : Packs β)

/-- The session that the message claims, if it can be used. -/
def loadInboundGroupSession (groups : GroupStore β) (sender sessionOwner : E2eeAddress)
    (sessionId : String) : Option (GroupSession β) :=
  (groups.loadGroupSessionById sender sessionOwner sessionId).filter
    (isValidGroupSession getE2eesPack)

/-- The signature is checked before the chain moves, and only a good decryption is stored.
The second result is the plaintext that the receiver is told of. -/
def openGroupMsg (cipherSuite : CipherSuite β) (groups : GroupStore β) (inbound : GroupSession β)
    (payload : GroupMsgPayload β) : GroupStore β × Option (Bytes β) :=
  if cipherSuite.ds.verify payload.signature payload.ciphertext
      (inbound.associatedData.take cipherSuite.ds.signPubKeyLen) then
    let current := inbound.catchUp cipherSuite payload.sequence
    match cipherSuite.se.decrypt current.associatedData
        (createGroupMessageKey cipherSuite current.chainKey) payload.ciphertext with
    | some plaintext => (groups.storeGroupSession (current.advance cipherSuite), some plaintext)
    | none => (groups, none)
  else (groups, none)

def consumeGroupMsg (groups : GroupStore β) (receiverAddress : E2eeAddress) (msg : E2eeMsg β) :
    GroupStore β × Option (Bytes β) :=
  if isValidAddress receiverAddress && isValidE2eeMsg msg then
    match loadInboundGroupSession getE2eesPack groups msg.fromAddress receiverAddress
        msg.sessionId with
    | some inbound =>
        match getE2eesPack inbound.e2eesPackId with
        | some cipherSuite => openGroupMsg cipherSuite groups inbound msg.groupMsg
        | none => (groups, none)
    | none => (groups, none)
  else (groups, none)

end Receiving

end E2eeSecurity
