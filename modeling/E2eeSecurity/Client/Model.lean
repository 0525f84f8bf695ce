/-
This file gives the whole state of one client, how it sends and opens the messages of a session,
and how it reads invitations and answers.
-/
import E2eeSecurity.Group.Handlers

namespace E2eeSecurity

variable {β : Type}

section Sessions

/-- All sessions with the other party are dropped. -/
def SessionStore.unloadSession (sessions : SessionStore β) (ourAddress theirAddress : E2eeAddress) :
    SessionStore β where
  load sessionId address := (sessions.load sessionId address).filter fun session =>
    !decide (session.ourAddress = ourAddress ∧ session.theirAddress = theirAddress)
  keyed := by
    intro sessionId address session found
    rw [Option.filter_eq_some_iff] at found
    exact sessions.keyed sessionId address session found.1

/-- The sessions with the other party that were invited before the given time are dropped. -/
def SessionStore.unloadOldSession (sessions : SessionStore β)
    (ourAddress theirAddress : E2eeAddress) (inviteT : Int) : SessionStore β where
  load sessionId address := (sessions.load sessionId address).filter fun session =>
    !decide (session.ourAddress = ourAddress ∧ session.theirAddress = theirAddress ∧
      session.inviteT < inviteT)
  keyed := by
    intro sessionId address session found
    rw [Option.filter_eq_some_iff] at found
    exact sessions.keyed sessionId address session found.1

def Store.unloadSession (store : Store β) (ourAddress theirAddress : E2eeAddress) : Store β :=
  { store with sessions := store.sessions.unloadSession ourAddress theirAddress }

def Store.unloadOldSession (store : Store β) (ourAddress theirAddress : E2eeAddress)
    (inviteT : Int) : Store β :=
  { store with sessions := store.sessions.unloadOldSession ourAddress theirAddress inviteT }

/-- The shared secret and the base key are not asked for. -/
def isValidCompletedSession (getE2eesPack : Packs β) (session : Session β) : Bool :=
  isValidString session.version && isValidE2eesPackId getE2eesPack session.e2eesPackId &&
    isValidString session.sessionId && isValidAddress session.ourAddress &&
    isValidAddress session.theirAddress && session.ratchet.any isValidRatchet &&
    isValidProtobuf session.associatedData && isValidProtobuf session.fingerprint

end Sessions

section State

/-- A plaintext waits under an identifier until its session is completed. -/
structure PendingPlaintext (β : Type) where
  pendingPlaintextId : String
  plaintextData : Bytes β
  deriving DecidableEq

/-- The pending plaintexts of two addresses are listed in the order of their arrival.
The key of the server is cached for each address. -/
structure Client (β : Type) extends Device β where
  pendingPlaintexts : E2eeAddress → E2eeAddress → List (PendingPlaintext β)
  serverPublicKey : E2eeAddress → Option (Bytes β)

def Client.storePendingPlaintextData (client : Client β) (fromAddress toAddress : E2eeAddress)
    (entry : PendingPlaintext β) : Client β :=
  { client with
    pendingPlaintexts := fun sender receiver =>
      if sender = fromAddress ∧ receiver = toAddress then
        client.pendingPlaintexts sender receiver ++ [entry]
      else client.pendingPlaintexts sender receiver }

def Client.unloadPendingPlaintextData (client : Client β) (fromAddress toAddress : E2eeAddress)
    (pendingPlaintextId : String) : Client β :=
  { client with
    pendingPlaintexts := fun sender receiver =>
      if sender = fromAddress ∧ receiver = toAddress then
        (client.pendingPlaintexts sender receiver).filter fun entry =>
          entry.pendingPlaintextId != pendingPlaintextId
      else client.pendingPlaintexts sender receiver }

end State

section Sending

structure SendOne2oneMsgResponse where
  code : ResponseCode

/-- The message names the session and both of its addresses. -/
def produceSendOne2oneMsgRequest (session : Session β) (payload : One2oneMsgPayload β) :
    One2oneMsg β where
  version := session.version
  sessionId := session.sessionId
  fromAddress := session.ourAddress
  toAddress := session.theirAddress
  payload := payload

/-- A device that is gone takes its sessions with it, and the message counts as sent. -/
def consumeSendOne2oneMsgResponse (store : Store β) (session : Session β)
    (response : Option SendOne2oneMsgResponse) : Bool × Store β :=
  match response with
  | some ⟨.ok⟩ => (true, store.storeSession session)
  | some ⟨.notFound⟩ => (true, store.unloadSession session.ourAddress session.theirAddress)
  | some ⟨.other⟩ => (false, store.storeSession session)
  | none => (false, store.storeSession session)

/-- This is what one attempt meets: the authorisation that is loaded, and the answer. -/
structure SendAttempt where
  auth : String
  response : Option SendOne2oneMsgResponse

/-- This is what an attempt leaves behind: the store, the session in memory, and the message that
went out. -/
structure SendResult (β : Type) where
  store : Store β
  session : Session β
  dispatched : Option (One2oneMsg β)

/-- The ratchet in memory has moved also when the encryption fails, and then nothing is stored. -/
def sendOne2oneMsgInternal (getE2eesPack : Packs β) (attempt : SendAttempt) (store : Store β)
    (session : Session β) (plaintextData : Bytes β) : SendResult β :=
  match session.ratchet, getE2eesPack session.e2eesPackId with
  | some ratchet, some cipherSuite =>
      if isValidCompletedSession getE2eesPack session && isValidString attempt.auth then
        let encrypted := encryptRatchet cipherSuite ratchet session.associatedData
          (some plaintextData)
        let moved : Session β := { session with ratchet := some encrypted.2 }
        match encrypted.1 with
        | some payload =>
            let msg := produceSendOne2oneMsgRequest moved payload
            let consumed := consumeSendOne2oneMsgResponse store moved attempt.response
            if consumed.1 then ⟨consumed.2, moved, some msg⟩
            else ⟨consumed.2.storePendingRequest session.ourAddress (.sendOne2oneMsg msg), moved,
              some msg⟩
        | none => ⟨store, moved, none⟩
      else ⟨store, session, none⟩
  | _, _ => ⟨store, session, none⟩

/-- Every plaintext of the loaded list is tried once, and it is unloaded whatever the outcome.
The result is the client, the session in memory, and the message of each attempt. -/
def sendPendingPlaintexts (getE2eesPack : Packs β) :
    (Nat → SendAttempt) → List (PendingPlaintext β) → Client β → Session β →
      Client β × Session β × List (Option (One2oneMsg β))
  | _, [], client, session => (client, session, [])
  | attempts, entry :: rest, client, session =>
      let sent := sendOne2oneMsgInternal getE2eesPack (attempts 0) client.store session
        entry.plaintextData
      let unloaded := ({ client with store := sent.store } : Client β).unloadPendingPlaintextData
        session.ourAddress session.theirAddress entry.pendingPlaintextId
      let later := sendPendingPlaintexts getE2eesPack (fun index => attempts (index + 1)) rest
        unloaded sent.session
      (later.1, later.2.1, sent.dispatched :: later.2.2)

/-- The list is loaded once, before the first attempt. -/
def sendPendingPlaintextData (getE2eesPack : Packs β) (attempts : Nat → SendAttempt)
    (client : Client β) (session : Session β) :
    Client β × Session β × List (Option (One2oneMsg β)) :=
  sendPendingPlaintexts getE2eesPack attempts
    (client.pendingPlaintexts session.ourAddress session.theirAddress) client session

end Sending

section Handshake

/-- This is the time before an invitation is repeated, `E2EES_INVITE_WAITING_TIME_MS`. -/
def inviteWaitingTimeMs : Int := 60000

/-- Only a session without an answer is invited again. The clock is read twice. -/
def reinvite (getE2eesPack : Packs β) (invite : InviteMsg β → Option InviteResponse)
    (store : Store β) (session : Session β) (checkedT updatedT : Int) : Store β :=
  if !session.responded && !decide (checkedT < session.inviteT + inviteWaitingTimeMs) then
    let updated : Session β := { session with inviteT := updatedT }
    (inviteInternal getE2eesPack invite (store.storeSession updated) updated).2.1
  else store

/-- A session identifier that is in use is refused. -/
def consumeInviteMsg (getE2eesPack : Packs β) (accept : AcceptMsg β → Option AcceptResponse)
    (store : Store β) (receiverAddress : E2eeAddress) (msg : InviteMsg β)
    (coins : InboundCoins β) : Store β :=
  if isValidAddress receiverAddress && isValidInviteMsg getE2eesPack msg &&
      decide (receiverAddress = msg.receiver) &&
      (store.sessions.load msg.sessionId receiverAddress).isNone then
    match (store.account msg.receiver).filter (isValidRegisteredAccount getE2eesPack) with
    | some account => (pqcNewInboundSession getE2eesPack accept store account msg coins).2.1
    | none => store
  else store

/-- The plaintexts that waited for the session are sent as soon as it is completed. -/
def consumeAcceptMsg (getE2eesPack : Packs β) (attempts : Nat → SendAttempt) (client : Client β)
    (receiverAddress : E2eeAddress) (msg : AcceptMsg β) (coins : Bytes β) : Client β :=
  if isValidAddress receiverAddress && isValidAcceptMsg getE2eesPack msg &&
      decide (receiverAddress = msg.receiver) then
    match pqcCompleteOutboundSession getE2eesPack client.store msg coins with
    | (some session, store) =>
        (sendPendingPlaintextData getE2eesPack attempts { client with store := store } session).1
    | (none, store) => { client with store := store }
  else client

end Handshake

section Opening

def isValidOne2oneMsg (msg : One2oneMsg β) : Bool :=
  isValidString msg.version && isValidString msg.sessionId && isValidAddress msg.fromAddress &&
    isValidAddress msg.toAddress && isValidOne2oneMsgPayload msg.payload

/-- The checks are those of a completed session. -/
def isValidInboundSession (getE2eesPack : Packs β) (session : Session β) : Bool :=
  isValidCompletedSession getE2eesPack session

/-- The sender that the message names decides which older sessions are dropped. -/
def storeOpenedSession (store : Store β) (receiverAddress : E2eeAddress) (msg : One2oneMsg β)
    (session : Session β) : Store β :=
  (store.storeSession session).unloadOldSession receiverAddress msg.fromAddress session.inviteT

variable [DecidableEq β]

/-- The session is found by its identifier and our address alone.
The result is the plaintext and the session with its ratchet moved. -/
def openOne2oneMsg (getE2eesPack : Packs β) (store : Store β) (receiverAddress : E2eeAddress)
    (msg : One2oneMsg β) (coins : Bytes β) : Option (Bytes β × Session β) :=
  if isValidOne2oneMsg msg then do
    let session ← (store.sessions.load msg.sessionId receiverAddress).filter
      (isValidInboundSession getE2eesPack)
    let cipherSuite ← getE2eesPack session.e2eesPackId
    let ratchet ← session.ratchet
    let opened := decryptRatchet cipherSuite ratchet session.associatedData msg.payload coins
    let plaintext ← opened.1
    some (plaintext, { session with ratchet := some opened.2 })
  else none

/-- A message that does not open changes nothing. -/
def receiveOne2oneMsg (getE2eesPack : Packs β) (store : Store β) (receiverAddress : E2eeAddress)
    (msg : One2oneMsg β) (coins : Bytes β) : Store β :=
  match openOne2oneMsg getE2eesPack store receiverAddress msg coins with
  | some (_, session) => storeOpenedSession store receiverAddress msg session
  | none => store

end Opening

end E2eeSecurity
