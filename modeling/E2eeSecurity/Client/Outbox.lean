/-
This file sends the messages of a user to the devices of another user, with copies to our own
devices, and says which plaintexts one call tries and which it leaves waiting.
-/
import E2eeSecurity.Client.Frames
import E2eeSecurity.Client.Sending
import E2eeSecurity.Session.Leftover

namespace E2eeSecurity

variable {β : Type}

/-- This is the record of one plaintext that was tried on a session. -/
structure PlaintextAttempt (β : Type) where
  ourAddress : E2eeAddress
  theirAddress : E2eeAddress
  plaintextData : Bytes β
  msg : Option (One2oneMsg β)
  deriving DecidableEq

/-- This is what a loop over sessions leaves behind, and whether the server took a message. -/
structure SessionVisits (β : Type) where
  client : Client β
  attempts : List (PlaintextAttempt β)
  accepted : Bool

section Sending

variable (getE2eesPack : Packs β)

/-- A session without an answer keeps the plaintext for later. -/
def visitSession (step : SyncStep) (data : Bytes β) (client : Client β) (session : Session β) :
    SessionVisits β :=
  if session.responded then
    let sent := sendOne2oneMsgInternal getE2eesPack step.attempt client.store session data
    { client := { client with store := sent.store }
      attempts := [⟨session.ourAddress, session.theirAddress, data, sent.dispatched⟩]
      accepted := sent.dispatched.isSome &&
        step.attempt.response.any fun response => response.code == .ok }
  else
    { client := client.storePendingPlaintextData session.ourAddress session.theirAddress
        ⟨step.pendingPlaintextId, data⟩
      attempts := []
      accepted := false }

/-- Both loops over sessions run these steps. -/
def visitSessions (skips : Session β → Bool) (data : Bytes β) :
    (Nat → SyncStep) → List (Session β) → Client β → SessionVisits β
  | _, [], client => ⟨client, [], false⟩
  | steps, session :: rest, client =>
      let visited := if skips session then ⟨client, [], false⟩
        else visitSession getE2eesPack (steps 0) data client session
      let later := visitSessions skips data (fun index => steps (index + 1)) rest visited.client
      ⟨later.client, visited.attempts ++ later.attempts, visited.accepted || later.accepted⟩

end Sending

/-- This is one call of `send_one2one_msg` with what it meets. -/
structure SendCall (β : Type) where
  fromAddress : E2eeAddress
  toUserId : String
  toDomain : String
  plaintextData : Bytes β
  pendingPlaintextId : String
  steps : Nat → SyncStep
  syncSteps : Nat → SyncStep

section Calling

variable (platform : Platform β) (packPlaintext : Plaintext β → Bytes β)

/-- These are our sessions with a user. -/
def outboundSessions (client : Client β) (fromAddress : E2eeAddress) (userId domain : String) :
    List (Session β) :=
  platform.loadOutboundSessions client.store.sessions fromAddress userId domain

/-- The device that sends is one of our own devices. -/
def isOwnDevice (fromAddress : E2eeAddress) (session : Session β) : Bool :=
  decide (session.theirAddress.deviceId = fromAddress.deviceId)

def sendSyncMsg (steps : Nat → SyncStep) (client : Client β) (fromAddress : E2eeAddress)
    (plaintextData : Bytes β) : SessionVisits β :=
  visitSessions platform.getE2eesPack (isOwnDevice fromAddress)
    (packPlaintext (.commonSyncMsg plaintextData)) steps
    (outboundSessions platform client fromAddress (fromAddress.userId.getD "") fromAddress.domain)
    client

/-- No device of the user is known yet. -/
def SendCall.toAddress (call : SendCall β) : E2eeAddress := ⟨call.toDomain, .user call.toUserId ""⟩

/-- Without any session the plaintext is stored for the user without a device. -/
def sendToUser (client : Client β) (call : SendCall β) : SessionVisits β :=
  let data := packPlaintext (.commonMsg call.plaintextData)
  let sessions := outboundSessions platform client call.fromAddress call.toUserId call.toDomain
  if sessions.isEmpty then
    ⟨client.storePendingPlaintextData call.fromAddress call.toAddress
      ⟨call.pendingPlaintextId, data⟩, [], false⟩
  else visitSessions platform.getE2eesPack (fun _ => false) data call.steps sessions client

/-- Our own devices get their copies in any case. The result is the code, the client, and the
record of all attempts. -/
def sendOne2oneMsg (client : Client β) (call : SendCall β) :
    ResponseCode × Client β × List (PlaintextAttempt β) :=
  let sent := sendToUser platform packPlaintext client call
  let synced := sendSyncMsg platform packPlaintext call.syncSteps sent.client call.fromAddress
    call.plaintextData
  (if sent.accepted then .ok else .other, synced.client, sent.attempts ++ synced.attempts)

/-- Each plaintext of the list is recorded with its message. -/
def flushedAttempts (session : Session β) (pending : List (PendingPlaintext β))
    (msgs : List (Option (One2oneMsg β))) : List (PlaintextAttempt β) :=
  (pending.zip msgs).map fun tried =>
    ⟨session.ourAddress, session.theirAddress, tried.1.plaintextData, tried.2⟩

/-- These are the attempts that the answer to an invitation sets off. -/
def acceptAttempts (getE2eesPack : Packs β) (attempts : Nat → SendAttempt) (client : Client β)
    (receiverAddress : E2eeAddress) (msg : AcceptMsg β) (coins : Bytes β) :
    List (PlaintextAttempt β) :=
  if isValidAddress receiverAddress && isValidAcceptMsg getE2eesPack msg &&
      decide (receiverAddress = msg.receiver) then
    match pqcCompleteOutboundSession getE2eesPack client.store msg coins with
    | (some session, store) =>
        let pending := client.pendingPlaintexts session.ourAddress session.theirAddress
        let sent := sendPendingPlaintextData getE2eesPack attempts { client with store := store }
          session
        flushedAttempts session pending sent.2.2
    | (none, _) => []
  else []

end Calling

section Runs

/-- The record keeps what was handed over for each two addresses, and what was tried. -/
structure Outbox (β : Type) where
  client : Client β
  submitted : E2eeAddress → E2eeAddress → List (Bytes β)
  attempted : List (PlaintextAttempt β)

/-- Any other call may add plaintexts of its own behind the ones that wait. -/
inductive OutboxEvent (β : Type)
  | send (call : SendCall β)
  | accept (attempts : Nat → SendAttempt) (receiverAddress : E2eeAddress) (msg : AcceptMsg β)
      (coins : Bytes β)
  | other (change : Client β → Client β)
      (grows : ∀ client ourAddress theirAddress, client.pendingPlaintexts ourAddress theirAddress
        <+: (change client).pendingPlaintexts ourAddress theirAddress)

/-- These are the sessions of a list that are with one device. -/
def sessionsWith (ourAddress theirAddress : E2eeAddress) (sessions : List (Session β)) :
    List (Session β) :=
  sessions.filter fun session =>
    decide (session.ourAddress = ourAddress ∧ session.theirAddress = theirAddress)

variable (platform : Platform β) (packPlaintext : Plaintext β → Bytes β)

/-- A call hands its plaintext over once for each session, or once when there is none. -/
def SendCall.handedOver (call : SendCall β) (client : Client β)
    (ourAddress theirAddress : E2eeAddress) : List (Bytes β) :=
  let data := packPlaintext (.commonMsg call.plaintextData)
  let copy := packPlaintext (.commonSyncMsg call.plaintextData)
  let sessions := outboundSessions platform client call.fromAddress call.toUserId call.toDomain
  let own := outboundSessions platform (sendToUser platform packPlaintext client call).client
    call.fromAddress (call.fromAddress.userId.getD "") call.fromAddress.domain
  (if sessions.isEmpty then
    if ourAddress = call.fromAddress ∧ theirAddress = call.toAddress then [data] else []
    else (sessionsWith ourAddress theirAddress sessions).map fun _ => data) ++
  (sessionsWith ourAddress theirAddress
    (own.filter fun session => !isOwnDevice call.fromAddress session)).map fun _ => copy

def stepOutbox (outbox : Outbox β) : OutboxEvent β → Outbox β
  | .send call =>
      let result := sendOne2oneMsg platform packPlaintext outbox.client call
      { client := result.2.1
        submitted := fun ourAddress theirAddress => outbox.submitted ourAddress theirAddress ++
          call.handedOver platform packPlaintext outbox.client ourAddress theirAddress
        attempted := outbox.attempted ++ result.2.2 }
  | .accept attempts receiverAddress msg coins =>
      { client := consumeAcceptMsg platform.getE2eesPack attempts outbox.client receiverAddress
          msg coins
        submitted := outbox.submitted
        attempted := outbox.attempted ++ acceptAttempts platform.getE2eesPack attempts
          outbox.client receiverAddress msg coins }
  | .other change _ =>
      { client := change outbox.client
        submitted := fun ourAddress theirAddress => outbox.submitted ourAddress theirAddress ++
          (plaintexts ((change outbox.client).pendingPlaintexts ourAddress theirAddress)).drop
            (outbox.client.pendingPlaintexts ourAddress theirAddress).length
        attempted := outbox.attempted }

def runOutbox (outbox : Outbox β) (events : List (OutboxEvent β)) : Outbox β :=
  Machine.run (stepOutbox platform packPlaintext) outbox events

/-- What waits at the start counts as handed over. -/
def Client.outbox (client : Client β) : Outbox β where
  client := client
  submitted ourAddress theirAddress := plaintexts (client.pendingPlaintexts ourAddress theirAddress)
  attempted := []

end Runs

section Records

/-- These are the plaintexts that were tried between two addresses. -/
def triedPlaintexts (ourAddress theirAddress : E2eeAddress)
    (attempts : List (PlaintextAttempt β)) : List (Bytes β) :=
  (attempts.filter fun attempt =>
    decide (attempt.ourAddress = ourAddress ∧ attempt.theirAddress = theirAddress)).map
      fun attempt => attempt.plaintextData

/-- A message that went out holds its plaintext, and it names a valid receiver. -/
def PlaintextAttempt.Carried (attempt : PlaintextAttempt β) (getE2eesPack : Packs β) : Prop :=
  ∀ msg, attempt.msg = some msg → msg.fromAddress = attempt.ourAddress ∧
    msg.toAddress = attempt.theirAddress ∧ isValidAddress msg.toAddress = true ∧
    ∃ e2eesPackId cipherSuite associatedData key, getE2eesPack e2eesPackId = some cipherSuite ∧
      cipherSuite.se.encrypt associatedData key attempt.plaintextData =
        some msg.payload.ciphertext

/-- Between any two addresses the plaintexts that were tried and those that still wait are the ones
that were handed over, each as often. -/
def Outbox.Balanced (outbox : Outbox β) : Prop :=
  ∀ ourAddress theirAddress, (triedPlaintexts ourAddress theirAddress outbox.attempted ++
    plaintexts (outbox.client.pendingPlaintexts ourAddress theirAddress)).Perm
      (outbox.submitted ourAddress theirAddress)

def Outbox.Carried (outbox : Outbox β) (getE2eesPack : Packs β) : Prop :=
  ∀ attempt ∈ outbox.attempted, attempt.Carried getE2eesPack

end Records

section Visits

variable {getE2eesPack : Packs β} {ourAddress theirAddress : E2eeAddress}

@[simp] theorem triedPlaintexts_nil :
    triedPlaintexts ourAddress theirAddress ([] : List (PlaintextAttempt β)) = [] := rfl

theorem triedPlaintexts_append (first second : List (PlaintextAttempt β)) :
    triedPlaintexts ourAddress theirAddress (first ++ second) =
      triedPlaintexts ourAddress theirAddress first ++
        triedPlaintexts ourAddress theirAddress second := by
  simp [triedPlaintexts]

theorem plaintexts_append (first second : List (PendingPlaintext β)) :
    plaintexts (first ++ second) = plaintexts first ++ plaintexts second :=
  List.map_append

/-- A stored plaintext waits behind the others for the same two addresses. -/
theorem plaintexts_storePending (client : Client β) (fromAddress toAddress : E2eeAddress)
    (entry : PendingPlaintext β) :
    plaintexts ((client.storePendingPlaintextData fromAddress toAddress entry).pendingPlaintexts
        ourAddress theirAddress) =
      plaintexts (client.pendingPlaintexts ourAddress theirAddress) ++
        if ourAddress = fromAddress ∧ theirAddress = toAddress then [entry.plaintextData]
        else [] := by
  simp only [Client.storePendingPlaintextData]
  split
  · exact plaintexts_append _ _
  · exact (List.append_nil _).symm

variable (getE2eesPack) in
/-- The session that a call leaves behind has the same two addresses. -/
theorem sendOne2oneMsgInternal_addresses (attempt : SendAttempt) (store : Store β)
    (session : Session β) (data : Bytes β) :
    let result := sendOne2oneMsgInternal getE2eesPack attempt store session data
    result.session.ourAddress = session.ourAddress ∧
      result.session.theirAddress = session.theirAddress := by
  unfold sendOne2oneMsgInternal
  split
  · dsimp only
    split
    · split
      · split <;> exact ⟨rfl, rfl⟩
      · exact ⟨rfl, rfl⟩
    · exact ⟨rfl, rfl⟩
  · exact ⟨rfl, rfl⟩

/-- A payload holds the plaintext under some key. -/
theorem encryptRatchet_encrypted {cipherSuite : CipherSuite β} {ratchet : Ratchet β}
    {ad data : Bytes β} {payload : One2oneMsgPayload β}
    (made : (encryptRatchet cipherSuite ratchet ad (some data)).1 = some payload) :
    ∃ key, cipherSuite.se.encrypt ad key data = some payload.ciphertext := by
  unfold encryptRatchet at made
  split at made
  case isFalse => cases made
  case isTrue =>
    split at made
    case h_2 => cases made
    case h_1 sender plaintext present same =>
      cases same
      split at made
      case h_2 => cases made
      case h_1 msgKey derived =>
        obtain ⟨ciphertext, sealed, rfl⟩ := Option.map_eq_some_iff.mp made
        exact ⟨msgKey.derivedKey, sealed⟩

/-- What goes out holds the plaintext. -/
theorem sendOne2oneMsgInternal_carried (attempt : SendAttempt) (store : Store β)
    (session : Session β) (data : Bytes β) :
    PlaintextAttempt.Carried ⟨session.ourAddress, session.theirAddress, data,
      (sendOne2oneMsgInternal getE2eesPack attempt store session data).dispatched⟩
        getE2eesPack := by
  intro msg sent
  simp only [sendOne2oneMsgInternal] at sent
  split at sent
  case h_2 => cases sent
  case h_1 ratchet cipherSuite present pack =>
    split at sent
    case isFalse => cases sent
    case isTrue checks =>
      simp only [isValidCompletedSession, Bool.and_eq_true] at checks
      obtain ⟨⟨⟨⟨⟨-, theirs⟩, -⟩, -⟩, -⟩, -⟩ := checks
      split at sent
      case h_2 => cases sent
      case h_1 payload made =>
        obtain ⟨key, sealed⟩ := encryptRatchet_encrypted made
        split at sent
        · cases sent
          exact ⟨rfl, rfl, theirs, _, _, _, key, pack, sealed⟩
        · cases sent
          exact ⟨rfl, rfl, theirs, _, _, _, key, pack, sealed⟩

/-- These are the sessions that a loop does not skip, and whose answer has or has not come. -/
def visitedWith (skips : Session β → Bool) (ourAddress theirAddress : E2eeAddress)
    (sessions : List (Session β)) : List (Session β) :=
  sessionsWith ourAddress theirAddress (sessions.filter fun session => !skips session)

variable (getE2eesPack) in
/-- One session with an answer is tried, and one without an answer leaves the plaintext behind. -/
theorem visitSession_spec (step : SyncStep) (data : Bytes β) (client : Client β)
    (session : Session β) (ourAddress theirAddress : E2eeAddress) :
    let result := visitSession getE2eesPack step data client session
    let visited := sessionsWith ourAddress theirAddress [session]
    triedPlaintexts ourAddress theirAddress result.attempts =
        (visited.filter fun session => session.responded).map (fun _ => data) ∧
      plaintexts (result.client.pendingPlaintexts ourAddress theirAddress) =
        plaintexts (client.pendingPlaintexts ourAddress theirAddress) ++
          (visited.filter fun session => !session.responded).map fun _ => data := by
  intro result visited
  by_cases here : session.ourAddress = ourAddress ∧ session.theirAddress = theirAddress
  · have one : visited = [session] := by simp [visited, sessionsWith, here]
    rw [one]
    cases responded : session.responded with
    | true => simp [result, visitSession, responded, triedPlaintexts, here]
    | false =>
        simp [result, visitSession, responded, plaintexts_storePending, here]
  · have none : visited = [] := by simpa [visited, sessionsWith] using here
    have other : ¬ (ourAddress = session.ourAddress ∧ theirAddress = session.theirAddress) :=
      fun same => here ⟨same.1.symm, same.2.symm⟩
    rw [none]
    cases responded : session.responded with
    | true => simpa [result, visitSession, responded, triedPlaintexts] using here
    | false =>
        simp only [result, visitSession, responded, Bool.false_eq_true, if_false,
          plaintexts_storePending, if_neg other]
        exact ⟨rfl, rfl⟩

variable (getE2eesPack) in
/-- A loop tries the plaintext on each session with an answer, and leaves it behind once for each
session without an answer. -/
theorem visitSessions_spec (skips : Session β → Bool) (data : Bytes β)
    (sessions : List (Session β)) (steps : Nat → SyncStep) (client : Client β)
    (ourAddress theirAddress : E2eeAddress) :
    let result := visitSessions getE2eesPack skips data steps sessions client
    let visited := visitedWith skips ourAddress theirAddress sessions
    triedPlaintexts ourAddress theirAddress result.attempts =
        (visited.filter fun session => session.responded).map (fun _ => data) ∧
      plaintexts (result.client.pendingPlaintexts ourAddress theirAddress) =
        plaintexts (client.pendingPlaintexts ourAddress theirAddress) ++
          (visited.filter fun session => !session.responded).map fun _ => data := by
  induction sessions generalizing steps client with
  | nil => simp [visitSessions, visitedWith, sessionsWith]
  | cons session rest ih =>
      simp only [visitSessions, triedPlaintexts_append]
      cases skipped : skips session with
      | true =>
          obtain ⟨tried, waiting⟩ := ih (fun index => steps (index + 1)) client
          have same : visitedWith skips ourAddress theirAddress (session :: rest) =
              visitedWith skips ourAddress theirAddress rest := by
            simp [visitedWith, skipped]
          rw [same]
          exact ⟨tried, waiting⟩
      | false =>
          obtain ⟨triedHere, waitingHere⟩ := visitSession_spec getE2eesPack
            (steps 0) data client session ourAddress theirAddress
          obtain ⟨tried, waiting⟩ := ih (fun index => steps (index + 1))
            (visitSession getE2eesPack (steps 0) data client session).client
          have split : visitedWith skips ourAddress theirAddress (session :: rest) =
              sessionsWith ourAddress theirAddress [session] ++
                visitedWith skips ourAddress theirAddress rest := by
            rw [visitedWith, List.filter_cons_of_pos (by simp [skipped])]
            exact List.filter_append [session] _
          simp only [Bool.false_eq_true, if_false, split, List.filter_append, List.map_append]
          rw [triedHere, tried, waiting, waitingHere, List.append_assoc]
          exact ⟨rfl, rfl⟩

theorem visitSessions_carried (skips : Session β → Bool) (data : Bytes β)
    (sessions : List (Session β)) (steps : Nat → SyncStep) (client : Client β) :
    ∀ attempt ∈ (visitSessions getE2eesPack skips data steps sessions client).attempts,
      attempt.Carried getE2eesPack := by
  induction sessions generalizing steps client with
  | nil => simp [visitSessions]
  | cons session rest ih =>
      intro attempt member
      rw [visitSessions, List.mem_append] at member
      obtain here | later := member
      · split at here
        · cases here
        · unfold visitSession at here
          split at here
          · obtain rfl := List.mem_singleton.mp here
            exact sendOne2oneMsgInternal_carried _ _ _ _
          · cases here
      · exact ih _ _ attempt later

end Visits

section Answers

variable {getE2eesPack : Packs β}

/-- Only a session with valid addresses is completed. -/
theorem pqcCompleteOutboundSession_theirAddress {store later : Store β} {msg : AcceptMsg β}
    {coins : Bytes β} {session : Session β}
    (completed : pqcCompleteOutboundSession getE2eesPack store msg coins = (some session, later)) :
    isValidAddress session.theirAddress = true := by
  unfold pqcCompleteOutboundSession at completed
  split at completed
  case h_2 => cases completed
  case h_1 waiting loaded =>
    split at completed
    case isFalse => cases completed
    case isTrue valid =>
      split at completed
      case h_2 => cases completed
      case h_1 =>
        dsimp only at completed
        split at completed
        case h_2 => cases completed
        case h_1 ratchet made =>
          simp only [isValidUncompletedSession, Bool.and_eq_true] at valid
          obtain ⟨-, ⟨⟨⟨⟨⟨⟨-, theirs⟩, -⟩, -⟩, -⟩, -⟩, -⟩, -⟩ := valid
          cases completed
          exact theirs

/-- The loop unloads what it has tried and nothing else. -/
theorem sendPendingPlaintexts_left (attempts : Nat → SendAttempt)
    (pending : List (PendingPlaintext β)) (client : Client β) (session : Session β)
    (ourAddress theirAddress : E2eeAddress) :
    (sendPendingPlaintexts getE2eesPack attempts pending client session).1.pendingPlaintexts
        ourAddress theirAddress =
      if ourAddress = session.ourAddress ∧ theirAddress = session.theirAddress then
        (client.pendingPlaintexts ourAddress theirAddress).filter fun entry =>
          !pending.any fun tried => entry.pendingPlaintextId == tried.pendingPlaintextId
      else client.pendingPlaintexts ourAddress theirAddress := by
  induction pending generalizing attempts client session with
  | nil => simp [sendPendingPlaintexts]
  | cons first rest ih =>
      obtain ⟨ours, theirs⟩ := sendOne2oneMsgInternal_addresses getE2eesPack
        (attempts 0) client.store session first.plaintextData
      rw [sendPendingPlaintexts_cons, ih, ours, theirs]
      simp only [Client.unloadPendingPlaintextData]
      split
      · rw [List.filter_filter]
        congr 1
        funext entry
        simp only [List.any_cons, Bool.not_or, bne, Bool.and_comm]
      · rfl

/-- The whole list is unloaded. -/
theorem sendPendingPlaintextData_left (attempts : Nat → SendAttempt) (client : Client β)
    (session : Session β) (ourAddress theirAddress : E2eeAddress) :
    (sendPendingPlaintextData getE2eesPack attempts client session).1.pendingPlaintexts ourAddress
        theirAddress =
      if ourAddress = session.ourAddress ∧ theirAddress = session.theirAddress then []
      else client.pendingPlaintexts ourAddress theirAddress := by
  rw [sendPendingPlaintextData, sendPendingPlaintexts_left]
  split
  next here =>
    obtain ⟨rfl, rfl⟩ := here
    rw [List.filter_eq_nil_iff]
    intro entry member
    simp only [Bool.not_eq_true', Bool.not_eq_false, List.any_eq_true]
    exact ⟨entry, member, beq_self_eq_true _⟩
  next => rfl

theorem flushedAttempts_tried (session : Session β) {pending : List (PendingPlaintext β)}
    {msgs : List (Option (One2oneMsg β))} (each : msgs.length = pending.length)
    (ourAddress theirAddress : E2eeAddress) :
    triedPlaintexts ourAddress theirAddress (flushedAttempts session pending msgs) =
      if ourAddress = session.ourAddress ∧ theirAddress = session.theirAddress then
        plaintexts pending else [] := by
  have all : (pending.zip msgs).map Prod.fst = pending := List.map_fst_zip (by omega)
  split
  next here =>
    obtain ⟨rfl, rfl⟩ := here
    conv_rhs => rw [← all]
    simp [triedPlaintexts, flushedAttempts, plaintexts, Function.comp_def, List.filter_map]
  next other =>
    simp only [triedPlaintexts, flushedAttempts, List.filter_map, List.map_map,
      List.map_eq_nil_iff, List.filter_eq_nil_iff, Function.comp_apply, decide_eq_true_eq]
    intro tried member same
    exact other ⟨same.1.symm, same.2.symm⟩

variable (getE2eesPack) in
/-- An answer either leaves the plaintexts between two addresses waiting, or all of them are tried
and none is left. -/
theorem acceptAttempts_spec (attempts : Nat → SendAttempt) (client : Client β)
    (receiverAddress : E2eeAddress) (msg : AcceptMsg β) (coins : Bytes β)
    (ourAddress theirAddress : E2eeAddress) :
    let tried := triedPlaintexts ourAddress theirAddress
      (acceptAttempts getE2eesPack attempts client receiverAddress msg coins)
    let left := (consumeAcceptMsg getE2eesPack attempts client receiverAddress msg
      coins).pendingPlaintexts ourAddress theirAddress
    tried = [] ∧ left = client.pendingPlaintexts ourAddress theirAddress ∨
      isValidAddress theirAddress = true ∧
        tried = plaintexts (client.pendingPlaintexts ourAddress theirAddress) ∧ left = [] := by
  simp only [acceptAttempts, consumeAcceptMsg]
  split
  case isFalse => exact .inl ⟨rfl, rfl⟩
  case isTrue =>
    cases completed : pqcCompleteOutboundSession getE2eesPack client.store msg coins with
    | mk result store =>
        cases result with
        | none => exact .inl ⟨rfl, rfl⟩
        | some session =>
            have each : (sendPendingPlaintextData getE2eesPack attempts
                { client with store := store } session).2.2.length =
                  (client.pendingPlaintexts session.ourAddress session.theirAddress).length :=
              sendPendingPlaintexts_length ..
            dsimp only
            rw [sendPendingPlaintextData_left, flushedAttempts_tried session each]
            by_cases here : ourAddress = session.ourAddress ∧ theirAddress = session.theirAddress
            · obtain ⟨rfl, rfl⟩ := here
              exact .inr ⟨pqcCompleteOutboundSession_theirAddress completed,
                if_pos ⟨rfl, rfl⟩, if_pos ⟨rfl, rfl⟩⟩
            · exact .inl ⟨if_neg here, if_neg here⟩

theorem flushedAttempts_cons (session : Session β) (first : PendingPlaintext β)
    (rest : List (PendingPlaintext β)) (msg : Option (One2oneMsg β))
    (msgs : List (Option (One2oneMsg β))) :
    flushedAttempts session (first :: rest) (msg :: msgs) =
      ⟨session.ourAddress, session.theirAddress, first.plaintextData, msg⟩ ::
        flushedAttempts session rest msgs := rfl

/-- What the loop sends holds its plaintexts. -/
theorem sendPendingPlaintexts_carried (attempts : Nat → SendAttempt)
    (pending : List (PendingPlaintext β)) (client : Client β) (session : Session β) :
    ∀ attempt ∈ flushedAttempts session pending
      (sendPendingPlaintexts getE2eesPack attempts pending client session).2.2,
      attempt.Carried getE2eesPack := by
  induction pending generalizing attempts client session with
  | nil => simp [flushedAttempts]
  | cons first rest ih =>
      obtain ⟨ours, theirs⟩ := sendOne2oneMsgInternal_addresses getE2eesPack
        (attempts 0) client.store session first.plaintextData
      intro attempt member
      have same (msgs : List (Option (One2oneMsg β))) :
          flushedAttempts session rest msgs = flushedAttempts (sendOne2oneMsgInternal getE2eesPack
            (attempts 0) client.store session first.plaintextData).session rest msgs := by
        simp only [flushedAttempts, ours, theirs]
      simp only [sendPendingPlaintexts_cons, flushedAttempts_cons, List.mem_cons, same] at member
      obtain rfl | later := member
      · exact sendOne2oneMsgInternal_carried _ _ _ _
      · exact ih _ _ _ attempt later

theorem acceptAttempts_carried (attempts : Nat → SendAttempt) (client : Client β)
    (receiverAddress : E2eeAddress) (msg : AcceptMsg β) (coins : Bytes β) :
    ∀ attempt ∈ acceptAttempts getE2eesPack attempts client receiverAddress msg coins,
      attempt.Carried getE2eesPack := by
  intro attempt member
  unfold acceptAttempts at member
  split at member
  · split at member
    · exact sendPendingPlaintexts_carried _ _ _ _ attempt member
    · cases member
  · cases member

end Answers

end E2eeSecurity
