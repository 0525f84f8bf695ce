/-
This file follows the plaintexts of a client over whole runs: none is lost or tried twice, a device
gets them in order, and a plaintext for a user without a session is never sent.
-/
import E2eeSecurity.Client.Outbox
import Mathlib.Data.List.Perm.Basic

namespace E2eeSecurity

variable {β : Type}

section Steps

variable {platform : Platform β} {packPlaintext : Plaintext β → Bytes β} {outbox : Outbox β}

/-- A list is its two halves in some order. -/
theorem map_responded_perm (sessions : List (Session β)) (data : Bytes β) :
    ((sessions.filter fun session => session.responded).map (fun _ => data) ++
      (sessions.filter fun session => !session.responded).map fun _ => data).Perm
        (sessions.map fun _ => data) := by
  rw [← List.map_append]
  exact (List.filter_append_perm _ sessions).map _

/-- Between two addresses a call tries some of the plaintexts that it is handed, and the others wait
behind those that wait already. -/
def HandsOver (ourAddress theirAddress : E2eeAddress) (before after : Client β)
    (attempts : List (PlaintextAttempt β)) (handed : List (Bytes β)) : Prop :=
  ∃ waiting, plaintexts (after.pendingPlaintexts ourAddress theirAddress) =
      plaintexts (before.pendingPlaintexts ourAddress theirAddress) ++ waiting ∧
    (triedPlaintexts ourAddress theirAddress attempts ++ waiting).Perm handed

variable {ourAddress theirAddress : E2eeAddress}

theorem HandsOver.trans {before between after : Client β}
    {first second : List (PlaintextAttempt β)} {handed more : List (Bytes β)}
    (one : HandsOver ourAddress theirAddress before between first handed)
    (other : HandsOver ourAddress theirAddress between after second more) :
    HandsOver ourAddress theirAddress before after (first ++ second) (handed ++ more) := by
  classical
  obtain ⟨waiting, left, balance⟩ := one
  obtain ⟨later, leftLater, balanceLater⟩ := other
  refine ⟨waiting ++ later, by rw [leftLater, left, List.append_assoc], ?_⟩
  rw [triedPlaintexts_append, List.perm_iff_count]
  intro data
  have now := balance.count_eq data
  have next := balanceLater.count_eq data
  simp only [List.count_append] at now next ⊢
  omega

/-- A balance goes on over a call. -/
theorem HandsOver.balance {before after : Client β} {attempts more : List (PlaintextAttempt β)}
    {submitted handed : List (Bytes β)}
    (balance : (triedPlaintexts ourAddress theirAddress attempts ++
      plaintexts (before.pendingPlaintexts ourAddress theirAddress)).Perm submitted)
    (handsOver : HandsOver ourAddress theirAddress before after more handed) :
    (triedPlaintexts ourAddress theirAddress (attempts ++ more) ++
      plaintexts (after.pendingPlaintexts ourAddress theirAddress)).Perm (submitted ++ handed) := by
  classical
  obtain ⟨waiting, left, added⟩ := handsOver
  rw [triedPlaintexts_append, left, List.perm_iff_count]
  intro data
  have now := balance.count_eq data
  have next := added.count_eq data
  simp only [List.count_append] at now next ⊢
  omega

/-- An answer hands nothing over. -/
theorem acceptAttempts_handsOver (attempts : Nat → SendAttempt) (client : Client β)
    (receiverAddress : E2eeAddress) (msg : AcceptMsg β) (coins : Bytes β) :
    (triedPlaintexts ourAddress theirAddress
        (acceptAttempts platform.getE2eesPack attempts client receiverAddress msg coins) ++
      plaintexts ((consumeAcceptMsg platform.getE2eesPack attempts client receiverAddress msg
        coins).pendingPlaintexts ourAddress theirAddress)) =
          plaintexts (client.pendingPlaintexts ourAddress theirAddress) := by
  obtain ⟨tried, left⟩ | ⟨-, tried, left⟩ := acceptAttempts_spec
    platform.getE2eesPack attempts client receiverAddress msg coins ourAddress
    theirAddress
  · rw [tried, left]
    rfl
  · rw [tried, left]
    exact List.append_nil _

variable (platform ourAddress theirAddress) in
theorem visitSessions_handsOver (skips : Session β → Bool) (data : Bytes β)
    (sessions : List (Session β)) (steps : Nat → SyncStep) (client : Client β) :
    let result := visitSessions platform.getE2eesPack skips data steps sessions client
    HandsOver ourAddress theirAddress client result.client result.attempts
      ((visitedWith skips ourAddress theirAddress sessions).map fun _ => data) := by
  intro result
  obtain ⟨tried, waiting⟩ := visitSessions_spec platform.getE2eesPack skips data
    sessions steps client ourAddress theirAddress
  refine ⟨_, waiting, ?_⟩
  rw [tried]
  exact map_responded_perm _ _

theorem sendToUser_handsOver (client : Client β) (call : SendCall β) :
    let data := packPlaintext (.commonMsg call.plaintextData)
    let sessions := outboundSessions platform client call.fromAddress call.toUserId call.toDomain
    let result := sendToUser platform packPlaintext client call
    HandsOver ourAddress theirAddress client result.client result.attempts
      (if sessions.isEmpty then
        if ourAddress = call.fromAddress ∧ theirAddress = call.toAddress then [data] else []
      else (sessionsWith ourAddress theirAddress sessions).map fun _ => data) := by
  intro data sessions result
  simp only [result, sendToUser]
  split
  · exact ⟨_, plaintexts_storePending _ _ _ _, List.Perm.refl _⟩
  · have visited := visitSessions_handsOver platform ourAddress theirAddress (fun _ => false) data
      sessions call.steps client
    simpa [visitedWith] using visited

/-- A call hands over its plaintext and the copies for our own devices. -/
theorem sendOne2oneMsg_handsOver (client : Client β) (call : SendCall β) :
    let result := sendOne2oneMsg platform packPlaintext client call
    HandsOver ourAddress theirAddress client result.2.1 result.2.2
      (call.handedOver platform packPlaintext client ourAddress theirAddress) :=
  (sendToUser_handsOver client call).trans (visitSessions_handsOver ..)

theorem sendOne2oneMsg_carried (client : Client β) (call : SendCall β) :
    ∀ attempt ∈ (sendOne2oneMsg platform packPlaintext client call).2.2,
      attempt.Carried platform.getE2eesPack := by
  intro attempt member
  obtain sent | synced := List.mem_append.mp member
  · unfold sendToUser at sent
    dsimp only at sent
    split at sent
    · cases sent
    · exact visitSessions_carried _ _ _ _ _ attempt sent
  · exact visitSessions_carried _ _ _ _ _ attempt synced

/-- Other calls only add plaintexts at the end. -/
theorem plaintexts_grow {before after : List (PendingPlaintext β)} (grows : before <+: after) :
    plaintexts after = plaintexts before ++ (plaintexts after).drop before.length := by
  obtain ⟨added, rfl⟩ := grows
  have length : (plaintexts before).length = before.length := List.length_map _
  rw [plaintexts_append, ← length, List.drop_left]

/-- Every event keeps the balance. -/
theorem stepOutbox_balanced (balanced : outbox.Balanced) (event : OutboxEvent β) :
    (stepOutbox platform packPlaintext outbox event).Balanced := by
  intro ourAddress theirAddress
  have balance := balanced ourAddress theirAddress
  cases event with
  | send call => exact HandsOver.balance balance (sendOne2oneMsg_handsOver outbox.client call)
  | accept attempts receiverAddress msg coins =>
      simp only [stepOutbox, triedPlaintexts_append]
      rw [List.append_assoc, acceptAttempts_handsOver]
      exact balance
  | other change grows =>
      simp only [stepOutbox]
      conv_lhs => rw [plaintexts_grow (grows outbox.client ourAddress theirAddress)]
      rw [← List.append_assoc]
      exact balance.append_right _

theorem stepOutbox_carried (carried : outbox.Carried platform.getE2eesPack)
    (event : OutboxEvent β) :
    (stepOutbox platform packPlaintext outbox event).Carried platform.getE2eesPack := by
  intro attempt member
  cases event with
  | send call =>
      obtain old | new := List.mem_append.mp member
      · exact carried attempt old
      · exact sendOne2oneMsg_carried _ _ attempt new
  | accept attempts receiverAddress msg coins =>
      obtain old | new := List.mem_append.mp member
      · exact carried attempt old
      · exact acceptAttempts_carried _ _ _ _ _ attempt new
  | other change grows => exact carried attempt member

/-- In every run, what goes out holds its plaintext. -/
theorem runOutbox_carried (client : Client β) (events : List (OutboxEvent β)) :
    (runOutbox platform packPlaintext client.outbox events).Carried platform.getE2eesPack := by
  have kept (outbox : Outbox β) (event : OutboxEvent β)
      (carried : outbox.Carried platform.getE2eesPack) :
      (stepOutbox platform packPlaintext outbox event).Carried platform.getE2eesPack :=
    stepOutbox_carried carried event
  apply Machine.run_invariant kept events
  intro attempt member
  cases member

end Steps

/-- In every run of sends, answers and other calls, each plaintext that is handed over is tried once
for each session or still waits, and what goes out holds its plaintext. -/
theorem outbox_conserved (platform : Platform β) (packPlaintext : Plaintext β → Bytes β)
    (client : Client β) (events : List (OutboxEvent β)) :
    let outbox := runOutbox platform packPlaintext client.outbox events
    outbox.Balanced ∧ outbox.Carried platform.getE2eesPack := by
  refine ⟨?_, runOutbox_carried client events⟩
  have kept (outbox : Outbox β) (event : OutboxEvent β) (balanced : outbox.Balanced) :
      (stepOutbox platform packPlaintext outbox event).Balanced :=
    stepOutbox_balanced balanced event
  apply Machine.run_invariant kept events
  intro ourAddress theirAddress
  exact List.Perm.refl _

section Growth

variable {platform : Platform β} {packPlaintext : Plaintext β → Bytes β}

/-- More plaintexts wait behind the ones that waited before. -/
def Client.WaitsLonger (before after : Client β) : Prop :=
  ∀ ourAddress theirAddress, before.pendingPlaintexts ourAddress theirAddress <+:
    after.pendingPlaintexts ourAddress theirAddress

theorem Client.WaitsLonger.of_eq {before after : Client β}
    (same : after.pendingPlaintexts = before.pendingPlaintexts) : before.WaitsLonger after := by
  intro ourAddress theirAddress
  rw [same]

theorem Client.WaitsLonger.trans {before between after : Client β}
    (first : before.WaitsLonger between) (second : between.WaitsLonger after) :
    before.WaitsLonger after :=
  fun ourAddress theirAddress => (first ourAddress theirAddress).trans
    (second ourAddress theirAddress)

theorem Client.storePendingPlaintextData_waitsLonger (client : Client β)
    (fromAddress toAddress : E2eeAddress) (entry : PendingPlaintext β) :
    client.WaitsLonger (client.storePendingPlaintextData fromAddress toAddress entry) := by
  intro ourAddress theirAddress
  simp only [Client.storePendingPlaintextData]
  split
  · exact List.prefix_append _ _
  · exact List.prefix_refl _

theorem visitSession_waitsLonger (step : SyncStep) (data : Bytes β) (client : Client β)
    (session : Session β) :
    client.WaitsLonger (visitSession platform.getE2eesPack step data client session).client := by
  unfold visitSession
  split
  · exact .of_eq rfl
  · exact client.storePendingPlaintextData_waitsLonger _ _ _

theorem visitSessions_waitsLonger (skips : Session β → Bool) (data : Bytes β)
    (sessions : List (Session β)) (steps : Nat → SyncStep) (client : Client β) :
    client.WaitsLonger
      (visitSessions platform.getE2eesPack skips data steps sessions client).client := by
  induction sessions generalizing steps client with
  | nil => exact .of_eq rfl
  | cons session rest ih =>
      apply Client.WaitsLonger.trans _ (ih _ _)
      split
      · exact .of_eq rfl
      · exact visitSession_waitsLonger _ _ _ _

theorem sendOne2oneMsg_waitsLonger (client : Client β) (call : SendCall β) :
    client.WaitsLonger (sendOne2oneMsg platform packPlaintext client call).2.1 := by
  apply Client.WaitsLonger.trans _ (visitSessions_waitsLonger _ _ _ _ _)
  unfold sendToUser
  dsimp only
  split
  · exact client.storePendingPlaintextData_waitsLonger _ _ _
  · exact visitSessions_waitsLonger _ _ _ _ _

/-- No event takes a plaintext away that waits for an address without a device. -/
theorem stepOutbox_waitsLonger (outbox : Outbox β) (event : OutboxEvent β)
    {ourAddress theirAddress : E2eeAddress} (invalid : isValidAddress theirAddress = false) :
    outbox.client.pendingPlaintexts ourAddress theirAddress <+:
      (stepOutbox platform packPlaintext outbox event).client.pendingPlaintexts ourAddress
        theirAddress := by
  cases event with
  | send call => exact sendOne2oneMsg_waitsLonger outbox.client call ourAddress theirAddress
  | accept attempts receiverAddress msg coins =>
      obtain ⟨-, left⟩ | ⟨valid, -⟩ := acceptAttempts_spec
        platform.getE2eesPack attempts outbox.client receiverAddress msg coins
        ourAddress theirAddress
      · simp only [stepOutbox, left]
        exact List.prefix_refl _
      · rw [invalid] at valid
        cases valid
  | other change grows => exact grows outbox.client ourAddress theirAddress

theorem waitsLonger_frame (platform : Platform β) :
    BundleFrame platform (fun _ => True) Client.WaitsLonger where
  refl _ := .of_eq rfl
  trans _ _ _ first second := first.trans second
  loaded _ _ _ _ _ _ _ := trivial
  newSession _ _ _ _ _ _ := .of_eq rfl
  send _ _ _ _ _ := .of_eq rfl
  wait client fromAddress toAddress entry _ :=
    client.storePendingPlaintextData_waitsLonger fromAddress toAddress entry
  queue _ _ _ _ := .of_eq rfl

/-- A request for bundles is one of the other calls. -/
def OutboxEvent.getPreKeyBundle (platform : Platform β) (reply : BundleReply β)
    (fromAddress : E2eeAddress) (auth : String) (request : GetPreKeyBundleRequest) (active : Bool)
    (groupPreKeyPlaintext : Option (Bytes β)) : OutboxEvent β :=
  .other (fun client => (getPreKeyBundleInternal platform reply client fromAddress auth request
    active groupPreKeyPlaintext).2)
    fun client => (waitsLonger_frame platform).getPreKeyBundleInternal trivial reply client auth
      request active groupPreKeyPlaintext

end Growth

/-- A plaintext for a user without a session waits for an address without a device, and it is never
sent, whatever happens later. -/
theorem unsessioned_waits (platform : Platform β) (packPlaintext : Plaintext β → Bytes β)
    (client : Client β) (before after : List (OutboxEvent β)) (call : SendCall β)
    (unknown : outboundSessions platform
      (runOutbox platform packPlaintext client.outbox before).client call.fromAddress call.toUserId
        call.toDomain = []) :
    let outbox := runOutbox platform packPlaintext client.outbox (before ++ .send call :: after)
    ⟨call.pendingPlaintextId, packPlaintext (.commonMsg call.plaintextData)⟩ ∈
        outbox.client.pendingPlaintexts call.fromAddress call.toAddress ∧
      ∀ attempt ∈ outbox.attempted, ∀ msg, attempt.msg = some msg →
        msg.toAddress ≠ call.toAddress := by
  intro outbox
  have invalid : isValidAddress call.toAddress = false := by
    simp [isValidAddress, SendCall.toAddress, isValidString]
  constructor
  · have split : outbox = runOutbox platform packPlaintext (stepOutbox platform packPlaintext
        (runOutbox platform packPlaintext client.outbox before) (.send call)) after :=
      Machine.run_append _ _ before (.send call :: after)
    have kept (outbox : Outbox β) (event : OutboxEvent β)
        (waits : ⟨call.pendingPlaintextId, packPlaintext (.commonMsg call.plaintextData)⟩ ∈
          outbox.client.pendingPlaintexts call.fromAddress call.toAddress) :
        ⟨call.pendingPlaintextId, packPlaintext (.commonMsg call.plaintextData)⟩ ∈
          (stepOutbox platform packPlaintext outbox event).client.pendingPlaintexts
            call.fromAddress call.toAddress :=
      (stepOutbox_waitsLonger outbox event invalid).subset waits
    rw [split]
    apply Machine.run_invariant kept after
    apply (visitSessions_waitsLonger _ _ _ _ _ _ _).subset
    simp [sendToUser, unknown, Client.storePendingPlaintextData]
  · intro attempt member msg sent same
    obtain ⟨-, -, valid, -⟩ := runOutbox_carried client _ attempt member msg sent
    rw [same, invalid] at valid
    cases valid

namespace Symbolic

/-- The only session has one identifier. -/
def sessionPlatform : Platform FreeTerm :=
  { platform with
    loadOutboundSessions := fun sessions fromAddress userId _ =>
      (sessions.load handshake.draw.sessionId fromAddress).toList.filter fun session =>
        decide (session.theirAddress.userId = some userId) }

/-- The first term tells the kinds apart. -/
def packPlaintext : Plaintext FreeTerm → Bytes FreeTerm
  | .commonMsg data => .byte 0 :: data
  | .commonSyncMsg data => .byte 1 :: data
  | _ => []

/-- Alice is registered and has no session. -/
def aliceClient : Client FreeTerm where
  store := handshake.aliceStore
  groups := .empty
  pendingPlaintexts _ _ := []
  serverPublicKey _ := none

def inviteBob : OutboxEvent FreeTerm :=
  .other (fun client => { client with
      store := (pqcNewOutboundSessionV2 handshake.getE2eesPack handshake.invite client.store
        aliceAddress handshake.bundle handshake.draw).2.1 })
    fun _ _ _ => List.prefix_refl _

def callBob (text : UInt8) : SendCall FreeTerm where
  fromAddress := aliceAddress
  toUserId := "bob"
  toDomain := "domain"
  plaintextData := [.byte text]
  pendingPlaintextId := "id"
  steps _ := ⟨⟨"auth", some ⟨.ok⟩⟩, "id"⟩
  syncSteps _ := ⟨⟨"auth", none⟩, "id"⟩

def bobAnswers : OutboxEvent FreeTerm :=
  .accept (fun _ => ⟨"auth", some ⟨.ok⟩⟩) aliceAddress handshake.answer handshake.aliceCoins

end Symbolic

open Symbolic in
/-- Alice writes to Bob before she invites him, and her message still waits when the session is
completed. -/
theorem early_message_waits :
    let outbox := runOutbox sessionPlatform packPlaintext aliceClient.outbox
      [.send (callBob 1), inviteBob, bobAnswers]
    ⟨"id", [.byte 0, .byte 1]⟩ ∈
        outbox.client.pendingPlaintexts aliceAddress ⟨"domain", .user "bob" ""⟩ ∧
      (outbox.client.store.sessions.load handshake.draw.sessionId aliceAddress).any
        (fun session => session.responded) = true :=
  ⟨(unsessioned_waits sessionPlatform packPlaintext aliceClient [] [inviteBob, bobAnswers]
    (callBob 1) (by decide)).1, by decide +kernel⟩

section Order

variable {platform : Platform β} {packPlaintext : Plaintext β → Bytes β}
  {ourAddress theirAddress : E2eeAddress}

/-- These are the sessions with one device that a call visits, in both of its loops. -/
def SendCall.visited (call : SendCall β) (platform : Platform β)
    (packPlaintext : Plaintext β → Bytes β) (client : Client β)
    (ourAddress theirAddress : E2eeAddress) : List (Session β) :=
  visitedWith (fun _ => false) ourAddress theirAddress
      (outboundSessions platform client call.fromAddress call.toUserId call.toDomain) ++
    visitedWith (isOwnDevice call.fromAddress) ourAddress theirAddress
      (outboundSessions platform (sendToUser platform packPlaintext client call).client
        call.fromAddress (call.fromAddress.userId.getD "") call.fromAddress.domain)

/-- All sessions with the device wait for their answer, or none does and no plaintext waits. -/
def InOrder (platform : Platform β) (packPlaintext : Plaintext β → Bytes β)
    (ourAddress theirAddress : E2eeAddress) (outbox : Outbox β) : OutboxEvent β → Prop
  | .send call =>
      (∀ session ∈ call.visited platform packPlaintext outbox.client ourAddress theirAddress,
        session.responded = false) ∨
      outbox.client.pendingPlaintexts ourAddress theirAddress = [] ∧
        ∀ session ∈ call.visited platform packPlaintext outbox.client ourAddress theirAddress,
          session.responded = true
  | _ => True

variable (platform) in
theorem visitSessions_waiting {skips : Session β → Bool} {sessions : List (Session β)}
    (waiting : ∀ session ∈ visitedWith skips ourAddress theirAddress sessions,
      session.responded = false) (data : Bytes β) (steps : Nat → SyncStep) (client : Client β) :
    let result := visitSessions platform.getE2eesPack skips data steps sessions client
    triedPlaintexts ourAddress theirAddress result.attempts = [] ∧
      plaintexts (result.client.pendingPlaintexts ourAddress theirAddress) =
        plaintexts (client.pendingPlaintexts ourAddress theirAddress) ++
          (visitedWith skips ourAddress theirAddress sessions).map fun _ => data := by
  obtain ⟨tried, left⟩ := visitSessions_spec platform.getE2eesPack skips data
    sessions steps client ourAddress theirAddress
  rw [List.filter_eq_nil_iff.mpr (by simpa using waiting)] at tried
  rw [List.filter_eq_self.mpr (by simpa using waiting)] at left
  exact ⟨tried, left⟩

variable (platform) in
theorem visitSessions_direct {skips : Session β → Bool} {sessions : List (Session β)}
    (answered : ∀ session ∈ visitedWith skips ourAddress theirAddress sessions,
      session.responded = true) (data : Bytes β) (steps : Nat → SyncStep) (client : Client β) :
    let result := visitSessions platform.getE2eesPack skips data steps sessions client
    triedPlaintexts ourAddress theirAddress result.attempts =
        (visitedWith skips ourAddress theirAddress sessions).map (fun _ => data) ∧
      plaintexts (result.client.pendingPlaintexts ourAddress theirAddress) =
        plaintexts (client.pendingPlaintexts ourAddress theirAddress) := by
  obtain ⟨tried, left⟩ := visitSessions_spec platform.getE2eesPack skips data
    sessions steps client ourAddress theirAddress
  rw [List.filter_eq_self.mpr answered] at tried
  rw [List.filter_eq_nil_iff.mpr (by simpa using answered)] at left
  exact ⟨tried, left.trans (List.append_nil _)⟩

/-- A device with a valid address is handed nothing in the name of a user. -/
theorem handedOver_visited (call : SendCall β) (client : Client β)
    (valid : isValidAddress theirAddress = true) :
    call.handedOver platform packPlaintext client ourAddress theirAddress =
      ((visitedWith (fun _ => false) ourAddress theirAddress (outboundSessions platform client
        call.fromAddress call.toUserId call.toDomain)).map fun _ =>
          packPlaintext (.commonMsg call.plaintextData)) ++
      (visitedWith (isOwnDevice call.fromAddress) ourAddress theirAddress
        (outboundSessions platform (sendToUser platform packPlaintext client call).client
          call.fromAddress (call.fromAddress.userId.getD "") call.fromAddress.domain)).map
            fun _ => packPlaintext (.commonSyncMsg call.plaintextData) := by
  have other : ¬ (ourAddress = call.fromAddress ∧ theirAddress = call.toAddress) := by
    rintro ⟨-, rfl⟩
    simp [isValidAddress, SendCall.toAddress, isValidString] at valid
  unfold SendCall.handedOver
  dsimp only
  congr 1
  split
  next none => simp [visitedWith, sessionsWith, List.isEmpty_iff.mp none]
  next => simp [visitedWith]

variable (platform packPlaintext ourAddress) in
/-- The first loop meets a device with a valid address like any other loop. -/
theorem sendToUser_visits (call : SendCall β) (client : Client β)
    (valid : isValidAddress theirAddress = true) :
    let result := sendToUser platform packPlaintext client call
    let visits := visitSessions platform.getE2eesPack (fun _ => false)
      (packPlaintext (.commonMsg call.plaintextData)) call.steps
      (outboundSessions platform client call.fromAddress call.toUserId call.toDomain) client
    result.attempts = visits.attempts ∧
      result.client.pendingPlaintexts ourAddress theirAddress =
        visits.client.pendingPlaintexts ourAddress theirAddress := by
  intro result visits
  have other : ¬ (ourAddress = call.fromAddress ∧ theirAddress = call.toAddress) := by
    rintro ⟨-, rfl⟩
    simp [isValidAddress, SendCall.toAddress, isValidString] at valid
  simp only [result, visits, sendToUser]
  split
  next none =>
    rw [List.isEmpty_iff.mp none]
    simp [visitSessions, Client.storePendingPlaintextData, if_neg other]
  next => exact ⟨rfl, rfl⟩

instance decidableInOrder [DecidableEq β] (outbox : Outbox β) :
    (event : OutboxEvent β) →
      Decidable (InOrder platform packPlaintext ourAddress theirAddress outbox event)
  | .send call => inferInstanceAs (Decidable ((∀ session ∈ call.visited platform packPlaintext
      outbox.client ourAddress theirAddress, session.responded = false) ∨
        outbox.client.pendingPlaintexts ourAddress theirAddress = [] ∧
          ∀ session ∈ call.visited platform packPlaintext outbox.client ourAddress theirAddress,
            session.responded = true))
  | .accept .. => inferInstanceAs (Decidable True)
  | .other .. => inferInstanceAs (Decidable True)

/-- What a call tries and what then waits is what waited before and what it was handed. -/
theorem sendOne2oneMsg_inOrder {outbox : Outbox β} {call : SendCall β}
    (valid : isValidAddress theirAddress = true)
    (order : InOrder platform packPlaintext ourAddress theirAddress outbox (.send call)) :
    let result := sendOne2oneMsg platform packPlaintext outbox.client call
    triedPlaintexts ourAddress theirAddress result.2.2 ++
        plaintexts (result.2.1.pendingPlaintexts ourAddress theirAddress) =
      plaintexts (outbox.client.pendingPlaintexts ourAddress theirAddress) ++
        call.handedOver platform packPlaintext outbox.client ourAddress theirAddress := by
  intro result
  obtain ⟨sameAttempts, samePending⟩ := sendToUser_visits platform packPlaintext ourAddress
    call outbox.client valid
  simp only [result, sendOne2oneMsg, sendSyncMsg, triedPlaintexts_append,
    handedOver_visited call outbox.client valid]
  obtain waiting | ⟨none, answered⟩ := order
  · obtain ⟨first, second⟩ := List.forall_mem_append.mp waiting
    obtain ⟨tried, left⟩ := visitSessions_waiting platform first
      (packPlaintext (.commonMsg call.plaintextData)) call.steps outbox.client
    obtain ⟨triedOwn, leftOwn⟩ := visitSessions_waiting platform second
      (packPlaintext (.commonSyncMsg call.plaintextData)) call.syncSteps
      (sendToUser platform packPlaintext outbox.client call).client
    rw [triedOwn, leftOwn, sameAttempts, samePending, tried, left]
    simp
  · obtain ⟨first, second⟩ := List.forall_mem_append.mp answered
    obtain ⟨tried, left⟩ := visitSessions_direct platform first
      (packPlaintext (.commonMsg call.plaintextData)) call.steps outbox.client
    obtain ⟨triedOwn, leftOwn⟩ := visitSessions_direct platform second
      (packPlaintext (.commonSyncMsg call.plaintextData)) call.syncSteps
      (sendToUser platform packPlaintext outbox.client call).client
    rw [triedOwn, leftOwn, sameAttempts, samePending, tried, left, none]
    simp [plaintexts]

/-- Between two addresses the plaintexts are tried in the order in which they are handed over. -/
def Outbox.Ordered (outbox : Outbox β) (ourAddress theirAddress : E2eeAddress) : Prop :=
  triedPlaintexts ourAddress theirAddress outbox.attempted ++
    plaintexts (outbox.client.pendingPlaintexts ourAddress theirAddress) =
      outbox.submitted ourAddress theirAddress

theorem stepOutbox_ordered {outbox : Outbox β} (valid : isValidAddress theirAddress = true)
    (ordered : outbox.Ordered ourAddress theirAddress) {event : OutboxEvent β}
    (order : InOrder platform packPlaintext ourAddress theirAddress outbox event) :
    (stepOutbox platform packPlaintext outbox event).Ordered ourAddress theirAddress := by
  cases event with
  | send call =>
      have handed := sendOne2oneMsg_inOrder valid order
      simp only [Outbox.Ordered, stepOutbox, triedPlaintexts_append]
      rw [List.append_assoc, handed, ← List.append_assoc, ordered]
  | accept attempts receiverAddress msg coins =>
      simp only [Outbox.Ordered, stepOutbox, triedPlaintexts_append]
      rw [List.append_assoc, acceptAttempts_handsOver]
      exact ordered
  | other change grows =>
      simp only [Outbox.Ordered, stepOutbox]
      conv_lhs => rw [plaintexts_grow (grows outbox.client ourAddress theirAddress)]
      rw [← List.append_assoc, ordered]

end Order

/-- In a run where no plaintext waits while it is passed by on a session with an answer, each device
gets its plaintexts in the order in which they are handed over. -/
theorem outbox_ordered (platform : Platform β) (packPlaintext : Plaintext β → Bytes β)
    {ourAddress theirAddress : E2eeAddress} (valid : isValidAddress theirAddress = true)
    (client : Client β) (events : List (OutboxEvent β))
    (order : Machine.Along (stepOutbox platform packPlaintext)
      (InOrder platform packPlaintext ourAddress theirAddress) client.outbox events) :
    (runOutbox platform packPlaintext client.outbox events).Ordered ourAddress theirAddress := by
  have kept (outbox : Outbox β) (event : OutboxEvent β)
      (ordered : outbox.Ordered ourAddress theirAddress)
      (order : InOrder platform packPlaintext ourAddress theirAddress outbox event) :
      (stepOutbox platform packPlaintext outbox event).Ordered ourAddress theirAddress :=
    stepOutbox_ordered valid ordered order
  have start : client.outbox.Ordered ourAddress theirAddress := rfl
  exact Machine.run_invariant_along kept events start order

open Symbolic in
/-- Two messages wait for the answer of Bob, and the third one follows them. -/
theorem calls_ordered :
    let outbox := runOutbox sessionPlatform packPlaintext aliceClient.outbox
      [inviteBob, .send (callBob 1), .send (callBob 2), bobAnswers, .send (callBob 3)]
    outbox.Ordered aliceAddress bobAddress ∧
      triedPlaintexts aliceAddress bobAddress outbox.attempted =
        [[.byte 0, .byte 1], [.byte 0, .byte 2], [.byte 0, .byte 3]] ∧
      outbox.attempted.all (fun attempt => attempt.msg.isSome) = true :=
  ⟨outbox_ordered sessionPlatform packPlaintext (by decide) aliceClient _ (by decide +kernel),
    by decide +kernel, by decide +kernel⟩

end E2eeSecurity
