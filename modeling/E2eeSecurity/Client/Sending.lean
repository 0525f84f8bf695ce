/-
This file says what becomes of the pending plaintexts of a completed session.
-/
import Mathlib.Data.List.Infix
import E2eeSecurity.Client.Model
import E2eeSecurity.Session.Leftover

namespace E2eeSecurity

variable {β : Type} {getE2eesPack : Packs β} {cipherSuite : CipherSuite β}

section Encryption

variable {ratchet : Ratchet β}

/-- A valid ratchet takes its next message key, whatever the length of its keys. -/
theorem encryptRatchet_valid (suite : isValidCipherSuite cipherSuite = true)
    (valid : isValidRatchet ratchet = true) :
    ∃ sender key next, ratchet.senderChain = some sender ∧ sender.chainKey = some key ∧
      key.sharedKey ≠ [] ∧ advanceChainKey cipherSuite (some key) = some next ∧
      isValidRatchet { ratchet with
        senderChain := some { sender with chainKey := some next }
        sendingMessageSequence := ratchet.sendingMessageSequence + 1 } = true ∧
      ∀ ad data, encryptRatchet cipherSuite ratchet ad (some data) =
        ((cipherSuite.se.encrypt ad (cipherSuite.messageKey key.sharedKey) data).map
          (emittedPayload ratchet sender key),
          { ratchet with
            senderChain := some { sender with chainKey := some next }
            sendingMessageSequence := ratchet.sendingMessageSequence + 1 }) := by
  obtain ⟨-, ⟨sender, key, present, ours, theirs, keyed, nonempty⟩, -⟩ := isValidRatchet_parts valid
  obtain ⟨next, advanced, nextNonempty⟩ := advanceChainKey_nonempty suite nonempty
  refine ⟨sender, key, next, present, keyed, nonempty, advanced, ?_, ?_⟩
  · simp only [isValidRatchet, Bool.and_eq_true] at valid ⊢
    refine ⟨⟨⟨valid.1.1.1, ?_⟩, valid.1.2⟩, valid.2⟩
    simp [isValidSenderChain, isValidChainKey, ours, theirs, nextNonempty]
  · intro ad data
    have derived := createMsgKeys_nonempty suite nonempty
    have checked : isValidSenderChain (some sender) = true := by
      simp [isValidSenderChain, keyed, isValidChainKey, nonempty, ours, theirs]
    simp only [encryptRatchet, present, suite, checked, Bool.and_self, if_true, keyed, derived,
      advanced, Option.some_or]
    rfl

/-- Each plaintext in turn passes the cipher under the next message key of the chain. -/
def Encryptable (cipherSuite : CipherSuite β) (ad : Bytes β) (chainKey : Option (ChainKey β))
    (plaintexts : List (Bytes β)) : Prop :=
  ∀ index data, plaintexts[index]? = some data →
    ∃ msgKey ciphertext,
      createMsgKeys cipherSuite (advanceChainKeyTimes cipherSuite index chainKey) = some msgKey ∧
      cipherSuite.se.encrypt ad msgKey.derivedKey data = some ciphertext

/-- The first plaintext takes the current key, and the others follow on the next one. -/
theorem encryptable_cons (suite : isValidCipherSuite cipherSuite = true) {ad : Bytes β}
    {key next : ChainKey β} (nonempty : key.sharedKey ≠ [])
    (advanced : advanceChainKey cipherSuite (some key) = some next) (data : Bytes β)
    (rest : List (Bytes β)) :
    Encryptable cipherSuite ad (some key) (data :: rest) ↔
      (∃ ciphertext, cipherSuite.se.encrypt ad (cipherSuite.messageKey key.sharedKey) data =
        some ciphertext) ∧ Encryptable cipherSuite ad (some next) rest := by
  have derived := createMsgKeys_nonempty suite nonempty
  have later (index : Nat) : advanceChainKeyTimes cipherSuite (index + 1) (some key) =
      advanceChainKeyTimes cipherSuite index (some next) := by
    simp [advanceChainKeyTimes, advanced]
  constructor
  · intro encryptable
    constructor
    · obtain ⟨msgKey, ciphertext, made, sealed⟩ := encryptable 0 data rfl
      rw [advanceChainKeyTimes, derived, Option.some.injEq] at made
      subst made
      exact ⟨ciphertext, sealed⟩
    · intro index other found
      rw [← later]
      exact encryptable (index + 1) other found
  · rintro ⟨⟨ciphertext, sealed⟩, encryptable⟩ index other found
    cases index with
    | zero =>
        simp only [List.getElem?_cons_zero, Option.some.injEq] at found
        subst found
        exact ⟨_, ciphertext, derived, sealed⟩
    | succ index =>
        rw [later]
        exact encryptable index other found

end Encryption

section Attempt

variable {session : Session β} {ratchet : Ratchet β}

/-- A completed session has a valid ratchet and a valid suite. -/
theorem isValidCompletedSession_parts
    (valid : isValidCompletedSession getE2eesPack session = true)
    (present : session.ratchet = some ratchet)
    (pack : getE2eesPack session.e2eesPackId = some cipherSuite) :
    isValidRatchet ratchet = true ∧ isValidCipherSuite cipherSuite = true := by
  simp only [isValidCompletedSession, Bool.and_eq_true, present, Option.any_some] at valid
  obtain ⟨⟨⟨⟨⟨⟨⟨-, suite⟩, -⟩, -⟩, -⟩, ratchetValid⟩, -⟩, -⟩ := valid
  refine ⟨ratchetValid, ?_⟩
  simpa [isValidE2eesPackId, pack] using suite

theorem isValidCompletedSession_moved
    (valid : isValidCompletedSession getE2eesPack session = true) {moved : Ratchet β}
    (ratchetValid : isValidRatchet moved = true) :
    isValidCompletedSession getE2eesPack { session with ratchet := some moved } = true := by
  simp only [isValidCompletedSession, Bool.and_eq_true, Option.any_some] at valid ⊢
  exact ⟨⟨⟨valid.1.1.1, ratchetValid⟩, valid.1.2⟩, valid.2⟩

/-- The server took the message, or the device of the other party is gone. -/
def SendAttempt.Answered (attempt : SendAttempt) : Prop :=
  ∃ response, attempt.response = some response ∧
    (response.code = .ok ∨ response.code = .notFound)

/-- The message holds the plaintext under a key of its session. -/
def One2oneMsg.Carries (cipherSuite : CipherSuite β) (session : Session β) (msg : One2oneMsg β)
    (plaintextData : Bytes β) : Prop :=
  msg.sessionId = session.sessionId ∧ msg.fromAddress = session.ourAddress ∧
    msg.toAddress = session.theirAddress ∧
    ∃ key, cipherSuite.se.encrypt session.associatedData key plaintextData =
      some msg.payload.ciphertext

/-- Whatever the answer, no waiting request is dropped. -/
theorem consumeSendOne2oneMsgResponse_pending (store : Store β) (session : Session β)
    (response : Option SendOne2oneMsgResponse) :
    (consumeSendOne2oneMsgResponse store session response).2.pendingRequests =
      store.pendingRequests := by
  rcases response with _ | ⟨_ | _ | _⟩ <;> rfl

/-- The attempt counts as sent exactly when the server has answered for good. -/
theorem consumeSendOne2oneMsgResponse_answered (attempt : SendAttempt) (store : Store β)
    (session : Session β) :
    (consumeSendOne2oneMsgResponse store session attempt.response).1 = true ↔
      attempt.Answered := by
  obtain ⟨auth, response⟩ := attempt
  rcases response with _ | ⟨_ | _ | _⟩ <;>
    simp [consumeSendOne2oneMsgResponse, SendAttempt.Answered]

/-- Without an authorisation nothing happens at all. -/
theorem sendOne2oneMsgInternal_refused {attempt : SendAttempt}
    (missing : ¬ isValidString attempt.auth = true) (store : Store β) (session : Session β)
    (data : Bytes β) :
    sendOne2oneMsgInternal getE2eesPack attempt store session data = ⟨store, session, none⟩ := by
  unfold sendOne2oneMsgInternal
  split
  · rw [if_neg (by simp [missing])]
  · rfl

/-- With an authorisation the ratchet moves, and the message goes out when it was encrypted. -/
theorem sendOne2oneMsgInternal_sent
    (valid : isValidCompletedSession getE2eesPack session = true)
    (present : session.ratchet = some ratchet)
    (pack : getE2eesPack session.e2eesPackId = some cipherSuite) {attempt : SendAttempt}
    (auth : isValidString attempt.auth = true) (store : Store β) (data : Bytes β) :
    let encrypted := encryptRatchet cipherSuite ratchet session.associatedData (some data)
    let result := sendOne2oneMsgInternal getE2eesPack attempt store session data
    result.session = { session with ratchet := some encrypted.2 } ∧
      result.dispatched = encrypted.1.map (produceSendOne2oneMsgRequest result.session) ∧
      (∀ owner, store.pendingRequests owner <+: result.store.pendingRequests owner) ∧
      ∀ msg, result.dispatched = some msg → attempt.Answered ∨
        .sendOne2oneMsg msg ∈ result.store.pendingRequests session.ourAddress := by
  intro encrypted result
  have unfolded : result = sendOne2oneMsgInternal getE2eesPack attempt store session data := rfl
  simp only [sendOne2oneMsgInternal, present, pack, valid, auth, Bool.and_self, if_true]
    at unfolded
  cases made : encrypted.1 with
  | none =>
      rw [show (encryptRatchet cipherSuite ratchet session.associatedData (some data)).1 = none
        from made] at unfolded
      rw [unfolded]
      exact ⟨rfl, rfl, fun _ => List.prefix_refl _, by simp⟩
  | some payload =>
      rw [show (encryptRatchet cipherSuite ratchet session.associatedData (some data)).1 =
        some payload from made] at unfolded
      dsimp only at unfolded
      split at unfolded
      · rename_i answered
        rw [unfolded]
        refine ⟨rfl, rfl, ?_, ?_⟩
        · intro owner
          rw [consumeSendOne2oneMsgResponse_pending]
        · intro msg _
          exact .inl ((consumeSendOne2oneMsgResponse_answered attempt _ _).mp answered)
      · rw [unfolded]
        refine ⟨rfl, rfl, ?_, ?_⟩
        · intro owner
          simp only [Store.storePendingRequest, consumeSendOne2oneMsgResponse_pending]
          split
          · exact List.prefix_append _ _
          · exact List.prefix_refl _
        · rintro msg ⟨⟩
          refine .inr ?_
          simp [Store.storePendingRequest]

end Attempt

section Loop

/-- These are the plaintexts of the waiting entries. -/
def plaintexts (pending : List (PendingPlaintext β)) : List (Bytes β) :=
  pending.map fun entry => entry.plaintextData

/-- Every entry went out in a message that was answered or waits in the queue, or it is still
stored, and later entries have higher sequence numbers. -/
structure PlaintextsKept (cipherSuite : CipherSuite β) (attempts : Nat → SendAttempt)
    (session : Session β) (pending : List (PendingPlaintext β)) (client : Client β)
    (dispatched : List (Option (One2oneMsg β))) : Prop where
  kept : ∀ (index : Nat) entry, pending[index]? = some entry →
    (∃ msg, dispatched[index]? = some (some msg) ∧
      msg.Carries cipherSuite session entry.plaintextData ∧ ((attempts index).Answered ∨
        .sendOne2oneMsg msg ∈ client.store.pendingRequests session.ourAddress)) ∨
      entry ∈ client.pendingPlaintexts session.ourAddress session.theirAddress
  ordered : ∀ (index later : Nat) first second, index < later →
    dispatched[index]? = some (some first) → dispatched[later]? = some (some second) →
    first.payload.sendingMessageSequence < second.payload.sendingMessageSequence

/-- One attempt of the loop, with the entry unloaded behind it. -/
theorem sendPendingPlaintexts_cons (attempts : Nat → SendAttempt) (entry : PendingPlaintext β)
    (rest : List (PendingPlaintext β)) (client : Client β) (session : Session β) :
    let sent := sendOne2oneMsgInternal getE2eesPack (attempts 0) client.store session
      entry.plaintextData
    let later := sendPendingPlaintexts getE2eesPack (fun index => attempts (index + 1)) rest
      (({ client with store := sent.store } : Client β).unloadPendingPlaintextData
        session.ourAddress session.theirAddress entry.pendingPlaintextId) sent.session
    sendPendingPlaintexts getE2eesPack attempts (entry :: rest) client session =
      (later.1, later.2.1, sent.dispatched :: later.2.2) :=
  rfl

/-- This is where one attempt leaves the session: it has moved on a valid ratchet, or it stays. -/
theorem sendOne2oneMsgInternal_session {session : Session β} {ratchet : Ratchet β}
    (valid : isValidCompletedSession getE2eesPack session = true)
    (present : session.ratchet = some ratchet)
    (pack : getE2eesPack session.e2eesPackId = some cipherSuite) (attempt : SendAttempt)
    (store : Store β) (data : Bytes β) :
    ∃ moved, (sendOne2oneMsgInternal getE2eesPack attempt store session data).session =
        { session with ratchet := some moved } ∧ isValidCompletedSession getE2eesPack
          { session with ratchet := some moved } = true := by
  obtain ⟨ratchetValid, suite⟩ := isValidCompletedSession_parts valid present pack
  by_cases auth : isValidString attempt.auth = true
  · obtain ⟨sender, key, next, -, -, -, -, nextValid, encrypted⟩ :=
      encryptRatchet_valid suite ratchetValid
    obtain ⟨moved, -⟩ := sendOne2oneMsgInternal_sent valid present pack auth store data
    refine ⟨_, moved, ?_⟩
    rw [encrypted]
    exact isValidCompletedSession_moved valid nextValid
  · rw [sendOne2oneMsgInternal_refused auth]
    exact ⟨ratchet, by rw [← present], isValidCompletedSession_moved valid ratchetValid⟩

/-- The loop keeps all waiting requests and adds its own behind them. -/
theorem sendPendingPlaintexts_pending {session : Session β} {ratchet : Ratchet β}
    (valid : isValidCompletedSession getE2eesPack session = true)
    (present : session.ratchet = some ratchet)
    (pack : getE2eesPack session.e2eesPackId = some cipherSuite) (attempts : Nat → SendAttempt)
    (pending : List (PendingPlaintext β)) (client : Client β) (owner : E2eeAddress) :
    client.store.pendingRequests owner <+: (sendPendingPlaintexts getE2eesPack attempts pending
      client session).1.store.pendingRequests owner := by
  induction pending generalizing attempts client session ratchet with
  | nil => exact List.prefix_refl _
  | cons entry rest ih =>
      rw [sendPendingPlaintexts_cons]
      obtain ⟨moved, left, movedValid⟩ := sendOne2oneMsgInternal_session valid present pack
        (attempts 0) client.store entry.plaintextData
      rw [left]
      refine List.IsPrefix.trans ?_ (ih movedValid rfl pack _ _)
      simp only [Client.unloadPendingPlaintextData]
      by_cases auth : isValidString (attempts 0).auth = true
      · exact (sendOne2oneMsgInternal_sent valid present pack auth client.store
          entry.plaintextData).2.2.1 owner
      · rw [sendOne2oneMsgInternal_refused auth]

/-- The loop never adds a waiting plaintext, and it drops every entry of its list. -/
theorem sendPendingPlaintexts_unloaded {session : Session β} {ratchet : Ratchet β}
    (valid : isValidCompletedSession getE2eesPack session = true)
    (present : session.ratchet = some ratchet)
    (pack : getE2eesPack session.e2eesPackId = some cipherSuite) (attempts : Nat → SendAttempt)
    (pending : List (PendingPlaintext β)) (client : Client β) {entry : PendingPlaintext β}
    (left : entry ∈ (sendPendingPlaintexts getE2eesPack attempts pending
      client session).1.pendingPlaintexts session.ourAddress session.theirAddress) :
    entry ∉ pending ∧
      entry ∈ client.pendingPlaintexts session.ourAddress session.theirAddress := by
  induction pending generalizing attempts client session ratchet with
  | nil => exact ⟨by simp, left⟩
  | cons first rest ih =>
      rw [sendPendingPlaintexts_cons] at left
      obtain ⟨moved, same, movedValid⟩ := sendOne2oneMsgInternal_session valid present pack
        (attempts 0) client.store first.plaintextData
      rw [same] at left
      obtain ⟨notRest, stored⟩ := ih movedValid rfl pack _ _ left
      simp only [Client.unloadPendingPlaintextData, and_self, if_true, List.mem_filter,
        bne_iff_ne, ne_eq] at stored
      refine ⟨?_, stored.1⟩
      rw [List.mem_cons, not_or]
      exact ⟨fun equal => stored.2 (by rw [equal]), notRest⟩

/-- A message of the loop carries the plaintext of its place, and it is answered or queued. -/
theorem sendPendingPlaintexts_dispatched {session : Session β} {ratchet : Ratchet β}
    (valid : isValidCompletedSession getE2eesPack session = true)
    (present : session.ratchet = some ratchet)
    (pack : getE2eesPack session.e2eesPackId = some cipherSuite) (attempts : Nat → SendAttempt)
    (pending : List (PendingPlaintext β)) (client : Client β) {index : Nat}
    {entry : PendingPlaintext β} {msg : One2oneMsg β} (found : pending[index]? = some entry)
    (dispatched : (sendPendingPlaintexts getE2eesPack attempts pending client
      session).2.2[index]? = some (some msg)) :
    msg.Carries cipherSuite session entry.plaintextData ∧ ((attempts index).Answered ∨
      .sendOne2oneMsg msg ∈ (sendPendingPlaintexts getE2eesPack attempts pending client
        session).1.store.pendingRequests session.ourAddress) := by
  induction pending generalizing attempts client session ratchet index with
  | nil => simp at found
  | cons first rest ih =>
      rw [sendPendingPlaintexts_cons] at dispatched ⊢
      obtain ⟨moved, same, movedValid⟩ := sendOne2oneMsgInternal_session valid present pack
        (attempts 0) client.store first.plaintextData
      cases index with
      | zero =>
          simp only [List.getElem?_cons_zero, Option.some.injEq] at found dispatched
          subst found
          by_cases auth : isValidString (attempts 0).auth = true
          · obtain ⟨-, sent, -, answered⟩ := sendOne2oneMsgInternal_sent valid present pack auth
              client.store first.plaintextData
            obtain ⟨ratchetValid, suite⟩ := isValidCompletedSession_parts valid present pack
            obtain ⟨sender, key, next, -, -, -, -, -, encrypted⟩ :=
              encryptRatchet_valid suite ratchetValid
            rw [dispatched, encrypted, same] at sent
            constructor
            · obtain ⟨payload, made, rfl⟩ := Option.map_eq_some_iff.mp sent.symm
              obtain ⟨ciphertext, sealed, rfl⟩ := Option.map_eq_some_iff.mp made
              exact ⟨rfl, rfl, rfl, _, sealed⟩
            · refine (answered msg dispatched).imp id fun queued => ?_
              rw [same]
              exact (sendPendingPlaintexts_pending movedValid rfl pack _ rest _
                session.ourAddress).subset queued
          · rw [sendOne2oneMsgInternal_refused auth] at dispatched
            simp at dispatched
      | succ index =>
          simp only [List.getElem?_cons_succ] at found dispatched
          rw [same] at dispatched ⊢
          exact ih movedValid rfl pack _ _ found dispatched

/-- Every entry goes out exactly when all authorisations are present and all ciphers are made. -/
theorem sendPendingPlaintexts_all_iff {session : Session β} {ratchet : Ratchet β}
    {sender : SenderChainNode β}
    (valid : isValidCompletedSession getE2eesPack session = true)
    (present : session.ratchet = some ratchet) (chained : ratchet.senderChain = some sender)
    (pack : getE2eesPack session.e2eesPackId = some cipherSuite) (attempts : Nat → SendAttempt)
    (pending : List (PendingPlaintext β)) (client : Client β) :
    (∀ (index : Nat) entry, pending[index]? = some entry → ∃ msg,
      (sendPendingPlaintexts getE2eesPack attempts pending client session).2.2[index]? =
        some (some msg)) ↔
      (∀ index < pending.length, isValidString (attempts index).auth = true) ∧
        Encryptable cipherSuite session.associatedData sender.chainKey (plaintexts pending) := by
  induction pending generalizing attempts client session ratchet sender with
  | nil => simp [Encryptable, plaintexts]
  | cons first rest ih =>
      obtain ⟨ratchetValid, suite⟩ := isValidCompletedSession_parts valid present pack
      obtain ⟨sender', key, next, chained', keyed, nonempty, advanced, nextValid, encrypted⟩ :=
        encryptRatchet_valid suite ratchetValid
      rw [chained, Option.some.injEq] at chained'
      subst chained'
      rw [sendPendingPlaintexts_cons, keyed, plaintexts, List.map_cons,
        encryptable_cons suite nonempty advanced]
      by_cases auth : isValidString (attempts 0).auth = true
      · obtain ⟨moved, sent, -, -⟩ := sendOne2oneMsgInternal_sent valid present pack auth
          client.store first.plaintextData
        rw [encrypted] at moved sent
        have rest_iff := ih (isValidCompletedSession_moved valid nextValid) rfl rfl pack
          (fun index => attempts (index + 1)) (({ client with store := (sendOne2oneMsgInternal
            getE2eesPack (attempts 0) client.store session first.plaintextData).store } :
              Client β).unloadPendingPlaintextData session.ourAddress session.theirAddress
            first.pendingPlaintextId)
        rw [moved]
        constructor
        · intro all
          obtain ⟨authorised, encryptable⟩ := rest_iff.mp fun index entry found =>
            all (index + 1) entry found
          refine ⟨?_, ?_, encryptable⟩
          · intro index inside
            cases index with
            | zero => exact auth
            | succ index => exact authorised index (Nat.lt_of_succ_lt_succ inside)
          · obtain ⟨msg, first⟩ := all 0 first rfl
            rw [List.getElem?_cons_zero, Option.some.injEq, sent] at first
            obtain ⟨payload, made, -⟩ := Option.map_eq_some_iff.mp first
            obtain ⟨ciphertext, sealed, -⟩ := Option.map_eq_some_iff.mp made
            exact ⟨ciphertext, sealed⟩
        · rintro ⟨authorised, ⟨ciphertext, sealed⟩, encryptable⟩ index entry found
          cases index with
          | zero =>
              simp only [List.getElem?_cons_zero, sent, sealed, Option.map_some, Option.some.injEq]
              exact ⟨_, rfl⟩
          | succ index =>
              exact rest_iff.mpr ⟨fun place inside => authorised (place + 1)
                (Nat.succ_lt_succ inside), encryptable⟩ index entry found
      · constructor
        · intro all
          obtain ⟨msg, dispatched⟩ := all 0 first rfl
          rw [sendOne2oneMsgInternal_refused auth] at dispatched
          simp at dispatched
        · rintro ⟨authorised, -⟩
          exact absurd (authorised 0 (Nat.succ_pos _)) auth

/-- With all authorisations present the sequence numbers count the attempts. -/
theorem sendPendingPlaintexts_sequence {session : Session β} {ratchet : Ratchet β}
    (valid : isValidCompletedSession getE2eesPack session = true)
    (present : session.ratchet = some ratchet)
    (pack : getE2eesPack session.e2eesPackId = some cipherSuite) (attempts : Nat → SendAttempt)
    (pending : List (PendingPlaintext β)) (client : Client β)
    (authorised : ∀ index < pending.length, isValidString (attempts index).auth = true)
    {index : Nat} {msg : One2oneMsg β}
    (dispatched : (sendPendingPlaintexts getE2eesPack attempts pending client
      session).2.2[index]? = some (some msg)) :
    msg.payload.sendingMessageSequence =
      ratchet.sendingMessageSequence + 1 + UInt32.ofNat index := by
  induction pending generalizing attempts client session ratchet index with
  | nil => simp [sendPendingPlaintexts] at dispatched
  | cons first rest ih =>
      obtain ⟨ratchetValid, suite⟩ := isValidCompletedSession_parts valid present pack
      obtain ⟨sender, key, next, -, -, -, -, nextValid, encrypted⟩ :=
        encryptRatchet_valid suite ratchetValid
      obtain ⟨moved, sent, -, -⟩ := sendOne2oneMsgInternal_sent valid present pack
        (authorised 0 (Nat.succ_pos _)) client.store first.plaintextData
      rw [encrypted] at moved sent
      rw [sendPendingPlaintexts_cons] at dispatched
      cases index with
      | zero =>
          rw [List.getElem?_cons_zero, Option.some.injEq, sent] at dispatched
          obtain ⟨payload, made, rfl⟩ := Option.map_eq_some_iff.mp dispatched
          obtain ⟨ciphertext, -, rfl⟩ := Option.map_eq_some_iff.mp made
          exact (UInt32.add_zero _).symm
      | succ index =>
          rw [List.getElem?_cons_succ, moved] at dispatched
          rw [ih (isValidCompletedSession_moved valid nextValid) rfl pack _ _
            (fun place inside => authorised (place + 1) (Nat.succ_lt_succ inside)) dispatched,
            UInt32.ofNat_add, UInt32.add_comm (UInt32.ofNat index)]
          exact UInt32.add_assoc _ _ _

theorem sendPendingPlaintexts_length (attempts : Nat → SendAttempt)
    (pending : List (PendingPlaintext β)) (client : Client β) (session : Session β) :
    (sendPendingPlaintexts getE2eesPack attempts pending client session).2.2.length =
      pending.length := by
  induction pending generalizing attempts client session with
  | nil => rfl
  | cons first rest ih =>
      rw [sendPendingPlaintexts_cons, List.length_cons, List.length_cons, ih]

/-- Sequence numbers in a row increase exactly until the counter wraps around. -/
theorem sequences_increase_iff (start : UInt32) (count : Nat) :
    (∀ index later : Nat, index < later → later < count →
      start + UInt32.ofNat index < start + UInt32.ofNat later) ↔
        start.toNat + count ≤ 2 ^ 32 := by
  have bound := start.toNat_lt
  constructor
  · intro increase
    by_contra tooMany
    have wrapped := increase 0 (2 ^ 32 - start.toNat) (by omega) (by omega)
    rw [UInt32.lt_iff_toNat_lt, UInt32.toNat_add, UInt32.toNat_add, UInt32.toNat_ofNat',
      UInt32.toNat_ofNat'] at wrapped
    omega
  · intro fits index later before inside
    rw [UInt32.lt_iff_toNat_lt, UInt32.toNat_add, UInt32.toNat_add, UInt32.toNat_ofNat',
      UInt32.toNat_ofNat']
    omega

end Loop

/-- No plaintext of a completed session is lost exactly when every attempt finds an authorisation,
every plaintext can be encrypted, and the counter does not wrap around. -/
theorem pendingPlaintexts_kept_iff {session : Session β} {ratchet : Ratchet β}
    {sender : SenderChainNode β}
    (valid : isValidCompletedSession getE2eesPack session = true)
    (present : session.ratchet = some ratchet) (chained : ratchet.senderChain = some sender)
    (pack : getE2eesPack session.e2eesPackId = some cipherSuite) (attempts : Nat → SendAttempt)
    (client : Client β) :
    let pending := client.pendingPlaintexts session.ourAddress session.theirAddress
    let result := sendPendingPlaintextData getE2eesPack attempts client session
    PlaintextsKept cipherSuite attempts session pending result.1 result.2.2 ↔
      (∀ index < pending.length, isValidString (attempts index).auth = true) ∧
        Encryptable cipherSuite session.associatedData sender.chainKey (plaintexts pending) ∧
        (ratchet.sendingMessageSequence + 1).toNat + pending.length ≤ 2 ^ 32 := by
  intro pending result
  have all_iff := sendPendingPlaintexts_all_iff valid present chained pack attempts pending client
  have count : result.2.2.length = pending.length := sendPendingPlaintexts_length _ _ _ _
  constructor
  · rintro ⟨kept, ordered⟩
    have sent : ∀ (index : Nat) entry, pending[index]? = some entry →
        ∃ msg, result.2.2[index]? = some (some msg) := by
      intro index entry found
      obtain ⟨msg, dispatched, -⟩ | left := kept index entry found
      · exact ⟨msg, dispatched⟩
      · exact absurd (List.mem_of_getElem? found)
          (sendPendingPlaintexts_unloaded valid present pack attempts pending client left).1
    obtain ⟨authorised, encryptable⟩ := all_iff.mp sent
    refine ⟨authorised, encryptable, ?_⟩
    rw [← sequences_increase_iff]
    intro index later before inside
    obtain ⟨first, firstSent⟩ := sent index (pending[index]) (List.getElem?_eq_getElem _)
    obtain ⟨second, secondSent⟩ := sent later (pending[later]) (List.getElem?_eq_getElem _)
    have increased := ordered index later first second before firstSent secondSent
    rwa [sendPendingPlaintexts_sequence valid present pack attempts pending client authorised
      firstSent, sendPendingPlaintexts_sequence valid present pack attempts pending client
      authorised secondSent] at increased
  · rintro ⟨authorised, encryptable, fits⟩
    refine ⟨?_, ?_⟩
    · intro index entry found
      obtain ⟨msg, dispatched⟩ := all_iff.mpr ⟨authorised, encryptable⟩ index entry found
      exact .inl ⟨msg, dispatched, sendPendingPlaintexts_dispatched valid present pack attempts
        pending client found dispatched⟩
    · intro index later first second before firstSent secondSent
      have inside : later < pending.length := by
        rw [← count]
        exact (List.getElem?_eq_some_iff.mp secondSent).1
      rw [sendPendingPlaintexts_sequence valid present pack attempts pending client authorised
        firstSent, sendPendingPlaintexts_sequence valid present pack attempts pending client
        authorised secondSent]
      exact (sequences_increase_iff _ _).mpr fits index later before inside

namespace Symbolic

/-- Alice has completed her session with Bob, and these plaintexts wait for it. -/
def waitingClient (pending : List (PendingPlaintext FreeTerm)) : Client FreeTerm where
  store := (handshake.completed handshake.invited.2.1 handshake.answer).2
  groups := .empty
  pendingPlaintexts _ _ := pending
  serverPublicKey _ := none

def waitingPlaintexts : List (PendingPlaintext FreeTerm) :=
  [⟨"first", [.byte 1]⟩, ⟨"second", [.byte 2]⟩]

/-- The first message is taken by the server, and the answer to the second one is lost. -/
def authorisedAttempts (index : Nat) : SendAttempt :=
  ⟨"auth", if index = 0 then some ⟨.ok⟩ else none⟩

/-- The database has no authorisation for the second attempt. -/
def forgottenAttempts (index : Nat) : SendAttempt :=
  ⟨if index = 0 then "auth" else "", some ⟨.ok⟩⟩

def completedRatchet : Ratchet FreeTerm := completedSession.ratchet.get completedSession_isSome

def completedChain : SenderChainNode FreeTerm := completedRatchet.senderChain.get (by decide)

theorem completedRatchet_valid :
    isValidCompletedSession handshake.getE2eesPack completedSession = true := by
  decide

theorem completedRatchet_present : completedSession.ratchet = some completedRatchet :=
  (Option.some_get _).symm

theorem completedChain_present : completedRatchet.senderChain = some completedChain :=
  (Option.some_get _).symm

theorem waitingPlaintexts_encryptable :
    Encryptable symbolicSuite completedSession.associatedData completedChain.chainKey
      (plaintexts waitingPlaintexts) := by
  intro index data found
  match index with
  | 0 =>
      cases found
      exact ⟨_, _, rfl, rfl⟩
  | 1 =>
      cases found
      exact ⟨_, _, rfl, rfl⟩

end Symbolic

open Symbolic in
/-- A message without an answer waits in the queue. -/
theorem unanswered_plaintext_kept :
    let result := sendPendingPlaintextData handshake.getE2eesPack authorisedAttempts
      (waitingClient waitingPlaintexts) completedSession
    PlaintextsKept symbolicSuite authorisedAttempts completedSession waitingPlaintexts result.1
      result.2.2 ∧ (result.1.store.pendingRequests aliceAddress).length = 1 := by
  refine ⟨(pendingPlaintexts_kept_iff completedRatchet_valid completedRatchet_present
    completedChain_present rfl authorisedAttempts (waitingClient waitingPlaintexts)).mpr
      ⟨by decide, waitingPlaintexts_encryptable, by decide⟩, by decide⟩

open Symbolic in
/-- A plaintext without an authorisation is neither sent nor queued, and it is unloaded. -/
theorem unauthorised_plaintext_lost :
    isValidCompletedSession handshake.getE2eesPack completedSession = true ∧
      let result := sendPendingPlaintextData handshake.getE2eesPack forgottenAttempts
        (waitingClient waitingPlaintexts) completedSession
      result.2.2.map Option.isSome = [true, false] ∧
        result.1.store.pendingRequests aliceAddress = [] ∧
        result.1.pendingPlaintexts aliceAddress bobAddress = [] ∧
        ¬ PlaintextsKept symbolicSuite forgottenAttempts completedSession waitingPlaintexts
          result.1 result.2.2 := by
  refine ⟨by decide, by decide, by decide, by decide, ?_⟩
  rintro ⟨kept, -⟩
  obtain ⟨msg, dispatched, -⟩ | left := kept 1 ⟨"second", [.byte 2]⟩ rfl
  · have unsent : (sendPendingPlaintextData handshake.getE2eesPack forgottenAttempts
        (waitingClient waitingPlaintexts) completedSession).2.2[1]? = some none := by
      decide
    rw [unsent] at dispatched
    simp at dispatched
  · revert left
    decide

end E2eeSecurity
