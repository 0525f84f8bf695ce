/-
This file runs the calls that touch one-to-one sessions, and says what an answer does to a session
that is already established.
-/
import E2eeSecurity.Client.Sending
import E2eeSecurity.Library.Run
import E2eeSecurity.Session.Inbound

namespace E2eeSecurity

variable {β : Type} {getE2eesPack : Packs β} {cipherSuite : CipherSuite β}

section PublicKeys

/-- These are the public keys of the sender chain: our own one and the one of the other party. -/
def Ratchet.publicKeys (ratchet : Ratchet β) : Option (Bytes β × Bytes β) :=
  ratchet.senderChain.map fun chain => (chain.ourRatchetPublicKey, chain.theirRatchetPublicKey)

/-- This is the public key of the other party, which the post-quantum ratchet never changes. -/
def Ratchet.theirKey (ratchet : Ratchet β) : Option (Bytes β) :=
  ratchet.senderChain.map fun chain => chain.theirRatchetPublicKey

/-- Encryption keeps both public keys. -/
theorem encryptRatchet_publicKeys (ratchet : Ratchet β) (ad : Bytes β)
    (plaintext : Option (Bytes β)) :
    (encryptRatchet cipherSuite ratchet ad plaintext).2.publicKeys = ratchet.publicKeys := by
  unfold encryptRatchet
  split
  · cases sender : ratchet.senderChain with
    | none => rfl
    | some senderChain =>
        cases plaintext with
        | none => rfl
        | some data =>
            dsimp only
            cases createMsgKeys cipherSuite senderChain.chainKey with
            | none => rfl
            | some msgKey => simp [Ratchet.publicKeys, sender]
  · rfl

theorem Ratchet.theirKey_of_publicKeys {first second : Ratchet β}
    (same : first.publicKeys = second.publicKeys) : first.theirKey = second.theirKey := by
  have projected := congrArg (Option.map Prod.snd) same
  simpa [publicKeys, theirKey, Option.map_map, Function.comp_def] using projected

theorem storePreviousChain_senderChain (ratchet : Ratchet β) (payload : One2oneMsgPayload β) :
    (storePreviousChain cipherSuite ratchet payload).2.senderChain = ratchet.senderChain := by
  unfold storePreviousChain
  dsimp only
  split
  · rfl
  · split
    · rfl
    · split <;> rfl

theorem storeCurrentChain_senderChain (ratchet : Ratchet β) (payload : One2oneMsgPayload β) :
    (storeCurrentChain cipherSuite ratchet payload).2.senderChain = ratchet.senderChain := by
  unfold storeCurrentChain
  split
  · split
    · dsimp only
      split <;> rfl
    · rfl
  · rfl

theorem commitNewChains_theirKey (suite : isValidCipherSuite cipherSuite = true)
    (ratchet : Ratchet β) (payload : One2oneMsgPayload β) (coins : Bytes β) :
    (commitNewChains cipherSuite ratchet payload coins).theirKey = ratchet.theirKey := by
  unfold commitNewChains
  split
  · rename_i receiverChain senderChain receiver sender
    simp [Ratchet.theirKey, sender, pqcParam_of_valid suite]
  · rfl

theorem closeDecrypt_senderChain (ratchet : Ratchet β) (payload : One2oneMsgPayload β) :
    (closeDecrypt ratchet payload).senderChain = ratchet.senderChain := by
  unfold closeDecrypt pruneBloatedSkippedKeys updateReceivedMessageSequence
  split <;> split <;> rfl

/-- Decryption keeps the public key of the other party, also when it fails. -/
theorem decryptRatchet_theirKey [DecidableEq β] (ratchet : Ratchet β) (ad : Bytes β)
    (payload : One2oneMsgPayload β) (coins : Bytes β) :
    (decryptRatchet cipherSuite ratchet ad payload coins).2.theirKey = ratchet.theirKey := by
  have closed : (decryptRatchet cipherSuite ratchet ad payload coins).2.theirKey =
      (decryptBody cipherSuite ratchet ad payload coins).2.theirKey := by
    simp only [Ratchet.theirKey, decryptRatchet, closeDecrypt_senderChain]
  rw [closed]
  unfold decryptBody
  cases selected : decryptRoute cipherSuite ratchet ad payload with
  | none => rfl
  | some route =>
      have suite := (decryptRoute_some selected).1.suite
      dsimp only
      split
      · unfold decryptSkipped
        split
        · dsimp only
          split
          · simp only [Ratchet.theirKey, storeCurrentChain_senderChain]
          · rfl
        · rfl
      · split
        · unfold decryptExisting
          split
          · simp only [Ratchet.theirKey, storeCurrentChain_senderChain]
          · rfl
        · unfold decryptNew
          split
          · dsimp only
            split
            · have committed := commitNewChains_theirKey suite
                (storePreviousChain cipherSuite ratchet payload).2 payload coins
              simp only [Ratchet.theirKey, storeCurrentChain_senderChain] at committed ⊢
              rw [committed, storePreviousChain_senderChain]
            · simp only [Ratchet.theirKey, storePreviousChain_senderChain]
          · rfl

end PublicKeys

section Stored

/-- Every stored session has the property. -/
def SessionStore.All (good : Session β → Prop) (sessions : SessionStore β) : Prop :=
  ∀ sessionId address session, sessions.load sessionId address = some session → good session

variable {good : Session β → Prop} {sessions : SessionStore β}

theorem SessionStore.All.store (all : sessions.All good) {session : Session β}
    (new : good session) : (sessions.store session).All good := by
  intro sessionId address stored found
  simp only [SessionStore.store] at found
  split at found
  · cases found
    exact new
  · exact all sessionId address stored found

theorem SessionStore.All.unloadSession (all : sessions.All good)
    (ourAddress theirAddress : E2eeAddress) :
    (sessions.unloadSession ourAddress theirAddress).All good := by
  intro sessionId address stored found
  exact all sessionId address stored (Option.filter_eq_some_iff.mp found).1

theorem SessionStore.All.unloadOldSession (all : sessions.All good)
    (ourAddress theirAddress : E2eeAddress) (inviteT : Int) :
    (sessions.unloadOldSession ourAddress theirAddress inviteT).All good := by
  intro sessionId address stored found
  exact all sessionId address stored (Option.filter_eq_some_iff.mp found).1

/-- The property does not see a ratchet that moves on its sender chain. -/
def Steady (good : Session β → Prop) : Prop :=
  ∀ (session : Session β) (ratchet moved : Ratchet β), session.ratchet = some ratchet →
    moved.publicKeys = ratchet.publicKeys → good session →
    good { session with ratchet := some moved }

theorem consumeSendOne2oneMsgResponse_all {store : Store β} (all : store.sessions.All good)
    {session : Session β} (own : good session) (response : Option SendOne2oneMsgResponse) :
    (consumeSendOne2oneMsgResponse store session response).2.sessions.All good := by
  rcases response with _ | ⟨_ | _ | _⟩
  · exact all.store own
  · exact all.store own
  · exact all.unloadSession _ _
  · exact all.store own

/-- A steady property of the session and of all stored sessions survives an attempt. -/
theorem sendOne2oneMsgInternal_all (getE2eesPack : Packs β) (steady : Steady good)
    {store : Store β}
    (all : store.sessions.All good) {session : Session β} (own : good session)
    (attempt : SendAttempt) (data : Bytes β) :
    let result := sendOne2oneMsgInternal getE2eesPack attempt store session data
    result.store.sessions.All good ∧ good result.session := by
  dsimp only [sendOne2oneMsgInternal]
  split
  · rename_i ratchet cipherSuite present pack
    have moved : good { session with ratchet := some (encryptRatchet cipherSuite ratchet
        session.associatedData (some data)).2 } :=
      steady session ratchet _ present (encryptRatchet_publicKeys _ _ _) own
    split
    · split
      · split
        · exact ⟨consumeSendOne2oneMsgResponse_all all moved _, moved⟩
        · exact ⟨consumeSendOne2oneMsgResponse_all all moved _, moved⟩
      · exact ⟨all, moved⟩
    · exact ⟨all, own⟩
  · exact ⟨all, own⟩

/-- A steady property survives the whole loop over the pending plaintexts. -/
theorem sendPendingPlaintexts_all (steady : Steady good) (attempts : Nat → SendAttempt)
    (pending : List (PendingPlaintext β)) {client : Client β}
    (all : client.store.sessions.All good) {session : Session β} (own : good session) :
    (sendPendingPlaintexts getE2eesPack attempts pending client
      session).1.store.sessions.All good := by
  induction pending generalizing attempts client session with
  | nil => exact all
  | cons entry rest ih =>
      rw [sendPendingPlaintexts_cons]
      have sent := sendOne2oneMsgInternal_all getE2eesPack steady all own (attempts 0)
        entry.plaintextData
      exact ih _ sent.1 sent.2

end Stored

section Outbound

variable {session : Session β}

/-- Sessions that this device has started keep their base key. -/
def Session.Outbound (session : Session β) : Prop := session.aliceBaseKey.isSome = true

/-- A started session never stops to pass the check of an uncompleted one. -/
def Session.Restartable (getE2eesPack : Packs β) (session : Session β) : Prop :=
  session.Outbound → isValidUncompletedSession getE2eesPack session = true

/-- The check sees the ratchet only through the key of the other party. -/
theorem isValidUncompletedSession_moved {ratchet moved : Ratchet β}
    (present : session.ratchet = some ratchet) (same : moved.theirKey = ratchet.theirKey)
    (valid : isValidUncompletedSession getE2eesPack session = true) :
    isValidUncompletedSession getE2eesPack { session with ratchet := some moved } = true := by
  have chained (other : Ratchet β) : (other.senderChain.any fun chain =>
      isValidProtobuf chain.theirRatchetPublicKey) = other.theirKey.any isValidProtobuf := by
    rw [Ratchet.theirKey, Option.any_map]
  simp only [isValidUncompletedSession, present, Option.bind_some, chained, same] at valid ⊢
  exact valid

theorem restartable_moved {ratchet moved : Ratchet β} (present : session.ratchet = some ratchet)
    (same : moved.theirKey = ratchet.theirKey) (restartable : session.Restartable getE2eesPack) :
    Session.Restartable getE2eesPack { session with ratchet := some moved } :=
  fun outbound => isValidUncompletedSession_moved present same (restartable outbound)

theorem restartable_steady : Steady (Session.Restartable getE2eesPack) :=
  fun _ _ _ present same restartable =>
    restartable_moved present (Ratchet.theirKey_of_publicKeys same) restartable

/-- These are the facts that the check of an uncompleted session leaves behind. -/
theorem isValidUncompletedSession_parts
    (valid : isValidUncompletedSession getE2eesPack session = true) :
    (∃ cipherSuite, getE2eesPack session.e2eesPackId = some cipherSuite ∧
      isValidCipherSuite cipherSuite = true) ∧
      (∃ baseKey, session.aliceBaseKey = some baseKey ∧ isValidKeyPair baseKey = true) ∧
      ∃ ratchet chain, session.ratchet = some ratchet ∧ ratchet.senderChain = some chain ∧
        chain.theirRatchetPublicKey ≠ [] := by
  simp only [isValidUncompletedSession, Bool.and_eq_true] at valid
  obtain ⟨⟨⟨⟨⟨⟨⟨⟨⟨⟨-, pack⟩, -⟩, -⟩, -⟩, -⟩, -⟩, baseKey⟩, -⟩, -⟩, chain⟩ := valid
  refine ⟨?_, (Option.any_eq_true _ _).mp baseKey, ?_⟩
  · cases found : getE2eesPack session.e2eesPackId with
    | none => simp [isValidE2eesPackId, found] at pack
    | some cipherSuite => exact ⟨cipherSuite, rfl, by simpa [isValidE2eesPackId, found] using pack⟩
  · obtain ⟨sender, present, nonempty⟩ := (Option.any_eq_true _ _).mp chain
    obtain ⟨ratchet, ratchetPresent, chained⟩ := Option.bind_eq_some_iff.mp present
    exact ⟨ratchet, sender, ratchetPresent, chained, (isValidProtobuf_iff _).mp nonempty⟩

/-- The answer is well formed, it names a session that passes the check, and our identity key is
known. -/
def AcceptPasses (getE2eesPack : Packs β) (store : Store β) (msg : AcceptMsg β)
    (session : Session β) : Prop :=
  isValidAcceptMsg getE2eesPack msg = true ∧
    store.sessions.load msg.sessionId msg.receiver = some session ∧
    isValidUncompletedSession getE2eesPack session = true ∧
    (loadIdentityKey getE2eesPack store session.ourAddress).isSome = true

/-- The session has a new ratchet, which starts with a new encapsulation to the other party. -/
def Session.Reset (cipherSuite : CipherSuite β) (session : Session β) (coins : Bytes β)
    (completed : Session β) : Prop :=
  ∃ ratchet chain renewed secret, session.ratchet = some ratchet ∧
    ratchet.senderChain = some chain ∧
    Ratchet.publicKeys renewed = some ((cipherSuite.kem.encapsulate coins
      chain.theirRatchetPublicKey).2, chain.theirRatchetPublicKey) ∧
    secret ≠ [] ∧ completed = { session with
      ratchet := some renewed
      tempSharedSecret := secret
      responded := true }

/-- An answer that passes makes the ratchet anew, whether the session was established or not. -/
theorem pqcCompleteOutboundSession_passes {store : Store β} {msg : AcceptMsg β}
    (passes : AcceptPasses getE2eesPack store msg session) (coins : Bytes β) :
    ∃ cipherSuite completed, getE2eesPack session.e2eesPackId = some cipherSuite ∧
      session.Reset cipherSuite coins completed ∧
      pqcCompleteOutboundSession getE2eesPack store msg coins =
        (some completed, store.storeSession completed) := by
  obtain ⟨answered, loaded, valid, known⟩ := passes
  obtain ⟨⟨cipherSuite, pack, suite⟩, ⟨baseKey, base, baseValid⟩, ratchet, chain, present, chained,
    theirs⟩ := isValidUncompletedSession_parts valid
  obtain ⟨identityKey, identity⟩ := Option.isSome_iff_exists.mp known
  have secret : completeSecret cipherSuite identityKey session.tempSharedSecret
      msg.encapsCiphertext ≠ [] := by
    have length := cipherSuite.kem.decapsLength identityKey.asymKeyPair.privateKey
      msg.encapsCiphertext
    have positive := cipherSuite.kem.sharedSecretLenPositive
    rw [completeSecret, ← List.length_pos_iff, List.length_append]
    omega
  have ciphertext : msg.ratchetKey ≠ [] := by
    simp only [isValidAcceptMsg, Bool.and_eq_true, isValidProtobuf_iff] at answered
    exact answered.2
  obtain ⟨renewed, made⟩ := initialiseAsAlice_made suite secret baseValid theirs ciphertext coins
  obtain ⟨-, -, -, _, -, -, shape⟩ := initialiseAsAlice_some made
  refine ⟨cipherSuite, _, pack, ⟨ratchet, chain, renewed, _, present, chained, ?_, secret, rfl⟩,
    pqcCompleteOutboundSession_eq loaded answered valid identity pack base ?_ made⟩
  · rw [shape]
    rfl
  · rw [present]
    exact chained

/-- An answer that does not pass changes nothing. -/
theorem pqcCompleteOutboundSession_refused {store : Store β} {msg : AcceptMsg β}
    (refused : ∀ session, ¬ AcceptPasses getE2eesPack store msg session) (coins : Bytes β) :
    pqcCompleteOutboundSession getE2eesPack store msg coins = (none, store) := by
  unfold pqcCompleteOutboundSession
  cases loaded : store.sessions.load msg.sessionId msg.receiver with
  | none => rfl
  | some session =>
      by_cases checks : (isValidAcceptMsg getE2eesPack msg &&
          isValidUncompletedSession getE2eesPack session) = true
      · rw [Bool.and_eq_true] at checks
        have unknown : loadIdentityKey getE2eesPack store session.ourAddress = none := by
          rw [← Option.not_isSome_iff_eq_none]
          exact fun known => refused session ⟨checks.1, loaded, checks.2, known⟩
        simp [checks, unknown]
      · simp [checks]

theorem Session.Reset.restartable {coins : Bytes β} {completed : Session β}
    (reset : session.Reset cipherSuite coins completed)
    (valid : isValidUncompletedSession getE2eesPack session = true) :
    isValidUncompletedSession getE2eesPack completed = true := by
  obtain ⟨ratchet, chain, renewed, secret, present, chained, keys, nonempty, rfl⟩ := reset
  have same : renewed.theirKey = ratchet.theirKey := by
    have projected := congrArg (Option.map Prod.snd) keys
    simpa [Ratchet.publicKeys, Ratchet.theirKey, chained, Option.map_map, Function.comp_def]
      using projected
  have moved := isValidUncompletedSession_moved present same valid
  have secretValid : isValidProtobuf secret = true := (isValidProtobuf_iff _).mpr nonempty
  simp only [isValidUncompletedSession, Bool.and_eq_true] at moved ⊢
  obtain ⟨⟨⟨⟨⟨⟨⟨⟨⟨⟨version, pack⟩, named⟩, ours⟩, theirs⟩, -⟩, fingerprint⟩, base⟩, some⟩, inputs⟩,
    chain⟩ := moved
  exact ⟨⟨⟨⟨⟨⟨⟨⟨⟨⟨version, pack⟩, named⟩, ours⟩, theirs⟩, secretValid⟩, fingerprint⟩, base⟩, some⟩,
    inputs⟩, chain⟩

end Outbound

section Calls

theorem consumeInviteResponse_restartable {store : Store β}
    (all : store.sessions.All (Session.Restartable getE2eesPack)) (userAddress : E2eeAddress)
    (response : Option InviteResponse) :
    (consumeInviteResponse store userAddress response).2.sessions.All
      (Session.Restartable getE2eesPack) := by
  obtain same | ⟨sessionId, session, inviteT, loaded, changed⟩ :=
    consumeInviteResponse_cases store userAddress response
  · rw [same]
    exact all
  · rw [changed]
    have restartable := all _ _ _ loaded
    exact all.store restartable

theorem inviteInternal_restartable {invite : InviteMsg β → Option InviteResponse}
    {store : Store β} (all : store.sessions.All (Session.Restartable getE2eesPack))
    (session : Session β) :
    (inviteInternal getE2eesPack invite store session).2.1.sessions.All
      (Session.Restartable getE2eesPack) := by
  have consumed := consumeInviteResponse_restartable all session.ourAddress
    (invite (produceInviteRequest session))
  unfold inviteInternal
  split
  · dsimp only
    split
    · exact consumed
    · exact consumed
  · exact all

theorem pqcNewOutboundSessionV2_restartable {invite : InviteMsg β → Option InviteResponse}
    {store : Store β} (all : store.sessions.All (Session.Restartable getE2eesPack))
    (sender : E2eeAddress) (bundle : PreKeyBundle β) {draw : OutboundDraw β}
    (named : draw.sessionId ≠ "") :
    (pqcNewOutboundSessionV2 getE2eesPack invite store sender bundle draw).2.1.sessions.All
      (Session.Restartable getE2eesPack) := by
  unfold pqcNewOutboundSessionV2
  split
  · rename_i account cipherSuite stored pack
    split
    · rename_i checks
      simp only [Bool.and_eq_true] at checks
      obtain ⟨⟨⟨⟨⟨ours, -⟩, bundleValid⟩, suite⟩, -⟩, -⟩ := checks
      exact inviteInternal_restartable
        (all.store fun _ => outboundSession_checks suite pack ours bundleValid named) _
    · exact all
  · exact all

/-- An inbound session has no base key. -/
theorem consumeInviteMsg_restartable {accept : AcceptMsg β → Option AcceptResponse}
    {store : Store β} (all : store.sessions.All (Session.Restartable getE2eesPack))
    (receiver : E2eeAddress) (msg : InviteMsg β) (coins : InboundCoins β) :
    (consumeInviteMsg getE2eesPack accept store receiver msg coins).sessions.All
      (Session.Restartable getE2eesPack) := by
  unfold consumeInviteMsg
  split
  · split
    · rename_i account found
      rw [pqcNewInboundSession_outcome]
      cases inboundKeys getE2eesPack store account msg with
      | none => exact all
      | some keys =>
          have marked : (store.markChosen keys.address keys.oneTimePreKey).sessions =
              store.sessions := by
            cases keys.oneTimePreKey <;> rfl
          dsimp only
          cases keys.ratchet account msg coins with
          | none =>
              rw [marked]
              exact all
          | some ratchet =>
              rw [(acceptInternal_keeps getE2eesPack accept _ _).2, Store.storeSession, marked]
              refine all.store ?_
              intro outbound
              simp [Session.Outbound, InboundKeys.session, inboundSession] at outbound
    · exact all
  · exact all

theorem consumeAcceptMsg_restartable {client : Client β}
    (all : client.store.sessions.All (Session.Restartable getE2eesPack))
    (attempts : Nat → SendAttempt) (receiver : E2eeAddress) (msg : AcceptMsg β)
    (coins : Bytes β) :
    (consumeAcceptMsg getE2eesPack attempts client receiver msg coins).store.sessions.All
      (Session.Restartable getE2eesPack) := by
  unfold consumeAcceptMsg
  split
  · by_cases passes : ∃ session, AcceptPasses getE2eesPack client.store msg session
    · obtain ⟨session, passes⟩ := passes
      obtain ⟨cipherSuite, completed, -, reset, result⟩ :=
        pqcCompleteOutboundSession_passes passes coins
      rw [result]
      have restartable : completed.Restartable getE2eesPack :=
        fun _ => reset.restartable passes.2.2.1
      exact sendPendingPlaintexts_all restartable_steady _ _ (all.store restartable) restartable
    · rw [pqcCompleteOutboundSession_refused (not_exists.mp passes)]
      exact all
  · exact all

/-- A message that opens moves the ratchet of a stored session that is valid. -/
theorem openOne2oneMsg_some [DecidableEq β] {store : Store β} {receiver : E2eeAddress}
    {msg : One2oneMsg β} {coins plaintext : Bytes β} {opened : Session β}
    (found : openOne2oneMsg getE2eesPack store receiver msg coins = some (plaintext, opened)) :
    ∃ session cipherSuite ratchet, store.sessions.load msg.sessionId receiver = some session ∧
      isValidInboundSession getE2eesPack session = true ∧
      getE2eesPack session.e2eesPackId = some cipherSuite ∧ session.ratchet = some ratchet ∧
      (decryptRatchet cipherSuite ratchet session.associatedData msg.payload coins).1 =
        some plaintext ∧
      opened = { session with ratchet := some (decryptRatchet cipherSuite ratchet
        session.associatedData msg.payload coins).2 } := by
  unfold openOne2oneMsg at found
  split at found
  · simp only [Option.bind_eq_bind, Option.bind_eq_some_iff, Option.filter_eq_some_iff,
      Option.some.injEq, Prod.mk.injEq] at found
    obtain ⟨session, ⟨loaded, valid⟩, cipherSuite, pack, ratchet, present, plaintext', made, rfl,
      rfl⟩ := found
    exact ⟨session, cipherSuite, ratchet, loaded, valid, pack, present, made, rfl⟩
  · simp at found

theorem receiveOne2oneMsg_restartable [DecidableEq β] {store : Store β}
    (all : store.sessions.All (Session.Restartable getE2eesPack)) (receiver : E2eeAddress)
    (msg : One2oneMsg β) (coins : Bytes β) :
    (receiveOne2oneMsg getE2eesPack store receiver msg coins).sessions.All
      (Session.Restartable getE2eesPack) := by
  unfold receiveOne2oneMsg
  split
  · rename_i plaintext opened found
    obtain ⟨session, cipherSuite, ratchet, loaded, -, -, present, -, rfl⟩ :=
      openOne2oneMsg_some found
    have same : (decryptRatchet cipherSuite ratchet session.associatedData msg.payload
        coins).2.theirKey = ratchet.theirKey := decryptRatchet_theirKey _ _ _ _
    exact (all.store (restartable_moved present same (all _ _ _ loaded))).unloadOldSession _ _ _
  · exact all

end Calls

/-- These are the calls that touch the sessions of one client. Identifiers of new sessions are
never empty, and all other calls leave the sessions alone. -/
inductive SessionAction (β : Type)
  | invite (respond : InviteMsg β → Option InviteResponse) (sender : E2eeAddress)
      (bundle : PreKeyBundle β) (draw : OutboundDraw β) (named : draw.sessionId ≠ "")
  | reinvite (respond : InviteMsg β → Option InviteResponse) (sessionId : String)
      (ourAddress : E2eeAddress) (checkedT updatedT : Int)
  | inviteResponse (userAddress : E2eeAddress) (response : Option InviteResponse)
  | readInvite (respond : AcceptMsg β → Option AcceptResponse) (receiver : E2eeAddress)
      (msg : InviteMsg β) (coins : InboundCoins β)
  | readAccept (attempts : Nat → SendAttempt) (receiver : E2eeAddress) (msg : AcceptMsg β)
      (coins : Bytes β)
  | send (attempt : SendAttempt) (sessionId : String) (ourAddress : E2eeAddress)
      (plaintextData : Bytes β)
  | read (receiver : E2eeAddress) (msg : One2oneMsg β) (coins : Bytes β)
  | removeDevice (receiver device : E2eeAddress)
  | other (change : Client β → Client β)
      (kept : ∀ client, (change client).store.sessions = client.store.sessions)

section Runs

variable [DecidableEq β]

def sessionStep (getE2eesPack : Packs β) (client : Client β) : SessionAction β → Client β
  | .invite respond sender bundle draw _ =>
      { client with
        store := (pqcNewOutboundSessionV2 getE2eesPack respond client.store sender bundle
          draw).2.1 }
  | .reinvite respond sessionId ourAddress checkedT updatedT =>
      match client.store.sessions.load sessionId ourAddress with
      | some session =>
          { client with
            store := reinvite getE2eesPack respond client.store session checkedT updatedT }
      | none => client
  | .inviteResponse userAddress response =>
      { client with store := (consumeInviteResponse client.store userAddress response).2 }
  | .readInvite respond receiver msg coins =>
      { client with store := consumeInviteMsg getE2eesPack respond client.store receiver msg coins }
  | .readAccept attempts receiver msg coins =>
      consumeAcceptMsg getE2eesPack attempts client receiver msg coins
  | .send attempt sessionId ourAddress plaintextData =>
      match client.store.sessions.load sessionId ourAddress with
      | some session =>
          { client with
            store := (sendOne2oneMsgInternal getE2eesPack attempt client.store session
              plaintextData).store }
      | none => client
  | .read receiver msg coins =>
      { client with store := receiveOne2oneMsg getE2eesPack client.store receiver msg coins }
  | .removeDevice receiver device =>
      { client with store := client.store.unloadSession receiver device }
  | .other change _ => change client

/-- Every call keeps all started sessions restartable. -/
theorem sessionStep_restartable {client : Client β}
    (all : client.store.sessions.All (Session.Restartable getE2eesPack))
    (action : SessionAction β) :
    (sessionStep getE2eesPack client action).store.sessions.All
      (Session.Restartable getE2eesPack) := by
  cases action with
  | invite respond sender bundle draw named =>
      exact pqcNewOutboundSessionV2_restartable all sender bundle named
  | reinvite respond sessionId ourAddress checkedT updatedT =>
      simp only [sessionStep]
      cases loaded : client.store.sessions.load sessionId ourAddress with
      | none => exact all
      | some session =>
          dsimp only [reinvite]
          split
          · have stored := all _ _ _ loaded
            have restartable : Session.Restartable getE2eesPack
                { session with inviteT := updatedT } := stored
            exact inviteInternal_restartable (all.store restartable) _
          · exact all
  | inviteResponse userAddress response =>
      exact consumeInviteResponse_restartable all userAddress response
  | readInvite respond receiver msg coins =>
      exact consumeInviteMsg_restartable all receiver msg coins
  | readAccept attempts receiver msg coins =>
      exact consumeAcceptMsg_restartable all attempts receiver msg coins
  | send attempt sessionId ourAddress plaintextData =>
      simp only [sessionStep]
      cases loaded : client.store.sessions.load sessionId ourAddress with
      | none => exact all
      | some session =>
          exact (sendOne2oneMsgInternal_all getE2eesPack restartable_steady all
            (all _ _ _ loaded) attempt plaintextData).1
  | read receiver msg coins =>
      exact receiveOne2oneMsg_restartable all receiver msg coins
  | removeDevice receiver device =>
      exact all.unloadSession receiver device
  | other change kept =>
      simp only [sessionStep, kept]
      exact all

/-- In every run, all started sessions stay restartable. -/
theorem run_restartable {start : Client β}
    (empty : ∀ sessionId address, start.store.sessions.load sessionId address = none)
    (actions : List (SessionAction β)) :
    (Machine.run (sessionStep getE2eesPack) start actions).store.sessions.All
      (Session.Restartable getE2eesPack) := by
  have kept : ∀ (client : Client β) action,
      client.store.sessions.All (Session.Restartable getE2eesPack) →
      (sessionStep getE2eesPack client action).store.sessions.All
        (Session.Restartable getE2eesPack) :=
    fun _ action all => sessionStep_restartable all action
  refine Machine.run_invariant kept actions ?_
  intro sessionId address session found
  rw [empty] at found
  simp at found

end Runs

section Answers

variable {session : Session β}

/-- Messages of one session do not touch another one, unless its device is reported as gone. -/
theorem sendOne2oneMsgInternal_other {attempt : SendAttempt}
    (present : attempt.response ≠ some ⟨.notFound⟩) (store : Store β) (data : Bytes β)
    {sessionId : String} {address : E2eeAddress}
    (different : ¬ (sessionId = session.sessionId ∧ address = session.ourAddress)) :
    let result := sendOne2oneMsgInternal getE2eesPack attempt store session data
    result.store.sessions.load sessionId address = store.sessions.load sessionId address ∧
      result.session.sessionId = session.sessionId ∧
      result.session.ourAddress = session.ourAddress := by
  have consumed (moved : Session β) (sameId : moved.sessionId = session.sessionId)
      (sameAddress : moved.ourAddress = session.ourAddress) :
      (consumeSendOne2oneMsgResponse store moved attempt.response).2.sessions.load sessionId
        address = store.sessions.load sessionId address := by
    have stored : (store.storeSession moved).sessions.load sessionId address =
        store.sessions.load sessionId address := by
      simp [Store.storeSession, SessionStore.store, sameId, sameAddress, different]
    rcases answered : attempt.response with _ | ⟨_ | _ | _⟩
    · exact stored
    · exact stored
    · exact absurd answered present
    · exact stored
  dsimp only [sendOne2oneMsgInternal]
  split
  · split
    · split
      · split
        · exact ⟨consumed _ rfl rfl, rfl, rfl⟩
        · exact ⟨consumed _ rfl rfl, rfl, rfl⟩
      · exact ⟨rfl, rfl, rfl⟩
    · exact ⟨rfl, rfl, rfl⟩
  · exact ⟨rfl, rfl, rfl⟩

theorem sendPendingPlaintexts_other {attempts : Nat → SendAttempt}
    (present : ∀ index, (attempts index).response ≠ some ⟨.notFound⟩)
    (pending : List (PendingPlaintext β)) (client : Client β) {sessionId : String}
    {address : E2eeAddress}
    (different : ¬ (sessionId = session.sessionId ∧ address = session.ourAddress)) :
    (sendPendingPlaintexts getE2eesPack attempts pending client
      session).1.store.sessions.load sessionId address =
        client.store.sessions.load sessionId address := by
  induction pending generalizing attempts client session with
  | nil => rfl
  | cons entry rest ih =>
      rw [sendPendingPlaintexts_cons]
      obtain ⟨same, sameId, sameAddress⟩ := sendOne2oneMsgInternal_other (present 0) client.store
        entry.plaintextData different
      refine (ih (fun index => present (index + 1)) _ ?_).trans same
      rw [sameId, sameAddress]
      exact different

/-- The encapsulation of this call is not the one that the stored session already shows. -/
def Session.FreshCoins (getE2eesPack : Packs β) (session : Session β) (coins : Bytes β) : Prop :=
  ∀ cipherSuite ratchet chain, getE2eesPack session.e2eesPackId = some cipherSuite →
    session.ratchet = some ratchet → ratchet.senderChain = some chain →
    (cipherSuite.kem.encapsulate coins chain.theirRatchetPublicKey).2 ≠ chain.ourRatchetPublicKey

/-- A well-formed answer for the receiver names the session, whoever has sent it. -/
def AcceptNames (getE2eesPack : Packs β) (store : Store β) (receiver : E2eeAddress)
    (msg : AcceptMsg β) (session : Session β) : Prop :=
  isValidAddress receiver = true ∧ isValidAcceptMsg getE2eesPack msg = true ∧
    receiver = msg.receiver ∧ msg.sessionId = session.sessionId ∧
    msg.receiver = session.ourAddress ∧ (loadIdentityKey getE2eesPack store receiver).isSome = true

/-- The session under this key shows this public key. -/
def Session.Shows (sessionId : String) (address : E2eeAddress) (key : Bytes β)
    (session : Session β) : Prop :=
  session.sessionId = sessionId → session.ourAddress = address →
    ∃ ratchet chain, session.ratchet = some ratchet ∧ ratchet.senderChain = some chain ∧
      chain.ourRatchetPublicKey = key

theorem shows_steady (sessionId : String) (address : E2eeAddress) (key : Bytes β) :
    Steady (Session.Shows sessionId address key) := by
  intro session ratchet moved present same shows sameId sameAddress
  obtain ⟨ratchet', chain, present', chained, rfl⟩ := shows sameId sameAddress
  rw [present, Option.some.injEq] at present'
  subst present'
  simp only [Ratchet.publicKeys, chained, Option.map_some, Option.map_eq_some_iff,
    Prod.mk.injEq] at same
  obtain ⟨movedChain, movedChained, sameKey, -⟩ := same
  exact ⟨moved, movedChain, rfl, movedChained, sameKey⟩

/-- An answer that names a session replaces the ratchet of the session. -/
theorem consumeAcceptMsg_replaces {client : Client β}
    (stored : client.store.sessions.load session.sessionId session.ourAddress = some session)
    (valid : isValidUncompletedSession getE2eesPack session = true)
    {receiver : E2eeAddress} {msg : AcceptMsg β} {coins : Bytes β}
    (names : AcceptNames getE2eesPack client.store receiver msg session)
    (fresh : session.FreshCoins getE2eesPack coins) (attempts : Nat → SendAttempt) :
    (consumeAcceptMsg getE2eesPack attempts client receiver msg coins).store.sessions.load
      session.sessionId session.ourAddress ≠ some session := by
  obtain ⟨receiverValid, answered, rfl, named, ours, known⟩ := names
  have passes : AcceptPasses getE2eesPack client.store msg session := by
    refine ⟨answered, ?_, valid, ?_⟩
    · rw [named, ours]
      exact stored
    · rw [← ours]
      exact known
  obtain ⟨cipherSuite, completed, pack, reset, result⟩ :=
    pqcCompleteOutboundSession_passes passes coins
  obtain ⟨ratchet, chain, renewed, secret, present, chained, keys, -, rfl⟩ := reset
  obtain ⟨renewedChain, renewedChained, renewedKey⟩ :
      ∃ renewedChain, renewed.senderChain = some renewedChain ∧
        renewedChain.ourRatchetPublicKey =
          (cipherSuite.kem.encapsulate coins chain.theirRatchetPublicKey).2 := by
    obtain ⟨renewedChain, renewedChained, pair⟩ := Option.map_eq_some_iff.mp keys
    exact ⟨renewedChain, renewedChained, (Prod.mk.inj pair).1⟩
  have shown : Session.Shows session.sessionId session.ourAddress
      (cipherSuite.kem.encapsulate coins chain.theirRatchetPublicKey).2 { session with
        ratchet := some renewed
        tempSharedSecret := secret
        responded := true } :=
    fun _ _ => ⟨renewed, renewedChain, rfl, renewedChained, renewedKey⟩
  intro unchanged
  have after : session.Shows session.sessionId session.ourAddress
      (cipherSuite.kem.encapsulate coins chain.theirRatchetPublicKey).2 := by
    simp only [consumeAcceptMsg, receiverValid, answered, decide_true, Bool.and_self,
      if_true, result, sendPendingPlaintextData] at unchanged
    refine sendPendingPlaintexts_all (shows_steady _ _ _) attempts _ ?_ shown _ _ _ unchanged
    intro sessionId address other found sameId sameAddress
    obtain ⟨keyedId, keyedAddress⟩ := SessionStore.keyed _ _ _ _ found
    rw [← keyedId, ← keyedAddress, sameId, sameAddress] at found
    simp only [Store.storeSession, SessionStore.store, and_self, if_true,
      Option.some.injEq] at found
    subst found
    exact shown rfl rfl
  obtain ⟨ratchet', chain', present', chained', key⟩ := after rfl rfl
  rw [present, Option.some.injEq] at present'
  subst present'
  rw [chained, Option.some.injEq] at chained'
  subst chained'
  exact fresh cipherSuite ratchet chain pack present chained key.symm

/-- All other answers leave the session alone, unless its device is reported as gone. -/
theorem consumeAcceptMsg_keeps {client : Client β}
    (stored : client.store.sessions.load session.sessionId session.ourAddress = some session)
    {receiver : E2eeAddress} {msg : AcceptMsg β}
    (other : ¬ AcceptNames getE2eesPack client.store receiver msg session)
    {attempts : Nat → SendAttempt}
    (present : ∀ index, (attempts index).response ≠ some ⟨.notFound⟩) (coins : Bytes β) :
    (consumeAcceptMsg getE2eesPack attempts client receiver msg coins).store.sessions.load
      session.sessionId session.ourAddress = some session := by
  unfold consumeAcceptMsg
  split
  · rename_i checks
    simp only [Bool.and_eq_true, decide_eq_true_eq] at checks
    obtain ⟨⟨receiverValid, answered⟩, same⟩ := checks
    by_cases passes : ∃ named, AcceptPasses getE2eesPack client.store msg named
    · obtain ⟨named, passes⟩ := passes
      obtain ⟨cipherSuite, completed, -, reset, result⟩ :=
        pqcCompleteOutboundSession_passes passes coins
      obtain ⟨-, loaded, -, known⟩ := passes
      obtain ⟨keyedId, keyedAddress⟩ := client.store.sessions.keyed _ _ _ loaded
      have different : ¬ (session.sessionId = completed.sessionId ∧
          session.ourAddress = completed.ourAddress) := by
        obtain ⟨_, _, _, _, -, -, -, -, rfl⟩ := reset
        dsimp only
        rintro ⟨sameId, sameAddress⟩
        refine other ⟨receiverValid, answered, same, ?_, ?_, ?_⟩
        · rw [sameId, keyedId]
        · rw [sameAddress, keyedAddress]
        · rw [same, ← keyedAddress]
          exact known
      rw [result]
      dsimp only [sendPendingPlaintextData]
      rw [sendPendingPlaintexts_other present _ _ different]
      simp only [Store.storeSession, SessionStore.store, different, if_false]
      exact stored
    · rw [pqcCompleteOutboundSession_refused (not_exists.mp passes)]
      exact stored
  · exact stored

end Answers

/-- In every state that a client can reach, an answer replaces the outbound session that it names,
established or not, whoever sends it and however often. No other answer touches the session, unless
the server reports the device of the other party as gone. -/
theorem acceptMsg_keepsEstablished [DecidableEq β] {start : Client β}
    (empty : ∀ sessionId address, start.store.sessions.load sessionId address = none)
    (actions : List (SessionAction β)) {session : Session β}
    (stored : (Machine.run (sessionStep getE2eesPack) start actions).store.sessions.load
      session.sessionId session.ourAddress = some session)
    (outbound : session.Outbound) (receiver : E2eeAddress) (msg : AcceptMsg β) (coins : Bytes β)
    (attempts : Nat → SendAttempt) :
    let client := Machine.run (sessionStep getE2eesPack) start actions
    let after := consumeAcceptMsg getE2eesPack attempts client receiver msg coins
    (¬ AcceptNames getE2eesPack client.store receiver msg session →
      (∀ index, (attempts index).response ≠ some ⟨.notFound⟩) →
        after.store.sessions.load session.sessionId session.ourAddress = some session) ∧
      (AcceptNames getE2eesPack client.store receiver msg session →
        session.FreshCoins getE2eesPack coins →
        after.store.sessions.load session.sessionId session.ourAddress ≠ some session) := by
  intro client after
  have valid := run_restartable empty actions _ _ _ stored outbound
  exact ⟨fun other present => consumeAcceptMsg_keeps stored other present coins,
    fun names fresh => consumeAcceptMsg_replaces stored valid names fresh attempts⟩

namespace Symbolic

/-- Alice has no sessions yet. -/
def newClient : Client FreeTerm where
  store := handshake.aliceStore
  groups := .empty
  pendingPlaintexts _ _ := []
  serverPublicKey _ := none

/-- Alice invites Bob, reads his answer, and sends a message. -/
def establish : List (SessionAction FreeTerm) :=
  [.invite handshake.invite aliceAddress handshake.bundle handshake.draw (by decide),
    .readAccept authorisedAttempts aliceAddress handshake.answer handshake.aliceCoins,
    .send ⟨"auth", some ⟨.ok⟩⟩ "session" aliceAddress [.byte 1]]

def establishedClient : Client FreeTerm :=
  Machine.run (sessionStep handshake.getE2eesPack) newClient establish

def establishedSession : Session FreeTerm :=
  (establishedClient.store.sessions.load "session" aliceAddress).get (by decide)

theorem establishedSession_stored :
    establishedClient.store.sessions.load establishedSession.sessionId
      establishedSession.ourAddress = some establishedSession := by
  decide

theorem establishedSession_outbound : establishedSession.Outbound := by
  unfold Session.Outbound
  decide

theorem establishedSession_fresh :
    establishedSession.FreshCoins handshake.getE2eesPack [.byte 67] := by
  have other : ∀ chain,
      (establishedSession.ratchet.bind fun ratchet => ratchet.senderChain) = some chain →
        (symbolicSuite.kem.encapsulate [.byte 67] chain.theirRatchetPublicKey).2 ≠
          chain.ourRatchetPublicKey := by
    decide
  rintro cipherSuite ratchet chain ⟨⟩ present chained
  refine other chain ?_
  rw [present]
  exact chained

end Symbolic

open Symbolic in
/-- An answer for another session leaves the established one alone, and the same answer again does
not. -/
theorem foreign_answer_kept :
    establishedSession.responded = true ∧
      (consumeAcceptMsg handshake.getE2eesPack authorisedAttempts establishedClient aliceAddress
        { handshake.answer with sessionId := "other" } [.byte 67]).store.sessions.load
          establishedSession.sessionId establishedSession.ourAddress =
            some establishedSession ∧
      (consumeAcceptMsg handshake.getE2eesPack authorisedAttempts establishedClient aliceAddress
        handshake.answer [.byte 67]).store.sessions.load establishedSession.sessionId
          establishedSession.ourAddress ≠ some establishedSession := by
  refine ⟨by decide, (acceptMsg_keepsEstablished (fun _ _ => rfl) establish
    establishedSession_stored establishedSession_outbound aliceAddress _ _ authorisedAttempts).1
      ?_ ?_, (acceptMsg_keepsEstablished (fun _ _ => rfl) establish establishedSession_stored
        establishedSession_outbound aliceAddress _ _ authorisedAttempts).2 ?_
          establishedSession_fresh⟩
  · rintro ⟨-, -, -, named, -⟩
    revert named
    decide
  · intro index
    simp only [authorisedAttempts]
    split <;> simp
  · exact ⟨by decide, by decide, by decide, by decide, by decide, by decide⟩

open Symbolic in
/-- The same answer again sets the counter of sent messages back, and with it all keys. -/
theorem repeated_answer_resets :
    establishedClient.store.sessions.load "session" aliceAddress = some establishedSession ∧
      establishedSession.aliceBaseKey.isSome = true ∧ establishedSession.responded = true ∧
      (establishedSession.ratchet.map fun ratchet => ratchet.sendingMessageSequence) = some 1 ∧
      ((consumeAcceptMsg handshake.getE2eesPack authorisedAttempts establishedClient aliceAddress
        handshake.answer [.byte 67]).store.sessions.load "session" aliceAddress).map
          (fun session => session.ratchet.map fun ratchet => ratchet.sendingMessageSequence) =
            some (some 0) ∧
      (consumeAcceptMsg handshake.getE2eesPack authorisedAttempts establishedClient aliceAddress
        handshake.answer [.byte 67]).store.sessions.load "session" aliceAddress ≠
          some establishedSession := by
  decide

end E2eeSecurity
