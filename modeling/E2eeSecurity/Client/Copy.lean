/-
This file gives the functions of `mem_util.c` that compare addresses and copy addresses, ratchets,
and sessions, and shows what the copy of a session has lost.
-/
import E2eeSecurity.Client.Sending

namespace E2eeSecurity

variable {β : Type}

section Copying

/-- An empty source leaves the destination as it was. -/
def copyProtobufFromProtobuf (dest src : Bytes β) : Bytes β :=
  if src.isEmpty then dest else src

def copyAddressFromAddress (src : E2eeAddress) : E2eeAddress :=
  match src.peer with
  | .user userId deviceId => ⟨src.domain, .user userId deviceId⟩
  | .group groupId => ⟨src.domain, .group groupId⟩

/-- The optional names are not compared. -/
def compareAddress (address1 address2 : E2eeAddress) : Bool :=
  address1.domain == address2.domain &&
    match address1.peer, address2.peer with
    | .user userId1 deviceId1, .user userId2 deviceId2 =>
        userId1 == userId2 && deviceId1 == deviceId2
    | .group groupId1, .group groupId2 => groupId1 == groupId2
    | _, _ => false

/-- No result stands for the dereference of a null pointer, here and in the functions below. -/
def copyKeyPairFromKeyPair (src : Option (KeyPair β)) : Option (KeyPair β) := do
  let src ← src
  some {
    privateKey := copyProtobufFromProtobuf [] src.privateKey
    publicKey := copyProtobufFromProtobuf [] src.publicKey }

def copyChainKeyFromChainKey (src : Option (ChainKey β)) : Option (ChainKey β) := do
  let src ← src
  some { index := src.index, sharedKey := copyProtobufFromProtobuf [] src.sharedKey }

def copyMsgKeyFromMsgKey (src : MsgKey β) : MsgKey β where
  index := src.index
  derivedKey := copyProtobufFromProtobuf [] src.derivedKey

def copySenderChainFromSenderChain (src : Option (SenderChainNode β)) :
    Option (SenderChainNode β) := do
  let src ← src
  let chainKey ← copyChainKeyFromChainKey src.chainKey
  some {
    ourRatchetPublicKey := copyProtobufFromProtobuf [] src.ourRatchetPublicKey
    theirRatchetPublicKey := copyProtobufFromProtobuf [] src.theirRatchetPublicKey
    chainKey := some chainKey }

def copyReceiverChainFromReceiverChain (src : Option (ReceiverChainNode β)) :
    Option (ReceiverChainNode β) := do
  let src ← src
  let chainKey ← copyChainKeyFromChainKey src.chainKey
  some {
    theirRatchetPublicKey := copyProtobufFromProtobuf [] src.theirRatchetPublicKey
    ourRatchetPrivateKey := copyProtobufFromProtobuf [] src.ourRatchetPrivateKey
    chainKey := some chainKey }

def copySkippedMsgKeyNode (src : SkippedMsgKeyNode β) : SkippedMsgKeyNode β where
  ratchetKeyPublic := copyProtobufFromProtobuf [] src.ratchetKeyPublic
  msgKey := copyMsgKeyFromMsgKey src.msgKey

/-- The list pointer is allocated for any number of entries, also for none. -/
def copySkippedMsgKeysFromSkippedMsgKeys (src : Option (List (SkippedMsgKeyNode β))) :
    Option (List (SkippedMsgKeyNode β)) :=
  some ((src.getD []).map copySkippedMsgKeyNode)

/-- The two running totals keep the zeros of the initialiser. -/
def copyRatchetFromRatchet (src : Option (Ratchet β)) : Option (Ratchet β) := do
  let src ← src
  let senderChain ← copySenderChainFromSenderChain src.senderChain
  let receiverChain ← copyReceiverChainFromReceiverChain src.receiverChain
  some {
    rootKey := copyProtobufFromProtobuf [] src.rootKey
    rootSequence := src.rootSequence
    senderChain := some senderChain
    receiverChain := some receiverChain
    skippedMsgKeyList := copySkippedMsgKeysFromSkippedMsgKeys src.skippedMsgKeyList
    receivedMessageSequence := 0
    sendingMessageSequence := 0 }

/-- The fingerprint keeps the empty bytes of the initialiser.
The records of the input list are not initialised, so an empty source leaves what was there. -/
def copySessionFromSession (uninitialised : Nat → Bytes β) (src : Session β) :
    Option (Session β) := do
  let ratchet ← copyRatchetFromRatchet src.ratchet
  let aliceBaseKey ← copyKeyPairFromKeyPair src.aliceBaseKey
  some {
    version := src.version
    e2eesPackId := src.e2eesPackId
    sessionId := src.sessionId
    ourAddress := copyAddressFromAddress src.ourAddress
    theirAddress := copyAddressFromAddress src.theirAddress
    ratchet := some ratchet
    associatedData := copyProtobufFromProtobuf [] src.associatedData
    tempSharedSecret := copyProtobufFromProtobuf [] src.tempSharedSecret
    aliceBaseKey := some aliceBaseKey
    bobSignedPreKeyId := src.bobSignedPreKeyId
    bobOneTimePreKeyId := src.bobOneTimePreKeyId
    preSharedInputList := src.preSharedInputList.mapIdx fun index entry =>
      copyProtobufFromProtobuf (uninitialised index) entry
    fingerprint := []
    f2f := src.f2f
    responded := src.responded
    inviteT := src.inviteT }

@[simp] theorem copyProtobufFromProtobuf_nil (src : Bytes β) :
    copyProtobufFromProtobuf [] src = src := by
  cases src <;> simp [copyProtobufFromProtobuf]

@[simp] theorem copyAddressFromAddress_eq (src : E2eeAddress) :
    copyAddressFromAddress src = src := by
  obtain ⟨domain, peer⟩ := src
  cases peer <;> rfl

theorem compareAddress_iff (address1 address2 : E2eeAddress) :
    compareAddress address1 address2 = true ↔ address1 = address2 := by
  obtain ⟨domain1, peer1⟩ := address1
  obtain ⟨domain2, peer2⟩ := address2
  cases peer1 <;> cases peer2 <;> simp [compareAddress]

@[simp] theorem copySkippedMsgKeyNode_eq (src : SkippedMsgKeyNode β) :
    copySkippedMsgKeyNode src = src := by
  simp [copySkippedMsgKeyNode, copyMsgKeyFromMsgKey]

@[simp] theorem copyChainKeyFromChainKey_eq (src : Option (ChainKey β)) :
    copyChainKeyFromChainKey src = src := by
  cases src <;> simp [copyChainKeyFromChainKey]

@[simp] theorem copySkippedMsgKeysFromSkippedMsgKeys_eq
    (src : Option (List (SkippedMsgKeyNode β))) :
    copySkippedMsgKeysFromSkippedMsgKeys src = some (src.getD []) := by
  have same : (copySkippedMsgKeyNode : SkippedMsgKeyNode β → SkippedMsgKeyNode β) = id := by
    funext node
    exact copySkippedMsgKeyNode_eq node
  rw [copySkippedMsgKeysFromSkippedMsgKeys, same, List.map_id]

end Copying

section Ratchets

/-- Both chains of the ratchet have a chain key, so no copy function meets a null pointer. -/
structure Copyable (ratchet : Ratchet β) (senderChain : SenderChainNode β)
    (receiverChain : ReceiverChainNode β) : Prop where
  sender : ratchet.senderChain = some senderChain
  receiver : ratchet.receiverChain = some receiverChain
  senderKey : senderChain.chainKey.isSome = true
  receiverKey : receiverChain.chainKey.isSome = true

/-- This is the ratchet without its running totals, and with a list pointer. -/
def Ratchet.copied (ratchet : Ratchet β) : Ratchet β :=
  { ratchet with
    skippedMsgKeyList := some ratchet.skipped
    receivedMessageSequence := 0
    sendingMessageSequence := 0 }

variable {ratchet : Ratchet β} {senderChain : SenderChainNode β}
  {receiverChain : ReceiverChainNode β}

/-- A copy keeps the keys, the root sequence, and the entries of the list, and nothing else. -/
theorem copyRatchetFromRatchet_eq (copyable : Copyable ratchet senderChain receiverChain) :
    copyRatchetFromRatchet (some ratchet) = some ratchet.copied := by
  obtain ⟨sender, receiver, senderKey, receiverKey⟩ := copyable
  obtain ⟨ours, theirs, sent⟩ := senderChain
  obtain ⟨their, own, received⟩ := receiverChain
  obtain ⟨sentKey, rfl⟩ := Option.isSome_iff_exists.mp senderKey
  obtain ⟨receivedKey, rfl⟩ := Option.isSome_iff_exists.mp receiverKey
  simp [copyRatchetFromRatchet, copySenderChainFromSenderChain,
    copyReceiverChainFromReceiverChain, sender, receiver, Ratchet.copied, Ratchet.skipped]

/-- A null list becomes a list without entries, which no call of the ratchet accepts. -/
theorem copied_valid (valid : isValidRatchet ratchet = true) :
    isValidRatchet ratchet.copied = true ↔ ratchet.skippedMsgKeyList ≠ none := by
  have list : isValidSkippedMsgKeyList ratchet.skippedMsgKeyList = true := by
    simp only [isValidRatchet, Bool.and_eq_true] at valid
    exact valid.2
  have same : isValidRatchet ratchet.copied = true ↔
      isValidSkippedMsgKeyList (some ratchet.skipped) = true := by
    simp only [isValidRatchet, Bool.and_eq_true] at valid ⊢
    exact ⟨fun both => both.2, fun listed => ⟨valid.1, listed⟩⟩
  rw [same]
  cases stored : ratchet.skippedMsgKeyList with
  | none => simp [Ratchet.skipped, stored, isValidSkippedMsgKeyList]
  | some entries =>
      rw [stored] at list
      simpa [Ratchet.skipped, stored] using list

/-- Only a ratchet that has sent and received nothing and holds skipped keys is copied as it is. -/
theorem copied_eq_iff : ratchet.copied = ratchet ↔ ratchet.skippedMsgKeyList ≠ none ∧
    ratchet.receivedMessageSequence = 0 ∧ ratchet.sendingMessageSequence = 0 := by
  obtain ⟨rootKey, rootSequence, sender, receiver, list, received, sending⟩ := ratchet
  cases list with
  | none => simp [Ratchet.copied]
  | some entries => simp [Ratchet.copied, Ratchet.skipped, eq_comm]

/-- The first message of a copy announces a running total of one message. -/
theorem copied_encrypt (cipherSuite : CipherSuite β) (ratchet : Ratchet β) (ad : Bytes β)
    (plaintext : Option (Bytes β)) :
    (encryptRatchet cipherSuite ratchet.copied ad plaintext).1 =
      (encryptRatchet cipherSuite ratchet ad plaintext).1.map fun payload =>
        { payload with sendingMessageSequence := 1 } := by
  obtain ⟨rootKey, rootSequence, sender, receiver, list, received, sending⟩ := ratchet
  by_cases passes : (isValidCipherSuite cipherSuite && isValidSenderChain sender) = true
  · cases sender with
    | none => simp [isValidSenderChain] at passes
    | some senderChain =>
        cases plaintext with
        | none => simp [encryptRatchet, Ratchet.copied]
        | some data =>
            simp only [encryptRatchet, Ratchet.copied, passes, if_true]
            cases createMsgKeys cipherSuite senderChain.chainKey with
            | none => rfl
            | some msgKey => simp [Function.comp_def]
  · simp [encryptRatchet, Ratchet.copied, passes]

/-- A receiver chain without a key, as the initialiser of Bob leaves it, cannot be copied. -/
theorem copyRatchetFromRatchet_fresh (receiver : ratchet.receiverChain = some receiverChain)
    (fresh : receiverChain.chainKey = none) : copyRatchetFromRatchet (some ratchet) = none := by
  simp [copyRatchetFromRatchet, copyReceiverChainFromReceiverChain, receiver, fresh]

end Ratchets

section Behaviour

variable [DecidableEq β]

/-- This is what the caller gets: a payload or a plaintext, if any. -/
def callResult (cipherSuite : CipherSuite β) (ratchet : Ratchet β) :
    RatchetCall β → Option (One2oneMsgPayload β) ⊕ Option (Bytes β)
  | .encrypt ad plaintext => .inl (encryptRatchet cipherSuite ratchet ad plaintext).1
  | .decrypt ad payload coins => .inr (decryptRatchet cipherSuite ratchet ad payload coins).1

def callResults (cipherSuite : CipherSuite β) :
    Ratchet β → List (RatchetCall β) → List (Option (One2oneMsgPayload β) ⊕ Option (Bytes β))
  | _, [] => []
  | ratchet, call :: rest => callResult cipherSuite ratchet call ::
      callResults cipherSuite (applyCall cipherSuite ratchet call) rest

/-- The copy passes the same check, and any later calls give the same results. -/
structure BehavesAs (cipherSuite : CipherSuite β) (original copy : Ratchet β) : Prop where
  valid : isValidRatchet copy = isValidRatchet original
  results : ∀ calls, callResults cipherSuite copy calls = callResults cipherSuite original calls

/-- The copy exists, and it agrees with the session in its behaviour and in its fingerprint. -/
def CopiesFaithfully (getE2eesPack : Packs β) (uninitialised : Nat → Bytes β)
    (session : Session β) : Prop :=
  ∃ copy original copied, copySessionFromSession uninitialised session = some copy ∧
    session.ratchet = some original ∧ copy.ratchet = some copied ∧
    copy.fingerprint = session.fingerprint ∧
    ∀ cipherSuite, getE2eesPack session.e2eesPackId = some cipherSuite →
      BehavesAs cipherSuite original copied

omit [DecidableEq β] in
theorem copySessionFromSession_fingerprint {uninitialised : Nat → Bytes β}
    {session copy : Session β} (made : copySessionFromSession uninitialised session = some copy) :
    copy.fingerprint = [] := by
  simp only [copySessionFromSession, Option.bind_eq_bind, Option.bind_eq_some_iff,
    Option.some.injEq] at made
  obtain ⟨ratchet, -, aliceBaseKey, -, rfl⟩ := made
  rfl

/-- The check of a completed session asks for the fingerprint that every copy has lost. -/
theorem copySessionFromSession_unfaithful (getE2eesPack : Packs β)
    (uninitialised : Nat → Bytes β) (session : Session β)
    (completed : isValidCompletedSession getE2eesPack session = true) :
    ¬ CopiesFaithfully getE2eesPack uninitialised session := by
  rintro ⟨copy, original, copied, made, -, -, same, -⟩
  rw [copySessionFromSession_fingerprint made] at same
  simp only [isValidCompletedSession, ← same, isValidProtobuf, List.isEmpty_nil, Bool.not_true,
    Bool.and_false, Bool.false_eq_true] at completed

namespace Symbolic

theorem copySessionFromSession_unfaithful_completed :
    isValidCompletedSession handshake.getE2eesPack completedSession = true ∧
      ¬ CopiesFaithfully handshake.getE2eesPack (fun _ => []) completedSession :=
  ⟨completedRatchet_valid, copySessionFromSession_unfaithful handshake.getE2eesPack (fun _ => [])
    completedSession completedRatchet_valid⟩

/-- The session of Alice after the handshake has a fingerprint, and its copy has none. -/
theorem completedSession_copied : ¬ CopiesFaithfully handshake.getE2eesPack (fun _ => [])
    completedSession := by
  rintro ⟨copy, original, copied, made, -, -, same, -⟩
  rw [copySessionFromSession_fingerprint made] at same
  have present : completedSession.fingerprint ≠ [] := by decide
  exact present same.symm

end Symbolic

end Behaviour

end E2eeSecurity
