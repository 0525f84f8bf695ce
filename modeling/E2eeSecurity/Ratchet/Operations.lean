/-
This file gives the ratchet operations: the two initialisers, encryption, and decryption.
-/
import E2eeSecurity.Ratchet.Keys

namespace E2eeSecurity

variable {β : Type}

/-- The initial HKDF output holds the first root key and the first chain key. -/
def CipherSuite.initialSecrets (cipherSuite : CipherSuite β) (sharedSecret : Bytes β) : Bytes β :=
  cipherSuite.hf.hkdf sharedSecret (cipherSuite.zeros cipherSuite.hf.hfLen)
    (cipherSuite.text "ROOT") (2 * cipherSuite.hf.hfLen)

def initialiseAsBob (cipherSuite : CipherSuite β) (sharedSecret : Bytes β)
    (ourRatchetKey : KeyPair β) (theirRatchetKey coins : Bytes β) : Option (Ratchet β) :=
  if isValidCipherSuite cipherSuite && isValidProtobuf sharedSecret &&
      isValidKeyPair ourRatchetKey && isValidProtobuf theirRatchetKey then
    let derived := cipherSuite.initialSecrets sharedSecret
    let keyLen := cipherSuite.hf.hfLen
    let ciphertext := (cipherSuite.kem.encapsulate coins theirRatchetKey).2
    some {
      rootKey := derived.take keyLen
      rootSequence := 0
      senderChain := some {
        ourRatchetPublicKey :=
          if cipherSuite.kem.pqcParam then ciphertext else ourRatchetKey.publicKey
        theirRatchetPublicKey := theirRatchetKey
        chainKey := some ⟨0, (derived.drop keyLen).take keyLen⟩ }
      receiverChain := some {
        theirRatchetPublicKey := []
        ourRatchetPrivateKey := ourRatchetKey.privateKey
        chainKey := none }
      skippedMsgKeyList := none
      receivedMessageSequence := 0
      sendingMessageSequence := 0 }
  else none

/-- The return value of `create_chain_key` is ignored, so a failure keeps its destinations. -/
def initialiseAsAlice (cipherSuite : CipherSuite β) (sharedSecret : Bytes β)
    (ourRatchetKey : KeyPair β) (theirRatchetKey : Bytes β)
    (theirEncapsCiphertext : Option (Bytes β)) (coins : Bytes β) : Option (Ratchet β) :=
  let encapsCiphertextFits := if cipherSuite.kem.pqcParam
    then theirEncapsCiphertext.any isValidProtobuf else theirEncapsCiphertext.isNone
  if isValidCipherSuite cipherSuite && encapsCiphertextFits && isValidProtobuf sharedSecret &&
      isValidKeyPair ourRatchetKey && isValidProtobuf theirRatchetKey then
    let derived := cipherSuite.initialSecrets sharedSecret
    let keyLen := cipherSuite.hf.hfLen
    let rootKey := derived.take keyLen
    let privateKey :=
      if cipherSuite.kem.pqcParam then none else some ourRatchetKey.privateKey
    let step := (createChainKey cipherSuite rootKey privateKey theirRatchetKey coins rootKey
      ChainKey.initial).getD (rootKey, ChainKey.initial, [])
    some {
      rootKey := step.1
      rootSequence := 1
      senderChain := some {
        ourRatchetPublicKey :=
          if cipherSuite.kem.pqcParam then step.2.2 else ourRatchetKey.publicKey
        theirRatchetPublicKey := theirRatchetKey
        chainKey := some step.2.1 }
      receiverChain := some {
        theirRatchetPublicKey :=
          if cipherSuite.kem.pqcParam then theirEncapsCiphertext.getD [] else theirRatchetKey
        ourRatchetPrivateKey := ourRatchetKey.privateKey
        chainKey := some ⟨0, (derived.drop keyLen).take keyLen⟩ }
      skippedMsgKeyList := none
      receivedMessageSequence := 0
      sendingMessageSequence := 0 }
  else none

/-- The chain and the counter advance before the encryption, so a failed encryption keeps both.
A missing plaintext is a null pointer. -/
def encryptRatchet (cipherSuite : CipherSuite β) (ratchet : Ratchet β) (ad : Bytes β)
    (plaintext : Option (Bytes β)) : Option (One2oneMsgPayload β) × Ratchet β :=
  if isValidCipherSuite cipherSuite && isValidSenderChain ratchet.senderChain then
    match ratchet.senderChain, plaintext with
    | some senderChain, some data =>
        match createMsgKeys cipherSuite senderChain.chainKey with
        | some msgKey =>
            let chainKey :=
              (advanceChainKey cipherSuite senderChain.chainKey).or senderChain.chainKey
            let next : Ratchet β := { ratchet with
              senderChain := some { senderChain with chainKey := chainKey }
              sendingMessageSequence := ratchet.sendingMessageSequence + 1 }
            let payload := (cipherSuite.se.encrypt ad msgKey.derivedKey data).map
              fun ciphertext => {
                sequence := msgKey.index
                ratchetKey := senderChain.ourRatchetPublicKey
                rootSequence := ratchet.rootSequence
                sendingMessageSequence := next.sendingMessageSequence
                ciphertext := ciphertext }
            (payload, next)
        | none => (none, ratchet)
    | _, _ => (none, ratchet)
  else (none, ratchet)

def maxSkippedMessageKeyNodes : Nat := 1024

section Decryption

variable [DecidableEq β]

def verifyAndDecrypt (cipherSuite : CipherSuite β) (ad : Bytes β) (messageKey : MsgKey β)
    (payload : One2oneMsgPayload β) : Option (Bytes β) :=
  if isValidCipherSuite cipherSuite && isValidProtobuf ad && isValidMsgKey messageKey &&
      isValidOne2oneMsgPayload payload then
    cipherSuite.se.decrypt ad messageKey.derivedKey payload.ciphertext
  else none

/-- The trial works on a copy of the chain, which is given by value here. -/
def verifyAndDecryptForExistingChain (cipherSuite : CipherSuite β) (ad : Bytes β)
    (chain : Option (ChainKey β)) (payload : One2oneMsgPayload β) : Option (Bytes β) :=
  match chain with
  | some chainKey =>
      if isValidCipherSuite cipherSuite && isValidProtobuf ad && isValidChainKey chain &&
          isValidOne2oneMsgPayload payload && !decide (payload.sequence < chainKey.index) then do
        let newChain ← advanceChainKeyTimes cipherSuite
          (payload.sequence.toNat - chainKey.index.toNat) chain
        let msgKey ← createMsgKeys cipherSuite (some newChain)
        verifyAndDecrypt cipherSuite ad msgKey payload
      else none
  | none => none

/-- The trial applies one root step for each root sequence up to the incoming one. -/
def trialChain (cipherSuite : CipherSuite β) (privateKey theirKey : Bytes β) :
    Nat → Bytes β × ChainKey β → Bytes β × ChainKey β
  | 0, current => current
  | count + 1, (rootKey, chainKey) =>
      let step := (createChainKey cipherSuite rootKey (some privateKey) theirKey [] rootKey
        chainKey).getD (rootKey, chainKey, [])
      trialChain cipherSuite privateKey theirKey count (step.1, step.2.1)

def ratchetKeyLen (cipherSuite : CipherSuite β) : Nat :=
  if cipherSuite.kem.pqcParam then cipherSuite.kem.kemCiphertextLen
  else cipherSuite.kem.asymPubKeyLen

def verifyAndDecryptForNewChain (cipherSuite : CipherSuite β) (ratchet : Ratchet β)
    (ad : Bytes β) (payload : One2oneMsgPayload β) : Option (Bytes β) :=
  match ratchet.receiverChain with
  | some receiverChain =>
      if isValidCipherSuite cipherSuite && isValidProtobuf ad && isValidRatchet ratchet &&
          isValidOne2oneMsgPayload payload && payload.rootSequence != 0 &&
          payload.ratchetKey.length == ratchetKeyLen cipherSuite then
        let trial := trialChain cipherSuite receiverChain.ourRatchetPrivateKey payload.ratchetKey
          (payload.rootSequence.toNat - ratchet.rootSequence.toNat)
          (ratchet.rootKey, ChainKey.initial)
        verifyAndDecryptForExistingChain cipherSuite ad (some trial.2) payload
      else none
  | none => none

/-- The header checks select the path of a message.
The first flag says that the message belongs to the current receiver chain, and the second flag
says that its key can only be a stored one. -/
structure Route where
  current : Bool
  skipped : Bool
  deriving DecidableEq

/-- The order of the two sequence numbers of the roots selects the path. -/
def decryptRoute (cipherSuite : CipherSuite β) (ratchet : Ratchet β) (ad : Bytes β)
    (payload : One2oneMsgPayload β) : Option Route :=
  if isValidCipherSuite cipherSuite && isValidOne2oneMsgPayload payload &&
      payload.ratchetKey.length == ratchetKeyLen cipherSuite && isValidProtobuf ad &&
      isValidRatchet ratchet &&
      !(ratchet.rootSequence == 0 && payload.sendingMessageSequence < payload.sequence) then
    if payload.rootSequence = ratchet.rootSequence then none
    else if payload.rootSequence < ratchet.rootSequence then
      if payload.rootSequence = ratchet.rootSequence - 1 then
        match ratchet.receiverChain with
        | some receiverChain =>
            if receiverChain.theirRatchetPublicKey = payload.ratchetKey then
              some ⟨true, receiverChain.chainKey.any fun key => payload.sequence < key.index⟩
            else none
        | none => none
      else some ⟨false, true⟩
    else if payload.rootSequence = ratchet.rootSequence + 1 then some ⟨false, false⟩
    else none
  else none

/-- The search continues after a key that does not open the message.
The result holds the plaintext and the list without the used entry. -/
def useSkippedKey (cipherSuite : CipherSuite β) (ad : Bytes β) (payload : One2oneMsgPayload β) :
    List (SkippedMsgKeyNode β) → Option (Bytes β × List (SkippedMsgKeyNode β))
  | [] => none
  | node :: rest =>
      let keyLen := ratchetKeyLen cipherSuite
      let opened := if payload.sequence = node.msgKey.index ∧
          node.ratchetKeyPublic.take keyLen = payload.ratchetKey.take keyLen
        then verifyAndDecrypt cipherSuite ad node.msgKey payload else none
      match opened with
      | some plaintext => some (plaintext, rest)
      | none => (useSkippedKey cipherSuite ad payload rest).map fun found =>
          (found.1, node :: found.2)

/-- Each turn stores the key of the next message and advances the chain.
The flag is false when a derivation fails. -/
def storeSkippedKeys (cipherSuite : CipherSuite β) (ratchetKey : Bytes β) :
    Nat → Option (ChainKey β) → List (SkippedMsgKeyNode β) →
      Bool × Option (ChainKey β) × List (SkippedMsgKeyNode β)
  | 0, chainKey, list => (true, chainKey, list)
  | count + 1, chainKey, list =>
      match createMsgKeys cipherSuite chainKey with
      | none => (false, chainKey, list)
      | some msgKey =>
          match advanceChainKey cipherSuite chainKey with
          | none => (false, chainKey, list ++ [⟨ratchetKey, msgKey⟩])
          | some next =>
              storeSkippedKeys cipherSuite ratchetKey count (some next)
                (list ++ [⟨ratchetKey, msgKey⟩])

/-- The running totals give the number of unread messages of the previous chain.
The sum is taken in 32 bits and widened afterwards. -/
def previousSkippedNum (ratchet : Ratchet β) (payload : One2oneMsgPayload β) : Nat :=
  payload.sendingMessageSequence.toNat -
    (ratchet.receivedMessageSequence + (payload.sequence + 1)).toNat

/-- The list pointer is allocated before the first key is derived. -/
def storePreviousChain (cipherSuite : CipherSuite β) (ratchet : Ratchet β)
    (payload : One2oneMsgPayload β) : Bool × Ratchet β :=
  let skippedNum := previousSkippedNum ratchet payload
  if skippedNum = 0 then (true, ratchet)
  else if skippedNum > maxSkippedMessageKeyNodes then (false, ratchet)
  else
    match ratchet.receiverChain with
    | some receiverChain =>
        let stored := storeSkippedKeys cipherSuite receiverChain.theirRatchetPublicKey skippedNum
          receiverChain.chainKey ratchet.skipped
        (stored.1, { ratchet with
          receiverChain := some { receiverChain with chainKey := stored.2.1 }
          skippedMsgKeyList := some stored.2.2 })
    | none => (false, ratchet)

/-- The commit replaces both chains and takes two root steps.
The curve branch draws a new key pair; the post-quantum branch keeps the private key. -/
def commitNewChains (cipherSuite : CipherSuite β) (ratchet : Ratchet β)
    (payload : One2oneMsgPayload β) (coins : Bytes β) : Ratchet β :=
  match ratchet.receiverChain, ratchet.senderChain with
  | some receiverChain, some senderChain =>
      let received := (createChainKey cipherSuite ratchet.rootKey
        (some receiverChain.ourRatchetPrivateKey) payload.ratchetKey [] ratchet.rootKey
        ChainKey.initial).getD (ratchet.rootKey, ChainKey.initial, [])
      let pair := cipherSuite.kem.asymKeyGen coins
      let privateKey :=
        if cipherSuite.kem.pqcParam then receiverChain.ourRatchetPrivateKey else pair.2
      let theirKey := if cipherSuite.kem.pqcParam
        then senderChain.theirRatchetPublicKey else payload.ratchetKey
      let sending := (createChainKey cipherSuite received.1
        (if cipherSuite.kem.pqcParam then none else some pair.2) theirKey coins received.1
        ChainKey.initial).getD (received.1, ChainKey.initial, [])
      { ratchet with
        rootKey := sending.1
        rootSequence := ratchet.rootSequence + 1 + 1
        receiverChain := some {
          theirRatchetPublicKey := payload.ratchetKey
          ourRatchetPrivateKey := privateKey
          chainKey := some received.2.1 }
        senderChain := some {
          ourRatchetPublicKey := if cipherSuite.kem.pqcParam then sending.2.2 else pair.1
          theirRatchetPublicKey := theirKey
          chainKey := some sending.2.1 } }
  | _, _ => ratchet

/-- The gap before the message is stored, and the chain moves past the message. -/
def storeCurrentChain (cipherSuite : CipherSuite β) (ratchet : Ratchet β)
    (payload : One2oneMsgPayload β) : Bool × Ratchet β :=
  match ratchet.receiverChain with
  | some receiverChain =>
      match receiverChain.chainKey with
      | some chainKey =>
          let skippedNum := payload.sequence.toNat - chainKey.index.toNat
          if skippedNum > maxSkippedMessageKeyNodes then (false, ratchet)
          else
            let stored := storeSkippedKeys cipherSuite receiverChain.theirRatchetPublicKey
              skippedNum (some chainKey) ratchet.skipped
            let list := if skippedNum = 0 then ratchet.skippedMsgKeyList else some stored.2.2
            let last := if stored.1 ∧ stored.2.1.any (fun key => key.index = payload.sequence)
              then (advanceChainKey cipherSuite stored.2.1).or stored.2.1 else stored.2.1
            (stored.1, { ratchet with
              receiverChain := some { receiverChain with chainKey := last }
              skippedMsgKeyList := list })
      | none => (true, ratchet)
  | none => (true, ratchet)

/-- The oldest keys are dropped when the list is too long. -/
def pruneBloatedSkippedKeys (ratchet : Ratchet β) : Ratchet β :=
  if ratchet.skipped.length ≤ maxSkippedMessageKeyNodes then ratchet
  else
    let excess := ratchet.skipped.length - maxSkippedMessageKeyNodes
    { ratchet with skippedMsgKeyList := some (ratchet.skipped.drop excess) }

/-- The total of the header is kept after every call, whatever its result. -/
def updateReceivedMessageSequence (ratchet : Ratchet β) (payload : One2oneMsgPayload β) :
    Ratchet β :=
  if payload.sendingMessageSequence > ratchet.receivedMessageSequence then
    { ratchet with receivedMessageSequence := payload.sendingMessageSequence }
  else ratchet

/-- A stored key opens the message and leaves the list.
On the current chain the update after the search finds nothing to do. -/
def decryptSkipped (cipherSuite : CipherSuite β) (ratchet : Ratchet β) (ad : Bytes β)
    (payload : One2oneMsgPayload β) (current : Bool) : Option (Bytes β) × Ratchet β :=
  match useSkippedKey cipherSuite ad payload ratchet.skipped with
  | some (plaintext, list) =>
      let next := { ratchet with skippedMsgKeyList := skippedPointer list }
      if current then
        let stored := storeCurrentChain cipherSuite next payload
        (if stored.1 then some plaintext else none, stored.2)
      else (some plaintext, next)
  | none => (none, ratchet)

/-- The current chain opens the message in a trial and is advanced afterwards. -/
def decryptExisting (cipherSuite : CipherSuite β) (ratchet : Ratchet β) (ad : Bytes β)
    (payload : One2oneMsgPayload β) : Option (Bytes β) × Ratchet β :=
  match verifyAndDecryptForExistingChain cipherSuite ad
      (ratchet.receiverChain.bind fun chain => chain.chainKey) payload with
  | some plaintext =>
      let stored := storeCurrentChain cipherSuite ratchet payload
      (if stored.1 then some plaintext else none, stored.2)
  | none => (none, ratchet)

/-- A new chain opens the message in a trial.
The rest of the previous chain is stored, both chains are replaced, and the new chain is advanced. -/
def decryptNew (cipherSuite : CipherSuite β) (ratchet : Ratchet β) (ad : Bytes β)
    (payload : One2oneMsgPayload β) (coins : Bytes β) : Option (Bytes β) × Ratchet β :=
  match verifyAndDecryptForNewChain cipherSuite ratchet ad payload with
  | some plaintext =>
      let previous := storePreviousChain cipherSuite ratchet payload
      if previous.1 then
        let stored := storeCurrentChain cipherSuite
          (commitNewChains cipherSuite previous.2 payload coins) payload
        (if stored.1 then some plaintext else none, stored.2)
      else (none, previous.2)
  | none => (none, ratchet)

/-- This is the call before the two updates that run on every exit. -/
def decryptBody (cipherSuite : CipherSuite β) (ratchet : Ratchet β) (ad : Bytes β)
    (payload : One2oneMsgPayload β) (coins : Bytes β) : Option (Bytes β) × Ratchet β :=
  match decryptRoute cipherSuite ratchet ad payload with
  | none => (none, ratchet)
  | some route =>
      if route.skipped then decryptSkipped cipherSuite ratchet ad payload route.current
      else if route.current then decryptExisting cipherSuite ratchet ad payload
      else decryptNew cipherSuite ratchet ad payload coins

/-- This function runs at the end of every call. -/
def closeDecrypt (ratchet : Ratchet β) (payload : One2oneMsgPayload β) : Ratchet β :=
  pruneBloatedSkippedKeys (updateReceivedMessageSequence ratchet payload)

/-- No plaintext stands for the result `E2EES_RESULT_FAIL`. -/
def decryptRatchet (cipherSuite : CipherSuite β) (ratchet : Ratchet β) (ad : Bytes β)
    (payload : One2oneMsgPayload β) (coins : Bytes β) : Option (Bytes β) × Ratchet β :=
  let result := decryptBody cipherSuite ratchet ad payload coins
  (result.1, closeDecrypt result.2 payload)

end Decryption

end E2eeSecurity
