/-
This file lists everything that one call can do to a ratchet.
-/
import E2eeSecurity.Ratchet.Steps

namespace E2eeSecurity

variable {β : Type} {cipherSuite : CipherSuite β}

/-- Every derived key of the ratchet has the full length. -/
structure Ratchet.Sized (cipherSuite : CipherSuite β) (ratchet : Ratchet β) : Prop where
  root : cipherSuite.FullKey ratchet.rootKey
  sender : ∀ chain ∈ ratchet.senderChain, ∀ key ∈ chain.chainKey,
    cipherSuite.FullKey key.sharedKey
  receiver : ∀ chain ∈ ratchet.receiverChain, ∀ key ∈ chain.chainKey,
    cipherSuite.FullKey key.sharedKey

/-- The ratchet after one encryption, whether the ciphertext was made or not. -/
def sentRatchet (cipherSuite : CipherSuite β) (ratchet : Ratchet β)
    (senderChain : SenderChainNode β) (chainKey : ChainKey β) : Ratchet β :=
  { ratchet with
    senderChain := some { senderChain with
      chainKey := some ⟨chainKey.index + 1, cipherSuite.advance chainKey.sharedKey⟩ }
    sendingMessageSequence := ratchet.sendingMessageSequence + 1 }

/-- The header of a message names the chain, the position, and the total before it. -/
def emittedPayload (ratchet : Ratchet β) (senderChain : SenderChainNode β)
    (chainKey : ChainKey β) (ciphertext : Bytes β) : One2oneMsgPayload β where
  sequence := chainKey.index
  ratchetKey := senderChain.ourRatchetPublicKey
  rootSequence := ratchet.rootSequence
  sendingMessageSequence := ratchet.sendingMessageSequence + 1
  ciphertext := ciphertext

/-- A call with a plaintext takes the next message key of a valid sender chain. -/
theorem encryptRatchet_full (suite : isValidCipherSuite cipherSuite = true) {ratchet : Ratchet β}
    (sized : ratchet.Sized cipherSuite) {senderChain : SenderChainNode β} {chainKey : ChainKey β}
    (validSender : isValidSenderChain ratchet.senderChain = true)
    (sender : ratchet.senderChain = some senderChain)
    (present : senderChain.chainKey = some chainKey) (ad data : Bytes β) :
    encryptRatchet cipherSuite ratchet ad (some data) =
      ((cipherSuite.se.encrypt ad (cipherSuite.messageKey chainKey.sharedKey) data).map
        (emittedPayload ratchet senderChain chainKey),
        sentRatchet cipherSuite ratchet senderChain chainKey) := by
  have full : cipherSuite.FullKey chainKey.sharedKey :=
    sized.sender senderChain (by simp [sender]) chainKey (by simp [present])
  have derived := createMsgKeys_full suite chainKey.index full
  have moved := advanceChainKey_full suite chainKey.index full
  unfold encryptRatchet
  rw [if_pos (by simp only [suite, validSender, Bool.and_self])]
  simp only [sender, present, derived, moved, Option.some_or]
  rfl

/-- A call is refused, or it takes the next message key of the sender chain. -/
theorem encryptRatchet_cases {ratchet : Ratchet β} (sized : ratchet.Sized cipherSuite)
    (ad : Bytes β) (plaintext : Option (Bytes β)) :
    encryptRatchet cipherSuite ratchet ad plaintext = (none, ratchet) ∨
      ∃ senderChain chainKey data, isValidCipherSuite cipherSuite = true ∧
        ratchet.senderChain = some senderChain ∧ senderChain.chainKey = some chainKey ∧
        plaintext = some data ∧ encryptRatchet cipherSuite ratchet ad plaintext =
          ((cipherSuite.se.encrypt ad (cipherSuite.messageKey chainKey.sharedKey) data).map
            (emittedPayload ratchet senderChain chainKey),
            sentRatchet cipherSuite ratchet senderChain chainKey) := by
  by_cases checks : isValidCipherSuite cipherSuite = true ∧
      isValidSenderChain ratchet.senderChain = true
  · obtain ⟨suite, validSender⟩ := checks
    obtain ⟨senderChain, sender, -, -, validKey⟩ := (isValidSenderChain_iff _).mp validSender
    obtain ⟨chainKey, present, -⟩ := (isValidChainKey_iff _).mp validKey
    cases plaintext with
    | none => exact Or.inl (by simp [encryptRatchet, sender])
    | some data =>
        exact Or.inr ⟨senderChain, chainKey, data, suite, sender, present, rfl,
          encryptRatchet_full suite sized validSender sender present ad data⟩
  · refine Or.inl ?_
    unfold encryptRatchet
    rw [if_neg (by simpa using checks)]

theorem sentRatchet_sized {ratchet : Ratchet β} (sized : ratchet.Sized cipherSuite)
    (senderChain : SenderChainNode β) (chainKey : ChainKey β) :
    (sentRatchet cipherSuite ratchet senderChain chainKey).Sized cipherSuite where
  root := sized.root
  sender chain member key found := by
    simp only [sentRatchet, Option.mem_some_iff] at member
    subst member
    simp only [Option.mem_some_iff] at found
    subst found
    exact advance_full _
  receiver := sized.receiver

/-- An encryption only touches the sender chain and the total of sent messages. -/
theorem encryptRatchet_keeps (ratchet : Ratchet β) (ad : Bytes β) (plaintext : Option (Bytes β)) :
    (encryptRatchet cipherSuite ratchet ad plaintext).2.receiverChain = ratchet.receiverChain ∧
      (encryptRatchet cipherSuite ratchet ad plaintext).2.skippedMsgKeyList =
        ratchet.skippedMsgKeyList ∧
      (encryptRatchet cipherSuite ratchet ad plaintext).2.rootSequence = ratchet.rootSequence := by
  unfold encryptRatchet
  split
  · split
    · split <;> exact ⟨rfl, rfl, rfl⟩
    · exact ⟨rfl, rfl, rfl⟩
  · exact ⟨rfl, rfl, rfl⟩

theorem encryptRatchet_sized {ratchet : Ratchet β} (sized : ratchet.Sized cipherSuite)
    (ad : Bytes β) (plaintext : Option (Bytes β)) :
    (encryptRatchet cipherSuite ratchet ad plaintext).2.Sized cipherSuite := by
  obtain refused | ⟨senderChain, chainKey, data, -, -, -, -, made⟩ :=
    encryptRatchet_cases sized ad plaintext
  · rw [refused]
    exact sized
  · rw [made]
    exact sentRatchet_sized sized senderChain chainKey

/-- These are the checks that every accepted header passed. -/
structure Accepted (cipherSuite : CipherSuite β) (ratchet : Ratchet β) (ad : Bytes β)
    (payload : One2oneMsgPayload β) : Prop where
  suite : isValidCipherSuite cipherSuite = true
  validPayload : isValidOne2oneMsgPayload payload = true
  keyLength : payload.ratchetKey.length = cipherSuite.kem.kemCiphertextLen
  adPresent : ad ≠ []
  validRatchet : isValidRatchet ratchet = true
  total : ratchet.rootSequence = 0 →
    ¬ payload.sendingMessageSequence < payload.sequence

theorem ratchetKeyLen_valid (valid : isValidCipherSuite cipherSuite = true) :
    ratchetKeyLen cipherSuite = cipherSuite.kem.kemCiphertextLen := by
  simp [ratchetKeyLen, pqcParam_of_valid valid]

theorem isValidOne2oneMsgPayload_iff (payload : One2oneMsgPayload β) :
    isValidOne2oneMsgPayload payload = true ↔
      payload.ratchetKey ≠ [] ∧ payload.ciphertext ≠ [] := by
  simp [isValidOne2oneMsgPayload]

/-- A valid ratchet has a root key, a whole sender chain, and a private key. -/
theorem isValidRatchet_parts {ratchet : Ratchet β} (valid : isValidRatchet ratchet = true) :
    ratchet.rootKey ≠ [] ∧
      (∃ sender key, ratchet.senderChain = some sender ∧ sender.ourRatchetPublicKey ≠ [] ∧
        sender.theirRatchetPublicKey ≠ [] ∧ sender.chainKey = some key ∧ key.sharedKey ≠ []) ∧
      (∃ receiver, ratchet.receiverChain = some receiver ∧
        receiver.ourRatchetPrivateKey ≠ []) := by
  simp only [isValidRatchet, Bool.and_eq_true, isValidProtobuf_iff, isValidSenderChain_iff,
    isValidChainKey_iff] at valid
  obtain ⟨⟨⟨root, sender, senderChain, ours, theirs, key, chainKey, nonempty⟩, receiver⟩, -⟩ := valid
  refine ⟨root, ⟨sender, key, senderChain, ours, theirs, chainKey, nonempty⟩, ?_⟩
  split at receiver
  · rw [isValidReceiverChain_iff] at receiver
    obtain ⟨chain, present, privateKey, -⟩ := receiver
    exact ⟨chain, present, privateKey⟩
  · cases present : ratchet.receiverChain with
    | none => simp [present] at receiver
    | some chain =>
        rw [present] at receiver
        exact ⟨chain, rfl, (isValidProtobuf_iff _).mp receiver⟩

/-- After the first root step a valid ratchet also has a whole receiver chain. -/
theorem isValidRatchet_receiver {ratchet : Ratchet β} (valid : isValidRatchet ratchet = true)
    (later : 0 < ratchet.rootSequence) :
    ∃ receiver key, ratchet.receiverChain = some receiver ∧
      receiver.ourRatchetPrivateKey ≠ [] ∧ receiver.theirRatchetPublicKey ≠ [] ∧
        receiver.chainKey = some key ∧ key.sharedKey ≠ [] := by
  simp only [isValidRatchet, Bool.and_eq_true] at valid
  obtain ⟨⟨-, receiver⟩, -⟩ := valid
  rw [if_pos later, isValidReceiverChain_iff] at receiver
  obtain ⟨chain, present, privateKey, publicKey, chainKey⟩ := receiver
  obtain ⟨key, keyPresent, nonempty⟩ := (isValidChainKey_iff _).mp chainKey
  exact ⟨chain, key, present, privateKey, publicKey, keyPresent, nonempty⟩

/-- The commit of a new chain, with the list pointer that the previous chain left behind. -/
def renewedRatchet (cipherSuite : CipherSuite β) (ratchet : Ratchet β)
    (payload : One2oneMsgPayload β) (coins privateKey theirKey : Bytes β)
    (list : Option (List (SkippedMsgKeyNode β))) : Ratchet β :=
  let incoming := cipherSuite.kem.decaps privateKey payload.ratchetKey
  let outgoing := cipherSuite.kem.encapsulate coins theirKey
  let middle := cipherSuite.nextRoot ratchet.rootKey incoming
  { ratchet with
    rootKey := cipherSuite.nextRoot middle outgoing.1
    rootSequence := ratchet.rootSequence + 1 + 1
    receiverChain := some {
      theirRatchetPublicKey := payload.ratchetKey
      ourRatchetPrivateKey := privateKey
      chainKey := some ⟨0, cipherSuite.nextChain ratchet.rootKey incoming⟩ }
    senderChain := some {
      ourRatchetPublicKey := outgoing.2
      theirRatchetPublicKey := theirKey
      chainKey := some ⟨0, cipherSuite.nextChain middle outgoing.1⟩ }
    skippedMsgKeyList := list }

/-- The receiver chain after a message was read on it. -/
def readRatchet (cipherSuite : CipherSuite β) (ratchet : Ratchet β)
    (payload : One2oneMsgPayload β) (receiverChain : ReceiverChainNode β) (chainKey : ChainKey β) :
    Ratchet β :=
  let gap := payload.sequence.toNat - chainKey.index.toNat
  { ratchet with
    receiverChain := some { receiverChain with
      chainKey := some ⟨payload.sequence + 1, cipherSuite.advance^[gap + 1] chainKey.sharedKey⟩ }
    skippedMsgKeyList := if gap = 0 then ratchet.skippedMsgKeyList
      else some (ratchet.skipped ++ skippedNodes cipherSuite
        receiverChain.theirRatchetPublicKey chainKey.index chainKey.sharedKey gap) }

/-- A read message stores the keys of its gap, also when there is none. -/
theorem readRatchet_skipped (ratchet : Ratchet β) (payload : One2oneMsgPayload β)
    (receiverChain : ReceiverChainNode β) (chainKey : ChainKey β) :
    (readRatchet cipherSuite ratchet payload receiverChain chainKey).skipped =
      ratchet.skipped ++ skippedNodes cipherSuite receiverChain.theirRatchetPublicKey
        chainKey.index chainKey.sharedKey (payload.sequence.toNat - chainKey.index.toNat) := by
  by_cases none : payload.sequence.toNat - chainKey.index.toNat = 0
  · simp [readRatchet, Ratchet.skipped, none, skippedNodes]
  · simp [readRatchet, Ratchet.skipped, none]

/-- The pointer after the rest of the previous chain was stored. -/
def previousList (cipherSuite : CipherSuite β) (ratchet : Ratchet β)
    (receiverChain : ReceiverChainNode β) (count : Nat) :
    Option (List (SkippedMsgKeyNode β)) :=
  match receiverChain.chainKey with
  | some chainKey =>
      if count = 0 then ratchet.skippedMsgKeyList
      else some (ratchet.skipped ++ skippedNodes cipherSuite
        receiverChain.theirRatchetPublicKey chainKey.index chainKey.sharedKey count)
  | none => ratchet.skippedMsgKeyList

/-- The rest of the previous chain is stored behind the old keys. -/
theorem previousList_skipped (ratchet : Ratchet β) {receiverChain : ReceiverChainNode β}
    {chainKey : ChainKey β} (present : receiverChain.chainKey = some chainKey) (count : Nat) :
    (previousList cipherSuite ratchet receiverChain count).getD [] =
      ratchet.skipped ++ skippedNodes cipherSuite receiverChain.theirRatchetPublicKey
        chainKey.index chainKey.sharedKey count := by
  by_cases zero : count = 0
  · simp [previousList, present, zero, skippedNodes, Ratchet.skipped]
  · simp [previousList, present, zero]

/-- A message opens on the chain that follows the current root key. -/
structure Renewal (cipherSuite : CipherSuite β) (ratchet : Ratchet β) (ad : Bytes β)
    (payload : One2oneMsgPayload β) (receiverChain : ReceiverChainNode β)
    (senderChain : SenderChainNode β) (plaintext : Bytes β) : Prop where
  accepted : Accepted cipherSuite ratchet ad payload
  next : payload.rootSequence = ratchet.rootSequence + 1
  newer : ratchet.rootSequence < payload.rootSequence
  receiver : ratchet.receiverChain = some receiverChain
  sender : ratchet.senderChain = some senderChain
  previousPresent : previousSkippedNum ratchet payload ≠ 0 →
    ∃ chainKey, receiverChain.chainKey = some chainKey
  previousSmall : previousSkippedNum ratchet payload ≤ maxSkippedMessageKeyNodes
  opened : cipherSuite.se.decrypt ad (cipherSuite.messageKey (cipherSuite.advance^[
    payload.sequence.toNat] (cipherSuite.nextChain ratchet.rootKey (cipherSuite.kem.decaps
      receiverChain.ourRatchetPrivateKey payload.ratchetKey)))) payload.ciphertext =
        some plaintext

/-- The ratchet after both chains were replaced. -/
def committedRatchet (cipherSuite : CipherSuite β) (ratchet : Ratchet β)
    (payload : One2oneMsgPayload β) (coins : Bytes β) (receiverChain : ReceiverChainNode β)
    (senderChain : SenderChainNode β) : Ratchet β :=
  renewedRatchet cipherSuite ratchet payload coins receiverChain.ourRatchetPrivateKey
    senderChain.theirRatchetPublicKey
    (previousList cipherSuite ratchet receiverChain (previousSkippedNum ratchet payload))

/-- The ratchet after both chains were replaced and the message was read on the new one. -/
def startedRatchet (cipherSuite : CipherSuite β) (ratchet : Ratchet β)
    (payload : One2oneMsgPayload β) (coins : Bytes β) (receiverChain : ReceiverChainNode β)
    (senderChain : SenderChainNode β) : Ratchet β :=
  let chainKey : ChainKey β := ⟨0, cipherSuite.nextChain ratchet.rootKey
    (cipherSuite.kem.decaps receiverChain.ourRatchetPrivateKey payload.ratchetKey)⟩
  readRatchet cipherSuite
    (committedRatchet cipherSuite ratchet payload coins receiverChain senderChain) payload
    ⟨payload.ratchetKey, receiverChain.ourRatchetPrivateKey, some chainKey⟩ chainKey

/-- A call refuses the message, uses a stored key, reads on the current chain, or starts new chains.
New chains stay installed even when the gap on them is too long for the message. -/
inductive Outcome [DecidableEq β] (cipherSuite : CipherSuite β) (ratchet : Ratchet β)
    (ad : Bytes β) (payload : One2oneMsgPayload β) (coins : Bytes β) :
    Option (Bytes β) → Ratchet β → Prop
  | refused : Outcome cipherSuite ratchet ad payload coins none ratchet
  | allocated (first : ratchet.rootSequence = 0)
      (missing : ∀ chain ∈ ratchet.receiverChain, chain.chainKey = none) :
      Outcome cipherSuite ratchet ad payload coins none
        { ratchet with skippedMsgKeyList := some ratchet.skipped }
  | skipped (accepted : Accepted cipherSuite ratchet ad payload)
      (older : payload.rootSequence < ratchet.rootSequence)
      (before : List (SkippedMsgKeyNode β)) (node : SkippedMsgKeyNode β)
      (after : List (SkippedMsgKeyNode β)) (plaintext : Bytes β)
      (found : useSkippedKey cipherSuite ad payload ratchet.skipped =
        some (plaintext, before ++ after))
      (split : ratchet.skipped = before ++ node :: after)
      (sameIndex : payload.sequence = node.msgKey.index)
      (opened : cipherSuite.se.decrypt ad node.msgKey.derivedKey payload.ciphertext =
        some plaintext) :
      Outcome cipherSuite ratchet ad payload coins (some plaintext)
        { ratchet with skippedMsgKeyList := skippedPointer (before ++ after) }
  | existing (accepted : Accepted cipherSuite ratchet ad payload)
      (current : payload.rootSequence = ratchet.rootSequence - 1)
      (older : payload.rootSequence < ratchet.rootSequence)
      (receiverChain : ReceiverChainNode β) (chainKey : ChainKey β) (plaintext : Bytes β)
      (receiver : ratchet.receiverChain = some receiverChain)
      (sameKey : receiverChain.theirRatchetPublicKey = payload.ratchetKey)
      (present : receiverChain.chainKey = some chainKey)
      (reached : ¬ payload.sequence < chainKey.index)
      (small : payload.sequence.toNat - chainKey.index.toNat ≤ maxSkippedMessageKeyNodes)
      (opened : cipherSuite.se.decrypt ad (cipherSuite.messageKey (cipherSuite.advance^[
        payload.sequence.toNat - chainKey.index.toNat] chainKey.sharedKey)) payload.ciphertext =
          some plaintext) :
      Outcome cipherSuite ratchet ad payload coins (some plaintext)
        (readRatchet cipherSuite ratchet payload receiverChain chainKey)
  | renewed (receiverChain : ReceiverChainNode β) (senderChain : SenderChainNode β)
      (plaintext : Bytes β)
      (renewal : Renewal cipherSuite ratchet ad payload receiverChain senderChain plaintext)
      (near : payload.sequence.toNat ≤ maxSkippedMessageKeyNodes) :
      Outcome cipherSuite ratchet ad payload coins (some plaintext)
        (startedRatchet cipherSuite ratchet payload coins receiverChain senderChain)
  | overrun (receiverChain : ReceiverChainNode β) (senderChain : SenderChainNode β)
      (plaintext : Bytes β)
      (renewal : Renewal cipherSuite ratchet ad payload receiverChain senderChain plaintext)
      (far : maxSkippedMessageKeyNodes < payload.sequence.toNat) :
      Outcome cipherSuite ratchet ad payload coins none
        (committedRatchet cipherSuite ratchet payload coins receiverChain senderChain)

section Inversion

variable [DecidableEq β] {ratchet : Ratchet β} {ad : Bytes β} {payload : One2oneMsgPayload β}

/-- An accepted header selects one of three paths. -/
theorem decryptRoute_some {route : Route}
    (selected : decryptRoute cipherSuite ratchet ad payload = some route) :
    Accepted cipherSuite ratchet ad payload ∧
      ((route = ⟨false, true⟩ ∧ payload.rootSequence < ratchet.rootSequence) ∨
        (∃ receiverChain, ratchet.receiverChain = some receiverChain ∧
          receiverChain.theirRatchetPublicKey = payload.ratchetKey ∧
          payload.rootSequence < ratchet.rootSequence ∧
          payload.rootSequence = ratchet.rootSequence - 1 ∧
          route = ⟨true, receiverChain.chainKey.any fun key => payload.sequence < key.index⟩) ∨
        (route = ⟨false, false⟩ ∧ payload.rootSequence = ratchet.rootSequence + 1 ∧
          payload.rootSequence ≠ ratchet.rootSequence ∧
          ¬ payload.rootSequence < ratchet.rootSequence)) := by
  unfold decryptRoute at selected
  split at selected
  case isFalse => simp at selected
  case isTrue checks =>
    simp only [Bool.and_eq_true, beq_iff_eq, isValidProtobuf_iff] at checks
    obtain ⟨⟨⟨⟨⟨suite, validPayload⟩, length⟩, adPresent⟩, validRatchet⟩, total⟩ := checks
    rw [ratchetKeyLen_valid suite] at length
    refine ⟨⟨suite, validPayload, length, adPresent, validRatchet, ?_⟩, ?_⟩
    · intro zero less
      simp [zero, less] at total
    · split at selected
      case isTrue => simp at selected
      case isFalse different =>
        split at selected
        case isTrue older =>
          split at selected
          case isTrue current =>
            cases receiver : ratchet.receiverChain with
            | none => simp [receiver] at selected
            | some receiverChain =>
                simp only [receiver] at selected
                split at selected
                case isTrue same =>
                  exact Or.inr (Or.inl ⟨receiverChain, rfl, same, older, current,
                    (Option.some.inj selected).symm⟩)
                case isFalse => simp at selected
          case isFalse => exact Or.inl ⟨(Option.some.inj selected).symm, older⟩
        case isFalse later =>
          split at selected
          case isTrue next =>
            exact Or.inr (Or.inr ⟨(Option.some.inj selected).symm, next, different, later⟩)
          case isFalse => simp at selected

/-- The search compares the index and the leading bytes of the ratchet key. -/
def NamesNode (cipherSuite : CipherSuite β) (payload : One2oneMsgPayload β)
    (node : SkippedMsgKeyNode β) : Prop :=
  payload.sequence = node.msgKey.index ∧
    node.ratchetKeyPublic.take (ratchetKeyLen cipherSuite) =
      payload.ratchetKey.take (ratchetKeyLen cipherSuite)

/-- The search splits the list at the first named key that opens the message. -/
theorem useSkippedKey_entry {list rest : List (SkippedMsgKeyNode β)} {plaintext : Bytes β}
    (found : useSkippedKey cipherSuite ad payload list = some (plaintext, rest)) :
    ∃ before node after, list = before ++ node :: after ∧ rest = before ++ after ∧
      NamesNode cipherSuite payload node ∧
      verifyAndDecrypt cipherSuite ad node.msgKey payload = some plaintext := by
  induction list generalizing rest with
  | nil => simp [useSkippedKey] at found
  | cons head tail ih =>
      simp only [useSkippedKey] at found
      split at found
      case h_1 opened trial =>
        rw [Option.some.injEq, Prod.mk.injEq] at found
        obtain ⟨rfl, rfl⟩ := found
        split at trial
        case isTrue matched => exact ⟨[], head, tail, rfl, rfl, matched, trial⟩
        case isFalse => cases trial
      case h_2 =>
        obtain ⟨⟨inner, remaining⟩, later, same⟩ := Option.map_eq_some_iff.mp found
        rw [Prod.mk.injEq] at same
        obtain ⟨rfl, rfl⟩ := same
        obtain ⟨before, node, after, split, joined, named, opened⟩ := ih later
        subst split joined
        exact ⟨head :: before, node, after, rfl, rfl, named, opened⟩

omit [DecidableEq β] in
theorem verifyAndDecrypt_some {messageKey : MsgKey β} {plaintext : Bytes β}
    (opened : verifyAndDecrypt cipherSuite ad messageKey payload = some plaintext) :
    cipherSuite.se.decrypt ad messageKey.derivedKey payload.ciphertext = some plaintext := by
  unfold verifyAndDecrypt at opened
  split at opened
  · exact opened
  · cases opened

/-- The search splits the list at the key that opened the message. -/
theorem useSkippedKey_some {list rest : List (SkippedMsgKeyNode β)} {plaintext : Bytes β}
    (found : useSkippedKey cipherSuite ad payload list = some (plaintext, rest)) :
    ∃ before node after, list = before ++ node :: after ∧ rest = before ++ after ∧
      payload.sequence = node.msgKey.index ∧
      cipherSuite.se.decrypt ad node.msgKey.derivedKey payload.ciphertext = some plaintext := by
  obtain ⟨before, node, after, split, joined, named, opened⟩ := useSkippedKey_entry found
  exact ⟨before, node, after, split, joined, named.1, verifyAndDecrypt_some opened⟩

/-- The path over a stored key removes exactly that key. -/
theorem decryptSkipped_outcome (coins : Bytes β) (current : Bool)
    (accepted : Accepted cipherSuite ratchet ad payload)
    (older : payload.rootSequence < ratchet.rootSequence)
    (behind : current = true → ∃ receiverChain chainKey,
      ratchet.receiverChain = some receiverChain ∧ receiverChain.chainKey = some chainKey ∧
        payload.sequence < chainKey.index) :
    Outcome cipherSuite ratchet ad payload coins
      (decryptSkipped cipherSuite ratchet ad payload current).1
      (decryptSkipped cipherSuite ratchet ad payload current).2 := by
  unfold decryptSkipped
  cases search : useSkippedKey cipherSuite ad payload ratchet.skipped with
  | none => exact .refused
  | some pair =>
      obtain ⟨plaintext, rest⟩ := pair
      obtain ⟨before, node, after, split, joined, sameIndex, opened⟩ := useSkippedKey_some search
      subst joined
      cases current with
      | false =>
          exact .skipped accepted older before node after plaintext search split sameIndex opened
      | true =>
          obtain ⟨receiverChain, chainKey, receiver, present, less⟩ := behind rfl
          have stored : storeCurrentChain cipherSuite { ratchet with
              skippedMsgKeyList := skippedPointer (before ++ after) } payload =
                (true, { ratchet with skippedMsgKeyList := skippedPointer (before ++ after) }) :=
            storeCurrentChain_behind receiver present less
          dsimp only
          rw [if_pos rfl, stored]
          exact .skipped accepted older before node after plaintext search split sameIndex opened

/-- The path over the current chain reads the message or finds the gap too long. -/
theorem decryptExisting_outcome (sized : ratchet.Sized cipherSuite) (coins : Bytes β)
    (accepted : Accepted cipherSuite ratchet ad payload)
    (current : payload.rootSequence = ratchet.rootSequence - 1)
    (older : payload.rootSequence < ratchet.rootSequence) {receiverChain : ReceiverChainNode β}
    (receiver : ratchet.receiverChain = some receiverChain)
    (sameKey : receiverChain.theirRatchetPublicKey = payload.ratchetKey) :
    Outcome cipherSuite ratchet ad payload coins
      (decryptExisting cipherSuite ratchet ad payload).1
      (decryptExisting cipherSuite ratchet ad payload).2 := by
  unfold decryptExisting
  simp only [receiver, Option.bind_some]
  cases trial : verifyAndDecryptForExistingChain cipherSuite ad receiverChain.chainKey payload with
  | none => exact .refused
  | some plaintext =>
      obtain ⟨chainKey, present, reached, -⟩ := verifyAndDecryptForExistingChain_some trial
      have full : cipherSuite.FullKey chainKey.sharedKey :=
        sized.receiver receiverChain (by simp [receiver]) chainKey (by simp [present])
      rw [present, verifyAndDecryptForExistingChain_full accepted.suite accepted.adPresent
        accepted.validPayload full reached] at trial
      by_cases small :
          payload.sequence.toNat - chainKey.index.toNat ≤ maxSkippedMessageKeyNodes
      · have stored := storeCurrentChain_full accepted.suite receiver present full reached small
        dsimp only
        rw [stored]
        exact .existing accepted current older receiverChain chainKey plaintext receiver sameKey
          present reached small trial
      · dsimp only
        rw [storeCurrentChain_far receiver present (by omega)]
        exact .refused

omit [DecidableEq β] in
/-- The rest of the previous chain is stored when its chain key is present and the gap is small. -/
theorem storePreviousChain_full (suite : isValidCipherSuite cipherSuite = true)
    (sized : ratchet.Sized cipherSuite) {receiverChain : ReceiverChainNode β}
    (receiver : ratchet.receiverChain = some receiverChain)
    (previousPresent : previousSkippedNum ratchet payload ≠ 0 →
      ∃ chainKey, receiverChain.chainKey = some chainKey)
    (small : previousSkippedNum ratchet payload ≤ maxSkippedMessageKeyNodes) :
    ∃ lastKey, storePreviousChain cipherSuite ratchet payload = (true, { ratchet with
      receiverChain := some { receiverChain with chainKey := lastKey }
      skippedMsgKeyList := previousList cipherSuite ratchet receiverChain
        (previousSkippedNum ratchet payload) }) := by
  by_cases zero : previousSkippedNum ratchet payload = 0
  · refine ⟨receiverChain.chainKey, ?_⟩
    have same : previousList cipherSuite ratchet receiverChain 0 = ratchet.skippedMsgKeyList := by
      unfold previousList
      split <;> simp
    simp only [storePreviousChain, zero, if_true, same, ← receiver]
  · obtain ⟨chainKey, present⟩ := previousPresent zero
    have full : cipherSuite.FullKey chainKey.sharedKey :=
      sized.receiver receiverChain (by simp [receiver]) chainKey (by simp [present])
    have stored := storeSkippedKeys_full suite receiverChain.theirRatchetPublicKey
      (previousSkippedNum ratchet payload) chainKey.index full ratchet.skipped
    have within : ¬ previousSkippedNum ratchet payload > maxSkippedMessageKeyNodes := by omega
    refine ⟨some ⟨chainKey.index + UInt32.ofNat (previousSkippedNum ratchet payload),
      cipherSuite.advance^[previousSkippedNum ratchet payload] chainKey.sharedKey⟩, ?_⟩
    simp only [storePreviousChain, zero, within, receiver, present, if_false, stored, previousList]

omit [DecidableEq β] in
/-- Without a chain key only the list pointer is allocated. -/
theorem storePreviousChain_missing {receiverChain : ReceiverChainNode β}
    (receiver : ratchet.receiverChain = some receiverChain)
    (missing : receiverChain.chainKey = none)
    (positive : previousSkippedNum ratchet payload ≠ 0)
    (small : previousSkippedNum ratchet payload ≤ maxSkippedMessageKeyNodes) :
    storePreviousChain cipherSuite ratchet payload =
      (false, { ratchet with skippedMsgKeyList := some ratchet.skipped }) := by
  have within : ¬ previousSkippedNum ratchet payload > maxSkippedMessageKeyNodes := by omega
  have unchanged : some { receiverChain with chainKey := none } = ratchet.receiverChain := by
    rw [receiver, ← missing]
  simp only [storePreviousChain, positive, within, receiver, missing, if_false,
    storeSkippedKeys_missing _ _ positive]
  rw [unchanged, ← receiver]

omit [DecidableEq β] in
/-- The trial of a new chain tries the key at the sequence of the message. -/
theorem verifyAndDecryptForNewChain_full (accepted : Accepted cipherSuite ratchet ad payload)
    (sized : ratchet.Sized cipherSuite) (nonzero : payload.rootSequence ≠ 0)
    (distance : payload.rootSequence.toNat - ratchet.rootSequence.toNat = 1)
    {receiverChain : ReceiverChainNode β} (receiver : ratchet.receiverChain = some receiverChain) :
    verifyAndDecryptForNewChain cipherSuite ratchet ad payload =
      cipherSuite.se.decrypt ad (cipherSuite.messageKey (cipherSuite.advance^[
        payload.sequence.toNat] (cipherSuite.nextChain ratchet.rootKey (cipherSuite.kem.decaps
          receiverChain.ourRatchetPrivateKey payload.ratchetKey)))) payload.ciphertext := by
  have theirs := ((isValidOne2oneMsgPayload_iff payload).mp accepted.validPayload).1
  obtain ⟨-, -, receiverChain', receiver', ours⟩ := isValidRatchet_parts accepted.validRatchet
  rw [receiver, Option.some.injEq] at receiver'
  subst receiver'
  simp only [verifyAndDecryptForNewChain, receiver, distance,
    trialChain_one accepted.suite sized.root ours theirs]
  rw [if_pos]
  · exact verifyAndDecryptForExistingChain_full accepted.suite accepted.adPresent
      accepted.validPayload (nextChain_full _ _) (by simp)
  · simp [accepted.suite, accepted.adPresent, accepted.validRatchet, accepted.validPayload,
      nonzero, accepted.keyLength, ratchetKeyLen_valid accepted.suite]

omit [DecidableEq β] in
/-- A message that opens on the next chain installs the new chains, and is read on them unless it is
too far ahead. -/
theorem decryptNew_full (sized : ratchet.Sized cipherSuite) (coins : Bytes β)
    {receiverChain : ReceiverChainNode β} {senderChain : SenderChainNode β} {plaintext : Bytes β}
    (renewal : Renewal cipherSuite ratchet ad payload receiverChain senderChain plaintext) :
    decryptNew cipherSuite ratchet ad payload coins =
      if payload.sequence.toNat ≤ maxSkippedMessageKeyNodes then
        (some plaintext, startedRatchet cipherSuite ratchet payload coins receiverChain senderChain)
      else (none, committedRatchet cipherSuite ratchet payload coins receiverChain senderChain) := by
  obtain ⟨accepted, next, newer, receiver, sender, previousPresent, small, opened⟩ := renewal
  obtain ⟨-, ⟨senderChain', senderKey, sender', -, peer, -, -⟩, receiverChain', receiver', ours⟩ :=
    isValidRatchet_parts accepted.validRatchet
  rw [receiver, Option.some.injEq] at receiver'
  subst receiver'
  rw [sender, Option.some.injEq] at sender'
  subst sender'
  have theirs := ((isValidOne2oneMsgPayload_iff payload).mp accepted.validPayload).1
  obtain ⟨nonzero, distance⟩ := rootSequence_ahead next newer
  have trial := verifyAndDecryptForNewChain_full accepted sized nonzero distance receiver
  rw [opened] at trial
  obtain ⟨lastKey, stored⟩ := storePreviousChain_full accepted.suite sized receiver previousPresent
    small
  have committed := commitNewChains_full accepted.suite { ratchet with
    receiverChain := some { receiverChain with chainKey := lastKey }
    skippedMsgKeyList := previousList cipherSuite ratchet receiverChain
      (previousSkippedNum ratchet payload) } payload coins rfl sender sized.root ours theirs peer
  simp only [decryptNew, trial, stored, if_true]
  rw [committed]
  by_cases near : payload.sequence.toNat ≤ maxSkippedMessageKeyNodes
  · rw [storeCurrentChain_full accepted.suite rfl rfl (nextChain_full _ _) (by simp)
      (by simpa using near), if_pos near]
    rfl
  · rw [storeCurrentChain_far rfl rfl (by simpa using near), if_neg near]
    rfl

/-- The path over a new chain refuses the message or installs the new chains. -/
theorem decryptNew_outcome (sized : ratchet.Sized cipherSuite) (coins : Bytes β)
    (accepted : Accepted cipherSuite ratchet ad payload)
    (next : payload.rootSequence = ratchet.rootSequence + 1)
    (newer : ratchet.rootSequence < payload.rootSequence) :
    Outcome cipherSuite ratchet ad payload coins
      (decryptNew cipherSuite ratchet ad payload coins).1
      (decryptNew cipherSuite ratchet ad payload coins).2 := by
  obtain ⟨-, ⟨senderChain, senderKey, sender, -⟩, receiverChain, receiver, ours⟩ :=
    isValidRatchet_parts accepted.validRatchet
  cases trial : verifyAndDecryptForNewChain cipherSuite ratchet ad payload with
  | none =>
      simp only [decryptNew, trial]
      exact .refused
  | some plaintext =>
      by_cases far : previousSkippedNum ratchet payload > maxSkippedMessageKeyNodes
      · have refused : storePreviousChain cipherSuite ratchet payload = (false, ratchet) := by
          have positive : previousSkippedNum ratchet payload ≠ 0 := by omega
          simp [storePreviousChain, positive, far]
        simp only [decryptNew, trial, refused]
        exact .refused
      · by_cases missing : previousSkippedNum ratchet payload ≠ 0 ∧ receiverChain.chainKey = none
        · have allocated : storePreviousChain cipherSuite ratchet payload =
              (false, { ratchet with skippedMsgKeyList := some ratchet.skipped }) :=
            storePreviousChain_missing receiver missing.2 missing.1 (by omega)
          simp only [decryptNew, trial, allocated]
          refine .allocated ?_ ?_
          · by_contra later
            obtain ⟨chain, key, found, -, -, foundKey, -⟩ :=
              isValidRatchet_receiver accepted.validRatchet (UInt32.pos_iff_ne_zero.mpr later)
            rw [receiver, Option.some.injEq] at found
            subst found
            simp [missing.2] at foundKey
          · intro chain member
            rw [receiver, Option.mem_some_iff] at member
            rw [← member, missing.2]
        · obtain ⟨nonzero, distance⟩ := rootSequence_ahead next newer
          rw [verifyAndDecryptForNewChain_full accepted sized nonzero distance receiver] at trial
          have renewal : Renewal cipherSuite ratchet ad payload receiverChain senderChain
              plaintext := by
            refine ⟨accepted, next, newer, receiver, sender, ?_, by omega, trial⟩
            intro positive
            rw [← Option.ne_none_iff_exists']
            exact fun absent => missing ⟨positive, absent⟩
          rw [decryptNew_full sized coins renewal]
          by_cases near : payload.sequence.toNat ≤ maxSkippedMessageKeyNodes
          · rw [if_pos near]
            exact .renewed receiverChain senderChain plaintext renewal near
          · rw [if_neg near]
            exact .overrun receiverChain senderChain plaintext renewal (by omega)

/-- Every call ends in one of the listed outcomes. -/
theorem decryptBody_outcome (sized : ratchet.Sized cipherSuite) (coins : Bytes β) :
    Outcome cipherSuite ratchet ad payload coins
      (decryptBody cipherSuite ratchet ad payload coins).1
      (decryptBody cipherSuite ratchet ad payload coins).2 := by
  unfold decryptBody
  cases selected : decryptRoute cipherSuite ratchet ad payload with
  | none => exact .refused
  | some route =>
      obtain ⟨accepted, old | current | new⟩ := decryptRoute_some selected
      · obtain ⟨rfl, older⟩ := old
        exact decryptSkipped_outcome coins false accepted older (by simp)
      · obtain ⟨receiverChain, receiver, sameKey, older, current, rfl⟩ := current
        have positive : 0 < ratchet.rootSequence := by
          rw [UInt32.lt_iff_toNat_lt] at older ⊢
          exact Nat.lt_of_le_of_lt (Nat.zero_le _) older
        obtain ⟨chain, chainKey, found, -, -, present, -⟩ :=
          isValidRatchet_receiver accepted.validRatchet positive
        rw [receiver, Option.some.injEq] at found
        subst found
        simp only [present, Option.any_some]
        by_cases behind : payload.sequence < chainKey.index
        · simp only [behind, decide_true, if_true]
          exact decryptSkipped_outcome coins true accepted older
            (fun _ => ⟨receiverChain, chainKey, receiver, present, behind⟩)
        · simp only [behind, decide_false, Bool.false_eq_true, if_false, if_true]
          exact decryptExisting_outcome sized coins accepted current older receiver sameKey
      · obtain ⟨rfl, next, different, later⟩ := new
        refine decryptNew_outcome sized coins accepted next ?_
        rw [UInt32.lt_iff_toNat_lt] at later ⊢
        have unequal : payload.rootSequence.toNat ≠ ratchet.rootSequence.toNat :=
          fun same => different (UInt32.toNat_inj.mp same)
        omega

/-- The new root key and sender chain after a message on a new chain. -/
structure Renewed (cipherSuite : CipherSuite β) (ratchet : Ratchet β) (ad : Bytes β)
    (payload : One2oneMsgPayload β) (coins : Bytes β) (receiverChain : ReceiverChainNode β)
    (senderChain : SenderChainNode β) (plaintext : Bytes β) (after : Ratchet β) : Prop where
  renewal : Renewal cipherSuite ratchet ad payload receiverChain senderChain plaintext
  rootKey : after.rootKey = cipherSuite.nextRoot (cipherSuite.nextRoot ratchet.rootKey
    (cipherSuite.kem.decaps receiverChain.ourRatchetPrivateKey payload.ratchetKey))
    (cipherSuite.kem.encapsulate coins senderChain.theirRatchetPublicKey).1
  rootSequence : after.rootSequence = ratchet.rootSequence + 1 + 1
  senderChain : after.senderChain = some {
    ourRatchetPublicKey := (cipherSuite.kem.encapsulate coins senderChain.theirRatchetPublicKey).2
    theirRatchetPublicKey := senderChain.theirRatchetPublicKey
    chainKey := some ⟨0, cipherSuite.nextChain (cipherSuite.nextRoot ratchet.rootKey
      (cipherSuite.kem.decaps receiverChain.ourRatchetPrivateKey payload.ratchetKey))
      (cipherSuite.kem.encapsulate coins senderChain.theirRatchetPublicKey).1⟩ }

/-- The root key and the sender chain change only together and only on a new chain. -/
structure Framed (cipherSuite : CipherSuite β) (ratchet : Ratchet β) (ad : Bytes β)
    (payload : One2oneMsgPayload β) (coins : Bytes β) (after : Ratchet β) : Prop where
  sized : after.Sized cipherSuite
  total : after.sendingMessageSequence = ratchet.sendingMessageSequence
  privateKey : (after.receiverChain.map fun chain => chain.ourRatchetPrivateKey) =
    ratchet.receiverChain.map fun chain => chain.ourRatchetPrivateKey
  roots : (after.rootKey = ratchet.rootKey ∧ after.rootSequence = ratchet.rootSequence ∧
      after.senderChain = ratchet.senderChain) ∨
    ∃ receiverChain senderChain plaintext, Renewed cipherSuite ratchet ad payload coins
      receiverChain senderChain plaintext after

omit [DecidableEq β] in
theorem readRatchet_sized (sized : ratchet.Sized cipherSuite) (payload : One2oneMsgPayload β)
    (receiverChain : ReceiverChainNode β) (chainKey : ChainKey β)
    (full : cipherSuite.FullKey chainKey.sharedKey) :
    (readRatchet cipherSuite ratchet payload receiverChain chainKey).Sized cipherSuite where
  root := sized.root
  sender := sized.sender
  receiver chain member key present := by
    simp only [readRatchet, Option.mem_some_iff] at member
    subst member
    simp only [Option.mem_some_iff] at present
    subst present
    exact advance_iterate_full full _

omit [DecidableEq β] in
theorem committedRatchet_sized (ratchet : Ratchet β) (payload : One2oneMsgPayload β)
    (coins : Bytes β) (receiverChain : ReceiverChainNode β) (senderChain : SenderChainNode β) :
    (committedRatchet cipherSuite ratchet payload coins receiverChain senderChain).Sized
      cipherSuite where
  root := nextRoot_full _ _
  sender chain member key present := by
    simp only [committedRatchet, renewedRatchet, Option.mem_some_iff] at member
    subst member
    simp only [Option.mem_some_iff] at present
    subst present
    exact nextChain_full _ _
  receiver chain member key present := by
    simp only [committedRatchet, renewedRatchet, Option.mem_some_iff] at member
    subst member
    simp only [Option.mem_some_iff] at present
    subst present
    exact nextChain_full _ _

/-- Every call stays within the frame. -/
theorem decryptRatchet_frame (sized : ratchet.Sized cipherSuite) (ad : Bytes β)
    (payload : One2oneMsgPayload β) (coins : Bytes β) :
    Framed cipherSuite ratchet ad payload coins
      (decryptRatchet cipherSuite ratchet ad payload coins).2 := by
  have outcome : Outcome cipherSuite ratchet ad payload coins _ _ :=
    decryptBody_outcome sized coins
  simp only [decryptRatchet, closeDecrypt_eq]
  generalize (decryptBody cipherSuite ratchet ad payload coins).1 = result at outcome
  generalize (decryptBody cipherSuite ratchet ad payload coins).2 = after at outcome
  cases outcome with
  | refused => exact ⟨⟨sized.1, sized.2, sized.3⟩, rfl, rfl, Or.inl ⟨rfl, rfl, rfl⟩⟩
  | allocated => exact ⟨⟨sized.1, sized.2, sized.3⟩, rfl, rfl, Or.inl ⟨rfl, rfl, rfl⟩⟩
  | skipped => exact ⟨⟨sized.1, sized.2, sized.3⟩, rfl, rfl, Or.inl ⟨rfl, rfl, rfl⟩⟩
  | existing _ _ _ receiverChain chainKey _ receiver _ present =>
      have read := readRatchet_sized sized payload receiverChain chainKey
        (sized.receiver receiverChain (by simp [receiver]) chainKey (by simp [present]))
      refine ⟨⟨read.1, read.2, read.3⟩, rfl, ?_, Or.inl ⟨rfl, rfl, rfl⟩⟩
      simp [readRatchet, receiver]
  | renewed receiverChain senderChain plaintext renewal =>
      have read := readRatchet_sized (committedRatchet_sized ratchet payload coins receiverChain
        senderChain) payload ⟨payload.ratchetKey, receiverChain.ourRatchetPrivateKey, some ⟨0,
          cipherSuite.nextChain ratchet.rootKey (cipherSuite.kem.decaps
            receiverChain.ourRatchetPrivateKey payload.ratchetKey)⟩⟩
        ⟨0, cipherSuite.nextChain ratchet.rootKey (cipherSuite.kem.decaps
          receiverChain.ourRatchetPrivateKey payload.ratchetKey)⟩ (nextChain_full _ _)
      refine ⟨⟨read.1, read.2, read.3⟩, rfl, ?_, Or.inr ⟨receiverChain, senderChain, plaintext,
        renewal, rfl, rfl, rfl⟩⟩
      simp [startedRatchet, readRatchet, renewal.receiver]
  | overrun receiverChain senderChain plaintext renewal =>
      have committed : (committedRatchet cipherSuite ratchet payload coins receiverChain
        senderChain).Sized cipherSuite := committedRatchet_sized _ _ _ _ _
      refine ⟨⟨committed.1, committed.2, committed.3⟩, rfl, ?_, Or.inr ⟨receiverChain, senderChain,
        plaintext, renewal, rfl, rfl, rfl⟩⟩
      simp [committedRatchet, renewedRatchet, renewal.receiver]

end Inversion

end E2eeSecurity
