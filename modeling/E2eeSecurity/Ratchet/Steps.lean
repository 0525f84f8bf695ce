/-
This file states what each part of a ratchet operation does on keys of full length.
-/
import E2eeSecurity.Ratchet.Operations

namespace E2eeSecurity

variable {β : Type} {cipherSuite : CipherSuite β}

/-- These are the stored keys of consecutive messages of one chain. -/
def skippedNodes (cipherSuite : CipherSuite β) (ratchetKey : Bytes β) (index : UInt32)
    (key : Bytes β) (count : Nat) : List (SkippedMsgKeyNode β) :=
  (List.range count).map fun offset => ⟨ratchetKey, ⟨index + UInt32.ofNat offset,
    cipherSuite.messageKey (cipherSuite.advance^[offset] key)⟩⟩

theorem skippedNodes_succ (ratchetKey : Bytes β) (index : UInt32) (key : Bytes β) (count : Nat) :
    skippedNodes cipherSuite ratchetKey index key (count + 1) =
      ⟨ratchetKey, ⟨index, cipherSuite.messageKey key⟩⟩ ::
        skippedNodes cipherSuite ratchetKey (index + 1) (cipherSuite.advance key) count := by
  simp only [skippedNodes, List.range_succ_eq_map, List.map_cons, List.map_map]
  congr 1
  · simp
  · apply List.map_congr_left
    intro offset _
    simp only [Function.comp_apply, Nat.succ_eq_add_one, Function.iterate_succ_apply,
      UInt32.ofNat_add]
    rw [UInt32.add_assoc, UInt32.add_comm 1]
    rfl

/-- The insertion loop stores consecutive keys and moves the chain past them. -/
theorem storeSkippedKeys_full (valid : isValidCipherSuite cipherSuite = true)
    (ratchetKey : Bytes β) (count : Nat) (index : UInt32) {key : Bytes β}
    (full : cipherSuite.FullKey key) (list : List (SkippedMsgKeyNode β)) :
    storeSkippedKeys cipherSuite ratchetKey count (some ⟨index, key⟩) list =
      (true, some ⟨index + UInt32.ofNat count, cipherSuite.advance^[count] key⟩,
        list ++ skippedNodes cipherSuite ratchetKey index key count) := by
  induction count generalizing index key list with
  | zero => simp [storeSkippedKeys, skippedNodes]
  | succ count ih =>
      simp only [storeSkippedKeys, createMsgKeys_full valid index full, advanceChainKey_full valid index full,
        ih _ (advance_full key), skippedNodes_succ, Function.iterate_succ_apply,
        List.append_assoc, List.cons_append, List.nil_append]
      rw [UInt32.ofNat_add, UInt32.add_assoc, UInt32.add_comm 1]
      rfl

theorem storeSkippedKeys_missing (ratchetKey : Bytes β) (count : Nat) (positive : count ≠ 0)
    (list : List (SkippedMsgKeyNode β)) :
    storeSkippedKeys cipherSuite ratchetKey count none list = (false, none, list) := by
  cases count with
  | zero => exact absurd rfl positive
  | succ count => simp [storeSkippedKeys, createMsgKeys, isValidChainKey]

/-- A trial on the existing chain tries the key at the sequence of the message. -/
theorem verifyAndDecryptForExistingChain_full (valid : isValidCipherSuite cipherSuite = true)
    {ad : Bytes β} {payload : One2oneMsgPayload β} (adPresent : ad ≠ [])
    (validPayload : isValidOne2oneMsgPayload payload = true) {index : UInt32} {key : Bytes β}
    (full : cipherSuite.FullKey key) (reached : ¬ payload.sequence < index) :
    verifyAndDecryptForExistingChain cipherSuite ad (some ⟨index, key⟩) payload =
      cipherSuite.se.decrypt ad (cipherSuite.messageKey
        (cipherSuite.advance^[payload.sequence.toNat - index.toNat] key)) payload.ciphertext := by
  have later : cipherSuite.FullKey
      (cipherSuite.advance^[payload.sequence.toNat - index.toNat] key) :=
    advance_iterate_full full _
  simp [verifyAndDecryptForExistingChain, valid, adPresent, isValidChainKey, full.nonempty,
    validPayload, reached, advanceChainKeyTimes_full valid _ full, createMsgKeys_full valid _ later,
    verifyAndDecrypt, isValidMsgKey, messageKey_nonempty]

/-- A successful trial on the existing chain shows the key that opened the message. -/
theorem verifyAndDecryptForExistingChain_some {ad : Bytes β} {payload : One2oneMsgPayload β}
    {chain : Option (ChainKey β)} {plaintext : Bytes β}
    (opened : verifyAndDecryptForExistingChain cipherSuite ad chain payload = some plaintext) :
    ∃ chainKey, chain = some chainKey ∧ ¬ payload.sequence < chainKey.index ∧ ad ≠ [] ∧
      isValidCipherSuite cipherSuite = true ∧ isValidOne2oneMsgPayload payload = true := by
  unfold verifyAndDecryptForExistingChain at opened
  cases chain with
  | none => simp at opened
  | some chainKey =>
      dsimp only at opened
      split at opened
      case isTrue checks =>
        simp only [Bool.and_eq_true, Bool.not_eq_true', decide_eq_false_iff_not,
          isValidProtobuf_iff] at checks
        exact ⟨chainKey, rfl, checks.2, checks.1.1.1.2, checks.1.1.1.1, checks.1.2⟩
      case isFalse => simp at opened

/-- The next root sequence is one step ahead, so the trial takes one root step. -/
theorem rootSequence_ahead {ours coming : UInt32} (next : coming = ours + 1)
    (newer : ours < coming) : coming ≠ 0 ∧ coming.toNat - ours.toNat = 1 := by
  subst next
  have bound := ours.toNat_lt
  have offset : (1 : UInt32).toNat = 1 := rfl
  rw [UInt32.lt_iff_toNat_lt, UInt32.toNat_add, offset] at newer
  constructor
  · intro zero
    have zeroNat : (ours + 1).toNat = 0 := by rw [zero]; rfl
    rw [UInt32.toNat_add, offset] at zeroNat
    omega
  · rw [UInt32.toNat_add, offset]
    omega

/-- The two root steps of a commit never lead back to the same root sequence. -/
theorem rootSequence_moved (rootSequence : UInt32) :
    rootSequence + 1 + 1 ≠ rootSequence := by
  intro same
  have values := congrArg UInt32.toNat same
  have bound := rootSequence.toNat_lt
  rw [UInt32.toNat_add, UInt32.toNat_add] at values
  have one : (1 : UInt32).toNat = 1 := rfl
  omega

/-- The two root steps of a commit add two when they do not lead below the root sequence. -/
theorem toNat_rootSequence_moved {rootSequence : UInt32}
    (rises : rootSequence ≤ rootSequence + 1 + 1) :
    (rootSequence + 1 + 1).toNat = rootSequence.toNat + 2 := by
  have bound := rootSequence.toNat_lt
  have one : (1 : UInt32).toNat = 1 := rfl
  rw [UInt32.le_iff_toNat_le, UInt32.toNat_add, UInt32.toNat_add, one] at rises
  rw [UInt32.toNat_add, UInt32.toNat_add, one]
  omega

/-- One turn of the trial derives the chain of the received ratchet key. -/
theorem trialChain_one (valid : isValidCipherSuite cipherSuite = true)
    {rootKey privateKey theirKey : Bytes β} (full : cipherSuite.FullKey rootKey)
    (ours : privateKey ≠ []) (theirs : theirKey ≠ []) :
    trialChain cipherSuite privateKey theirKey 1 (rootKey, ChainKey.initial) =
      (cipherSuite.nextRoot rootKey (cipherSuite.kem.decaps privateKey theirKey),
        ⟨0, cipherSuite.nextChain rootKey (cipherSuite.kem.decaps privateKey theirKey)⟩) := by
  simp [trialChain, createChainKey_decaps_full valid full ours theirs]

/-- The commit installs the received chain and a fresh sender chain. -/
theorem commitNewChains_full (valid : isValidCipherSuite cipherSuite = true)
    (ratchet : Ratchet β) (payload : One2oneMsgPayload β) (coins : Bytes β)
    {receiverChain : ReceiverChainNode β} {senderChain : SenderChainNode β}
    (receiver : ratchet.receiverChain = some receiverChain)
    (sender : ratchet.senderChain = some senderChain)
    (full : cipherSuite.FullKey ratchet.rootKey)
    (ours : receiverChain.ourRatchetPrivateKey ≠ []) (theirs : payload.ratchetKey ≠ [])
    (peer : senderChain.theirRatchetPublicKey ≠ []) :
    let incoming := cipherSuite.kem.decaps receiverChain.ourRatchetPrivateKey payload.ratchetKey
    let outgoing := cipherSuite.kem.encapsulate coins senderChain.theirRatchetPublicKey
    let middle := cipherSuite.nextRoot ratchet.rootKey incoming
    commitNewChains cipherSuite ratchet payload coins = { ratchet with
      rootKey := cipherSuite.nextRoot middle outgoing.1
      rootSequence := ratchet.rootSequence + 1 + 1
      receiverChain := some {
        theirRatchetPublicKey := payload.ratchetKey
        ourRatchetPrivateKey := receiverChain.ourRatchetPrivateKey
        chainKey := some ⟨0, cipherSuite.nextChain ratchet.rootKey incoming⟩ }
      senderChain := some {
        ourRatchetPublicKey := outgoing.2
        theirRatchetPublicKey := senderChain.theirRatchetPublicKey
        chainKey := some ⟨0, cipherSuite.nextChain middle outgoing.1⟩ } } := by
  have received := createChainKey_decaps_full valid full ours theirs []
  have middleFull : cipherSuite.FullKey (cipherSuite.nextRoot ratchet.rootKey
      (cipherSuite.kem.decaps receiverChain.ourRatchetPrivateKey payload.ratchetKey)) :=
    nextRoot_full _ _
  have sending := createChainKey_full valid middleFull peer coins
  simp [commitNewChains, receiver, sender, received, sending, pqcParam_of_valid valid]

/-- The current chain stores the gap and moves past the message. -/
theorem storeCurrentChain_full (valid : isValidCipherSuite cipherSuite = true)
    {ratchet : Ratchet β} {payload : One2oneMsgPayload β} {receiverChain : ReceiverChainNode β}
    {index : UInt32} {key : Bytes β} (receiver : ratchet.receiverChain = some receiverChain)
    (chainKey : receiverChain.chainKey = some ⟨index, key⟩) (full : cipherSuite.FullKey key)
    (reached : ¬ payload.sequence < index)
    (small : payload.sequence.toNat - index.toNat ≤ maxSkippedMessageKeyNodes) :
    let gap := payload.sequence.toNat - index.toNat
    storeCurrentChain cipherSuite ratchet payload = (true, { ratchet with
      receiverChain := some { receiverChain with
        chainKey := some ⟨payload.sequence + 1, cipherSuite.advance^[gap + 1] key⟩ }
      skippedMsgKeyList := if gap = 0 then ratchet.skippedMsgKeyList
        else some (ratchet.skipped ++ skippedNodes cipherSuite
          receiverChain.theirRatchetPublicKey index key gap) }) := by
  intro gap
  have last : index + UInt32.ofNat gap = payload.sequence := by
    have ordered : index.toNat ≤ payload.sequence.toNat := by
      rw [UInt32.lt_iff_toNat_lt] at reached
      omega
    apply UInt32.toNat_inj.mp
    have bound := payload.sequence.toNat_lt
    rw [UInt32.toNat_add, UInt32.toNat_ofNat']
    omega
  have later : cipherSuite.FullKey (cipherSuite.advance^[gap] key) := advance_iterate_full full _
  have moved : advanceChainKey cipherSuite
      (some ⟨payload.sequence, cipherSuite.advance^[gap] key⟩) =
        some ⟨payload.sequence + 1, cipherSuite.advance (cipherSuite.advance^[gap] key)⟩ :=
    advanceChainKey_full valid payload.sequence later
  have within : ¬ gap > maxSkippedMessageKeyNodes := by omega
  simp only [storeCurrentChain, receiver, chainKey]
  rw [if_neg within]
  simp only [storeSkippedKeys_full valid receiverChain.theirRatchetPublicKey _ _ full, last, gap,
    moved]
  simp [Function.iterate_succ_apply']

/-- A gap over the limit is refused without a change. -/
theorem storeCurrentChain_far {ratchet : Ratchet β} {payload : One2oneMsgPayload β}
    {receiverChain : ReceiverChainNode β} {chainKey : ChainKey β}
    (receiver : ratchet.receiverChain = some receiverChain)
    (present : receiverChain.chainKey = some chainKey)
    (far : payload.sequence.toNat - chainKey.index.toNat > maxSkippedMessageKeyNodes) :
    storeCurrentChain cipherSuite ratchet payload = (false, ratchet) := by
  simp [storeCurrentChain, receiver, present, far]

/-- A message behind the chain leaves it unchanged. -/
theorem storeCurrentChain_behind {ratchet : Ratchet β} {payload : One2oneMsgPayload β}
    {receiverChain : ReceiverChainNode β} {chainKey : ChainKey β}
    (receiver : ratchet.receiverChain = some receiverChain)
    (present : receiverChain.chainKey = some chainKey)
    (behind : payload.sequence < chainKey.index) :
    storeCurrentChain cipherSuite ratchet payload = (true, ratchet) := by
  have order : payload.sequence.toNat < chainKey.index.toNat := UInt32.lt_iff_toNat_lt.mp behind
  have none : payload.sequence.toNat - chainKey.index.toNat = 0 := by omega
  have different : ¬ chainKey.index = payload.sequence := by
    intro same
    rw [same] at order
    omega
  cases ratchet
  cases receiverChain
  simp only at receiver present
  simp [storeCurrentChain, receiver, present, none, storeSkippedKeys, different,
    maxSkippedMessageKeyNodes]

/-- This is the total that a call leaves behind. -/
def updatedTotal (ratchet : Ratchet β) (payload : One2oneMsgPayload β) : UInt32 :=
  if payload.sendingMessageSequence > ratchet.receivedMessageSequence
  then payload.sendingMessageSequence else ratchet.receivedMessageSequence

/-- This is the list pointer that a call leaves behind. -/
def prunedList (ratchet : Ratchet β) : Option (List (SkippedMsgKeyNode β)) :=
  if ratchet.skipped.length ≤ maxSkippedMessageKeyNodes then ratchet.skippedMsgKeyList
  else some (ratchet.skipped.drop (ratchet.skipped.length - maxSkippedMessageKeyNodes))

/-- The end of a call changes only the total and the list of stored keys. -/
theorem closeDecrypt_eq (ratchet : Ratchet β) (payload : One2oneMsgPayload β) :
    closeDecrypt ratchet payload = { ratchet with
      receivedMessageSequence := updatedTotal ratchet payload
      skippedMsgKeyList := prunedList ratchet } := by
  have kept : (updateReceivedMessageSequence ratchet payload).skipped = ratchet.skipped := by
    unfold updateReceivedMessageSequence
    split <;> rfl
  have updated : updateReceivedMessageSequence ratchet payload =
      { ratchet with receivedMessageSequence := updatedTotal ratchet payload } := by
    unfold updateReceivedMessageSequence updatedTotal
    split <;> rfl
  unfold closeDecrypt pruneBloatedSkippedKeys prunedList
  rw [kept, updated]
  split <;> rfl

theorem closeDecrypt_skipped (ratchet : Ratchet β) (payload : One2oneMsgPayload β) :
    (closeDecrypt ratchet payload).skipped =
      ratchet.skipped.drop (ratchet.skipped.length - maxSkippedMessageKeyNodes) := by
  rw [closeDecrypt_eq]
  show (prunedList ratchet).getD [] = _
  by_cases short : ratchet.skipped.length ≤ maxSkippedMessageKeyNodes
  · have pointer : prunedList ratchet = ratchet.skippedMsgKeyList := if_pos short
    rw [Nat.sub_eq_zero_of_le short, List.drop_zero, pointer]
    rfl
  · have pointer : prunedList ratchet = some (ratchet.skipped.drop
        (ratchet.skipped.length - maxSkippedMessageKeyNodes)) := if_neg short
    rw [pointer, Option.getD_some]

/-- A short list is kept, also as a pointer. -/
theorem closeDecrypt_short {ratchet : Ratchet β} (payload : One2oneMsgPayload β)
    (short : ratchet.skipped.length ≤ maxSkippedMessageKeyNodes) :
    closeDecrypt ratchet payload =
      { ratchet with receivedMessageSequence := updatedTotal ratchet payload } := by
  rw [closeDecrypt_eq, prunedList, if_pos short]

/-- The list of stored keys is within its limit after every call. -/
theorem closeDecrypt_skipped_le (ratchet : Ratchet β) (payload : One2oneMsgPayload β) :
    (closeDecrypt ratchet payload).skipped.length ≤ maxSkippedMessageKeyNodes := by
  rw [closeDecrypt_skipped, List.length_drop]
  omega

end E2eeSecurity
