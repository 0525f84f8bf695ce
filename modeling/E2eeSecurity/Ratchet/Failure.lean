/-
This file finds what a failed decryption leaves behind, for every ratchet that passes its check.
-/
import E2eeSecurity.Ratchet.Acceptance
import E2eeSecurity.Ratchet.Header

namespace E2eeSecurity

variable {β : Type} {cipherSuite : CipherSuite β} {ratchet : Ratchet β} {ad : Bytes β}
  {payload : One2oneMsgPayload β}

section Storing

/-- The insertion loop only needs a chain key that is not empty. -/
theorem storeSkippedKeys_nonempty (suite : isValidCipherSuite cipherSuite = true)
    (ratchetKey : Bytes β) (count : Nat) {key : ChainKey β} (nonempty : key.sharedKey ≠ [])
    (list : List (SkippedMsgKeyNode β)) :
    (storeSkippedKeys cipherSuite ratchetKey count (some key) list).1 = true := by
  induction count generalizing key list with
  | zero => rfl
  | succ count ih =>
      obtain ⟨next, moved, nextNonempty⟩ := advanceChainKey_nonempty suite nonempty
      rw [storeSkippedKeys, createMsgKeys_nonempty suite nonempty]
      simp only [moved]
      exact ih nextNonempty _

/-- Without a usable chain key the loop stops at its first turn. -/
theorem storeSkippedKeys_unusable {chainKey : Option (ChainKey β)}
    (unusable : isValidChainKey chainKey = false) (ratchetKey : Bytes β) {count : Nat}
    (positive : count ≠ 0) (list : List (SkippedMsgKeyNode β)) :
    storeSkippedKeys cipherSuite ratchetKey count chainKey list = (false, chainKey, list) := by
  cases count with
  | zero => exact absurd rfl positive
  | succ count => simp [storeSkippedKeys, createMsgKeys, unusable]

/-- On a usable chain key the update of the current chain only refuses a long gap, and then it
changes nothing. -/
theorem storeCurrentChain_failed (suite : isValidCipherSuite cipherSuite = true)
    {receiverChain : ReceiverChainNode β} {chainKey : ChainKey β}
    (receiver : ratchet.receiverChain = some receiverChain)
    (present : receiverChain.chainKey = some chainKey) (nonempty : chainKey.sharedKey ≠ [])
    (failed : (storeCurrentChain cipherSuite ratchet payload).1 = false) :
    (storeCurrentChain cipherSuite ratchet payload).2 = ratchet := by
  by_cases far : payload.sequence.toNat - chainKey.index.toNat > maxSkippedMessageKeyNodes
  · rw [storeCurrentChain_far receiver present far]
  · have stored := storeSkippedKeys_nonempty suite receiverChain.theirRatchetPublicKey
      (payload.sequence.toNat - chainKey.index.toNat) nonempty ratchet.skipped
    simp only [storeCurrentChain, receiver, present, if_neg far, stored] at failed
    cases failed

theorem storeCurrentChain_rootSequence :
    (storeCurrentChain cipherSuite ratchet payload).2.rootSequence = ratchet.rootSequence := by
  unfold storeCurrentChain
  split
  · split
    · dsimp only
      split <;> rfl
    · rfl
  · rfl

/-- The rest of the previous chain can be stored: nothing is missing, or a usable chain key is
there for at most as many messages as the limit allows. -/
def PreviousStorable (ratchet : Ratchet β) (payload : One2oneMsgPayload β) : Prop :=
  previousSkippedNum ratchet payload = 0 ∨
    previousSkippedNum ratchet payload ≤ maxSkippedMessageKeyNodes ∧
      isValidChainKey (ratchet.receiverChain.bind fun chain => chain.chainKey) = true

/-- Storing the rest keeps everything that the commit builds on. -/
theorem storePreviousChain_storable (suite : isValidCipherSuite cipherSuite = true)
    (storable : PreviousStorable ratchet payload) :
    (storePreviousChain cipherSuite ratchet payload).1 = true := by
  unfold storePreviousChain
  dsimp only
  split
  case isTrue => rfl
  case isFalse positive =>
    obtain zero | ⟨small, usable⟩ := storable
    · exact absurd zero positive
    · rw [if_neg (by omega)]
      cases receiver : ratchet.receiverChain with
      | none => simp [receiver, isValidChainKey] at usable
      | some receiverChain =>
          rw [receiver, Option.bind_some, isValidChainKey_iff] at usable
          obtain ⟨key, present, nonempty⟩ := usable
          dsimp only
          rw [present]
          exact storeSkippedKeys_nonempty suite _ _ nonempty _

/-- Storing the rest keeps the roots and both chains in place. -/
theorem storePreviousChain_frame (cipherSuite : CipherSuite β) (payload : One2oneMsgPayload β)
    {receiverChain : ReceiverChainNode β}
    (receiver : ratchet.receiverChain = some receiverChain) :
    (storePreviousChain cipherSuite ratchet payload).2.rootSequence = ratchet.rootSequence ∧
      (storePreviousChain cipherSuite ratchet payload).2.senderChain = ratchet.senderChain ∧
      ∃ chain, (storePreviousChain cipherSuite ratchet payload).2.receiverChain = some chain := by
  unfold storePreviousChain
  dsimp only
  split
  · exact ⟨rfl, rfl, receiverChain, receiver⟩
  · split
    · exact ⟨rfl, rfl, receiverChain, receiver⟩
    · rw [receiver]
      exact ⟨rfl, rfl, _, rfl⟩

/-- A failure to store the rest allocates the list at most. -/
theorem storePreviousChain_unstorable {receiverChain : ReceiverChainNode β}
    (receiver : ratchet.receiverChain = some receiverChain)
    (unstorable : ¬ PreviousStorable ratchet payload) :
    storePreviousChain cipherSuite ratchet payload =
      (false, if previousSkippedNum ratchet payload ≤ maxSkippedMessageKeyNodes
        then { ratchet with skippedMsgKeyList := some ratchet.skipped } else ratchet) := by
  have positive : previousSkippedNum ratchet payload ≠ 0 := fun zero => unstorable (Or.inl zero)
  rw [storePreviousChain, if_neg positive]
  by_cases small : previousSkippedNum ratchet payload ≤ maxSkippedMessageKeyNodes
  · have unusable : isValidChainKey receiverChain.chainKey = false := by
      rw [← Bool.not_eq_true]
      intro usable
      apply unstorable
      rw [PreviousStorable, receiver, Option.bind_some]
      exact Or.inr ⟨small, usable⟩
    have same : some { receiverChain with chainKey := receiverChain.chainKey } =
        ratchet.receiverChain := receiver.symm
    rw [if_neg (by omega), if_pos small]
    simp only [receiver, storeSkippedKeys_unusable unusable _ positive]
  · rw [if_pos (by omega), if_neg small]

end Storing

section Traces

/-- A message that opens on the next chain leaves a trace when it fails afterwards.
The exceptions are a number of missing messages over the limit and a list that is already there. -/
def LeavesTrace (cipherSuite : CipherSuite β) (ratchet : Ratchet β) (ad : Bytes β)
    (payload : One2oneMsgPayload β) : Prop :=
  payload.rootSequence = ratchet.rootSequence + 1 ∧
    ¬ (ratchet.rootSequence = 0 ∧ payload.sendingMessageSequence < payload.sequence) ∧
    (verifyAndDecryptForNewChain cipherSuite ratchet ad payload).isSome = true ∧
    (PreviousStorable ratchet payload ∨
      previousSkippedNum ratchet payload ≤ maxSkippedMessageKeyNodes ∧
        ratchet.skippedMsgKeyList = none)

/-- The trial repeats the checks of the header. -/
theorem verifyAndDecryptForNewChain_checks
    (opened : (verifyAndDecryptForNewChain cipherSuite ratchet ad payload).isSome = true) :
    isValidCipherSuite cipherSuite = true ∧ ad ≠ [] ∧ isValidRatchet ratchet = true ∧
      isValidOne2oneMsgPayload payload = true ∧ payload.rootSequence ≠ 0 ∧
      payload.ratchetKey.length = ratchetKeyLen cipherSuite := by
  unfold verifyAndDecryptForNewChain at opened
  split at opened
  · split at opened
    case isTrue checks =>
      simpa [and_assoc] using checks
    case isFalse => cases opened
  · cases opened

theorem commitNewChains_rootSequence {receiverChain : ReceiverChainNode β}
    {senderChain : SenderChainNode β} (receiver : ratchet.receiverChain = some receiverChain)
    (sender : ratchet.senderChain = some senderChain) (coins : Bytes β) :
    (commitNewChains cipherSuite ratchet payload coins).rootSequence =
      ratchet.rootSequence + 1 + 1 := by
  simp [commitNewChains, receiver, sender]

/-- The path over a new chain replaces the root sequence, allocates the list, or changes nothing. -/
theorem decryptNew_failed (accepted : Accepted cipherSuite ratchet ad payload) (coins : Bytes β)
    (next : payload.rootSequence = ratchet.rootSequence + 1) :
    (decryptNew cipherSuite ratchet ad payload coins).2 = ratchet ∧
        ¬ LeavesTrace cipherSuite ratchet ad payload ∨
      LeavesTrace cipherSuite ratchet ad payload ∧
        ((decryptNew cipherSuite ratchet ad payload coins).2.rootSequence =
            ratchet.rootSequence + 1 + 1 ∨
          ratchet.skippedMsgKeyList = none ∧
            (decryptNew cipherSuite ratchet ad payload coins).2 =
              { ratchet with skippedMsgKeyList := some [] }) := by
  obtain ⟨-, ⟨senderChain, -, sender, -⟩, receiverChain, receiver, -⟩ :=
    isValidRatchet_parts accepted.validRatchet
  cases trial : verifyAndDecryptForNewChain cipherSuite ratchet ad payload with
  | none =>
      apply Or.inl
      rw [decryptNew, trial]
      refine ⟨rfl, ?_⟩
      rintro ⟨-, -, opened, -⟩
      rw [trial] at opened
      cases opened
  | some plaintext =>
      have total : ¬ (ratchet.rootSequence = 0 ∧
          payload.sendingMessageSequence < payload.sequence) := by
        rintro ⟨first, less⟩
        exact accepted.total first less
      have opened : (verifyAndDecryptForNewChain cipherSuite ratchet ad payload).isSome = true := by
        rw [trial, Option.isSome_some]
      rw [decryptNew, trial]
      dsimp only
      by_cases storable : PreviousStorable ratchet payload
      · obtain ⟨sameRoot, sameSender, chain, kept⟩ :=
          storePreviousChain_frame cipherSuite payload receiver
        rw [if_pos (storePreviousChain_storable accepted.suite storable)]
        refine Or.inr ⟨⟨next, total, opened, Or.inl storable⟩, Or.inl ?_⟩
        rw [storeCurrentChain_rootSequence, commitNewChains_rootSequence kept
          (sameSender.trans sender), sameRoot]
      · rw [storePreviousChain_unstorable receiver storable, if_neg Bool.false_ne_true]
        by_cases small : previousSkippedNum ratchet payload ≤ maxSkippedMessageKeyNodes
        · rw [if_pos small]
          cases list : ratchet.skippedMsgKeyList with
          | none =>
              refine Or.inr ⟨⟨next, total, opened, Or.inr ⟨small, list⟩⟩, Or.inr ⟨rfl, ?_⟩⟩
              rw [Ratchet.skipped, list]
              rfl
          | some entries =>
              refine Or.inl ⟨?_, ?_⟩
              · rw [Ratchet.skipped, list, Option.getD_some, ← list]
              · rintro ⟨-, -, -, stored | ⟨-, missing⟩⟩
                · exact storable stored
                · rw [list] at missing
                  cases missing
        · rw [if_neg small]
          refine Or.inl ⟨rfl, ?_⟩
          rintro ⟨-, -, -, stored | ⟨few, -⟩⟩
          · exact storable stored
          · exact small few

/-- After a trial on the current chain only a long gap is refused. -/
theorem decryptExisting_failed (suite : isValidCipherSuite cipherSuite = true)
    {receiverChain : ReceiverChainNode β} {chainKey : ChainKey β}
    (receiver : ratchet.receiverChain = some receiverChain)
    (present : receiverChain.chainKey = some chainKey) (nonempty : chainKey.sharedKey ≠ [])
    (failed : (decryptExisting cipherSuite ratchet ad payload).1 = none) :
    (decryptExisting cipherSuite ratchet ad payload).2 = ratchet := by
  unfold decryptExisting at failed ⊢
  cases trial : verifyAndDecryptForExistingChain cipherSuite ad
      (ratchet.receiverChain.bind fun chain => chain.chainKey) payload with
  | none => rfl
  | some plaintext =>
      rw [trial] at failed
      apply storeCurrentChain_failed suite receiver present nonempty
      cases stored : (storeCurrentChain cipherSuite ratchet payload).1 with
      | true =>
          dsimp only at failed
          rw [stored] at failed
          cases failed
      | false => rfl

end Traces

section Failing

variable [DecidableEq β]

/-- A trace comes from the path over a new chain. -/
theorem LeavesTrace.route (trace : LeavesTrace cipherSuite ratchet ad payload) :
    decryptRoute cipherSuite ratchet ad payload = some ⟨false, false⟩ := by
  obtain ⟨next, total, opened, -⟩ := trace
  obtain ⟨suite, adPresent, validRatchet, validPayload, positive, length⟩ :=
    verifyAndDecryptForNewChain_checks opened
  have accepted : Accepted cipherSuite ratchet ad payload :=
    ⟨suite, validPayload, length.trans (ratchetKeyLen_valid suite), adPresent, validRatchet,
      fun zero less => total ⟨zero, less⟩⟩
  have ahead : ratchet.rootSequence < payload.rootSequence := by
    have bound := ratchet.rootSequence.toNat_lt
    have one : (1 : UInt32).toNat = 1 := rfl
    have value := congrArg UInt32.toNat next
    rw [UInt32.toNat_add, one] at value
    have nonzero : payload.rootSequence.toNat ≠ 0 := fun zero =>
      positive (UInt32.toNat.inj zero)
    rw [UInt32.lt_iff_toNat_lt]
    omega
  have notOlder : ¬ payload.rootSequence < ratchet.rootSequence := by
    rw [UInt32.lt_iff_toNat_lt] at ahead ⊢
    omega
  rw [decryptRoute_accepted accepted, if_neg (rootSequence_ne_of_lt ahead).symm,
    if_neg notOlder, if_pos next]

/-- A stored key that opens the message ends the call with success. -/
theorem decryptSkipped_failed (current : Bool)
    (behind : current = true → ∃ receiverChain chainKey,
      ratchet.receiverChain = some receiverChain ∧ receiverChain.chainKey = some chainKey ∧
        payload.sequence < chainKey.index)
    (failed : (decryptSkipped cipherSuite ratchet ad payload current).1 = none) :
    (decryptSkipped cipherSuite ratchet ad payload current).2 = ratchet := by
  unfold decryptSkipped at failed ⊢
  cases search : useSkippedKey cipherSuite ad payload ratchet.skipped with
  | none => rfl
  | some found =>
      rw [search] at failed
      cases current with
      | false => cases failed
      | true =>
          obtain ⟨receiverChain, chainKey, receiver, present, less⟩ := behind rfl
          have stored : storeCurrentChain cipherSuite { ratchet with
              skippedMsgKeyList := skippedPointer found.2 } payload =
                (true, { ratchet with skippedMsgKeyList := skippedPointer found.2 }) :=
            storeCurrentChain_behind receiver present less
          dsimp only at failed
          rw [if_pos rfl, stored] at failed
          cases failed

/-- A call that fails before its last two updates changes the ratchet exactly when it leaves a
trace. -/
theorem decryptBody_failed (coins : Bytes β)
    (failed : (decryptBody cipherSuite ratchet ad payload coins).1 = none) :
    (decryptBody cipherSuite ratchet ad payload coins).2 = ratchet ∧
        ¬ LeavesTrace cipherSuite ratchet ad payload ∨
      LeavesTrace cipherSuite ratchet ad payload ∧
        ((decryptBody cipherSuite ratchet ad payload coins).2.rootSequence =
            ratchet.rootSequence + 1 + 1 ∨
          ratchet.skippedMsgKeyList = none ∧
            (decryptBody cipherSuite ratchet ad payload coins).2 =
              { ratchet with skippedMsgKeyList := some [] }) := by
  unfold decryptBody at failed ⊢
  cases selected : decryptRoute cipherSuite ratchet ad payload with
  | none =>
      refine Or.inl ⟨rfl, ?_⟩
      intro trace
      have route := trace.route
      rw [selected] at route
      cases route
  | some route =>
      rw [selected] at failed
      dsimp only at failed ⊢
      have other : ∀ flags : Route, route = flags → flags ≠ ⟨false, false⟩ →
          ¬ LeavesTrace cipherSuite ratchet ad payload := by
        rintro flags rfl different trace
        have new := trace.route
        rw [selected, Option.some.injEq] at new
        exact different new
      obtain ⟨accepted, ⟨rfl, older⟩ | current | ⟨rfl, next, -⟩⟩ := decryptRoute_some selected
      · refine Or.inl ⟨?_, other _ rfl (by decide)⟩
        exact decryptSkipped_failed false (by simp) failed
      · obtain ⟨receiverChain, receiver, -, older, -, rfl⟩ := current
        refine Or.inl ⟨?_, other _ rfl (by simp)⟩
        have positive : 0 < ratchet.rootSequence := by
          rw [UInt32.lt_iff_toNat_lt] at older ⊢
          exact Nat.lt_of_le_of_lt (Nat.zero_le _) older
        obtain ⟨chain, chainKey, found, -, -, present, nonempty⟩ :=
          isValidRatchet_receiver accepted.validRatchet positive
        rw [receiver, Option.some.injEq] at found
        subst found
        dsimp only at failed ⊢
        rw [present, Option.any_some] at failed ⊢
        by_cases behind : payload.sequence < chainKey.index
        · rw [if_pos (decide_eq_true behind)] at failed ⊢
          exact decryptSkipped_failed true
            (fun _ => ⟨receiverChain, chainKey, receiver, present, behind⟩) failed
        · have ahead : ¬ decide (payload.sequence < chainKey.index) = true := by simpa using behind
          rw [if_neg ahead, if_pos rfl] at failed ⊢
          exact decryptExisting_failed accepted.suite receiver present nonempty failed
      · exact decryptNew_failed accepted coins next

/-- A failed call that keeps the running total and leaves no trace changes nothing. -/
theorem decryptRatchet_failed_kept (coins : Bytes β)
    (failed : (decryptRatchet cipherSuite ratchet ad payload coins).1 = none)
    (within : payload.sendingMessageSequence ≤ ratchet.receivedMessageSequence)
    (short : ratchet.skipped.length ≤ maxSkippedMessageKeyNodes)
    (clean : ¬ LeavesTrace cipherSuite ratchet ad payload) :
    (decryptRatchet cipherSuite ratchet ad payload coins).2 = ratchet := by
  have closed : (decryptRatchet cipherSuite ratchet ad payload coins).2 =
      closeDecrypt (decryptBody cipherSuite ratchet ad payload coins).2 payload := rfl
  obtain ⟨same, -⟩ | ⟨trace, -⟩ := decryptBody_failed coins failed
  · rw [closed, same, closeDecrypt_eq, updatedTotal, if_neg (UInt32.not_lt.mpr within), prunedList,
      if_pos short]
  · exact absurd trace clean

/-- A failed call leaves the ratchet exactly as it was when its header does not raise the running
total, the list of stored keys is within its limit, and it leaves no trace of a new chain. -/
theorem decryptRatchet_failure_unchanged_iff (cipherSuite : CipherSuite β) (ratchet : Ratchet β)
    (ad : Bytes β) (payload : One2oneMsgPayload β) (coins : Bytes β)
    (failed : (decryptRatchet cipherSuite ratchet ad payload coins).1 = none) :
    (decryptRatchet cipherSuite ratchet ad payload coins).2 = ratchet ↔
      payload.sendingMessageSequence ≤ ratchet.receivedMessageSequence ∧
        ratchet.skipped.length ≤ maxSkippedMessageKeyNodes ∧
        ¬ LeavesTrace cipherSuite ratchet ad payload := by
  constructor
  · intro unchanged
    have closed : (decryptRatchet cipherSuite ratchet ad payload coins).2 =
        closeDecrypt (decryptBody cipherSuite ratchet ad payload coins).2 payload := rfl
    obtain ⟨same, clean⟩ | ⟨trace, changed⟩ := decryptBody_failed coins failed
    · rw [closed, same] at unchanged
      have short := closeDecrypt_skipped_le ratchet payload
      rw [unchanged] at short
      refine ⟨?_, short, clean⟩
      have total : updatedTotal ratchet payload = ratchet.receivedMessageSequence := by
        rw [closeDecrypt_eq] at unchanged
        exact congrArg Ratchet.receivedMessageSequence unchanged
      rw [updatedTotal] at total
      split at total
      case isTrue => exact UInt32.le_of_eq total
      case isFalse within => exact UInt32.not_lt.mp within
    · rw [closed, closeDecrypt_eq] at unchanged
      obtain moved | ⟨missing, allocated⟩ := changed
      · have root := congrArg Ratchet.rootSequence unchanged
        dsimp only at root
        rw [moved] at root
        exact absurd root (rootSequence_moved ratchet.rootSequence)
      · have list := congrArg Ratchet.skippedMsgKeyList unchanged
        rw [allocated, missing] at list
        cases list
  · rintro ⟨within, short, clean⟩
    exact decryptRatchet_failed_kept coins failed within short clean

end Failing

open Symbolic in
/-- Bob has skipped the first message of Alice. Her third message fails under another index and
under the next root sequence, and he stays as he was. -/
theorem longPayload_altered_unchanged :
    let ratchet := runCalls symbolicSuite bob [longCall 1]
    let otherIndex := { longPayload 2 with sequence := 7, sendingMessageSequence := 1 }
    let nextRoot := (longPayload 2).withHeader 3 2
    (decryptRatchet symbolicSuite ratchet associatedData otherIndex [.byte 6]).2 = ratchet ∧
      (decryptRatchet symbolicSuite ratchet associatedData nextRoot [.byte 6]).2 = ratchet := by
  intro ratchet otherIndex nextRoot
  constructor
  · refine (decryptRatchet_failure_unchanged_iff symbolicSuite ratchet associatedData otherIndex
      [.byte 6] (by decide +kernel)).mpr ⟨by decide +kernel, by decide +kernel, ?_⟩
    intro trace
    have current : decryptRoute symbolicSuite ratchet associatedData otherIndex =
        some ⟨true, false⟩ := by
      decide +kernel
    have route := trace.route
    rw [current] at route
    cases route
  · refine (decryptRatchet_failure_unchanged_iff symbolicSuite ratchet associatedData nextRoot
      [.byte 6] (by decide +kernel)).mpr ⟨by decide +kernel, by decide +kernel, ?_⟩
    rintro ⟨-, -, opened, -⟩
    have refused : verifyAndDecryptForNewChain symbolicSuite ratchet associatedData nextRoot =
        none := by
      decide +kernel
    rw [refused] at opened
    cases opened

/-- The first message of Alice fails under the total five.
The valid ratchet of Bob keeps the raised total and an empty list that no later check accepts. -/
theorem firstPayload_raised_broken :
    let raised := decryptRatchet symbolicSuite Symbolic.bob Symbolic.associatedData
      (Symbolic.firstPayload.withHeader Symbolic.firstPayload.rootSequence 5) [.byte 6]
    isValidRatchet Symbolic.bob = true ∧ raised.1 = none ∧
      raised.2 = { Symbolic.bob with
        receivedMessageSequence := 5
        skippedMsgKeyList := some [] } ∧
      isValidRatchet raised.2 = false := by
  decide +kernel

end E2eeSecurity
