/-
This file gives conditions under which a decryption call succeeds on each of its three paths.
-/
import E2eeSecurity.Ratchet.Outcome

namespace E2eeSecurity

variable {β : Type} {cipherSuite : CipherSuite β} [DecidableEq β] {ratchet : Ratchet β}
  {ad : Bytes β} {payload : One2oneMsgPayload β}

/-- An accepted header is routed by the two root sequences alone. -/
theorem decryptRoute_accepted (accepted : Accepted cipherSuite ratchet ad payload) :
    decryptRoute cipherSuite ratchet ad payload =
      if payload.rootSequence = ratchet.rootSequence then none
      else if payload.rootSequence < ratchet.rootSequence then
        if payload.rootSequence = ratchet.rootSequence - 1 then
          match ratchet.receiverChain with
          | some receiverChain =>
              if receiverChain.theirRatchetPublicKey = payload.ratchetKey then
                some ⟨true, receiverChain.chainKey.any fun key => payload.sequence < key.index⟩
              else none
          | none => none
        else some ⟨false, true⟩
      else if payload.rootSequence = ratchet.rootSequence + 1 then some ⟨false, false⟩
      else none := by
  refine if_pos ?_
  have total := accepted.total
  by_cases first : ratchet.rootSequence = 0
  · simp [accepted.suite, accepted.validPayload, accepted.keyLength, accepted.adPresent,
      accepted.validRatchet, ratchetKeyLen_valid accepted.suite, total first, first]
  · simp [accepted.suite, accepted.validPayload, accepted.keyLength, accepted.adPresent,
      accepted.validRatchet, ratchetKeyLen_valid accepted.suite, first]

theorem rootSequence_ne_of_lt {first second : UInt32} (less : first < second) :
    first ≠ second := by
  rintro rfl
  exact absurd (UInt32.lt_iff_toNat_lt.mp less) (Nat.lt_irrefl _)

/-- A message on the next chain replaces both chains. -/
theorem decryptBody_new (sized : ratchet.Sized cipherSuite) (coins : Bytes β)
    {receiverChain : ReceiverChainNode β} {senderChain : SenderChainNode β} {plaintext : Bytes β}
    (renewal : Renewal cipherSuite ratchet ad payload receiverChain senderChain plaintext)
    (near : payload.sequence.toNat ≤ maxSkippedMessageKeyNodes) :
    decryptBody cipherSuite ratchet ad payload coins = (some plaintext,
      startedRatchet cipherSuite ratchet payload coins receiverChain senderChain) := by
  have different := (rootSequence_ne_of_lt renewal.newer).symm
  have notOlder : ¬ payload.rootSequence < ratchet.rootSequence := by
    have newer := UInt32.lt_iff_toNat_lt.mp renewal.newer
    rw [UInt32.lt_iff_toNat_lt]
    omega
  have route : decryptRoute cipherSuite ratchet ad payload = some ⟨false, false⟩ := by
    rw [decryptRoute_accepted renewal.accepted, if_neg different, if_neg notOlder,
      if_pos renewal.next]
  have body := decryptNew_full sized coins renewal
  rw [if_pos near] at body
  simp [decryptBody, route, body]

/-- A message on the next chain is opened, and both chains are replaced. -/
theorem decryptRatchet_new (sized : ratchet.Sized cipherSuite) (coins : Bytes β)
    {receiverChain : ReceiverChainNode β} {senderChain : SenderChainNode β} {plaintext : Bytes β}
    (renewal : Renewal cipherSuite ratchet ad payload receiverChain senderChain plaintext)
    (near : payload.sequence.toNat ≤ maxSkippedMessageKeyNodes) :
    decryptRatchet cipherSuite ratchet ad payload coins = (some plaintext, closeDecrypt
      (startedRatchet cipherSuite ratchet payload coins receiverChain senderChain) payload) := by
  rw [decryptRatchet, decryptBody_new sized coins renewal near]

/-- A message that a new chain opens renews both chains and is not too far ahead. -/
theorem decryptNew_some (sized : ratchet.Sized cipherSuite) (coins : Bytes β)
    (route : decryptRoute cipherSuite ratchet ad payload = some ⟨false, false⟩)
    {plaintext : Bytes β}
    (success : (decryptNew cipherSuite ratchet ad payload coins).1 = some plaintext) :
    ∃ receiverChain senderChain, Renewal cipherSuite ratchet ad payload receiverChain senderChain
      plaintext ∧ payload.sequence.toNat ≤ maxSkippedMessageKeyNodes := by
  obtain ⟨accepted, ⟨other, -⟩ | ⟨_, _, _, _, _, other⟩ | ⟨-, next, different, later⟩⟩ :=
    decryptRoute_some route
  · cases other
  · cases other
  · have newer : ratchet.rootSequence < payload.rootSequence := by
      rw [UInt32.lt_iff_toNat_lt] at later ⊢
      have unequal : payload.rootSequence.toNat ≠ ratchet.rootSequence.toNat :=
        fun same => different (UInt32.toNat_inj.mp same)
      omega
    have outcome := decryptNew_outcome sized coins accepted next newer
    rw [success] at outcome
    generalize (decryptNew cipherSuite ratchet ad payload coins).2 = after at outcome
    cases outcome with
    | skipped accepted older => exact absurd older later
    | existing accepted current older => exact absurd older later
    | renewed receiverChain senderChain _ renewal near =>
        exact ⟨receiverChain, senderChain, renewal, near⟩

/-- A message at or ahead of the current chain takes the path of that chain. -/
theorem decryptRoute_existing (accepted : Accepted cipherSuite ratchet ad payload)
    (current : payload.rootSequence = ratchet.rootSequence - 1)
    (older : payload.rootSequence < ratchet.rootSequence) {receiverChain : ReceiverChainNode β}
    {chainKey : ChainKey β} (receiver : ratchet.receiverChain = some receiverChain)
    (sameKey : receiverChain.theirRatchetPublicKey = payload.ratchetKey)
    (present : receiverChain.chainKey = some chainKey)
    (reached : ¬ payload.sequence < chainKey.index) :
    decryptRoute cipherSuite ratchet ad payload = some ⟨true, false⟩ := by
  rw [decryptRoute_accepted accepted, if_neg (rootSequence_ne_of_lt older), if_pos older,
    if_pos current]
  simp [receiver, sameKey, present, reached]

/-- A message at or ahead of the current chain moves the chain past it. -/
theorem decryptBody_existing (sized : ratchet.Sized cipherSuite) (coins : Bytes β)
    (accepted : Accepted cipherSuite ratchet ad payload)
    (current : payload.rootSequence = ratchet.rootSequence - 1)
    (older : payload.rootSequence < ratchet.rootSequence) {receiverChain : ReceiverChainNode β}
    {chainKey : ChainKey β} (receiver : ratchet.receiverChain = some receiverChain)
    (sameKey : receiverChain.theirRatchetPublicKey = payload.ratchetKey)
    (present : receiverChain.chainKey = some chainKey)
    (reached : ¬ payload.sequence < chainKey.index)
    (small : payload.sequence.toNat - chainKey.index.toNat ≤ maxSkippedMessageKeyNodes)
    {plaintext : Bytes β}
    (opened : cipherSuite.se.decrypt ad (cipherSuite.messageKey (cipherSuite.advance^[
      payload.sequence.toNat - chainKey.index.toNat] chainKey.sharedKey)) payload.ciphertext =
        some plaintext) :
    decryptBody cipherSuite ratchet ad payload coins = (some plaintext,
      readRatchet cipherSuite ratchet payload receiverChain chainKey) := by
  have full : cipherSuite.FullKey chainKey.sharedKey :=
    sized.receiver receiverChain (by simp [receiver]) chainKey (by simp [present])
  have route := decryptRoute_existing accepted current older receiver sameKey present reached
  have trial := verifyAndDecryptForExistingChain_full accepted.suite accepted.adPresent
    accepted.validPayload full reached
  rw [opened] at trial
  have stored := storeCurrentChain_full accepted.suite receiver present full reached small
  have body : decryptExisting cipherSuite ratchet ad payload = (some plaintext,
      readRatchet cipherSuite ratchet payload receiverChain chainKey) := by
    simp only [decryptExisting, receiver, Option.bind_some, present, trial, stored, if_true]
    rfl
  simp [decryptBody, route, body]

omit [DecidableEq β] in
/-- A message that the current chain opens is not too far ahead. -/
theorem decryptExisting_some (sized : ratchet.Sized cipherSuite)
    (accepted : Accepted cipherSuite ratchet ad payload) {receiverChain : ReceiverChainNode β}
    {chainKey : ChainKey β} (receiver : ratchet.receiverChain = some receiverChain)
    (present : receiverChain.chainKey = some chainKey)
    (reached : ¬ payload.sequence < chainKey.index) {plaintext : Bytes β}
    (success : (decryptExisting cipherSuite ratchet ad payload).1 = some plaintext) :
    payload.sequence.toNat - chainKey.index.toNat ≤ maxSkippedMessageKeyNodes ∧
      cipherSuite.se.decrypt ad (cipherSuite.messageKey (cipherSuite.advance^[
        payload.sequence.toNat - chainKey.index.toNat] chainKey.sharedKey)) payload.ciphertext =
          some plaintext := by
  have full : cipherSuite.FullKey chainKey.sharedKey :=
    sized.receiver receiverChain (by simp [receiver]) chainKey (by simp [present])
  rw [decryptExisting, receiver, Option.bind_some, present,
    verifyAndDecryptForExistingChain_full accepted.suite accepted.adPresent accepted.validPayload
      full reached] at success
  cases trial : cipherSuite.se.decrypt ad (cipherSuite.messageKey (cipherSuite.advance^[
      payload.sequence.toNat - chainKey.index.toNat] chainKey.sharedKey)) payload.ciphertext with
  | none =>
      rw [trial] at success
      cases success
  | some opened =>
      rw [trial] at success
      by_cases small :
          payload.sequence.toNat - chainKey.index.toNat ≤ maxSkippedMessageKeyNodes
      · dsimp only at success
        rw [storeCurrentChain_full accepted.suite receiver present full reached small,
          if_pos rfl] at success
        exact ⟨small, success⟩
      · dsimp only at success
        rw [storeCurrentChain_far receiver present (by omega)] at success
        cases success

/-- A message at or ahead of the current chain is opened, and the chain moves past it. -/
theorem decryptRatchet_existing (sized : ratchet.Sized cipherSuite) (coins : Bytes β)
    (accepted : Accepted cipherSuite ratchet ad payload)
    (current : payload.rootSequence = ratchet.rootSequence - 1)
    (older : payload.rootSequence < ratchet.rootSequence) {receiverChain : ReceiverChainNode β}
    {chainKey : ChainKey β} (receiver : ratchet.receiverChain = some receiverChain)
    (sameKey : receiverChain.theirRatchetPublicKey = payload.ratchetKey)
    (present : receiverChain.chainKey = some chainKey)
    (reached : ¬ payload.sequence < chainKey.index)
    (small : payload.sequence.toNat - chainKey.index.toNat ≤ maxSkippedMessageKeyNodes)
    {plaintext : Bytes β}
    (opened : cipherSuite.se.decrypt ad (cipherSuite.messageKey (cipherSuite.advance^[
      payload.sequence.toNat - chainKey.index.toNat] chainKey.sharedKey)) payload.ciphertext =
        some plaintext) :
    decryptRatchet cipherSuite ratchet ad payload coins = (some plaintext, closeDecrypt
      (readRatchet cipherSuite ratchet payload receiverChain chainKey) payload) := by
  rw [decryptRatchet, decryptBody_existing sized coins accepted current older receiver sameKey
    present reached small opened]

/-- A success on the path of the current chain reads the message there. -/
theorem decryptBody_current (sized : ratchet.Sized cipherSuite) {coins plaintext : Bytes β}
    (route : decryptRoute cipherSuite ratchet ad payload = some ⟨true, false⟩)
    (success : (decryptBody cipherSuite ratchet ad payload coins).1 = some plaintext) :
    ∃ receiverChain chainKey, Accepted cipherSuite ratchet ad payload ∧
      ratchet.receiverChain = some receiverChain ∧
      receiverChain.theirRatchetPublicKey = payload.ratchetKey ∧
      receiverChain.chainKey = some chainKey ∧ ¬ payload.sequence < chainKey.index ∧
      cipherSuite.se.decrypt ad (cipherSuite.messageKey (cipherSuite.advance^[
        payload.sequence.toNat - chainKey.index.toNat] chainKey.sharedKey)) payload.ciphertext =
          some plaintext ∧
      decryptBody cipherSuite ratchet ad payload coins =
        (some plaintext, readRatchet cipherSuite ratchet payload receiverChain chainKey) := by
  obtain ⟨accepted, ⟨other, -⟩ | current | ⟨other, -⟩⟩ := decryptRoute_some route
  · cases other
  · obtain ⟨receiverChain, receiver, sameKey, older, current, flags⟩ := current
    have positive : 0 < ratchet.rootSequence := by
      rw [UInt32.lt_iff_toNat_lt] at older ⊢
      exact Nat.lt_of_le_of_lt (Nat.zero_le _) older
    obtain ⟨chain, chainKey, found, -, -, present, -⟩ :=
      isValidRatchet_receiver accepted.validRatchet positive
    rw [receiver, Option.some.injEq] at found
    subst found
    rw [present, Option.any_some, Route.mk.injEq] at flags
    have reached : ¬ payload.sequence < chainKey.index := of_decide_eq_false flags.2.symm
    have path : decryptBody cipherSuite ratchet ad payload coins =
        decryptExisting cipherSuite ratchet ad payload := by
      rw [decryptBody, route]
      rfl
    rw [path] at success
    obtain ⟨small, opened⟩ := decryptExisting_some sized accepted receiver present reached success
    exact ⟨receiverChain, chainKey, accepted, receiver, sameKey, present, reached, opened,
      decryptBody_existing sized coins accepted current older receiver sameKey present reached small
        opened⟩
  · cases other

/-- A success on the path of a new chain renews both chains and reads the message. -/
theorem decryptBody_renewed (sized : ratchet.Sized cipherSuite) {coins plaintext : Bytes β}
    (route : decryptRoute cipherSuite ratchet ad payload = some ⟨false, false⟩)
    (success : (decryptBody cipherSuite ratchet ad payload coins).1 = some plaintext) :
    ∃ receiverChain senderChain,
      Renewal cipherSuite ratchet ad payload receiverChain senderChain plaintext ∧
      decryptBody cipherSuite ratchet ad payload coins = (some plaintext,
        startedRatchet cipherSuite ratchet payload coins receiverChain senderChain) := by
  have path : decryptBody cipherSuite ratchet ad payload coins =
      decryptNew cipherSuite ratchet ad payload coins := by
    rw [decryptBody, route]
    rfl
  rw [path] at success
  obtain ⟨receiverChain, senderChain, renewal, near⟩ := decryptNew_some sized coins route success
  exact ⟨receiverChain, senderChain, renewal, decryptBody_new sized coins renewal near⟩

/-- A success on the path of the stored keys uses one of them. -/
theorem decryptBody_skipped {coins plaintext : Bytes β} {current : Bool}
    (route : decryptRoute cipherSuite ratchet ad payload = some ⟨current, true⟩)
    (success : (decryptBody cipherSuite ratchet ad payload coins).1 = some plaintext) :
    ∃ rest, useSkippedKey cipherSuite ad payload ratchet.skipped = some (plaintext, rest) ∧
      decryptBody cipherSuite ratchet ad payload coins =
        (some plaintext, { ratchet with skippedMsgKeyList := skippedPointer rest }) := by
  have path : decryptBody cipherSuite ratchet ad payload coins =
      decryptSkipped cipherSuite ratchet ad payload current := by
    rw [decryptBody, route]
    rfl
  rw [path, decryptSkipped] at success ⊢
  cases search : useSkippedKey cipherSuite ad payload ratchet.skipped with
  | none =>
      rw [search] at success
      cases success
  | some found =>
      rw [search] at success
      cases current with
      | false =>
          cases success
          exact ⟨found.2, rfl, rfl⟩
      | true =>
          obtain ⟨-, ⟨other, -⟩ | ⟨receiverChain, receiver, -, -, -, flags⟩ | ⟨other, -⟩⟩ :=
            decryptRoute_some route
          · cases other
          · rw [Route.mk.injEq] at flags
            obtain ⟨chainKey, present, less⟩ := (Option.any_eq_true _ _).mp flags.2.symm
            have stored : storeCurrentChain cipherSuite { ratchet with
                skippedMsgKeyList := skippedPointer found.2 } payload =
                  (true, { ratchet with skippedMsgKeyList := skippedPointer found.2 }) :=
              storeCurrentChain_behind receiver present (of_decide_eq_true less)
            dsimp only at success ⊢
            rw [if_pos rfl, stored] at success ⊢
            cases success
            exact ⟨found.2, rfl, rfl⟩
          · cases other

/-- A message behind the current chain is opened by its stored key, which leaves the list. -/
theorem decryptRatchet_skipped (coins : Bytes β)
    (accepted : Accepted cipherSuite ratchet ad payload)
    (older : payload.rootSequence < ratchet.rootSequence)
    (behind : payload.rootSequence = ratchet.rootSequence - 1 → ∃ receiverChain chainKey,
      ratchet.receiverChain = some receiverChain ∧
        receiverChain.theirRatchetPublicKey = payload.ratchetKey ∧
        receiverChain.chainKey = some chainKey ∧ payload.sequence < chainKey.index)
    {plaintext : Bytes β} {rest : List (SkippedMsgKeyNode β)}
    (found : useSkippedKey cipherSuite ad payload ratchet.skipped = some (plaintext, rest)) :
    decryptRatchet cipherSuite ratchet ad payload coins = (some plaintext, closeDecrypt
      { ratchet with skippedMsgKeyList := skippedPointer rest } payload) := by
  by_cases current : payload.rootSequence = ratchet.rootSequence - 1
  · obtain ⟨receiverChain, chainKey, receiver, sameKey, present, less⟩ := behind current
    have route : decryptRoute cipherSuite ratchet ad payload = some ⟨true, true⟩ := by
      rw [decryptRoute_accepted accepted, if_neg (rootSequence_ne_of_lt older), if_pos older,
        if_pos current]
      simp [receiver, sameKey, present, less]
    have stored : storeCurrentChain cipherSuite
        { ratchet with skippedMsgKeyList := skippedPointer rest } payload =
          (true, { ratchet with skippedMsgKeyList := skippedPointer rest }) :=
      storeCurrentChain_behind receiver present less
    simp [decryptRatchet, decryptBody, route, decryptSkipped, found, stored]
  · have route : decryptRoute cipherSuite ratchet ad payload = some ⟨false, true⟩ := by
      rw [decryptRoute_accepted accepted, if_neg (rootSequence_ne_of_lt older), if_pos older,
        if_neg current]
    simp [decryptRatchet, decryptBody, route, decryptSkipped, found]

/-- A message of an older chain without stored keys is refused. -/
theorem decryptRatchet_unstored (coins : Bytes β)
    (older : payload.rootSequence < ratchet.rootSequence)
    (notCurrent : payload.rootSequence ≠ ratchet.rootSequence - 1)
    (empty : ratchet.skipped = []) :
    (decryptRatchet cipherSuite ratchet ad payload coins).1 = none := by
  simp only [decryptRatchet, decryptBody]
  cases selected : decryptRoute cipherSuite ratchet ad payload with
  | none => rfl
  | some route =>
      obtain ⟨-, ⟨rfl, -⟩ | ⟨_, _, _, _, current, _⟩ | ⟨_, _, _, newer⟩⟩ :=
        decryptRoute_some selected
      · simp [decryptSkipped, empty, useSkippedKey]
      · exact absurd current notCurrent
      · exact absurd older newer

end E2eeSecurity
