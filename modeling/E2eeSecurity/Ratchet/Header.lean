/-
This file compares two decryptions of one message under different unauthenticated header fields.
-/
import E2eeSecurity.Ratchet.Calls

namespace E2eeSecurity

variable {β : Type} {cipherSuite : CipherSuite β}

/-- The two header fields that select the path and the number of previous keys are replaced. -/
def One2oneMsgPayload.withHeader (payload : One2oneMsgPayload β)
    (rootSequence sendingMessageSequence : UInt32) : One2oneMsgPayload β :=
  { payload with
    rootSequence := rootSequence
    sendingMessageSequence := sendingMessageSequence }

/-- Two ratchets agree on everything but the received total and the stored keys. -/
structure Ratchet.SameChains (first second : Ratchet β) : Prop where
  rootKey : first.rootKey = second.rootKey
  rootSequence : first.rootSequence = second.rootSequence
  senderChain : first.senderChain = second.senderChain
  receiverChain : first.receiverChain = second.receiverChain
  sendingMessageSequence : first.sendingMessageSequence = second.sendingMessageSequence

section Places

variable {sharedSecret : Bytes β} {ratchet : Ratchet β} {history : KeyHistory β}

/-- A stored key is at a stored place. -/
theorem Tracks.stored_place (tracks : Tracks cipherSuite sharedSecret ratchet history)
    {node : SkippedMsgKeyNode β} (member : node ∈ ratchet.skipped) :
    ∃ place ∈ history.ledger.stored, node.msgKey.derivedKey = cipherSuite.keyAt place := by
  have listed : node.msgKey.derivedKey ∈ history.ledger.stored.map cipherSuite.keyAt := by
    rw [← tracks.stored]
    exact List.mem_map.mpr ⟨node, member, rfl⟩
  obtain ⟨place, stored, same⟩ := List.mem_map.mp listed
  exact ⟨place, stored, same.symm⟩

variable (free : cipherSuite.FreeKeys)
include free

/-- A stored key is not ahead on the current chain. -/
theorem Tracks.stored_ne_current (tracks : Tracks cipherSuite sharedSecret ratchet history)
    {node : SkippedMsgKeyNode β} (member : node ∈ ratchet.skipped)
    {receiverChain : ReceiverChainNode β} {chainKey : ChainKey β}
    (receiver : ratchet.receiverChain = some receiverChain)
    (present : receiverChain.chainKey = some chainKey) (gap : Nat) :
    node.msgKey.derivedKey ≠
      cipherSuite.messageKey (cipherSuite.advance^[gap] chainKey.sharedKey) := by
  intro same
  obtain ⟨place, stored, placed⟩ := tracks.stored_place member
  obtain ⟨current, receiving, key⟩ := tracks.receiver receiverChain (by simp [receiver]) chainKey
    (by simp [present])
  rw [placed, key, ← Function.iterate_add_apply] at same
  have equal : place = (current.1, gap + current.2) :=
    keyAt_inj free (tracks.within.stored place stored)
      (tracks.within.receiving current (by simp [receiving])) same
  have sameOrigin : place.1 = current.1 := by rw [equal]
  have distance : place.2 = gap + current.2 := by rw [equal]
  have behind := tracks.sound.storedReceiving place stored current (by simp [receiving]) sameOrigin
  omega

/-- A key of a known chain is not a key of the next chain. -/
theorem Tracks.known_ne_new (tracks : Tracks cipherSuite sharedSecret ratchet history)
    {place : Bytes β × Nat}
    (known : place.1 ∈ cipherSuite.origins sharedSecret history.secrets) (secret : Bytes β)
    (gap : Nat) :
    cipherSuite.keyAt place ≠ cipherSuite.messageKey
      (cipherSuite.advance^[gap] (cipherSuite.nextChain ratchet.rootKey secret)) := by
  intro same
  have fresh := nextChain_fresh free sharedSecret history.secrets secret
  rw [tracks.root] at same
  have origin : cipherSuite.nextChain (cipherSuite.rootAt sharedSecret history.secrets) secret ∈
      cipherSuite.origins sharedSecret (history.secrets ++ [secret]) :=
    Or.inr ⟨history.secrets, List.prefix_append _ _, by simp, secret, rfl⟩
  have equal : place =
      (cipherSuite.nextChain (cipherSuite.rootAt sharedSecret history.secrets) secret, gap) :=
    keyAt_inj free (origins_mono _ [secret] known) origin same
  rw [equal] at known
  exact fresh known

theorem Tracks.stored_ne_new (tracks : Tracks cipherSuite sharedSecret ratchet history)
    {node : SkippedMsgKeyNode β} (member : node ∈ ratchet.skipped) (secret : Bytes β) (gap : Nat) :
    node.msgKey.derivedKey ≠ cipherSuite.messageKey
      (cipherSuite.advance^[gap] (cipherSuite.nextChain ratchet.rootKey secret)) := by
  obtain ⟨place, stored, placed⟩ := tracks.stored_place member
  rw [placed]
  exact tracks.known_ne_new free (tracks.within.stored place stored) secret gap

theorem Tracks.current_ne_new (tracks : Tracks cipherSuite sharedSecret ratchet history)
    {receiverChain : ReceiverChainNode β} {chainKey : ChainKey β}
    (receiver : ratchet.receiverChain = some receiverChain)
    (present : receiverChain.chainKey = some chainKey) (distance : Nat) (secret : Bytes β)
    (gap : Nat) :
    cipherSuite.messageKey (cipherSuite.advance^[distance] chainKey.sharedKey) ≠
      cipherSuite.messageKey
        (cipherSuite.advance^[gap] (cipherSuite.nextChain ratchet.rootKey secret)) := by
  obtain ⟨current, receiving, key⟩ := tracks.receiver receiverChain (by simp [receiver]) chainKey
    (by simp [present])
  rw [key, ← Function.iterate_add_apply]
  have known := tracks.within.receiving current (by simp [receiving])
  exact tracks.known_ne_new free (show (current.1, distance + current.2).1 ∈ _ from known) secret gap

end Places

section TwoRuns

variable [DecidableEq β] {sharedSecret : Bytes β} {ratchet : Ratchet β} {history : KeyHistory β}
  {ad coins : Bytes β} {payload : One2oneMsgPayload β}

/-- The search for a stored key does not read the replaced fields. -/
theorem useSkippedKey_withHeader (rootSequence total : UInt32)
    (list : List (SkippedMsgKeyNode β)) :
    useSkippedKey cipherSuite ad (payload.withHeader rootSequence total) list =
      useSkippedKey cipherSuite ad payload list := by
  induction list with
  | nil => rfl
  | cons node rest ih =>
      simp only [useSkippedKey, ih]
      rfl

/-- Two openings of one ciphertext give one plaintext and take one path. -/
theorem Outcome.agree (free : cipherSuite.FreeKeys) (ideal : cipherSuite.se.Ideal)
    (tracks : Tracks cipherSuite sharedSecret ratchet history) (rootSequence total : UInt32)
    {plaintext plaintext' : Bytes β} {first second : Ratchet β}
    (outcome : Outcome cipherSuite ratchet ad payload coins (some plaintext) first)
    (tampered : Outcome cipherSuite ratchet ad (payload.withHeader rootSequence total) coins
      (some plaintext') second) :
    plaintext' = plaintext ∧ second.SameChains first ∧
      (total = payload.sendingMessageSequence → second = first) := by
  cases outcome with
  | skipped accepted older before node after _ found split sameIndex opened =>
      have member : node ∈ ratchet.skipped := by simp [split]
      cases tampered with
      | skipped _ _ before' node' after' _ found' =>
          rw [useSkippedKey_withHeader, found, Option.some.injEq, Prod.mk.injEq] at found'
          obtain ⟨rfl, sameList⟩ := found'
          rw [sameList]
          exact ⟨rfl, ⟨rfl, rfl, rfl, rfl, rfl⟩, fun _ => rfl⟩
      | existing _ _ _ receiverChain chainKey _ receiver _ present _ _ opened' =>
          have sameKey := (ideal _ _ _ _ _ _ _ opened opened').2.1
          exact absurd sameKey (tracks.stored_ne_current free member receiver present _)
      | renewed _ _ _ renewal =>
          have sameKey := (ideal _ _ _ _ _ _ _ opened renewal.opened).2.1
          exact absurd sameKey (tracks.stored_ne_new free member _ _)
  | existing accepted current older receiverChain chainKey _ receiver sameRatchetKey present reached
      small opened =>
      cases tampered with
      | skipped _ _ before' node' after' _ _ split' _ opened' =>
          have member : node' ∈ ratchet.skipped := by simp [split']
          have sameKey := (ideal _ _ _ _ _ _ _ opened' opened).2.1
          exact absurd sameKey (tracks.stored_ne_current free member receiver present _)
      | existing _ _ _ receiverChain' chainKey' _ receiver' _ present' _ _ opened' =>
          rw [receiver, Option.some.injEq] at receiver'
          subst receiver'
          rw [present, Option.some.injEq] at present'
          subst present'
          refine ⟨(ideal _ _ _ _ _ _ _ opened' opened).2.2, ⟨rfl, rfl, rfl, rfl, rfl⟩, fun _ => rfl⟩
      | renewed _ _ _ renewal =>
          have sameKey := (ideal _ _ _ _ _ _ _ opened renewal.opened).2.1
          exact absurd sameKey (tracks.current_ne_new free receiver present _ _ _)
  | renewed receiverChain senderChain _ renewal near =>
      cases tampered with
      | skipped _ _ before' node' after' _ _ split' _ opened' =>
          have member : node' ∈ ratchet.skipped := by simp [split']
          have sameKey := (ideal _ _ _ _ _ _ _ opened' renewal.opened).2.1
          exact absurd sameKey (tracks.stored_ne_new free member _ _)
      | existing _ _ _ receiverChain' chainKey' _ receiver' _ present' _ _ opened' =>
          have sameKey := (ideal _ _ _ _ _ _ _ opened' renewal.opened).2.1
          exact absurd sameKey (tracks.current_ne_new free receiver' present' _ _ _)
      | renewed receiverChain' senderChain' _ renewal' near' =>
          have sameReceiver := renewal'.receiver
          rw [renewal.receiver, Option.some.injEq] at sameReceiver
          subst sameReceiver
          have sameSender := renewal'.sender
          rw [renewal.sender, Option.some.injEq] at sameSender
          subst sameSender
          refine ⟨(ideal _ _ _ _ _ _ _ renewal'.opened renewal.opened).2.2,
            ⟨rfl, rfl, rfl, rfl, rfl⟩, ?_⟩
          rintro rfl
          rfl

/-- A tampered header that fails leaves the chains alone when the original header succeeds. -/
theorem Outcome.failed (free : cipherSuite.FreeKeys) (ideal : cipherSuite.se.Ideal)
    (tracks : Tracks cipherSuite sharedSecret ratchet history) (rootSequence total : UInt32)
    {result : Option (Bytes β)} {first second : Ratchet β}
    (outcome : Outcome cipherSuite ratchet ad payload coins result first)
    (tampered : Outcome cipherSuite ratchet ad (payload.withHeader rootSequence total) coins
      none second)
    (reason : result ≠ none ∨ payload.sequence.toNat ≤ maxSkippedMessageKeyNodes) :
    second.SameChains ratchet ∧ second.skipped = ratchet.skipped := by
  cases tampered with
  | refused => exact ⟨⟨rfl, rfl, rfl, rfl, rfl⟩, rfl⟩
  | allocated => exact ⟨⟨rfl, rfl, rfl, rfl, rfl⟩, by simp [Ratchet.skipped]⟩
  | overrun receiverChain senderChain plaintext renewal far =>
      rcases reason with success | near
      · cases outcome with
        | refused => exact absurd rfl success
        | allocated => exact absurd rfl success
        | overrun => exact absurd rfl success
        | skipped _ _ before node after _ _ split _ opened =>
            have member : node ∈ ratchet.skipped := by simp [split]
            have sameKey := (ideal _ _ _ _ _ _ _ opened renewal.opened).2.1
            exact absurd sameKey (tracks.stored_ne_new free member _ _)
        | existing _ _ _ receiverChain' chainKey' _ receiver' _ present' _ _ opened =>
            have sameKey := (ideal _ _ _ _ _ _ _ opened renewal.opened).2.1
            exact absurd sameKey (tracks.current_ne_new free receiver' present' _ _ _)
        | renewed _ _ _ _ near => exact absurd near (Nat.not_le.mpr far)
      · exact absurd near (Nat.not_le.mpr far)

/-- The list of stored keys never outgrows its limit. -/
theorem runCalls_skipped_le {start : RatchetStart β}
    (made : start.initialise cipherSuite = some ratchet) (calls : List (RatchetCall β)) :
    (runCalls cipherSuite ratchet calls).skipped.length ≤ maxSkippedMessageKeyNodes := by
  have startShort : ratchet.skipped.length ≤ maxSkippedMessageKeyNodes := by
    cases start with
    | alice =>
        obtain ⟨-, -, -, theirCiphertext, -, -, rfl⟩ := initialiseAsAlice_some made
        exact Nat.zero_le _
    | bob =>
        obtain ⟨-, -, -, rfl⟩ := initialiseAsBob_some made
        exact Nat.zero_le _
  have kept : ∀ (state : Ratchet β) (call : RatchetCall β),
      state.skipped.length ≤ maxSkippedMessageKeyNodes →
      (applyCall cipherSuite state call).skipped.length ≤ maxSkippedMessageKeyNodes := by
    intro state call bound
    cases call with
    | encrypt ad plaintext =>
        have kept : (encryptRatchet cipherSuite state ad plaintext).2.skipped = state.skipped := by
          unfold encryptRatchet
          repeat' split
          all_goals rfl
        simp only [applyCall, kept]
        exact bound
    | decrypt ad payload coins => exact closeDecrypt_skipped_le _ _
  exact Machine.run_invariant kept calls startShort

end TwoRuns

variable [DecidableEq β]

/-- A tampered header never yields another plaintext, and a success leaves the same chains.
A failure leaves the chains and the stored keys alone, unless the message lies too far ahead. -/
theorem decryptRatchet_tampered_header (free : cipherSuite.FreeKeys)
    (ideal : cipherSuite.se.Ideal) {start : RatchetStart β} {initial : Ratchet β}
    (made : start.initialise cipherSuite = some initial) (calls : List (RatchetCall β))
    (ad coins : Bytes β) (payload : One2oneMsgPayload β) (rootSequence total : UInt32) :
    let ratchet := runCalls cipherSuite initial calls
    let original := decryptRatchet cipherSuite ratchet ad payload coins
    let tampered := decryptRatchet cipherSuite ratchet ad (payload.withHeader rootSequence total)
      coins
    (∀ plaintext, tampered.1 = some plaintext → ∀ ad' key plaintext',
      cipherSuite.se.decrypt ad' key payload.ciphertext = some plaintext' →
        plaintext = plaintext') ∧
    (tampered.1 ≠ none → original.1 ≠ none → tampered.1 = original.1 ∧
      tampered.2.SameChains original.2 ∧
      (total = payload.sendingMessageSequence → tampered.2 = original.2)) ∧
    (tampered.1 = none →
      original.1 ≠ none ∨ payload.sequence.toNat ≤ maxSkippedMessageKeyNodes →
      tampered.2.SameChains ratchet ∧ tampered.2.skipped = ratchet.skipped) := by
  intro ratchet original tampered
  obtain ⟨history, started, -⟩ := RatchetStart.tracks free made
  obtain ⟨last, tracks, -⟩ := started.run free calls
  have short : ratchet.skipped.length ≤ maxSkippedMessageKeyNodes := runCalls_skipped_le made calls
  have first : Outcome cipherSuite ratchet ad payload coins _ _ :=
    decryptBody_outcome tracks.sized coins
  have second : Outcome cipherSuite ratchet ad (payload.withHeader rootSequence total) coins _ _ :=
    decryptBody_outcome tracks.sized coins
  refine ⟨?_, ?_, ?_⟩
  · intro plaintext success ad' key plaintext' opened
    obtain ⟨next, -, -, opens⟩ := tracks.decrypt free ad (payload.withHeader rootSequence total) coins
    obtain ⟨place, -, -, opened'⟩ := opens plaintext success
    exact (ideal _ _ _ _ _ _ _ opened' opened).2.2
  · intro success success'
    obtain ⟨plaintext, found⟩ := Option.ne_none_iff_exists'.mp success
    obtain ⟨plaintext', found'⟩ := Option.ne_none_iff_exists'.mp success'
    have bodies : (decryptBody cipherSuite ratchet ad payload coins).1 = some plaintext' := found'
    have bodies' : (decryptBody cipherSuite ratchet ad (payload.withHeader rootSequence total)
      coins).1 = some plaintext := found
    rw [bodies] at first
    rw [bodies'] at second
    obtain ⟨same, chains, whole⟩ := first.agree free ideal tracks rootSequence total second
    refine ⟨by rw [found, found', same], ?_, ?_⟩
    · simp only [tampered, original, decryptRatchet, closeDecrypt_eq]
      exact ⟨chains.1, chains.2, chains.3, chains.4, chains.5⟩
    · intro sameTotal
      simp only [tampered, original, decryptRatchet, closeDecrypt_eq]
      rw [whole sameTotal]
      simp only [updatedTotal, One2oneMsgPayload.withHeader, sameTotal]
      rfl
  · intro failure reason
    have bodies : (decryptBody cipherSuite ratchet ad (payload.withHeader rootSequence total)
      coins).1 = none := failure
    rw [bodies] at second
    obtain ⟨chains, stored⟩ := first.failed free ideal tracks rootSequence total second reason
    constructor
    · simp only [tampered, decryptRatchet, closeDecrypt_eq]
      exact ⟨chains.1, chains.2, chains.3, chains.4, chains.5⟩
    · simp only [tampered, decryptRatchet]
      rw [closeDecrypt_skipped, stored, Nat.sub_eq_zero_of_le short, List.drop_zero]

/-- The first message of Alice also opens under the total zero. -/
theorem firstPayload_tampered_header :
    let original := decryptRatchet symbolicSuite Symbolic.bob Symbolic.associatedData
      Symbolic.firstPayload [.byte 6]
    let tampered := decryptRatchet symbolicSuite Symbolic.bob Symbolic.associatedData
      (Symbolic.firstPayload.withHeader 1 0) [.byte 6]
    original.1 = some [.byte 5] ∧ tampered.1 = original.1 ∧
      tampered.2.SameChains original.2 := by
  intro original tampered
  have compared := (decryptRatchet_tampered_header symbolicSuite_free symbolicSuite_ideal
    Symbolic.bobStart_made [] Symbolic.associatedData [.byte 6] Symbolic.firstPayload 1 0).2.1
    (by decide +kernel) (by decide +kernel)
  exact ⟨by decide +kernel, compared.1, compared.2.1⟩

/-- With the total five the first message of Alice fails and still changes the ratchet of Bob.
With the total zero it succeeds and leaves another ratchet than the original header. -/
theorem decryptRatchet_header_changes :
    let original := decryptRatchet symbolicSuite Symbolic.bob Symbolic.associatedData
      Symbolic.firstPayload [.byte 6]
    let raised := decryptRatchet symbolicSuite Symbolic.bob Symbolic.associatedData
      (Symbolic.firstPayload.withHeader Symbolic.firstPayload.rootSequence 5) [.byte 6]
    let lowered := decryptRatchet symbolicSuite Symbolic.bob Symbolic.associatedData
      (Symbolic.firstPayload.withHeader Symbolic.firstPayload.rootSequence 0) [.byte 6]
    original.1 = some [.byte 5] ∧ (raised.1 = none ∧ raised.2 ≠ Symbolic.bob) ∧
      lowered.1 = some [.byte 5] ∧ lowered.2 ≠ original.2 := by
  decide +kernel

end E2eeSecurity
