/-
This file compares the chain of a trial decryption with the chain that the call commits.
-/
import E2eeSecurity.Ratchet.Acceptance
import E2eeSecurity.Ratchet.Calls

namespace E2eeSecurity

variable {β : Type} {cipherSuite : CipherSuite β}

/-- This is the chain key at a position of the chain that begins with a given key. -/
def CipherSuite.chainKeyAt (cipherSuite : CipherSuite β) (first : Bytes β) (position : Nat) :
    ChainKey β :=
  ⟨UInt32.ofNat position, cipherSuite.advance^[position] first⟩

/-- These are the stored keys at consecutive positions of one chain. -/
def CipherSuite.nodesAt (cipherSuite : CipherSuite β) (ratchetKey first : Bytes β)
    (position count : Nat) : List (SkippedMsgKeyNode β) :=
  (List.range' position count).map fun place => ⟨ratchetKey, ⟨UInt32.ofNat place,
    cipherSuite.messageKey (cipherSuite.advance^[place] first)⟩⟩

/-- This is the position of a message on a chain that stands at a position.
The header carries the position modulo 2^32. -/
def messagePosition (position : Nat) (payload : One2oneMsgPayload β) : Nat :=
  position - position % 2 ^ 32 + payload.sequence.toNat

/-- This is the chain key at which a trial on a chain opens the message. -/
def trialKey (cipherSuite : CipherSuite β) (chain : Option (ChainKey β))
    (payload : One2oneMsgPayload β) : Option (ChainKey β) :=
  chain.bind fun chainKey => advanceChainKeyTimes cipherSuite
    (payload.sequence.toNat - chainKey.index.toNat) (some chainKey)

/-- This is the chain key from which the trial of a new chain starts. -/
def newTrialChain (cipherSuite : CipherSuite β) (ratchet : Ratchet β)
    (payload : One2oneMsgPayload β) : Option (ChainKey β) :=
  ratchet.receiverChain.map fun receiverChain =>
    (trialChain cipherSuite receiverChain.ourRatchetPrivateKey payload.ratchetKey
      (payload.rootSequence.toNat - ratchet.rootSequence.toNat)
      (ratchet.rootKey, ChainKey.initial)).2

/-- This is the ratchet after the commit of the new chains, before the message is read on them. -/
def committedChains (cipherSuite : CipherSuite β) (ratchet : Ratchet β)
    (payload : One2oneMsgPayload β) (coins : Bytes β) : Ratchet β :=
  commitNewChains cipherSuite (storePreviousChain cipherSuite ratchet payload).2 payload coins

/-- This is the chain key of the receiver chain when the loop over the gap has ended. -/
def passedKey (cipherSuite : CipherSuite β) (ratchet : Ratchet β)
    (payload : One2oneMsgPayload β) : Option (ChainKey β) :=
  ratchet.receiverChain.bind fun receiverChain =>
    receiverChain.chainKey.bind fun chainKey =>
      (storeSkippedKeys cipherSuite receiverChain.theirRatchetPublicKey
        (payload.sequence.toNat - chainKey.index.toNat) (some chainKey) ratchet.skipped).2.1

/-- This is the chain key of the receiver chain. -/
def receiverKey (ratchet : Ratchet β) : Option (ChainKey β) :=
  ratchet.receiverChain.bind fun receiverChain => receiverChain.chainKey

/-- The log keeps the first key of the current receiver chain beside the ratchet. -/
structure ReceiverLog (β : Type) where
  ratchet : Ratchet β
  first : Option (Bytes β)

section Logging

variable [DecidableEq β]

/-- A call that changes the root sequence has installed a new receiver chain. -/
def logReceiver (cipherSuite : CipherSuite β) (log : ReceiverLog β) (call : RatchetCall β) :
    ReceiverLog β :=
  let after := applyCall cipherSuite log.ratchet call
  { ratchet := after
    first := match call with
      | .encrypt _ _ => log.first
      | .decrypt _ payload coins =>
          if after.rootSequence = log.ratchet.rootSequence then log.first
          else (receiverKey (committedChains cipherSuite log.ratchet payload coins)).map
            fun chainKey => chainKey.sharedKey }

def startReceiver (ratchet : Ratchet β) : ReceiverLog β :=
  ⟨ratchet, (receiverKey ratchet).map fun chainKey => chainKey.sharedKey⟩

def runReceiver (cipherSuite : CipherSuite β) (ratchet : Ratchet β)
    (calls : List (RatchetCall β)) : ReceiverLog β :=
  Machine.run (logReceiver cipherSuite) (startReceiver ratchet) calls

/-- The call commits the chain that its trial used.
The trial starts at the chain key `trial`, and the message is read on the receiver chain of
`committed`. This chain begins with the key `first` and stands at `position`.
The keys of the chain before it that were skipped are `earlier`. -/
structure CommitsTrial (cipherSuite : CipherSuite β) (ratchet : Ratchet β) (ad : Bytes β)
    (payload : One2oneMsgPayload β) (coins plaintext : Bytes β) (trial : Option (ChainKey β))
    (committed : Ratchet β) (first : Bytes β) (position : Nat)
    (earlier : List (SkippedMsgKeyNode β)) : Prop where
  tried : verifyAndDecryptForExistingChain cipherSuite ad trial payload = some plaintext
  opened : ∃ msgKey, createMsgKeys cipherSuite (trialKey cipherSuite trial payload) =
    some msgKey ∧ verifyAndDecrypt cipherSuite ad msgKey payload = some plaintext
  start : receiverKey committed = some (cipherSuite.chainKeyAt first position)
  passed : passedKey cipherSuite committed payload = trialKey cipherSuite trial payload
  place : trialKey cipherSuite trial payload =
    some (cipherSuite.chainKeyAt first (messagePosition position payload))
  after : receiverKey (decryptRatchet cipherSuite ratchet ad payload coins).2 =
    some (cipherSuite.chainKeyAt first (messagePosition position payload + 1))
  index : UInt32.ofNat (messagePosition position payload) = payload.sequence
  tag : (decryptRatchet cipherSuite ratchet ad payload coins).2.receiverChain.map
    (fun chain => chain.theirRatchetPublicKey) = some payload.ratchetKey
  stored : (decryptBody cipherSuite ratchet ad payload coins).2.skipped =
    ratchet.skipped ++ earlier ++ cipherSuite.nodesAt payload.ratchetKey first position
      (messagePosition position payload - position)
  kept : (decryptRatchet cipherSuite ratchet ad payload coins).2.skipped =
    (decryptBody cipherSuite ratchet ad payload coins).2.skipped.drop
      ((decryptBody cipherSuite ratchet ad payload coins).2.skipped.length -
        maxSkippedMessageKeyNodes)

end Logging

section Positions

theorem chainKeyAt_moved (first : Bytes β) (position count : Nat) :
    (⟨UInt32.ofNat position + UInt32.ofNat count,
      cipherSuite.advance^[count] (cipherSuite.advance^[position] first)⟩ : ChainKey β) =
        cipherSuite.chainKeyAt first (position + count) := by
  rw [CipherSuite.chainKeyAt, UInt32.ofNat_add, ← Function.iterate_add_apply, Nat.add_comm count]

/-- The keys that the loop stores are the keys at the positions that the chain passes. -/
theorem skippedNodes_at (ratchetKey first : Bytes β) (position count : Nat) :
    skippedNodes cipherSuite ratchetKey (UInt32.ofNat position)
        (cipherSuite.advance^[position] first) count =
      cipherSuite.nodesAt ratchetKey first position count := by
  rw [skippedNodes, CipherSuite.nodesAt, List.range'_eq_map_range, List.map_map]
  apply List.map_congr_left
  intro offset _
  rw [Function.comp_apply, UInt32.ofNat_add, ← Function.iterate_add_apply, Nat.add_comm offset]

variable {payload : One2oneMsgPayload β} {position : Nat}

theorem messagePosition_eq (reached : ¬ payload.sequence < UInt32.ofNat position) :
    messagePosition position payload =
      position + (payload.sequence.toNat - (UInt32.ofNat position).toNat) := by
  rw [UInt32.lt_iff_toNat_lt, UInt32.toNat_ofNat'] at reached
  rw [messagePosition, UInt32.toNat_ofNat']
  have below := Nat.mod_le position (2 ^ 32)
  omega

theorem messagePosition_sequence (position : Nat) (payload : One2oneMsgPayload β) :
    UInt32.ofNat (messagePosition position payload) = payload.sequence := by
  apply UInt32.toNat_inj.mp
  have bound := payload.sequence.toNat_lt
  have below := Nat.mod_le position (2 ^ 32)
  rw [UInt32.toNat_ofNat', messagePosition]
  omega

end Positions

section Reading

variable {ratchet : Ratchet β} {ad : Bytes β} {payload : One2oneMsgPayload β}
  {receiverChain : ReceiverChainNode β} {first : Bytes β} {position : Nat}

/-- A read message leaves the chain behind the position of the message. -/
theorem readRatchet_at
    (reached : ¬ payload.sequence < UInt32.ofNat position) :
    receiverKey (readRatchet cipherSuite ratchet payload receiverChain
      (cipherSuite.chainKeyAt first position)) =
        some (cipherSuite.chainKeyAt first (messagePosition position payload + 1)) := by
  have sequence := messagePosition_sequence position payload
  rw [messagePosition_eq reached] at sequence ⊢
  simp only [receiverKey, readRatchet, Option.bind_some, CipherSuite.chainKeyAt, Option.some.injEq,
    ChainKey.mk.injEq]
  constructor
  · rw [UInt32.ofNat_add, sequence]
    rfl
  · rw [← Function.iterate_add_apply]
    congr 1
    omega

/-- A read message stores the keys at the positions before it. -/
theorem readRatchet_stored
    (reached : ¬ payload.sequence < UInt32.ofNat position) :
    (readRatchet cipherSuite ratchet payload receiverChain
      (cipherSuite.chainKeyAt first position)).skipped =
        ratchet.skipped ++ cipherSuite.nodesAt receiverChain.theirRatchetPublicKey first position
          (messagePosition position payload - position) := by
  have gap : messagePosition position payload - position =
      payload.sequence.toNat - (UInt32.ofNat position).toNat := by
    rw [messagePosition_eq reached]
    omega
  rw [gap, ← skippedNodes_at]
  exact readRatchet_skipped ratchet payload receiverChain (cipherSuite.chainKeyAt first position)

/-- A new chain is left behind the position of its first message. -/
theorem startedRatchet_at (coins : Bytes β) (senderChain : SenderChainNode β) :
    receiverKey (startedRatchet cipherSuite ratchet payload coins receiverChain senderChain) =
      some (cipherSuite.chainKeyAt (cipherSuite.nextChain ratchet.rootKey
        (cipherSuite.kem.decaps receiverChain.ourRatchetPrivateKey payload.ratchetKey))
        (messagePosition 0 payload + 1)) :=
  readRatchet_at UInt32.not_lt_zero

/-- The trial opens the message at its position. -/
theorem trialKey_at (suite : isValidCipherSuite cipherSuite = true)
    (full : cipherSuite.FullKey (cipherSuite.advance^[position] first))
    (reached : ¬ payload.sequence < UInt32.ofNat position) :
    trialKey cipherSuite (some (cipherSuite.chainKeyAt first position)) payload =
      some (cipherSuite.chainKeyAt first (messagePosition position payload)) := by
  rw [messagePosition_eq reached, ← chainKeyAt_moved]
  exact advanceChainKeyTimes_full suite _ full

/-- The loop over the gap passes the position of the message. -/
theorem passedKey_at (suite : isValidCipherSuite cipherSuite = true)
    (receiver : receiverKey ratchet = some (cipherSuite.chainKeyAt first position))
    (full : cipherSuite.FullKey (cipherSuite.advance^[position] first))
    (reached : ¬ payload.sequence < UInt32.ofNat position) :
    passedKey cipherSuite ratchet payload =
      some (cipherSuite.chainKeyAt first (messagePosition position payload)) := by
  obtain ⟨chain, present, key⟩ := Option.bind_eq_some_iff.mp receiver
  rw [messagePosition_eq reached, ← chainKeyAt_moved, passedKey, present, Option.bind_some, key,
    Option.bind_some, CipherSuite.chainKeyAt, storeSkippedKeys_full suite _ _ _ full]

/-- The message key at the position of the message opens it. -/
theorem verifyAndDecrypt_at (accepted : Accepted cipherSuite ratchet ad payload)
    (full : cipherSuite.FullKey (cipherSuite.advance^[position] first)) {plaintext : Bytes β}
    (opened : cipherSuite.se.decrypt ad (cipherSuite.messageKey (cipherSuite.advance^[position]
      first)) payload.ciphertext = some plaintext) :
    ∃ msgKey, createMsgKeys cipherSuite (some (cipherSuite.chainKeyAt first position)) =
      some msgKey ∧ verifyAndDecrypt cipherSuite ad msgKey payload = some plaintext := by
  refine ⟨_, createMsgKeys_full accepted.suite _ full, ?_⟩
  simp [verifyAndDecrypt, accepted.suite, accepted.adPresent, accepted.validPayload, isValidMsgKey,
    messageKey_nonempty, opened]

/-- The commit installs the chain that the trial of a new chain starts from. -/
theorem committedChains_renewal (sized : ratchet.Sized cipherSuite) (coins : Bytes β)
    {senderChain : SenderChainNode β} {plaintext : Bytes β}
    (renewal : Renewal cipherSuite ratchet ad payload receiverChain senderChain plaintext) :
    committedChains cipherSuite ratchet payload coins =
        committedRatchet cipherSuite ratchet payload coins receiverChain senderChain ∧
      newTrialChain cipherSuite ratchet payload = receiverKey
        (committedRatchet cipherSuite ratchet payload coins receiverChain senderChain) := by
  obtain ⟨-, ⟨senderChain', senderKey, sender, -, peer, -, -⟩, receiverChain', receiver, ours⟩ :=
    isValidRatchet_parts renewal.accepted.validRatchet
  rw [renewal.receiver, Option.some.injEq] at receiver
  subst receiver
  rw [renewal.sender, Option.some.injEq] at sender
  subst sender
  have suite := renewal.accepted.suite
  have theirs := ((isValidOne2oneMsgPayload_iff payload).mp renewal.accepted.validPayload).1
  obtain ⟨-, distance⟩ := rootSequence_ahead renewal.next renewal.newer
  obtain ⟨lastKey, stored⟩ := storePreviousChain_full suite sized renewal.receiver
    renewal.previousPresent renewal.previousSmall
  have committed := commitNewChains_full suite { ratchet with
    receiverChain := some { receiverChain with chainKey := lastKey }
    skippedMsgKeyList := previousList cipherSuite ratchet receiverChain
      (previousSkippedNum ratchet payload) } payload coins rfl renewal.sender sized.root ours theirs
    peer
  constructor
  · rw [committedChains, stored]
    exact committed
  · rw [newTrialChain, renewal.receiver, Option.map_some, distance,
      trialChain_one suite sized.root ours theirs]
    rfl

end Reading

section Runs

variable [DecidableEq β] {log : ReceiverLog β}

/-- The receiver chain stands at a position of the chain that begins with the logged key. -/
structure OnChain (cipherSuite : CipherSuite β) (log : ReceiverLog β) : Prop where
  sized : log.ratchet.Sized cipherSuite
  position : ∀ key ∈ receiverKey log.ratchet, ∃ first position, log.first = some first ∧
    key = cipherSuite.chainKeyAt first position

omit [DecidableEq β] in
theorem OnChain.full (onChain : OnChain cipherSuite log) {first : Bytes β} {position : Nat}
    (present : receiverKey log.ratchet = some (cipherSuite.chainKeyAt first position)) :
    cipherSuite.FullKey (cipherSuite.advance^[position] first) := by
  obtain ⟨chain, receiver, key⟩ := Option.bind_eq_some_iff.mp present
  exact onChain.sized.receiver chain receiver _ key

omit [DecidableEq β] in
theorem OnChain.start {ratchet : Ratchet β} {start : RatchetStart β}
    (made : start.initialise cipherSuite = some ratchet) :
    OnChain cipherSuite (startReceiver ratchet) := by
  cases start with
  | bob sharedSecret ourRatchetKey theirRatchetKey coins =>
      obtain ⟨-, -, -, rfl⟩ := initialiseAsBob_some made
      refine ⟨⟨initialRoot_full _, ?_, by simp [startReceiver]⟩, by simp [receiverKey, startReceiver]⟩
      simp [startReceiver, initialChain_full]
  | alice sharedSecret ourRatchetKey theirRatchetKey theirEncapsCiphertext coins =>
      obtain ⟨-, -, -, theirCiphertext, rfl, -, rfl⟩ := initialiseAsAlice_some made
      refine ⟨⟨nextRoot_full _ _, ?_, ?_⟩, ?_⟩
      · simp [startReceiver, nextChain_full]
      · simp [startReceiver, initialChain_full]
      · intro key present
        simp only [receiverKey, startReceiver, Option.bind_some, Option.mem_some_iff] at present
        subst present
        exact ⟨cipherSuite.initialChain sharedSecret, 0, rfl, rfl⟩

omit [DecidableEq β] in
@[simp] theorem receiverKey_closeDecrypt (ratchet : Ratchet β) (payload : One2oneMsgPayload β) :
    receiverKey (closeDecrypt ratchet payload) = receiverKey ratchet := by
  rw [closeDecrypt_eq]
  rfl

theorem decryptRatchet_rootSequence (ratchet : Ratchet β) (ad : Bytes β)
    (payload : One2oneMsgPayload β) (coins : Bytes β) :
    (decryptRatchet cipherSuite ratchet ad payload coins).2.rootSequence =
      (decryptBody cipherSuite ratchet ad payload coins).2.rootSequence := by
  rw [decryptRatchet, closeDecrypt_eq]

section Logs

variable {ad : Bytes β} {payload : One2oneMsgPayload β} {coins : Bytes β}

/-- A decryption that keeps the root sequence keeps the first key in the log. -/
theorem logReceiver_kept
    (same : (decryptBody cipherSuite log.ratchet ad payload coins).2.rootSequence =
      log.ratchet.rootSequence) :
    (logReceiver cipherSuite log (.decrypt ad payload coins)).first = log.first :=
  if_pos ((decryptRatchet_rootSequence log.ratchet ad payload coins).trans same)

/-- The installed receiver chain begins with the logged key. -/
theorem logReceiver_installed (sized : log.ratchet.Sized cipherSuite) {plaintext : Bytes β}
    {receiverChain : ReceiverChainNode β} {senderChain : SenderChainNode β}
    (renewal : Renewal cipherSuite log.ratchet ad payload receiverChain senderChain plaintext)
    (moved : (decryptBody cipherSuite log.ratchet ad payload coins).2.rootSequence =
      log.ratchet.rootSequence + 1 + 1) :
    (logReceiver cipherSuite log (.decrypt ad payload coins)).first =
      some (cipherSuite.nextChain log.ratchet.rootKey (cipherSuite.kem.decaps
        receiverChain.ourRatchetPrivateKey payload.ratchetKey)) := by
  have changed : (applyCall cipherSuite log.ratchet (.decrypt ad payload coins)).rootSequence ≠
      log.ratchet.rootSequence := by
    rw [applyCall, decryptRatchet_rootSequence, moved]
    exact rootSequence_moved _
  simp only [logReceiver, if_neg changed, (committedChains_renewal sized coins renewal).1]
  rfl

/-- A decryption leaves the receiver chain at a position of the chain in the log. -/
theorem OnChain.decrypt (onChain : OnChain cipherSuite log) (ad : Bytes β)
    (payload : One2oneMsgPayload β) (coins : Bytes β) :
    OnChain cipherSuite (logReceiver cipherSuite log (.decrypt ad payload coins)) := by
  refine ⟨(decryptRatchet_frame onChain.sized ad payload coins).sized, ?_⟩
  have outcome : Outcome cipherSuite log.ratchet ad payload coins _ _ :=
    decryptBody_outcome onChain.sized coins
  have closed : receiverKey (logReceiver cipherSuite log (.decrypt ad payload coins)).ratchet =
      receiverKey (decryptBody cipherSuite log.ratchet ad payload coins).2 :=
    receiverKey_closeDecrypt _ _
  rw [closed]
  generalize (decryptBody cipherSuite log.ratchet ad payload coins).1 = result at outcome
  generalize body : (decryptBody cipherSuite log.ratchet ad payload coins).2 = after at outcome
  intro key present
  cases outcome with
  | refused | allocated | skipped =>
      rw [logReceiver_kept (by rw [body])]
      exact onChain.position key present
  | existing accepted _ _ receiverChain chainKey _ receiver _ current reached =>
      obtain ⟨first, position, logged, rfl⟩ := onChain.position chainKey (by
        rw [receiverKey, receiver, Option.bind_some, current, Option.mem_some_iff])
      rw [readRatchet_at reached, Option.mem_some_iff] at present
      rw [logReceiver_kept (by rw [body, readRatchet])]
      exact ⟨first, _, logged, present.symm⟩
  | renewed receiverChain senderChain plaintext renewal =>
      have installed := logReceiver_installed onChain.sized renewal
        (congrArg Ratchet.rootSequence body)
      rw [startedRatchet_at, Option.mem_some_iff] at present
      exact ⟨_, _, installed, present.symm⟩
  | overrun receiverChain senderChain plaintext renewal =>
      have installed := logReceiver_installed onChain.sized renewal
        (congrArg Ratchet.rootSequence body)
      refine ⟨_, 0, installed, ?_⟩
      rw [committedRatchet, renewedRatchet, receiverKey, Option.bind_some, Option.mem_some_iff] at present
      exact present.symm

end Logs

/-- A call leaves the receiver chain at a position of the chain in the log. -/
theorem OnChain.call (onChain : OnChain cipherSuite log) (call : RatchetCall β) :
    OnChain cipherSuite (logReceiver cipherSuite log call) := by
  cases call with
  | encrypt ad plaintext =>
      have receiver : (encryptRatchet cipherSuite log.ratchet ad plaintext).2.receiverChain =
          log.ratchet.receiverChain := (encryptRatchet_keeps log.ratchet ad plaintext).1
      refine ⟨encryptRatchet_sized onChain.sized ad plaintext, ?_⟩
      have same : receiverKey (logReceiver cipherSuite log (.encrypt ad plaintext)).ratchet =
          receiverKey log.ratchet := by
        simp only [receiverKey, logReceiver, applyCall, receiver]
      rw [same]
      exact onChain.position
  | decrypt ad payload coins => exact onChain.decrypt ad payload coins

section Agreement

variable {ad : Bytes β} {payload : One2oneMsgPayload β} {coins plaintext : Bytes β}

/-- Reading a message on a chain commits the chain that the trial used. -/
theorem CommitsTrial.of_read {ratchet committed : Ratchet β} {receiverChain : ReceiverChainNode β}
    {first : Bytes β} {position : Nat} {earlier : List (SkippedMsgKeyNode β)}
    (accepted : Accepted cipherSuite ratchet ad payload)
    (start : receiverKey committed = some (cipherSuite.chainKeyAt first position))
    (full : cipherSuite.FullKey (cipherSuite.advance^[position] first))
    (reached : ¬ payload.sequence < UInt32.ofNat position)
    (opened : cipherSuite.se.decrypt ad (cipherSuite.messageKey (cipherSuite.advance^[
      messagePosition position payload] first)) payload.ciphertext = some plaintext)
    (tagged : receiverChain.theirRatchetPublicKey = payload.ratchetKey)
    (skipped : committed.skipped = ratchet.skipped ++ earlier)
    (body : decryptBody cipherSuite ratchet ad payload coins = (some plaintext, readRatchet
      cipherSuite committed payload receiverChain (cipherSuite.chainKeyAt first position))) :
    CommitsTrial cipherSuite ratchet ad payload coins plaintext (receiverKey committed) committed
      first position earlier where
  tried := by
    rw [start]
    refine Eq.trans (verifyAndDecryptForExistingChain_full accepted.suite accepted.adPresent
      accepted.validPayload full reached) ?_
    rw [← Function.iterate_add_apply, Nat.add_comm, ← messagePosition_eq reached]
    exact opened
  opened := by
    rw [start, trialKey_at accepted.suite full reached]
    apply verifyAndDecrypt_at accepted _ opened
    rw [messagePosition_eq reached, Nat.add_comm, Function.iterate_add_apply]
    exact advance_iterate_full full _
  start := start
  passed := by
    rw [passedKey_at accepted.suite start full reached, start,
      trialKey_at accepted.suite full reached]
  place := by rw [start, trialKey_at accepted.suite full reached]
  after := by
    rw [decryptRatchet, body, receiverKey_closeDecrypt]
    exact readRatchet_at reached
  index := messagePosition_sequence position payload
  tag := by
    rw [decryptRatchet, body, closeDecrypt_eq]
    exact congrArg some tagged
  stored := by rw [body, readRatchet_stored reached, skipped, tagged]
  kept := closeDecrypt_skipped _ payload

/-- A message on the current chain commits its trial. -/
theorem CommitsTrial.existing (onChain : OnChain cipherSuite log)
    (route : decryptRoute cipherSuite log.ratchet ad payload = some ⟨true, false⟩)
    (success : (decryptRatchet cipherSuite log.ratchet ad payload coins).1 = some plaintext) :
    ∃ first position, log.first = some first ∧ CommitsTrial cipherSuite log.ratchet ad payload
      coins plaintext (receiverKey log.ratchet) log.ratchet first position [] := by
  obtain ⟨receiverChain, chainKey, accepted, receiver, sameKey, present, reached, opened, body⟩ :=
    decryptBody_current onChain.sized route success
  have start : receiverKey log.ratchet = some chainKey := by
    rw [receiverKey, receiver, Option.bind_some, present]
  obtain ⟨first, position, logged, rfl⟩ := onChain.position chainKey start
  refine ⟨first, position, logged, .of_read accepted start (onChain.full start) reached ?_ sameKey
    (List.append_nil _).symm body⟩
  rw [messagePosition_eq reached, Nat.add_comm, Function.iterate_add_apply]
  exact opened

/-- These are the keys of the previous chain that the totals announce as skipped. -/
def PreviousKeys (cipherSuite : CipherSuite β) (log : ReceiverLog β)
    (payload : One2oneMsgPayload β) (earlier : List (SkippedMsgKeyNode β)) : Prop :=
  (previousSkippedNum log.ratchet payload = 0 ∧ earlier = []) ∨
    ∃ receiverChain first position, log.ratchet.receiverChain = some receiverChain ∧
      log.first = some first ∧
      receiverChain.chainKey = some (cipherSuite.chainKeyAt first position) ∧
      earlier = cipherSuite.nodesAt receiverChain.theirRatchetPublicKey first position
        (previousSkippedNum log.ratchet payload)

omit [DecidableEq β] in
/-- The commit stores the announced keys of the previous chain. -/
theorem OnChain.previous (onChain : OnChain cipherSuite log) (coins : Bytes β)
    {receiverChain : ReceiverChainNode β} {senderChain : SenderChainNode β}
    (renewal : Renewal cipherSuite log.ratchet ad payload receiverChain senderChain plaintext) :
    ∃ earlier, PreviousKeys cipherSuite log payload earlier ∧
      (committedRatchet cipherSuite log.ratchet payload coins receiverChain senderChain).skipped =
        log.ratchet.skipped ++ earlier := by
  by_cases zero : previousSkippedNum log.ratchet payload = 0
  · refine ⟨[], Or.inl ⟨zero, rfl⟩, ?_⟩
    have kept : previousList cipherSuite log.ratchet receiverChain 0 =
        log.ratchet.skippedMsgKeyList := by
      unfold previousList
      split <;> rfl
    rw [committedRatchet, zero, kept, List.append_nil]
    rfl
  · obtain ⟨chainKey, present⟩ := renewal.previousPresent zero
    obtain ⟨first, position, logged, rfl⟩ := onChain.position chainKey (by
      rw [receiverKey, renewal.receiver, Option.bind_some, present, Option.mem_some_iff])
    refine ⟨_, Or.inr ⟨receiverChain, first, position, renewal.receiver, logged, present, rfl⟩, ?_⟩
    rw [← skippedNodes_at]
    exact previousList_skipped log.ratchet present _

/-- A message on a new chain commits its trial. -/
theorem CommitsTrial.renewed (onChain : OnChain cipherSuite log)
    (route : decryptRoute cipherSuite log.ratchet ad payload = some ⟨false, false⟩)
    (success : (decryptRatchet cipherSuite log.ratchet ad payload coins).1 = some plaintext) :
    ∃ first earlier,
      (logReceiver cipherSuite log (.decrypt ad payload coins)).first = some first ∧
      PreviousKeys cipherSuite log payload earlier ∧
      CommitsTrial cipherSuite log.ratchet ad payload coins plaintext
        (newTrialChain cipherSuite log.ratchet payload)
        (committedChains cipherSuite log.ratchet payload coins) first 0 earlier := by
  obtain ⟨receiverChain, senderChain, renewal, body⟩ :=
    decryptBody_renewed onChain.sized route success
  obtain ⟨committed, trial⟩ := committedChains_renewal onChain.sized coins renewal
  obtain ⟨earlier, announced, stored⟩ := onChain.previous coins renewal
  have installed := logReceiver_installed onChain.sized renewal (by
    rw [body]
    rfl)
  refine ⟨_, earlier, installed, announced, ?_⟩
  rw [trial, committed]
  refine .of_read renewal.accepted rfl (nextChain_full _ _) UInt32.not_lt_zero ?_ rfl stored body
  rw [messagePosition, Nat.zero_sub, Nat.zero_add]
  exact renewal.opened

end Agreement

/-- The log follows the run of the ratchet. -/
theorem runReceiver_ratchet (ratchet : Ratchet β) (calls : List (RatchetCall β)) :
    (runReceiver cipherSuite ratchet calls).ratchet = runCalls cipherSuite ratchet calls := by
  have follows : ∀ log : ReceiverLog β, (Machine.run (logReceiver cipherSuite) log calls).ratchet =
      Machine.run (applyCall cipherSuite) log.ratchet calls := by
    induction calls with
    | nil => exact fun _ => rfl
    | cons call rest ih => exact fun log => ih (logReceiver cipherSuite log call)
  exact follows (startReceiver ratchet)

/-- A message that is opened on the current chain or on a new chain is opened under the chain key
that the committed receiver chain passes, for every ratchet that calls have reached. -/
theorem decryptRatchet_trial_commit {start : RatchetStart β} {initial : Ratchet β}
    (made : start.initialise cipherSuite = some initial) (calls : List (RatchetCall β))
    (ad : Bytes β) (payload : One2oneMsgPayload β) (coins plaintext : Bytes β)
    (success : (decryptRatchet cipherSuite (runCalls cipherSuite initial calls) ad payload
      coins).1 = some plaintext) :
    let log := runReceiver cipherSuite initial calls
    let ratchet := runCalls cipherSuite initial calls
    (decryptRoute cipherSuite ratchet ad payload = some ⟨true, false⟩ →
        ∃ first position, log.first = some first ∧
          CommitsTrial cipherSuite ratchet ad payload coins plaintext (receiverKey ratchet)
            ratchet first position []) ∧
      (decryptRoute cipherSuite ratchet ad payload = some ⟨false, false⟩ →
        ∃ first earlier,
          (logReceiver cipherSuite log (.decrypt ad payload coins)).first = some first ∧
          PreviousKeys cipherSuite log payload earlier ∧
          CommitsTrial cipherSuite ratchet ad payload coins plaintext
            (newTrialChain cipherSuite ratchet payload)
            (committedChains cipherSuite ratchet payload coins) first 0 earlier) := by
  intro log ratchet
  have onChain : OnChain cipherSuite log :=
    Machine.run_invariant (fun _ call onChain => onChain.call call) calls (OnChain.start made)
  have same : log.ratchet = ratchet := runReceiver_ratchet initial calls
  rw [← same]
  have opened : (decryptRatchet cipherSuite log.ratchet ad payload coins).1 = some plaintext := by
    rw [same]
    exact success
  constructor
  · exact fun route => CommitsTrial.existing onChain route opened
  · exact fun route => CommitsTrial.renewed onChain route opened

end Runs

open Symbolic in
/-- Bob opens the second message of Alice on a new chain and the fourth one on the chain that he has
then. He skips a message both times, and commits the chain under which he opened. -/
theorem longPayload_trial_commit :
    let log := runReceiver symbolicSuite bob []
    let next := runCalls symbolicSuite bob [longCall 1]
    (∃ first earlier, (logReceiver symbolicSuite log (longCall 1)).first = some first ∧
      PreviousKeys symbolicSuite log (longPayload 1) earlier ∧
      CommitsTrial symbolicSuite bob associatedData (longPayload 1) [.byte 6] [.byte 5]
        (newTrialChain symbolicSuite bob (longPayload 1))
        (committedChains symbolicSuite bob (longPayload 1) [.byte 6]) first 0 earlier) ∧
    ∃ first position, (runReceiver symbolicSuite bob [longCall 1]).first = some first ∧
      CommitsTrial symbolicSuite next associatedData (longPayload 3) [.byte 6] [.byte 5]
        (receiverKey next) next first position [] :=
  ⟨(decryptRatchet_trial_commit bobStart_made [] associatedData (longPayload 1) [.byte 6] [.byte 5]
      (by decide +kernel)).2 (by decide +kernel),
    (decryptRatchet_trial_commit bobStart_made [longCall 1] associatedData (longPayload 3)
      [.byte 6] [.byte 5] (by decide +kernel)).1 (by decide +kernel)⟩

namespace Symbolic

/-- Bob skips the first message and reads the following ones in order. -/
def longCalls (count : Nat) : List (RatchetCall FreeTerm) :=
  (List.range' 1 count).map longCall

/-- Bob stands at a position of the chain, and the key of the first message is stored. -/
structure Reading (position : Nat) (log : ReceiverLog FreeTerm) : Prop where
  sized : log.ratchet.Sized symbolicSuite
  valid : isValidRatchet log.ratchet = true
  rootSequence : log.ratchet.rootSequence = 2
  first : log.first = some longChain
  receiver : log.ratchet.receiverChain = some ⟨firstPayload.ratchetKey, (keyPair 2).privateKey,
    some (symbolicSuite.chainKeyAt longChain position)⟩
  skipped : log.ratchet.skippedMsgKeyList =
    some (symbolicSuite.nodesAt firstPayload.ratchetKey longChain 0 1)

section Next

variable {position : Nat} {log : ReceiverLog FreeTerm}

/-- Every later message passes the checks of its header. -/
theorem Reading.accepted (reading : Reading position log) (place : Nat) :
    Accepted symbolicSuite log.ratchet associatedData (longPayload place) where
  suite := by decide
  validPayload := rfl
  keyLength :=
    (by decide +kernel : firstPayload.ratchetKey.length = symbolicSuite.kem.kemCiphertextLen)
  adPresent := by decide
  validRatchet := reading.valid
  total := by
    intro zero
    rw [reading.rootSequence] at zero
    cases zero

theorem Reading.older (reading : Reading position log) (place : Nat) :
    (longPayload place).rootSequence < log.ratchet.rootSequence := by
  rw [reading.rootSequence]
  exact (by decide +kernel : firstPayload.rootSequence < 2)

theorem Reading.current (reading : Reading position log) (place : Nat) :
    (longPayload place).rootSequence = log.ratchet.rootSequence - 1 := by
  rw [reading.rootSequence]
  exact (by decide +kernel : firstPayload.rootSequence = 2 - 1)

/-- A later message opens when the gap before it is small. -/
theorem Reading.reads (reading : Reading position log) {place : Nat}
    (reached : ¬ (longPayload place).sequence < UInt32.ofNat position)
    (near : (longPayload place).sequence.toNat - (UInt32.ofNat position).toNat ≤
      maxSkippedMessageKeyNodes)
    (here : messagePosition position (longPayload place) = place) :
    decryptBody symbolicSuite log.ratchet associatedData (longPayload place) [.byte 6] =
      (some [.byte 5], readRatchet symbolicSuite log.ratchet (longPayload place)
        ⟨firstPayload.ratchetKey, (keyPair 2).privateKey,
          some (symbolicSuite.chainKeyAt longChain position)⟩
        (symbolicSuite.chainKeyAt longChain position)) := by
  have opened : symbolicSuite.se.decrypt associatedData (symbolicSuite.messageKey
      (symbolicSuite.advance^[(longPayload place).sequence.toNat - (UInt32.ofNat position).toNat]
        (symbolicSuite.advance^[position] longChain))) (longPayload place).ciphertext =
          some [.byte 5] := by
    rw [← Function.iterate_add_apply, Nat.add_comm, ← messagePosition_eq reached, here]
    simp [longPayload, symbolicSuite, seSuite]
  exact decryptBody_existing reading.sized [.byte 6] (reading.accepted place)
    (reading.current place) (reading.older place) reading.receiver rfl rfl reached near opened

/-- The next message opens without a gap. -/
theorem Reading.body (reading : Reading position log) :
    decryptBody symbolicSuite log.ratchet associatedData (longPayload position) [.byte 6] =
      (some [.byte 5], { log.ratchet with
        receiverChain := some ⟨firstPayload.ratchetKey, (keyPair 2).privateKey,
          some (symbolicSuite.chainKeyAt longChain (position + 1))⟩ }) := by
  have gap : (longPayload position).sequence.toNat -
      (symbolicSuite.chainKeyAt longChain position).index.toNat = 0 := Nat.sub_self _
  have reached : ¬ (longPayload position).sequence < UInt32.ofNat position := Nat.lt_irrefl _
  have here : messagePosition position (longPayload position) = position := by
    rw [messagePosition_eq reached]
    show position + ((UInt32.ofNat position).toNat - (UInt32.ofNat position).toNat) = position
    omega
  have near : (longPayload position).sequence.toNat - (UInt32.ofNat position).toNat ≤
      maxSkippedMessageKeyNodes := gap.trans_le (Nat.zero_le _)
  rw [reading.reads reached near here]
  simp only [readRatchet, gap, if_true]
  rw [← chainKeyAt_moved longChain position 1]
  rfl

/-- Reading the next message keeps the stored key. -/
theorem Reading.next (reading : Reading position log) :
    Reading (position + 1) (logReceiver symbolicSuite log (longCall position)) := by
  have moved : (logReceiver symbolicSuite log (longCall position)).ratchet =
      { log.ratchet with
        receiverChain := some ⟨firstPayload.ratchetKey, (keyPair 2).privateKey,
          some (symbolicSuite.chainKeyAt longChain (position + 1))⟩
        receivedMessageSequence := updatedTotal log.ratchet (longPayload position) } := by
    have short : log.ratchet.skipped.length ≤ maxSkippedMessageKeyNodes := by
      rw [Ratchet.skipped, reading.skipped]
      decide
    show (decryptRatchet symbolicSuite log.ratchet associatedData (longPayload position)
      [.byte 6]).2 = _
    rw [decryptRatchet, reading.body]
    exact closeDecrypt_short _ short
  constructor
  case sized => exact (decryptRatchet_frame reading.sized _ _ _).sized
  case valid =>
    have valid := reading.valid
    have positive : log.ratchet.rootSequence > 0 := by
      rw [reading.rootSequence]
      decide
    rw [moved]
    simp only [isValidRatchet, Bool.and_eq_true] at valid ⊢
    obtain ⟨⟨⟨root, sender⟩, -⟩, list⟩ := valid
    refine ⟨⟨⟨root, sender⟩, ?_⟩, list⟩
    have full : symbolicSuite.FullKey (symbolicSuite.advance^[position + 1] longChain) :=
      advance_iterate_full (by decide +kernel : longChain.length = symbolicSuite.hf.hfLen) _
    rw [if_pos positive, isValidReceiverChain_iff]
    refine ⟨_, rfl, (by decide : (keyPair 2).privateKey ≠ []),
      (by decide +kernel : firstPayload.ratchetKey ≠ []), ?_⟩
    rw [isValidChainKey_iff]
    exact ⟨_, rfl, full.nonempty⟩
  case rootSequence =>
    rw [moved]
    exact reading.rootSequence
  case first =>
    rw [← reading.first]
    apply logReceiver_kept
    rw [reading.body]
  case receiver => rw [moved]
  case skipped =>
    rw [moved]
    exact reading.skipped

end Next

theorem longCalls_succ (count : Nat) :
    longCalls (count + 1) = longCalls count ++ [longCall (count + 1)] := by
  rw [longCalls, List.range'_1_concat, List.map_append, Nat.add_comm 1 count]
  rfl

/-- Bob reaches every position of the chain. -/
theorem runReceiver_longCalls {position : Nat} (later : 2 ≤ position) :
    Reading position (runReceiver symbolicSuite bob (longCalls (position - 1))) := by
  induction position, later using Nat.le_induction with
  | base =>
      have onChain : OnChain symbolicSuite (runReceiver symbolicSuite bob (longCalls 1)) :=
        Machine.run_invariant (fun _ call onChain => onChain.call call) _
          (OnChain.start bobStart_made)
      exact ⟨onChain.sized, by decide +kernel, by decide +kernel, by decide +kernel,
        by decide +kernel, by decide +kernel⟩
  | succ position later ih =>
      obtain ⟨count, rfl⟩ := Nat.exists_eq_add_of_le' (Nat.le_of_succ_le later)
      rw [Nat.add_sub_cancel, longCalls_succ, runReceiver, Machine.run_append]
      exact ih.next

/-- A message beyond 2^32 positions leaves a key that its sequence does not name. -/
theorem longCalls_beyond {position : Nat} (beyond : 2 ^ 32 ≤ position) :
    let calls := longCalls (position - 1)
    let payload := longPayload position
    let ratchet := runCalls symbolicSuite bob calls
    let result := decryptRatchet symbolicSuite ratchet associatedData payload [.byte 6]
    decryptRoute symbolicSuite ratchet associatedData payload = some ⟨true, false⟩ ∧
      result.1 = some [.byte 5] ∧ (runReceiver symbolicSuite bob calls).first = some longChain ∧
      receiverKey result.2 ≠ some ⟨payload.sequence + 1,
        symbolicSuite.advance^[payload.sequence.toNat + 1] longChain⟩ := by
  intro calls payload ratchet result
  have reading : Reading position (runReceiver symbolicSuite bob calls) :=
    runReceiver_longCalls (by omega)
  have same : (runReceiver symbolicSuite bob calls).ratchet = ratchet :=
    runReceiver_ratchet bob calls
  have body := reading.body
  have route := decryptRoute_existing (reading.accepted position) (reading.current position)
    (reading.older position) reading.receiver rfl rfl (Nat.lt_irrefl _)
  rw [same] at body route
  refine ⟨route, congrArg Prod.fst body, reading.first, ?_⟩
  have after : receiverKey result.2 = some (symbolicSuite.chainKeyAt longChain (position + 1)) := by
    rw [show result.2 = closeDecrypt _ payload from rfl, receiverKey_closeDecrypt, body]
    rfl
  intro named
  rw [after, CipherSuite.chainKeyAt, Option.some.injEq, ChainKey.mk.injEq] at named
  have origin : longChain ∈ symbolicSuite.origins sharedSecret
      [(symbolicSuite.kem.encapsulate [.byte 4] (keyPair 2).publicKey).1] :=
    Or.inr ⟨[], List.nil_prefix, by simp,
      (symbolicSuite.kem.encapsulate [.byte 4] (keyPair 2).publicKey).1, by decide +kernel⟩
  have distance := (HashChain.iterate_inj (advance_inj symbolicSuite_free)
    (advance_not_origin symbolicSuite_free _) origin origin named.2).2
  have bound := payload.sequence.toNat_lt
  omega

end Symbolic

/-- After 2^32 positions the index starts again, and a message with the sequence 0 leaves a key that
is not the second key of the chain. -/
theorem longCalls_trial_commit :
    let calls := Symbolic.longCalls (2 ^ 32 - 1)
    let payload := Symbolic.longPayload (2 ^ 32)
    let ratchet := runCalls symbolicSuite Symbolic.bob calls
    let result := decryptRatchet symbolicSuite ratchet Symbolic.associatedData payload [.byte 6]
    decryptRoute symbolicSuite ratchet Symbolic.associatedData payload = some ⟨true, false⟩ ∧
      result.1 = some [.byte 5] ∧
      (runReceiver symbolicSuite Symbolic.bob calls).first = some Symbolic.longChain ∧
      receiverKey result.2 ≠ some ⟨payload.sequence + 1,
        symbolicSuite.advance^[payload.sequence.toNat + 1] Symbolic.longChain⟩ :=
  Symbolic.longCalls_beyond (Nat.le_refl (2 ^ 32))

end E2eeSecurity
