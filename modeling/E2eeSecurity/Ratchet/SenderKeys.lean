/-
This file shows that one ratchet never encrypts two messages under one key.
-/
import E2eeSecurity.Ratchet.Calls

namespace E2eeSecurity

variable {β : Type} {cipherSuite : CipherSuite β}

/-- An emitted payload is kept with its key and the number of encryptions before it that were
asked for on the same sender chain. -/
structure Emission (β : Type) where
  payload : One2oneMsgPayload β
  messageKey : Bytes β
  served : Nat

/-- The log counts the encryptions with a plaintext since the sender chain was installed. -/
structure SenderLog (β : Type) where
  ratchet : Ratchet β
  served : Nat
  emitted : List (Emission β)

/-- The randomness of the decryption calls. -/
def callCoins : List (RatchetCall β) → List (Bytes β)
  | [] => []
  | .encrypt _ _ :: rest => callCoins rest
  | .decrypt _ _ coins :: rest => coins :: callCoins rest

/-- The number of encryption calls with a plaintext. -/
def encryptions : List (RatchetCall β) → Nat
  | [] => 0
  | .encrypt _ (some _) :: rest => encryptions rest + 1
  | _ :: rest => encryptions rest

variable [DecidableEq β]

def logCall (cipherSuite : CipherSuite β) (log : SenderLog β) : RatchetCall β → SenderLog β
  | .encrypt ad plaintext =>
      let result := encryptRatchet cipherSuite log.ratchet ad plaintext
      { ratchet := result.2
        served := if plaintext.isSome then log.served + 1 else log.served
        emitted := match result.1 with
          | some payload =>
              log.emitted ++ [⟨payload, nextMessageKey cipherSuite log.ratchet, log.served⟩]
          | none => log.emitted }
  | .decrypt ad payload coins =>
      let after := (decryptRatchet cipherSuite log.ratchet ad payload coins).2
      { ratchet := after
        served := if after.senderChain = log.ratchet.senderChain then log.served else 0
        emitted := log.emitted }

def runLog (cipherSuite : CipherSuite β) (ratchet : Ratchet β) (calls : List (RatchetCall β)) :
    SenderLog β :=
  Machine.run (logCall cipherSuite) ⟨ratchet, 0, []⟩ calls

/-- Every emitted payload agrees with the counters at its time. -/
structure Emission.Counted (cipherSuite : CipherSuite β) (total : Nat) (keys : List (Bytes β))
    (emission : Emission β) : Prop where
  key : emission.payload.ratchetKey ∈ keys
  sequence : emission.payload.sequence.toNat = emission.served
  earlier : emission.payload.sendingMessageSequence.toNat ≤ total
  encrypted : ∃ ad plaintext, cipherSuite.se.encrypt ad emission.messageKey plaintext =
    some emission.payload.ciphertext

/-- The sender chain is the last one installed, and its index counts the encryptions on it. -/
structure SenderInvariant (cipherSuite : CipherSuite β) (sharedSecret theirKey : Bytes β)
    (history : KeyHistory β) (total : Nat) (keys : List (Bytes β)) (log : SenderLog β) : Prop where
  tracks : Tracks cipherSuite sharedSecret log.ratchet history
  sender : ∃ chain key, log.ratchet.senderChain = some chain ∧
    isValidSenderChain log.ratchet.senderChain = true ∧
    chain.theirRatchetPublicKey = theirKey ∧ chain.ourRatchetPublicKey ∈ keys ∧
    chain.chainKey = some key ∧ key.index = UInt32.ofNat log.served ∧
    ∀ emission ∈ log.emitted, emission.payload.ratchetKey = chain.ourRatchetPublicKey →
      emission.served < log.served
  sent : log.ratchet.sendingMessageSequence = UInt32.ofNat total
  served : log.served ≤ total
  counted : ∀ emission ∈ log.emitted, emission.Counted cipherSuite total keys
  pairs : (log.emitted.map fun emission =>
    (emission.payload.ratchetKey, emission.payload.sequence)).Nodup
  ordered : log.emitted.Pairwise fun first second =>
    first.payload.sendingMessageSequence < second.payload.sendingMessageSequence
  distinct : (log.emitted.map Emission.messageKey).Nodup
  used : ∀ emission ∈ log.emitted, ∃ place ∈ history.ledger.used,
    emission.messageKey = cipherSuite.keyAt place

theorem toNat_ofNat_small {count : Nat} (small : count < 2 ^ 32) :
    (UInt32.ofNat count).toNat = count :=
  UInt32.toNat_ofNat_of_lt' small

/-- A new value at the end keeps the values apart. -/
theorem nodup_map_concat {α γ : Type*} {value : α → γ} {entries : List α} {last : α}
    (nodup : (entries.map value).Nodup) (new : ∀ earlier ∈ entries, value earlier ≠ value last) :
    ((entries ++ [last]).map value).Nodup := by
  rw [List.map_append, List.nodup_append]
  refine ⟨nodup, by simp, ?_⟩
  intro key old key' here
  obtain ⟨earlier, member, rfl⟩ := List.mem_map.mp old
  rw [List.map_singleton, List.mem_singleton] at here
  rw [here]
  exact new earlier member

omit [DecidableEq β] in
theorem Emission.Counted.mono {total more : Nat} {keys moreKeys : List (Bytes β)}
    {emission : Emission β} (counted : emission.Counted cipherSuite total keys)
    (longer : total ≤ more) (subset : keys ⊆ moreKeys) :
    emission.Counted cipherSuite more moreKeys where
  key := subset counted.key
  sequence := counted.sequence
  earlier := counted.earlier.trans longer
  encrypted := counted.encrypted

section Steps

variable {sharedSecret theirKey : Bytes β} {history : KeyHistory β} {total : Nat}
  {keys : List (Bytes β)} {log : SenderLog β}

omit [DecidableEq β] in
/-- The sender chain moves by one, and nothing is emitted yet. -/
theorem SenderInvariant.move
    (invariant : SenderInvariant cipherSuite sharedSecret theirKey history total keys log)
    {chain : SenderChainNode β} {key : ChainKey β} (sender : log.ratchet.senderChain = some chain)
    (present : chain.chainKey = some key) :
    SenderInvariant cipherSuite sharedSecret theirKey
      { history with ledger := history.ledger.send } (total + 1) keys
      { log with
        ratchet := sentRatchet cipherSuite log.ratchet chain key
        served := log.served + 1 } where
  tracks := invariant.tracks.send sender present
  sender := by
    obtain ⟨chain', key', sender', validSender, theirs, known, present', index, behind⟩ :=
      invariant.sender
    rw [sender, Option.some.injEq] at sender'
    subst sender'
    rw [present, Option.some.injEq] at present'
    subst present'
    refine ⟨_, _, rfl, ?_, theirs, known, rfl, ?_, ?_⟩
    · rw [sender] at validSender
      obtain ⟨ours, theirs'⟩ := isValidSenderChain_some validSender
      have full : cipherSuite.FullKey (cipherSuite.advance key.sharedKey) := advance_full _
      simp [isValidSenderChain, sentRatchet, isValidChainKey, ours, theirs', full.nonempty]
    · rw [index, UInt32.ofNat_add]
      rfl
    · intro emission member same
      exact Nat.lt_succ_of_lt (behind emission member same)
  sent := by
    have sent := invariant.sent
    simp only [sentRatchet, sent, UInt32.ofNat_add]
    rfl
  served := Nat.succ_le_succ invariant.served
  counted emission member :=
    (invariant.counted emission member).mono (Nat.le_succ _) (List.Subset.refl _)
  pairs := invariant.pairs
  ordered := invariant.ordered
  distinct := invariant.distinct
  used emission member := by
    obtain ⟨place, old, same⟩ := invariant.used emission member
    exact ⟨place, List.mem_cons_of_mem _ old, same⟩

omit [DecidableEq β] in
/-- One more payload is emitted under a key that no earlier payload had. -/
theorem SenderInvariant.emit
    (invariant : SenderInvariant cipherSuite sharedSecret theirKey history total keys log)
    {emission : Emission β} (counted : emission.Counted cipherSuite total keys)
    (behind : emission.served < log.served)
    (newPair : ∀ earlier ∈ log.emitted,
      (earlier.payload.ratchetKey, earlier.payload.sequence) ≠
        (emission.payload.ratchetKey, emission.payload.sequence))
    (later : ∀ earlier ∈ log.emitted,
      earlier.payload.sendingMessageSequence < emission.payload.sendingMessageSequence)
    (newKey : ∀ earlier ∈ log.emitted, earlier.messageKey ≠ emission.messageKey)
    (used : ∃ place ∈ history.ledger.used, emission.messageKey = cipherSuite.keyAt place) :
    SenderInvariant cipherSuite sharedSecret theirKey history total keys
      { log with emitted := log.emitted ++ [emission] } where
  tracks := invariant.tracks
  sender := by
    obtain ⟨chain, key, sender, validSender, theirs, known, present, index, older⟩ :=
      invariant.sender
    refine ⟨chain, key, sender, validSender, theirs, known, present, index, ?_⟩
    intro other member same
    rcases List.mem_append.mp member with old | new
    · exact older other old same
    · rw [List.mem_singleton.mp new]
      exact behind
  sent := invariant.sent
  served := invariant.served
  counted other member := by
    rcases List.mem_append.mp member with old | new
    · exact invariant.counted other old
    · rw [List.mem_singleton.mp new]
      exact counted
  pairs := nodup_map_concat invariant.pairs newPair
  ordered := by
    rw [List.pairwise_append]
    refine ⟨invariant.ordered, by simp, ?_⟩
    intro earlier member other new
    rw [List.mem_singleton.mp new]
    exact later earlier member
  distinct := nodup_map_concat invariant.distinct newKey
  used other member := by
    rcases List.mem_append.mp member with old | new
    · exact invariant.used other old
    · rw [List.mem_singleton.mp new]
      exact used

/-- A refused encryption changes nothing. -/
theorem logCall_refused (log : SenderLog β) (ad : Bytes β) :
    logCall cipherSuite log (.encrypt ad none) = log := by
  have unchanged : encryptRatchet cipherSuite log.ratchet ad none = (none, log.ratchet) := by
    unfold encryptRatchet
    split
    · split <;> simp_all
    · rfl
  simp [logCall, unchanged]

/-- An encryption moves the sender chain by one, whether the ciphertext was made or not. -/
theorem SenderInvariant.encrypt (suite : isValidCipherSuite cipherSuite = true)
    (free : cipherSuite.FreeKeys)
    (invariant : SenderInvariant cipherSuite sharedSecret theirKey history total keys log)
    (small : total + 1 < 2 ^ 32) (ad data : Bytes β) :
    ∃ next, SenderInvariant cipherSuite sharedSecret theirKey next (total + 1) keys
      (logCall cipherSuite log (.encrypt ad (some data))) := by
  obtain ⟨chain, key, sender, validSender, theirs, known, present, index, behind⟩ :=
    invariant.sender
  have tracks := invariant.tracks
  have made := encryptRatchet_full suite tracks.sized validSender sender present ad data
  have full : cipherSuite.FullKey key.sharedKey :=
    tracks.sized.sender chain (by simp [sender]) key (by simp [present])
  have derived : nextMessageKey cipherSuite log.ratchet =
      cipherSuite.messageKey key.sharedKey := by
    simp [nextMessageKey, sender, present, createMsgKeys_full suite key.index full]
  have placed : nextMessageKey cipherSuite log.ratchet =
      cipherSuite.keyAt history.ledger.sending := by
    rw [derived, tracks.sender chain (by simp [sender]) key (by simp [present])]
    rfl
  have moved := invariant.move sender present
  have position : key.index.toNat = log.served := by
    have := invariant.served
    rw [index, toNat_ofNat_small (by omega)]
  have reached : (log.ratchet.sendingMessageSequence + 1).toNat = total + 1 := by
    rw [invariant.sent, ← toNat_ofNat_small small, UInt32.ofNat_add]
    rfl
  refine ⟨{ history with ledger := history.ledger.send }, ?_⟩
  simp only [logCall, made, Option.isSome_some, if_true]
  cases encrypted : cipherSuite.se.encrypt ad (cipherSuite.messageKey key.sharedKey) data with
  | none => exact moved
  | some ciphertext =>
      refine moved.emit ⟨known, position, reached.le, ad, data, by rw [derived]; exact encrypted⟩
        (Nat.lt_succ_self _) ?_ ?_ ?_ ⟨_, List.mem_cons_self, placed⟩
      · intro earlier member same
        obtain ⟨sameKey, sameSequence⟩ := Prod.mk.inj same
        have older := behind earlier member sameKey
        have counted := (invariant.counted earlier member).sequence
        rw [sameSequence] at counted
        have equal : key.index.toNat = earlier.served := counted
        omega
      · intro earlier member
        have counted := (invariant.counted earlier member).earlier
        rw [UInt32.lt_iff_toNat_lt]
        show earlier.payload.sendingMessageSequence.toNat <
          (log.ratchet.sendingMessageSequence + 1).toNat
        omega
      · intro earlier member same
        obtain ⟨place, used, earlierPlace⟩ := invariant.used earlier member
        have equal : cipherSuite.keyAt place = cipherSuite.keyAt history.ledger.sending := by
          rw [← earlierPlace, same, placed]
        have samePlace := keyAt_inj free (tracks.within.used place used) tracks.within.sending equal
        have before := tracks.sound.usedSending place used (congrArg Prod.fst samePlace)
        rw [samePlace] at before
        exact absurd before (Nat.lt_irrefl _)

/-- A decryption keeps the sender chain or starts a new one under a fresh ratchet key. -/
theorem SenderInvariant.decrypt (suite : isValidCipherSuite cipherSuite = true)
    (free : cipherSuite.FreeKeys)
    (invariant : SenderInvariant cipherSuite sharedSecret theirKey history total keys log)
    (ad : Bytes β) (payload : One2oneMsgPayload β) (coins : Bytes β)
    (fresh : (cipherSuite.kem.encapsulate coins theirKey).2 ∉ keys) :
    ∃ next, SenderInvariant cipherSuite sharedSecret theirKey next total
      (keys ++ [(cipherSuite.kem.encapsulate coins theirKey).2])
      (logCall cipherSuite log (.decrypt ad payload coins)) := by
  obtain ⟨chain, key, sender, validSender, theirs, known, present, index, behind⟩ :=
    invariant.sender
  obtain ⟨next, tracked, grows, -⟩ := invariant.tracks.decrypt free ad payload coins
  obtain ⟨-, sameTotal, -, change⟩ := decryptRatchet_frame invariant.tracks.sized ad payload coins
  refine ⟨next, tracked, ?_, sameTotal.trans invariant.sent, ?_, ?_, invariant.pairs,
    invariant.ordered, invariant.distinct, ?_⟩
  · rcases change with ⟨-, -, same⟩ | ⟨receiverChain, chain', plaintext, renewal, -, -, replaced⟩
    · simp only [logCall, same, if_true]
      exact ⟨chain, key, sender, validSender, theirs, List.mem_append_left _ known, present, index,
        behind⟩
    · have sender' := renewal.sender
      rw [sender, Option.some.injEq] at sender'
      subst sender'
      rw [sender] at validSender
      obtain ⟨ours, theirs'⟩ := isValidSenderChain_some validSender
      have different : (decryptRatchet cipherSuite log.ratchet ad payload coins).2.senderChain ≠
          log.ratchet.senderChain := by
        rw [replaced, sender]
        intro same
        have sameKey := congrArg SenderChainNode.ourRatchetPublicKey (Option.some.inj same)
        rw [← sameKey, theirs] at known
        exact fresh known
      have nonempty : (cipherSuite.kem.encapsulate coins chain.theirRatchetPublicKey).2 ≠ [] :=
        encapsulate_nonempty suite _ _
      simp only [logCall, different, if_false]
      refine ⟨_, _, replaced, ?_, theirs, ?_, rfl, rfl, ?_⟩
      · have full : cipherSuite.FullKey (cipherSuite.nextChain (cipherSuite.nextRoot
            log.ratchet.rootKey (cipherSuite.kem.decaps receiverChain.ourRatchetPrivateKey
              payload.ratchetKey))
            (cipherSuite.kem.encapsulate coins chain.theirRatchetPublicKey).1) :=
          nextChain_full _ _
        rw [replaced]
        simp [isValidSenderChain, isValidChainKey, nonempty, theirs', full.nonempty]
      · simp [theirs]
      · intro emission member same
        have old := (invariant.counted emission member).key
        rw [same, theirs] at old
        exact absurd old fresh
  · simp only [logCall]
    split
    · exact invariant.served
    · exact Nat.zero_le _
  · intro emission member
    exact (invariant.counted emission member).mono (Nat.le_refl _) (List.subset_append_left _ _)
  · intro emission member
    obtain ⟨place, used, same⟩ := invariant.used emission member
    exact ⟨place, grows.2 used, same⟩

/-- Every call keeps the invariant. -/
theorem SenderInvariant.run (suite : isValidCipherSuite cipherSuite = true)
    (free : cipherSuite.FreeKeys) (calls : List (RatchetCall β))
    (invariant : SenderInvariant cipherSuite sharedSecret theirKey history total keys log)
    (fresh : (keys ++ (callCoins calls).map fun coins =>
      (cipherSuite.kem.encapsulate coins theirKey).2).Nodup)
    (few : total + encryptions calls < 2 ^ 32) :
    ∃ last lastTotal lastKeys, SenderInvariant cipherSuite sharedSecret theirKey last lastTotal
      lastKeys (Machine.run (logCall cipherSuite) log calls) := by
  induction calls generalizing log history total keys with
  | nil => exact ⟨history, total, keys, invariant⟩
  | cons call rest ih =>
      rw [Machine.run_cons]
      cases call with
      | encrypt ad plaintext =>
          cases plaintext with
          | none =>
              rw [logCall_refused]
              exact ih invariant fresh few
          | some data =>
              simp only [encryptions] at few
              obtain ⟨next, moved⟩ := invariant.encrypt suite free (by omega) ad data
              exact ih moved fresh (by omega)
      | decrypt ad payload coins =>
          simp only [callCoins, List.map_cons] at fresh
          have absent : (cipherSuite.kem.encapsulate coins theirKey).2 ∉ keys := by
            intro member
            exact (List.nodup_append.mp fresh).2.2 _ member _ List.mem_cons_self rfl
          obtain ⟨next, moved⟩ := invariant.decrypt suite free ad payload coins absent
          exact ih moved (by simpa using fresh) few

end Steps

omit [DecidableEq β] in
/-- Both initialisers start a sender chain at index zero. -/
theorem SenderInvariant.start (free : cipherSuite.FreeKeys) {start : RatchetStart β}
    {ratchet : Ratchet β} (made : start.initialise cipherSuite = some ratchet) :
    isValidCipherSuite cipherSuite = true ∧ ∃ history, SenderInvariant cipherSuite
      start.sharedSecret start.theirRatchetKey history 0
      [(cipherSuite.kem.encapsulate start.coins start.theirRatchetKey).2] ⟨ratchet, 0, []⟩ := by
  obtain ⟨history, tracks, -⟩ := RatchetStart.tracks free made
  have fromChain : isValidCipherSuite cipherSuite = true → start.theirRatchetKey ≠ [] →
      ∀ key, ratchet.senderChain = some ⟨(cipherSuite.kem.encapsulate start.coins
        start.theirRatchetKey).2, start.theirRatchetKey, some ⟨0, key⟩⟩ →
      ratchet.sendingMessageSequence = 0 →
      SenderInvariant cipherSuite start.sharedSecret start.theirRatchetKey history 0
        [(cipherSuite.kem.encapsulate start.coins start.theirRatchetKey).2] ⟨ratchet, 0, []⟩ := by
    intro suite theirs key sender zero
    have full : cipherSuite.FullKey key := tracks.sized.sender _ (by simp only [sender]; rfl) _ rfl
    have nonempty : (cipherSuite.kem.encapsulate start.coins start.theirRatchetKey).2 ≠ [] :=
      encapsulate_nonempty suite _ _
    refine ⟨tracks, ⟨_, _, sender, ?_, rfl, by simp, rfl, rfl, by simp⟩, zero, Nat.le_refl _,
      by simp, by simp, by simp, by simp, by simp⟩
    rw [sender]
    simp [isValidSenderChain, isValidChainKey, nonempty, theirs, full.nonempty]
  cases start with
  | alice sharedSecret ourRatchetKey theirRatchetKey theirEncapsCiphertext coins =>
      obtain ⟨suite, -, theirs, theirCiphertext, -, -, equal⟩ := initialiseAsAlice_some made
      exact ⟨suite, history, fromChain suite theirs _ (by rw [equal]; rfl) (by rw [equal])⟩
  | bob sharedSecret ourRatchetKey theirRatchetKey coins =>
      obtain ⟨suite, -, theirs, equal⟩ := initialiseAsBob_some made
      exact ⟨suite, history, fromChain suite theirs _ (by rw [equal]; rfl) (by rw [equal])⟩

/-- The pairs of ratchet key and sequence are distinct, the keys are distinct, the totals increase,
and the sequence is the number of encryptions asked for since the sender chain was installed. -/
theorem encryptRatchet_unique_keys (free : cipherSuite.FreeKeys) {start : RatchetStart β}
    {ratchet : Ratchet β} (made : start.initialise cipherSuite = some ratchet)
    (calls : List (RatchetCall β))
    (fresh : ((start.coins :: callCoins calls).map fun coins =>
      (cipherSuite.kem.encapsulate coins start.theirRatchetKey).2).Nodup)
    (few : encryptions calls < 2 ^ 32) :
    let emitted := (runLog cipherSuite ratchet calls).emitted
    (emitted.map fun emission =>
        (emission.payload.ratchetKey, emission.payload.sequence)).Nodup ∧
      (emitted.map Emission.messageKey).Nodup ∧
      (∀ emission ∈ emitted, ∃ ad plaintext, cipherSuite.se.encrypt ad emission.messageKey
        plaintext = some emission.payload.ciphertext) ∧
      emitted.Pairwise (fun first second =>
        first.payload.sendingMessageSequence < second.payload.sendingMessageSequence) ∧
      ∀ emission ∈ emitted, emission.payload.sequence.toNat = emission.served := by
  obtain ⟨suite, history, started⟩ := SenderInvariant.start free made
  obtain ⟨last, total, keys, invariant⟩ := started.run suite free calls
    (by simpa using fresh) (by simpa using few)
  exact ⟨invariant.pairs, invariant.distinct,
    fun emission member => (invariant.counted emission member).encrypted, invariant.ordered,
    fun emission member => (invariant.counted emission member).sequence⟩

namespace Symbolic

/-- Bob sends, reads the first message of Alice, and sends twice on his new chain. -/
def senderCalls : List (RatchetCall FreeTerm) :=
  [.encrypt associatedData (some [.byte 5]), .decrypt associatedData firstPayload [.byte 6],
    .encrypt associatedData (some [.byte 5]), .encrypt associatedData (some [.byte 5])]

/-- AES-GCM refuses this plaintext. -/
def longPlaintext : Bytes FreeTerm := List.replicate (plaintextLimit + 1) (.byte 0)

theorem longPlaintext_refused (ad key : Bytes FreeTerm) :
    symbolicSuite.se.encrypt ad key longPlaintext = none := by
  simp [symbolicSuite, seSuite, longPlaintext]

end Symbolic

theorem senderCalls_unique_keys :
    ((runLog symbolicSuite Symbolic.bob Symbolic.senderCalls).emitted.map
        fun emission => emission.payload.sequence) = [0, 0, 1] ∧
      ((runLog symbolicSuite Symbolic.bob Symbolic.senderCalls).emitted.map
        Emission.messageKey).Nodup :=
  ⟨by decide +kernel, (encryptRatchet_unique_keys symbolicSuite_free Symbolic.bobStart_made
    Symbolic.senderCalls (by decide +kernel) (by decide)).2.1⟩

section Failure

omit [DecidableEq β]

/-- The next ratchet does not depend on the plaintext. -/
theorem encryptRatchet_next (ratchet : Ratchet β) (ad data data' : Bytes β) :
    (encryptRatchet cipherSuite ratchet ad (some data)).2 =
      (encryptRatchet cipherSuite ratchet ad (some data')).2 := by
  unfold encryptRatchet
  split
  · cases ratchet.senderChain with
    | none => rfl
    | some senderChain =>
        dsimp only
        cases createMsgKeys cipherSuite senderChain.chainKey <;> rfl
  · rfl

theorem encryptRatchet_failed {ad data : Bytes β}
    (failed : ∀ key, cipherSuite.se.encrypt ad key data = none) (ratchet : Ratchet β) :
    (encryptRatchet cipherSuite ratchet ad (some data)).1 = none := by
  unfold encryptRatchet
  split
  · cases ratchet.senderChain with
    | none => rfl
    | some senderChain =>
        dsimp only
        cases createMsgKeys cipherSuite senderChain.chainKey with
        | none => rfl
        | some msgKey => simp [failed]
  · rfl

end Failure

/-- After Bob got a new sender chain, a refused plaintext uses up the sequence zero, so the first
payload that he emits on this chain has the sequence one. -/
theorem encryptRatchet_sequence_after_failure :
    let renewed := (decryptRatchet symbolicSuite Symbolic.bob Symbolic.associatedData
      Symbolic.firstPayload [.byte 6]).2
    let failed := encryptRatchet symbolicSuite renewed Symbolic.associatedData
      (some Symbolic.longPlaintext)
    renewed.senderChain ≠ Symbolic.bob.senderChain ∧ failed.1 = none ∧
      (encryptRatchet symbolicSuite failed.2 Symbolic.associatedData (some [.byte 5])).1.map
        (fun payload => payload.sequence) = some 1 := by
  intro renewed failed
  refine ⟨by decide +kernel, encryptRatchet_failed (Symbolic.longPlaintext_refused _) renewed, ?_⟩
  have next : failed.2 =
      (encryptRatchet symbolicSuite renewed Symbolic.associatedData (some [])).2 :=
    encryptRatchet_next renewed Symbolic.associatedData Symbolic.longPlaintext []
  rw [next]
  decide +kernel

end E2eeSecurity
