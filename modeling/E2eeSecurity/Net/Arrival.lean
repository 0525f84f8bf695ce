/-
This file shows that a payload is opened when it first reaches the other party.
-/
import E2eeSecurity.Net.Mailbox

namespace E2eeSecurity

variable {β : Type} {cipherSuite : CipherSuite β} {ad : Bytes β} {keys : Party → KeyPair β}

/-- Both parties use one valid suite, present associated data, and matching key pairs. -/
structure Setting (cipherSuite : CipherSuite β) (ad : Bytes β) (keys : Party → KeyPair β) :
    Prop where
  suite : isValidCipherSuite cipherSuite = true
  adPresent : ad ≠ []
  correct : cipherSuite.se.Correct
  matching : ∀ party, cipherSuite.kem.Matching (keys party).publicKey (keys party).privateKey
  publicKeys : ∀ party, (keys party).publicKey ≠ []
  privateKeys : ∀ party, (keys party).privateKey ≠ []

/-- A payload of the other party reaches a party for the first time. -/
structure Arrival (cipherSuite : CipherSuite β) (ad : Bytes β) (keys : Party → KeyPair β)
    (epochs : List (Epoch β)) (receiver : Party) (number : Nat) (epoch : Epoch β)
    (sent peerSent : Nat) (delivered : List Nat) (ratchet : Ratchet β) (position incoming : Nat)
    (source : Epoch β) (plaintext : Bytes β) (payload : One2oneMsgPayload β) : Prop where
  full : ∀ epoch ∈ epochs, epoch.Full cipherSuite
  firstStart : ∀ epoch, epochs[1]? = some epoch → epoch.start = 0
  starts : ∀ number epoch next, epochs[number]? = some epoch → epochs[number + 2]? = some next →
    epoch.start ≤ next.start
  found : epochs[number]? = some epoch
  near : epochs.length ≤ number + 2
  seat : Seat cipherSuite keys receiver number epoch ratchet
  mailbox : Mailbox cipherSuite keys epochs receiver number epoch sent peerSent delivered ratchet
  inside : InEpoch epochs receiver.peer position incoming source
  sentOn : SentOn cipherSuite ad source incoming position plaintext payload
  present : position < peerSent
  few : peerSent < 2 ^ 32
  unread : position ∉ delivered
  outstanding : (Window.missing (delivered ++ [position])).length ≤ maxSkippedMessageKeyNodes

section Arriving

variable {epochs : List (Epoch β)} {receiver : Party} {number : Nat} {epoch : Epoch β}
  {sent peerSent : Nat} {delivered : List Nat} {ratchet : Ratchet β} {position incoming : Nat}
  {source : Epoch β} {plaintext : Bytes β} {payload : One2oneMsgPayload β}

theorem Arrival.sequence (arrival : Arrival cipherSuite ad keys epochs receiver number epoch sent
      peerSent delivered ratchet position incoming source plaintext payload) :
    payload.sequence.toNat = position - source.start := by
  have present := arrival.present
  have few := arrival.few
  rw [arrival.sentOn.sequence, UInt32.toNat_ofNat']
  omega

theorem Arrival.reached_lt (arrival : Arrival cipherSuite ad keys epochs receiver number epoch sent
      peerSent delivered ratchet position incoming source plaintext payload) :
    Window.highest delivered < 2 ^ 32 :=
  Nat.lt_of_le_of_lt arrival.mailbox.within arrival.few

/-- The index of a chain key compares like its position. -/
theorem Arrival.sequence_lt (arrival : Arrival cipherSuite ad keys epochs receiver number epoch
      sent peerSent delivered ratchet position incoming source plaintext payload) {reached : Nat}
    (started : source.start ≤ reached) (bound : reached < 2 ^ 32) :
    payload.sequence < (source.chainKey cipherSuite reached).index ↔ position < reached := by
  have after := arrival.inside.after
  rw [UInt32.lt_iff_toNat_lt, arrival.sequence, Epoch.chainKey, UInt32.toNat_ofNat',
    Nat.mod_eq_of_lt (by omega)]
  omega

/-- An incoming epoch belongs to the other party, so its number has the other parity. -/
theorem Arrival.parity (arrival : Arrival cipherSuite ad keys epochs receiver number epoch sent
      peerSent delivered ratchet position incoming source plaintext payload) :
    incoming = number + 1 ∨ incoming + 1 ≤ number := by
  have bound := (List.getElem?_eq_some_iff.mp arrival.inside.found).1
  have near := arrival.near
  have different : incoming ≠ number := by
    intro same
    have owned := arrival.inside.owned
    rw [same, arrival.seat.owned] at owned
    exact Party.peer_ne receiver owned.symm
  omega

/-- A payload at or after the delivered ones lies in the epoch of the receiver chain. -/
theorem Arrival.current (arrival : Arrival cipherSuite ad keys epochs receiver number epoch sent
      peerSent delivered ratchet position incoming source plaintext payload)
    (older : incoming + 1 ≤ number) (reached : Window.highest delivered ≤ position) :
    number = incoming + 1 := by
  have chain := arrival.mailbox.chain
  obtain ⟨last, rfl⟩ : ∃ last, number = last + 1 := ⟨number - 1, by omega⟩
  obtain ⟨previous, foundPrevious, started, -⟩ := chain
  have owned : owner last = receiver.peer := by
    rw [← arrival.seat.owned, owner_succ, Party.peer_peer]
  by_contra different
  have before := arrival.inside.before_start arrival.starts foundPrevious owned (by omega)
  omega

/-- The payload opens under the key of its position. -/
theorem Arrival.opened (setting : Setting cipherSuite ad keys)
    (arrival : Arrival cipherSuite ad keys epochs receiver number epoch sent peerSent delivered
      ratchet position incoming source plaintext payload) :
    cipherSuite.se.decrypt ad
      (cipherSuite.messageKey (source.chainKey cipherSuite position).sharedKey)
      payload.ciphertext = some plaintext :=
  setting.correct _ _ _ _ arrival.sentOn.encrypted

/-- The payload passes the checks of the call. -/
theorem Arrival.accepted (setting : Setting cipherSuite ad keys)
    (arrival : Arrival cipherSuite ad keys epochs receiver number epoch sent peerSent delivered
      ratchet position incoming source plaintext payload) :
    Accepted cipherSuite ratchet ad payload := by
  have sourceFull := arrival.full source (List.mem_of_getElem? arrival.inside.found)
  refine ⟨setting.suite, ?_, ?_, setting.adPresent, ?_, ?_⟩
  · rw [isValidOne2oneMsgPayload_iff, arrival.sentOn.ratchetKey]
    exact ⟨sourceFull.nonempty setting.suite,
      cipherSuite.se.encryptNonempty _ _ _ _ arrival.sentOn.encrypted⟩
  · rw [arrival.sentOn.ratchetKey]
    exact sourceFull.key
  · exact arrival.mailbox.valid setting.suite setting.publicKeys setting.privateKeys arrival.full
      arrival.found arrival.seat
  · intro _
    have present := arrival.present
    have few := arrival.few
    rw [UInt32.lt_iff_toNat_lt, arrival.sequence, arrival.sentOn.total, UInt32.toNat_ofNat']
    omega

/-- Keys of positions ahead of the delivered ones extend the stored keys. -/
theorem Mailbox.stored_ahead
    (mailbox : Mailbox cipherSuite keys epochs receiver number epoch sent peerSent delivered
      ratchet)
    (ahead : Window.highest delivered ≤ position) {nodes : List (SkippedMsgKeyNode β)}
    (aligned : List.Forall₂ (NodeAt cipherSuite epochs receiver.peer)
      (List.range' (Window.highest delivered) (position - Window.highest delivered)) nodes) :
    List.Forall₂ (NodeAt cipherSuite epochs receiver.peer)
      (Window.missing (delivered ++ [position])) (ratchet.skipped ++ nodes) := by
  rw [Window.missing_ahead ahead]
  exact List.rel_append mailbox.stored aligned

/-- Consecutive positions of an epoch have the consecutive keys of its chain. -/
theorem nodeAt_skippedNodes {sender : Party} {first count : Nat} (started : source.start ≤ first)
    (inside : ∀ position, first ≤ position → position < first + count →
      InEpoch epochs sender position incoming source) :
    List.Forall₂ (NodeAt cipherSuite epochs sender) (List.range' first count)
      (skippedNodes cipherSuite source.key (source.chainKey cipherSuite first).index
        (source.chainKey cipherSuite first).sharedKey count) := by
  rw [skippedNodes_stored source started, List.forall₂_map_right_iff, List.forall₂_same]
  intro position member
  obtain ⟨lower, upper⟩ := List.mem_range'_1.mp member
  exact ⟨incoming, source, inside position lower upper, rfl⟩

/-- An epoch also holds the earlier positions from its start on. -/
theorem InEpoch.earlier {sender : Party} (inside : InEpoch epochs sender position incoming source)
    {other : Nat} (after : source.start ≤ other) (before : other ≤ position) :
    InEpoch epochs sender other incoming source :=
  ⟨inside.found, inside.owned, after,
    fun next found => Nat.lt_of_le_of_lt before (inside.before next found)⟩

/-- The end of a call on an arrived payload settles the mailbox. -/
theorem Arrival.close (arrival : Arrival cipherSuite ad keys epochs receiver number epoch sent
      peerSent delivered ratchet position incoming source plaintext payload)
    {epochs' : List (Epoch β)} {number' : Nat} {epoch' : Epoch β} {read : Ratchet β}
    {list : List (SkippedMsgKeyNode β)} (started : epoch'.start ≤ sent)
    (sender : read.senderChain =
      some ⟨epoch'.key, (keys receiver.peer).publicKey, some (epoch'.chainKey cipherSuite sent)⟩)
    (total : read.sendingMessageSequence = ratchet.sendingMessageSequence)
    (received : read.receivedMessageSequence = ratchet.receivedMessageSequence)
    (chain : ReceiverAt cipherSuite (keys receiver).privateKey epochs'
      (max (Window.highest delivered) (position + 1)) read number')
    (ahead : ∀ next, epochs'[number' + 1]? = some next →
      max (Window.highest delivered) (position + 1) ≤ next.start)
    (stored : List.Forall₂ (NodeAt cipherSuite epochs' receiver.peer)
      (Window.missing (delivered ++ [position])) list)
    (pointer : read.skippedMsgKeyList = skippedPointer list) :
    Mailbox cipherSuite keys epochs' receiver number' epoch' sent peerSent
      (delivered ++ [position]) (closeDecrypt read payload) := by
  have mailbox := arrival.mailbox
  have within := mailbox.within
  have present := arrival.present
  have few := arrival.few
  have skipped := skipped_of_pointer pointer
  have short : read.skipped.length ≤ maxSkippedMessageKeyNodes := by
    rw [skipped, ← stored.length_eq]
    exact arrival.outstanding
  have closed := closeDecrypt_delivered arrival.sentOn.total (received.trans mailbox.received)
    (by omega) (by omega) short
  rw [closed]
  rw [← Window.highest_append] at chain ahead ⊢
  refine ⟨started, mailbox.few, sender, total.trans mailbox.total, rfl, ?_, chain.congr rfl, ahead,
    ?_, ?_, arrival.outstanding⟩
  · rw [Window.highest_append]
    omega
  · show List.Forall₂ _ _ read.skipped
    rw [skipped]
    exact stored
  · show read.skippedMsgKeyList = skippedPointer read.skipped
    rw [skipped]
    exact pointer

/-- Reading the payload on its chain moves the chain to the next position. -/
theorem Arrival.read (arrival : Arrival cipherSuite ad keys epochs receiver number epoch sent
      peerSent delivered ratchet position incoming source plaintext payload)
    (current : Ratchet β) {reached : Nat} (started : source.start ≤ reached)
    (ahead : reached ≤ position) (privateKey : Bytes β) :
    let chainKey := source.chainKey cipherSuite reached
    payload.sequence.toNat - chainKey.index.toNat = position - reached ∧
      (readRatchet cipherSuite current payload ⟨source.key, privateKey, some chainKey⟩
        chainKey).receiverChain =
          some ⟨source.key, privateKey, some (source.chainKey cipherSuite (position + 1))⟩ := by
  intro chainKey
  have present := arrival.present
  have few := arrival.few
  have gap : payload.sequence.toNat - chainKey.index.toNat = position - reached := by
    rw [arrival.sequence]
    simp only [chainKey, Epoch.chainKey, UInt32.toNat_ofNat']
    omega
  refine ⟨gap, ?_⟩
  have after : source.start ≤ position := started.trans ahead
  have next := source.chainKey_add cipherSuite after 1
  have later := source.chainKey_add cipherSuite started (position - reached + 1)
  have place : reached + (position - reached + 1) = position + 1 := by omega
  rw [place] at later
  have index : (source.chainKey cipherSuite (position + 1)).index = payload.sequence + 1 := by
    rw [next, arrival.sentOn.sequence]
    rfl
  have key : (source.chainKey cipherSuite (position + 1)).sharedKey =
      cipherSuite.advance^[position - reached + 1] chainKey.sharedKey := by
    rw [later]
  simp only [readRatchet, gap, ← index, ← key]

/-- The running totals give the unread positions before the incoming epoch. -/
theorem Arrival.previousSkippedNum (arrival : Arrival cipherSuite ad keys epochs receiver number
      epoch sent peerSent delivered ratchet position incoming source plaintext payload)
    (before : Window.highest delivered ≤ source.start) :
    previousSkippedNum ratchet payload = source.start - Window.highest delivered := by
  have present := arrival.present
  have few := arrival.few
  have after := arrival.inside.after
  have total : payload.sendingMessageSequence.toNat = position + 1 := by
    rw [arrival.sentOn.total, UInt32.toNat_ofNat']
    omega
  have received : ratchet.receivedMessageSequence.toNat = Window.highest delivered := by
    rw [arrival.mailbox.received, UInt32.toNat_ofNat', Nat.mod_eq_of_lt arrival.reached_lt]
  have offset : (1 : UInt32).toNat = 1 := rfl
  have next : (payload.sequence + 1).toNat = position - source.start + 1 := by
    rw [UInt32.toNat_add, arrival.sequence, offset]
    omega
  rw [E2eeSecurity.previousSkippedNum, total, UInt32.toNat_add, received, next]
  omega

/-- The keys of the previous chain up to the incoming epoch are stored. -/
theorem Arrival.previous (arrival : Arrival cipherSuite ad keys epochs receiver number epoch sent
      peerSent delivered ratchet position incoming source plaintext payload)
    (ahead : incoming = number + 1) :
    ∃ receiverChain nodes, ratchet.receiverChain = some receiverChain ∧
      receiverChain.ourRatchetPrivateKey = (keys receiver).privateKey ∧
      (source.start - Window.highest delivered ≠ 0 →
        ∃ chainKey, receiverChain.chainKey = some chainKey) ∧
      List.Forall₂ (NodeAt cipherSuite epochs receiver.peer) (List.range'
        (Window.highest delivered) (source.start - Window.highest delivered)) nodes ∧
      previousList cipherSuite ratchet receiverChain (source.start - Window.highest delivered) =
        skippedPointer (ratchet.skipped ++ nodes) := by
  subst ahead
  have chain := arrival.mailbox.chain
  cases number with
  | zero =>
      have none : source.start - Window.highest delivered = 0 := by
        rw [arrival.firstStart source arrival.inside.found, Nat.zero_sub]
      refine ⟨_, [], chain.2, rfl, fun positive => absurd none positive, ?_, ?_⟩
      · rw [none]
        exact .nil
      · rw [List.append_nil]
        exact arrival.mailbox.pointer
  | succ number =>
      obtain ⟨previous, foundPrevious, started, receiverAt⟩ := chain
      have owned : owner number = receiver.peer := by
        rw [← arrival.seat.owned, owner_succ, Party.peer_peer]
      have inside : ∀ place, Window.highest delivered ≤ place → place < Window.highest delivered +
          (source.start - Window.highest delivered) →
          InEpoch epochs receiver.peer place number previous := by
        intro place lower upper
        refine ⟨foundPrevious, owned, started.trans lower, ?_⟩
        intro next found
        rw [arrival.inside.found, Option.some.injEq] at found
        subst found
        omega
      refine ⟨_, _, receiverAt, rfl, fun _ => ⟨_, rfl⟩, nodeAt_skippedNodes started inside, ?_⟩
      exact skippedPointer_append arrival.mailbox.pointer _ (by simp [skippedNodes])

variable [DecidableEq β]

/-- A payload at or ahead of the receiver chain is opened, and the chain moves past it. -/
theorem Arrival.existing (setting : Setting cipherSuite ad keys) (coins : Bytes β)
    (arrival : Arrival cipherSuite ad keys epochs receiver number epoch sent peerSent delivered
      ratchet position incoming source plaintext payload)
    (current : number = incoming + 1) (ahead : Window.highest delivered ≤ position) :
    ∃ after, decryptRatchet cipherSuite ratchet ad payload coins = (some plaintext, after) ∧
      after.rootKey = ratchet.rootKey ∧ after.rootSequence = ratchet.rootSequence ∧
      after.senderChain = ratchet.senderChain ∧
      Mailbox cipherSuite keys epochs receiver number epoch sent peerSent
        (delivered ++ [position]) after := by
  subst current
  have mailbox := arrival.mailbox
  obtain ⟨previous, foundPrevious, started, receiverAt⟩ := mailbox.chain
  rw [arrival.inside.found, Option.some.injEq] at foundPrevious
  subst foundPrevious
  obtain ⟨gap, moved⟩ := arrival.read ratchet started ahead (keys receiver).privateKey
  have older : payload.rootSequence < ratchet.rootSequence := by
    rw [UInt32.lt_iff_toNat_lt, arrival.sentOn.rootSequence, arrival.seat.rootSequence]
    omega
  have previousRoot : payload.rootSequence = ratchet.rootSequence - 1 := by
    apply UInt32.toNat_inj.mp
    have positive : (1 : UInt32) ≤ ratchet.rootSequence := by
      rw [UInt32.le_iff_toNat_le, arrival.seat.rootSequence]
      exact Nat.le_add_left 1 incoming
    rw [UInt32.toNat_sub_of_le _ _ positive, arrival.sentOn.rootSequence,
      arrival.seat.rootSequence]
    rfl
  have reached : ¬ payload.sequence <
      (source.chainKey cipherSuite (Window.highest delivered)).index := by
    rw [arrival.sequence_lt started arrival.reached_lt]
    omega
  have small : position - Window.highest delivered ≤ maxSkippedMessageKeyNodes := by
    have outstanding := arrival.outstanding
    rw [Window.missing_ahead ahead, List.length_append, List.length_range'] at outstanding
    omega
  have opened := arrival.opened setting
  have place : Window.highest delivered + (position - Window.highest delivered) = position := by
    omega
  rw [← place, source.chainKey_add cipherSuite started, ← gap] at opened
  rw [← gap] at small
  refine ⟨_, decryptRatchet_existing arrival.seat.sized coins (arrival.accepted setting)
    previousRoot older receiverAt arrival.sentOn.ratchetKey.symm rfl reached small opened, ?_⟩
  rw [closeDecrypt_eq]
  refine ⟨rfl, rfl, rfl, ?_⟩
  rw [← closeDecrypt_eq]
  have aligned := mailbox.stored_ahead ahead (nodeAt_skippedNodes started
    fun other lower upper => arrival.inside.earlier (started.trans lower) (by omega))
  have top : max (Window.highest delivered) (position + 1) = position + 1 := by omega
  refine arrival.close mailbox.started mailbox.sender rfl rfl ?_ ?_ aligned ?_
  · rw [top]
    exact ⟨source, arrival.inside.found, by omega, moved⟩
  · rw [top]
    exact fun next found => arrival.inside.before next found
  · rw [← gap]
    exact readRatchet_pointer mailbox.pointer _ _

/-- The stored key of an unread position opens its payload, and the other keys stay stored. -/
theorem Arrival.stored (setting : Setting cipherSuite ad keys)
    (arrival : Arrival cipherSuite ad keys epochs receiver number epoch sent peerSent delivered
      ratchet position incoming source plaintext payload)
    (distinct : (epochs.map Epoch.key).Nodup) (behind : position < Window.highest delivered) :
    ∃ nodes, useSkippedKey cipherSuite ad payload ratchet.skipped = some (plaintext, nodes) ∧
      List.Forall₂ (NodeAt cipherSuite epochs receiver.peer)
        (Window.missing (delivered ++ [position])) nodes := by
  have accepted := arrival.accepted setting
  obtain ⟨before, after, missing, remaining⟩ := Window.missing_behind behind arrival.unread
  have stored := arrival.mailbox.stored
  rw [missing] at stored
  obtain ⟨nodesBefore, node, nodesAfter, split, early, ⟨nodeNumber, nodeEpoch, inside, made⟩, late⟩ :=
    Window.forall₂_split stored
  have sameNumber := inside.unique arrival.starts arrival.inside
  subst sameNumber
  have sameEpoch := inside.found
  rw [arrival.inside.found, Option.some.injEq] at sameEpoch
  subst sameEpoch
  have apart : ∀ other ∈ nodesBefore, payload.sequence = other.msgKey.index →
      other.ratchetKeyPublic.take (ratchetKeyLen cipherSuite) ≠
        payload.ratchetKey.take (ratchetKeyLen cipherSuite) := by
    intro other member sameIndex sameKey
    obtain ⟨place, placed, otherNumber, otherEpoch, otherInside, rfl⟩ :=
      Window.forall₂_position early member
    have different : place ≠ position := by
      have once := Window.missing_nodup delivered
      rw [missing, List.nodup_append] at once
      exact once.2.2 place placed position (List.mem_cons_self ..)
    have placeBound : place < Window.highest delivered := by
      have unread : place ∈ Window.missing delivered := by
        rw [missing]
        exact List.mem_append_left _ placed
      exact (Window.mem_missing.mp unread).1
    have bound := arrival.reached_lt
    have otherFull := arrival.full otherEpoch (List.mem_of_getElem? otherInside.found)
    rw [ratchetKeyLen_valid setting.suite, ← accepted.keyLength, List.take_length,
      accepted.keyLength] at sameKey
    have name : (storedNode cipherSuite otherEpoch place).ratchetKeyPublic.take
        cipherSuite.kem.kemCiphertextLen = otherEpoch.key :=
      List.take_of_length_le otherFull.key.le
    rw [name, arrival.sentOn.ratchetKey] at sameKey
    rw [arrival.sentOn.sequence] at sameIndex
    exact different (storedNode_inj distinct otherInside arrival.inside (by omega) (by omega)
      sameKey sameIndex.symm)
  refine ⟨nodesBefore ++ nodesAfter, ?_, ?_⟩
  · rw [split]
    subst made
    exact useSkippedKey_found setting.suite setting.adPresent accepted.validPayload
      arrival.sentOn.sequence arrival.sentOn.ratchetKey.symm (messageKey_nonempty _)
      (arrival.opened setting) apart
  · rw [remaining]
    exact List.rel_append early late

/-- A payload behind the receiver chain is opened by its stored key. -/
theorem Arrival.skipped (setting : Setting cipherSuite ad keys) (coins : Bytes β)
    (arrival : Arrival cipherSuite ad keys epochs receiver number epoch sent peerSent delivered
      ratchet position incoming source plaintext payload)
    (distinct : (epochs.map Epoch.key).Nodup) (older : incoming + 1 ≤ number)
    (behind : position < Window.highest delivered) :
    ∃ after, decryptRatchet cipherSuite ratchet ad payload coins = (some plaintext, after) ∧
      after.rootKey = ratchet.rootKey ∧ after.rootSequence = ratchet.rootSequence ∧
      after.senderChain = ratchet.senderChain ∧
      Mailbox cipherSuite keys epochs receiver number epoch sent peerSent
        (delivered ++ [position]) after := by
  have mailbox := arrival.mailbox
  have accepted := arrival.accepted setting
  obtain ⟨nodes, found, stored⟩ := arrival.stored setting distinct behind
  have olderRoot : payload.rootSequence < ratchet.rootSequence := by
    rw [UInt32.lt_iff_toNat_lt, arrival.sentOn.rootSequence, arrival.seat.rootSequence]
    omega
  refine ⟨_, decryptRatchet_skipped coins accepted olderRoot ?_ found, ?_⟩
  · intro previousRoot
    have current : number = incoming + 1 := by
      have positive : (1 : UInt32) ≤ ratchet.rootSequence := by
        rw [UInt32.le_iff_toNat_le, arrival.seat.rootSequence]
        exact (Nat.le_add_left 1 incoming).trans older
      have previous := congrArg UInt32.toNat previousRoot
      rw [UInt32.toNat_sub_of_le _ _ positive, arrival.sentOn.rootSequence,
        arrival.seat.rootSequence] at previous
      have offset : (1 : UInt32).toNat = 1 := rfl
      omega
    have chain := mailbox.chain
    rw [current] at chain
    obtain ⟨previous, foundPrevious, started, receiverAt⟩ := chain
    rw [arrival.inside.found, Option.some.injEq] at foundPrevious
    subst foundPrevious
    exact ⟨_, _, receiverAt, arrival.sentOn.ratchetKey.symm, rfl,
      (arrival.sequence_lt started arrival.reached_lt).mpr behind⟩
  · rw [closeDecrypt_eq]
    refine ⟨rfl, rfl, rfl, ?_⟩
    rw [← closeDecrypt_eq]
    have top : max (Window.highest delivered) (position + 1) = Window.highest delivered := by omega
    refine arrival.close mailbox.started mailbox.sender rfl rfl ?_ ?_ stored rfl
    · rw [top]
      exact mailbox.chain.congr rfl
    · rw [top]
      exact mailbox.ahead

omit [DecidableEq β] in
/-- The receiver derives the root key and the first chain key of the next epoch. -/
theorem Arrival.derives (arrival : Arrival cipherSuite ad keys epochs receiver number epoch sent
      peerSent delivered ratchet position incoming source plaintext payload)
    (follows : Epoch.Follows cipherSuite (keys receiver).privateKey epoch source)
    {privateKey : Bytes β} (secret : privateKey = (keys receiver).privateKey) :
    cipherSuite.nextRoot ratchet.rootKey (cipherSuite.kem.decaps privateKey payload.ratchetKey) =
        source.root ∧
      (⟨0, cipherSuite.nextChain ratchet.rootKey (cipherSuite.kem.decaps privateKey
        payload.ratchetKey)⟩ : ChainKey β) = source.chainKey cipherSuite source.start := by
  rw [arrival.seat.rootKey, secret, arrival.sentOn.ratchetKey, Epoch.chainKey, Nat.sub_self,
    follows.1, follows.2]
  exact ⟨rfl, rfl⟩

omit [DecidableEq β] in
/-- A payload on the next epoch opens on the chain that the receiver derives. -/
theorem Arrival.renewal (setting : Setting cipherSuite ad keys)
    (arrival : Arrival cipherSuite ad keys epochs receiver number epoch sent peerSent delivered
      ratchet position incoming source plaintext payload)
    (follows : Epoch.Follows cipherSuite (keys receiver).privateKey epoch source)
    (ahead : incoming = number + 1) (before : Window.highest delivered ≤ source.start)
    {receiverChain : ReceiverChainNode β} {senderChain : SenderChainNode β}
    (receiverAt : ratchet.receiverChain = some receiverChain)
    (secret : receiverChain.ourRatchetPrivateKey = (keys receiver).privateKey)
    (present : source.start - Window.highest delivered ≠ 0 →
      ∃ chainKey, receiverChain.chainKey = some chainKey)
    (senderAt : ratchet.senderChain = some senderChain) :
    Renewal cipherSuite ratchet ad payload receiverChain senderChain plaintext ∧
      payload.sequence.toNat ≤ maxSkippedMessageKeyNodes := by
  have after := arrival.inside.after
  have skippedNum := arrival.previousSkippedNum before
  have small : source.start - Window.highest delivered ≤ maxSkippedMessageKeyNodes ∧
      position - source.start ≤ maxSkippedMessageKeyNodes := by
    have outstanding := arrival.outstanding
    rw [Window.missing_ahead (before.trans after), List.length_append,
      List.length_range'] at outstanding
    omega
  rw [arrival.sequence]
  refine ⟨⟨arrival.accepted setting, ?_, ?_, receiverAt, senderAt, ?_, ?_, ?_⟩, small.2⟩
  · have limit := payload.rootSequence.toNat_lt
    have offset : (1 : UInt32).toNat = 1 := rfl
    rw [arrival.sentOn.rootSequence] at limit
    apply UInt32.toNat_inj.mp
    rw [UInt32.toNat_add, arrival.sentOn.rootSequence, arrival.seat.rootSequence, offset]
    omega
  · rw [UInt32.lt_iff_toNat_lt, arrival.sentOn.rootSequence, arrival.seat.rootSequence]
    omega
  · rw [skippedNum]
    exact present
  · rw [skippedNum]
    exact small.1
  · have opened := arrival.opened setting
    have place : source.start + (position - source.start) = position := by omega
    rw [← place, source.chainKey_add cipherSuite (Nat.le_refl _),
      ← (arrival.derives follows secret).2, ← arrival.sequence] at opened
    exact opened

/-- A payload on the next epoch is opened, and the receiver starts an epoch of its own. -/
theorem Arrival.renewed (setting : Setting cipherSuite ad keys) (coins : Bytes β)
    (arrival : Arrival cipherSuite ad keys epochs receiver number epoch sent peerSent delivered
      ratchet position incoming source plaintext payload)
    (follows : Epoch.Follows cipherSuite (keys receiver).privateKey epoch source)
    (ahead : incoming = number + 1) :
    let next := Epoch.after cipherSuite source.root coins (keys receiver.peer).publicKey sent
    ∃ receiverChain senderChain after,
      decryptRatchet cipherSuite ratchet ad payload coins = (some plaintext, after) ∧
      Renewed cipherSuite ratchet ad payload coins receiverChain senderChain plaintext after ∧
      Mailbox cipherSuite keys (epochs ++ [next]) receiver (number + 2) next sent peerSent
        (delivered ++ [position]) after := by
  intro next
  have mailbox := arrival.mailbox
  have foundSource := arrival.inside.found
  rw [ahead] at foundSource
  have inside := (List.getElem?_eq_some_iff.mp foundSource).1
  have length : epochs.length = number + 2 := by
    have near := arrival.near
    omega
  have before := mailbox.ahead source foundSource
  have after := arrival.inside.after
  obtain ⟨receiverChain, nodes, receiverAt, secret, present, aligned, list⟩ :=
    arrival.previous ahead
  obtain ⟨senderChain, senderAt, peerKey⟩ : ∃ senderChain, ratchet.senderChain = some senderChain ∧
      senderChain.theirRatchetPublicKey = (keys receiver.peer).publicKey :=
    ⟨_, mailbox.sender, rfl⟩
  obtain ⟨renewal, near⟩ := arrival.renewal setting follows ahead before receiverAt secret present
    senderAt
  obtain ⟨root, first⟩ := arrival.derives follows secret
  let committed := committedRatchet cipherSuite ratchet payload coins receiverChain senderChain
  have started : startedRatchet cipherSuite ratchet payload coins receiverChain senderChain =
      readRatchet cipherSuite committed payload ⟨source.key, (keys receiver).privateKey,
        some (source.chainKey cipherSuite source.start)⟩
        (source.chainKey cipherSuite source.start) := by
    simp only [startedRatchet]
    rw [first, secret, arrival.sentOn.ratchetKey]
  obtain ⟨gap, moved⟩ := arrival.read committed (Nat.le_refl _) after (keys receiver).privateKey
  refine ⟨receiverChain, senderChain, _, decryptRatchet_new arrival.seat.sized coins renewal near,
    ?_, ?_⟩
  · rw [closeDecrypt_eq]
    exact ⟨renewal, rfl, rfl, rfl⟩
  · have pointer : committed.skippedMsgKeyList = skippedPointer (ratchet.skipped ++ nodes) := by
      rw [← list, ← arrival.previousSkippedNum before]
      rfl
    have skipped := skipped_of_pointer pointer
    have fresh : List.Forall₂ (NodeAt cipherSuite epochs receiver.peer)
        (List.range' source.start (position - source.start)) _ :=
      nodeAt_skippedNodes (Nat.le_refl _)
        fun other lower upper => arrival.inside.earlier lower (by omega)
    have both := List.rel_append aligned fresh
    dsimp only at both
    rw [← Window.range'_split before after] at both
    have stored := mailbox.stored_ahead (before.trans after) both
    have owned : owner epochs.length = receiver := by
      rw [length, ← arrival.seat.owned, owner_eq_iff]
      omega
    have extended : List.Forall₂ (NodeAt cipherSuite (epochs ++ [next]) receiver.peer) _ _ :=
      stored.imp fun place node placed =>
        placed.extend owned fun same => absurd same (Party.peer_ne receiver)
    rw [started]
    have top : max (Window.highest delivered) (position + 1) = position + 1 := by omega
    refine arrival.close (Nat.le_refl _) ?_ rfl rfl ?_ ?_ extended ?_
    · have index : next.chainKey cipherSuite sent = ⟨0, next.chain⟩ := by
        rw [Epoch.chainKey, show next.start = sent from rfl, Nat.sub_self]
        rfl
      rw [index]
      show some _ = some _
      rw [root, peerKey]
      rfl
    · rw [top]
      exact ⟨source, Window.getElem?_kept foundSource _, by omega, moved⟩
    · intro following found
      rw [List.getElem?_eq_none (by simp; omega)] at found
      cases found
    · rw [readRatchet_pointer (by rw [skipped]; exact pointer), gap, skipped, List.append_assoc]

end Arriving

end E2eeSecurity
