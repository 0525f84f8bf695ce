/-
This file shows that every message that is delivered once is opened to its plaintext.
-/
import E2eeSecurity.Net.Arrival

namespace E2eeSecurity

variable {β : Type} {cipherSuite : CipherSuite β} {ad : Bytes β} {keys : Party → KeyPair β}

/-- Every payload lies in an epoch, both mailboxes agree, and every delivery was opened. -/
structure Delivery (cipherSuite : CipherSuite β) (ad : Bytes β) (keys : Party → KeyPair β)
    (epochs : List (Epoch β)) (net : Net β) : Prop where
  lockstep : Lockstep cipherSuite keys epochs net
  firstStart : ∀ epoch, epochs[1]? = some epoch → epoch.start = 0
  starts : ∀ number epoch next, epochs[number]? = some epoch → epochs[number + 2]? = some next →
    epoch.start ≤ next.start
  outbox : ∀ party position entry, (net.sent party)[position]? = some entry →
    ∀ payload ∈ entry.payload, ∃ number epoch, InEpoch epochs party position number epoch ∧
      SentOn cipherSuite ad epoch number position entry.plaintext payload
  mailbox : ∀ party number epoch, epochs[number]? = some epoch →
    (net.ratchet party).rootSequence.toNat = number →
    Mailbox cipherSuite keys epochs party number epoch (net.sent party).length
      (net.sent party.peer).length (net.delivered party) (net.ratchet party)
  results : ∀ party, ∀ reception ∈ net.received party,
    ∃ entry, (net.sent party.peer)[reception.position]? = some entry ∧
      reception.result = some entry.plaintext

section Sending

variable {epochs : List (Epoch β)} {net : Net β}

/-- An encryption at a seat takes the next position of the epoch. -/
theorem Delivery.sends (setting : Setting cipherSuite ad keys)
    (delivery : Delivery cipherSuite ad keys epochs net) {sender : Party} {number : Nat}
    {epoch : Epoch β} (found : epochs[number]? = some epoch)
    (seat : Seat cipherSuite keys sender number epoch (net.ratchet sender)) (data : Bytes β) :
    let key := epoch.chainKey cipherSuite (net.sent sender).length
    let chain : SenderChainNode β := ⟨epoch.key, (keys sender.peer).publicKey, some key⟩
    encryptRatchet cipherSuite (net.ratchet sender) ad (some data) =
      ((cipherSuite.se.encrypt ad (cipherSuite.messageKey key.sharedKey) data).map
        (emittedPayload (net.ratchet sender) chain key),
        sentRatchet cipherSuite (net.ratchet sender) chain key) := by
  intro key chain
  have mailbox := delivery.mailbox sender number epoch found seat.rootSequence
  have valid := mailbox.valid setting.suite setting.publicKeys setting.privateKeys
    delivery.lockstep.full found seat
  simp only [isValidRatchet, Bool.and_eq_true] at valid
  exact encryptRatchet_full setting.suite seat.sized valid.1.1.2 mailbox.sender rfl ad data

/-- An encryption keeps the epochs and adds a payload at the next position. -/
theorem Delivery.encrypt (setting : Setting cipherSuite ad keys)
    (delivery : Delivery cipherSuite ad keys epochs net) (sender : Party) (data : Bytes β)
    (more : (net.sent sender).length + 1 < 2 ^ 32) :
    Delivery cipherSuite ad keys epochs (net.encrypt cipherSuite ad sender (some data)) := by
  obtain ⟨number, epoch, found, near, seat⟩ := delivery.lockstep.seats sender
  have mailbox := delivery.mailbox sender number epoch found seat.rootSequence
  have made := delivery.sends setting found seat data
  refine ⟨delivery.lockstep.encrypt ad sender (some data), delivery.firstStart, delivery.starts,
    ?_, ?_, ?_⟩
  · intro party position entry present payload emitted
    rcases Party.eq_or_peer party sender with rfl | rfl
    · simp only [Net.encrypt, Function.update_self] at present
      rcases Window.getElem?_concat present with old | ⟨rfl, rfl⟩
      · exact delivery.outbox party position entry old payload emitted
      · rw [made] at emitted
        obtain ⟨ciphertext, encrypted, rfl⟩ := Option.map_eq_some_iff.mp emitted
        refine ⟨number, epoch, ⟨found, seat.owned, mailbox.started, ?_⟩, rfl, rfl,
          seat.rootSequence, ?_, encrypted⟩
        · intro next foundNext
          rw [List.getElem?_eq_none near] at foundNext
          cases foundNext
        · rw [UInt32.ofNat_add, ← mailbox.total]
          rfl
    · have same : (net.encrypt cipherSuite ad sender (some data)).sent sender.peer =
          net.sent sender.peer := by simp [Net.encrypt]
      rw [same] at present
      exact delivery.outbox sender.peer position entry present payload emitted
  · intro party partyNumber partyEpoch partyFound reached
    rcases Party.eq_or_peer party sender with rfl | rfl
    · have sameNumber : number = partyNumber := by
        rw [← reached, ← seat.rootSequence]
        simp [Net.encrypt, made, sentRatchet]
      subst sameNumber
      rw [found, Option.some.injEq] at partyFound
      subst partyFound
      have moved := mailbox.send more
      simpa [Net.encrypt, made, Net.delivered] using moved
    · have same : (net.encrypt cipherSuite ad sender (some data)).ratchet sender.peer =
          net.ratchet sender.peer := by simp [Net.encrypt]
      rw [same] at reached
      have peerMailbox := delivery.mailbox sender.peer partyNumber partyEpoch partyFound reached
      have extended : Mailbox cipherSuite keys epochs sender.peer partyNumber partyEpoch
          (net.sent sender.peer).length ((net.sent sender).length + 1) (net.delivered sender.peer)
          (net.ratchet sender.peer) := by
        rw [Party.peer_peer] at peerMailbox
        exact { peerMailbox with within := peerMailbox.within.trans (Nat.le_succ _) }
      simpa [Net.encrypt, Net.delivered] using extended
  · intro party reception member
    obtain ⟨entry, present, result⟩ := delivery.results party reception member
    refine ⟨entry, ?_, result⟩
    rcases Party.eq_or_peer party sender with rfl | rfl
    · simpa [Net.encrypt] using present
    · rw [Party.peer_peer] at present ⊢
      simp only [Net.encrypt, Function.update_self]
      exact Window.getElem?_kept present _

end Sending

section Receiving

variable {epochs : List (Epoch β)} {net : Net β}

/-- A payload of the wire that was not read before arrives. -/
theorem Delivery.arrival (delivery : Delivery cipherSuite ad keys epochs net) {receiver : Party}
    {number position : Nat} {epoch : Epoch β} {payload : One2oneMsgPayload β}
    (found : epochs[number]? = some epoch) (near : epochs.length ≤ number + 2)
    (seat : Seat cipherSuite keys receiver number epoch (net.ratchet receiver))
    (present : net.payloadAt receiver.peer position = some payload)
    (unread : position ∉ net.delivered receiver)
    (outstanding : (Window.missing (net.delivered receiver ++ [position])).length ≤
      maxSkippedMessageKeyNodes) :
    ∃ entry incoming source, (net.sent receiver.peer)[position]? = some entry ∧
      Arrival cipherSuite ad keys epochs receiver number epoch (net.sent receiver).length
        (net.sent receiver.peer).length (net.delivered receiver) (net.ratchet receiver) position
        incoming source entry.plaintext payload := by
  obtain ⟨entry, atPosition, emitted⟩ := Option.bind_eq_some_iff.mp present
  obtain ⟨incoming, source, inside, sentOn⟩ :=
    delivery.outbox receiver.peer position entry atPosition payload emitted
  obtain ⟨peerNumber, peerEpoch, peerFound, -, peerSeat⟩ := delivery.lockstep.seats receiver.peer
  have peerMailbox := delivery.mailbox receiver.peer peerNumber peerEpoch peerFound
    peerSeat.rootSequence
  exact ⟨entry, incoming, source, atPosition, delivery.lockstep.full, delivery.firstStart,
    delivery.starts, found, near, seat, delivery.mailbox receiver number epoch found
      seat.rootSequence, inside, sentOn, (List.getElem?_eq_some_iff.mp atPosition).1,
    peerMailbox.few, unread, outstanding⟩

variable [DecidableEq β]

/-- An opened payload is recorded with its plaintext. -/
theorem Delivery.record (delivery : Delivery cipherSuite ad keys epochs net) {receiver : Party}
    {position : Nat} {entry : Sent β} {payload : One2oneMsgPayload β} {coins : Bytes β}
    (atPosition : (net.sent receiver.peer)[position]? = some entry)
    (opened : (decryptRatchet cipherSuite (net.ratchet receiver) ad payload coins).1 =
      some entry.plaintext) (party : Party) :
    ∀ reception ∈ (net.decrypt cipherSuite ad receiver position payload coins).received party,
      ∃ entry, ((net.decrypt cipherSuite ad receiver position payload coins).sent party.peer)[
        reception.position]? = some entry ∧ reception.result = some entry.plaintext := by
  intro reception member
  rcases Party.eq_or_peer party receiver with rfl | rfl
  · simp only [Net.decrypt, Function.update_self, List.mem_append, List.mem_singleton] at member
    rcases member with old | rfl
    · exact delivery.results party reception old
    · exact ⟨entry, atPosition, opened⟩
  · have same : (net.decrypt cipherSuite ad receiver position payload coins).received
        receiver.peer = net.received receiver.peer := by simp [Net.decrypt]
    rw [same] at member
    exact delivery.results receiver.peer reception member

theorem Net.delivered_decrypt (cipherSuite : CipherSuite β) (ad : Bytes β) (net : Net β)
    (receiver : Party) (position : Nat) (payload : One2oneMsgPayload β) (coins : Bytes β) :
    (net.decrypt cipherSuite ad receiver position payload coins).delivered receiver =
        net.delivered receiver ++ [position] ∧
      (net.decrypt cipherSuite ad receiver position payload coins).delivered receiver.peer =
        net.delivered receiver.peer := by
  simp [Net.decrypt, Net.delivered]

/-- A delivery that keeps the root key keeps the epochs. -/
theorem Delivery.keep (delivery : Delivery cipherSuite ad keys epochs net) {receiver : Party}
    {number position : Nat} {epoch : Epoch β} {entry : Sent β} {payload : One2oneMsgPayload β}
    {coins : Bytes β} {after : Ratchet β} (found : epochs[number]? = some epoch)
    (seat : Seat cipherSuite keys receiver number epoch (net.ratchet receiver))
    (atPosition : (net.sent receiver.peer)[position]? = some entry)
    (decrypted : decryptRatchet cipherSuite (net.ratchet receiver) ad payload coins =
      (some entry.plaintext, after))
    (rootKey : after.rootKey = (net.ratchet receiver).rootKey)
    (rootSequence : after.rootSequence = (net.ratchet receiver).rootSequence)
    (senderChain : after.senderChain = (net.ratchet receiver).senderChain)
    (mailbox : Mailbox cipherSuite keys epochs receiver number epoch (net.sent receiver).length
      (net.sent receiver.peer).length (net.delivered receiver ++ [position]) after) :
    Delivery cipherSuite ad keys epochs
      (net.decrypt cipherSuite ad receiver position payload coins) := by
  have frame := decryptRatchet_frame seat.sized ad payload coins
  rw [decrypted] at frame
  have ratchets : (net.decrypt cipherSuite ad receiver position payload coins).ratchet =
      Function.update net.ratchet receiver after := by simp only [Net.decrypt, decrypted]
  obtain ⟨here, there⟩ := net.delivered_decrypt cipherSuite ad receiver position payload coins
  refine ⟨delivery.lockstep.keep _ ratchets rfl frame.sized frame.privateKey rootKey rootSequence
    senderChain, delivery.firstStart, delivery.starts, delivery.outbox, ?_,
    delivery.record atPosition (by rw [decrypted])⟩
  intro party partyNumber partyEpoch partyFound reached
  rw [ratchets] at reached ⊢
  rcases Party.eq_or_peer party receiver with rfl | rfl
  · rw [Function.update_self] at reached ⊢
    have sameNumber : partyNumber = number := by
      rw [← reached, rootSequence, seat.rootSequence]
    subst sameNumber
    rw [found, Option.some.injEq] at partyFound
    subst partyFound
    rw [here]
    exact mailbox
  · rw [Function.update_of_ne (Party.peer_ne receiver)] at reached ⊢
    rw [there]
    exact delivery.mailbox receiver.peer partyNumber partyEpoch partyFound reached

omit [DecidableEq β] in
/-- The mailbox of the other party stays when a receiver starts an epoch. -/
theorem Delivery.mailbox_concat (delivery : Delivery cipherSuite ad keys epochs net)
    {receiver : Party} (owned : owner epochs.length = receiver) {next epoch : Epoch β}
    (start : next.start = (net.sent receiver).length) {number : Nat}
    (found : (epochs ++ [next])[number]? = some epoch)
    (reached : (net.ratchet receiver.peer).rootSequence.toNat = number) :
    Mailbox cipherSuite keys (epochs ++ [next]) receiver.peer number epoch
      (net.sent receiver.peer).length (net.sent receiver.peer.peer).length
      (net.delivered receiver.peer) (net.ratchet receiver.peer) := by
  obtain ⟨peerNumber, peerEpoch, peerFound, -, peerSeat⟩ := delivery.lockstep.seats receiver.peer
  have sameNumber : number = peerNumber := by rw [← reached, peerSeat.rootSequence]
  subst sameNumber
  rw [List.getElem?_append_left (List.getElem?_eq_some_iff.mp peerFound).1] at found
  have mailbox := delivery.mailbox receiver.peer number epoch found reached
  have within := mailbox.within
  rw [Party.peer_peer, ← start] at within
  refine mailbox.extend (Nat.le_refl _) ?_ ?_
  · intro following foundFollowing
    rcases Window.getElem?_concat foundFollowing with old | ⟨-, rfl⟩
    · exact mailbox.ahead following old
    · exact within
  · intro place node placed early
    exact placed.extend owned fun _ => Nat.lt_of_lt_of_le early within

/-- A delivery that replaces the root key adds the epoch that its receiver starts. -/
theorem Delivery.renew (setting : Setting cipherSuite ad keys)
    (delivery : Delivery cipherSuite ad keys epochs net) {receiver : Party}
    {number position : Nat} {epoch source : Epoch β} {entry : Sent β}
    {payload : One2oneMsgPayload β} {coins : Bytes β} {receiverChain : ReceiverChainNode β}
    {senderChain : SenderChainNode β} {after : Ratchet β} (found : epochs[number]? = some epoch)
    (seat : Seat cipherSuite keys receiver number epoch (net.ratchet receiver))
    (present : net.payloadAt receiver.peer position = some payload)
    (foundSource : epochs[payload.rootSequence.toNat]? = some source)
    (atPosition : (net.sent receiver.peer)[position]? = some entry)
    (decrypted : decryptRatchet cipherSuite (net.ratchet receiver) ad payload coins =
      (some entry.plaintext, after))
    (renewed : Renewed cipherSuite (net.ratchet receiver) ad payload coins receiverChain
      senderChain entry.plaintext after)
    (noWrap : (net.ratchet receiver).rootSequence ≤ after.rootSequence) {next : Epoch β}
    (made : next = Epoch.after cipherSuite source.root coins (keys receiver.peer).publicKey
      (net.sent receiver).length)
    (mailbox : Mailbox cipherSuite keys (epochs ++ [next]) receiver (number + 2) next
      (net.sent receiver).length (net.sent receiver.peer).length
      (net.delivered receiver ++ [position]) after) :
    Delivery cipherSuite ad keys (epochs ++ [next])
      (net.decrypt cipherSuite ad receiver position payload coins) := by
  have frame := decryptRatchet_frame seat.sized ad payload coins
  rw [decrypted] at frame
  have ratchets : (net.decrypt cipherSuite ad receiver position payload coins).ratchet =
      Function.update net.ratchet receiver after := by simp only [Net.decrypt, decrypted]
  obtain ⟨here, there⟩ := net.delivered_decrypt cipherSuite ad receiver position payload coins
  obtain ⟨last, foundLast, length, before, reachedNext, lockstep⟩ := delivery.lockstep.renew
    setting.suite setting.matching _ (delivery.lockstep.payloadAt present) renewed ratchets rfl
    frame.sized frame.privateKey noWrap (net.sent receiver).length
  rw [foundSource, Option.some.injEq] at foundLast
  subst foundLast made
  rw [seat.rootSequence] at before
  rw [before] at length reachedNext
  have owned : owner epochs.length = receiver := by
    rw [length, ← seat.owned, owner_eq_iff]
    omega
  have started : epoch.start ≤ (net.sent receiver).length :=
    (delivery.mailbox receiver number epoch found seat.rootSequence).started
  refine ⟨lockstep, ?_, ?_, ?_, ?_, delivery.record atPosition (by rw [decrypted])⟩
  · intro first foundFirst
    rw [List.getElem?_append_left (by omega)] at foundFirst
    exact delivery.firstStart first foundFirst
  · intro index former latter foundFormer foundLatter
    rcases Window.getElem?_concat_pair Nat.two_pos found (by omega) foundFormer foundLatter with
      ⟨oldFormer, oldLatter⟩ | ⟨rfl, rfl, rfl⟩
    · exact delivery.starts index former latter oldFormer oldLatter
    · exact started
  · intro party place sent atPlace other emitted
    obtain ⟨index, home, inside, sentOn⟩ := delivery.outbox party place sent atPlace other emitted
    refine ⟨index, home, inside.extend owned ?_, sentOn⟩
    rintro rfl
    exact (List.getElem?_eq_some_iff.mp atPlace).1
  · intro party partyNumber partyEpoch partyFound reached
    rw [ratchets] at reached ⊢
    rcases Party.eq_or_peer party receiver with rfl | rfl
    · rw [Function.update_self] at reached ⊢
      have sameNumber : partyNumber = number + 2 := by omega
      subst sameNumber
      rcases Window.getElem?_concat partyFound with old | ⟨-, rfl⟩
      · have inside := (List.getElem?_eq_some_iff.mp old).1
        omega
      · rw [here]
        exact mailbox
    · rw [Function.update_of_ne (Party.peer_ne receiver)] at reached ⊢
      rw [there]
      exact delivery.mailbox_concat owned rfl partyFound reached

/-- A payload on the last epoch replaces both chains of its receiver. -/
theorem Delivery.renews (setting : Setting cipherSuite ad keys)
    (delivery : Delivery cipherSuite ad keys epochs net) {receiver : Party}
    {number position : Nat} {payload : One2oneMsgPayload β}
    (behind : (net.ratchet receiver).rootSequence.toNat = number)
    (present : net.payloadAt receiver.peer position = some payload)
    (ahead : payload.rootSequence.toNat = number + 1)
    (unread : position ∉ net.delivered receiver)
    (outstanding : (Window.missing (net.delivered receiver ++ [position])).length ≤
      maxSkippedMessageKeyNodes) (coins : Bytes β) :
    (∃ receiverChain senderChain plaintext,
      Renewed cipherSuite (net.ratchet receiver) ad payload coins receiverChain senderChain
        plaintext (decryptRatchet cipherSuite (net.ratchet receiver) ad payload coins).2) ∧
      ((net.ratchet receiver).rootSequence ≤
          (decryptRatchet cipherSuite (net.ratchet receiver) ad payload coins).2.rootSequence →
        ∃ next, Delivery cipherSuite ad keys (epochs ++ [next])
            (net.decrypt cipherSuite ad receiver position payload coins) ∧
          next.key = (cipherSuite.kem.encapsulate coins (keys receiver.peer).publicKey).2) := by
  obtain ⟨receiverNumber, epoch, found, near, seat⟩ := delivery.lockstep.seats receiver
  have same : receiverNumber = number := seat.rootSequence.symm.trans behind
  subst same
  obtain ⟨entry, incoming, source, atPosition, arrival⟩ :=
    delivery.arrival found near seat present unread outstanding
  have newest : incoming = receiverNumber + 1 := arrival.sentOn.rootSequence.symm.trans ahead
  have foundSource := arrival.inside.found
  have follows : Epoch.Follows cipherSuite (keys receiver).privateKey epoch source := by
    rw [newest] at foundSource
    rw [← seat.owned]
    exact delivery.lockstep.follows receiverNumber epoch source found foundSource
  obtain ⟨receiverChain, senderChain, after, decrypted, renewed, mailbox⟩ :=
    arrival.renewed setting coins follows newest
  rw [← arrival.sentOn.rootSequence] at foundSource
  rw [decrypted]
  exact ⟨⟨receiverChain, senderChain, entry.plaintext, renewed⟩, fun noWrap => ⟨_, delivery.renew
    setting found seat present foundSource atPosition decrypted renewed noWrap rfl mailbox, rfl⟩⟩

/-- A first delivery opens the payload, with the same epochs or with one more. -/
theorem Delivery.decrypt (setting : Setting cipherSuite ad keys)
    (delivery : Delivery cipherSuite ad keys epochs net) {receiver : Party} {position : Nat}
    {payload : One2oneMsgPayload β} {coins : Bytes β}
    (distinct : (epochs.map Epoch.key).Nodup)
    (present : net.payloadAt receiver.peer position = some payload)
    (unread : position ∉ net.delivered receiver)
    (outstanding : (Window.missing (net.delivered receiver ++ [position])).length ≤
      maxSkippedMessageKeyNodes)
    (noWrap : (net.ratchet receiver).rootSequence ≤
      (decryptRatchet cipherSuite (net.ratchet receiver) ad payload coins).2.rootSequence) :
    ∃ added, Delivery cipherSuite ad keys (epochs ++ added)
        (net.decrypt cipherSuite ad receiver position payload coins) ∧
      (added = [] ∨ added.map Epoch.key =
        [(cipherSuite.kem.encapsulate coins (keys receiver.peer).publicKey).2]) := by
  obtain ⟨number, epoch, found, near, seat⟩ := delivery.lockstep.seats receiver
  obtain ⟨entry, incoming, source, atPosition, arrival⟩ :=
    delivery.arrival found near seat present unread outstanding
  rcases arrival.parity with ahead | older
  · obtain ⟨-, extended⟩ := delivery.renews setting seat.rootSequence present
      (arrival.sentOn.rootSequence.trans ahead) unread outstanding coins
    obtain ⟨next, renewed, named⟩ := extended noWrap
    exact ⟨[next], renewed, Or.inr (by rw [List.map_singleton, named])⟩
  · have opened : ∃ after, decryptRatchet cipherSuite (net.ratchet receiver) ad payload coins =
        (some entry.plaintext, after) ∧ after.rootKey = (net.ratchet receiver).rootKey ∧
          after.rootSequence = (net.ratchet receiver).rootSequence ∧
          after.senderChain = (net.ratchet receiver).senderChain ∧
          Mailbox cipherSuite keys epochs receiver number epoch (net.sent receiver).length
            (net.sent receiver.peer).length (net.delivered receiver ++ [position]) after := by
      rcases Nat.lt_or_ge position (Window.highest (net.delivered receiver)) with behind | reached
      · exact arrival.skipped setting coins distinct older behind
      · exact arrival.existing setting coins (arrival.current older reached) reached
    obtain ⟨after, decrypted, rootKey, rootSequence, senderChain, mailbox⟩ := opened
    refine ⟨[], ?_, Or.inl rfl⟩
    rw [List.append_nil]
    exact delivery.keep found seat atPosition decrypted rootKey rootSequence senderChain mailbox

end Receiving

section Runs

/-- Fewer than `2 ^ 32` messages go each way, each is delivered at most once, and the list of stored
keys never overflows. -/
structure Net.Orderly (net : Net β) : Prop where
  few : ∀ party, (net.sent party).length < 2 ^ 32
  once : ∀ party, (net.delivered party).Nodup
  outstanding : ∀ party, (Window.missing (net.delivered party)).length ≤ maxSkippedMessageKeyNodes

instance (net : Net β) : Decidable net.Orderly :=
  decidable_of_iff ((∀ party, (net.sent party).length < 2 ^ 32) ∧
      (∀ party, (net.delivered party).Nodup) ∧
      ∀ party, (Window.missing (net.delivered party)).length ≤ maxSkippedMessageKeyNodes)
    ⟨fun parts => ⟨parts.1, parts.2.1, parts.2.2⟩,
      fun orderly => ⟨orderly.few, orderly.once, orderly.outstanding⟩⟩

/-- This is the ciphertext that a call makes if it starts a new sender chain. -/
def NetEvent.ciphertext (cipherSuite : CipherSuite β) (keys : Party → KeyPair β) :
    NetEvent β → Option (Bytes β)
  | .encrypt _ _ => none
  | .decrypt receiver _ coins =>
      some (cipherSuite.kem.encapsulate coins (keys receiver.peer).publicKey).2

/-- These are the ciphertexts of the two initialisers and of the calls of a run. -/
def netCiphertexts (cipherSuite : CipherSuite β) (keys : Party → KeyPair β)
    (coins : Party → Bytes β) (events : List (NetEvent β)) : List (Bytes β) :=
  [(cipherSuite.kem.encapsulate (coins .bob) (keys .alice).publicKey).2,
    (cipherSuite.kem.encapsulate (coins .alice) (keys .bob).publicKey).2] ++
    events.filterMap (NetEvent.ciphertext cipherSuite keys)

variable {sharedSecret : Bytes β} {coins : Party → Bytes β} {start : Net β}

theorem MatchedStart.setting [DecidableEq β]
    (matched : MatchedStart cipherSuite sharedSecret keys coins start) (adPresent : ad ≠ [])
    (correct : cipherSuite.se.Correct) : Setting cipherSuite ad keys := by
  obtain ⟨suite, bobPrivate, alicePublic, -⟩ := initialiseAsBob_some matched.bob
  obtain ⟨-, alicePrivate, bobPublic, -⟩ := initialiseAsAlice_some matched.alice
  refine ⟨suite, adPresent, correct, matched.matching, ?_, ?_⟩
  · intro party
    cases party with
    | alice => exact alicePublic
    | bob => exact bobPublic
  · intro party
    cases party with
    | alice => exact alicePrivate
    | bob => exact bobPrivate

/-- A mailbox of a fresh ratchet agrees with an empty wire. -/
theorem Mailbox.first {epochs : List (Epoch β)} {party : Party} {number : Nat} {epoch : Epoch β}
    {ratchet : Ratchet β} (started : epoch.start = 0)
    (sender : ratchet.senderChain =
      some ⟨epoch.key, (keys party.peer).publicKey, some ⟨0, epoch.chain⟩⟩)
    (total : ratchet.sendingMessageSequence = 0) (received : ratchet.receivedMessageSequence = 0)
    (list : ratchet.skippedMsgKeyList = none)
    (chain : ReceiverAt cipherSuite (keys party).privateKey epochs 0 ratchet number) :
    Mailbox cipherSuite keys epochs party number epoch 0 0 [] ratchet := by
  have none : ratchet.skipped = [] := by rw [Ratchet.skipped, list, Option.getD_none]
  refine ⟨started.le, by decide, ?_, total, received, Nat.le_refl _, chain,
    fun _ _ => Nat.zero_le _, ?_, ?_, Nat.zero_le _⟩
  · rw [sender, Epoch.chainKey, started]
    rfl
  · rw [none]
    exact .nil
  · rw [none, list]
    rfl

theorem Delivery.first [DecidableEq β]
    (matched : MatchedStart cipherSuite sharedSecret keys coins start) :
    Delivery cipherSuite ad keys (firstEpochs cipherSuite sharedSecret keys coins) start := by
  obtain ⟨bob, alice⟩ := matched.ratchets
  have unsent := matched.unsent
  have unread := matched.unread
  refine ⟨Lockstep.first matched, ?_, ?_, ?_, ?_, ?_⟩
  · rintro epoch ⟨⟩
    rfl
  · intro number epoch next _ found
    simp [firstEpochs] at found
  · intro party position entry present
    simp [unsent party] at present
  · intro party number epoch found reached
    have delivered : start.delivered party = [] := by rw [Net.delivered, unread party, List.map_nil]
    rw [unsent party, unsent party.peer, delivered]
    cases party with
    | bob =>
        rw [bob] at reached ⊢
        have zero : number = 0 := reached.symm
        subst zero
        cases found
        exact Mailbox.first rfl rfl rfl rfl rfl ⟨rfl, rfl⟩
    | alice =>
        rw [alice] at reached ⊢
        have one : number = 1 := reached.symm
        subst one
        cases found
        exact Mailbox.first rfl rfl rfl rfl rfl ⟨_, rfl, Nat.le_refl _, rfl⟩
  · intro party reception member
    simp [unread party] at member

variable [DecidableEq β]

/-- An orderly event keeps the delivery, and the names of the epochs stay distinct. -/
theorem Delivery.step (setting : Setting cipherSuite ad keys) {epochs : List (Epoch β)}
    {net : Net β} {event : NetEvent β} {later : List (Bytes β)}
    (delivery : Delivery cipherSuite ad keys epochs net)
    (fresh : (epochs.map Epoch.key ++
      ((event.ciphertext cipherSuite keys).toList ++ later)).Nodup)
    (orderly : (stepNet cipherSuite ad net event).Orderly) (noWrap : NoWrap cipherSuite ad net event) :
    ∃ epochs', Delivery cipherSuite ad keys epochs' (stepNet cipherSuite ad net event) ∧
      (epochs'.map Epoch.key ++ later).Nodup := by
  have kept : (epochs.map Epoch.key ++ later).Nodup :=
    fresh.sublist (List.Sublist.append_left (List.sublist_append_right _ _) _)
  cases event with
  | encrypt sender plaintext =>
      refine ⟨epochs, ?_, kept⟩
      cases plaintext with
      | none =>
          simp only [stepNet, Net.encrypt_none]
          exact delivery
      | some data =>
          have few := orderly.few sender
          simp only [stepNet, Net.encrypt, Function.update_self, List.length_append,
            List.length_singleton] at few
          exact delivery.encrypt setting sender data few
  | decrypt receiver position coins =>
      cases present : net.payloadAt receiver.peer position with
      | none =>
          simp only [stepNet, present]
          exact ⟨epochs, delivery, kept⟩
      | some payload =>
          simp only [stepNet, NoWrap, present] at orderly noWrap ⊢
          obtain ⟨here, -⟩ := net.delivered_decrypt cipherSuite ad receiver position payload coins
          have once := orderly.once receiver
          have outstanding := orderly.outstanding receiver
          have ordered := noWrap receiver
          rw [here] at once outstanding
          simp only [Net.decrypt, Function.update_self] at ordered
          have unread : position ∉ net.delivered receiver := by
            intro member
            exact (List.nodup_append.mp once).2.2 position member position (by simp) rfl
          obtain ⟨added, extended, none | one⟩ := delivery.decrypt setting
            (List.nodup_append.mp fresh).1 present unread outstanding ordered
          · refine ⟨_, extended, ?_⟩
            rw [none, List.append_nil]
            exact kept
          · refine ⟨_, extended, ?_⟩
            rw [List.map_append, one, List.append_assoc]
            exact fresh

/-- An orderly run keeps the delivery. -/
theorem Delivery.run (setting : Setting cipherSuite ad keys) (events : List (NetEvent β))
    {epochs : List (Epoch β)} {net : Net β} (delivery : Delivery cipherSuite ad keys epochs net)
    (fresh : (epochs.map Epoch.key ++
      events.filterMap (NetEvent.ciphertext cipherSuite keys)).Nodup)
    (guarded : Machine.Along (stepNet cipherSuite ad) (fun net event =>
      (stepNet cipherSuite ad net event).Orderly ∧ NoWrap cipherSuite ad net event) net events) :
    ∃ epochs', Delivery cipherSuite ad keys epochs' (runNet cipherSuite ad net events) := by
  induction events generalizing epochs net with
  | nil => exact ⟨epochs, delivery⟩
  | cons event rest ih =>
      obtain ⟨⟨orderly, noWrap⟩, later⟩ := guarded
      have split : (event :: rest).filterMap (NetEvent.ciphertext cipherSuite keys) =
          (event.ciphertext cipherSuite keys).toList ++
            rest.filterMap (NetEvent.ciphertext cipherSuite keys) := by
        cases made : event.ciphertext cipherSuite keys <;> simp [made]
      rw [split] at fresh
      obtain ⟨epochs', stepped, distinct⟩ := delivery.step setting fresh orderly noWrap
      exact ih stepped distinct later

/-- Every payload that reaches the other party in an orderly run without a wrapped root sequence is
opened to its plaintext, in any order and with any losses. -/
theorem runNet_delivers (matched : MatchedStart cipherSuite sharedSecret keys coins start)
    (adPresent : ad ≠ []) (correct : cipherSuite.se.Correct) (events : List (NetEvent β))
    (fresh : (netCiphertexts cipherSuite keys coins events).Nodup)
    (guarded : Machine.Along (stepNet cipherSuite ad) (fun net event =>
      (stepNet cipherSuite ad net event).Orderly ∧ NoWrap cipherSuite ad net event) start events)
    (party : Party) :
    ∀ reception ∈ (runNet cipherSuite ad start events).received party,
      ∃ entry, ((runNet cipherSuite ad start events).sent party.peer)[reception.position]? =
        some entry ∧ reception.result = some entry.plaintext := by
  obtain ⟨epochs, delivery⟩ := Delivery.run (matched.setting adPresent correct) events
    (Delivery.first matched) fresh guarded
  exact delivery.results party

/-- Bob reads all three messages of Alice in the exchange. -/
theorem exchange_delivers :
    ((runNet symbolicSuite Symbolic.associatedData Symbolic.net Symbolic.exchange).delivered
        .bob) = [1, 2, 0] ∧
      ∀ reception ∈ (runNet symbolicSuite Symbolic.associatedData Symbolic.net
          Symbolic.exchange).received .bob,
        ∃ entry, ((runNet symbolicSuite Symbolic.associatedData Symbolic.net
          Symbolic.exchange).sent .alice)[reception.position]? = some entry ∧
            reception.result = some entry.plaintext :=
  ⟨by decide +kernel, runNet_delivers Symbolic.net_matched (by decide) symbolicSuite_correct
    Symbolic.exchange (by decide +kernel) (by decide +kernel) .bob⟩

end Runs

end E2eeSecurity
