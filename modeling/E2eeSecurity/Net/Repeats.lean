/-
This file shows that a payload that was opened once is refused when the network repeats it, and that
a run with repeated deliveries keeps the ratchets of a run without them.
-/
import E2eeSecurity.Net.Delivery
import E2eeSecurity.Ratchet.Failure
import E2eeSecurity.Ratchet.Replay

namespace E2eeSecurity

variable {β : Type} {cipherSuite : CipherSuite β} {sharedSecret ad : Bytes β}

/-- A key that the receiver has used opens the payload at each delivered position. -/
structure Spent (cipherSuite : CipherSuite β) (sharedSecret ad : Bytes β) (net : Net β)
    (party : Party) (history : KeyHistory β) : Prop where
  tracks : Tracks cipherSuite sharedSecret (net.ratchet party) history
  opened : ∀ position ∈ net.delivered party, ∃ payload place plaintext,
    net.payloadAt party.peer position = some payload ∧ place ∈ history.ledger.used ∧
      cipherSuite.se.decrypt ad (cipherSuite.keyAt place) payload.ciphertext = some plaintext

section Start

variable {keys : Party → KeyPair β} {coins : Party → Bytes β} {start : Net β}

/-- Both ratchets of a matched start have not used any key. -/
theorem MatchedStart.spent (free : cipherSuite.FreeKeys)
    (matched : MatchedStart cipherSuite sharedSecret keys coins start) (party : Party) :
    ∃ history, Spent cipherSuite sharedSecret ad start party history := by
  have unread : start.delivered party = [] := by
    rw [Net.delivered, matched.unread party, List.map_nil]
  have none : ∀ position ∈ start.delivered party, False := by
    rw [unread]
    intro position member
    cases member
  cases party with
  | alice => exact ⟨_, Tracks.alice free matched.alice, fun _ member => (none _ member).elim⟩
  | bob => exact ⟨_, Tracks.bob matched.bob, fun _ member => (none _ member).elim⟩

end Start

section Steps

variable {net : Net β} {party : Party} {history : KeyHistory β}

/-- An encryption keeps all payloads of both parties. -/
theorem Net.payloadAt_kept {sender owner : Party} {position : Nat}
    {payload : One2oneMsgPayload β} (present : net.payloadAt owner position = some payload)
    (data : Bytes β) :
    (net.encrypt cipherSuite ad sender (some data)).payloadAt owner position = some payload := by
  obtain ⟨entry, found, emitted⟩ := Option.bind_eq_some_iff.mp present
  rw [Net.payloadAt, Option.bind_eq_some_iff]
  refine ⟨entry, ?_, emitted⟩
  rcases Party.eq_or_peer owner sender with rfl | rfl
  · simp only [Net.encrypt, Function.update_self]
    exact Window.getElem?_kept found _
  · simpa [Net.encrypt] using found

/-- Used keys stay used through an encryption of either party. -/
theorem Spent.encrypt (spent : Spent cipherSuite sharedSecret ad net party history)
    (sender : Party) (data : Bytes β) :
    ∃ next, Spent cipherSuite sharedSecret ad
      (net.encrypt cipherSuite ad sender (some data)) party next := by
  have moved : ∃ next, Tracks cipherSuite sharedSecret
      ((net.encrypt cipherSuite ad sender (some data)).ratchet party) next ∧
        history.Grows next := by
    rcases Party.eq_or_peer party sender with rfl | rfl
    · simpa [Net.encrypt] using spent.tracks.encrypt ad (some data)
    · exact ⟨history, by simpa [Net.encrypt] using spent.tracks, .refl history⟩
  obtain ⟨next, tracks, -, kept⟩ := moved
  refine ⟨next, tracks, ?_⟩
  intro position member
  obtain ⟨payload, place, plaintext, present, used, opened⟩ := spent.opened position member
  exact ⟨payload, place, plaintext, Net.payloadAt_kept present data, kept used, opened⟩

variable [DecidableEq β] {receiver : Party} {position : Nat} {payload : One2oneMsgPayload β}
  {coins : Bytes β}

/-- A decryption of the other party keeps what a party has used. -/
theorem Spent.other (spent : Spent cipherSuite sharedSecret ad net receiver.peer history)
    (position : Nat) (payload : One2oneMsgPayload β) (coins : Bytes β) :
    Spent cipherSuite sharedSecret ad
      (net.decrypt cipherSuite ad receiver position payload coins) receiver.peer history where
  tracks := by simpa [Net.decrypt] using spent.tracks
  opened := by
    rw [(net.delivered_decrypt cipherSuite ad receiver position payload coins).2]
    exact spent.opened

/-- A decryption that succeeds uses a key that opens its payload. -/
theorem Spent.decrypt (free : cipherSuite.FreeKeys)
    (spent : Spent cipherSuite sharedSecret ad net receiver history)
    (present : net.payloadAt receiver.peer position = some payload) {plaintext : Bytes β}
    (success : (decryptRatchet cipherSuite (net.ratchet receiver) ad payload coins).1 =
      some plaintext) :
    ∃ next, Spent cipherSuite sharedSecret ad
      (net.decrypt cipherSuite ad receiver position payload coins) receiver next := by
  obtain ⟨next, tracks, ⟨-, kept⟩, opens⟩ := spent.tracks.decrypt free ad payload coins
  obtain ⟨place, -, used, opened⟩ := opens plaintext success
  refine ⟨next, by simpa [Net.decrypt] using tracks, ?_⟩
  rw [(net.delivered_decrypt cipherSuite ad receiver position payload coins).1]
  intro other member
  obtain old | new := List.mem_append.mp member
  · obtain ⟨otherPayload, otherPlace, otherPlaintext, otherPresent, otherUsed, otherOpened⟩ :=
      spent.opened other old
    exact ⟨otherPayload, otherPlace, otherPlaintext, otherPresent, kept otherUsed, otherOpened⟩
  · rw [List.mem_singleton.mp new]
    exact ⟨payload, place, plaintext, present, used, opened⟩

/-- The payload of a delivered position is refused from then on. -/
theorem Spent.refuses (free : cipherSuite.FreeKeys) (ideal : cipherSuite.se.Ideal)
    (spent : Spent cipherSuite sharedSecret ad net receiver history)
    (delivered : position ∈ net.delivered receiver)
    (present : net.payloadAt receiver.peer position = some payload) (coins : Bytes β) :
    (decryptRatchet cipherSuite (net.ratchet receiver) ad payload coins).1 = none := by
  obtain ⟨same, place, plaintext, found, used, opened⟩ := spent.opened position delivered
  rw [present, Option.some.injEq] at found
  subst found
  exact spent.tracks.opens_once free ideal used opened coins

/-- A first delivery opens its payload, also when the root sequence wraps around. -/
theorem Delivery.opens_first {keys : Party → KeyPair β} {epochs : List (Epoch β)}
    (setting : Setting cipherSuite ad keys) (delivery : Delivery cipherSuite ad keys epochs net)
    (distinct : (epochs.map Epoch.key).Nodup)
    (present : net.payloadAt receiver.peer position = some payload)
    (unread : position ∉ net.delivered receiver)
    (outstanding : (Window.missing (net.delivered receiver ++ [position])).length ≤
      maxSkippedMessageKeyNodes) (coins : Bytes β) :
    ∃ entry, (net.sent receiver.peer)[position]? = some entry ∧
      (decryptRatchet cipherSuite (net.ratchet receiver) ad payload coins).1 =
        some entry.plaintext := by
  obtain ⟨number, epoch, found, near, seat⟩ := delivery.lockstep.seats receiver
  obtain ⟨entry, incoming, source, atPosition, arrival⟩ :=
    delivery.arrival found near seat present unread outstanding
  refine ⟨entry, atPosition, ?_⟩
  rcases arrival.parity with newest | older
  · have foundSource := arrival.inside.found
    have follows : Epoch.Follows cipherSuite (keys receiver).privateKey epoch source := by
      rw [newest] at foundSource
      rw [← seat.owned]
      exact delivery.lockstep.follows number epoch source found foundSource
    obtain ⟨receiverChain, senderChain, after, decrypted, -⟩ :=
      arrival.renewed setting coins follows newest
    rw [decrypted]
  · rcases Nat.lt_or_ge position (Window.highest (net.delivered receiver)) with behind | reached
    · obtain ⟨after, decrypted, -⟩ := arrival.skipped setting coins distinct older behind
      rw [decrypted]
    · obtain ⟨after, decrypted, -⟩ :=
        arrival.existing setting coins (arrival.current older reached) reached
      rw [decrypted]

end Steps

section Repeats

/-- Fewer than `2 ^ 32` messages go each way, and the list of stored keys never overflows. -/
structure Net.Bounded (net : Net β) : Prop where
  few : ∀ party, (net.sent party).length < 2 ^ 32
  outstanding : ∀ party, (Window.missing (net.delivered party)).length ≤ maxSkippedMessageKeyNodes

instance (net : Net β) : Decidable net.Bounded :=
  decidable_of_iff ((∀ party, (net.sent party).length < 2 ^ 32) ∧
      ∀ party, (Window.missing (net.delivered party)).length ≤ maxSkippedMessageKeyNodes)
    ⟨fun both => ⟨both.1, both.2⟩, fun bounded => ⟨bounded.few, bounded.outstanding⟩⟩

/-- The network has the ratchets and the payloads of a network on which no delivery is repeated. -/
structure Repeating (cipherSuite : CipherSuite β) (sharedSecret ad : Bytes β)
    (keys : Party → KeyPair β) (epochs : List (Epoch β)) (net once : Net β) : Prop where
  delivery : Delivery cipherSuite ad keys epochs once
  spent : ∀ party, ∃ history, Spent cipherSuite sharedSecret ad once party history
  ratchet : net.ratchet = once.ratchet
  sent : net.sent = once.sent
  delivered : ∀ party position, position ∈ net.delivered party ↔ position ∈ once.delivered party

variable {keys : Party → KeyPair β} {epochs : List (Epoch β)} {net once : Net β}

theorem Repeating.payloadAt (repeating : Repeating cipherSuite sharedSecret ad keys epochs net once)
    (party : Party) (position : Nat) :
    net.payloadAt party position = once.payloadAt party position := by
  simp only [Net.payloadAt, repeating.sent]

/-- An encryption happens on both networks. -/
theorem Repeating.encrypt (setting : Setting cipherSuite ad keys)
    (repeating : Repeating cipherSuite sharedSecret ad keys epochs net once) (sender : Party)
    (data : Bytes β) (more : (net.sent sender).length + 1 < 2 ^ 32) :
    Repeating cipherSuite sharedSecret ad keys epochs
      (net.encrypt cipherSuite ad sender (some data))
      (once.encrypt cipherSuite ad sender (some data)) where
  delivery := by
    rw [repeating.sent] at more
    exact repeating.delivery.encrypt setting sender data more
  spent party := by
    obtain ⟨history, spent⟩ := repeating.spent party
    exact spent.encrypt sender data
  ratchet := by simp only [Net.encrypt, repeating.ratchet]
  sent := by simp only [Net.encrypt, repeating.ratchet, repeating.sent]
  delivered := repeating.delivered

variable [DecidableEq β] {receiver : Party} {position : Nat} {payload : One2oneMsgPayload β}

/-- A payload that was delivered before leaves its receiver as it is. -/
theorem Delivery.repeated_kept (free : cipherSuite.FreeKeys) (ideal : cipherSuite.se.Ideal)
    (delivery : Delivery cipherSuite ad keys epochs net) {history : KeyHistory β}
    (spent : Spent cipherSuite sharedSecret ad net receiver history)
    (again : position ∈ net.delivered receiver)
    (present : net.payloadAt receiver.peer position = some payload) (coins : Bytes β) :
    (decryptRatchet cipherSuite (net.ratchet receiver) ad payload coins).2 =
      net.ratchet receiver := by
  obtain ⟨number, epoch, found, -, seat⟩ := delivery.lockstep.seats receiver
  have mailbox := delivery.mailbox receiver number epoch found seat.rootSequence
  obtain ⟨entry, atPosition, emitted⟩ := Option.bind_eq_some_iff.mp present
  obtain ⟨incoming, source, inside, sentOn⟩ :=
    delivery.outbox receiver.peer position entry atPosition payload emitted
  obtain ⟨peerNumber, peerEpoch, peerFound, -, peerSeat⟩ := delivery.lockstep.seats receiver.peer
  have few := (delivery.mailbox receiver.peer peerNumber peerEpoch peerFound
    peerSeat.rootSequence).few
  have within := mailbox.within
  have behind : position < Window.highest (net.delivered receiver) := Window.lt_highest again
  apply decryptRatchet_failed_kept coins (spent.refuses free ideal again present coins)
  · rw [sentOn.total, mailbox.received, UInt32.le_iff_toNat_le, UInt32.toNat_ofNat',
      UInt32.toNat_ofNat']
    omega
  · rw [← mailbox.stored.length_eq]
    exact mailbox.outstanding
  · -- a new chain starts after every position that was delivered
    rintro ⟨next, -, opened, -⟩
    obtain ⟨-, -, -, -, nonzero, -⟩ := verifyAndDecryptForNewChain_checks opened
    have ahead : incoming = number + 1 := by
      have one : (1 : UInt32).toNat = 1 := rfl
      have bound := (net.ratchet receiver).rootSequence.toNat_lt
      have value := congrArg UInt32.toNat next
      rw [UInt32.toNat_add, sentOn.rootSequence, seat.rootSequence, one] at value
      have positive : incoming ≠ 0 := fun zero =>
        nonzero (UInt32.toNat.inj (sentOn.rootSequence.trans zero))
      rw [seat.rootSequence] at bound
      omega
    subst ahead
    have before := mailbox.ahead source inside.found
    have after := inside.after
    omega

/-- A repeated delivery only happens on the network with repetitions. -/
theorem Repeating.decrypt_again (free : cipherSuite.FreeKeys) (ideal : cipherSuite.se.Ideal)
    (repeating : Repeating cipherSuite sharedSecret ad keys epochs net once)
    (present : net.payloadAt receiver.peer position = some payload)
    (again : position ∈ net.delivered receiver) (coins : Bytes β) :
    Repeating cipherSuite sharedSecret ad keys epochs
      (net.decrypt cipherSuite ad receiver position payload coins) once := by
  obtain ⟨history, spent⟩ := repeating.spent receiver
  have member := (repeating.delivered receiver position).mp again
  rw [repeating.payloadAt] at present
  have kept := repeating.delivery.repeated_kept free ideal spent member present coins
  obtain ⟨here, there⟩ := net.delivered_decrypt cipherSuite ad receiver position payload coins
  refine { repeating with ratchet := ?_, delivered := ?_ }
  · simp only [Net.decrypt, repeating.ratchet, kept, Function.update_eq_self]
  · intro party place
    rcases Party.eq_or_peer party receiver with rfl | rfl
    · rw [here, ← repeating.delivered, List.mem_append, List.mem_singleton]
      constructor
      · rintro (old | rfl)
        · exact old
        · exact again
      · exact Or.inl
    · rw [there]
      exact repeating.delivered receiver.peer place

/-- A first delivery happens on both networks, with the same epochs or with one more. -/
theorem Repeating.decrypt_first (free : cipherSuite.FreeKeys)
    (setting : Setting cipherSuite ad keys)
    (repeating : Repeating cipherSuite sharedSecret ad keys epochs net once)
    (distinct : (epochs.map Epoch.key).Nodup)
    (present : net.payloadAt receiver.peer position = some payload)
    (unread : position ∉ net.delivered receiver)
    (outstanding : (Window.missing (net.delivered receiver ++ [position])).length ≤
      maxSkippedMessageKeyNodes) {coins : Bytes β}
    (noWrap : (net.ratchet receiver).rootSequence ≤
      (decryptRatchet cipherSuite (net.ratchet receiver) ad payload coins).2.rootSequence) :
    ∃ added, Repeating cipherSuite sharedSecret ad keys (epochs ++ added)
        (net.decrypt cipherSuite ad receiver position payload coins)
        (once.decrypt cipherSuite ad receiver position payload coins) ∧
      (added = [] ∨ added.map Epoch.key =
        [(cipherSuite.kem.encapsulate coins (keys receiver.peer).publicKey).2]) := by
  have window : Window.missing (net.delivered receiver ++ [position]) =
      Window.missing (once.delivered receiver ++ [position]) := by
    apply Window.missing_congr
    intro place
    simp only [List.mem_append, repeating.delivered receiver place]
  rw [window] at outstanding
  rw [repeating.delivered] at unread
  rw [repeating.payloadAt] at present
  rw [repeating.ratchet] at noWrap
  obtain ⟨entry, -, success⟩ :=
    repeating.delivery.opens_first setting distinct present unread outstanding coins
  obtain ⟨added, extended, names⟩ :=
    repeating.delivery.decrypt setting distinct present unread outstanding noWrap
  obtain ⟨here, there⟩ := net.delivered_decrypt cipherSuite ad receiver position payload coins
  obtain ⟨hereOnce, thereOnce⟩ :=
    once.delivered_decrypt cipherSuite ad receiver position payload coins
  refine ⟨added, ⟨extended, ?_, ?_, repeating.sent, ?_⟩, names⟩
  · intro party
    rcases Party.eq_or_peer party receiver with rfl | rfl
    · obtain ⟨history, spent⟩ := repeating.spent party
      exact spent.decrypt free present success
    · obtain ⟨history, spent⟩ := repeating.spent receiver.peer
      exact ⟨history, spent.other position payload coins⟩
  · simp only [Net.decrypt, repeating.ratchet]
  · intro party place
    rcases Party.eq_or_peer party receiver with rfl | rfl
    · simp only [here, hereOnce, List.mem_append, repeating.delivered party place]
    · rw [there, thereOnce]
      exact repeating.delivered receiver.peer place

/-- A matched start has no repetitions. -/
theorem Repeating.start {coins : Party → Bytes β} {start : Net β} (free : cipherSuite.FreeKeys)
    (matched : MatchedStart cipherSuite sharedSecret keys coins start) :
    Repeating cipherSuite sharedSecret ad keys (firstEpochs cipherSuite sharedSecret keys coins)
      start start :=
  ⟨Delivery.first matched, matched.spent free, rfl, rfl, fun _ _ => Iff.rfl⟩

end Repeats

end E2eeSecurity
