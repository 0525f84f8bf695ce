/-
This file exhausts the root sequences by a long exchange of single messages.
-/
import E2eeSecurity.Net.Delivery

namespace E2eeSecurity

variable {β : Type} {cipherSuite : CipherSuite β} {ad data : Bytes β} {keys : Party → KeyPair β}
  {coins : Nat → Bytes β}

/-- In one turn a party sends a message that the other party reads at once. -/
def turn (data : Bytes β) (coins : Nat → Bytes β) (number : Nat) : List (NetEvent β) :=
  [.encrypt (owner number).peer (some data), .decrypt (owner number) (number / 2) (coins number)]

def turns (data : Bytes β) (coins : Nat → Bytes β) : Nat → List (NetEvent β)
  | 0 => []
  | number + 1 => turns data coins number ++ turn data coins number

/-- Everything that was sent before a turn was read in order. -/
structure Counted (number : Nat) (net : Net β) : Prop where
  sent : (net.sent (owner number).peer).length = number / 2
  peerSent : (net.sent (owner number)).length = (number + 1) / 2
  delivered : net.delivered (owner number) = List.range (number / 2)
  peerDelivered : net.delivered (owner number).peer = List.range ((number + 1) / 2)

/-- Before a turn its receiver is one root step behind its sender. -/
structure Exchanged (cipherSuite : CipherSuite β) (ad : Bytes β) (keys : Party → KeyPair β)
    (number : Nat) (net : Net β) : Prop where
  counted : Counted number net
  delivery : ∃ epochs, Delivery cipherSuite ad keys epochs net ∧ epochs.length = number + 2
  behind : (net.ratchet (owner number)).rootSequence.toNat = number
  ahead : (net.ratchet (owner number).peer).rootSequence.toNat = number + 1

theorem Net.orderly_of_ranges {net : Net β} (few : ∀ party, (net.sent party).length < 2 ^ 32)
    (ranges : ∀ party, ∃ count, net.delivered party = List.range count) : net.Orderly := by
  refine ⟨few, ?_, ?_⟩
  · intro party
    obtain ⟨count, range⟩ := ranges party
    rw [range]
    exact List.nodup_range
  · intro party
    obtain ⟨count, range⟩ := ranges party
    rw [range, Window.missing_range]
    exact Nat.zero_le _

/-- A plaintext that the suite encrypts is emitted with the root sequence of its sender. -/
theorem encryptRatchet_emits (suite : isValidCipherSuite cipherSuite = true) {ratchet : Ratchet β}
    (sized : ratchet.Sized cipherSuite)
    (validSender : isValidSenderChain ratchet.senderChain = true)
    (seals : ∀ key, (cipherSuite.se.encrypt ad key data).isSome) :
    ∃ payload, (encryptRatchet cipherSuite ratchet ad (some data)).1 = some payload ∧
      payload.rootSequence = ratchet.rootSequence := by
  obtain ⟨senderChain, sender, -, -, validKey⟩ := (isValidSenderChain_iff _).mp validSender
  obtain ⟨chainKey, present, -⟩ := (isValidChainKey_iff _).mp validKey
  obtain ⟨ciphertext, made⟩ :=
    Option.isSome_iff_exists.mp (seals (cipherSuite.messageKey chainKey.sharedKey))
  rw [encryptRatchet_full suite sized validSender sender present, made]
  exact ⟨_, rfl, rfl⟩

/-- The emitted payload stands at the next position. -/
theorem Net.payloadAt_encrypt {net : Net β} {sender : Party} {payload : One2oneMsgPayload β}
    (emitted : (encryptRatchet cipherSuite (net.ratchet sender) ad (some data)).1 = some payload) :
    (net.encrypt cipherSuite ad sender (some data)).payloadAt sender (net.sent sender).length =
      some payload := by
  simp only [Net.payloadAt, Net.encrypt, Function.update_self]
  rw [List.getElem?_append_right (Nat.le_refl _), Nat.sub_self]
  exact emitted

/-- The next plaintext of a party is emitted. -/
theorem Delivery.emits (setting : Setting cipherSuite ad keys) {epochs : List (Epoch β)}
    {net : Net β} (delivery : Delivery cipherSuite ad keys epochs net)
    (seals : ∀ key, (cipherSuite.se.encrypt ad key data).isSome) (sender : Party) :
    ∃ payload, (net.encrypt cipherSuite ad sender (some data)).payloadAt sender
        (net.sent sender).length = some payload ∧
      payload.rootSequence = (net.ratchet sender).rootSequence := by
  obtain ⟨number, epoch, found, -, seat⟩ := delivery.lockstep.seats sender
  have valid := (delivery.mailbox sender number epoch found seat.rootSequence).valid setting.suite
    setting.publicKeys setting.privateKeys delivery.lockstep.full found seat
  simp only [isValidRatchet, Bool.and_eq_true] at valid
  obtain ⟨payload, emitted, sameRoot⟩ :=
    encryptRatchet_emits setting.suite seat.sized valid.1.1.2 seals
  exact ⟨payload, Net.payloadAt_encrypt emitted, sameRoot⟩

section Turn

variable [DecidableEq β] {net : Net β} {number : Nat} {payload : One2oneMsgPayload β}

/-- The receiver of a turn reads the payload that was just sent. -/
theorem runNet_turn (coins : Nat → Bytes β)
    (present : (net.encrypt cipherSuite ad (owner number).peer (some data)).payloadAt
      (owner number).peer (number / 2) = some payload) :
    runNet cipherSuite ad net (turn data coins number) =
      (net.encrypt cipherSuite ad (owner number).peer (some data)).decrypt cipherSuite ad
        (owner number) (number / 2) payload (coins number) := by
  simp only [runNet, turn, Machine.run_cons, Machine.run_nil, stepNet, present]

/-- These are the ratchets and the last reception after a turn. -/
theorem ratchet_turn (coins : Nat → Bytes β)
    (present : (net.encrypt cipherSuite ad (owner number).peer (some data)).payloadAt
      (owner number).peer (number / 2) = some payload) :
    let next := runNet cipherSuite ad net (turn data coins number)
    let result := decryptRatchet cipherSuite (net.ratchet (owner number)) ad payload (coins number)
    next.ratchet (owner number) = result.2 ∧
      next.ratchet (owner number).peer =
        (encryptRatchet cipherSuite (net.ratchet (owner number).peer) ad (some data)).2 ∧
      ⟨number / 2, payload, result.1⟩ ∈ next.received (owner number) := by
  have apart : owner number ≠ (owner number).peer := (Party.peer_ne _).symm
  rw [runNet_turn coins present]
  simp [Net.encrypt, Net.decrypt, apart]

/-- A turn counts one more message and one more delivery. -/
theorem Counted.turn (counted : Counted number net) (coins : Nat → Bytes β)
    (present : (net.encrypt cipherSuite ad (owner number).peer (some data)).payloadAt
      (owner number).peer (number / 2) = some payload) :
    Counted (number + 1) (runNet cipherSuite ad net (turn data coins number)) := by
  obtain ⟨sent, peerSent, delivered, peerDelivered⟩ := counted
  have apart : owner number ≠ (owner number).peer := (Party.peer_ne _).symm
  have counts : (number + 1 + 1) / 2 = number / 2 + 1 := by omega
  simp only [Net.delivered] at delivered peerDelivered
  rw [runNet_turn coins present]
  refine ⟨?_, ?_, ?_, ?_⟩ <;> rw [owner_succ]
  · simp [Net.encrypt, Net.decrypt, apart, peerSent]
  · simp [Net.encrypt, Net.decrypt, sent, counts]
  · simp [Net.encrypt, Net.decrypt, Net.delivered, peerDelivered]
  · simp [Net.encrypt, Net.decrypt, Net.delivered, delivered, counts, List.range_succ]

omit [DecidableEq β] in
/-- A counted state is orderly. -/
theorem Counted.orderly (counted : Counted number net) (bound : number < 2 ^ 33 - 1) :
    net.Orderly := by
  have sent := counted.sent
  have peerSent := counted.peerSent
  apply Net.orderly_of_ranges
  · intro party
    rcases Party.eq_or_peer party (owner number) with rfl | rfl <;> omega
  · intro party
    rcases Party.eq_or_peer party (owner number) with rfl | rfl
    · exact ⟨_, counted.delivered⟩
    · exact ⟨_, counted.peerDelivered⟩

/-- Both events of a turn are orderly. -/
theorem Counted.along (counted : Counted number net) (coins : Nat → Bytes β)
    (present : (net.encrypt cipherSuite ad (owner number).peer (some data)).payloadAt
      (owner number).peer (number / 2) = some payload) (bound : number < 2 ^ 32) :
    Machine.Along (stepNet cipherSuite ad)
      (fun net event => (stepNet cipherSuite ad net event).Orderly) net
      (E2eeSecurity.turn data coins number) := by
  have after := (counted.turn coins present).orderly (by omega)
  have before := counted.orderly (by omega)
  refine ⟨⟨?_, before.once, before.outstanding⟩, after, trivial⟩
  intro party
  have few := after.few party
  rw [runNet_turn coins present] at few
  exact few

omit [DecidableEq β] in
/-- The message of a turn is on the wire and one root step ahead of its receiver. -/
theorem Exchanged.sends (setting : Setting cipherSuite ad keys)
    (exchanged : Exchanged cipherSuite ad keys number net)
    (seals : ∀ key, (cipherSuite.se.encrypt ad key data).isSome) :
    ∃ payload, (net.encrypt cipherSuite ad (owner number).peer (some data)).payloadAt
        (owner number).peer (number / 2) = some payload ∧
      payload.rootSequence.toNat = number + 1 := by
  obtain ⟨epochs, delivery, -⟩ := exchanged.delivery
  obtain ⟨payload, present, sameRoot⟩ := delivery.emits setting seals (owner number).peer
  rw [exchanged.counted.sent] at present
  exact ⟨payload, present, by rw [sameRoot, exchanged.ahead]⟩

/-- The message of a turn replaces both chains of its receiver. -/
theorem Exchanged.reads (setting : Setting cipherSuite ad keys)
    (exchanged : Exchanged cipherSuite ad keys number net) (bound : number + 2 ≤ 2 ^ 32)
    (coins : Nat → Bytes β)
    (present : (net.encrypt cipherSuite ad (owner number).peer (some data)).payloadAt
      (owner number).peer (number / 2) = some payload)
    (newest : payload.rootSequence.toNat = number + 1) :
    (∃ receiverChain senderChain plaintext,
      Renewed cipherSuite (net.ratchet (owner number)) ad payload (coins number) receiverChain
        senderChain plaintext
        ((runNet cipherSuite ad net (turn data coins number)).ratchet (owner number))) ∧
      (number + 2 < 2 ^ 32 → ∃ epochs, Delivery cipherSuite ad keys epochs
        (runNet cipherSuite ad net (turn data coins number)) ∧ epochs.length = number + 3) := by
  obtain ⟨epochs, delivery, length⟩ := exchanged.delivery
  have sent := exchanged.counted.sent
  have encrypted := delivery.encrypt setting (owner number).peer data (by omega)
  have apart : owner number ≠ (owner number).peer := (Party.peer_ne _).symm
  have same : (net.encrypt cipherSuite ad (owner number).peer (some data)).ratchet (owner number) =
      net.ratchet (owner number) := by simp [Net.encrypt, apart]
  have delivered : (net.encrypt cipherSuite ad (owner number).peer (some data)).delivered
      (owner number) = List.range (number / 2) := exchanged.counted.delivered
  have behind : ((net.encrypt cipherSuite ad (owner number).peer (some data)).ratchet
      (owner number)).rootSequence.toNat = number := by
    rw [same]
    exact exchanged.behind
  obtain ⟨⟨receiverChain, senderChain, plaintext, renewed⟩, extend⟩ := encrypted.renews setting
    behind present newest (by simp [delivered])
    (by rw [delivered, ← List.range_succ, Window.missing_range]; exact Nat.zero_le _)
    (coins number)
  rw [same] at renewed extend
  rw [(ratchet_turn coins present).1]
  refine ⟨⟨receiverChain, senderChain, plaintext, renewed⟩, ?_⟩
  intro small
  have ordered : (net.ratchet (owner number)).rootSequence ≤ (decryptRatchet cipherSuite
      (net.ratchet (owner number)) ad payload (coins number)).2.rootSequence := by
    have offset : (1 : UInt32).toNat = 1 := rfl
    rw [renewed.rootSequence, UInt32.le_iff_toNat_le, UInt32.toNat_add, UInt32.toNat_add, offset,
      exchanged.behind]
    omega
  obtain ⟨next, extended, -⟩ := extend ordered
  rw [runNet_turn coins present]
  exact ⟨_, extended, by simp [length]⟩

/-- One turn with room for two root steps leads to the next turn. -/
theorem Exchanged.next (setting : Setting cipherSuite ad keys)
    (exchanged : Exchanged cipherSuite ad keys number net)
    (seals : ∀ key, (cipherSuite.se.encrypt ad key data).isSome) (bound : number + 2 < 2 ^ 32)
    (coins : Nat → Bytes β) :
    Exchanged cipherSuite ad keys (number + 1)
      (runNet cipherSuite ad net (turn data coins number)) := by
  obtain ⟨payload, present, newest⟩ := exchanged.sends setting seals
  obtain ⟨⟨receiverChain, senderChain, plaintext, renewed⟩, extend⟩ :=
    exchanged.reads setting bound.le coins present newest
  refine ⟨exchanged.counted.turn coins present, extend bound, ?_, ?_⟩ <;> rw [owner_succ]
  · rw [(ratchet_turn coins present).2.1, (encryptRatchet_keeps _ _ _).2.2, exchanged.ahead]
  · have offset : (1 : UInt32).toNat = 1 := rfl
    rw [Party.peer_peer, renewed.rootSequence, UInt32.toNat_add, UInt32.toNat_add,
      exchanged.behind, offset]
    omega

/-- The turn after the last root sequence wraps its receiver around to zero. -/
theorem Exchanged.wraps (setting : Setting cipherSuite ad keys)
    (exchanged : Exchanged cipherSuite ad keys number net)
    (seals : ∀ key, (cipherSuite.se.encrypt ad key data).isSome) (last : number + 2 = 2 ^ 32)
    (coins : Nat → Bytes β) :
    let next := runNet cipherSuite ad net (turn data coins number)
    Counted (number + 1) next ∧ (next.ratchet (owner number)).rootSequence = 0 ∧
      (next.ratchet (owner number).peer).rootSequence.toNat = number + 1 ∧
      (next.ratchet (owner number)).Sized cipherSuite ∧
      isValidSenderChain (next.ratchet (owner number)).senderChain = true ∧
      (next.ratchet (owner number).peer).skipped = [] := by
  intro next
  obtain ⟨payload, present, newest⟩ := exchanged.sends setting seals
  obtain ⟨⟨receiverChain, senderChain, plaintext, renewed⟩, -⟩ :=
    exchanged.reads setting last.le coins present newest
  obtain ⟨receiver, sender, -⟩ := ratchet_turn coins present
  obtain ⟨epochs, delivery, -⟩ := exchanged.delivery
  obtain ⟨_, _, _, _, seat⟩ := delivery.lockstep.seats (owner number)
  obtain ⟨senderNumber, senderEpoch, senderFound, -, senderSeat⟩ :=
    delivery.lockstep.seats (owner number).peer
  refine ⟨exchanged.counted.turn coins present, ?_, ?_, ?_, ?_, ?_⟩
  · have offset : (1 : UInt32).toNat = 1 := rfl
    have zero : (0 : UInt32).toNat = 0 := rfl
    apply UInt32.toNat_inj.mp
    rw [renewed.rootSequence, UInt32.toNat_add, UInt32.toNat_add, exchanged.behind, offset]
    omega
  · rw [sender, (encryptRatchet_keeps _ _ _).2.2, exchanged.ahead]
  · rw [receiver]
    exact (decryptRatchet_frame seat.sized ad payload (coins number)).sized
  · obtain ⟨-, ⟨senderChain', -, sameSender, -, theirs, -⟩, -⟩ :=
      isValidRatchet_parts renewed.renewal.accepted.validRatchet
    rw [renewed.renewal.sender, Option.some.injEq] at sameSender
    subst sameSender
    have full : ∀ root secret, cipherSuite.nextChain root secret ≠ [] :=
      fun root secret => (nextChain_full root secret).nonempty
    have named := Epoch.Full.nonempty setting.suite (Epoch.after_full setting.suite [] (coins number)
      senderChain.theirRatchetPublicKey 0)
    rw [renewed.senderChain, isValidSenderChain_iff]
    exact ⟨_, rfl, named, theirs, by simp [full]⟩
  · have stored := (delivery.mailbox _ senderNumber senderEpoch senderFound
      senderSeat.rootSequence).stored
    rw [exchanged.counted.peerDelivered, Window.missing_range] at stored
    rw [sender, Ratchet.skipped, (encryptRatchet_keeps _ _ _).2.1]
    exact List.forall₂_nil_left_iff.mp stored

end Turn

section Turns

variable [DecidableEq β] {sharedSecret : Bytes β} {firstCoins : Party → Bytes β} {start : Net β}

/-- The turns go on as long as the root sequences have room. -/
theorem turns_exchanged (matched : MatchedStart cipherSuite sharedSecret keys firstCoins start)
    (setting : Setting cipherSuite ad keys)
    (seals : ∀ key, (cipherSuite.se.encrypt ad key data).isSome) (coins : Nat → Bytes β)
    (number : Nat) (bound : number + 1 < 2 ^ 32) :
    Exchanged cipherSuite ad keys number (runNet cipherSuite ad start (turns data coins number)) ∧
      Machine.Along (stepNet cipherSuite ad)
        (fun net event => (stepNet cipherSuite ad net event).Orderly) start
        (turns data coins number) := by
  induction number with
  | zero =>
      obtain ⟨bob, alice⟩ := matched.ratchets
      refine ⟨⟨⟨?_, ?_, ?_, ?_⟩, ⟨_, Delivery.first matched, rfl⟩, ?_, ?_⟩, trivial⟩
      · simp [turns, runNet, matched.unsent]
      · simp [turns, runNet, matched.unsent]
      · simp [turns, runNet, Net.delivered, matched.unread]
      · simp [turns, runNet, Net.delivered, matched.unread]
      · show (start.ratchet .bob).rootSequence.toNat = 0
        rw [bob]
        rfl
      · show (start.ratchet .alice).rootSequence.toNat = 1
        rw [alice]
        rfl
  | succ number ih =>
      obtain ⟨exchanged, along⟩ := ih (by omega)
      obtain ⟨payload, present, -⟩ := exchanged.sends setting seals
      have joined : runNet cipherSuite ad start (turns data coins (number + 1)) =
          runNet cipherSuite ad (runNet cipherSuite ad start (turns data coins number))
            (turn data coins number) := Machine.run_append _ _ _ _
      rw [joined, turns, Machine.along_append]
      exact ⟨exchanged.next setting seals bound coins,
        along, exchanged.counted.along coins present (by omega)⟩

/-- The last turn but one wraps a root sequence, and the message of the last turn is refused. -/
theorem turns_refused (matched : MatchedStart cipherSuite sharedSecret keys firstCoins start)
    (setting : Setting cipherSuite ad keys)
    (seals : ∀ key, (cipherSuite.se.encrypt ad key data).isSome) (coins : Nat → Bytes β)
    {number : Nat} (last : number + 2 = 2 ^ 32) :
    Machine.Along (stepNet cipherSuite ad)
        (fun net event => (stepNet cipherSuite ad net event).Orderly) start
        (turns data coins (number + 2)) ∧
      ((runNet cipherSuite ad start (turns data coins (number + 1))).ratchet
        (owner number)).rootSequence = 0 ∧
      ((runNet cipherSuite ad start (turns data coins (number + 1))).ratchet
        (owner (number + 1))).rootSequence.toNat = number + 1 ∧
      ∃ reception ∈ (runNet cipherSuite ad start (turns data coins (number + 2))).received
        (owner (number + 1)), reception.result = none := by
  obtain ⟨exchanged, along⟩ := turns_exchanged matched setting seals coins number (by omega)
  obtain ⟨payload, present, -⟩ := exchanged.sends setting seals
  obtain ⟨counted, zero, ahead, sized, validSender, empty⟩ :=
    exchanged.wraps setting seals last coins
  have joined : ∀ count, runNet cipherSuite ad start (turns data coins (count + 1)) =
      runNet cipherSuite ad (runNet cipherSuite ad start (turns data coins count))
        (turn data coins count) := fun count => Machine.run_append _ _ _ _
  rw [← joined number] at counted zero ahead sized validSender empty
  rw [← owner_succ] at ahead empty
  have back : (owner (number + 1)).peer = owner number := by rw [owner_succ, Party.peer_peer]
  obtain ⟨answer, emitted, sameRoot⟩ := encryptRatchet_emits setting.suite sized validSender seals
  have answered : ((runNet cipherSuite ad start (turns data coins (number + 1))).encrypt cipherSuite
      ad (owner (number + 1)).peer (some data)).payloadAt (owner (number + 1)).peer
        ((number + 1) / 2) = some answer := by
    have sent := counted.sent
    rw [← sent, back]
    exact Net.payloadAt_encrypt emitted
  refine ⟨?_, zero, ahead, ?_⟩
  · rw [turns, Machine.along_append]
    refine ⟨?_, counted.along coins answered (by omega)⟩
    rw [turns, Machine.along_append]
    exact ⟨along, exchanged.counted.along coins present (by omega)⟩
  · rw [joined (number + 1)]
    refine ⟨_, (ratchet_turn coins answered).2.2, ?_⟩
    have root : answer.rootSequence.toNat = 0 := by
      rw [sameRoot, zero]
      rfl
    apply decryptRatchet_unstored
    · rw [UInt32.lt_iff_toNat_lt, root, ahead]
      omega
    · intro previous
      have positive : (1 : UInt32) ≤ ((runNet cipherSuite ad start
          (turns data coins (number + 1))).ratchet (owner (number + 1))).rootSequence := by
        rw [UInt32.le_iff_toNat_le, ahead]
        exact Nat.le_add_left 1 number
      have offset : (1 : UInt32).toNat = 1 := rfl
      have distance := congrArg UInt32.toNat previous
      rw [UInt32.toNat_sub_of_le _ _ positive, root, ahead] at distance
      omega
    · exact empty

omit [DecidableEq β] in
/-- These are the ciphertexts of the turns. -/
theorem turns_ciphertexts (keys : Party → KeyPair β) (coins : Nat → Bytes β) (number : Nat) :
    (turns data coins number).filterMap (NetEvent.ciphertext cipherSuite keys) =
      (List.range number).map fun index =>
        (cipherSuite.kem.encapsulate (coins index) (keys (owner index).peer).publicKey).2 := by
  induction number with
  | zero => rfl
  | succ number ih =>
      rw [turns, List.filterMap_append, ih, List.range_succ, List.map_append]
      rfl

end Turns

namespace Symbolic

def turnData : Bytes FreeTerm := [.byte 5]

/-- Every turn draws other coins. -/
def turnCoins (number : Nat) : Bytes FreeTerm := List.replicate number (.byte 0)

theorem turnData_sealed (key : Bytes FreeTerm) :
    (symbolicSuite.se.encrypt associatedData key turnData).isSome := by
  simp [symbolicSuite, seSuite, turnData, plaintextLimit]

theorem net_setting : Setting symbolicSuite associatedData partyKeys :=
  net_matched.setting (by decide) symbolicSuite_correct

theorem encapsulate_inj {coins coins' key key' : Bytes FreeTerm}
    (same : (symbolicSuite.kem.encapsulate coins key).2 =
      (symbolicSuite.kem.encapsulate coins' key').2) : coins = coins' := by
  simp only [symbolicSuite, kemSuite, KemSuite.encapsulate, List.cons.injEq,
    FreeTerm.kemCiphertext.injEq, FreeTerm.pack_inj] at same
  exact same.1.2.1

theorem turns_fresh (number : Nat) :
    (netCiphertexts symbolicSuite partyKeys partyCoins (turns turnData turnCoins number)).Nodup := by
  have zeros : ∀ index, ∀ term ∈ turnCoins index, term = .byte 0 :=
    fun index term member => List.eq_of_mem_replicate member
  have apart : ∀ value : UInt8, value ≠ 0 → ∀ index, [FreeTerm.byte value] ≠ turnCoins index := by
    intro value nonzero index same
    have member : FreeTerm.byte value ∈ turnCoins index := by rw [← same]; simp
    exact nonzero (FreeTerm.byte.inj (zeros index _ member))
  rw [netCiphertexts, turns_ciphertexts, List.nodup_append]
  refine ⟨by decide, ?_, ?_⟩
  · refine List.Nodup.map_on ?_ List.nodup_range
    intro first _ second _ same
    have lengths := congrArg List.length (encapsulate_inj same)
    simpa [turnCoins] using lengths
  · intro first firstMember second secondMember same
    obtain ⟨index, -, rfl⟩ := List.mem_map.mp secondMember
    rcases List.mem_cons.mp firstMember with rfl | rest
    · exact apart 3 (by decide) index (encapsulate_inj same)
    · rw [List.mem_singleton.mp rest] at same
      exact apart 4 (by decide) index (encapsulate_inj same)

end Symbolic

/-- After `2 ^ 32 - 1` turns the root sequence of Bob is zero again, and Alice is at the last one. -/
theorem turns_break_root_lockstep :
    ¬ RootLockstep symbolicSuite (runNet symbolicSuite Symbolic.associatedData Symbolic.net
      (turns Symbolic.turnData Symbolic.turnCoins (2 ^ 32 - 1))) := by
  obtain ⟨number, last⟩ : ∃ number, number + 2 = 2 ^ 32 := ⟨2 ^ 32 - 2, rfl⟩
  have length : 2 ^ 32 - 1 = number + 1 := by omega
  have bobOwns : owner number = .bob := if_neg (by omega)
  rw [length]
  intro lockstep
  obtain ⟨-, bob, alice, -⟩ := turns_refused Symbolic.net_matched Symbolic.net_setting
    Symbolic.turnData_sealed Symbolic.turnCoins last
  rw [owner_succ] at alice
  rw [bobOwns] at bob alice
  have bobZero := congrArg UInt32.toNat bob
  have zero : (0 : UInt32).toNat = 0 := rfl
  have aliceLast : ((runNet symbolicSuite Symbolic.associatedData Symbolic.net
    (turns Symbolic.turnData Symbolic.turnCoins (number + 1))).ratchet .alice).rootSequence.toNat =
      number + 1 := alice
  rcases lockstep.adjacent with aliceAhead | bobAhead <;> omega

namespace Symbolic

/-- This suite decrypts, but a wrong key opens a message to an empty plaintext. -/
def unauthenticatedSuite : CipherSuite FreeTerm :=
  { symbolicSuite with
    se := { seSuite with
      decrypt := fun _ key ciphertext =>
        match ciphertext with
        | [.sealed _ key' plaintext] =>
            some (if key' = FreeTerm.pack key then FreeTerm.unpack plaintext else [])
        | _ => none } }

theorem unauthenticatedSuite_correct : unauthenticatedSuite.se.Correct := by
  intro ad key plaintext ciphertext made
  simp only [unauthenticatedSuite, seSuite] at made ⊢
  split at made
  · cases made
    simp
  · simp at made

/-- Alice draws her first coins again, so two of her chains have one name. -/
def repeatedCoins : List (NetEvent FreeTerm) :=
  [.encrypt .alice (some [.byte 20]), .encrypt .alice (some [.byte 21]),
    .decrypt .bob 1 [.byte 30], .encrypt .bob (some [.byte 22]), .decrypt .alice 0 [.byte 4],
    .encrypt .alice (some [.byte 23]), .encrypt .alice (some [.byte 24]),
    .decrypt .bob 3 [.byte 32], .decrypt .bob 2 [.byte 33]]

end Symbolic

/-- An orderly run with fresh keys fails when a root sequence wraps around, and an orderly run
without a wrap returns a wrong plaintext when a ratchet key repeats. -/
theorem orderly_runs_undelivered :
    (Machine.Along (stepNet symbolicSuite Symbolic.associatedData)
        (fun net event => (stepNet symbolicSuite Symbolic.associatedData net event).Orderly)
        Symbolic.net (turns Symbolic.turnData Symbolic.turnCoins (2 ^ 32)) ∧
      (netCiphertexts symbolicSuite Symbolic.partyKeys Symbolic.partyCoins
        (turns Symbolic.turnData Symbolic.turnCoins (2 ^ 32))).Nodup ∧
      ∃ reception ∈ (runNet symbolicSuite Symbolic.associatedData Symbolic.net
        (turns Symbolic.turnData Symbolic.turnCoins (2 ^ 32))).received .alice,
        reception.result = none) ∧
    (MatchedStart Symbolic.unauthenticatedSuite Symbolic.sharedSecret Symbolic.partyKeys
        Symbolic.partyCoins Symbolic.net ∧ Symbolic.unauthenticatedSuite.se.Correct ∧
      Machine.Along (stepNet Symbolic.unauthenticatedSuite Symbolic.associatedData)
        (fun net event => (stepNet Symbolic.unauthenticatedSuite Symbolic.associatedData net
          event).Orderly ∧ NoWrap Symbolic.unauthenticatedSuite Symbolic.associatedData net event)
        Symbolic.net Symbolic.repeatedCoins ∧
      ∃ reception ∈ (runNet Symbolic.unauthenticatedSuite Symbolic.associatedData Symbolic.net
        Symbolic.repeatedCoins).received .bob, reception.position = 2 ∧ reception.result = some [] ∧
        ((runNet Symbolic.unauthenticatedSuite Symbolic.associatedData Symbolic.net
          Symbolic.repeatedCoins).sent .alice)[2]?.map Sent.plaintext = some [.byte 23]) := by
  constructor
  · obtain ⟨number, last⟩ : ∃ number, number + 2 = 2 ^ 32 := ⟨2 ^ 32 - 2, rfl⟩
    have aliceOwns : owner (number + 1) = .alice := if_pos (by omega)
    obtain ⟨along, -, -, refused⟩ := turns_refused Symbolic.net_matched Symbolic.net_setting
      Symbolic.turnData_sealed Symbolic.turnCoins last
    rw [aliceOwns] at refused
    rw [← last]
    exact ⟨along, Symbolic.turns_fresh _, refused⟩
  · refine ⟨⟨by decide +kernel, by decide +kernel, ?_, fun _ => rfl, fun _ => rfl⟩,
      Symbolic.unauthenticatedSuite_correct, by decide +kernel, ?_⟩
    · exact Symbolic.net_matched.matching
    · decide +kernel

end E2eeSecurity
