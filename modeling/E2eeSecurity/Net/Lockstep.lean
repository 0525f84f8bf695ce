/-
This file shows that the root sequences of the two parties advance in lockstep.
-/
import E2eeSecurity.Library.Window
import E2eeSecurity.Net.Model

namespace E2eeSecurity

variable {β : Type} {cipherSuite : CipherSuite β}

/-- One root step yields a root key, the start of a sender chain, and the ratchet key that announces
it. The number counts the messages that its sender sent before. -/
structure Epoch (β : Type) where
  root : Bytes β
  chain : Bytes β
  key : Bytes β
  start : Nat

/-- Alice makes the odd root steps and Bob makes the even ones. -/
def owner (number : Nat) : Party := if number % 2 = 1 then .alice else .bob

theorem owner_succ (number : Nat) : owner (number + 1) = (owner number).peer := by
  unfold owner
  rcases Nat.mod_two_eq_zero_or_one number with even | odd
  · rw [if_pos (by omega), if_neg (by omega)]
    rfl
  · rw [if_neg (by omega), if_pos odd]
    rfl

theorem owner_eq_iff (first second : Nat) :
    owner first = owner second ↔ first % 2 = second % 2 := by
  unfold owner
  rcases Nat.mod_two_eq_zero_or_one first with even | odd <;>
    rcases Nat.mod_two_eq_zero_or_one second with even' | odd' <;> simp_all

/-- The keys of an epoch have their full lengths. -/
structure Epoch.Full (cipherSuite : CipherSuite β) (epoch : Epoch β) : Prop where
  root : cipherSuite.FullKey epoch.root
  chain : cipherSuite.FullKey epoch.chain
  key : epoch.key.length = cipherSuite.kem.kemCiphertextLen

theorem Epoch.Full.nonempty (suite : isValidCipherSuite cipherSuite = true) {epoch : Epoch β}
    (full : epoch.Full cipherSuite) : epoch.key ≠ [] := by
  rw [← isValidProtobuf_iff]
  exact isValidProtobuf_of_length full.key (kemCiphertextLen_pos suite)

/-- The receiver of an epoch derives it from the previous root key and its private key. -/
def Epoch.Follows (cipherSuite : CipherSuite β) (privateKey : Bytes β)
    (previous next : Epoch β) : Prop :=
  next.root = cipherSuite.nextRoot previous.root (cipherSuite.kem.decaps privateKey next.key) ∧
    next.chain = cipherSuite.nextChain previous.root (cipherSuite.kem.decaps privateKey next.key)

/-- This is the epoch that a sender starts after a root key. -/
def Epoch.after (cipherSuite : CipherSuite β) (root coins theirKey : Bytes β) (start : Nat) :
    Epoch β :=
  let outgoing := cipherSuite.kem.encapsulate coins theirKey
  { root := cipherSuite.nextRoot root outgoing.1
    chain := cipherSuite.nextChain root outgoing.1
    key := outgoing.2
    start := start }

theorem Epoch.after_full (suite : isValidCipherSuite cipherSuite = true)
    (root coins theirKey : Bytes β) (start : Nat) :
    (Epoch.after cipherSuite root coins theirKey start).Full cipherSuite where
  root := nextRoot_full _ _
  chain := nextChain_full _ _
  key := (encapsulate_length suite _ _).2

/-- A party sits at an epoch: it holds the root key and sends on the chain of the epoch. -/
structure Seat (cipherSuite : CipherSuite β) (keys : Party → KeyPair β) (party : Party)
    (number : Nat) (epoch : Epoch β) (ratchet : Ratchet β) : Prop where
  owned : owner number = party
  rootSequence : ratchet.rootSequence.toNat = number
  rootKey : ratchet.rootKey = epoch.root
  sender : ∃ count, ratchet.senderChain = some ⟨epoch.key, (keys party.peer).publicKey,
    some ⟨UInt32.ofNat count, cipherSuite.advance^[count] epoch.chain⟩⟩
  privateKey : (ratchet.receiverChain.map fun chain => chain.ourRatchetPrivateKey) =
    some (keys party).privateKey
  sized : ratchet.Sized cipherSuite

/-- The payload belongs to an epoch of its sender, at or before the one the sender sits at. -/
def Announced (epochs : List (Epoch β)) (party : Party) (reached : Nat)
    (payload : One2oneMsgPayload β) : Prop :=
  ∃ epoch, epochs[payload.rootSequence.toNat]? = some epoch ∧ payload.ratchetKey = epoch.key ∧
    owner payload.rootSequence.toNat = party ∧ payload.rootSequence.toNat ≤ reached

/-- The parties sit at the last two epochs, and every payload belongs to one of the epochs. -/
structure Lockstep (cipherSuite : CipherSuite β) (keys : Party → KeyPair β)
    (epochs : List (Epoch β)) (net : Net β) : Prop where
  full : ∀ epoch ∈ epochs, epoch.Full cipherSuite
  follows : ∀ number previous next, epochs[number]? = some previous →
    epochs[number + 1]? = some next →
    Epoch.Follows cipherSuite (keys (owner number)).privateKey previous next
  seats : ∀ party, ∃ number epoch, epochs[number]? = some epoch ∧ epochs.length ≤ number + 2 ∧
    Seat cipherSuite keys party number epoch (net.ratchet party)
  payloads : ∀ party, ∀ sent ∈ net.sent party, ∀ payload ∈ sent.payload,
    Announced epochs party (net.ratchet party).rootSequence.toNat payload
  bounded : epochs.length ≤ 2 ^ 32

section Steps

variable {keys : Party → KeyPair β} {epochs : List (Epoch β)} {net : Net β} {ad : Bytes β}

/-- The parties sit at different epochs. -/
theorem Seat.apart {party : Party} {number peerNumber : Nat} {epoch peerEpoch : Epoch β}
    {ratchet peerRatchet : Ratchet β} (seat : Seat cipherSuite keys party number epoch ratchet)
    (peerSeat : Seat cipherSuite keys party.peer peerNumber peerEpoch peerRatchet) :
    peerNumber ≠ number := by
  intro same
  have twice := peerSeat.owned
  rw [same, seat.owned] at twice
  exact Party.peer_ne party twice.symm

/-- An encryption stays at the seat and announces its epoch. -/
theorem Seat.encrypt {party : Party} {number : Nat} {epoch : Epoch β} {ratchet : Ratchet β}
    (seat : Seat cipherSuite keys party number epoch ratchet) (ad : Bytes β)
    (plaintext : Option (Bytes β)) :
    Seat cipherSuite keys party number epoch (encryptRatchet cipherSuite ratchet ad plaintext).2 ∧
      ∀ payload ∈ (encryptRatchet cipherSuite ratchet ad plaintext).1,
        payload.rootSequence = ratchet.rootSequence ∧ payload.ratchetKey = epoch.key := by
  rcases encryptRatchet_cases seat.sized ad plaintext with
    refused | ⟨senderChain, chainKey, data, -, sender, present, -, made⟩
  · rw [refused]
    exact ⟨seat, by simp⟩
  · rw [made]
    obtain ⟨count, expected⟩ := seat.sender
    rw [sender, Option.some.injEq] at expected
    subst expected
    rw [Option.some.injEq] at present
    subst present
    refine ⟨⟨seat.owned, seat.rootSequence, seat.rootKey, ⟨count + 1, ?_⟩, seat.privateKey, ?_⟩, ?_⟩
    · simp only [sentRatchet, Function.iterate_succ_apply', UInt32.ofNat_add]
      rfl
    · exact sentRatchet_sized seat.sized _ _
    · intro payload member
      obtain ⟨ciphertext, -, rfl⟩ := Option.map_eq_some_iff.mp member
      exact ⟨rfl, rfl⟩

theorem Announced.extend {party : Party} {reached more : Nat} {payload : One2oneMsgPayload β}
    (announced : Announced epochs party reached payload) (later : reached ≤ more)
    (rest : List (Epoch β)) : Announced (epochs ++ rest) party more payload := by
  obtain ⟨epoch, found, key, owned, before⟩ := announced
  exact ⟨epoch, Window.getElem?_kept found _, key, owned, before.trans later⟩

/-- Encryptions keep the epochs. -/
theorem Lockstep.encrypt (lockstep : Lockstep cipherSuite keys epochs net) (ad : Bytes β)
    (sender : Party) (plaintext : Option (Bytes β)) :
    Lockstep cipherSuite keys epochs (net.encrypt cipherSuite ad sender plaintext) := by
  obtain ⟨number, epoch, found, near, seat⟩ := lockstep.seats sender
  obtain ⟨moved, announces⟩ := seat.encrypt ad plaintext
  refine ⟨lockstep.full, lockstep.follows, ?_, ?_, lockstep.bounded⟩
  · intro party
    rcases Party.eq_or_peer party sender with rfl | rfl
    · exact ⟨number, epoch, found, near, by simpa [Net.encrypt] using moved⟩
    · simpa [Net.encrypt] using lockstep.seats sender.peer
  · have kept : ((net.encrypt cipherSuite ad sender plaintext).ratchet
        sender).rootSequence.toNat = (net.ratchet sender).rootSequence.toNat := by
      simp only [Net.encrypt, Function.update_self, moved.rootSequence, seat.rootSequence]
    intro party entry member payload present
    rcases Party.eq_or_peer party sender with rfl | rfl
    · rw [kept]
      cases plaintext with
      | none => exact lockstep.payloads party entry member payload present
      | some data =>
          simp only [Net.encrypt, Function.update_self, List.mem_append,
            List.mem_singleton] at member
          rcases member with old | rfl
          · exact lockstep.payloads party entry old payload present
          · obtain ⟨sameSequence, sameKey⟩ := announces payload present
            rw [← seat.rootSequence] at found
            refine ⟨epoch, by rw [sameSequence]; exact found, sameKey, ?_, by rw [sameSequence]⟩
            rw [sameSequence, seat.rootSequence]
            exact seat.owned
    · have same : (net.encrypt cipherSuite ad sender plaintext).ratchet sender.peer =
          net.ratchet sender.peer := by simp [Net.encrypt]
      rw [same]
      refine lockstep.payloads sender.peer entry ?_ payload present
      cases plaintext with
      | none => exact member
      | some data => simpa [Net.encrypt] using member

/-- A call that keeps the root key keeps the epochs. -/
theorem Lockstep.keep (lockstep : Lockstep cipherSuite keys epochs net) {receiver : Party}
    {after : Ratchet β} (next : Net β)
    (ratchets : next.ratchet = Function.update net.ratchet receiver after)
    (sent : next.sent = net.sent) (sized : after.Sized cipherSuite)
    (privateKey : (after.receiverChain.map fun chain => chain.ourRatchetPrivateKey) =
      (net.ratchet receiver).receiverChain.map fun chain => chain.ourRatchetPrivateKey)
    (rootKey : after.rootKey = (net.ratchet receiver).rootKey)
    (rootSequence : after.rootSequence = (net.ratchet receiver).rootSequence)
    (senderChain : after.senderChain = (net.ratchet receiver).senderChain) :
    Lockstep cipherSuite keys epochs next := by
  have sequences : ∀ party, (next.ratchet party).rootSequence =
      (net.ratchet party).rootSequence := by
    intro party
    rcases Party.eq_or_peer party receiver with rfl | rfl <;> simp [ratchets, rootSequence]
  refine ⟨lockstep.full, lockstep.follows, ?_, ?_, lockstep.bounded⟩
  · intro party
    obtain ⟨number, epoch, found, near, seat⟩ := lockstep.seats party
    refine ⟨number, epoch, found, near, ?_⟩
    rcases Party.eq_or_peer party receiver with rfl | rfl
    · rw [ratchets, Function.update_self]
      exact ⟨seat.owned, rootSequence ▸ seat.rootSequence, rootKey ▸ seat.rootKey,
        senderChain ▸ seat.sender, privateKey ▸ seat.privateKey, sized⟩
    · rw [ratchets, Function.update_of_ne (Party.peer_ne receiver)]
      exact seat
  · intro party entry member payload present
    rw [sequences party]
    rw [sent] at member
    exact lockstep.payloads party entry member payload present

/-- The epoch that a party starts from the last one follows it. -/
theorem Epoch.after_follows {party : Party} {secretKey : Bytes β} {last : Epoch β}
    (matching : cipherSuite.kem.Matching (keys party).publicKey secretKey)
    (coins : Bytes β) (start : Nat) :
    Epoch.Follows cipherSuite secretKey last
      (Epoch.after cipherSuite last.root coins (keys party).publicKey start) := by
  have opened : cipherSuite.kem.decaps secretKey
      (cipherSuite.kem.encapsulate coins (keys party).publicKey).2 =
        (cipherSuite.kem.encapsulate coins (keys party).publicKey).1 := matching coins
  simp only [Epoch.Follows, Epoch.after, opened, and_self]

/-- Neighbours still follow each other when an epoch that follows the last one is appended. -/
theorem follows_concat {position : Nat} {last next : Epoch β}
    (follows : ∀ number previous following, epochs[number]? = some previous →
      epochs[number + 1]? = some following →
      Epoch.Follows cipherSuite (keys (owner number)).privateKey previous following)
    (found : epochs[position]? = some last) (length : epochs.length = position + 1)
    (added : Epoch.Follows cipherSuite (keys (owner position)).privateKey last next) :
    ∀ number previous following, (epochs ++ [next])[number]? = some previous →
      (epochs ++ [next])[number + 1]? = some following →
      Epoch.Follows cipherSuite (keys (owner number)).privateKey previous following := by
  intro number previous following foundPrevious foundFollowing
  rcases Window.getElem?_concat_pair Nat.one_pos found length foundPrevious foundFollowing with
    ⟨oldPrevious, oldFollowing⟩ | ⟨rfl, rfl, rfl⟩
  · exact follows number previous following oldPrevious oldFollowing
  · exact added

/-- The receiver of the epoch after its own starts the next one and sits at it. -/
theorem Seat.renew {receiver : Party} {number : Nat} {epoch last : Epoch β}
    {ratchet after : Ratchet β} {payload : One2oneMsgPayload β} {coins plaintext : Bytes β}
    {receiverChain : ReceiverChainNode β} {senderChain : SenderChainNode β}
    (seat : Seat cipherSuite keys receiver number epoch ratchet)
    (follows : Epoch.Follows cipherSuite (keys (owner number)).privateKey epoch last)
    (sameKey : payload.ratchetKey = last.key)
    (renewed : Renewed cipherSuite ratchet ad payload coins receiverChain senderChain plaintext
      after)
    (reached : after.rootSequence.toNat = number + 2) (sized : after.Sized cipherSuite)
    (privateKey : (after.receiverChain.map fun chain => chain.ourRatchetPrivateKey) =
      ratchet.receiverChain.map fun chain => chain.ourRatchetPrivateKey) (start : Nat) :
    Seat cipherSuite keys receiver (number + 2)
      (Epoch.after cipherSuite last.root coins (keys receiver.peer).publicKey start) after := by
  have secret : receiverChain.ourRatchetPrivateKey = (keys (owner number)).privateKey := by
    have same := seat.privateKey
    rw [renewed.renewal.receiver, Option.map_some, Option.some.injEq] at same
    rw [same, seat.owned]
  have middle : cipherSuite.nextRoot ratchet.rootKey (cipherSuite.kem.decaps
      receiverChain.ourRatchetPrivateKey payload.ratchetKey) = last.root := by
    rw [seat.rootKey, secret, sameKey]
    exact follows.1.symm
  obtain ⟨count, expected⟩ := seat.sender
  have peerKey : senderChain.theirRatchetPublicKey = (keys receiver.peer).publicKey := by
    have same := renewed.renewal.sender
    rw [expected, Option.some.injEq] at same
    rw [← same]
  refine ⟨?_, reached, ?_, ⟨0, ?_⟩, privateKey.trans seat.privateKey, sized⟩
  · rw [← seat.owned, owner_eq_iff]
    omega
  · rw [renewed.rootKey, middle, peerKey]
    rfl
  · rw [renewed.senderChain, middle, peerKey]
    rfl

/-- A call that replaces the root key adds the epoch that its receiver starts. -/
theorem Lockstep.renew (suite : isValidCipherSuite cipherSuite = true)
    (matching : ∀ party, cipherSuite.kem.Matching (keys party).publicKey (keys party).privateKey)
    (lockstep : Lockstep cipherSuite keys epochs net) {receiver : Party}
    {payload : One2oneMsgPayload β} {coins plaintext : Bytes β}
    {receiverChain : ReceiverChainNode β} {senderChain : SenderChainNode β} {after : Ratchet β}
    (next : Net β) (announced : Announced epochs receiver.peer
      (net.ratchet receiver.peer).rootSequence.toNat payload)
    (renewed : Renewed cipherSuite (net.ratchet receiver) ad payload coins receiverChain
      senderChain plaintext after)
    (ratchets : next.ratchet = Function.update net.ratchet receiver after)
    (sent : next.sent = net.sent) (sized : after.Sized cipherSuite)
    (privateKey : (after.receiverChain.map fun chain => chain.ourRatchetPrivateKey) =
      (net.ratchet receiver).receiverChain.map fun chain => chain.ourRatchetPrivateKey)
    (noWrap : (net.ratchet receiver).rootSequence ≤ after.rootSequence) (start : Nat) :
    ∃ last, epochs[payload.rootSequence.toNat]? = some last ∧
      epochs.length = payload.rootSequence.toNat + 1 ∧
      payload.rootSequence.toNat = (net.ratchet receiver).rootSequence.toNat + 1 ∧
      after.rootSequence.toNat = payload.rootSequence.toNat + 1 ∧
      Lockstep cipherSuite keys (epochs ++
        [Epoch.after cipherSuite last.root coins (keys receiver.peer).publicKey start]) next := by
  obtain ⟨number, epoch, found, near, seat⟩ := lockstep.seats receiver
  obtain ⟨last, foundLast, sameKey, owned, -⟩ := announced
  have bounded := lockstep.bounded
  have inside : payload.rootSequence.toNat < epochs.length :=
    (List.getElem?_eq_some_iff.mp foundLast).1
  have newer := UInt32.lt_iff_toNat_lt.mp renewed.renewal.newer
  rw [seat.rootSequence] at newer
  have position : payload.rootSequence.toNat = number + 1 := by omega
  have length : epochs.length = number + 2 := by omega
  have reached : after.rootSequence.toNat = number + 2 := by
    rw [renewed.rootSequence] at noWrap ⊢
    rw [toNat_rootSequence_moved noWrap, seat.rootSequence]
  rw [position] at foundLast
  refine ⟨last, by rw [position]; exact foundLast, by omega, by rw [seat.rootSequence]; omega,
    by omega, ?_⟩
  refine ⟨?_, ?_, ?_, ?_, ?_⟩
  · intro member inList
    rcases List.mem_append.mp inList with old | new
    · exact lockstep.full member old
    · rw [List.mem_singleton.mp new]
      exact Epoch.after_full suite _ _ _ _
  · refine follows_concat lockstep.follows foundLast (by omega) ?_
    refine Epoch.after_follows ?_ coins start
    rw [owner_succ, seat.owned]
    exact matching receiver.peer
  · intro party
    rcases Party.eq_or_peer party receiver with rfl | rfl
    · refine ⟨number + 2, Epoch.after cipherSuite last.root coins (keys party.peer).publicKey start,
        ?_, by simp; omega, ?_⟩
      · rw [← length, List.getElem?_append_right (Nat.le_refl _), Nat.sub_self,
          List.getElem?_cons_zero]
      · rw [ratchets, Function.update_self]
        exact seat.renew (lockstep.follows number epoch last found foundLast) sameKey renewed
          reached sized privateKey start
    · obtain ⟨peerNumber, peerEpoch, peerFound, peerNear, peerSeat⟩ := lockstep.seats receiver.peer
      refine ⟨peerNumber, peerEpoch, Window.getElem?_kept peerFound _, ?_, ?_⟩
      · have different := seat.apart peerSeat
        simp only [List.length_append, List.length_singleton]
        omega
      · rw [ratchets, Function.update_of_ne (Party.peer_ne receiver)]
        exact peerSeat
  · intro party entry member other present
    rw [sent] at member
    have old := lockstep.payloads party entry member other present
    refine old.extend ?_ _
    rcases Party.eq_or_peer party receiver with rfl | rfl
    · rw [ratchets, Function.update_self, seat.rootSequence, reached]
      omega
    · rw [ratchets, Function.update_of_ne (Party.peer_ne receiver)]
  · have limit := after.rootSequence.toNat_lt
    simp only [List.length_append, List.length_singleton]
    omega

end Steps

/-- The two first epochs are the one of Bob and the one of Alice. -/
def firstEpochs (cipherSuite : CipherSuite β) (sharedSecret : Bytes β)
    (keys : Party → KeyPair β) (coins : Party → Bytes β) : List (Epoch β) :=
  [⟨cipherSuite.initialRoot sharedSecret, cipherSuite.initialChain sharedSecret,
      (cipherSuite.kem.encapsulate (coins .bob) (keys .alice).publicKey).2, 0⟩,
    Epoch.after cipherSuite (cipherSuite.initialRoot sharedSecret) (coins .alice)
      (keys .bob).publicKey 0]

section Runs

variable {sharedSecret ad : Bytes β} {keys : Party → KeyPair β} {coins : Party → Bytes β}
  {start : Net β}

theorem Lockstep.first (matched : MatchedStart cipherSuite sharedSecret keys coins start) :
    Lockstep cipherSuite keys (firstEpochs cipherSuite sharedSecret keys coins) start := by
  obtain ⟨suite, -⟩ := matched.parts
  obtain ⟨bob, alice⟩ := matched.ratchets
  have firstFull : ∀ epoch ∈ firstEpochs cipherSuite sharedSecret keys coins,
      epoch.Full cipherSuite := by
    intro epoch member
    rcases List.mem_cons.mp member with rfl | rest
    · exact ⟨initialRoot_full _, initialChain_full _,
        (Epoch.after_full suite [] (coins .bob) (keys .alice).publicKey 0).key⟩
    · rw [List.mem_singleton.mp rest]
      exact Epoch.after_full suite _ _ _ _
  refine ⟨firstFull, ?_, ?_, ?_, ?_⟩
  · intro number previous next foundPrevious foundNext
    cases number with
    | zero =>
        simp only [firstEpochs, List.getElem?_cons_zero, Option.some.injEq] at foundPrevious
        simp only [firstEpochs, List.getElem?_cons_succ, List.getElem?_cons_zero,
          Option.some.injEq] at foundNext
        subst foundPrevious foundNext
        have opened := matched.matching .bob (coins .alice)
        have bobOwns : owner 0 = .bob := rfl
        simp only [Epoch.Follows, Epoch.after, bobOwns, opened, and_self]
    | succ number => simp [firstEpochs] at foundNext
  · intro party
    have sizedBob : (start.ratchet .bob).Sized cipherSuite := (Tracks.bob matched.bob).sized
    have sizedAlice : (start.ratchet .alice).Sized cipherSuite := by
      rw [alice]
      refine ⟨nextRoot_full _ _, ?_, ?_⟩
      · rintro chain ⟨⟩ key ⟨⟩
        exact nextChain_full _ _
      · rintro chain ⟨⟩ key ⟨⟩
        exact initialChain_full _
    cases party with
    | bob =>
        refine ⟨0, _, rfl, by simp [firstEpochs], rfl, ?_, ?_, ⟨0, ?_⟩, ?_, sizedBob⟩ <;>
          rw [bob] <;> rfl
    | alice =>
        refine ⟨1, _, rfl, by simp [firstEpochs], rfl, ?_, ?_, ⟨0, ?_⟩, ?_, sizedAlice⟩ <;>
          rw [alice] <;> rfl
  · intro party entry member
    rw [matched.unsent party] at member
    cases member
  · simp [firstEpochs]

variable [DecidableEq β]

/-- No root sequence wraps around in this step. -/
def NoWrap (cipherSuite : CipherSuite β) (ad : Bytes β) (net : Net β) (event : NetEvent β) : Prop :=
  ∀ party, (net.ratchet party).rootSequence ≤
    ((stepNet cipherSuite ad net event).ratchet party).rootSequence

instance (net : Net β) (event : NetEvent β) : Decidable (NoWrap cipherSuite ad net event) :=
  inferInstanceAs (Decidable (∀ _ : Party, _))

omit [DecidableEq β] in
theorem Lockstep.payloadAt {epochs : List (Epoch β)} {net : Net β}
    (lockstep : Lockstep cipherSuite keys epochs net) {sender : Party} {position : Nat}
    {payload : One2oneMsgPayload β} (found : net.payloadAt sender position = some payload) :
    Announced epochs sender (net.ratchet sender).rootSequence.toNat payload := by
  obtain ⟨entry, present, same⟩ := Option.bind_eq_some_iff.mp found
  exact lockstep.payloads sender entry (List.mem_of_getElem? present) payload same

/-- Every event without a wrap keeps the lockstep for some epochs. -/
theorem Lockstep.step (suite : isValidCipherSuite cipherSuite = true)
    (matching : ∀ party, cipherSuite.kem.Matching (keys party).publicKey (keys party).privateKey)
    {net : Net β} {event : NetEvent β}
    (lockstep : ∃ epochs, Lockstep cipherSuite keys epochs net)
    (noWrap : NoWrap cipherSuite ad net event) :
    ∃ epochs, Lockstep cipherSuite keys epochs (stepNet cipherSuite ad net event) := by
  obtain ⟨epochs, lockstep⟩ := lockstep
  cases event with
  | encrypt sender plaintext => exact ⟨epochs, lockstep.encrypt ad sender plaintext⟩
  | decrypt receiver position coins =>
      cases found : net.payloadAt receiver.peer position with
      | none =>
          simp only [stepNet, found]
          exact ⟨epochs, lockstep⟩
      | some payload =>
          simp only [NoWrap, stepNet, found] at noWrap ⊢
          obtain ⟨number, epoch, -, -, seat⟩ := lockstep.seats receiver
          obtain ⟨sized, -, privateKey, kept | ⟨receiverChain, senderChain, plaintext, renewed⟩⟩ :=
            decryptRatchet_frame seat.sized ad payload coins
          · exact ⟨epochs, lockstep.keep _ rfl rfl sized privateKey kept.1 kept.2.1 kept.2.2⟩
          · have ordered := noWrap receiver
            simp only [Net.decrypt, Function.update_self] at ordered
            obtain ⟨last, -, -, -, -, extended⟩ := lockstep.renew suite matching
              (net.decrypt cipherSuite ad receiver position payload coins)
              (lockstep.payloadAt found) renewed rfl rfl sized privateKey ordered 0
            exact ⟨_, extended⟩

/-- One party is ahead of the other by one call of `create_chain_key` on its sender chain. -/
def OneStepAhead (cipherSuite : CipherSuite β) (behind ahead : Ratchet β) : Prop :=
  ∃ receiverChain senderChain chain count, behind.receiverChain = some receiverChain ∧
    ahead.senderChain = some senderChain ∧
    createChainKey cipherSuite behind.rootKey (some receiverChain.ourRatchetPrivateKey)
      senderChain.ourRatchetPublicKey [] behind.rootKey ChainKey.initial =
        some (ahead.rootKey, ⟨0, chain⟩, []) ∧
    senderChain.chainKey = some ⟨UInt32.ofNat count, cipherSuite.advance^[count] chain⟩

/-- This is the lockstep of the root sequences and root keys, without the epochs. -/
structure RootLockstep (cipherSuite : CipherSuite β) (net : Net β) : Prop where
  aliceOdd : (net.ratchet .alice).rootSequence.toNat % 2 = 1
  bobEven : (net.ratchet .bob).rootSequence.toNat % 2 = 0
  adjacent : (net.ratchet .alice).rootSequence.toNat = (net.ratchet .bob).rootSequence.toNat + 1 ∨
    (net.ratchet .bob).rootSequence.toNat = (net.ratchet .alice).rootSequence.toNat + 1
  payloads : ∀ sender, ∀ sent ∈ net.sent sender, ∀ payload ∈ sent.payload,
    payload.rootSequence.toNat ≤ (net.ratchet sender.peer).rootSequence.toNat + 1 ∧
      payload.rootSequence ≠ (net.ratchet sender.peer).rootSequence
  ahead : ∀ leader, (net.ratchet leader.peer).rootSequence < (net.ratchet leader).rootSequence →
    OneStepAhead cipherSuite (net.ratchet leader.peer) (net.ratchet leader)

omit [DecidableEq β] in
/-- Owners of one number are one party. -/
theorem Seat.parity {party : Party} {number : Nat} {epoch : Epoch β} {ratchet : Ratchet β}
    (seat : Seat cipherSuite keys party number epoch ratchet) :
    number % 2 = if party = .alice then 1 else 0 := by
  rw [← seat.owned]
  unfold owner
  rcases Nat.mod_two_eq_zero_or_one number with even | odd <;> simp [*]

omit [DecidableEq β] in
/-- The epochs explain the lockstep of the root sequences and root keys. -/
theorem Lockstep.roots (suite : isValidCipherSuite cipherSuite = true)
    (privateKeys : ∀ party, (keys party).privateKey ≠ []) {epochs : List (Epoch β)} {net : Net β}
    (lockstep : Lockstep cipherSuite keys epochs net) : RootLockstep cipherSuite net := by
  have apart : ∀ party number epoch, epochs[number]? = some epoch → epochs.length ≤ number + 2 →
      Seat cipherSuite keys party number epoch (net.ratchet party) →
      ∃ peerNumber peerEpoch, epochs[peerNumber]? = some peerEpoch ∧
        Seat cipherSuite keys party.peer peerNumber peerEpoch (net.ratchet party.peer) ∧
        (number = peerNumber + 1 ∨ peerNumber = number + 1) := by
    intro party number epoch found near seat
    obtain ⟨peerNumber, peerEpoch, peerFound, peerNear, peerSeat⟩ := lockstep.seats party.peer
    refine ⟨peerNumber, peerEpoch, peerFound, peerSeat, ?_⟩
    have inside := (List.getElem?_eq_some_iff.mp found).1
    have peerInside := (List.getElem?_eq_some_iff.mp peerFound).1
    have different := seat.apart peerSeat
    omega
  obtain ⟨number, epoch, found, near, alice⟩ := lockstep.seats .alice
  obtain ⟨peerNumber, peerEpoch, -, bob, adjacent⟩ := apart .alice number epoch found near alice
  have bobSequence : (net.ratchet .bob).rootSequence.toNat = peerNumber := bob.rootSequence
  refine ⟨?_, ?_, ?_, ?_, ?_⟩
  · rw [alice.rootSequence]
    exact alice.parity
  · rw [bobSequence]
    exact bob.parity
  · rw [alice.rootSequence, bobSequence]
    exact adjacent
  · intro sender entry member payload present
    obtain ⟨announcedEpoch, announced, -, owned, -⟩ :=
      lockstep.payloads sender entry member payload present
    obtain ⟨number, epoch, found, near, seat⟩ := lockstep.seats sender.peer
    have inside := (List.getElem?_eq_some_iff.mp announced).1
    rw [seat.rootSequence]
    refine ⟨by omega, ?_⟩
    intro same
    rw [same, seat.rootSequence, seat.owned] at owned
    exact Party.peer_ne sender owned
  · intro leader less
    obtain ⟨number, epoch, found, near, seat⟩ := lockstep.seats leader
    obtain ⟨peerNumber, peerEpoch, peerFound, peerSeat, adjacent⟩ :=
      apart leader number epoch found near seat
    rw [UInt32.lt_iff_toNat_lt, seat.rootSequence, peerSeat.rootSequence] at less
    have position : number = peerNumber + 1 := by omega
    subst position
    obtain ⟨rootFollows, chainFollows⟩ := lockstep.follows peerNumber peerEpoch epoch peerFound found
    have peerFull := lockstep.full peerEpoch (List.mem_of_getElem? peerFound)
    have full := lockstep.full epoch (List.mem_of_getElem? found)
    obtain ⟨receiverChain, receiver, secret⟩ := Option.map_eq_some_iff.mp peerSeat.privateKey
    obtain ⟨count, sender⟩ := seat.sender
    refine ⟨receiverChain, _, epoch.chain, count, receiver, sender, ?_, rfl⟩
    have step := createChainKey_decaps_full suite peerFull.root (privateKeys leader.peer)
      (full.nonempty suite) []
    rw [peerSeat.rootKey, secret, seat.rootKey, step, rootFollows, chainFollows, peerSeat.owned]

/-- In every reachable state without a wrapped root sequence, Alice is at an odd root sequence, Bob is
at an even one next to it, no payload lies further ahead, and the leader is one root step ahead. -/
theorem runNet_root_lockstep (matched : MatchedStart cipherSuite sharedSecret keys coins start)
    (events : List (NetEvent β))
    (noWrap : Machine.Along (stepNet cipherSuite ad) (NoWrap cipherSuite ad) start events) :
    RootLockstep cipherSuite (runNet cipherSuite ad start events) := by
  obtain ⟨suite, privateKeys⟩ := matched.parts
  have kept : ∀ net event, (∃ epochs, Lockstep cipherSuite keys epochs net) →
      NoWrap cipherSuite ad net event →
      ∃ epochs, Lockstep cipherSuite keys epochs (stepNet cipherSuite ad net event) :=
    fun _ _ lockstep ordered => Lockstep.step suite matched.matching lockstep ordered
  obtain ⟨epochs, lockstep⟩ := Machine.run_invariant_along kept events
    ⟨_, Lockstep.first matched⟩ noWrap
  exact lockstep.roots suite privateKeys

/-- The exchange ends with Bob one root step ahead. -/
theorem exchange_root_lockstep :
    ((runNet symbolicSuite Symbolic.associatedData Symbolic.net Symbolic.exchange).ratchet
        .bob).rootSequence = 4 ∧
      RootLockstep symbolicSuite
        (runNet symbolicSuite Symbolic.associatedData Symbolic.net Symbolic.exchange) :=
  ⟨by decide +kernel,
    runNet_root_lockstep Symbolic.net_matched Symbolic.exchange (by decide +kernel)⟩

end Runs

end E2eeSecurity
