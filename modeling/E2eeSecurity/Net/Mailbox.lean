/-
This file relates the ratchet of a party to the messages that it sent and that it received.
-/
import E2eeSecurity.Library.Window
import E2eeSecurity.Net.Lockstep
import E2eeSecurity.Ratchet.Acceptance

namespace E2eeSecurity

variable {β : Type} {cipherSuite : CipherSuite β}

/-- These are the positions of the other party that were delivered to a party. -/
def Net.delivered (net : Net β) (party : Party) : List Nat :=
  (net.received party).map Reception.position

/-- This is the first position after all delivered ones. -/
def Net.reached (net : Net β) (party : Party) : Nat := Window.highest (net.delivered party)

/-- The position of a sender lies in one of its epochs. -/
structure InEpoch (epochs : List (Epoch β)) (sender : Party) (position number : Nat)
    (epoch : Epoch β) : Prop where
  found : epochs[number]? = some epoch
  owned : owner number = sender
  after : epoch.start ≤ position
  before : ∀ next, epochs[number + 2]? = some next → position < next.start

/-- This is the chain key of an epoch at a position. -/
def Epoch.chainKey (cipherSuite : CipherSuite β) (epoch : Epoch β) (position : Nat) : ChainKey β :=
  ⟨UInt32.ofNat (position - epoch.start), cipherSuite.advance^[position - epoch.start] epoch.chain⟩

/-- This is the stored key of a position in an epoch. -/
def storedNode (cipherSuite : CipherSuite β) (epoch : Epoch β) (position : Nat) :
    SkippedMsgKeyNode β :=
  ⟨epoch.key, ⟨UInt32.ofNat (position - epoch.start),
    cipherSuite.keyAt (epoch.chain, position - epoch.start)⟩⟩

def NodeAt (cipherSuite : CipherSuite β) (epochs : List (Epoch β)) (sender : Party)
    (position : Nat) (node : SkippedMsgKeyNode β) : Prop :=
  ∃ number epoch, InEpoch epochs sender position number epoch ∧
    node = storedNode cipherSuite epoch position

/-- The payload at a position carries the counters and the key of its epoch. -/
structure SentOn (cipherSuite : CipherSuite β) (ad : Bytes β) (epoch : Epoch β)
    (number position : Nat) (plaintext : Bytes β) (payload : One2oneMsgPayload β) : Prop where
  sequence : payload.sequence = UInt32.ofNat (position - epoch.start)
  ratchetKey : payload.ratchetKey = epoch.key
  rootSequence : payload.rootSequence.toNat = number
  total : payload.sendingMessageSequence = UInt32.ofNat (position + 1)
  encrypted : cipherSuite.se.encrypt ad
    (cipherSuite.keyAt (epoch.chain, position - epoch.start)) plaintext = some payload.ciphertext

/-- The receiver chain stands at the first position after the delivered ones. -/
def ReceiverAt (cipherSuite : CipherSuite β) (privateKey : Bytes β) (epochs : List (Epoch β))
    (reached : Nat) (ratchet : Ratchet β) : Nat → Prop
  | 0 => reached = 0 ∧ ratchet.receiverChain = some ⟨[], privateKey, none⟩
  | number + 1 => ∃ previous, epochs[number]? = some previous ∧ previous.start ≤ reached ∧
      ratchet.receiverChain =
        some ⟨previous.key, privateKey, some (previous.chainKey cipherSuite reached)⟩

/-- The ratchet of a party agrees with what it sent and with what was delivered to it. -/
structure Mailbox (cipherSuite : CipherSuite β) (keys : Party → KeyPair β)
    (epochs : List (Epoch β)) (party : Party) (number : Nat) (epoch : Epoch β)
    (sent peerSent : Nat) (delivered : List Nat) (ratchet : Ratchet β) : Prop where
  started : epoch.start ≤ sent
  few : sent < 2 ^ 32
  sender : ratchet.senderChain =
    some ⟨epoch.key, (keys party.peer).publicKey, some (epoch.chainKey cipherSuite sent)⟩
  total : ratchet.sendingMessageSequence = UInt32.ofNat sent
  received : ratchet.receivedMessageSequence = UInt32.ofNat (Window.highest delivered)
  within : Window.highest delivered ≤ peerSent
  chain : ReceiverAt cipherSuite (keys party).privateKey epochs (Window.highest delivered) ratchet
    number
  ahead : ∀ next, epochs[number + 1]? = some next → Window.highest delivered ≤ next.start
  stored : List.Forall₂ (NodeAt cipherSuite epochs party.peer) (Window.missing delivered)
    ratchet.skipped
  pointer : ratchet.skippedMsgKeyList = skippedPointer ratchet.skipped
  outstanding : (Window.missing delivered).length ≤ maxSkippedMessageKeyNodes

section Positions

variable {epochs : List (Epoch β)}

/-- Later epochs of one sender start later. -/
theorem starts_mono (starts : ∀ number epoch next, epochs[number]? = some epoch →
      epochs[number + 2]? = some next → epoch.start ≤ next.start) (distance : Nat) {number : Nat}
    {epoch next : Epoch β} (found : epochs[number]? = some epoch)
    (foundNext : epochs[number + 2 * distance]? = some next) : epoch.start ≤ next.start := by
  induction distance generalizing next with
  | zero =>
      rw [Nat.mul_zero, Nat.add_zero, found, Option.some.injEq] at foundNext
      rw [foundNext]
  | succ distance ih =>
      have inside := (List.getElem?_eq_some_iff.mp foundNext).1
      obtain ⟨middle, foundMiddle⟩ : ∃ middle, epochs[number + 2 * distance]? = some middle :=
        ⟨_, List.getElem?_eq_getElem (by omega)⟩
      have position : number + 2 * (distance + 1) = number + 2 * distance + 2 := by omega
      rw [position] at foundNext
      exact (ih foundMiddle).trans (starts _ middle next foundMiddle foundNext)

/-- An earlier epoch of the same sender ends before a later one starts. -/
theorem InEpoch.before_start (starts : ∀ number epoch next, epochs[number]? = some epoch →
      epochs[number + 2]? = some next → epoch.start ≤ next.start) {sender : Party}
    {position number later : Nat} {epoch next : Epoch β}
    (inside : InEpoch epochs sender position number epoch) (found : epochs[later]? = some next)
    (owned : owner later = sender) (less : number < later) : position < next.start := by
  have parity := (owner_eq_iff number later).mp (inside.owned.trans owned.symm)
  obtain ⟨distance, rfl⟩ : ∃ distance, later = number + 2 + 2 * distance :=
    ⟨(later - number - 2) / 2, by omega⟩
  have bound := (List.getElem?_eq_some_iff.mp found).1
  obtain ⟨middle, foundMiddle⟩ : ∃ middle, epochs[number + 2]? = some middle :=
    ⟨_, List.getElem?_eq_getElem (by omega)⟩
  exact Nat.lt_of_lt_of_le (inside.before middle foundMiddle)
    (starts_mono starts distance foundMiddle found)

/-- A position lies in one epoch only. -/
theorem InEpoch.unique (starts : ∀ number epoch next, epochs[number]? = some epoch →
      epochs[number + 2]? = some next → epoch.start ≤ next.start) {sender : Party}
    {position number number' : Nat} {epoch epoch' : Epoch β}
    (first : InEpoch epochs sender position number epoch)
    (second : InEpoch epochs sender position number' epoch') : number = number' := by
  rcases Nat.lt_trichotomy number number' with less | same | more
  · have before := first.before_start starts second.found second.owned less
    have after := second.after
    omega
  · exact same
  · have before := second.before_start starts first.found first.owned more
    have after := first.after
    omega

/-- Stored keys with one name and one index belong to one position. -/
theorem storedNode_inj (distinct : (epochs.map Epoch.key).Nodup) {sender : Party}
    {position position' number number' : Nat} {epoch epoch' : Epoch β}
    (first : InEpoch epochs sender position number epoch)
    (second : InEpoch epochs sender position' number' epoch') (few : position < 2 ^ 32)
    (few' : position' < 2 ^ 32) (sameKey : epoch.key = epoch'.key)
    (sameIndex : UInt32.ofNat (position - epoch.start) = UInt32.ofNat (position' - epoch'.start)) :
    position = position' := by
  have bound := (List.getElem?_eq_some_iff.mp first.found).1
  have names : (epochs.map Epoch.key)[number]? = (epochs.map Epoch.key)[number']? := by
    rw [List.getElem?_map, List.getElem?_map, first.found, second.found, Option.map_some,
      Option.map_some, sameKey]
  have same := (List.getElem?_inj (by simpa using bound) distinct).mp names
  subst same
  have sameEpoch := first.found
  rw [second.found, Option.some.injEq] at sameEpoch
  subst sameEpoch
  have after := first.after
  have after' := second.after
  have indices := congrArg UInt32.toNat sameIndex
  rw [UInt32.toNat_ofNat', UInt32.toNat_ofNat', Nat.mod_eq_of_lt (by omega),
    Nat.mod_eq_of_lt (by omega)] at indices
  omega

/-- Positions that were sent before a new epoch keep their epochs. -/
theorem InEpoch.extend {sender receiver : Party} {position number : Nat} {epoch last : Epoch β}
    (inside : InEpoch epochs sender position number epoch)
    (owned : owner epochs.length = receiver) (sent : sender = receiver → position < last.start) :
    InEpoch (epochs ++ [last]) sender position number epoch where
  found := Window.getElem?_kept inside.found _
  owned := inside.owned
  after := inside.after
  before next found := by
    rcases Nat.lt_trichotomy (number + 2) epochs.length with less | same | more
    · rw [List.getElem?_append_left less] at found
      exact inside.before next found
    · rw [same, List.getElem?_append_right (Nat.le_refl _), Nat.sub_self, List.getElem?_cons_zero,
        Option.some.injEq] at found
      rw [← found]
      apply sent
      rw [← inside.owned, ← owned, owner_eq_iff]
      omega
    · rw [List.getElem?_eq_none (by simp; omega)] at found
      cases found

theorem NodeAt.extend {sender receiver : Party} {position : Nat} {last : Epoch β}
    {node : SkippedMsgKeyNode β} (placed : NodeAt cipherSuite epochs sender position node)
    (owned : owner epochs.length = receiver) (sent : sender = receiver → position < last.start) :
    NodeAt cipherSuite (epochs ++ [last]) sender position node := by
  obtain ⟨number, epoch, inside, made⟩ := placed
  exact ⟨number, epoch, inside.extend owned sent, made⟩

theorem Epoch.chainKey_full {epoch : Epoch β} (full : epoch.Full cipherSuite) (position : Nat) :
    cipherSuite.FullKey (epoch.chainKey cipherSuite position).sharedKey :=
  advance_iterate_full full.chain _

/-- Moving on by some positions advances the chain as often. -/
theorem Epoch.chainKey_add (cipherSuite : CipherSuite β) (epoch : Epoch β) {position : Nat}
    (after : epoch.start ≤ position) (count : Nat) : epoch.chainKey cipherSuite (position + count) =
      ⟨(epoch.chainKey cipherSuite position).index + UInt32.ofNat count,
        cipherSuite.advance^[count] (epoch.chainKey cipherSuite position).sharedKey⟩ := by
  have distance : position + count - epoch.start = count + (position - epoch.start) := by omega
  simp only [Epoch.chainKey, distance, UInt32.ofNat_add, Function.iterate_add_apply]
  rw [UInt32.add_comm]

/-- Consecutive keys of a chain are the stored keys of consecutive positions. -/
theorem skippedNodes_stored (epoch : Epoch β) {position : Nat} (after : epoch.start ≤ position)
    (count : Nat) :
    skippedNodes cipherSuite epoch.key (epoch.chainKey cipherSuite position).index
        (epoch.chainKey cipherSuite position).sharedKey count =
      (List.range' position count).map (storedNode cipherSuite epoch) := by
  rw [List.range'_eq_map_range, List.map_map, skippedNodes]
  apply List.map_congr_left
  intro offset _
  have moved := epoch.chainKey_add cipherSuite after offset
  simp only [Epoch.chainKey, ChainKey.mk.injEq] at moved
  simp only [Function.comp_apply, storedNode, CipherSuite.keyAt, moved.1, moved.2]
  rfl

end Positions

section Frames

variable {keys : Party → KeyPair β} {epochs : List (Epoch β)} {party : Party} {number : Nat}
  {epoch : Epoch β} {sent peerSent : Nat} {delivered : List Nat} {ratchet : Ratchet β}

theorem ReceiverAt.congr {privateKey : Bytes β} {reached : Nat} {after : Ratchet β}
    (chain : ReceiverAt cipherSuite privateKey epochs reached ratchet number)
    (same : after.receiverChain = ratchet.receiverChain) :
    ReceiverAt cipherSuite privateKey epochs reached after number := by
  cases number with
  | zero => exact ⟨chain.1, same.trans chain.2⟩
  | succ number =>
      obtain ⟨previous, found, started, receiver⟩ := chain
      exact ⟨previous, found, started, same.trans receiver⟩

/-- More epochs and more messages of the peer keep a mailbox. -/
theorem Mailbox.extend {rest : List (Epoch β)} {more : Nat}
    (mailbox : Mailbox cipherSuite keys epochs party number epoch sent peerSent delivered ratchet)
    (later : peerSent ≤ more)
    (ahead : ∀ next, (epochs ++ rest)[number + 1]? = some next →
      Window.highest delivered ≤ next.start)
    (nodes : ∀ position node, NodeAt cipherSuite epochs party.peer position node →
      position < Window.highest delivered →
      NodeAt cipherSuite (epochs ++ rest) party.peer position node) :
    Mailbox cipherSuite keys (epochs ++ rest) party number epoch sent more delivered ratchet := by
  refine ⟨mailbox.started, mailbox.few, mailbox.sender, mailbox.total, mailbox.received,
    mailbox.within.trans later, ?_, ahead, ?_, mailbox.pointer, mailbox.outstanding⟩
  · have chain := mailbox.chain
    cases number with
    | zero => exact chain
    | succ number =>
        obtain ⟨previous, foundPrevious, started, receiver⟩ := chain
        exact ⟨previous, Window.getElem?_kept foundPrevious _, started, receiver⟩
  · have early : ∀ position ∈ Window.missing delivered, position < Window.highest delivered :=
      fun _ member => (Window.mem_missing.mp member).1
    exact ((List.forall₂_and_left _ _).mpr ⟨early, mailbox.stored⟩).imp
      fun position node both => nodes position node both.2 both.1

/-- An encryption moves the sender chain and the total by one. -/
theorem Mailbox.send
    (mailbox : Mailbox cipherSuite keys epochs party number epoch sent peerSent delivered ratchet)
    (more : sent + 1 < 2 ^ 32) :
    Mailbox cipherSuite keys epochs party number epoch (sent + 1) peerSent delivered
      (sentRatchet cipherSuite ratchet
        ⟨epoch.key, (keys party.peer).publicKey, some (epoch.chainKey cipherSuite sent)⟩
        (epoch.chainKey cipherSuite sent)) where
  started := mailbox.started.trans (Nat.le_succ _)
  few := more
  sender := by
    rw [epoch.chainKey_add cipherSuite mailbox.started]
    rfl
  total := by
    rw [UInt32.ofNat_add, ← mailbox.total]
    rfl
  received := mailbox.received
  within := mailbox.within
  chain := mailbox.chain.congr rfl
  ahead := mailbox.ahead
  stored := mailbox.stored
  pointer := mailbox.pointer
  outstanding := mailbox.outstanding

end Frames

section Checks

variable {keys : Party → KeyPair β} {epochs : List (Epoch β)} {party : Party} {number : Nat}
  {epoch : Epoch β} {sent peerSent : Nat} {delivered : List Nat} {ratchet : Ratchet β}

/-- A ratchet that agrees with its mailbox passes the check of every call. -/
theorem Mailbox.valid (suite : isValidCipherSuite cipherSuite = true)
    (publicKeys : ∀ party, (keys party).publicKey ≠ [])
    (privateKeys : ∀ party, (keys party).privateKey ≠ [])
    (full : ∀ epoch ∈ epochs, epoch.Full cipherSuite) (found : epochs[number]? = some epoch)
    (seat : Seat cipherSuite keys party number epoch ratchet)
    (mailbox : Mailbox cipherSuite keys epochs party number epoch sent peerSent delivered ratchet) :
    isValidRatchet ratchet = true := by
  have epochFull := full epoch (List.mem_of_getElem? found)
  have rootValid : isValidProtobuf ratchet.rootKey = true := by
    simpa using seat.sized.root.nonempty
  have senderKey : cipherSuite.FullKey (epoch.chainKey cipherSuite sent).sharedKey :=
    Epoch.chainKey_full epochFull sent
  have senderValid : isValidSenderChain ratchet.senderChain = true := by
    simp [mailbox.sender, epochFull.nonempty suite, publicKeys, senderKey.nonempty]
  have listValid : isValidSkippedMsgKeyList ratchet.skippedMsgKeyList = true := by
    have nodes : ∀ node ∈ ratchet.skipped, isValidSkippedMsgKeyNode node = true := by
      intro node member
      obtain ⟨position, -, nodeNumber, nodeEpoch, inside, rfl⟩ :=
        Window.forall₂_position mailbox.stored member
      have nodeFull := full nodeEpoch (List.mem_of_getElem? inside.found)
      simp [isValidSkippedMsgKeyNode, isValidMsgKey, storedNode, CipherSuite.keyAt,
        nodeFull.nonempty suite, messageKey_nonempty]
    rw [mailbox.pointer]
    cases list : ratchet.skipped with
    | nil => rfl
    | cons head tail =>
        rw [list] at nodes
        simpa [skippedPointer, isValidSkippedMsgKeyList] using nodes
  simp only [isValidRatchet, Bool.and_eq_true]
  refine ⟨⟨⟨rootValid, senderValid⟩, ?_⟩, listValid⟩
  have chain := mailbox.chain
  cases number with
  | zero =>
      have first : ¬ ratchet.rootSequence > 0 := by
        rw [gt_iff_lt, UInt32.lt_iff_toNat_lt, seat.rootSequence]
        simp
      rw [if_neg first, chain.2]
      simpa using privateKeys party
  | succ number =>
      obtain ⟨previous, foundPrevious, -, receiver⟩ := chain
      have previousFull := full previous (List.mem_of_getElem? foundPrevious)
      have later : ratchet.rootSequence > 0 := by
        rw [gt_iff_lt, UInt32.lt_iff_toNat_lt, seat.rootSequence]
        simp
      have receiverKey : cipherSuite.FullKey
          (previous.chainKey cipherSuite (Window.highest delivered)).sharedKey :=
        Epoch.chainKey_full previousFull _
      rw [if_pos later, receiver]
      simp [previousFull.nonempty suite, privateKeys, receiverKey.nonempty]

end Checks

section Updates

variable {ratchet : Ratchet β} {payload : One2oneMsgPayload β}

/-- After a delivery the total is the first position after all delivered ones. -/
theorem closeDecrypt_delivered {highest position : Nat}
    (total : payload.sendingMessageSequence = UInt32.ofNat (position + 1))
    (received : ratchet.receivedMessageSequence = UInt32.ofNat highest)
    (few : highest < 2 ^ 32) (fits : position + 1 < 2 ^ 32)
    (short : ratchet.skipped.length ≤ maxSkippedMessageKeyNodes) :
    closeDecrypt ratchet payload = { ratchet with
      receivedMessageSequence := UInt32.ofNat (max highest (position + 1)) } := by
  have updated : updatedTotal ratchet payload = UInt32.ofNat (max highest (position + 1)) := by
    have order : UInt32.ofNat (position + 1) > UInt32.ofNat highest ↔ highest < position + 1 := by
      rw [gt_iff_lt, UInt32.lt_iff_toNat_lt, UInt32.toNat_ofNat', UInt32.toNat_ofNat',
        Nat.mod_eq_of_lt few, Nat.mod_eq_of_lt fits]
    unfold updatedTotal
    rw [total, received]
    by_cases ahead : highest < position + 1
    · rw [if_pos (order.mpr ahead), Nat.max_eq_right ahead.le]
    · rw [if_neg (fun more => ahead (order.mp more)), Nat.max_eq_left (by omega)]
  rw [closeDecrypt_short payload short, updated]

/-- Storing no keys keeps the pointer, also when it is null. -/
theorem skippedPointer_append {list : List (SkippedMsgKeyNode β)}
    {pointer : Option (List (SkippedMsgKeyNode β))} (same : pointer = skippedPointer list)
    (nodes : List (SkippedMsgKeyNode β)) {count : Nat} (length : nodes.length = count) :
    (if count = 0 then pointer else some (list ++ nodes)) = skippedPointer (list ++ nodes) := by
  subst length
  cases nodes with
  | nil => simp [same]
  | cons head tail => simp [skippedPointer]

/-- Reading a message stores the keys of the gap before it. -/
theorem readRatchet_pointer (pointer : ratchet.skippedMsgKeyList = skippedPointer ratchet.skipped)
    (receiverChain : ReceiverChainNode β) (chainKey : ChainKey β) :
    (readRatchet cipherSuite ratchet payload receiverChain chainKey).skippedMsgKeyList =
      skippedPointer (ratchet.skipped ++ skippedNodes cipherSuite
        receiverChain.theirRatchetPublicKey chainKey.index chainKey.sharedKey
        (payload.sequence.toNat - chainKey.index.toNat)) :=
  skippedPointer_append pointer _ (by simp [skippedNodes])

theorem skipped_of_pointer {list : List (SkippedMsgKeyNode β)}
    (pointer : ratchet.skippedMsgKeyList = skippedPointer list) : ratchet.skipped = list := by
  rw [Ratchet.skipped, pointer, skippedPointer_getD]

variable [DecidableEq β] {ad : Bytes β}

/-- The search finds a key when no earlier entry has its name and its index. -/
theorem useSkippedKey_found (suite : isValidCipherSuite cipherSuite = true) (adPresent : ad ≠ [])
    (validPayload : isValidOne2oneMsgPayload payload = true)
    {before after : List (SkippedMsgKeyNode β)} {node : SkippedMsgKeyNode β} {plaintext : Bytes β}
    (sameIndex : payload.sequence = node.msgKey.index)
    (sameKey : node.ratchetKeyPublic = payload.ratchetKey) (nonempty : node.msgKey.derivedKey ≠ [])
    (opened : cipherSuite.se.decrypt ad node.msgKey.derivedKey payload.ciphertext = some plaintext)
    (apart : ∀ other ∈ before, payload.sequence = other.msgKey.index →
      other.ratchetKeyPublic.take (ratchetKeyLen cipherSuite) ≠
        payload.ratchetKey.take (ratchetKeyLen cipherSuite)) :
    useSkippedKey cipherSuite ad payload (before ++ node :: after) =
      some (plaintext, before ++ after) := by
  induction before with
  | nil =>
      have trial : verifyAndDecrypt cipherSuite ad node.msgKey payload = some plaintext := by
        unfold verifyAndDecrypt
        rw [if_pos (by simp [suite, adPresent, isValidMsgKey, nonempty, validPayload])]
        exact opened
      simp only [List.nil_append, useSkippedKey]
      rw [if_pos ⟨sameIndex, by rw [sameKey]⟩, trial]
  | cons head tail ih =>
      have missed : ¬ (payload.sequence = head.msgKey.index ∧
          head.ratchetKeyPublic.take (ratchetKeyLen cipherSuite) =
            payload.ratchetKey.take (ratchetKeyLen cipherSuite)) :=
        fun both => apart head (List.mem_cons_self ..) both.1 both.2
      have rest := ih fun other member => apart other (List.mem_cons_of_mem _ member)
      simp only [List.cons_append, useSkippedKey]
      rw [if_neg missed, rest]
      rfl

end Updates

end E2eeSecurity
