/-
This file shows that no two stored keys share a name when the messages come from an honest peer.
-/
import E2eeSecurity.Ratchet.SenderKeys
import E2eeSecurity.Ratchet.SkippedList

namespace E2eeSecurity

variable {β : Type} {cipherSuite : CipherSuite β}

/-- A stored key is named by its ratchet key and its index. -/
def SkippedMsgKeyNode.name (node : SkippedMsgKeyNode β) : Bytes β × UInt32 :=
  (node.ratchetKeyPublic, node.msgKey.index)

/-- The tags of the stored keys belong to older root sequences than the current one, the keys of the
current chain are behind its index, and no two keys share their name. -/
structure Orderly (rootOf : Bytes β → UInt32) (ratchet : Ratchet β) : Prop where
  older : ∀ node ∈ ratchet.skipped, rootOf node.ratchetKeyPublic < ratchet.rootSequence
  current : ∀ chain ∈ ratchet.receiverChain, chain.chainKey ≠ none →
    rootOf chain.theirRatchetPublicKey < ratchet.rootSequence
  behind : ∀ node ∈ ratchet.skipped, ∀ chain ∈ ratchet.receiverChain, ∀ key ∈ chain.chainKey,
    node.ratchetKeyPublic = chain.theirRatchetPublicKey → node.msgKey.index < key.index
  distinct : (ratchet.skipped.map SkippedMsgKeyNode.name).Nodup

section Names

variable {rootOf : Bytes β → UInt32} {ratchet : Ratchet β} {payload : One2oneMsgPayload β}
  {receiverChain : ReceiverChainNode β} {chainKey : ChainKey β}

/-- The indices of consecutive keys lie in an interval when they do not wrap around. -/
theorem skippedNodes_index {ratchetKey : Bytes β} {index : UInt32} {key : Bytes β} {count : Nat}
    (within : index.toNat + count ≤ 2 ^ 32) {node : SkippedMsgKeyNode β}
    (member : node ∈ skippedNodes cipherSuite ratchetKey index key count) :
    node.ratchetKeyPublic = ratchetKey ∧ index.toNat ≤ node.msgKey.index.toNat ∧
      node.msgKey.index.toNat < index.toNat + count := by
  obtain ⟨offset, inside, same⟩ := List.mem_map.mp member
  rw [List.mem_range] at inside
  rw [← same]
  have value : (index + UInt32.ofNat offset).toNat = index.toNat + offset := by
    rw [UInt32.toNat_add, UInt32.toNat_ofNat']
    omega
  dsimp only
  rw [value]
  exact ⟨rfl, by omega, by omega⟩

/-- Consecutive keys have different names when their indices do not wrap around. -/
theorem skippedNodes_names (ratchetKey : Bytes β) {index : UInt32} (key : Bytes β) {count : Nat}
    (within : index.toNat + count ≤ 2 ^ 32) :
    ((skippedNodes cipherSuite ratchetKey index key count).map SkippedMsgKeyNode.name).Nodup := by
  rw [skippedNodes, List.map_map]
  apply List.Nodup.map_on _ List.nodup_range
  intro first firstInside second secondInside same
  rw [List.mem_range] at firstInside secondInside
  have indices := congrArg UInt32.toNat (congrArg Prod.snd same)
  simp only [Function.comp_apply, SkippedMsgKeyNode.name, UInt32.toNat_add,
    UInt32.toNat_ofNat'] at indices
  omega

/-- A shorter list stays orderly. -/
theorem Orderly.sublist (orderly : Orderly rootOf ratchet) {other : Ratchet β}
    (rootSequence : other.rootSequence = ratchet.rootSequence)
    (receiver : other.receiverChain = ratchet.receiverChain)
    (part : other.skipped.Sublist ratchet.skipped) : Orderly rootOf other where
  older node member := by
    rw [rootSequence]
    exact orderly.older node (part.subset member)
  current := by
    rw [rootSequence, receiver]
    exact orderly.current
  behind node member := by
    rw [receiver]
    exact orderly.behind node (part.subset member)
  distinct := orderly.distinct.sublist (part.map _)

/-- The next keys of the current chain get new names. -/
theorem Orderly.append (orderly : Orderly rootOf ratchet)
    (receiver : ratchet.receiverChain = some receiverChain)
    (present : receiverChain.chainKey = some chainKey) {count : Nat}
    (within : chainKey.index.toNat + count ≤ 2 ^ 32) :
    ((ratchet.skipped ++ skippedNodes cipherSuite receiverChain.theirRatchetPublicKey
      chainKey.index chainKey.sharedKey count).map SkippedMsgKeyNode.name).Nodup := by
  rw [List.map_append]
  apply List.Nodup.append orderly.distinct (skippedNodes_names _ _ within)
  intro name old new
  obtain ⟨earlier, stored, rfl⟩ := List.mem_map.mp old
  obtain ⟨later, skipped, same⟩ := List.mem_map.mp new
  obtain ⟨tag, lower, -⟩ := skippedNodes_index within skipped
  have sameTag : later.ratchetKeyPublic = earlier.ratchetKeyPublic := congrArg Prod.fst same
  have sameIndex : later.msgKey.index = earlier.msgKey.index := congrArg Prod.snd same
  have before := orderly.behind earlier stored receiverChain receiver chainKey present
    (sameTag.symm.trans tag)
  rw [← sameIndex, UInt32.lt_iff_toNat_lt] at before
  omega

/-- Reading a message on the current chain keeps the list orderly. -/
theorem Orderly.read (orderly : Orderly rootOf ratchet)
    (receiver : ratchet.receiverChain = some receiverChain)
    (present : receiverChain.chainKey = some chainKey)
    (reached : ¬ payload.sequence < chainKey.index)
    (fits : payload.sequence.toNat + 1 < 2 ^ 32) :
    Orderly rootOf (readRatchet cipherSuite ratchet payload receiverChain chainKey) := by
  rw [UInt32.lt_iff_toNat_lt] at reached
  have one : (1 : UInt32).toNat = 1 := rfl
  have next : (payload.sequence + 1).toNat = payload.sequence.toNat + 1 := by
    rw [UInt32.toNat_add, one]
    omega
  have within : chainKey.index.toNat + (payload.sequence.toNat - chainKey.index.toNat) ≤ 2 ^ 32 := by
    omega
  have tagged := orderly.current receiverChain receiver (by
    rw [present]
    exact Option.some_ne_none _)
  constructor
  case older =>
    intro node member
    rw [readRatchet_skipped] at member
    obtain old | new := List.mem_append.mp member
    · exact orderly.older node old
    · rw [(skippedNodes_index within new).1]
      exact tagged
  case current =>
    intro chain member _
    rw [readRatchet, Option.mem_some_iff] at member
    rw [← member]
    exact tagged
  case behind =>
    intro node member chain found key foundKey same
    rw [readRatchet, Option.mem_some_iff] at found
    subst found
    rw [Option.mem_some_iff] at foundKey
    subst foundKey
    rw [UInt32.lt_iff_toNat_lt]
    dsimp only
    rw [next]
    rw [readRatchet_skipped] at member
    obtain old | new := List.mem_append.mp member
    · have before := orderly.behind node old receiverChain receiver chainKey present same
      rw [UInt32.lt_iff_toNat_lt] at before
      omega
    · have upper := (skippedNodes_index within new).2.2
      omega
  case distinct =>
    rw [readRatchet_skipped]
    exact orderly.append receiver present within

/-- The next keys of the receiver chain carry its tag, when there are any. -/
theorem nextNodes_tag {count : Nat} {node : SkippedMsgKeyNode β}
    (member : node ∈ nextNodes cipherSuite ratchet count) :
    ∃ chain ∈ ratchet.receiverChain, chain.chainKey ≠ none ∧
      node.ratchetKeyPublic = chain.theirRatchetPublicKey := by
  unfold nextNodes at member
  split at member
  case h_1 chain receiver =>
    split at member
    case h_1 key present =>
      obtain ⟨offset, -, same⟩ := List.mem_map.mp member
      exact ⟨chain, receiver, by rw [present]; exact Option.some_ne_none _, by rw [← same]⟩
    case h_2 => cases member
  case h_2 => cases member

/-- The commit of new chains keeps the list orderly. -/
theorem Orderly.commit (orderly : Orderly rootOf ratchet) {ad coins plaintext : Bytes β}
    {senderChain : SenderChainNode β}
    (renewal : Renewal cipherSuite ratchet ad payload receiverChain senderChain plaintext)
    (honest : rootOf payload.ratchetKey = payload.rootSequence)
    (rises : ratchet.rootSequence ≤ ratchet.rootSequence + 1 + 1)
    (fits : ∀ key ∈ receiverKey ratchet,
      key.index.toNat + previousSkippedNum ratchet payload ≤ 2 ^ 32) :
    Orderly rootOf
      (committedRatchet cipherSuite ratchet payload coins receiverChain senderChain) := by
  have bound := ratchet.rootSequence.toNat_lt
  have one : (1 : UInt32).toNat = 1 := rfl
  have newer := renewal.newer
  rw [renewal.next, UInt32.lt_iff_toNat_lt, UInt32.toNat_add, one] at newer
  have next : (ratchet.rootSequence + 1).toNat = ratchet.rootSequence.toNat + 1 := by
    rw [UInt32.toNat_add, one]
    omega
  have reached := toNat_rootSequence_moved rises
  have tagged : ∀ node ∈ (committedRatchet cipherSuite ratchet payload coins receiverChain
      senderChain).skipped, rootOf node.ratchetKeyPublic < ratchet.rootSequence := by
    intro node member
    rw [committedRatchet_skipped coins renewal] at member
    obtain old | new := List.mem_append.mp member
    · exact orderly.older node old
    · obtain ⟨chain, receiver, present, tag⟩ := nextNodes_tag new
      rw [tag]
      exact orderly.current chain receiver present
  constructor
  case older =>
    intro node member
    have before := tagged node member
    rw [UInt32.lt_iff_toNat_lt] at before ⊢
    show _ < (ratchet.rootSequence + 1 + 1).toNat
    omega
  case current =>
    intro chain member _
    rw [committedRatchet, renewedRatchet, Option.mem_some_iff] at member
    subst member
    rw [UInt32.lt_iff_toNat_lt]
    show (rootOf payload.ratchetKey).toNat < (ratchet.rootSequence + 1 + 1).toNat
    rw [honest, renewal.next]
    omega
  case behind =>
    intro node member chain found key _ same
    rw [committedRatchet, renewedRatchet, Option.mem_some_iff] at found
    subst found
    have before := tagged node member
    rw [same, UInt32.lt_iff_toNat_lt] at before
    dsimp only at before
    rw [honest, renewal.next] at before
    omega
  case distinct =>
    rw [committedRatchet_skipped coins renewal]
    cases present : receiverChain.chainKey with
    | some chainKey =>
        rw [nextNodes_present renewal.receiver present]
        apply orderly.append renewal.receiver present
        apply fits
        rw [receiverKey, renewal.receiver, Option.bind_some, present, Option.mem_some_iff]
    | none =>
        have empty : nextNodes cipherSuite ratchet (previousSkippedNum ratchet payload) = [] := by
          simp only [nextNodes, renewal.receiver, present]
        rw [empty, List.append_nil]
        exact orderly.distinct

variable [DecidableEq β]

/-- None of the 32-bit counters that a decryption moves runs over. -/
def CountersFit (cipherSuite : CipherSuite β) (ratchet : Ratchet β) : RatchetCall β → Prop
  | .encrypt _ _ => True
  | .decrypt ad payload coins =>
      ratchet.rootSequence ≤
          (decryptRatchet cipherSuite ratchet ad payload coins).2.rootSequence ∧
        payload.sequence.toNat + 1 < 2 ^ 32 ∧
        (payload.rootSequence = ratchet.rootSequence + 1 → ∀ key ∈ receiverKey ratchet,
          key.index.toNat + previousSkippedNum ratchet payload ≤ 2 ^ 32)

/-- A successful decryption keeps the list orderly. -/
theorem Orderly.decrypt (kept : Kept cipherSuite ratchet) (orderly : Orderly rootOf ratchet)
    {ad coins : Bytes β} (honest : rootOf payload.ratchetKey = payload.rootSequence)
    (fits : CountersFit cipherSuite ratchet (.decrypt ad payload coins))
    (success : Succeeds cipherSuite ratchet (.decrypt ad payload coins)) :
    Orderly rootOf (decryptRatchet cipherSuite ratchet ad payload coins).2 := by
  obtain ⟨rises, sequenceFits, previousFits⟩ := fits
  have closed : Orderly rootOf (decryptBody cipherSuite ratchet ad payload coins).2 →
      Orderly rootOf (decryptRatchet cipherSuite ratchet ad payload coins).2 := by
    intro before
    apply before.sublist
    · exact decryptRatchet_rootSequence ratchet ad payload coins
    · rw [decryptRatchet, closeDecrypt_eq]
    · rw [decryptRatchet, closeDecrypt_skipped]
      exact List.drop_sublist _ _
  rw [decryptRatchet_rootSequence] at rises
  have outcome : Outcome cipherSuite ratchet ad payload coins _ _ :=
    decryptBody_outcome kept.sized coins
  have opened : (decryptBody cipherSuite ratchet ad payload coins).1.isSome = true := success
  apply closed
  generalize (decryptBody cipherSuite ratchet ad payload coins).1 = result at outcome opened
  generalize (decryptBody cipherSuite ratchet ad payload coins).2 = after at outcome rises
  cases outcome with
  | refused => cases opened
  | allocated => cases opened
  | overrun => cases opened
  | skipped accepted older before node behind plaintext found split =>
      refine orderly.sublist rfl rfl ?_
      rw [Ratchet.skipped, skippedPointer_getD, split]
      exact List.Sublist.append_left (List.sublist_cons_self _ _) _
  | existing accepted current older receiverChain chainKey plaintext receiver sameKey present
      reached =>
      exact orderly.read receiver present reached sequenceFits
  | renewed receiverChain senderChain plaintext renewal =>
      exact (orderly.commit renewal honest rises (previousFits renewal.next)).read rfl rfl
        UInt32.not_lt_zero sequenceFits

/-- A successful call keeps the list orderly. -/
theorem Orderly.call (kept : Kept cipherSuite ratchet) (orderly : Orderly rootOf ratchet)
    {call : RatchetCall β}
    (honest : ∀ ad payload coins, call = .decrypt ad payload coins →
      rootOf payload.ratchetKey = payload.rootSequence)
    (fits : CountersFit cipherSuite ratchet call) (success : Succeeds cipherSuite ratchet call) :
    Orderly rootOf (applyCall cipherSuite ratchet call) := by
  cases call with
  | encrypt ad plaintext =>
      obtain ⟨receiver, list, rootSequence⟩ := encryptRatchet_keeps ratchet ad plaintext
      apply orderly.sublist rootSequence receiver
      show ((encryptRatchet cipherSuite ratchet ad plaintext).2.skippedMsgKeyList.getD []).Sublist _
      rw [list]
      exact List.Sublist.refl _
  | decrypt ad payload coins => exact orderly.decrypt kept (honest ad payload coins rfl) fits success

end Names

/-- Every ratchet key of a sender belongs to one root sequence of its table. -/
structure RootTable (cipherSuite : CipherSuite β) (theirKey : Bytes β) (keys : List (Bytes β))
    (table : List (Bytes β × UInt32)) (log : SenderLog β) : Prop where
  known : (table.map Prod.fst).Sublist keys
  sized : log.ratchet.Sized cipherSuite
  sender : ∃ chain, log.ratchet.senderChain = some chain ∧
    chain.theirRatchetPublicKey = theirKey ∧
    (chain.ourRatchetPublicKey, log.ratchet.rootSequence) ∈ table
  emitted : ∀ emission ∈ log.emitted,
    (emission.payload.ratchetKey, emission.payload.rootSequence) ∈ table

section Tables

variable [DecidableEq β] {theirKey : Bytes β} {keys : List (Bytes β)}
  {table : List (Bytes β × UInt32)} {log : SenderLog β}

/-- An encryption emits a payload of the current entry. -/
theorem RootTable.encrypt (inTable : RootTable cipherSuite theirKey keys table log)
    (ad : Bytes β) (plaintext : Option (Bytes β)) :
    RootTable cipherSuite theirKey keys table (logCall cipherSuite log (.encrypt ad plaintext)) := by
  obtain ⟨chain, sender, theirs, entry⟩ := inTable.sender
  obtain refused | ⟨senderChain, chainKey, data, -, found, present, -, made⟩ :=
    encryptRatchet_cases inTable.sized ad plaintext
  · have same : (logCall cipherSuite log (.encrypt ad plaintext)).ratchet = log.ratchet := by
      simp only [logCall, refused]
    have kept : (logCall cipherSuite log (.encrypt ad plaintext)).emitted = log.emitted := by
      simp only [logCall, refused]
    constructor
    · exact inTable.known
    · rw [same]
      exact inTable.sized
    · rw [same]
      exact inTable.sender
    · rw [kept]
      exact inTable.emitted
  · rw [sender, Option.some.injEq] at found
    subst found
    have moved : (logCall cipherSuite log (.encrypt ad plaintext)).ratchet =
        sentRatchet cipherSuite log.ratchet chain chainKey := by
      simp only [logCall, made]
    constructor
    · exact inTable.known
    · rw [moved]
      exact sentRatchet_sized inTable.sized chain chainKey
    · rw [moved]
      exact ⟨_, rfl, theirs, entry⟩
    · intro emission member
      simp only [logCall, made] at member
      cases sealed : cipherSuite.se.encrypt ad (cipherSuite.messageKey chainKey.sharedKey) data with
      | none =>
          rw [sealed] at member
          exact inTable.emitted emission member
      | some ciphertext =>
          rw [sealed] at member
          obtain old | new := List.mem_append.mp member
          · exact inTable.emitted emission old
          · rw [List.mem_singleton.mp new]
            exact entry

/-- A decryption keeps the entry or adds one for the new sender chain. -/
theorem RootTable.decrypt (inTable : RootTable cipherSuite theirKey keys table log) (ad : Bytes β)
    (payload : One2oneMsgPayload β) (coins : Bytes β) :
    ∃ more, RootTable cipherSuite theirKey
      (keys ++ [(cipherSuite.kem.encapsulate coins theirKey).2]) (table ++ more)
      (logCall cipherSuite log (.decrypt ad payload coins)) := by
  obtain ⟨chain, sender, theirs, entry⟩ := inTable.sender
  obtain ⟨sized, -, -, ⟨-, root, same⟩ | ⟨receiverChain, senderChain, plaintext, renewed⟩⟩ :=
    decryptRatchet_frame inTable.sized ad payload coins
  · refine ⟨[], ?_, sized, ⟨chain, same.trans sender, theirs, ?_⟩, ?_⟩
    · rw [List.append_nil]
      exact inTable.known.trans (List.sublist_append_left _ _)
    · rw [List.append_nil]
      exact root ▸ entry
    · rw [List.append_nil]
      exact inTable.emitted
  · have found := renewed.renewal.sender
    rw [sender, Option.some.injEq] at found
    subst found
    refine ⟨[((cipherSuite.kem.encapsulate coins theirKey).2, log.ratchet.rootSequence + 1 + 1)],
      ?_, sized, ⟨_, renewed.senderChain, theirs, ?_⟩, ?_⟩
    · rw [List.map_append]
      exact inTable.known.append (List.Sublist.refl _)
    · apply List.mem_append_right
      rw [← theirs]
      exact List.mem_singleton.mpr (congrArg _ renewed.rootSequence)
    · intro emission member
      exact List.mem_append_left _ (inTable.emitted emission member)

/-- A run only adds entries. -/
theorem RootTable.run (calls : List (RatchetCall β))
    (inTable : RootTable cipherSuite theirKey keys table log) :
    ∃ more, RootTable cipherSuite theirKey (keys ++ (callCoins calls).map fun coins =>
      (cipherSuite.kem.encapsulate coins theirKey).2) (table ++ more)
      (Machine.run (logCall cipherSuite) log calls) := by
  induction calls generalizing log keys table with
  | nil =>
      refine ⟨[], ?_⟩
      rw [callCoins, List.map_nil, List.append_nil, List.append_nil]
      exact inTable
  | cons call rest ih =>
      rw [Machine.run_cons]
      cases call with
      | encrypt ad plaintext =>
          cases plaintext with
          | none => exact ih (inTable.encrypt ad none)
          | some data => exact ih (inTable.encrypt ad (some data))
      | decrypt ad payload coins =>
          obtain ⟨first, moved⟩ := inTable.decrypt ad payload coins
          obtain ⟨more, later⟩ := ih moved
          refine ⟨first ++ more, ?_⟩
          rw [callCoins, List.map_cons, ← List.append_assoc]
          simpa using later

/-- A table without repeated keys is a function. -/
theorem exists_rootOf {table : List (Bytes β × UInt32)}
    (nodup : (table.map Prod.fst).Nodup) :
    ∃ rootOf : Bytes β → UInt32, ∀ entry ∈ table, rootOf entry.1 = entry.2 := by
  induction table with
  | nil => exact ⟨fun _ => 0, by simp⟩
  | cons head tail ih =>
      rw [List.map_cons, List.nodup_cons] at nodup
      obtain ⟨rootOf, agrees⟩ := ih nodup.2
      refine ⟨Function.update rootOf head.1 head.2, ?_⟩
      intro entry member
      obtain rfl | later := List.mem_cons.mp member
      · exact Function.update_self _ _ _
      · rw [Function.update_of_ne]
        · exact agrees entry later
        · intro same
          exact nodup.1 (same ▸ List.mem_map_of_mem later)

end Tables

/-- One party starts as Alice and the other as Bob, and Alice knows the first ratchet key of Bob. -/
def RatchetStart.Meets (start peerStart : RatchetStart β) (peer : Ratchet β) : Prop :=
  match start, peerStart with
  | .alice _ _ _ theirEncapsCiphertext _, .bob _ _ _ _ => theirEncapsCiphertext =
      peer.senderChain.map fun chain => chain.ourRatchetPublicKey
  | .bob _ _ _ _, .alice _ _ _ _ _ => True
  | _, _ => False

/-- The calls read payloads that an honest peer emitted. Only their totals were altered on the way.
The peer itself may make any calls, and its ciphertexts are pairwise distinct. -/
structure HonestPeer [DecidableEq β] (cipherSuite : CipherSuite β)
    (start peerStart : RatchetStart β) (peer : Ratchet β)
    (peerCalls calls : List (RatchetCall β)) : Prop where
  made : peerStart.initialise cipherSuite = some peer
  meets : start.Meets peerStart peer
  fresh : ((peerStart.coins :: callCoins peerCalls).map fun coins =>
    (cipherSuite.kem.encapsulate coins peerStart.theirRatchetKey).2).Nodup
  emitted : ∀ ad payload coins, .decrypt ad payload coins ∈ calls →
    ∃ emission ∈ (runLog cipherSuite peer peerCalls).emitted, payload =
      { emission.payload with sendingMessageSequence := payload.sendingMessageSequence }

section Honest

variable [DecidableEq β] {start peerStart : RatchetStart β} {initial peer : Ratchet β}
  {calls peerCalls : List (RatchetCall β)}

omit [DecidableEq β] in
/-- Both initialisers make a table with one entry. -/
theorem RootTable.first (made : start.initialise cipherSuite = some initial) :
    ∃ chain, initial.senderChain = some chain ∧ RootTable cipherSuite start.theirRatchetKey
      [(cipherSuite.kem.encapsulate start.coins start.theirRatchetKey).2]
      [(chain.ourRatchetPublicKey, initial.rootSequence)] ⟨initial, 0, []⟩ := by
  have sized := (OnChain.start made).sized
  cases start with
  | bob sharedSecret ourRatchetKey theirRatchetKey coins =>
      obtain ⟨-, -, -, rfl⟩ := initialiseAsBob_some made
      exact ⟨_, rfl, List.Sublist.refl _, sized, ⟨_, rfl, rfl, List.mem_singleton.mpr rfl⟩, by simp⟩
  | alice sharedSecret ourRatchetKey theirRatchetKey theirEncapsCiphertext coins =>
      obtain ⟨-, -, -, theirCiphertext, -, -, rfl⟩ := initialiseAsAlice_some made
      exact ⟨_, rfl, List.Sublist.refl _, sized, ⟨_, rfl, rfl, List.mem_singleton.mpr rfl⟩, by simp⟩

/-- Each ratchet key of an honest peer belongs to one root sequence. -/
theorem HonestPeer.rootOf (honest : HonestPeer cipherSuite start peerStart peer peerCalls calls) :
    ∃ rootOf : Bytes β → UInt32,
      (∀ chain ∈ peer.senderChain, rootOf chain.ourRatchetPublicKey = peer.rootSequence) ∧
      ∀ ad payload coins, .decrypt ad payload coins ∈ calls →
        rootOf payload.ratchetKey = payload.rootSequence := by
  obtain ⟨chain, sender, started⟩ := RootTable.first honest.made
  obtain ⟨more, inTable⟩ := started.run peerCalls
  obtain ⟨rootOf, agrees⟩ := exists_rootOf (honest.fresh.sublist inTable.known)
  refine ⟨rootOf, ?_, ?_⟩
  · intro other member
    rw [sender, Option.mem_some_iff] at member
    rw [← member]
    exact agrees _ List.mem_cons_self
  · intro ad payload coins member
    obtain ⟨emission, sent, same⟩ := honest.emitted ad payload coins member
    rw [same]
    exact agrees _ (inTable.emitted emission sent)

omit [DecidableEq β] in
/-- A new ratchet is orderly. -/
theorem Orderly.first (made : start.initialise cipherSuite = some initial)
    (peerMade : peerStart.initialise cipherSuite = some peer) (meets : start.Meets peerStart peer)
    {rootOf : Bytes β → UInt32}
    (agrees : ∀ chain ∈ peer.senderChain, rootOf chain.ourRatchetPublicKey = peer.rootSequence) :
    Orderly rootOf initial := by
  cases start with
  | bob sharedSecret ourRatchetKey theirRatchetKey coins =>
      obtain ⟨-, -, -, rfl⟩ := initialiseAsBob_some made
      exact ⟨by simp [Ratchet.skipped], by simp, by simp [Ratchet.skipped], List.nodup_nil⟩
  | alice sharedSecret ourRatchetKey theirRatchetKey theirEncapsCiphertext coins =>
      obtain ⟨-, -, -, theirCiphertext, known, -, rfl⟩ := initialiseAsAlice_some made
      refine ⟨by simp [Ratchet.skipped], ?_, by simp [Ratchet.skipped], List.nodup_nil⟩
      intro chain member _
      rw [Option.mem_some_iff] at member
      subst member
      cases peerStart with
      | alice => exact meets.elim
      | bob peerSecret peerKey ourKey peerCoins =>
          obtain ⟨-, -, -, rfl⟩ := initialiseAsBob_some peerMade
          have same : some theirCiphertext = some _ := known.symm.trans meets
          rw [Option.some.injEq] at same
          rw [same, agrees _ rfl]
          exact (by decide : (0 : UInt32) < 1)

/-- After every run of encryptions and successful decryptions the ratchet is valid, its list is
short, and the next such call updates the list as described. When the messages come from an honest
peer and no counter runs over, no two stored keys share their name, and the keys of the current
chain are behind its index. -/
theorem skippedMsgKeyList_invariant (made : start.initialise cipherSuite = some initial)
    (successful : Machine.Along (applyCall cipherSuite) (Succeeds cipherSuite) initial calls)
    (honest : HonestPeer cipherSuite start peerStart peer peerCalls calls) :
    let ratchet := runCalls cipherSuite initial calls
    isValidRatchet ratchet = true ∧
      (ratchet.skippedMsgKeyList = none ↔ ratchet.skipped.length = 0) ∧
      ratchet.skipped.length ≤ maxSkippedMessageKeyNodes ∧
      (∀ call, Succeeds cipherSuite ratchet call → UpdatesList cipherSuite ratchet call) ∧
      (Machine.Along (applyCall cipherSuite) (CountersFit cipherSuite) initial calls →
        (ratchet.skipped.map SkippedMsgKeyNode.name).Nodup ∧
          ∀ node ∈ ratchet.skipped, ∀ chain ∈ ratchet.receiverChain, ∀ key ∈ chain.chainKey,
            node.ratchetKeyPublic = chain.theirRatchetPublicKey →
              node.msgKey.index < key.index) := by
  intro ratchet
  have kept : Kept cipherSuite ratchet :=
    Machine.run_invariant_along (fun _ _ kept success => kept.call success) calls (Kept.start made)
      successful
  refine ⟨(isValidRatchet_iff ratchet).mpr kept.valid, ?_, kept.short,
    fun call success => kept.updates success, ?_⟩
  · have list := ((isValidSkippedMsgKeyList_iff _).mp kept.valid.list).1
    rw [List.length_eq_zero_iff, Ratchet.skipped]
    cases pointer : ratchet.skippedMsgKeyList with
    | none => simp
    | some entries =>
        rw [pointer] at list
        simpa using list
  · intro fits
    obtain ⟨rootOf, agrees, tagged⟩ := honest.rootOf
    have known : Machine.Along (applyCall cipherSuite) (fun _ call => ∀ ad payload coins,
        call = .decrypt ad payload coins → rootOf payload.ratchetKey = payload.rootSequence)
        initial calls := by
      apply Machine.along_of_forall
      intro call member ad payload coins same
      subst same
      exact tagged ad payload coins member
    have step : ∀ (state : Ratchet β) (call : RatchetCall β),
        Kept cipherSuite state ∧ Orderly rootOf state →
        (Succeeds cipherSuite state call ∧ CountersFit cipherSuite state call) ∧
          (∀ ad payload coins, call = .decrypt ad payload coins →
            rootOf payload.ratchetKey = payload.rootSequence) →
        Kept cipherSuite (applyCall cipherSuite state call) ∧
          Orderly rootOf (applyCall cipherSuite state call) := by
      intro state call both guards
      obtain ⟨⟨success, counters⟩, own⟩ := guards
      exact ⟨both.1.call success, both.2.call both.1 own counters success⟩
    have orderly : Kept cipherSuite ratchet ∧ Orderly rootOf ratchet :=
      Machine.run_invariant_along step calls
        ⟨Kept.start made, Orderly.first made honest.made honest.meets agrees⟩
        (Machine.along_and (Machine.along_and successful fits) known)
    exact ⟨orderly.2.distinct, orderly.2.behind⟩

end Honest

namespace Symbolic

/-- Alice sends messages on her first chain only. -/
def aliceCalls (count : Nat) : List (RatchetCall FreeTerm) :=
  List.replicate count (.encrypt associatedData (some [.byte 5]))

/-- Alice stands at a position of her first chain and has emitted every message before it. -/
structure Writing (position : Nat) (log : SenderLog FreeTerm) : Prop where
  sized : log.ratchet.Sized symbolicSuite
  rootSequence : log.ratchet.rootSequence = 1
  sender : log.ratchet.senderChain = some ⟨firstPayload.ratchetKey, (keyPair 2).publicKey,
    some (symbolicSuite.chainKeyAt longChain position)⟩
  total : log.ratchet.sendingMessageSequence = UInt32.ofNat position
  emitted : ∀ place < position, ∃ emission ∈ log.emitted, emission.payload = longPayload place

/-- One more encryption emits the next message. -/
theorem Writing.next {position : Nat} {log : SenderLog FreeTerm} (writing : Writing position log) :
    Writing (position + 1)
      (logCall symbolicSuite log (.encrypt associatedData (some [.byte 5]))) := by
  have full : symbolicSuite.FullKey (symbolicSuite.advance^[position] longChain) :=
    writing.sized.sender _ writing.sender _ rfl
  have validSender : isValidSenderChain log.ratchet.senderChain = true := by
    rw [writing.sender, isValidSenderChain_iff]
    exact ⟨_, rfl, (by decide +kernel : firstPayload.ratchetKey ≠ []),
      (by decide : (keyPair 2).publicKey ≠ []),
      (isValidChainKey_iff _).mpr ⟨_, rfl, full.nonempty⟩⟩
  have sealed : symbolicSuite.se.encrypt associatedData
      (symbolicSuite.messageKey (symbolicSuite.chainKeyAt longChain position).sharedKey)
      [.byte 5] = some (longPayload position).ciphertext := by
    simp [symbolicSuite, seSuite, plaintextLimit, longPayload, CipherSuite.chainKeyAt]
  have made := encryptRatchet_full (by decide) writing.sized validSender writing.sender rfl
    associatedData [.byte 5]
  rw [sealed, Option.map_some] at made
  have counted : UInt32.ofNat position + 1 = UInt32.ofNat (position + 1) := by
    rw [UInt32.ofNat_add]
    rfl
  have emits : emittedPayload log.ratchet ⟨firstPayload.ratchetKey, (keyPair 2).publicKey,
      some (symbolicSuite.chainKeyAt longChain position)⟩
      (symbolicSuite.chainKeyAt longChain position) (longPayload position).ciphertext =
        longPayload position := by
    rw [emittedPayload, writing.total, writing.rootSequence, counted]
    rfl
  have moved : (logCall symbolicSuite log (.encrypt associatedData (some [.byte 5]))).ratchet =
      sentRatchet symbolicSuite log.ratchet ⟨firstPayload.ratchetKey, (keyPair 2).publicKey,
        some (symbolicSuite.chainKeyAt longChain position)⟩
        (symbolicSuite.chainKeyAt longChain position) := by
    simp only [logCall, made]
  constructor
  case sized =>
    rw [moved]
    exact sentRatchet_sized writing.sized _ _
  case rootSequence =>
    rw [moved]
    exact writing.rootSequence
  case sender =>
    rw [moved, ← chainKeyAt_moved longChain position 1]
    rfl
  case total =>
    rw [moved, ← counted, ← writing.total]
    rfl
  case emitted =>
    intro place before
    simp only [logCall, made]
    obtain rfl | earlier := Nat.eq_or_lt_of_le (Nat.le_of_lt_succ before)
    · exact ⟨_, List.mem_append_right _ (List.mem_singleton.mpr rfl), emits⟩
    · obtain ⟨emission, member, same⟩ := writing.emitted place earlier
      exact ⟨emission, List.mem_append_left _ member, same⟩

/-- Alice emits the messages of her first chain one after the other. -/
theorem runLog_aliceCalls (count : Nat) :
    Writing count (runLog symbolicSuite alice (aliceCalls count)) := by
  induction count with
  | zero =>
      refine ⟨(OnChain.start aliceStart_made).sized, by decide +kernel, by decide +kernel,
        by decide +kernel, ?_⟩
      intro place before
      exact absurd before (Nat.not_lt_zero place)
  | succ count ih =>
      rw [aliceCalls, List.replicate_succ', runLog, Machine.run_append]
      exact ih.next

theorem callCoins_aliceCalls (count : Nat) : callCoins (aliceCalls count) = [] := by
  induction count with
  | zero => rfl
  | succ count ih =>
      rw [aliceCalls, List.replicate_succ]
      exact ih

/-- Alice is an honest peer for every reading of the messages that she has emitted. -/
theorem aliceCalls_honest {count : Nat} {calls : List (RatchetCall FreeTerm)}
    (emitted : ∀ call ∈ calls, ∃ place < count, call = longCall place) :
    HonestPeer symbolicSuite bobStart aliceStart alice (aliceCalls count) calls where
  made := aliceStart_made
  meets := trivial
  fresh := by
    rw [callCoins_aliceCalls]
    exact List.nodup_singleton _
  emitted := by
    intro ad payload coins member
    obtain ⟨place, before, same⟩ := emitted _ member
    obtain ⟨emission, sent, equal⟩ := (runLog_aliceCalls count).emitted place before
    cases same
    exact ⟨emission, sent, by rw [equal]⟩

/-- A message that opens is read successfully. -/
theorem longCall_succeeds {ratchet after : Ratchet FreeTerm} {place : Nat}
    (body : decryptBody symbolicSuite ratchet associatedData (longPayload place) [.byte 6] =
      (some [.byte 5], after)) : Succeeds symbolicSuite ratchet (longCall place) := by
  show (decryptBody symbolicSuite ratchet associatedData (longPayload place) [.byte 6]).1.isSome =
    true
  rw [body]
  rfl

/-- Every reading in order succeeds. -/
theorem longCalls_succeed {position : Nat} (later : 2 ≤ position) :
    Machine.Along (applyCall symbolicSuite) (Succeeds symbolicSuite) bob
      (longCalls (position - 1)) := by
  induction position, later using Nat.le_induction with
  | base => exact ⟨(by decide +kernel : (decryptRatchet symbolicSuite bob associatedData
      (longPayload 1) [.byte 6]).1.isSome = true), trivial⟩
  | succ position later ih =>
      obtain ⟨count, rfl⟩ := Nat.exists_eq_add_of_le' (Nat.le_of_succ_le later)
      have body := (runReceiver_longCalls later).body
      rw [runReceiver_ratchet] at body
      rw [Nat.add_sub_cancel, longCalls_succ, Machine.along_append]
      exact ⟨ih, longCall_succeeds body, trivial⟩

theorem longCalls_mem {count : Nat} {call : RatchetCall FreeTerm} (member : call ∈ longCalls count) :
    ∃ place < count + 1, call = longCall place := by
  obtain ⟨place, inside, same⟩ := List.mem_map.mp member
  rw [List.mem_range'_1] at inside
  exact ⟨place, by omega, same.symm⟩

end Symbolic

/-- Bob reads the second message of Alice, and the key of the first one is stored. -/
theorem longCall_list_invariant :
    let ratchet := runCalls symbolicSuite Symbolic.bob (Symbolic.longCalls 1)
    ratchet.skipped.length = 1 ∧ isValidRatchet ratchet = true ∧
      (ratchet.skipped.map SkippedMsgKeyNode.name).Nodup := by
  intro ratchet
  have honest : HonestPeer symbolicSuite Symbolic.bobStart Symbolic.aliceStart Symbolic.alice
      (Symbolic.aliceCalls 2) (Symbolic.longCalls 1) :=
    Symbolic.aliceCalls_honest fun call member => Symbolic.longCalls_mem member
  have invariant := skippedMsgKeyList_invariant Symbolic.bobStart_made
    (Symbolic.longCalls_succeed (Nat.le_refl 2)) honest
  refine ⟨by decide +kernel, invariant.1, (invariant.2.2.2.2 ⟨⟨?_, ?_, ?_⟩, trivial⟩).1⟩
  · decide +kernel
  · decide +kernel
  · intro _ key member
    cases member

namespace Symbolic

/-- When the index of the chain starts again, a gap of one message stores the first name again. -/
theorem Reading.repeats {position : Nat} {log : ReceiverLog FreeTerm}
    (reading : Reading position log) (zero : UInt32.ofNat position = 0) :
    ∃ after, decryptBody symbolicSuite log.ratchet associatedData (longPayload (position + 1))
        [.byte 6] = (some [.byte 5], after) ∧
      after.skipped.map SkippedMsgKeyNode.name =
        [(firstPayload.ratchetKey, 0), (firstPayload.ratchetKey, 0)] := by
  have one : (longPayload (position + 1)).sequence = 1 := by
    show UInt32.ofNat (position + 1) = 1
    rw [UInt32.ofNat_add, zero]
    rfl
  have reached : ¬ (longPayload (position + 1)).sequence < UInt32.ofNat position := by
    rw [one, zero]
    decide
  have near : (longPayload (position + 1)).sequence.toNat - (UInt32.ofNat position).toNat ≤
      maxSkippedMessageKeyNodes := by
    rw [one, zero]
    decide
  have here : messagePosition position (longPayload (position + 1)) = position + 1 := by
    rw [messagePosition_eq (zero.symm ▸ UInt32.not_lt_zero), one, zero]
    rfl
  refine ⟨_, reading.reads reached near here, ?_⟩
  rw [readRatchet_skipped, List.map_append, one, Ratchet.skipped, reading.skipped]
  show [(firstPayload.ratchetKey, 0)] ++ (skippedNodes symbolicSuite firstPayload.ratchetKey
    (UInt32.ofNat position) (symbolicSuite.advance^[position] longChain)
    (UInt32.toNat 1 - (UInt32.ofNat position).toNat)).map SkippedMsgKeyNode.name = _
  rw [zero]
  rfl

/-- When the index of the chain starts again, the first stored key is not behind it, and the next
skipped key gets the same name. -/
theorem longCalls_repeat {position : Nat} (later : 2 ≤ position)
    (zero : UInt32.ofNat position = 0) :
    let calls := longCalls (position - 1)
    let ratchet := runCalls symbolicSuite bob calls
    let next := runCalls symbolicSuite bob (calls ++ [longCall (position + 1)])
    Machine.Along (applyCall symbolicSuite) (Succeeds symbolicSuite) bob
        (calls ++ [longCall (position + 1)]) ∧
      HonestPeer symbolicSuite bobStart aliceStart alice (aliceCalls (position + 2))
        (calls ++ [longCall (position + 1)]) ∧
      (∃ node ∈ ratchet.skipped, ∃ chain ∈ ratchet.receiverChain, ∃ key ∈ chain.chainKey,
        node.ratchetKeyPublic = chain.theirRatchetPublicKey ∧
          ¬ node.msgKey.index < key.index) ∧
      ¬ (next.skipped.map SkippedMsgKeyNode.name).Nodup := by
  intro calls ratchet next
  have reading : Reading position (runReceiver symbolicSuite bob calls) :=
    runReceiver_longCalls later
  have same : (runReceiver symbolicSuite bob calls).ratchet = ratchet :=
    runReceiver_ratchet bob calls
  have skipped := reading.skipped
  have receiver := reading.receiver
  obtain ⟨after, body, names⟩ := reading.repeats zero
  rw [same] at body skipped receiver
  have moved : next = (decryptRatchet symbolicSuite ratchet associatedData
      (longPayload (position + 1)) [.byte 6]).2 := by
    show Machine.run (applyCall symbolicSuite) bob (calls ++ [longCall (position + 1)]) = _
    rw [Machine.run_append]
    rfl
  refine ⟨?_, ?_, ?_, ?_⟩
  · rw [Machine.along_append]
    exact ⟨longCalls_succeed later, longCall_succeeds body, trivial⟩
  · apply aliceCalls_honest
    intro call member
    obtain old | new := List.mem_append.mp member
    · obtain ⟨place, before, equal⟩ := longCalls_mem old
      exact ⟨place, by omega, equal⟩
    · exact ⟨position + 1, by omega, List.mem_singleton.mp new⟩
  · refine ⟨⟨firstPayload.ratchetKey, ⟨UInt32.ofNat 0, symbolicSuite.messageKey longChain⟩⟩, ?_,
      _, receiver, _, rfl, rfl, ?_⟩
    · rw [Ratchet.skipped, skipped]
      exact List.mem_singleton.mpr rfl
    · show ¬ UInt32.ofNat 0 < UInt32.ofNat position
      rw [zero]
      decide
  · have two : after.skipped.length = 2 := by
      rw [← List.length_map SkippedMsgKeyNode.name, names]
      rfl
    have short : after.skipped.length ≤ maxSkippedMessageKeyNodes := by
      rw [two]
      decide
    rw [moved, decryptRatchet, body]
    show ¬ ((closeDecrypt after (longPayload (position + 1))).skipped.map
      SkippedMsgKeyNode.name).Nodup
    rw [closeDecrypt_short _ short]
    show ¬ (after.skipped.map SkippedMsgKeyNode.name).Nodup
    rw [names, List.nodup_cons]
    exact fun distinct => distinct.1 List.mem_cons_self

end Symbolic

/-- After 2^32 messages in order the first stored key is not behind the index of its chain, and one
more skipped message stores the same name again. -/
theorem longCalls_list_invariant :
    symbolicSuite.se.Ideal ∧
      let calls := Symbolic.longCalls (2 ^ 32 - 1)
      let ratchet := runCalls symbolicSuite Symbolic.bob calls
      let next := runCalls symbolicSuite Symbolic.bob (calls ++ [Symbolic.longCall (2 ^ 32 + 1)])
      Machine.Along (applyCall symbolicSuite) (Succeeds symbolicSuite) Symbolic.bob
          (calls ++ [Symbolic.longCall (2 ^ 32 + 1)]) ∧
        HonestPeer symbolicSuite Symbolic.bobStart Symbolic.aliceStart Symbolic.alice
          (Symbolic.aliceCalls (2 ^ 32 + 2)) (calls ++ [Symbolic.longCall (2 ^ 32 + 1)]) ∧
        (∃ node ∈ ratchet.skipped, ∃ chain ∈ ratchet.receiverChain, ∃ key ∈ chain.chainKey,
          node.ratchetKeyPublic = chain.theirRatchetPublicKey ∧
            ¬ node.msgKey.index < key.index) ∧
        ¬ (next.skipped.map SkippedMsgKeyNode.name).Nodup :=
  ⟨symbolicSuite_ideal, Symbolic.longCalls_repeat (by decide) (by decide)⟩

end E2eeSecurity
