/-
This file follows the list of skipped message keys through the runs of one ratchet.
-/
import E2eeSecurity.Ratchet.Commit

namespace E2eeSecurity

variable {β : Type} {cipherSuite : CipherSuite β}

/-- The next keys of the receiver chain are given with their tag. -/
def nextNodes (cipherSuite : CipherSuite β) (ratchet : Ratchet β) (count : Nat) :
    List (SkippedMsgKeyNode β) :=
  match ratchet.receiverChain with
  | some receiverChain =>
      match receiverChain.chainKey with
      | some chainKey => skippedNodes cipherSuite receiverChain.theirRatchetPublicKey
          chainKey.index chainKey.sharedKey count
      | none => []
  | none => []

/-- This is the number of messages before a message that the receiver chain has not passed. -/
def currentSkippedNum (ratchet : Ratchet β) (payload : One2oneMsgPayload β) : Nat :=
  match receiverKey ratchet with
  | some chainKey => payload.sequence.toNat - chainKey.index.toNat
  | none => 0

/-- These are the keys that a message skips, on the current chain or on a new one. -/
def newlySkipped (cipherSuite : CipherSuite β) (ratchet : Ratchet β)
    (payload : One2oneMsgPayload β) (coins : Bytes β) (current : Bool) :
    List (SkippedMsgKeyNode β) :=
  if current then nextNodes cipherSuite ratchet (currentSkippedNum ratchet payload)
  else
    let committed := committedChains cipherSuite ratchet payload coins
    nextNodes cipherSuite ratchet (previousSkippedNum ratchet payload) ++
      nextNodes cipherSuite committed (currentSkippedNum committed payload)

/-- Only the last keys are kept when there are too many. -/
def lastKeys (list : List (SkippedMsgKeyNode β)) : List (SkippedMsgKeyNode β) :=
  list.drop (list.length - maxSkippedMessageKeyNodes)

section Validity

variable {ratchet : Ratchet β}

theorem skippedNodes_valid {ratchetKey : Bytes β} (present : ratchetKey ≠ []) (index : UInt32)
    (key : Bytes β) (count : Nat) :
    ∀ node ∈ skippedNodes cipherSuite ratchetKey index key count,
      isValidSkippedMsgKeyNode node = true := by
  intro node member
  obtain ⟨offset, -, same⟩ := List.mem_map.mp member
  rw [← same, isValidSkippedMsgKeyNode, Bool.and_eq_true, isValidProtobuf_iff, isValidMsgKey,
    isValidProtobuf_iff]
  exact ⟨present, messageKey_nonempty _⟩

theorem skippedNodes_ne_nil (ratchetKey : Bytes β) (index : UInt32) (key : Bytes β) {count : Nat}
    (positive : count ≠ 0) : skippedNodes cipherSuite ratchetKey index key count ≠ [] := by
  intro empty
  have length := congrArg List.length empty
  rw [skippedNodes, List.length_map, List.length_range, List.length_nil] at length
  exact positive length

/-- A pointer is valid when it is null or points to valid keys, at least one of them. -/
theorem isValidSkippedMsgKeyList_iff (pointer : Option (List (SkippedMsgKeyNode β))) :
    isValidSkippedMsgKeyList pointer = true ↔ pointer ≠ some [] ∧
      ∀ node ∈ pointer.getD [], isValidSkippedMsgKeyNode node = true := by
  cases pointer with
  | none => simp [isValidSkippedMsgKeyList]
  | some list => cases list <;> simp [isValidSkippedMsgKeyList]

/-- A ratchet is valid when its root key, its chains and its list are. -/
structure ValidParts (ratchet : Ratchet β) : Prop where
  root : ratchet.rootKey ≠ []
  sender : isValidSenderChain ratchet.senderChain = true
  privateKey : ∃ chain, ratchet.receiverChain = some chain ∧ chain.ourRatchetPrivateKey ≠ []
  receiver : ratchet.rootSequence > 0 → isValidReceiverChain ratchet.receiverChain = true
  list : isValidSkippedMsgKeyList ratchet.skippedMsgKeyList = true

theorem isValidRatchet_iff (ratchet : Ratchet β) :
    isValidRatchet ratchet = true ↔ ValidParts ratchet := by
  constructor
  · intro valid
    obtain ⟨-, -, chain, present, ours⟩ := isValidRatchet_parts valid
    simp only [isValidRatchet, Bool.and_eq_true, isValidProtobuf_iff] at valid
    obtain ⟨⟨⟨root, sender⟩, receiver⟩, list⟩ := valid
    refine ⟨root, sender, ⟨chain, present, ours⟩, ?_, list⟩
    intro later
    rw [if_pos later] at receiver
    exact receiver
  · intro valid
    obtain ⟨chain, present, ours⟩ := valid.privateKey
    simp only [isValidRatchet, Bool.and_eq_true, isValidProtobuf_iff]
    refine ⟨⟨⟨valid.root, valid.sender⟩, ?_⟩, valid.list⟩
    split
    · exact valid.receiver (by assumption)
    · rw [present]
      exact (isValidProtobuf_iff _).mpr ours

/-- Keys behind a valid list make a valid list. -/
theorem isValidSkippedMsgKeyList_append
    (valid : isValidSkippedMsgKeyList ratchet.skippedMsgKeyList = true)
    {nodes : List (SkippedMsgKeyNode β)} (present : nodes ≠ [])
    (new : ∀ node ∈ nodes, isValidSkippedMsgKeyNode node = true) :
    isValidSkippedMsgKeyList (some (ratchet.skipped ++ nodes)) = true := by
  rw [isValidSkippedMsgKeyList_iff] at valid ⊢
  constructor
  · intro empty
    rw [Option.some.injEq, List.append_eq_nil_iff] at empty
    exact present empty.2
  · intro node member
    obtain old | later := List.mem_append.mp member
    · exact valid.2 node old
    · exact new node later

/-- A part of a valid list is a valid list behind the pointer that is null when it is empty. -/
theorem isValidSkippedMsgKeyList_sublist
    (valid : isValidSkippedMsgKeyList ratchet.skippedMsgKeyList = true)
    {list : List (SkippedMsgKeyNode β)} (part : list.Sublist ratchet.skipped) :
    isValidSkippedMsgKeyList (skippedPointer list) = true := by
  rw [isValidSkippedMsgKeyList_iff] at valid ⊢
  constructor
  · cases list <;> simp [skippedPointer]
  · intro node member
    rw [skippedPointer_getD] at member
    exact valid.2 node (part.subset member)

/-- An encryption keeps a valid ratchet valid. -/
theorem ValidParts.sent (valid : ValidParts ratchet) {senderChain : SenderChainNode β}
    (sender : ratchet.senderChain = some senderChain) (chainKey : ChainKey β) :
    ValidParts (sentRatchet cipherSuite ratchet senderChain chainKey) where
  root := valid.root
  sender := by
    obtain ⟨chain, present, ours, theirs, -⟩ := (isValidSenderChain_iff _).mp valid.sender
    rw [sender, Option.some.injEq] at present
    subst present
    have full : cipherSuite.FullKey (cipherSuite.advance chainKey.sharedKey) := advance_full _
    rw [sentRatchet, isValidSenderChain_iff]
    exact ⟨_, rfl, ours, theirs, (isValidChainKey_iff _).mpr ⟨_, rfl, full.nonempty⟩⟩
  privateKey := valid.privateKey
  receiver := valid.receiver
  list := valid.list

/-- A used key leaves a valid list, which is null when it is empty. -/
theorem ValidParts.remove (valid : ValidParts ratchet) {list : List (SkippedMsgKeyNode β)}
    (part : list.Sublist ratchet.skipped) :
    ValidParts { ratchet with skippedMsgKeyList := skippedPointer list } where
  root := valid.root
  sender := valid.sender
  privateKey := valid.privateKey
  receiver := valid.receiver
  list := isValidSkippedMsgKeyList_sublist valid.list part

/-- A read message leaves a valid receiver chain and a valid list. -/
theorem ValidParts.read (valid : ValidParts ratchet) {receiverChain : ReceiverChainNode β}
    (receiver : ratchet.receiverChain = some receiverChain)
    (tagged : receiverChain.theirRatchetPublicKey ≠ []) (payload : One2oneMsgPayload β)
    {chainKey : ChainKey β} (full : cipherSuite.FullKey chainKey.sharedKey) :
    ValidParts (readRatchet cipherSuite ratchet payload receiverChain chainKey) := by
  obtain ⟨chain, present, ours⟩ := valid.privateKey
  rw [receiver, Option.some.injEq] at present
  subst present
  constructor
  case root => exact valid.root
  case sender => exact valid.sender
  case privateKey => exact ⟨_, rfl, ours⟩
  case receiver =>
    intro later
    have moved : cipherSuite.FullKey (cipherSuite.advance^[payload.sequence.toNat -
        chainKey.index.toNat + 1] chainKey.sharedKey) := advance_iterate_full full _
    rw [readRatchet, isValidReceiverChain_iff]
    exact ⟨_, rfl, ours, tagged, (isValidChainKey_iff _).mpr ⟨_, rfl, moved.nonempty⟩⟩
  case list =>
    rw [readRatchet]
    dsimp only
    split
    case isTrue => exact valid.list
    case isFalse gap =>
      apply isValidSkippedMsgKeyList_append valid.list
      · exact skippedNodes_ne_nil _ _ _ gap
      · exact skippedNodes_valid tagged _ _ _

/-- The rest of the previous chain leaves a valid list. -/
theorem previousList_valid (valid : ValidParts ratchet) {receiverChain : ReceiverChainNode β}
    (tagged : receiverChain.chainKey ≠ none → receiverChain.theirRatchetPublicKey ≠ [])
    (count : Nat) :
    isValidSkippedMsgKeyList (previousList cipherSuite ratchet receiverChain count) = true := by
  unfold previousList
  split
  case h_1 chainKey present =>
    split
    case isTrue => exact valid.list
    case isFalse positive =>
      apply isValidSkippedMsgKeyList_append valid.list
      · exact skippedNodes_ne_nil _ _ _ positive
      · exact skippedNodes_valid (tagged (by rw [present]; exact Option.some_ne_none _)) _ _ _
  case h_2 => exact valid.list

/-- The end of a call leaves a valid list. -/
theorem ValidParts.close (valid : ValidParts ratchet) (payload : One2oneMsgPayload β) :
    ValidParts (closeDecrypt ratchet payload) := by
  rw [closeDecrypt_eq]
  constructor
  case root => exact valid.root
  case sender => exact valid.sender
  case privateKey => exact valid.privateKey
  case receiver => exact valid.receiver
  case list =>
    dsimp only
    unfold prunedList
    split
    case isTrue => exact valid.list
    case isFalse long =>
      have part := isValidSkippedMsgKeyList_sublist valid.list (List.drop_sublist
        (ratchet.skipped.length - maxSkippedMessageKeyNodes) ratchet.skipped)
      rw [skippedPointer, if_neg] at part
      · exact part
      · rw [List.isEmpty_iff_length_eq_zero, List.length_drop]
        have limit : maxSkippedMessageKeyNodes = 1024 := rfl
        omega

end Validity

/-- Every call that is not refused keeps the ratchet and its list in this form. -/
structure Kept (cipherSuite : CipherSuite β) (ratchet : Ratchet β) : Prop where
  sized : ratchet.Sized cipherSuite
  valid : ValidParts ratchet
  tagged : ∀ chain ∈ ratchet.receiverChain, chain.chainKey ≠ none →
    chain.theirRatchetPublicKey ≠ []
  short : ratchet.skipped.length ≤ maxSkippedMessageKeyNodes

section Keeping

variable {ratchet : Ratchet β} {ad : Bytes β} {payload : One2oneMsgPayload β}
  {coins plaintext : Bytes β}

/-- The commit of new chains keeps the ratchet valid. -/
theorem Kept.commit (kept : Kept cipherSuite ratchet) (coins : Bytes β)
    {receiverChain : ReceiverChainNode β} {senderChain : SenderChainNode β}
    (renewal : Renewal cipherSuite ratchet ad payload receiverChain senderChain plaintext) :
    ValidParts (committedRatchet cipherSuite ratchet payload coins receiverChain senderChain) := by
  have suite := renewal.accepted.suite
  have sized : (committedRatchet cipherSuite ratchet payload coins receiverChain
    senderChain).Sized cipherSuite := committedRatchet_sized _ _ _ _ _
  obtain ⟨chain, present, ours⟩ := kept.valid.privateKey
  rw [renewal.receiver, Option.some.injEq] at present
  subst present
  have theirs := ((isValidOne2oneMsgPayload_iff payload).mp renewal.accepted.validPayload).1
  constructor
  case root => exact sized.root.nonempty
  case sender =>
    obtain ⟨chain, found, -, peer, -⟩ := (isValidSenderChain_iff _).mp kept.valid.sender
    rw [renewal.sender, Option.some.injEq] at found
    subst found
    rw [committedRatchet, renewedRatchet, isValidSenderChain_iff]
    exact ⟨_, rfl, encapsulate_nonempty suite _ _, peer, (isValidChainKey_iff _).mpr
      ⟨_, rfl, (nextChain_full _ _).nonempty⟩⟩
  case privateKey => exact ⟨_, rfl, ours⟩
  case receiver =>
    intro later
    rw [committedRatchet, renewedRatchet, isValidReceiverChain_iff]
    exact ⟨_, rfl, ours, theirs, (isValidChainKey_iff _).mpr
      ⟨_, rfl, (nextChain_full _ _).nonempty⟩⟩
  case list => exact previousList_valid kept.valid (kept.tagged receiverChain renewal.receiver) _

/-- An encryption keeps the form of the ratchet. -/
theorem Kept.encrypt (kept : Kept cipherSuite ratchet) (ad : Bytes β)
    (plaintext : Option (Bytes β)) :
    Kept cipherSuite (encryptRatchet cipherSuite ratchet ad plaintext).2 := by
  obtain refused | ⟨senderChain, chainKey, data, -, sender, -, -, made⟩ :=
    encryptRatchet_cases kept.sized ad plaintext
  · rw [refused]
    exact kept
  · rw [made]
    exact ⟨sentRatchet_sized kept.sized senderChain chainKey, kept.valid.sent sender chainKey,
      kept.tagged, kept.short⟩

/-- Both initialisers make a ratchet of this form. -/
theorem Kept.start {start : RatchetStart β} (made : start.initialise cipherSuite = some ratchet) :
    Kept cipherSuite ratchet := by
  have sized := (OnChain.start made).sized
  cases start with
  | bob sharedSecret ourRatchetKey theirRatchetKey coins =>
      obtain ⟨suite, ours, theirs, rfl⟩ := initialiseAsBob_some made
      refine ⟨sized, ⟨sized.root.nonempty, ?_, ⟨_, rfl, ours⟩, ?_, rfl⟩, ?_, Nat.zero_le _⟩
      · rw [isValidSenderChain_iff]
        exact ⟨_, rfl, encapsulate_nonempty suite _ _, theirs, (isValidChainKey_iff _).mpr
          ⟨_, rfl, (initialChain_full _).nonempty⟩⟩
      · intro later
        cases later
      · intro chain member missing
        cases member
        exact absurd rfl missing
  | alice sharedSecret ourRatchetKey theirRatchetKey theirEncapsCiphertext coins =>
      obtain ⟨suite, ours, theirs, theirCiphertext, rfl, theirPresent, rfl⟩ :=
        initialiseAsAlice_some made
      refine ⟨sized, ⟨sized.root.nonempty, ?_, ⟨_, rfl, ours⟩, ?_, rfl⟩, ?_, Nat.zero_le _⟩
      · rw [isValidSenderChain_iff]
        exact ⟨_, rfl, encapsulate_nonempty suite _ _, theirs, (isValidChainKey_iff _).mpr
          ⟨_, rfl, (nextChain_full _ _).nonempty⟩⟩
      · intro later
        rw [isValidReceiverChain_iff]
        exact ⟨_, rfl, ours, theirPresent, (isValidChainKey_iff _).mpr
          ⟨_, rfl, (initialChain_full _).nonempty⟩⟩
      · intro chain member missing
        cases member
        exact theirPresent

variable [DecidableEq β]

/-- A decryption either succeeds or does not count. -/
def Succeeds (cipherSuite : CipherSuite β) (ratchet : Ratchet β) : RatchetCall β → Prop
  | .encrypt _ _ => True
  | .decrypt ad payload coins =>
      (decryptRatchet cipherSuite ratchet ad payload coins).1.isSome = true

/-- A successful decryption keeps the ratchet valid up to its last two updates. -/
theorem Kept.body (kept : Kept cipherSuite ratchet)
    (success : (decryptBody cipherSuite ratchet ad payload coins).1.isSome = true) :
    let after := (decryptBody cipherSuite ratchet ad payload coins).2
    ValidParts after ∧ ∀ chain ∈ after.receiverChain, chain.chainKey ≠ none →
      chain.theirRatchetPublicKey ≠ [] := by
  intro after
  have outcome : Outcome cipherSuite ratchet ad payload coins _ after :=
    decryptBody_outcome kept.sized coins
  generalize (decryptBody cipherSuite ratchet ad payload coins).1 = result at outcome success
  generalize after = final at outcome
  cases outcome with
  | refused => cases success
  | allocated => cases success
  | overrun => cases success
  | skipped accepted older before node behind plaintext found split =>
      refine ⟨kept.valid.remove ?_, kept.tagged⟩
      rw [split]
      exact List.Sublist.append_left (List.sublist_cons_self _ _) _
  | existing accepted current older receiverChain chainKey plaintext receiver sameKey present =>
      have full := kept.sized.receiver receiverChain receiver chainKey present
      have tagged := kept.tagged receiverChain receiver (by
        rw [present]
        exact Option.some_ne_none _)
      refine ⟨kept.valid.read receiver tagged payload full, ?_⟩
      intro chain member _
      rw [readRatchet, Option.mem_some_iff] at member
      rw [← member]
      exact tagged
  | renewed receiverChain senderChain plaintext renewal =>
      have theirs := ((isValidOne2oneMsgPayload_iff payload).mp renewal.accepted.validPayload).1
      refine ⟨(kept.commit coins renewal).read rfl theirs payload (nextChain_full _ _), ?_⟩
      intro chain member _
      rw [startedRatchet, readRatchet, Option.mem_some_iff] at member
      rw [← member]
      exact theirs

/-- A call that succeeds keeps the form of the ratchet. -/
theorem Kept.call (kept : Kept cipherSuite ratchet) {call : RatchetCall β}
    (success : Succeeds cipherSuite ratchet call) :
    Kept cipherSuite (applyCall cipherSuite ratchet call) := by
  cases call with
  | encrypt ad plaintext => exact kept.encrypt ad plaintext
  | decrypt ad payload coins =>
      obtain ⟨valid, tagged⟩ := kept.body success
      refine ⟨(decryptRatchet_frame kept.sized ad payload coins).sized, valid.close payload, ?_,
        closeDecrypt_skipped_le _ payload⟩
      have chains : (applyCall cipherSuite ratchet (.decrypt ad payload coins)).receiverChain =
          (decryptBody cipherSuite ratchet ad payload coins).2.receiverChain := by
        rw [applyCall, decryptRatchet, closeDecrypt_eq]
      rw [chains]
      exact tagged

end Keeping

/-- An encryption keeps the list. A decryption with a stored key takes that entry out. Any other
decryption stores the keys that it skipped behind the list and keeps the last ones. -/
def UpdatesList [DecidableEq β] (cipherSuite : CipherSuite β) (ratchet : Ratchet β) :
    RatchetCall β → Prop
  | .encrypt ad plaintext =>
      (encryptRatchet cipherSuite ratchet ad plaintext).2.skippedMsgKeyList =
        ratchet.skippedMsgKeyList
  | .decrypt ad payload coins =>
      let result := decryptRatchet cipherSuite ratchet ad payload coins
      ∃ route plaintext, decryptRoute cipherSuite ratchet ad payload = some route ∧
        result.1 = some plaintext ∧
        if route.skipped then ∃ before node rest, ratchet.skipped = before ++ node :: rest ∧
          result.2.skipped = before ++ rest ∧ NamesNode cipherSuite payload node ∧
          verifyAndDecrypt cipherSuite ad node.msgKey payload = some plaintext
        else result.2.skipped = lastKeys (ratchet.skipped ++
          newlySkipped cipherSuite ratchet payload coins route.current)

section Updating

variable {ratchet : Ratchet β} {ad : Bytes β} {payload : One2oneMsgPayload β}
  {coins plaintext : Bytes β}

theorem nextNodes_present {receiverChain : ReceiverChainNode β} {chainKey : ChainKey β}
    (receiver : ratchet.receiverChain = some receiverChain)
    (present : receiverChain.chainKey = some chainKey) (count : Nat) :
    nextNodes cipherSuite ratchet count = skippedNodes cipherSuite
      receiverChain.theirRatchetPublicKey chainKey.index chainKey.sharedKey count := by
  simp only [nextNodes, receiver, present]

theorem currentSkippedNum_present {receiverChain : ReceiverChainNode β} {chainKey : ChainKey β}
    (receiver : ratchet.receiverChain = some receiverChain)
    (present : receiverChain.chainKey = some chainKey) :
    currentSkippedNum ratchet payload = payload.sequence.toNat - chainKey.index.toNat := by
  simp only [currentSkippedNum, receiverKey, receiver, Option.bind_some, present]

/-- The commit stores the announced keys of the previous chain behind the list. -/
theorem committedRatchet_skipped (coins : Bytes β) {receiverChain : ReceiverChainNode β}
    {senderChain : SenderChainNode β}
    (renewal : Renewal cipherSuite ratchet ad payload receiverChain senderChain plaintext) :
    (committedRatchet cipherSuite ratchet payload coins receiverChain senderChain).skipped =
      ratchet.skipped ++ nextNodes cipherSuite ratchet (previousSkippedNum ratchet payload) := by
  show (previousList cipherSuite ratchet receiverChain _).getD [] = _
  cases present : receiverChain.chainKey with
  | some chainKey =>
      rw [previousList_skipped ratchet present, nextNodes_present renewal.receiver present]
  | none => simp [previousList, nextNodes, renewal.receiver, present, Ratchet.skipped]

variable [DecidableEq β]

/-- A call that succeeds updates the list as described. -/
theorem Kept.updates (kept : Kept cipherSuite ratchet) {call : RatchetCall β}
    (success : Succeeds cipherSuite ratchet call) : UpdatesList cipherSuite ratchet call := by
  cases call with
  | encrypt ad plaintext => exact (encryptRatchet_keeps ratchet ad plaintext).2.1
  | decrypt ad payload coins =>
      obtain ⟨plaintext, opened⟩ := Option.isSome_iff_exists.mp success
      have body : (decryptBody cipherSuite ratchet ad payload coins).1 = some plaintext := opened
      cases selected : decryptRoute cipherSuite ratchet ad payload with
      | none =>
          rw [decryptBody, selected] at body
          cases body
      | some route =>
          refine ⟨route, plaintext, selected, opened, ?_⟩
          have closed : (decryptRatchet cipherSuite ratchet ad payload coins).2.skipped =
              lastKeys (decryptBody cipherSuite ratchet ad payload coins).2.skipped :=
            closeDecrypt_skipped _ payload
          rw [closed]
          obtain ⟨current, skipped⟩ := route
          cases skipped with
          | true =>
              obtain ⟨rest, found, after⟩ := decryptBody_skipped selected body
              obtain ⟨before, node, behind, split, joined, named, trial⟩ :=
                useSkippedKey_entry found
              rw [after, if_pos rfl]
              refine ⟨before, node, behind, split, ?_, named, trial⟩
              have short := kept.short
              rw [split, List.length_append, List.length_cons] at short
              have fits : (before ++ behind).length - maxSkippedMessageKeyNodes = 0 := by
                rw [List.length_append]
                omega
              rw [Ratchet.skipped, skippedPointer_getD, joined, lastKeys, fits, List.drop_zero]
          | false =>
              rw [if_neg Bool.false_ne_true]
              congr 1
              cases current with
              | true =>
                  obtain ⟨receiverChain, chainKey, -, receiver, -, present, -, -, after⟩ :=
                    decryptBody_current kept.sized selected body
                  rw [after, readRatchet_skipped, newlySkipped, if_pos rfl,
                    currentSkippedNum_present receiver present, nextNodes_present receiver present]
              | false =>
                  obtain ⟨receiverChain, senderChain, renewal, after⟩ :=
                    decryptBody_renewed kept.sized selected body
                  rw [after, startedRatchet, readRatchet_skipped,
                    committedRatchet_skipped coins renewal, List.append_assoc, newlySkipped,
                    if_neg Bool.false_ne_true, (committedChains_renewal kept.sized coins renewal).1]
                  rfl

end Updating

end E2eeSecurity
