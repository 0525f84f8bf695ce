/-
This file follows one ratchet through its calls with a ledger of one-time keys.
-/
import E2eeSecurity.Library.HashChain
import E2eeSecurity.Library.KeyLedger
import E2eeSecurity.Ratchet.Outcome

namespace E2eeSecurity

variable {β : Type} {cipherSuite : CipherSuite β}

/-- These are the ways in which the ratchet derives a key. -/
inductive Derivation (β : Type)
  | initialRoot (sharedSecret : Bytes β)
  | initialChain (sharedSecret : Bytes β)
  | nextRoot (rootKey secret : Bytes β)
  | nextChain (rootKey secret : Bytes β)
  | advance (key : Bytes β)
  | messageKey (key : Bytes β)

def CipherSuite.initialRoot (cipherSuite : CipherSuite β) (sharedSecret : Bytes β) : Bytes β :=
  (cipherSuite.initialSecrets sharedSecret).take cipherSuite.hf.hfLen

def CipherSuite.initialChain (cipherSuite : CipherSuite β) (sharedSecret : Bytes β) : Bytes β :=
  (cipherSuite.initialSecrets sharedSecret).drop cipherSuite.hf.hfLen

def CipherSuite.derive (cipherSuite : CipherSuite β) : Derivation β → Bytes β
  | .initialRoot sharedSecret => cipherSuite.initialRoot sharedSecret
  | .initialChain sharedSecret => cipherSuite.initialChain sharedSecret
  | .nextRoot rootKey secret => cipherSuite.nextRoot rootKey secret
  | .nextChain rootKey secret => cipherSuite.nextChain rootKey secret
  | .advance key => cipherSuite.advance key
  | .messageKey key => cipherSuite.messageKey key

/-- Key derivation has no collisions. -/
def CipherSuite.FreeKeys (cipherSuite : CipherSuite β) : Prop :=
  Function.Injective cipherSuite.derive

/-- This is the root key after a list of root steps. -/
def CipherSuite.rootAt (cipherSuite : CipherSuite β) (sharedSecret : Bytes β)
    (secrets : List (Bytes β)) : Bytes β :=
  secrets.foldl cipherSuite.nextRoot (cipherSuite.initialRoot sharedSecret)

/-- A chain starts at the shared secret or at a root key that was already replaced. -/
def CipherSuite.origins (cipherSuite : CipherSuite β) (sharedSecret : Bytes β)
    (secrets : List (Bytes β)) : Set (Bytes β) :=
  {origin | origin = cipherSuite.initialChain sharedSecret ∨
    ∃ earlier, earlier <+: secrets ∧ earlier ≠ secrets ∧ ∃ secret,
      origin = cipherSuite.nextChain (cipherSuite.rootAt sharedSecret earlier) secret}

/-- This is the message key at a place of the ledger. -/
def CipherSuite.keyAt (cipherSuite : CipherSuite β) (place : Bytes β × Nat) : Bytes β :=
  cipherSuite.messageKey (cipherSuite.advance^[place.2] place.1)

section Freeness

variable {sharedSecret : Bytes β}

theorem rootAt_append (secrets : List (Bytes β)) (secret : Bytes β) :
    cipherSuite.rootAt sharedSecret (secrets ++ [secret]) =
      cipherSuite.nextRoot (cipherSuite.rootAt sharedSecret secrets) secret := by
  simp [CipherSuite.rootAt]

theorem initialRoot_full (sharedSecret : Bytes β) :
    cipherSuite.FullKey (cipherSuite.initialRoot sharedSecret) := by
  simp only [CipherSuite.FullKey, CipherSuite.initialRoot, CipherSuite.initialSecrets,
    List.length_take, cipherSuite.hf.hkdfLength]
  omega

theorem initialChain_full (sharedSecret : Bytes β) :
    cipherSuite.FullKey (cipherSuite.initialChain sharedSecret) := by
  simp only [CipherSuite.FullKey, CipherSuite.initialChain, CipherSuite.initialSecrets,
    List.length_drop, cipherSuite.hf.hkdfLength]
  omega

theorem rootAt_full (sharedSecret : Bytes β) (secrets : List (Bytes β)) :
    cipherSuite.FullKey (cipherSuite.rootAt sharedSecret secrets) := by
  rcases List.eq_nil_or_concat secrets with rfl | ⟨rest, last, rfl⟩
  · exact initialRoot_full sharedSecret
  · rw [List.concat_eq_append, rootAt_append]
    exact nextRoot_full _ _

theorem origins_full {secrets : List (Bytes β)} {origin : Bytes β}
    (member : origin ∈ cipherSuite.origins sharedSecret secrets) :
    cipherSuite.FullKey origin := by
  rcases member with rfl | ⟨earlier, -, -, secret, rfl⟩
  · exact initialChain_full sharedSecret
  · exact nextChain_full _ _

theorem origins_mono (secrets more : List (Bytes β)) :
    cipherSuite.origins sharedSecret secrets ⊆
      cipherSuite.origins sharedSecret (secrets ++ more) := by
  rintro origin (rfl | ⟨earlier, before, different, secret, rfl⟩)
  · exact Or.inl rfl
  · refine Or.inr ⟨earlier, before.trans (List.prefix_append _ _), ?_, secret, rfl⟩
    rintro rfl
    exact different (before.eq_of_length_le (List.prefix_append _ _).length_le)

variable (free : cipherSuite.FreeKeys)
include free

theorem nextRoot_inj {first second secret secret' : Bytes β}
    (same : cipherSuite.nextRoot first secret = cipherSuite.nextRoot second secret') :
    first = second ∧ secret = secret' := by
  have equal := @free (.nextRoot first secret) (.nextRoot second secret') same
  simpa using equal

theorem nextChain_inj {first second secret secret' : Bytes β}
    (same : cipherSuite.nextChain first secret = cipherSuite.nextChain second secret') :
    first = second ∧ secret = secret' := by
  have equal := @free (.nextChain first secret) (.nextChain second secret') same
  simpa using equal

theorem messageKey_inj {first second : Bytes β}
    (same : cipherSuite.messageKey first = cipherSuite.messageKey second) : first = second := by
  have equal := @free (.messageKey first) (.messageKey second) same
  simpa using equal

theorem advance_inj : Function.Injective cipherSuite.advance := by
  intro first second same
  have equal := @free (.advance first) (.advance second) same
  simpa using equal

/-- An advanced key is not the start of a chain. -/
theorem advance_not_origin (secrets : List (Bytes β)) (key : Bytes β) :
    cipherSuite.advance key ∉ cipherSuite.origins sharedSecret secrets := by
  rintro (same | ⟨earlier, -, -, secret, same⟩)
  · cases @free (.advance key) (.initialChain sharedSecret) same
  · cases @free (.advance key) (.nextChain _ secret) same

/-- Root keys after different numbers of steps differ, so root keys have no cycles. -/
theorem rootAt_length_inj {first second : List (Bytes β)}
    (same : cipherSuite.rootAt sharedSecret first = cipherSuite.rootAt sharedSecret second) :
    first.length = second.length := by
  refine HashChain.foldl_length_inj (fun _ _ _ _ step => (nextRoot_inj free step).1) ?_ same
  intro key secret step
  cases @free (.nextRoot key secret) (.initialRoot sharedSecret) step

/-- The chain of the current root key has not been started before. -/
theorem nextChain_fresh (sharedSecret : Bytes β) (secrets : List (Bytes β)) (secret : Bytes β) :
    cipherSuite.nextChain (cipherSuite.rootAt sharedSecret secrets) secret ∉
      cipherSuite.origins sharedSecret secrets := by
  rintro (same | ⟨earlier, before, different, secret', same⟩)
  · cases @free (.nextChain _ secret) (.initialChain sharedSecret) same
  · have lengths := rootAt_length_inj free (nextChain_inj free same).1
    exact different (before.eq_of_length lengths.symm)

/-- A message key determines its place among the known chains. -/
theorem keyAt_inj {secrets : List (Bytes β)} {first second : Bytes β × Nat}
    (firstOrigin : first.1 ∈ cipherSuite.origins sharedSecret secrets)
    (secondOrigin : second.1 ∈ cipherSuite.origins sharedSecret secrets)
    (same : cipherSuite.keyAt first = cipherSuite.keyAt second) : first = second := by
  have chains := messageKey_inj free same
  obtain ⟨origin, distance⟩ := HashChain.iterate_inj (advance_inj free)
    (advance_not_origin free secrets) firstOrigin secondOrigin chains
  exact Prod.ext origin distance

end Freeness

/-- The history of a ratchet is the list of its root steps and the ledger of its keys. -/
structure KeyHistory (β : Type) where
  secrets : List (Bytes β)
  ledger : KeyLedger (Bytes β)

/-- A history grows by root steps and used keys. -/
def KeyHistory.Grows (history next : KeyHistory β) : Prop :=
  history.secrets <+: next.secrets ∧ history.ledger.used ⊆ next.ledger.used

theorem KeyHistory.Grows.refl (history : KeyHistory β) : history.Grows history :=
  ⟨List.prefix_rfl, List.Subset.refl _⟩

theorem KeyHistory.Grows.trans {first second third : KeyHistory β} (before : first.Grows second)
    (after : second.Grows third) : first.Grows third :=
  ⟨before.1.trans after.1, List.Subset.trans before.2 after.2⟩

/-- The keys of the ratchet are the keys at the places of the ledger. -/
structure Tracks (cipherSuite : CipherSuite β) (sharedSecret : Bytes β) (ratchet : Ratchet β)
    (history : KeyHistory β) : Prop where
  root : ratchet.rootKey = cipherSuite.rootAt sharedSecret history.secrets
  sender : ∀ chain ∈ ratchet.senderChain, ∀ key ∈ chain.chainKey, key.sharedKey =
    cipherSuite.advance^[history.ledger.sending.2] history.ledger.sending.1
  receiver : ∀ chain ∈ ratchet.receiverChain, ∀ key ∈ chain.chainKey,
    ∃ place, history.ledger.receiving = some place ∧
      key.sharedKey = cipherSuite.advance^[place.2] place.1
  stored : ratchet.skipped.map (fun node => node.msgKey.derivedKey) =
    history.ledger.stored.map cipherSuite.keyAt
  within : history.ledger.Within (cipherSuite.origins sharedSecret history.secrets)
  sound : history.ledger.Sound

section Simulation

variable {sharedSecret : Bytes β} {ratchet : Ratchet β} {history : KeyHistory β}

theorem Tracks.sized (tracks : Tracks cipherSuite sharedSecret ratchet history) :
    ratchet.Sized cipherSuite where
  root := by
    rw [tracks.root]
    exact rootAt_full _ _
  sender chain member key present := by
    rw [tracks.sender chain member key present]
    exact advance_iterate_full (origins_full tracks.within.sending) _
  receiver chain member key present := by
    obtain ⟨place, current, same⟩ := tracks.receiver chain member key present
    rw [same]
    exact advance_iterate_full (origins_full (tracks.within.receiving place (by simp [current]))) _

/-- The counters and the list pointer do not matter to the history. -/
theorem Tracks.congr (tracks : Tracks cipherSuite sharedSecret ratchet history)
    {other : Ratchet β} (root : other.rootKey = ratchet.rootKey)
    (sender : other.senderChain = ratchet.senderChain)
    (receiver : other.receiverChain = ratchet.receiverChain)
    (skipped : other.skipped = ratchet.skipped) :
    Tracks cipherSuite sharedSecret other history where
  root := root.trans tracks.root
  sender := by
    rw [sender]
    exact tracks.sender
  receiver := by
    rw [receiver]
    exact tracks.receiver
  stored := by
    rw [skipped]
    exact tracks.stored
  within := tracks.within
  sound := tracks.sound

/-- An encryption uses the next key of the sending chain. -/
theorem Tracks.send (tracks : Tracks cipherSuite sharedSecret ratchet history)
    {senderChain : SenderChainNode β} {chainKey : ChainKey β}
    (sender : ratchet.senderChain = some senderChain)
    (present : senderChain.chainKey = some chainKey) :
    Tracks cipherSuite sharedSecret (sentRatchet cipherSuite ratchet senderChain chainKey)
      { history with ledger := history.ledger.send } where
  root := tracks.root
  sender := by
    intro chain member key found
    simp only [sentRatchet, Option.mem_some_iff] at member
    subst member
    simp only [Option.mem_some_iff] at found
    subst found
    rw [tracks.sender senderChain (by simp [sender]) chainKey (by simp [present])]
    exact (Function.iterate_succ_apply' cipherSuite.advance _ _).symm
  receiver := tracks.receiver
  stored := tracks.stored
  within := tracks.within.send
  sound := tracks.sound.send

/-- The stored keys of a chain are the keys at consecutive places. -/
theorem skippedNodes_keys (ratchetKey : Bytes β) (index : UInt32) (place : Bytes β × Nat)
    (count : Nat) :
    (skippedNodes cipherSuite ratchetKey index (cipherSuite.advance^[place.2] place.1) count).map
        (fun node => node.msgKey.derivedKey) =
      ((List.range count).map fun offset => (place.1, place.2 + offset)).map
        cipherSuite.keyAt := by
  simp only [skippedNodes, List.map_map]
  apply List.map_congr_left
  intro offset _
  simp only [Function.comp_apply, CipherSuite.keyAt]
  rw [Nat.add_comm, Function.iterate_add_apply]

/-- A message on the current chain stores the gap and uses the key after it. -/
theorem Tracks.read (tracks : Tracks cipherSuite sharedSecret ratchet history)
    (payload : One2oneMsgPayload β) {receiverChain : ReceiverChainNode β} {chainKey : ChainKey β}
    {place : Bytes β × Nat} (current : history.ledger.receiving = some place)
    (same : chainKey.sharedKey = cipherSuite.advance^[place.2] place.1) :
    let gap := payload.sequence.toNat - chainKey.index.toNat
    Tracks cipherSuite sharedSecret
      (readRatchet cipherSuite ratchet payload receiverChain chainKey)
      { history with ledger :=
        (history.ledger.store place gap).read (place.1, place.2 + gap) } := by
  intro gap
  have moved : (history.ledger.store place gap).receiving = some (place.1, place.2 + gap) := rfl
  constructor
  case root => exact tracks.root
  case sender => exact tracks.sender
  case receiver =>
    intro chain member key found
    simp only [readRatchet, Option.mem_some_iff] at member
    subst member
    simp only [Option.mem_some_iff] at found
    subst found
    refine ⟨(place.1, place.2 + gap + 1), rfl, ?_⟩
    have distance : place.2 + gap + 1 = gap + 1 + place.2 := by omega
    have joined : cipherSuite.advance^[place.2 + gap + 1] place.1 =
        cipherSuite.advance^[gap + 1] chainKey.sharedKey := by
      rw [distance, Function.iterate_add_apply, ← same]
    exact joined.symm
  case stored =>
    rw [readRatchet_skipped, List.map_append, tracks.stored, same, skippedNodes_keys]
    simp [KeyLedger.read, KeyLedger.store, gap]
  case within => exact (tracks.within.store current gap).read moved
  case sound => exact (tracks.sound.store current gap).read moved

/-- New chains start at places that the ledger has not known. -/
theorem Tracks.renew (free : cipherSuite.FreeKeys)
    (tracks : Tracks cipherSuite sharedSecret ratchet history) (payload : One2oneMsgPayload β)
    (coins privateKey theirKey : Bytes β) {list : Option (List (SkippedMsgKeyNode β))}
    {ledger : KeyLedger (Bytes β)}
    (stored : (list.getD []).map (fun node => node.msgKey.derivedKey) =
      ledger.stored.map cipherSuite.keyAt)
    (within : ledger.Within (cipherSuite.origins sharedSecret history.secrets))
    (sound : ledger.Sound) :
    let incoming := cipherSuite.kem.decaps privateKey payload.ratchetKey
    let outgoing := (cipherSuite.kem.encapsulate coins theirKey).1
    let received := cipherSuite.nextChain ratchet.rootKey incoming
    Tracks cipherSuite sharedSecret
      (renewedRatchet cipherSuite ratchet payload coins privateKey theirKey list)
      { secrets := history.secrets ++ [incoming] ++ [outgoing]
        ledger := ledger.renew received (cipherSuite.nextChain
          (cipherSuite.nextRoot ratchet.rootKey incoming) outgoing) } := by
  intro incoming outgoing received
  have root := tracks.root
  have middle : cipherSuite.nextRoot ratchet.rootKey incoming =
      cipherSuite.rootAt sharedSecret (history.secrets ++ [incoming]) := by
    rw [rootAt_append, root]
  have receivedOrigin : received ∈ cipherSuite.origins sharedSecret
      (history.secrets ++ [incoming]) :=
    Or.inr ⟨history.secrets, List.prefix_append _ _, by simp, incoming, by rw [← root]⟩
  have sendingFresh := nextChain_fresh free sharedSecret (history.secrets ++ [incoming]) outgoing
  have receivedFresh : received ∉ cipherSuite.origins sharedSecret history.secrets := by
    have fresh := nextChain_fresh free sharedSecret history.secrets incoming
    rw [← root] at fresh
    exact fresh
  constructor
  case root =>
    rw [rootAt_append, rootAt_append, ← root]
    rfl
  case sender =>
    intro chain member key found
    simp only [renewedRatchet, Option.mem_some_iff] at member
    subst member
    simp only [Option.mem_some_iff] at found
    subst found
    rfl
  case receiver =>
    intro chain member key found
    simp only [renewedRatchet, Option.mem_some_iff] at member
    subst member
    simp only [Option.mem_some_iff] at found
    subst found
    exact ⟨(received, 0), rfl, rfl⟩
  case stored => exact stored
  case within =>
    refine KeyLedger.Within.renew ?_ ?_ ?_
    · exact within.mono (Set.Subset.trans (origins_mono _ _) (origins_mono _ _))
    · exact origins_mono _ _ receivedOrigin
    · exact Or.inr ⟨_, List.prefix_append _ _, by simp, outgoing, by rw [middle]⟩
  case sound =>
    rw [middle]
    refine sound.renew within receivedFresh (fun known => sendingFresh (origins_mono _ _ known)) ?_
    intro same
    rw [same] at receivedOrigin
    exact sendingFresh receivedOrigin

/-- Storing the rest of the previous chain does not use a key. -/
theorem Tracks.previous (tracks : Tracks cipherSuite sharedSecret ratchet history)
    {receiverChain : ReceiverChainNode β} (receiver : ratchet.receiverChain = some receiverChain)
    (count : Nat) :
    ∃ ledger : KeyLedger (Bytes β), ledger.used = history.ledger.used ∧
      ((previousList cipherSuite ratchet receiverChain count).getD []).map
        (fun node => node.msgKey.derivedKey) = ledger.stored.map cipherSuite.keyAt ∧
      ledger.Within (cipherSuite.origins sharedSecret history.secrets) ∧ ledger.Sound := by
  cases present : receiverChain.chainKey with
  | none =>
      refine ⟨history.ledger, rfl, ?_, tracks.within, tracks.sound⟩
      simpa only [previousList, present, Ratchet.skipped] using tracks.stored
  | some chainKey =>
      obtain ⟨place, current, same⟩ := tracks.receiver receiverChain (by simp [receiver]) chainKey
        (by simp [present])
      refine ⟨history.ledger.store place count, rfl, ?_, tracks.within.store current count,
        tracks.sound.store current count⟩
      rw [previousList_skipped ratchet present, List.map_append, tracks.stored, same,
        skippedNodes_keys]
      simp [KeyLedger.store]

/-- The updates at the end of a call can only drop stored keys. -/
theorem Tracks.close (tracks : Tracks cipherSuite sharedSecret ratchet history)
    (payload : One2oneMsgPayload β) :
    ∃ ledger : KeyLedger (Bytes β), ledger.used = history.ledger.used ∧
      Tracks cipherSuite sharedSecret (closeDecrypt ratchet payload)
        { history with ledger := ledger } := by
  rw [closeDecrypt_eq]
  by_cases small : ratchet.skipped.length ≤ maxSkippedMessageKeyNodes
  · refine ⟨history.ledger, rfl, tracks.congr rfl rfl rfl ?_⟩
    simp only [prunedList, small, if_true]
    rfl
  · obtain ⟨excess, dropped⟩ : ∃ excess, prunedList ratchet = some (ratchet.skipped.drop excess) :=
      ⟨_, if_neg small⟩
    refine ⟨history.ledger.drop excess, rfl, ?_⟩
    rw [dropped]
    exact {
      root := tracks.root
      sender := tracks.sender
      receiver := tracks.receiver
      stored := by
        have stored := tracks.stored
        simp only [Ratchet.skipped, Option.getD_some, KeyLedger.drop] at stored ⊢
        rw [List.map_drop, List.map_drop, stored]
      within := tracks.within.drop _
      sound := tracks.sound.drop _ }

/-- A stored key that is taken out of the list is used. -/
theorem Tracks.take (tracks : Tracks cipherSuite sharedSecret ratchet history)
    {before after : List (SkippedMsgKeyNode β)} {node : SkippedMsgKeyNode β}
    (split : ratchet.skipped = before ++ node :: after) :
    ∃ front place back, history.ledger.stored = front ++ place :: back ∧
      cipherSuite.keyAt place = node.msgKey.derivedKey ∧
      Tracks cipherSuite sharedSecret
        { ratchet with skippedMsgKeyList := skippedPointer (before ++ after) }
        { history with ledger := history.ledger.take front place back } := by
  have stored := tracks.stored
  rw [split, List.map_append, List.map_cons] at stored
  obtain ⟨front, rest, ledgerSplit, frontSame, restSame⟩ := List.append_eq_map_iff.mp stored
  obtain ⟨place, back, restSplit, placeSame, backSame⟩ := List.map_eq_cons_iff.mp restSame
  subst restSplit
  refine ⟨front, place, back, ledgerSplit, placeSame, ?_⟩
  exact {
    root := tracks.root
    sender := tracks.sender
    receiver := tracks.receiver
    stored := by
      simp only [Ratchet.skipped, skippedPointer_getD, List.map_append, KeyLedger.take, frontSame,
        backSame]
    within := tracks.within.take ledgerSplit
    sound := tracks.sound.take ledgerSplit }

/-- A call that opens a message uses a key that was not used before. -/
structure Opens (cipherSuite : CipherSuite β) (ad : Bytes β) (payload : One2oneMsgPayload β)
    (history next : KeyHistory β) (plaintext : Bytes β) (place : Bytes β × Nat) : Prop where
  unused : place ∉ history.ledger.used
  used : place ∈ next.ledger.used
  opened : cipherSuite.se.decrypt ad (cipherSuite.keyAt place) payload.ciphertext =
    some plaintext

/-- The commit of new chains stores the rest of the previous chain and renews the ledger. -/
theorem Tracks.commit (free : cipherSuite.FreeKeys)
    (tracks : Tracks cipherSuite sharedSecret ratchet history) {ad : Bytes β}
    {payload : One2oneMsgPayload β} (coins : Bytes β) {receiverChain : ReceiverChainNode β}
    {senderChain : SenderChainNode β} {plaintext : Bytes β}
    (renewal : Renewal cipherSuite ratchet ad payload receiverChain senderChain plaintext) :
    let incoming := cipherSuite.kem.decaps receiverChain.ourRatchetPrivateKey payload.ratchetKey
    let outgoing := (cipherSuite.kem.encapsulate coins senderChain.theirRatchetPublicKey).1
    ∃ ledger : KeyLedger (Bytes β), ledger.used = history.ledger.used ∧
      Tracks cipherSuite sharedSecret
        (committedRatchet cipherSuite ratchet payload coins receiverChain senderChain)
        { secrets := history.secrets ++ [incoming] ++ [outgoing]
          ledger := ledger.renew (cipherSuite.nextChain ratchet.rootKey incoming)
            (cipherSuite.nextChain (cipherSuite.nextRoot ratchet.rootKey incoming) outgoing) } ∧
      ledger.Within (cipherSuite.origins sharedSecret history.secrets) := by
  obtain ⟨ledger, sameUsed, stored, within, sound⟩ :=
    tracks.previous renewal.receiver (previousSkippedNum ratchet payload)
  exact ⟨ledger, sameUsed, tracks.renew free payload coins receiverChain.ourRatchetPrivateKey
    senderChain.theirRatchetPublicKey stored within sound, within⟩

theorem secrets_grow (secrets : List (Bytes β)) (first second : Bytes β) :
    secrets <+: secrets ++ [first] ++ [second] := by
  rw [List.append_assoc]
  exact List.prefix_append _ _

variable [DecidableEq β]

/-- Every listed outcome of a call is a move of the ledger. -/
theorem Tracks.outcome (free : cipherSuite.FreeKeys)
    (tracks : Tracks cipherSuite sharedSecret ratchet history) {ad coins : Bytes β}
    {payload : One2oneMsgPayload β} {result : Option (Bytes β)} {after : Ratchet β}
    (outcome : Outcome cipherSuite ratchet ad payload coins result after) :
    ∃ next, Tracks cipherSuite sharedSecret after next ∧ history.Grows next ∧
      ∀ plaintext, result = some plaintext →
        ∃ place, Opens cipherSuite ad payload history next plaintext place := by
  cases outcome with
  | refused => exact ⟨history, tracks, .refl history, by simp⟩
  | allocated first missing =>
      exact ⟨history, tracks.congr rfl rfl rfl (by simp [Ratchet.skipped]), .refl history, by simp⟩
  | skipped accepted older before node after plaintext found split sameIndex opened =>
      obtain ⟨front, place, back, ledgerSplit, placeSame, taken⟩ := tracks.take split
      refine ⟨_, taken, ⟨List.prefix_rfl, List.subset_cons_self _ _⟩, ?_⟩
      intro plaintext' same
      cases same
      refine ⟨place, ?_, List.mem_cons_self, by rw [placeSame]; exact opened⟩
      exact tracks.sound.storedUnused place (by simp [ledgerSplit])
  | existing accepted current older receiverChain chainKey plaintext receiver sameKey present
      reached small opened =>
      obtain ⟨place, receiving, same⟩ := tracks.receiver receiverChain (by simp [receiver]) chainKey
        (by simp [present])
      refine ⟨_, tracks.read payload receiving same, ⟨List.prefix_rfl, ?_⟩, ?_⟩
      · exact List.subset_cons_self _ _
      · intro plaintext' equal
        cases equal
        refine ⟨(place.1, place.2 + (payload.sequence.toNat - chainKey.index.toNat)), ?_,
          List.mem_cons_self, ?_⟩
        · intro used
          have behind := tracks.sound.usedReceiving _ used place (by simp [receiving]) rfl
          dsimp only at behind
          omega
        · rw [CipherSuite.keyAt, Nat.add_comm, Function.iterate_add_apply, ← same]
          exact opened
  | renewed receiverChain senderChain plaintext renewal near =>
      obtain ⟨ledger, sameUsed, committed, within⟩ := tracks.commit free coins renewal
      refine ⟨_, committed.read payload rfl rfl, ⟨secrets_grow _ _ _, ?_⟩, ?_⟩
      · rw [← sameUsed]
        exact List.subset_cons_self _ _
      · intro plaintext' equal
        cases equal
        refine ⟨_, ?_, List.mem_cons_self, ?_⟩
        · rw [← sameUsed]
          intro used
          have fresh := nextChain_fresh free sharedSecret history.secrets
            (cipherSuite.kem.decaps receiverChain.ourRatchetPrivateKey payload.ratchetKey)
          rw [← tracks.root] at fresh
          exact fresh (within.used _ used)
        · simpa [CipherSuite.keyAt] using renewal.opened
  | overrun receiverChain senderChain plaintext renewal far =>
      obtain ⟨ledger, sameUsed, committed, -⟩ := tracks.commit free coins renewal
      refine ⟨_, committed, ⟨secrets_grow _ _ _, ?_⟩, by simp⟩
      rw [← sameUsed]
      exact List.Subset.refl _

/-- A decryption call is a move of the ledger. -/
theorem Tracks.decrypt (free : cipherSuite.FreeKeys)
    (tracks : Tracks cipherSuite sharedSecret ratchet history) (ad : Bytes β)
    (payload : One2oneMsgPayload β) (coins : Bytes β) :
    ∃ next, Tracks cipherSuite sharedSecret
        (decryptRatchet cipherSuite ratchet ad payload coins).2 next ∧ history.Grows next ∧
      ∀ plaintext, (decryptRatchet cipherSuite ratchet ad payload coins).1 = some plaintext →
        ∃ place, Opens cipherSuite ad payload history next plaintext place := by
  obtain ⟨middle, tracked, ⟨longer, kept⟩, opens⟩ :=
    tracks.outcome free (decryptBody_outcome tracks.sized coins)
  obtain ⟨ledger, sameUsed, closed⟩ := tracked.close payload
  refine ⟨_, closed, ⟨longer, ?_⟩, ?_⟩
  · rw [sameUsed]
    exact kept
  · intro plaintext success
    obtain ⟨place, unused, used, opened⟩ := opens plaintext success
    refine ⟨place, unused, ?_, opened⟩
    rw [sameUsed]
    exact used

end Simulation

section Start

variable {sharedSecret : Bytes β} {ratchet : Ratchet β} {ourRatchetKey : KeyPair β}
  {theirRatchetKey coins : Bytes β}

theorem initialChain_take (sharedSecret : Bytes β) :
    ((cipherSuite.initialSecrets sharedSecret).drop cipherSuite.hf.hfLen).take
      cipherSuite.hf.hfLen = cipherSuite.initialChain sharedSecret :=
  List.take_of_length_le (initialChain_full sharedSecret).le

/-- Bob starts with one sending chain. -/
theorem initialiseAsBob_some
    (made : initialiseAsBob cipherSuite sharedSecret ourRatchetKey theirRatchetKey coins =
      some ratchet) :
    isValidCipherSuite cipherSuite = true ∧ ourRatchetKey.privateKey ≠ [] ∧
      theirRatchetKey ≠ [] ∧ ratchet = {
        rootKey := cipherSuite.initialRoot sharedSecret
        rootSequence := 0
        senderChain := some {
          ourRatchetPublicKey := (cipherSuite.kem.encapsulate coins theirRatchetKey).2
          theirRatchetPublicKey := theirRatchetKey
          chainKey := some ⟨0, cipherSuite.initialChain sharedSecret⟩ }
        receiverChain := some ⟨[], ourRatchetKey.privateKey, none⟩
        skippedMsgKeyList := none
        receivedMessageSequence := 0
        sendingMessageSequence := 0 } := by
  unfold initialiseAsBob at made
  split at made
  case isTrue checks =>
    simp only [Bool.and_eq_true, isValidProtobuf_iff, isValidKeyPair] at checks
    obtain ⟨⟨⟨suite, -⟩, ours⟩, theirs⟩ := checks
    refine ⟨suite, ours.1, theirs, ?_⟩
    rw [Option.some.injEq] at made
    rw [← made]
    simp only [pqcParam_of_valid suite, if_true, initialChain_take]
    rfl
  case isFalse => simp at made

/-- Alice starts with a receiving chain and one root step ahead. -/
theorem initialiseAsAlice_some {theirEncapsCiphertext : Option (Bytes β)}
    (made : initialiseAsAlice cipherSuite sharedSecret ourRatchetKey theirRatchetKey
      theirEncapsCiphertext coins = some ratchet) :
    isValidCipherSuite cipherSuite = true ∧ ourRatchetKey.privateKey ≠ [] ∧
      theirRatchetKey ≠ [] ∧ ∃ theirCiphertext, theirEncapsCiphertext = some theirCiphertext ∧
        theirCiphertext ≠ [] ∧
        let outgoing := cipherSuite.kem.encapsulate coins theirRatchetKey
        let rootKey := cipherSuite.initialRoot sharedSecret
        ratchet = {
          rootKey := cipherSuite.nextRoot rootKey outgoing.1
          rootSequence := 1
          senderChain := some {
            ourRatchetPublicKey := outgoing.2
            theirRatchetPublicKey := theirRatchetKey
            chainKey := some ⟨0, cipherSuite.nextChain rootKey outgoing.1⟩ }
          receiverChain := some {
            theirRatchetPublicKey := theirCiphertext
            ourRatchetPrivateKey := ourRatchetKey.privateKey
            chainKey := some ⟨0, cipherSuite.initialChain sharedSecret⟩ }
          skippedMsgKeyList := none
          receivedMessageSequence := 0
          sendingMessageSequence := 0 } := by
  have suite : isValidCipherSuite cipherSuite = true := by
    by_contra missing
    simp [initialiseAsAlice, missing] at made
  simp only [initialiseAsAlice, pqcParam_of_valid suite, if_true] at made
  split at made
  case isTrue checks =>
    simp only [Bool.and_eq_true, isValidProtobuf_iff, isValidKeyPair] at checks
    obtain ⟨⟨⟨⟨-, fits⟩, -⟩, ours⟩, theirs⟩ := checks
    cases theirEncapsCiphertext with
    | none => simp at fits
    | some theirCiphertext =>
        simp only [Option.any_some, isValidProtobuf_iff] at fits
        refine ⟨suite, ours.1, theirs, theirCiphertext, rfl, fits, ?_⟩
        have step := createChainKey_full suite (initialRoot_full sharedSecret) theirs coins
        rw [CipherSuite.initialRoot] at step
        rw [Option.some.injEq, step] at made
        rw [← made]
        simp only [Option.getD_some, initialChain_take]
        rfl
  case isFalse => simp at made

/-- A new ratchet of Bob has an empty history. -/
theorem Tracks.bob
    (made : initialiseAsBob cipherSuite sharedSecret ourRatchetKey theirRatchetKey coins =
      some ratchet) :
    Tracks cipherSuite sharedSecret ratchet
      ⟨[], ⟨(cipherSuite.initialChain sharedSecret, 0), none, [], []⟩⟩ := by
  obtain ⟨-, -, -, rfl⟩ := initialiseAsBob_some made
  constructor
  case root => rfl
  case sender => simp
  case receiver => simp
  case stored => rfl
  case within => exact ⟨Or.inl rfl, by simp, by simp, by simp⟩
  case sound => constructor <;> simp

/-- A new ratchet of Alice has taken one root step. -/
theorem Tracks.alice (free : cipherSuite.FreeKeys) {theirEncapsCiphertext : Option (Bytes β)}
    (made : initialiseAsAlice cipherSuite sharedSecret ourRatchetKey theirRatchetKey
      theirEncapsCiphertext coins = some ratchet) :
    let secret := (cipherSuite.kem.encapsulate coins theirRatchetKey).1
    Tracks cipherSuite sharedSecret ratchet
      ⟨[secret], ⟨(cipherSuite.nextChain (cipherSuite.initialRoot sharedSecret) secret, 0),
        some (cipherSuite.initialChain sharedSecret, 0), [], []⟩⟩ := by
  obtain ⟨-, -, -, theirCiphertext, rfl, -, rfl⟩ := initialiseAsAlice_some made
  constructor
  case root => rfl
  case sender => simp
  case receiver => simp
  case stored => rfl
  case within =>
    refine ⟨Or.inr ⟨[], List.nil_prefix, by simp, _, rfl⟩, ?_, by simp, by simp⟩
    intro place member
    cases member
    exact Or.inl rfl
  case sound =>
    constructor <;> simp
    intro same
    cases @free (.initialChain _) (.nextChain _ _) same

end Start

end E2eeSecurity
