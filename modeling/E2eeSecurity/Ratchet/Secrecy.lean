/-
This file shows that the keys of a ratchet do not lead back to the keys that it has used.
-/
import E2eeSecurity.Library.Deduction
import E2eeSecurity.Symbolic
import Mathlib.Logic.Relation

namespace E2eeSecurity

variable {β : Type} {cipherSuite : CipherSuite β}

/-- An observer evaluates every function forward that the ratchet evaluates.
Encapsulation may use any coins, and decryption may use any associated data. -/
inductive Forward (cipherSuite : CipherSuite β) : List (Bytes β) → Bytes β → Prop
  | advance (key : Bytes β) : Forward cipherSuite [key] (cipherSuite.advance key)
  | messageKey (key : Bytes β) : Forward cipherSuite [key] (cipherSuite.messageKey key)
  | nextRoot (rootKey secret : Bytes β) :
      Forward cipherSuite [rootKey, secret] (cipherSuite.nextRoot rootKey secret)
  | nextChain (rootKey secret : Bytes β) :
      Forward cipherSuite [rootKey, secret] (cipherSuite.nextChain rootKey secret)
  | encapsSecret (coins theirKey : Bytes β) :
      Forward cipherSuite [theirKey] (cipherSuite.kem.encapsulate coins theirKey).1
  | encapsCiphertext (coins theirKey : Bytes β) :
      Forward cipherSuite [theirKey] (cipherSuite.kem.encapsulate coins theirKey).2
  | decaps (ourKey ciphertext : Bytes β) :
      Forward cipherSuite [ourKey, ciphertext] (cipherSuite.kem.decaps ourKey ciphertext)
  | decrypt (ad key ciphertext plaintext : Bytes β)
      (opened : cipherSuite.se.decrypt ad key ciphertext = some plaintext) :
      Forward cipherSuite [key, ciphertext] plaintext

/-- An inert value is neither a derived key nor a ciphertext. -/
structure CipherSuite.Inert (cipherSuite : CipherSuite β) (value : Bytes β) : Prop where
  underived : ∀ derivation, cipherSuite.derive derivation ≠ value
  unopened : ∀ ad key, cipherSuite.se.decrypt ad key value = none

/-- All primitives are free constructors: their outputs are distinct from each other, and only an
encryption opens. -/
structure CipherSuite.Free (cipherSuite : CipherSuite β) : Prop where
  keys : cipherSuite.FreeKeys
  ideal : cipherSuite.se.Ideal
  correct : cipherSuite.se.Correct
  derivedUnopened : ∀ derivation ad key,
    cipherSuite.se.decrypt ad key (cipherSuite.derive derivation) = none
  empty : cipherSuite.Inert []
  encapsSecret : ∀ coins theirKey, cipherSuite.Inert (cipherSuite.kem.encapsulate coins theirKey).1
  encapsCiphertext : ∀ coins theirKey,
    cipherSuite.Inert (cipherSuite.kem.encapsulate coins theirKey).2
  decaps : ∀ ourKey ciphertext, cipherSuite.Inert (cipherSuite.kem.decaps ourKey ciphertext)

/-- Some key opens the first value to the second one. -/
def SeSuite.Unseals (se : SeSuite β) (ciphertext plaintext : Bytes β) : Prop :=
  ∃ ad key, se.decrypt ad key ciphertext = some plaintext

/-- These are the root keys, chain keys, and message keys that descend from a shared secret. -/
inductive RatchetSecret (cipherSuite : CipherSuite β) (sharedSecret : Bytes β) : Bytes β → Prop
  | root (secrets : List (Bytes β)) :
      RatchetSecret cipherSuite sharedSecret (cipherSuite.rootAt sharedSecret secrets)
  | chain {secrets : List (Bytes β)} {origin : Bytes β}
      (started : origin ∈ cipherSuite.origins sharedSecret secrets) (distance : Nat) :
      RatchetSecret cipherSuite sharedSecret (cipherSuite.advance^[distance] origin)
  | key {secrets : List (Bytes β)} {origin : Bytes β}
      (started : origin ∈ cipherSuite.origins sharedSecret secrets) (distance : Nat) :
      RatchetSecret cipherSuite sharedSecret (cipherSuite.keyAt (origin, distance))

/-- A plaintext contains no secret of the ratchet, also not below further encryptions. -/
def Innocent (cipherSuite : CipherSuite β) (sharedSecret plaintext : Bytes β) : Prop :=
  ∀ value, Relation.ReflTransGen cipherSuite.se.Unseals plaintext value →
    ¬ RatchetSecret cipherSuite sharedSecret value

/-- These are the used message keys, the chain keys that lead to them, and the replaced root keys. -/
def KeyHistory.spent (cipherSuite : CipherSuite β) (sharedSecret : Bytes β)
    (history : KeyHistory β) : Set (Bytes β) :=
  {value | (∃ place ∈ history.ledger.used, value = cipherSuite.keyAt place) ∨
    (∃ place ∈ history.ledger.used, ∃ distance ≤ place.2,
      value = cipherSuite.advance^[distance] place.1) ∨
    ∃ earlier, earlier <+: history.secrets ∧ earlier ≠ history.secrets ∧
      value = cipherSuite.rootAt sharedSecret earlier}

/-- These are all byte strings of a ratchet. -/
def Ratchet.fields (ratchet : Ratchet β) : Set (Bytes β) :=
  {value | value = ratchet.rootKey ∨
    (∃ chain ∈ ratchet.senderChain, value = chain.ourRatchetPublicKey ∨
      value = chain.theirRatchetPublicKey ∨ ∃ key ∈ chain.chainKey, value = key.sharedKey) ∨
    (∃ chain ∈ ratchet.receiverChain, value = chain.theirRatchetPublicKey ∨
      value = chain.ourRatchetPrivateKey ∨ ∃ key ∈ chain.chainKey, value = key.sharedKey) ∨
    ∃ node ∈ ratchet.skipped, value = node.ratchetKeyPublic ∨ value = node.msgKey.derivedKey}

/-- The ratchet keys of a ratchet come from the key encapsulation. -/
structure Ratchet.KemKeys (cipherSuite : CipherSuite β) (ratchet : Ratchet β) : Prop where
  sender : ∀ chain ∈ ratchet.senderChain, cipherSuite.Inert chain.ourRatchetPublicKey ∧
    cipherSuite.Inert chain.theirRatchetPublicKey
  receiver : ∀ chain ∈ ratchet.receiverChain, cipherSuite.Inert chain.theirRatchetPublicKey ∧
    cipherSuite.Inert chain.ourRatchetPrivateKey
  skipped : ∀ node ∈ ratchet.skipped, cipherSuite.Inert node.ratchetKeyPublic

/-- A value is safe when it does not open to a spent key. -/
def Safe (cipherSuite : CipherSuite β) (spent : Set (Bytes β)) : Set (Bytes β) :=
  {value | ∀ inner, Relation.ReflTransGen cipherSuite.se.Unseals value inner → inner ∉ spent}

section Values

variable {sharedSecret value : Bytes β} {spent : Set (Bytes β)}

/-- A root key is the first one or follows an earlier one. -/
theorem rootAt_cases (cipherSuite : CipherSuite β) (sharedSecret : Bytes β)
    (secrets : List (Bytes β)) :
    cipherSuite.derive (.initialRoot sharedSecret) = cipherSuite.rootAt sharedSecret secrets ∨
      ∃ earlier last, secrets = earlier ++ [last] ∧ cipherSuite.derive
        (.nextRoot (cipherSuite.rootAt sharedSecret earlier) last) =
          cipherSuite.rootAt sharedSecret secrets := by
  rcases List.eq_nil_or_concat secrets with rfl | ⟨earlier, last, rfl⟩
  · exact Or.inl rfl
  · refine Or.inr ⟨earlier, last, List.concat_eq_append, ?_⟩
    rw [List.concat_eq_append, rootAt_append]
    rfl

/-- A chain key starts a chain or follows an earlier one. -/
theorem chainKey_cases {secrets : List (Bytes β)} {origin : Bytes β}
    (started : origin ∈ cipherSuite.origins sharedSecret secrets) (distance : Nat) :
    cipherSuite.derive (.initialChain sharedSecret) = cipherSuite.advance^[distance] origin ∨
      (∃ earlier secret, earlier <+: secrets ∧ earlier ≠ secrets ∧ cipherSuite.derive
        (.nextChain (cipherSuite.rootAt sharedSecret earlier) secret) =
          cipherSuite.advance^[distance] origin) ∨
      ∃ before, before < distance ∧ cipherSuite.derive
        (.advance (cipherSuite.advance^[before] origin)) =
          cipherSuite.advance^[distance] origin := by
  cases distance with
  | zero =>
      rcases started with rfl | ⟨earlier, before, different, secret, rfl⟩
      · exact Or.inl rfl
      · exact Or.inr (Or.inl ⟨earlier, secret, before, different, rfl⟩)
  | succ distance =>
      refine Or.inr (Or.inr ⟨distance, Nat.lt_succ_self _, ?_⟩)
      rw [Function.iterate_succ_apply']
      rfl

/-- Every secret of the ratchet is a derived key. -/
theorem RatchetSecret.derived (secret : RatchetSecret cipherSuite sharedSecret value) :
    ∃ derivation, cipherSuite.derive derivation = value := by
  cases secret with
  | root secrets =>
      rcases rootAt_cases cipherSuite sharedSecret secrets with first | ⟨_, _, -, later⟩
      · exact ⟨_, first⟩
      · exact ⟨_, later⟩
  | chain started distance =>
      rcases chainKey_cases started distance with first | ⟨_, _, -, -, later⟩ | ⟨_, -, moved⟩
      · exact ⟨_, first⟩
      · exact ⟨_, later⟩
      · exact ⟨_, moved⟩
  | key started distance => exact ⟨.messageKey _, rfl⟩

/-- A value that does not open is safe when it is not spent. -/
theorem safe_of_unopened (unopened : ∀ ad key, cipherSuite.se.decrypt ad key value = none)
    (unspent : value ∉ spent) : value ∈ Safe cipherSuite spent := by
  intro inner path
  rcases path.cases_head with rfl | ⟨next, ⟨ad, key, opened⟩, -⟩
  · exact unspent
  · rw [unopened ad key] at opened
    cases opened

theorem safe_of_derived (free : cipherSuite.Free) (derivation : Derivation β)
    (unspent : cipherSuite.derive derivation ∉ spent) :
    cipherSuite.derive derivation ∈ Safe cipherSuite spent :=
  safe_of_unopened (free.derivedUnopened derivation) unspent

theorem safe_of_inert (secrets : ∀ value ∈ spent, RatchetSecret cipherSuite sharedSecret value)
    (inert : cipherSuite.Inert value) : value ∈ Safe cipherSuite spent := by
  refine safe_of_unopened inert.unopened ?_
  intro member
  obtain ⟨derivation, same⟩ := (secrets value member).derived
  exact inert.underived derivation same

theorem innocent_of_inert (inert : cipherSuite.Inert value) :
    Innocent cipherSuite sharedSecret value := by
  intro inner path
  rcases path.cases_head with rfl | ⟨next, ⟨ad, key, opened⟩, -⟩
  · intro secret
    obtain ⟨derivation, same⟩ := secret.derived
    exact inert.underived derivation same
  · rw [inert.unopened ad key] at opened
    cases opened

/-- An encryption of an innocent plaintext is safe. -/
theorem safe_of_encrypted (free : cipherSuite.Free)
    (secrets : ∀ value ∈ spent, RatchetSecret cipherSuite sharedSecret value)
    {ad key plaintext ciphertext : Bytes β}
    (encrypted : cipherSuite.se.encrypt ad key plaintext = some ciphertext)
    (innocent : Innocent cipherSuite sharedSecret plaintext) :
    ciphertext ∈ Safe cipherSuite spent := by
  have opens := free.correct _ _ _ _ encrypted
  intro inner path
  rcases path.cases_head with rfl | ⟨next, ⟨ad', key', opened⟩, rest⟩
  · intro member
    obtain ⟨derivation, same⟩ := (secrets _ member).derived
    rw [← same, free.derivedUnopened derivation] at opens
    cases opens
  · obtain ⟨-, -, rfl⟩ := free.ideal _ _ _ _ _ _ _ opens opened
    exact fun member => innocent inner rest (secrets inner member)

end Values

section Spent

variable {sharedSecret : Bytes β} {ratchet : Ratchet β} {history : KeyHistory β}

theorem Tracks.spent_secret (tracks : Tracks cipherSuite sharedSecret ratchet history) :
    ∀ value ∈ history.spent cipherSuite sharedSecret,
      RatchetSecret cipherSuite sharedSecret value := by
  rintro value (⟨place, used, rfl⟩ | ⟨place, used, distance, -, rfl⟩ | ⟨earlier, -, -, rfl⟩)
  · exact .key (tracks.within.used place used) place.2
  · exact .chain (tracks.within.used place used) distance
  · exact .root earlier

/-- A derived key is spent only through the key that it was derived from. -/
theorem Tracks.spent_cases (free : cipherSuite.FreeKeys)
    (tracks : Tracks cipherSuite sharedSecret ratchet history) {derivation : Derivation β}
    (member : cipherSuite.derive derivation ∈ history.spent cipherSuite sharedSecret) :
    match derivation with
    | .initialRoot _ => True
    | .initialChain _ => True
    | .nextRoot rootKey _ => rootKey ∈ history.spent cipherSuite sharedSecret
    | .nextChain rootKey _ => rootKey ∈ history.spent cipherSuite sharedSecret
    | .advance key => key ∈ history.spent cipherSuite sharedSecret
    | .messageKey key => key ∈ history.spent cipherSuite sharedSecret := by
  rcases member with ⟨place, used, same⟩ | ⟨place, used, distance, reached, same⟩ |
    ⟨earlier, before, different, same⟩
  · cases @free _ (.messageKey _) same
    exact Or.inr (Or.inl ⟨place, used, place.2, Nat.le_refl _, rfl⟩)
  · rcases chainKey_cases (tracks.within.used place used) distance with
      first | ⟨earlier, secret, before, different, later⟩ | ⟨previous, less, moved⟩
    · cases @free _ _ (same.trans first.symm)
      trivial
    · cases @free _ _ (same.trans later.symm)
      exact Or.inr (Or.inr ⟨earlier, before, different, rfl⟩)
    · cases @free _ _ (same.trans moved.symm)
      exact Or.inr (Or.inl ⟨place, used, previous, by omega, rfl⟩)
  · rcases rootAt_cases cipherSuite sharedSecret earlier with first | ⟨rest, last, rfl, later⟩
    · cases @free _ _ (same.trans first.symm)
      trivial
    · cases @free _ _ (same.trans later.symm)
      refine Or.inr (Or.inr ⟨rest, (List.prefix_append _ _).trans before, ?_, rfl⟩)
      rintro rfl
      have length := before.length_le
      simp only [List.length_append, List.length_singleton] at length
      omega

/-- Forward evaluation does not lead from safe values to spent keys. -/
theorem Tracks.safe_closed (free : cipherSuite.Free)
    (tracks : Tracks cipherSuite sharedSecret ratchet history) :
    Deduction.Closed (Forward cipherSuite)
      (Safe cipherSuite (history.spent cipherSuite sharedSecret)) := by
  intro premises conclusion step safe
  have secrets := tracks.spent_secret
  have unspent : ∀ premise ∈ premises, premise ∉ history.spent cipherSuite sharedSecret :=
    fun premise member => safe premise member premise .refl
  cases step with
  | advance key =>
      refine safe_of_derived free (.advance key) ?_
      exact fun member => unspent key (by simp) (tracks.spent_cases free.keys member)
  | messageKey key =>
      refine safe_of_derived free (.messageKey key) ?_
      exact fun member => unspent key (by simp) (tracks.spent_cases free.keys member)
  | nextRoot rootKey secret =>
      refine safe_of_derived free (.nextRoot rootKey secret) ?_
      exact fun member => unspent rootKey (by simp) (tracks.spent_cases free.keys member)
  | nextChain rootKey secret =>
      refine safe_of_derived free (.nextChain rootKey secret) ?_
      exact fun member => unspent rootKey (by simp) (tracks.spent_cases free.keys member)
  | encapsSecret coins theirKey => exact safe_of_inert secrets (free.encapsSecret coins theirKey)
  | encapsCiphertext coins theirKey =>
      exact safe_of_inert secrets (free.encapsCiphertext coins theirKey)
  | decaps ourKey ciphertext => exact safe_of_inert secrets (free.decaps ourKey ciphertext)
  | decrypt ad key ciphertext plaintext opened =>
      intro inner path
      exact safe ciphertext (by simp) inner (.head ⟨ad, key, opened⟩ path)

end Spent

section Apart

variable {sharedSecret : Bytes β} (free : cipherSuite.FreeKeys)
include free

/-- A message key is not a chain key. -/
theorem keyAt_ne_chainKey {secrets : List (Bytes β)} {origin : Bytes β}
    (started : origin ∈ cipherSuite.origins sharedSecret secrets) (distance : Nat)
    (place : Bytes β × Nat) :
    cipherSuite.keyAt place ≠ cipherSuite.advance^[distance] origin := by
  intro same
  rcases chainKey_cases started distance with first | ⟨_, _, -, -, later⟩ | ⟨_, -, moved⟩
  · cases @free (.messageKey _) _ (same.trans first.symm)
  · cases @free (.messageKey _) _ (same.trans later.symm)
  · cases @free (.messageKey _) _ (same.trans moved.symm)

/-- A message key is not a root key. -/
theorem keyAt_ne_rootAt (secrets : List (Bytes β)) (place : Bytes β × Nat) :
    cipherSuite.keyAt place ≠ cipherSuite.rootAt sharedSecret secrets := by
  intro same
  rcases rootAt_cases cipherSuite sharedSecret secrets with first | ⟨_, _, -, later⟩
  · cases @free (.messageKey _) _ (same.trans first.symm)
  · cases @free (.messageKey _) _ (same.trans later.symm)

/-- A chain key is not a root key. -/
theorem chainKey_ne_rootAt {secrets : List (Bytes β)} {origin : Bytes β}
    (started : origin ∈ cipherSuite.origins sharedSecret secrets) (distance : Nat)
    (others : List (Bytes β)) :
    cipherSuite.advance^[distance] origin ≠ cipherSuite.rootAt sharedSecret others := by
  intro same
  rcases chainKey_cases started distance with first | ⟨_, _, -, -, later⟩ | ⟨_, -, moved⟩ <;>
    rcases rootAt_cases cipherSuite sharedSecret others with root | ⟨_, _, -, root⟩
  · cases @free _ _ ((first.trans same).trans root.symm)
  · cases @free _ _ ((first.trans same).trans root.symm)
  · cases @free _ _ ((later.trans same).trans root.symm)
  · cases @free _ _ ((later.trans same).trans root.symm)
  · cases @free _ _ ((moved.trans same).trans root.symm)
  · cases @free _ _ ((moved.trans same).trans root.symm)

end Apart

section Fields

variable {sharedSecret : Bytes β} {ratchet : Ratchet β} {history : KeyHistory β}

/-- The current root key is not spent. -/
theorem Tracks.root_unspent (free : cipherSuite.FreeKeys)
    (tracks : Tracks cipherSuite sharedSecret ratchet history) :
    ratchet.rootKey ∉ history.spent cipherSuite sharedSecret := by
  rw [tracks.root]
  rintro (⟨place, -, same⟩ | ⟨place, used, distance, -, same⟩ | ⟨earlier, before, different, same⟩)
  · exact keyAt_ne_rootAt free _ _ same.symm
  · exact chainKey_ne_rootAt free (tracks.within.used place used) _ _ same.symm
  · exact different (before.eq_of_length (rootAt_length_inj free same).symm)

/-- A chain key at or after all used places of its chain is not spent. -/
theorem Tracks.chain_unspent (free : cipherSuite.FreeKeys)
    (tracks : Tracks cipherSuite sharedSecret ratchet history) {place : Bytes β × Nat}
    (started : place.1 ∈ cipherSuite.origins sharedSecret history.secrets)
    (later : ∀ key ∈ history.ledger.used, key.1 = place.1 → key.2 < place.2) :
    cipherSuite.advance^[place.2] place.1 ∉ history.spent cipherSuite sharedSecret := by
  rintro (⟨key, -, same⟩ | ⟨key, used, distance, reached, same⟩ | ⟨earlier, -, -, same⟩)
  · exact keyAt_ne_chainKey free started _ _ same.symm
  · obtain ⟨origin, index⟩ := HashChain.iterate_inj (advance_inj free)
      (advance_not_origin free history.secrets) started (tracks.within.used key used) same
    have less := later key used origin.symm
    omega
  · exact chainKey_ne_rootAt free started _ _ same

/-- A stored message key is not spent. -/
theorem Tracks.stored_unspent (free : cipherSuite.FreeKeys)
    (tracks : Tracks cipherSuite sharedSecret ratchet history) {node : SkippedMsgKeyNode β}
    (member : node ∈ ratchet.skipped) : ∃ place, node.msgKey.derivedKey = cipherSuite.keyAt place ∧
      cipherSuite.keyAt place ∉ history.spent cipherSuite sharedSecret := by
  have inside : node.msgKey.derivedKey ∈ history.ledger.stored.map cipherSuite.keyAt := by
    rw [← tracks.stored]
    exact List.mem_map_of_mem member
  obtain ⟨place, stored, same⟩ := List.mem_map.mp inside
  refine ⟨place, same.symm, ?_⟩
  rintro (⟨key, used, equal⟩ | ⟨key, used, distance, -, equal⟩ | ⟨earlier, -, -, equal⟩)
  · have samePlace := keyAt_inj free (tracks.within.stored place stored)
      (tracks.within.used key used) equal
    rw [← samePlace] at used
    exact tracks.sound.storedUnused place stored used
  · exact keyAt_ne_chainKey free (tracks.within.used key used) _ _ equal
  · exact keyAt_ne_rootAt free _ _ equal

/-- No byte string of the ratchet leads to a spent key. -/
theorem Tracks.fields_safe (free : cipherSuite.Free)
    (tracks : Tracks cipherSuite sharedSecret ratchet history)
    (kemKeys : ratchet.KemKeys cipherSuite) :
    ratchet.fields ⊆ Safe cipherSuite (history.spent cipherSuite sharedSecret) := by
  have secrets := tracks.spent_secret
  have chainSafe : ∀ place : Bytes β × Nat,
      place.1 ∈ cipherSuite.origins sharedSecret history.secrets →
      (∀ key ∈ history.ledger.used, key.1 = place.1 → key.2 < place.2) →
      cipherSuite.advance^[place.2] place.1 ∈
        Safe cipherSuite (history.spent cipherSuite sharedSecret) := by
    intro place started later
    obtain ⟨derivation, same⟩ := (RatchetSecret.chain started place.2).derived
    have unspent := tracks.chain_unspent free.keys started later
    rw [← same] at unspent ⊢
    exact safe_of_derived free derivation unspent
  rintro value (rfl | ⟨chain, present, rfl | rfl | ⟨key, found, rfl⟩⟩ |
    ⟨chain, present, rfl | rfl | ⟨key, found, rfl⟩⟩ | ⟨node, stored, rfl | rfl⟩)
  · have unspent := tracks.root_unspent free.keys
    obtain ⟨derivation, same⟩ : ∃ derivation, cipherSuite.derive derivation = ratchet.rootKey := by
      rw [tracks.root]
      exact (RatchetSecret.root history.secrets).derived
    rw [← same] at unspent ⊢
    exact safe_of_derived free derivation unspent
  · exact safe_of_inert secrets (kemKeys.sender chain present).1
  · exact safe_of_inert secrets (kemKeys.sender chain present).2
  · rw [tracks.sender chain present key found]
    exact chainSafe _ tracks.within.sending tracks.sound.usedSending
  · exact safe_of_inert secrets (kemKeys.receiver chain present).1
  · exact safe_of_inert secrets (kemKeys.receiver chain present).2
  · obtain ⟨place, current, same⟩ := tracks.receiver chain present key found
    have member : place ∈ history.ledger.receiving := by simp [current]
    rw [same]
    exact chainSafe place (tracks.within.receiving place member)
      fun used inside => tracks.sound.usedReceiving used inside place member
  · exact safe_of_inert secrets (kemKeys.skipped node stored)
  · obtain ⟨place, same, unspent⟩ := tracks.stored_unspent free.keys stored
    rw [same]
    exact safe_of_derived free (.messageKey _) unspent

/-- An encryption keeps the ratchet keys. -/
theorem Ratchet.KemKeys.encrypt (kemKeys : ratchet.KemKeys cipherSuite)
    (sized : ratchet.Sized cipherSuite) (ad : Bytes β) (plaintext : Option (Bytes β)) :
    (encryptRatchet cipherSuite ratchet ad plaintext).2.KemKeys cipherSuite := by
  rcases encryptRatchet_cases sized ad plaintext with
    refused | ⟨senderChain, chainKey, data, -, sender, -, -, made⟩
  · rw [refused]
    exact kemKeys
  · rw [made]
    refine ⟨?_, kemKeys.receiver, kemKeys.skipped⟩
    intro chain member
    simp only [sentRatchet, Option.mem_some_iff] at member
    subst member
    exact kemKeys.sender senderChain (by simp [sender])

theorem skippedNodes_named {ratchetKey : Bytes β} {index : UInt32} {key : Bytes β} {count : Nat}
    {node : SkippedMsgKeyNode β}
    (member : node ∈ skippedNodes cipherSuite ratchetKey index key count) :
    node.ratchetKeyPublic = ratchetKey := by
  obtain ⟨offset, -, rfl⟩ := List.mem_map.mp member
  rfl

/-- Reading a message stores keys under the name of the receiver chain. -/
theorem Ratchet.KemKeys.read (kemKeys : ratchet.KemKeys cipherSuite)
    (payload : One2oneMsgPayload β) {receiverChain : ReceiverChainNode β} (chainKey : ChainKey β)
    (named : cipherSuite.Inert receiverChain.theirRatchetPublicKey ∧
      cipherSuite.Inert receiverChain.ourRatchetPrivateKey) :
    (readRatchet cipherSuite ratchet payload receiverChain chainKey).KemKeys cipherSuite := by
  refine ⟨kemKeys.sender, ?_, ?_⟩
  · intro chain member
    simp only [readRatchet, Option.mem_some_iff] at member
    subst member
    exact named
  · intro node member
    simp only [readRatchet, Ratchet.skipped] at member
    split at member
    · exact kemKeys.skipped node member
    · rcases List.mem_append.mp member with old | new
      · exact kemKeys.skipped node old
      · rw [skippedNodes_named new]
        exact named.1

/-- New chains take their names from the message and from the encapsulation. -/
theorem Ratchet.KemKeys.commit (free : cipherSuite.Free) (kemKeys : ratchet.KemKeys cipherSuite)
    {payload : One2oneMsgPayload β} (coins : Bytes β) {receiverChain : ReceiverChainNode β}
    {senderChain : SenderChainNode β} (receiver : ratchet.receiverChain = some receiverChain)
    (sender : ratchet.senderChain = some senderChain)
    (named : cipherSuite.Inert payload.ratchetKey) :
    (committedRatchet cipherSuite ratchet payload coins receiverChain senderChain).KemKeys
      cipherSuite := by
  have ours := kemKeys.receiver receiverChain (by simp [receiver])
  have theirs := kemKeys.sender senderChain (by simp [sender])
  refine ⟨?_, ?_, ?_⟩
  · intro chain member
    simp only [committedRatchet, renewedRatchet, Option.mem_some_iff] at member
    subst member
    exact ⟨free.encapsCiphertext _ _, theirs.2⟩
  · intro chain member
    simp only [committedRatchet, renewedRatchet, Option.mem_some_iff] at member
    subst member
    exact ⟨named, ours.2⟩
  · intro node member
    simp only [committedRatchet, renewedRatchet, Ratchet.skipped, previousList] at member
    split at member
    · split at member
      · exact kemKeys.skipped node member
      · rcases List.mem_append.mp member with old | new
        · exact kemKeys.skipped node old
        · rw [skippedNodes_named new]
          exact ours.1
    · exact kemKeys.skipped node member

/-- A decryption of a message with a ratchet key of the encapsulation keeps the ratchet keys. -/
theorem Ratchet.KemKeys.decrypt [DecidableEq β] (free : cipherSuite.Free)
    (kemKeys : ratchet.KemKeys cipherSuite) (sized : ratchet.Sized cipherSuite) (ad : Bytes β)
    {payload : One2oneMsgPayload β} (coins : Bytes β)
    (named : cipherSuite.Inert payload.ratchetKey) :
    (decryptRatchet cipherSuite ratchet ad payload coins).2.KemKeys cipherSuite := by
  have body : (decryptBody cipherSuite ratchet ad payload coins).2.KemKeys cipherSuite := by
    have outcome : Outcome cipherSuite ratchet ad payload coins _ _ :=
      decryptBody_outcome sized coins
    generalize (decryptBody cipherSuite ratchet ad payload coins).1 = result at outcome
    generalize (decryptBody cipherSuite ratchet ad payload coins).2 = after at outcome ⊢
    cases outcome with
    | refused => exact kemKeys
    | allocated => exact ⟨kemKeys.sender, kemKeys.receiver, kemKeys.skipped⟩
    | skipped _ _ before node after _ _ split =>
        refine ⟨kemKeys.sender, kemKeys.receiver, ?_⟩
        intro other member
        simp only [Ratchet.skipped, skippedPointer_getD] at member
        apply kemKeys.skipped other
        rw [split]
        rcases List.mem_append.mp member with early | late
        · exact List.mem_append_left _ early
        · exact List.mem_append_right _ (List.mem_cons_of_mem _ late)
    | existing _ _ _ receiverChain chainKey _ receiver =>
        exact kemKeys.read payload chainKey (kemKeys.receiver receiverChain (by simp [receiver]))
    | renewed receiverChain senderChain _ renewal =>
        have committed := kemKeys.commit free coins renewal.receiver renewal.sender named
        exact committed.read payload _
          ⟨named, (kemKeys.receiver receiverChain (by simp [renewal.receiver])).2⟩
    | overrun receiverChain senderChain _ renewal =>
        exact kemKeys.commit free coins renewal.receiver renewal.sender named
  refine ⟨?_, ?_, ?_⟩
  · simp only [decryptRatchet, closeDecrypt_eq]
    exact body.sender
  · simp only [decryptRatchet, closeDecrypt_eq]
    exact body.receiver
  · intro node member
    simp only [decryptRatchet] at member
    rw [closeDecrypt_skipped] at member
    exact body.skipped node (List.mem_of_mem_drop member)

end Fields

namespace Symbolic

/-- Only the hash functions make keys. -/
def isHash : FreeTerm → Bool
  | .hkdf .. => true
  | .hmac .. => true
  | _ => false

def isSealed : FreeTerm → Bool
  | .sealed .. => true
  | _ => false

theorem derive_head (derivation : Derivation FreeTerm) :
    ∃ head tail, symbolicSuite.derive derivation = head :: tail ∧ isHash head = true := by
  cases derivation <;>
    simp [CipherSuite.derive, CipherSuite.initialRoot, CipherSuite.initialChain,
      CipherSuite.initialSecrets, CipherSuite.nextRoot, CipherSuite.nextChain,
      CipherSuite.ratchetSecrets, CipherSuite.advance, CipherSuite.messageKey, symbolicSuite,
      hfSuite, seSuite, List.range_succ, isHash]

theorem decrypt_unsealed {head : FreeTerm} (ad key tail : Bytes FreeTerm)
    (unsealed : isSealed head = false) :
    symbolicSuite.se.decrypt ad key (head :: tail) = none := by
  simp only [symbolicSuite, seSuite]
  split
  case h_1 same =>
    cases same
    cases unsealed
  case h_2 => rfl

/-- A string that starts with neither a hash nor an encryption is inert. -/
theorem inert_of_head {head : FreeTerm} {tail : Bytes FreeTerm} (notHash : isHash head = false)
    (unsealed : isSealed head = false) : symbolicSuite.Inert (head :: tail) where
  underived derivation := by
    obtain ⟨head', tail', derived, hash⟩ := derive_head derivation
    rw [derived]
    rintro ⟨⟩
    rw [notHash] at hash
    cases hash
  unopened ad key := decrypt_unsealed ad key tail unsealed

end Symbolic

theorem symbolicSuite_freePrimitives : symbolicSuite.Free where
  keys := symbolicSuite_free
  ideal := symbolicSuite_ideal
  correct := symbolicSuite_correct
  derivedUnopened derivation ad key := by
    obtain ⟨head, tail, derived, hash⟩ := Symbolic.derive_head derivation
    rw [derived]
    apply Symbolic.decrypt_unsealed
    cases head <;> first | rfl | cases hash
  empty := by
    refine ⟨?_, fun _ _ => rfl⟩
    intro derivation same
    obtain ⟨head, tail, derived, -⟩ := Symbolic.derive_head derivation
    rw [derived] at same
    cases same
  encapsSecret _ _ := Symbolic.inert_of_head rfl rfl
  encapsCiphertext _ _ := Symbolic.inert_of_head rfl rfl
  decaps ourKey ciphertext := by
    simp only [symbolicSuite, Symbolic.kemSuite, Symbolic.decaps]
    split
    · split <;> exact Symbolic.inert_of_head rfl rfl
    · exact Symbolic.inert_of_head rfl rfl

end E2eeSecurity
