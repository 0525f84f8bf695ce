/-
This file gives the key derivations of `ratchet.c` and their closed forms on full-length keys.
-/
import E2eeSecurity.Ratchet.State
import Mathlib.Logic.Function.Iterate

namespace E2eeSecurity

variable {β : Type}

/-- The copy fills the destination and keeps its length. -/
def overwriteProtobuf (dest source : Bytes β) : Bytes β := source.take dest.length

/-- This is a chain key record after its generated initialiser. -/
def ChainKey.initial : ChainKey β := ⟨0, []⟩

/-- The HKDF output holds the next root key and the next chain key. -/
def CipherSuite.ratchetSecrets (cipherSuite : CipherSuite β) (rootKey secret : Bytes β) :
    Bytes β :=
  cipherSuite.hf.hkdf secret rootKey (cipherSuite.text "RATCHET") (2 * cipherSuite.hf.hfLen)

/-- Without a private key the call encapsulates and also returns the ratchet public key.
The last two arguments are the destinations, whose lengths an overwrite keeps. -/
def createChainKey (cipherSuite : CipherSuite β) (rootKey : Bytes β)
    (ourPrivateKey : Option (Bytes β)) (theirKey coins newRootKey : Bytes β)
    (newChainKey : ChainKey β) : Option (Bytes β × ChainKey β × Bytes β) :=
  if isValidCipherSuite cipherSuite && ourPrivateKey.all isValidProtobuf &&
      isValidProtobuf rootKey && isValidProtobuf theirKey then
    let shared := match ourPrivateKey with
      | none => cipherSuite.kem.encapsulate coins theirKey
      | some privateKey => (cipherSuite.kem.decaps privateKey theirKey, [])
    let derived := cipherSuite.ratchetSecrets rootKey shared.1
    let keyLen := cipherSuite.hf.hfLen
    let root := if newRootKey.isEmpty then derived.take keyLen
      else overwriteProtobuf newRootKey derived
    let chain := if newChainKey.sharedKey.isEmpty then (derived.drop keyLen).take keyLen
      else overwriteProtobuf newChainKey.sharedKey (derived.drop keyLen)
    some (root, ⟨0, chain⟩, shared.2)
  else none

/-- The chain key record may be missing, and then the call fails. -/
def advanceChainKey (cipherSuite : CipherSuite β) (chainKey : Option (ChainKey β)) :
    Option (ChainKey β) :=
  if isValidCipherSuite cipherSuite && isValidChainKey chainKey then
    chainKey.map fun key => ⟨key.index + 1, overwriteProtobuf key.sharedKey
      (cipherSuite.hf.hmac key.sharedKey [cipherSuite.byte 0x02])⟩
  else none

/-- The message key keeps the index of its chain key. -/
def createMsgKeys (cipherSuite : CipherSuite β) (chainKey : Option (ChainKey β)) :
    Option (MsgKey β) :=
  if isValidCipherSuite cipherSuite && isValidChainKey chainKey then
    chainKey.map fun key => ⟨key.index, cipherSuite.hf.hkdf key.sharedKey
      (cipherSuite.zeros cipherSuite.hf.hfLen) (cipherSuite.text "MessageKeys")
      (cipherSuite.se.aeadKeyLen + cipherSuite.se.aeadIvLen)⟩
  else none

/-- The loops that reach a sequence number advance the chain a known number of times. -/
def advanceChainKeyTimes (cipherSuite : CipherSuite β) :
    Nat → Option (ChainKey β) → Option (ChainKey β)
  | 0, chainKey => chainKey
  | count + 1, chainKey =>
      (advanceChainKey cipherSuite chainKey).bind fun next =>
        advanceChainKeyTimes cipherSuite count (some next)

/-- The next root key is the first half of the HKDF output. -/
def CipherSuite.nextRoot (cipherSuite : CipherSuite β) (rootKey secret : Bytes β) : Bytes β :=
  (cipherSuite.ratchetSecrets rootKey secret).take cipherSuite.hf.hfLen

/-- The first key of the new chain is the second half of the HKDF output. -/
def CipherSuite.nextChain (cipherSuite : CipherSuite β) (rootKey secret : Bytes β) : Bytes β :=
  (cipherSuite.ratchetSecrets rootKey secret).drop cipherSuite.hf.hfLen

def CipherSuite.advance (cipherSuite : CipherSuite β) (key : Bytes β) : Bytes β :=
  cipherSuite.hf.hmac key [cipherSuite.byte 0x02]

def CipherSuite.messageKey (cipherSuite : CipherSuite β) (key : Bytes β) : Bytes β :=
  cipherSuite.hf.hkdf key (cipherSuite.zeros cipherSuite.hf.hfLen)
    (cipherSuite.text "MessageKeys") (cipherSuite.se.aeadKeyLen + cipherSuite.se.aeadIvLen)

/-- A key fills the hash output length. -/
def CipherSuite.FullKey (cipherSuite : CipherSuite β) (key : Bytes β) : Prop :=
  key.length = cipherSuite.hf.hfLen

section ClosedForms

variable {cipherSuite : CipherSuite β}

theorem nextRoot_full (rootKey secret : Bytes β) :
    cipherSuite.FullKey (cipherSuite.nextRoot rootKey secret) := by
  simp only [CipherSuite.FullKey, CipherSuite.nextRoot, CipherSuite.ratchetSecrets,
    List.length_take, cipherSuite.hf.hkdfLength]
  omega

theorem nextChain_full (rootKey secret : Bytes β) :
    cipherSuite.FullKey (cipherSuite.nextChain rootKey secret) := by
  simp only [CipherSuite.FullKey, CipherSuite.nextChain, CipherSuite.ratchetSecrets,
    List.length_drop, cipherSuite.hf.hkdfLength]
  omega

theorem advance_full (key : Bytes β) : cipherSuite.FullKey (cipherSuite.advance key) :=
  cipherSuite.hf.hmacLength _ _

theorem advance_iterate_full {key : Bytes β} (full : cipherSuite.FullKey key) (count : Nat) :
    cipherSuite.FullKey (cipherSuite.advance^[count] key) := by
  cases count with
  | zero => exact full
  | succ count =>
      rw [Function.iterate_succ_apply']
      exact advance_full _

theorem CipherSuite.FullKey.nonempty {key : Bytes β} (full : cipherSuite.FullKey key) :
    key ≠ [] := by
  rw [← isValidProtobuf_iff]
  exact isValidProtobuf_of_length full cipherSuite.hf.hfLenPositive

theorem messageKey_nonempty (key : Bytes β) : cipherSuite.messageKey key ≠ [] := by
  rw [← isValidProtobuf_iff]
  apply isValidProtobuf_of_length (cipherSuite.hf.hkdfLength _ _ _ _)
  have := cipherSuite.se.aeadKeyLenPositive
  omega

/-- A step on a full root key installs the two halves of the HKDF output. -/
theorem createChainKey_full (valid : isValidCipherSuite cipherSuite = true)
    {rootKey theirKey : Bytes β} (full : cipherSuite.FullKey rootKey) (theirs : theirKey ≠ [])
    (coins : Bytes β) :
    createChainKey cipherSuite rootKey none theirKey coins rootKey ChainKey.initial =
      some (cipherSuite.nextRoot rootKey (cipherSuite.kem.encapsulate coins theirKey).1,
        ⟨0, cipherSuite.nextChain rootKey (cipherSuite.kem.encapsulate coins theirKey).1⟩,
        (cipherSuite.kem.encapsulate coins theirKey).2) := by
  have nonempty := full.nonempty
  have chainLength : cipherSuite.FullKey (cipherSuite.nextChain rootKey
    (cipherSuite.kem.encapsulate coins theirKey).1) := nextChain_full _ _
  simp only [CipherSuite.FullKey] at full chainLength
  simp only [CipherSuite.nextChain] at chainLength
  simp [createChainKey, valid, nonempty, theirs, overwriteProtobuf, full, ChainKey.initial,
    CipherSuite.nextRoot, CipherSuite.nextChain, List.take_of_length_le, chainLength]

/-- The receiving step uses the secret that decapsulation returns. -/
theorem createChainKey_decaps_full (valid : isValidCipherSuite cipherSuite = true)
    {rootKey privateKey theirKey : Bytes β} (full : cipherSuite.FullKey rootKey)
    (ours : privateKey ≠ []) (theirs : theirKey ≠ []) (coins : Bytes β) :
    createChainKey cipherSuite rootKey (some privateKey) theirKey coins rootKey
        ChainKey.initial =
      some (cipherSuite.nextRoot rootKey (cipherSuite.kem.decaps privateKey theirKey),
        ⟨0, cipherSuite.nextChain rootKey (cipherSuite.kem.decaps privateKey theirKey)⟩,
        []) := by
  have nonempty := full.nonempty
  have chainLength : cipherSuite.FullKey (cipherSuite.nextChain rootKey
    (cipherSuite.kem.decaps privateKey theirKey)) := nextChain_full _ _
  simp only [CipherSuite.FullKey] at full chainLength
  simp only [CipherSuite.nextChain] at chainLength
  simp [createChainKey, valid, nonempty, ours, theirs, overwriteProtobuf, full, ChainKey.initial,
    CipherSuite.nextRoot, CipherSuite.nextChain, List.take_of_length_le, chainLength]

theorem advanceChainKey_full (valid : isValidCipherSuite cipherSuite = true)
    (index : UInt32) {key : Bytes β} (full : cipherSuite.FullKey key) :
    advanceChainKey cipherSuite (some ⟨index, key⟩) =
      some ⟨index + 1, cipherSuite.advance key⟩ := by
  have nonempty := full.nonempty
  have length : (cipherSuite.hf.hmac key [cipherSuite.byte 2]).length = key.length :=
    (cipherSuite.hf.hmacLength _ _).trans full.symm
  simp [advanceChainKey, valid, isValidChainKey, nonempty, overwriteProtobuf,
    CipherSuite.advance, ← length]

/-- A nonempty chain key always has a nonempty successor. -/
theorem advanceChainKey_nonempty (valid : isValidCipherSuite cipherSuite = true)
    {key : ChainKey β} (nonempty : key.sharedKey ≠ []) :
    ∃ next, advanceChainKey cipherSuite (some key) = some next ∧ next.sharedKey ≠ [] := by
  refine ⟨⟨key.index + 1, overwriteProtobuf key.sharedKey
    (cipherSuite.hf.hmac key.sharedKey [cipherSuite.byte 0x02])⟩, ?_, ?_⟩
  · simp [advanceChainKey, valid, isValidChainKey, nonempty]
  · have length := cipherSuite.hf.hmacLength key.sharedKey [cipherSuite.byte 0x02]
    have positive := cipherSuite.hf.hfLenPositive
    have keyPositive := List.length_pos_iff.mpr nonempty
    rw [overwriteProtobuf, ← List.length_pos_iff, List.length_take]
    omega

/-- A message key only needs a chain key that is not empty. -/
theorem createMsgKeys_nonempty (valid : isValidCipherSuite cipherSuite = true)
    {key : ChainKey β} (nonempty : key.sharedKey ≠ []) :
    createMsgKeys cipherSuite (some key) =
      some ⟨key.index, cipherSuite.messageKey key.sharedKey⟩ := by
  simp [createMsgKeys, valid, isValidChainKey, nonempty, CipherSuite.messageKey]

theorem createMsgKeys_full (valid : isValidCipherSuite cipherSuite = true)
    (index : UInt32) {key : Bytes β} (full : cipherSuite.FullKey key) :
    createMsgKeys cipherSuite (some ⟨index, key⟩) =
      some ⟨index, cipherSuite.messageKey key⟩ :=
  createMsgKeys_nonempty valid full.nonempty

/-- Advancing a full chain key iterates the HMAC and adds to the index. -/
theorem advanceChainKeyTimes_full (valid : isValidCipherSuite cipherSuite = true)
    (count : Nat) {index : UInt32} {key : Bytes β} (full : cipherSuite.FullKey key) :
    advanceChainKeyTimes cipherSuite count (some ⟨index, key⟩) =
      some ⟨index + UInt32.ofNat count, cipherSuite.advance^[count] key⟩ := by
  induction count generalizing index key with
  | zero => simp [advanceChainKeyTimes]
  | succ count ih =>
      simp only [advanceChainKeyTimes, advanceChainKey_full valid index full, Option.bind_some,
        ih (advance_full key), Function.iterate_succ_apply]
      rw [UInt32.ofNat_add, UInt32.add_assoc, UInt32.add_comm 1]
      rfl

end ClosedForms

end E2eeSecurity
