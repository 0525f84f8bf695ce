/-
This file describes the cipher suites that the protocol code calls through function pointers.
-/
import Mathlib.Data.List.Basic

namespace E2eeSecurity

/-- A byte string is a list over one byte type.
The shipped code uses eight-bit bytes; a symbolic reading uses free terms as bytes. -/
abbrev Bytes (β : Type) := List β

/-- This is the hash suite with its documented output lengths. -/
structure HfSuite (β : Type) where
  hfLen : Nat
  /-- The arguments are the input, the salt, the info string, and the output length. -/
  hkdf : Bytes β → Bytes β → Bytes β → Nat → Bytes β
  /-- The arguments are the key and the message. -/
  hmac : Bytes β → Bytes β → Bytes β
  hfLenPositive : 0 < hfLen
  hkdfLength : ∀ input salt info outputLen, (hkdf input salt info outputLen).length = outputLen
  hmacLength : ∀ key message, (hmac key message).length = hfLen

/-- This is the key encapsulation suite. The coins stand for the randomness of one call.
The curve suite has a null `encaps` pointer, and every suite with `encaps` sets `pqc_param`. -/
structure KemSuite (β : Type) where
  pqcParam : Bool
  asymPubKeyLen : Nat
  asymPrivKeyLen : Nat
  kemCiphertextLen : Nat
  sharedSecretLen : Nat
  /-- The result is the public key and the private key. -/
  asymKeyGen : Bytes β → Bytes β × Bytes β
  /-- The result is the shared secret and the ciphertext. -/
  encaps : Option (Bytes β → Bytes β → Bytes β × Bytes β)
  /-- The arguments are the private key and the ciphertext. -/
  decaps : Bytes β → Bytes β → Bytes β
  asymPubKeyLenPositive : 0 < asymPubKeyLen
  asymPrivKeyLenPositive : 0 < asymPrivKeyLen
  sharedSecretLenPositive : 0 < sharedSecretLen
  curveHasNoEncaps : pqcParam = false → encaps = none
  asymKeyGenLength : ∀ coins, (asymKeyGen coins).1.length = asymPubKeyLen ∧
    (asymKeyGen coins).2.length = asymPrivKeyLen
  encapsLength : ∀ call coins theirKey, encaps = some call →
    (call coins theirKey).1.length = sharedSecretLen ∧
      (call coins theirKey).2.length = kemCiphertextLen
  decapsLength : ∀ ourKey ciphertext, (decaps ourKey ciphertext).length = sharedSecretLen
  kemCiphertextLenPositive : encaps ≠ none → 0 < kemCiphertextLen

/-- This is the symmetric encryption suite. A ciphertext carries a tag and is never empty. -/
structure SeSuite (β : Type) where
  aeadKeyLen : Nat
  aeadIvLen : Nat
  /-- The arguments are the associated data, the key, and the plaintext. -/
  encrypt : Bytes β → Bytes β → Bytes β → Option (Bytes β)
  /-- The arguments are the associated data, the key, and the ciphertext. -/
  decrypt : Bytes β → Bytes β → Bytes β → Option (Bytes β)
  aeadKeyLenPositive : 0 < aeadKeyLen
  encryptNonempty : ∀ ad key plaintext ciphertext,
    encrypt ad key plaintext = some ciphertext → ciphertext ≠ []

/-- This is the signature suite. The coins stand for the randomness of one call.
A signature may be shorter than the announced length. -/
structure DsSuite (β : Type) where
  signPubKeyLen : Nat
  signPrivKeyLen : Nat
  sigLen : Nat
  /-- The result is the public key and the private key. -/
  dsKeyGen : Bytes β → Bytes β × Bytes β
  /-- The arguments are the coins, the message, and the private key. -/
  sign : Bytes β → Bytes β → Bytes β → Bytes β
  /-- The arguments are the signature, the message, and the public key. -/
  verify : Bytes β → Bytes β → Bytes β → Bool
  signPubKeyLenPositive : 0 < signPubKeyLen
  signPrivKeyLenPositive : 0 < signPrivKeyLen
  sigLenPositive : 0 < sigLen
  dsKeyGenLength : ∀ coins, (dsKeyGen coins).1.length = signPubKeyLen ∧
    (dsKeyGen coins).2.length = signPrivKeyLen
  signLength : ∀ coins message privateKey, (sign coins message privateKey).length ≤ sigLen

/-- A cipher suite also embeds the literal bytes of the source. -/
structure CipherSuite (β : Type) where
  byte : UInt8 → β
  ds : DsSuite β
  kem : KemSuite β
  se : SeSuite β
  hf : HfSuite β

variable {β : Type}

/-- This function reads an ASCII string literal of the source without its terminator. -/
def CipherSuite.text (cipherSuite : CipherSuite β) (literal : String) : Bytes β :=
  literal.toList.map fun character => cipherSuite.byte character.toNat.toUInt8

/-- This is a buffer after `memset` to zero. -/
def CipherSuite.zeros (cipherSuite : CipherSuite β) (count : Nat) : Bytes β :=
  List.replicate count (cipherSuite.byte 0)

/-- Only `encaps` is null in a shipped suite, so the other pointers are not checked. -/
def isValidCipherSuite (cipherSuite : CipherSuite β) : Bool :=
  cipherSuite.kem.encaps.isSome

/-- The call goes through the pointer that the suite check found present. -/
def KemSuite.encapsulate (kem : KemSuite β) (coins theirKey : Bytes β) : Bytes β × Bytes β :=
  match kem.encaps with
  | some call => call coins theirKey
  | none => ([], [])

/-- A valid suite is a post-quantum suite. -/
theorem pqcParam_of_valid {cipherSuite : CipherSuite β}
    (valid : isValidCipherSuite cipherSuite = true) : cipherSuite.kem.pqcParam = true := by
  by_contra curve
  have missing := cipherSuite.kem.curveHasNoEncaps (by simpa using curve)
  simp [isValidCipherSuite, missing] at valid

/-- A valid suite writes a ciphertext of the announced length. -/
theorem encapsulate_length {cipherSuite : CipherSuite β}
    (valid : isValidCipherSuite cipherSuite = true) (coins theirKey : Bytes β) :
    (cipherSuite.kem.encapsulate coins theirKey).1.length = cipherSuite.kem.sharedSecretLen ∧
      (cipherSuite.kem.encapsulate coins theirKey).2.length =
        cipherSuite.kem.kemCiphertextLen := by
  obtain ⟨call, present⟩ := Option.isSome_iff_exists.mp valid
  simp only [KemSuite.encapsulate, present]
  exact cipherSuite.kem.encapsLength call coins theirKey present

/-- A valid suite has nonempty ciphertexts. -/
theorem kemCiphertextLen_pos {cipherSuite : CipherSuite β}
    (valid : isValidCipherSuite cipherSuite = true) :
    0 < cipherSuite.kem.kemCiphertextLen := by
  apply cipherSuite.kem.kemCiphertextLenPositive
  intro missing
  simp [isValidCipherSuite, missing] at valid

/-- A public and a private key match when decapsulation inverts every encapsulation. -/
def KemSuite.Matching (kem : KemSuite β) (publicKey privateKey : Bytes β) : Prop :=
  ∀ coins, kem.decaps privateKey (kem.encapsulate coins publicKey).2 =
    (kem.encapsulate coins publicKey).1

/-- Signatures with the private key pass the check, also with the rest of their buffer behind. -/
def DsSuite.Matching (ds : DsSuite β) (publicKey privateKey : Bytes β) : Prop :=
  ∀ coins message buffer : Bytes β, buffer.length = ds.sigLen →
    ds.verify (ds.sign coins message privateKey ++
      buffer.drop (ds.sign coins message privateKey).length) message publicKey = true

/-- Decryption inverts encryption. -/
def SeSuite.Correct (se : SeSuite β) : Prop :=
  ∀ ad key plaintext ciphertext,
    se.encrypt ad key plaintext = some ciphertext → se.decrypt ad key ciphertext = some plaintext

/-- A ciphertext opens only under one key and one associated data, and to one plaintext. -/
def SeSuite.Ideal (se : SeSuite β) : Prop :=
  ∀ ad key plaintext ad' key' plaintext' ciphertext,
    se.decrypt ad key ciphertext = some plaintext →
    se.decrypt ad' key' ciphertext = some plaintext' →
    ad = ad' ∧ key = key' ∧ plaintext = plaintext'

end E2eeSecurity
