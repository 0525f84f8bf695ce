/-
This file gives the symbolic cipher suite, whose primitives are free constructors.
-/
import E2eeSecurity.Library.FreeTerm
import E2eeSecurity.Ratchet.KeyHistory
import Mathlib.Algebra.Group.Nat.Defs

namespace E2eeSecurity

namespace Symbolic

open FreeTerm

def hfSuite : HfSuite FreeTerm where
  hfLen := 1
  hkdf input salt info outputLen :=
    (List.range outputLen).map (.hkdf (pack input) (pack salt) (pack info) outputLen)
  hmac key message := [.hmac (pack key) (pack message) 0]
  hfLenPositive := by decide
  hkdfLength := by simp
  hmacLength := by simp

/-- Decapsulation with another private key gives an unrelated secret. -/
def decaps (ourKey ciphertext : List FreeTerm) : List FreeTerm :=
  match ourKey, ciphertext with
  | [.privateKey seed 0], [.kemCiphertext target coins 0] =>
      if target = pack [.publicKey seed 0] then [.kemSecret target coins 0]
      else [.kemGarbage (pack ourKey) (pack ciphertext) 0]
  | _, _ => [.kemGarbage (pack ourKey) (pack ciphertext) 0]

def kemSuite : KemSuite FreeTerm where
  pqcParam := true
  asymPubKeyLen := 1
  asymPrivKeyLen := 1
  kemCiphertextLen := 1
  sharedSecretLen := 1
  asymKeyGen coins := ([.publicKey (pack coins) 0], [.privateKey (pack coins) 0])
  encaps := some fun coins theirKey =>
    ([.kemSecret (pack theirKey) (pack coins) 0], [.kemCiphertext (pack theirKey) (pack coins) 0])
  decaps := decaps
  asymPubKeyLenPositive := by decide
  asymPrivKeyLenPositive := by decide
  sharedSecretLenPositive := by decide
  curveHasNoEncaps := by simp
  asymKeyGenLength := by simp
  encapsLength := by
    rintro call coins theirKey ⟨⟩
    simp
  decapsLength := by
    intro ourKey ciphertext
    unfold decaps
    split
    · split <;> rfl
    · rfl
  kemCiphertextLenPositive := by simp

/-- AES-GCM refuses plaintexts over this length. -/
def plaintextLimit : Nat := 2 ^ 36 - 32

def seSuite : SeSuite FreeTerm where
  aeadKeyLen := 1
  aeadIvLen := 1
  encrypt ad key plaintext :=
    if plaintext.length ≤ plaintextLimit then
      some [.sealed (pack ad) (pack key) (pack plaintext)] else none
  decrypt ad key ciphertext :=
    match ciphertext with
    | [.sealed ad' key' plaintext] =>
        if ad' = pack ad ∧ key' = pack key then some (unpack plaintext) else none
    | _ => none
  aeadKeyLenPositive := by decide
  encryptNonempty := by
    intro ad key plaintext ciphertext
    split
    · rintro ⟨⟩
      simp
    · simp

def dsSuite : DsSuite FreeTerm where
  signPubKeyLen := 1
  signPrivKeyLen := 1
  sigLen := 1
  dsKeyGen coins := ([.publicKey (pack coins) 0], [.privateKey (pack coins) 0])
  sign _ message privateKey := [.signature (pack privateKey) (pack message)]
  verify signature message publicKey :=
    match publicKey with
    | [.publicKey seed 0] => signature = [.signature (pack [.privateKey seed 0]) (pack message)]
    | _ => false
  signPubKeyLenPositive := by decide
  signPrivKeyLenPositive := by decide
  sigLenPositive := by decide
  dsKeyGenLength := by simp
  signLength := by simp

end Symbolic

/-- All primitives of this suite are free. -/
def symbolicSuite : CipherSuite FreeTerm where
  byte := .byte
  ds := Symbolic.dsSuite
  kem := Symbolic.kemSuite
  se := Symbolic.seSuite
  hf := Symbolic.hfSuite

/-- The symbolic suite is the one of every pack id. -/
theorem symbolicPack : (fun _ : UInt32 => some symbolicSuite) 0 = some symbolicSuite := rfl

theorem symbolicSuite_matching (coins : Bytes FreeTerm) :
    symbolicSuite.kem.Matching (symbolicSuite.kem.asymKeyGen coins).1
      (symbolicSuite.kem.asymKeyGen coins).2 := by
  intro coins'
  simp [symbolicSuite, Symbolic.kemSuite, KemSuite.encapsulate, Symbolic.decaps]

theorem symbolicSuite_correct : symbolicSuite.se.Correct := by
  intro ad key plaintext ciphertext made
  simp only [symbolicSuite, Symbolic.seSuite] at made ⊢
  split at made
  · cases made
    simp
  · simp at made

theorem symbolicSuite_ideal : symbolicSuite.se.Ideal := by
  intro ad key plaintext ad' key' plaintext' ciphertext first second
  simp only [symbolicSuite, Symbolic.seSuite] at first second
  split at first
  · simp only [Option.ite_none_right_eq_some, Option.some.injEq] at first second
    obtain ⟨⟨rfl, rfl⟩, rfl⟩ := first
    obtain ⟨⟨sameAd, sameKey⟩, rfl⟩ := second
    exact ⟨FreeTerm.pack_inj.mp sameAd, FreeTerm.pack_inj.mp sameKey, rfl⟩
  · simp at first

theorem symbolicSuite_free : symbolicSuite.FreeKeys := by
  rintro first second same
  cases first <;> cases second <;>
    simp [CipherSuite.derive, CipherSuite.initialRoot, CipherSuite.initialChain,
      CipherSuite.initialSecrets, CipherSuite.nextRoot, CipherSuite.nextChain,
      CipherSuite.ratchetSecrets, CipherSuite.advance, CipherSuite.messageKey, symbolicSuite,
      Symbolic.hfSuite, Symbolic.seSuite, List.range_succ, CipherSuite.text] at same ⊢ <;>
    tauto

end E2eeSecurity
