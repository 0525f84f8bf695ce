/-
This file marks the values that depend on fresh coins, which an observer without them never derives.
-/
import E2eeSecurity.Ratchet.Secrecy

namespace E2eeSecurity

variable {β : Type} {cipherSuite : CipherSuite β}

/-- These are the values that a key is derived from. -/
def Derivation.inputs : Derivation β → List (Bytes β)
  | .initialRoot sharedSecret => [sharedSecret]
  | .initialChain sharedSecret => [sharedSecret]
  | .nextRoot rootKey secret => [rootKey, secret]
  | .nextChain rootKey secret => [rootKey, secret]
  | .advance key => [key]
  | .messageKey key => [key]

/-- An observer evaluates every function of the ratchet on values that it knows.
Other than in a forward evaluation, encapsulation needs its coins. -/
inductive Evaluates (cipherSuite : CipherSuite β) : List (Bytes β) → Bytes β → Prop
  | derive (derivation : Derivation β) :
      Evaluates cipherSuite derivation.inputs (cipherSuite.derive derivation)
  | encapsSecret (coins theirKey : Bytes β) :
      Evaluates cipherSuite [coins, theirKey] (cipherSuite.kem.encapsulate coins theirKey).1
  | encapsCiphertext (coins theirKey : Bytes β) :
      Evaluates cipherSuite [coins, theirKey] (cipherSuite.kem.encapsulate coins theirKey).2
  | decaps (ourKey ciphertext : Bytes β) :
      Evaluates cipherSuite [ourKey, ciphertext] (cipherSuite.kem.decaps ourKey ciphertext)
  | encrypt (ad key plaintext ciphertext : Bytes β)
      (encrypted : cipherSuite.se.encrypt ad key plaintext = some ciphertext) :
      Evaluates cipherSuite [key, plaintext] ciphertext
  | decrypt (ad key ciphertext plaintext : Bytes β)
      (opened : cipherSuite.se.decrypt ad key ciphertext = some plaintext) :
      Evaluates cipherSuite [key, ciphertext] plaintext

/-- An atom is not the output of a function. -/
structure CipherSuite.Atomic (cipherSuite : CipherSuite β) (value : Bytes β) : Prop where
  inert : cipherSuite.Inert value
  encapsSecret : ∀ coins theirKey, (cipherSuite.kem.encapsulate coins theirKey).1 ≠ value
  encapsCiphertext : ∀ coins theirKey, (cipherSuite.kem.encapsulate coins theirKey).2 ≠ value
  decaps : ∀ ourKey ciphertext, cipherSuite.kem.decaps ourKey ciphertext ≠ value

/-- An encapsulated secret comes from its coins or from a matching private key, and from nothing
else. -/
structure CipherSuite.OneWay (cipherSuite : CipherSuite β) : Prop where
  encapsInjective : ∀ coins theirKey coins' theirKey',
    (cipherSuite.kem.encapsulate coins theirKey).1 =
      (cipherSuite.kem.encapsulate coins' theirKey').1 → coins = coins' ∧ theirKey = theirKey'
  ciphertextApart : ∀ coins theirKey coins' theirKey',
    (cipherSuite.kem.encapsulate coins theirKey).2 ≠
      (cipherSuite.kem.encapsulate coins' theirKey').1
  decapsMatching : ∀ ourKey ciphertext coins theirKey,
    cipherSuite.kem.decaps ourKey ciphertext = (cipherSuite.kem.encapsulate coins theirKey).1 →
      cipherSuite.kem.Matching theirKey ourKey
  privateKeyAtomic : ∀ theirKey ourKey, cipherSuite.kem.Matching theirKey ourKey →
    cipherSuite.Atomic ourKey

/-- A value is tainted by fresh coins when it is one of them, their encapsulated secret, a private
key that opens them, or a key that is derived from a tainted value. -/
inductive Tainted (cipherSuite : CipherSuite β) (theirKey : Bytes β) (fresh : Set (Bytes β)) :
    Bytes β → Prop
  | coins {coins : Bytes β} (member : coins ∈ fresh) : Tainted cipherSuite theirKey fresh coins
  | privateKey {ourKey : Bytes β} (matching : cipherSuite.kem.Matching theirKey ourKey) :
      Tainted cipherSuite theirKey fresh ourKey
  | secret {coins : Bytes β} (member : coins ∈ fresh) :
      Tainted cipherSuite theirKey fresh (cipherSuite.kem.encapsulate coins theirKey).1
  | derived (derivation : Derivation β) {input : Bytes β} (member : input ∈ derivation.inputs)
      (tainted : Tainted cipherSuite theirKey fresh input) :
      Tainted cipherSuite theirKey fresh (cipherSuite.derive derivation)

/-- These values never open to a tainted one. -/
def Untainted (cipherSuite : CipherSuite β) (theirKey : Bytes β) (fresh : Set (Bytes β)) :
    Set (Bytes β) :=
  Safe cipherSuite {value | Tainted cipherSuite theirKey fresh value}

section Taint

variable {theirKey value : Bytes β} {fresh : Set (Bytes β)}

theorem Untainted.clean (untainted : value ∈ Untainted cipherSuite theirKey fresh) :
    ¬ Tainted cipherSuite theirKey fresh value :=
  untainted value .refl

/-- A value that does not open is untainted when it is not itself tainted. -/
theorem untainted_of_unopened (unopened : ∀ ad key, cipherSuite.se.decrypt ad key value = none)
    (clean : ¬ Tainted cipherSuite theirKey fresh value) :
    value ∈ Untainted cipherSuite theirKey fresh :=
  safe_of_unopened unopened clean

variable (free : cipherSuite.Free) (oneWay : cipherSuite.OneWay)
  (atomic : ∀ coins ∈ fresh, cipherSuite.Atomic coins)

include free oneWay atomic

/-- A tainted key was derived from a tainted value. -/
theorem Tainted.of_derived {derivation : Derivation β}
    (tainted : Tainted cipherSuite theirKey fresh (cipherSuite.derive derivation)) :
    ∃ input ∈ derivation.inputs, Tainted cipherSuite theirKey fresh input := by
  generalize same : cipherSuite.derive derivation = key at tainted
  cases tainted with
  | coins member => exact absurd same ((atomic _ member).inert.underived derivation)
  | privateKey matching =>
      exact absurd same ((oneWay.privateKeyAtomic _ _ matching).inert.underived derivation)
  | secret member => exact absurd same ((free.encapsSecret _ _).underived derivation)
  | derived other member tainted =>
      cases free.keys same
      exact ⟨_, member, tainted⟩

omit oneWay atomic free in
/-- A tainted value that is not derived comes from the encapsulation. -/
theorem Tainted.of_inert (inert : cipherSuite.Inert value)
    (tainted : Tainted cipherSuite theirKey fresh value) :
    value ∈ fresh ∨ cipherSuite.kem.Matching theirKey value ∨
      ∃ coins ∈ fresh, value = (cipherSuite.kem.encapsulate coins theirKey).1 := by
  cases tainted with
  | coins member => exact Or.inl member
  | privateKey matching => exact Or.inr (Or.inl matching)
  | secret member => exact Or.inr (Or.inr ⟨_, member, rfl⟩)
  | derived derivation member tainted => exact absurd rfl (inert.underived derivation)

/-- Only the fresh coins and the private key of their receiver lead to a tainted secret. -/
theorem Tainted.of_encapsSecret {coins otherKey : Bytes β}
    (tainted : Tainted cipherSuite theirKey fresh
      (cipherSuite.kem.encapsulate coins otherKey).1) :
    coins ∈ fresh ∧ otherKey = theirKey := by
  rcases tainted.of_inert (free.encapsSecret coins otherKey) with
    member | matching | ⟨others, member, same⟩
  · exact absurd rfl ((atomic _ member).encapsSecret coins otherKey)
  · exact absurd rfl ((oneWay.privateKeyAtomic _ _ matching).encapsSecret coins otherKey)
  · obtain ⟨rfl, sameKey⟩ := oneWay.encapsInjective _ _ _ _ same
    exact ⟨member, sameKey⟩

theorem encapsCiphertext_untainted (coins otherKey : Bytes β) :
    (cipherSuite.kem.encapsulate coins otherKey).2 ∈ Untainted cipherSuite theirKey fresh := by
  refine untainted_of_unopened (free.encapsCiphertext coins otherKey).unopened ?_
  intro tainted
  rcases tainted.of_inert (free.encapsCiphertext coins otherKey) with
    member | matching | ⟨others, -, same⟩
  · exact (atomic _ member).encapsCiphertext coins otherKey rfl
  · exact (oneWay.privateKeyAtomic _ _ matching).encapsCiphertext coins otherKey rfl
  · exact oneWay.ciphertextApart _ _ _ _ same

/-- A private key of another receiver does not lead to a tainted secret. -/
theorem decaps_untainted {ourKey : Bytes β} (ciphertext : Bytes β)
    (clean : ¬ Tainted cipherSuite theirKey fresh ourKey) :
    cipherSuite.kem.decaps ourKey ciphertext ∈ Untainted cipherSuite theirKey fresh := by
  refine untainted_of_unopened (free.decaps ourKey ciphertext).unopened ?_
  intro tainted
  rcases tainted.of_inert (free.decaps ourKey ciphertext) with
    member | matching | ⟨coins, -, same⟩
  · exact (atomic _ member).decaps ourKey ciphertext rfl
  · exact (oneWay.privateKeyAtomic _ _ matching).decaps ourKey ciphertext rfl
  · exact clean (.privateKey (oneWay.decapsMatching _ _ _ _ same))

theorem derive_untainted (derivation : Derivation β)
    (clean : ∀ input ∈ derivation.inputs, ¬ Tainted cipherSuite theirKey fresh input) :
    cipherSuite.derive derivation ∈ Untainted cipherSuite theirKey fresh := by
  refine untainted_of_unopened (free.derivedUnopened derivation) ?_
  intro tainted
  obtain ⟨input, member, other⟩ := tainted.of_derived free oneWay atomic
  exact clean input member other

/-- An encryption opens to its plaintext only. -/
theorem encrypt_untainted {ad key plaintext ciphertext : Bytes β}
    (encrypted : cipherSuite.se.encrypt ad key plaintext = some ciphertext)
    (untainted : plaintext ∈ Untainted cipherSuite theirKey fresh) :
    ciphertext ∈ Untainted cipherSuite theirKey fresh := by
  have opens := free.correct _ _ _ _ encrypted
  intro inner path
  rcases path.cases_head with rfl | ⟨next, ⟨ad', key', opened⟩, rest⟩
  · intro tainted
    have inert : ∀ {value}, cipherSuite.Inert value → ciphertext ≠ value := by
      rintro value inert rfl
      rw [inert.unopened] at opens
      cases opens
    cases tainted with
    | coins member => exact inert (atomic _ member).inert rfl
    | privateKey matching => exact inert (oneWay.privateKeyAtomic _ _ matching).inert rfl
    | secret member => exact inert (free.encapsSecret _ _) rfl
    | derived derivation member tainted =>
        rw [free.derivedUnopened] at opens
        cases opens
  · obtain ⟨-, -, rfl⟩ := free.ideal _ _ _ _ _ _ _ opens opened
    exact untainted inner rest

/-- Evaluation does not lead from untainted values to tainted ones. -/
theorem untainted_closed :
    Deduction.Closed (Evaluates cipherSuite) (Untainted cipherSuite theirKey fresh) := by
  intro premises conclusion step untainted
  have clean : ∀ premise ∈ premises, ¬ Tainted cipherSuite theirKey fresh premise :=
    fun premise member => Untainted.clean (untainted premise member)
  cases step with
  | derive derivation => exact derive_untainted free oneWay atomic derivation clean
  | encapsSecret coins otherKey =>
      refine untainted_of_unopened (free.encapsSecret coins otherKey).unopened ?_
      intro tainted
      obtain ⟨member, -⟩ := tainted.of_encapsSecret free oneWay atomic
      exact clean coins (by simp) (.coins member)
  | encapsCiphertext coins otherKey => exact encapsCiphertext_untainted free oneWay atomic _ _
  | decaps ourKey ciphertext =>
      exact decaps_untainted free oneWay atomic ciphertext (clean ourKey (by simp))
  | encrypt ad key plaintext ciphertext encrypted =>
      exact encrypt_untainted free oneWay atomic encrypted (untainted plaintext (by simp))
  | decrypt ad key ciphertext plaintext opened =>
      intro inner path
      exact untainted ciphertext (by simp) inner (.head ⟨ad, key, opened⟩ path)

end Taint

namespace Symbolic

theorem atomic_of_head {head : FreeTerm} {tail : Bytes FreeTerm}
    (kind : (∃ value, head = .byte value) ∨ ∃ seed, head = .privateKey seed 0) :
    symbolicSuite.Atomic (head :: tail) where
  inert := by
    rcases kind with ⟨value, rfl⟩ | ⟨seed, rfl⟩ <;> exact inert_of_head rfl rfl
  encapsSecret coins theirKey := by
    rcases kind with ⟨value, rfl⟩ | ⟨seed, rfl⟩ <;>
      simp [symbolicSuite, kemSuite, KemSuite.encapsulate]
  encapsCiphertext coins theirKey := by
    rcases kind with ⟨value, rfl⟩ | ⟨seed, rfl⟩ <;>
      simp [symbolicSuite, kemSuite, KemSuite.encapsulate]
  decaps ourKey ciphertext := by
    have opened : ∃ inner, decaps ourKey ciphertext = inner ∧
        ∀ rest, inner ≠ head :: rest := by
      refine ⟨_, rfl, ?_⟩
      intro rest
      unfold decaps
      rcases kind with ⟨value, rfl⟩ | ⟨seed, rfl⟩ <;> split <;> (try split) <;> simp
    obtain ⟨inner, same, different⟩ := opened
    show decaps ourKey ciphertext ≠ head :: tail
    rw [same]
    exact different tail

/-- Decapsulation returns the encapsulated secret only with the private key of the receiver. -/
theorem decaps_secret {ourKey ciphertext coins theirKey : Bytes FreeTerm}
    (opened : decaps ourKey ciphertext =
      [.kemSecret (FreeTerm.pack theirKey) (FreeTerm.pack coins) 0]) :
    ∃ seed, ourKey = [.privateKey seed 0] ∧ theirKey = [.publicKey seed 0] := by
  unfold decaps at opened
  split at opened
  case h_1 seed target inner =>
    split at opened
    case isTrue same =>
      simp only [List.cons.injEq, FreeTerm.kemSecret.injEq, and_true] at opened
      refine ⟨seed, rfl, ?_⟩
      rw [opened.1] at same
      exact FreeTerm.pack_inj.mp same
    case isFalse => simp at opened
  case h_2 => simp at opened

theorem matching_head {theirKey ourKey : Bytes FreeTerm}
    (matching : symbolicSuite.kem.Matching theirKey ourKey) :
    ∃ seed, ourKey = [.privateKey seed 0] ∧ theirKey = [.publicKey seed 0] :=
  decaps_secret (matching [])

end Symbolic

theorem symbolicSuite_oneWay : symbolicSuite.OneWay where
  encapsInjective coins theirKey coins' theirKey' same := by
    simp only [symbolicSuite, Symbolic.kemSuite, KemSuite.encapsulate, List.cons.injEq,
      FreeTerm.kemSecret.injEq, FreeTerm.pack_inj, and_true] at same
    exact ⟨same.2, same.1⟩
  ciphertextApart coins theirKey coins' theirKey' := by
    simp [symbolicSuite, Symbolic.kemSuite, KemSuite.encapsulate]
  decapsMatching ourKey ciphertext coins theirKey opened := by
    obtain ⟨seed, rfl, rfl⟩ := Symbolic.decaps_secret opened
    intro others
    simp [symbolicSuite, Symbolic.kemSuite, KemSuite.encapsulate, Symbolic.decaps]
  privateKeyAtomic theirKey ourKey matching := by
    obtain ⟨seed, rfl, -⟩ := Symbolic.matching_head matching
    exact Symbolic.atomic_of_head (Or.inr ⟨seed, rfl⟩)

end E2eeSecurity
