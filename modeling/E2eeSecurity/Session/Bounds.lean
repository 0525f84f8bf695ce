/-
This file lists what the answer to an invitation reads out of the message, and when all of it is
there.
-/
import E2eeSecurity.Session.Inbound

namespace E2eeSecurity

variable {β : Type}

/-- These are the byte strings of an invitation that the call reads through their pointers. -/
inductive InviteField where
  | aliceIdentityKey
  | aliceBaseKey
  | preSharedInput (position : Nat)
  deriving DecidableEq

/-- The first `len` bytes of a field are read, however long the field is. -/
structure InviteRead where
  field : InviteField
  len : Nat
  deriving DecidableEq

/-- A list entry behind the end has no bytes. -/
def InviteMsg.bytes (msg : InviteMsg β) : InviteField → Option (Bytes β)
  | .aliceIdentityKey => some msg.aliceIdentityKey
  | .aliceBaseKey => some msg.aliceBaseKey
  | .preSharedInput position => msg.preSharedInputList[position]?

def InviteRead.InRange (msg : InviteMsg β) (read : InviteRead) : Prop :=
  (msg.bytes read.field).any (fun bytes => read.len ≤ bytes.length) = true

instance InviteRead.decidableInRange (msg : InviteMsg β) (read : InviteRead) :
    Decidable (read.InRange msg) :=
  inferInstanceAs (Decidable (_ = true))

section Reads

/-- Encapsulation reads a public key, whatever its length. -/
def encapsReads (cipherSuite : CipherSuite β) (theirKey : InviteField) : List InviteRead :=
  [⟨theirKey, cipherSuite.kem.asymPubKeyLen⟩]

/-- Decapsulation reads a ciphertext, whatever its length. -/
def decapsReads (cipherSuite : CipherSuite β) (ciphertext : InviteField) : List InviteRead :=
  [⟨ciphertext, cipherSuite.kem.kemCiphertextLen⟩]

/-- The base key is encapsulated to, and then copied with its own length. -/
def initialiseAsBobReads (cipherSuite : CipherSuite β) (sharedSecret : Bytes β)
    (ourRatchetKey : KeyPair β) (theirRatchetKey : Bytes β) : List InviteRead :=
  if isValidCipherSuite cipherSuite && isValidProtobuf sharedSecret &&
      isValidKeyPair ourRatchetKey && isValidProtobuf theirRatchetKey then
    encapsReads cipherSuite .aliceBaseKey ++ [⟨.aliceBaseKey, theirRatchetKey.length⟩]
  else []

/-- The associated data and the fingerprint copy the identity key before the four slots are
computed. -/
def inboundSessionReads (cipherSuite : CipherSuite β) (identityKey signedPreKey : KeyPair β)
    (oneTimePreKey : Option (KeyPair β)) (msg : InviteMsg β) (coins : Bytes β) :
    List InviteRead :=
  [⟨.aliceIdentityKey, cipherSuite.kem.asymPubKeyLen⟩,
    ⟨.aliceIdentityKey, cipherSuite.kem.asymPubKeyLen⟩] ++
    encapsReads cipherSuite .aliceIdentityKey ++
    decapsReads cipherSuite (.preSharedInput 0) ++ decapsReads cipherSuite (.preSharedInput 1) ++
    (oneTimePreKey.map fun _ => decapsReads cipherSuite (.preSharedInput 2)).getD [] ++
    initialiseAsBobReads cipherSuite
      (inboundSecret cipherSuite identityKey signedPreKey oneTimePreKey msg coins) signedPreKey
      msg.aliceBaseKey

/-- A call that fails one of its checks reads nothing through the pointers of the message. -/
def pqcNewInboundSessionReads (getE2eesPack : Packs β) (store : Store β) (account : Account β)
    (msg : InviteMsg β) (coins : InboundCoins β) : List InviteRead :=
  if isValidRegisteredAccount getE2eesPack account && isValidInviteMsg getE2eesPack msg then
    match account.address, getE2eesPack msg.e2eesPackId with
    | some address, some cipherSuite =>
        match chooseSignedPreKey store account address msg.bobSignedPreKeyId,
            chooseOneTimePreKey account msg.bobOneTimePreKeyId with
        | some signedPreKey, some oneTimePreKey =>
            let identityPair := account.identityKey.asymKeyPair
            let oneTimePair := oneTimePreKey.map fun key => key.keyPair
            if privateKeysFit cipherSuite
                ([identityPair, signedPreKey.keyPair] ++ oneTimePair.toList) then
              inboundSessionReads cipherSuite identityPair signedPreKey.keyPair oneTimePair msg
                coins.identityKey
            else []
        | _, _ => []
    | _, _ => []
  else []

end Reads

/-- The number of ciphertexts that the call needs depends on the one-time pre-key. -/
def InviteMsg.ciphertextsNeeded (msg : InviteMsg β) : Nat :=
  if msg.bobOneTimePreKeyId = 0 then 2 else 3

/-- The keys and the ciphertexts of the message are as long as the suite needs them. -/
structure InviteMsg.Fits (msg : InviteMsg β) (cipherSuite : CipherSuite β) : Prop where
  identityKey : cipherSuite.kem.asymPubKeyLen ≤ msg.aliceIdentityKey.length
  baseKey : cipherSuite.kem.asymPubKeyLen ≤ msg.aliceBaseKey.length
  ciphertexts : msg.ciphertextsNeeded ≤ msg.preSharedInputList.length
  ciphertextLens : ∀ ciphertext ∈ msg.preSharedInputList.take msg.ciphertextsNeeded,
    cipherSuite.kem.kemCiphertextLen ≤ ciphertext.length

section Outcome

variable {getE2eesPack : Packs β} {store : Store β} {account : Account β} {msg : InviteMsg β}

/-- The reads follow the lookup of the keys. -/
theorem pqcNewInboundSessionReads_outcome (coins : InboundCoins β) :
    pqcNewInboundSessionReads getE2eesPack store account msg coins =
      match inboundKeys getE2eesPack store account msg with
      | none => []
      | some keys =>
          if privateKeysFit keys.cipherSuite (keys.pairs account) then
            inboundSessionReads keys.cipherSuite account.identityKey.asymKeyPair
              keys.signedPreKey.keyPair (keys.oneTimePreKey.map fun key => key.keyPair) msg
              coins.identityKey
          else [] := by
  unfold pqcNewInboundSessionReads inboundKeys
  split
  case isFalse => rfl
  case isTrue =>
    cases account.address with
    | none => rfl
    | some address =>
        cases getE2eesPack msg.e2eesPackId with
        | none => rfl
        | some cipherSuite =>
            cases signed : chooseSignedPreKey store account address msg.bobSignedPreKeyId with
            | none => simp [signed]
            | some signedPreKey =>
                cases oneTime : chooseOneTimePreKey account msg.bobOneTimePreKeyId with
                | none => simp [signed]
                | some oneTimePreKey =>
                    simp only [signed, Option.bind_eq_bind, Option.bind_some]
                    rfl

/-- The two or three decapsulations need as many ciphertexts of full length. -/
theorem ciphertexts_inRange_iff (cipherSuite : CipherSuite β) (msg : InviteMsg β) (needed : Nat) :
    (∀ position < needed,
        InviteRead.InRange msg ⟨.preSharedInput position, cipherSuite.kem.kemCiphertextLen⟩) ↔
      needed ≤ msg.preSharedInputList.length ∧
        ∀ ciphertext ∈ msg.preSharedInputList.take needed,
          cipherSuite.kem.kemCiphertextLen ≤ ciphertext.length := by
  have entry : ∀ position,
      InviteRead.InRange msg ⟨.preSharedInput position, cipherSuite.kem.kemCiphertextLen⟩ ↔
        ∃ ciphertext, msg.preSharedInputList[position]? = some ciphertext ∧
          cipherSuite.kem.kemCiphertextLen ≤ ciphertext.length := by
    intro position
    show (msg.preSharedInputList[position]?).any _ = true ↔ _
    cases msg.preSharedInputList[position]? with
    | none => simp
    | some ciphertext => simp
  constructor
  · intro inRange
    constructor
    · by_contra short
      obtain ⟨ciphertext, found, -⟩ := (entry _).mp
        (inRange msg.preSharedInputList.length (by omega))
      rw [List.getElem?_eq_none (Nat.le_refl _)] at found
      cases found
    · intro ciphertext listed
      obtain ⟨position, found⟩ := List.mem_iff_getElem?.mp listed
      rw [List.getElem?_take] at found
      split at found
      case isFalse => cases found
      case isTrue within =>
        obtain ⟨other, read, long⟩ := (entry position).mp (inRange position within)
        rw [found, Option.some.injEq] at read
        rw [read]
        exact long
  · rintro ⟨enough, long⟩ position within
    have present : position < msg.preSharedInputList.length := by omega
    apply (entry position).mpr
    refine ⟨msg.preSharedInputList[position], List.getElem?_eq_getElem present, ?_⟩
    apply long
    rw [List.mem_take_iff_getElem]
    exact ⟨position, by omega, rfl⟩

/-- The lookup finds a one-time pre-key exactly when the message names one. -/
theorem ciphertextsNeeded_eq {keys : InboundKeys β}
    (found : inboundKeys getE2eesPack store account msg = some keys) :
    msg.ciphertextsNeeded = if keys.oneTimePreKey = none then 2 else 3 := by
  obtain ⟨-, -, -, -, -, chosen⟩ := inboundKeys_some found
  rw [chooseOneTimePreKey] at chosen
  rw [InviteMsg.ciphertextsNeeded]
  split at chosen
  case isTrue named =>
    rw [Option.map_eq_some_iff] at chosen
    obtain ⟨key, -, same⟩ := chosen
    rw [if_neg named, ← same, if_neg (Option.some_ne_none key)]
  case isFalse unnamed =>
    rw [Option.some.injEq] at chosen
    rw [if_pos (not_ne_iff.mp unnamed), ← chosen, if_pos rfl]

/-- The reads of one call are those of the identity key, of the ciphertexts and of the base key. -/
theorem inboundSessionReads_inRange_iff {keys : InboundKeys β}
    (found : inboundKeys getE2eesPack store account msg = some keys) (coins : InboundCoins β) :
    (∀ read ∈ inboundSessionReads keys.cipherSuite account.identityKey.asymKeyPair
        keys.signedPreKey.keyPair (keys.oneTimePreKey.map fun key => key.keyPair) msg
        coins.identityKey,
      read.InRange msg) ↔ msg.Fits keys.cipherSuite := by
  obtain ⟨suite, secret, ours, base⟩ := inboundKeys_checked found coins
  rw [InboundKeys.secret] at secret
  have checked : (isValidCipherSuite keys.cipherSuite &&
      isValidProtobuf (inboundSecret keys.cipherSuite account.identityKey.asymKeyPair
        keys.signedPreKey.keyPair (keys.oneTimePreKey.map fun key => key.keyPair) msg
        coins.identityKey) && isValidKeyPair keys.signedPreKey.keyPair &&
      isValidProtobuf msg.aliceBaseKey) = true := by
    rw [suite, ours, (isValidProtobuf_iff _).mpr secret, (isValidProtobuf_iff _).mpr base]
    rfl
  have ciphertexts := ciphertexts_inRange_iff keys.cipherSuite msg msg.ciphertextsNeeded
  have identityKey : InviteRead.InRange msg
      ⟨.aliceIdentityKey, keys.cipherSuite.kem.asymPubKeyLen⟩ ↔
        keys.cipherSuite.kem.asymPubKeyLen ≤ msg.aliceIdentityKey.length := by
    show (some msg.aliceIdentityKey).any _ = true ↔ _
    rw [Option.any_some, decide_eq_true_eq]
  have baseKey : ∀ len, InviteRead.InRange msg ⟨.aliceBaseKey, len⟩ ↔
      len ≤ msg.aliceBaseKey.length := by
    intro len
    show (some msg.aliceBaseKey).any _ = true ↔ _
    rw [Option.any_some, decide_eq_true_eq]
  have slots : (∀ read ∈ inboundSessionReads keys.cipherSuite account.identityKey.asymKeyPair
        keys.signedPreKey.keyPair (keys.oneTimePreKey.map fun key => key.keyPair) msg
        coins.identityKey, read.InRange msg) ↔
      InviteRead.InRange msg ⟨.aliceIdentityKey, keys.cipherSuite.kem.asymPubKeyLen⟩ ∧
        (∀ position < msg.ciphertextsNeeded, InviteRead.InRange msg
          ⟨.preSharedInput position, keys.cipherSuite.kem.kemCiphertextLen⟩) ∧
        InviteRead.InRange msg ⟨.aliceBaseKey, keys.cipherSuite.kem.asymPubKeyLen⟩ := by
    have copied := (baseKey msg.aliceBaseKey.length).mpr (Nat.le_refl _)
    rw [inboundSessionReads, initialiseAsBobReads, if_pos checked, ciphertextsNeeded_eq found]
    cases keys.oneTimePreKey with
    | none =>
        simp only [encapsReads, decapsReads, Option.map_none, Option.getD_none,
          List.forall_mem_append, List.forall_mem_cons, List.not_mem_nil, if_true,
          Nat.forall_lt_succ_right, copied, Nat.not_lt_zero, IsEmpty.forall_iff, implies_true,
          and_true, true_and, and_self, and_assoc]
    | some key =>
        simp only [encapsReads, decapsReads, Option.map_some, Option.getD_some,
          List.forall_mem_append, List.forall_mem_cons, List.not_mem_nil, reduceCtorEq, if_false,
          Nat.forall_lt_succ_right, copied, Nat.not_lt_zero, IsEmpty.forall_iff, implies_true,
          and_true, true_and, and_self, and_assoc]
  rw [slots, identityKey, ciphertexts, baseKey]
  constructor
  · rintro ⟨ours, ⟨enough, long⟩, theirs⟩
    exact ⟨ours, theirs, enough, long⟩
  · intro fits
    exact ⟨fits.identityKey, ⟨fits.ciphertexts, fits.ciphertextLens⟩, fits.baseKey⟩

end Outcome

/-- All reads are in range unless the call passes its own checks and a length falls short. -/
theorem pqcNewInboundSessionReads_inRange_iff (getE2eesPack : Packs β) (store : Store β)
    (account : Account β) (msg : InviteMsg β) (coins : InboundCoins β) :
    (∀ read ∈ pqcNewInboundSessionReads getE2eesPack store account msg coins,
        read.InRange msg) ↔
      ∀ keys, inboundKeys getE2eesPack store account msg = some keys →
        privateKeysFit keys.cipherSuite (keys.pairs account) = true →
        msg.Fits keys.cipherSuite := by
  rw [pqcNewInboundSessionReads_outcome]
  cases found : inboundKeys getE2eesPack store account msg with
  | none => simp
  | some keys =>
      dsimp only
      by_cases fit : privateKeysFit keys.cipherSuite (keys.pairs account) = true
      · rw [if_pos fit, inboundSessionReads_inRange_iff found coins]
        constructor
        · rintro fits other same -
          rw [Option.some.injEq] at same
          rw [← same]
          exact fits
        · intro fits
          exact fits keys rfl fit
      · rw [if_neg fit]
        constructor
        · rintro - other same otherFit
          rw [Option.some.injEq] at same
          subst same
          exact absurd otherFit fit
        · intro _ read none
          cases none

/-- The invitation of Alice with only the first of its ciphertexts. -/
def Symbolic.shortInvitation : InviteMsg FreeTerm :=
  { Symbolic.invitation with
    preSharedInputList := Symbolic.invitation.preSharedInputList.take 1 }

/-- A valid invitation with one ciphertext is read behind its list. -/
theorem shortInvitation_outOfRange :
    isValidRegisteredAccount Symbolic.twoPacks Symbolic.bobAccount = true ∧
      isValidInviteMsg Symbolic.twoPacks Symbolic.shortInvitation = true ∧
      ¬ ∀ read ∈ pqcNewInboundSessionReads Symbolic.twoPacks Symbolic.bobStore
        Symbolic.bobAccount Symbolic.shortInvitation Symbolic.handshake.bobCoins,
          read.InRange Symbolic.shortInvitation := by
  decide

end E2eeSecurity
