/-
This file gives the accounts of `account.c`, their published keys, and the checks on both.
-/
import E2eeSecurity.Ratchet.State
import Mathlib.Data.List.Basic

namespace E2eeSecurity

/-- The optional display names are left out, because no comparison reads them. -/
inductive Peer
  | user (userId deviceId : String)
  | group (groupId : String)
  deriving DecidableEq

structure E2eeAddress where
  domain : String
  peer : Peer
  deriving DecidableEq

/-- A group address has no user to read. -/
def E2eeAddress.userId (address : E2eeAddress) : Option String :=
  match address.peer with
  | .user userId _ => some userId
  | .group _ => none

structure IdentityKey (β : Type) where
  asymKeyPair : KeyPair β
  signKeyPair : KeyPair β
  deriving DecidableEq

structure SignedPreKey (β : Type) where
  spkId : UInt32
  keyPair : KeyPair β
  signature : Bytes β
  deriving DecidableEq

structure OneTimePreKey (β : Type) where
  opkId : UInt32
  used : Bool
  keyPair : KeyPair β
  deriving DecidableEq

/-- A missing address is a null pointer, as in an account that is not yet registered.
An empty string also stands for a null string. -/
structure Account (β : Type) where
  e2eesPackId : UInt32
  address : Option E2eeAddress
  identityKey : IdentityKey β
  signedPreKey : SignedPreKey β
  oneTimePreKeyList : List (OneTimePreKey β)
  password : String
  auth : String
  deriving DecidableEq

structure IdentityKeyPublic (β : Type) where
  asymPublicKey : Bytes β
  signPublicKey : Bytes β
  deriving DecidableEq

structure SignedPreKeyPublic (β : Type) where
  spkId : UInt32
  publicKey : Bytes β
  signature : Bytes β
  deriving DecidableEq

structure OneTimePreKeyPublic (β : Type) where
  opkId : UInt32
  publicKey : Bytes β
  deriving DecidableEq

/-- The server leaves out the one-time pre-key when none is in stock. -/
structure PreKeyBundle (β : Type) where
  e2eesPackId : UInt32
  userAddress : E2eeAddress
  identityKeyPublic : IdentityKeyPublic β
  signedPreKeyPublic : SignedPreKeyPublic β
  oneTimePreKeyPublic : Option (OneTimePreKeyPublic β)
  deriving DecidableEq

variable {β : Type}

/-- The pack identifier selects the suites of one cipher suite. -/
abbrev Packs (β : Type) := UInt32 → Option (CipherSuite β)

def isValidE2eesPackId (getE2eesPack : Packs β) (e2eesPackId : UInt32) : Bool :=
  (getE2eesPack e2eesPackId).any isValidCipherSuite

def isValidString (string : String) : Bool := string != ""

def isValidAddress (address : E2eeAddress) : Bool :=
  isValidString address.domain &&
    match address.peer with
    | .user userId deviceId => isValidString userId && isValidString deviceId
    | .group groupId => isValidString groupId

def isValidIdentityKey (identityKey : IdentityKey β) : Bool :=
  isValidKeyPair identityKey.asymKeyPair && isValidKeyPair identityKey.signKeyPair

def isValidSignedPreKey (signedPreKey : SignedPreKey β) : Bool :=
  isValidKeyPair signedPreKey.keyPair && isValidProtobuf signedPreKey.signature

def isValidOneTimePreKey (oneTimePreKey : OneTimePreKey β) : Bool :=
  isValidKeyPair oneTimePreKey.keyPair

def isValidRegisteredAccount (getE2eesPack : Packs β) (account : Account β) : Bool :=
  isValidE2eesPackId getE2eesPack account.e2eesPackId && account.address.any isValidAddress &&
    isValidIdentityKey account.identityKey && isValidSignedPreKey account.signedPreKey &&
    account.oneTimePreKeyList.all isValidOneTimePreKey && isValidString account.password &&
    isValidString account.auth

def isValidIdentityKeyPublic (key : IdentityKeyPublic β) : Bool :=
  isValidProtobuf key.asymPublicKey && isValidProtobuf key.signPublicKey

def isValidSignedPreKeyPublic (key : SignedPreKeyPublic β) : Bool :=
  isValidProtobuf key.publicKey && isValidProtobuf key.signature

/-- The one-time pre-key is not checked here, because it may be out of stock. -/
def isValidPreKeyBundle (bundle : PreKeyBundle β) : Bool :=
  isValidAddress bundle.userAddress && isValidIdentityKeyPublic bundle.identityKeyPublic &&
    isValidSignedPreKeyPublic bundle.signedPreKeyPublic

def lookupOneTimePreKey (account : Account β) (oneTimePreKeyId : UInt32) :
    Option (OneTimePreKey β) :=
  account.oneTimePreKeyList.find? fun key => key.opkId == oneTimePreKeyId

/-- Only the first key with the identifier is marked. -/
def markUsed (opkId : UInt32) : List (OneTimePreKey β) → List (OneTimePreKey β)
  | [] => []
  | key :: rest =>
      if key.opkId = opkId then { key with used := true } :: rest else key :: markUsed opkId rest

def markOpkAsUsed (account : Account β) (opkId : UInt32) : Account β :=
  { account with oneTimePreKeyList := markUsed opkId account.oneTimePreKeyList }

section Generation

/-- The initial stock of one-time pre-keys, `E2EES_ONE_TIME_PRE_KEY_INITIAL_NUM`. -/
def oneTimePreKeyInitialNum : Nat := 100

/-- This is the randomness that one new account draws. -/
structure AccountCoins (β : Type) where
  asymKey : Bytes β
  signKey : Bytes β
  signedPreKey : Bytes β
  signature : Bytes β
  oneTimePreKey : Nat → Bytes β

def accurateKeyPair (pair : KeyPair β) (pubKeyLen privKeyLen : Nat) : Bool :=
  pair.publicKey.length == pubKeyLen && pair.privateKey.length == privKeyLen

/-- All three generators of encryption keys run this step. -/
def generateAsymKeyPair (cipherSuite : CipherSuite β) (coins : Bytes β) : Option (KeyPair β) :=
  let pair : KeyPair β :=
    ⟨(cipherSuite.kem.asymKeyGen coins).1, (cipherSuite.kem.asymKeyGen coins).2⟩
  if accurateKeyPair pair cipherSuite.kem.asymPubKeyLen cipherSuite.kem.asymPrivKeyLen then
    some pair else none

def generateIdentityKey (cipherSuite : CipherSuite β) (asymCoins signCoins : Bytes β) :
    Option (IdentityKey β) := do
  let asymKeyPair ← generateAsymKeyPair cipherSuite asymCoins
  let signKeyPair : KeyPair β :=
    ⟨(cipherSuite.ds.dsKeyGen signCoins).1, (cipherSuite.ds.dsKeyGen signCoins).2⟩
  if accurateKeyPair signKeyPair cipherSuite.ds.signPubKeyLen cipherSuite.ds.signPrivKeyLen then
    some ⟨asymKeyPair, signKeyPair⟩ else none

/-- A signature may be shorter than the announced length here. -/
def generateSignedPreKey (cipherSuite : CipherSuite β) (curSpkId : UInt32)
    (identityPrivateKey keyCoins signatureCoins : Bytes β) : Option (SignedPreKey β) := do
  let keyPair ← generateAsymKeyPair cipherSuite keyCoins
  let signature := cipherSuite.ds.sign signatureCoins keyPair.publicKey identityPrivateKey
  if cipherSuite.ds.sigLen < signature.length then none
    else some ⟨curSpkId + 1, keyPair, signature⟩

/-- The loop appends one key at a time and stops at the first key that fails. -/
def generateOpks (cipherSuite : CipherSuite β) (curOpkId : UInt32) (coins : Nat → Bytes β) :
    Nat → Option (List (OneTimePreKey β))
  | 0 => some []
  | count + 1 => do
      let keys ← generateOpks cipherSuite curOpkId coins count
      let keyPair ← generateAsymKeyPair cipherSuite (coins count)
      some (keys ++ [⟨curOpkId + UInt32.ofNat count, false, keyPair⟩])

/-- Signed pre-keys count from 1 and one-time pre-keys also count from 1. -/
def createAccount (getE2eesPack : Packs β) (e2eesPackId : UInt32) (coins : AccountCoins β) :
    Option (Account β) := do
  let cipherSuite ← getE2eesPack e2eesPackId
  if isValidCipherSuite cipherSuite then
    let identityKey ← generateIdentityKey cipherSuite coins.asymKey coins.signKey
    let signedPreKey ← generateSignedPreKey cipherSuite 0 identityKey.signKeyPair.privateKey
      coins.signedPreKey coins.signature
    let oneTimePreKeyList ←
      generateOpks cipherSuite 1 coins.oneTimePreKey oneTimePreKeyInitialNum
    some {
      e2eesPackId := e2eesPackId
      address := none
      identityKey := identityKey
      signedPreKey := signedPreKey
      oneTimePreKeyList := oneTimePreKeyList
      password := ""
      auth := "" }
  else none

end Generation

/-- The pair comes out of the key generation of the suite. -/
def KemSuite.Generated (kem : KemSuite β) (pair : KeyPair β) : Prop :=
  ∃ coins, kem.asymKeyGen coins = (pair.publicKey, pair.privateKey)

/-- Every generated pair matches. -/
def KemSuite.Correct (kem : KemSuite β) : Prop :=
  ∀ coins, kem.Matching (kem.asymKeyGen coins).1 (kem.asymKeyGen coins).2

/-- All keys of the account come out of the key generation of one suite. -/
structure Account.Keyed (account : Account β) (cipherSuite : CipherSuite β) : Prop where
  identityKey : cipherSuite.kem.Generated account.identityKey.asymKeyPair
  signKey : ∃ coins, cipherSuite.ds.dsKeyGen coins =
    (account.identityKey.signKeyPair.publicKey, account.identityKey.signKeyPair.privateKey)
  signedPreKey : cipherSuite.kem.Generated account.signedPreKey.keyPair
  oneTimePreKey : ∀ key ∈ account.oneTimePreKeyList, cipherSuite.kem.Generated key.keyPair

section Facts

variable {cipherSuite : CipherSuite β}

theorem KemSuite.Generated.matching {kem : KemSuite β} {pair : KeyPair β}
    (generated : kem.Generated pair) (correct : kem.Correct) :
    kem.Matching pair.publicKey pair.privateKey := by
  obtain ⟨coins, made⟩ := generated
  have matching := correct coins
  rw [made] at matching
  exact matching

theorem KemSuite.Generated.lengths {kem : KemSuite β} {pair : KeyPair β}
    (generated : kem.Generated pair) :
    pair.publicKey.length = kem.asymPubKeyLen ∧ pair.privateKey.length = kem.asymPrivKeyLen := by
  obtain ⟨coins, made⟩ := generated
  have lengths := kem.asymKeyGenLength coins
  rw [made] at lengths
  exact lengths

theorem KemSuite.Generated.valid {kem : KemSuite β} {pair : KeyPair β}
    (generated : kem.Generated pair) : isValidKeyPair pair = true := by
  obtain ⟨publicLength, privateLength⟩ := generated.lengths
  simp only [isValidKeyPair, Bool.and_eq_true]
  exact ⟨isValidProtobuf_of_length privateLength kem.asymPrivKeyLenPositive,
    isValidProtobuf_of_length publicLength kem.asymPubKeyLenPositive⟩

/-- The generated lengths are the announced ones. -/
theorem generateAsymKeyPair_some (cipherSuite : CipherSuite β) (coins : Bytes β) :
    ∃ pair, generateAsymKeyPair cipherSuite coins = some pair ∧
      cipherSuite.kem.Generated pair := by
  obtain ⟨publicLength, privateLength⟩ := cipherSuite.kem.asymKeyGenLength coins
  refine ⟨⟨_, _⟩, ?_, coins, rfl⟩
  simp [generateAsymKeyPair, accurateKeyPair, publicLength, privateLength]

theorem generateIdentityKey_some (cipherSuite : CipherSuite β) (asymCoins signCoins : Bytes β) :
    ∃ identityKey, generateIdentityKey cipherSuite asymCoins signCoins = some identityKey ∧
      cipherSuite.kem.Generated identityKey.asymKeyPair ∧
      cipherSuite.ds.dsKeyGen signCoins =
        (identityKey.signKeyPair.publicKey, identityKey.signKeyPair.privateKey) := by
  obtain ⟨pair, made, generated⟩ := generateAsymKeyPair_some cipherSuite asymCoins
  obtain ⟨publicLength, privateLength⟩ := cipherSuite.ds.dsKeyGenLength signCoins
  refine ⟨⟨pair, ⟨(cipherSuite.ds.dsKeyGen signCoins).1, (cipherSuite.ds.dsKeyGen signCoins).2⟩⟩,
    ?_, generated, rfl⟩
  simp only [generateIdentityKey, made, accurateKeyPair, publicLength, privateLength,
    Option.bind_eq_bind, Option.bind_some, beq_self_eq_true, Bool.and_self, if_true]

theorem generateSignedPreKey_some (cipherSuite : CipherSuite β) (curSpkId : UInt32)
    (identityPrivateKey keyCoins signatureCoins : Bytes β) :
    ∃ signedPreKey, generateSignedPreKey cipherSuite curSpkId identityPrivateKey keyCoins
        signatureCoins = some signedPreKey ∧
      cipherSuite.kem.Generated signedPreKey.keyPair := by
  obtain ⟨pair, made, generated⟩ := generateAsymKeyPair_some cipherSuite keyCoins
  have fits := cipherSuite.ds.signLength signatureCoins pair.publicKey identityPrivateKey
  refine ⟨⟨curSpkId + 1, pair,
    cipherSuite.ds.sign signatureCoins pair.publicKey identityPrivateKey⟩, ?_, generated⟩
  simp only [generateSignedPreKey, made, Option.bind_eq_bind, Option.bind_some,
    if_neg (Nat.not_lt.mpr fits)]

/-- The stock is complete, and its identifiers count up from the first one. -/
theorem generateOpks_some (cipherSuite : CipherSuite β) (curOpkId : UInt32)
    (coins : Nat → Bytes β) (count : Nat) :
    ∃ keys, generateOpks cipherSuite curOpkId coins count = some keys ∧
      (∀ key ∈ keys, cipherSuite.kem.Generated key.keyPair) ∧
      keys.map (fun key => key.opkId) =
        (List.range count).map fun offset => curOpkId + UInt32.ofNat offset := by
  induction count with
  | zero => exact ⟨[], rfl, by simp, rfl⟩
  | succ count ih =>
      obtain ⟨keys, made, generated, numbered⟩ := ih
      obtain ⟨pair, drawn, fresh⟩ := generateAsymKeyPair_some cipherSuite (coins count)
      refine ⟨keys ++ [⟨curOpkId + UInt32.ofNat count, false, pair⟩], ?_, ?_, ?_⟩
      · simp [generateOpks, made, drawn]
      · intro key member
        rw [List.mem_append, List.mem_singleton] at member
        obtain old | rfl := member
        · exact generated key old
        · exact fresh
      · simp [numbered, List.range_succ]

/-- A new account holds generated keys, and no one-time pre-key has the identifier 0. -/
theorem createAccount_keyed {getE2eesPack : Packs β} {e2eesPackId : UInt32}
    (present : getE2eesPack e2eesPackId = some cipherSuite)
    (valid : isValidCipherSuite cipherSuite = true) (coins : AccountCoins β) :
    ∃ account, createAccount getE2eesPack e2eesPackId coins = some account ∧
      account.e2eesPackId = e2eesPackId ∧ account.Keyed cipherSuite ∧
      ∀ key ∈ account.oneTimePreKeyList, key.opkId ≠ 0 := by
  obtain ⟨identityKey, identityMade, identityGenerated, signGenerated⟩ :=
    generateIdentityKey_some cipherSuite coins.asymKey coins.signKey
  obtain ⟨signedPreKey, signedMade, signedGenerated⟩ := generateSignedPreKey_some cipherSuite 0
    identityKey.signKeyPair.privateKey coins.signedPreKey coins.signature
  obtain ⟨keys, keysMade, keysGenerated, numbered⟩ :=
    generateOpks_some cipherSuite 1 coins.oneTimePreKey oneTimePreKeyInitialNum
  refine ⟨⟨e2eesPackId, none, identityKey, signedPreKey, keys, "", ""⟩, ?_, rfl,
    ⟨identityGenerated, ⟨coins.signKey, signGenerated⟩, signedGenerated, keysGenerated⟩, ?_⟩
  · simp only [createAccount, present, valid, identityMade, signedMade, keysMade,
      Option.bind_eq_bind, Option.bind_some, if_true]
  · intro key member zero
    have listed : key.opkId ∈ keys.map fun key => key.opkId := List.mem_map_of_mem member
    rw [numbered, List.mem_map] at listed
    obtain ⟨offset, small, same⟩ := listed
    rw [List.mem_range, oneTimePreKeyInitialNum] at small
    rw [zero] at same
    have value := congrArg UInt32.toNat same
    simp [UInt32.toNat_add] at value
    omega

end Facts

end E2eeSecurity
