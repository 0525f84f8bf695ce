/-
This file follows an invitation from its checks to the stored session, and the one-time pre-key
that is marked on the way.
-/
import E2eeSecurity.Session.Agreement

namespace E2eeSecurity

variable {β : Type}

/-- These are the keys that an invitation selects, under the account and the suite it names. -/
structure InboundKeys (β : Type) where
  address : E2eeAddress
  cipherSuite : CipherSuite β
  signedPreKey : SignedPreKey β
  oneTimePreKey : Option (OneTimePreKey β)

/-- These are all checks before a one-time pre-key is marked. -/
def inboundKeys (getE2eesPack : Packs β) (store : Store β) (account : Account β)
    (msg : InviteMsg β) : Option (InboundKeys β) :=
  if isValidRegisteredAccount getE2eesPack account && isValidInviteMsg getE2eesPack msg then do
    let address ← account.address
    let cipherSuite ← getE2eesPack msg.e2eesPackId
    let signedPreKey ← chooseSignedPreKey store account address msg.bobSignedPreKeyId
    let oneTimePreKey ← chooseOneTimePreKey account msg.bobOneTimePreKeyId
    some ⟨address, cipherSuite, signedPreKey, oneTimePreKey⟩
  else none

namespace InboundKeys

/-- The private keys that the call decapsulates with. -/
def pairs (keys : InboundKeys β) (account : Account β) : List (KeyPair β) :=
  [account.identityKey.asymKeyPair, keys.signedPreKey.keyPair] ++
    (keys.oneTimePreKey.map fun key => key.keyPair).toList

def secret (keys : InboundKeys β) (account : Account β) (msg : InviteMsg β)
    (coins : InboundCoins β) : Bytes β :=
  inboundSecret keys.cipherSuite account.identityKey.asymKeyPair keys.signedPreKey.keyPair
    (keys.oneTimePreKey.map fun key => key.keyPair) msg coins.identityKey

/-- The checks after the mark decide whether there is a ratchet. -/
def ratchet (keys : InboundKeys β) (account : Account β) (msg : InviteMsg β)
    (coins : InboundCoins β) : Option (Ratchet β) :=
  if privateKeysFit keys.cipherSuite (keys.pairs account) then
    initialiseAsBob keys.cipherSuite (keys.secret account msg coins) keys.signedPreKey.keyPair
      msg.aliceBaseKey coins.baseKey
  else none

def session (keys : InboundKeys β) (account : Account β) (msg : InviteMsg β)
    (ratchet : Ratchet β) : Session β :=
  inboundSession keys.cipherSuite account keys.oneTimePreKey ratchet msg

def answer (keys : InboundKeys β) (account : Account β) (msg : InviteMsg β)
    (coins : InboundCoins β) (ratchet : Ratchet β) : AcceptMsg β :=
  produceAcceptRequest (keys.session account msg ratchet)
    (keys.cipherSuite.kem.encapsulate coins.identityKey msg.aliceIdentityKey).2
    ((ratchet.senderChain.map fun chain => chain.ourRatchetPublicKey).getD [])

end InboundKeys

section Outcome

variable (getE2eesPack : Packs β) (accept : AcceptMsg β → Option AcceptResponse) (store : Store β)
  (account : Account β) (msg : InviteMsg β) (coins : InboundCoins β)

/-- The call looks its keys up, marks, makes a ratchet, and then stores and answers. -/
theorem pqcNewInboundSession_outcome :
    pqcNewInboundSession getE2eesPack accept store account msg coins =
      match inboundKeys getE2eesPack store account msg with
      | none => (false, store, none)
      | some keys =>
          let marked := store.markChosen keys.address keys.oneTimePreKey
          match keys.ratchet account msg coins with
          | none => (false, marked, none)
          | some ratchet =>
              acceptInternal getE2eesPack accept
                (marked.storeSession (keys.session account msg ratchet))
                (keys.answer account msg coins ratchet) := by
  unfold pqcNewInboundSession inboundKeys
  split
  case isFalse => rfl
  case isTrue =>
    cases account.address with
    | none => rfl
    | some address =>
        cases getE2eesPack msg.e2eesPackId with
        | none => rfl
        | some cipherSuite =>
            cases signed : chooseSignedPreKey store account address msg.bobSignedPreKeyId with
            | none => simp [signed]
            | some signedPreKey =>
                cases oneTime : chooseOneTimePreKey account msg.bobOneTimePreKeyId with
                | none => simp [signed]
                | some oneTimePreKey =>
                    simp only [signed, Option.bind_eq_bind, Option.bind_some,
                      InboundKeys.ratchet, InboundKeys.pairs]
                    by_cases fit : privateKeysFit cipherSuite
                        ([account.identityKey.asymKeyPair, signedPreKey.keyPair] ++
                          (oneTimePreKey.map fun key => key.keyPair).toList) = true
                    · simp only [fit, if_true]
                      cases made : initialiseAsBob cipherSuite (inboundSecret cipherSuite
                          account.identityKey.asymKeyPair signedPreKey.keyPair
                          (oneTimePreKey.map fun key => key.keyPair) msg coins.identityKey)
                          signedPreKey.keyPair msg.aliceBaseKey coins.baseKey with
                      | none => simp only [InboundKeys.secret, made]
                      | some ratchet =>
                          simp only [InboundKeys.secret, InboundKeys.session,
                            InboundKeys.answer, made]
                    · simp only [fit, if_false, Bool.false_eq_true]

/-- The call ends before a session is stored. -/
def InviteRejected : Prop :=
  ∀ keys, inboundKeys getE2eesPack store account msg = some keys →
    keys.ratchet account msg coins = none

/-- This is the account in memory after the call. It is marked together with the database. -/
def inboundAccount : Account β :=
  match (inboundKeys getE2eesPack store account msg).bind fun keys => keys.oneTimePreKey with
  | some key => markOpkAsUsed account key.opkId
  | none => account

end Outcome

section Lookup

variable {getE2eesPack : Packs β} {store : Store β} {account : Account β} {msg : InviteMsg β}
  {keys : InboundKeys β}

theorem inboundKeys_some (found : inboundKeys getE2eesPack store account msg = some keys) :
    isValidRegisteredAccount getE2eesPack account = true ∧
      isValidInviteMsg getE2eesPack msg = true ∧ account.address = some keys.address ∧
      getE2eesPack msg.e2eesPackId = some keys.cipherSuite ∧
      chooseSignedPreKey store account keys.address msg.bobSignedPreKeyId =
        some keys.signedPreKey ∧
      chooseOneTimePreKey account msg.bobOneTimePreKeyId = some keys.oneTimePreKey := by
  unfold inboundKeys at found
  split at found
  case isFalse => simp at found
  case isTrue valid =>
    rw [Bool.and_eq_true] at valid
    simp only [Option.bind_eq_bind, Option.bind_eq_some_iff, Option.some.injEq] at found
    obtain ⟨address, addressed, cipherSuite, pack, signedPreKey, signed, oneTimePreKey, oneTime,
      rfl⟩ := found
    exact ⟨valid.1, valid.2, addressed, pack, signed, oneTime⟩

/-- A chosen one-time pre-key is the first one of the account with its identifier. -/
theorem inboundKeys_oneTimePreKey {key : OneTimePreKey β}
    (found : inboundKeys getE2eesPack store account msg = some keys)
    (chosen : keys.oneTimePreKey = some key) :
    lookupOneTimePreKey account key.opkId = some key ∧ key.opkId = msg.bobOneTimePreKeyId ∧
      key.opkId ≠ 0 := by
  obtain ⟨-, -, -, -, -, oneTime⟩ := inboundKeys_some found
  rw [chosen, chooseOneTimePreKey] at oneTime
  split at oneTime
  case isFalse => simp at oneTime
  case isTrue named =>
    rw [Option.map_eq_some_iff] at oneTime
    obtain ⟨other, looked, same⟩ := oneTime
    rw [Option.some.injEq] at same
    subst same
    have looked := (Option.filter_eq_some_iff.mp looked).1
    have identifier : other.opkId = msg.bobOneTimePreKeyId := by
      simpa using List.find?_some looked
    rw [identifier]
    exact ⟨looked, rfl, named⟩

theorem chooseSignedPreKey_valid {address : E2eeAddress} {bobSignedPreKeyId : UInt32}
    {signedPreKey : SignedPreKey β}
    (valid : isValidRegisteredAccount getE2eesPack account = true)
    (chosen : chooseSignedPreKey store account address bobSignedPreKeyId = some signedPreKey) :
    isValidKeyPair signedPreKey.keyPair = true := by
  have checked : isValidSignedPreKey signedPreKey = true := by
    rw [chooseSignedPreKey] at chosen
    split at chosen
    · exact (Option.filter_eq_some_iff.mp chosen).2
    · rw [Option.some.injEq] at chosen
      subst chosen
      simp only [isValidRegisteredAccount, Bool.and_eq_true] at valid
      obtain ⟨⟨⟨⟨-, current⟩, -⟩, -⟩, -⟩ := valid
      exact current
  rw [isValidSignedPreKey, Bool.and_eq_true] at checked
  exact checked.1

/-- The values that the ratchet is made of pass their checks once the keys are found. -/
theorem inboundKeys_checked (found : inboundKeys getE2eesPack store account msg = some keys)
    (coins : InboundCoins β) :
    isValidCipherSuite keys.cipherSuite = true ∧ keys.secret account msg coins ≠ [] ∧
      isValidKeyPair keys.signedPreKey.keyPair = true ∧ msg.aliceBaseKey ≠ [] := by
  obtain ⟨accountValid, inviteValid, -, pack, signed, -⟩ := inboundKeys_some found
  simp only [isValidInviteMsg, isValidE2eesPackId, pack, Option.any_some, Bool.and_eq_true,
    isValidProtobuf_iff] at inviteValid
  obtain ⟨⟨⟨⟨⟨⟨⟨-, suite⟩, -⟩, -⟩, -⟩, -⟩, base⟩, -⟩ := inviteValid
  refine ⟨suite, ?_, chooseSignedPreKey_valid accountValid signed, base⟩
  have slot := (encapsulate_length suite coins.identityKey msg.aliceIdentityKey).1
  have positive := keys.cipherSuite.kem.sharedSecretLenPositive
  rw [← List.length_pos_iff, InboundKeys.secret, inboundSecret]
  simp only [List.length_append]
  omega

/-- A valid invitation only fails after the lookup when a private key has another length. -/
theorem InboundKeys.ratchet_none_iff
    (found : inboundKeys getE2eesPack store account msg = some keys) (coins : InboundCoins β) :
    keys.ratchet account msg coins = none ↔
      privateKeysFit keys.cipherSuite (keys.pairs account) = false := by
  obtain ⟨suite, secret, ours, base⟩ := inboundKeys_checked found coins
  obtain ⟨ratchet, made⟩ := initialiseAsBob_made suite secret ours base coins.baseKey
  rw [InboundKeys.ratchet, made]
  split
  case isTrue fit => simp [fit]
  case isFalse fit => simp [fit]

end Lookup

section Flags

/-- These are the used flags of all one-time pre-keys of an account. -/
def Account.usedFlags (account : Account β) : List (UInt32 × Bool) :=
  account.oneTimePreKeyList.map fun key => (key.opkId, key.used)

/-- The key that a lookup finds under the identifier is already marked. -/
def Account.Spent (account : Account β) (opkId : UInt32) : Prop :=
  ∀ key, lookupOneTimePreKey account opkId = some key → key.used = true

theorem markUsed_flags_iff (opkId : UInt32) (keys : List (OneTimePreKey β)) :
    (markUsed opkId keys).map (fun key => (key.opkId, key.used)) =
        keys.map (fun key => (key.opkId, key.used)) ↔
      ∀ key, keys.find? (fun key => key.opkId == opkId) = some key → key.used = true := by
  induction keys with
  | nil => simp [markUsed]
  | cons key rest ih =>
      by_cases named : key.opkId = opkId
      · simp [markUsed, named, @eq_comm _ true]
      · simp [markUsed, named, ih]

theorem usedFlags_markOpkAsUsed_iff (account : Account β) (opkId : UInt32) :
    (markOpkAsUsed account opkId).usedFlags = account.usedFlags ↔ account.Spent opkId :=
  markUsed_flags_iff opkId account.oneTimePreKeyList

/-- Only the account under the address can change its flags. -/
theorem updateOneTimePreKey_flags_iff (store : Store β) (address : E2eeAddress)
    (opkId : UInt32) :
    (∀ owner, ((store.updateOneTimePreKey address opkId).account owner).map Account.usedFlags =
        (store.account owner).map Account.usedFlags) ↔
      ∀ stored, store.account address = some stored → stored.Spent opkId := by
  constructor
  · intro kept stored found
    have same := kept address
    simp only [Store.updateOneTimePreKey, if_true, found, Option.map_some,
      Option.some.injEq] at same
    exact (usedFlags_markOpkAsUsed_iff stored opkId).mp same
  · intro spent owner
    by_cases addressed : owner = address
    · subst addressed
      cases found : store.account owner with
      | none => simp [Store.updateOneTimePreKey, found]
      | some stored =>
          simp only [Store.updateOneTimePreKey, if_true, found, Option.map_some,
            Option.some.injEq]
          exact (usedFlags_markOpkAsUsed_iff stored opkId).mpr (spent stored found)
    · simp [Store.updateOneTimePreKey, addressed]

end Flags

section Rejection

variable {getE2eesPack : Packs β} {store : Store β} {account : Account β} {msg : InviteMsg β}
  {coins : InboundCoins β}

/-- A rejected invitation fails, and its only trace is the mark of its one-time pre-key. -/
theorem InviteRejected.outcome (accept : AcceptMsg β → Option AcceptResponse)
    (rejected : InviteRejected getE2eesPack store account msg coins) :
    pqcNewInboundSession getE2eesPack accept store account msg coins =
      (false, (match inboundKeys getE2eesPack store account msg with
        | some keys => store.markChosen keys.address keys.oneTimePreKey
        | none => store), none) := by
  rw [pqcNewInboundSession_outcome]
  cases found : inboundKeys getE2eesPack store account msg with
  | none => rfl
  | some keys => simp only [rejected keys found]

/-- A rejected invitation keeps all flags and sessions exactly when it names no one-time pre-key
that it finds unmarked. -/
theorem rejectedInvite_unchanged_iff (accept : AcceptMsg β → Option AcceptResponse)
    (rejected : InviteRejected getE2eesPack store account msg coins) :
    ((inboundAccount getE2eesPack store account msg).usedFlags = account.usedFlags ∧
      (∀ owner, ((pqcNewInboundSession getE2eesPack accept store account msg
          coins).2.1.account owner).map Account.usedFlags =
        (store.account owner).map Account.usedFlags) ∧
      (pqcNewInboundSession getE2eesPack accept store account msg coins).2.1.sessions =
        store.sessions) ↔
    ∀ keys key, inboundKeys getE2eesPack store account msg = some keys →
      keys.oneTimePreKey = some key →
        account.Spent key.opkId ∧
          ∀ stored, store.account keys.address = some stored → stored.Spent key.opkId := by
  rw [rejected.outcome accept, inboundAccount]
  cases found : inboundKeys getE2eesPack store account msg with
  | none => simp
  | some keys =>
      cases chosen : keys.oneTimePreKey with
      | none =>
          simp only [Option.bind_some, chosen, Store.markChosen, Option.some.injEq]
          constructor
          · rintro - other key rfl named
            rw [chosen] at named
            cases named
          · intro _
            exact ⟨trivial, fun _ => trivial, trivial⟩
      | some key =>
          simp only [Option.bind_some, chosen, Store.markChosen, usedFlags_markOpkAsUsed_iff,
            updateOneTimePreKey_flags_iff, Option.some.injEq]
          constructor
          · rintro ⟨spent, stored, -⟩ other named rfl named'
            rw [chosen, Option.some.injEq] at named'
            subst named'
            exact ⟨spent, stored⟩
          · intro spent
            obtain ⟨marked, stored⟩ := spent keys key rfl chosen
            exact ⟨marked, stored, rfl⟩

end Rejection

namespace Symbolic

open FreeTerm

/-- The private keys of this suite have two parts. -/
def longKemSuite : KemSuite FreeTerm :=
  { kemSuite with
    asymPrivKeyLen := 2
    asymKeyGen := fun coins =>
      ([.publicKey (pack coins) 0], [.privateKey (pack coins) 0, .privateKey (pack coins) 1])
    asymPrivKeyLenPositive := by decide
    asymKeyGenLength := by simp [kemSuite] }

def longSuite : CipherSuite FreeTerm := { symbolicSuite with kem := longKemSuite }

/-- Pack 0 has short private keys, and pack 1 has long ones. -/
def twoPacks : Packs FreeTerm := fun e2eesPackId =>
  if e2eesPackId = 0 then some symbolicSuite else some longSuite

/-- The store of Bob, whose account has pack 0. -/
def bobStore : Store FreeTerm := store bobAddress bobAccount (some olderPreKey)

/-- The invitation of Alice, as it is delivered. -/
def invitation : InviteMsg FreeTerm :=
  handshake.delivered (produceInviteRequest handshake.outbound)

/-- The same invitation under pack 1. -/
def mismatchedInvitation : InviteMsg FreeTerm := { invitation with e2eesPackId := 1 }

/-- The invitation under pack 1 without a one-time pre-key. -/
def plainInvitation : InviteMsg FreeTerm :=
  { mismatchedInvitation with bobOneTimePreKeyId := 0 }

instance decidableInviteRejected (getE2eesPack : Packs FreeTerm) (store : Store FreeTerm)
    (account : Account FreeTerm) (msg : InviteMsg FreeTerm) (coins : InboundCoins FreeTerm) :
    Decidable (InviteRejected getE2eesPack store account msg coins) :=
  inferInstanceAs (Decidable (∀ keys, inboundKeys getE2eesPack store account msg = some keys →
    keys.ratchet account msg coins = none))

end Symbolic

/-- An invitation under another pack is rejected and uses up the one-time pre-key. -/
theorem mismatchedInvitation_burns :
    isValidRegisteredAccount Symbolic.twoPacks Symbolic.bobAccount = true ∧
      InviteRejected Symbolic.twoPacks Symbolic.bobStore Symbolic.bobAccount
        Symbolic.mismatchedInvitation Symbolic.handshake.bobCoins ∧
      Symbolic.bobAccount.usedFlags = [(1, false)] ∧
      (inboundAccount Symbolic.twoPacks Symbolic.bobStore Symbolic.bobAccount
        Symbolic.mismatchedInvitation).usedFlags = [(1, true)] ∧
      (Symbolic.bobStore.account Symbolic.bobAddress).map Account.usedFlags =
        some [(1, false)] ∧
      ((pqcNewInboundSession Symbolic.twoPacks Symbolic.handshake.accept Symbolic.bobStore
        Symbolic.bobAccount Symbolic.mismatchedInvitation
        Symbolic.handshake.bobCoins).2.1.account Symbolic.bobAddress).map Account.usedFlags =
          some [(1, true)] := by
  decide

/-- Without a one-time pre-key the rejected invitation leaves no trace. -/
theorem plainInvitation_unchanged :
    (pqcNewInboundSession Symbolic.twoPacks Symbolic.handshake.accept Symbolic.bobStore
        Symbolic.bobAccount Symbolic.plainInvitation Symbolic.handshake.bobCoins).2.1.sessions =
      Symbolic.bobStore.sessions := by
  have unchanged := (rejectedInvite_unchanged_iff Symbolic.handshake.accept
    (show InviteRejected Symbolic.twoPacks Symbolic.bobStore Symbolic.bobAccount
      Symbolic.plainInvitation Symbolic.handshake.bobCoins by decide)).mpr ?_
  · exact unchanged.2.2
  · intro keys key found chosen
    have unnamed : ∀ keys, inboundKeys Symbolic.twoPacks Symbolic.bobStore Symbolic.bobAccount
        Symbolic.plainInvitation = some keys → keys.oneTimePreKey.isNone = true := by
      decide
    rw [Option.isNone_iff_eq_none.mp (unnamed keys found)] at chosen
    cases chosen

end E2eeSecurity
