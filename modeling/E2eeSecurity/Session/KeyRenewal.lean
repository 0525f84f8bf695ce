/-
This file renews the signed pre-key of an account and supplies one-time pre-keys, and compares
the keys that the server has accepted with the keys in the database.
-/
import Mathlib.Data.List.DropRight
import E2eeSecurity.Session.OneTimeKeys

namespace E2eeSecurity

variable {β : Type}

section Model

/-- A signed pre-key stays in use for this time, `E2EES_SIGNED_PRE_KEY_EXPIRATION_MS`. -/
def signedPreKeyExpirationMs : Int := 604800000

/-- This is a row of the table of signed pre-keys. -/
structure StoredSignedPreKey (β : Type) where
  signedPreKey : SignedPreKey β
  ttl : Int
  deriving DecidableEq

/-- These are the rows of one account. The newest signed pre-key is the last one, and the account
refers to it. -/
structure KeyTables (β : Type) where
  auth : String
  signedPreKeys : List (StoredSignedPreKey β)
  oneTimePreKeys : List (OneTimePreKey β)
  nextOneTimePreKeyId : UInt32

/-- These are the pairs whose public keys the server has accepted, the newest one last. A one-time
pre-key leaves the list when the server hands it out. -/
structure AcceptedKeys (β : Type) where
  signedPreKeys : List (SignedPreKey β)
  oneTimePreKeys : List (OneTimePreKey β)

/-- The server takes the keys of a request or not, and its answer may be lost. -/
structure KeyReply where
  accepts : Bool
  response : Option ResponseCode
  deriving DecidableEq

/-- This is an account in memory with its rows in the database, and the keys at the server. -/
structure KeyHost (β : Type) where
  account : Account β
  saved : Bool
  ttl : Int
  nextOneTimePreKeyId : UInt32
  tables : KeyTables β
  accepted : AcceptedKeys β

/-- The signed pre-key is renewed, one-time pre-keys are supplied, the server hands out the
one-time pre-key at a place of its list, or the account is loaded again. -/
inductive KeyAction (β : Type)
  | purgeSignedPreKey (now madeAt : Int) (keyCoins signatureCoins : Bytes β) (reply : KeyReply)
  | supplyOpks (opksNum : UInt32) (coins : Nat → Bytes β) (reply : KeyReply)
  | handOut (place : Nat)
  | loadAccount

def KeyTables.updateSignedPreKey (tables : KeyTables β) (row : StoredSignedPreKey β) :
    KeyTables β :=
  { tables with signedPreKeys := tables.signedPreKeys ++ [row] }

/-- The last two rows are kept. -/
def KeyTables.removeExpiredSignedPreKey (tables : KeyTables β) : KeyTables β :=
  { tables with signedPreKeys := tables.signedPreKeys.rtake 2 }

def KeyTables.addOneTimePreKey (tables : KeyTables β) (key : OneTimePreKey β) : KeyTables β :=
  { tables with
    oneTimePreKeys := tables.oneTimePreKeys ++ [key]
    nextOneTimePreKeyId := key.opkId + 1 }

/-- A negative time comes back as an unsigned number of 32 bits. -/
def loadedTtl (ttl : Int) : Int := if ttl < 0 then 0xffffffff + ttl + 1 else ttl

def isValidPublishSpkInputs (getE2eesPack : Packs β) (e2eesPackId : UInt32)
    (userAddress : Option E2eeAddress) (newSpk : SignedPreKey β) : Bool :=
  isValidE2eesPackId getE2eesPack e2eesPackId && userAddress.any isValidAddress &&
    isValidSignedPreKey newSpk

namespace KeyHost

variable (getE2eesPack : Packs β)

/-- The first component is the reported result. Only an answer with the code OK stores the
key. -/
def publishSpkInternal (host : KeyHost β) (newSpk : StoredSignedPreKey β) (reply : KeyReply) :
    Bool × KeyHost β :=
  if isValidPublishSpkInputs getE2eesPack host.account.e2eesPackId host.account.address
      newSpk.signedPreKey && isValidString host.tables.auth then
    (true, { host with
      tables :=
        if reply.response = some .ok then host.tables.updateSignedPreKey newSpk else host.tables
      accepted :=
        if reply.accepts then
          { host.accepted with
            signedPreKeys := host.accepted.signedPreKeys ++ [newSpk.signedPreKey] }
        else host.accepted })
  else (false, host)

/-- The new key counts on from the one in memory. -/
def nextSignedPreKey (host : KeyHost β) (keyCoins signatureCoins : Bytes β) :
    Option (SignedPreKey β) := do
  let cipherSuite ← getE2eesPack host.account.e2eesPackId
  if isValidCipherSuite cipherSuite then
    generateSignedPreKey cipherSuite host.account.signedPreKey.spkId
      host.account.identityKey.signKeyPair.privateKey keyCoins signatureCoins
  else none

/-- The account in memory takes the new key before it is published. -/
def renew (host : KeyHost β) (newSpk : StoredSignedPreKey β) : KeyHost β :=
  { host with
    account := { host.account with signedPreKey := newSpk.signedPreKey }
    ttl := newSpk.ttl }

def removeExpired (host : KeyHost β) : KeyHost β :=
  { host with tables := host.tables.removeExpiredSignedPreKey }

/-- The clock is read twice, once for the check and once for the new key. -/
def purgeSignedPreKey (host : KeyHost β) (now madeAt : Int) (keyCoins signatureCoins : Bytes β)
    (reply : KeyReply) : KeyHost β :=
  if host.saved then
    if host.ttl < now then
      match host.nextSignedPreKey getE2eesPack keyCoins signatureCoins with
      | none => host
      | some signedPreKey =>
          let newSpk : StoredSignedPreKey β := ⟨signedPreKey, madeAt + signedPreKeyExpirationMs⟩
          let published := (host.renew newSpk).publishSpkInternal getE2eesPack newSpk reply
          if published.1 then published.2.removeExpired else published.2
    else host.removeExpired
  else host

/-- The first component is the reported result. -/
def supplyOpks (host : KeyHost β) (opksNum : UInt32) (coins : Nat → Bytes β)
    (reply : KeyReply) : Bool × KeyHost β :=
  let supplied := supplyOpksInternal getE2eesPack host.account host.nextOneTimePreKeyId opksNum
    coins reply.response
  (supplied.1, { host with
    tables := supplied.2.foldl KeyTables.addOneTimePreKey host.tables
    accepted :=
      if reply.accepts then
        { host.accepted with
          oneTimePreKeys := host.accepted.oneTimePreKeys ++
            (supplyOpksRequest getE2eesPack host.account host.nextOneTimePreKeyId opksNum
              coins).getD [] }
      else host.accepted })

def handOut (host : KeyHost β) (place : Nat) : KeyHost β :=
  { host with
    accepted := { host.accepted with
      oneTimePreKeys := host.accepted.oneTimePreKeys.eraseIdx place } }

/-- The identity key, the address and the password never change. -/
def loadAccount (host : KeyHost β) : KeyHost β :=
  match host.tables.signedPreKeys.getLast? with
  | none => host
  | some row =>
      { host with
        account := { host.account with
          signedPreKey := row.signedPreKey
          oneTimePreKeyList := host.tables.oneTimePreKeys
          auth := host.tables.auth }
        ttl := loadedTtl row.ttl
        nextOneTimePreKeyId := host.tables.nextOneTimePreKeyId }

def step (host : KeyHost β) : KeyAction β → KeyHost β
  | .purgeSignedPreKey now madeAt keyCoins signatureCoins reply =>
      host.purgeSignedPreKey getE2eesPack now madeAt keyCoins signatureCoins reply
  | .supplyOpks opksNum coins reply => (host.supplyOpks getE2eesPack opksNum coins reply).2
  | .handOut place => host.handOut place
  | .loadAccount => host.loadAccount

/-- This is the account after its registration, which has published all keys of the account. -/
def start (account : Account β) (ttl : Int) (nextOneTimePreKeyId : UInt32) : KeyHost β where
  account := account
  saved := true
  ttl := ttl
  nextOneTimePreKeyId := nextOneTimePreKeyId
  tables := ⟨account.auth, [⟨account.signedPreKey, ttl⟩], account.oneTimePreKeyList,
    nextOneTimePreKeyId⟩
  accepted := ⟨[account.signedPreKey], account.oneTimePreKeyList⟩

/-- The last two signed pre-keys at the server and the one-time pre-keys that it has not handed
out are in the database. -/
structure Backed (host : KeyHost β) : Prop where
  signedPreKeys : ∀ key ∈ host.accepted.signedPreKeys.rtake 2,
    ∃ row ∈ host.tables.signedPreKeys, row.signedPreKey = key
  oneTimePreKeys : ∀ key ∈ host.accepted.oneTimePreKeys, key ∈ host.tables.oneTimePreKeys

/-- The call comes to `publish_spk_internal` with this key. -/
def publishCall (host : KeyHost β) (now madeAt : Int) (keyCoins signatureCoins : Bytes β) :
    Option (StoredSignedPreKey β) :=
  if host.saved && host.ttl < now then
    (host.nextSignedPreKey getE2eesPack keyCoins signatureCoins).map
      fun signedPreKey => ⟨signedPreKey, madeAt + signedPreKeyExpirationMs⟩
  else none

/-- A publication that reports success has added its key to the accepted ones and to the
database. -/
def PublishedWhenReported (host : KeyHost β) (newSpk : StoredSignedPreKey β)
    (reply : KeyReply) : Prop :=
  let published := host.publishSpkInternal getE2eesPack newSpk reply
  published.1 = true →
    published.2.accepted.signedPreKeys =
        host.accepted.signedPreKeys ++ [newSpk.signedPreKey] ∧
      published.2.tables.signedPreKeys = host.tables.signedPreKeys ++ [newSpk]

/-- A supply that reports success has added as many keys as asked for to the accepted ones and to
the database. -/
def SuppliedWhenReported (host : KeyHost β) (opksNum : UInt32) (coins : Nat → Bytes β)
    (reply : KeyReply) : Prop :=
  let supplied := host.supplyOpks getE2eesPack opksNum coins reply
  supplied.1 = true →
    ∃ keys : List (OneTimePreKey β), keys.length = opksNum.toNat ∧
      supplied.2.accepted.oneTimePreKeys = host.accepted.oneTimePreKeys ++ keys ∧
      supplied.2.tables.oneTimePreKeys = host.tables.oneTimePreKeys ++ keys

/-- Both calls report success only for keys that are accepted and stored. -/
def ReportsRight (host : KeyHost β) : KeyAction β → Prop
  | .purgeSignedPreKey now madeAt keyCoins signatureCoins reply =>
      ∀ newSpk, host.publishCall getE2eesPack now madeAt keyCoins signatureCoins = some newSpk →
        (host.renew newSpk).PublishedWhenReported getE2eesPack newSpk reply
  | .supplyOpks opksNum coins reply => host.SuppliedWhenReported getE2eesPack opksNum coins reply
  | .handOut _ => True
  | .loadAccount => True

/-- The call sends its new keys to the server. -/
def sends (host : KeyHost β) : KeyAction β → Bool
  | .purgeSignedPreKey now madeAt keyCoins signatureCoins _ =>
      (host.publishCall getE2eesPack now madeAt keyCoins signatureCoins).any fun newSpk =>
        isValidPublishSpkInputs getE2eesPack host.account.e2eesPackId host.account.address
          newSpk.signedPreKey && isValidString host.tables.auth
  | .supplyOpks opksNum coins _ => (supplyOpksRequest getE2eesPack host.account
      host.nextOneTimePreKeyId opksNum coins).isSome
  | .handOut _ => false
  | .loadAccount => false

end KeyHost

def KeyAction.reply : KeyAction β → Option KeyReply
  | .purgeSignedPreKey _ _ _ _ reply => some reply
  | .supplyOpks _ _ reply => some reply
  | .handOut _ => none
  | .loadAccount => none

/-- The server accepts what the call sends, and the client gets its answer with the code OK. -/
def KeyHost.Delivered (getE2eesPack : Packs β) (host : KeyHost β) (action : KeyAction β) : Prop :=
  host.sends getE2eesPack action = true → action.reply = some ⟨true, some .ok⟩

end Model

section Tables

/-- The rows that are kept are kept again. -/
theorem rtake_rtake {α : Type} (list : List α) (inner outer : Nat) :
    (list.rtake inner).rtake outer = list.rtake (min outer inner) := by
  simp only [List.rtake_eq_reverse_take_reverse, List.reverse_reverse, List.take_take]

theorem map_rtake {α γ : Type} (change : α → γ) (list : List α) (count : Nat) :
    (list.rtake count).map change = (list.map change).rtake count := by
  simp only [List.rtake, List.map_drop, List.length_map]

theorem addOneTimePreKeys_rows (keys : List (OneTimePreKey β)) (tables : KeyTables β) :
    (keys.foldl KeyTables.addOneTimePreKey tables).oneTimePreKeys =
        tables.oneTimePreKeys ++ keys ∧
      (keys.foldl KeyTables.addOneTimePreKey tables).signedPreKeys = tables.signedPreKeys := by
  induction keys generalizing tables with
  | nil => simp
  | cons key rest ih =>
      rw [List.foldl_cons, (ih _).1, (ih _).2]
      simp [KeyTables.addOneTimePreKey]

theorem generateOpks_length {cipherSuite : CipherSuite β} {curOpkId : UInt32}
    {coins : Nat → Bytes β} {count : Nat} {keys : List (OneTimePreKey β)}
    (made : generateOpks cipherSuite curOpkId coins count = some keys) : keys.length = count := by
  obtain ⟨drawn, same, -, numbered⟩ := generateOpks_some cipherSuite curOpkId coins count
  rw [made, Option.some.injEq] at same
  subst same
  simpa using congrArg List.length numbered

/-- A request carries as many keys as asked for, and at least one. -/
theorem supplyOpksRequest_length {getE2eesPack : Packs β} {account : Account β}
    {nextOneTimePreKeyId opksNum : UInt32} {coins : Nat → Bytes β}
    {keys : List (OneTimePreKey β)}
    (requested : supplyOpksRequest getE2eesPack account nextOneTimePreKeyId opksNum coins =
      some keys) :
    keys.length = opksNum.toNat ∧ keys ≠ [] := by
  simp only [supplyOpksRequest] at requested
  split at requested
  case isFalse => simp at requested
  case isTrue valid =>
    simp only [Option.bind_eq_bind, Option.bind_eq_some_iff] at requested
    obtain ⟨cipherSuite, -, made⟩ := requested
    have length := generateOpks_length made
    refine ⟨length, ?_⟩
    rintro rfl
    simp only [Bool.and_eq_true, bne_iff_ne, ne_eq] at valid
    exact valid.1 (UInt32.toNat_inj.mp length.symm)

end Tables

namespace KeyHost

variable {getE2eesPack : Packs β} {host : KeyHost β}

/-- The calls of `publish_spk_internal` are the ones that `publishCall` gives, and every other
call keeps the server as it is. -/
theorem purgeSignedPreKey_cases (now madeAt : Int) (keyCoins signatureCoins : Bytes β)
    (reply : KeyReply) :
    let purged := host.purgeSignedPreKey getE2eesPack now madeAt keyCoins signatureCoins reply
    host.publishCall getE2eesPack now madeAt keyCoins signatureCoins = none ∧
        (purged = host ∨ purged = host.removeExpired) ∨
      ∃ newSpk, host.publishCall getE2eesPack now madeAt keyCoins signatureCoins = some newSpk ∧
        let published := (host.renew newSpk).publishSpkInternal getE2eesPack newSpk reply
        purged = if published.1 then published.2.removeExpired else published.2 := by
  intro purged
  cases saved : host.saved with
  | false =>
      refine .inl ⟨by simp [publishCall, saved], .inl ?_⟩
      simp [purged, purgeSignedPreKey, saved]
  | true =>
      by_cases expired : host.ttl < now
      · cases made : host.nextSignedPreKey getE2eesPack keyCoins signatureCoins with
        | none =>
            refine .inl ⟨by simp [publishCall, made], .inl ?_⟩
            simp [purged, purgeSignedPreKey, saved, expired, made]
        | some signedPreKey =>
            refine .inr ⟨_, by simp [publishCall, saved, expired, made]; rfl, ?_⟩
            simp only [purged, purgeSignedPreKey, saved, expired, made, if_true]
      · refine .inl ⟨by simp [publishCall, expired], .inr ?_⟩
        simp [purged, purgeSignedPreKey, saved, expired]

theorem publishSpkInternal_reported (newSpk : StoredSignedPreKey β) (reply : KeyReply) :
    (host.publishSpkInternal getE2eesPack newSpk reply).1 =
      (isValidPublishSpkInputs getE2eesPack host.account.e2eesPackId host.account.address
        newSpk.signedPreKey && isValidString host.tables.auth) := by
  unfold publishSpkInternal
  split
  case isTrue valid => exact valid.symm
  case isFalse invalid => exact (Bool.eq_false_iff.mpr invalid).symm

/-- What a publication leaves behind when it sends its key. -/
theorem publishSpkInternal_sent {newSpk : StoredSignedPreKey β} (reply : KeyReply)
    (sent : (host.publishSpkInternal getE2eesPack newSpk reply).1 = true) :
    let published := (host.publishSpkInternal getE2eesPack newSpk reply).2
    published.accepted.signedPreKeys = (if reply.accepts then
        host.accepted.signedPreKeys ++ [newSpk.signedPreKey] else host.accepted.signedPreKeys) ∧
      published.tables.signedPreKeys = (if reply.response = some .ok then
        host.tables.signedPreKeys ++ [newSpk] else host.tables.signedPreKeys) ∧
      published.accepted.oneTimePreKeys = host.accepted.oneTimePreKeys ∧
      published.tables.oneTimePreKeys = host.tables.oneTimePreKeys := by
  unfold publishSpkInternal at sent ⊢
  split at sent
  case isFalse => cases sent
  case isTrue valid =>
    simp only [valid, if_true]
    refine ⟨?_, ?_, ?_, ?_⟩ <;> split <;> rfl

theorem publishSpkInternal_refused {newSpk : StoredSignedPreKey β} (reply : KeyReply)
    (refused : (host.publishSpkInternal getE2eesPack newSpk reply).1 = false) :
    (host.publishSpkInternal getE2eesPack newSpk reply).2 = host := by
  unfold publishSpkInternal at refused ⊢
  split at refused
  case isTrue => cases refused
  case isFalse invalid => rw [if_neg invalid]

/-- The server and the database have the same last two signed pre-keys, in the same order. -/
structure Synced (host : KeyHost β) : Prop where
  signedPreKeys : host.accepted.signedPreKeys.rtake 2 =
    (host.tables.signedPreKeys.rtake 2).map fun row => row.signedPreKey
  oneTimePreKeys : ∀ key ∈ host.accepted.oneTimePreKeys, key ∈ host.tables.oneTimePreKeys

theorem Synced.backed (synced : host.Synced) : host.Backed where
  signedPreKeys := by
    intro key recent
    rw [synced.signedPreKeys, List.mem_map] at recent
    obtain ⟨row, kept, same⟩ := recent
    exact ⟨row, List.mem_of_mem_drop kept, same⟩
  oneTimePreKeys := synced.oneTimePreKeys

theorem Synced.removeExpired (synced : host.Synced) : host.removeExpired.Synced where
  signedPreKeys := by
    simp only [KeyHost.removeExpired, KeyTables.removeExpiredSignedPreKey, rtake_rtake, min_self]
    exact synced.signedPreKeys
  oneTimePreKeys := synced.oneTimePreKeys

/-- A key that goes to both sides becomes the last one of both. -/
theorem Synced.appended (synced : host.Synced) {later : KeyHost β}
    (newSpk : StoredSignedPreKey β)
    (accepted : later.accepted.signedPreKeys =
      host.accepted.signedPreKeys ++ [newSpk.signedPreKey])
    (stored : later.tables.signedPreKeys = host.tables.signedPreKeys ++ [newSpk])
    (oneTimePreKeys : ∀ key ∈ later.accepted.oneTimePreKeys, key ∈ later.tables.oneTimePreKeys) :
    later.Synced where
  signedPreKeys := by
    have previous : host.accepted.signedPreKeys.rtake 1 =
        (host.tables.signedPreKeys.rtake 1).map fun row => row.signedPreKey := by
      calc host.accepted.signedPreKeys.rtake 1
        _ = (host.accepted.signedPreKeys.rtake 2).rtake 1 := (rtake_rtake _ 2 1).symm
        _ = ((host.tables.signedPreKeys.rtake 2).map fun row => row.signedPreKey).rtake 1 := by
            rw [synced.signedPreKeys]
        _ = ((host.tables.signedPreKeys.rtake 2).rtake 1).map fun row => row.signedPreKey :=
            (map_rtake _ (host.tables.signedPreKeys.rtake 2) 1).symm
        _ = (host.tables.signedPreKeys.rtake 1).map fun row => row.signedPreKey := by
            rw [rtake_rtake, Nat.min_eq_left (by decide)]
    rw [accepted, stored, List.rtake_concat_succ, List.rtake_concat_succ, previous]
    simp
  oneTimePreKeys := oneTimePreKeys

theorem Synced.published (synced : host.Synced) (newSpk : StoredSignedPreKey β)
    (reply : KeyReply)
    (agreed : (host.publishSpkInternal getE2eesPack newSpk reply).1 = true →
      (reply.accepts = true ↔ reply.response = some .ok)) :
    (host.publishSpkInternal getE2eesPack newSpk reply).2.Synced := by
  cases sent : (host.publishSpkInternal getE2eesPack newSpk reply).1 with
  | false =>
      rw [publishSpkInternal_refused reply sent]
      exact synced
  | true =>
      obtain ⟨accepted, stored, served, kept⟩ := publishSpkInternal_sent reply sent
      have oneTimePreKeys := synced.oneTimePreKeys
      rw [← served, ← kept] at oneTimePreKeys
      by_cases accepts : reply.accepts = true
      · rw [if_pos accepts] at accepted
        rw [if_pos ((agreed sent).mp accepts)] at stored
        exact synced.appended newSpk accepted stored oneTimePreKeys
      · rw [if_neg accepts] at accepted
        rw [if_neg fun answered => accepts ((agreed sent).mpr answered)] at stored
        refine ⟨?_, oneTimePreKeys⟩
        rw [accepted, stored]
        exact synced.signedPreKeys

/-- The server and the client agree on every request that is sent. -/
def Agreed (getE2eesPack : Packs β) (host : KeyHost β) (action : KeyAction β) : Prop :=
  host.sends getE2eesPack action = true → ∀ reply, action.reply = some reply →
    (reply.accepts = true ↔ reply.response = some .ok)

theorem Delivered.agreed {action : KeyAction β} (delivered : host.Delivered getE2eesPack action) :
    host.Agreed getE2eesPack action := by
  intro sent reply given
  rw [delivered sent, Option.some.injEq] at given
  subst given
  simp

/-- A supply sends its keys when the request can be made. -/
theorem supplyOpks_reported (opksNum : UInt32) (coins : Nat → Bytes β) (reply : KeyReply) :
    (host.supplyOpks getE2eesPack opksNum coins reply).1 =
      host.sends getE2eesPack (.supplyOpks opksNum coins reply) := by
  simp only [supplyOpks, supplyOpksInternal, sends]
  cases supplyOpksRequest getE2eesPack host.account host.nextOneTimePreKeyId opksNum coins with
  | none => rfl
  | some keys => by_cases answered : reply.response = some .ok <;> simp [answered]

/-- What a supply leaves behind when it sends its keys. -/
theorem supplyOpks_sent {opksNum : UInt32} {coins : Nat → Bytes β}
    {keys : List (OneTimePreKey β)} (reply : KeyReply)
    (requested : supplyOpksRequest getE2eesPack host.account host.nextOneTimePreKeyId opksNum
      coins = some keys) :
    let supplied := (host.supplyOpks getE2eesPack opksNum coins reply).2
    supplied.accepted.oneTimePreKeys = (if reply.accepts then
        host.accepted.oneTimePreKeys ++ keys else host.accepted.oneTimePreKeys) ∧
      supplied.tables.oneTimePreKeys = (if reply.response = some .ok then
        host.tables.oneTimePreKeys ++ keys else host.tables.oneTimePreKeys) := by
  simp only [supplyOpks, supplyOpksInternal, requested, Option.getD_some]
  constructor
  · split <;> rfl
  · split
    case isTrue => rw [(addOneTimePreKeys_rows _ _).1]
    case isFalse => rfl

theorem supplyOpks_signedPreKeys (getE2eesPack : Packs β) (host : KeyHost β) (opksNum : UInt32)
    (coins : Nat → Bytes β) (reply : KeyReply) :
    let supplied := (host.supplyOpks getE2eesPack opksNum coins reply).2
    supplied.accepted.signedPreKeys = host.accepted.signedPreKeys ∧
      supplied.tables.signedPreKeys = host.tables.signedPreKeys := by
  refine ⟨?_, ?_⟩
  · simp only [supplyOpks]
    split <;> rfl
  · simp only [supplyOpks, (addOneTimePreKeys_rows _ _).2]

theorem Synced.renew (synced : host.Synced) (newSpk : StoredSignedPreKey β) :
    (host.renew newSpk).Synced := ⟨synced.signedPreKeys, synced.oneTimePreKeys⟩

/-- A publication sends its key exactly when it reports success. -/
theorem sends_purgeSignedPreKey {now madeAt : Int} {keyCoins signatureCoins : Bytes β}
    {newSpk : StoredSignedPreKey β} (reply : KeyReply)
    (called : host.publishCall getE2eesPack now madeAt keyCoins signatureCoins = some newSpk) :
    host.sends getE2eesPack (.purgeSignedPreKey now madeAt keyCoins signatureCoins reply) =
      ((host.renew newSpk).publishSpkInternal getE2eesPack newSpk reply).1 := by
  rw [publishSpkInternal_reported]
  simp only [sends, called, Option.any_some, KeyHost.renew]

theorem Synced.purged (synced : host.Synced) {now madeAt : Int}
    {keyCoins signatureCoins : Bytes β} {reply : KeyReply}
    (agreed : host.Agreed getE2eesPack
      (.purgeSignedPreKey now madeAt keyCoins signatureCoins reply)) :
    (host.purgeSignedPreKey getE2eesPack now madeAt keyCoins signatureCoins reply).Synced := by
  obtain ⟨-, same | same⟩ | ⟨newSpk, called, same⟩ :=
    purgeSignedPreKey_cases now madeAt keyCoins signatureCoins reply
  · rw [same]
    exact synced
  · rw [same]
    exact synced.removeExpired
  · have published := (synced.renew newSpk).published newSpk reply fun sent =>
      agreed (by rw [sends_purgeSignedPreKey reply called, sent]) reply rfl
    rw [same]
    split
    case isTrue => exact published.removeExpired
    case isFalse => exact published

theorem Synced.supplied (synced : host.Synced) {opksNum : UInt32} {coins : Nat → Bytes β}
    {reply : KeyReply}
    (agreed : host.Agreed getE2eesPack (.supplyOpks opksNum coins reply)) :
    (host.supplyOpks getE2eesPack opksNum coins reply).2.Synced := by
  obtain ⟨served, stored⟩ := supplyOpks_signedPreKeys getE2eesPack host opksNum coins reply
  refine ⟨?_, ?_⟩
  · rw [served, stored]
    exact synced.signedPreKeys
  · cases requested : supplyOpksRequest getE2eesPack host.account host.nextOneTimePreKeyId
        opksNum coins with
    | none =>
        have same : (host.supplyOpks getE2eesPack opksNum coins reply).2 = host := by
          simp [supplyOpks, supplyOpksInternal, requested]
        rw [same]
        exact synced.oneTimePreKeys
    | some keys =>
        have answered := agreed (by simp only [sends, requested, Option.isSome_some]) reply rfl
        obtain ⟨accepted, rows⟩ := supplyOpks_sent reply requested
        intro key listed
        rw [accepted] at listed
        rw [rows]
        by_cases accepts : reply.accepts = true
        · rw [if_pos accepts, List.mem_append] at listed
          rw [if_pos (answered.mp accepts), List.mem_append]
          exact listed.imp_left (synced.oneTimePreKeys key)
        · rw [if_neg accepts] at listed
          rw [if_neg fun good => accepts (answered.mpr good)]
          exact synced.oneTimePreKeys key listed

theorem Synced.loaded (synced : host.Synced) : host.loadAccount.Synced := by
  unfold loadAccount
  split
  case h_1 => exact synced
  case h_2 => exact ⟨synced.signedPreKeys, synced.oneTimePreKeys⟩

theorem Synced.step (synced : host.Synced) {action : KeyAction β}
    (agreed : host.Agreed getE2eesPack action) : (host.step getE2eesPack action).Synced := by
  cases action with
  | purgeSignedPreKey now madeAt keyCoins signatureCoins reply => exact synced.purged agreed
  | supplyOpks opksNum coins reply => exact synced.supplied agreed
  | handOut place =>
      exact ⟨synced.signedPreKeys, fun key listed =>
        synced.oneTimePreKeys key (List.mem_of_mem_eraseIdx listed)⟩
  | loadAccount => exact synced.loaded

theorem start_synced (account : Account β) (ttl : Int) (nextOneTimePreKeyId : UInt32) :
    (start account ttl nextOneTimePreKeyId).Synced :=
  ⟨rfl, fun _ listed => listed⟩

/-- The keys stay in the database as long as the server accepts exactly what it answers with
OK. -/
theorem publishedKeys_backed (account : Account β) (ttl : Int) (nextOneTimePreKeyId : UInt32)
    (actions : List (KeyAction β))
    (agreed : Machine.Along (step getE2eesPack) (Agreed getE2eesPack)
      (start account ttl nextOneTimePreKeyId) actions) :
    (Machine.run (step getE2eesPack) (start account ttl nextOneTimePreKeyId) actions).Backed :=
  Synced.backed (Machine.run_invariant_along (fun _ _ synced agreed => synced.step agreed)
    actions (start_synced account ttl nextOneTimePreKeyId) agreed)

/-- A reported publication is right exactly when it is accepted and answered with OK. -/
theorem publishedWhenReported_iff (newSpk : StoredSignedPreKey β) (reply : KeyReply) :
    host.PublishedWhenReported getE2eesPack newSpk reply ↔
      ((host.publishSpkInternal getE2eesPack newSpk reply).1 = true →
        reply = ⟨true, some .ok⟩) := by
  refine forall_congr' fun sent => ?_
  obtain ⟨accepted, stored, -, -⟩ := publishSpkInternal_sent reply sent
  rw [accepted, stored]
  obtain ⟨accepts, response⟩ := reply
  simp only [KeyReply.mk.injEq]
  cases accepts <;> by_cases answered : response = some .ok <;> simp [answered]

theorem suppliedWhenReported_iff (opksNum : UInt32) (coins : Nat → Bytes β) (reply : KeyReply) :
    host.SuppliedWhenReported getE2eesPack opksNum coins reply ↔
      ((host.supplyOpks getE2eesPack opksNum coins reply).1 = true →
        reply = ⟨true, some .ok⟩) := by
  refine forall_congr' fun sent => ?_
  rw [supplyOpks_reported, sends, Option.isSome_iff_exists] at sent
  obtain ⟨keys, requested⟩ := sent
  obtain ⟨length, nonempty⟩ := supplyOpksRequest_length requested
  obtain ⟨accepted, stored⟩ := supplyOpks_sent reply requested
  rw [accepted, stored]
  obtain ⟨accepts, response⟩ := reply
  simp only [KeyReply.mk.injEq]
  constructor
  · rintro ⟨others, asked, served, kept⟩
    have some : others ≠ [] := by
      rintro rfl
      exact nonempty (List.length_eq_zero_iff.mp (length.trans asked.symm))
    constructor
    · by_contra refused
      simp [refused, some] at served
    · by_contra unanswered
      simp [unanswered, some] at kept
  · rintro ⟨rfl, rfl⟩
    exact ⟨keys, length, by simp, by simp⟩

theorem reportsRight_iff (action : KeyAction β) :
    host.ReportsRight getE2eesPack action ↔ host.Delivered getE2eesPack action := by
  cases action with
  | purgeSignedPreKey now madeAt keyCoins signatureCoins reply =>
      simp only [ReportsRight, Delivered, KeyAction.reply, Option.some.injEq]
      cases called : host.publishCall getE2eesPack now madeAt keyCoins signatureCoins with
      | none => simp [sends, called]
      | some newSpk =>
          rw [sends_purgeSignedPreKey reply called, ← publishedWhenReported_iff]
          simp
  | supplyOpks opksNum coins reply =>
      simp only [ReportsRight, Delivered, KeyAction.reply, Option.some.injEq]
      rw [suppliedWhenReported_iff, supplyOpks_reported]
  | handOut place => simp [ReportsRight, Delivered, sends]
  | loadAccount => simp [ReportsRight, Delivered, sends]

end KeyHost

/-- In a run every report of success is right and every published key stays in the database,
exactly when the server accepts every request that is sent and its answer arrives. -/
theorem publishedKeys_stored_iff (getE2eesPack : Packs β) (account : Account β) (ttl : Int)
    (nextOneTimePreKeyId : UInt32) (actions : List (KeyAction β)) :
    Machine.Along (KeyHost.step getE2eesPack)
        (fun host action => host.ReportsRight getE2eesPack action ∧ host.Backed ∧
          (host.step getE2eesPack action).Backed)
        (KeyHost.start account ttl nextOneTimePreKeyId) actions ↔
      Machine.Along (KeyHost.step getE2eesPack) (KeyHost.Delivered getE2eesPack)
        (KeyHost.start account ttl nextOneTimePreKeyId) actions := by
  constructor
  · exact Machine.along_mono fun host action right =>
      (KeyHost.reportsRight_iff action).mp right.1
  · intro delivered
    have kept : ∀ (host : KeyHost β) action, host.Synced →
        host.Delivered getE2eesPack action → (host.step getE2eesPack action).Synced :=
      fun _ _ synced sent => synced.step sent.agreed
    have synced := Machine.along_invariant kept actions
      (KeyHost.start_synced account ttl nextOneTimePreKeyId) delivered
    refine Machine.along_mono (fun host action both => ?_) (Machine.along_and synced delivered)
    obtain ⟨now, sent⟩ := both
    exact ⟨(KeyHost.reportsRight_iff action).mpr sent, now.backed,
      (kept host action now sent).backed⟩

namespace Symbolic

/-- The signed pre-key of Bob has expired. -/
def renewalStart : KeyHost FreeTerm := KeyHost.start bobAccount 10 2

def renewal (reply : KeyReply) : KeyAction FreeTerm :=
  .purgeSignedPreKey 11 11 [.byte 81] [.byte 82] reply

def supply (reply : KeyReply) : KeyAction FreeTerm :=
  .supplyOpks 1 (fun _ => [.byte 80]) reply

/-- Every answer of this run arrives. -/
def deliveredActions : List (KeyAction FreeTerm) :=
  [renewal ⟨true, some .ok⟩, supply ⟨true, some .ok⟩, .handOut 0, .loadAccount,
    renewal ⟨true, some .ok⟩]

end Symbolic

/-- The server accepts the new signed pre-key and its answer is lost: success is reported, and the
database only has the older key. A refused supply is also reported as a success. -/
theorem lostAnswer_unstored :
    let renewed := Machine.run (KeyHost.step fun _ => some symbolicSuite) Symbolic.renewalStart
      [Symbolic.renewal ⟨true, none⟩]
    renewed.accepted.signedPreKeys.map (fun key => key.spkId) = [2, 3] ∧
      renewed.tables.signedPreKeys.map (fun row => row.signedPreKey.spkId) = [2] ∧
      (Symbolic.renewalStart.publishCall (fun _ => some symbolicSuite) 11 11 [.byte 81]
        [.byte 82]).map (fun newSpk => ((Symbolic.renewalStart.renew newSpk).publishSpkInternal
          (fun _ => some symbolicSuite) newSpk ⟨true, none⟩).1) = some true ∧
      (Symbolic.renewalStart.supplyOpks (fun _ => some symbolicSuite) 1 (fun _ => [.byte 80])
        ⟨false, none⟩).1 = true ∧
      ¬ Machine.Along (KeyHost.step fun _ => some symbolicSuite)
        (fun host action => host.ReportsRight (fun _ => some symbolicSuite) action ∧
          host.Backed ∧ (host.step (fun _ => some symbolicSuite) action).Backed)
        Symbolic.renewalStart [Symbolic.renewal ⟨true, none⟩] := by
  refine ⟨by decide, by decide, by decide, by decide, ?_⟩
  rintro ⟨⟨-, -, backed⟩, -⟩
  have unstored : ¬ ∀ key ∈ (KeyHost.step (fun _ => some symbolicSuite) Symbolic.renewalStart
      (Symbolic.renewal ⟨true, none⟩)).accepted.signedPreKeys.rtake 2,
      ∃ row ∈ (KeyHost.step (fun _ => some symbolicSuite) Symbolic.renewalStart
        (Symbolic.renewal ⟨true, none⟩)).tables.signedPreKeys, row.signedPreKey = key := by
    decide
  exact unstored backed.signedPreKeys

instance decidableDelivered (host : KeyHost FreeTerm) (action : KeyAction FreeTerm) :
    Decidable (host.Delivered (fun _ => some symbolicSuite) action) :=
  inferInstanceAs (Decidable (_ → _))

example : Machine.Along (KeyHost.step fun _ => some symbolicSuite)
    (KeyHost.Delivered fun _ => some symbolicSuite) Symbolic.renewalStart
    Symbolic.deliveredActions := by
  decide

end E2eeSecurity
