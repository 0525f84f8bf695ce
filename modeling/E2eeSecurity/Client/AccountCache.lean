/-
This file gives the cache of accounts and shows which of the stored keys a lookup finds.
-/
import E2eeSecurity.Client.Copy

namespace E2eeSecurity

structure Cert (β : Type) where
  publicKey : Bytes β
  deriving DecidableEq

structure Certificate (β : Type) where
  cert : Option (Cert β)
  deriving DecidableEq

/-- This is an account with the fields that only the cache reads. -/
structure ServedAccount (β : Type) extends Account β where
  version : String
  serverCert : Option (Certificate β)
  deriving DecidableEq

/-- This is one node of the cache. An empty key is a null pointer. -/
structure AccountCacheer (β : Type) where
  version : String
  e2eesPackId : UInt32
  address : E2eeAddress
  identityKey : IdentityKey β
  serverPublicKey : Bytes β
  deriving DecidableEq

variable {β : Type}

section Caching

def copyIkFromIk (src : IdentityKey β) : IdentityKey β where
  asymKeyPair := ⟨copyProtobufFromProtobuf [] src.asymKeyPair.publicKey,
    copyProtobufFromProtobuf [] src.asymKeyPair.privateKey⟩
  signKeyPair := ⟨copyProtobufFromProtobuf [] src.signKeyPair.publicKey,
    copyProtobufFromProtobuf [] src.signKeyPair.privateKey⟩

def findAccountInCache (address : E2eeAddress) :
    List (AccountCacheer β) → Option (AccountCacheer β)
  | [] => none
  | cur :: next => if compareAddress cur.address address then some cur
      else findAccountInCache address next

/-- An account without a certificate has no server key. -/
def insertAccountCacheer (account : ServedAccount β) (address : E2eeAddress) :
    AccountCacheer β where
  version := account.version
  e2eesPackId := account.e2eesPackId
  address := copyAddressFromAddress address
  identityKey := copyIkFromIk account.identityKey
  serverPublicKey :=
    match account.serverCert.bind fun serverCert => serverCert.cert with
    | some cert => copyProtobufFromProtobuf [] cert.publicKey
    | none => []

/-- A new node goes to the end of the list. -/
def storeAccountIntoCache (cache : List (AccountCacheer β)) (account : ServedAccount β) :
    List (AccountCacheer β) :=
  match account.address with
  | none => cache
  | some address =>
      if (findAccountInCache address cache).isSome then cache
      else cache ++ [insertAccountCacheer account address]

/-- Each lookup walks the list by itself and reads one field of the first node it meets. -/
def loadFromCache {α : Type} (read : AccountCacheer β → α) (missing : α) (address : E2eeAddress) :
    List (AccountCacheer β) → α
  | [] => missing
  | cur :: next => if compareAddress cur.address address then read cur
      else loadFromCache read missing address next

def loadIdentityKeyFromCache (cache : List (AccountCacheer β)) (address : E2eeAddress) :
    Option (IdentityKey β) :=
  loadFromCache (fun cur => some (copyIkFromIk cur.identityKey)) none address cache

def loadServerPublicKeyFromCache (cache : List (AccountCacheer β)) (address : E2eeAddress) :
    Bytes β :=
  loadFromCache (fun cur => copyProtobufFromProtobuf [] cur.serverPublicKey) [] address cache

/-- This is the cache after a sequence of calls. -/
def cacheAfter (accounts : List (ServedAccount β)) : List (AccountCacheer β) :=
  accounts.foldl storeAccountIntoCache []

end Caching

section Coherence

/-- This is the key that an account brings with its certificate. -/
def ServedAccount.serverPublicKey (account : ServedAccount β) : Bytes β :=
  ((account.serverCert.bind fun serverCert => serverCert.cert).map
    fun cert => cert.publicKey).getD []

@[simp] theorem copyIkFromIk_eq (src : IdentityKey β) : copyIkFromIk src = src := by
  simp [copyIkFromIk]

/-- This is the first account that is stored for an address. -/
def firstStored (accounts : List (ServedAccount β)) (address : E2eeAddress) :
    Option (ServedAccount β) :=
  accounts.find? fun account => decide (account.address = some address)

theorem findAccountInCache_append (address : E2eeAddress) (cache more : List (AccountCacheer β)) :
    findAccountInCache address (cache ++ more) =
      (findAccountInCache address cache).or (findAccountInCache address more) := by
  induction cache with
  | nil => rfl
  | cons cur next ih =>
      rw [List.cons_append, findAccountInCache, findAccountInCache]
      split
      · rfl
      · exact ih

/-- A lookup reads the node that the search finds. -/
theorem loadFromCache_eq {α : Type} (read : AccountCacheer β → α) (missing : α)
    (address : E2eeAddress) (cache : List (AccountCacheer β)) :
    loadFromCache read missing address cache =
      ((findAccountInCache address cache).map read).getD missing := by
  induction cache with
  | nil => rfl
  | cons cur next ih =>
      rw [loadFromCache, findAccountInCache]
      split
      · rfl
      · exact ih

/-- A node is found only under its own address. -/
theorem findAccountInCache_single (account : ServedAccount β) (own address : E2eeAddress) :
    findAccountInCache address [insertAccountCacheer account own] =
      if own = address then some (insertAccountCacheer account own) else none := by
  have same : (insertAccountCacheer account own).address = own := copyAddressFromAddress_eq own
  simp only [findAccountInCache, same, compareAddress_iff]

/-- One call adds an account when its address has none. -/
theorem findAccountInCache_store (cache : List (AccountCacheer β)) (account : ServedAccount β)
    (address : E2eeAddress) :
    findAccountInCache address (storeAccountIntoCache cache account) =
      (findAccountInCache address cache).or
        (if account.address = some address then some (insertAccountCacheer account address)
        else none) := by
  cases named : account.address with
  | none => simp [storeAccountIntoCache, named]
  | some own =>
      simp only [storeAccountIntoCache, named, Option.some.injEq]
      split
      case isTrue cached =>
        by_cases same : own = address
        · rw [same] at cached
          obtain ⟨cur, found⟩ := Option.isSome_iff_exists.mp cached
          rw [found, Option.some_or]
        · rw [if_neg same, Option.or_none]
      case isFalse =>
        rw [findAccountInCache_append, findAccountInCache_single]
        split
        case isTrue same => rw [same]
        case isFalse => rfl

/-- After any sequence of calls a search finds the first account that was stored. -/
theorem findAccountInCache_after (accounts : List (ServedAccount β)) (address : E2eeAddress) :
    findAccountInCache address (cacheAfter accounts) =
      (firstStored accounts address).map fun account => insertAccountCacheer account address := by
  induction accounts using List.reverseRecOn with
  | nil => rfl
  | append_singleton earlier account ih =>
      have after : cacheAfter (earlier ++ [account]) =
          storeAccountIntoCache (cacheAfter earlier) account := by
        rw [cacheAfter, List.foldl_append]
        rfl
      rw [after, findAccountInCache_store, ih, firstStored, firstStored, List.find?_append,
        Option.map_or, List.find?_singleton]
      congr 1
      by_cases same : account.address = some address
      · simp [same]
      · simp [same]

/-- After any sequence of calls the lookups find the keys of the first account that was stored for
the address, and nothing when there is none. -/
theorem cacheAfter_first (accounts : List (ServedAccount β)) (address : E2eeAddress) :
    loadIdentityKeyFromCache (cacheAfter accounts) address =
        (firstStored accounts address).map (fun account => account.identityKey) ∧
      loadServerPublicKeyFromCache (cacheAfter accounts) address =
        ((firstStored accounts address).map ServedAccount.serverPublicKey).getD [] := by
  rw [loadIdentityKeyFromCache, loadServerPublicKeyFromCache, loadFromCache_eq, loadFromCache_eq,
    findAccountInCache_after]
  cases firstStored accounts address with
  | none => exact ⟨rfl, rfl⟩
  | some account =>
      refine ⟨?_, ?_⟩
      · simp [insertAccountCacheer]
      · cases cert : account.serverCert.bind fun serverCert => serverCert.cert with
        | none => simp [insertAccountCacheer, ServedAccount.serverPublicKey, cert]
        | some key => simp [insertAccountCacheer, ServedAccount.serverPublicKey, cert]

/-- This is what a cache that follows every registration would find. -/
def lastStored (accounts : List (ServedAccount β)) (address : E2eeAddress) :
    Option (ServedAccount β) :=
  firstStored accounts.reverse address

/-- Alice registers with keys that are made of one byte. -/
def registeredWith (byte : UInt8) : ServedAccount UInt8 where
  e2eesPackId := 1
  address := some ⟨"domain", .user "alice" "phone"⟩
  identityKey := ⟨⟨[byte], [byte]⟩, ⟨[byte], [byte]⟩⟩
  signedPreKey := ⟨1, ⟨[byte], [byte]⟩, [byte]⟩
  oneTimePreKeyList := []
  password := "password"
  auth := "auth"
  version := "version"
  serverCert := some ⟨some ⟨[byte]⟩⟩

/-- A second registration of the same address leaves the keys of the first one in the cache. -/
theorem secondRegistration_ignored :
    ¬ ∀ (accounts : List (ServedAccount UInt8)) (address : E2eeAddress),
      loadIdentityKeyFromCache (cacheAfter accounts) address =
          (lastStored accounts address).map (fun account => account.identityKey) ∧
        loadServerPublicKeyFromCache (cacheAfter accounts) address =
          ((lastStored accounts address).map ServedAccount.serverPublicKey).getD [] := by
  intro last
  have keys := (last [registeredWith 1, registeredWith 2] ⟨"domain", .user "alice" "phone"⟩).1
  revert keys
  decide

/-- The handshake then goes on with the key of the first registration. -/
theorem loadIdentityKey_first {getE2eesPack : Packs β} {store : Store β}
    {accounts : List (ServedAccount β)} {address : E2eeAddress} {account : ServedAccount β}
    (cached : store.cachedIdentityKey = loadIdentityKeyFromCache (cacheAfter accounts))
    (first : firstStored accounts address = some account) :
    loadIdentityKey getE2eesPack store address = some account.identityKey := by
  have found := (findAccountInCache_after accounts address).symm
  rw [first, Option.map_some] at found
  rw [loadIdentityKey, cached, loadIdentityKeyFromCache, loadFromCache_eq, ← found]
  simp [insertAccountCacheer]

end Coherence

end E2eeSecurity
