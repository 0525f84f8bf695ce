/-
This file registers a device at the server and asks for sessions with the devices that the server
names, and shows which registered devices can talk to each other.
-/
import E2eeSecurity.Client.AccountCache
import E2eeSecurity.Client.Conversation
import E2eeSecurity.Client.Frames

namespace E2eeSecurity

structure RegisterUserParams where
  e2eesPackId : UInt32
  userName : String
  userId : String
  deviceId : String
  authenticator : String
  authCode : String
  deriving DecidableEq

/-- The request carries all public keys of the new account. -/
structure RegisterUserRequest (β : Type) where
  e2eesPackId : UInt32
  userName : String
  userId : String
  deviceId : String
  authenticator : String
  authCode : String
  identityKeyPublic : IdentityKeyPublic β
  signedPreKeyPublic : SignedPreKeyPublic β
  oneTimePreKeyList : List (OneTimePreKeyPublic β)
  deriving DecidableEq

structure IssuedCert (β : Type) extends Cert β where
  issuee : Subject
  issuer : Subject
  deriving DecidableEq

/-- This is the certificate of the server as it travels. -/
structure IssuedCertificate (β : Type) where
  cert : Option (IssuedCert β)
  certFingerprint : Bytes β
  signingPublicKeyFingerprint : Bytes β
  signature : Bytes β
  deriving DecidableEq

structure RegisterUserResponse (β : Type) where
  code : ResponseCode
  address : Option E2eeAddress
  username : String
  password : String
  auth : String
  serverCert : Option (IssuedCertificate β)
  otherDeviceAddressList : List E2eeAddress
  otherUserAddressList : List E2eeAddress
  groupInfoList : List GroupInfo
  deriving DecidableEq

variable {β : Type}

section Checks

/-- The authenticator may be empty. -/
def isValidRegisterUserInputs (getE2eesPack : Packs β) (params : RegisterUserParams) : Bool :=
  isValidE2eesPackId getE2eesPack params.e2eesPackId && isValidString params.userName &&
    isValidString params.userId && isValidString params.deviceId && isValidString params.authCode

/-- The address, the password and the authorisation must still be missing. -/
def isValidUnregisteredAccount (getE2eesPack : Packs β) (account : Account β) : Bool :=
  isValidE2eesPackId getE2eesPack account.e2eesPackId && isValidIdentityKey account.identityKey &&
    isValidSignedPreKey account.signedPreKey &&
    account.oneTimePreKeyList.all isValidOneTimePreKey && account.address.isNone &&
    !isValidString account.password && !isValidString account.auth

/-- A user is named without a device here. -/
def isValidNoDeviceIdUserAddress (address : E2eeAddress) : Bool :=
  isValidString address.domain &&
    match address.peer with
    | .user userId deviceId => isValidString userId && !isValidString deviceId
    | .group _ => false

def isValidCert (cert : IssuedCert β) : Bool :=
  isValidSubject cert.issuee && isValidProtobuf cert.publicKey && isValidSubject cert.issuer

def isValidCertificate (certificate : IssuedCertificate β) : Bool :=
  certificate.cert.any isValidCert && isValidProtobuf certificate.certFingerprint &&
    isValidProtobuf certificate.signingPublicKeyFingerprint &&
    isValidProtobuf certificate.signature

/-- The certificate is not checked here. -/
def isValidRegisterUserResponse (response : RegisterUserResponse β) : Bool :=
  response.code == .ok && response.address.any isValidAddress && isValidString response.username &&
    isValidString response.password && isValidString response.auth &&
    response.otherDeviceAddressList.all isValidAddress &&
    response.otherUserAddressList.all isValidNoDeviceIdUserAddress &&
    response.groupInfoList.all isValidGroupInfo

end Checks

section Requesting

def copyIkToPublic (src : IdentityKey β) : IdentityKeyPublic β where
  asymPublicKey := copyProtobufFromProtobuf [] src.asymKeyPair.publicKey
  signPublicKey := copyProtobufFromProtobuf [] src.signKeyPair.publicKey

def copySpkToPublic (src : SignedPreKey β) : SignedPreKeyPublic β where
  spkId := src.spkId
  publicKey := copyProtobufFromProtobuf [] src.keyPair.publicKey
  signature := copyProtobufFromProtobuf [] src.signature

def copyOpkToPublic (src : OneTimePreKey β) : OneTimePreKeyPublic β where
  opkId := src.opkId
  publicKey := copyProtobufFromProtobuf [] src.keyPair.publicKey

def produceRegisterRequest (params : RegisterUserParams) (account : Account β) :
    RegisterUserRequest β where
  e2eesPackId := params.e2eesPackId
  userName := params.userName
  userId := params.userId
  deviceId := params.deviceId
  authenticator := params.authenticator
  authCode := params.authCode
  identityKeyPublic := copyIkToPublic account.identityKey
  signedPreKeyPublic := copySpkToPublic account.signedPreKey
  oneTimePreKeyList := account.oneTimePreKeyList.map copyOpkToPublic

end Requesting

section Hosts

/-- This is the key that the lookup leaves in its buffer, and an empty buffer is a null pointer. -/
def cachedServerKey (cache : List (AccountCacheer β)) (address : E2eeAddress) :
    Option (Bytes β) :=
  (some (loadServerPublicKeyFromCache cache address)).filter isValidProtobuf

/-- The client reads its identity keys and the keys of the server from the cache of accounts. -/
structure Host (β : Type) where
  client : Client β
  cache : List (AccountCacheer β)
  identityKeys : client.store.cachedIdentityKey = loadIdentityKeyFromCache cache
  serverKeys : client.serverPublicKey = cachedServerKey cache

/-- A row for the account is added to the database. -/
def Client.storeAccount (client : Client β) (address : E2eeAddress) (account : Account β) :
    Client β :=
  { client with
    store := { client.store with
      account := Function.update client.store.account address (some account)
      signedPreKey := fun owner spkId =>
        if owner = address ∧ spkId = account.signedPreKey.spkId then some account.signedPreKey
        else client.store.signedPreKey owner spkId
      auth := Function.update client.store.auth address account.auth } }

/-- The account goes to the database, and to the cache when its address is new there. -/
def Host.storeAccount (host : Host β) (address : E2eeAddress) (account : ServedAccount β) :
    Host β :=
  let stored := host.client.storeAccount address account.toAccount
  let cache := storeAccountIntoCache host.cache account
  { client := { stored with
      store := { stored.store with cachedIdentityKey := loadIdentityKeyFromCache cache }
      serverPublicKey := cachedServerKey cache }
    cache := cache
    identityKeys := rfl
    serverKeys := rfl }

end Hosts

section Frames

/-- The accounts, the authorisations and the cached keys are the same. -/
structure Store.SameKeys (before after : Store β) : Prop where
  account : after.account = before.account
  cachedIdentityKey : after.cachedIdentityKey = before.cachedIdentityKey
  auth : after.auth = before.auth

variable {before between after : Store β} {getE2eesPack : Packs β}

theorem Store.SameKeys.refl (store : Store β) : store.SameKeys store := ⟨rfl, rfl, rfl⟩

theorem Store.SameKeys.trans (first : before.SameKeys between) (second : between.SameKeys after) :
    before.SameKeys after where
  account := second.account.trans first.account
  cachedIdentityKey := second.cachedIdentityKey.trans first.cachedIdentityKey
  auth := second.auth.trans first.auth

theorem Store.storeSession_sameKeys (store : Store β) (session : Session β) :
    store.SameKeys (store.storeSession session) := ⟨rfl, rfl, rfl⟩

theorem Store.storePendingRequest_sameKeys (store : Store β) (address : E2eeAddress)
    (request : PendingRequest β) : store.SameKeys (store.storePendingRequest address request) :=
  ⟨rfl, rfl, rfl⟩

theorem consumeInviteResponse_sameKeys (store : Store β) (userAddress : E2eeAddress)
    (response : Option InviteResponse) :
    store.SameKeys (consumeInviteResponse store userAddress response).2 := by
  obtain same | ⟨_, _, _, _, changed⟩ := consumeInviteResponse_cases store userAddress response
  · rw [same]
    exact .refl store
  · rw [changed]
    exact store.storeSession_sameKeys _

theorem inviteInternal_sameKeys (invite : InviteMsg β → Option InviteResponse) (store : Store β)
    (session : Session β) :
    store.SameKeys (inviteInternal getE2eesPack invite store session).2.1 := by
  have consumed := consumeInviteResponse_sameKeys store session.ourAddress
    (invite (produceInviteRequest session))
  unfold inviteInternal
  split
  · dsimp only
    split
    · exact consumed
    · exact consumed.trans (Store.storePendingRequest_sameKeys _ _ _)
  · exact .refl store

theorem pqcNewOutboundSessionV2_sameKeys (invite : InviteMsg β → Option InviteResponse)
    (store : Store β) (sender : E2eeAddress) (bundle : PreKeyBundle β) (draw : OutboundDraw β) :
    store.SameKeys (pqcNewOutboundSessionV2 getE2eesPack invite store sender bundle draw).2.1 := by
  rw [pqcNewOutboundSessionV2_eq]
  split
  · exact (store.storeSession_sameKeys _).trans (inviteInternal_sameKeys _ _ _)
  · exact .refl store

theorem consumeSendOne2oneMsgResponse_sameKeys (store : Store β) (session : Session β)
    (response : Option SendOne2oneMsgResponse) :
    store.SameKeys (consumeSendOne2oneMsgResponse store session response).2 := by
  unfold consumeSendOne2oneMsgResponse
  split <;> exact ⟨rfl, rfl, rfl⟩

theorem sendOne2oneMsgInternal_sameKeys (attempt : SendAttempt) (store : Store β)
    (session : Session β) (data : Bytes β) :
    store.SameKeys (sendOne2oneMsgInternal getE2eesPack attempt store session data).store := by
  have consumed (moved : Session β) := consumeSendOne2oneMsgResponse_sameKeys store moved
    attempt.response
  unfold sendOne2oneMsgInternal
  split
  · dsimp only
    split
    · split
      · split
        · exact consumed _
        · exact (consumed _).trans (Store.storePendingRequest_sameKeys _ _ _)
      · exact .refl store
    · exact .refl store
  · exact .refl store

/-- The keys of the servers are the same as well. -/
structure Client.SameKeys (before after : Client β) : Prop where
  store : before.store.SameKeys after.store
  serverPublicKey : after.serverPublicKey = before.serverPublicKey

theorem Client.SameKeys.refl (client : Client β) : client.SameKeys client :=
  ⟨.refl _, rfl⟩

theorem Client.SameKeys.trans {before between after : Client β} (first : before.SameKeys between)
    (second : between.SameKeys after) : before.SameKeys after where
  store := first.store.trans second.store
  serverPublicKey := second.serverPublicKey.trans first.serverPublicKey

theorem sameKeys_frame (platform : Platform β) :
    BundleFrame platform (fun _ => True) Client.SameKeys where
  refl := .refl
  trans _ _ _ first second := first.trans second
  loaded _ _ _ _ _ _ _ := trivial
  newSession client _ _ _ _ _ := ⟨pqcNewOutboundSessionV2_sameKeys _ client.store _ _ _, rfl⟩
  send client _ _ _ _ := ⟨sendOne2oneMsgInternal_sameKeys _ client.store _ _, rfl⟩
  wait client _ _ _ _ := ⟨.refl client.store, rfl⟩
  queue client _ _ _ := ⟨client.store.storePendingRequest_sameKeys _ _, rfl⟩

end Frames

section Registering

variable (platform : Platform β)

/-- A request for bundles does not touch the cache. -/
def Host.getPreKeyBundle (host : Host β) (reply : BundleReply β) (fromAddress : E2eeAddress)
    (auth : String) (toAddress : E2eeAddress) : Host β where
  client := (getPreKeyBundleInternal platform reply host.client fromAddress auth
    ⟨toAddress.domain, toAddress.userId.getD "", toAddress.deviceId.getD ""⟩ false none).2
  cache := host.cache
  identityKeys := ((sameKeys_frame platform).getPreKeyBundleInternal trivial
    ..).store.cachedIdentityKey.trans host.identityKeys
  serverKeys := ((sameKeys_frame platform).getPreKeyBundleInternal trivial ..).serverPublicKey.trans
    host.serverKeys

/-- One request is made for each address, whatever the answers are. -/
def Host.getPreKeyBundles (fromAddress : E2eeAddress) (auth : String) :
    (Nat → BundleReply β) → List E2eeAddress → Host β → Host β
  | _, [], host => host
  | replies, toAddress :: rest, host =>
      getPreKeyBundles fromAddress auth (fun index => replies (index + 1)) rest
        (host.getPreKeyBundle platform (replies 0) fromAddress auth toAddress)

/-- This is the account with what the server has given it. A bad certificate is left out. -/
def registeredAccount (account : Account β) (address : E2eeAddress)
    (response : RegisterUserResponse β) : ServedAccount β where
  toAccount := { account with
    address := some (copyAddressFromAddress address)
    password := response.password
    auth := response.auth }
  version := e2eesProtocolVersion
  serverCert := (response.serverCert.filter isValidCertificate).map fun certificate =>
    ⟨certificate.cert.map IssuedCert.toCert⟩

/-- The other devices of the user come first, and then the other users without our own address.
The result says whether the answer was accepted. -/
def consumeRegisterResponse (replies : Nat → BundleReply β) (host : Host β) (account : Account β)
    (response : RegisterUserResponse β) : Bool × Host β :=
  match response.address with
  | some address =>
      if isValidUnregisteredAccount platform.getE2eesPack account &&
          isValidRegisterUserResponse response then
        let registered := registeredAccount account address response
        let stored := host.storeAccount address registered
        let devices := response.otherDeviceAddressList
        let users := response.otherUserAddressList.filter fun toAddress =>
          !compareAddress address toAddress
        (true, (stored.getPreKeyBundles platform address registered.auth replies
            devices).getPreKeyBundles platform address registered.auth
          (fun index => replies (devices.length + index)) users)
      else (false, host)
  | none => (false, host)

/-- The result says whether the registration succeeded, and the last component is the request that
goes to the server. -/
def registerUser (params : RegisterUserParams) (coins : AccountCoins β)
    (register : RegisterUserRequest β → Option (RegisterUserResponse β))
    (replies : Nat → BundleReply β) (host : Host β) :
    Bool × Host β × Option (RegisterUserRequest β) :=
  if isValidRegisterUserInputs platform.getE2eesPack params then
    match createAccount platform.getE2eesPack params.e2eesPackId coins with
    | some account =>
        let request := produceRegisterRequest params account
        match (register request).filter isValidRegisterUserResponse with
        | some response => (true,
            (consumeRegisterResponse platform replies host account response).2, some request)
        | none => (false, host, some request)
    | none => (false, host, none)
  else (false, host, none)

/-- This is the bundle that the server makes of a request. The stock may be used up. -/
def RegisterUserRequest.publishedBundle (request : RegisterUserRequest β) (address : E2eeAddress)
    (place : Nat) : PreKeyBundle β where
  e2eesPackId := request.e2eesPackId
  userAddress := address
  identityKeyPublic := request.identityKeyPublic
  signedPreKeyPublic := request.signedPreKeyPublic
  oneTimePreKeyPublic := request.oneTimePreKeyList[place]?

end Registering

/-- This is one registration: what the device starts with, its randomness, the answers of the
server, and the account that is made for it. -/
structure Registration (β : Type) where
  host : Host β
  params : RegisterUserParams
  coins : AccountCoins β
  response : RegisterUserResponse β
  replies : Nat → BundleReply β
  address : E2eeAddress
  account : Account β

namespace Registration

variable (platform : Platform β) (cipherSuite : CipherSuite β) (registration : Registration β)

def result : Bool × Host β × Option (RegisterUserRequest β) :=
  registerUser platform registration.params registration.coins
    (fun _ => some registration.response) registration.replies registration.host

def request : RegisterUserRequest β :=
  produceRegisterRequest registration.params registration.account

/-- This is the account as it is stored. -/
def registered : ServedAccount β :=
  registeredAccount registration.account registration.address registration.response

/-- The inputs and the answer pass their checks, the account has a signature, and the device does
not know the address yet. -/
structure Accepted : Prop where
  inputs : isValidRegisterUserInputs platform.getE2eesPack registration.params = true
  pack : platform.getE2eesPack registration.params.e2eesPackId = some cipherSuite
  created : createAccount platform.getE2eesPack registration.params.e2eesPackId
    registration.coins = some registration.account
  signed : registration.account.signedPreKey.signature ≠ []
  response : isValidRegisterUserResponse registration.response = true
  addressed : registration.response.address = some registration.address
  fresh : findAccountInCache registration.address registration.host.cache = none

end Registration

section Creating

variable {getE2eesPack : Packs β} {cipherSuite : CipherSuite β} {e2eesPackId : UInt32}
  {coins : AccountCoins β} {account : Account β}

/-- This is what an account is before it is registered. -/
structure Account.Unregistered (account : Account β) (cipherSuite : CipherSuite β)
    (e2eesPackId : UInt32) : Prop where
  pack : account.e2eesPackId = e2eesPackId
  address : account.address = none
  password : account.password = ""
  auth : account.auth = ""
  keyed : account.Keyed cipherSuite
  numbered : ∀ key ∈ account.oneTimePreKeyList, key.opkId ≠ 0
  distinct : (account.oneTimePreKeyList.map fun key => key.opkId).Nodup
  signed : ∃ coins, account.signedPreKey.signature = cipherSuite.ds.sign coins
    account.signedPreKey.keyPair.publicKey account.identityKey.signKeyPair.privateKey

theorem generateSignedPreKey_signature {curSpkId : UInt32}
    {identityPrivateKey keyCoins signatureCoins : Bytes β} {signedPreKey : SignedPreKey β}
    (made : generateSignedPreKey cipherSuite curSpkId identityPrivateKey keyCoins
      signatureCoins = some signedPreKey) :
    signedPreKey.signature = cipherSuite.ds.sign signatureCoins signedPreKey.keyPair.publicKey
      identityPrivateKey := by
  obtain ⟨keyPair, -, rest⟩ := Option.bind_eq_some_iff.mp made
  dsimp only at rest
  split at rest
  · cases rest
  · cases rest
    rfl

/-- The identifiers from 1 on do not come back within one stock. -/
theorem generateOpks_distinct {keys : List (OneTimePreKey β)}
    (made : generateOpks cipherSuite 1 coins.oneTimePreKey oneTimePreKeyInitialNum = some keys) :
    (keys.map fun key => key.opkId).Nodup := by
  obtain ⟨others, drawn, -, numbered⟩ :=
    generateOpks_some cipherSuite 1 coins.oneTimePreKey oneTimePreKeyInitialNum
  rw [made, Option.some.injEq] at drawn
  rw [drawn, numbered]
  apply List.Nodup.map_on _ List.nodup_range
  intro left leftSmall right rightSmall same
  rw [List.mem_range, oneTimePreKeyInitialNum] at leftSmall rightSmall
  have value := congrArg UInt32.toNat same
  simp [UInt32.toNat_add] at value
  omega

theorem createAccount_unregistered (present : getE2eesPack e2eesPackId = some cipherSuite)
    (created : createAccount getE2eesPack e2eesPackId coins = some account) :
    isValidCipherSuite cipherSuite = true ∧ account.Unregistered cipherSuite e2eesPackId := by
  have valid : isValidCipherSuite cipherSuite = true := by
    by_contra invalid
    simp [createAccount, present, invalid] at created
  obtain ⟨same, found, pack, keyed, numbered⟩ := createAccount_keyed present valid coins
  rw [created, Option.some.injEq] at found
  subst found
  simp only [createAccount, present, valid, Option.bind_eq_bind, Option.bind_some, if_true,
    Option.bind_eq_some_iff, Option.some.injEq] at created
  obtain ⟨identityKey, -, signedPreKey, signed, keys, stocked, rfl⟩ := created
  exact ⟨valid, pack, rfl, rfl, rfl, keyed, numbered, generateOpks_distinct stocked,
    coins.signature, generateSignedPreKey_signature signed⟩

/-- An identifier names one key of the stock. -/
theorem Account.Unregistered.lookup (unregistered : account.Unregistered cipherSuite e2eesPackId)
    {key : OneTimePreKey β} (member : key ∈ account.oneTimePreKeyList) :
    lookupOneTimePreKey account key.opkId = some key := by
  have here : (account.oneTimePreKeyList.find? fun other => other.opkId == key.opkId).isSome :=
    List.find?_isSome.mpr ⟨key, member, beq_self_eq_true _⟩
  obtain ⟨other, found⟩ := Option.isSome_iff_exists.mp here
  have same : other.opkId = key.opkId := by simpa using List.find?_some found
  have one : other = key := List.inj_on_of_nodup_map unregistered.distinct
    (List.mem_of_find?_eq_some found) member same
  rw [lookupOneTimePreKey, found, one]

/-- The new account passes its check unless its signature is empty. -/
theorem Account.Unregistered.valid (unregistered : account.Unregistered cipherSuite e2eesPackId)
    (pack : isValidE2eesPackId getE2eesPack e2eesPackId = true) :
    isValidUnregisteredAccount getE2eesPack account =
      isValidProtobuf account.signedPreKey.signature := by
  obtain ⟨signCoins, signMade⟩ := unregistered.keyed.signKey
  obtain ⟨publicLength, privateLength⟩ := cipherSuite.ds.dsKeyGenLength signCoins
  rw [signMade] at publicLength privateLength
  have stock : account.oneTimePreKeyList.all isValidOneTimePreKey = true := by
    rw [List.all_eq_true]
    intro key member
    exact (unregistered.keyed.oneTimePreKey key member).valid
  have signValid : isValidKeyPair account.identityKey.signKeyPair = true := by
    simp only [isValidKeyPair, Bool.and_eq_true]
    exact ⟨isValidProtobuf_of_length privateLength cipherSuite.ds.signPrivKeyLenPositive,
      isValidProtobuf_of_length publicLength cipherSuite.ds.signPubKeyLenPositive⟩
  simp [isValidUnregisteredAccount, unregistered.pack, pack, isValidIdentityKey,
    unregistered.keyed.identityKey.valid, signValid, isValidSignedPreKey,
    unregistered.keyed.signedPreKey.valid, stock, unregistered.address, unregistered.password,
    unregistered.auth, isValidString]

end Creating

section Storing

variable {platform : Platform β} {cipherSuite : CipherSuite β} {registration : Registration β}

/-- The requests for bundles leave the new account where it is. -/
theorem Host.getPreKeyBundles_sameKeys (fromAddress : E2eeAddress) (auth : String)
    (addresses : List E2eeAddress) (replies : Nat → BundleReply β) (host : Host β) :
    host.client.SameKeys
      (host.getPreKeyBundles platform fromAddress auth replies addresses).client := by
  induction addresses generalizing replies host with
  | nil => exact .refl host.client
  | cons toAddress rest ih =>
      rw [Host.getPreKeyBundles]
      apply Client.SameKeys.trans _ (ih _ _)
      exact (sameKeys_frame platform).getPreKeyBundleInternal trivial ..

namespace Registration

theorem Accepted.suite (accepted : registration.Accepted platform cipherSuite) :
    isValidE2eesPackId platform.getE2eesPack registration.params.e2eesPackId = true ∧
      isValidCipherSuite cipherSuite = true ∧
      registration.account.Unregistered cipherSuite registration.params.e2eesPackId := by
  obtain ⟨valid, unregistered⟩ := createAccount_unregistered accepted.pack accepted.created
  refine ⟨?_, valid, unregistered⟩
  simpa [isValidE2eesPackId, accepted.pack] using valid

/-- The answer is accepted, and the sessions that are asked for keep the stored account. -/
theorem Accepted.stored (accepted : registration.Accepted platform cipherSuite) :
    (registration.result platform).1 = true ∧
      (registration.result platform).2.2 = some registration.request ∧
      (registration.host.storeAccount registration.address registration.registered).client.SameKeys
        (registration.result platform).2.1.client := by
  obtain ⟨pack, -, unregistered⟩ := accepted.suite
  have valid : isValidUnregisteredAccount platform.getE2eesPack registration.account = true := by
    rw [unregistered.valid pack, isValidProtobuf_iff]
    exact accepted.signed
  have sent : registration.result platform = (true, (consumeRegisterResponse platform
      registration.replies registration.host registration.account registration.response).2,
        some registration.request) := by
    simp [result, registerUser, accepted.inputs, accepted.created, Option.filter_some,
      accepted.response, request]
  rw [sent]
  refine ⟨rfl, rfl, ?_⟩
  simp only [consumeRegisterResponse, accepted.addressed, valid, accepted.response, Bool.and_self,
    if_true]
  exact (Host.getPreKeyBundles_sameKeys ..).trans (Host.getPreKeyBundles_sameKeys ..)

/-- The new account is found in the database, in the cache, and with its authorisation. -/
theorem Accepted.registered (accepted : registration.Accepted platform cipherSuite)
    {store : Store β}
    (kept : (registration.result platform).2.1.client.store.SameKeys store) :
    Registered platform.getE2eesPack cipherSuite store registration.address
      registration.registered.toAccount := by
  obtain ⟨pack, -, unregistered⟩ := accepted.suite
  have same := accepted.stored.2.2.store.trans kept
  have named : registration.registered.address = some registration.address := by
    simp [Registration.registered, registeredAccount]
  have response := accepted.response
  simp only [isValidRegisterUserResponse, accepted.addressed, Option.any_some,
    Bool.and_eq_true] at response
  obtain ⟨⟨⟨⟨⟨⟨⟨-, address⟩, -⟩, password⟩, auth⟩, -⟩, -⟩, -⟩ := response
  have valid := unregistered.valid pack
  rw [(isValidProtobuf_iff _).mpr accepted.signed] at valid
  simp only [isValidUnregisteredAccount, Bool.and_eq_true] at valid
  obtain ⟨⟨⟨⟨⟨⟨packed, identity⟩, signed⟩, stock⟩, -⟩, -⟩, -⟩ := valid
  constructor
  case stored =>
    rw [same.account]
    exact Function.update_self ..
  case addressed => exact named
  case valid =>
    simp only [isValidRegisteredAccount, named, Option.any_some, address, Bool.and_eq_true]
    exact ⟨⟨⟨⟨⟨⟨packed, trivial⟩, identity⟩, signed⟩, stock⟩, password⟩, auth⟩
  case pack =>
    exact (congrArg platform.getE2eesPack unregistered.pack).trans accepted.pack
  case keyed => exact { unregistered.keyed with }
  case cached =>
    intro identityKey found
    rw [same.cachedIdentityKey] at found
    have cacher := findAccountInCache_store registration.host.cache registration.registered
      registration.address
    rw [accepted.fresh, Option.none_or, named, if_pos rfl] at cacher
    simp only [Host.storeAccount, loadIdentityKeyFromCache, loadFromCache_eq, cacher,
      insertAccountCacheer, Option.map_some, Option.getD_some, copyIkFromIk_eq,
      Option.some.injEq] at found
    exact found.symm
  case auth =>
    rw [same.auth]
    exact Function.update_self ..

/-- The bundle that the server makes of the request publishes the keys of the stored account, when
the signature has the announced length. -/
theorem Accepted.publishes (accepted : registration.Accepted platform cipherSuite)
    (matching : ∀ coins, cipherSuite.ds.Matching (cipherSuite.ds.dsKeyGen coins).1
      (cipherSuite.ds.dsKeyGen coins).2)
    (full : registration.account.signedPreKey.signature.length = cipherSuite.ds.sigLen)
    (store : Store β) (place : Nat) :
    Publishes cipherSuite store registration.address registration.registered.toAccount
      registration.account.signedPreKey
      (registration.request.publishedBundle registration.address place) := by
  obtain ⟨-, -, unregistered⟩ := accepted.suite
  constructor
  case pack => exact unregistered.pack.symm
  case addressed => rfl
  case identityKey =>
    simp [RegisterUserRequest.publishedBundle, request, produceRegisterRequest, copyIkToPublic,
      Registration.registered, registeredAccount]
  case held => exact .inl rfl
  case published =>
    simp [RegisterUserRequest.publishedBundle, request, produceRegisterRequest, copySpkToPublic]
  case signatureLength => exact full
  case verified =>
    obtain ⟨signCoins, signMade⟩ := unregistered.keyed.signKey
    obtain ⟨coins, signature⟩ := unregistered.signed
    have verified := matching signCoins coins registration.account.signedPreKey.keyPair.publicKey
      registration.account.signedPreKey.signature full
    rw [signMade] at verified
    dsimp only at verified
    rw [← signature, List.drop_length, List.append_nil] at verified
    exact verified
  case oneTimePreKey =>
    intro key present
    simp only [RegisterUserRequest.publishedBundle, request, produceRegisterRequest,
      List.getElem?_map, Option.map_eq_some_iff] at present
    obtain ⟨stored, found, rfl⟩ := present
    have member := List.mem_of_getElem? found
    refine ⟨unregistered.numbered stored member, stored, unregistered.lookup member, ?_⟩
    simp [copyOpkToPublic]

end Registration

end Storing

/-- Two devices register, and the server hands a bundle of the second one to the first one.
The stores may have served other sessions since. -/
structure Meeting (β : Type) where
  platform : Platform β
  cipherSuite : CipherSuite β
  alice : Registration β
  bob : Registration β
  aliceStore : Store β
  bobStore : Store β
  place : Nat
  draw : OutboundDraw β
  bobCoins : InboundCoins β
  aliceCoins : Bytes β
  invite : InviteMsg β → Option InviteResponse
  accept : AcceptMsg β → Option AcceptResponse

namespace Meeting

variable {meeting : Meeting β}

/-- The bundle is made of what the second device has sent with its registration. -/
def handshake (meeting : Meeting β) : Handshake β where
  getE2eesPack := meeting.platform.getE2eesPack
  cipherSuite := meeting.cipherSuite
  aliceStore := meeting.aliceStore
  aliceAddress := meeting.alice.address
  alice := meeting.alice.registered.toAccount
  bobStore := meeting.bobStore
  bobAddress := meeting.bob.address
  bob := meeting.bob.registered.toAccount
  signedPreKey := meeting.bob.account.signedPreKey
  bundle := meeting.bob.request.publishedBundle meeting.bob.address meeting.place
  draw := meeting.draw
  bobCoins := meeting.bobCoins
  aliceCoins := meeting.aliceCoins
  invite := meeting.invite
  accept := meeting.accept

/-- Both registrations are accepted, and both devices still hold what they stored then. -/
structure Accepted (meeting : Meeting β) : Prop where
  alice : meeting.alice.Accepted meeting.platform meeting.cipherSuite
  bob : meeting.bob.Accepted meeting.platform meeting.cipherSuite
  aliceKept : (meeting.alice.result meeting.platform).2.1.client.store.SameKeys meeting.aliceStore
  bobKept : (meeting.bob.result meeting.platform).2.1.client.store.SameKeys meeting.bobStore
  sessionId : meeting.draw.sessionId ≠ ""

/-- This is the signature that the second device has sent with its registration. -/
def signature (meeting : Meeting β) : Bytes β := meeting.bob.account.signedPreKey.signature

theorem Accepted.honest (accepted : meeting.Accepted)
    (correct : meeting.cipherSuite.kem.Correct)
    (matching : ∀ coins, meeting.cipherSuite.ds.Matching (meeting.cipherSuite.ds.dsKeyGen coins).1
      (meeting.cipherSuite.ds.dsKeyGen coins).2)
    (full : meeting.signature.length = meeting.cipherSuite.ds.sigLen) :
    meeting.handshake.Honest where
  correct := correct
  alice := accepted.alice.registered accepted.aliceKept
  bob := accepted.bob.registered accepted.bobKept
  bundle := accepted.bob.publishes matching full _ _
  sessionId := accepted.sessionId

/-- The first device refuses a bundle with a short signature. -/
theorem Accepted.refused (accepted : meeting.Accepted)
    (short : meeting.signature.length ≠ meeting.cipherSuite.ds.sigLen) :
    meeting.handshake.invited = (false, meeting.aliceStore, none) := by
  have stored : meeting.handshake.aliceStore.account meeting.handshake.aliceAddress =
      some meeting.handshake.alice := (accepted.alice.registered accepted.aliceKept).stored
  have pack : meeting.handshake.getE2eesPack meeting.handshake.bundle.e2eesPackId =
      some meeting.cipherSuite := accepted.bob.pack
  have copied : meeting.handshake.bundle.signedPreKeyPublic.signature = meeting.signature :=
    copyProtobufFromProtobuf_nil _
  have unfit : preKeyBundleFits meeting.cipherSuite meeting.handshake.bundle = false := by
    simp [preKeyBundleFits, copied, short]
  simp only [Handshake.invited, pqcNewOutboundSessionV2, stored, pack, unfit, Bool.and_false,
    Bool.false_and, Bool.false_eq_true, if_false]
  rfl

end Meeting

/-- Two devices that are registered can talk exactly when the signature that the second one has
published has the announced length. Otherwise the first one sends nothing. -/
theorem registered_talk_iff (meeting : Meeting β) (accepted : meeting.Accepted)
    (kemCorrect : meeting.cipherSuite.kem.Correct)
    (matching : ∀ coins, meeting.cipherSuite.ds.Matching (meeting.cipherSuite.ds.dsKeyGen coins).1
      (meeting.cipherSuite.ds.dsKeyGen coins).2)
    (free : meeting.cipherSuite.FreeKeys) (ideal : meeting.cipherSuite.se.Ideal)
    (correct : meeting.cipherSuite.se.Correct) [DecidableEq β] :
    (meeting.handshake.Talks ↔ meeting.signature.length = meeting.cipherSuite.ds.sigLen) ∧
      (meeting.signature.length ≠ meeting.cipherSuite.ds.sigLen →
        meeting.handshake.invited = (false, meeting.aliceStore, none)) := by
  refine ⟨⟨?_, ?_⟩, accepted.refused⟩
  · intro talks
    obtain ⟨inviteMsg, acceptMsg, invited, -⟩ := talks
    by_contra short
    rw [accepted.refused short] at invited
    cases invited
  · intro full
    exact (accepted.honest kemCorrect matching full).talks free ideal correct

namespace Symbolic

theorem dsSuite_matching (coins : Bytes FreeTerm) :
    symbolicSuite.ds.Matching (symbolicSuite.ds.dsKeyGen coins).1
      (symbolicSuite.ds.dsKeyGen coins).2 := by
  intro signCoins message buffer length
  have dropped : buffer.drop 1 = [] := by
    rw [List.drop_eq_nil_iff, length]
    exact le_refl 1
  simp [symbolicSuite, dsSuite, dropped]

/-- The device is new. -/
def emptyHost : Host FreeTerm where
  client := {
    store := {
      account := fun _ => none
      cachedIdentityKey := fun _ => none
      signedPreKey := fun _ _ => none
      auth := fun _ => ""
      sessions := handshake.aliceStore.sessions
      pendingRequests := fun _ => [] }
    groups := .empty
    pendingPlaintexts := fun _ _ => []
    serverPublicKey := fun _ => none }
  cache := []
  identityKeys := rfl
  serverKeys := rfl

theorem platform_pack (e2eesPackId : UInt32) :
    platform.getE2eesPack e2eesPackId = some symbolicSuite := rfl

/-- This is the account that is made of some randomness. -/
theorem createAccount_symbolic (coins : AccountCoins FreeTerm) :
    (createAccount platform.getE2eesPack 0 coins).isSome = true := by
  obtain ⟨account, created, -⟩ := createAccount_keyed (platform_pack 0) rfl coins
  exact Option.isSome_of_eq_some created

def newAccount (coins : AccountCoins FreeTerm) : Account FreeTerm :=
  (createAccount platform.getE2eesPack 0 coins).get (createAccount_symbolic coins)

theorem newAccount_created (coins : AccountCoins FreeTerm) :
    createAccount platform.getE2eesPack 0 coins = some (newAccount coins) :=
  (Option.some_get _).symm

theorem newAccount_signed (coins : AccountCoins FreeTerm) :
    (newAccount coins).signedPreKey.signature.length = 1 := by
  obtain ⟨-, unregistered⟩ := createAccount_unregistered (platform_pack 0)
    (newAccount_created coins)
  obtain ⟨signCoins, signed⟩ := unregistered.signed
  rw [signed]
  rfl

def accountCoins (seed : UInt8) : AccountCoins FreeTerm where
  asymKey := [.byte seed, .byte 0]
  signKey := [.byte seed, .byte 1]
  signedPreKey := [.byte seed, .byte 2]
  signature := [.byte seed, .byte 3]
  oneTimePreKey index := [.byte seed, .byte 4, .byte index.toUInt8]

/-- A device registers, and the server names another user. -/
def registration (seed : UInt8) (address : E2eeAddress) (other : String) :
    Registration FreeTerm where
  host := emptyHost
  params := ⟨0, "name", "user", "device", "", "code"⟩
  coins := accountCoins seed
  response := ⟨.ok, some address, "name", "password", "auth", none, [],
    [⟨"domain", .user other ""⟩], []⟩
  replies _ := noReply
  address := address
  account := newAccount (accountCoins seed)

theorem registration_accepted (seed : UInt8) (address : E2eeAddress) (other : String)
    (valid : isValidAddress address = true) (named : other ≠ "") :
    (registration seed address other).Accepted platform symbolicSuite where
  inputs := rfl
  pack := rfl
  created := by
    simp only [registration]
    exact newAccount_created _
  signed := by
    have length := newAccount_signed (accountCoins seed)
    rw [← List.length_pos_iff]
    simp only [registration]
    omega
  response := by
    simp [registration, isValidRegisterUserResponse, valid, isValidNoDeviceIdUserAddress,
      isValidString, named]
  addressed := rfl
  fresh := rfl

/-- Alice takes the last one-time pre-key of Bob. -/
def meeting : Meeting FreeTerm where
  platform := platform
  cipherSuite := symbolicSuite
  alice := registration 1 aliceAddress "bob"
  bob := registration 2 bobAddress "alice"
  aliceStore := ((registration 1 aliceAddress "bob").result platform).2.1.client.store
  bobStore := ((registration 2 bobAddress "alice").result platform).2.1.client.store
  place := 99
  draw := handshake.draw
  bobCoins := handshake.bobCoins
  aliceCoins := handshake.aliceCoins
  invite := handshake.invite
  accept := handshake.accept

theorem meeting_accepted : meeting.Accepted where
  alice := registration_accepted 1 aliceAddress "bob" (by decide) (by decide)
  bob := registration_accepted 2 bobAddress "alice" (by decide) (by decide)
  aliceKept := by
    simp only [meeting]
    exact .refl _
  bobKept := by
    simp only [meeting]
    exact .refl _
  sessionId := handshake_honest.sessionId

theorem meeting_signed : meeting.signature.length = 1 := by
  simp only [Meeting.signature, meeting, registration]
  exact newAccount_signed _

end Symbolic

/-- Bob can be reached with his last one-time pre-key. -/
theorem bob_reachable : Symbolic.meeting.handshake.Talks :=
  (registered_talk_iff Symbolic.meeting Symbolic.meeting_accepted symbolicSuite_matching
    Symbolic.dsSuite_matching symbolicSuite_free symbolicSuite_ideal
    symbolicSuite_correct).1.mpr Symbolic.meeting_signed

end E2eeSecurity
