/-
This file shows that the calls and the messages of a client lose no key, and that the accounts of
one client are kept apart.
-/
import E2eeSecurity.Client.Owners

namespace E2eeSecurity

variable {β : Type}

section Keys

/-- The identifier and the key pair stay, and a used key stays used. -/
structure OneTimePreKey.Kept (before after : OneTimePreKey β) : Prop where
  same : after = { before with used := after.used }
  used : before.used = true → after.used = true

/-- One-time pre-keys are marked in their places and added behind, and nothing else changes. -/
structure Account.Kept (before after : Account β) : Prop where
  same : after = { before with oneTimePreKeyList := after.oneTimePreKeyList }
  keys : ∀ (index : Nat) key, before.oneTimePreKeyList[index]? = some key →
    ∃ later, after.oneTimePreKeyList[index]? = some later ∧ key.Kept later

/-- No account comes or goes, and only one-time pre-keys change. -/
structure Client.KeysKept (before after : Client β) : Prop where
  accounts : ∀ owner,
    Option.Rel Account.Kept (before.store.account owner) (after.store.account owner)
  identityKeys : after.store.cachedIdentityKey = before.store.cachedIdentityKey
  signedPreKeys : after.store.signedPreKey = before.store.signedPreKey
  auths : after.store.auth = before.store.auth
  serverKeys : after.serverPublicKey = before.serverPublicKey

theorem OneTimePreKey.Kept.refl (key : OneTimePreKey β) : key.Kept key := ⟨rfl, id⟩

theorem OneTimePreKey.Kept.trans {before between after : OneTimePreKey β}
    (first : before.Kept between) (second : between.Kept after) : before.Kept after where
  same := by rw [second.same, first.same]
  used := fun used => second.used (first.used used)

theorem Account.Kept.refl (account : Account β) : account.Kept account :=
  ⟨rfl, fun _ key found => ⟨key, found, .refl key⟩⟩

theorem Account.Kept.trans {before between after : Account β} (first : before.Kept between)
    (second : between.Kept after) : before.Kept after where
  same := by rw [second.same, first.same]
  keys := by
    intro index key found
    obtain ⟨marked, placed, kept⟩ := first.keys index key found
    obtain ⟨later, last, keptAgain⟩ := second.keys index marked placed
    exact ⟨later, last, kept.trans keptAgain⟩

theorem markUsed_kept (opkId : UInt32) {keys : List (OneTimePreKey β)} {index : Nat}
    {key : OneTimePreKey β} (found : keys[index]? = some key) :
    ∃ later, (markUsed opkId keys)[index]? = some later ∧ key.Kept later := by
  induction keys generalizing index with
  | nil => cases found
  | cons head rest ih =>
      rw [markUsed]
      split
      · cases index with
        | zero =>
            cases found
            exact ⟨{ key with used := true }, rfl, rfl, fun _ => rfl⟩
        | succ index => exact ⟨key, found, .refl key⟩
      · cases index with
        | zero => exact ⟨key, found, .refl key⟩
        | succ index => exact ih found

theorem markOpkAsUsed_kept (account : Account β) (opkId : UInt32) :
    account.Kept (markOpkAsUsed account opkId) :=
  ⟨rfl, fun _ _ found => markUsed_kept opkId found⟩

theorem supplied_kept (account : Account β) (keys : List (OneTimePreKey β)) :
    account.Kept { account with oneTimePreKeyList := account.oneTimePreKeyList ++ keys } where
  same := rfl
  keys := by
    intro index key found
    have inside : index < account.oneTimePreKeyList.length :=
      (List.getElem?_eq_some_iff.mp found).1
    refine ⟨key, ?_, .refl key⟩
    rw [← found]
    exact List.getElem?_append_left inside

theorem accounts_kept_refl (store : Store β) (owner : E2eeAddress) :
    Option.Rel Account.Kept (store.account owner) (store.account owner) := by
  cases store.account owner with
  | none => exact .none
  | some account => exact .some (.refl account)

/-- The accounts are changed where an address has one. -/
theorem changed_kept {change : Account β → Account β}
    (kept : ∀ account : Account β, account.Kept (change account)) (store : Store β)
    (address owner : E2eeAddress) :
    Option.Rel Account.Kept (store.account owner)
      (if owner = address then (store.account owner).map change else store.account owner) := by
  split
  · cases store.account owner with
    | none => exact .none
    | some account => exact .some (kept account)
  · exact accounts_kept_refl store owner

theorem Client.KeysKept.refl (client : Client β) : client.KeysKept client :=
  ⟨accounts_kept_refl client.store, rfl, rfl, rfl, rfl⟩

theorem Client.KeysKept.trans {before between after : Client β} (first : before.KeysKept between)
    (second : between.KeysKept after) : before.KeysKept after where
  accounts := by
    intro owner
    have start := first.accounts owner
    have rest := second.accounts owner
    generalize before.store.account owner = old, between.store.account owner = middle,
      after.store.account owner = new at start rest
    cases start with
    | none => exact rest
    | some kept =>
        cases rest with
        | some keptAgain => exact .some (kept.trans keptAgain)
  identityKeys := second.identityKeys.trans first.identityKeys
  signedPreKeys := second.signedPreKeys.trans first.signedPreKeys
  auths := second.auths.trans first.auths
  serverKeys := second.serverKeys.trans first.serverKeys

theorem keysKept_frame : ClientFrame (fun _ => True) (Client.KeysKept (β := β)) where
  refl := .refl
  trans := .trans
  sessions client _ _ := ⟨accounts_kept_refl client.store, rfl, rfl, rfl, rfl⟩
  requests client _ _ := ⟨accounts_kept_refl client.store, rfl, rfl, rfl, rfl⟩
  plaintexts client _ _ := ⟨accounts_kept_refl client.store, rfl, rfl, rfl, rfl⟩
  groups client _ _ _ _ := ⟨accounts_kept_refl client.store, rfl, rfl, rfl, rfl⟩
  mark client address opkId _ :=
    ⟨changed_kept (fun account => markOpkAsUsed_kept account opkId) client.store address,
      rfl, rfl, rfl, rfl⟩
  supply client address keys _ :=
    ⟨changed_kept (fun account => supplied_kept account keys) client.store address,
      rfl, rfl, rfl, rfl⟩

end Keys

section Accounts

/-- Each account is stored under the address that it names. -/
def Client.Named (client : Client β) : Prop :=
  ∀ owner account, client.store.account owner = some account → account.address = some owner

/-- The database lists for an address only sessions of this address. -/
structure Platform.ListsOwn (platform : Platform β) : Prop where
  many : ∀ sessions ourAddress userId domain,
    ∀ session ∈ platform.loadOutboundSessions sessions ourAddress userId domain,
      session.ourAddress = ourAddress
  one : ∀ sessions ourAddress theirAddress session,
    platform.loadOutboundSession sessions ourAddress theirAddress = some session →
      session.ourAddress = ourAddress

/-- This is all that a client holds for one address. -/
structure Client.Untouched (other : E2eeAddress) (before after : Client β) : Prop where
  account : after.store.account other = before.store.account other
  identityKey : after.store.cachedIdentityKey other = before.store.cachedIdentityKey other
  signedPreKey : after.store.signedPreKey other = before.store.signedPreKey other
  auth : after.store.auth other = before.store.auth other
  sessions : ∀ sessionId,
    after.store.sessions.load sessionId other = before.store.sessions.load sessionId other
  requests : after.store.pendingRequests other = before.store.pendingRequests other
  plaintexts : after.pendingPlaintexts other = before.pendingPlaintexts other
  groups : KeyedTable.AgreeOn (ownedBy other) before.groups after.groups
  serverKey : after.serverPublicKey other = before.serverPublicKey other

variable {other : E2eeAddress}

theorem Client.Untouched.refl (client : Client β) : Client.Untouched other client client :=
  ⟨rfl, rfl, rfl, rfl, fun _ => rfl, rfl, rfl, .refl client.groups, rfl⟩

theorem Client.Untouched.trans {before between after : Client β}
    (first : Client.Untouched other before between)
    (second : Client.Untouched other between after) : Client.Untouched other before after where
  account := second.account.trans first.account
  identityKey := second.identityKey.trans first.identityKey
  signedPreKey := second.signedPreKey.trans first.signedPreKey
  auth := second.auth.trans first.auth
  sessions sessionId := (second.sessions sessionId).trans (first.sessions sessionId)
  requests := second.requests.trans first.requests
  plaintexts := second.plaintexts.trans first.plaintexts
  groups := first.groups.trans second.groups
  serverKey := second.serverKey.trans first.serverKey

theorem untouched_frame (other : E2eeAddress) :
    ClientFrame (· ≠ other) (Client.Untouched (β := β) other) where
  refl := .refl
  trans := .trans
  sessions client _ kept := { Client.Untouched.refl client with
    sessions := fun sessionId => kept sessionId other (not_not_intro rfl) }
  requests client _ kept := { Client.Untouched.refl client with
    requests := kept other (not_not_intro rfl) }
  plaintexts client _ kept := { Client.Untouched.refl client with
    plaintexts := kept other (not_not_intro rfl) }
  groups client _ _ different kept := { Client.Untouched.refl client with
    groups := kept other different.symm }
  mark client _ _ different := { Client.Untouched.refl client with
    account := if_neg different.symm }
  supply client _ _ different := { Client.Untouched.refl client with
    account := if_neg different.symm }

theorem Platform.ListsOwn.loadsFor {platform : Platform β} (lists : platform.ListsOwn)
    (acts : E2eeAddress → Prop) : platform.LoadsFor acts where
  many := by
    intro sessions ourAddress userId domain ours session listed
    rw [lists.many sessions ourAddress userId domain session listed]
    exact ours
  one := by
    intro sessions ourAddress theirAddress session ours found
    rw [lists.one sessions ourAddress theirAddress session found]
    exact ours

theorem Client.Named.homes {client : Client β} (named : client.Named) (acts : E2eeAddress → Prop) :
    client.Homes acts := by
  intro owner account address ours stored addressed
  have same : some owner = some address := (named owner account stored).symm.trans addressed
  exact Option.some.inj same ▸ ours

theorem Client.KeysKept.named {before after : Client β} (kept : before.KeysKept after)
    (named : before.Named) : after.Named := by
  intro owner account stored
  have related := kept.accounts owner
  rw [stored] at related
  cases found : before.store.account owner with
  | none =>
      rw [found] at related
      cases related
  | some old =>
      rw [found] at related
      cases related with
      | some sameAccount =>
          rw [sameAccount.same]
          exact named owner old found

end Accounts

section Runs

variable [DecidableEq β] {platform : Platform β} {packing : Packing β} {client after : Client β}

theorem stepClient_keysKept {event : ClientEvent β}
    (stepped : stepClient platform packing client event = some after) : client.KeysKept after := by
  apply keysKept_frame.step platform.loadsFor_all packing _ _ stepped
  · intro owner account address _ _ _
    trivial
  · intro address _
    trivial

theorem stepClient_untouched (lists : platform.ListsOwn) (named : client.Named)
    {event : ClientEvent β} {other : E2eeAddress} (elsewhere : event.address packing ≠ some other)
    (stepped : stepClient platform packing client event = some after) :
    Client.Untouched other client after := by
  apply (untouched_frame other).step (lists.loadsFor _) packing (named.homes _) _ stepped
  intro address acting same
  exact elsewhere (same ▸ acting)

/-- Registered keys outlive every run of calls and messages. -/
theorem registered_keys_kept (events : List (ClientEvent β))
    (ran : runClient platform packing client events = some after) : client.KeysKept after := by
  induction events generalizing client with
  | nil => exact Option.some.inj ran ▸ .refl client
  | cons event rest ih =>
      obtain ⟨between, stepped, ranOn⟩ := Option.bind_eq_some_iff.mp ran
      exact (stepClient_keysKept stepped).trans (ih ranOn)

/-- What a client does for its other accounts changes nothing for this one. -/
theorem accounts_isolated (lists : platform.ListsOwn) (named : client.Named)
    {events : List (ClientEvent β)} {other : E2eeAddress}
    (elsewhere : ∀ event ∈ events, event.address packing ≠ some other)
    (ran : runClient platform packing client events = some after) :
    Client.Untouched other client after := by
  induction events generalizing client with
  | nil => exact Option.some.inj ran ▸ .refl client
  | cons event rest ih =>
      rw [List.forall_mem_cons] at elsewhere
      obtain ⟨between, stepped, ranOn⟩ := Option.bind_eq_some_iff.mp ran
      have stillNamed := (stepClient_keysKept stepped).named named
      exact (stepClient_untouched lists named elsewhere.1 stepped).trans
        (ih stillNamed elsewhere.2 ranOn)

end Runs

namespace Symbolic

/-- One client holds the accounts of Alice and of Bob. -/
def sharedClient : Client FreeTerm where
  store := {
    store aliceAddress aliceAccount none with
    account := fun owner =>
      if owner = aliceAddress then some aliceAccount
      else if owner = bobAddress then some bobAccount else none }
  groups := (runningDevice aliceAddress).groups
  pendingPlaintexts _ _ := []
  serverPublicKey _ := some serverKey.publicKey

/-- The server signs what it passes on to Alice. -/
def servedMsg (fromAddress : Option E2eeAddress) (payload : ProtoMsgPayload FreeTerm) :
    ProtoMsg FreeTerm :=
  let msg : ProtoMsg FreeTerm := ⟨fromAddress, aliceAddress, [], payload, none⟩
  { msg with signatureList := [serverSignature (codec.protoMsgHash msg)] }

/-- The server asks Alice for two one-time pre-keys. -/
def supplyMsg : ProtoMsg FreeTerm := servedMsg none (.supplyOpksMsg ⟨2, aliceAddress⟩)

/-- Bob sends to his group with Alice. -/
def bobGroupMsg : ProtoMsg FreeTerm :=
  servedMsg (some bobAddress) (.groupMsg ((sendGroupMsgWithFilter (fun _ => some symbolicSuite)
    (runningDevice bobAddress) ⟨bobAddress, groupAddress, [], []⟩ [.byte 2] ⟨[], []⟩
    (some ⟨.ok⟩)).1.get (by decide)).msg)

/-- One byte stands for each of the two messages. -/
def servedPacking : Packing FreeTerm where
  packPlaintext _ := []
  unpackPlaintext _ := none
  unpackProtoMsg data :=
    if data = [.byte 1] then some supplyMsg else if data = [.byte 2] then some bobGroupMsg else none

/-- The server takes the one-time pre-keys. -/
def supplyAnswers : Answers FreeTerm where
  nextOneTimePreKeyId := 2
  opkCoins index := [.byte (UInt8.ofNat (100 + index))]
  supply := some .ok
  loadGroupAddresses _ _ := []
  addDevices _ := ⟨fun _ => none, goneReply.delivery⟩
  accept _ := none
  inboundCoins := ⟨[], []⟩
  attempts := authorisedAttempts
  ratchetCoins := []
  bundles _ := noReply
  members _ := ⟨noReply.steps, noReply⟩
  delivery := goneReply.delivery
  removal _ := none
  draw := ⟨⟨"next", [], by decide⟩, fun _ => ⟨noReply.steps, noReply⟩⟩
  consumed _ := none

/-- The server does not answer when Alice invites Carol, and Alice asks again after she has supplied
one-time pre-keys, sent a message to her group and read one of Bob. -/
def aliceEvents : List (ClientEvent FreeTerm) :=
  [.invite noReply aliceAddress "carol" "domain",
    .message supplyAnswers [.byte 1],
    .sendGroupMsg ⟨aliceAddress, groupAddress, [], []⟩ [.byte 1] ⟨[], []⟩ (some ⟨.ok⟩),
    .message supplyAnswers [.byte 2],
    .resendPendingRequest (fun _ => goneReply) aliceAddress]

def aliceRun : Option (Client FreeTerm) := runClient platform servedPacking sharedClient aliceEvents

def laterClient : Client FreeTerm := aliceRun.getD sharedClient

theorem aliceRun_eq : aliceRun = some laterClient := rfl

theorem platform_listsOwn : platform.ListsOwn where
  many _ _ _ _ _ listed := by cases listed
  one _ _ _ _ found := by cases found

theorem sharedClient_named : sharedClient.Named := by
  intro owner account stored
  simp only [sharedClient] at stored
  split at stored
  next same =>
    cases stored
    exact congrArg some same.symm
  · split at stored
    next same =>
      cases stored
      exact congrArg some same.symm
    · cases stored

end Symbolic

/-- The keys of Alice and Bob outlive the calls of Alice and the messages to her. Her two new
one-time pre-keys stand behind the earlier ones. -/
theorem shared_keys_kept : Symbolic.sharedClient.KeysKept Symbolic.laterClient ∧
    (Symbolic.laterClient.store.account Symbolic.aliceAddress).map
        (fun account => account.oneTimePreKeyList.length) =
      some (Symbolic.aliceAccount.oneTimePreKeyList.length + 2) :=
  ⟨registered_keys_kept Symbolic.aliceEvents Symbolic.aliceRun_eq, by decide⟩

/-- The calls of Alice and the messages to her do not touch what the client holds for Bob, and the
chain of Bob that she stores moves on. -/
theorem bob_isolated :
    Client.Untouched Symbolic.bobAddress Symbolic.sharedClient Symbolic.laterClient ∧
      (Symbolic.laterClient.groups.lookup
          (Symbolic.groupAddition.key Symbolic.bobAddress Symbolic.aliceAddress)).map
        GroupSession.sequence = some 1 := by
  refine ⟨accounts_isolated Symbolic.platform_listsOwn Symbolic.sharedClient_named ?_
    Symbolic.aliceRun_eq, by decide⟩
  decide

end E2eeSecurity
