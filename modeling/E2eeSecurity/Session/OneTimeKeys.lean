/-
This file runs invitations on one account, with supply and purge of its one-time pre-keys.
-/
import E2eeSecurity.Library.Run
import E2eeSecurity.Library.TokenLedger
import E2eeSecurity.Session.Inbound

namespace E2eeSecurity

variable {β : Type}

section Table

/-- The one-time pre-keys of one account change in the database. -/
def Store.changeOneTimePreKeys (store : Store β) (address : E2eeAddress)
    (change : List (OneTimePreKey β) → List (OneTimePreKey β)) : Store β :=
  { store with
    account := fun owner =>
      if owner = address then (store.account owner).map fun account =>
        { account with oneTimePreKeyList := change account.oneTimePreKeyList }
      else store.account owner }

def Store.addOneTimePreKeys (store : Store β) (address : E2eeAddress)
    (keys : List (OneTimePreKey β)) : Store β :=
  store.changeOneTimePreKeys address fun stored => stored ++ keys

/-- Only the first key with the identifier is removed. -/
def Store.removeOneTimePreKey (store : Store β) (address : E2eeAddress) (opkId : UInt32) :
    Store β :=
  store.changeOneTimePreKeys address fun stored => stored.eraseP fun key => key.opkId == opkId

/-- One call purges at most this many keys, `E2EES_ONE_TIME_PRE_KEY_PURGE_NUM`. -/
def oneTimePreKeyPurgeNum : Nat := 60

/-- These are the used keys of the account that one call purges, from the front. -/
def purgedOneTimePreKeys (account : Account β) : List UInt32 :=
  ((account.oneTimePreKeyList.filter fun key => key.used).take oneTimePreKeyPurgeNum).map
    fun key => key.opkId

/-- The new keys go to the server when the inputs are valid. -/
def supplyOpksRequest (getE2eesPack : Packs β) (account : Account β)
    (nextOneTimePreKeyId opksNum : UInt32) (coins : Nat → Bytes β) :
    Option (List (OneTimePreKey β)) := do
  if opksNum != 0 && isValidRegisteredAccount getE2eesPack account then
    let cipherSuite ← getE2eesPack account.e2eesPackId
    generateOpks cipherSuite nextOneTimePreKeyId coins opksNum.toNat
  else none

/-- The first component is the reported result, and the second one holds the keys that are added
to the database. Only a response with the code OK adds them. -/
def supplyOpksInternal (getE2eesPack : Packs β) (account : Account β)
    (nextOneTimePreKeyId opksNum : UInt32) (coins : Nat → Bytes β)
    (response : Option ResponseCode) : Bool × List (OneTimePreKey β) :=
  match supplyOpksRequest getE2eesPack account nextOneTimePreKeyId opksNum coins with
  | none => (false, [])
  | some keys => if response = some .ok then (true, keys) else (true, [])

end Table

/-- This is one device with the account of one address in its database. The ledger records which
stored session has consumed which one-time pre-key; no code reads it. -/
structure InviteHost (β : Type) where
  store : Store β
  nextOneTimePreKeyId : UInt32
  ledger : TokenLedger (String × E2eeAddress)

/-- An invitation arrives, the server asks for new one-time pre-keys, or used ones are purged. -/
inductive InviteAction (β : Type)
  | invite (accept : AcceptMsg β → Option AcceptResponse) (msg : InviteMsg β)
      (coins : InboundCoins β)
  | supply (opksNum : UInt32) (coins : Nat → Bytes β) (response : Option ResponseCode)
  | purge

namespace InviteHost

variable (getE2eesPack : Packs β) (address : E2eeAddress)

def keys (host : InviteHost β) : List (OneTimePreKey β) :=
  ((host.store.account address).map fun account => account.oneTimePreKeyList).getD []

/-- This is the place of the key that a lookup finds. -/
def place (host : InviteHost β) (opkId : UInt32) : Nat :=
  (host.keys address).findIdx fun key => key.opkId == opkId

/-- A stored session consumes the key that it was made with, and gives up the key of the session
that it replaces. -/
def recorded (host : InviteHost β) (account : Account β) (msg : InviteMsg β)
    (coins : InboundCoins β) : TokenLedger (String × E2eeAddress) :=
  match inboundKeys getE2eesPack host.store account msg with
  | none => host.ledger
  | some keys =>
      match keys.ratchet account msg coins with
      | none => host.ledger
      | some _ => host.ledger.assign (msg.sessionId, msg.receiver)
          (keys.oneTimePreKey.bind fun key => host.ledger.numbers[host.place address key.opkId]?)

def removeOneTimePreKey (host : InviteHost β) (opkId : UInt32) : InviteHost β :=
  { host with
    store := host.store.removeOneTimePreKey address opkId
    ledger := host.ledger.erase (host.place address opkId) }

/-- Every call works on the account as the database has it. -/
def step (host : InviteHost β) (action : InviteAction β) : InviteHost β :=
  match host.store.account address with
  | none => host
  | some account =>
      match action with
      | .invite accept msg coins =>
          { host with
            store := (pqcNewInboundSession getE2eesPack accept host.store account msg coins).2.1
            ledger := host.recorded getE2eesPack address account msg coins }
      | .supply opksNum coins response =>
          let added := (supplyOpksInternal getE2eesPack account host.nextOneTimePreKeyId opksNum
            coins response).2
          { store := host.store.addOneTimePreKeys address added
            nextOneTimePreKeyId :=
              (added.getLast?.map fun key => key.opkId + 1).getD host.nextOneTimePreKeyId
            ledger := host.ledger.issue added.length }
      | .purge => (purgedOneTimePreKeys account).foldl (removeOneTimePreKey address) host

/-- This is the device before the first invitation of the run. -/
def start (store : Store β) (nextOneTimePreKeyId : UInt32) : InviteHost β where
  store := store
  nextOneTimePreKeyId := nextOneTimePreKeyId
  ledger := TokenLedger.start _
    (((store.account address).map fun account => account.oneTimePreKeyList).getD []).length

/-- No one-time pre-key is consumed by two stored sessions. -/
def KeysUsedOnce (host : InviteHost β) : Prop := host.ledger.HeldOnce

/-- The one-time pre-key that an invitation names is not yet marked as used. -/
def NamesFreeKey (host : InviteHost β) : InviteAction β → Prop
  | .invite _ msg _ => msg.bobOneTimePreKeyId ≠ 0 →
      ∀ account, host.store.account address = some account →
        ∀ key, lookupOneTimePreKey account msg.bobOneTimePreKeyId = some key → key.used = false
  | .supply _ _ _ => True
  | .purge => True

end InviteHost

section Flags

/-- The mark sets the flag at the place of the lookup. -/
theorem markUsed_flags (opkId : UInt32) (keys : List (OneTimePreKey β)) :
    (markUsed opkId keys).map (fun key => key.used) =
      (keys.map fun key => key.used).set (keys.findIdx fun key => key.opkId == opkId) true := by
  induction keys with
  | nil => rfl
  | cons key rest ih =>
      by_cases named : key.opkId = opkId
      · simp [markUsed, named, List.findIdx_cons]
      · have other : (key.opkId == opkId) = false := by simp [named]
        simp [markUsed, named, List.findIdx_cons, other, ih]

/-- The purge drops the flag at the place of the lookup. -/
theorem eraseP_flags (opkId : UInt32) (keys : List (OneTimePreKey β)) :
    (keys.eraseP fun key => key.opkId == opkId).map (fun key => key.used) =
      (keys.map fun key => key.used).eraseIdx (keys.findIdx fun key => key.opkId == opkId) := by
  induction keys with
  | nil => rfl
  | cons key rest ih =>
      by_cases named : key.opkId = opkId
      · simp [named, List.findIdx_cons]
      · have other : (key.opkId == opkId) = false := by simp [named]
        simp [List.findIdx_cons, other, ih]

/-- New keys are not marked. -/
theorem generateOpks_unused {cipherSuite : CipherSuite β} {curOpkId : UInt32}
    {coins : Nat → Bytes β} {count : Nat} {keys : List (OneTimePreKey β)}
    (made : generateOpks cipherSuite curOpkId coins count = some keys) :
    keys.map (fun key => key.used) = List.replicate keys.length false := by
  induction count generalizing keys with
  | zero =>
      rw [generateOpks, Option.some.injEq] at made
      subst made
      rfl
  | succ count ih =>
      simp only [generateOpks, Option.bind_eq_bind, Option.bind_eq_some_iff,
        Option.some.injEq] at made
      obtain ⟨earlier, drawn, pair, -, rfl⟩ := made
      simp [ih drawn, List.replicate_succ']

theorem supplyOpksInternal_unused (getE2eesPack : Packs β) (account : Account β)
    (nextOneTimePreKeyId opksNum : UInt32) (coins : Nat → Bytes β)
    (response : Option ResponseCode) :
    let added := (supplyOpksInternal getE2eesPack account nextOneTimePreKeyId opksNum coins
      response).2
    added.map (fun key => key.used) = List.replicate added.length false := by
  dsimp only
  unfold supplyOpksInternal
  split
  case h_1 => rfl
  case h_2 keys requested =>
    split
    case isFalse => rfl
    case isTrue =>
      simp only [supplyOpksRequest] at requested
      split at requested
      case isFalse => simp at requested
      case isTrue =>
        simp only [Option.bind_eq_bind, Option.bind_eq_some_iff] at requested
        obtain ⟨cipherSuite, -, made⟩ := requested
        exact generateOpks_unused made

end Flags

namespace InviteHost

variable {getE2eesPack : Packs β} {address : E2eeAddress} {host : InviteHost β}

/-- The ledger agrees with the flags of the account, which carries its own address. -/
structure Booked (address : E2eeAddress) (host : InviteHost β) : Prop where
  addressed : ∀ account, host.store.account address = some account →
    account.address = some address
  sound : host.ledger.Sound ((host.keys address).map fun key => key.used)

/-- A change of the table keeps the address of the account. -/
theorem Booked.changed (booked : host.Booked address) {later : InviteHost β}
    (change : List (OneTimePreKey β) → List (OneTimePreKey β)) {account : Account β}
    (stored : host.store.account address = some account)
    (changed : later.store.account address =
      some { account with oneTimePreKeyList := change account.oneTimePreKeyList })
    (sound : later.ledger.Sound ((change (host.keys address)).map fun key => key.used)) :
    later.Booked address where
  addressed := by
    intro other found
    rw [changed, Option.some.injEq] at found
    subst found
    exact booked.addressed account stored
  sound := by
    have listed : host.keys address = account.oneTimePreKeyList := by
      rw [keys, stored]
      rfl
    rw [listed] at sound
    rw [keys, changed]
    exact sound

theorem Booked.removed (booked : host.Booked address) (opkId : UInt32) :
    (host.removeOneTimePreKey address opkId).Booked address := by
  cases stored : host.store.account address with
  | none =>
      have same : (host.removeOneTimePreKey address opkId).store.account address = none := by
        simp [removeOneTimePreKey, Store.removeOneTimePreKey, Store.changeOneTimePreKeys, stored]
      have empty : host.keys address = [] := by
        rw [keys, stored]
        rfl
      have sound := booked.sound.erase (host.place address opkId)
      rw [empty] at sound
      refine ⟨?_, ?_⟩
      · rw [same]
        intro account found
        cases found
      · rw [keys, same]
        exact sound
  | some account =>
      refine booked.changed (List.eraseP fun key => key.opkId == opkId) stored ?_ ?_
      · simp only [removeOneTimePreKey, Store.removeOneTimePreKey, Store.changeOneTimePreKeys,
          if_true, stored, Option.map_some]
      · rw [eraseP_flags]
        exact booked.sound.erase _

theorem Booked.purged (booked : host.Booked address) (opkIds : List UInt32) :
    (opkIds.foldl (removeOneTimePreKey address) host).Booked address := by
  induction opkIds generalizing host with
  | nil => exact booked
  | cons opkId rest ih => exact ih (booked.removed opkId)

/-- An invitation marks the key that it names, and only a free key can be consumed. -/
theorem Booked.invited (booked : host.Booked address) {account : Account β}
    (stored : host.store.account address = some account)
    (accept : AcceptMsg β → Option AcceptResponse) (msg : InviteMsg β) (coins : InboundCoins β)
    (free : host.NamesFreeKey address (.invite accept msg coins)) :
    Booked address { host with
      store := (pqcNewInboundSession getE2eesPack accept host.store account msg coins).2.1
      ledger := host.recorded getE2eesPack address account msg coins } := by
  have listed : host.keys address = account.oneTimePreKeyList := by
    rw [keys, stored]
    rfl
  rw [pqcNewInboundSession_outcome]
  cases found : inboundKeys getE2eesPack host.store account msg with
  | none =>
      simp only [recorded, found]
      exact booked
  | some chosen =>
      obtain ⟨-, -, addressed, -⟩ := inboundKeys_some found
      rw [booked.addressed account stored, Option.some.injEq] at addressed
      cases named : chosen.oneTimePreKey with
      | none =>
          cases made : chosen.ratchet account msg coins with
          | none =>
              simp only [recorded, found, made, named, Store.markChosen]
              exact booked
          | some ratchet =>
              simp only [recorded, found, made, named, Store.markChosen, Option.bind_none]
              refine booked.changed id stored ?_ (booked.sound.release _)
              simp only [(acceptInternal_keeps _ _ _ _).1, Store.storeSession, stored, id]
      | some key =>
          obtain ⟨looked, identifier, positive⟩ := inboundKeys_oneTimePreKey found named
          have marked : (host.store.updateOneTimePreKey chosen.address key.opkId).account
              address = some { account with
                oneTimePreKeyList := markUsed key.opkId account.oneTimePreKeyList } := by
            simp only [Store.updateOneTimePreKey, ← addressed, if_true, stored, Option.map_some]
            rfl
          cases made : chosen.ratchet account msg coins with
          | none =>
              simp only [recorded, found, made, named, Store.markChosen]
              refine booked.changed (markUsed key.opkId) stored marked ?_
              rw [markUsed_flags]
              exact booked.sound.spend _
          | some ratchet =>
              simp only [recorded, found, made, named, Store.markChosen, Option.bind_some]
              refine booked.changed (markUsed key.opkId) stored ?_ ?_
              · simp only [(acceptInternal_keeps _ _ _ _).1, Store.storeSession]
                exact marked
              · rw [markUsed_flags]
                have unmarked := free (identifier ▸ positive) account stored key
                  (identifier ▸ looked)
                rw [lookupOneTimePreKey, List.find?_eq_getElem?_findIdx] at looked
                apply booked.sound.take
                rw [List.getElem?_map, place, listed, looked, Option.map_some, unmarked]

theorem Booked.supplied (booked : host.Booked address) {account : Account β}
    (stored : host.store.account address = some account) (opksNum : UInt32)
    (coins : Nat → Bytes β) (response : Option ResponseCode) :
    let added := (supplyOpksInternal getE2eesPack account host.nextOneTimePreKeyId opksNum coins
      response).2
    ∀ nextOneTimePreKeyId, Booked address {
      store := host.store.addOneTimePreKeys address added
      nextOneTimePreKeyId := nextOneTimePreKeyId
      ledger := host.ledger.issue added.length } := by
  intro added nextOneTimePreKeyId
  refine booked.changed (fun keys => keys ++ added) stored ?_ ?_
  · simp only [Store.addOneTimePreKeys, Store.changeOneTimePreKeys, if_true, stored,
      Option.map_some]
  · rw [List.map_append, supplyOpksInternal_unused]
    exact booked.sound.issue _

/-- Every step on a free key keeps the books. -/
theorem Booked.step (booked : host.Booked address) (action : InviteAction β)
    (free : host.NamesFreeKey address action) :
    (host.step getE2eesPack address action).Booked address := by
  unfold InviteHost.step
  split
  case h_1 => exact booked
  case h_2 account stored =>
    cases action with
    | invite accept msg coins => exact booked.invited stored accept msg coins free
    | supply opksNum coins response => exact booked.supplied stored opksNum coins response _
    | purge => exact booked.purged _

theorem start_booked {store : Store β} {account : Account β} (nextOneTimePreKeyId : UInt32)
    (stored : store.account address = some account)
    (addressed : account.address = some address) :
    (start address store nextOneTimePreKeyId).Booked address where
  addressed := by
    intro other found
    rw [start, stored, Option.some.injEq] at found
    exact found ▸ addressed
  sound := by
    have sound : (TokenLedger.start (String × E2eeAddress) _).Sound
        (((start address store nextOneTimePreKeyId).keys address).map fun key => key.used) :=
      TokenLedger.start_sound _
    rw [List.length_map] at sound
    exact sound

/-- Every consumed key belongs to a stored session that names a one-time pre-key. -/
def Recorded (host : InviteHost β) : Prop :=
  ∀ owner number, host.ledger.holder owner = some number →
    ∃ session, host.store.sessions.load owner.1 owner.2 = some session ∧
      session.bobOneTimePreKeyId ≠ 0

theorem Recorded.purged (recorded : host.Recorded) (opkIds : List UInt32) :
    (opkIds.foldl (removeOneTimePreKey address) host).Recorded := by
  induction opkIds generalizing host with
  | nil => exact recorded
  | cons opkId rest ih => exact ih recorded

/-- The session that an invitation stores takes the place of the one with its identifier. -/
theorem Recorded.invited (recorded : host.Recorded) (account : Account β)
    (accept : AcceptMsg β → Option AcceptResponse) (msg : InviteMsg β)
    (coins : InboundCoins β) :
    Recorded { host with
      store := (pqcNewInboundSession getE2eesPack accept host.store account msg coins).2.1
      ledger := host.recorded getE2eesPack address account msg coins } := by
  rw [pqcNewInboundSession_outcome]
  cases found : inboundKeys getE2eesPack host.store account msg with
  | none =>
      simp only [InviteHost.recorded, found]
      exact recorded
  | some chosen =>
      have marked : (host.store.markChosen chosen.address chosen.oneTimePreKey).sessions =
          host.store.sessions := by
        cases chosen.oneTimePreKey <;> rfl
      cases made : chosen.ratchet account msg coins with
      | none =>
          simp only [InviteHost.recorded, found, made]
          intro owner number consumed
          rw [marked]
          exact recorded owner number consumed
      | some ratchet =>
          simp only [InviteHost.recorded, found, made]
          intro owner number consumed
          dsimp only at consumed ⊢
          rw [(acceptInternal_keeps _ _ _ _).2]
          by_cases same : owner = (msg.sessionId, msg.receiver)
          · subst same
            refine ⟨_, SessionStore.load_store _ (chosen.session account msg ratchet), ?_⟩
            cases named : chosen.oneTimePreKey with
            | none =>
                rw [TokenLedger.assign_holder_self, named] at consumed
                cases consumed
            | some key =>
                obtain ⟨-, -, positive⟩ := inboundKeys_oneTimePreKey found named
                simpa [InboundKeys.session, inboundSession, named] using positive
          · rw [TokenLedger.assign_holder_of_ne _ same] at consumed
            obtain ⟨session, loaded, named⟩ := recorded owner number consumed
            refine ⟨session, ?_, named⟩
            have apart : ¬ (owner.1 = (chosen.session account msg ratchet).sessionId ∧
                owner.2 = (chosen.session account msg ratchet).ourAddress) := by
              rintro ⟨identifier, receiver⟩
              exact same (Prod.ext identifier receiver)
            simp only [Store.storeSession, SessionStore.store, if_neg apart, marked, loaded]

theorem Recorded.step (recorded : host.Recorded) (action : InviteAction β) :
    (host.step getE2eesPack address action).Recorded := by
  unfold InviteHost.step
  split
  case h_1 => exact recorded
  case h_2 account stored =>
    cases action with
    | invite accept msg coins => exact recorded.invited account accept msg coins
    | supply opksNum coins response => exact recorded
    | purge => exact recorded.purged _

end InviteHost

/-- In every run whose invitations name free keys, the consumed keys belong to stored sessions,
and no one-time pre-key is consumed twice. -/
theorem oneTimePreKeys_usedOnce {getE2eesPack : Packs β} {address : E2eeAddress}
    {store : Store β} {account : Account β} (stored : store.account address = some account)
    (addressed : account.address = some address) (nextOneTimePreKeyId : UInt32)
    (actions : List (InviteAction β))
    (free : Machine.Along (InviteHost.step getE2eesPack address)
      (InviteHost.NamesFreeKey address)
      (InviteHost.start address store nextOneTimePreKeyId) actions) :
    let host := Machine.run (InviteHost.step getE2eesPack address)
      (InviteHost.start address store nextOneTimePreKeyId) actions
    host.Recorded ∧ host.KeysUsedOnce := by
  constructor
  · refine Machine.run_invariant (fun _ action recorded => ?_) actions ?_
    · exact InviteHost.Recorded.step recorded action
    · intro owner number consumed
      cases consumed
  · have kept : ∀ host action, InviteHost.Booked (β := β) address host →
        host.NamesFreeKey address action →
          (host.step getE2eesPack address action).Booked address :=
      fun _ action booked => booked.step action
    exact (Machine.run_invariant_along kept actions
      (InviteHost.start_booked nextOneTimePreKeyId stored addressed) free).sound.once

namespace Symbolic

/-- A copy of the invitation with another session identifier. -/
def copiedInvitation : InviteMsg FreeTerm := { invitation with sessionId := "copy" }

def receive (msg : InviteMsg FreeTerm) : InviteAction FreeTerm :=
  .invite handshake.accept msg handshake.bobCoins

def inviteStart : InviteHost FreeTerm := InviteHost.start bobAddress bobStore 2

/-- The server asks for one more key, and a second party uses it. -/
def suppliedActions : List (InviteAction FreeTerm) :=
  [receive invitation, .supply 1 (fun _ => [.byte 80]) (some .ok), .purge,
    receive { copiedInvitation with bobOneTimePreKeyId := 2 }]

instance decidableNamesFreeKey (host : InviteHost FreeTerm) (action : InviteAction FreeTerm) :
    Decidable (host.NamesFreeKey bobAddress action) :=
  match action with
  | .invite _ msg _ => inferInstanceAs (Decidable (msg.bobOneTimePreKeyId ≠ 0 →
      ∀ account, host.store.account bobAddress = some account →
        ∀ key, lookupOneTimePreKey account msg.bobOneTimePreKeyId = some key →
          key.used = false))
  | .supply _ _ _ => .isTrue trivial
  | .purge => .isTrue trivial

end Symbolic

/-- Two invitations consume one key, and both sessions are stored. -/
theorem copiedInvitation_reuses :
    let host := Machine.run (InviteHost.step (fun _ => some symbolicSuite) Symbolic.bobAddress)
      Symbolic.inviteStart [Symbolic.receive Symbolic.invitation,
        Symbolic.receive Symbolic.copiedInvitation]
    (host.store.sessions.load "session" Symbolic.bobAddress).map
        (fun session => session.bobOneTimePreKeyId) = some 1 ∧
      (host.store.sessions.load "copy" Symbolic.bobAddress).map
        (fun session => session.bobOneTimePreKeyId) = some 1 ∧
      (host.keys Symbolic.bobAddress).length = 1 ∧ ¬ host.KeysUsedOnce := by
  refine ⟨by decide, by decide, by decide, ?_⟩
  intro once
  have same := once 0 ("session", Symbolic.bobAddress) ("copy", Symbolic.bobAddress)
    (by decide) (by decide)
  simp at same

/-- A purge and a new key lie between the two sessions, which consume different keys. -/
theorem suppliedActions_usedOnce :
    (Machine.run (InviteHost.step (fun _ => some symbolicSuite) Symbolic.bobAddress)
      Symbolic.inviteStart Symbolic.suppliedActions).KeysUsedOnce :=
  (oneTimePreKeys_usedOnce rfl rfl 2 Symbolic.suppliedActions (by decide)).2

end E2eeSecurity
