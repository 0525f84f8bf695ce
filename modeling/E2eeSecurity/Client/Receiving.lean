/-
This file gives the handler of one-to-one messages with its five kinds of plaintext, and says whom
its effects are put down to.
-/
import E2eeSecurity.Group.Create
import E2eeSecurity.Client.Accepting
import E2eeSecurity.Client.Bundles

namespace E2eeSecurity

/-- The last kind is a plaintext without a known payload. -/
inductive Plaintext (β : Type)
  | commonMsg (data : Bytes β)
  | commonSyncMsg (data : Bytes β)
  | userDevicesBundle (bundle : UserDevicesBundle)
  | groupPreKeyBundle (bundle : GroupPreKeyBundle β)
  | groupUpdateKeyBundle (bundle : GroupUpdateKeyBundle β)
  | unknown
  deriving DecidableEq

inductive NotificationKind
  | one2oneMsg
  | otherDeviceMsg
  deriving DecidableEq

/-- The application is told these addresses and the text of the message. -/
structure Notification (β : Type) where
  kind : NotificationKind
  userAddress : E2eeAddress
  fromAddress : E2eeAddress
  toAddress : E2eeAddress
  data : Bytes β
  deriving DecidableEq

variable {β : Type}

section Handler

variable (platform : Platform β)

/-- An empty list asks for all devices of the user at once. -/
def requestedDevices (bundle : UserDevicesBundle) : List String :=
  if bundle.deviceIdList.isEmpty then [""] else bundle.deviceIdList

/-- Each device is asked for in turn, whatever became of the ones before. -/
def inviteDevices (auth : String) (receiverAddress : E2eeAddress) (domain userId : String) :
    (Nat → BundleReply β) → List String → Client β → Client β
  | _, [], client => client
  | replies, deviceId :: rest, client =>
      inviteDevices auth receiverAddress domain userId (fun index => replies (index + 1)) rest
        (getPreKeyBundleInternal platform (replies 0) client receiverAddress auth
          ⟨domain, userId, deviceId⟩ false none).2

/-- Notifications name the sender that the message claims; bundles of groups name their own. -/
def consumePlaintext (replies : Nat → BundleReply β) (client : Client β)
    (receiverAddress : E2eeAddress) (msg : One2oneMsg β) :
    Plaintext β → Client β × List (Notification β)
  | .commonMsg data =>
      (client, [⟨.one2oneMsg, receiverAddress, msg.fromAddress, msg.toAddress, data⟩])
  | .commonSyncMsg data =>
      (client, [⟨.otherDeviceMsg, receiverAddress, msg.fromAddress, msg.toAddress, data⟩])
  | .userDevicesBundle bundle =>
      let auth := client.store.auth receiverAddress
      if isValidString auth then
        (inviteDevices platform auth receiverAddress bundle.domain bundle.userId replies
          (requestedDevices bundle) client, [])
      else (client, [])
  | .groupPreKeyBundle bundle =>
      ({ client with
        groups := consumeGroupPreKeyBundle platform.getE2eesPack client.toDevice receiverAddress
          bundle }, [])
  | .groupUpdateKeyBundle bundle =>
      ({ client with
        groups := consumeGroupUpdateKeyBundle platform.getE2eesPack client.toDevice
          receiverAddress bundle }, [])
  | .unknown => (client, [])

/-- A message that opens moves its session on, also when its plaintext does not unpack. -/
def consumeOne2oneMsg [DecidableEq β] (unpack : Bytes β → Option (Plaintext β))
    (replies : Nat → BundleReply β) (coins : Bytes β) (client : Client β)
    (receiverAddress : E2eeAddress) (msg : One2oneMsg β) : Client β × List (Notification β) :=
  match openOne2oneMsg platform.getE2eesPack client.store receiverAddress msg coins with
  | none => (client, [])
  | some (data, session) =>
      let stored : Client β :=
        { client with store := storeOpenedSession client.store receiverAddress msg session }
      match unpack data with
      | none => (stored, [])
      | some plaintext => consumePlaintext platform replies stored receiverAddress msg plaintext

end Handler

section Made

variable (getE2eesPack : Packs β)

/-- These are the sessions that the handler stores from a pre-key bundle, in their order. -/
def preKeyBundleSessions (device : Device β) (receiverAddress : E2eeAddress)
    (bundle : GroupPreKeyBundle β) : List (GroupSession β) :=
  let groups := if bundle.oldSessionId ≠ ""
    then device.groups.unloadGroupSessionById receiverAddress bundle.oldSessionId
    else device.groups
  let loaded := groups.loadGroupSessions receiverAddress bundle.groupInfo.groupAddress
  if loaded.isEmpty then
    (newInboundGroupSessionByPreKeyBundle getE2eesPack bundle.e2eesPackId receiverAddress
      bundle).toList
  else
    (loaded.filter fun session => session.sender ≠ receiverAddress).filterMap
        (fun session => completeInboundGroupSessionByPreKeyBundle getE2eesPack session bundle) ++
      (newOutboundGroupSessionByReceiver getE2eesPack device.store bundle.groupSeed
        bundle.e2eesPackId receiverAddress bundle.groupInfo.groupName
        bundle.groupInfo.groupAddress bundle.sessionId bundle.groupInfo.groupMemberList).toList

/-- The outbound session is stored behind the sessions for the other added devices. -/
def invitedSessions (cipherSuite : CipherSuite β) (userAddress : E2eeAddress) :
    List (GroupMemberInfo β) → GroupSession β → Bytes β → List (GroupSession β)
  | [], outbound, _ => [outbound]
  | info :: rest, outbound, senderChainKey =>
      let theirs := advanceGroupChainKeyByWelcome cipherSuite senderChainKey
      let next := advanceGroupChainKeyByAdd cipherSuite theirs senderChainKey
      if info.memberAddress = userAddress then
        invitedSessions cipherSuite userAddress rest
          { outbound with chainKey := theirs, sequence := 0 } next
      else
        (newAndCompleteInboundGroupSessionWithChainKey getE2eesPack info outbound
          theirs).toList ++ invitedSessions cipherSuite userAddress rest outbound next

/-- This is the outbound session of an invited device before it has its key. -/
def invitedOutbound (cipherSuite : CipherSuite β) (bundle : GroupUpdateKeyBundle β)
    (userAddress : E2eeAddress) (identityPublicKey : Bytes β) : GroupSession β where
  version := bundle.version
  e2eesPackId := bundle.e2eesPackId
  sessionId := bundle.sessionId
  sender := userAddress
  sessionOwner := userAddress
  groupInfo := bundle.groupInfo
  sequence := 0
  groupSeed := []
  chainKey := []
  associatedData := cipherSuite.groupAssociatedData identityPublicKey

/-- These are the sessions that the handler stores from an update bundle, in their order. -/
def updateKeyBundleSessions (device : Device β) (receiverAddress : E2eeAddress)
    (bundle : GroupUpdateKeyBundle β) : List (GroupSession β) :=
  let invited := if bundle.adding
    then newOutboundGroupSessionInvited getE2eesPack device bundle receiverAddress else none
  (match invited, getE2eesPack bundle.e2eesPackId,
      loadSignPublicKey device.store receiverAddress with
    | some _, some cipherSuite, some identityPublicKey =>
        invitedSessions getE2eesPack cipherSuite receiverAddress bundle.addingMemberInfoList
          (invitedOutbound cipherSuite bundle receiverAddress identityPublicKey) bundle.chainKey
    | _, _, _ => []) ++
  (newAndCompleteInboundGroupSessionWithRatchetState getE2eesPack
    ((invited.map Prod.snd).getD bundle) receiverAddress).toList

variable {getE2eesPack}

theorem GroupStore.storeResult_eq (groups : GroupStore β) (result : Option (GroupSession β)) :
    groups.storeResult result = result.toList.foldl GroupStore.storeGroupSession groups := by
  cases result <;> rfl

/-- The handler stores exactly the listed sessions. -/
theorem consumeGroupPreKeyBundle_sessions (device : Device β) (receiver : E2eeAddress)
    (bundle : GroupPreKeyBundle β) :
    consumeGroupPreKeyBundle getE2eesPack device receiver bundle =
      (preKeyBundleSessions getE2eesPack device receiver bundle).foldl
        GroupStore.storeGroupSession (if bundle.oldSessionId ≠ ""
          then device.groups.unloadGroupSessionById receiver bundle.oldSessionId
          else device.groups) := by
  have loop (loaded : List (GroupSession β)) (groups : GroupStore β) :
      loaded.foldl (fun groups session => if session.sender = receiver then groups
        else groups.storeResult
          (completeInboundGroupSessionByPreKeyBundle getE2eesPack session bundle)) groups =
        ((loaded.filter fun session => session.sender ≠ receiver).filterMap fun session =>
          completeInboundGroupSessionByPreKeyBundle getE2eesPack session bundle).foldl
            GroupStore.storeGroupSession groups := by
    induction loaded generalizing groups with
    | nil => rfl
    | cons session rest ih =>
        rw [List.foldl_cons]
        by_cases own : session.sender = receiver
        · rw [if_pos own, ih, List.filter_cons_of_neg (by simpa using own)]
        · rw [if_neg own, ih, List.filter_cons_of_pos (by simpa using own),
            GroupStore.storeResult_eq, List.filterMap_cons]
          cases completeInboundGroupSessionByPreKeyBundle getE2eesPack session bundle <;> rfl
  unfold consumeGroupPreKeyBundle preKeyBundleSessions
  dsimp only
  generalize (if bundle.oldSessionId ≠ ""
    then device.groups.unloadGroupSessionById receiver bundle.oldSessionId
    else device.groups) = groups
  by_cases none : (groups.loadGroupSessions receiver bundle.groupInfo.groupAddress).isEmpty = true
  · rw [if_pos none, if_pos none, GroupStore.storeResult_eq]
  · rw [if_neg none, if_neg none, GroupStore.storeResult_eq, loop, ← List.foldl_append]

theorem invitedSessions_stored {cipherSuite : CipherSuite β} {userAddress : E2eeAddress}
    (infos : List (GroupMemberInfo β)) (outbound : GroupSession β) (groups : GroupStore β)
    (senderChainKey : Bytes β) :
    let state := infos.foldl (invitedStep getE2eesPack cipherSuite userAddress)
      ⟨outbound, groups, senderChainKey⟩
    state.groups.storeGroupSession state.outbound =
      (invitedSessions getE2eesPack cipherSuite userAddress infos outbound
        senderChainKey).foldl GroupStore.storeGroupSession groups := by
  induction infos generalizing outbound groups senderChainKey with
  | nil => rfl
  | cons info rest ih =>
      simp only [List.foldl_cons, invitedStep, invitedSessions]
      split
      · exact ih _ _ _
      · rw [List.foldl_append, ← GroupStore.storeResult_eq]
        exact ih _ _ _

/-- An invited device passes all checks before it stores its sessions. -/
theorem newOutboundGroupSessionInvited_some {device : Device β} {bundle : GroupUpdateKeyBundle β}
    {userAddress : E2eeAddress} {result : GroupStore β × GroupUpdateKeyBundle β}
    (made : newOutboundGroupSessionInvited getE2eesPack device bundle userAddress = some result) :
    ∃ cipherSuite identityPublicKey, getE2eesPack bundle.e2eesPackId = some cipherSuite ∧
      loadSignPublicKey device.store userAddress = some identityPublicKey ∧
      isValidAddress userAddress = true ∧
      isValidGroupUpdateKeyBundle getE2eesPack bundle = true ∧
      result.1 = (invitedSessions getE2eesPack cipherSuite userAddress bundle.addingMemberInfoList
        (invitedOutbound cipherSuite bundle userAddress identityPublicKey)
        bundle.chainKey).foldl GroupStore.storeGroupSession device.groups ∧
      result.2 = { bundle with chainKey := (bundle.addingMemberInfoList.foldl
        (invitedStep getE2eesPack cipherSuite userAddress)
        ⟨invitedOutbound cipherSuite bundle userAddress identityPublicKey, device.groups,
          bundle.chainKey⟩).senderChainKey } := by
  unfold newOutboundGroupSessionInvited at made
  split at made
  · rename_i cipherSuite identityPublicKey pack known
    split at made
    · rename_i checks
      simp only [Bool.and_eq_true] at checks
      rw [Option.some.injEq] at made
      subst made
      exact ⟨cipherSuite, identityPublicKey, pack, known, checks.1.1, checks.1.2,
        invitedSessions_stored _ _ _ _, rfl⟩
    · simp at made
  · simp at made

/-- The handler stores exactly the listed sessions. -/
theorem consumeGroupUpdateKeyBundle_sessions (device : Device β) (receiver : E2eeAddress)
    (bundle : GroupUpdateKeyBundle β) :
    consumeGroupUpdateKeyBundle getE2eesPack device receiver bundle =
      (updateKeyBundleSessions getE2eesPack device receiver bundle).foldl
        GroupStore.storeGroupSession device.groups := by
  unfold consumeGroupUpdateKeyBundle updateKeyBundleSessions
  dsimp only
  rw [List.foldl_append, GroupStore.storeResult_eq]
  cases adding : bundle.adding with
  | false => rfl
  | true =>
      cases made : newOutboundGroupSessionInvited getE2eesPack device bundle receiver with
      | none => rfl
      | some result =>
          obtain ⟨cipherSuite, identityPublicKey, pack, known, -, -, stored, -⟩ :=
            newOutboundGroupSessionInvited_some made
          simp only [if_true, pack, known, Option.getD_some, Option.map_some, stored]

end Made

section Provided

variable {getE2eesPack : Packs β}

end Provided

section Binding

end Binding

namespace Symbolic

def platform : Platform FreeTerm where
  getE2eesPack := handshake.getE2eesPack
  getDsSuite _ := some symbolicSuite.ds
  loadOutboundSession _ _ _ := none
  loadOutboundSessions _ _ _ _ := []
  packUserDevicesBundle _ := [.byte 0]
  packGroupUpdateKeyBundle bundle := bundle.chainKey

/-- The server answers no request for bundles. -/
def noReply : BundleReply FreeTerm where
  response := none
  starts _ := ⟨"", handshake.draw, handshake.invite⟩
  steps _ := ⟨⟨"", none⟩, ""⟩

end Symbolic

end E2eeSecurity
