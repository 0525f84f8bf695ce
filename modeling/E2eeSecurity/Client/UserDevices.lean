/-
This file gives the fan-out of a new device to the groups of its user and shows to which groups the
device is added.
-/
import E2eeSecurity.Group.Members
import E2eeSecurity.Client.Copy
import E2eeSecurity.Client.DeviceKeys

namespace E2eeSecurity

variable {β : Type}

/-- This is what one call that adds the device to a group meets. -/
structure AddDeviceReply (β : Type) where
  respond : AddGroupMemberDeviceMsg β → Option (AddGroupMemberDeviceResponse β)
  delivery : BundleDelivery β

/-- These are the addresses of one call of `add_group_member_device_internal`. -/
structure AddDeviceCall where
  senderAddress : E2eeAddress
  groupAddress : E2eeAddress
  newDeviceAddress : E2eeAddress
  deriving DecidableEq

/-- This is what a handler returns, with the calls that it has made. -/
structure AddUserDeviceOutcome (β : Type) where
  consumed : Bool
  client : Client β
  calls : List AddDeviceCall

section Gathering

def isValidAddUserDeviceMsg (msg : AddUserDeviceMsg) : Bool :=
  isValidAddress msg.userAddress && msg.oldAddressList.all isValidAddress

/-- The walk over the nodes ends at an equal address, or behind the last node with a new one. -/
def insertGroupAddress (groupAddress : E2eeAddress) : List E2eeAddress → List E2eeAddress
  | [] => [copyAddressFromAddress groupAddress]
  | node :: rest =>
      if compareAddress node groupAddress then node :: rest
      else node :: insertGroupAddress groupAddress rest

/-- The groups of one old address are inserted one after the other. -/
def insertGroupAddresses : List E2eeAddress → List E2eeAddress → List E2eeAddress
  | [], groupAddressList => groupAddressList
  | groupAddress :: rest, groupAddressList =>
      insertGroupAddresses rest (insertGroupAddress groupAddress groupAddressList)

/-- The database is asked once for each old address. -/
def gatherGroupAddresses (loadGroupAddresses : E2eeAddress → E2eeAddress → List E2eeAddress)
    (receiverAddress : E2eeAddress) : List E2eeAddress → List E2eeAddress → List E2eeAddress
  | [], groupAddressList => groupAddressList
  | oldAddress :: rest, groupAddressList =>
      gatherGroupAddresses loadGroupAddresses receiverAddress rest
        (insertGroupAddresses (loadGroupAddresses oldAddress receiverAddress) groupAddressList)

end Gathering

section Walking

variable (platform : Platform β)

/-- The result of a call is not looked at. The last component lists the calls. -/
def addDeviceToGroups (receiverAddress newUserAddress : E2eeAddress) :
    (Nat → AddDeviceReply β) → List E2eeAddress → Client β → Client β × List AddDeviceCall
  | _, [], client => (client, [])
  | replies, groupAddress :: rest, client =>
      let added := client.addGroupMemberDeviceInternal platform (replies 0).respond
        (replies 0).delivery receiverAddress groupAddress newUserAddress
      let later := addDeviceToGroups receiverAddress newUserAddress
        (fun index => replies (index + 1)) rest added.1
      (later.1, ⟨receiverAddress, groupAddress, newUserAddress⟩ :: later.2)

/-- The message counts as consumed in every case. -/
def consumeAddUserDeviceMsg
    (loadGroupAddresses : E2eeAddress → E2eeAddress → List E2eeAddress)
    (replies : Nat → AddDeviceReply β) (client : Client β) (receiverAddress : E2eeAddress)
    (msg : AddUserDeviceMsg) : AddUserDeviceOutcome β :=
  if isValidAddress receiverAddress && isValidAddUserDeviceMsg msg &&
      !compareAddress receiverAddress msg.userAddress then
    let added := addDeviceToGroups platform receiverAddress msg.userAddress replies
      (gatherGroupAddresses loadGroupAddresses receiverAddress msg.oldAddressList []) client
    ⟨true, added.1, added.2⟩
  else ⟨true, client, []⟩

end Walking

section FirstOccurrences

theorem insertGroupAddress_eq (groupAddress : E2eeAddress) (groupAddressList : List E2eeAddress) :
    insertGroupAddress groupAddress groupAddressList =
      if groupAddress ∈ groupAddressList then groupAddressList
      else groupAddressList ++ [groupAddress] := by
  induction groupAddressList with
  | nil => simp [insertGroupAddress]
  | cons node rest ih =>
      rw [insertGroupAddress, ih]
      by_cases same : node = groupAddress
      · rw [if_pos ((compareAddress_iff node groupAddress).mpr same), if_pos (by simp [same])]
      · rw [if_neg fun equal => same ((compareAddress_iff node groupAddress).mp equal)]
        have listed : groupAddress ∈ node :: rest ↔ groupAddress ∈ rest := by
          simp [Ne.symm same]
        simp only [listed]
        split <;> rfl

/-- A list without repetitions stays one, and a new address goes to its end. -/
theorem insertGroupAddress_eraseDups (groupAddress : E2eeAddress) (earlier : List E2eeAddress) :
    insertGroupAddress groupAddress earlier.eraseDups = (earlier ++ [groupAddress]).eraseDups := by
  rw [insertGroupAddress_eq]
  by_cases repeated : groupAddress ∈ earlier
  · rw [if_pos (List.mem_eraseDups.mpr repeated), eraseDups_concat_repeated repeated]
  · rw [if_neg fun listed => repeated (List.mem_eraseDups.mp listed),
      eraseDups_concat_fresh repeated]

theorem insertGroupAddresses_eraseDups (later earlier : List E2eeAddress) :
    insertGroupAddresses later earlier.eraseDups = (earlier ++ later).eraseDups := by
  induction later generalizing earlier with
  | nil => rw [insertGroupAddresses, List.append_nil]
  | cons groupAddress rest ih =>
      rw [insertGroupAddresses, insertGroupAddress_eraseDups, ih, List.append_assoc,
        List.singleton_append]

variable (loadGroupAddresses : E2eeAddress → E2eeAddress → List E2eeAddress)

theorem gatherGroupAddresses_eraseDups (receiverAddress : E2eeAddress)
    (oldAddressList earlier : List E2eeAddress) :
    gatherGroupAddresses loadGroupAddresses receiverAddress oldAddressList earlier.eraseDups =
      (earlier ++ oldAddressList.flatMap fun oldAddress =>
        loadGroupAddresses oldAddress receiverAddress).eraseDups := by
  induction oldAddressList generalizing earlier with
  | nil => rw [gatherGroupAddresses, List.flatMap_nil, List.append_nil]
  | cons oldAddress rest ih =>
      rw [gatherGroupAddresses, insertGroupAddresses_eraseDups, ih, List.flatMap_cons,
        List.append_assoc]

end FirstOccurrences

section FanOut

variable {platform : Platform β}
  {loadGroupAddresses : E2eeAddress → E2eeAddress → List E2eeAddress}
  {replies : Nat → AddDeviceReply β} {client : Client β} {receiverAddress : E2eeAddress}

/-- There is one call for each node of the list. -/
theorem addDeviceToGroups_calls (newUserAddress : E2eeAddress)
    (groupAddressList : List E2eeAddress) :
    (addDeviceToGroups platform receiverAddress newUserAddress replies groupAddressList
      client).2 = groupAddressList.map fun groupAddress =>
        ⟨receiverAddress, groupAddress, newUserAddress⟩ := by
  induction groupAddressList generalizing replies client with
  | nil => rfl
  | cons groupAddress rest ih =>
      rw [addDeviceToGroups, List.map_cons]
      exact congrArg _ ih

/-- The device is added to every group that is loaded for one of the old addresses, once, in the
order of the first occurrences. -/
theorem consumeAddUserDeviceMsg_calls {msg : AddUserDeviceMsg}
    (receiver : isValidAddress receiverAddress = true)
    (valid : isValidAddUserDeviceMsg msg = true)
    (other : compareAddress receiverAddress msg.userAddress = false) :
    ∃ groups : List E2eeAddress,
      (consumeAddUserDeviceMsg platform loadGroupAddresses replies client receiverAddress
        msg).calls = (groups.map fun groupAddress =>
          ⟨receiverAddress, groupAddress, msg.userAddress⟩) ∧
      groups = (msg.oldAddressList.flatMap fun oldAddress =>
        loadGroupAddresses oldAddress receiverAddress).eraseDups ∧
      groups.Nodup ∧
      ∀ groupAddress, groupAddress ∈ groups ↔
        ∃ oldAddress ∈ msg.oldAddressList,
          groupAddress ∈ loadGroupAddresses oldAddress receiverAddress := by
  have gathered := gatherGroupAddresses_eraseDups loadGroupAddresses receiverAddress
    msg.oldAddressList []
  rw [List.nil_append, List.eraseDups_nil] at gathered
  refine ⟨_, ?_, rfl, nodup_eraseDups _, fun groupAddress => ?_⟩
  · rw [consumeAddUserDeviceMsg, if_pos (by simp [receiver, valid, other]), ← gathered]
    exact addDeviceToGroups_calls msg.userAddress _
  · rw [List.mem_eraseDups, List.mem_flatMap]

end FanOut

namespace Symbolic

def laptopAddress : E2eeAddress := ⟨"domain", .user "alice" "laptop"⟩

/-- The groups of the two old devices overlap. -/
def overlappingGroups (oldAddress _ : E2eeAddress) : List E2eeAddress :=
  if oldAddress = tabletAddress then [⟨"domain", .group "family"⟩, ⟨"domain", .group "work"⟩]
  else [⟨"domain", .group "work"⟩, ⟨"domain", .group "chess"⟩]

end Symbolic

open Symbolic in
theorem consumeAddUserDeviceMsg_calls_overlapping :
    ∃ groups : List E2eeAddress,
      (consumeAddUserDeviceMsg platform overlappingGroups
        (fun _ => ⟨fun _ => none, ⟨⟨"", none⟩, "", noReply⟩⟩) groupClient aliceAddress
        ⟨laptopAddress, [tabletAddress, aliceAddress]⟩).calls = (groups.map fun groupAddress =>
          ⟨aliceAddress, groupAddress, laptopAddress⟩) ∧
      groups = [⟨"domain", .group "family"⟩, ⟨"domain", .group "work"⟩,
        ⟨"domain", .group "chess"⟩] := by
  obtain ⟨groups, calls, first, -, -⟩ := @consumeAddUserDeviceMsg_calls FreeTerm platform
    overlappingGroups (fun _ => ⟨fun _ => none, ⟨⟨"", none⟩, "", noReply⟩⟩) groupClient
    aliceAddress ⟨laptopAddress, [tabletAddress, aliceAddress]⟩ (by decide) (by decide)
    (by decide)
  exact ⟨groups, calls, first.trans (by decide)⟩

end E2eeSecurity
