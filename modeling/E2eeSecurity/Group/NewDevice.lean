/-
This file shows that the call for one new device of a member leads to the same keys as the addition
of a list with this one device.
-/
import E2eeSecurity.Group.Join

namespace E2eeSecurity

variable {β : Type}

/-- The two sessions may only differ in the members of the group and in what is not a key. -/
structure GroupSession.SameChain (first second : GroupSession β) : Prop where
  key : first.key = second.key
  chainKey : first.chainKey = second.chainKey
  sequence : first.sequence = second.sequence

/-- Both stores have the same chains under the same keys. -/
def GroupStore.SameChains (first second : GroupStore β) : Prop :=
  ∀ wanted, Option.Rel GroupSession.SameChain (first.lookup wanted) (second.lookup wanted)

/-- Only the sessions of the owner itself may differ. -/
def GroupSession.SameInbound (owner : E2eeAddress) (first second : GroupSession β) : Prop :=
  first.SameChain second ∧ (first = second ∨ first.sender = owner)

theorem GroupSession.SameChain.refl (session : GroupSession β) : session.SameChain session :=
  ⟨rfl, rfl, rfl⟩

theorem GroupStore.SameChains.chainKey {first second : GroupStore β}
    (same : first.SameChains second) (wanted : GroupKey) :
    (first.lookup wanted).map GroupSession.chainKey =
      (second.lookup wanted).map GroupSession.chainKey := by
  have related := same wanted
  generalize first.lookup wanted = found, second.lookup wanted = other at related ⊢
  cases related with
  | none => rfl
  | some sameChain => exact congrArg some sameChain.chainKey

theorem GroupStore.storeResult_related {first second : GroupStore β}
    (related : KeyedTable.Related GroupSession.SameChain first second)
    {result other : Option (GroupSession β)}
    (same : Option.Rel GroupSession.SameChain result other) :
    KeyedTable.Related GroupSession.SameChain (first.storeResult result)
      (second.storeResult other) := by
  cases same with
  | none => exact related
  | some same => exact related.insert (fun _ _ same => same.key) same

section Renewal

variable (getE2eesPack : Packs β)

/-- The members of the group do not matter for a renewed chain. -/
theorem renewInbound_sameChain (senderChainKey : Option (Bytes β)) (inbound : GroupSession β)
    {groupInfo other : GroupInfo} (sameGroup : groupInfo.groupAddress = other.groupAddress) :
    Option.Rel GroupSession.SameChain
      (renewInboundGroupSessionByWelcomeAndAdd getE2eesPack senderChainKey inbound groupInfo)
      (renewInboundGroupSessionByWelcomeAndAdd getE2eesPack senderChainKey inbound other) := by
  unfold renewInboundGroupSessionByWelcomeAndAdd
  split
  · cases getE2eesPack inbound.e2eesPackId with
    | none => exact .none
    | some cipherSuite => exact .some ⟨by simp [GroupSession.key, sameGroup], rfl, rfl⟩
  · exact .none

/-- The loops over the stored sessions keep the same chains. -/
theorem renewInbounds_related {first second : GroupStore β}
    (related : KeyedTable.Related GroupSession.SameChain first second)
    {loaded others : List (GroupSession β)} {sessionOwner : E2eeAddress}
    (sameLoaded : List.Forall₂ (GroupSession.SameInbound sessionOwner) loaded others)
    (senderAddress : E2eeAddress) (senderChainKey : Option (Bytes β))
    {groupInfo other : GroupInfo} (sameGroup : groupInfo.groupAddress = other.groupAddress) :
    KeyedTable.Related GroupSession.SameChain
      (renewInboundGroupSessions getE2eesPack first loaded sessionOwner senderAddress
        senderChainKey groupInfo)
      (renewInboundGroupSessions getE2eesPack second others sessionOwner senderAddress
        senderChainKey other) := by
  refine List.rel_foldl ?_ related sameLoaded
  rintro groups otherGroups sameGroups session otherSession ⟨sameChain, same | own⟩
  all_goals dsimp only
  · subst same
    split
    · exact sameGroups
    · exact GroupStore.storeResult_related sameGroups
        (renewInbound_sameChain getE2eesPack _ session sameGroup)
  · have otherOwn : otherSession.sender = sessionOwner := by
      rw [← own]
      exact congrArg GroupKey.sender sameChain.key.symm
    rw [if_pos own, if_pos otherOwn]
    exact sameGroups

/-- An added device gets the same chain from either way. -/
theorem newAndComplete_sameChain (info : GroupMemberInfo β) {first second : GroupSession β}
    (sameKey : first.key = second.key) (samePack : first.e2eesPackId = second.e2eesPackId)
    (firstValid : isValidGroupSessionNoChainKey getE2eesPack first = true)
    (secondValid : isValidGroupSessionNoChainKey getE2eesPack second = true)
    (theirChainKey : Bytes β) :
    Option.Rel GroupSession.SameChain
      (newAndCompleteInboundGroupSessionWithChainKey getE2eesPack info first theirChainKey)
      (newAndCompleteInboundGroupSessionWithChainKey getE2eesPack info second theirChainKey) := by
  rw [newAndCompleteInboundGroupSessionWithChainKey, firstValid,
    newAndCompleteInboundGroupSessionWithChainKey, secondValid, samePack]
  split
  · cases getE2eesPack second.e2eesPackId with
    | none => exact .none
    | some cipherSuite =>
        exact .some ⟨congrArg (fun key => { key with sender := info.memberAddress }) sameKey,
          rfl, rfl⟩
  · exact .none

/-- The stored sessions of the owner itself are the only ones that the first step tells apart. -/
theorem storeGroupSession_sameInbound (groups : GroupStore β) {first second : GroupSession β}
    {sessionOwner : E2eeAddress} (same : first.SameChain second)
    (own : first.sender = sessionOwner) :
    KeyedTable.Related (GroupSession.SameInbound sessionOwner)
      (groups.storeGroupSession first) (groups.storeGroupSession second) :=
  (KeyedTable.Related.refl (fun session => ⟨.refl session, .inl rfl⟩) groups).insert
    (fun _ _ same => same.1.key) ⟨same, .inr own⟩

theorem loadGroupSessions_sameInbound {first second : GroupStore β}
    {sessionOwner : E2eeAddress}
    (related : KeyedTable.Related (GroupSession.SameInbound sessionOwner) first second)
    (groupAddress : E2eeAddress) :
    List.Forall₂ (GroupSession.SameInbound sessionOwner)
      (first.loadGroupSessions sessionOwner groupAddress)
      (second.loadGroupSessions sessionOwner groupAddress) := by
  refine List.rel_filter ?_ related
  rintro session other ⟨sameChain, -⟩
  have sameOwner : session.sessionOwner = other.sessionOwner :=
    congrArg GroupKey.sessionOwner sameChain.key
  have sameGroup : session.groupInfo.groupAddress = other.groupInfo.groupAddress :=
    congrArg GroupKey.groupAddress sameChain.key
  simp only [sameOwner, sameGroup]

/-- The whole renewal with one added device only depends on the chains. -/
theorem renewal_sameChains (groups : GroupStore β) (first second : GroupSession β)
    (same : first.SameChain second) (own : first.sender = first.sessionOwner)
    (samePack : first.e2eesPackId = second.e2eesPackId)
    (firstValid : isValidGroupSessionNoChainKey getE2eesPack first = true)
    (secondValid : isValidGroupSessionNoChainKey getE2eesPack second = true)
    (senderAddress : E2eeAddress) (senderChainKey : Option (Bytes β)) (info : GroupMemberInfo β)
    (theirChainKey : Bytes β) :
    ((renewInboundGroupSessions getE2eesPack (groups.storeGroupSession first)
      ((groups.storeGroupSession first).loadGroupSessions first.sessionOwner
        first.groupInfo.groupAddress) first.sessionOwner senderAddress senderChainKey
      first.groupInfo).storeResult (newAndCompleteInboundGroupSessionWithChainKey getE2eesPack
        info first theirChainKey)).SameChains
    ((renewInboundGroupSessions getE2eesPack (groups.storeGroupSession second)
      ((groups.storeGroupSession second).loadGroupSessions second.sessionOwner
        second.groupInfo.groupAddress) second.sessionOwner senderAddress senderChainKey
      second.groupInfo).storeResult (newAndCompleteInboundGroupSessionWithChainKey getE2eesPack
        info second theirChainKey)) := by
  have sameOwner : first.sessionOwner = second.sessionOwner :=
    congrArg GroupKey.sessionOwner same.key
  have sameGroup : first.groupInfo.groupAddress = second.groupInfo.groupAddress :=
    congrArg GroupKey.groupAddress same.key
  have stored := storeGroupSession_sameInbound groups same own
  have renewed := renewInbounds_related getE2eesPack
    (List.Forall₂.imp (fun _ _ same => same.1) stored)
    (loadGroupSessions_sameInbound stored first.groupInfo.groupAddress) senderAddress
    senderChainKey sameGroup
  have extended := GroupStore.storeResult_related renewed (newAndComplete_sameChain
    getE2eesPack info same.key samePack firstValid secondValid theirChainKey)
  rw [← sameOwner, ← sameGroup]
  exact extended.lookup fun _ _ same => same.key

theorem renewedKeys_singleton (cipherSuite : CipherSuite β) (outbound : GroupSession β)
    (senderChainKey : Option (Bytes β)) (info : GroupMemberInfo β) :
    ∃ theirs keys, renewedKeys cipherSuite outbound senderChainKey [info] = ([theirs], keys) := by
  cases senderChainKey with
  | none => exact ⟨_, _, rfl⟩
  | some chainKey => exact ⟨_, _, rfl⟩

/-- Both ways succeed together, store the same chains, and send the same keys. -/
theorem renewWithNewDevice_sameChains (device : Device β) (outbound : GroupSession β)
    (own : outbound.sender = outbound.sessionOwner)
    (senderChainKey : Option (Bytes β)) (senderAddress : E2eeAddress)
    {newDeviceAddress : E2eeAddress} (valid : isValidAddress newDeviceAddress = true)
    (info : GroupMemberInfo β) {addingGroupMembers : List GroupMember}
    (membersValid : addingGroupMembers.all isValidGroupMember = true) :
    Option.Rel (fun viaDevice viaList => viaDevice.1.SameChains viaList.1 ∧
        viaList.2 = { viaDevice.2 with groupInfo := viaList.2.groupInfo })
      (renewGroupSessionsWithNewDevice getE2eesPack device outbound senderChainKey senderAddress
        newDeviceAddress info)
      (renewOutboundGroupSessionByWelcomeAndAdd getE2eesPack device outbound senderChainKey
        senderAddress [info] addingGroupMembers) := by
  unfold renewGroupSessionsWithNewDevice renewOutboundGroupSessionByWelcomeAndAdd
  split
  next cipherSuite signPublicKey found loaded =>
    simp only [valid, membersValid, List.isEmpty_cons, Bool.not_false, Bool.true_and,
      Bool.and_true, List.all_cons, List.all_nil]
    obtain ⟨theirs, keys, renewed⟩ :=
      renewedKeys_singleton cipherSuite outbound senderChainKey info
    split
    next checks =>
      simp only [Bool.and_eq_true, isValidGroupSession] at checks
      obtain ⟨⟨⟨⟨head, -⟩, associatedData⟩, -⟩, -⟩ := checks
      rw [renewed, if_neg]
      · refine .some ⟨?_, rfl⟩
        refine renewal_sameChains getE2eesPack device.groups
          { outbound with chainKey := keys.1, sequence := 0 }
          { outbound with
            groupInfo := addGroupMembersToGroupInfo outbound.groupInfo addingGroupMembers
            chainKey := keys.1
            sequence := 0 }
          ⟨rfl, rfl, rfl⟩ own rfl ?_ ?_ senderAddress keys.2 info theirs
        · rw [isValidGroupSessionNoChainKey, Bool.and_eq_true]
          exact ⟨head, associatedData⟩
        · rw [isValidGroupSessionNoChainKey, Bool.and_eq_true]
          exact ⟨isValidGroupSessionHead_add head membersValid, associatedData⟩
      · rw [List.isEmpty_iff]
        exact List.ne_nil_of_mem ((GroupStore.mem_loadGroupSessions _).mpr
          ⟨KeyedTable.mem_insert.mpr (.inr rfl), rfl, rfl⟩)
    · exact .none
  · exact .none

end Renewal

section Agreement

variable {getE2eesPack : Packs β} {addition : GroupAddition getE2eesPack}
  {results : E2eeAddress → GroupStore β × GroupUpdateKeyBundle β}
  {arrivals : E2eeAddress → List (GroupUpdateKeyBundle β)}

variable (addition) in
/-- An old device has renewed its sessions, and a new one has handled the bundles. -/
def GroupAddition.finish (results : E2eeAddress → GroupStore β × GroupUpdateKeyBundle β)
    (arrivals : E2eeAddress → List (GroupUpdateKeyBundle β)) (address : E2eeAddress) :
    GroupStore β :=
  if address ∈ addition.members then (results address).1
  else addition.join (arrivals address) address

theorem GroupAddition.checked_of_renew
    (succeeded : ∀ owner ∈ addition.members, addition.renew owner = some (results owner)) :
    addition.Checked where
  outbound owner member := (renewed member (succeeded owner member)).1.1
  infos := (renewed addition.adderMember (succeeded _ addition.adderMember)).1.2.1
  groupMembers := (renewed addition.adderMember (succeeded _ addition.adderMember)).1.2.2

/-- Every new device has a welcome key. -/
theorem GroupAddition.exists_welcomed {info : GroupMemberInfo β}
    (new : info ∈ addition.addingMemberInfoList) :
    ∃ theirs, (info, theirs) ∈ addition.welcomed := by
  have infos : addition.welcomed.map Prod.fst = addition.addingMemberInfoList :=
    List.map_fst_zip (welcomeAndAdd_length _ _ _).ge
  rw [← infos, List.mem_map] at new
  obtain ⟨⟨found, theirs⟩, assigned, rfl⟩ := new
  exact ⟨theirs, assigned⟩

/-- The schedule has a chain key for every device. -/
theorem GroupAddition.exists_next {address : E2eeAddress} (listed : address ∈ addition.addresses) :
    ∃ chainKey, addition.Next address chainKey := by
  obtain member | new := List.mem_append.mp listed
  · obtain ⟨chainKey, nextKey, -⟩ := renewedKeys_eq member
    exact ⟨chainKey, nextKey⟩
  · obtain ⟨info, listedInfo, rfl⟩ := List.mem_map.mp new
    obtain ⟨theirs, assigned⟩ := exists_welcomed listedInfo
    exact ⟨theirs, .added assigned⟩

/-- The schedule has only one chain key for a device. -/
theorem GroupAddition.Next.unique {first second : E2eeAddress} {firstKey secondKey : Bytes β}
    (firstNext : addition.Next first firstKey) (secondNext : addition.Next second secondKey)
    (same : first = second) : firstKey = secondKey := by
  cases firstNext with
  | adder =>
      cases secondNext with
      | adder => rfl
      | member _ notAdder => exact absurd same.symm notAdder
      | added assigned => exact absurd same (adder_sender_ne (welcomed_new assigned))
  | member member notAdder =>
      cases secondNext with
      | adder => exact absurd same notAdder
      | member _ _ => rw [same]
      | added assigned =>
          exact absurd (same ▸ member) (addition.newAddress _ (welcomed_new assigned))
  | added assigned =>
      cases secondNext with
      | adder => exact absurd same.symm (adder_sender_ne (welcomed_new assigned))
      | member member _ =>
          exact absurd (same ▸ member) (addition.newAddress _ (welcomed_new assigned))
      | added otherAssigned =>
          by_contra different
          refine welcomed_address_ne assigned otherAssigned ?_ same.symm
          exact fun equal => different (Prod.mk.inj equal).2.symm

theorem GroupAddition.finish_new (results : E2eeAddress → GroupStore β × GroupUpdateKeyBundle β)
    (arrivals : E2eeAddress → List (GroupUpdateKeyBundle β)) {info : GroupMemberInfo β}
    (new : info ∈ addition.addingMemberInfoList) :
    addition.finish results arrivals info.memberAddress =
      addition.join (arrivals info.memberAddress) info.memberAddress :=
  if_neg (addition.newAddress info new)

section Finished

variable
  (succeeded : ∀ owner ∈ addition.members, addition.renew owner = some (results owner))
  (everyBundle : ∀ info ∈ addition.addingMemberInfoList, ∀ bundle,
    bundle ∈ arrivals info.memberAddress ↔
      ∃ sender ∈ addition.members, bundle = (results sender).2)

include succeeded

/-- An old device ends with the chains that it was to store. -/
theorem GroupAddition.finish_old {owner : E2eeAddress} (member : owner ∈ addition.members)
    {ownerNext : Bytes β} (nextKey : addition.Next owner ownerNext) :
    addition.finish results arrivals owner = addition.extended owner ownerNext := by
  obtain ⟨-, -, chainKey, otherNext, stored⟩ := renewed member (succeeded owner member)
  rw [finish, if_pos member, stored, otherNext.unique nextKey rfl]

include everyBundle

theorem GroupAddition.bundles_arrive {info : GroupMemberInfo β}
    (new : info ∈ addition.addingMemberInfoList) (bundle : GroupUpdateKeyBundle β) :
    bundle ∈ arrivals info.memberAddress ↔
      ∃ sender ∈ addition.members, bundle = addition.bundle sender := by
  rw [everyBundle info new]
  refine exists_congr fun sender => and_congr_right fun member => ?_
  rw [← (renewed member (succeeded sender member)).2.1]

/-- Every device sends with the chain key of the schedule. -/
theorem GroupAddition.finish_outbound {sender : E2eeAddress} {senderNext : Bytes β}
    (nextKey : addition.Next sender senderNext) (listed : sender ∈ addition.addresses) :
    (addition.finish results arrivals sender).Holds (addition.key sender sender) senderNext := by
  have checked := checked_of_renew succeeded
  obtain member | new := List.mem_append.mp listed
  · rw [finish_old succeeded member nextKey]
    exact owner_holds_outbound checked member senderNext
  · obtain ⟨info, listedInfo, rfl⟩ := List.mem_map.mp new
    obtain ⟨theirs, assigned⟩ := exists_welcomed listedInfo
    rw [finish_new results arrivals listedInfo, nextKey.unique (.added assigned) rfl]
    exact join_holds_outbound (bundles_arrive succeeded everyBundle listedInfo) checked assigned

/-- Every device receives with the chain key of the schedule. -/
theorem GroupAddition.finish_inbound {sender receiver : E2eeAddress} {senderNext : Bytes β}
    (nextKey : addition.Next sender senderNext) (senderListed : sender ∈ addition.addresses)
    (receiverListed : receiver ∈ addition.addresses) (different : sender ≠ receiver) :
    (addition.finish results arrivals receiver).Holds (addition.key sender receiver)
      senderNext := by
  have checked := checked_of_renew succeeded
  obtain member | new := List.mem_append.mp receiverListed
  · obtain ⟨receiverNext, receiverKey⟩ := exists_next receiverListed
    rw [finish_old succeeded member receiverKey]
    obtain senderMember | senderNew := List.mem_append.mp senderListed
    · exact owner_holds_inbound checked member senderMember different receiverNext nextKey
    · obtain ⟨info, listedInfo, rfl⟩ := List.mem_map.mp senderNew
      obtain ⟨theirs, assigned⟩ := exists_welcomed listedInfo
      rw [nextKey.unique (.added assigned) rfl]
      exact owner_holds_added checked member receiverNext assigned
  · obtain ⟨info, listedInfo, rfl⟩ := List.mem_map.mp new
    obtain ⟨theirs, assigned⟩ := exists_welcomed listedInfo
    rw [finish_new results arrivals listedInfo]
    exact join_holds_inbound (bundles_arrive succeeded everyBundle listedInfo) checked assigned
      nextKey different

end Finished

/-- After an addition every pair of old and new devices has the same chain, from the start of it.
The call for one new device gives the same chains as the addition of a list with this device. -/
theorem groupAddition_agrees
    (succeeded : ∀ owner ∈ addition.members, addition.renew owner = some (results owner))
    (everyBundle : ∀ info ∈ addition.addingMemberInfoList, ∀ bundle,
      bundle ∈ arrivals info.memberAddress ↔
        ∃ sender ∈ addition.members, bundle = (results sender).2) :
    (∀ sender ∈ addition.addresses, ∀ receiver ∈ addition.addresses, sender ≠ receiver →
      ∃ inbound outbound,
        (addition.finish results arrivals receiver).lookup (addition.key sender receiver) =
          some inbound ∧
        (addition.finish results arrivals sender).lookup (addition.key sender sender) =
          some outbound ∧
        inbound.chainKey = outbound.chainKey ∧ inbound.sequence = 0 ∧ outbound.sequence = 0) ∧
    ∀ (device : Device β) (outbound : GroupSession β) (senderChainKey : Option (Bytes β))
      (senderAddress newDeviceAddress : E2eeAddress) (info : GroupMemberInfo β)
      (addingGroupMembers : List GroupMember), outbound.sender = outbound.sessionOwner →
      isValidAddress newDeviceAddress = true → addingGroupMembers.all isValidGroupMember = true →
      Option.Rel (fun viaDevice viaList => viaDevice.1.SameChains viaList.1 ∧
          viaList.2 = { viaDevice.2 with groupInfo := viaList.2.groupInfo })
        (renewGroupSessionsWithNewDevice getE2eesPack device outbound senderChainKey senderAddress
          newDeviceAddress info)
        (renewOutboundGroupSessionByWelcomeAndAdd getE2eesPack device outbound senderChainKey
          senderAddress [info] addingGroupMembers) := by
  refine ⟨?_, ?_⟩
  · intro sender senderListed receiver receiverListed different
    obtain ⟨senderNext, nextKey⟩ := GroupAddition.exists_next senderListed
    obtain ⟨inbound, inboundFound, inboundKey, inboundUnused⟩ :=
      GroupAddition.finish_inbound succeeded everyBundle nextKey senderListed receiverListed
        different
    obtain ⟨outbound, outboundFound, outboundKey, outboundUnused⟩ :=
      GroupAddition.finish_outbound succeeded everyBundle nextKey senderListed
    exact ⟨inbound, outbound, inboundFound, outboundFound, inboundKey.trans outboundKey.symm,
      inboundUnused, outboundUnused⟩
  · intro device outbound senderChainKey senderAddress newDeviceAddress info addingGroupMembers
      own valid membersValid
    exact renewWithNewDevice_sameChains getE2eesPack device outbound own senderChainKey
      senderAddress valid info membersValid

end Agreement

namespace Symbolic

/-- The chain of Alice has moved on by three messages, and the chain of Bob by none. -/
def runningSession (sender owner : E2eeAddress) : GroupSession FreeTerm where
  version := e2eesProtocolVersion
  e2eesPackId := 0
  sessionId := "session"
  sender := sender
  sessionOwner := owner
  groupInfo := ⟨"group", groupAddress, [⟨"alice", "domain", .manager⟩, ⟨"bob", "domain", .member⟩]⟩
  sequence := if sender = aliceAddress then 3 else 0
  groupSeed := []
  chainKey := [.byte (if sender = aliceAddress then 90 else 91)]
  associatedData := symbolicSuite.groupAssociatedData
    (accountOf sender).identityKey.signKeyPair.publicKey

def runningDevice (owner : E2eeAddress) : Device FreeTerm where
  store := store owner (accountOf owner) none
  groups := if owner = carolAddress then KeyedTable.empty else
    (GroupStore.storeGroupSession KeyedTable.empty (runningSession aliceAddress owner))
      |>.storeGroupSession (runningSession bobAddress owner)

/-- Alice adds Carol to the group of Alice and Bob. -/
def groupAddition : GroupAddition fun _ => some symbolicSuite where
  cipherSuite := symbolicSuite
  e2eesPackId := 0
  sessionId := "session"
  groupAddress := groupAddress
  members := [aliceAddress, bobAddress]
  adder := aliceAddress
  addingMemberInfoList := [memberInfo carolAddress]
  addingGroupMembers := [⟨"carol", "domain", .member⟩]
  devices := runningDevice
  outbound owner := runningSession owner owner
  inbound := runningSession
  signPublicKey address := (accountOf address).identityKey.signKeyPair.publicKey
  pack := symbolicPack
  named := by decide
  adderMember := by simp
  outboundStored := by decide
  outboundPack := fun _ _ => rfl
  inboundStored := by decide
  inboundPack := fun _ _ _ _ _ => rfl
  inboundValid := by decide
  sameChain := fun _ _ _ _ _ => ⟨rfl, rfl⟩
  distinct := by decide
  newAddress := by decide
  ownKey := by decide
  keyLength := by decide

def additionResults (owner : E2eeAddress) : GroupStore FreeTerm × GroupUpdateKeyBundle FreeTerm :=
  (groupAddition.renew owner).getD (KeyedTable.empty, groupAddition.bundle owner)

theorem groupAddition_succeeds (owner : E2eeAddress) (member : owner ∈ groupAddition.members) :
    groupAddition.renew owner = some (additionResults owner) := by
  have present : ∀ owner ∈ groupAddition.members, (groupAddition.renew owner).isSome = true := by
    decide
  obtain ⟨result, renewed⟩ := Option.isSome_iff_exists.mp (present owner member)
  rw [additionResults, renewed, Option.getD_some]

/-- The bundle of Bob arrives before the bundle of Alice. -/
def additionArrivals (_ : E2eeAddress) : List (GroupUpdateKeyBundle FreeTerm) :=
  [(additionResults bobAddress).2, (additionResults aliceAddress).2]

end Symbolic

/-- Bob and Carol agree on the chain of Carol after Alice has added her. -/
theorem addition_agrees :
    ∃ inbound outbound,
      (Symbolic.groupAddition.finish Symbolic.additionResults Symbolic.additionArrivals
        Symbolic.bobAddress).lookup
          (Symbolic.groupAddition.key Symbolic.carolAddress Symbolic.bobAddress) = some inbound ∧
      (Symbolic.groupAddition.finish Symbolic.additionResults Symbolic.additionArrivals
        Symbolic.carolAddress).lookup
          (Symbolic.groupAddition.key Symbolic.carolAddress Symbolic.carolAddress) =
            some outbound ∧
      inbound.chainKey = outbound.chainKey := by
  have everyBundle : ∀ info ∈ Symbolic.groupAddition.addingMemberInfoList, ∀ bundle,
      bundle ∈ Symbolic.additionArrivals info.memberAddress ↔
        ∃ sender ∈ Symbolic.groupAddition.members,
          bundle = (Symbolic.additionResults sender).2 := by
    intro info _ bundle
    simp [Symbolic.additionArrivals, Symbolic.groupAddition, or_comm]
  obtain ⟨inbound, outbound, inboundFound, outboundFound, sameKey, -⟩ :=
    (groupAddition_agrees Symbolic.groupAddition_succeeds everyBundle).1 Symbolic.carolAddress
      (by decide) Symbolic.bobAddress (by decide) (by decide)
  exact ⟨inbound, outbound, inboundFound, outboundFound, sameKey⟩

end E2eeSecurity
