/-
This file compares the orders in which a new device can handle the message that adds it and the
bundles of the old devices.
-/
import E2eeSecurity.Group.Renewal

namespace E2eeSecurity

variable {β : Type} {getE2eesPack : Packs β}

namespace GroupAddition

variable (addition : GroupAddition getE2eesPack)

/-- The server passes the request of the adder on as one of these messages.
The message for a device names one device and no new members. -/
inductive Announces : GroupAddMsg β → Prop
  | members : Announces (.members (produceAddGroupMembersRequest
      (addition.outbound addition.adder) addition.adder addition.addingGroupMembers
      addition.addingMemberInfoList))
  | device {info : GroupMemberInfo β} : addition.addingMemberInfoList = [info] →
      addition.addingGroupMembers = [] →
      Announces (.device (produceAddGroupMemberDeviceRequest
        (addition.outbound addition.adder) addition.adder info))

/-- An old device makes its bundle in the call for this message. -/
def renewFor (msg : GroupAddMsg β) (owner : E2eeAddress) :
    Option (GroupStore β × GroupUpdateKeyBundle β) :=
  match msg with
  | .members _ => addition.renew owner
  | .device msg => renewGroupSessionsWithNewDevice getE2eesPack (addition.devices owner)
      (addition.outbound owner) (addition.senderChainKey owner) addition.adder
      msg.addingMemberDevice.memberAddress msg.addingMemberDevice

/-- A new device handles some bundles, then the message, and then the other bundles. -/
def joinWith (msg : GroupAddMsg β) (before after : List (GroupUpdateKeyBundle β))
    (owner : E2eeAddress) : GroupStore β :=
  after.foldl (fun groups bundle => consumeGroupUpdateKeyBundle getE2eesPack
    ⟨(addition.devices owner).store, groups⟩ owner bundle)
    (msg.consume getE2eesPack
      ⟨(addition.devices owner).store, addition.join before owner⟩ owner).1

/-- The device has no session of the group, and no session with its identifier. -/
def NewTo (owner : E2eeAddress) : Prop :=
  ∀ session ∈ (addition.devices owner).groups.entries, session.sessionOwner = owner →
    session.groupInfo.groupAddress ≠ addition.groupAddress ∧
      session.sessionId ≠ addition.sessionId

variable {addition} {msg : GroupAddMsg β}

/-- Both messages lead the old devices to the same sessions and bundles. -/
theorem renew_of_renewFor (announces : addition.Announces msg) {owner : E2eeAddress}
    (member : owner ∈ addition.members) {result : GroupStore β × GroupUpdateKeyBundle β}
    (made : addition.renewFor msg owner = some result) : addition.renew owner = some result := by
  cases announces with
  | members => exact made
  | device single noMembers =>
      have key := outbound_key member
      have own : (addition.outbound owner).sender = (addition.outbound owner).sessionOwner :=
        (congrArg GroupKey.sender key).trans (congrArg GroupKey.sessionOwner key).symm
      obtain ⟨renewal, device, outbound, chainKey, sender, infos, members, rfl⟩ :=
        renewWithNewDevice_cases own made
      have call := renewal.call_eq
      rw [device, outbound, chainKey, sender, infos, members] at call
      rw [renew, single, noMembers]
      exact call

section Bundles

variable {info : GroupMemberInfo β} {theirs : Bytes β}

/-- A bundle only leaves sessions of the group under the keys of the schedule. -/
theorem mem_consume_bundle (checked : addition.Checked)
    (assigned : (info, theirs) ∈ addition.welcomed) {sender : E2eeAddress}
    (member : sender ∈ addition.members) {groups : GroupStore β} {session : GroupSession β}
    (present : session ∈ (consumeGroupUpdateKeyBundle getE2eesPack
      ⟨(addition.devices info.memberAddress).store, groups⟩ info.memberAddress
      (addition.bundle sender)).entries) :
    session ∈ groups.entries ∨ (∃ writer ∈ addition.addresses,
      session.key = addition.key writer info.memberAddress) := by
  have new := welcomed_new assigned
  by_cases isAdder : sender = addition.adder
  · subst isAdder
    obtain old | ⟨writer, listed, key⟩ := (invites checked assigned).mem_consume present
    · exact .inl old
    · refine .inr ⟨writer, ?_, key.trans (bundle_key addition.adderMember _ _)⟩
      obtain rfl | new := List.mem_cons.mp listed
      · rw [bundle_sender addition.adderMember]
        exact List.mem_append_left _ addition.adderMember
      · exact List.mem_append_right _ new
  · rw [consume_member checked member isAdder (info_valid checked new)] at present
    obtain ⟨old, -⟩ | rfl := KeyedTable.mem_insert.mp present
    · exact .inl old
    · exact .inr ⟨sender, List.mem_append_left _ member, stated_key member _ _⟩

/-- A bundle leaves the sessions of other owners and other groups alone. -/
theorem consume_bundle_elsewhere (checked : addition.Checked)
    (assigned : (info, theirs) ∈ addition.welcomed) {sender : E2eeAddress}
    (member : sender ∈ addition.members) {wanted : GroupKey}
    (elsewhere : ¬(wanted.sessionOwner = info.memberAddress ∧
      wanted.groupAddress = addition.groupAddress)) (groups : GroupStore β) :
    (consumeGroupUpdateKeyBundle getE2eesPack
      ⟨(addition.devices info.memberAddress).store, groups⟩ info.memberAddress
      (addition.bundle sender)).lookup wanted = groups.lookup wanted := by
  have new := welcomed_new assigned
  have uncovered : ∀ (session : GroupSession β) (writer : E2eeAddress),
      session.key = addition.key writer info.memberAddress →
      groupSupersession.covers session.key wanted = false := by
    intro session writer key
    rw [key]
    simp only [groupSupersession, GroupAddition.key, decide_eq_false_iff_not]
    exact fun covered => elsewhere ⟨covered.2.1, covered.2.2.1⟩
  by_cases isAdder : sender = addition.adder
  · subst isAdder
    rw [(invites checked assigned).consume_eq, GroupStore.lookup_storeGroupSession_other,
      GroupStore.lookup_storeGroupSession_other, GroupStore.lookup_loop_other]
    · rintro ⟨other, otherKey⟩ otherAssigned stored - made
      rw [(invites checked assigned).newAndComplete_fellow otherAssigned,
        Option.some.injEq] at made
      subst made
      exact uncovered _ other.memberAddress (congrArg
        (fun key => { key with sender := other.memberAddress }) (joined_key info.memberAddress))
    · exact uncovered _ info.memberAddress (joined_key info.memberAddress)
    · exact uncovered _ addition.adder (stated_key addition.adderMember _ _)
  · rw [consume_member checked member isAdder (info_valid checked new)]
    apply GroupStore.lookup_storeGroupSession_other
    exact uncovered _ sender (stated_key member _ _)

section Arrived

variable {arrivals : List (GroupUpdateKeyBundle β)}
  (known : ∀ bundle ∈ arrivals, ∃ sender ∈ addition.members, bundle = addition.bundle sender)

include known

theorem mem_join (checked : addition.Checked) (assigned : (info, theirs) ∈ addition.welcomed)
    {session : GroupSession β}
    (present : session ∈ (addition.join arrivals info.memberAddress).entries) :
    session ∈ (addition.devices info.memberAddress).groups.entries ∨
      ∃ writer ∈ addition.addresses, session.key = addition.key writer info.memberAddress := by
  induction arrivals using List.reverseRecOn with
  | nil => exact .inl present
  | append_singleton earlier last ih =>
      rw [join, List.foldl_append, List.foldl_cons, List.foldl_nil] at present
      obtain ⟨sender, member, rfl⟩ := known last (by simp)
      obtain old | written := mem_consume_bundle checked assigned member present
      · exact ih (fun bundle arrived => known bundle (List.mem_append_left _ arrived)) old
      · exact .inr written

/-- Without the bundle of the adder a new device has no chain of its own. -/
theorem join_unanswered (checked : addition.Checked) (new : info ∈ addition.addingMemberInfoList)
    (missing : addition.bundle addition.adder ∉ arrivals) {session : GroupSession β}
    (present : session ∈ (addition.join arrivals info.memberAddress).entries) :
    session ∈ (addition.devices info.memberAddress).groups.entries ∨
      session.sender ∈ addition.members := by
  induction arrivals using List.reverseRecOn with
  | nil => exact .inl present
  | append_singleton earlier last ih =>
      rw [join, List.foldl_append, List.foldl_cons, List.foldl_nil] at present
      obtain ⟨sender, member, rfl⟩ := known last (by simp)
      have notAdder : sender ≠ addition.adder := by
        rintro rfl
        simp at missing
      rw [consume_member checked member notAdder (info_valid checked new)] at present
      obtain ⟨old, -⟩ | rfl := KeyedTable.mem_insert.mp present
      · refine ih (fun bundle arrived => known bundle (List.mem_append_left _ arrived)) ?_ old
        exact fun arrived => missing (List.mem_append_left _ arrived)
      · right
        rw [stated_sender member]
        exact member

/-- Under every other key the bundles leave what was there. -/
theorem join_unscheduled (checked : addition.Checked) (newTo : addition.NewTo info.memberAddress)
    (assigned : (info, theirs) ∈ addition.welcomed) {wanted : GroupKey}
    (unscheduled : ∀ writer ∈ addition.addresses,
      wanted ≠ addition.key writer info.memberAddress) :
    (addition.join arrivals info.memberAddress).lookup wanted =
      (addition.devices info.memberAddress).groups.lookup wanted := by
  by_cases here : wanted.sessionOwner = info.memberAddress ∧
      wanted.groupAddress = addition.groupAddress
  · have missing : ∀ groups : GroupStore β, (∀ session ∈ groups.entries,
        session ∈ (addition.devices info.memberAddress).groups.entries ∨
          ∃ writer ∈ addition.addresses,
            session.key = addition.key writer info.memberAddress) →
        groups.lookup wanted = none := by
      intro groups origin
      rw [Option.eq_none_iff_forall_ne_some]
      intro session found
      have key := KeyedTable.lookup_key found
      obtain old | ⟨writer, listed, written⟩ := origin session (KeyedTable.lookup_mem found)
      · refine (newTo session old ?_).1 ?_
        · rw [← here.1, ← key]
          rfl
        · rw [← here.2, ← key]
          rfl
      · exact unscheduled writer listed (key.symm.trans written)
    rw [missing _ fun session present => mem_join known checked assigned present,
      missing _ fun session present => .inl present]
  · refine KeyedTable.lookup_foldl_other ?_ _
    intro bundle arrived groups
    obtain ⟨sender, member, rfl⟩ := known bundle arrived
    exact consume_bundle_elsewhere checked assigned member here groups

end Arrived

/-- The stored chains of a new device do not depend on the order of the bundles. -/
theorem join_sameChains (checked : addition.Checked) (newTo : addition.NewTo info.memberAddress)
    (assigned : (info, theirs) ∈ addition.welcomed)
    {arrivals others : List (GroupUpdateKeyBundle β)}
    (everyBundle : ∀ bundle, bundle ∈ arrivals ↔
      ∃ sender ∈ addition.members, bundle = addition.bundle sender)
    (everyOther : ∀ bundle, bundle ∈ others ↔
      ∃ sender ∈ addition.members, bundle = addition.bundle sender) :
    (addition.join arrivals info.memberAddress).SameChains
      (addition.join others info.memberAddress) := by
  intro wanted
  have sameChain : ∀ {chainKey : Bytes β},
      (addition.join arrivals info.memberAddress).Holds wanted chainKey →
      (addition.join others info.memberAddress).Holds wanted chainKey →
      Option.Rel GroupSession.SameChain
        ((addition.join arrivals info.memberAddress).lookup wanted)
        ((addition.join others info.memberAddress).lookup wanted) := by
    rintro chainKey ⟨first, found, firstKey, firstUnused⟩ ⟨second, otherFound, secondKey, unused⟩
    rw [found, otherFound]
    exact .some ⟨(KeyedTable.lookup_key found).trans (KeyedTable.lookup_key otherFound).symm,
      firstKey.trans secondKey.symm, firstUnused.trans unused.symm⟩
  by_cases scheduled : ∃ writer ∈ addition.addresses,
      wanted = addition.key writer info.memberAddress
  · obtain ⟨writer, listed, rfl⟩ := scheduled
    by_cases own : writer = info.memberAddress
    · subst own
      exact sameChain (join_holds_outbound everyBundle checked assigned)
        (join_holds_outbound everyOther checked assigned)
    · obtain ⟨writerNext, nextKey⟩ := exists_next listed
      exact sameChain (join_holds_inbound everyBundle checked assigned nextKey own)
        (join_holds_inbound everyOther checked assigned nextKey own)
  · have unscheduled : ∀ writer ∈ addition.addresses,
        wanted ≠ addition.key writer info.memberAddress :=
      fun writer listed same => scheduled ⟨writer, listed, same⟩
    rw [join_unscheduled (fun bundle => (everyBundle bundle).mp) checked newTo assigned unscheduled,
      join_unscheduled (fun bundle => (everyOther bundle).mp) checked newTo assigned unscheduled]
    cases (addition.devices info.memberAddress).groups.lookup wanted with
    | none => exact .none
    | some session => exact .some (.refl session)

end Bundles

section Message

theorem Announces.groupAddress (announces : addition.Announces msg) :
    msg.groupInfo.groupAddress = addition.groupAddress := by
  cases announces with
  | members => exact outbound_group addition.adderMember
  | device => exact outbound_group addition.adderMember

theorem Announces.senderAddress (announces : addition.Announces msg) :
    msg.senderAddress = addition.adder := by
  cases announces with
  | members => rfl
  | device => rfl

theorem Announces.infos (announces : addition.Announces msg) :
    msg.infos = addition.addingMemberInfoList := by
  cases announces with
  | members => rfl
  | device single => exact single.symm

theorem Announces.newMembers_valid (announces : addition.Announces msg)
    (checked : addition.Checked) : msg.newMembers.all isValidGroupMember = true := by
  cases announces with
  | members => exact checked.groupMembers
  | device => rfl

variable (addition) in
theorem adder_sender : (addition.outbound addition.adder).sender = addition.adder :=
  congrArg GroupKey.sender (outbound_key addition.adderMember)

theorem adder_valid (checked : addition.Checked) : isValidAddress addition.adder = true := by
  have head := checked.head addition.adderMember
  simp only [isValidGroupSessionHead, Bool.and_eq_true] at head
  rw [← addition.adder_sender]
  exact head.1.1.2

theorem Announces.valid (announces : addition.Announces msg) (checked : addition.Checked) :
    msg.isValid getE2eesPack = true := by
  have head := checked.head addition.adderMember
  have outbound := checked.outbound addition.adder addition.adderMember
  simp only [isValidGroupSession, isValidGroupSessionHead, Bool.and_eq_true, adder_sender]
    at outbound
  simp only [isValidGroupSessionHead, Bool.and_eq_true] at head
  have groupInfo : isValidGroupInfo (addGroupMembersToGroupInfo
      (addition.outbound addition.adder).groupInfo addition.addingGroupMembers) = true := head.2
  cases announces with
  | members =>
      simp only [GroupAddMsg.isValid, isValidAddGroupMembersMsg, produceAddGroupMembersRequest,
        outbound, groupInfo, checked.groupMembers, List.all_eq_true.mpr checked.infos,
        Bool.and_self]
  | @device info single =>
      have infoValid := checked.infos info (by simp [single])
      simp only [GroupAddMsg.isValid, isValidAddGroupMemberDeviceMsg,
        produceAddGroupMemberDeviceRequest, outbound, infoValid, Bool.and_self]

variable {info : GroupMemberInfo β} {theirs : Bytes β}
  {before after : List (GroupUpdateKeyBundle β)}

/-- A device without authorisation ignores the message. -/
theorem consume_unauthorised {device : Device β} {address : E2eeAddress}
    (unauthorised : loadSenderSignPublicKey device.store address = none) :
    (msg.consume getE2eesPack device address).1 = device.groups := by
  obtain ignored | ⟨renewal, renews, -⟩ := msg.consume_cases getE2eesPack device address
  · rw [ignored]
  · have authorised := renewal.authorised
    rw [renews.onDevice, (loadOutboundGroupSession_some renews.outbound).2.2.1,
      unauthorised] at authorised
    cases authorised

/-- A device that has not yet heard from the adder ignores the message. -/
theorem consume_unanswered (announces : addition.Announces msg) (checked : addition.Checked)
    (newTo : addition.NewTo info.memberAddress) (new : info ∈ addition.addingMemberInfoList)
    (known : ∀ bundle ∈ before, ∃ sender ∈ addition.members, bundle = addition.bundle sender)
    (missing : addition.bundle addition.adder ∉ before) :
    (msg.consume getE2eesPack ⟨(addition.devices info.memberAddress).store,
      addition.join before info.memberAddress⟩ info.memberAddress).1 =
    addition.join before info.memberAddress := by
  obtain ignored | ⟨renewal, renews, -⟩ := msg.consume_cases getE2eesPack
    ⟨(addition.devices info.memberAddress).store, addition.join before info.memberAddress⟩
    info.memberAddress
  · rw [ignored]
  · obtain ⟨present, sender, owner, group, -⟩ := loadOutboundGroupSession_some renews.outbound
    rw [announces.groupAddress] at group
    obtain old | member := join_unanswered known checked new missing present
    · exact absurd group (newTo _ old owner).1
    · rw [sender] at member
      exact absurd member (addition.newAddress info new)

/-- The bundles alone decide when the message is ignored. -/
theorem joinWith_ignored {owner : E2eeAddress}
    (ignored : (msg.consume getE2eesPack ⟨(addition.devices owner).store,
      addition.join before owner⟩ owner).1 = addition.join before owner) :
    addition.joinWith msg before after owner = addition.join (before ++ after) owner := by
  rw [joinWith, ignored, join, join, List.foldl_append]

theorem stated_valid (checked : addition.Checked) {owner : E2eeAddress}
    (ownerValid : isValidAddress owner = true) :
    isValidGroupSession getE2eesPack
      (addition.stated addition.adder owner addition.walked.2) = true := by
  have outbound := checked.outbound addition.adder addition.adderMember
  simp only [isValidGroupSession, Bool.and_eq_true] at outbound
  exact GroupUpdateKeyBundle.stated_valid (checked.bundle addition.adderMember) ownerValid
    (welcomeAndAdd_valid _ _ outbound.1.2)

theorem joined_valid (checked : addition.Checked) (assigned : (info, theirs) ∈ addition.welcomed) :
    isValidGroupSession getE2eesPack
      { addition.joined info.memberAddress with chainKey := theirs } = true := by
  have full : addition.cipherSuite.FullKey theirs :=
    welcomeAndAdd_welcome_full _ _ (List.of_mem_zip assigned).2
  exact (invites checked assigned).joined_valid full.valid

variable (before) in
/-- This is what the message does when the bundle of the adder has already come. -/
def late (announces : addition.Announces msg) (checked : addition.Checked)
    (assigned : (info, theirs) ∈ addition.welcomed) {signPublicKey : Bytes β}
    (authorised : loadSenderSignPublicKey (addition.devices info.memberAddress).store
      info.memberAddress = some signPublicKey) : GroupRenewal getE2eesPack where
  cipherSuite := addition.cipherSuite
  device := ⟨(addition.devices info.memberAddress).store, addition.join before info.memberAddress⟩
  outbound := { addition.joined info.memberAddress with chainKey := theirs }
  senderChainKey := some ((addition.stated addition.adder info.memberAddress
    addition.walked.2).catchUp addition.cipherSuite msg.sequence).chainKey
  senderAddress := addition.adder
  infos := addition.addingMemberInfoList
  newMembers := msg.newMembers
  signPublicKey := signPublicKey
  pack := bundle_pack addition.adderMember
  authorised := authorised
  valid := joined_valid checked assigned
  own := rfl
  senderValid := adder_valid checked
  nonempty := List.ne_nil_of_mem (welcomed_new assigned)
  infosValid := List.all_eq_true.mpr checked.infos
  membersValid := announces.newMembers_valid checked

/-- The chain of the adder that it leaves was never the one of the schedule. -/
theorem late_ne (free : addition.cipherSuite.FreeGroupKeys)
    (full : addition.cipherSuite.FullKey (addition.outbound addition.adder).chainKey)
    (announces : addition.Announces msg) (checked : addition.Checked)
    (assigned : (info, theirs) ∈ addition.welcomed) {signPublicKey : Bytes β}
    (authorised : loadSenderSignPublicKey (addition.devices info.memberAddress).store
      info.memberAddress = some signPublicKey) :
    ((late before announces checked assigned authorised).renewed
      (addition.stated addition.adder info.memberAddress addition.walked.2)
      addition.cipherSuite).chainKey ≠ addition.walked.2 := by
  have walkedFull : addition.cipherSuite.FullKey addition.walked.2 := welcomeAndAdd_full _ full
  have caughtUp : ((addition.stated addition.adder info.memberAddress
      addition.walked.2).catchUp addition.cipherSuite msg.sequence).chainKey =
        addition.cipherSuite.advance^[msg.sequence.toNat] addition.walked.2 := by
    rw [GroupSession.catchUp_eq]
    exact advanceGroupChainKey_iterate_full walkedFull _
  have sender := stated_sender addition.adderMember info.memberAddress addition.walked.2
  rw [GroupRenewal.renewed_sender _ sender.symm rfl, caughtUp]
  exact walked_ne free (List.ne_nil_of_mem (welcomed_new assigned)) walkedFull _

section Told

variable
  (known : ∀ bundle ∈ before, ∃ sender ∈ addition.members, bundle = addition.bundle sender)
  (arrived : addition.bundle addition.adder ∈ before)

include known arrived

/-- After the bundle of the adder, the new device loads its own chain like an old one. -/
theorem join_loadOutbound (checked : addition.Checked) (newTo : addition.NewTo info.memberAddress)
    (assigned : (info, theirs) ∈ addition.welcomed) :
    loadOutboundGroupSession getE2eesPack (addition.join before info.memberAddress)
      info.memberAddress addition.groupAddress =
    some { addition.joined info.memberAddress with chainKey := theirs } := by
  refine Option.filter_eq_some_iff.mpr ⟨?_, joined_valid checked assigned⟩
  refine GroupStore.loadGroupSessionByAddress_of_lookup _
    (join_own known arrived checked assigned) ?_
  intro other present _ owner group
  obtain old | ⟨writer, -, key⟩ := mem_join known checked assigned present
  · exact absurd group (newTo other old owner).1
  · exact congrArg GroupKey.sessionId key

/-- It loads the chain of the adder as well. -/
theorem join_loadInbound (checked : addition.Checked) (newTo : addition.NewTo info.memberAddress)
    (assigned : (info, theirs) ∈ addition.welcomed) :
    loadInboundGroupSession getE2eesPack (addition.join before info.memberAddress) addition.adder
      info.memberAddress addition.sessionId =
    some (addition.stated addition.adder info.memberAddress addition.walked.2) := by
  refine Option.filter_eq_some_iff.mpr
    ⟨?_, stated_valid checked (info_valid checked (welcomed_new assigned))⟩
  refine GroupStore.loadGroupSessionById_of_lookup _
    (join_adder known arrived checked assigned) ?_
  intro other present _ owner sessionId
  obtain old | ⟨writer, -, key⟩ := mem_join known checked assigned present
  · exact absurd sessionId (newTo other old owner).2
  · exact congrArg GroupKey.groupAddress key

theorem late_renews (announces : addition.Announces msg) (checked : addition.Checked)
    (newTo : addition.NewTo info.memberAddress) (assigned : (info, theirs) ∈ addition.welcomed)
    {signPublicKey : Bytes β}
    (authorised : loadSenderSignPublicKey (addition.devices info.memberAddress).store
      info.memberAddress = some signPublicKey) :
    msg.Renews ⟨(addition.devices info.memberAddress).store,
      addition.join before info.memberAddress⟩ info.memberAddress
      (late before announces checked assigned authorised) := by
  have joinedId : (addition.joined info.memberAddress).sessionId = addition.sessionId :=
    congrArg GroupKey.sessionId (joined_key info.memberAddress)
  refine ⟨info_valid checked (welcomed_new assigned), announces.valid checked, rfl, ?_,
    ⟨addition.stated addition.adder info.memberAddress addition.walked.2, addition.cipherSuite,
      ?_, bundle_pack addition.adderMember, rfl⟩,
    announces.senderAddress.symm, announces.infos.symm, rfl⟩
  · rw [announces.groupAddress]
    exact join_loadOutbound known arrived checked newTo assigned
  · rw [announces.senderAddress]
    exact joinedId ▸ join_loadInbound known arrived checked newTo assigned

/-- A message that comes too late moves the chain of the adder on. -/
theorem consume_late (announces : addition.Announces msg) (checked : addition.Checked)
    (newTo : addition.NewTo info.memberAddress) (assigned : (info, theirs) ∈ addition.welcomed)
    {signPublicKey : Bytes β}
    (authorised : loadSenderSignPublicKey (addition.devices info.memberAddress).store
      info.memberAddress = some signPublicKey) :
    (msg.consume getE2eesPack ⟨(addition.devices info.memberAddress).store,
        addition.join before info.memberAddress⟩ info.memberAddress).1.lookup
          (addition.key addition.adder info.memberAddress) =
      some ((late before announces checked assigned authorised).renewed
        (addition.stated addition.adder info.memberAddress addition.walked.2)
        addition.cipherSuite) := by
  have new := welcomed_new assigned
  have ownerValid := info_valid checked new
  have sender := stated_sender addition.adderMember info.memberAddress addition.walked.2
  rw [GroupAddMsg.consume_eq
    (late_renews known arrived announces checked newTo assigned authorised),
    ← stated_key addition.adderMember info.memberAddress addition.walked.2]
  refine GroupRenewal.finish_inbound _ ?_ rfl rfl ?_ (stated_valid checked ownerValid)
    (bundle_pack addition.adderMember) ?_
  · exact KeyedTable.lookup_mem (join_adder known arrived checked assigned)
  · rw [sender]
    exact adder_sender_ne new
  · intro other otherNew
    rw [sender]
    exact (adder_sender_ne otherNew).symm

end Told

end Message

section Orders

variable {info : GroupMemberInfo β} {before after : List (GroupUpdateKeyBundle β)}

/-- The bundles of different old devices are different. -/
theorem bundle_nodup (distinct : addition.members.Nodup) :
    (addition.members.map addition.bundle).Nodup := by
  refine distinct.map_on ?_
  intro first firstMember second secondMember same
  have firstSender : (addition.bundle first).sender = first :=
    congrArg GroupKey.sender (outbound_key firstMember)
  have secondSender : (addition.bundle second).sender = second :=
    congrArg GroupKey.sender (outbound_key secondMember)
  rw [← firstSender, same, secondSender]

theorem mem_of_every (every : (before ++ after).Perm (addition.members.map addition.bundle))
    (bundle : GroupUpdateKeyBundle β) :
    bundle ∈ before ++ after ↔ ∃ sender ∈ addition.members, bundle = addition.bundle sender := by
  rw [every.mem_iff, List.mem_map]
  exact exists_congr fun sender => and_congr_right fun _ => eq_comm

/-- The message is ignored when the adder has not been heard yet. -/
theorem joinWith_unanswered (announces : addition.Announces msg) (checked : addition.Checked)
    (distinct : addition.members.Nodup) (newTo : addition.NewTo info.memberAddress)
    (new : info ∈ addition.addingMemberInfoList)
    (every : (before ++ after).Perm (addition.members.map addition.bundle))
    (later : addition.bundle addition.adder ∈ after) :
    addition.joinWith msg before after info.memberAddress =
      addition.join (before ++ after) info.memberAddress := by
  have nodup := every.nodup_iff.mpr (bundle_nodup distinct)
  apply joinWith_ignored
  refine consume_unanswered announces checked newTo new ?_ ?_
  · exact fun bundle earlier => (mem_of_every every bundle).mp (List.mem_append_left _ earlier)
  · exact fun earlier => (List.nodup_append.mp nodup).2.2 _ earlier _ later rfl

/-- The bundles after a late message do not repair the chain of the adder. -/
theorem joinWith_late (announces : addition.Announces msg) (checked : addition.Checked)
    (newTo : addition.NewTo info.memberAddress) {theirs : Bytes β}
    (assigned : (info, theirs) ∈ addition.welcomed)
    (every : (before ++ after).Perm (addition.members.map addition.bundle))
    (earlier : addition.bundle addition.adder ∈ before)
    (gone : addition.bundle addition.adder ∉ after) {signPublicKey : Bytes β}
    (authorised : loadSenderSignPublicKey (addition.devices info.memberAddress).store
      info.memberAddress = some signPublicKey) :
    (addition.joinWith msg before after info.memberAddress).lookup
      (addition.key addition.adder info.memberAddress) =
    some ((late before announces checked assigned authorised).renewed
      (addition.stated addition.adder info.memberAddress addition.walked.2)
      addition.cipherSuite) := by
  have known : ∀ bundle ∈ before ++ after,
      ∃ sender ∈ addition.members, bundle = addition.bundle sender :=
    fun bundle => (mem_of_every every bundle).mp
  have valid := info_valid checked (welcomed_new assigned)
  refine (KeyedTable.lookup_foldl_other ?_ _).trans (consume_late
    (fun bundle present => known bundle (List.mem_append_left _ present)) earlier announces
    checked newTo assigned authorised)
  intro bundle present groups
  obtain ⟨sender, member, rfl⟩ := known bundle (List.mem_append_right _ present)
  have notAdder : sender ≠ addition.adder := by
    rintro rfl
    exact gone present
  rw [consume_member checked member notAdder valid]
  apply GroupStore.lookup_storeGroupSession_other
  rw [stated_key member]
  exact GroupKey.uncovered_of_sender notAdder

end Orders

end GroupAddition

variable {addition : GroupAddition getE2eesPack} {msg : GroupAddMsg β}
  {results : E2eeAddress → GroupStore β × GroupUpdateKeyBundle β} {info : GroupMemberInfo β}
  {before after otherBefore otherAfter : List (GroupUpdateKeyBundle β)}

/-- An order in which the bundle of the adder comes after the message is taken for comparison.
Every other order leads to the same chains exactly when the message comes before that bundle too, or
when the new device may not send and so ignores the message. -/
theorem groupJoin_order (announces : addition.Announces msg)
    (free : addition.cipherSuite.FreeGroupKeys)
    (full : addition.cipherSuite.FullKey (addition.outbound addition.adder).chainKey)
    (distinct : addition.members.Nodup)
    (succeeded : ∀ owner ∈ addition.members, addition.renewFor msg owner = some (results owner))
    (new : info ∈ addition.addingMemberInfoList) (newTo : addition.NewTo info.memberAddress)
    (every : (before ++ after).Perm (addition.members.map fun sender => (results sender).2))
    (otherEvery : (otherBefore ++ otherAfter).Perm
      (addition.members.map fun sender => (results sender).2))
    (told : (results addition.adder).2 ∈ otherAfter) :
    (addition.joinWith msg before after info.memberAddress).SameChains
      (addition.joinWith msg otherBefore otherAfter info.memberAddress) ↔
    (results addition.adder).2 ∈ after ∨
      loadSenderSignPublicKey (addition.devices info.memberAddress).store
        info.memberAddress = none := by
  have renewed : ∀ owner ∈ addition.members, addition.renew owner = some (results owner) :=
    fun owner member => GroupAddition.renew_of_renewFor announces member (succeeded owner member)
  have checked := GroupAddition.checked_of_renew renewed
  have bundles : (addition.members.map fun sender => (results sender).2) =
      addition.members.map addition.bundle :=
    List.map_congr_left fun sender member =>
      (GroupAddition.renewed member (renewed sender member)).2.1
  have adderBundle : (results addition.adder).2 = addition.bundle addition.adder :=
    (GroupAddition.renewed addition.adderMember (renewed _ addition.adderMember)).2.1
  rw [bundles] at every otherEvery
  rw [adderBundle] at told ⊢
  obtain ⟨theirs, assigned⟩ := GroupAddition.exists_welcomed new
  have sameBundles := GroupAddition.join_sameChains checked newTo assigned
    (GroupAddition.mem_of_every every) (GroupAddition.mem_of_every otherEvery)
  rw [GroupAddition.joinWith_unanswered announces checked distinct newTo new otherEvery told]
  constructor
  · intro same
    by_contra neither
    rw [not_or] at neither
    obtain ⟨gone, notNone⟩ := neither
    obtain ⟨signPublicKey, authorised⟩ := Option.ne_none_iff_exists'.mp notNone
    have earlier : addition.bundle addition.adder ∈ before := by
      have arrived := (GroupAddition.mem_of_every every _).mpr
        ⟨addition.adder, addition.adderMember, rfl⟩
      exact (List.mem_append.mp arrived).resolve_right gone
    have sameAdder := same (addition.key addition.adder info.memberAddress)
    rw [GroupAddition.joinWith_late announces checked newTo assigned every earlier gone authorised,
      GroupAddition.join_adder (fun bundle => (GroupAddition.mem_of_every otherEvery bundle).mp)
        (List.mem_append_right _ told) checked assigned] at sameAdder
    obtain ⟨sameChain⟩ := sameAdder
    exact GroupAddition.late_ne free full announces checked assigned authorised sameChain.chainKey
  · rintro (later | unauthorised)
    · rw [GroupAddition.joinWith_unanswered announces checked distinct newTo new every later]
      exact sameBundles
    · rw [GroupAddition.joinWith_ignored (GroupAddition.consume_unauthorised unauthorised)]
      exact sameBundles

/-- Carol has another chain of Alice when the message comes last. -/
theorem join_messageLast_differs :
    ¬(Symbolic.groupAddition.joinWith Symbolic.additionMsg
        (Symbolic.additionArrivals Symbolic.carolAddress) [] Symbolic.carolAddress).SameChains
      (Symbolic.groupAddition.joinWith Symbolic.additionMsg []
        (Symbolic.additionArrivals Symbolic.carolAddress) Symbolic.carolAddress) := by
  have different :
      ((Symbolic.groupAddition.joinWith Symbolic.additionMsg
        (Symbolic.additionArrivals Symbolic.carolAddress) [] Symbolic.carolAddress).lookup
          (Symbolic.groupAddition.key Symbolic.aliceAddress Symbolic.carolAddress)).map
            GroupSession.chainKey ≠
      ((Symbolic.groupAddition.joinWith Symbolic.additionMsg []
        (Symbolic.additionArrivals Symbolic.carolAddress) Symbolic.carolAddress).lookup
          (Symbolic.groupAddition.key Symbolic.aliceAddress Symbolic.carolAddress)).map
            GroupSession.chainKey := by
    decide
  exact fun same => different (same.chainKey _)

/-- Carol has the same chains when the message comes between the bundles of Bob and Alice. -/
theorem join_messageBetween_same :
    (Symbolic.groupAddition.joinWith Symbolic.additionMsg
        [(Symbolic.additionResults Symbolic.bobAddress).2]
        [(Symbolic.additionResults Symbolic.aliceAddress).2] Symbolic.carolAddress).SameChains
      (Symbolic.groupAddition.joinWith Symbolic.additionMsg []
        (Symbolic.additionArrivals Symbolic.carolAddress) Symbolic.carolAddress) := by
  have every : (Symbolic.additionArrivals Symbolic.carolAddress).Perm
      (Symbolic.groupAddition.members.map fun sender => (Symbolic.additionResults sender).2) :=
    List.Perm.swap _ _ _
  have told : (Symbolic.additionResults Symbolic.groupAddition.adder).2 ∈
      Symbolic.additionArrivals Symbolic.carolAddress := by
    simp [Symbolic.additionArrivals, Symbolic.groupAddition]
  have new : Symbolic.memberInfo Symbolic.carolAddress ∈
      Symbolic.groupAddition.addingMemberInfoList := by
    simp [Symbolic.groupAddition]
  have full : symbolicSuite.FullKey
      (Symbolic.runningSession Symbolic.aliceAddress Symbolic.aliceAddress).chainKey := rfl
  have newTo : Symbolic.groupAddition.NewTo
      (Symbolic.memberInfo Symbolic.carolAddress).memberAddress := by
    intro session present
    cases present
  have announces : Symbolic.groupAddition.Announces Symbolic.additionMsg := .members
  exact (groupJoin_order announces symbolicSuite_freeGroupKeys full (by decide)
    Symbolic.groupAddition_succeeds new newTo every every told).mpr (.inl List.mem_cons_self)

end E2eeSecurity
