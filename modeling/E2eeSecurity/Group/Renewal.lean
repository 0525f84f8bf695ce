/-
This file describes both calls that renew the sessions of a device when others are added, and gives
the sessions that they leave.
-/
import E2eeSecurity.Group.NewDevice
import E2eeSecurity.Group.Handlers
import E2eeSecurity.Group.KeySchedule
import E2eeSecurity.Group.Waiting

namespace E2eeSecurity

variable {β : Type}

/-- This is a renewal whose checks have passed.
Without a chain key of the adder, the device itself is the adder. -/
structure GroupRenewal (getE2eesPack : Packs β) where
  cipherSuite : CipherSuite β
  device : Device β
  outbound : GroupSession β
  senderChainKey : Option (Bytes β)
  senderAddress : E2eeAddress
  infos : List (GroupMemberInfo β)
  newMembers : List GroupMember
  signPublicKey : Bytes β
  pack : getE2eesPack outbound.e2eesPackId = some cipherSuite
  authorised : loadSenderSignPublicKey device.store outbound.sessionOwner = some signPublicKey
  valid : isValidGroupSession getE2eesPack outbound = true
  own : outbound.sender = outbound.sessionOwner
  senderValid : isValidAddress senderAddress = true
  nonempty : infos ≠ []
  infosValid : infos.all isValidGroupMemberInfo = true
  membersValid : newMembers.all isValidGroupMember = true

namespace GroupRenewal

variable {getE2eesPack : Packs β} (renewal : GroupRenewal getE2eesPack)

def keys : List (Bytes β) × Bytes β × Option (Bytes β) :=
  renewedKeys renewal.cipherSuite renewal.outbound renewal.senderChainKey renewal.infos

def welcomed : List (GroupMemberInfo β × Bytes β) :=
  renewal.infos.zip renewal.keys.1

def current : GroupSession β :=
  { renewal.outbound with
    groupInfo := addGroupMembersToGroupInfo renewal.outbound.groupInfo renewal.newMembers }

def next : GroupSession β :=
  { renewal.current with chainKey := renewal.keys.2.1, sequence := 0 }

def bundle : GroupUpdateKeyBundle β :=
  packGroupRatchetStatePlaintext renewal.current renewal.senderChainKey.isNone
    renewal.signPublicKey renewal.infos

def stored : GroupStore β :=
  renewal.device.groups.storeGroupSession renewal.next

def moved : GroupStore β :=
  renewInboundGroupSessions getE2eesPack renewal.stored
    (renewal.stored.loadGroupSessions renewal.next.sessionOwner
      renewal.next.groupInfo.groupAddress)
    renewal.next.sessionOwner renewal.senderAddress renewal.keys.2.2 renewal.next.groupInfo

/-- The chains of the new devices are stored last. -/
def finish : GroupStore β :=
  renewal.welcomed.foldl (fun groups added => groups.storeResult
    (newAndCompleteInboundGroupSessionWithChainKey getE2eesPack added.1 renewal.next added.2))
    renewal.moved

/-- This is what becomes of an inbound session. -/
def renewed (session : GroupSession β) (cipherSuite : CipherSuite β) : GroupSession β :=
  { session with
    groupInfo := renewal.next.groupInfo
    chainKey := (if renewal.senderAddress = session.sender then renewal.keys.2.2 else none).getD
      (advanceGroupChainKeyByAdd cipherSuite session.chainKey session.chainKey)
    sequence := 0 }

/-- This is the session for a new device. -/
def added (info : GroupMemberInfo β) (theirs : Bytes β) : GroupSession β :=
  { insertInboundGroupSessionData info renewal.next with
    chainKey := theirs
    associatedData := renewal.cipherSuite.groupAssociatedData info.signPublicKey }

end GroupRenewal

section Calls

variable {getE2eesPack : Packs β} {device : Device β} {outbound : GroupSession β}
  {senderChainKey : Option (Bytes β)} {senderAddress : E2eeAddress}
  {result : GroupStore β × GroupUpdateKeyBundle β}

/-- A call for new members that succeeds is a renewal. -/
theorem renewOutbound_cases (own : outbound.sender = outbound.sessionOwner)
    {infos : List (GroupMemberInfo β)} {newMembers : List GroupMember}
    (made : renewOutboundGroupSessionByWelcomeAndAdd getE2eesPack device outbound senderChainKey
      senderAddress infos newMembers = some result) :
    ∃ renewal : GroupRenewal getE2eesPack, renewal.device = device ∧
      renewal.outbound = outbound ∧ renewal.senderChainKey = senderChainKey ∧
      renewal.senderAddress = senderAddress ∧ renewal.infos = infos ∧
      renewal.newMembers = newMembers ∧ result = (renewal.finish, renewal.bundle) := by
  unfold renewOutboundGroupSessionByWelcomeAndAdd at made
  split at made
  next cipherSuite signPublicKey pack authorised =>
    split at made
    next checks =>
      simp only [Bool.and_eq_true, Bool.not_eq_true', List.isEmpty_eq_false_iff] at checks
      obtain ⟨⟨⟨⟨nonempty, valid⟩, senderValid⟩, infosValid⟩, membersValid⟩ := checks
      refine ⟨⟨cipherSuite, device, outbound, senderChainKey, senderAddress, infos, newMembers,
        signPublicKey, pack, authorised, valid, own, senderValid, nonempty, infosValid,
        membersValid⟩, rfl, rfl, rfl, rfl, rfl, rfl, ?_⟩
      exact (Option.some.inj made).symm
    · cases made
  · cases made

theorem addGroupMembersToGroupInfo_nil (groupInfo : GroupInfo) :
    addGroupMembersToGroupInfo groupInfo [] = groupInfo := by
  simp [addGroupMembersToGroupInfo]

/-- The stored outbound session is among the loaded sessions. -/
theorem GroupStore.load_storeGroupSession (groups : GroupStore β) (session : GroupSession β) :
    ((groups.storeGroupSession session).loadGroupSessions session.sessionOwner
      session.groupInfo.groupAddress).isEmpty = false := by
  rw [List.isEmpty_eq_false_iff]
  exact List.ne_nil_of_mem ((GroupStore.mem_loadGroupSessions _).mpr
    ⟨KeyedTable.mem_insert.mpr (.inr rfl), rfl, rfl⟩)

/-- A call for one new device that succeeds is a renewal without new members. -/
theorem renewWithNewDevice_cases (own : outbound.sender = outbound.sessionOwner)
    {newDeviceAddress : E2eeAddress} {info : GroupMemberInfo β}
    (made : renewGroupSessionsWithNewDevice getE2eesPack device outbound senderChainKey
      senderAddress newDeviceAddress info = some result) :
    ∃ renewal : GroupRenewal getE2eesPack, renewal.device = device ∧
      renewal.outbound = outbound ∧ renewal.senderChainKey = senderChainKey ∧
      renewal.senderAddress = senderAddress ∧ renewal.infos = [info] ∧
      renewal.newMembers = [] ∧ result = (renewal.finish, renewal.bundle) := by
  unfold renewGroupSessionsWithNewDevice at made
  split at made
  next cipherSuite signPublicKey pack authorised =>
    split at made
    next checks =>
      simp only [Bool.and_eq_true] at checks
      obtain ⟨⟨⟨valid, senderValid⟩, -⟩, infoValid⟩ := checks
      obtain ⟨theirs, keys, renewed⟩ :=
        renewedKeys_singleton cipherSuite outbound senderChainKey info
      refine ⟨⟨cipherSuite, device, outbound, senderChainKey, senderAddress, [info], [],
        signPublicKey, pack, authorised, valid, own, senderValid, List.cons_ne_nil _ _, ?_, rfl⟩,
        rfl, rfl, rfl, rfl, rfl, rfl, ?_⟩
      · rw [List.all_cons, infoValid, List.all_nil, Bool.and_self]
      · rw [renewed] at made
        simp only [GroupRenewal.finish, GroupRenewal.welcomed, GroupRenewal.moved,
          GroupRenewal.stored, GroupRenewal.next, GroupRenewal.current, GroupRenewal.keys,
          GroupRenewal.bundle, renewed, addGroupMembersToGroupInfo_nil]
        rw [if_neg] at made
        · exact (Option.some.inj made).symm
        · rw [Bool.not_eq_true]
          exact device.groups.load_storeGroupSession
            { outbound with chainKey := keys.1, sequence := 0 }
    · cases made
  · cases made

end Calls

namespace GroupRenewal

variable {getE2eesPack : Packs β} (renewal : GroupRenewal getE2eesPack)

theorem call_eq :
    renewOutboundGroupSessionByWelcomeAndAdd getE2eesPack renewal.device renewal.outbound
      renewal.senderChainKey renewal.senderAddress renewal.infos renewal.newMembers =
    some (renewal.finish, renewal.bundle) := by
  have nonempty : renewal.infos.isEmpty = false := List.isEmpty_eq_false_iff.mpr renewal.nonempty
  rw [renewOutboundGroupSessionByWelcomeAndAdd]
  simp only [renewal.pack, renewal.authorised]
  rw [if_pos]
  · rfl
  · simp only [nonempty, renewal.valid, renewal.senderValid, renewal.infosValid,
      renewal.membersValid, Bool.not_false, Bool.and_self]

/-- The call for one new device gives the same sessions. -/
theorem deviceCall_eq {info : GroupMemberInfo β} (single : renewal.infos = [info])
    (noMembers : renewal.newMembers = []) :
    renewGroupSessionsWithNewDevice getE2eesPack renewal.device renewal.outbound
      renewal.senderChainKey renewal.senderAddress info.memberAddress info =
    some (renewal.finish, renewal.bundle) := by
  have infoValid := renewal.infosValid
  rw [single, List.all_cons, List.all_nil, Bool.and_true] at infoValid
  have addressValid : isValidAddress info.memberAddress = true := by
    rw [isValidGroupMemberInfo, Bool.and_eq_true] at infoValid
    exact infoValid.1
  obtain ⟨theirs, keys, renewedKeys⟩ := renewedKeys_singleton renewal.cipherSuite renewal.outbound
    renewal.senderChainKey info
  rw [renewGroupSessionsWithNewDevice]
  simp only [renewal.pack, renewal.authorised, renewal.valid, renewal.senderValid, addressValid,
    infoValid, Bool.and_self, if_true, renewedKeys]
  rw [if_neg]
  · simp only [finish, welcomed, moved, stored, next, current, GroupRenewal.keys, bundle, single,
      noMembers, renewedKeys, addGroupMembersToGroupInfo_nil]
    rfl
  · rw [Bool.not_eq_true]
    exact renewal.device.groups.load_storeGroupSession
      { renewal.outbound with chainKey := keys.1, sequence := 0 }

theorem next_key : renewal.next.key = renewal.outbound.key := rfl

theorem next_noChainKey : isValidGroupSessionNoChainKey getE2eesPack renewal.next = true := by
  have valid := renewal.valid
  simp only [isValidGroupSession, Bool.and_eq_true] at valid
  rw [isValidGroupSessionNoChainKey, Bool.and_eq_true]
  exact ⟨isValidGroupSessionHead_add valid.1.1 renewal.membersValid, valid.2⟩

theorem welcomed_info {info : GroupMemberInfo β} {theirs : Bytes β}
    (assigned : (info, theirs) ∈ renewal.welcomed) : info ∈ renewal.infos :=
  (List.of_mem_zip assigned).1

theorem newAndComplete_added {info : GroupMemberInfo β} {theirs : Bytes β}
    (assigned : (info, theirs) ∈ renewal.welcomed) :
    newAndCompleteInboundGroupSessionWithChainKey getE2eesPack info renewal.next theirs =
      some (renewal.added info theirs) := by
  have infoValid := List.all_eq_true.mp renewal.infosValid info (renewal.welcomed_info assigned)
  rw [newAndCompleteInboundGroupSessionWithChainKey, infoValid, renewal.next_noChainKey,
    Bool.and_self, if_pos rfl]
  simp only [next, current, renewal.pack, Option.map_some]
  rfl

/-- A chain that belongs to no new device is not touched by the last loop. -/
theorem finish_apart {wanted : GroupKey}
    (apart : ∀ info ∈ renewal.infos, info.memberAddress ≠ wanted.sender) :
    renewal.finish.lookup wanted = renewal.moved.lookup wanted := by
  refine KeyedTable.lookup_foldl_other ?_ _
  rintro ⟨info, theirs⟩ assigned table
  rw [renewal.newAndComplete_added assigned]
  apply GroupStore.lookup_storeGroupSession_other
  exact GroupKey.uncovered_of_sender (apart info (renewal.welcomed_info assigned))

theorem moved_outbound : renewal.moved.lookup renewal.outbound.key = some renewal.next := by
  rw [moved, renewInboundGroupSessions]
  refine (GroupStore.lookup_loop_other _ ?_).trans ?_
  · intro session loaded stored inbound made
    apply GroupKey.uncovered_of_sender
    rw [renewInbound_key made]
    exact fun same => inbound (same.trans renewal.own)
  · rw [← renewal.next_key]
    exact GroupStore.lookup_storeGroupSession _ _

theorem finish_outbound
    (apart : ∀ info ∈ renewal.infos, info.memberAddress ≠ renewal.outbound.sender) :
    renewal.finish.lookup renewal.outbound.key = some renewal.next := by
  rw [renewal.finish_apart apart]
  exact renewal.moved_outbound

theorem outbound_named : renewal.outbound.key.sessionId ≠ "" :=
  sessionId_of_valid renewal.valid

/-- Some outbound session is left, also when the device itself is listed as new. -/
theorem finish_outbound_isSome :
    (renewal.finish.lookup renewal.outbound.key).isSome = true := by
  have present : (renewal.moved.lookup renewal.outbound.key).isSome = true := by
    rw [renewal.moved_outbound]
    rfl
  unfold finish
  generalize renewal.moved = groups at present
  induction renewal.welcomed generalizing groups with
  | nil => exact present
  | cons added rest ih =>
      exact ih _ (groups.lookup_storeResult_isSome renewal.outbound_named present _)

theorem ownKey_valid : isValidProtobuf renewal.keys.2.1 = true := by
  have valid := renewal.valid
  simp only [isValidGroupSession, Bool.and_eq_true] at valid
  unfold keys
  cases renewal.senderChainKey with
  | none => exact welcomeAndAdd_valid _ _ valid.1.2
  | some chainKey => exact advanceGroupChainKeyByAdd_valid _ _ valid.1.2

theorem welcomed_full {info : GroupMemberInfo β} {theirs : Bytes β}
    (assigned : (info, theirs) ∈ renewal.welcomed) : renewal.cipherSuite.FullKey theirs := by
  have member : theirs ∈ renewal.keys.1 := (List.of_mem_zip assigned).2
  unfold keys at member
  cases found : renewal.senderChainKey with
  | none =>
      rw [found] at member
      exact welcomeAndAdd_welcome_full _ _ member
  | some chainKey =>
      rw [found] at member
      exact welcomeAndAdd_welcome_full _ _ member

theorem keys_length : renewal.infos.length ≤ renewal.keys.1.length := by
  unfold keys
  cases renewal.senderChainKey with
  | none => exact (welcomeAndAdd_length _ _ _).ge
  | some chainKey => exact (welcomeAndAdd_length _ _ _).ge

/-- The chain of a new device is stored under its own key. -/
theorem finish_added (distinct : (renewal.infos.map fun info => info.memberAddress).Nodup)
    {info : GroupMemberInfo β} {theirs : Bytes β} (assigned : (info, theirs) ∈ renewal.welcomed) :
    renewal.finish.lookup { renewal.outbound.key with sender := info.memberAddress } =
      some (renewal.added info theirs) := by
  refine KeyedTable.lookup_foldl ?_ ?_ assigned _
  · intro table
    rw [renewal.newAndComplete_added assigned]
    exact GroupStore.lookup_storeGroupSession table (renewal.added info theirs)
  · rintro ⟨other, otherKey⟩ otherAssigned different table
    rw [renewal.newAndComplete_added otherAssigned]
    apply GroupStore.lookup_storeGroupSession_other
    exact GroupKey.uncovered_of_sender
      (welcome_address_ne renewal.keys_length distinct assigned otherAssigned different)

theorem renewInbound_renewed {session : GroupSession β} {cipherSuite : CipherSuite β}
    (valid : isValidGroupSession getE2eesPack session = true)
    (pack : getE2eesPack session.e2eesPackId = some cipherSuite) :
    renewInboundGroupSessionByWelcomeAndAdd getE2eesPack
      (if renewal.senderAddress = session.sender then renewal.keys.2.2 else none) session
      renewal.next.groupInfo = some (renewal.renewed session cipherSuite) := by
  rw [renewInboundGroupSessionByWelcomeAndAdd, if_pos valid, pack, Option.map_some]
  rfl

/-- The chain of the adder is walked over the new devices. -/
theorem renewed_sender {session : GroupSession β} {chainKey : Bytes β}
    (sender : renewal.senderAddress = session.sender)
    (given : renewal.senderChainKey = some chainKey) (cipherSuite : CipherSuite β) :
    (renewal.renewed session cipherSuite).chainKey =
      (welcomeAndAdd renewal.cipherSuite renewal.infos chainKey).2 := by
  rw [renewed, if_pos sender, keys, given]
  rfl

/-- Every other chain moves on by itself. -/
theorem renewed_other {session : GroupSession β}
    (other : renewal.senderAddress ≠ session.sender) (cipherSuite : CipherSuite β) :
    (renewal.renewed session cipherSuite).chainKey =
      advanceGroupChainKeyByAdd cipherSuite session.chainKey session.chainKey := by
  rw [renewed, if_neg other]
  rfl

/-- An inbound chain of the group moves on under its own key. -/
theorem finish_inbound {session : GroupSession β} {cipherSuite : CipherSuite β}
    (present : session ∈ renewal.device.groups.entries)
    (owner : session.sessionOwner = renewal.outbound.sessionOwner)
    (group : session.groupInfo.groupAddress = renewal.outbound.groupInfo.groupAddress)
    (inbound : session.sender ≠ renewal.outbound.sender)
    (valid : isValidGroupSession getE2eesPack session = true)
    (pack : getE2eesPack session.e2eesPackId = some cipherSuite)
    (apart : ∀ info ∈ renewal.infos, info.memberAddress ≠ session.sender) :
    renewal.finish.lookup session.key = some (renewal.renewed session cipherSuite) := by
  have named := sessionId_of_valid valid
  have stored : session ∈ renewal.stored.entries := by
    refine KeyedTable.mem_insert.mpr (.inl ⟨present, ?_⟩)
    exact GroupKey.uncovered_of_sender (Ne.symm inbound)
  have loaded : session ∈ renewal.stored.loadGroupSessions renewal.next.sessionOwner
      renewal.next.groupInfo.groupAddress :=
    (GroupStore.mem_loadGroupSessions _).mpr ⟨stored, owner, group⟩
  rw [renewal.finish_apart apart, moved, renewInboundGroupSessions]
  refine GroupStore.lookup_loop _ loaded ?_ (renewal.renewInbound_renewed valid pack) ?_ ?_
  · exact fun same => inbound (same.trans renewal.own.symm)
  · exact congrArg (fun address => { session.key with groupAddress := address }) group.symm
  · intro other otherLoaded distinct made _ otherMade
    rw [GroupStore.mem_loadGroupSessions] at otherLoaded
    apply GroupKey.uncovered_of_ne named
    rw [renewInbound_key otherMade, ← otherLoaded.2.2]
    intro same
    exact distinct (List.inj_on_of_nodup_map renewal.stored.distinct otherLoaded.1 stored same)

theorem nextGroupInfo_valid : isValidGroupInfo renewal.next.groupInfo = true := by
  have head := renewal.next_noChainKey
  simp only [isValidGroupSessionNoChainKey, isValidGroupSessionHead, Bool.and_eq_true] at head
  exact head.1.2

theorem next_valid : isValidGroupSession getE2eesPack renewal.next = true := by
  have noChainKey := renewal.next_noChainKey
  simp only [isValidGroupSessionNoChainKey, Bool.and_eq_true] at noChainKey
  simp only [isValidGroupSession, noChainKey, Bool.true_and, Bool.and_true]
  exact renewal.ownKey_valid

theorem renewed_valid {session : GroupSession β} (cipherSuite : CipherSuite β)
    (valid : isValidGroupSession getE2eesPack session = true)
    (chainKey : isValidProtobuf (renewal.renewed session cipherSuite).chainKey = true) :
    isValidGroupSession getE2eesPack (renewal.renewed session cipherSuite) = true := by
  simp only [isValidGroupSession, isValidGroupSessionHead, Bool.and_eq_true] at valid
  simp only [isValidGroupSession, isValidGroupSessionHead, renewed, valid,
    renewal.nextGroupInfo_valid, Bool.and_self, Bool.true_and, Bool.and_true]
  exact chainKey

theorem added_valid {info : GroupMemberInfo β} {theirs : Bytes β}
    (assigned : (info, theirs) ∈ renewal.welcomed) :
    isValidGroupSession getE2eesPack (renewal.added info theirs) = true := by
  have chainKey := (renewal.welcomed_full assigned).valid
  have noChainKey := renewal.next_noChainKey
  have infoValid := List.all_eq_true.mp renewal.infosValid info (renewal.welcomed_info assigned)
  simp only [isValidGroupSessionNoChainKey, isValidGroupSessionHead, Bool.and_eq_true] at noChainKey
  simp only [isValidGroupMemberInfo, Bool.and_eq_true] at infoValid
  simp only [isValidGroupSession, isValidGroupSessionHead, added, insertInboundGroupSessionData,
    noChainKey, infoValid, chainKey, groupAssociatedData_of_valid _ infoValid.2, Bool.and_self]

/-- These are all sessions after a renewal. -/
theorem mem_finish {session : GroupSession β} (present : session ∈ renewal.finish.entries) :
    session ∈ renewal.device.groups.entries ∨ session = renewal.next ∨
      (∃ old cipherSuite, old ∈ renewal.device.groups.entries ∧
        old.sessionOwner = renewal.outbound.sessionOwner ∧
        old.groupInfo.groupAddress = renewal.outbound.groupInfo.groupAddress ∧
        old.sender ≠ renewal.outbound.sender ∧ isValidGroupSession getE2eesPack old = true ∧
        getE2eesPack old.e2eesPackId = some cipherSuite ∧
        session = renewal.renewed old cipherSuite) ∨
      ∃ info theirs, (info, theirs) ∈ renewal.welcomed ∧ session = renewal.added info theirs := by
  obtain earlier | ⟨⟨info, theirs⟩, assigned, made⟩ := GroupStore.mem_foldl_storeResult _ present
  · obtain stored | ⟨old, loaded, inbound, made⟩ := GroupStore.mem_loop _ earlier
    · obtain ⟨before, -⟩ | rfl := KeyedTable.mem_insert.mp stored
      · exact .inl before
      · exact .inr (.inl rfl)
    · obtain ⟨stored, owner, group⟩ := (GroupStore.mem_loadGroupSessions _).mp loaded
      have different : old.sender ≠ renewal.outbound.sender :=
        fun same => inbound (same.trans renewal.own)
      obtain ⟨before, -⟩ | rfl := KeyedTable.mem_insert.mp stored
      · unfold renewInboundGroupSessionByWelcomeAndAdd at made
        split at made
        next valid =>
          obtain ⟨cipherSuite, pack, rfl⟩ := Option.map_eq_some_iff.mp made
          exact .inr (.inr (.inl ⟨old, cipherSuite, before, owner, group, different, valid, pack,
            rfl⟩))
        · cases made
      · exact absurd rfl different
  · rw [renewal.newAndComplete_added assigned, Option.some.injEq] at made
    exact .inr (.inr (.inr ⟨info, theirs, assigned, made.symm⟩))

end GroupRenewal

/-- These are the two messages that tell the devices of a group about new ones. -/
inductive GroupAddMsg (β : Type)
  | members (msg : AddGroupMembersMsg β)
  | device (msg : AddGroupMemberDeviceMsg β)

namespace GroupAddMsg

def senderAddress : GroupAddMsg β → E2eeAddress
  | .members msg => msg.senderAddress
  | .device msg => msg.senderAddress

def sequence : GroupAddMsg β → UInt32
  | .members msg => msg.sequence
  | .device msg => msg.sequence

def groupInfo : GroupAddMsg β → GroupInfo
  | .members msg => msg.groupInfo
  | .device msg => msg.groupInfo

def infos : GroupAddMsg β → List (GroupMemberInfo β)
  | .members msg => msg.addingMemberInfoList
  | .device msg => [msg.addingMemberDevice]

def newMembers : GroupAddMsg β → List GroupMember
  | .members msg => msg.addingMemberList
  | .device _ => []

variable (getE2eesPack : Packs β)

def isValid : GroupAddMsg β → Bool
  | .members msg => isValidAddGroupMembersMsg getE2eesPack msg
  | .device msg => isValidAddGroupMemberDeviceMsg getE2eesPack msg

def consume (device : Device β) (receiverAddress : E2eeAddress) :
    GroupAddMsg β → GroupStore β × Option (GroupUpdateKeyBundle β)
  | .members msg => consumeAddGroupMembersMsg getE2eesPack device receiverAddress msg
  | .device msg => consumeAddGroupMemberDeviceMsg getE2eesPack device receiverAddress msg

/-- The handlers differ in the call that renews the sessions. -/
def renew (msg : GroupAddMsg β) (device : Device β) (sessions : GroupSession β × GroupSession β) :
    Option (GroupStore β × GroupUpdateKeyBundle β) :=
  match msg with
  | .members msg => renewOutboundGroupSessionByWelcomeAndAdd getE2eesPack device sessions.1
      (some sessions.2.chainKey) msg.senderAddress msg.addingMemberInfoList msg.addingMemberList
  | .device msg => renewGroupSessionsWithNewDevice getE2eesPack device sessions.1
      (some sessions.2.chainKey) msg.senderAddress msg.addingMemberDevice.memberAddress
      msg.addingMemberDevice

variable {getE2eesPack}

/-- The receiver has the sessions for the message, and this is its renewal. -/
structure Renews (msg : GroupAddMsg β) (device : Device β) (receiver : E2eeAddress)
    (renewal : GroupRenewal getE2eesPack) : Prop where
  receiverValid : isValidAddress receiver = true
  valid : msg.isValid getE2eesPack = true
  onDevice : renewal.device = device
  outbound : loadOutboundGroupSession getE2eesPack device.groups receiver
    msg.groupInfo.groupAddress = some renewal.outbound
  sender : ∃ inbound cipherSuite, loadInboundGroupSession getE2eesPack device.groups
      msg.senderAddress receiver renewal.outbound.sessionId = some inbound ∧
    getE2eesPack inbound.e2eesPackId = some cipherSuite ∧
    renewal.senderChainKey = some (inbound.catchUp cipherSuite msg.sequence).chainKey
  senderAddress : renewal.senderAddress = msg.senderAddress
  infos : renewal.infos = msg.infos
  newMembers : renewal.newMembers = msg.newMembers

end GroupAddMsg

section Announcements

variable {getE2eesPack : Packs β}

theorem loadOutboundGroupSession_some {groups : GroupStore β} {address groupAddress : E2eeAddress}
    {outbound : GroupSession β}
    (found : loadOutboundGroupSession getE2eesPack groups address groupAddress = some outbound) :
    outbound ∈ groups.entries ∧ outbound.sender = address ∧ outbound.sessionOwner = address ∧
      outbound.groupInfo.groupAddress = groupAddress ∧
      isValidGroupSession getE2eesPack outbound = true := by
  obtain ⟨loaded, valid⟩ := Option.filter_eq_some_iff.mp found
  obtain ⟨member, sender⟩ := groups.loadGroupSessionByAddress_some loaded
  rw [groups.mem_loadGroupSessions] at member
  exact ⟨member.1, sender, member.2.1, member.2.2, valid⟩

theorem loadAddingSessions_some {groups : GroupStore β}
    {receiver senderAddress groupAddress : E2eeAddress} {sequence : UInt32}
    {sessions : GroupSession β × GroupSession β} :
    loadAddingSessions getE2eesPack groups receiver senderAddress groupAddress sequence =
      some sessions ↔
    loadOutboundGroupSession getE2eesPack groups receiver groupAddress = some sessions.1 ∧
      ∃ inbound cipherSuite, loadInboundGroupSession getE2eesPack groups senderAddress receiver
          sessions.1.sessionId = some inbound ∧
        getE2eesPack inbound.e2eesPackId = some cipherSuite ∧
        sessions.2 = inbound.catchUp cipherSuite sequence := by
  unfold loadAddingSessions
  constructor
  · intro loaded
    obtain ⟨outbound, found, loaded⟩ := Option.bind_eq_some_iff.mp loaded
    obtain ⟨inbound, inboundFound, loaded⟩ := Option.bind_eq_some_iff.mp loaded
    obtain ⟨cipherSuite, pack, rfl⟩ := Option.map_eq_some_iff.mp loaded
    exact ⟨found, inbound, cipherSuite, inboundFound, pack, rfl⟩
  · rintro ⟨found, inbound, cipherSuite, inboundFound, pack, same⟩
    rw [found, Option.bind_some, inboundFound, Option.bind_some, pack, Option.map_some, ← same]

namespace GroupAddMsg

variable {device : Device β} {receiver : E2eeAddress} {msg : GroupAddMsg β}

variable (getE2eesPack device receiver msg) in
theorem consume_eq_renew :
    msg.consume getE2eesPack device receiver =
      match (if isValidAddress receiver && msg.isValid getE2eesPack then
        (loadAddingSessions getE2eesPack device.groups receiver msg.senderAddress
          msg.groupInfo.groupAddress msg.sequence).bind (msg.renew getE2eesPack device)
        else none) with
      | some (groups, bundle) => (groups, some bundle)
      | none => (device.groups, none) := by
  cases msg with
  | members msg => rfl
  | device msg => rfl

theorem renew_cases {sessions : GroupSession β × GroupSession β}
    {result : GroupStore β × GroupUpdateKeyBundle β}
    (own : sessions.1.sender = sessions.1.sessionOwner)
    (made : msg.renew getE2eesPack device sessions = some result) :
    ∃ renewal : GroupRenewal getE2eesPack, renewal.device = device ∧
      renewal.outbound = sessions.1 ∧ renewal.senderChainKey = some sessions.2.chainKey ∧
      renewal.senderAddress = msg.senderAddress ∧ renewal.infos = msg.infos ∧
      renewal.newMembers = msg.newMembers ∧ result = (renewal.finish, renewal.bundle) := by
  cases msg with
  | members msg => exact renewOutbound_cases own made
  | device msg => exact renewWithNewDevice_cases own made

theorem renew_eq {inbound : GroupSession β} {renewal : GroupRenewal getE2eesPack}
    (chainKey : renewal.senderChainKey = some inbound.chainKey)
    (renews : msg.Renews device receiver renewal) :
    msg.renew getE2eesPack device (renewal.outbound, inbound) =
      some (renewal.finish, renewal.bundle) := by
  have atDevice := renews.onDevice
  have sender := renews.senderAddress
  have infos := renews.infos
  have newMembers := renews.newMembers
  cases msg with
  | members msg =>
      have call := renewal.call_eq
      rw [atDevice, chainKey, sender, infos, newMembers] at call
      exact call
  | device msg =>
      have call := renewal.deviceCall_eq infos newMembers
      rw [atDevice, chainKey, sender] at call
      exact call

variable (getE2eesPack device receiver msg) in
/-- The message either leaves the stored sessions alone or renews them. -/
theorem consume_cases :
    msg.consume getE2eesPack device receiver = (device.groups, none) ∨
      ∃ renewal : GroupRenewal getE2eesPack, msg.Renews device receiver renewal ∧
        msg.consume getE2eesPack device receiver = (renewal.finish, some renewal.bundle) := by
  rw [consume_eq_renew]
  split
  next groups bundle renewed =>
    right
    split at renewed
    next checks =>
      rw [Bool.and_eq_true] at checks
      obtain ⟨sessions, loaded, made⟩ := Option.bind_eq_some_iff.mp renewed
      obtain ⟨found, inbound, cipherSuite, inboundFound, pack, caughtUp⟩ :=
        loadAddingSessions_some.mp loaded
      obtain ⟨-, sender, owner, -⟩ := loadOutboundGroupSession_some found
      obtain ⟨renewal, rfl, outbound, chainKey, senderAddress, infos, newMembers, result⟩ :=
        renew_cases (sender.trans owner.symm) made
      obtain ⟨rfl, rfl⟩ := Prod.mk.inj result
      rw [← outbound] at found inboundFound
      rw [caughtUp] at chainKey
      exact ⟨renewal, ⟨checks.1, checks.2, rfl, found,
        ⟨inbound, cipherSuite, inboundFound, pack, chainKey⟩, senderAddress, infos, newMembers⟩,
        rfl⟩
    · cases renewed
  · exact .inl rfl

/-- A renewal that the message describes is what its handler does. -/
theorem consume_eq {renewal : GroupRenewal getE2eesPack}
    (renews : msg.Renews device receiver renewal) :
    msg.consume getE2eesPack device receiver = (renewal.finish, some renewal.bundle) := by
  obtain ⟨inbound, cipherSuite, inboundFound, pack, chainKey⟩ := renews.sender
  have loaded : loadAddingSessions getE2eesPack device.groups receiver msg.senderAddress
      msg.groupInfo.groupAddress msg.sequence =
        some (renewal.outbound, inbound.catchUp cipherSuite msg.sequence) :=
    loadAddingSessions_some.mpr ⟨renews.outbound, inbound, cipherSuite, inboundFound, pack, rfl⟩
  rw [consume_eq_renew, renews.receiverValid, renews.valid, Bool.and_self, if_pos rfl, loaded,
    Option.bind_some, renew_eq chainKey renews]

theorem valid_parts (valid : msg.isValid getE2eesPack = true) :
    isValidAddress msg.senderAddress = true ∧ msg.infos.all isValidGroupMemberInfo = true ∧
      msg.newMembers.all isValidGroupMember = true := by
  cases msg with
  | members msg =>
      simp only [isValid, isValidAddGroupMembersMsg, Bool.and_eq_true] at valid
      exact ⟨valid.1.1.1.2, valid.2, valid.1.2⟩
  | device msg =>
      simp only [isValid, isValidAddGroupMemberDeviceMsg, Bool.and_eq_true] at valid
      refine ⟨valid.1.1.2, ?_, rfl⟩
      rw [infos, List.all_cons, valid.2, List.all_nil, Bool.and_self]

/-- A receiver that has all that the message needs renews its sessions. -/
theorem exists_renews (device : Device β) {outbound inbound : GroupSession β}
    {cipherSuite : CipherSuite β}
    {signPublicKey : Bytes β} (receiverValid : isValidAddress receiver = true)
    (valid : msg.isValid getE2eesPack = true) (nonempty : msg.infos ≠ [])
    (outboundFound : loadOutboundGroupSession getE2eesPack device.groups receiver
      msg.groupInfo.groupAddress = some outbound)
    (inboundFound : loadInboundGroupSession getE2eesPack device.groups msg.senderAddress receiver
      outbound.sessionId = some inbound)
    (pack : getE2eesPack inbound.e2eesPackId = some cipherSuite)
    (authorised : loadSenderSignPublicKey device.store receiver = some signPublicKey) :
    ∃ renewal : GroupRenewal getE2eesPack, msg.Renews device receiver renewal ∧
      renewal.outbound = outbound ∧
      renewal.senderChainKey = some (inbound.catchUp cipherSuite msg.sequence).chainKey := by
  obtain ⟨-, sender, owner, -, outboundValid⟩ := loadOutboundGroupSession_some outboundFound
  obtain ⟨senderValid, infosValid, membersValid⟩ := valid_parts valid
  obtain ⟨outboundSuite, outboundPack⟩ := exists_suite_of_valid outboundValid
  rw [← owner] at authorised
  exact ⟨⟨outboundSuite, device, outbound, _, msg.senderAddress, msg.infos, msg.newMembers,
      signPublicKey, outboundPack, authorised, outboundValid, sender.trans owner.symm, senderValid,
      nonempty, infosValid, membersValid⟩,
    ⟨receiverValid, valid, rfl, outboundFound, ⟨inbound, cipherSuite, inboundFound, pack, rfl⟩,
      rfl, rfl, rfl⟩, rfl, rfl⟩

variable (getE2eesPack) in
/-- The receiver has all that the message needs. -/
def Applies (msg : GroupAddMsg β) (device : Device β) (receiver : E2eeAddress) : Prop :=
  isValidAddress receiver = true ∧ msg.isValid getE2eesPack = true ∧ msg.infos ≠ [] ∧
    (loadAddingSessions getE2eesPack device.groups receiver msg.senderAddress
      msg.groupInfo.groupAddress msg.sequence).isSome = true ∧
    (loadSenderSignPublicKey device.store receiver).isSome = true

theorem applies_iff : msg.Applies getE2eesPack device receiver ↔
    ∃ renewal : GroupRenewal getE2eesPack, msg.Renews device receiver renewal := by
  constructor
  · rintro ⟨receiverValid, valid, nonempty, loaded, authorised⟩
    obtain ⟨sessions, loaded⟩ := Option.isSome_iff_exists.mp loaded
    obtain ⟨signPublicKey, authorised⟩ := Option.isSome_iff_exists.mp authorised
    obtain ⟨outboundFound, inbound, cipherSuite, inboundFound, pack, -⟩ :=
      loadAddingSessions_some.mp loaded
    obtain ⟨renewal, renews, -⟩ := exists_renews device receiverValid valid nonempty outboundFound
      inboundFound pack authorised
    exact ⟨renewal, renews⟩
  · rintro ⟨renewal, renews⟩
    obtain ⟨inbound, cipherSuite, inboundFound, pack, -⟩ := renews.sender
    have loaded : loadAddingSessions getE2eesPack device.groups receiver msg.senderAddress
        msg.groupInfo.groupAddress msg.sequence =
          some (renewal.outbound, inbound.catchUp cipherSuite msg.sequence) :=
      loadAddingSessions_some.mpr ⟨renews.outbound, inbound, cipherSuite, inboundFound, pack, rfl⟩
    have authorised := renewal.authorised
    rw [renews.onDevice, (loadOutboundGroupSession_some renews.outbound).2.2.1] at authorised
    refine ⟨renews.receiverValid, renews.valid, ?_, ?_, ?_⟩
    · rw [← renews.infos]
      exact renewal.nonempty
    · rw [loaded]
      rfl
    · rw [authorised]
      rfl

end GroupAddMsg

end Announcements

/-- These are the two calls of a member that adds others, with the answer of the server. -/
inductive GroupAddCall (β : Type)
  | members (addingMembers : List GroupMember) (response : AddGroupMembersResponse β)
  | device (newDeviceAddress : E2eeAddress) (response : AddGroupMemberDeviceResponse β)

namespace GroupAddCall

/-- These are the devices that the server has found. -/
def infos : GroupAddCall β → List (GroupMemberInfo β)
  | .members _ response => response.addingMemberInfoList
  | .device _ response => [response.addingMemberDeviceInfo]

def newMembers : GroupAddCall β → List GroupMember
  | .members _ response => response.addedGroupMemberList
  | .device _ _ => []

/-- The first result is the message for the other devices of the group. -/
def request (getE2eesPack : Packs β) (device : Device β)
    (senderAddress groupAddress : E2eeAddress) :
    GroupAddCall β → Option (GroupAddMsg β × GroupStore β × GroupUpdateKeyBundle β)
  | .members addingMembers response =>
      (addGroupMembers getE2eesPack device senderAddress groupAddress addingMembers response).map
        fun outcome => (.members outcome.1, outcome.2)
  | .device newDeviceAddress response =>
      (addGroupMemberDeviceInternal getE2eesPack device senderAddress groupAddress newDeviceAddress
        response).map fun outcome => (.device outcome.1, outcome.2)

/-- A call that succeeds renews the sessions of the adder, and its message has the place of the
chain before. -/
theorem request_some {getE2eesPack : Packs β} {device : Device β}
    {senderAddress groupAddress : E2eeAddress} {call : GroupAddCall β} {msg : GroupAddMsg β}
    {result : GroupStore β × GroupUpdateKeyBundle β}
    (made : call.request getE2eesPack device senderAddress groupAddress = some (msg, result)) :
    ∃ renewal : GroupRenewal getE2eesPack, renewal.device = device ∧
      loadOutboundGroupSession getE2eesPack device.groups senderAddress groupAddress =
        some renewal.outbound ∧
      renewal.senderChainKey = none ∧ renewal.senderAddress = senderAddress ∧
      renewal.infos = call.infos ∧ renewal.newMembers = call.newMembers ∧
      result = (renewal.finish, renewal.bundle) ∧ msg.senderAddress = senderAddress ∧
      msg.sequence = renewal.outbound.sequence ∧ msg.infos = call.infos ∧
      msg.groupInfo.groupAddress = groupAddress := by
  cases call with
  | members addingMembers response =>
      obtain ⟨outcome, added, same⟩ := Option.map_eq_some_iff.mp made
      obtain ⟨rfl, rfl⟩ := Prod.mk.inj same
      unfold addGroupMembers at added
      split at added
      · obtain ⟨outbound, found, added⟩ := Option.bind_eq_some_iff.mp added
        obtain ⟨-, sender, owner, group, -⟩ := loadOutboundGroupSession_some found
        obtain ⟨renewed, consumed, rfl⟩ := Option.map_eq_some_iff.mp added
        unfold consumeAddGroupMembersResponse at consumed
        split at consumed
        · obtain ⟨renewal, onDevice, rfl, chainKey, isSender, infos, newMembers, result⟩ :=
            renewOutbound_cases (sender.trans owner.symm) consumed
          exact ⟨renewal, onDevice, found, chainKey, isSender.trans owner, infos, newMembers, result,
            rfl, rfl, rfl, group⟩
        · cases consumed
      · cases added
  | device newDeviceAddress response =>
      obtain ⟨outcome, added, same⟩ := Option.map_eq_some_iff.mp made
      obtain ⟨rfl, rfl⟩ := Prod.mk.inj same
      unfold addGroupMemberDeviceInternal at added
      split at added
      · obtain ⟨outbound, found, added⟩ := Option.bind_eq_some_iff.mp added
        obtain ⟨-, sender, owner, group, -⟩ := loadOutboundGroupSession_some found
        obtain ⟨renewed, consumed, rfl⟩ := Option.map_eq_some_iff.mp added
        unfold consumeAddGroupMemberDeviceResponse at consumed
        split at consumed
        · obtain ⟨renewal, onDevice, rfl, chainKey, isSender, infos, newMembers, result⟩ :=
            renewWithNewDevice_cases (sender.trans owner.symm) consumed
          exact ⟨renewal, onDevice, found, chainKey, isSender.trans owner, infos, newMembers, result,
            rfl, rfl, rfl, group⟩
        · cases consumed
      · cases added

/-- The message of a call that succeeds passes its check. -/
theorem request_valid {getE2eesPack : Packs β} {device : Device β}
    {senderAddress groupAddress : E2eeAddress} {call : GroupAddCall β} {msg : GroupAddMsg β}
    {result : GroupStore β × GroupUpdateKeyBundle β}
    (made : call.request getE2eesPack device senderAddress groupAddress = some (msg, result)) :
    msg.isValid getE2eesPack = true := by
  cases call with
  | members addingMembers response =>
      obtain ⟨outcome, added, same⟩ := Option.map_eq_some_iff.mp made
      obtain ⟨rfl, rfl⟩ := Prod.mk.inj same
      unfold addGroupMembers at added
      split at added
      next checks =>
        obtain ⟨outbound, found, added⟩ := Option.bind_eq_some_iff.mp added
        have valid := (loadOutboundGroupSession_some found).2.2.2.2
        obtain ⟨renewed, consumed, rfl⟩ := Option.map_eq_some_iff.mp added
        unfold consumeAddGroupMembersResponse at consumed
        split at consumed
        next answered =>
          simp only [Bool.and_eq_true] at checks
          simp only [isValidGroupSession, Bool.and_eq_true] at valid
          simp only [isValidAddGroupMembersResponse, Bool.and_eq_true] at answered
          have head := isValidGroupSessionHead_add valid.1.1 checks.1.2
          simp only [isValidGroupSessionHead, Bool.and_eq_true] at head
          simp only [GroupAddMsg.isValid, isValidAddGroupMembersMsg, produceAddGroupMembersRequest,
            head, checks, answered, Bool.and_self]
        · cases consumed
      · cases added
  | device newDeviceAddress response =>
      obtain ⟨outcome, added, same⟩ := Option.map_eq_some_iff.mp made
      obtain ⟨rfl, rfl⟩ := Prod.mk.inj same
      unfold addGroupMemberDeviceInternal at added
      split at added
      next checks =>
        obtain ⟨outbound, found, added⟩ := Option.bind_eq_some_iff.mp added
        have valid := (loadOutboundGroupSession_some found).2.2.2.2
        obtain ⟨renewed, consumed, rfl⟩ := Option.map_eq_some_iff.mp added
        unfold consumeAddGroupMemberDeviceResponse at consumed
        split at consumed
        next answered =>
          simp only [Bool.and_eq_true] at checks
          simp only [isValidGroupSession, isValidGroupSessionHead, Bool.and_eq_true] at valid
          simp only [isValidAddGroupMemberDeviceResponse, Bool.and_eq_true] at answered
          simp only [GroupAddMsg.isValid, isValidAddGroupMemberDeviceMsg,
            produceAddGroupMemberDeviceRequest, valid, checks, answered, Bool.and_self]
        · cases consumed
      · cases added

end GroupAddCall

namespace Symbolic

/-- Alice tells the group that she adds Carol. -/
def additionMsg : GroupAddMsg FreeTerm :=
  .members (produceAddGroupMembersRequest (runningSession aliceAddress aliceAddress) aliceAddress
    groupAddition.addingGroupMembers groupAddition.addingMemberInfoList)

end Symbolic

end E2eeSecurity
