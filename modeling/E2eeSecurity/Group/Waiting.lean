/-
This file follows a device that knows the other devices of a group and waits for their keys, until
the bundle with the seed completes its sessions.
-/
import E2eeSecurity.Group.Handlers
import E2eeSecurity.Group.Stored

namespace E2eeSecurity

variable {β : Type}

theorem groupChainKey_valid (cipherSuite : CipherSuite β) (groupSeed signPublicKey : Bytes β) :
    isValidProtobuf (cipherSuite.groupChainKey groupSeed signPublicKey) = true :=
  isValidProtobuf_of_length (cipherSuite.hf.hkdfLength _ _ _ _) cipherSuite.hf.hfLenPositive

/-- This is the list of the devices of a group, as one of them gets it from the server. -/
structure GroupListing (getE2eesPack : Packs β) where
  cipherSuite : CipherSuite β
  e2eesPackId : UInt32
  receiver : E2eeAddress
  groupInfo : GroupInfo
  infos : List (GroupMemberInfo β)
  pack : getE2eesPack e2eesPackId = some cipherSuite
  suite : isValidCipherSuite cipherSuite = true
  receiverValid : isValidAddress receiver = true
  groupInfoValid : isValidGroupInfo groupInfo = true
  infosValid : ∀ info ∈ infos, isValidGroupMemberInfo info = true
  distinct : (infos.map fun info => info.memberAddress).Nodup

namespace GroupListing

variable {getE2eesPack : Packs β} (listing : GroupListing getE2eesPack)

/-- This is the session of a listed device before the bundle comes. -/
def waiting (info : GroupMemberInfo β) : GroupSession β where
  version := ""
  e2eesPackId := listing.e2eesPackId
  sessionId := ""
  sender := info.memberAddress
  sessionOwner := listing.receiver
  groupInfo := listing.groupInfo
  sequence := 0
  groupSeed := []
  chainKey := []
  associatedData := listing.cipherSuite.groupAssociatedData info.signPublicKey

/-- The loop of the message handlers makes a session for every other listed device. -/
def wait (groups : GroupStore β) : GroupStore β :=
  listing.infos.foldl (fun groups info =>
    if info.memberAddress = listing.receiver then groups
    else groups.storeResult (newInboundGroupSessionByMemberId getE2eesPack listing.e2eesPackId
      listing.receiver info listing.groupInfo)) groups

/-- The stored sessions of the group are those of the other listed devices, without keys. -/
def Waits (groups : GroupStore β) : Prop :=
  ∀ session, session ∈ groups.loadGroupSessions listing.receiver listing.groupInfo.groupAddress ↔
    ∃ info ∈ listing.infos, info.memberAddress ≠ listing.receiver ∧
      session = listing.waiting info

variable {listing}

theorem packId_valid : isValidE2eesPackId getE2eesPack listing.e2eesPackId = true := by
  rw [isValidE2eesPackId, listing.pack, Option.any_some]
  exact listing.suite

theorem address_valid {info : GroupMemberInfo β} (member : info ∈ listing.infos) :
    isValidAddress info.memberAddress = true := by
  have valid := listing.infosValid info member
  rw [isValidGroupMemberInfo, Bool.and_eq_true] at valid
  exact valid.1

theorem address_ne {info other : GroupMemberInfo β} (member : info ∈ listing.infos)
    (present : other ∈ listing.infos) (different : other ≠ info) :
    other.memberAddress ≠ info.memberAddress :=
  fun same => different (List.inj_on_of_nodup_map listing.distinct present member same)

theorem associatedData_valid {info : GroupMemberInfo β} (member : info ∈ listing.infos) :
    isValidProtobuf (listing.cipherSuite.groupAssociatedData info.signPublicKey) = true := by
  have valid := listing.infosValid info member
  rw [isValidGroupMemberInfo, Bool.and_eq_true] at valid
  exact groupAssociatedData_of_valid _ valid.2

theorem newInbound_waiting {info : GroupMemberInfo β} (member : info ∈ listing.infos) :
    newInboundGroupSessionByMemberId getE2eesPack listing.e2eesPackId listing.receiver info
      listing.groupInfo = some (listing.waiting info) := by
  rw [newInboundGroupSessionByMemberId, packId_valid, listing.receiverValid,
    listing.infosValid info member, listing.groupInfoValid, listing.pack]
  rfl

/-- What the loop stores, besides what was there. -/
theorem mem_wait {groups : GroupStore β} {session : GroupSession β}
    (member : session ∈ (listing.wait groups).entries) :
    session ∈ groups.entries ∨ ∃ info ∈ listing.infos, info.memberAddress ≠ listing.receiver ∧
      session = listing.waiting info := by
  obtain old | ⟨info, present, kept, made⟩ := GroupStore.mem_loop _ member
  · exact .inl old
  · rw [newInbound_waiting present, Option.some.injEq] at made
    exact .inr ⟨info, present, kept, made.symm⟩

/-- Every other listed device has a session after the loop. -/
theorem lookup_wait (groups : GroupStore β) {info : GroupMemberInfo β}
    (member : info ∈ listing.infos) (different : info.memberAddress ≠ listing.receiver) :
    (listing.wait groups).lookup (listing.waiting info).key = some (listing.waiting info) := by
  refine GroupStore.lookup_loop _ member different (newInbound_waiting member) rfl ?_
  intro other present distinct stored _ made
  rw [newInbound_waiting present, Option.some.injEq] at made
  subst made
  exact GroupKey.uncovered_of_sender (address_ne member present distinct)

/-- The loop never touches the outbound session. -/
theorem lookup_wait_own (groups : GroupStore β) {wanted : GroupKey}
    (own : wanted.sender = listing.receiver) :
    (listing.wait groups).lookup wanted = groups.lookup wanted := by
  refine GroupStore.lookup_loop_other _ ?_
  intro info present stored kept made
  rw [newInbound_waiting present, Option.some.injEq] at made
  subst made
  apply GroupKey.uncovered_of_sender
  rw [own]
  exact kept

theorem wait_waits {groups : GroupStore β}
    (fresh : groups.loadGroupSessions listing.receiver listing.groupInfo.groupAddress = []) :
    listing.Waits (listing.wait groups) := by
  intro session
  rw [GroupStore.mem_loadGroupSessions]
  constructor
  · rintro ⟨member, owner, group⟩
    obtain old | waits := mem_wait member
    · have loaded := (GroupStore.mem_loadGroupSessions _).mpr ⟨old, owner, group⟩
      rw [fresh] at loaded
      cases loaded
    · exact waits
  · rintro ⟨info, present, different, rfl⟩
    exact ⟨KeyedTable.lookup_mem (lookup_wait groups present different), rfl, rfl⟩

section Completion

variable (listing) in
/-- The bundle is for the listed group, and the receiver has its own signature key. -/
structure Matches (store : Store β) (bundle : GroupPreKeyBundle β) (signPublicKey : Bytes β) :
    Prop where
  packId : bundle.e2eesPackId = listing.e2eesPackId
  groupInfo : bundle.groupInfo = listing.groupInfo
  valid : isValidGroupPreKeyBundle getE2eesPack bundle = true
  ownKey : loadSignPublicKey store listing.receiver = some signPublicKey
  keyValid : isValidProtobuf signPublicKey = true

variable (listing) in
def completed (bundle : GroupPreKeyBundle β) (info : GroupMemberInfo β) : GroupSession β :=
  { listing.waiting info with
    version := bundle.version
    sessionId := bundle.sessionId
    sequence := bundle.sequence
    chainKey := listing.cipherSuite.groupChainKey bundle.groupSeed
      (listing.cipherSuite.groupAssociatedData info.signPublicKey) }

variable (listing) in
def outbound (bundle : GroupPreKeyBundle β) (signPublicKey : Bytes β) : GroupSession β :=
  { insertOutboundGroupSessionData listing.cipherSuite listing.e2eesPackId listing.receiver
      listing.groupInfo.groupName listing.groupInfo.groupAddress bundle.sessionId
      listing.groupInfo.groupMemberList signPublicKey bundle.groupSeed with groupSeed := [] }

variable (listing) in
/-- This is the store that the bundle is completed in. -/
def unloaded (groups : GroupStore β) (bundle : GroupPreKeyBundle β) : GroupStore β :=
  if bundle.oldSessionId ≠ "" then
    groups.unloadGroupSessionById listing.receiver bundle.oldSessionId
  else groups

theorem mem_unloaded {groups : GroupStore β} {bundle : GroupPreKeyBundle β}
    {session : GroupSession β} (member : session ∈ (listing.unloaded groups bundle).entries) :
    session ∈ groups.entries ∧ (bundle.oldSessionId ≠ "" → session.sessionOwner = listing.receiver →
      session.sessionId ≠ bundle.oldSessionId) := by
  unfold unloaded at member
  split at member
  · obtain ⟨present, kept⟩ := List.mem_filter.mp member
    refine ⟨present, fun _ owner same => ?_⟩
    simp [owner, same] at kept
  next noOld => exact ⟨member, fun old => absurd old noOld⟩

/-- The sessions without an identifier are not unloaded. -/
theorem Waits.unloaded {groups : GroupStore β} (waits : listing.Waits groups)
    (bundle : GroupPreKeyBundle β) : listing.Waits (listing.unloaded groups bundle) := by
  intro session
  unfold GroupListing.unloaded
  split
  next old =>
    rw [← waits session, GroupStore.mem_loadGroupSessions, GroupStore.mem_loadGroupSessions]
    constructor
    · rintro ⟨member, facts⟩
      exact ⟨List.mem_of_mem_filter member, facts⟩
    · rintro ⟨member, facts⟩
      refine ⟨List.mem_filter.mpr ⟨member, ?_⟩, facts⟩
      obtain ⟨info, -, -, rfl⟩ := (waits session).mp ((GroupStore.mem_loadGroupSessions _).mpr
        ⟨member, facts⟩)
      simp [waiting, Ne.symm old]
  · exact waits session

variable {device : Device β} {bundle : GroupPreKeyBundle β} {signPublicKey : Bytes β}

theorem Matches.sessionId (fits : listing.Matches device.store bundle signPublicKey) :
    bundle.sessionId ≠ "" := by
  have valid := fits.valid
  simp only [isValidGroupPreKeyBundle, Bool.and_eq_true] at valid
  simpa [isValidString] using valid.1.1.1.2

theorem complete_waiting (fits : listing.Matches device.store bundle signPublicKey)
    {info : GroupMemberInfo β} (member : info ∈ listing.infos) :
    completeInboundGroupSessionByPreKeyBundle getE2eesPack (listing.waiting info) bundle =
      some (listing.completed bundle info) := by
  have valid : isValidGroupSessionByMemberId getE2eesPack (listing.waiting info) = true := by
    simp only [isValidGroupSessionByMemberId, waiting, packId_valid, address_valid member,
      listing.receiverValid, listing.groupInfoValid, associatedData_valid member, Bool.and_self]
  rw [completeInboundGroupSessionByPreKeyBundle, valid, fits.valid]
  simp only [waiting, listing.pack]
  rfl

theorem newOutbound_some (fits : listing.Matches device.store bundle signPublicKey) :
    newOutboundGroupSessionByReceiver getE2eesPack device.store bundle.groupSeed
      bundle.e2eesPackId listing.receiver bundle.groupInfo.groupName
      bundle.groupInfo.groupAddress bundle.sessionId bundle.groupInfo.groupMemberList =
    some (listing.outbound bundle signPublicKey) := by
  have valid := fits.valid
  have groupInfo := listing.groupInfoValid
  simp only [isValidGroupPreKeyBundle, Bool.and_eq_true] at valid
  simp only [isValidGroupInfo, Bool.and_eq_true] at groupInfo
  rw [newOutboundGroupSessionByReceiver, fits.packId, fits.groupInfo, listing.pack, fits.ownKey]
  simp only [listing.suite, listing.receiverValid, valid, groupInfo, Bool.and_self, if_true]
  rfl

theorem completed_valid (fits : listing.Matches device.store bundle signPublicKey)
    {info : GroupMemberInfo β} (member : info ∈ listing.infos) :
    isValidGroupSession getE2eesPack (listing.completed bundle info) = true := by
  have valid := fits.valid
  simp only [isValidGroupPreKeyBundle, Bool.and_eq_true] at valid
  simp only [isValidGroupSession, isValidGroupSessionHead, completed, waiting, packId_valid,
    valid, address_valid member, listing.receiverValid, listing.groupInfoValid,
    groupChainKey_valid, associatedData_valid member, Bool.and_self]

theorem outbound_valid (fits : listing.Matches device.store bundle signPublicKey) :
    isValidGroupSession getE2eesPack (listing.outbound bundle signPublicKey) = true := by
  have valid := fits.valid
  have sessionId : isValidString bundle.sessionId = true := by
    simp only [isValidGroupPreKeyBundle, Bool.and_eq_true] at valid
    exact valid.1.1.1.2
  have version : isValidString e2eesProtocolVersion = true := rfl
  simp only [isValidGroupSession, isValidGroupSessionHead, outbound,
    insertOutboundGroupSessionData, packId_valid, sessionId, version, listing.receiverValid,
    groupChainKey_valid, groupAssociatedData_of_valid _ fits.keyValid, Bool.and_true,
    Bool.true_and]
  exact listing.groupInfoValid

variable (listing) in
/-- The loop of the bundle handler completes the loaded sessions. -/
def complete (groups : GroupStore β) (bundle : GroupPreKeyBundle β) : GroupStore β :=
  (groups.loadGroupSessions listing.receiver listing.groupInfo.groupAddress).foldl
    (fun groups session => if session.sender = listing.receiver then groups
      else groups.storeResult
        (completeInboundGroupSessionByPreKeyBundle getE2eesPack session bundle)) groups

theorem consumeGroupPreKeyBundle_eq (device : Device β)
    (fits : listing.Matches device.store bundle signPublicKey)
    (present : (listing.unloaded device.groups bundle).loadGroupSessions listing.receiver
      listing.groupInfo.groupAddress ≠ []) :
    consumeGroupPreKeyBundle getE2eesPack device listing.receiver bundle =
      (listing.complete (listing.unloaded device.groups bundle) bundle).storeGroupSession
        (listing.outbound bundle signPublicKey) := by
  rw [consumeGroupPreKeyBundle, newOutbound_some fits, fits.groupInfo]
  refine if_neg ?_
  rw [List.isEmpty_iff]
  exact present

section Waited

variable {groups : GroupStore β} (waits : listing.Waits groups)
  (fits : listing.Matches device.store bundle signPublicKey)

include waits fits

/-- What the loop stores, besides what was there. -/
theorem mem_complete {session : GroupSession β}
    (member : session ∈ (listing.complete groups bundle).entries) :
    session ∈ groups.entries ∨ ∃ info ∈ listing.infos, info.memberAddress ≠ listing.receiver ∧
      session = listing.completed bundle info := by
  obtain old | ⟨loaded, present, -, made⟩ := GroupStore.mem_loop _ member
  · exact .inl old
  · obtain ⟨info, listed, different, rfl⟩ := (waits loaded).mp present
    rw [complete_waiting fits listed, Option.some.injEq] at made
    exact .inr ⟨info, listed, different, made.symm⟩

/-- The turns of the other devices do not touch the sessions of a device. -/
theorem complete_uncovered {info : GroupMemberInfo β} (member : info ∈ listing.infos)
    {session stored : GroupSession β}
    (loaded : session ∈ groups.loadGroupSessions listing.receiver listing.groupInfo.groupAddress)
    (distinct : session ≠ listing.waiting info)
    (made : completeInboundGroupSessionByPreKeyBundle getE2eesPack session bundle = some stored)
    {wanted : GroupKey} (sender : wanted.sender = info.memberAddress) :
    groupSupersession.covers stored.key wanted = false := by
  obtain ⟨other, present, -, rfl⟩ := (waits session).mp loaded
  rw [complete_waiting fits present, Option.some.injEq] at made
  subst made
  apply GroupKey.uncovered_of_sender
  rw [sender]
  apply address_ne member present
  rintro rfl
  exact distinct rfl

theorem lookup_complete {info : GroupMemberInfo β} (member : info ∈ listing.infos)
    (different : info.memberAddress ≠ listing.receiver) :
    (listing.complete groups bundle).lookup (listing.completed bundle info).key =
      some (listing.completed bundle info) := by
  have loaded := (waits _).mpr ⟨info, member, different, rfl⟩
  refine GroupStore.lookup_loop _ loaded different (complete_waiting fits member) rfl ?_
  intro session present distinct stored _ made
  exact complete_uncovered waits fits member present distinct made rfl

/-- The sessions without an identifier are gone. -/
theorem lookup_complete_waiting {info : GroupMemberInfo β} (member : info ∈ listing.infos)
    (different : info.memberAddress ≠ listing.receiver) :
    (listing.complete groups bundle).lookup (listing.waiting info).key = none := by
  have loaded := (waits _).mpr ⟨info, member, different, rfl⟩
  refine KeyedTable.lookup_foldl ?_ ?_ loaded groups
  · intro table
    have kept : ¬(listing.waiting info).sender = listing.receiver := different
    rw [if_neg kept, complete_waiting fits member]
    refine KeyedTable.lookup_insert_covered table ?_ ?_
    · simp [groupSupersession, GroupSession.key, completed, waiting]
    · intro same
      exact fits.sessionId (congrArg GroupKey.sessionId same)
  · intro session present distinct table
    split
    · rfl
    · apply GroupStore.lookup_storeResult_other
      intro stored made
      exact complete_uncovered waits fits member present distinct made rfl

end Waited

/-- This is everything that the device stores for the group after the bundle. -/
theorem mem_consumed (device : Device β) (waits : listing.Waits device.groups)
    (fits : listing.Matches device.store bundle signPublicKey)
    (someone : ∃ info ∈ listing.infos, info.memberAddress ≠ listing.receiver)
    (session : GroupSession β) :
    session ∈ (consumeGroupPreKeyBundle getE2eesPack device listing.receiver
        bundle).loadGroupSessions listing.receiver listing.groupInfo.groupAddress ↔
      (∃ info ∈ listing.infos, info.memberAddress ≠ listing.receiver ∧
        session = listing.completed bundle info) ∨
      session = listing.outbound bundle signPublicKey := by
  have waiting := waits.unloaded bundle
  obtain ⟨first, firstMember, firstDifferent⟩ := someone
  have present := List.ne_nil_of_mem ((waiting _).mpr ⟨first, firstMember, firstDifferent, rfl⟩)
  rw [consumeGroupPreKeyBundle_eq device fits present, GroupStore.mem_loadGroupSessions,
    GroupStore.storeGroupSession, KeyedTable.mem_insert]
  constructor
  · rintro ⟨⟨member, -⟩ | rfl, owner, group⟩
    · obtain old | completed := mem_complete waiting fits member
      · obtain ⟨info, listed, different, rfl⟩ :=
          (waiting session).mp ((GroupStore.mem_loadGroupSessions _).mpr ⟨old, owner, group⟩)
        have gone := lookup_complete_waiting waiting fits listed different
        rw [KeyedTable.lookup_of_mem _ member] at gone
        cases gone
      · exact .inl completed
    · exact .inr rfl
  · rintro (⟨info, listed, different, rfl⟩ | rfl)
    · refine ⟨.inl ⟨KeyedTable.lookup_mem (lookup_complete waiting fits listed different), ?_⟩,
        rfl, rfl⟩
      exact GroupKey.uncovered_of_sender (Ne.symm different)
    · exact ⟨.inr rfl, rfl, rfl⟩

end Completion

end GroupListing

end E2eeSecurity
