/-
This file gives what an addition does to the chains of a group, and shows that the renewals of the
old devices and the bundles for the new ones follow it.
-/
import E2eeSecurity.Group.Chains
import E2eeSecurity.Group.Join

namespace E2eeSecurity

variable {β : Type}

def GroupAddMsg.newDevices (msg : GroupAddMsg β) : List E2eeAddress :=
  msg.infos.map fun info => info.memberAddress

def GroupUpdateKeyBundle.newDevices (bundle : GroupUpdateKeyBundle β) : List E2eeAddress :=
  bundle.addingMemberInfoList.map fun info => info.memberAddress

section Schedule

variable (cipherSuite : CipherSuite β)

/-- The chain of an old device that adds nobody moves on by itself. -/
def GroupChain.renew (chain : GroupChain β) : GroupChain β :=
  ⟨advanceGroupChainKeyByAdd cipherSuite chain.chainKey chain.chainKey, 0⟩

/-- These are the chains of the adder and of the new devices. -/
def joinedChain (adder : E2eeAddress) (infos : List (GroupMemberInfo β)) (chainKey : Bytes β)
    (address : E2eeAddress) : Option (GroupChain β) :=
  let walked := welcomeAndAdd cipherSuite infos chainKey
  if address = adder then some ⟨walked.2, 0⟩
  else ((infos.zip walked.1).find? fun added => added.1.memberAddress = address).map
    fun added => ⟨added.2, 0⟩

/-- This is the chain of a device after an addition. -/
def renewedChain (adder : E2eeAddress) (infos : List (GroupMemberInfo β)) (chainKey : Bytes β)
    (chains : E2eeAddress → Option (GroupChain β)) (address : E2eeAddress) :
    Option (GroupChain β) :=
  (joinedChain cipherSuite adder infos chainKey address).or
    ((chains address).map (GroupChain.renew cipherSuite))

/-- This is the chain of a device that the bundle brings. -/
def GroupUpdateKeyBundle.broughtChain (bundle : GroupUpdateKeyBundle β) (address : E2eeAddress) :
    Option (GroupChain β) :=
  if bundle.adding then
    joinedChain cipherSuite bundle.sender bundle.addingMemberInfoList bundle.chainKey address
  else if address = bundle.sender then
    some ⟨advanceGroupChainKeyByAdd cipherSuite bundle.chainKey bundle.chainKey, 0⟩
  else none

end Schedule

/-- The bundle of the adder brings the chains of all new devices, and every bundle brings the chain
of its sender. -/
def GroupUpdateKeyBundle.Brings (bundle : GroupUpdateKeyBundle β) (address : E2eeAddress) : Prop :=
  address = bundle.sender ∨ (bundle.adding = true ∧ address ∈ bundle.newDevices)

section Schedule

variable {cipherSuite : CipherSuite β} {adder address : E2eeAddress}
  {infos : List (GroupMemberInfo β)} {chainKey : Bytes β} {chain : GroupChain β}

theorem joinedChain_some
    (joined : joinedChain cipherSuite adder infos chainKey address = some chain) :
    (address = adder ∧ chain = ⟨(welcomeAndAdd cipherSuite infos chainKey).2, 0⟩) ∨
      ∃ info theirs, (info, theirs) ∈ infos.zip (welcomeAndAdd cipherSuite infos chainKey).1 ∧
        info.memberAddress = address ∧ chain = ⟨theirs, 0⟩ := by
  unfold joinedChain at joined
  dsimp only at joined
  split at joined
  next same => exact .inl ⟨same, (Option.some.inj joined).symm⟩
  · obtain ⟨⟨info, theirs⟩, found, rfl⟩ := Option.map_eq_some_iff.mp joined
    have sameAddress := List.find?_some found
    rw [decide_eq_true_eq] at sameAddress
    exact .inr ⟨info, theirs, List.mem_of_find?_eq_some found, sameAddress, rfl⟩

/-- Every new device has a welcome key. -/
theorem mem_welcome_iff {info : GroupMemberInfo β} :
    info ∈ infos ↔
      ∃ theirs, (info, theirs) ∈ infos.zip (welcomeAndAdd cipherSuite infos chainKey).1 := by
  have listed : (infos.zip (welcomeAndAdd cipherSuite infos chainKey).1).map Prod.fst = infos :=
    List.map_fst_zip (welcomeAndAdd_length _ _ _).ge
  generalize (welcomeAndAdd cipherSuite infos chainKey).1 = keys at listed ⊢
  conv_lhs => rw [← listed]
  simp

theorem joinedChain_isSome :
    (joinedChain cipherSuite adder infos chainKey address).isSome = true ↔
      address = adder ∨ address ∈ infos.map fun info => info.memberAddress := by
  unfold joinedChain
  dsimp only
  split
  next same => simp [same]
  next other =>
    rw [Option.isSome_map, List.find?_isSome, or_iff_right other]
    simp [@mem_welcome_iff _ cipherSuite infos chainKey]

theorem joinedChain_none (other : address ≠ adder)
    (old : address ∉ infos.map fun info => info.memberAddress) :
    joinedChain cipherSuite adder infos chainKey address = none := by
  rw [← Option.isNone_iff_eq_none, ← Option.not_isSome, Bool.not_eq_true', ← Bool.not_eq_true,
    joinedChain_isSome]
  exact not_or.mpr ⟨other, old⟩

theorem GroupUpdateKeyBundle.broughtChain_isSome {bundle : GroupUpdateKeyBundle β} :
    (bundle.broughtChain cipherSuite address).isSome = true ↔ bundle.Brings address := by
  unfold GroupUpdateKeyBundle.broughtChain GroupUpdateKeyBundle.Brings
  cases adding : bundle.adding with
  | true =>
      rw [if_pos rfl, joinedChain_isSome]
      simp [GroupUpdateKeyBundle.newDevices]
  | false => simp [Option.isSome_ite]

theorem GroupUpdateKeyBundle.brings_of_broughtChain {bundle : GroupUpdateKeyBundle β}
    {chain : GroupChain β} (brought : bundle.broughtChain cipherSuite address = some chain) :
    bundle.Brings address := by
  rw [← @broughtChain_isSome _ cipherSuite, brought]
  rfl

end Schedule

section Renewal

variable {getE2eesPack : Packs β}

namespace GroupFrame

/-- The owner has the chains of the group, and this is its renewal for an addition. -/
structure Renewing (frame : GroupFrame getE2eesPack)
    (chains : E2eeAddress → Option (GroupChain β)) (adder owner : E2eeAddress)
    (adderChain : GroupChain β) (renewal : GroupRenewal getE2eesPack) : Prop where
  held : ∀ sender chain, chains sender = some chain →
    frame.Holds renewal.device.groups sender owner chain
  tidy : frame.Tidy renewal.device.groups owner
  store : renewal.device.store = frame.stores owner
  outbound : renewal.device.groups.lookup (frame.key owner owner) = some renewal.outbound
  own : ∃ ownChain, chains owner = some ownChain
  adding : chains adder = some adderChain
  senderAddress : renewal.senderAddress = adder
  senderChainKey : renewal.senderChainKey =
    if owner = adder then none else some adderChain.chainKey
  fresh : ∀ info ∈ renewal.infos, chains info.memberAddress = none
  distinct : (renewal.infos.map fun info => info.memberAddress).Nodup
  signed : ∀ info ∈ renewal.infos, info.signPublicKey = frame.signPublicKey info.memberAddress

namespace Renewing

variable {frame : GroupFrame getE2eesPack} {chains : E2eeAddress → Option (GroupChain β)}
  {adder owner : E2eeAddress} {adderChain : GroupChain β} {renewal : GroupRenewal getE2eesPack}
  (renewing : frame.Renewing chains adder owner adderChain renewal)

include renewing

theorem outbound_key : renewal.outbound.key = frame.key owner owner :=
  KeyedTable.lookup_key renewing.outbound

theorem outbound_carries {chain : GroupChain β} (own : chains owner = some chain) :
    frame.Carries owner chain renewal.outbound := by
  obtain ⟨session, found, carries⟩ := renewing.held owner chain own
  rw [renewing.outbound, Option.some.injEq] at found
  rw [found]
  exact carries

theorem cipherSuite : renewal.cipherSuite = frame.cipherSuite := by
  obtain ⟨chain, own⟩ := renewing.own
  have pack := renewal.pack
  rw [(renewing.outbound_carries own).pack, Option.some.injEq] at pack
  exact pack.symm

/-- The new devices have no chain yet. -/
theorem apart {sender : E2eeAddress} {chain : GroupChain β} (known : chains sender = some chain) :
    ∀ info ∈ renewal.infos, info.memberAddress ≠ sender := by
  rintro info listed rfl
  rw [renewing.fresh info listed] at known
  cases known

/-- All devices walk the chain of the adder over the new devices. -/
theorem keys_eq {chain : GroupChain β} (own : chains owner = some chain) :
    renewal.keys = ((welcomeAndAdd frame.cipherSuite renewal.infos adderChain.chainKey).1,
      if owner = adder then (welcomeAndAdd frame.cipherSuite renewal.infos adderChain.chainKey).2
      else (chain.renew frame.cipherSuite).chainKey,
      if owner = adder then none
      else some (welcomeAndAdd frame.cipherSuite renewal.infos adderChain.chainKey).2) := by
  have ownKey := (renewing.outbound_carries own).chainKey
  rw [GroupRenewal.keys, renewing.cipherSuite, renewing.senderChainKey]
  by_cases isAdder : owner = adder
  · subst isAdder
    rw [renewing.adding, Option.some.injEq] at own
    rw [if_pos rfl, if_pos rfl, if_pos rfl, own, ← ownKey]
    rfl
  · rw [if_neg isAdder, if_neg isAdder, if_neg isAdder, GroupChain.renew, ← ownKey]
    rfl

theorem welcomed_eq : renewal.welcomed = renewal.infos.zip
    (welcomeAndAdd frame.cipherSuite renewal.infos adderChain.chainKey).1 := by
  obtain ⟨chain, own⟩ := renewing.own
  rw [GroupRenewal.welcomed, renewing.keys_eq own]

/-- The outbound chain follows the schedule. -/
theorem holds_own {chain next : GroupChain β} (own : chains owner = some chain)
    (nextKey : next.chainKey = renewal.keys.2.1) (reset : next.sequence = 0) :
    frame.Holds renewal.finish owner owner next := by
  have carries := renewing.outbound_carries own
  have outboundSender : renewal.outbound.sender = owner :=
    congrArg GroupKey.sender renewing.outbound_key
  refine ⟨renewal.next, ?_, renewal.next_valid, carries.e2eesPackId, nextKey.symm, reset.symm,
    carries.associatedData⟩
  rw [← renewing.outbound_key]
  refine renewal.finish_outbound ?_
  rw [outboundSender]
  exact renewing.apart own

/-- An inbound chain follows the schedule. -/
theorem holds_inbound {sender : E2eeAddress} {chain next : GroupChain β}
    (known : chains sender = some chain) (inbound : sender ≠ owner)
    (nextKey : ∀ session : GroupSession β, session.sender = sender →
      session.chainKey = chain.chainKey →
      (renewal.renewed session frame.cipherSuite).chainKey = next.chainKey)
    (nextValid : isValidProtobuf next.chainKey = true) (reset : next.sequence = 0) :
    frame.Holds renewal.finish sender owner next := by
  obtain ⟨session, found, carries⟩ := renewing.held sender chain known
  have key : session.key = frame.key sender owner := KeyedTable.lookup_key found
  have outboundKey := renewing.outbound_key
  have sameKey := nextKey session (congrArg GroupKey.sender key) carries.chainKey
  refine ⟨renewal.renewed session frame.cipherSuite, ?_, ?_, carries.e2eesPackId, sameKey,
    reset.symm, carries.associatedData⟩
  · rw [← key]
    refine renewal.finish_inbound (KeyedTable.lookup_mem found) ?_ ?_ ?_ carries.valid carries.pack
      ?_
    · exact (congrArg GroupKey.sessionOwner key).trans
        (congrArg GroupKey.sessionOwner outboundKey).symm
    · exact (congrArg GroupKey.groupAddress key).trans
        (congrArg GroupKey.groupAddress outboundKey).symm
    · rw [show session.sender = sender from congrArg GroupKey.sender key,
        show renewal.outbound.sender = owner from congrArg GroupKey.sender outboundKey]
      exact inbound
    · rw [show session.sender = sender from congrArg GroupKey.sender key]
      exact renewing.apart known
  · refine renewal.renewed_valid _ carries.valid ?_
    rw [sameKey]
    exact nextValid

/-- The chain of a new device follows the schedule. -/
theorem holds_added {info : GroupMemberInfo β} {theirs : Bytes β}
    (assigned : (info, theirs) ∈ renewal.welcomed) :
    frame.Holds renewal.finish info.memberAddress owner ⟨theirs, 0⟩ := by
  obtain ⟨chain, own⟩ := renewing.own
  have carries := renewing.outbound_carries own
  refine ⟨renewal.added info theirs, ?_, renewal.added_valid assigned, carries.e2eesPackId, rfl,
    rfl, ?_⟩
  · have found := renewal.finish_added renewing.distinct assigned
    rw [renewing.outbound_key] at found
    exact found
  · rw [GroupRenewal.added, renewing.cipherSuite,
      renewing.signed info (renewal.welcomed_info assigned)]

theorem adder_valid : isValidProtobuf adderChain.chainKey = true := by
  obtain ⟨session, -, carries⟩ := renewing.held adder adderChain renewing.adding
  exact carries.chainKey_valid

theorem holds_adder : frame.Holds renewal.finish adder owner
    ⟨(welcomeAndAdd frame.cipherSuite renewal.infos adderChain.chainKey).2, 0⟩ := by
  by_cases isAdder : owner = adder
  · subst isAdder
    refine renewing.holds_own renewing.adding ?_ rfl
    rw [renewing.keys_eq renewing.adding, if_pos rfl]
  · refine renewing.holds_inbound renewing.adding (Ne.symm isAdder) ?_
      (welcomeAndAdd_valid _ _ renewing.adder_valid) rfl
    intro session sender _
    have given : renewal.senderChainKey = some adderChain.chainKey := by
      rw [renewing.senderChainKey, if_neg isAdder]
    rw [renewal.renewed_sender (renewing.senderAddress.trans sender.symm) given,
      renewing.cipherSuite]

theorem holds_member {sender : E2eeAddress} {chain : GroupChain β}
    (known : chains sender = some chain) (notAdder : sender ≠ adder) :
    frame.Holds renewal.finish sender owner (chain.renew frame.cipherSuite) := by
  by_cases isOwner : sender = owner
  · subst isOwner
    refine renewing.holds_own known ?_ rfl
    rw [renewing.keys_eq known, if_neg notAdder]
  · obtain ⟨stored, -, carries⟩ := renewing.held sender chain known
    refine renewing.holds_inbound known isOwner ?_
      (advanceGroupChainKeyByAdd_valid _ _ carries.chainKey_valid) rfl
    intro session isSender chainKey
    have other : renewal.senderAddress ≠ session.sender := by
      rw [renewing.senderAddress, isSender]
      exact notAdder.symm
    rw [renewal.renewed_other other, chainKey]
    rfl

/-- The device follows the schedule. -/
theorem holds_renewed {sender : E2eeAddress} {next : GroupChain β}
    (renewed : renewedChain frame.cipherSuite adder renewal.infos adderChain.chainKey chains sender =
      some next) : frame.Holds renewal.finish sender owner next := by
  unfold renewedChain at renewed
  cases joined : joinedChain frame.cipherSuite adder renewal.infos adderChain.chainKey sender with
  | some chain =>
      rw [joined, Option.some_or, Option.some.injEq] at renewed
      subst renewed
      obtain ⟨rfl, rfl⟩ | ⟨info, theirs, assigned, rfl, rfl⟩ := joinedChain_some joined
      · exact renewing.holds_adder
      · refine renewing.holds_added ?_
        rw [renewing.welcomed_eq]
        exact assigned
  | none =>
      rw [joined, Option.none_or] at renewed
      obtain ⟨chain, known, rfl⟩ := Option.map_eq_some_iff.mp renewed
      refine renewing.holds_member known ?_
      rintro rfl
      simp [joinedChain] at joined

theorem tidy_finish : frame.Tidy renewal.finish owner := by
  have key := renewing.outbound_key
  have sessionId : renewal.outbound.sessionId = frame.sessionId :=
    congrArg GroupKey.sessionId key
  have group : renewal.outbound.groupInfo.groupAddress = frame.groupAddress :=
    congrArg GroupKey.groupAddress key
  intro session present isOwner
  obtain before | rfl | ⟨old, cipherSuite, before, oldOwner, oldGroup, -, -, -, rfl⟩ |
    ⟨info, theirs, -, rfl⟩ := renewal.mem_finish present
  · exact renewing.tidy session before isOwner
  · exact iff_of_true group sessionId
  · refine iff_of_true group ?_
    exact (renewing.tidy old before isOwner).mp (oldGroup.trans group)
  · exact iff_of_true group sessionId

end Renewing

end GroupFrame

end Renewal

section Bundles

variable {getE2eesPack : Packs β}

namespace GroupFrame

/-- This is a bundle of the group for its new devices. -/
structure Bundled (frame : GroupFrame getE2eesPack) (bundle : GroupUpdateKeyBundle β) : Prop where
  valid : isValidGroupUpdateKeyBundle getE2eesPack bundle = true
  e2eesPackId : bundle.e2eesPackId = frame.e2eesPackId
  sessionId : bundle.sessionId = frame.sessionId
  groupAddress : bundle.groupInfo.groupAddress = frame.groupAddress
  signPublicKey : bundle.signPublicKey = frame.signPublicKey bundle.sender
  distinct : bundle.newDevices.Nodup
  signed : ∀ info ∈ bundle.addingMemberInfoList,
    info.signPublicKey = frame.signPublicKey info.memberAddress
  apart : bundle.sender ∉ bundle.newDevices

namespace Renewing

variable {frame : GroupFrame getE2eesPack} {chains : E2eeAddress → Option (GroupChain β)}
  {adder owner : E2eeAddress} {adderChain : GroupChain β} {renewal : GroupRenewal getE2eesPack}
  (renewing : frame.Renewing chains adder owner adderChain renewal)

include renewing

theorem bundle_sender : renewal.bundle.sender = owner :=
  congrArg GroupKey.sender renewing.outbound_key

theorem bundle_adding : renewal.bundle.adding = decide (owner = adder) := by
  rw [GroupRenewal.bundle, packGroupRatchetStatePlaintext, renewing.senderChainKey]
  by_cases isAdder : owner = adder
  · simp [isAdder]
  · simp [isAdder]

theorem owner_old : owner ∉ renewal.infos.map fun info => info.memberAddress := by
  obtain ⟨chain, own⟩ := renewing.own
  intro listed
  obtain ⟨info, new, same⟩ := List.mem_map.mp listed
  exact renewing.apart own info new same

theorem bundled (standing : frame.Standing owner) : frame.Bundled renewal.bundle := by
  obtain ⟨chain, own⟩ := renewing.own
  have carries := renewing.outbound_carries own
  have key := renewing.outbound_key
  have signed : renewal.signPublicKey = frame.signPublicKey owner := by
    have authorised := renewal.authorised
    rw [renewing.store, show renewal.outbound.sessionOwner = owner from
      congrArg GroupKey.sessionOwner key, standing.authorised, Option.some.injEq] at authorised
    exact authorised.symm
  have signedValid : isValidProtobuf renewal.signPublicKey = true := by
    rw [signed]
    exact isValidProtobuf_of_length standing.length frame.cipherSuite.ds.signPubKeyLenPositive
  have head := renewal.next_noChainKey
  simp only [isValidGroupSessionNoChainKey, isValidGroupSessionHead, Bool.and_eq_true] at head
  have chainKey := carries.chainKey_valid
  rw [← carries.chainKey] at chainKey
  refine ⟨?_, carries.e2eesPackId, congrArg GroupKey.sessionId key,
    congrArg GroupKey.groupAddress key, ?_, renewing.distinct, renewing.signed, ?_⟩
  · simp only [isValidGroupUpdateKeyBundle, Bool.and_eq_true]
    exact ⟨⟨⟨⟨⟨⟨⟨head.1.1.1.1.1.1, head.1.1.1.1.1.2⟩, head.1.1.1.1.2⟩, head.1.1.1.2⟩, head.1.2⟩,
      chainKey⟩, signedValid⟩, renewal.infosValid⟩
  · rw [renewing.bundle_sender]
    exact signed
  · rw [renewing.bundle_sender]
    exact renewing.owner_old

/-- The bundle brings what the schedule says. -/
theorem brought_renewed {sender : E2eeAddress} {next : GroupChain β}
    (brought : renewal.bundle.broughtChain frame.cipherSuite sender = some next) :
    renewedChain frame.cipherSuite adder renewal.infos adderChain.chainKey chains sender =
      some next := by
  obtain ⟨chain, own⟩ := renewing.own
  have ownKey : renewal.bundle.chainKey = chain.chainKey :=
    (renewing.outbound_carries own).chainKey
  rw [GroupUpdateKeyBundle.broughtChain, renewing.bundle_adding, renewing.bundle_sender,
    ownKey] at brought
  by_cases isAdder : owner = adder
  · subst isAdder
    rw [renewing.adding, Option.some.injEq] at own
    subst own
    rw [decide_eq_true rfl, if_pos rfl] at brought
    change joinedChain frame.cipherSuite owner renewal.infos adderChain.chainKey sender = some next
      at brought
    rw [renewedChain, brought, Option.some_or]
  · rw [decide_eq_false isAdder, if_neg Bool.false_ne_true,
      Option.ite_none_right_eq_some] at brought
    obtain ⟨rfl, same⟩ := brought
    rw [renewedChain, joinedChain_none isAdder renewing.owner_old, Option.none_or, own]
    exact same

end Renewing

namespace Bundled

variable {frame : GroupFrame getE2eesPack} {bundle : GroupUpdateKeyBundle β}
  {owner : E2eeAddress} (bundled : frame.Bundled bundle) (standing : frame.Standing owner)
  (new : owner ∈ bundle.newDevices)

include bundled

theorem key_eq (sender : E2eeAddress) : bundle.key sender owner = frame.key sender owner := by
  rw [GroupUpdateKeyBundle.key, bundled.sessionId, bundled.groupAddress]
  rfl

theorem pack : getE2eesPack bundle.e2eesPackId = some frame.cipherSuite := by
  rw [bundled.e2eesPackId]
  exact frame.pack

theorem chainKey_valid : isValidProtobuf bundle.chainKey = true := by
  have valid := bundled.valid
  simp only [isValidGroupUpdateKeyBundle, Bool.and_eq_true] at valid
  exact valid.1.1.2

include standing in
theorem stated_carries {chainKey : Bytes β} (valid : isValidProtobuf chainKey = true) :
    frame.Carries bundle.sender ⟨chainKey, 0⟩
      (bundle.stated frame.cipherSuite owner chainKey) := by
  refine ⟨GroupUpdateKeyBundle.stated_valid bundled.valid standing.valid valid,
    bundled.e2eesPackId, rfl, rfl, ?_⟩
  rw [GroupUpdateKeyBundle.stated, bundled.signPublicKey]

include standing new in
theorem exists_invites (adding : bundle.adding = true) :
    ∃ info theirs, info.memberAddress = owner ∧ bundle.Invites frame.cipherSuite getE2eesPack
      (frame.stores owner) (frame.signPublicKey owner) info theirs := by
  obtain ⟨info, listed, rfl⟩ := List.mem_map.mp new
  obtain ⟨theirs, assigned⟩ := mem_welcome_iff.mp listed
  refine ⟨info, theirs, rfl, adding, bundled.pack, bundled.valid, standing.loadSign, ?_,
    bundled.distinct, ?_, assigned⟩
  · exact isValidProtobuf_of_length standing.length frame.cipherSuite.ds.signPubKeyLenPositive
  · intro other otherListed same
    exact bundled.apart (same ▸ List.mem_map_of_mem otherListed)

theorem fellow_carries {owner other : GroupMemberInfo β} {theirs otherKey : Bytes β}
    (invites : bundle.Invites frame.cipherSuite getE2eesPack (frame.stores owner.memberAddress)
      (frame.signPublicKey owner.memberAddress) owner theirs)
    (assigned : (other, otherKey) ∈ bundle.welcomed frame.cipherSuite) :
    frame.Carries other.memberAddress ⟨otherKey, 0⟩ (bundle.fellow frame.cipherSuite
      owner.memberAddress (frame.signPublicKey owner.memberAddress) other otherKey) := by
  have listed := GroupUpdateKeyBundle.welcomed_listed assigned
  have full : frame.cipherSuite.FullKey otherKey :=
    welcomeAndAdd_welcome_full _ _ (List.of_mem_zip assigned).2
  refine ⟨invites.fellow_valid listed full.valid, bundled.e2eesPackId, rfl, rfl, ?_⟩
  rw [GroupUpdateKeyBundle.fellow, bundled.signed other listed]

theorem joined_carries {owner : GroupMemberInfo β} {theirs : Bytes β}
    (invites : bundle.Invites frame.cipherSuite getE2eesPack (frame.stores owner.memberAddress)
      (frame.signPublicKey owner.memberAddress) owner theirs) :
    frame.Carries owner.memberAddress ⟨theirs, 0⟩ { bundle.joined frame.cipherSuite
      owner.memberAddress (frame.signPublicKey owner.memberAddress) with chainKey := theirs } := by
  have full : frame.cipherSuite.FullKey theirs :=
    welcomeAndAdd_welcome_full _ _ (List.of_mem_zip invites.assigned).2
  exact ⟨invites.joined_valid full.valid, bundled.e2eesPackId, rfl, rfl, rfl⟩

include standing new in
/-- A new device holds the chains that the bundle brings. -/
theorem holds (groups : GroupStore β) {sender : E2eeAddress} {chain : GroupChain β}
    (brought : bundle.broughtChain frame.cipherSuite sender = some chain) :
    frame.Holds (consumeGroupUpdateKeyBundle getE2eesPack ⟨frame.stores owner, groups⟩ owner bundle)
      sender owner chain := by
  unfold GroupUpdateKeyBundle.broughtChain at brought
  cases adding : bundle.adding with
  | false =>
      rw [adding, if_neg Bool.false_ne_true, Option.ite_none_right_eq_some] at brought
      obtain ⟨rfl, same⟩ := brought
      obtain rfl := Option.some.inj same
      rw [GroupUpdateKeyBundle.consume_renewing adding bundled.pack bundled.valid standing.valid]
      exact .store (bundled.stated_carries standing
        (advanceGroupChainKeyByAdd_valid _ _ bundled.chainKey_valid)) (bundled.key_eq _)
  | true =>
      obtain ⟨info, theirs, rfl, invites⟩ := bundled.exists_invites standing new adding
      rw [adding, if_pos rfl] at brought
      obtain ⟨rfl, rfl⟩ | ⟨other, otherKey, assigned, rfl, rfl⟩ := joinedChain_some brought
      · refine ⟨_, ?_, bundled.stated_carries standing invites.walked_valid⟩
        rw [← bundled.key_eq]
        exact invites.lookup_sender groups
      · by_cases own : other.memberAddress = info.memberAddress
        · obtain ⟨rfl, rfl⟩ : other = info ∧ otherKey = theirs := by
            rw [← Prod.mk.injEq]
            by_contra different
            exact welcome_address_ne (welcomeAndAdd_length _ _ _).ge bundled.distinct
              invites.assigned assigned different own
          refine ⟨_, ?_, bundled.joined_carries invites⟩
          rw [← bundled.key_eq]
          exact invites.lookup_own groups
        · refine ⟨_, ?_, bundled.fellow_carries invites assigned⟩
          rw [← bundled.key_eq]
          exact invites.lookup_fellow assigned own groups

include standing new in
/-- The other chains stay as they are. -/
theorem lookup_other (groups : GroupStore β) {sender : E2eeAddress}
    (unbrought : ¬bundle.Brings sender) :
    (consumeGroupUpdateKeyBundle getE2eesPack ⟨frame.stores owner, groups⟩ owner bundle).lookup
      (frame.key sender owner) = groups.lookup (frame.key sender owner) := by
  have notSender : bundle.sender ≠ sender := fun same => unbrought (.inl same.symm)
  cases adding : bundle.adding with
  | false =>
      rw [GroupUpdateKeyBundle.consume_renewing adding bundled.pack bundled.valid standing.valid]
      exact lookup_store_other notSender
  | true =>
      obtain ⟨info, theirs, rfl, invites⟩ := bundled.exists_invites standing new adding
      refine invites.lookup_other notSender ?_ groups
      rintro other listed rfl
      exact unbrought (.inr ⟨adding, List.mem_map_of_mem listed⟩)

include standing new in
theorem tidy {groups : GroupStore β} (tidy : frame.Tidy groups owner) :
    frame.Tidy (consumeGroupUpdateKeyBundle getE2eesPack ⟨frame.stores owner, groups⟩ owner bundle)
      owner := by
  cases adding : bundle.adding with
  | false =>
      rw [GroupUpdateKeyBundle.consume_renewing adding bundled.pack bundled.valid standing.valid]
      exact tidy.store (bundled.key_eq _)
  | true =>
      obtain ⟨info, theirs, rfl, invites⟩ := bundled.exists_invites standing new adding
      intro session present isOwner
      obtain before | ⟨writer, -, key⟩ := invites.mem_consume present
      · exact tidy session before isOwner
      · rw [bundled.key_eq] at key
        exact iff_of_true (congrArg GroupKey.groupAddress key) (congrArg GroupKey.sessionId key)

end Bundled

end GroupFrame

end Bundles

end E2eeSecurity
