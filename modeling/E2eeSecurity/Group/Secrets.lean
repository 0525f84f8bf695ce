/-
This file gives the secrets that the stored group sessions hold, and shows for every handler that
the secrets it leaves go back to earlier ones.
-/
import E2eeSecurity.Library.Lineage
import E2eeSecurity.Group.Order
import E2eeSecurity.Group.Renewal

namespace E2eeSecurity

variable {β : Type}

/-- These are the three kinds of keys of a group. -/
inductive GroupSecret (β : Type)
  | seed (groupSeed : Bytes β)
  | chain (chainKey : Bytes β)
  | message (messageKey : Bytes β)

/-- These are the derivations that everyone can make. -/
inductive GroupSecret.Gives (getE2eesPack : Packs β) : GroupSecret β → GroupSecret β → Prop
  | first {e2eesPackId : UInt32} {cipherSuite : CipherSuite β}
      (pack : getE2eesPack e2eesPackId = some cipherSuite) (groupSeed signPublicKey : Bytes β) :
      Gives getE2eesPack (.seed groupSeed)
        (.chain (cipherSuite.groupChainKey groupSeed signPublicKey))
  | advance {e2eesPackId : UInt32} {cipherSuite : CipherSuite β}
      (pack : getE2eesPack e2eesPackId = some cipherSuite) (chainKey : Bytes β) :
      Gives getE2eesPack (.chain chainKey) (.chain (cipherSuite.advance chainKey))
  | welcome {e2eesPackId : UInt32} {cipherSuite : CipherSuite β}
      (pack : getE2eesPack e2eesPackId = some cipherSuite) (chainKey : Bytes β) :
      Gives getE2eesPack (.chain chainKey)
        (.chain (advanceGroupChainKeyByWelcome cipherSuite chainKey))
  | add {e2eesPackId : UInt32} {cipherSuite : CipherSuite β}
      (pack : getE2eesPack e2eesPackId = some cipherSuite) (chainKey : Bytes β) :
      Gives getE2eesPack (.chain chainKey) (.chain (cipherSuite.added chainKey))
  | messageKey {e2eesPackId : UInt32} {cipherSuite : CipherSuite β}
      (pack : getE2eesPack e2eesPackId = some cipherSuite) (chainKey : Bytes β) :
      Gives getE2eesPack (.chain chainKey) (.message (createGroupMessageKey cipherSuite chainKey))

/-- The key schedules of all packs together have no collisions, no key leads back to itself, and
the keys are equally long. -/
structure FreeGroupSchedule (getE2eesPack : Packs β) : Prop where
  injective : ∀ {firstId secondId : UInt32} {firstSuite secondSuite : CipherSuite β}
    {first second : GroupDerivation β}, getE2eesPack firstId = some firstSuite →
    getE2eesPack secondId = some secondSuite →
    firstSuite.deriveGroup first = secondSuite.deriveGroup second → first = second
  grounded : ∃ rank : Bytes β → Nat, ∀ {e2eesPackId : UInt32} {cipherSuite : CipherSuite β},
    getE2eesPack e2eesPackId = some cipherSuite → ∀ derivation : GroupDerivation β,
    rank derivation.source < rank (cipherSuite.deriveGroup derivation)
  equalLengths : ∀ {firstId secondId : UInt32} {firstSuite secondSuite : CipherSuite β},
    getE2eesPack firstId = some firstSuite → getE2eesPack secondId = some secondSuite →
    firstSuite.hf.hfLen = secondSuite.hf.hfLen

theorem CipherSuite.FreeGroupKeys.schedule {cipherSuite : CipherSuite β}
    (free : cipherSuite.FreeGroupKeys) : FreeGroupSchedule fun _ => some cipherSuite where
  injective := by
    rintro _ _ _ _ _ _ ⟨⟩ ⟨⟩ same
    exact free.injective same
  grounded := by
    obtain ⟨rank, grows⟩ := free.grounded
    refine ⟨rank, ?_⟩
    rintro _ _ ⟨⟩
    exact grows
  equalLengths := by
    rintro _ _ _ _ ⟨⟩ ⟨⟩
    rfl

section Schedule

variable {getE2eesPack : Packs β} (free : FreeGroupSchedule getE2eesPack)

include free

/-- No secret leads back to itself. -/
theorem FreeGroupSchedule.forward {secret next : GroupSecret β}
    (leads : Relation.TransGen (GroupSecret.Gives getE2eesPack) secret next) :
    ¬Relation.ReflTransGen (GroupSecret.Gives getE2eesPack) next secret := by
  obtain ⟨rank, grows⟩ := free.grounded
  let height : GroupSecret β → Nat
    | .seed _ => 0
    | .chain chainKey => rank chainKey + 1
    | .message messageKey => rank messageKey + 1
  refine Lineage.irreflexive_of_rank height ?_ leads
  intro value next gives
  cases gives with
  | first pack groupSeed signPublicKey => exact Nat.succ_pos _
  | advance pack chainKey => exact Nat.succ_lt_succ (grows pack (.advance chainKey))
  | welcome pack chainKey => exact Nat.succ_lt_succ (grows pack (.welcome chainKey))
  | add pack chainKey => exact Nat.succ_lt_succ (grows pack (.add chainKey))
  | messageKey pack chainKey => exact Nat.succ_lt_succ (grows pack (.messageKey chainKey))

/-- A chain key is needed to know its message key. -/
theorem FreeGroupSchedule.chain_of_message {e2eesPackId : UInt32} {cipherSuite : CipherSuite β}
    (pack : getE2eesPack e2eesPackId = some cipherSuite) {chainKey : Bytes β}
    {secret : GroupSecret β} (held : ∀ messageKey, secret ≠ .message messageKey)
    (leads : Relation.ReflTransGen (GroupSecret.Gives getE2eesPack) secret
      (.message (createGroupMessageKey cipherSuite chainKey))) :
    Relation.ReflTransGen (GroupSecret.Gives getE2eesPack) secret (.chain chainKey) := by
  obtain same | ⟨before, path, last⟩ := Relation.ReflTransGen.cases_tail leads
  · exact absurd same.symm (held _)
  · generalize target : GroupSecret.message (createGroupMessageKey cipherSuite chainKey) = secret
      at last
    cases last with
    | messageKey otherPack other =>
        have same := @free.injective _ _ _ _ (.messageKey chainKey) (.messageKey other) pack
          otherPack (GroupSecret.message.inj target)
        rw [GroupDerivation.messageKey.inj same]
        exact path
    | _ => cases target

end Schedule

section Origins

variable (getE2eesPack : Packs β)

/-- The chain key has the length of the hash. -/
def IsFullKey (chainKey : Bytes β) : Prop :=
  ∀ (e2eesPackId : UInt32) (cipherSuite : CipherSuite β),
    getE2eesPack e2eesPackId = some cipherSuite → cipherSuite.FullKey chainKey

/-- The chain key is whole and goes back to a known secret. -/
structure ChainKeyFrom (known : Set (GroupSecret β)) (chainKey : Bytes β) : Prop where
  full : IsFullKey getE2eesPack chainKey
  traced : Lineage.Traced (GroupSecret.Gives getE2eesPack) known (.chain chainKey)

/-- An empty key is no key. -/
structure GroupSession.Comes (known : Set (GroupSecret β)) (session : GroupSession β) : Prop where
  chainKey : session.chainKey ≠ [] → ChainKeyFrom getE2eesPack known session.chainKey
  groupSeed : session.groupSeed ≠ [] →
    Lineage.Traced (GroupSecret.Gives getE2eesPack) known (.seed session.groupSeed)

def GroupStore.Comes (known : Set (GroupSecret β)) (groups : GroupStore β) : Prop :=
  ∀ session ∈ groups.entries, session.Comes getE2eesPack known

/-- These are the seed and the chain key of a session, as far as it has them. -/
inductive GroupSession.Holds (session : GroupSession β) : GroupSecret β → Prop
  | chain (nonempty : session.chainKey ≠ []) : Holds session (.chain session.chainKey)
  | seed (nonempty : session.groupSeed ≠ []) : Holds session (.seed session.groupSeed)

def GroupStore.secrets (groups : GroupStore β) : Set (GroupSecret β) :=
  {secret | ∃ session ∈ groups.entries, session.Holds secret}

variable {getE2eesPack}

theorem GroupSession.Holds.not_message {session : GroupSession β} {secret : GroupSecret β}
    (holds : session.Holds secret) (messageKey : Bytes β) : secret ≠ .message messageKey := by
  cases holds with
  | chain nonempty => simp
  | seed nonempty => simp

theorem GroupSession.Comes.traced {known : Set (GroupSecret β)} {session : GroupSession β}
    (comes : session.Comes getE2eesPack known) {secret : GroupSecret β}
    (holds : session.Holds secret) :
    Lineage.Traced (GroupSecret.Gives getE2eesPack) known secret := by
  cases holds with
  | chain nonempty => exact (comes.chainKey nonempty).traced
  | seed nonempty => exact comes.groupSeed nonempty

theorem GroupStore.Comes.traced {known : Set (GroupSecret β)} {groups : GroupStore β}
    (comes : groups.Comes getE2eesPack known) {secret : GroupSecret β}
    (held : secret ∈ groups.secrets) :
    Lineage.Traced (GroupSecret.Gives getE2eesPack) known secret := by
  obtain ⟨session, present, holds⟩ := held
  exact (comes session present).traced holds

/-- What a store holds goes back to itself. -/
theorem GroupStore.comes_self {groups : GroupStore β}
    (full : ∀ session ∈ groups.entries, session.chainKey ≠ [] →
      IsFullKey getE2eesPack session.chainKey) {known : Set (GroupSecret β)}
    (subset : groups.secrets ⊆ known) : groups.Comes getE2eesPack known := by
  intro session present
  refine ⟨fun nonempty => ⟨full session present nonempty, .of_mem (subset ?_)⟩,
    fun nonempty => .of_mem (subset ?_)⟩
  · exact ⟨session, present, .chain nonempty⟩
  · exact ⟨session, present, .seed nonempty⟩

theorem GroupSession.chainKey_ne {session : GroupSession β}
    (valid : isValidGroupSession getE2eesPack session = true) : session.chainKey ≠ [] := by
  intro empty
  simp [isValidGroupSession, isValidProtobuf, empty] at valid

theorem GroupSession.Comes.usable {known : Set (GroupSecret β)} {session : GroupSession β}
    (comes : session.Comes getE2eesPack known)
    (valid : isValidGroupSession getE2eesPack session = true) :
    ChainKeyFrom getE2eesPack known session.chainKey :=
  comes.chainKey (GroupSession.chainKey_ne valid)

section Derivations

variable (free : FreeGroupSchedule getE2eesPack) {e2eesPackId : UInt32}
  {cipherSuite : CipherSuite β} (pack : getE2eesPack e2eesPackId = some cipherSuite)
  {known : Set (GroupSecret β)}

include free pack

theorem FreeGroupSchedule.isFullKey {chainKey : Bytes β} (full : cipherSuite.FullKey chainKey) :
    IsFullKey getE2eesPack chainKey := by
  intro otherId otherSuite otherPack
  exact Eq.trans full (free.equalLengths pack otherPack)

theorem ChainKeyFrom.first {groupSeed : Bytes β}
    (traced : Lineage.Traced (GroupSecret.Gives getE2eesPack) known (.seed groupSeed))
    (signPublicKey : Bytes β) :
    ChainKeyFrom getE2eesPack known (cipherSuite.groupChainKey groupSeed signPublicKey) :=
  ⟨free.isFullKey pack (groupChainKey_full _ _), traced.step (.first pack _ _)⟩

theorem ChainKeyFrom.advance {chainKey : Bytes β}
    (origin : ChainKeyFrom getE2eesPack known chainKey) :
    ChainKeyFrom getE2eesPack known (advanceGroupChainKey cipherSuite chainKey) := by
  have full := origin.full _ _ pack
  rw [advanceGroupChainKey_full full]
  exact ⟨free.isFullKey pack (advance_iterate_full full 1),
    origin.traced.step (.advance pack _)⟩

theorem ChainKeyFrom.advances {chainKey : Bytes β}
    (origin : ChainKeyFrom getE2eesPack known chainKey) (count : Nat) :
    ChainKeyFrom getE2eesPack known
      ((advanceGroupChainKey cipherSuite)^[count] chainKey) := by
  induction count with
  | zero => exact origin
  | succ count ih =>
      rw [Function.iterate_succ_apply']
      exact ih.advance free pack

theorem ChainKeyFrom.welcome {chainKey : Bytes β}
    (origin : ChainKeyFrom getE2eesPack known chainKey) :
    ChainKeyFrom getE2eesPack known (advanceGroupChainKeyByWelcome cipherSuite chainKey) :=
  ⟨free.isFullKey pack (welcome_full _), origin.traced.step (.welcome pack _)⟩

theorem ChainKeyFrom.add {chainKey destination : Bytes β}
    (origin : ChainKeyFrom getE2eesPack known chainKey)
    (full : IsFullKey getE2eesPack destination) :
    ChainKeyFrom getE2eesPack known
      (advanceGroupChainKeyByAdd cipherSuite chainKey destination) := by
  rw [advanceGroupChainKeyByAdd_full _ (full _ _ pack)]
  exact ⟨free.isFullKey pack (added_full _), origin.traced.step (.add pack _)⟩

/-- The walk over the new devices only makes keys that go back to the first one. -/
theorem ChainKeyFrom.walk (infos : List (GroupMemberInfo β)) {chainKey : Bytes β}
    (origin : ChainKeyFrom getE2eesPack known chainKey) :
    ChainKeyFrom getE2eesPack known (welcomeAndAdd cipherSuite infos chainKey).2 ∧
      ∀ theirs ∈ (welcomeAndAdd cipherSuite infos chainKey).1,
        ChainKeyFrom getE2eesPack known theirs := by
  induction infos generalizing chainKey with
  | nil => exact ⟨origin, fun _ absent => nomatch absent⟩
  | cons info rest ih =>
      have theirs := origin.welcome free pack
      obtain ⟨last, others⟩ := ih (theirs.add free pack origin.full)
      refine ⟨last, ?_⟩
      intro key member
      obtain rfl | later := List.mem_cons.mp member
      · exact theirs
      · exact others key later

end Derivations

end Origins

section Stores

variable {getE2eesPack : Packs β} {known : Set (GroupSecret β)} {groups : GroupStore β}

theorem GroupStore.Comes.store (comes : groups.Comes getE2eesPack known)
    {session : GroupSession β} (made : session.Comes getE2eesPack known) :
    (groups.storeGroupSession session).Comes getE2eesPack known := by
  intro other present
  obtain ⟨old, -⟩ | rfl := KeyedTable.mem_insert.mp present
  · exact comes other old
  · exact made

theorem GroupStore.Comes.storeResult (comes : groups.Comes getE2eesPack known)
    {result : Option (GroupSession β)}
    (made : ∀ session, result = some session → session.Comes getE2eesPack known) :
    (groups.storeResult result).Comes getE2eesPack known := by
  cases result with
  | none => exact comes
  | some session => exact comes.store (made session rfl)

theorem GroupStore.Comes.loop (comes : groups.Comes getE2eesPack known) {Step : Type}
    {skip : Step → Prop} [DecidablePred skip] {make : Step → Option (GroupSession β)}
    {steps : List Step}
    (made : ∀ step ∈ steps, ∀ session, make step = some session →
      session.Comes getE2eesPack known) :
    (steps.foldl (fun groups step => if skip step then groups else
      groups.storeResult (make step)) groups).Comes getE2eesPack known := by
  intro session present
  obtain old | ⟨step, inside, -, madeHere⟩ := GroupStore.mem_loop _ present
  · exact comes session old
  · exact made step inside session madeHere

end Stores

section Creations

variable {getE2eesPack : Packs β} (free : FreeGroupSchedule getE2eesPack)
  {known : Set (GroupSecret β)} {made : GroupSession β}

theorem newInboundByMemberId_comes {e2eesPackId : UInt32} {userAddress : E2eeAddress}
    {info : GroupMemberInfo β} {groupInfo : GroupInfo}
    (madeHere : newInboundGroupSessionByMemberId getE2eesPack e2eesPackId userAddress info
      groupInfo = some made) : made.Comes getE2eesPack known := by
  obtain ⟨-, -, -, -, noSeed, noChainKey⟩ := newInboundByMemberId_some madeHere
  exact ⟨fun nonempty => absurd noChainKey nonempty, fun nonempty => absurd noSeed nonempty⟩

theorem newInboundByPreKeyBundle_comes {e2eesPackId : UInt32} {userAddress : E2eeAddress}
    {bundle : GroupPreKeyBundle β}
    (traced : Lineage.Traced (GroupSecret.Gives getE2eesPack) known (.seed bundle.groupSeed))
    (madeHere : newInboundGroupSessionByPreKeyBundle getE2eesPack e2eesPackId userAddress bundle =
      some made) : made.Comes getE2eesPack known := by
  obtain ⟨-, -, -, -, groupSeed, noChainKey⟩ := newInboundByPreKeyBundle_some madeHere
  refine ⟨fun nonempty => absurd noChainKey nonempty, fun _ => ?_⟩
  rw [groupSeed]
  exact traced

include free

theorem newOutboundByReceiver_comes {store : Store β} {groupSeed : Bytes β} {e2eesPackId : UInt32}
    {userAddress groupAddress : E2eeAddress} {groupName sessionId : String}
    {groupMemberList : List GroupMember}
    (traced : groupSeed ≠ [] →
      Lineage.Traced (GroupSecret.Gives getE2eesPack) known (.seed groupSeed))
    (madeHere : newOutboundGroupSessionByReceiver getE2eesPack store groupSeed e2eesPackId
      userAddress groupName groupAddress sessionId groupMemberList = some made) :
    made.Comes getE2eesPack known := by
  have nonempty : groupSeed ≠ [] := by
    rintro rfl
    rw [newOutboundByReceiver_unseeded] at madeHere
    cases madeHere
  obtain ⟨cipherSuite, signPublicKey, pack, -, rfl⟩ := newOutboundByReceiver_some madeHere
  exact ⟨fun _ => .first free pack (traced nonempty) _, fun seeded => absurd rfl seeded⟩

theorem completeByPreKeyBundle_comes {inbound : GroupSession β} {bundle : GroupPreKeyBundle β}
    (comes : inbound.Comes getE2eesPack known)
    (traced : Lineage.Traced (GroupSecret.Gives getE2eesPack) known (.seed bundle.groupSeed))
    (madeHere : completeInboundGroupSessionByPreKeyBundle getE2eesPack inbound bundle =
      some made) : made.Comes getE2eesPack known := by
  obtain ⟨-, cipherSuite, pack, rfl⟩ := completeByPreKeyBundle_some madeHere
  exact ⟨fun _ => .first free pack traced _, comes.groupSeed⟩

/-- The bundle brings its seed. -/
theorem consumeGroupPreKeyBundle_comes (device : Device β) (receiver : E2eeAddress)
    {bundle : GroupPreKeyBundle β} (comes : device.groups.Comes getE2eesPack known)
    (traced : Lineage.Traced (GroupSecret.Gives getE2eesPack) known (.seed bundle.groupSeed)) :
    (consumeGroupPreKeyBundle getE2eesPack device receiver bundle).Comes getE2eesPack known := by
  intro session present
  obtain old | made | ⟨other, loaded, -, made⟩ | made := mem_consumeGroupPreKeyBundle present
  · exact comes session old
  · exact newInboundByPreKeyBundle_comes traced made
  · exact completeByPreKeyBundle_comes free
      (comes other ((GroupStore.mem_loadGroupSessions _).mp loaded).1) traced made
  · exact newOutboundByReceiver_comes free (fun _ => traced) made

theorem newAndComplete_comes {info : GroupMemberInfo β} {other : GroupSession β}
    (traced : other.groupSeed ≠ [] →
      Lineage.Traced (GroupSecret.Gives getE2eesPack) known (.seed other.groupSeed))
    (madeHere : newAndCompleteInboundGroupSession getE2eesPack info other = some made) :
    made.Comes getE2eesPack known := by
  unfold newAndCompleteInboundGroupSession at madeHere
  split at madeHere
  next checks =>
    have nonempty : other.groupSeed ≠ [] := by
      intro empty
      rw [isValidGroupSessionByPreKeyBundle_unseeded getE2eesPack empty, Bool.and_false] at checks
      cases checks
    obtain ⟨cipherSuite, pack, rfl⟩ := Option.map_eq_some_iff.mp madeHere
    exact ⟨fun _ => .first free pack (traced nonempty) _, fun seeded => absurd rfl seeded⟩
  · cases madeHere

theorem completeByMemberId_comes {inbound : GroupSession β} {info : GroupMemberInfo β}
    (comes : inbound.Comes getE2eesPack known)
    (madeHere : completeInboundGroupSessionByMemberId getE2eesPack inbound info = some made) :
    made.Comes getE2eesPack known := by
  unfold completeInboundGroupSessionByMemberId at madeHere
  split at madeHere
  next checks =>
    have nonempty : inbound.groupSeed ≠ [] := by
      intro empty
      rw [isValidGroupSessionByPreKeyBundle_unseeded getE2eesPack empty, Bool.false_and] at checks
      cases checks
    obtain ⟨cipherSuite, pack, rfl⟩ := Option.map_eq_some_iff.mp madeHere
    exact ⟨fun _ => .first free pack (comes.groupSeed nonempty) _, fun seeded => absurd rfl seeded⟩
  · cases madeHere

/-- In the loop over the members the session of the creator keeps the seed until it is used. -/
theorem createGroupStep_comes {receiver sender : E2eeAddress}
    {state : GroupStore β × GroupSession β} (comes : state.1.Comes getE2eesPack known)
    (inboundComes : state.2.Comes getE2eesPack known) (info : GroupMemberInfo β) :
    (createGroupStep getE2eesPack receiver sender state info).1.Comes getE2eesPack known ∧
      (createGroupStep getE2eesPack receiver sender state info).2.Comes getE2eesPack known := by
  unfold createGroupStep
  split
  · split
    · exact ⟨comes.storeResult fun _ made => newAndComplete_comes free inboundComes.groupSeed made,
        inboundComes⟩
    · exact ⟨comes, inboundComes⟩
  · split
    next completed made =>
      have completedComes := completeByMemberId_comes free inboundComes made
      exact ⟨comes.store completedComes, completedComes⟩
    · exact ⟨comes, inboundComes⟩

theorem createGroupLoop_comes {receiver sender : E2eeAddress} (infos : List (GroupMemberInfo β))
    (state : GroupStore β × GroupSession β) (comes : state.1.Comes getE2eesPack known)
    (inboundComes : state.2.Comes getE2eesPack known) :
    (infos.foldl (createGroupStep getE2eesPack receiver sender) state).1.Comes getE2eesPack
        known ∧
      (infos.foldl (createGroupStep getE2eesPack receiver sender) state).2.Comes getE2eesPack
        known := by
  induction infos generalizing state with
  | nil => exact ⟨comes, inboundComes⟩
  | cons info rest ih =>
      obtain ⟨next, nextInbound⟩ := createGroupStep_comes free comes inboundComes info
      exact ih _ next nextInbound

/-- The message brings no secret. -/
theorem consumeCreateGroupMsg_comes {device : Device β} (receiver : E2eeAddress)
    (msg : CreateGroupMsg β) (comes : device.groups.Comes getE2eesPack known) :
    (consumeCreateGroupMsg getE2eesPack device receiver msg).Comes getE2eesPack known := by
  unfold consumeCreateGroupMsg
  split
  · split
    · exact comes.loop fun _ _ _ made => newInboundByMemberId_comes made
    next inbound found =>
      split
      · have present := (device.groups.loadGroupSessionByAddress_some found).1
        have inboundComes := comes inbound ((GroupStore.mem_loadGroupSessions _).mp present).1
        obtain ⟨stored, last⟩ := createGroupLoop_comes free msg.memberInfoList
          (device.groups, inbound) comes inboundComes
        exact stored.storeResult fun _ made => newOutboundByReceiver_comes free last.groupSeed made
      · exact comes
  · exact comes

/-- The creator brings a fresh seed. -/
theorem newOutboundBySender_comes {device : Device β} {infos : List (GroupMemberInfo β)}
    {e2eesPackId : UInt32} {userAddress groupAddress : E2eeAddress} {groupName : String}
    {groupMemberList : List GroupMember} {oldSessionId sessionId : String} {groupSeed : Bytes β}
    {result : GroupStore β × GroupPreKeyBundle β}
    (comes : device.groups.Comes getE2eesPack known)
    (traced : Lineage.Traced (GroupSecret.Gives getE2eesPack) known (.seed groupSeed))
    (madeHere : newOutboundGroupSessionBySender getE2eesPack device infos e2eesPackId userAddress
      groupName groupAddress groupMemberList oldSessionId sessionId groupSeed = some result) :
    result.1.Comes getE2eesPack known := by
  unfold newOutboundGroupSessionBySender at madeHere
  split at madeHere
  next cipherSuite signPublicKey pack _ =>
    split at madeHere
    · obtain rfl := Option.some.inj madeHere
      refine GroupStore.Comes.store ?_
        ⟨fun _ => .first free pack traced _, fun seeded => absurd rfl seeded⟩
      exact comes.loop fun _ _ _ made => newAndComplete_comes free (fun _ => traced) made
    · cases madeHere
  · cases madeHere

end Creations

section Additions

variable {getE2eesPack : Packs β} (free : FreeGroupSchedule getE2eesPack)
  {known : Set (GroupSecret β)}

theorem GroupSession.Comes.renew {session : GroupSession β}
    (comes : session.Comes getE2eesPack known) {chainKey : Bytes β}
    (origin : ChainKeyFrom getE2eesPack known chainKey) (groupInfo : GroupInfo)
    (sequence : UInt32) :
    { session with
      chainKey := chainKey, groupInfo := groupInfo, sequence := sequence }.Comes getE2eesPack
      known :=
  ⟨fun _ => origin, comes.groupSeed⟩

include free

theorem GroupSession.Comes.advances {session : GroupSession β}
    (comes : session.Comes getE2eesPack known) {cipherSuite : CipherSuite β}
    (pack : getE2eesPack session.e2eesPackId = some cipherSuite)
    (valid : isValidGroupSession getE2eesPack session = true) (count : Nat) :
    ((GroupSession.advance cipherSuite)^[count] session).Comes getE2eesPack known := by
  rw [GroupSession.advance_iterate]
  exact comes.renew ((comes.usable valid).advances free pack count) _ _

namespace GroupRenewal

variable {renewal : GroupRenewal getE2eesPack}
  (outbound : ChainKeyFrom getE2eesPack known renewal.outbound.chainKey)
  (sender : ∀ chainKey, renewal.senderChainKey = some chainKey →
    ChainKeyFrom getE2eesPack known chainKey)

include outbound sender

theorem keys_from : ChainKeyFrom getE2eesPack known renewal.keys.2.1 ∧
    (∀ chainKey, renewal.keys.2.2 = some chainKey → ChainKeyFrom getE2eesPack known chainKey) ∧
    ∀ theirs ∈ renewal.keys.1, ChainKeyFrom getE2eesPack known theirs := by
  unfold keys
  cases found : renewal.senderChainKey with
  | none =>
      obtain ⟨last, others⟩ := outbound.walk free renewal.pack renewal.infos
      refine ⟨last, ?_, others⟩
      rintro _ ⟨⟩
  | some chainKey =>
      obtain ⟨last, others⟩ := (sender chainKey found).walk free renewal.pack renewal.infos
      refine ⟨outbound.add free renewal.pack outbound.full, ?_, others⟩
      rintro _ ⟨⟩
      exact last

/-- A renewal brings no secret. -/
theorem finish_comes (comes : renewal.device.groups.Comes getE2eesPack known)
    (outboundComes : renewal.outbound.Comes getE2eesPack known) :
    renewal.finish.Comes getE2eesPack known := by
  obtain ⟨own, adder, theirs⟩ := renewal.keys_from free outbound sender
  intro session present
  obtain old | rfl | ⟨old, cipherSuite, oldPresent, -, -, -, valid, pack, rfl⟩ |
    ⟨info, chainKey, assigned, rfl⟩ := renewal.mem_finish present
  · exact comes session old
  · exact outboundComes.renew own _ _
  · refine (comes old oldPresent).renew ?_ _ _
    have origin := (comes old oldPresent).usable valid
    have moved := origin.add free pack origin.full
    split
    · cases found : renewal.keys.2.2 with
      | none => exact moved
      | some chainKey => exact adder chainKey found
    · exact moved
  · exact ⟨fun _ => theirs chainKey (List.of_mem_zip assigned).2, fun seeded => absurd rfl seeded⟩

end GroupRenewal

/-- The messages about new devices bring no secret either. -/
theorem GroupAddMsg.consume_comes (msg : GroupAddMsg β) {device : Device β}
    (receiver : E2eeAddress) (comes : device.groups.Comes getE2eesPack known) :
    (msg.consume getE2eesPack device receiver).1.Comes getE2eesPack known := by
  obtain unchanged | ⟨renewal, renews, outcome⟩ := msg.consume_cases getE2eesPack device receiver
  · rw [unchanged]
    exact comes
  · obtain ⟨present, -, -, -, valid⟩ := loadOutboundGroupSession_some renews.outbound
    obtain ⟨inbound, cipherSuite, found, pack, chainKey⟩ := renews.sender
    obtain ⟨loaded, inboundValid⟩ := Option.filter_eq_some_iff.mp found
    have inboundComes := comes inbound (device.groups.loadGroupSessionById_some loaded).1
    have outboundComes := comes renewal.outbound present
    rw [outcome]
    refine GroupRenewal.finish_comes free (outboundComes.usable valid) ?_ ?_ outboundComes
    · intro other given
      rw [chainKey, Option.some.injEq] at given
      rw [← given, GroupSession.catchUp_eq]
      exact (inboundComes.usable inboundValid).advances free pack _
    · rw [renews.onDevice]
      exact comes

/-- The adder brings no secret for its own sessions. -/
theorem GroupAddCall.request_comes {call : GroupAddCall β} {device : Device β}
    {sender groupAddress : E2eeAddress} {msg : GroupAddMsg β}
    {result : GroupStore β × GroupUpdateKeyBundle β}
    (made : call.request getE2eesPack device sender groupAddress = some (msg, result))
    (comes : device.groups.Comes getE2eesPack known) :
    result.1.Comes getE2eesPack known := by
  obtain ⟨renewal, rfl, found, own, -, -, -, rfl, -⟩ := GroupAddCall.request_some made
  obtain ⟨present, -, -, -, valid⟩ := loadOutboundGroupSession_some found
  have outboundComes := comes renewal.outbound present
  refine GroupRenewal.finish_comes free (outboundComes.usable valid) ?_ comes outboundComes
  intro chainKey given
  rw [own] at given
  cases given

end Additions

section Invitations

variable {getE2eesPack : Packs β}

variable (getE2eesPack) in
/-- This is the first key of a bundle that the receiver keeps. -/
def GroupUpdateKeyBundle.keptKey (device : Device β) (receiver : E2eeAddress)
    (bundle : GroupUpdateKeyBundle β) : Option (Bytes β) :=
  (getE2eesPack bundle.e2eesPackId).map fun cipherSuite =>
    if bundle.adding = false then cipherSuite.added bundle.chainKey
    else if (newOutboundGroupSessionInvited getE2eesPack device bundle receiver).isSome
      then advanceGroupChainKeyByWelcome cipherSuite bundle.chainKey
      else bundle.chainKey

variable {known : Set (GroupSecret β)} {made : GroupSession β}

theorem newAndCompleteWithChainKey_comes {info : GroupMemberInfo β} {other : GroupSession β}
    {theirs : Bytes β} (origin : ChainKeyFrom getE2eesPack known theirs)
    (madeHere : newAndCompleteInboundGroupSessionWithChainKey getE2eesPack info other theirs =
      some made) : made.Comes getE2eesPack known := by
  unfold newAndCompleteInboundGroupSessionWithChainKey at madeHere
  split at madeHere
  · obtain ⟨cipherSuite, -, rfl⟩ := Option.map_eq_some_iff.mp madeHere
    exact ⟨fun _ => origin, fun seeded => absurd rfl seeded⟩
  · cases madeHere

/-- This is the session that a bundle makes for its sender. -/
theorem newAndCompleteWithRatchetState_some {bundle : GroupUpdateKeyBundle β}
    {userAddress : E2eeAddress}
    (madeHere : newAndCompleteInboundGroupSessionWithRatchetState getE2eesPack bundle userAddress =
      some made) :
    ∃ cipherSuite, getE2eesPack bundle.e2eesPackId = some cipherSuite ∧
      made.sender = bundle.sender ∧ made.sessionOwner = userAddress ∧ made.groupSeed = [] ∧
      made.chainKey = if bundle.adding = false
        then advanceGroupChainKeyByAdd cipherSuite bundle.chainKey bundle.chainKey
        else bundle.chainKey := by
  unfold newAndCompleteInboundGroupSessionWithRatchetState at madeHere
  split at madeHere
  · obtain ⟨cipherSuite, pack, rfl⟩ := Option.map_eq_some_iff.mp madeHere
    exact ⟨cipherSuite, pack, rfl, rfl, rfl, rfl⟩
  · cases madeHere

/-- The sessions are old ones, or their keys go back to known secrets. -/
def GroupStore.Grows (getE2eesPack : Packs β) (known : Set (GroupSecret β))
    (before after : GroupStore β) : Prop :=
  ∀ session ∈ after.entries, session ∈ before.entries ∨ session.Comes getE2eesPack known

theorem GroupStore.Grows.refl (groups : GroupStore β) :
    GroupStore.Grows getE2eesPack known groups groups :=
  fun _ present => .inl present

theorem GroupStore.Grows.store {before after : GroupStore β}
    (grows : GroupStore.Grows getE2eesPack known before after) {session : GroupSession β}
    (made : session.Comes getE2eesPack known) :
    GroupStore.Grows getE2eesPack known before (after.storeGroupSession session) := by
  intro other present
  obtain ⟨old, -⟩ | rfl := KeyedTable.mem_insert.mp present
  · exact grows other old
  · exact .inr made

theorem GroupStore.Grows.storeResult {before after : GroupStore β}
    (grows : GroupStore.Grows getE2eesPack known before after)
    {result : Option (GroupSession β)}
    (made : ∀ session, result = some session → session.Comes getE2eesPack known) :
    GroupStore.Grows getE2eesPack known before (after.storeResult result) := by
  cases result with
  | none => exact grows
  | some session => exact grows.store (made session rfl)

theorem GroupStore.Grows.comes {before after : GroupStore β}
    (grows : GroupStore.Grows getE2eesPack known before after)
    (comes : before.Comes getE2eesPack known) : after.Comes getE2eesPack known := by
  intro session present
  obtain old | made := grows session present
  · exact comes session old
  · exact made

/-- All keys in the loop over the invited devices go back to known secrets. -/
structure InvitedState.Comes (getE2eesPack : Packs β) (known : Set (GroupSecret β))
    (before : GroupStore β) (state : InvitedState β) : Prop where
  outbound : state.outbound.Comes getE2eesPack known
  groups : GroupStore.Grows getE2eesPack known before state.groups
  sender : ChainKeyFrom getE2eesPack known state.senderChainKey

variable (free : FreeGroupSchedule getE2eesPack) {before : GroupStore β}

include free

/-- A turn of the loop only keeps what follows from the welcome key. -/
theorem invitedStep_comes {cipherSuite : CipherSuite β} {e2eesPackId : UInt32}
    (pack : getE2eesPack e2eesPackId = some cipherSuite) (userAddress : E2eeAddress)
    {state : InvitedState β} (outbound : state.outbound.Comes getE2eesPack known)
    (groups : GroupStore.Grows getE2eesPack known before state.groups)
    (full : IsFullKey getE2eesPack state.senderChainKey)
    (origin : ChainKeyFrom getE2eesPack known
      (advanceGroupChainKeyByWelcome cipherSuite state.senderChainKey))
    (info : GroupMemberInfo β) :
    (invitedStep getE2eesPack cipherSuite userAddress state info).Comes getE2eesPack known
      before := by
  have next := origin.add free pack full
  unfold invitedStep
  dsimp only
  split
  · exact ⟨outbound.renew origin _ _, groups, next⟩
  · exact ⟨outbound, groups.storeResult fun _ made => newAndCompleteWithChainKey_comes origin made,
      next⟩

theorem invitedLoop_comes {cipherSuite : CipherSuite β} {e2eesPackId : UInt32}
    (pack : getE2eesPack e2eesPackId = some cipherSuite) (userAddress : E2eeAddress)
    (infos : List (GroupMemberInfo β)) {state : InvitedState β}
    (comes : state.Comes getE2eesPack known before) :
    (infos.foldl (invitedStep getE2eesPack cipherSuite userAddress) state).Comes getE2eesPack
      known before := by
  induction infos generalizing state with
  | nil => exact comes
  | cons info rest ih =>
      exact ih (invitedStep_comes free pack userAddress comes.outbound comes.groups
        comes.sender.full (comes.sender.welcome free pack) info)

/-- The first turn already leaves the key of the bundle behind. -/
theorem invitedLoop_leaves {cipherSuite : CipherSuite β} {e2eesPackId : UInt32}
    (pack : getE2eesPack e2eesPackId = some cipherSuite) (userAddress : E2eeAddress)
    {infos : List (GroupMemberInfo β)} (nonempty : infos ≠ []) (groups : GroupStore β)
    {senderChainKey : Bytes β} (full : IsFullKey getE2eesPack senderChainKey)
    (origin : ChainKeyFrom getE2eesPack known
      (advanceGroupChainKeyByWelcome cipherSuite senderChainKey)) (outbound : GroupSession β)
    (unkeyed : outbound.chainKey = [] ∧ outbound.groupSeed = []) :
    (infos.foldl (invitedStep getE2eesPack cipherSuite userAddress)
      ⟨outbound, groups, senderChainKey⟩).Comes getE2eesPack known groups := by
  cases infos with
  | nil => exact absurd rfl nonempty
  | cons first rest =>
      refine invitedLoop_comes free pack userAddress rest
        (invitedStep_comes free pack userAddress ?_ (.refl groups) full origin first)
      exact ⟨fun keyed => absurd unkeyed.1 keyed, fun seeded => absurd unkeyed.2 seeded⟩

theorem newOutboundInvited_grows {device : Device β} {bundle : GroupUpdateKeyBundle β}
    {userAddress : E2eeAddress} {result : GroupStore β × GroupUpdateKeyBundle β}
    (full : IsFullKey getE2eesPack bundle.chainKey)
    (origin : ∀ cipherSuite, getE2eesPack bundle.e2eesPackId = some cipherSuite →
      ChainKeyFrom getE2eesPack known
        (advanceGroupChainKeyByWelcome cipherSuite bundle.chainKey))
    (madeHere : newOutboundGroupSessionInvited getE2eesPack device bundle userAddress =
      some result) :
    GroupStore.Grows getE2eesPack known device.groups result.1 ∧
      ChainKeyFrom getE2eesPack known result.2.chainKey ∧ result.2.adding = bundle.adding := by
  unfold newOutboundGroupSessionInvited at madeHere
  split at madeHere
  next cipherSuite signPublicKey pack _ =>
    split at madeHere
    next checks =>
      obtain rfl := Option.some.inj madeHere
      have nonempty : bundle.addingMemberInfoList ≠ [] := by
        intro empty
        simp [empty] at checks
      have loop := invitedLoop_leaves free pack userAddress nonempty device.groups full
        (origin cipherSuite pack)
      exact ⟨(loop _ ⟨rfl, rfl⟩).groups.store (loop _ ⟨rfl, rfl⟩).outbound,
        (loop _ ⟨rfl, rfl⟩).sender, rfl⟩
    · cases madeHere
  · cases madeHere

/-- A bundle brings the first key that the receiver keeps. -/
theorem consumeGroupUpdateKeyBundle_grows {device : Device β} {receiver : E2eeAddress}
    {bundle : GroupUpdateKeyBundle β} (full : IsFullKey getE2eesPack bundle.chainKey)
    (brought : ∀ chainKey, bundle.keptKey getE2eesPack device receiver = some chainKey →
      Lineage.Traced (GroupSecret.Gives getE2eesPack) known (.chain chainKey)) :
    GroupStore.Grows getE2eesPack known device.groups
      (consumeGroupUpdateKeyBundle getE2eesPack device receiver bundle) := by
  unfold consumeGroupUpdateKeyBundle
  unfold GroupUpdateKeyBundle.keptKey at brought
  cases adding : bundle.adding with
  | false =>
      simp only [Bool.false_eq_true, if_false]
      refine (GroupStore.Grows.refl device.groups).storeResult fun session madeHere => ?_
      obtain ⟨cipherSuite, pack, -, -, unseeded, chainKey⟩ :=
        newAndCompleteWithRatchetState_some madeHere
      refine ⟨fun _ => ?_, fun seeded => absurd unseeded seeded⟩
      have kept := brought (cipherSuite.added bundle.chainKey) (by simp [pack, adding])
      rw [chainKey, if_pos adding, advanceGroupChainKeyByAdd_full _ (full _ _ pack)]
      exact ⟨free.isFullKey pack (added_full _), kept⟩
  | true =>
      cases invited : newOutboundGroupSessionInvited getE2eesPack device bundle receiver with
      | none =>
          simp only [if_true, Option.getD_none]
          refine (GroupStore.Grows.refl device.groups).storeResult fun session madeHere => ?_
          obtain ⟨cipherSuite, pack, -, -, unseeded, chainKey⟩ :=
            newAndCompleteWithRatchetState_some madeHere
          refine ⟨fun _ => ?_, fun seeded => absurd unseeded seeded⟩
          rw [chainKey, adding, if_neg (by decide)]
          exact ⟨full, brought _ (by simp [pack, adding, invited])⟩
      | some result =>
          obtain ⟨stored, origin, stillAdding⟩ := newOutboundInvited_grows free full
            (fun cipherSuite pack => ⟨free.isFullKey pack (welcome_full _),
              brought _ (by simp [pack, adding, invited])⟩) invited
          simp only [if_true, Option.getD_some]
          refine stored.storeResult fun session madeHere => ?_
          obtain ⟨cipherSuite, pack, -, -, unseeded, chainKey⟩ :=
            newAndCompleteWithRatchetState_some madeHere
          refine ⟨fun _ => ?_, fun seeded => absurd unseeded seeded⟩
          rw [chainKey, if_neg]
          · exact origin
          · simp [stillAdding, adding]

end Invitations

end E2eeSecurity
