/-
This file shows when the chains of a group stay in step while its members send messages and add
others.
-/
import E2eeSecurity.Group.Posts
import Mathlib.Data.List.Perm.Basic

namespace E2eeSecurity

variable {β : Type}

/-- This is what the server passes on to the members of a group. -/
inductive GroupPost (β : Type)
  | message (msg : E2eeMsg β)
  | addition (msg : GroupAddMsg β)

/-- Every member has an inbox with what the server has accepted and the member has not yet handled.
The bundles for new devices are on their way. -/
structure GroupNet (β : Type) where
  groups : E2eeAddress → GroupStore β
  members : List E2eeAddress
  inbox : E2eeAddress → List (GroupPost β)
  flying : List (E2eeAddress × GroupUpdateKeyBundle β)

inductive GroupMove (β : Type)
  | send (sender : E2eeAddress) (call : GroupSendCall β)
  | add (adder : E2eeAddress) (call : GroupAddCall β)
  | handle (receiver : E2eeAddress)
  | arrive (index : Nat)

section Chains

variable (cipherSuite : CipherSuite β)

/-- The chain of the sender has moved on by one message. -/
def advanceChain (sender : E2eeAddress) (chains : E2eeAddress → Option (GroupChain β)) :
    E2eeAddress → Option (GroupChain β) :=
  fun address => if address = sender then (chains address).map (GroupChain.advance cipherSuite)
    else chains address

/-- This is what becomes of the chains of a group with one post. -/
def applyPost (chains : E2eeAddress → Option (GroupChain β)) :
    GroupPost β → E2eeAddress → Option (GroupChain β)
  | .message msg => advanceChain cipherSuite msg.fromAddress chains
  | .addition msg =>
      match chains msg.senderAddress with
      | some adder => renewedChain cipherSuite msg.senderAddress msg.infos adder.chainKey chains
      | none => chains

end Chains

namespace GroupNet

/-- The server passes the posts on to all members but the author. -/
def posted (net : GroupNet β) (author : E2eeAddress) (posts : List (GroupPost β)) :
    E2eeAddress → List (GroupPost β) :=
  fun address => if address ∈ net.members ∧ address ≠ author then net.inbox address ++ posts
    else net.inbox address

/-- A bundle with the chain of the sender is on its way to the receiver, or the sender has yet to
send it. -/
def Promised (net : GroupNet β) (sender receiver : E2eeAddress) : Prop :=
  (∃ bundle, (receiver, bundle) ∈ net.flying ∧ bundle.Brings sender) ∨
    ∃ msg, .addition msg ∈ net.inbox sender ∧ receiver ∈ msg.newDevices

/-- Everything has been handled. -/
def Delivered (net : GroupNet β) : Prop :=
  (∀ member ∈ net.members, net.inbox member = []) ∧ net.flying = []

end GroupNet

namespace GroupFrame

variable {getE2eesPack : Packs β} (frame : GroupFrame getE2eesPack)

def device (net : GroupNet β) (address : E2eeAddress) : Device β :=
  ⟨frame.stores address, net.groups address⟩

/-- A message that the server has not accepted reaches nobody. -/
def sent (net : GroupNet β) (sender : E2eeAddress) (call : GroupSendCall β) : List (GroupPost β) :=
  if call.acknowledged then
    ((call.outcome getE2eesPack (frame.stores sender) sender (net.groups sender)
      frame.groupAddress).1.map fun request => GroupPost.message request.msg).toList
  else []

def step (net : GroupNet β) : GroupMove β → GroupNet β
  | .send sender call =>
      { net with
        groups := Function.update net.groups sender (call.outcome getE2eesPack
          (frame.stores sender) sender (net.groups sender) frame.groupAddress).2
        inbox := net.posted sender (frame.sent net sender call) }
  | .add adder call =>
      match call.request getE2eesPack (frame.device net adder) adder frame.groupAddress with
      | none => net
      | some (msg, groups, bundle) =>
          { groups := Function.update net.groups adder groups
            members := net.members ++ msg.newDevices
            inbox := net.posted adder [.addition msg]
            flying := net.flying ++ msg.newDevices.map fun address => (address, bundle) }
  | .handle receiver =>
      match net.inbox receiver with
      | [] => net
      | .message msg :: rest =>
          { net with
            groups := Function.update net.groups receiver
              (consumeGroupMsg getE2eesPack (net.groups receiver) receiver msg).1
            inbox := Function.update net.inbox receiver rest }
      | .addition msg :: rest =>
          let outcome := msg.consume getE2eesPack (frame.device net receiver) receiver
          { net with
            groups := Function.update net.groups receiver outcome.1
            inbox := Function.update net.inbox receiver rest
            flying := net.flying ++ outcome.2.toList.flatMap fun bundle =>
              msg.newDevices.map fun address => (address, bundle) }
  | .arrive index =>
      match net.flying[index]? with
      | none => net
      | some (receiver, bundle) =>
          { net with
            groups := Function.update net.groups receiver (consumeGroupUpdateKeyBundle getE2eesPack
              (frame.device net receiver) receiver bundle)
            flying := net.flying.eraseIdx index }

/-- The server has found a registered device that is not in the group. -/
structure Joining (net : GroupNet β) (info : GroupMemberInfo β) : Prop where
  absent : info.memberAddress ∉ net.members
  standing : frame.Standing info.memberAddress
  signed : info.signPublicKey = frame.signPublicKey info.memberAddress
  fresh : (net.groups info.memberAddress).loadGroupSessions info.memberAddress
    frame.groupAddress = []
  tidy : frame.Tidy (net.groups info.memberAddress) info.memberAddress

/-- A member that sends has handled all additions that the server has accepted, and a member that
adds others has handled everything.
A message is handled after the bundle with the chain of its sender, and an addition after all
bundles. -/
def Guarded (net : GroupNet β) : GroupMove β → Prop
  | .send sender call => sender ∈ net.members ∧
      call.draw.buffer.length = frame.cipherSuite.ds.sigLen ∧
      (call.acknowledged = true → ∀ msg, .addition msg ∉ net.inbox sender)
  | .add adder call => adder ∈ net.members ∧ net.inbox adder = [] ∧
      (∀ sender, ¬net.Promised sender adder) ∧
      (call.infos.map fun info => info.memberAddress).Nodup ∧
      ∀ info ∈ call.infos, frame.Joining net info
  | .handle receiver =>
      (∀ msg rest, net.inbox receiver = .message msg :: rest →
        ¬net.Promised msg.fromAddress receiver) ∧
      ∀ msg rest, net.inbox receiver = .addition msg :: rest →
        ∀ sender, ¬net.Promised sender receiver
  | .arrive _ => True

/-- All members of the group have the same chains. -/
structure Agrees (net : GroupNet β) (chains : E2eeAddress → Option (GroupChain β)) : Prop where
  delivered : ∀ address, net.inbox address = []
  landed : net.flying = []
  domain : ∀ address, address ∈ net.members ↔ ∃ chain, chains address = some chain
  standing : ∀ member ∈ net.members, frame.Standing member
  tidy : ∀ member ∈ net.members, frame.Tidy (net.groups member) member
  held : ∀ member ∈ net.members, ∀ sender chain, chains sender = some chain →
    frame.Holds (net.groups member) sender member chain

end GroupFrame

section Chains

variable {cipherSuite : CipherSuite β} {chains : E2eeAddress → Option (GroupChain β)}

@[simp] theorem advanceChain_self (sender : E2eeAddress) :
    advanceChain cipherSuite sender chains sender =
      (chains sender).map (GroupChain.advance cipherSuite) := by
  simp [advanceChain]

theorem advanceChain_other {sender address : E2eeAddress} (other : address ≠ sender) :
    advanceChain cipherSuite sender chains address = chains address := by
  simp [advanceChain, other]

theorem advanceChain_comm (first second : E2eeAddress) :
    advanceChain cipherSuite first (advanceChain cipherSuite second chains) =
      advanceChain cipherSuite second (advanceChain cipherSuite first chains) := by
  funext address
  by_cases isFirst : address = first
  · subst isFirst
    by_cases isSecond : address = second
    · rw [isSecond]
    · rw [advanceChain_self, advanceChain_other isSecond, advanceChain_other isSecond,
        advanceChain_self]
  · rw [advanceChain_other isFirst]
    by_cases isSecond : address = second
    · subst isSecond
      rw [advanceChain_self, advanceChain_self, advanceChain_other isFirst]
    · rw [advanceChain_other isSecond, advanceChain_other isSecond, advanceChain_other isFirst]

theorem applyPost_addition {msg : GroupAddMsg β} {adder : GroupChain β}
    (known : chains msg.senderAddress = some adder) :
    applyPost cipherSuite chains (.addition msg) =
      renewedChain cipherSuite msg.senderAddress msg.infos adder.chainKey chains := by
  simp only [applyPost, known]

theorem renewedChain_isSome {adder address : E2eeAddress} {infos : List (GroupMemberInfo β)}
    {chainKey : Bytes β} (known : (chains adder).isSome = true) :
    (renewedChain cipherSuite adder infos chainKey chains address).isSome = true ↔
      address ∈ infos.map (fun info => info.memberAddress) ∨ (chains address).isSome = true := by
  rw [renewedChain, Option.isSome_or, Bool.or_eq_true, joinedChain_isSome, Option.isSome_map]
  constructor
  · rintro ((rfl | new) | old)
    · exact .inr known
    · exact .inl new
    · exact .inr old
  · rintro (new | old)
    · exact .inl (.inr new)
    · exact .inr old

/-- The messages of others commute with a message of the member itself. -/
theorem applyPost_comm {posts : List (GroupPost β)}
    (messages : ∀ post ∈ posts, ∃ msg, post = .message msg) (sender : E2eeAddress) :
    ∀ post ∈ posts, ∀ chains, applyPost cipherSuite (advanceChain cipherSuite sender chains) post =
      advanceChain cipherSuite sender (applyPost cipherSuite chains post) := by
  intro post present chains
  obtain ⟨msg, rfl⟩ := messages post present
  exact advanceChain_comm _ _

end Chains

section Invariant

variable {getE2eesPack : Packs β}

namespace GroupFrame

/-- The addition fits the chains of the receiver, and the new devices expect its next chain. -/
structure Announced (frame : GroupFrame getE2eesPack)
    (view : E2eeAddress → E2eeAddress → Option (GroupChain β)) (members : List E2eeAddress)
    (receiver : E2eeAddress) (chains : E2eeAddress → Option (GroupChain β))
    (msg : GroupAddMsg β) : Prop where
  author : msg.senderAddress ≠ receiver
  valid : msg.isValid getE2eesPack = true
  group : msg.groupInfo.groupAddress = frame.groupAddress
  nonempty : msg.infos ≠ []
  distinct : msg.newDevices.Nodup
  chain : ∃ chain, chains msg.senderAddress = some chain ∧ msg.sequence = chain.sequence
  fresh : ∀ info ∈ msg.infos, chains info.memberAddress = none
  signed : ∀ info ∈ msg.infos, info.signPublicKey = frame.signPublicKey info.memberAddress
  expected : ∀ device ∈ msg.newDevices, device ∈ members ∧
    view device receiver = applyPost frame.cipherSuite chains (.addition msg) receiver

/-- The post is the next one for a receiver with these chains. -/
def Fits (frame : GroupFrame getE2eesPack)
    (view : E2eeAddress → E2eeAddress → Option (GroupChain β)) (members : List E2eeAddress)
    (receiver : E2eeAddress) (chains : E2eeAddress → Option (GroupChain β)) : GroupPost β → Prop
  | .message msg => msg.fromAddress ≠ receiver ∧ frame.Standing msg.fromAddress ∧
      ∃ chain plaintext, chains msg.fromAddress = some chain ∧
        frame.Made msg.fromAddress chain msg plaintext
  | .addition msg => frame.Announced view members receiver chains msg

/-- Every member has a view of the chains, which its inbox leads to the chains of the group.
A device holds the chains of its view, as far as their bundles have arrived. -/
structure Synced (frame : GroupFrame getE2eesPack) (net : GroupNet β)
    (view : E2eeAddress → E2eeAddress → Option (GroupChain β))
    (chains : E2eeAddress → Option (GroupChain β)) : Prop where
  domain : ∀ address, address ∈ net.members ↔ (chains address).isSome = true
  outside : ∀ address, address ∉ net.members → net.inbox address = []
  standing : ∀ member ∈ net.members, frame.Standing member
  tidy : ∀ member ∈ net.members, frame.Tidy (net.groups member) member
  seen : ∀ member ∈ net.members, (view member member).isSome = true
  replay : ∀ member ∈ net.members,
    Machine.run (applyPost frame.cipherSuite) (view member) (net.inbox member) = chains
  fits : ∀ member ∈ net.members, Machine.Along (applyPost frame.cipherSuite)
    (frame.Fits view net.members member) (view member) (net.inbox member)
  held : ∀ member ∈ net.members, ∀ sender chain, view member sender = some chain →
    frame.Holds (net.groups member) sender member chain ∨ net.Promised sender member
  own : ∀ member bundle, (member, bundle) ∈ net.flying → bundle.adding = true →
    (net.groups member).lookup (frame.key member member) = none
  flying : ∀ member bundle, (member, bundle) ∈ net.flying → member ∈ net.members ∧
    member ∈ bundle.newDevices ∧ frame.Bundled bundle ∧
    ∀ sender chain, bundle.broughtChain frame.cipherSuite sender = some chain →
      view member sender = some chain
  once : net.flying.Pairwise fun first second =>
    first.2.adding = true → second.2.adding = true → first.1 ≠ second.1

variable {frame : GroupFrame getE2eesPack}

theorem Fits.change {view other : E2eeAddress → E2eeAddress → Option (GroupChain β)}
    {members more : List E2eeAddress} {receiver : E2eeAddress}
    {chains : E2eeAddress → Option (GroupChain β)} {post : GroupPost β}
    (fits : frame.Fits view members receiver chains post) (grows : members ⊆ more)
    (same : ∀ msg, post = .addition msg → ∀ device ∈ msg.newDevices, device ∈ members →
      other device receiver = view device receiver) :
    frame.Fits other more receiver chains post := by
  cases post with
  | message msg => exact fits
  | addition msg =>
      refine { fits with expected := ?_ }
      intro device new
      obtain ⟨member, expected⟩ := Announced.expected fits device new
      exact ⟨grows member, (same msg rfl device new member).trans expected⟩

theorem along_change {view other : E2eeAddress → E2eeAddress → Option (GroupChain β)}
    {members more : List E2eeAddress} {receiver : E2eeAddress}
    {chains : E2eeAddress → Option (GroupChain β)} {posts : List (GroupPost β)}
    (fits : Machine.Along (applyPost frame.cipherSuite) (frame.Fits view members receiver) chains
      posts) (grows : members ⊆ more)
    (same : ∀ msg, .addition msg ∈ posts → ∀ device ∈ msg.newDevices, device ∈ members →
      other device receiver = view device receiver) :
    Machine.Along (applyPost frame.cipherSuite) (frame.Fits other more receiver) chains posts := by
  refine Machine.along_weaken ?_ fits
  intro post present state now
  refine now.change grows ?_
  rintro msg rfl
  exact same msg present

end GroupFrame

theorem GroupNet.Promised.mono {net next : GroupNet β} {sender receiver : E2eeAddress}
    (promised : net.Promised sender receiver)
    (flying : ∀ bundle, (receiver, bundle) ∈ net.flying → bundle.Brings sender →
      (receiver, bundle) ∈ next.flying)
    (inbox : ∀ msg, .addition msg ∈ net.inbox sender → receiver ∈ msg.newDevices →
      next.Promised sender receiver) :
    next.Promised sender receiver := by
  obtain ⟨bundle, present, brings⟩ | ⟨msg, present, new⟩ := promised
  · exact .inl ⟨bundle, flying bundle present brings, brings⟩
  · exact inbox msg present new

theorem GroupNet.posted_author (net : GroupNet β) (author : E2eeAddress)
    (posts : List (GroupPost β)) : net.posted author posts author = net.inbox author :=
  if_neg fun both => both.2 rfl

theorem GroupNet.posted_other (net : GroupNet β) {author address : E2eeAddress}
    (isMember : address ∈ net.members) (other : address ≠ author) (posts : List (GroupPost β)) :
    net.posted author posts address = net.inbox address ++ posts :=
  if_pos ⟨isMember, other⟩

theorem GroupNet.mem_posted {net : GroupNet β} {author address : E2eeAddress}
    {posts : List (GroupPost β)} {post : GroupPost β} (listed : post ∈ net.inbox address) :
    post ∈ net.posted author posts address := by
  unfold GroupNet.posted
  split
  · exact List.mem_append_left _ listed
  · exact listed

end Invariant

section Steps

variable {getE2eesPack : Packs β}

/-- The server has accepted an addition, whose author has renewed its sessions and sends its bundle
to the new devices. -/
def GroupNet.added (net : GroupNet β) (adder : E2eeAddress) (msg : GroupAddMsg β)
    (renewal : GroupRenewal getE2eesPack) : GroupNet β where
  groups := Function.update net.groups adder renewal.finish
  members := net.members ++ msg.newDevices
  inbox := net.posted adder [.addition msg]
  flying := net.flying ++ msg.newDevices.map fun address => (address, renewal.bundle)

/-- A member is the adder, a new device, or another old one. -/
theorem GroupNet.added_cases {net : GroupNet β} {adder address : E2eeAddress}
    {msg : GroupAddMsg β} {renewal : GroupRenewal getE2eesPack}
    (isMember : address ∈ (net.added adder msg renewal).members) :
    (address = adder ∨ address ∈ msg.newDevices) ∨
      (address ∈ net.members ∧ address ≠ adder) := by
  obtain old | new := List.mem_append.mp isMember
  · by_cases isAdder : address = adder
    · exact .inl (.inl isAdder)
    · exact .inr ⟨old, isAdder⟩
  · exact .inl (.inr new)

/-- The adder and the new devices see the renewed chains at once. -/
def addedView (cipherSuite : CipherSuite β)
    (view : E2eeAddress → E2eeAddress → Option (GroupChain β))
    (chains : E2eeAddress → Option (GroupChain β)) (adder : E2eeAddress) (msg : GroupAddMsg β) :
    E2eeAddress → E2eeAddress → Option (GroupChain β) :=
  fun address => if address = adder ∨ address ∈ msg.newDevices then
    applyPost cipherSuite chains (.addition msg) else view address

namespace GroupFrame

/-- The author of the addition has handled everything, and its new devices can join. -/
structure Admits (frame : GroupFrame getE2eesPack) (net : GroupNet β)
    (chains : E2eeAddress → Option (GroupChain β)) (adder : E2eeAddress)
    (adderChain : GroupChain β) (msg : GroupAddMsg β) (renewal : GroupRenewal getE2eesPack) :
    Prop where
  member : adder ∈ net.members
  empty : net.inbox adder = []
  settled : ∀ sender, ¬net.Promised sender adder
  sender : msg.senderAddress = adder
  valid : msg.isValid getE2eesPack = true
  group : msg.groupInfo.groupAddress = frame.groupAddress
  sequence : msg.sequence = adderChain.sequence
  joining : ∀ info ∈ msg.infos, frame.Joining net info
  infos : renewal.infos = msg.infos
  renewing : frame.Renewing chains adder adder adderChain renewal

namespace Admits

variable {frame : GroupFrame getE2eesPack} {net : GroupNet β}
  {view : E2eeAddress → E2eeAddress → Option (GroupChain β)}
  {chains : E2eeAddress → Option (GroupChain β)} {adder : E2eeAddress}
  {adderChain : GroupChain β} {msg : GroupAddMsg β} {renewal : GroupRenewal getE2eesPack}
  (admits : frame.Admits net chains adder adderChain msg renewal)

include admits

theorem known : chains msg.senderAddress = some adderChain := by
  rw [admits.sender]
  exact admits.renewing.adding

theorem adder_isSome : (chains adder).isSome = true := by
  rw [admits.renewing.adding]
  rfl

theorem applied : applyPost frame.cipherSuite chains (.addition msg) =
    renewedChain frame.cipherSuite adder msg.infos adderChain.chainKey chains := by
  have applied := @applyPost_addition _ frame.cipherSuite _ _ _ admits.known
  rw [admits.sender] at applied
  exact applied

theorem newDevices_eq : renewal.bundle.newDevices = msg.newDevices :=
  congrArg (List.map GroupMemberInfo.memberAddress) admits.infos

theorem distinct : msg.newDevices.Nodup := by
  rw [← admits.newDevices_eq]
  exact admits.renewing.distinct

/-- A new device is not in the group yet and stores nothing of it. -/
theorem newDevice {device : E2eeAddress} (new : device ∈ msg.newDevices) :
    device ∉ net.members ∧ frame.Standing device ∧
      (net.groups device).lookup (frame.key device device) = none ∧
      frame.Tidy (net.groups device) device := by
  obtain ⟨info, listed, rfl⟩ := List.mem_map.mp new
  have joins := admits.joining info listed
  exact ⟨joins.absent, joins.standing, GroupStore.lookup_none_of_fresh _ joins.fresh rfl rfl,
    joins.tidy⟩

theorem newDevice_ne {device : E2eeAddress} (new : device ∈ msg.newDevices) : device ≠ adder :=
  fun same => (admits.newDevice new).1 (same ▸ admits.member)

theorem no_bundle {bundle : GroupUpdateKeyBundle β} : (adder, bundle) ∉ net.flying := by
  intro present
  exact admits.settled bundle.sender (.inl ⟨bundle, present, .inl rfl⟩)

theorem view_old {address : E2eeAddress} (isMember : address ∈ net.members)
    (other : address ≠ adder) :
    addedView frame.cipherSuite view chains adder msg address = view address := by
  refine if_neg (not_or.mpr ⟨other, ?_⟩)
  exact fun new => (admits.newDevice new).1 isMember

/-- The addition fits the chains of the group for every old member. -/
theorem announced {address : E2eeAddress} (other : address ≠ adder) :
    frame.Announced (addedView frame.cipherSuite view chains adder msg)
      (net.members ++ msg.newDevices) address chains msg := by
  refine ⟨?_, admits.valid, admits.group, ?_, admits.distinct,
    ⟨adderChain, admits.known, admits.sequence⟩, ?_, ?_, ?_⟩
  · rw [admits.sender]
    exact Ne.symm other
  · rw [← admits.infos]
    exact renewal.nonempty
  · rw [← admits.infos]
    exact admits.renewing.fresh
  · rw [← admits.infos]
    exact admits.renewing.signed
  · intro device new
    refine ⟨List.mem_append_right _ new, ?_⟩
    rw [addedView, if_pos (.inr new)]

end Admits

/-- A member handles an addition when no bundle is on its way to it. -/
structure Handles (frame : GroupFrame getE2eesPack) (net : GroupNet β)
    (view : E2eeAddress → E2eeAddress → Option (GroupChain β)) (receiver : E2eeAddress)
    (msg : GroupAddMsg β) (rest : List (GroupPost β)) (adderChain : GroupChain β)
    (renewal : GroupRenewal getE2eesPack) : Prop where
  member : receiver ∈ net.members
  first : net.inbox receiver = .addition msg :: rest
  settled : ∀ sender, ¬net.Promised sender receiver
  announced : frame.Announced view net.members receiver (view receiver) msg
  infos : renewal.infos = msg.infos
  renewing : frame.Renewing (view receiver) msg.senderAddress receiver adderChain renewal

namespace Handles

variable {frame : GroupFrame getE2eesPack} {net : GroupNet β}
  {view : E2eeAddress → E2eeAddress → Option (GroupChain β)} {receiver : E2eeAddress}
  {msg : GroupAddMsg β} {rest : List (GroupPost β)} {adderChain : GroupChain β}
  {renewal : GroupRenewal getE2eesPack}
  (handles : frame.Handles net view receiver msg rest adderChain renewal)

include handles

theorem applied : applyPost frame.cipherSuite (view receiver) (.addition msg) =
    renewedChain frame.cipherSuite msg.senderAddress msg.infos adderChain.chainKey
      (view receiver) :=
  @applyPost_addition _ frame.cipherSuite _ _ _ handles.renewing.adding

theorem newDevices_eq : renewal.bundle.newDevices = msg.newDevices :=
  congrArg (List.map GroupMemberInfo.memberAddress) handles.infos

theorem not_adding : renewal.bundle.adding = false := by
  rw [handles.renewing.bundle_adding]
  exact decide_eq_false handles.announced.author.symm

theorem no_bundle {bundle : GroupUpdateKeyBundle β} : (receiver, bundle) ∉ net.flying := by
  intro present
  exact handles.settled bundle.sender (.inl ⟨bundle, present, .inl rfl⟩)

theorem newDevice_ne {device : E2eeAddress} (new : device ∈ msg.newDevices) :
    device ≠ receiver := by
  rintro rfl
  rw [← handles.newDevices_eq] at new
  exact handles.renewing.owner_old new

/-- The bundle of a receiver only brings its own chain. -/
theorem sender_of_brings {other : E2eeAddress} (brings : renewal.bundle.Brings other) :
    other = renewal.bundle.sender := by
  obtain own | ⟨adding, -⟩ := brings
  · exact own
  · rw [handles.not_adding] at adding
    cases adding

end Handles

end GroupFrame

/-- A member has renewed its sessions and sends its bundle to the new devices. -/
def GroupNet.handled (net : GroupNet β) (receiver : E2eeAddress) (msg : GroupAddMsg β)
    (rest : List (GroupPost β)) (renewal : GroupRenewal getE2eesPack) : GroupNet β :=
  { net with
    groups := Function.update net.groups receiver renewal.finish
    inbox := Function.update net.inbox receiver rest
    flying := net.flying ++ msg.newDevices.map fun address => (address, renewal.bundle) }

namespace GroupFrame.Synced

variable {frame : GroupFrame getE2eesPack} {net : GroupNet β}
  {view : E2eeAddress → E2eeAddress → Option (GroupChain β)}
  {chains : E2eeAddress → Option (GroupChain β)} (synced : frame.Synced net view chains)

include synced

/-- A bundle of the adder is the only one that brings a new device its own chain. -/
theorem adding_of_brings {member : E2eeAddress} {bundle : GroupUpdateKeyBundle β}
    (present : (member, bundle) ∈ net.flying) (brings : bundle.Brings member) :
    bundle.adding = true := by
  obtain ⟨-, new, bundled, -⟩ := synced.flying member bundle present
  obtain rfl | ⟨adding, -⟩ := brings
  · exact absurd new bundled.apart
  · exact adding

/-- A member that holds its own chain waits for no bundle of an adder. -/
theorem unbrought {member : E2eeAddress} {chain : GroupChain β}
    (held : frame.Holds (net.groups member) member member chain)
    {bundle : GroupUpdateKeyBundle β} (present : (member, bundle) ∈ net.flying) :
    ¬bundle.Brings member := by
  intro brings
  obtain ⟨session, found, -⟩ := held
  rw [synced.own member bundle present (synced.adding_of_brings present brings)] at found
  cases found

theorem foreign {member : E2eeAddress} (present : member ∈ net.members)
    (quiet : ∀ msg, GroupPost.addition msg ∉ net.inbox member) :
    ∀ post ∈ net.inbox member, ∃ msg, post = .message msg ∧ msg.fromAddress ≠ member := by
  have authors : ∀ post ∈ net.inbox member, ∀ msg, post = .message msg →
      msg.fromAddress ≠ member := by
    refine Machine.forall_of_along ?_ (synced.fits member present)
    rintro state post now msg rfl
    exact now.1
  intro post listed
  cases post with
  | message msg => exact ⟨msg, rfl, authors _ listed msg rfl⟩
  | addition msg => exact absurd listed (quiet msg)

/-- The chain of a member is in the state of the group when it has handled all additions. -/
theorem own_chain {member : E2eeAddress} (present : member ∈ net.members)
    (quiet : ∀ msg, GroupPost.addition msg ∉ net.inbox member) :
    view member member = chains member := by
  rw [← synced.replay member present]
  have keeps : ∀ post ∈ net.inbox member, ∀ state,
      applyPost frame.cipherSuite state post member = state member := by
    intro post listed state
    obtain ⟨msg, rfl, author⟩ := synced.foreign present quiet post listed
    exact advanceChain_other author.symm
  exact (@Machine.run_keeps _ _ (applyPost frame.cipherSuite) _ _ (fun state => state member)
    keeps (view member)).symm

omit synced in
/-- A device that moves one chain on sees the other chains as before. -/
theorem advancedView_other {sender receiver : E2eeAddress} (other : receiver ≠ sender)
    (address : E2eeAddress) :
    Function.update view sender (advanceChain frame.cipherSuite sender (view sender)) address
      receiver = view address receiver := by
  by_cases isSender : address = sender
  · rw [isSender, Function.update_self, advanceChain_other other]
  · rw [Function.update_of_ne isSender]

/-- The chain of one author is advanced, and the session of the author with it. -/
theorem held_advanced {member author : E2eeAddress} (present : member ∈ net.members)
    {chain : GroupChain β} (known : view member author = some chain) {next : GroupSession β}
    (carries : frame.Carries author (chain.advance frame.cipherSuite) next)
    (key : next.key = frame.key author member) {other : E2eeAddress} {otherChain : GroupChain β}
    (otherKnown : advanceChain frame.cipherSuite author (view member) other = some otherChain) :
    frame.Holds ((net.groups member).storeGroupSession next) other member otherChain ∨
      net.Promised other member := by
  by_cases isAuthor : other = author
  · subst isAuthor
    rw [advanceChain_self, known, Option.map_some, Option.some.injEq] at otherKnown
    rw [← otherKnown]
    exact .inl (.store carries key)
  · rw [advanceChain_other isAuthor] at otherKnown
    refine (synced.held member present other otherChain otherKnown).imp_left ?_
    intro before
    refine before.store_other ?_
    rw [show next.sender = author from congrArg GroupKey.sender key]
    exact Ne.symm isAuthor

/-- The first post of one inbox is handled, and the other posts still lead to the chains of the
group. -/
theorem replay_handled {receiver : E2eeAddress} {post : GroupPost β} {rest : List (GroupPost β)}
    (first : net.inbox receiver = post :: rest) {member : E2eeAddress}
    (present : member ∈ net.members) :
    Machine.run (applyPost frame.cipherSuite)
      (Function.update view receiver (applyPost frame.cipherSuite (view receiver) post) member)
      (Function.update net.inbox receiver rest member) = chains := by
  by_cases isReceiver : member = receiver
  · subst isReceiver
    rw [Function.update_self, Function.update_self, ← synced.replay member present, first]
    rfl
  · rw [Function.update_of_ne isReceiver, Function.update_of_ne isReceiver]
    exact synced.replay member present

theorem fits_handled {receiver : E2eeAddress} {post : GroupPost β} {rest : List (GroupPost β)}
    (first : net.inbox receiver = post :: rest) {member : E2eeAddress}
    (present : member ∈ net.members)
    (expected : ∀ addition, .addition addition ∈ net.inbox member →
      ∀ device ∈ addition.newDevices, device ∈ net.members →
        Function.update view receiver (applyPost frame.cipherSuite (view receiver) post)
          device member = view device member) :
    Machine.Along (applyPost frame.cipherSuite)
      (frame.Fits (Function.update view receiver
        (applyPost frame.cipherSuite (view receiver) post)) net.members member)
      (Function.update view receiver (applyPost frame.cipherSuite (view receiver) post) member)
      (Function.update net.inbox receiver rest member) := by
  by_cases isReceiver : member = receiver
  · subst isReceiver
    have steps := synced.fits member present
    rw [first, Machine.along_cons] at steps
    rw [Function.update_self, Function.update_self]
    refine along_change steps.2 (List.Subset.refl _) ?_
    intro addition listed
    refine expected addition ?_
    rw [first]
    exact List.mem_cons_of_mem _ listed
  · rw [Function.update_of_ne isReceiver, Function.update_of_ne isReceiver]
    exact along_change (synced.fits member present) (List.Subset.refl _) expected

/-- A device that stores tidy sessions keeps the stored sessions of all members tidy. -/
theorem tidy_updated {receiver : E2eeAddress} {groups : GroupStore β}
    (tidy : frame.Tidy groups receiver) {address : E2eeAddress} (isMember : address ∈ net.members) :
    frame.Tidy (Function.update net.groups receiver groups address) address := by
  by_cases isReceiver : address = receiver
  · subst isReceiver
    rw [Function.update_self]
    exact tidy
  · rw [Function.update_of_ne isReceiver]
    exact synced.tidy address isMember

theorem outside_updated {receiver : E2eeAddress} (member : receiver ∈ net.members)
    {rest : List (GroupPost β)} {address : E2eeAddress} (absent : address ∉ net.members) :
    Function.update net.inbox receiver rest address = [] := by
  have other : address ≠ receiver := fun same => absent (same ▸ member)
  rw [Function.update_of_ne other]
  exact synced.outside address absent

/-- The own session that a device waits for is absent after a change of one device, when the changed
device still lacks it. -/
theorem own_updated {receiver : E2eeAddress} {groups : GroupStore β} {address : E2eeAddress}
    {bundle : GroupUpdateKeyBundle β} (present : (address, bundle) ∈ net.flying)
    (adding : bundle.adding = true)
    (lacking : address = receiver → groups.lookup (frame.key receiver receiver) = none) :
    (Function.update net.groups receiver groups address).lookup (frame.key address address) =
      none := by
  by_cases isReceiver : address = receiver
  · subst isReceiver
    rw [Function.update_self]
    exact lacking rfl
  · rw [Function.update_of_ne isReceiver]
    exact synced.own address bundle present adding

/-- A device changes its sessions and its view, and the others hold what they held. -/
theorem held_updated {receiver : E2eeAddress} {groups : GroupStore β}
    {seen : E2eeAddress → Option (GroupChain β)} {next : GroupNet β}
    (changed : next.groups = Function.update net.groups receiver groups)
    {address other : E2eeAddress} (isMember : address ∈ net.members) {chain : GroupChain β}
    (known : Function.update view receiver seen address other = some chain)
    (promised : address ≠ receiver → net.Promised other address → next.Promised other address)
    (here : address = receiver → seen other = some chain →
      frame.Holds groups other receiver chain ∨ next.Promised other receiver) :
    frame.Holds (next.groups address) other address chain ∨ next.Promised other address := by
  rw [changed]
  by_cases isReceiver : address = receiver
  · subst isReceiver
    rw [Function.update_self] at known ⊢
    exact here rfl known
  · rw [Function.update_of_ne isReceiver] at known ⊢
    exact (synced.held address isMember other chain known).imp_right (promised isReceiver)

/-- An inbox without additions holds messages. -/
theorem messages {member : E2eeAddress} (present : member ∈ net.members)
    (quiet : ∀ msg, GroupPost.addition msg ∉ net.inbox member) :
    ∀ post ∈ net.inbox member, ∃ msg, post = GroupPost.message msg := by
  intro post listed
  obtain ⟨msg, same, -⟩ := synced.foreign present quiet post listed
  exact ⟨msg, same⟩

/-- The sender has moved its chain on, and the others find the message in their inboxes. -/
theorem replay_sent {sender : E2eeAddress} (member : sender ∈ net.members)
    (quiet : ∀ msg, GroupPost.addition msg ∉ net.inbox sender) {msg : E2eeMsg β}
    (fromSender : msg.fromAddress = sender) {address : E2eeAddress}
    (isMember : address ∈ net.members) :
    Machine.run (applyPost frame.cipherSuite)
      (Function.update view sender (advanceChain frame.cipherSuite sender (view sender)) address)
      (net.posted sender [.message msg] address) =
        advanceChain frame.cipherSuite sender chains := by
  by_cases isSender : address = sender
  · subst isSender
    rw [Function.update_self, net.posted_author,
      Machine.run_comm (applyPost_comm (synced.messages member quiet) address),
      synced.replay address isMember]
  · rw [Function.update_of_ne isSender, net.posted_other isMember isSender, Machine.run_append,
      synced.replay address isMember, Machine.run_cons, Machine.run_nil, applyPost, fromSender]

/-- The message of a member fits the chains that the others reach before it. -/
theorem fits_sent {sender : E2eeAddress} (member : sender ∈ net.members)
    (quiet : ∀ msg, GroupPost.addition msg ∉ net.inbox sender) {chain : GroupChain β}
    (known : view sender sender = some chain) {msg : E2eeMsg β} {plaintext : Bytes β}
    (made : frame.Made sender chain msg plaintext) {address : E2eeAddress}
    (isMember : address ∈ net.members) :
    Machine.Along (applyPost frame.cipherSuite)
      (frame.Fits (Function.update view sender
        (advanceChain frame.cipherSuite sender (view sender))) net.members address)
      (Function.update view sender (advanceChain frame.cipherSuite sender (view sender)) address)
      (net.posted sender [.message msg] address) := by
  by_cases isSender : address = sender
  · subst isSender
    rw [Function.update_self, net.posted_author]
    refine Machine.along_comm (applyPost_comm (synced.messages member quiet) address) ?_
      (synced.fits address isMember)
    intro post listed state now
    obtain ⟨foreign, rfl, author⟩ := synced.foreign member quiet post listed
    obtain ⟨-, standing, chain, plaintext, known, made⟩ := now
    exact ⟨author, standing, chain, plaintext, (advanceChain_other author).trans known, made⟩
  · have fromSender := made.fromAddress
    rw [Function.update_of_ne isSender, net.posted_other isMember isSender, Machine.along_append]
    refine ⟨along_change (synced.fits address isMember) (List.Subset.refl _) ?_, ?_, trivial⟩
    · intro _ _ device _ _
      exact advancedView_other isSender device
    · rw [synced.replay address isMember]
      refine ⟨?_, ?_, chain, plaintext, ?_, ?_⟩
      · rw [fromSender]
        exact Ne.symm isSender
      · rw [fromSender]
        exact synced.standing sender member
      · rw [fromSender, ← synced.own_chain member quiet, known]
      · rw [fromSender]
        exact made

/-- A message that the server has accepted keeps the group in step. -/
theorem send {sender : E2eeAddress} (member : sender ∈ net.members)
    (quiet : ∀ msg, GroupPost.addition msg ∉ net.inbox sender) {chain : GroupChain β}
    (known : view sender sender = some chain)
    (held : frame.Holds (net.groups sender) sender sender chain) {msg : E2eeMsg β}
    {plaintext : Bytes β} (made : frame.Made sender chain msg plaintext)
    {next : GroupSession β}
    (carries : frame.Carries sender (chain.advance frame.cipherSuite) next)
    (key : next.key = frame.key sender sender) :
    frame.Synced
      { net with
        groups := Function.update net.groups sender ((net.groups sender).storeGroupSession next)
        inbox := net.posted sender [.message msg] }
      (Function.update view sender (advanceChain frame.cipherSuite sender (view sender)))
      (advanceChain frame.cipherSuite sender chains) := by
  exact {
    domain := by
      intro address
      rw [synced.domain address]
      by_cases isSender : address = sender
      · rw [isSender, advanceChain_self, Option.isSome_map]
      · rw [advanceChain_other isSender]
    outside := by
      intro address absent
      have notMember : ¬(address ∈ net.members ∧ address ≠ sender) := fun both => absent both.1
      exact (if_neg notMember).trans (synced.outside address absent)
    standing := synced.standing
    tidy := fun _ isMember =>
      synced.tidy_updated ((synced.tidy sender member).store key) isMember
    seen := by
      intro address isMember
      by_cases isSender : address = sender
      · subst isSender
        rw [Function.update_self, advanceChain_self, known]
        rfl
      · rw [Function.update_of_ne isSender]
        exact synced.seen address isMember
    replay := fun _ isMember => synced.replay_sent member quiet made.fromAddress isMember
    fits := fun _ isMember => synced.fits_sent member quiet known made isMember
    held := by
      intro address isMember other otherChain otherKnown
      have promised : net.Promised other address → GroupNet.Promised
          { net with
            groups := Function.update net.groups sender
              ((net.groups sender).storeGroupSession next)
            inbox := net.posted sender [.message msg] } other address := by
        intro before
        refine before.mono (fun _ present _ => present) ?_
        intro addition listed new
        exact .inr ⟨addition, GroupNet.mem_posted listed, new⟩
      refine synced.held_updated rfl isMember otherKnown (fun _ => promised) ?_
      rintro rfl seen
      exact (synced.held_advanced isMember known carries key seen).imp_right promised
    own := by
      intro address bundle present adding
      have new := synced.flying address bundle present
      refine synced.own_updated present adding ?_
      rintro rfl
      exact absurd (.inr ⟨adding, new.2.1⟩) (synced.unbrought held present)
    flying := by
      intro address bundle present
      obtain ⟨isMember, new, bundled, brought⟩ := synced.flying address bundle present
      refine ⟨isMember, new, bundled, ?_⟩
      intro other otherChain broughtHere
      by_cases isSender : address = sender
      · subst isSender
        have different : other ≠ address := by
          rintro rfl
          exact synced.unbrought held present
            (GroupUpdateKeyBundle.brings_of_broughtChain broughtHere)
        rw [advancedView_other different]
        exact brought other otherChain broughtHere
      · rw [Function.update_of_ne isSender]
        exact brought other otherChain broughtHere
    once := synced.once }

/-- A message that is handled keeps the group in step. -/
theorem receive {receiver : E2eeAddress} (member : receiver ∈ net.members) {msg : E2eeMsg β}
    {rest : List (GroupPost β)} (first : net.inbox receiver = .message msg :: rest)
    (unpromised : ¬net.Promised msg.fromAddress receiver) (author : msg.fromAddress ≠ receiver)
    {chain : GroupChain β} (known : view receiver msg.fromAddress = some chain)
    {next : GroupSession β}
    (carries : frame.Carries msg.fromAddress (chain.advance frame.cipherSuite) next)
    (key : next.key = frame.key msg.fromAddress receiver) :
    frame.Synced
      { net with
        groups := Function.update net.groups receiver
          ((net.groups receiver).storeGroupSession next)
        inbox := Function.update net.inbox receiver rest }
      (Function.update view receiver
        (advanceChain frame.cipherSuite msg.fromAddress (view receiver))) chains := by
  have nextSender : next.sender = msg.fromAddress := congrArg GroupKey.sender key
  have sameView {address other : E2eeAddress}
      (apart : address = receiver → other ≠ msg.fromAddress) :
      Function.update view receiver (advanceChain frame.cipherSuite msg.fromAddress (view receiver))
        address other = view address other := by
    by_cases isReceiver : address = receiver
    · rw [isReceiver, Function.update_self, advanceChain_other (apart isReceiver)]
    · rw [Function.update_of_ne isReceiver]
  have additions {address : E2eeAddress} {addition : GroupAddMsg β}
      (listed : .addition addition ∈ net.inbox address) :
      .addition addition ∈ Function.update net.inbox receiver rest address := by
    by_cases isReceiver : address = receiver
    · subst isReceiver
      rw [first] at listed
      rw [Function.update_self]
      exact (List.mem_cons.mp listed).resolve_left (by simp)
    · rw [Function.update_of_ne isReceiver]
      exact listed
  exact {
    domain := synced.domain
    outside := fun _ absent => synced.outside_updated member absent
    standing := synced.standing
    tidy := fun _ isMember =>
      synced.tidy_updated ((synced.tidy receiver member).store key) isMember
    seen := by
      intro address isMember
      rw [sameView fun same => same ▸ author.symm]
      exact synced.seen address isMember
    replay := fun _ isMember => synced.replay_handled first isMember
    fits := by
      intro address isMember
      have expected : ∀ addition, .addition addition ∈ net.inbox address →
          ∀ device ∈ addition.newDevices, device ∈ net.members →
          Function.update view receiver (advanceChain frame.cipherSuite msg.fromAddress
            (view receiver)) device address = view device address := by
        intro addition listed device new _
        refine sameView ?_
        rintro rfl rfl
        exact unpromised (.inr ⟨addition, listed, new⟩)
      exact synced.fits_handled first isMember expected
    held := by
      intro address isMember other otherChain otherKnown
      have promised : net.Promised other address → GroupNet.Promised
          { net with
            groups := Function.update net.groups receiver
              ((net.groups receiver).storeGroupSession next)
            inbox := Function.update net.inbox receiver rest } other address := by
        intro before
        refine before.mono (fun _ present _ => present) ?_
        intro addition listed new
        exact .inr ⟨addition, additions listed, new⟩
      refine synced.held_updated rfl isMember otherKnown (fun _ => promised) ?_
      rintro rfl seen
      exact (synced.held_advanced isMember known carries key seen).imp_right promised
    own := by
      intro address bundle present adding
      refine synced.own_updated present adding ?_
      rintro rfl
      rw [lookup_store_other]
      · exact synced.own address bundle present adding
      · rw [nextSender]
        exact author
    flying := by
      intro address bundle present
      obtain ⟨isMember, new, bundled, brought⟩ := synced.flying address bundle present
      refine ⟨isMember, new, bundled, ?_⟩
      intro other otherChain broughtHere
      refine (sameView ?_).trans (brought other otherChain broughtHere)
      rintro rfl rfl
      exact unpromised
        (.inl ⟨bundle, present, GroupUpdateKeyBundle.brings_of_broughtChain broughtHere⟩)
    once := synced.once }

/-- A bundle that arrives keeps the group in step. -/
theorem arrive {index : Nat} {receiver : E2eeAddress} {bundle : GroupUpdateKeyBundle β}
    (found : net.flying[index]? = some (receiver, bundle)) :
    frame.Synced
      { net with
        groups := Function.update net.groups receiver (consumeGroupUpdateKeyBundle getE2eesPack
          (frame.device net receiver) receiver bundle)
        flying := net.flying.eraseIdx index } view chains := by
  obtain ⟨inside, same⟩ := List.getElem?_eq_some_iff.mp found
  have listed : (receiver, bundle) ∈ net.flying := List.mem_of_getElem? found
  obtain ⟨member, new, bundled, brought⟩ := synced.flying receiver bundle listed
  have standing := synced.standing receiver member
  have split := List.getElem_cons_eraseIdx_perm inside
  rw [same] at split
  have kept {other : E2eeAddress × GroupUpdateKeyBundle β} (present : other ∈ net.flying)
      (different : other ≠ (receiver, bundle)) : other ∈ net.flying.eraseIdx index := by
    obtain same | later := List.mem_cons.mp (split.mem_iff.mpr present)
    · exact absurd same different
    · exact later
  have earlier {other : E2eeAddress × GroupUpdateKeyBundle β}
      (present : other ∈ net.flying.eraseIdx index) : other ∈ net.flying :=
    split.mem_iff.mp (List.mem_cons_of_mem _ present)
  exact {
    domain := synced.domain
    outside := synced.outside
    standing := synced.standing
    tidy := fun _ isMember =>
      synced.tidy_updated (bundled.tidy standing new (synced.tidy receiver member)) isMember
    seen := synced.seen
    replay := synced.replay
    fits := synced.fits
    held := by
      intro address isMember other chain known
      have promised (apart : address = receiver → ¬bundle.Brings other) :
          net.Promised other address → GroupNet.Promised
          { net with
            groups := Function.update net.groups receiver (consumeGroupUpdateKeyBundle getE2eesPack
              (frame.device net receiver) receiver bundle)
            flying := net.flying.eraseIdx index } other address := by
        intro before
        refine before.mono ?_ fun addition inInbox named => .inr ⟨addition, inInbox, named⟩
        intro another present brings
        refine kept present ?_
        intro same
        obtain ⟨rfl, rfl⟩ := Prod.mk.inj same
        exact apart rfl brings
      rw [← Function.update_eq_self receiver view] at known
      refine synced.held_updated rfl isMember known
        (fun apart => promised fun same => absurd same apart) ?_
      rintro rfl seen
      by_cases brings : bundle.Brings other
      · rw [← @GroupUpdateKeyBundle.broughtChain_isSome _ frame.cipherSuite,
          Option.isSome_iff_exists] at brings
        obtain ⟨broughtChain, broughtHere⟩ := brings
        rw [brought other broughtChain broughtHere, Option.some.injEq] at seen
        rw [← seen]
        exact .inl (bundled.holds standing new _ broughtHere)
      · refine (synced.held address isMember other chain seen).imp ?_ (promised fun _ => brings)
        rintro ⟨session, stored, carries⟩
        exact ⟨session, (bundled.lookup_other standing new _ brings).trans stored, carries⟩
    own := by
      intro address another present adding
      refine synced.own_updated (earlier present) adding ?_
      rintro rfl
      have notAdding : bundle.adding ≠ true := by
        intro alsoAdding
        have once := synced.once
        rw [← split.pairwise_iff (fun apart second first => (apart first second).symm),
          List.pairwise_cons] at once
        exact once.1 _ present alsoAdding adding rfl
      refine (bundled.lookup_other standing new _ ?_).trans
        (synced.own address another (earlier present) adding)
      exact fun brings => notAdding (synced.adding_of_brings listed brings)
    flying := fun address another present => synced.flying address another (earlier present)
    once := synced.once.sublist (List.eraseIdx_sublist _ _) }

/-- A member without outstanding bundles holds all chains of its view. -/
theorem held_of_settled {member : E2eeAddress} (present : member ∈ net.members)
    (settled : ∀ sender, ¬net.Promised sender member) {sender : E2eeAddress}
    {chain : GroupChain β} (known : view member sender = some chain) :
    frame.Holds (net.groups member) sender member chain :=
  (synced.held member present sender chain known).resolve_right (settled sender)

section Handled

variable {receiver : E2eeAddress} {msg : GroupAddMsg β} {rest : List (GroupPost β)}
  {adderChain : GroupChain β} {renewal : GroupRenewal getE2eesPack}
  (handles : frame.Handles net view receiver msg rest adderChain renewal)

include handles

omit synced in
/-- A bundle that was promised by an inbox is on its way once the inbox has handled the addition. -/
theorem promised_handled {other address : E2eeAddress} (before : net.Promised other address) :
    (net.handled receiver msg rest renewal).Promised other address := by
  refine before.mono (fun _ present _ => List.mem_append_left _ present) ?_
  intro addition listed new
  by_cases isOther : other = receiver
  · subst isOther
    rw [handles.first] at listed
    obtain same | later := List.mem_cons.mp listed
    · obtain rfl := GroupPost.addition.inj same
      refine .inl ⟨renewal.bundle, ?_, .inl handles.renewing.bundle_sender.symm⟩
      exact List.mem_append_right _ (List.mem_map_of_mem new)
    · refine .inr ⟨addition, ?_, new⟩
      dsimp only [GroupNet.handled]
      rw [Function.update_self]
      exact later
  · refine .inr ⟨addition, ?_, new⟩
    dsimp only [GroupNet.handled]
    rw [Function.update_of_ne isOther]
    exact listed

/-- The receiver holds the renewed chains, and the others hold what they held. -/
theorem held_handled {address other : E2eeAddress} (isMember : address ∈ net.members)
    {chain : GroupChain β}
    (known : Function.update view receiver
      (applyPost frame.cipherSuite (view receiver) (.addition msg)) address other = some chain) :
    frame.Holds ((net.handled receiver msg rest renewal).groups address) other address chain ∨
      (net.handled receiver msg rest renewal).Promised other address := by
  refine synced.held_updated rfl isMember known (fun _ => promised_handled handles) ?_
  rintro - seen
  rw [handles.applied, ← handles.infos] at seen
  exact .inl (handles.renewing.holds_renewed seen)

/-- The bundle of the receiver brings the new devices the chain that they see. -/
theorem flying_handled {address : E2eeAddress} {bundle : GroupUpdateKeyBundle β}
    (present : (address, bundle) ∈ (net.handled receiver msg rest renewal).flying) :
    address ∈ net.members ∧ address ∈ bundle.newDevices ∧ frame.Bundled bundle ∧
      ∀ sender chain, bundle.broughtChain frame.cipherSuite sender = some chain →
        Function.update view receiver
          (applyPost frame.cipherSuite (view receiver) (.addition msg)) address sender =
            some chain := by
  obtain before | new := List.mem_append.mp present
  · obtain ⟨isMember, isNew, bundled, brought⟩ := synced.flying address bundle before
    have other : address ≠ receiver := by
      rintro rfl
      exact handles.no_bundle before
    refine ⟨isMember, isNew, bundled, ?_⟩
    rw [Function.update_of_ne other]
    exact brought
  · obtain ⟨device, isNew, same⟩ := List.mem_map.mp new
    obtain ⟨rfl, rfl⟩ := Prod.mk.inj same
    obtain ⟨isMember, expected⟩ := handles.announced.expected device isNew
    refine ⟨isMember, handles.newDevices_eq ▸ isNew,
      handles.renewing.bundled (synced.standing receiver handles.member), ?_⟩
    intro other chain brought
    obtain rfl := handles.sender_of_brings (GroupUpdateKeyBundle.brings_of_broughtChain brought)
    have renewed := handles.renewing.brought_renewed brought
    rw [handles.renewing.bundle_sender, handles.infos] at renewed
    rw [Function.update_of_ne (handles.newDevice_ne isNew), handles.renewing.bundle_sender,
      expected, handles.applied]
    exact renewed

end Handled

/-- An addition that is handled keeps the group in step. -/
theorem renew {receiver : E2eeAddress} (member : receiver ∈ net.members) {msg : GroupAddMsg β}
    {rest : List (GroupPost β)} (first : net.inbox receiver = .addition msg :: rest)
    (settled : ∀ sender, ¬net.Promised sender receiver)
    (announced : frame.Announced view net.members receiver (view receiver) msg)
    {adderChain : GroupChain β} {renewal : GroupRenewal getE2eesPack}
    (infos : renewal.infos = msg.infos)
    (renewing : frame.Renewing (view receiver) msg.senderAddress receiver adderChain renewal) :
    frame.Synced (net.handled receiver msg rest renewal)
      (Function.update view receiver
        (applyPost frame.cipherSuite (view receiver) (.addition msg))) chains := by
  have handles : frame.Handles net view receiver msg rest adderChain renewal :=
    ⟨member, first, settled, announced, infos, renewing⟩
  exact {
    domain := synced.domain
    outside := fun _ absent => synced.outside_updated member absent
    standing := synced.standing
    tidy := fun _ isMember => synced.tidy_updated renewing.tidy_finish isMember
    seen := by
      intro address isMember
      by_cases isReceiver : address = receiver
      · subst isReceiver
        have isSome : (view address msg.senderAddress).isSome = true := by
          rw [renewing.adding]
          rfl
        rw [Function.update_self, handles.applied, renewedChain_isSome isSome]
        exact .inr (synced.seen address isMember)
      · rw [Function.update_of_ne isReceiver]
        exact synced.seen address isMember
    replay := fun _ isMember => synced.replay_handled first isMember
    fits := by
      intro address isMember
      have expected : ∀ addition, .addition addition ∈ net.inbox address →
          ∀ device ∈ addition.newDevices, device ∈ net.members →
          Function.update view receiver (applyPost frame.cipherSuite (view receiver)
            (.addition msg)) device address = view device address := by
        intro addition listed device new _
        rw [Function.update_of_ne]
        rintro rfl
        exact settled address (.inr ⟨addition, listed, new⟩)
      exact synced.fits_handled first isMember expected
    held := fun _ isMember _ _ known => synced.held_handled handles isMember known
    own := by
      intro address bundle present adding
      obtain before | new := List.mem_append.mp present
      · refine synced.own_updated before adding ?_
        rintro rfl
        exact absurd before handles.no_bundle
      · obtain ⟨device, -, same⟩ := List.mem_map.mp new
        obtain ⟨-, rfl⟩ := Prod.mk.inj same
        rw [handles.not_adding] at adding
        cases adding
    flying := fun _ _ present => synced.flying_handled handles present
    once := by
      rw [GroupNet.handled, List.pairwise_append]
      refine ⟨synced.once, ?_, ?_⟩
      · rw [List.pairwise_map]
        exact List.pairwise_of_forall fun _ _ adding =>
          absurd adding (by simp [handles.not_adding])
      · intro old _ added new _ adding
        obtain ⟨device, -, rfl⟩ := List.mem_map.mp new
        rw [handles.not_adding] at adding
        cases adding }

/-- The adder has handled everything, and a new device has no posts yet. -/
theorem inbox_new {adder : E2eeAddress} {adderChain : GroupChain β} {msg : GroupAddMsg β}
    {renewal : GroupRenewal getE2eesPack}
    (admits : frame.Admits net chains adder adderChain msg renewal) {address : E2eeAddress}
    (new : address = adder ∨ address ∈ msg.newDevices) :
    net.posted adder [.addition msg] address = [] := by
  obtain rfl | new := new
  · exact (if_neg (fun both => both.2 rfl)).trans admits.empty
  · have absent := (admits.newDevice new).1
    exact (if_neg (fun both => absent both.1)).trans (synced.outside address absent)

/-- The adder holds the new chains, a new device waits for its bundles, and all others hold what they
held. -/
theorem held_added {adder : E2eeAddress} {adderChain : GroupChain β} {msg : GroupAddMsg β}
    {renewal : GroupRenewal getE2eesPack}
    (admits : frame.Admits net chains adder adderChain msg renewal) {address other : E2eeAddress}
    (isMember : address ∈ (net.added adder msg renewal).members) {chain : GroupChain β}
    (known : addedView frame.cipherSuite view chains adder msg address other = some chain) :
    frame.Holds ((net.added adder msg renewal).groups address) other address chain ∨
      (net.added adder msg renewal).Promised other address := by
  dsimp only [GroupNet.added]
  obtain (rfl | new) | ⟨old, notAdder⟩ := GroupNet.added_cases isMember
  · rw [addedView, if_pos (.inl rfl), admits.applied, ← admits.infos] at known
    rw [Function.update_self]
    exact .inl (admits.renewing.holds_renewed known)
  · rw [addedView, if_pos (.inr new), admits.applied] at known
    have someChain : (renewedChain frame.cipherSuite adder msg.infos adderChain.chainKey chains
        other).isSome = true := by
      rw [known]
      rfl
    rw [renewedChain_isSome admits.adder_isSome, ← synced.domain other] at someChain
    have flies : (address, renewal.bundle) ∈ (net.added adder msg renewal).flying :=
      List.mem_append_right _ (List.mem_map_of_mem new)
    obtain otherNew | otherOld := someChain
    · refine .inr (.inl ⟨renewal.bundle, flies, .inr ⟨?_, ?_⟩⟩)
      · rw [admits.renewing.bundle_adding]
        exact decide_eq_true rfl
      · rw [admits.newDevices_eq]
        exact otherNew
    · by_cases isAdder : other = adder
      · subst isAdder
        exact .inr (.inl ⟨renewal.bundle, flies, .inl admits.renewing.bundle_sender.symm⟩)
      · refine .inr (.inr ⟨msg, ?_, new⟩)
        dsimp only
        rw [net.posted_other otherOld isAdder]
        exact List.mem_append_right _ List.mem_cons_self
  · rw [admits.view_old old notAdder] at known
    rw [Function.update_of_ne notAdder]
    refine (synced.held address old other chain known).imp_right ?_
    intro before
    refine before.mono (fun _ present _ => List.mem_append_left _ present) ?_
    intro addition listed named
    exact .inr ⟨addition, GroupNet.mem_posted listed, named⟩

/-- The bundle of the adder brings the new devices the chain that they see. -/
theorem flying_added {adder : E2eeAddress} {adderChain : GroupChain β} {msg : GroupAddMsg β}
    {renewal : GroupRenewal getE2eesPack}
    (admits : frame.Admits net chains adder adderChain msg renewal) {address : E2eeAddress}
    {bundle : GroupUpdateKeyBundle β}
    (present : (address, bundle) ∈ (net.added adder msg renewal).flying) :
    address ∈ (net.added adder msg renewal).members ∧ address ∈ bundle.newDevices ∧
      frame.Bundled bundle ∧
      ∀ sender chain, bundle.broughtChain frame.cipherSuite sender = some chain →
        addedView frame.cipherSuite view chains adder msg address sender = some chain := by
  obtain before | new := List.mem_append.mp present
  · obtain ⟨isMember, isNew, bundled, brought⟩ := synced.flying address bundle before
    have notAdder : address ≠ adder := by
      rintro rfl
      exact admits.no_bundle before
    refine ⟨List.mem_append_left _ isMember, isNew, bundled, ?_⟩
    rw [admits.view_old isMember notAdder]
    exact brought
  · obtain ⟨device, isNew, same⟩ := List.mem_map.mp new
    obtain ⟨rfl, rfl⟩ := Prod.mk.inj same
    refine ⟨List.mem_append_right _ isNew, admits.newDevices_eq ▸ isNew,
      admits.renewing.bundled (synced.standing adder admits.member), ?_⟩
    intro other chain brought
    have renewed := admits.renewing.brought_renewed brought
    rw [admits.infos] at renewed
    rw [addedView, if_pos (.inr isNew), admits.applied]
    exact renewed

/-- An addition that the server has accepted keeps the group in step. -/
theorem add {adder : E2eeAddress} {adderChain : GroupChain β} {msg : GroupAddMsg β}
    {renewal : GroupRenewal getE2eesPack}
    (admits : frame.Admits net chains adder adderChain msg renewal) :
    frame.Synced (net.added adder msg renewal)
      (addedView frame.cipherSuite view chains adder msg)
      (applyPost frame.cipherSuite chains (.addition msg)) := by
  have applied := admits.applied
  have isSome := admits.adder_isSome
  exact {
    domain := by
      intro address
      rw [applied, renewedChain_isSome isSome, GroupNet.added, List.mem_append,
        synced.domain address]
      exact or_comm
    outside := by
      intro address absent
      rw [GroupNet.added, List.mem_append, not_or] at absent
      exact (if_neg (fun both => absent.1 both.1)).trans (synced.outside address absent.1)
    standing := by
      intro address isMember
      obtain old | new := List.mem_append.mp isMember
      · exact synced.standing address old
      · exact (admits.newDevice new).2.1
    tidy := by
      intro address isMember
      dsimp only [GroupNet.added]
      obtain (rfl | new) | ⟨old, other⟩ := GroupNet.added_cases isMember
      · rw [Function.update_self]
        exact admits.renewing.tidy_finish
      · rw [Function.update_of_ne (admits.newDevice_ne new)]
        exact (admits.newDevice new).2.2.2
      · rw [Function.update_of_ne other]
        exact synced.tidy address old
    seen := by
      intro address isMember
      obtain new | ⟨old, other⟩ := GroupNet.added_cases isMember
      · rw [addedView, if_pos new, applied, renewedChain_isSome isSome]
        obtain rfl | new := new
        · exact .inr isSome
        · exact .inl new
      · rw [admits.view_old old other]
        exact synced.seen address old
    replay := by
      intro address isMember
      dsimp only [GroupNet.added]
      obtain new | ⟨old, other⟩ := GroupNet.added_cases isMember
      · rw [addedView, if_pos new, synced.inbox_new admits new, Machine.run_nil]
      · rw [admits.view_old old other, net.posted_other old other, Machine.run_append,
          synced.replay address old]
        rfl
    fits := by
      intro address isMember
      dsimp only [GroupNet.added]
      obtain new | ⟨old, other⟩ := GroupNet.added_cases isMember
      · rw [synced.inbox_new admits new]
        trivial
      · rw [admits.view_old old other, net.posted_other old other, Machine.along_append,
          synced.replay address old]
        refine ⟨along_change (synced.fits address old) (List.subset_append_left _ _) ?_,
          admits.announced other, trivial⟩
        intro addition listed device named isOld
        rw [admits.view_old isOld]
        rintro rfl
        exact admits.settled address (.inr ⟨addition, listed, named⟩)
    held := fun _ isMember _ _ known => synced.held_added admits isMember known
    own := by
      intro address bundle present adding
      dsimp only [GroupNet.added]
      obtain before | new := List.mem_append.mp present
      · refine synced.own_updated before adding ?_
        rintro rfl
        exact absurd before admits.no_bundle
      · obtain ⟨device, isNew, same⟩ := List.mem_map.mp new
        obtain ⟨rfl, rfl⟩ := Prod.mk.inj same
        rw [Function.update_of_ne (admits.newDevice_ne isNew)]
        exact (admits.newDevice isNew).2.2.1
    flying := fun _ _ present => synced.flying_added admits present
    once := by
      rw [GroupNet.added, List.pairwise_append]
      refine ⟨synced.once, ?_, ?_⟩
      · rw [List.pairwise_map]
        exact admits.distinct.imp fun different _ _ => different
      · intro old before added new _ _ same
        obtain ⟨device, isNew, rfl⟩ := List.mem_map.mp new
        have isMember := (synced.flying old.1 old.2 before).1
        rw [same] at isMember
        exact (admits.newDevice isNew).1 isMember }

end GroupFrame.Synced

end Steps

end E2eeSecurity
