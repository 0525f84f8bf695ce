/-
This file shows that the chains of a group are in step again whenever everything has been handled,
if nobody sends or adds others before an accepted addition is handled.
-/
import E2eeSecurity.Group.Sync

namespace E2eeSecurity

variable {β : Type} {getE2eesPack : Packs β}

namespace GroupFrame

variable {frame : GroupFrame getE2eesPack} {net : GroupNet β}
  {view : E2eeAddress → E2eeAddress → Option (GroupChain β)}
  {chains : E2eeAddress → Option (GroupChain β)}

section Send

variable {sender : E2eeAddress} {call : GroupSendCall β}

/-- A call that the server has not accepted changes nothing. -/
theorem outcome_unacknowledged (refused : call.acknowledged ≠ true) (groups : GroupStore β) :
    (call.outcome getE2eesPack (frame.stores sender) sender groups frame.groupAddress).2 =
      groups := by
  obtain unchanged | ⟨_, _, _, _, -, -, -, -, -, -, outcome⟩ :=
    sendGroupMsgWithFilter_cases getE2eesPack ⟨frame.stores sender, groups⟩
      ⟨sender, frame.groupAddress, call.allowList, call.denyList⟩ call.plaintext call.draw
      call.response
  · exact congrArg Prod.snd unchanged
  · refine (congrArg Prod.snd outcome).trans ?_
    exact if_neg refused

/-- A device without an outbound session sends nothing. -/
theorem outcome_unheld {groups : GroupStore β} (tidy : frame.Tidy groups sender)
    (unheld : groups.lookup (frame.key sender sender) = none) :
    call.outcome getE2eesPack (frame.stores sender) sender groups frame.groupAddress =
      (none, groups) := by
  obtain unchanged | ⟨_, outbound, _, _, -, -, found, -⟩ :=
    sendGroupMsgWithFilter_cases getE2eesPack ⟨frame.stores sender, groups⟩
      ⟨sender, frame.groupAddress, call.allowList, call.denyList⟩ call.plaintext call.draw
      call.response
  · exact unchanged
  · obtain ⟨loaded, isSender⟩ := groups.loadGroupSessionByAddress_some found
    obtain ⟨present, owner, group⟩ := groups.mem_loadGroupSessions.mp loaded
    have key : outbound.key = frame.key sender sender := by
      rw [GroupSession.key, isSender, owner, group, (tidy outbound present owner).mp group]
      rfl
    have stored := groups.lookup_of_mem present
    rw [key, unheld] at stored
    cases stored

theorem step_send_of_unchanged
    (unchanged : (call.outcome getE2eesPack (frame.stores sender) sender (net.groups sender)
      frame.groupAddress).2 = net.groups sender)
    (nothing : frame.sent net sender call = []) :
    frame.step net (.send sender call) = net := by
  rw [step, unchanged, nothing, Function.update_eq_self]
  have posted : net.posted sender [] = net.inbox := by
    funext address
    simp [GroupNet.posted]
  rw [posted]

/-- A guarded call of a member keeps the group in step. -/
theorem Synced.step_send (synced : frame.Synced net view chains)
    (guarded : frame.Guarded net (.send sender call)) :
    ∃ view chains, frame.Synced (frame.step net (.send sender call)) view chains := by
  obtain ⟨member, buffer, quiet⟩ := guarded
  by_cases acknowledged : call.acknowledged = true
  · have tidy := synced.tidy sender member
    obtain ⟨chain, known⟩ := Option.isSome_iff_exists.mp ((synced.domain sender).mp member)
    rw [← synced.own_chain member (quiet acknowledged)] at known
    obtain held | promised := synced.held sender member sender chain known
    · obtain unchanged | ⟨request, next, made, carries, key, outcome⟩ :=
        send_cases (synced.standing sender member) tidy held buffer
      · refine ⟨view, chains, ?_⟩
        rw [step_send_of_unchanged]
        · exact synced
        · rw [unchanged]
        · rw [sent, unchanged, if_pos acknowledged]
          rfl
      · have posts : frame.sent net sender call = [.message request.msg] := by
          rw [sent, outcome, if_pos acknowledged]
          rfl
        rw [step, posts, outcome]
        dsimp only
        rw [if_pos acknowledged]
        exact ⟨_, _, synced.send member (quiet acknowledged) known held made carries key⟩
    · have unheld : (net.groups sender).lookup (frame.key sender sender) = none := by
        obtain ⟨bundle, present, brings⟩ | ⟨msg, listed, -⟩ := promised
        · exact synced.own sender bundle present (synced.adding_of_brings present brings)
        · exact absurd listed (quiet acknowledged msg)
      have unchanged : call.outcome getE2eesPack (frame.stores sender) sender (net.groups sender)
          frame.groupAddress = (none, net.groups sender) := outcome_unheld tidy unheld
      refine ⟨view, chains, ?_⟩
      rw [step_send_of_unchanged]
      · exact synced
      · rw [unchanged]
      · rw [sent, unchanged, if_pos acknowledged]
        rfl
  · refine ⟨view, chains, ?_⟩
    rw [step_send_of_unchanged]
    · exact synced
    · exact outcome_unacknowledged acknowledged _
    · exact if_neg acknowledged

end Send

section Add

/-- A guarded addition keeps the group in step. -/
theorem Synced.step_add (synced : frame.Synced net view chains) {adder : E2eeAddress}
    {call : GroupAddCall β} (guarded : frame.Guarded net (.add adder call)) :
    ∃ view chains, frame.Synced (frame.step net (.add adder call)) view chains := by
  obtain ⟨member, empty, settled, distinct, joining⟩ := guarded
  have sameView : view adder = chains := by
    have replay := synced.replay adder member
    rw [empty, Machine.run_nil] at replay
    exact replay
  rw [step]
  split
  · exact ⟨view, chains, synced⟩
  next msg groups bundle made =>
    obtain ⟨renewal, onDevice, loaded, senderChainKey, senderAddress, infos, -, result, sender,
      sequence, msgInfos, group⟩ := GroupAddCall.request_some made
    obtain ⟨rfl, rfl⟩ := Prod.mk.inj result
    obtain ⟨chain, known⟩ := Option.isSome_iff_exists.mp ((synced.domain adder).mp member)
    have held : ∀ sender chain, chains sender = some chain →
        frame.Holds (net.groups adder) sender adder chain := by
      intro other otherChain otherKnown
      rw [← sameView] at otherKnown
      exact synced.held_of_settled member settled otherKnown
    obtain ⟨session, found, carries⟩ := held adder chain known
    have tidy := synced.tidy adder member
    have outbound : session = renewal.outbound := by
      rw [device, tidy.loadOutbound found carries, Option.some.injEq] at loaded
      exact loaded
    subst outbound
    have sameInfos : renewal.infos = msg.infos := infos.trans msgInfos.symm
    refine ⟨_, _, synced.add ⟨member, empty, settled, sender, GroupAddCall.request_valid made, group,
      sequence.trans carries.sequence, ?_, sameInfos, ?_⟩⟩
    · rw [msgInfos]
      exact joining
    · have groups : renewal.device.groups = net.groups adder := by
        rw [onDevice]
        rfl
      refine ⟨?_, ?_, ?_, ?_, ⟨chain, known⟩, known, senderAddress, ?_, ?_, ?_, ?_⟩
      · rw [groups]
        exact held
      · rw [groups]
        exact tidy
      · rw [onDevice]
        rfl
      · rw [groups]
        exact found
      · rw [senderChainKey, if_pos rfl]
      · intro info listed
        rw [infos] at listed
        have absent := (joining info listed).absent
        rw [synced.domain, Bool.not_eq_true, Option.isSome_eq_false_iff,
          Option.isNone_iff_eq_none] at absent
        exact absent
      · rw [infos]
        exact distinct
      · rw [infos]
        exact fun info listed => (joining info listed).signed

end Add

section Handle

variable {receiver : E2eeAddress} {rest : List (GroupPost β)}

/-- A message is delivered, and the group stays in step. -/
theorem Synced.step_message (correct : frame.cipherSuite.se.Correct)
    (synced : frame.Synced net view chains) (member : receiver ∈ net.members) {msg : E2eeMsg β}
    (first : net.inbox receiver = .message msg :: rest)
    (unpromised : ¬net.Promised msg.fromAddress receiver) :
    ∃ view chains, frame.Synced
      { net with
        groups := Function.update net.groups receiver
          (consumeGroupMsg getE2eesPack (net.groups receiver) receiver msg).1
        inbox := Function.update net.inbox receiver rest } view chains := by
  have steps := synced.fits receiver member
  rw [first, Machine.along_cons] at steps
  obtain ⟨author, standing, chain, plaintext, known, made⟩ := steps.1
  have held := (synced.held receiver member _ chain known).resolve_right unpromised
  obtain ⟨next, carries, key, outcome⟩ := consumeGroupMsg_made correct
    (synced.standing receiver member).valid standing (synced.tidy receiver member) held made
  rw [outcome]
  exact ⟨_, _, synced.receive member first unpromised author known carries key⟩

/-- An addition is handled, and the group stays in step. -/
theorem Synced.step_addition (synced : frame.Synced net view chains)
    (member : receiver ∈ net.members) {msg : GroupAddMsg β}
    (first : net.inbox receiver = .addition msg :: rest)
    (settled : ∀ sender, ¬net.Promised sender receiver) :
    ∃ view chains, frame.Synced
      { net with
        groups := Function.update net.groups receiver
          (msg.consume getE2eesPack (frame.device net receiver) receiver).1
        inbox := Function.update net.inbox receiver rest
        flying := net.flying ++
          (msg.consume getE2eesPack (frame.device net receiver) receiver).2.toList.flatMap
            fun bundle => msg.newDevices.map fun address => (address, bundle) } view chains := by
  have steps := synced.fits receiver member
  rw [first, Machine.along_cons] at steps
  have announced : frame.Announced view net.members receiver (view receiver) msg := steps.1
  have standing := synced.standing receiver member
  have tidy := synced.tidy receiver member
  obtain ⟨adderChain, adderKnown, sequence⟩ := announced.chain
  have held : ∀ sender chain, view receiver sender = some chain →
      frame.Holds (net.groups receiver) sender receiver chain :=
    fun _ _ known => synced.held_of_settled member settled known
  obtain ⟨inbound, inboundFound, inboundCarries⟩ := held _ _ adderKnown
  obtain ⟨ownChain, own⟩ := Option.isSome_iff_exists.mp (synced.seen receiver member)
  obtain ⟨outbound, outboundFound, outboundCarries⟩ := held _ _ own
  have sessionId : outbound.sessionId = frame.sessionId :=
    congrArg GroupKey.sessionId (KeyedTable.lookup_key outboundFound)
  have loaded := tidy.loadOutbound outboundFound outboundCarries
  rw [← announced.group] at loaded
  have inboundLoaded := tidy.loadInbound inboundFound inboundCarries
  rw [← sessionId] at inboundLoaded
  obtain ⟨renewal, renews, isOutbound, chainKey⟩ := GroupAddMsg.exists_renews
    (frame.device net receiver) standing.valid announced.valid announced.nonempty loaded
    inboundLoaded inboundCarries.pack standing.authorised
  rw [inboundCarries.catchUp sequence, inboundCarries.chainKey] at chainKey
  have groups : renewal.device.groups = net.groups receiver := by
    rw [renews.onDevice]
    rfl
  have renewing : frame.Renewing (view receiver) msg.senderAddress receiver adderChain renewal := by
    refine ⟨?_, ?_, ?_, ?_, ⟨ownChain, own⟩, adderKnown, renews.senderAddress, ?_, ?_, ?_, ?_⟩
    · rw [groups]
      exact held
    · rw [groups]
      exact tidy
    · rw [renews.onDevice]
      rfl
    · rw [groups, isOutbound]
      exact outboundFound
    · rw [chainKey, if_neg announced.author.symm]
    · rw [renews.infos]
      exact announced.fresh
    · rw [renews.infos]
      exact announced.distinct
    · rw [renews.infos]
      exact announced.signed
  rw [GroupAddMsg.consume_eq renews]
  simp only [Option.toList_some, List.flatMap_cons, List.flatMap_nil, List.append_nil]
  exact ⟨_, _, synced.renew member first settled announced renews.infos renewing⟩

theorem Synced.step_handle (correct : frame.cipherSuite.se.Correct)
    (synced : frame.Synced net view chains) (guarded : frame.Guarded net (.handle receiver)) :
    ∃ view chains, frame.Synced (frame.step net (.handle receiver)) view chains := by
  obtain ⟨message, addition⟩ := guarded
  rw [step]
  by_cases member : receiver ∈ net.members
  · split
    · exact ⟨view, chains, synced⟩
    next msg rest first => exact synced.step_message correct member first (message msg rest first)
    next msg rest first => exact synced.step_addition member first (addition msg rest first)
  · rw [synced.outside receiver member]
    exact ⟨view, chains, synced⟩

end Handle

/-- A guarded move keeps the group in step. -/
theorem Synced.step (correct : frame.cipherSuite.se.Correct)
    (synced : ∃ view chains, frame.Synced net view chains) {move : GroupMove β}
    (guarded : frame.Guarded net move) :
    ∃ view chains, frame.Synced (frame.step net move) view chains := by
  obtain ⟨view, chains, synced⟩ := synced
  cases move with
  | send sender call => exact synced.step_send guarded
  | add adder call => exact synced.step_add guarded
  | handle receiver => exact synced.step_handle correct guarded
  | arrive index =>
      rw [GroupFrame.step]
      split
      · exact ⟨view, chains, synced⟩
      next receiver bundle found => exact ⟨view, chains, synced.arrive found⟩

theorem Agrees.synced (agrees : frame.Agrees net chains) :
    frame.Synced net (fun _ => chains) chains where
  domain address := by
    rw [agrees.domain, Option.isSome_iff_exists]
  outside address _ := agrees.delivered address
  standing := agrees.standing
  tidy := agrees.tidy
  seen member present := by
    rw [Option.isSome_iff_exists]
    exact (agrees.domain member).mp present
  replay member _ := by
    rw [agrees.delivered member]
    rfl
  fits member _ := by
    rw [agrees.delivered member]
    trivial
  held member present sender chain known := .inl (agrees.held member present sender chain known)
  own member bundle present := by
    rw [agrees.landed] at present
    cases present
  flying member bundle present := by
    rw [agrees.landed] at present
    cases present
  once := by
    rw [agrees.landed]
    exact .nil

end GroupFrame

section Awaiting

variable {frame : GroupFrame getE2eesPack} {net : GroupNet β} {post : GroupPost β}
  {address receiver : E2eeAddress} {infos : List (GroupMemberInfo β)}

/-- No other devices than these are being added. -/
structure GroupNet.Awaits (net : GroupNet β) (infos : List (GroupMemberInfo β)) : Prop where
  flying : ∀ bundle ∈ net.flying, ∃ info ∈ infos, info.memberAddress = bundle.1
  inbox : ∀ address msg, .addition msg ∈ net.inbox address → msg.infos = infos

/-- Nobody else waits for the bundle of a chain. -/
theorem GroupNet.Awaits.unpromised (awaits : net.Awaits infos)
    (other : ∀ info ∈ infos, info.memberAddress ≠ receiver) (sender : E2eeAddress) :
    ¬net.Promised sender receiver := by
  rintro (⟨bundle, present, -⟩ | ⟨msg, listed, new⟩)
  · obtain ⟨info, added, isReceiver⟩ := awaits.flying _ present
    exact other info added isReceiver
  · rw [GroupAddMsg.newDevices, awaits.inbox sender msg listed] at new
    obtain ⟨info, added, isReceiver⟩ := List.mem_map.mp new
    exact other info added isReceiver

theorem mem_inbox_handle
    (listed : post ∈ (frame.step net (.handle receiver)).inbox address) :
    post ∈ net.inbox address := by
  have shorter (first : GroupPost β) (rest : List (GroupPost β))
      (inbox : net.inbox receiver = first :: rest)
      (later : post ∈ Function.update net.inbox receiver rest address) :
      post ∈ net.inbox address := by
    by_cases isReceiver : address = receiver
    · subst isReceiver
      rw [Function.update_self] at later
      rw [inbox]
      exact List.mem_cons_of_mem _ later
    · rw [Function.update_of_ne isReceiver] at later
      exact later
  rw [GroupFrame.step] at listed
  split at listed
  · exact listed
  next msg rest inbox => exact shorter _ _ inbox listed
  next msg rest inbox => exact shorter _ _ inbox listed

theorem GroupNet.mem_of_posted (net : GroupNet β) {author : E2eeAddress}
    {posts : List (GroupPost β)}
    (listed : post ∈ net.posted author posts address) :
    post ∈ net.inbox address ∨ post ∈ posts := by
  unfold GroupNet.posted at listed
  split at listed
  · exact List.mem_append.mp listed
  · exact .inl listed

theorem GroupNet.Awaits.step (awaits : net.Awaits infos) {move : GroupMove β}
    (adds : ∀ adder call, move = .add adder call → call.infos = infos) :
    (frame.step net move).Awaits infos := by
  have added {msg : GroupAddMsg β} (same : msg.infos = infos) {bundle : GroupUpdateKeyBundle β}
      {entry : E2eeAddress × GroupUpdateKeyBundle β}
      (new : entry ∈ msg.newDevices.map fun address => (address, bundle)) :
      ∃ info ∈ infos, info.memberAddress = entry.1 := by
    obtain ⟨device, listed, rfl⟩ := List.mem_map.mp new
    rw [GroupAddMsg.newDevices, same] at listed
    exact List.mem_map.mp listed
  cases move with
  | send sender call =>
      refine ⟨awaits.flying, fun address msg listed => ?_⟩
      obtain before | sent := net.mem_of_posted listed
      · exact awaits.inbox address msg before
      · unfold GroupFrame.sent at sent
        split at sent
        · obtain ⟨request, -, same⟩ := Option.map_eq_some_iff.mp (Option.mem_toList.mp sent)
          cases same
        · cases sent
  | add adder call =>
      rw [GroupFrame.step]
      split
      · exact awaits
      next msg groups bundle made =>
        obtain ⟨-, -, -, -, -, -, -, -, -, -, msgInfos, -⟩ := GroupAddCall.request_some made
        have same : msg.infos = infos := msgInfos.trans (adds adder call rfl)
        refine ⟨fun entry present => ?_, fun address other listed => ?_⟩
        · obtain before | new := List.mem_append.mp present
          · exact awaits.flying entry before
          · exact added same new
        · obtain before | posted := net.mem_of_posted listed
          · exact awaits.inbox address other before
          · obtain rfl := GroupPost.addition.inj (List.mem_singleton.mp posted)
            exact same
  | handle receiver =>
      refine ⟨fun entry present => ?_, fun address msg listed =>
        awaits.inbox address msg (mem_inbox_handle listed)⟩
      rw [GroupFrame.step] at present
      split at present
      · exact awaits.flying entry present
      · exact awaits.flying entry present
      next msg rest first =>
        have same := awaits.inbox receiver msg (first ▸ List.mem_cons_self)
        obtain before | new := List.mem_append.mp present
        · exact awaits.flying entry before
        · obtain ⟨bundle, -, new⟩ := List.mem_flatMap.mp new
          exact added same new
  | arrive index =>
      rw [GroupFrame.step]
      split
      · exact awaits
      · exact ⟨fun entry present => awaits.flying entry (List.mem_of_mem_eraseIdx present),
          awaits.inbox⟩

end Awaiting

namespace Symbolic

/-- These are the members of the created group, and Dave beside them. -/
def frame : GroupFrame fun _ => some symbolicSuite where
  cipherSuite := symbolicSuite
  e2eesPackId := 0
  sessionId := "session"
  groupAddress := groupAddress
  stores address := store address (accountOf address) none
  signPublicKey address := (memberInfo address).signPublicKey
  pack := symbolicPack
  named := groupAddition.named

def started : GroupNet FreeTerm where
  groups address := if address ∈ [aliceAddress, bobAddress, carolAddress] then
    (memberDevice address).groups else KeyedTable.empty
  members := [aliceAddress, bobAddress, carolAddress]
  inbox _ := []
  flying := []

end Symbolic

namespace Symbolic

end Symbolic

end E2eeSecurity
