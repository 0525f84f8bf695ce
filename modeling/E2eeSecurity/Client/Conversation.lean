/-
This file shows that two devices that shook hands open each message of their session exactly once.
-/
import E2eeSecurity.Client.Sending
import E2eeSecurity.Net.Repeats
import E2eeSecurity.Session.Agreement

namespace E2eeSecurity

variable {β : Type}

/-- Both devices know the suite, the identifier of the session, and the two addresses. -/
structure Channel (β : Type) where
  getE2eesPack : Packs β
  cipherSuite : CipherSuite β
  sessionId : String
  address : Party → E2eeAddress

/-- This is the record of a message that went out with its plaintext. -/
structure Dispatch (β : Type) where
  plaintextData : Bytes β
  msg : One2oneMsg β

/-- This is the record of one delivery: the position of the message among those of the other party,
and what the receiver read. -/
structure Opening (β : Type) where
  position : Nat
  plaintextData : Option (Bytes β)

/-- Every message that went out stays on the wire, so it can arrive late, often, or never. -/
structure Conversation (β : Type) where
  store : Party → Store β
  dispatched : Party → List (Dispatch β)
  openings : Party → List (Opening β)

/-- These are the positions that were delivered to a party, with repetitions. -/
def Conversation.attempted (conversation : Conversation β) (party : Party) : List Nat :=
  (conversation.openings party).map Opening.position

/-- The last event stands for everything else that happens to the store of a device. -/
inductive ConversationEvent (β : Type)
  | send (sender : Party) (attempt : SendAttempt) (plaintextData : Bytes β)
  | deliver (receiver : Party) (position : Nat) (coins : Bytes β)
  | other (party : Party) (store : Store β)

/-- This is the stored session of a party. -/
def Channel.session (channel : Channel β) (store : Store β) (party : Party) :
    Option (Session β) :=
  store.sessions.load channel.sessionId (channel.address party)

/-- This is the root sequence of the stored session of a party. -/
def Channel.rootSequence (channel : Channel β) (store : Store β) (party : Party) : UInt32 :=
  (((channel.session store party).bind fun session => session.ratchet).map
    fun ratchet => ratchet.rootSequence).getD 0

/-- The message of an attempt is on the wire as soon as it was made. -/
def Conversation.send (channel : Channel β) (conversation : Conversation β) (sender : Party)
    (attempt : SendAttempt) (plaintextData : Bytes β) : Conversation β :=
  match channel.session (conversation.store sender) sender with
  | some session =>
      let result := sendOne2oneMsgInternal channel.getE2eesPack attempt
        (conversation.store sender) session plaintextData
      { conversation with
        store := Function.update conversation.store sender result.store
        dispatched := Function.update conversation.dispatched sender
          (conversation.dispatched sender ++
            (result.dispatched.map fun msg => ⟨plaintextData, msg⟩).toList) }
  | none => conversation

section Delivering

variable [DecidableEq β]

/-- The receiver reads a message of the other party. -/
def Conversation.deliver (channel : Channel β) (conversation : Conversation β)
    (receiver : Party) (position : Nat) (coins : Bytes β) : Conversation β :=
  match (conversation.dispatched receiver.peer)[position]? with
  | some dispatch =>
      let store := conversation.store receiver
      let address := channel.address receiver
      { conversation with
        store := Function.update conversation.store receiver
          (receiveOne2oneMsg channel.getE2eesPack store address dispatch.msg coins)
        openings := Function.update conversation.openings receiver
          (conversation.openings receiver ++ [⟨position, (openOne2oneMsg channel.getE2eesPack store
            address dispatch.msg coins).map Prod.fst⟩]) }
  | none => conversation

def stepConversation (channel : Channel β) (conversation : Conversation β) :
    ConversationEvent β → Conversation β
  | .send sender attempt plaintextData => conversation.send channel sender attempt plaintextData
  | .deliver receiver position coins => conversation.deliver channel receiver position coins
  | .other party store =>
      { conversation with store := Function.update conversation.store party store }

def runConversation (channel : Channel β) (conversation : Conversation β)
    (events : List (ConversationEvent β)) : Conversation β :=
  Machine.run (stepConversation channel) conversation events

/-- The server knows the device, no counter wraps around, the list of stored keys does not overflow,
and nothing else touches the session. -/
def Calm (channel : Channel β) (conversation : Conversation β) : ConversationEvent β → Prop
  | .send sender attempt _ =>
      attempt.response.map (fun response => response.code) ≠ some .notFound ∧
        (conversation.dispatched sender).length + 1 < 2 ^ 32
  | .deliver receiver position coins =>
      (Window.missing (conversation.attempted receiver ++ [position])).length ≤
          maxSkippedMessageKeyNodes ∧
        channel.rootSequence (conversation.store receiver) receiver ≤ channel.rootSequence
          ((conversation.deliver channel receiver position coins).store receiver) receiver
  | .other party store =>
      channel.session store party = channel.session (conversation.store party) party

instance (channel : Channel β) (conversation : Conversation β) :
    (event : ConversationEvent β) → Decidable (Calm channel conversation event)
  | .send .. => inferInstanceAs (Decidable (_ ∧ _))
  | .deliver .. => inferInstanceAs (Decidable (_ ∧ _))
  | .other .. => inferInstanceAs (Decidable (_ = _))

end Delivering

/-- The first delivery of a message yields its plaintext, and every later one is refused. -/
def Conversation.OpensOnce (conversation : Conversation β) (party : Party) : Prop :=
  ∀ before opening after, conversation.openings party = before ++ opening :: after →
    ∃ dispatch, (conversation.dispatched party.peer)[opening.position]? = some dispatch ∧
      opening.plaintextData =
        if opening.position ∈ before.map Opening.position then none
        else some dispatch.plaintextData

/-- This is the call on the network that an event stands for. -/
def ConversationEvent.call : ConversationEvent β → Option (NetEvent β)
  | .send sender _ plaintextData => some (.encrypt sender (some plaintextData))
  | .deliver receiver position coins => some (.decrypt receiver position coins)
  | .other .. => none

section Session

variable {channel : Channel β} {ad : Bytes β} {store : Store β} {party : Party}
  {ratchet : Ratchet β} {session : Session β}

/-- The stored session of a party is complete, and it has the given ratchet. -/
structure Holds (channel : Channel β) (ad : Bytes β) (store : Store β) (party : Party)
    (ratchet : Ratchet β) (session : Session β) : Prop where
  loaded : channel.session store party = some session
  ratchet : session.ratchet = some ratchet
  pack : channel.getE2eesPack session.e2eesPackId = some channel.cipherSuite
  associatedData : session.associatedData = ad
  valid : isValidCompletedSession channel.getE2eesPack session = true

theorem Holds.keyed (holds : Holds channel ad store party ratchet session) :
    session.sessionId = channel.sessionId ∧ session.ourAddress = channel.address party :=
  store.sessions.keyed _ _ _ holds.loaded

theorem Holds.rootSequence (holds : Holds channel ad store party ratchet session) :
    channel.rootSequence store party = ratchet.rootSequence := by
  rw [Channel.rootSequence, holds.loaded, Option.bind_some, holds.ratchet]
  rfl

/-- Another store with the same session, up to a valid ratchet, holds the session. -/
theorem Holds.moved (holds : Holds channel ad store party ratchet session) {moved : Ratchet β}
    (valid : isValidRatchet moved = true) {later : Store β}
    (loaded : later.sessions.load session.sessionId session.ourAddress =
      some { session with ratchet := some moved }) :
    Holds channel ad later party moved { session with ratchet := some moved } where
  loaded := by
    rw [Channel.session, ← holds.keyed.1, ← holds.keyed.2]
    exact loaded
  ratchet := rfl
  pack := holds.pack
  associatedData := holds.associatedData
  valid := isValidCompletedSession_moved holds.valid valid

/-- Unless the device is gone, the answer of the server leaves the session in the store. -/
theorem consumeSendOne2oneMsgResponse_load (store : Store β) (session : Session β)
    {response : Option SendOne2oneMsgResponse}
    (known : response.map (fun response => response.code) ≠ some .notFound) :
    (consumeSendOne2oneMsgResponse store session response).2 = store.storeSession session := by
  rcases response with _ | ⟨_ | _ | _⟩
  · rfl
  · rfl
  · exact absurd rfl known
  · rfl

/-- An attempt sends nothing and stores nothing, or it sends the next payload of the ratchet and
stores the session. -/
theorem Holds.send (holds : Holds channel ad store party ratchet session)
    {attempt : SendAttempt}
    (known : attempt.response.map (fun response => response.code) ≠ some .notFound)
    (data : Bytes β) :
    let encrypted := encryptRatchet channel.cipherSuite ratchet ad (some data)
    let result := sendOne2oneMsgInternal channel.getE2eesPack attempt store session data
    (result.dispatched = none ∧ result.store = store) ∨
      ∃ payload, encrypted.1 = some payload ∧
        result.dispatched = some (produceSendOne2oneMsgRequest session payload) ∧
        Holds channel ad result.store party encrypted.2
          { session with ratchet := some encrypted.2 } := by
  intro encrypted result
  obtain rfl := holds.associatedData
  obtain ⟨ratchetValid, suite⟩ :=
    isValidCompletedSession_parts holds.valid holds.ratchet holds.pack
  obtain ⟨sender, key, next, -, -, -, -, nextValid, made⟩ := encryptRatchet_valid suite ratchetValid
  have unfolded : result = sendOne2oneMsgInternal channel.getE2eesPack attempt store session data :=
    rfl
  simp only [sendOne2oneMsgInternal, holds.ratchet, holds.pack, holds.valid, Bool.true_and]
    at unfolded
  by_cases auth : isValidString attempt.auth = true
  · rw [if_pos auth] at unfolded
    cases emitted : encrypted.1 with
    | none =>
        rw [show (encryptRatchet channel.cipherSuite ratchet session.associatedData
          (some data)).1 = none from emitted] at unfolded
        rw [unfolded]
        exact .inl ⟨rfl, rfl⟩
    | some payload =>
        rw [show (encryptRatchet channel.cipherSuite ratchet session.associatedData
          (some data)).1 = some payload from emitted] at unfolded
        have moved : isValidRatchet encrypted.2 = true := by
          rw [show encrypted = _ from made _ data]
          exact nextValid
        refine .inr ⟨payload, rfl, ?_, holds.moved moved ?_⟩
        · rw [unfolded]
          dsimp only
          split <;> rfl
        · rw [unfolded]
          dsimp only
          rw [consumeSendOne2oneMsgResponse_load _ _ known]
          split <;> exact SessionStore.load_store _ _
  · rw [if_neg auth] at unfolded
    rw [unfolded]
    exact .inl ⟨rfl, rfl⟩

/-- A message of a complete session passes the checks of its receiver. -/
theorem Holds.dispatched_valid (holds : Holds channel ad store party ratchet session)
    {data : Bytes β} {payload : One2oneMsgPayload β}
    (emitted : (encryptRatchet channel.cipherSuite ratchet ad (some data)).1 = some payload) :
    isValidOne2oneMsg (produceSendOne2oneMsgRequest session payload) = true := by
  obtain ⟨ratchetValid, suite⟩ :=
    isValidCompletedSession_parts holds.valid holds.ratchet holds.pack
  obtain ⟨-, ⟨sender, -, present, ours, -⟩, -⟩ := isValidRatchet_parts ratchetValid
  obtain ⟨sender', key, next, present', -, -, -, -, made⟩ := encryptRatchet_valid suite ratchetValid
  rw [present, Option.some.injEq] at present'
  subst present'
  rw [made] at emitted
  obtain ⟨ciphertext, sealed, rfl⟩ := Option.map_eq_some_iff.mp emitted
  have valid := holds.valid
  simp only [isValidCompletedSession, Bool.and_eq_true] at valid
  obtain ⟨⟨⟨⟨⟨⟨⟨version, -⟩, named⟩, ourAddress⟩, theirAddress⟩, -⟩, -⟩, -⟩ := valid
  have payloadValid : isValidOne2oneMsgPayload (emittedPayload ratchet sender key ciphertext) =
      true := by
    rw [isValidOne2oneMsgPayload_iff]
    exact ⟨ours, channel.cipherSuite.se.encryptNonempty _ _ _ _ sealed⟩
  simp only [isValidOne2oneMsg, produceSendOne2oneMsgRequest, version, named, ourAddress,
    theirAddress, payloadValid, Bool.and_self]

/-- The session that opened a message stays in the store. -/
theorem storeOpenedSession_load (store : Store β) (receiverAddress : E2eeAddress)
    (msg : One2oneMsg β) (session : Session β) :
    (storeOpenedSession store receiverAddress msg session).sessions.load session.sessionId
      session.ourAddress = some session := by
  simp [storeOpenedSession, Store.unloadOldSession, SessionStore.unloadOldSession,
    Store.storeSession, SessionStore.store]

variable [DecidableEq β] {msg : One2oneMsg β}

/-- A valid message of the session is opened by the ratchet of the session. -/
theorem Holds.open (holds : Holds channel ad store party ratchet session)
    (valid : isValidOne2oneMsg msg = true) (named : msg.sessionId = channel.sessionId)
    (coins : Bytes β) :
    let opened := decryptRatchet channel.cipherSuite ratchet ad msg.payload coins
    openOne2oneMsg channel.getE2eesPack store (channel.address party) msg coins =
      opened.1.map fun plaintext => (plaintext, { session with ratchet := some opened.2 }) := by
  intro opened
  obtain rfl := holds.associatedData
  have loaded : store.sessions.load msg.sessionId (channel.address party) = some session := by
    rw [named]
    exact holds.loaded
  have inbound : isValidInboundSession channel.getE2eesPack session = true := holds.valid
  simp only [openOne2oneMsg, valid, if_true, loaded, Option.filter_some, inbound,
    Option.bind_eq_bind, Option.bind_some, holds.pack, holds.ratchet]
  exact Option.map_eq_bind.symm

end Session

section Steps

variable {channel : Channel β} {sharedSecret ad : Bytes β} {keys : Party → KeyPair β}
  {epochs : List (Epoch β)} {conversation : Conversation β} {net : Net β}

/-- The stores run two ratchets of the network, on which every first delivery is made. -/
structure Conversing (channel : Channel β) (sharedSecret ad : Bytes β) (keys : Party → KeyPair β)
    (epochs : List (Epoch β)) (conversation : Conversation β) (net : Net β) : Prop where
  delivery : Delivery channel.cipherSuite ad keys epochs net
  spent : ∀ party, ∃ history, Spent channel.cipherSuite sharedSecret ad net party history
  holds : ∀ party, ∃ session,
    Holds channel ad (conversation.store party) party (net.ratchet party) session
  sent : ∀ party, (conversation.dispatched party).map (fun dispatch =>
      (dispatch.plaintextData, some dispatch.msg.payload)) =
    (net.sent party).map fun entry => (entry.plaintext, entry.payload)
  named : ∀ party, ∀ dispatch ∈ conversation.dispatched party,
    isValidOne2oneMsg dispatch.msg = true ∧ dispatch.msg.sessionId = channel.sessionId
  delivered : ∀ party position,
    position ∈ conversation.attempted party ↔ position ∈ net.delivered party
  opens : ∀ party, conversation.OpensOnce party

/-- A ratchet of the network passes its check. -/
theorem Delivery.validRatchet {cipherSuite : CipherSuite β}
    (setting : Setting cipherSuite ad keys) (delivery : Delivery cipherSuite ad keys epochs net)
    (party : Party) : isValidRatchet (net.ratchet party) = true := by
  obtain ⟨number, epoch, found, -, seat⟩ := delivery.lockstep.seats party
  exact (delivery.mailbox party number epoch found seat.rootSequence).valid setting.suite
    setting.publicKeys setting.privateKeys delivery.lockstep.full found seat

/-- A message that went out is the payload of the network at its position. -/
theorem Conversing.present
    (conversing : Conversing channel sharedSecret ad keys epochs conversation net)
    {party : Party} {position : Nat} {dispatch : Dispatch β}
    (found : (conversation.dispatched party)[position]? = some dispatch) :
    ∃ entry, (net.sent party)[position]? = some entry ∧
      entry.plaintext = dispatch.plaintextData ∧
      net.payloadAt party position = some dispatch.msg.payload := by
  have same := congrArg (fun list => list[position]?) (conversing.sent party)
  simp only [List.getElem?_map, found, Option.map_some] at same
  obtain ⟨entry, atPosition, both⟩ := Option.map_eq_some_iff.mp same.symm
  rw [Prod.mk.injEq] at both
  refine ⟨entry, atPosition, both.1, ?_⟩
  rw [Net.payloadAt, atPosition, Option.bind_some]
  exact both.2

/-- More messages do not change what was read. -/
theorem Conversation.OpensOnce.extend {later : Conversation β} {party : Party}
    (opens : conversation.OpensOnce party)
    (same : later.openings party = conversation.openings party)
    (more : ∃ rest, later.dispatched party.peer = conversation.dispatched party.peer ++ rest) :
    later.OpensOnce party := by
  obtain ⟨rest, longer⟩ := more
  intro before opening after split
  rw [same] at split
  obtain ⟨dispatch, found, read⟩ := opens before opening after split
  refine ⟨dispatch, ?_, read⟩
  rw [longer]
  exact Window.getElem?_kept found rest

/-- One more delivery reads its message once. -/
theorem Conversation.OpensOnce.concat {later : Conversation β} {party : Party}
    (opens : conversation.OpensOnce party) {opening : Opening β}
    (same : later.openings party = conversation.openings party ++ [opening])
    (wire : later.dispatched party.peer = conversation.dispatched party.peer)
    {dispatch : Dispatch β}
    (found : (conversation.dispatched party.peer)[opening.position]? = some dispatch)
    (read : opening.plaintextData =
      if opening.position ∈ conversation.attempted party then none
      else some dispatch.plaintextData) :
    later.OpensOnce party := by
  intro before other after split
  rw [wire]
  rw [same] at split
  obtain rfl | ⟨init, last, rfl⟩ := List.eq_nil_or_concat after
  · obtain ⟨sameBefore, sameOpening⟩ := List.append_inj' split rfl
    rw [List.singleton_inj] at sameOpening
    subst sameBefore sameOpening
    exact ⟨dispatch, found, read⟩
  · rw [List.concat_eq_append, ← List.cons_append, ← List.append_assoc] at split
    obtain ⟨sameOpenings, -⟩ := List.append_inj' split rfl
    exact opens before other init sameOpenings

/-- An attempt to send keeps the ratchets on the network. -/
theorem Conversing.send (setting : Setting channel.cipherSuite ad keys)
    (conversing : Conversing channel sharedSecret ad keys epochs conversation net)
    {sender : Party} {attempt : SendAttempt} {data : Bytes β}
    (known : attempt.response.map (fun response => response.code) ≠ some .notFound)
    (few : (conversation.dispatched sender).length + 1 < 2 ^ 32) :
    ∃ net', Conversing channel sharedSecret ad keys epochs
      (conversation.send channel sender attempt data) net' := by
  obtain ⟨session, holds⟩ := conversing.holds sender
  have counted : (net.sent sender).length = (conversation.dispatched sender).length := by
    have same := congrArg List.length (conversing.sent sender)
    simpa using same.symm
  obtain ⟨unsent, kept⟩ | ⟨payload, emitted, sent, moved⟩ := holds.send known data
  · have unchanged : conversation.send channel sender attempt data = conversation := by
      simp only [Conversation.send, holds.loaded, unsent, kept, Option.map_none,
        Option.toList_none, List.append_nil, Function.update_eq_self]
    rw [unchanged]
    exact ⟨net, conversing⟩
  · refine ⟨net.encrypt channel.cipherSuite ad sender (some data), ?_⟩
    have made : conversation.send channel sender attempt data =
        { conversation with
          store := Function.update conversation.store sender
            (sendOne2oneMsgInternal channel.getE2eesPack attempt (conversation.store sender)
              session data).store
          dispatched := Function.update conversation.dispatched sender
            (conversation.dispatched sender ++
              [⟨data, produceSendOne2oneMsgRequest session payload⟩]) } := by
      simp only [Conversation.send, holds.loaded, sent, Option.map_some, Option.toList_some]
    rw [made]
    constructor
    case delivery =>
      rw [← counted] at few
      exact conversing.delivery.encrypt setting sender data few
    case spent =>
      intro party
      obtain ⟨history, spent⟩ := conversing.spent party
      exact spent.encrypt sender data
    case holds =>
      intro party
      rcases Party.eq_or_peer party sender with rfl | rfl
      · exact ⟨_, by simpa [Net.encrypt] using moved⟩
      · simpa [Net.encrypt] using conversing.holds sender.peer
    case sent =>
      intro party
      rcases Party.eq_or_peer party sender with rfl | rfl
      · simp [Net.encrypt, conversing.sent party, emitted, produceSendOne2oneMsgRequest]
      · simpa [Net.encrypt] using conversing.sent sender.peer
    case named =>
      intro party dispatch member
      rcases Party.eq_or_peer party sender with rfl | rfl
      · simp only [Function.update_self, List.mem_append, List.mem_singleton] at member
        obtain old | rfl := member
        · exact conversing.named party dispatch old
        · exact ⟨holds.dispatched_valid emitted, holds.keyed.1⟩
      · simp only [Function.update_of_ne (Party.peer_ne sender)] at member
        exact conversing.named sender.peer dispatch member
    case delivered => exact conversing.delivered
    case opens =>
      intro party
      refine (conversing.opens party).extend rfl ?_
      rcases Party.eq_or_peer party.peer sender with same | same
      · rw [same]
        exact ⟨_, Function.update_self ..⟩
      · refine ⟨[], ?_⟩
        rw [same, List.append_nil]
        exact Function.update_of_ne (Party.peer_ne sender) ..

variable [DecidableEq β]

/-- A repeated message is refused, and nothing else happens. -/
theorem Conversing.repeated (free : channel.cipherSuite.FreeKeys)
    (ideal : channel.cipherSuite.se.Ideal)
    (conversing : Conversing channel sharedSecret ad keys epochs conversation net)
    {receiver : Party} {position : Nat} {dispatch : Dispatch β} (coins : Bytes β)
    (found : (conversation.dispatched receiver.peer)[position]? = some dispatch)
    (again : position ∈ conversation.attempted receiver) :
    Conversing channel sharedSecret ad keys epochs
      (conversation.deliver channel receiver position coins) net := by
  obtain ⟨session, holds⟩ := conversing.holds receiver
  obtain ⟨entry, -, -, present⟩ := conversing.present found
  obtain ⟨valid, named⟩ := conversing.named _ _ (List.mem_of_getElem? found)
  obtain ⟨history, spent⟩ := conversing.spent receiver
  have delivered := (conversing.delivered receiver position).mp again
  have refused := holds.open valid named coins
  dsimp only at refused
  rw [spent.refuses free ideal delivered present coins, Option.map_none] at refused
  have made : conversation.deliver channel receiver position coins = { conversation with
      openings := Function.update conversation.openings receiver
        (conversation.openings receiver ++ [⟨position, none⟩]) } := by
    simp only [Conversation.deliver, found, receiveOne2oneMsg, refused, Option.map_none,
      Function.update_eq_self]
  rw [made]
  refine { conversing with delivered := ?_, opens := ?_ }
  · intro party place
    rw [← conversing.delivered party place]
    rcases Party.eq_or_peer party receiver with rfl | rfl
    · simp only [Conversation.attempted, Function.update_self, List.map_append, List.map_singleton,
        List.mem_append, List.mem_singleton]
      constructor
      · rintro (old | rfl)
        · exact old
        · exact again
      · exact .inl
    · simp [Conversation.attempted]
  · intro party
    rcases Party.eq_or_peer party receiver with rfl | rfl
    · refine (conversing.opens party).concat (Function.update_self ..) rfl found ?_
      rw [if_pos again]
    · exact (conversing.opens receiver.peer).extend
        (Function.update_of_ne (Party.peer_ne receiver) ..) ⟨[], (List.append_nil _).symm⟩

/-- The first delivery of a message keeps the ratchets on the network, with the same epochs or with
one more. -/
theorem Conversing.first (free : channel.cipherSuite.FreeKeys)
    (setting : Setting channel.cipherSuite ad keys)
    (conversing : Conversing channel sharedSecret ad keys epochs conversation net)
    {receiver : Party} {position : Nat} {coins : Bytes β} {dispatch : Dispatch β}
    (distinct : (epochs.map Epoch.key).Nodup)
    (calm : Calm channel conversation (.deliver receiver position coins))
    (found : (conversation.dispatched receiver.peer)[position]? = some dispatch)
    (unread : position ∉ conversation.attempted receiver) :
    ∃ added, Conversing channel sharedSecret ad keys (epochs ++ added)
        (conversation.deliver channel receiver position coins)
        (net.decrypt channel.cipherSuite ad receiver position dispatch.msg.payload coins) ∧
      (added = [] ∨ added.map Epoch.key =
        [(channel.cipherSuite.kem.encapsulate coins (keys receiver.peer).publicKey).2]) := by
  obtain ⟨session, holds⟩ := conversing.holds receiver
  obtain ⟨entry, atPosition, plaintext, present⟩ := conversing.present found
  obtain ⟨valid, named⟩ := conversing.named _ _ (List.mem_of_getElem? found)
  obtain ⟨outstanding, ordered⟩ := calm
  have undelivered : position ∉ net.delivered receiver := fun member =>
    unread ((conversing.delivered receiver position).mpr member)
  have window : Window.missing (conversation.attempted receiver ++ [position]) =
      Window.missing (net.delivered receiver ++ [position]) := by
    apply Window.missing_congr
    intro place
    simp only [List.mem_append, conversing.delivered receiver place]
  rw [window] at outstanding
  obtain ⟨entry', atPosition', success⟩ := conversing.delivery.opens_first setting distinct present
    undelivered outstanding coins
  rw [atPosition, Option.some.injEq] at atPosition'
  subst atPosition'
  have opened := holds.open valid named coins
  dsimp only at opened
  rw [success, Option.map_some, plaintext] at opened
  generalize decrypted : decryptRatchet channel.cipherSuite (net.ratchet receiver) ad
    dispatch.msg.payload coins = result at opened success
  have stored : channel.session (storeOpenedSession (conversation.store receiver)
      (channel.address receiver) dispatch.msg { session with ratchet := some result.2 }) receiver =
        some { session with ratchet := some result.2 } := by
    rw [Channel.session, ← holds.keyed.1, ← holds.keyed.2]
    exact storeOpenedSession_load _ _ _ { session with ratchet := some result.2 }
  have made : conversation.deliver channel receiver position coins = { conversation with
      store := Function.update conversation.store receiver
        (storeOpenedSession (conversation.store receiver) (channel.address receiver) dispatch.msg
          { session with ratchet := some result.2 })
      openings := Function.update conversation.openings receiver
        (conversation.openings receiver ++ [⟨position, some dispatch.plaintextData⟩]) } := by
    simp only [Conversation.deliver, found, receiveOne2oneMsg, opened, Option.map_some]
  rw [made] at ordered ⊢
  have noWrap : (net.ratchet receiver).rootSequence ≤ (decryptRatchet channel.cipherSuite
      (net.ratchet receiver) ad dispatch.msg.payload coins).2.rootSequence := by
    rw [holds.rootSequence] at ordered
    simp only [Function.update_self, Channel.rootSequence, stored, Option.bind_some,
      Option.map_some, Option.getD_some] at ordered
    rw [decrypted]
    exact ordered
  obtain ⟨added, extended, names⟩ := conversing.delivery.decrypt setting distinct present
    undelivered outstanding noWrap
  obtain ⟨here, there⟩ := net.delivered_decrypt channel.cipherSuite ad receiver position
    dispatch.msg.payload coins
  refine ⟨added, ?_, names⟩
  constructor
  case delivery => exact extended
  case spent =>
    intro party
    rcases Party.eq_or_peer party receiver with rfl | rfl
    · obtain ⟨history, spent⟩ := conversing.spent party
      rw [← decrypted] at success
      exact spent.decrypt free present success
    · obtain ⟨history, spent⟩ := conversing.spent receiver.peer
      exact ⟨history, spent.other position dispatch.msg.payload coins⟩
  case holds =>
    intro party
    rcases Party.eq_or_peer party receiver with rfl | rfl
    · have moved := extended.validRatchet setting party
      simp only [Net.decrypt, Function.update_self, decrypted] at moved ⊢
      exact ⟨_, holds.moved moved (storeOpenedSession_load _ _ _
        { session with ratchet := some result.2 })⟩
    · simpa [Net.decrypt] using conversing.holds receiver.peer
  case sent => exact conversing.sent
  case named => exact conversing.named
  case delivered =>
    intro party place
    rcases Party.eq_or_peer party receiver with rfl | rfl
    · rw [here, List.mem_append, ← conversing.delivered party place]
      simp [Conversation.attempted]
    · rw [there, ← conversing.delivered receiver.peer place]
      simp [Conversation.attempted]
  case opens =>
    intro party
    rcases Party.eq_or_peer party receiver with rfl | rfl
    · refine (conversing.opens party).concat (Function.update_self ..) rfl found ?_
      rw [if_neg unread]
    · exact (conversing.opens receiver.peer).extend
        (Function.update_of_ne (Party.peer_ne receiver) ..) ⟨[], (List.append_nil _).symm⟩

/-- A calm event keeps the ratchets on the network, and the names of the epochs stay distinct. -/
theorem Conversing.step (free : channel.cipherSuite.FreeKeys)
    (ideal : channel.cipherSuite.se.Ideal) (setting : Setting channel.cipherSuite ad keys)
    (conversing : Conversing channel sharedSecret ad keys epochs conversation net)
    {event : ConversationEvent β} {later : List (Bytes β)}
    (fresh : (epochs.map Epoch.key ++ ((event.call.bind
      (NetEvent.ciphertext channel.cipherSuite keys)).toList ++ later)).Nodup)
    (calm : Calm channel conversation event) :
    ∃ epochs' net', Conversing channel sharedSecret ad keys epochs'
        (stepConversation channel conversation event) net' ∧
      (epochs'.map Epoch.key ++ later).Nodup := by
  have kept : (epochs.map Epoch.key ++ later).Nodup :=
    fresh.sublist (List.Sublist.append_left (List.sublist_append_right _ _) _)
  cases event with
  | send sender attempt data =>
      obtain ⟨known, few⟩ := calm
      obtain ⟨net', sent⟩ := conversing.send setting known few
      exact ⟨epochs, net', sent, kept⟩
  | deliver receiver position coins =>
      cases found : (conversation.dispatched receiver.peer)[position]? with
      | none =>
          simp only [stepConversation, Conversation.deliver, found]
          exact ⟨epochs, net, conversing, kept⟩
      | some dispatch =>
          by_cases again : position ∈ conversation.attempted receiver
          · exact ⟨epochs, net, conversing.repeated free ideal coins found again, kept⟩
          · obtain ⟨added, delivered, none | one⟩ := conversing.first free setting
              (List.nodup_append.mp fresh).1 calm found again
            · refine ⟨_, _, delivered, ?_⟩
              rw [none, List.append_nil]
              exact kept
            · refine ⟨_, _, delivered, ?_⟩
              rw [List.map_append, one, List.append_assoc]
              exact fresh
  | other party store =>
      refine ⟨epochs, net, { conversing with holds := ?_ }, kept⟩
      intro owner
      rcases Party.eq_or_peer owner party with rfl | rfl
      · obtain ⟨session, holds⟩ := conversing.holds owner
        refine ⟨session, { holds with loaded := ?_ }⟩
        simp only [stepConversation, Function.update_self]
        exact calm.trans holds.loaded
      · simpa [stepConversation] using conversing.holds party.peer

/-- A calm run keeps the ratchets on the network. -/
theorem Conversing.run (free : channel.cipherSuite.FreeKeys)
    (ideal : channel.cipherSuite.se.Ideal) (setting : Setting channel.cipherSuite ad keys)
    (events : List (ConversationEvent β))
    (conversing : Conversing channel sharedSecret ad keys epochs conversation net)
    (fresh : (epochs.map Epoch.key ++ (events.filterMap ConversationEvent.call).filterMap
      (NetEvent.ciphertext channel.cipherSuite keys)).Nodup)
    (calm : Machine.Along (stepConversation channel) (Calm channel) conversation events) :
    ∃ epochs' net', Conversing channel sharedSecret ad keys epochs'
      (runConversation channel conversation events) net' := by
  induction events generalizing epochs conversation net with
  | nil => exact ⟨epochs, net, conversing⟩
  | cons event rest ih =>
      obtain ⟨now, later⟩ := calm
      have split : ((event :: rest).filterMap ConversationEvent.call).filterMap
          (NetEvent.ciphertext channel.cipherSuite keys) =
            (event.call.bind (NetEvent.ciphertext channel.cipherSuite keys)).toList ++
              (rest.filterMap ConversationEvent.call).filterMap
                (NetEvent.ciphertext channel.cipherSuite keys) := by
        rw [List.filterMap_filterMap, List.filterMap_filterMap, List.filterMap_cons]
        cases event.call.bind (NetEvent.ciphertext channel.cipherSuite keys) <;> rfl
      rw [split] at fresh
      obtain ⟨epochs', net', stepped, distinct⟩ := conversing.step free ideal setting fresh now
      exact ih stepped distinct later

end Steps

namespace Handshake

variable {handshake : Handshake β}

def channel (handshake : Handshake β) : Channel β where
  getE2eesPack := handshake.getE2eesPack
  cipherSuite := handshake.cipherSuite
  sessionId := handshake.draw.sessionId
  address
    | .alice => handshake.aliceAddress
    | .bob => handshake.bobAddress

/-- Both devices have stored their sessions, and no message was sent. -/
def conversation (handshake : Handshake β) (later : Store β) (inviteMsg : InviteMsg β)
    (acceptMsg : AcceptMsg β) : Conversation β where
  store
    | .alice => (handshake.completed later acceptMsg).2
    | .bob => (handshake.accepted inviteMsg).2.1
  dispatched _ := []
  openings _ := []

/-- The associated data starts with the identity key of Alice. -/
theorem Honest.associatedData_nonempty (honest : handshake.Honest) :
    handshake.outbound.associatedData ≠ [] := by
  have length := honest.alice.keyed.identityKey.lengths.1
  have positive := handshake.cipherSuite.kem.asymPubKeyLenPositive
  rw [← List.length_pos_iff]
  simp only [outbound, outboundSession, List.length_append, List.length_take]
  omega

/-- The completed session of Alice passes the check of a completed session. -/
theorem Honest.finished_valid (honest : handshake.Honest) {ratchet : Ratchet β}
    (valid : isValidRatchet ratchet = true) (oneTimePreKey : Option (OneTimePreKey β))
    (inviteT : Int) :
    isValidCompletedSession handshake.getE2eesPack
      (handshake.finished oneTimePreKey ratchet inviteT) = true := by
  have checked := outboundSession_valid honest.alice honest.bob honest.bundle honest.sessionId
  have data := (isValidProtobuf_iff _).mpr honest.associatedData_nonempty
  simp only [isValidUncompletedSession, Bool.and_eq_true] at checked
  obtain ⟨⟨⟨⟨⟨⟨⟨⟨⟨⟨version, pack⟩, named⟩, ours⟩, theirs⟩, -⟩, fingerprint⟩, -⟩, -⟩, -⟩, -⟩ :=
    checked
  simp only [isValidCompletedSession, finished, outbound, Option.any_some, valid, Bool.and_true,
    Bool.and_eq_true]
  exact ⟨⟨⟨⟨⟨⟨version, pack⟩, named⟩, ours⟩, theirs⟩, data⟩, fingerprint⟩

/-- The session that Bob stores with his answer passes the same check. -/
theorem Honest.answered_valid (honest : handshake.Honest) {ratchet : Ratchet β}
    (valid : isValidRatchet ratchet = true) (oneTimePreKey : Option (OneTimePreKey β)) :
    isValidCompletedSession handshake.getE2eesPack (inboundSession handshake.cipherSuite
      handshake.bob oneTimePreKey ratchet
      (handshake.delivered (produceInviteRequest handshake.outbound))) = true := by
  have checked := honest.finished_valid valid oneTimePreKey 0
  have hashLength := handshake.cipherSuite.hf.hfLenPositive
  have fingerprint (hashInput : Bytes β) :
      isValidProtobuf (sessionFingerprint handshake.cipherSuite hashInput) = true :=
    isValidProtobuf_of_length (handshake.cipherSuite.hf.hkdfLength _ _ _ _) (by omega)
  simp only [isValidCompletedSession, Bool.and_eq_true, finished, outbound, outboundSession,
    honest.bundle.identityKey] at checked
  obtain ⟨⟨⟨⟨⟨⟨⟨version, pack⟩, named⟩, ours⟩, theirs⟩, -⟩, data⟩, -⟩ := checked
  simp only [isValidCompletedSession, inboundSession, delivered, produceInviteRequest, outbound,
    outboundSession, Option.any_some, valid, Bool.and_true, Bool.and_eq_true]
  exact ⟨⟨⟨⟨⟨⟨version, pack⟩, named⟩, theirs⟩, ours⟩, data⟩, fingerprint _⟩

/-- After an honest handshake the two stores run the two ratchets of a matched start. -/
theorem Honest.conversing (honest : handshake.Honest) (free : handshake.cipherSuite.FreeKeys)
    (correct : handshake.cipherSuite.se.Correct) [DecidableEq β] {later : Store β}
    (waiting : handshake.Waiting later) :
    Setting handshake.cipherSuite handshake.outbound.associatedData handshake.ratchetKeys ∧
      ∃ sharedSecret net, Conversing handshake.channel sharedSecret
        handshake.outbound.associatedData handshake.ratchetKeys
        (firstEpochs handshake.cipherSuite sharedSecret handshake.ratchetKeys
          handshake.ratchetCoins)
        (handshake.conversation later (produceInviteRequest handshake.outbound) handshake.answer)
        net := by
  obtain ⟨-, oneTimePreKey, oneTimeChosen, published, generated⟩ := honest.chosen
  obtain ⟨bobRatchet, bobMade, -, bobStored⟩ :=
    honest.accepted_sent oneTimeChosen generated
  obtain ⟨aliceRatchet, inviteT, aliceMade, completed⟩ :=
    honest.completed_made waiting published generated
  have matched := honest.matchedStart bobMade aliceMade
  have setting := matched.setting honest.associatedData_nonempty correct
  have delivery : Delivery handshake.cipherSuite handshake.outbound.associatedData
      handshake.ratchetKeys (firstEpochs handshake.cipherSuite
        (handshake.bobSecret oneTimePreKey) handshake.ratchetKeys handshake.ratchetCoins)
      (network aliceRatchet bobRatchet) := Delivery.first matched
  have pack : handshake.getE2eesPack handshake.bundle.e2eesPackId =
      some handshake.cipherSuite := by
    rw [honest.bundle.pack, honest.bob.pack]
  have valid := delivery.validRatchet setting
  refine ⟨setting, handshake.bobSecret oneTimePreKey, network aliceRatchet bobRatchet, ?_⟩
  constructor
  case delivery => exact delivery
  case spent => exact matched.spent free
  case holds =>
    intro party
    cases party with
    | alice =>
        refine ⟨handshake.finished oneTimePreKey aliceRatchet inviteT, ?_, rfl, pack, rfl,
          honest.finished_valid (valid .alice) oneTimePreKey inviteT⟩
        simp only [conversation, completed]
        exact SessionStore.load_store _ _
    | bob =>
        refine ⟨_, bobStored, rfl, pack, ?_, honest.answered_valid (valid .bob) oneTimePreKey⟩
        simp [outbound, outboundSession, inboundSession, delivered, honest.bundle.identityKey]
  case sent =>
    intro party
    rfl
  case named =>
    intro party dispatch member
    cases member
  case delivered =>
    intro party position
    rfl
  case opens =>
    intro party before opening after split
    simp [conversation] at split

/-- Both calls of the handshake go out, and in any order of calm events that follows, each message
that arrives opens once. -/
def Talks [DecidableEq β] (handshake : Handshake β) : Prop :=
  ∃ inviteMsg acceptMsg, handshake.invited.2.2 = some inviteMsg ∧
    (handshake.accepted inviteMsg).2.2 = some acceptMsg ∧
    ∀ later, handshake.Waiting later → ∀ events : List (ConversationEvent β),
      (netCiphertexts handshake.cipherSuite handshake.ratchetKeys handshake.ratchetCoins
        (events.filterMap ConversationEvent.call)).Nodup →
      Machine.Along (stepConversation handshake.channel) (Calm handshake.channel)
        (handshake.conversation later inviteMsg acceptMsg) events →
      ∀ party, (runConversation handshake.channel
        (handshake.conversation later inviteMsg acceptMsg) events).OpensOnce party

theorem Honest.talks [DecidableEq β] (honest : handshake.Honest)
    (free : handshake.cipherSuite.FreeKeys) (ideal : handshake.cipherSuite.se.Ideal)
    (correct : handshake.cipherSuite.se.Correct) : handshake.Talks := by
  refine ⟨_, handshake.answer, honest.invited_sent.1, ?_, ?_⟩
  · obtain ⟨-, oneTimePreKey, oneTimeChosen, -, generated⟩ := honest.chosen
    obtain ⟨-, -, answered, -⟩ := honest.accepted_sent oneTimeChosen generated
    exact answered
  · intro later waiting events fresh calm party
    obtain ⟨setting, sharedSecret, net, conversing⟩ := honest.conversing free correct waiting
    obtain ⟨epochs, last, reached⟩ := conversing.run free ideal setting events fresh calm
    exact reached.opens party

end Handshake

/-- After an honest handshake, in any order of calm events, each message that arrives is opened to
the plaintext it was sent with at its first delivery, and it is refused from then on. -/
theorem conversation_opens_once (handshake : Handshake β) (honest : handshake.Honest)
    (free : handshake.cipherSuite.FreeKeys) (ideal : handshake.cipherSuite.se.Ideal)
    (correct : handshake.cipherSuite.se.Correct) [DecidableEq β] :
    ∃ inviteMsg acceptMsg, handshake.invited.2.2 = some inviteMsg ∧
      (handshake.accepted inviteMsg).2.2 = some acceptMsg ∧
      ∀ later, handshake.Waiting later → ∀ events : List (ConversationEvent β),
        (netCiphertexts handshake.cipherSuite handshake.ratchetKeys handshake.ratchetCoins
          (events.filterMap ConversationEvent.call)).Nodup →
        Machine.Along (stepConversation handshake.channel) (Calm handshake.channel)
          (handshake.conversation later inviteMsg acceptMsg) events →
        ∀ party, (runConversation handshake.channel
          (handshake.conversation later inviteMsg acceptMsg) events).OpensOnce party :=
  honest.talks free ideal correct

namespace Symbolic

/-- Bob reads the second message of Alice twice before the first one, Alice reads his answer, and an
old copy arrives at the end. -/
def messages : List (ConversationEvent FreeTerm) :=
  [.send .alice ⟨"auth", some ⟨.ok⟩⟩ [.byte 20], .send .alice ⟨"", none⟩ [.byte 21],
    .send .alice ⟨"auth", none⟩ [.byte 22], .deliver .bob 1 [.byte 70], .deliver .bob 1 [.byte 71],
    .deliver .bob 0 [.byte 72], .send .bob ⟨"auth", some ⟨.other⟩⟩ [.byte 23],
    .deliver .alice 0 [.byte 73], .deliver .bob 1 [.byte 74]]

end Symbolic

/-- Repeated messages are refused, and the message without an authorisation never goes out. -/
theorem messages_open_once :
    ∃ inviteMsg acceptMsg, Symbolic.handshake.invited.2.2 = some inviteMsg ∧
      (Symbolic.handshake.accepted inviteMsg).2.2 = some acceptMsg ∧
      let conversation := runConversation Symbolic.handshake.channel
        (Symbolic.handshake.conversation Symbolic.handshake.invited.2.1 inviteMsg acceptMsg)
        Symbolic.messages
      (conversation.openings .bob).map Opening.plaintextData =
          [some [.byte 22], none, some [.byte 20], none] ∧
        (conversation.openings .alice).map Opening.plaintextData = [some [.byte 23]] ∧
        ∀ party, conversation.OpensOnce party := by
  obtain ⟨inviteMsg, acceptMsg, invited, accepted, opens⟩ :=
    conversation_opens_once Symbolic.handshake Symbolic.handshake_honest symbolicSuite_free
      symbolicSuite_ideal symbolicSuite_correct
  have sentInvite := Symbolic.handshake_honest.invited_sent.1
  rw [invited, Option.some.injEq] at sentInvite
  subst sentInvite
  have answered : (Symbolic.handshake.accepted
      (produceInviteRequest Symbolic.handshake.outbound)).2.2 = some Symbolic.handshake.answer := by
    decide +kernel
  rw [accepted, Option.some.injEq] at answered
  subst answered
  exact ⟨_, _, invited, accepted, by decide +kernel, by decide +kernel,
    opens _ ⟨rfl, rfl, rfl⟩ Symbolic.messages (by decide +kernel) (by decide +kernel)⟩

end E2eeSecurity
