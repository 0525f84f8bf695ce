/-
This file gives the chains of the members of a group, the sessions that hold them, and what sending
and receiving a group message does to both.
-/
import E2eeSecurity.Group.ForwardSecrecy

namespace E2eeSecurity

variable {β : Type}

/-- This is one place of the chain of a sender. -/
structure GroupChain (β : Type) where
  chainKey : Bytes β
  sequence : UInt32
  deriving DecidableEq

/-- This stays the same in a group while its members send and add others. -/
structure GroupFrame (getE2eesPack : Packs β) where
  cipherSuite : CipherSuite β
  e2eesPackId : UInt32
  sessionId : String
  groupAddress : E2eeAddress
  stores : E2eeAddress → Store β
  signPublicKey : E2eeAddress → Bytes β
  pack : getE2eesPack e2eesPackId = some cipherSuite
  named : sessionId ≠ ""

def GroupChain.advance (cipherSuite : CipherSuite β) (chain : GroupChain β) : GroupChain β :=
  ⟨advanceGroupChainKey cipherSuite chain.chainKey, chain.sequence + 1⟩

namespace GroupFrame

variable {getE2eesPack : Packs β} (frame : GroupFrame getE2eesPack)

def key (sender owner : E2eeAddress) : GroupKey :=
  ⟨frame.sessionId, sender, owner, frame.groupAddress⟩

/-- The session is at this place of the chain of the sender. -/
structure Carries (sender : E2eeAddress) (chain : GroupChain β) (session : GroupSession β) :
    Prop where
  valid : isValidGroupSession getE2eesPack session = true
  e2eesPackId : session.e2eesPackId = frame.e2eesPackId
  chainKey : session.chainKey = chain.chainKey
  sequence : session.sequence = chain.sequence
  associatedData : session.associatedData =
    frame.cipherSuite.groupAssociatedData (frame.signPublicKey sender)

/-- The owner has stored the chain of the sender. -/
def Holds (groups : GroupStore β) (sender owner : E2eeAddress) (chain : GroupChain β) : Prop :=
  ∃ session, groups.lookup (frame.key sender owner) = some session ∧
    frame.Carries sender chain session

/-- The sessions of the group are those with its identifier. -/
def Tidy (groups : GroupStore β) (owner : E2eeAddress) : Prop :=
  ∀ session ∈ groups.entries, session.sessionOwner = owner →
    (session.groupInfo.groupAddress = frame.groupAddress ↔ session.sessionId = frame.sessionId)

/-- The device at the address is registered, and it signs with its own key. -/
structure Standing (address : E2eeAddress) : Prop where
  valid : isValidAddress address = true
  authorised : loadSenderSignPublicKey (frame.stores address) address =
    some (frame.signPublicKey address)
  length : (frame.signPublicKey address).length = frame.cipherSuite.ds.signPubKeyLen
  signs : ∀ account, (frame.stores address).account address = some account →
    frame.cipherSuite.ds.Matching (frame.signPublicKey address)
      account.identityKey.signKeyPair.privateKey

/-- The sender has made the message for the plaintext at this place of its chain. -/
structure Made (sender : E2eeAddress) (chain : GroupChain β) (msg : E2eeMsg β)
    (plaintext : Bytes β) : Prop where
  valid : isValidE2eeMsg msg = true
  fromAddress : msg.fromAddress = sender
  sessionId : msg.sessionId = frame.sessionId
  sequence : msg.groupMsg.sequence = chain.sequence
  verified : frame.cipherSuite.ds.verify msg.groupMsg.signature msg.groupMsg.ciphertext
    (frame.signPublicKey sender) = true
  encrypted : frame.cipherSuite.se.encrypt
    (frame.cipherSuite.groupAssociatedData (frame.signPublicKey sender))
    (createGroupMessageKey frame.cipherSuite chain.chainKey) plaintext =
      some msg.groupMsg.ciphertext

end GroupFrame

section Sessions

variable {getE2eesPack : Packs β} {frame : GroupFrame getE2eesPack} {groups : GroupStore β}
  {sender owner : E2eeAddress} {chain : GroupChain β} {session : GroupSession β}

namespace GroupFrame

theorem Carries.advance (carries : frame.Carries sender chain session) :
    frame.Carries sender (chain.advance frame.cipherSuite)
      (session.advance frame.cipherSuite) where
  valid := GroupSession.advance_valid carries.valid
  e2eesPackId := carries.e2eesPackId
  chainKey := congrArg (advanceGroupChainKey frame.cipherSuite) carries.chainKey
  sequence := congrArg (· + 1) carries.sequence
  associatedData := carries.associatedData

/-- A chain that is already at the wanted number does not move. -/
theorem Carries.catchUp (carries : frame.Carries sender chain session) {sequence : UInt32}
    (same : sequence = chain.sequence) :
    session.catchUp frame.cipherSuite sequence = session := by
  rw [GroupSession.catchUp, same, carries.sequence, Nat.sub_self]
  rfl

theorem Carries.pack (carries : frame.Carries sender chain session) :
    getE2eesPack session.e2eesPackId = some frame.cipherSuite := by
  rw [carries.e2eesPackId]
  exact frame.pack

theorem Carries.chainKey_valid (carries : frame.Carries sender chain session) :
    isValidProtobuf chain.chainKey = true := by
  have valid := carries.valid
  simp only [isValidGroupSession, Bool.and_eq_true] at valid
  rw [← carries.chainKey]
  exact valid.1.2

theorem Holds.store (carries : frame.Carries sender chain session)
    (key : session.key = frame.key sender owner) :
    frame.Holds (groups.storeGroupSession session) sender owner chain := by
  refine ⟨session, ?_, carries⟩
  rw [← key]
  exact groups.lookup_storeGroupSession session

theorem lookup_store_other (other : session.sender ≠ sender) :
    (groups.storeGroupSession session).lookup (frame.key sender owner) =
      groups.lookup (frame.key sender owner) :=
  groups.lookup_storeGroupSession_other (GroupKey.uncovered_of_sender other)

/-- The chain of another sender is still held. -/
theorem Holds.store_other (held : frame.Holds groups sender owner chain)
    (other : session.sender ≠ sender) :
    frame.Holds (groups.storeGroupSession session) sender owner chain := by
  obtain ⟨stored, found, carries⟩ := held
  exact ⟨stored, (lookup_store_other other).trans found, carries⟩

theorem Tidy.store (tidy : frame.Tidy groups owner) (key : session.key = frame.key sender owner) :
    frame.Tidy (groups.storeGroupSession session) owner := by
  intro other member isOwner
  obtain ⟨before, -⟩ | rfl := KeyedTable.mem_insert.mp member
  · exact tidy other before isOwner
  · exact iff_of_true (congrArg GroupKey.groupAddress key) (congrArg GroupKey.sessionId key)

/-- A tidy device finds the session by its address. -/
theorem Tidy.loadByAddress (tidy : frame.Tidy groups owner)
    (found : groups.lookup (frame.key sender owner) = some session) :
    groups.loadGroupSessionByAddress sender owner frame.groupAddress = some session := by
  refine groups.loadGroupSessionByAddress_of_lookup found ?_
  intro other member _ isOwner group
  exact (tidy other member isOwner).mp group

/-- A tidy device finds the session by its identifier. -/
theorem Tidy.loadById (tidy : frame.Tidy groups owner)
    (found : groups.lookup (frame.key sender owner) = some session) :
    groups.loadGroupSessionById sender owner frame.sessionId = some session := by
  refine groups.loadGroupSessionById_of_lookup found ?_
  intro other member _ isOwner sessionId
  exact (tidy other member isOwner).mpr sessionId

theorem Tidy.loadOutbound (tidy : frame.Tidy groups owner)
    (found : groups.lookup (frame.key owner owner) = some session)
    (carries : frame.Carries owner chain session) :
    loadOutboundGroupSession getE2eesPack groups owner frame.groupAddress = some session := by
  rw [loadOutboundGroupSession, tidy.loadByAddress found, Option.filter_some,
    if_pos carries.valid]

theorem Tidy.loadInbound (tidy : frame.Tidy groups owner)
    (found : groups.lookup (frame.key sender owner) = some session)
    (carries : frame.Carries sender chain session) :
    loadInboundGroupSession getE2eesPack groups sender owner frame.sessionId = some session := by
  rw [loadInboundGroupSession, tidy.loadById found, Option.filter_some, if_pos carries.valid]

end GroupFrame

end Sessions

section Messages

variable {getE2eesPack : Packs β} {frame : GroupFrame getE2eesPack} {groups : GroupStore β}
  {sender owner : E2eeAddress} {chain : GroupChain β}

namespace GroupFrame

theorem Standing.loadSign {address : E2eeAddress} (standing : frame.Standing address) :
    loadSignPublicKey (frame.stores address) address = some (frame.signPublicKey address) :=
  loadSignPublicKey_of_sender standing.authorised

theorem signature_valid (ds : DsSuite β) (coins message privateKey : Bytes β)
    {buffer : Bytes β} (length : buffer.length = ds.sigLen) :
    isValidProtobuf (ds.sign coins message privateKey ++
      buffer.drop (ds.sign coins message privateKey).length) = true := by
  have positive := ds.sigLenPositive
  have short := ds.signLength coins message privateKey
  refine isValidProtobuf_of_length ?_ positive
  rw [List.length_append, List.length_drop, length]
  omega

/-- The message of a member is at the place of its outbound chain. -/
theorem made_of_encrypted (standing : frame.Standing sender) {session : GroupSession β}
    (carries : frame.Carries sender chain session) (sessionId : session.sessionId = frame.sessionId)
    {account : Account β} (stored : (frame.stores sender).account sender = some account)
    {params : SendGroupMsgParams} (fromSender : params.senderAddress = sender)
    (inputs : isValidSendGroupMsgInputs params = true) {plaintext : Bytes β}
    {draw : SignatureDraw β} (buffer : draw.buffer.length = frame.cipherSuite.ds.sigLen)
    {payload : GroupMsgPayload β}
    (encrypted : encryptGroupMsg frame.cipherSuite plaintext session.chainKey
      session.associatedData session.sequence account.identityKey draw = some payload) :
    frame.Made sender chain (produceSendGroupMsgRequest params session payload).msg plaintext := by
  have valid := carries.valid
  simp only [isValidGroupSession, isValidGroupSessionHead, Bool.and_eq_true] at valid
  simp only [isValidSendGroupMsgInputs, Bool.and_eq_true] at inputs
  obtain ⟨ciphertext, sealed, rfl⟩ := Option.map_eq_some_iff.mp encrypted
  have ciphertextValid : isValidProtobuf ciphertext = true :=
    (isValidProtobuf_iff _).mpr (frame.cipherSuite.se.encryptNonempty _ _ _ _ sealed)
  have signatureValid := signature_valid frame.cipherSuite.ds draw.coins ciphertext
    account.identityKey.signKeyPair.privateKey buffer
  exact {
    valid := by
      simp only [isValidE2eeMsg, isValidGroupMsgPayload, produceSendGroupMsgRequest, valid, inputs,
        ciphertextValid, signatureValid, Bool.and_self]
    fromAddress := fromSender
    sessionId := sessionId
    sequence := carries.sequence
    verified := standing.signs account stored _ _ _ buffer
    encrypted := by
      rw [← carries.associatedData, ← carries.chainKey]
      exact sealed }

/-- A member that sends hands on a message from its chain, and the chain moves when the server has
answered. -/
theorem send_cases (standing : frame.Standing sender) (tidy : frame.Tidy groups sender)
    (held : frame.Holds groups sender sender chain) {call : GroupSendCall β}
    (buffer : call.draw.buffer.length = frame.cipherSuite.ds.sigLen) :
    call.outcome getE2eesPack (frame.stores sender) sender groups frame.groupAddress =
      (none, groups) ∨
    ∃ request next, frame.Made sender chain request.msg call.plaintext ∧
      frame.Carries sender (chain.advance frame.cipherSuite) next ∧
      next.key = frame.key sender sender ∧
      call.outcome getE2eesPack (frame.stores sender) sender groups frame.groupAddress =
        (some request, if call.acknowledged = true then groups.storeGroupSession next
          else groups) := by
  obtain ⟨session, stored, carries⟩ := held
  obtain unchanged | ⟨account, outbound, cipherSuite, payload, inputs, ownAccount, found, -, pack,
      encrypted, outcome⟩ :=
    sendGroupMsgWithFilter_cases getE2eesPack ⟨frame.stores sender, groups⟩
      ⟨sender, frame.groupAddress, call.allowList, call.denyList⟩ call.plaintext call.draw
      call.response
  · exact .inl unchanged
  · rw [tidy.loadByAddress stored, Option.some.injEq] at found
    subst found
    rw [carries.pack, Option.some.injEq] at pack
    subst pack
    have key : session.key = frame.key sender sender := KeyedTable.lookup_key stored
    exact .inr ⟨_, session.advance frame.cipherSuite,
      made_of_encrypted standing carries (congrArg GroupKey.sessionId key) ownAccount rfl inputs
        buffer encrypted,
      carries.advance, key, outcome⟩

/-- A member that holds the chain of the sender delivers the next message. -/
theorem consumeGroupMsg_made (correct : frame.cipherSuite.se.Correct)
    (ownerValid : isValidAddress owner = true) (senderStanding : frame.Standing sender)
    (tidy : frame.Tidy groups owner) (held : frame.Holds groups sender owner chain)
    {msg : E2eeMsg β} {plaintext : Bytes β} (made : frame.Made sender chain msg plaintext) :
    ∃ next, frame.Carries sender (chain.advance frame.cipherSuite) next ∧
      next.key = frame.key sender owner ∧
      consumeGroupMsg getE2eesPack groups owner msg =
        (groups.storeGroupSession next, some plaintext) := by
  obtain ⟨session, stored, carries⟩ := held
  have key : session.key = frame.key sender owner := KeyedTable.lookup_key stored
  have loaded := tidy.loadInbound stored carries
  have signKey : session.associatedData.take frame.cipherSuite.ds.signPubKeyLen =
      frame.signPublicKey sender := by
    rw [carries.associatedData, frame.cipherSuite.take_groupAssociatedData senderStanding.length,
      ← senderStanding.length, List.take_length]
  refine ⟨session.advance frame.cipherSuite, carries.advance, key, ?_⟩
  have opened : frame.cipherSuite.se.decrypt session.associatedData
      (createGroupMessageKey frame.cipherSuite session.chainKey) msg.groupMsg.ciphertext =
        some plaintext := by
    rw [carries.associatedData, carries.chainKey]
    exact correct _ _ _ _ made.encrypted
  rw [consumeGroupMsg, ownerValid, made.valid, Bool.and_self, if_pos rfl, made.fromAddress,
    made.sessionId, loaded]
  simp only [carries.pack]
  rw [openGroupMsg, signKey, if_pos made.verified]
  simp only [carries.catchUp made.sequence, opened]

end GroupFrame

end Messages

end E2eeSecurity
