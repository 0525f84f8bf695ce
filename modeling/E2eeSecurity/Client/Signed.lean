/-
This file gives the entry point for messages of the server, and says which messages and pre-key
bundles are acted on that the server has signed.
-/
import E2eeSecurity.Client.Receiving

namespace E2eeSecurity

structure SupplyOpksMsg where
  opksNum : UInt32
  userAddress : E2eeAddress
  deriving DecidableEq

structure AddUserDeviceMsg where
  userAddress : E2eeAddress
  oldAddressList : List E2eeAddress
  deriving DecidableEq

structure RemoveUserDeviceMsg where
  userAddress : E2eeAddress
  deriving DecidableEq

structure LeaveGroupMsg where
  userAddress : E2eeAddress
  groupAddress : E2eeAddress
  deriving DecidableEq

/-- An end-to-end message has one of two payloads or none.
The last kind stands for all payloads that the client does not look at. -/
inductive ProtoMsgPayload (β : Type)
  | supplyOpksMsg (msg : SupplyOpksMsg)
  | addUserDeviceMsg (msg : AddUserDeviceMsg)
  | removeUserDeviceMsg (msg : RemoveUserDeviceMsg)
  | inviteMsg (msg : InviteMsg β)
  | acceptMsg (msg : AcceptMsg β)
  | one2oneMsg (msg : One2oneMsg β)
  | groupMsg (msg : E2eeMsg β)
  | emptyE2eeMsg
  | createGroupMsg (msg : CreateGroupMsg β)
  | addGroupMembersMsg (msg : AddGroupMembersMsg β)
  | addGroupMemberDeviceMsg (msg : AddGroupMemberDeviceMsg β)
  | removeGroupMembersMsg (msg : RemoveGroupMembersMsg β)
  | leaveGroupMsg (msg : LeaveGroupMsg)
  | other
  deriving DecidableEq

/-- The tag is the identifier under which the server waits for the answer. -/
structure ProtoMsg (β : Type) where
  fromAddress : Option E2eeAddress
  toAddress : E2eeAddress
  signatureList : List (ServerSignedSignature β)
  payload : ProtoMsgPayload β
  tag : Option String
  deriving DecidableEq

structure ConsumeProtoMsgResponse where
  code : ResponseCode
  deriving DecidableEq

/-- Each kind of payload has its own handler, which says whether the message is consumed. -/
structure ProtoMsgHandlers (β : Type) where
  consumeSupplyOpksMsg : E2eeAddress → SupplyOpksMsg → Client β → Bool × Client β
  consumeAddUserDeviceMsg : E2eeAddress → AddUserDeviceMsg → Client β → Bool × Client β
  consumeRemoveUserDeviceMsg : E2eeAddress → RemoveUserDeviceMsg → Client β → Bool × Client β
  consumeInviteMsg : E2eeAddress → InviteMsg β → Client β → Bool × Client β
  consumeAcceptMsg : E2eeAddress → AcceptMsg β → Client β → Bool × Client β
  consumeOne2oneMsg : E2eeAddress → One2oneMsg β → Client β → Bool × Client β
  consumeGroupMsg : E2eeAddress → E2eeMsg β → Client β → Bool × Client β
  consumeCreateGroupMsg : E2eeAddress → CreateGroupMsg β → Client β → Bool × Client β
  consumeAddGroupMembersMsg : E2eeAddress → AddGroupMembersMsg β → Client β → Bool × Client β
  consumeAddGroupMemberDeviceMsg :
    E2eeAddress → AddGroupMemberDeviceMsg β → Client β → Bool × Client β
  consumeRemoveGroupMembersMsg :
    E2eeAddress → RemoveGroupMembersMsg β → Client β → Bool × Client β
  consumeLeaveGroupMsg : E2eeAddress → LeaveGroupMsg → Client β → Bool × Client β

variable {β : Type}

section Processing

/-- The sender is not checked. -/
def isValidProtoMsg (msg : ProtoMsg β) : Bool :=
  isValidAddress msg.toAddress && isValidServerSignedSignatureList msg.signatureList

def ProtoMsgPayload.hasHandler : ProtoMsgPayload β → Bool
  | .emptyE2eeMsg => false
  | .other => false
  | _ => true

/-- A payload that the client does not look at counts as consumed. -/
def ProtoMsgHandlers.consume (handlers : ProtoMsgHandlers β) (receiver : E2eeAddress)
    (client : Client β) : ProtoMsgPayload β → Bool × Client β
  | .supplyOpksMsg msg => handlers.consumeSupplyOpksMsg receiver msg client
  | .addUserDeviceMsg msg => handlers.consumeAddUserDeviceMsg receiver msg client
  | .removeUserDeviceMsg msg => handlers.consumeRemoveUserDeviceMsg receiver msg client
  | .inviteMsg msg => handlers.consumeInviteMsg receiver msg client
  | .acceptMsg msg => handlers.consumeAcceptMsg receiver msg client
  | .one2oneMsg msg => handlers.consumeOne2oneMsg receiver msg client
  | .groupMsg msg => handlers.consumeGroupMsg receiver msg client
  | .emptyE2eeMsg => (false, client)
  | .createGroupMsg msg => handlers.consumeCreateGroupMsg receiver msg client
  | .addGroupMembersMsg msg => handlers.consumeAddGroupMembersMsg receiver msg client
  | .addGroupMemberDeviceMsg msg => handlers.consumeAddGroupMemberDeviceMsg receiver msg client
  | .removeGroupMembersMsg msg => handlers.consumeRemoveGroupMembersMsg receiver msg client
  | .leaveGroupMsg msg => handlers.consumeLeaveGroupMsg receiver msg client
  | .other => (true, client)

/-- Without an authorisation the server is not asked. -/
def consumeProtoMsg (answer : String → Option ConsumeProtoMsgResponse) (store : Store β)
    (senderAddress : E2eeAddress) (protoMsgId : String) : Option ConsumeProtoMsgResponse :=
  if isValidString (store.auth senderAddress) then answer protoMsgId else none

/-- The server is told that a tagged message is consumed, at once or later. -/
def notifyConsumed (answer : String → Option ConsumeProtoMsgResponse) (client : Client β)
    (msg : ProtoMsg β) : Client β × ResponseCode :=
  match msg.tag with
  | some protoMsgId =>
      let queued := client.storePendingRequest msg.toAddress (.protoMsg msg.toAddress protoMsgId)
      match consumeProtoMsg answer client.store msg.toAddress protoMsgId with
      | some ⟨.ok⟩ => (client, .ok)
      | some ⟨.notFound⟩ => (client, .notFound)
      | some ⟨.other⟩ => (queued, .other)
      | none => (queued, .other)
  | none => (client, .ok)

/-- A message is processed when it is well formed and none of its signatures is wrong. -/
def acceptsProtoMsg (getDsSuite : UInt32 → Option (DsSuite β)) (client : Client β)
    (msg : ProtoMsg β) : Bool :=
  isValidProtoMsg msg && msg.signatureList.all
    (verifyServerSignature getDsSuite (client.serverPublicKey msg.toAddress))

/-- This is what one message leaves behind: the client, the message if a handler was run on it,
and the code that is returned. -/
structure ProcessResult (β : Type) where
  client : Client β
  handled : Option (ProtoMsg β)
  response : Option ResponseCode

def processProtoMsg (platform : Platform β) (handlers : ProtoMsgHandlers β)
    (answer : String → Option ConsumeProtoMsgResponse) (unpack : Bytes β → Option (ProtoMsg β))
    (client : Client β) (data : Bytes β) : ProcessResult β :=
  match unpack data with
  | some msg =>
      if acceptsProtoMsg platform.getDsSuite client msg then
        let consumed := handlers.consume msg.toAddress client msg.payload
        let handled := if msg.payload.hasHandler then some msg else none
        if consumed.1 then
          let notified := notifyConsumed answer consumed.2 msg
          ⟨notified.1, handled, some notified.2⟩
        else ⟨consumed.2, handled, none⟩
      else ⟨client, none, none⟩
  | none => ⟨client, none, none⟩

end Processing

section Starting

variable (getE2eesPack : Packs β)

/-- These are the checks before a session is stored for a bundle. -/
def startsSession (accounts : E2eeAddress → Option (Account β)) (sender : E2eeAddress)
    (bundle : PreKeyBundle β) : Bool :=
  match accounts sender, getE2eesPack bundle.e2eesPackId with
  | some account, some cipherSuite =>
      isValidAddress sender && isValidRegisteredAccount getE2eesPack account &&
        isValidPreKeyBundle bundle && isValidCipherSuite cipherSuite &&
        preKeyBundleFits cipherSuite bundle &&
        cipherSuite.ds.verify bundle.signedPreKeyPublic.signature
          bundle.signedPreKeyPublic.publicKey bundle.identityKeyPublic.signPublicKey
  | _, _ => false

/-- This is the session that is stored for a bundle. -/
def startedSession (store : Store β) (sender : E2eeAddress) (bundle : PreKeyBundle β)
    (draw : OutboundDraw β) : Option (Session β) :=
  match store.account sender, getE2eesPack bundle.e2eesPackId with
  | some account, some cipherSuite =>
      if startsSession getE2eesPack store.account sender bundle then
        some (outboundSession cipherSuite account sender bundle draw)
      else none
  | _, _ => none

/-- The plaintext is stored before the session that it waits for. -/
def startSession (fromAddress : E2eeAddress) (groupPreKeyPlaintext : Option (Bytes β))
    (start : SessionStart β) (bundle : SignedPreKeyBundle β) (client : Client β) : Client β :=
  let waiting := match groupPreKeyPlaintext with
    | some data => client.storePendingPlaintextData fromAddress bundle.userAddress
        ⟨start.pendingPlaintextId, data⟩
    | none => client
  { waiting with
    store := (pqcNewOutboundSessionV2 getE2eesPack start.invite waiting.store fromAddress
      bundle.toPreKeyBundle start.draw).2.1 }

/-- These are the sessions that are stored for the bundles, each beside its bundle. -/
def startedSessions (fromAddress : E2eeAddress) (groupPreKeyPlaintext : Option (Bytes β)) :
    (Nat → SessionStart β) → List (SignedPreKeyBundle β) → Client β →
      List (SignedPreKeyBundle β × Session β)
  | _, [], _ => []
  | starts, bundle :: rest, client =>
      ((startedSession getE2eesPack client.store fromAddress bundle.toPreKeyBundle
        (starts 0).draw).toList.map fun session => (bundle, session)) ++
      startedSessions fromAddress groupPreKeyPlaintext (fun index => starts (index + 1)) rest
        (startSession getE2eesPack fromAddress groupPreKeyPlaintext (starts 0) bundle client)

variable {getE2eesPack}

/-- The call stores exactly this session, and then sends its invitation. -/
theorem pqcNewOutboundSessionV2_eq (invite : InviteMsg β → Option InviteResponse)
    (store : Store β) (sender : E2eeAddress) (bundle : PreKeyBundle β) (draw : OutboundDraw β) :
    pqcNewOutboundSessionV2 getE2eesPack invite store sender bundle draw =
      match startedSession getE2eesPack store sender bundle draw with
      | some session => inviteInternal getE2eesPack invite (store.storeSession session) session
      | none => (false, store, none) := by
  unfold pqcNewOutboundSessionV2 startedSession startsSession
  cases store.account sender with
  | none => rfl
  | some account =>
      cases getE2eesPack bundle.e2eesPackId with
      | none => rfl
      | some cipherSuite =>
          dsimp only
          split <;> rfl

theorem startedSession_isSome (store : Store β) (sender : E2eeAddress) (bundle : PreKeyBundle β)
    (draw : OutboundDraw β) :
    (startedSession getE2eesPack store sender bundle draw).isSome =
      startsSession getE2eesPack store.account sender bundle := by
  unfold startedSession startsSession
  cases store.account sender with
  | none => rfl
  | some account =>
      cases getE2eesPack bundle.e2eesPackId with
      | none => rfl
      | some cipherSuite =>
          dsimp only
          split <;> simp_all

theorem startSessions_cons (fromAddress : E2eeAddress) (groupPreKeyPlaintext : Option (Bytes β))
    (starts : Nat → SessionStart β) (bundle : SignedPreKeyBundle β)
    (rest : List (SignedPreKeyBundle β)) (client : Client β) :
    startSessions getE2eesPack fromAddress groupPreKeyPlaintext starts (bundle :: rest) client =
      startSessions getE2eesPack fromAddress groupPreKeyPlaintext
        (fun index => starts (index + 1)) rest
        (startSession getE2eesPack fromAddress groupPreKeyPlaintext (starts 0) bundle client) :=
  rfl

theorem inviteInternal_accounts (invite : InviteMsg β → Option InviteResponse) (store : Store β)
    (session : Session β) :
    (inviteInternal getE2eesPack invite store session).2.1.account = store.account := by
  unfold inviteInternal
  split
  · dsimp only
    split <;> exact (consumeInviteResponse_accounts _ _ _).1
  · rfl

/-- A started session leaves all accounts as they are. -/
theorem startSession_accounts (fromAddress : E2eeAddress)
    (groupPreKeyPlaintext : Option (Bytes β)) (start : SessionStart β)
    (bundle : SignedPreKeyBundle β) (client : Client β) :
    (startSession getE2eesPack fromAddress groupPreKeyPlaintext start bundle
      client).store.account = client.store.account := by
  have called (waiting : Store β) : (pqcNewOutboundSessionV2 getE2eesPack start.invite waiting
      fromAddress bundle.toPreKeyBundle start.draw).2.1.account = waiting.account := by
    rw [pqcNewOutboundSessionV2_eq]
    split
    · exact inviteInternal_accounts _ _ _
    · rfl
  cases groupPreKeyPlaintext with
  | none => exact called _
  | some data => exact called _

/-- Only the account of the sender and the checks decide which bundles get a session. -/
theorem mem_startedSessions_iff {fromAddress : E2eeAddress}
    {groupPreKeyPlaintext : Option (Bytes β)} {bundles : List (SignedPreKeyBundle β)}
    {bundle : SignedPreKeyBundle β} (starts : Nat → SessionStart β) (client : Client β) :
    (∃ session, (bundle, session) ∈ startedSessions getE2eesPack fromAddress groupPreKeyPlaintext
      starts bundles client) ↔ bundle ∈ bundles ∧
        startsSession getE2eesPack client.store.account fromAddress bundle.toPreKeyBundle =
          true := by
  induction bundles generalizing starts client with
  | nil => simp [startedSessions]
  | cons first rest ih =>
      have later := ih (fun index => starts (index + 1))
        (startSession getE2eesPack fromAddress groupPreKeyPlaintext (starts 0) first client)
      rw [startSession_accounts] at later
      have now : (∃ session, startedSession getE2eesPack client.store fromAddress
          first.toPreKeyBundle (starts 0).draw = some session) ↔
          startsSession getE2eesPack client.store.account fromAddress first.toPreKeyBundle =
            true := by
        rw [← Option.isSome_iff_exists, startedSession_isSome]
      simp only [startedSessions, List.mem_append, exists_or, later, List.mem_map,
        Option.mem_toList, Prod.mk.injEq, List.mem_cons]
      constructor
      · rintro (⟨session, made, found, rfl, -⟩ | ⟨member, starts⟩)
        · exact ⟨.inl rfl, now.mp ⟨made, found⟩⟩
        · exact ⟨.inr member, starts⟩
      · rintro ⟨rfl | member, checked⟩
        · obtain ⟨made, found⟩ := now.mpr checked
          exact .inl ⟨made, made, found, rfl, rfl⟩
        · exact .inr ⟨member, checked⟩

end Starting

section Content

/-- The server hashes the packed parts of what it signs. The generated packing and the hash are
outside of this model. -/
structure ContentCodec (β : Type) where
  packAddress : E2eeAddress → Bytes β
  packPayload : ProtoMsgPayload β → Bytes β
  packIdentityKeyPublic : IdentityKeyPublic β → Bytes β
  packSignedPreKeyPublic : SignedPreKeyPublic β → Bytes β
  packOneTimePreKeyPublic : OneTimePreKeyPublic β → Bytes β
  hash : Bytes β → Bytes β

/-- The tag is not hashed. -/
def ContentCodec.protoMsgHash (codec : ContentCodec β) (msg : ProtoMsg β) : Bytes β :=
  codec.hash ((msg.fromAddress.map codec.packAddress).getD [] ++
    codec.packAddress msg.toAddress ++ codec.packPayload msg.payload)

def ContentCodec.preKeyBundleHash (codec : ContentCodec β) (bundle : PreKeyBundle β) : Bytes β :=
  codec.hash (codec.packAddress bundle.userAddress ++
    codec.packIdentityKeyPublic bundle.identityKeyPublic ++
    codec.packSignedPreKeyPublic bundle.signedPreKeyPublic ++
    (bundle.oneTimePreKeyPublic.map codec.packOneTimePreKeyPublic).getD [])

/-- The entry is a signature of the server over this fingerprint. -/
structure SignsContent (getDsSuite : UInt32 → Option (DsSuite β))
    (serverPublicKey : Option (Bytes β)) (entry : ServerSignedSignature β)
    (fingerprint : Bytes β) : Prop where
  verified : verifyServerSignature getDsSuite serverPublicKey entry = true
  bound : entry.msgFingerprint = fingerprint

/-- These are the sessions that the answer creates, each beside its bundle. -/
def responseSessions (platform : Platform β) (starts : Nat → SessionStart β) (client : Client β)
    (fromAddress : E2eeAddress) (groupPreKeyPlaintext : Option (Bytes β))
    (response : GetPreKeyBundleResponse β) : List (SignedPreKeyBundle β × Session β) :=
  if (consumeGetPreKeyBundleResponse platform starts client fromAddress groupPreKeyPlaintext
      (some response)).1 then
    startedSessions platform.getE2eesPack fromAddress groupPreKeyPlaintext starts
      (otherPreKeyBundles fromAddress response) client
  else []

/-- An answer is acted on when it is well formed and every foreign bundle has a good signature. -/
def acceptsPreKeyBundles (platform : Platform β) (client : Client β) (fromAddress : E2eeAddress)
    (response : GetPreKeyBundleResponse β) : Bool :=
  isValidAddress fromAddress && isValidGetPreKeyBundleResponse response &&
    (otherPreKeyBundles fromAddress response).all (preKeyBundleSigned platform.getDsSuite
      (client.serverPublicKey fromAddress))

theorem consumeGetPreKeyBundleResponse_accepts (platform : Platform β)
    (starts : Nat → SessionStart β) (client : Client β) (fromAddress : E2eeAddress)
    (groupPreKeyPlaintext : Option (Bytes β)) (response : GetPreKeyBundleResponse β) :
    (consumeGetPreKeyBundleResponse platform starts client fromAddress groupPreKeyPlaintext
      (some response)).1 = acceptsPreKeyBundles platform client fromAddress response := by
  unfold consumeGetPreKeyBundleResponse acceptsPreKeyBundles
  dsimp only
  split <;> simp_all

/-- A handler is run exactly on an accepted message that has one. -/
theorem processProtoMsg_handled_iff (platform : Platform β) (handlers : ProtoMsgHandlers β)
    (answer : String → Option ConsumeProtoMsgResponse) (unpack : Bytes β → Option (ProtoMsg β))
    (client : Client β) (data : Bytes β) (msg : ProtoMsg β) :
    (processProtoMsg platform handlers answer unpack client data).handled = some msg ↔
      unpack data = some msg ∧ acceptsProtoMsg platform.getDsSuite client msg = true ∧
        msg.payload.hasHandler = true := by
  unfold processProtoMsg
  cases unpacked : unpack data with
  | none => simp
  | some received =>
      dsimp only
      rw [Option.some.injEq]
      by_cases accepted : acceptsProtoMsg platform.getDsSuite client received = true
      · rw [if_pos accepted]
        have handled : (if received.payload.hasHandler = true then some received else none) =
            some msg ↔ received = msg ∧
              acceptsProtoMsg platform.getDsSuite client msg = true ∧
                msg.payload.hasHandler = true := by
          rw [Option.ite_none_right_eq_some, Option.some.injEq]
          constructor
          · rintro ⟨has, rfl⟩
            exact ⟨rfl, accepted, has⟩
          · rintro ⟨rfl, -, has⟩
            exact ⟨has, rfl⟩
        split <;> exact handled
      · rw [if_neg accepted]
        constructor
        · simp
        · rintro ⟨rfl, accepts, -⟩
          exact absurd accepts accepted

/-- The handled messages are signed exactly when those that pass the checks carry the fingerprint
of their content. -/
theorem handledMsgs_signed_iff (platform : Platform β) (codec : ContentCodec β)
    (handlers : ProtoMsgHandlers β) (answer : String → Option ConsumeProtoMsgResponse)
    (unpack : Bytes β → Option (ProtoMsg β)) (client : Client β) (data : Bytes β) :
    (∀ msg, (processProtoMsg platform handlers answer unpack client data).handled = some msg →
        ∃ entry ∈ msg.signatureList, SignsContent platform.getDsSuite
          (client.serverPublicKey msg.toAddress) entry (codec.protoMsgHash msg)) ↔
      ∀ msg, unpack data = some msg → acceptsProtoMsg platform.getDsSuite client msg = true →
        msg.payload.hasHandler = true →
          ∃ entry ∈ msg.signatureList, entry.msgFingerprint = codec.protoMsgHash msg := by
  constructor
  · intro signed msg unpacked accepted has
    obtain ⟨entry, member, -, bound⟩ := signed msg
      ((processProtoMsg_handled_iff _ _ _ _ _ _ _).mpr ⟨unpacked, accepted, has⟩)
    exact ⟨entry, member, bound⟩
  · intro fingerprinted msg handled
    obtain ⟨unpacked, accepted, has⟩ := (processProtoMsg_handled_iff _ _ _ _ _ _ _).mp handled
    obtain ⟨entry, member, bound⟩ := fingerprinted msg unpacked accepted has
    simp only [acceptsProtoMsg, Bool.and_eq_true, List.all_eq_true] at accepted
    exact ⟨entry, member, accepted.2 entry member, bound⟩

/-- The started sessions come from signed bundles exactly when the bundles that pass the checks
carry the fingerprint of their content. -/
theorem startedSessions_signed_iff (platform : Platform β) (codec : ContentCodec β)
    (client : Client β) (starts : Nat → SessionStart β) (fromAddress : E2eeAddress)
    (groupPreKeyPlaintext : Option (Bytes β)) (response : GetPreKeyBundleResponse β) :
    (∀ started ∈ responseSessions platform starts client fromAddress groupPreKeyPlaintext
          response,
        ∃ entry, started.1.signature = some entry ∧ SignsContent platform.getDsSuite
          (client.serverPublicKey fromAddress) entry
          (codec.preKeyBundleHash started.1.toPreKeyBundle)) ↔
      (acceptsPreKeyBundles platform client fromAddress response = true →
        ∀ bundle ∈ otherPreKeyBundles fromAddress response,
          startsSession platform.getE2eesPack client.store.account fromAddress
            bundle.toPreKeyBundle = true →
          ∃ entry, bundle.signature = some entry ∧
            entry.msgFingerprint = codec.preKeyBundleHash bundle.toPreKeyBundle) := by
  unfold responseSessions
  rw [consumeGetPreKeyBundleResponse_accepts]
  constructor
  · intro signed accepted bundle member checked
    rw [if_pos accepted] at signed
    obtain ⟨session, started⟩ :=
      (mem_startedSessions_iff starts client).mpr ⟨member, checked⟩
    obtain ⟨entry, present, -, bound⟩ := signed _ started
    exact ⟨entry, present, bound⟩
  · rintro fingerprinted ⟨bundle, session⟩ started
    by_cases accepted : acceptsPreKeyBundles platform client fromAddress response = true
    · rw [if_pos accepted] at started
      obtain ⟨member, checked⟩ := (mem_startedSessions_iff starts client).mp ⟨session, started⟩
      obtain ⟨entry, present, bound⟩ := fingerprinted accepted bundle member checked
      refine ⟨entry, present, ?_, bound⟩
      simp only [acceptsPreKeyBundles, Bool.and_eq_true, List.all_eq_true] at accepted
      have good := accepted.2 bundle member
      rw [preKeyBundleSigned, present, Option.any_some, Bool.and_eq_true] at good
      exact good.2
    · rw [if_neg accepted] at started
      simp at started

/-- What the client acts on is signed by the server exactly when the fingerprint that travels with
the message or the bundle happens to be the one of its content. -/
theorem serverSigned_iff (platform : Platform β) (codec : ContentCodec β)
    (handlers : ProtoMsgHandlers β) (answer : String → Option ConsumeProtoMsgResponse)
    (unpack : Bytes β → Option (ProtoMsg β)) (client : Client β) (data : Bytes β)
    (starts : Nat → SessionStart β) (fromAddress : E2eeAddress)
    (groupPreKeyPlaintext : Option (Bytes β)) (response : GetPreKeyBundleResponse β) :
    ((∀ msg, (processProtoMsg platform handlers answer unpack client data).handled = some msg →
        ∃ entry ∈ msg.signatureList, SignsContent platform.getDsSuite
          (client.serverPublicKey msg.toAddress) entry (codec.protoMsgHash msg)) ↔
      ∀ msg, unpack data = some msg → acceptsProtoMsg platform.getDsSuite client msg = true →
        msg.payload.hasHandler = true →
          ∃ entry ∈ msg.signatureList, entry.msgFingerprint = codec.protoMsgHash msg) ∧
    ((∀ started ∈ responseSessions platform starts client fromAddress groupPreKeyPlaintext
          response,
        ∃ entry, started.1.signature = some entry ∧ SignsContent platform.getDsSuite
          (client.serverPublicKey fromAddress) entry
          (codec.preKeyBundleHash started.1.toPreKeyBundle)) ↔
      (acceptsPreKeyBundles platform client fromAddress response = true →
        ∀ bundle ∈ otherPreKeyBundles fromAddress response,
          startsSession platform.getE2eesPack client.store.account fromAddress
            bundle.toPreKeyBundle = true →
          ∃ entry, bundle.signature = some entry ∧
            entry.msgFingerprint = codec.preKeyBundleHash bundle.toPreKeyBundle)) := by
  constructor
  · exact handledMsgs_signed_iff platform codec handlers answer unpack client data
  · exact startedSessions_signed_iff platform codec client starts fromAddress groupPreKeyPlaintext
      response

end Content

namespace Symbolic

def serverKey : KeyPair FreeTerm := keyPair 70

/-- The packed parts are put side by side, and the hash keeps all of its input. -/
def codec : ContentCodec FreeTerm where
  packAddress _ := [.byte 0]
  packPayload _ := [.byte 1]
  packIdentityKeyPublic key := key.asymPublicKey ++ key.signPublicKey
  packSignedPreKeyPublic key := key.publicKey ++ key.signature
  packOneTimePreKeyPublic key := key.publicKey
  hash data := data

/-- The server signs a fingerprint. -/
def serverSignature (fingerprint : Bytes FreeTerm) : ServerSignedSignature FreeTerm where
  signingAlg := 0
  signer := ⟨"server", "domain", "organisation", []⟩
  signingPublicKeyFingerprint := [.byte 2]
  msgFingerprint := fingerprint
  signature := symbolicSuite.ds.sign [] fingerprint serverKey.privateKey

/-- Alice knows the key of the server, and has no sessions yet. -/
def servedClient : Client FreeTerm :=
  { newClient with serverPublicKey := fun _ => some serverKey.publicKey }

/-- Nobody has signed this invitation. -/
def unsignedMsg : ProtoMsg FreeTerm where
  fromAddress := some bobAddress
  toAddress := aliceAddress
  signatureList := []
  payload := .inviteMsg (produceInviteRequest handshake.outbound)
  tag := none

/-- The server has signed the bundle of Bob with his one-time pre-key, which is then left out. -/
def changedBundle : SignedPreKeyBundle FreeTerm where
  toPreKeyBundle := { handshake.bundle with oneTimePreKeyPublic := none }
  signature := some (serverSignature (codec.preKeyBundleHash handshake.bundle))

def changedResponse : GetPreKeyBundleResponse FreeTerm := ⟨.ok, "bob", [changedBundle]⟩

def sessionStart : SessionStart FreeTerm := ⟨"plaintext", handshake.draw, handshake.invite⟩

end Symbolic

open Symbolic in
/-- A message without any signature reaches its handler, and a bundle that was changed after the
server had signed it gets a session. -/
theorem unsigned_content_handled :
    unsignedMsg.signatureList = [] ∧
      (∀ handlers answer,
        (processProtoMsg platform handlers answer (fun _ => some unsignedMsg) servedClient
          []).handled = some unsignedMsg ∧
        ¬ ∀ msg, (processProtoMsg platform handlers answer (fun _ => some unsignedMsg)
            servedClient []).handled = some msg →
          ∃ entry ∈ msg.signatureList, SignsContent platform.getDsSuite
            (servedClient.serverPublicKey msg.toAddress) entry (codec.protoMsgHash msg)) ∧
      (responseSessions platform (fun _ => sessionStart) servedClient aliceAddress none
        changedResponse).map Prod.fst = [changedBundle] ∧
      ¬ ∀ started ∈ responseSessions platform (fun _ => sessionStart) servedClient aliceAddress
          none changedResponse,
        ∃ entry, started.1.signature = some entry ∧ SignsContent platform.getDsSuite
          (servedClient.serverPublicKey aliceAddress) entry
          (codec.preKeyBundleHash started.1.toPreKeyBundle) := by
  have started : (responseSessions platform (fun _ => sessionStart) servedClient aliceAddress none
      changedResponse).map Prod.fst = [changedBundle] := by
    decide
  refine ⟨rfl, ?_, started, ?_⟩
  · intro handlers answer
    have handled : (processProtoMsg platform handlers answer (fun _ => some unsignedMsg)
        servedClient []).handled = some unsignedMsg :=
      (processProtoMsg_handled_iff _ _ _ _ _ _ _).mpr ⟨rfl, by decide, rfl⟩
    refine ⟨handled, fun signed => ?_⟩
    obtain ⟨entry, member, -⟩ := signed unsignedMsg handled
    simp [unsignedMsg] at member
  · intro signed
    have member : changedBundle ∈ (responseSessions platform (fun _ => sessionStart) servedClient
        aliceAddress none changedResponse).map Prod.fst := by
      rw [started]
      exact List.mem_singleton_self _
    obtain ⟨created, present, same⟩ := List.mem_map.mp member
    obtain ⟨entry, entered, -, bound⟩ := signed created present
    rw [same] at entered bound
    have changed : (changedBundle.signature.map fun entry => entry.msgFingerprint) ≠
        some (codec.preKeyBundleHash changedBundle.toPreKeyBundle) := by
      decide
    rw [entered, Option.map_some, bound] at changed
    exact changed rfl

end E2eeSecurity
