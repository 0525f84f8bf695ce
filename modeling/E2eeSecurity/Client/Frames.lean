/-
This file gives the rule for what a request for pre-key bundles leaves as it is.
-/
import E2eeSecurity.Client.Signed

namespace E2eeSecurity

variable {β : Type} {platform : Platform β}

/-- A relation of this kind holds over each of the small steps that a request is made of, when the
step is made for one of the given addresses. -/
structure BundleFrame (platform : Platform β) (acts : E2eeAddress → Prop)
    (related : Client β → Client β → Prop) : Prop where
  refl : ∀ client, related client client
  trans : ∀ before between after, related before between → related between after →
    related before after
  loaded : ∀ sessions fromAddress userId domain, acts fromAddress →
    ∀ session ∈ platform.loadOutboundSessions sessions fromAddress userId domain,
      acts session.ourAddress
  newSession : ∀ client invite sender bundle draw, acts sender → related client { client with
    store := (pqcNewOutboundSessionV2 platform.getE2eesPack invite client.store sender bundle
      draw).2.1 }
  send : ∀ (client : Client β) attempt (session : Session β) data, acts session.ourAddress →
    related client { client with
      store := (sendOne2oneMsgInternal platform.getE2eesPack attempt client.store session
        data).store }
  wait : ∀ (client : Client β) fromAddress toAddress entry, acts fromAddress → related client
    (client.storePendingPlaintextData fromAddress toAddress entry)
  queue : ∀ (client : Client β) address request, acts address → related client
    (client.storePendingRequest address request)

variable {acts : E2eeAddress → Prop} {related : Client β → Client β → Prop}

theorem BundleFrame.startSession (frame : BundleFrame platform acts related)
    {fromAddress : E2eeAddress} (ours : acts fromAddress)
    (groupPreKeyPlaintext : Option (Bytes β)) (start : SessionStart β)
    (bundle : SignedPreKeyBundle β) (client : Client β) :
    related client (startSession platform.getE2eesPack fromAddress groupPreKeyPlaintext start bundle
      client) := by
  cases groupPreKeyPlaintext with
  | none => exact frame.newSession _ _ _ _ _ ours
  | some data =>
      exact frame.trans _ _ _ (frame.wait _ _ _ _ ours) (frame.newSession _ _ _ _ _ ours)

theorem BundleFrame.startSessions (frame : BundleFrame platform acts related)
    {fromAddress : E2eeAddress} (ours : acts fromAddress)
    (groupPreKeyPlaintext : Option (Bytes β)) (bundles : List (SignedPreKeyBundle β))
    (starts : Nat → SessionStart β) (client : Client β) :
    related client (startSessions platform.getE2eesPack fromAddress groupPreKeyPlaintext starts
      bundles client) := by
  induction bundles generalizing starts client with
  | nil => exact frame.refl client
  | cons bundle rest ih =>
      rw [startSessions_cons]
      exact frame.trans _ _ _ (frame.startSession ours _ _ _ _) (ih _ _)

theorem BundleFrame.sendToOwnDevices (frame : BundleFrame platform acts related)
    (fromAddress : E2eeAddress) (data : Bytes β) {sessions : List (Session β)}
    (ours : ∀ session ∈ sessions, acts session.ourAddress) (steps : Nat → SyncStep)
    (client : Client β) :
    related client (sendToOwnDevices platform.getE2eesPack fromAddress data steps sessions
      client) := by
  induction sessions generalizing steps client with
  | nil => exact frame.refl client
  | cons session rest ih =>
      rw [List.forall_mem_cons] at ours
      rw [E2eeSecurity.sendToOwnDevices]
      apply frame.trans _ _ _ _ (ih ours.2 _ _)
      split
      · exact frame.refl client
      · split
        · exact frame.send _ _ _ _ ours.1
        · exact frame.wait _ _ _ _ ours.1

theorem BundleFrame.consumeBundleReply (frame : BundleFrame platform acts related)
    {fromAddress : E2eeAddress} (ours : acts fromAddress) (reply : BundleReply β)
    (client : Client β) (request : GetPreKeyBundleRequest) (active : Bool)
    (groupPreKeyPlaintext : Option (Bytes β)) :
    related client (consumeBundleReply platform reply client fromAddress request active
      groupPreKeyPlaintext).2 := by
  unfold E2eeSecurity.consumeBundleReply
  split
  · rename_i response answered
    have consumed : related client (consumeGetPreKeyBundleResponse platform reply.starts client
        fromAddress groupPreKeyPlaintext (some response)).2 := by
      unfold consumeGetPreKeyBundleResponse
      dsimp only
      split
      · exact frame.startSessions ours _ _ _ _
      · exact frame.refl client
    dsimp only
    split
    · exact frame.trans _ _ _ consumed
        (frame.sendToOwnDevices _ _ (frame.loaded _ _ _ _ ours) _ _)
    · exact consumed
  · exact frame.refl client

/-- The relation then holds over the whole request. -/
theorem BundleFrame.getPreKeyBundleInternal (frame : BundleFrame platform acts related)
    {fromAddress : E2eeAddress} (ours : acts fromAddress) (reply : BundleReply β)
    (client : Client β) (auth : String) (request : GetPreKeyBundleRequest) (active : Bool)
    (groupPreKeyPlaintext : Option (Bytes β)) :
    related client (getPreKeyBundleInternal platform reply client fromAddress auth request active
      groupPreKeyPlaintext).2 := by
  have consumed := frame.consumeBundleReply ours reply client request active groupPreKeyPlaintext
  unfold E2eeSecurity.getPreKeyBundleInternal
  split
  · dsimp only
    split
    · exact consumed
    · split
      · split
        · exact consumed
        · exact frame.trans _ _ _ consumed (frame.queue _ _ _ ours)
      · exact consumed
  · exact frame.refl client

end E2eeSecurity
