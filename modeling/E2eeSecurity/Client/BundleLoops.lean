/-
This file gives the three loops over the pre-key bundles of an answer and shows that they agree on
the bundles that they skip.
-/
import E2eeSecurity.Library.Slots
import E2eeSecurity.Client.Bundles
import E2eeSecurity.Client.Copy
import E2eeSecurity.Client.DeviceKeys

namespace E2eeSecurity

variable {β : Type}

/-- These are the calls that leave a trace outside of the loops. -/
inductive BundleEffect (β : Type)
  | storePendingPlaintextData (fromAddress toAddress : E2eeAddress) (data : Bytes β)
  | newOutboundSession (fromAddress : E2eeAddress) (bundle : SignedPreKeyBundle β)
  deriving DecidableEq

/-- This is the state of the last loop. -/
structure BundleRun (β : Type) where
  client : Client β
  effects : List (BundleEffect β)
  inviteResponseList : Slots (Option InviteResponse)
  insertPos : Nat

/-- The output list is left alone after a failure. -/
structure BundleOutcome (β : Type) where
  succeeded : Bool
  client : Client β
  effects : List (BundleEffect β)
  invites : Option (Slots (Option InviteResponse) × Nat)

section Loops

variable (platform : Platform β) (fromAddress : E2eeAddress)

/-- All three loops skip the bundle of this device with this condition. -/
def skipsBundle (self : Bool) (bundle : SignedPreKeyBundle β) : Bool :=
  self && compareAddress fromAddress bundle.userAddress

/-- No result stands for the call through a null suite. -/
def checkBundle (serverPublicKey : Option (Bytes β)) (bundle : SignedPreKeyBundle β) :
    Option Bool :=
  match bundle.signature with
  | some entry =>
      if isValidServerSignedSignature entry then
        match serverPublicKey with
        | some publicKey =>
            (platform.getDsSuite entry.signingAlg).map fun digitalSignatureSuite =>
              digitalSignatureSuite.verify entry.signature entry.msgFingerprint publicKey
        | none => some false
      else some false
  | none => some false

/-- The loop goes on after a failure, which the flag keeps. -/
def checkBundles (self : Bool) (serverPublicKey : Option (Bytes β)) :
    List (SignedPreKeyBundle β) → Bool → Option Bool
  | [], passed => some passed
  | bundle :: rest, passed =>
      if skipsBundle fromAddress self bundle then checkBundles self serverPublicKey rest passed
      else do
        let signed ← checkBundle platform serverPublicKey bundle
        checkBundles self serverPublicKey rest (passed && signed)

def countBundles (self : Bool) : List (SignedPreKeyBundle β) → Nat → Nat
  | [], count => count
  | bundle :: rest, count =>
      if skipsBundle fromAddress self bundle then countBundles self rest count
      else countBundles self rest (count + 1)

/-- The plaintext for the group is stored in front of the session. -/
def storeGroupPreKey (start : SessionStart β) (groupPreKeyPlaintext : Option (Bytes β))
    (bundle : SignedPreKeyBundle β) (run : BundleRun β) : BundleRun β :=
  match groupPreKeyPlaintext with
  | some data =>
      { run with
        client := run.client.storePendingPlaintextData fromAddress bundle.userAddress
          ⟨start.pendingPlaintextId, data⟩
        effects := run.effects ++
          [.storePendingPlaintextData fromAddress bundle.userAddress data] }
  | none => run

/-- The call writes the answer to the invitation into the next slot, which must exist. -/
def newOutboundSession (start : SessionStart β) (bundle : SignedPreKeyBundle β)
    (run : BundleRun β) : Option (BundleRun β) :=
  let started := pqcNewOutboundSessionV2 platform.getE2eesPack start.invite run.client.store
    fromAddress bundle.toPreKeyBundle start.draw
  (run.inviteResponseList.write run.insertPos (started.2.2.bind start.invite)).map fun slots =>
    { client := { run.client with store := started.2.1 }
      effects := run.effects ++ [.newOutboundSession fromAddress bundle]
      inviteResponseList := slots
      insertPos := run.insertPos + 1 }

def startBundles (self : Bool) (groupPreKeyPlaintext : Option (Bytes β)) :
    (Nat → SessionStart β) → List (SignedPreKeyBundle β) → BundleRun β → Option (BundleRun β)
  | _, [], run => some run
  | starts, bundle :: rest, run =>
      if skipsBundle fromAddress self bundle then
        startBundles self groupPreKeyPlaintext starts rest run
      else do
        let next ← newOutboundSession platform fromAddress (starts 0) bundle
          (storeGroupPreKey fromAddress (starts 0) groupPreKeyPlaintext bundle run)
        startBundles self groupPreKeyPlaintext (fun index => starts (index + 1)) rest next

/-- This is the work on the bundles of a valid answer. -/
def handleBundles (self : Bool) (starts : Nat → SessionStart β) (client : Client β)
    (groupPreKeyPlaintext : Option (Bytes β)) (list : List (SignedPreKeyBundle β)) :
    Option (BundleOutcome β) := do
  let passed ← checkBundles platform fromAddress self (client.serverPublicKey fromAddress) list true
  if passed then
    let count := countBundles fromAddress self list 0
    let run ← startBundles platform fromAddress self groupPreKeyPlaintext starts list
      ⟨client, [], Slots.malloc _ count, 0⟩
    some ⟨true, run.client, run.effects, some (run.inviteResponseList, count)⟩
  else some ⟨false, client, [], none⟩

/-- This is `consume_get_pre_key_bundle_response` loop by loop. The user of the sender is read
before the answer is checked, and no result stands for the user of a group address. -/
def consumePreKeyBundles (starts : Nat → SessionStart β) (client : Client β)
    (groupPreKeyPlaintext : Option (Bytes β)) (response : GetPreKeyBundleResponse β) :
    Option (BundleOutcome β) :=
  if isValidAddress fromAddress then
    fromAddress.userId.bind fun fromUserId =>
      if isValidGetPreKeyBundleResponse response then
        handleBundles platform fromAddress (fromUserId == response.userId) starts client
          groupPreKeyPlaintext response.preKeyBundles
      else some ⟨false, client, [], none⟩
  else some ⟨false, client, [], none⟩

end Loops

section Skipping

variable {platform : Platform β} {fromAddress : E2eeAddress} {self : Bool}

/-- The loops work on the bundles that they do not skip. -/
def keptBundles (fromAddress : E2eeAddress) (self : Bool) (list : List (SignedPreKeyBundle β)) :
    List (SignedPreKeyBundle β) :=
  list.filter fun bundle => !skipsBundle fromAddress self bundle

theorem keptBundles_skipped {bundle : SignedPreKeyBundle β}
    (skipped : skipsBundle fromAddress self bundle = true) (rest : List (SignedPreKeyBundle β)) :
    keptBundles fromAddress self (bundle :: rest) = keptBundles fromAddress self rest := by
  simp [keptBundles, skipped]

theorem keptBundles_kept {bundle : SignedPreKeyBundle β}
    (kept : ¬ skipsBundle fromAddress self bundle = true) (rest : List (SignedPreKeyBundle β)) :
    keptBundles fromAddress self (bundle :: rest) =
      bundle :: keptBundles fromAddress self rest := by
  simp [keptBundles, kept]

/-- The kept bundles are those of the other devices. -/
theorem keptBundles_eq {fromUserId : String} (user : fromAddress.userId = some fromUserId)
    (response : GetPreKeyBundleResponse β) :
    keptBundles fromAddress (fromUserId == response.userId) response.preKeyBundles =
      otherPreKeyBundles fromAddress response := by
  rw [keptBundles, otherPreKeyBundles]
  congr 1
  funext bundle
  have same : compareAddress fromAddress bundle.userAddress =
      decide (fromAddress = bundle.userAddress) := by
    rw [Bool.eq_iff_iff, compareAddress_iff, decide_eq_true_iff]
  rw [skipsBundle, same, user, Bool.decide_and, Bool.beq_eq_decide_eq]
  simp only [Option.some.injEq]

theorem countBundles_eq (list : List (SignedPreKeyBundle β)) (count : Nat) :
    countBundles fromAddress self list count =
      count + (keptBundles fromAddress self list).length := by
  induction list generalizing count with
  | nil => rfl
  | cons bundle rest ih =>
      rw [countBundles]
      split
      case isTrue skipped => rw [ih, keptBundles_skipped skipped]
      case isFalse kept =>
        rw [ih, keptBundles_kept kept, List.length_cons]
        omega

/-- The algorithm of the signature has a suite. -/
def KnownAlgorithm (platform : Platform β) (bundle : SignedPreKeyBundle β) : Prop :=
  ∀ entry, bundle.signature = some entry → (platform.getDsSuite entry.signingAlg).isSome = true

theorem checkBundle_eq {bundle : SignedPreKeyBundle β} (known : KnownAlgorithm platform bundle)
    (serverPublicKey : Option (Bytes β)) :
    checkBundle platform serverPublicKey bundle =
      some (preKeyBundleSigned platform.getDsSuite serverPublicKey bundle) := by
  cases signature : bundle.signature with
  | none => simp [checkBundle, preKeyBundleSigned, signature]
  | some entry =>
      obtain ⟨suite, present⟩ := Option.isSome_iff_exists.mp (known entry signature)
      simp only [checkBundle, preKeyBundleSigned, signature, Option.any_some]
      by_cases valid : isValidServerSignedSignature entry = true
      · rw [if_pos valid, valid, Bool.true_and]
        cases serverPublicKey with
        | none => rfl
        | some publicKey => simp [verifyServerSignature, present]
      · rw [if_neg valid, Bool.eq_false_of_not_eq_true valid, Bool.false_and]

/-- The flag says at the end whether every kept bundle is signed. -/
theorem checkBundles_eq {list : List (SignedPreKeyBundle β)} (serverPublicKey : Option (Bytes β))
    (known : ∀ bundle ∈ keptBundles fromAddress self list, KnownAlgorithm platform bundle)
    (passed : Bool) :
    checkBundles platform fromAddress self serverPublicKey list passed =
      some (passed && (keptBundles fromAddress self list).all
        (preKeyBundleSigned platform.getDsSuite serverPublicKey)) := by
  induction list generalizing passed with
  | nil => simp [checkBundles, keptBundles]
  | cons bundle rest ih =>
      rw [checkBundles]
      split
      case isTrue skipped =>
        rw [keptBundles_skipped skipped] at known ⊢
        exact ih known passed
      case isFalse kept =>
        rw [keptBundles_kept kept] at known ⊢
        rw [List.forall_mem_cons] at known
        rw [checkBundle_eq known.1, Option.bind_eq_bind, Option.bind_some, ih known.2,
          List.all_cons, Bool.and_assoc]

end Skipping

section Starting

variable {platform : Platform β} {fromAddress : E2eeAddress}
  {groupPreKeyPlaintext : Option (Bytes β)}

/-- These are the effects that belong to one bundle. -/
def bundleEffects (fromAddress : E2eeAddress) (groupPreKeyPlaintext : Option (Bytes β))
    (bundle : SignedPreKeyBundle β) : List (BundleEffect β) :=
  (groupPreKeyPlaintext.toList.map fun data =>
    .storePendingPlaintextData fromAddress bundle.userAddress data) ++
      [.newOutboundSession fromAddress bundle]

/-- The loop works on the kept bundles only. -/
theorem startBundles_kept {self : Bool} (starts : Nat → SessionStart β)
    (list : List (SignedPreKeyBundle β)) (run : BundleRun β) :
    startBundles platform fromAddress self groupPreKeyPlaintext starts list run =
      startBundles platform fromAddress false groupPreKeyPlaintext starts
        (keptBundles fromAddress self list) run := by
  induction list generalizing starts run with
  | nil => rfl
  | cons bundle rest ih =>
      rw [startBundles]
      split
      case isTrue skipped => rw [ih, keptBundles_skipped skipped]
      case isFalse kept =>
        rw [keptBundles_kept kept, startBundles, if_neg (by simp [skipsBundle])]
        simp only [ih]

/-- One turn of the loop fills the next slot and has the effects of its bundle. -/
theorem newOutboundSession_free (start : SessionStart β) (bundle : SignedPreKeyBundle β)
    (client : Client β) (effects : List (BundleEffect β))
    (written : List (Option InviteResponse)) (free : Nat) :
    ∃ answer, newOutboundSession platform fromAddress start bundle
      (storeGroupPreKey fromAddress start groupPreKeyPlaintext bundle
        ⟨client, effects, Slots.partly written (free + 1), written.length⟩) =
      some ⟨startSession platform.getE2eesPack fromAddress groupPreKeyPlaintext start bundle client,
        effects ++ bundleEffects fromAddress groupPreKeyPlaintext bundle,
        Slots.partly (written ++ [answer]) free, (written ++ [answer]).length⟩ := by
  refine ⟨(pqcNewOutboundSessionV2 platform.getE2eesPack start.invite client.store fromAddress
    bundle.toPreKeyBundle start.draw).2.2.bind start.invite, ?_⟩
  cases groupPreKeyPlaintext with
  | none =>
      simp only [newOutboundSession, storeGroupPreKey, Slots.write_partly, Option.map_some]
      rw [List.length_append]
      rfl
  | some data =>
      have store : (client.storePendingPlaintextData fromAddress bundle.userAddress
        ⟨start.pendingPlaintextId, data⟩).store = client.store := rfl
      simp only [newOutboundSession, storeGroupPreKey, store, Slots.write_partly, Option.map_some]
      rw [List.length_append, List.append_assoc]
      rfl

/-- The loop fills as many slots as there are bundles and has their effects in order. -/
theorem startBundles_partly (starts : Nat → SessionStart β) (list : List (SignedPreKeyBundle β))
    (client : Client β) (effects : List (BundleEffect β)) (written : List (Option InviteResponse)) :
    ∃ answers, answers.length = list.length ∧
      startBundles platform fromAddress false groupPreKeyPlaintext starts list
        ⟨client, effects, Slots.partly written list.length, written.length⟩ =
      some ⟨startSessions platform.getE2eesPack fromAddress groupPreKeyPlaintext starts list
          client,
        effects ++ list.flatMap (bundleEffects fromAddress groupPreKeyPlaintext),
        Slots.partly (written ++ answers) 0, (written ++ answers).length⟩ := by
  induction list generalizing starts client effects written with
  | nil => exact ⟨[], rfl, by simp [startBundles, startSessions]⟩
  | cons bundle rest ih =>
      obtain ⟨answer, first⟩ := @newOutboundSession_free β platform fromAddress
        groupPreKeyPlaintext (starts 0) bundle client effects written rest.length
      obtain ⟨answers, same, later⟩ := ih (fun index => starts (index + 1)) _ _ (written ++ [answer])
      refine ⟨answer :: answers, congrArg (· + 1) same, ?_⟩
      rw [startBundles, if_neg (by simp [skipsBundle]), List.length_cons, first,
        Option.bind_eq_bind, Option.bind_some, later, startSessions_cons, List.flatMap_cons,
        List.append_assoc, List.append_assoc, List.singleton_append]

end Starting

section Handling

variable {platform : Platform β} {fromAddress : E2eeAddress} {client : Client β}
  {groupPreKeyPlaintext : Option (Bytes β)} {response : GetPreKeyBundleResponse β}

/-- The loops together start the sessions of the kept bundles, unless one of these is not
signed. -/
theorem handleBundles_eq {self : Bool} {list : List (SignedPreKeyBundle β)}
    (known : ∀ bundle ∈ keptBundles fromAddress self list, KnownAlgorithm platform bundle)
    (starts : Nat → SessionStart β) :
    ∃ answers, answers.length = (keptBundles fromAddress self list).length ∧
      handleBundles platform fromAddress self starts client groupPreKeyPlaintext list =
        some (if (keptBundles fromAddress self list).all (preKeyBundleSigned platform.getDsSuite
            (client.serverPublicKey fromAddress)) then
          ⟨true, startSessions platform.getE2eesPack fromAddress groupPreKeyPlaintext starts
              (keptBundles fromAddress self list) client,
            (keptBundles fromAddress self list).flatMap
              (bundleEffects fromAddress groupPreKeyPlaintext),
            some (Slots.partly answers 0, answers.length)⟩
        else ⟨false, client, [], none⟩) := by
  obtain ⟨answers, same, run⟩ := @startBundles_partly β platform fromAddress groupPreKeyPlaintext
    starts (keptBundles fromAddress self list) client [] []
  refine ⟨answers, same, ?_⟩
  rw [Slots.partly_nil, List.length_nil, List.nil_append, List.nil_append] at run
  rw [handleBundles, checkBundles_eq _ known, Option.bind_eq_bind, Option.bind_some,
    Bool.true_and]
  split
  · simp only [countBundles_eq, Nat.zero_add]
    rw [startBundles_kept, run, same]
    rfl
  · rfl

/-- An answer that passes all checks starts the sessions of the other devices. -/
theorem consumePreKeyBundles_eq {fromUserId : String}
    (user : fromAddress.userId = some fromUserId)
    (known : ∀ bundle ∈ otherPreKeyBundles fromAddress response, KnownAlgorithm platform bundle)
    (starts : Nat → SessionStart β) :
    ∃ answers, answers.length = (otherPreKeyBundles fromAddress response).length ∧
      consumePreKeyBundles platform fromAddress starts client groupPreKeyPlaintext response =
        some (if isValidAddress fromAddress && isValidGetPreKeyBundleResponse response &&
            (otherPreKeyBundles fromAddress response).all (preKeyBundleSigned platform.getDsSuite
              (client.serverPublicKey fromAddress)) then
          ⟨true, startSessions platform.getE2eesPack fromAddress groupPreKeyPlaintext starts
              (otherPreKeyBundles fromAddress response) client,
            (otherPreKeyBundles fromAddress response).flatMap
              (bundleEffects fromAddress groupPreKeyPlaintext),
            some (Slots.partly answers 0, answers.length)⟩
        else ⟨false, client, [], none⟩) := by
  rw [← keptBundles_eq user] at known
  obtain ⟨answers, same, handled⟩ := @handleBundles_eq β platform fromAddress client
    groupPreKeyPlaintext _ _ known starts
  rw [keptBundles_eq user] at handled same
  refine ⟨answers, same, ?_⟩
  rw [consumePreKeyBundles, user, Option.bind_some, handled]
  by_cases sender : isValidAddress fromAddress = true
  · by_cases valid : isValidGetPreKeyBundleResponse response = true
    · simp [sender, valid]
    · simp [sender, valid]
  · simp [sender]

/-- The loops refine the function that works on the whole list. -/
theorem consumePreKeyBundles_refines {fromUserId : String}
    (user : fromAddress.userId = some fromUserId)
    (known : ∀ bundle ∈ otherPreKeyBundles fromAddress response, KnownAlgorithm platform bundle)
    (starts : Nat → SessionStart β) :
    ∃ outcome, consumePreKeyBundles platform fromAddress starts client groupPreKeyPlaintext
      response = some outcome ∧
      (outcome.succeeded, outcome.client) = consumeGetPreKeyBundleResponse platform starts client
        fromAddress groupPreKeyPlaintext (some response) := by
  obtain ⟨answers, -, consumed⟩ := @consumePreKeyBundles_eq β platform fromAddress client
    groupPreKeyPlaintext response fromUserId user known starts
  refine ⟨_, consumed, ?_⟩
  rw [consumeGetPreKeyBundleResponse]
  split <;> rfl

end Handling

namespace Symbolic

/-- The answer names Bob, but its bundle has the address of Alice and no signature. -/
def ownBundle : SignedPreKeyBundle FreeTerm :=
  { changedBundle with userAddress := aliceAddress, signature := none }

end Symbolic

end E2eeSecurity
