/-
This file gives the runs of one ratchet: any calls in any order after an initialiser.
-/
import E2eeSecurity.Library.Run
import E2eeSecurity.Symbolic

namespace E2eeSecurity

variable {β : Type} {cipherSuite : CipherSuite β}

/-- These are the arguments of the two initialisers. -/
inductive RatchetStart (β : Type)
  | alice (sharedSecret : Bytes β) (ourRatchetKey : KeyPair β) (theirRatchetKey : Bytes β)
      (theirEncapsCiphertext : Option (Bytes β)) (coins : Bytes β)
  | bob (sharedSecret : Bytes β) (ourRatchetKey : KeyPair β) (theirRatchetKey coins : Bytes β)

def RatchetStart.initialise (cipherSuite : CipherSuite β) :
    RatchetStart β → Option (Ratchet β)
  | .alice sharedSecret ourRatchetKey theirRatchetKey theirEncapsCiphertext coins =>
      initialiseAsAlice cipherSuite sharedSecret ourRatchetKey theirRatchetKey
        theirEncapsCiphertext coins
  | .bob sharedSecret ourRatchetKey theirRatchetKey coins =>
      initialiseAsBob cipherSuite sharedSecret ourRatchetKey theirRatchetKey coins

def RatchetStart.sharedSecret : RatchetStart β → Bytes β
  | .alice sharedSecret .. => sharedSecret
  | .bob sharedSecret .. => sharedSecret

def RatchetStart.theirRatchetKey : RatchetStart β → Bytes β
  | .alice _ _ theirRatchetKey .. => theirRatchetKey
  | .bob _ _ theirRatchetKey _ => theirRatchetKey

def RatchetStart.coins : RatchetStart β → Bytes β
  | .alice _ _ _ _ coins => coins
  | .bob _ _ _ coins => coins

/-- A call carries its arguments and its randomness. -/
inductive RatchetCall (β : Type)
  | encrypt (ad : Bytes β) (plaintext : Option (Bytes β))
  | decrypt (ad : Bytes β) (payload : One2oneMsgPayload β) (coins : Bytes β)

/-- This is the key that the next encryption takes. -/
def nextMessageKey (cipherSuite : CipherSuite β) (ratchet : Ratchet β) : Bytes β :=
  match createMsgKeys cipherSuite (ratchet.senderChain.bind fun chain => chain.chainKey) with
  | some msgKey => msgKey.derivedKey
  | none => []

section Runs

variable [DecidableEq β]

def applyCall (cipherSuite : CipherSuite β) (ratchet : Ratchet β) : RatchetCall β → Ratchet β
  | .encrypt ad plaintext => (encryptRatchet cipherSuite ratchet ad plaintext).2
  | .decrypt ad payload coins => (decryptRatchet cipherSuite ratchet ad payload coins).2

def runCalls (cipherSuite : CipherSuite β) (ratchet : Ratchet β) (calls : List (RatchetCall β)) :
    Ratchet β :=
  Machine.run (applyCall cipherSuite) ratchet calls

variable {sharedSecret : Bytes β} {ratchet : Ratchet β} {history : KeyHistory β}

omit [DecidableEq β] in
/-- An encryption call is a move of the ledger. -/
theorem Tracks.encrypt (tracks : Tracks cipherSuite sharedSecret ratchet history) (ad : Bytes β)
    (plaintext : Option (Bytes β)) :
    ∃ next, Tracks cipherSuite sharedSecret
        (encryptRatchet cipherSuite ratchet ad plaintext).2 next ∧ history.Grows next := by
  rcases encryptRatchet_cases tracks.sized ad plaintext with
    refused | ⟨senderChain, chainKey, data, -, sender, present, -, made⟩
  · rw [refused]
    exact ⟨history, tracks, .refl history⟩
  · rw [made]
    refine ⟨_, tracks.send sender present, ⟨List.prefix_rfl, ?_⟩⟩
    exact List.subset_cons_self _ _

/-- Any call is a move of the ledger. -/
theorem Tracks.call (free : cipherSuite.FreeKeys)
    (tracks : Tracks cipherSuite sharedSecret ratchet history) (call : RatchetCall β) :
    ∃ next, Tracks cipherSuite sharedSecret (applyCall cipherSuite ratchet call) next ∧
      history.Grows next := by
  cases call with
  | encrypt ad plaintext => exact tracks.encrypt ad plaintext
  | decrypt ad payload coins =>
      obtain ⟨next, tracked, grows, -⟩ := tracks.decrypt free ad payload coins
      exact ⟨next, tracked, grows⟩

/-- A run of calls is a run of the ledger. -/
theorem Tracks.run (free : cipherSuite.FreeKeys)
    (tracks : Tracks cipherSuite sharedSecret ratchet history) (calls : List (RatchetCall β)) :
    ∃ last, Tracks cipherSuite sharedSecret (runCalls cipherSuite ratchet calls) last ∧
      history.Grows last :=
  Machine.run_simulation KeyHistory.Grows.refl (fun _ _ _ => KeyHistory.Grows.trans)
    (fun _ call _ tracked => tracked.call free call) calls tracks

omit [DecidableEq β] in
/-- An initialiser starts a ledger without used keys. -/
theorem RatchetStart.tracks (free : cipherSuite.FreeKeys) {start : RatchetStart β}
    (made : start.initialise cipherSuite = some ratchet) :
    ∃ history, Tracks cipherSuite start.sharedSecret ratchet history ∧
      history.ledger.used = [] := by
  cases start with
  | alice sharedSecret ourRatchetKey theirRatchetKey theirEncapsCiphertext coins =>
      exact ⟨_, Tracks.alice free made, rfl⟩
  | bob sharedSecret ourRatchetKey theirRatchetKey coins =>
      exact ⟨_, Tracks.bob made, rfl⟩

end Runs

namespace Symbolic

/-- This is the key pair of a seed. -/
def keyPair (seed : UInt8) : KeyPair FreeTerm :=
  let pair := symbolicSuite.kem.asymKeyGen [.byte seed]
  ⟨pair.1, pair.2⟩

def sharedSecret : Bytes FreeTerm := [.byte 7]

def associatedData : Bytes FreeTerm := [.byte 9]

def bobStart : RatchetStart FreeTerm :=
  .bob sharedSecret (keyPair 2) (keyPair 1).publicKey [.byte 3]

def bob : Ratchet FreeTerm := (bobStart.initialise symbolicSuite).get (by decide)

/-- Alice knows the first ratchet key of Bob. -/
def aliceStart : RatchetStart FreeTerm :=
  .alice sharedSecret (keyPair 1) (keyPair 2).publicKey
    (bob.senderChain.map fun chain => chain.ourRatchetPublicKey) [.byte 4]

def alice : Ratchet FreeTerm := (aliceStart.initialise symbolicSuite).get (by decide)

theorem bobStart_made : bobStart.initialise symbolicSuite = some bob :=
  (Option.some_get _).symm

theorem aliceStart_made : aliceStart.initialise symbolicSuite = some alice :=
  (Option.some_get _).symm

/-- This is the first message of Alice. -/
def firstPayload : One2oneMsgPayload FreeTerm :=
  (encryptRatchet symbolicSuite alice associatedData (some [.byte 5])).1.get (by decide)

/-- This is the first key of Alice's first sender chain. -/
def longChain : Bytes FreeTerm :=
  ((alice.senderChain.bind fun chain => chain.chainKey).get (by decide)).sharedKey

/-- This is the message at a position of Alice's first sender chain. -/
def longPayload (position : Nat) : One2oneMsgPayload FreeTerm :=
  { firstPayload with
    sequence := UInt32.ofNat position
    sendingMessageSequence := UInt32.ofNat (position + 1)
    ciphertext := [.sealed (FreeTerm.pack associatedData) (FreeTerm.pack (symbolicSuite.messageKey
      (symbolicSuite.advance^[position] longChain))) (FreeTerm.pack [.byte 5])] }

def longCall (position : Nat) : RatchetCall FreeTerm :=
  .decrypt associatedData (longPayload position) [.byte 6]

end Symbolic

end E2eeSecurity
