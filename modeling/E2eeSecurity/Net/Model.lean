/-
This file joins the ratchets of two parties by a network that reorders, loses, and repeats messages.
-/
import E2eeSecurity.Ratchet.Calls
import Mathlib.Logic.Function.Basic

namespace E2eeSecurity

variable {β : Type} {cipherSuite : CipherSuite β}

inductive Party
  | alice
  | bob
  deriving DecidableEq

def Party.peer : Party → Party
  | .alice => .bob
  | .bob => .alice

@[simp] theorem Party.peer_peer (party : Party) : party.peer.peer = party := by
  cases party <;> rfl

@[simp] theorem Party.peer_ne (party : Party) : party.peer ≠ party := by
  cases party <;> decide

theorem Party.eq_or_peer (first second : Party) : first = second ∨ first = second.peer := by
  cases first <;> cases second <;> simp [Party.peer]

instance {property : Party → Prop} [DecidablePred property] :
    Decidable (∀ party, property party) :=
  decidable_of_iff (property .alice ∧ property .bob)
    ⟨fun both party => by cases party <;> simp [both], fun all => ⟨all .alice, all .bob⟩⟩

/-- This is the record of one encryption. A refused plaintext leaves no payload. -/
structure Sent (β : Type) where
  plaintext : Bytes β
  messageKey : Bytes β
  payload : Option (One2oneMsgPayload β)

/-- This is the record of one decryption of the payload at a position of the other party. -/
structure Reception (β : Type) where
  position : Nat
  payload : One2oneMsgPayload β
  result : Option (Bytes β)

/-- The wire keeps every payload, so any of them can be delivered late, twice, or never. -/
structure Net (β : Type) where
  ratchet : Party → Ratchet β
  sent : Party → List (Sent β)
  received : Party → List (Reception β)

/-- An encryption may lack its plaintext, and a decryption names a position of the other party. -/
inductive NetEvent (β : Type)
  | encrypt (sender : Party) (plaintext : Option (Bytes β))
  | decrypt (receiver : Party) (position : Nat) (coins : Bytes β)

/-- This is the payload at a position of a party. -/
def Net.payloadAt (net : Net β) (sender : Party) (position : Nat) :
    Option (One2oneMsgPayload β) :=
  (net.sent sender)[position]?.bind fun sent => sent.payload

def Net.encrypt (cipherSuite : CipherSuite β) (ad : Bytes β) (net : Net β) (sender : Party)
    (plaintext : Option (Bytes β)) : Net β :=
  let result := encryptRatchet cipherSuite (net.ratchet sender) ad plaintext
  { net with
    ratchet := Function.update net.ratchet sender result.2
    sent := match plaintext with
      | some data => Function.update net.sent sender (net.sent sender ++
          [⟨data, nextMessageKey cipherSuite (net.ratchet sender), result.1⟩])
      | none => net.sent }

/-- A missing plaintext changes nothing. -/
theorem Net.encrypt_none {ad : Bytes β} (net : Net β) (sender : Party) :
    net.encrypt cipherSuite ad sender none = net := by
  have refused : encryptRatchet cipherSuite (net.ratchet sender) ad none =
      (none, net.ratchet sender) := by
    unfold encryptRatchet
    split
    · split <;> simp_all
    · rfl
  simp [Net.encrypt, refused]

variable [DecidableEq β]

def Net.decrypt (cipherSuite : CipherSuite β) (ad : Bytes β) (net : Net β) (receiver : Party)
    (position : Nat) (payload : One2oneMsgPayload β) (coins : Bytes β) : Net β :=
  let result := decryptRatchet cipherSuite (net.ratchet receiver) ad payload coins
  { net with
    ratchet := Function.update net.ratchet receiver result.2
    received := Function.update net.received receiver
      (net.received receiver ++ [⟨position, payload, result.1⟩]) }

/-- A decryption of a position without a payload does not happen. -/
def stepNet (cipherSuite : CipherSuite β) (ad : Bytes β) (net : Net β) : NetEvent β → Net β
  | .encrypt sender plaintext => net.encrypt cipherSuite ad sender plaintext
  | .decrypt receiver position coins =>
      match net.payloadAt receiver.peer position with
      | some payload => net.decrypt cipherSuite ad receiver position payload coins
      | none => net

def runNet (cipherSuite : CipherSuite β) (ad : Bytes β) (net : Net β)
    (events : List (NetEvent β)) : Net β :=
  Machine.run (stepNet cipherSuite ad) net events

/-- Both parties start from one shared secret, and Alice knows the first ratchet key of Bob. -/
structure MatchedStart (cipherSuite : CipherSuite β) (sharedSecret : Bytes β)
    (keys : Party → KeyPair β) (coins : Party → Bytes β) (net : Net β) : Prop where
  bob : initialiseAsBob cipherSuite sharedSecret (keys .bob) (keys .alice).publicKey
    (coins .bob) = some (net.ratchet .bob)
  alice : initialiseAsAlice cipherSuite sharedSecret (keys .alice) (keys .bob).publicKey
    ((net.ratchet .bob).senderChain.map fun chain => chain.ourRatchetPublicKey)
    (coins .alice) = some (net.ratchet .alice)
  matching : ∀ party, cipherSuite.kem.Matching (keys party).publicKey (keys party).privateKey
  unsent : ∀ party, net.sent party = []
  unread : ∀ party, net.received party = []

section Start

omit [DecidableEq β]

variable {sharedSecret : Bytes β} {keys : Party → KeyPair β} {coins : Party → Bytes β}
  {start : Net β}

/-- A matched start has a valid suite and private keys. -/
theorem MatchedStart.parts (matched : MatchedStart cipherSuite sharedSecret keys coins start) :
    isValidCipherSuite cipherSuite = true ∧ ∀ party, (keys party).privateKey ≠ [] := by
  obtain ⟨suite, bobKey, -, -⟩ := initialiseAsBob_some matched.bob
  obtain ⟨-, aliceKey, -⟩ := initialiseAsAlice_some matched.alice
  refine ⟨suite, ?_⟩
  intro party
  cases party with
  | alice => exact aliceKey
  | bob => exact bobKey

/-- These are the ratchets of a matched start. -/
theorem MatchedStart.ratchets (matched : MatchedStart cipherSuite sharedSecret keys coins start) :
    let root := cipherSuite.initialRoot sharedSecret
    let chain : ChainKey β := ⟨0, cipherSuite.initialChain sharedSecret⟩
    let bobKey := (cipherSuite.kem.encapsulate (coins .bob) (keys .alice).publicKey).2
    let outgoing := cipherSuite.kem.encapsulate (coins .alice) (keys .bob).publicKey
    start.ratchet .bob = {
        rootKey := root
        rootSequence := 0
        senderChain := some ⟨bobKey, (keys .alice).publicKey, some chain⟩
        receiverChain := some ⟨[], (keys .bob).privateKey, none⟩
        skippedMsgKeyList := none
        receivedMessageSequence := 0
        sendingMessageSequence := 0 } ∧
      start.ratchet .alice = {
        rootKey := cipherSuite.nextRoot root outgoing.1
        rootSequence := 1
        senderChain := some ⟨outgoing.2, (keys .bob).publicKey,
          some ⟨0, cipherSuite.nextChain root outgoing.1⟩⟩
        receiverChain := some ⟨bobKey, (keys .alice).privateKey, some chain⟩
        skippedMsgKeyList := none
        receivedMessageSequence := 0
        sendingMessageSequence := 0 } := by
  obtain ⟨-, -, -, bob⟩ := initialiseAsBob_some matched.bob
  obtain ⟨-, -, -, theirCiphertext, same, -, alice⟩ := initialiseAsAlice_some matched.alice
  rw [bob, Option.map_some, Option.some.injEq] at same
  subst same
  exact ⟨bob, alice⟩

end Start

namespace Symbolic

def partyKeys : Party → KeyPair FreeTerm
  | .alice => keyPair 1
  | .bob => keyPair 2

def partyCoins : Party → Bytes FreeTerm
  | .alice => [.byte 4]
  | .bob => [.byte 3]

def net : Net FreeTerm where
  ratchet
    | .alice => alice
    | .bob => bob
  sent _ := []
  received _ := []

theorem net_matched : MatchedStart symbolicSuite sharedSecret partyKeys partyCoins net where
  bob := bobStart_made
  alice := aliceStart_made
  matching party := by cases party <;> exact symbolicSuite_matching _
  unsent _ := rfl
  unread _ := rfl

/-- Bob reads two messages of Alice in the wrong order, answers, and reads on the next chain. -/
def exchange : List (NetEvent FreeTerm) :=
  [.encrypt .alice (some [.byte 20]), .encrypt .alice (some [.byte 21]),
    .decrypt .bob 1 [.byte 30], .encrypt .bob (some [.byte 22]), .decrypt .alice 0 [.byte 31],
    .encrypt .alice (some [.byte 23]), .decrypt .bob 2 [.byte 32], .decrypt .bob 0 [.byte 33]]

end Symbolic

end E2eeSecurity
