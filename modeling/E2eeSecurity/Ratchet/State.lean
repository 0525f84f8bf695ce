/-
This file gives the stored form of one ratchet and the checks of `validation.c` on it.
-/
import E2eeSecurity.Cipher

namespace E2eeSecurity

/-- A chain key counts its position in 32 bits. -/
structure ChainKey (β : Type) where
  index : UInt32
  sharedKey : Bytes β
  deriving DecidableEq

structure MsgKey (β : Type) where
  index : UInt32
  derivedKey : Bytes β
  deriving DecidableEq

structure SenderChainNode (β : Type) where
  ourRatchetPublicKey : Bytes β
  theirRatchetPublicKey : Bytes β
  chainKey : Option (ChainKey β)
  deriving DecidableEq

structure ReceiverChainNode (β : Type) where
  theirRatchetPublicKey : Bytes β
  ourRatchetPrivateKey : Bytes β
  chainKey : Option (ChainKey β)
  deriving DecidableEq

structure SkippedMsgKeyNode (β : Type) where
  ratchetKeyPublic : Bytes β
  msgKey : MsgKey β
  deriving DecidableEq

/-- An absent record is a null pointer.
The list pointer is null or points to exactly `n_skipped_msg_key_list` entries, so a list that is
present and empty differs from a null list. -/
structure Ratchet (β : Type) where
  rootKey : Bytes β
  rootSequence : UInt32
  senderChain : Option (SenderChainNode β)
  receiverChain : Option (ReceiverChainNode β)
  skippedMsgKeyList : Option (List (SkippedMsgKeyNode β))
  receivedMessageSequence : UInt32
  sendingMessageSequence : UInt32
  deriving DecidableEq

structure One2oneMsgPayload (β : Type) where
  sequence : UInt32
  ratchetKey : Bytes β
  rootSequence : UInt32
  sendingMessageSequence : UInt32
  ciphertext : Bytes β
  deriving DecidableEq

structure KeyPair (β : Type) where
  publicKey : Bytes β
  privateKey : Bytes β
  deriving DecidableEq

variable {β : Type}

/-- An empty byte string is the record with length zero and a null pointer. -/
def isValidProtobuf (data : Bytes β) : Bool := !data.isEmpty

def isValidKeyPair (pair : KeyPair β) : Bool :=
  isValidProtobuf pair.privateKey && isValidProtobuf pair.publicKey

def isValidMsgKey (msgKey : MsgKey β) : Bool := isValidProtobuf msgKey.derivedKey

def isValidChainKey : Option (ChainKey β) → Bool
  | some chainKey => isValidProtobuf chainKey.sharedKey
  | none => false

def isValidSenderChain : Option (SenderChainNode β) → Bool
  | some senderChain =>
      isValidProtobuf senderChain.ourRatchetPublicKey &&
        isValidProtobuf senderChain.theirRatchetPublicKey && isValidChainKey senderChain.chainKey
  | none => false

def isValidReceiverChain : Option (ReceiverChainNode β) → Bool
  | some receiverChain =>
      isValidProtobuf receiverChain.ourRatchetPrivateKey &&
        isValidProtobuf receiverChain.theirRatchetPublicKey &&
          isValidChainKey receiverChain.chainKey
  | none => false

def isValidSkippedMsgKeyNode (node : SkippedMsgKeyNode β) : Bool :=
  isValidProtobuf node.ratchetKeyPublic && isValidMsgKey node.msgKey

/-- A list that is present and empty is refused. -/
def isValidSkippedMsgKeyList : Option (List (SkippedMsgKeyNode β)) → Bool
  | some list => !list.isEmpty && list.all isValidSkippedMsgKeyNode
  | none => true

/-- Before the first received chain only the private key of the receiver chain is checked. -/
def isValidRatchet (ratchet : Ratchet β) : Bool :=
  isValidProtobuf ratchet.rootKey && isValidSenderChain ratchet.senderChain &&
    (if ratchet.rootSequence > 0 then isValidReceiverChain ratchet.receiverChain
      else match ratchet.receiverChain with
        | some receiverChain => isValidProtobuf receiverChain.ourRatchetPrivateKey
        | none => false) &&
    isValidSkippedMsgKeyList ratchet.skippedMsgKeyList

def isValidOne2oneMsgPayload (payload : One2oneMsgPayload β) : Bool :=
  isValidProtobuf payload.ratchetKey && isValidProtobuf payload.ciphertext

/-- This function lists the stored keys; a null list has none. -/
def Ratchet.skipped (ratchet : Ratchet β) : List (SkippedMsgKeyNode β) :=
  ratchet.skippedMsgKeyList.getD []

@[simp] theorem isValidProtobuf_iff (data : Bytes β) : isValidProtobuf data = true ↔ data ≠ [] := by
  simp [isValidProtobuf]

/-- Bytes of positive length pass the check. -/
theorem isValidProtobuf_of_length {data : Bytes β} {count : Nat}
    (length : data.length = count) (positive : 0 < count) : isValidProtobuf data = true := by
  rw [isValidProtobuf_iff]
  intro empty
  simp only [empty, List.length_nil] at length
  omega

/-- A valid suite never writes an empty ciphertext. -/
theorem encapsulate_nonempty {cipherSuite : CipherSuite β}
    (suite : isValidCipherSuite cipherSuite = true) (coins theirKey : Bytes β) :
    (cipherSuite.kem.encapsulate coins theirKey).2 ≠ [] := by
  rw [← isValidProtobuf_iff]
  exact isValidProtobuf_of_length (encapsulate_length suite coins theirKey).2
    (kemCiphertextLen_pos suite)

@[simp] theorem isValidChainKey_iff (chainKey : Option (ChainKey β)) :
    isValidChainKey chainKey = true ↔ ∃ key, chainKey = some key ∧ key.sharedKey ≠ [] := by
  cases chainKey <;> simp [isValidChainKey]

@[simp] theorem isValidSenderChain_iff (senderChain : Option (SenderChainNode β)) :
    isValidSenderChain senderChain = true ↔
      ∃ chain, senderChain = some chain ∧ chain.ourRatchetPublicKey ≠ [] ∧
        chain.theirRatchetPublicKey ≠ [] ∧ isValidChainKey chain.chainKey = true := by
  cases senderChain <;> simp [isValidSenderChain, and_assoc]

theorem isValidSenderChain_some {chain : SenderChainNode β}
    (valid : isValidSenderChain (some chain) = true) :
    chain.ourRatchetPublicKey ≠ [] ∧ chain.theirRatchetPublicKey ≠ [] := by
  obtain ⟨other, same, ours, theirs, -⟩ := (isValidSenderChain_iff _).mp valid
  rw [Option.some.injEq] at same
  subst same
  exact ⟨ours, theirs⟩

@[simp] theorem isValidReceiverChain_iff (receiverChain : Option (ReceiverChainNode β)) :
    isValidReceiverChain receiverChain = true ↔
      ∃ chain, receiverChain = some chain ∧ chain.ourRatchetPrivateKey ≠ [] ∧
        chain.theirRatchetPublicKey ≠ [] ∧ isValidChainKey chain.chainKey = true := by
  cases receiverChain <;> simp [isValidReceiverChain, and_assoc]

/-- This function stores a list behind a pointer that is null when the list is empty. -/
def skippedPointer (list : List (SkippedMsgKeyNode β)) : Option (List (SkippedMsgKeyNode β)) :=
  if list.isEmpty then none else some list

@[simp] theorem skippedPointer_getD (list : List (SkippedMsgKeyNode β)) :
    (skippedPointer list).getD [] = list := by
  cases list <;> simp [skippedPointer]

end E2eeSecurity
