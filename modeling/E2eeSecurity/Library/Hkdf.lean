/-
This file gives the message authentication code of RFC 2104 and the key derivation of RFC 5869 over
any hash function, and shows how long the derived keys are.
-/
import Mathlib.Data.List.Basic

namespace Hkdf

section Authentication

variable (hash : List UInt8 → List UInt8) (blockSize : Nat)

/-- A long key is hashed, and a short one is filled up with zeros. -/
def paddedKey (key : List UInt8) : List UInt8 :=
  let short := if blockSize < key.length then hash key else key
  short ++ List.replicate (blockSize - short.length) 0

def mask (value : UInt8) (key : List UInt8) : List UInt8 :=
  (paddedKey hash blockSize key).map (· ^^^ value)

def hmac (key message : List UInt8) : List UInt8 :=
  hash (mask hash blockSize 0x5C key ++ hash (mask hash blockSize 0x36 key ++ message))

end Authentication

section Derivation

variable (mac : List UInt8 → List UInt8 → List UInt8) (prk info : List UInt8)

/-- Each block is computed from the one before it. -/
def chainBlock : Nat → List UInt8
  | 0 => []
  | count + 1 => mac prk (chainBlock count ++ info ++ [UInt8.ofNat (count + 1)])

/-- These are the first blocks behind each other. -/
def chain : Nat → List UInt8
  | 0 => []
  | count + 1 => chain count ++ chainBlock mac prk info (count + 1)

/-- The number of blocks is the length over the length of one block, rounded up. -/
def expand (macLength length : Nat) : List UInt8 :=
  (chain mac prk info ((length + macLength - 1) / macLength)).take length

variable {macLength : Nat} (sized : ∀ key message, (mac key message).length = macLength)
include sized

theorem length_chain (count : Nat) : (chain mac prk info count).length = count * macLength := by
  induction count with
  | zero => rw [chain, Nat.zero_mul, List.length_nil]
  | succ count ih => rw [chain, List.length_append, ih, chainBlock, sized, Nat.succ_mul]

/-- The blocks are enough for the length. -/
theorem length_expand (positive : 0 < macLength) (length : Nat) :
    (expand mac prk info macLength length).length = length := by
  rw [expand, List.length_take, length_chain mac prk info sized]
  have split := Nat.div_add_mod (length + macLength - 1) macLength
  have small := Nat.mod_lt (length + macLength - 1) positive
  rw [Nat.mul_comm] at split
  omega

end Derivation

end Hkdf
