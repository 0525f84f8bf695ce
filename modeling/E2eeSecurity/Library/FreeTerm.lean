/-
This file gives free terms for symbolic cryptography.
A byte string is a list of terms, and a whole string packs into one term.
-/
import Mathlib.Logic.Function.Basic

/-- A term is a literal byte or one output byte of a free constructor. -/
inductive FreeTerm
  | byte (value : UInt8)
  | nil
  | cons (head tail : FreeTerm)
  | hkdf (input salt info : FreeTerm) (outputLen position : Nat)
  | hmac (key message : FreeTerm) (position : Nat)
  | publicKey (seed : FreeTerm) (position : Nat)
  | privateKey (seed : FreeTerm) (position : Nat)
  | kemSecret (publicKey coins : FreeTerm) (position : Nat)
  | kemCiphertext (publicKey coins : FreeTerm) (position : Nat)
  | kemGarbage (privateKey ciphertext : FreeTerm) (position : Nat)
  | sealed (ad key plaintext : FreeTerm)
  | signature (privateKey message : FreeTerm)
  deriving DecidableEq

namespace FreeTerm

/-- This function packs a string into one term. -/
def pack : List FreeTerm → FreeTerm
  | [] => .nil
  | head :: tail => .cons head (pack tail)

/-- This function reads a packed string back. -/
def unpack : FreeTerm → List FreeTerm
  | .cons head tail => head :: unpack tail
  | _ => []

@[simp] theorem unpack_pack (terms : List FreeTerm) : unpack (pack terms) = terms := by
  induction terms with
  | nil => rfl
  | cons head tail ih => simp [pack, unpack, ih]

theorem pack_injective : Function.Injective pack :=
  Function.LeftInverse.injective unpack_pack

@[simp] theorem pack_inj {first second : List FreeTerm} :
    pack first = pack second ↔ first = second :=
  pack_injective.eq_iff

end FreeTerm
