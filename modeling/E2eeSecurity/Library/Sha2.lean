/-
This file gives the hash function with 32-bit words of the Secure Hash Standard over any table of
round constants and any initial value, and the roots that such constants are taken from.
-/
import E2eeSecurity.Library.Blocks
import Mathlib.Data.List.GetD

namespace Sha2

section Constants

/-- These are the first 32 bits behind the point of a root. -/
def RootFraction (degree number : Nat) (bits : UInt32) : Prop :=
  ∃ whole < number, (whole * 2 ^ 32 + bits.toNat) ^ degree ≤ number * 2 ^ (32 * degree) ∧
    number * 2 ^ (32 * degree) < (whole * 2 ^ 32 + bits.toNat + 1) ^ degree

instance (degree number : Nat) (bits : UInt32) : Decidable (RootFraction degree number bits) :=
  inferInstanceAs (Decidable (∃ whole < number, _))

end Constants

section Functions

def rotr (x : UInt32) (count : UInt32) : UInt32 := x >>> count ||| x <<< (32 - count)

def ch (x y z : UInt32) : UInt32 := (x &&& y) ^^^ (~~~x &&& z)

def maj (x y z : UInt32) : UInt32 := (x &&& y) ^^^ (x &&& z) ^^^ (y &&& z)

def bigSigma0 (x : UInt32) : UInt32 := rotr x 2 ^^^ rotr x 13 ^^^ rotr x 22

def bigSigma1 (x : UInt32) : UInt32 := rotr x 6 ^^^ rotr x 11 ^^^ rotr x 25

def smallSigma0 (x : UInt32) : UInt32 := rotr x 7 ^^^ rotr x 18 ^^^ x >>> 3

def smallSigma1 (x : UInt32) : UInt32 := rotr x 17 ^^^ rotr x 19 ^^^ x >>> 10

end Functions

section Compression

/-- These are the working variables. -/
@[ext]
structure Words where
  a : UInt32
  b : UInt32
  c : UInt32
  d : UInt32
  e : UInt32
  f : UInt32
  g : UInt32
  h : UInt32
  deriving DecidableEq

def Words.add (first second : Words) : Words where
  a := first.a + second.a
  b := first.b + second.b
  c := first.c + second.c
  d := first.d + second.d
  e := first.e + second.e
  f := first.f + second.f
  g := first.g + second.g
  h := first.h + second.h

def Words.toList (words : Words) : List UInt32 :=
  [words.a, words.b, words.c, words.d, words.e, words.f, words.g, words.h]

/-- Four bytes are read with the highest one first. -/
def wordAt (block : List UInt8) (offset : Nat) : UInt32 :=
  (block.getD offset 0).toUInt32 <<< 24 ||| (block.getD (offset + 1) 0).toUInt32 <<< 16 |||
    (block.getD (offset + 2) 0).toUInt32 <<< 8 ||| (block.getD (offset + 3) 0).toUInt32

/-- Each later word of the schedule is computed from four earlier ones. -/
def nextWord (block : List UInt8) (words : List UInt32) : UInt32 :=
  let t := words.length
  if t < 16 then wordAt block (4 * t)
  else smallSigma1 (words.getD (t - 2) 0) + words.getD (t - 7) 0 +
    smallSigma0 (words.getD (t - 15) 0) + words.getD (t - 16) 0

def schedule (block : List UInt8) : Nat → List UInt32
  | 0 => []
  | count + 1 => schedule block count ++ [nextWord block (schedule block count)]

def round (words : Words) (k w : UInt32) : Words :=
  let t1 := words.h + bigSigma1 words.e + ch words.e words.f words.g + k + w
  let t2 := bigSigma0 words.a + maj words.a words.b words.c
  { a := t1 + t2, b := words.a, c := words.b, d := words.c,
    e := words.d + t1, f := words.e, g := words.f, h := words.g }

/-- The rounds are counted from zero. -/
def rounds (k : Nat → UInt32) (block : List UInt8) (words : Words) : Nat → Words
  | 0 => words
  | count + 1 =>
      round (rounds k block words count) (k count)
        (nextWord block (schedule block count))

def compress (k : Nat → UInt32) (words : Words) (block : List UInt8) : Words :=
  words.add (rounds k block words 64)

theorem length_schedule (block : List UInt8) (count : Nat) :
    (schedule block count).length = count := by
  induction count with
  | zero => rfl
  | succ count ih => rw [schedule, List.length_append, ih, List.length_singleton]

/-- A word stays as it was written. -/
theorem schedule_getD (block : List UInt8) {index count : Nat} (inside : index < count) :
    (schedule block count).getD index 0 = nextWord block (schedule block index) := by
  induction count with
  | zero => omega
  | succ count ih =>
      rw [schedule]
      by_cases last : index = count
      · subst last
        rw [List.getD_append_right _ _ _ _ (length_schedule block index).le, length_schedule,
          Nat.sub_self]
        rfl
      · have earlier : index < (schedule block count).length := by
          rw [length_schedule]
          omega
        rw [List.getD_append _ _ _ _ earlier]
        exact ih (by omega)

end Compression

section Hash

/-- The number is written with the highest byte first. -/
def lengthBytes (bits : UInt64) : List UInt8 :=
  (List.range 8).map fun index => (bits >>> (56 - 8 * UInt64.ofNat index)).toUInt8

def wordBytes (word : UInt32) : List UInt8 :=
  [(word >>> 24).toUInt8, (word >>> 16).toUInt8, (word >>> 8).toUInt8, word.toUInt8]

/-- One bit is set behind the data, and the last block ends with the length. -/
def padding (length : Nat) (bits : UInt64) : List UInt8 :=
  0x80 :: (List.replicate ((119 - length % 64) % 64) 0 ++ lengthBytes bits)

/-- The length that is written need not be the length of the data. -/
def digestWith (k : Nat → UInt32) (iv : Words) (bits : UInt64) (data : List UInt8) : Words :=
  Blocks.absorbAll 64 (compress k) iv (data ++ padding data.length bits)

def hash (k : Nat → UInt32) (iv : Words) (data : List UInt8) : List UInt8 :=
  (digestWith k iv (8 * UInt64.ofNat data.length) data).toList.flatMap wordBytes

end Hash

end Sha2
