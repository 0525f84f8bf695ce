/-
This file gives the block function of SHA-256 with its unrolled and with its short loop, and shows
that both compute the compression of the standard.
-/
import E2eeSecurity.Cipher
import E2eeSecurity.Library.Sha2
import Mathlib.Algebra.Group.Fin.Basic
import Mathlib.Tactic.IntervalCases

namespace E2eeSecurity

namespace Sha256

section Macros

def getUint32Be (b : Bytes UInt8) (i : Nat) : UInt32 :=
  (b.getD i 0).toUInt32 <<< 24 ||| (b.getD (i + 1) 0).toUInt32 <<< 16 |||
    (b.getD (i + 2) 0).toUInt32 <<< 8 ||| (b.getD (i + 3) 0).toUInt32

def putUint32Be (n : UInt32) : Bytes UInt8 :=
  [(n >>> 24).toUInt8, (n >>> 16).toUInt8, (n >>> 8).toUInt8, n.toUInt8]

def shr (x n : UInt32) : UInt32 := (x &&& 0xFFFFFFFF) >>> n

def rotr (x n : UInt32) : UInt32 := shr x n ||| x <<< (32 - n)

def s0 (x : UInt32) : UInt32 := rotr x 7 ^^^ rotr x 18 ^^^ shr x 3

def s1 (x : UInt32) : UInt32 := rotr x 17 ^^^ rotr x 19 ^^^ shr x 10

def s2 (x : UInt32) : UInt32 := rotr x 2 ^^^ rotr x 13 ^^^ rotr x 22

def s3 (x : UInt32) : UInt32 := rotr x 6 ^^^ rotr x 11 ^^^ rotr x 25

def f0 (x y z : UInt32) : UInt32 := (x &&& y) ||| (z &&& (x ||| y))

def f1 (x y z : UInt32) : UInt32 := z ^^^ (x &&& (y ^^^ z))

def sha256K : List UInt32 :=
  [0x428A2F98, 0x71374491, 0xB5C0FBCF, 0xE9B5DBA5,
    0x3956C25B, 0x59F111F1, 0x923F82A4, 0xAB1C5ED5,
    0xD807AA98, 0x12835B01, 0x243185BE, 0x550C7DC3,
    0x72BE5D74, 0x80DEB1FE, 0x9BDC06A7, 0xC19BF174,
    0xE49B69C1, 0xEFBE4786, 0x0FC19DC6, 0x240CA1CC,
    0x2DE92C6F, 0x4A7484AA, 0x5CB0A9DC, 0x76F988DA,
    0x983E5152, 0xA831C66D, 0xB00327C8, 0xBF597FC7,
    0xC6E00BF3, 0xD5A79147, 0x06CA6351, 0x14292967,
    0x27B70A85, 0x2E1B2138, 0x4D2C6DFC, 0x53380D13,
    0x650A7354, 0x766A0ABB, 0x81C2C92E, 0x92722C85,
    0xA2BFE8A1, 0xA81A664B, 0xC24B8B70, 0xC76C51A3,
    0xD192E819, 0xD6990624, 0xF40E3585, 0x106AA070,
    0x19A4C116, 0x1E376C08, 0x2748774C, 0x34B0BCB5,
    0x391C0CB3, 0x4ED8AA4A, 0x5B9CCA4F, 0x682E6FF3,
    0x748F82EE, 0x78A5636F, 0x84C87814, 0x8CC70208,
    0x90BEFFFA, 0xA4506CEB, 0xBEF9A3F7, 0xC67178F2]

def roundConstant (t : Nat) : UInt32 := sha256K.getD t 0

theorem shr_eq (x n : UInt32) : shr x n = x >>> n := by
  have mask : x &&& 0xFFFFFFFF = x := UInt32.and_neg_one
  rw [shr, mask]

theorem rotr_eq (x n : UInt32) : rotr x n = Sha2.rotr x n := by
  rw [rotr, shr_eq]
  rfl

theorem s0_eq (x : UInt32) : s0 x = Sha2.smallSigma0 x := by
  simp only [s0, Sha2.smallSigma0, rotr_eq, shr_eq]

theorem s1_eq (x : UInt32) : s1 x = Sha2.smallSigma1 x := by
  simp only [s1, Sha2.smallSigma1, rotr_eq, shr_eq]

theorem s2_eq (x : UInt32) : s2 x = Sha2.bigSigma0 x := by
  simp only [s2, Sha2.bigSigma0, rotr_eq]

theorem s3_eq (x : UInt32) : s3 x = Sha2.bigSigma1 x := by
  simp only [s3, Sha2.bigSigma1, rotr_eq]

theorem f0_eq (x y z : UInt32) : f0 x y z = Sha2.maj x y z := by
  apply UInt32.toBitVec_inj.mp
  ext index
  simp only [f0, Sha2.maj, UInt32.toBitVec_or, UInt32.toBitVec_and, UInt32.toBitVec_xor,
    BitVec.getElem_or, BitVec.getElem_and, BitVec.getElem_xor]
  cases x.toBitVec[index] <;> cases y.toBitVec[index] <;> cases z.toBitVec[index] <;> rfl

theorem f1_eq (x y z : UInt32) : f1 x y z = Sha2.ch x y z := by
  apply UInt32.toBitVec_inj.mp
  ext index
  simp only [f1, Sha2.ch, UInt32.toBitVec_and, UInt32.toBitVec_xor, UInt32.toBitVec_not,
    BitVec.getElem_and, BitVec.getElem_xor, BitVec.getElem_not]
  cases x.toBitVec[index] <;> cases y.toBitVec[index] <;> cases z.toBitVec[index] <;> rfl

def firstPrimes : List Nat :=
  [2, 3, 5, 7, 11, 13, 17, 19, 23, 29, 31, 37, 41, 43, 47, 53, 59, 61, 67, 71, 73, 79, 83, 89, 97,
    101, 103, 107, 109, 113, 127, 131, 137, 139, 149, 151, 157, 163, 167, 173, 179, 181, 191, 193,
    197, 199, 211, 223, 227, 229, 233, 239, 241, 251, 257, 263, 269, 271, 277, 281, 283, 293, 307,
    311]

/-- The constants are taken from the cube roots of the first 64 prime numbers. -/
theorem sha256K_roots : List.Forall₂ (Sha2.RootFraction 3) firstPrimes sha256K := by
  decide +kernel

end Macros

section Rounds

/-- The words are written in their order, so the list holds those that are there. -/
structure Sha256Local where
  W : List UInt32
  A : Vector UInt32 8

/-- The macro `R` writes the word at `t`. -/
def r (W : List UInt32) (t : Nat) : List UInt32 :=
  W ++ [s1 (W.getD (t - 2) 0) + W.getD (t - 7) 0 + s0 (W.getD (t - 15) 0) + W.getD (t - 16) 0]

/-- The macro `P` changes two of the variables. -/
def p (A : Vector UInt32 8) (a b c d e f g h : Fin 8) (x k : UInt32) : Vector UInt32 8 :=
  let temp1 := A[h] + s3 A[e] + f1 A[e] A[f] A[g] + k + x
  let temp2 := s2 A[a] + f0 A[a] A[b] A[c]
  let A := A.set d (A[d] + temp1)
  A.set h (temp1 + temp2)

/-- The word of a round is there already or is written first. -/
def turn (word : List UInt32 → Nat → List UInt32) (current : Sha256Local)
    (a b c d e f g h : Fin 8) (t : Nat) : Sha256Local :=
  let W := word current.W t
  ⟨W, p current.A a b c d e f g h (W.getD t 0) (roundConstant t)⟩

/-- The variables change their roles instead of their places. -/
def eightTurns (word : List UInt32 → Nat → List UInt32) (current : Sha256Local) (i : Nat) :
    Sha256Local :=
  let current := turn word current 0 1 2 3 4 5 6 7 i
  let current := turn word current 7 0 1 2 3 4 5 6 (i + 1)
  let current := turn word current 6 7 0 1 2 3 4 5 (i + 2)
  let current := turn word current 5 6 7 0 1 2 3 4 (i + 3)
  let current := turn word current 4 5 6 7 0 1 2 3 (i + 4)
  let current := turn word current 3 4 5 6 7 0 1 2 (i + 5)
  let current := turn word current 2 3 4 5 6 7 0 1 (i + 6)
  turn word current 1 2 3 4 5 6 7 0 (i + 7)

def firstWords (data : Bytes UInt8) : List UInt32 :=
  (List.range 16).foldl (fun W i => W ++ [getUint32Be data (4 * i)]) []

def addState (state A : Vector UInt32 8) : Vector UInt32 8 :=
  Vector.ofFn fun i => state[i] + A[i]

def mbedtlsInternalSha256Process (state : Vector UInt32 8) (data : Bytes UInt8) :
    Vector UInt32 8 :=
  let current := (List.range' 0 2 8).foldl (eightTurns fun W _ => W) ⟨firstWords data, state⟩
  let current := (List.range' 16 6 8).foldl (eightTurns r) current
  addState state current.A

/-- Here the variables move on after each round. -/
def shiftVariables (A : Vector UInt32 8) : Vector UInt32 8 :=
  let temp1 := A[7]
  let A := A.set 7 A[6]
  let A := A.set 6 A[5]
  let A := A.set 5 A[4]
  let A := A.set 4 A[3]
  let A := A.set 3 A[2]
  let A := A.set 2 A[1]
  let A := A.set 1 A[0]
  A.set 0 temp1

def smallTurn (data : Bytes UInt8) (current : Sha256Local) (i : Nat) : Sha256Local :=
  let W := if i < 16 then current.W ++ [getUint32Be data (4 * i)] else r current.W i
  ⟨W, shiftVariables (p current.A 0 1 2 3 4 5 6 7 (W.getD i 0) (roundConstant i))⟩

/-- The option `MBEDTLS_SHA256_SMALLER` selects this loop. -/
def mbedtlsInternalSha256ProcessSmaller (state : Vector UInt32 8) (data : Bytes UInt8) :
    Vector UInt32 8 :=
  addState state ((List.range 64).foldl (smallTurn data) ⟨[], state⟩).A

end Rounds

section Agreement

/-- The variables are read from a place on, around the end. -/
def view (place : Fin 8) (A : Vector UInt32 8) : Sha2.Words where
  a := A[place]
  b := A[place + 1]
  c := A[place + 2]
  d := A[place + 3]
  e := A[place + 4]
  f := A[place + 5]
  g := A[place + 6]
  h := A[place + 7]

theorem get_set (A : Vector UInt32 8) (i j : Fin 8) (value : UInt32) :
    (A.set i value)[j] = if i = j then value else A[j] := by
  rw [Fin.getElem_fin, Vector.getElem_set]
  simp only [Fin.val_inj]
  rfl

theorem get_p (A : Vector UInt32 8) (a b c d e f g h j : Fin 8) (x k : UInt32) :
    (p A a b c d e f g h x k)[j] =
      if h = j then A[h] + s3 A[e] + f1 A[e] A[f] A[g] + k + x + (s2 A[a] + f0 A[a] A[b] A[c])
      else if d = j then A[d] + (A[h] + s3 A[e] + f1 A[e] A[f] A[g] + k + x) else A[j] := by
  rw [p, get_set, get_set]

/-- A turn is one round, and the variables are then read one place earlier. -/
theorem view_p (place : Fin 8) (A : Vector UInt32 8) (x k : UInt32) :
    view (place + 7) (p A place (place + 1) (place + 2) (place + 3) (place + 4) (place + 5)
        (place + 6) (place + 7) x k) =
      Sha2.round (view place A) k x := by
  apply Sha2.Words.ext <;>
  simp [-Fin.getElem_fin, view, get_p, Sha2.round, s2_eq, s3_eq, f0_eq, f1_eq, add_assoc]

theorem view_shiftVariables (A : Vector UInt32 8) : view 0 (shiftVariables A) = view 7 A := by
  apply Sha2.Words.ext <;>
  simp [view, shiftVariables]

theorem view_addState (state A : Vector UInt32 8) :
    view 0 (addState state A) = (view 0 state).add (view 0 A) := by
  apply Sha2.Words.ext <;>
  simp [view, addState, Sha2.Words.add]

/-- The first variables of two arrays in the same places are the same arrays. -/
theorem view_injective {first second : Vector UInt32 8} (same : view 0 first = view 0 second) :
    first = second := by
  simp only [view, Sha2.Words.mk.injEq] at same
  apply Vector.ext
  intro index inside
  obtain ⟨a, b, c, d, e, f, g, h⟩ := same
  interval_cases index <;> assumption

end Agreement

section Loops

variable (data : Bytes UInt8) (start : Sha2.Words)

/-- So far the words are those of the schedule, and the variables are those of the rounds. -/
structure Turned (held : Nat → List UInt32) (t : Nat) (place : Fin 8) (current : Sha256Local) :
    Prop where
  words : current.W = held t
  roles : view place current.A = Sha2.rounds roundConstant data start t

/-- The word of a turn is at hand after it is written. -/
structure Writes (word : List UInt32 → Nat → List UInt32) (held : Nat → List UInt32) (t : Nat) :
    Prop where
  next : word (held t) t = held (t + 1)
  present : (held (t + 1)).getD t 0 = Sha2.nextWord data (Sha2.schedule data t)

variable {data start} {word : List UInt32 → Nat → List UInt32} {held : Nat → List UInt32}
  {current : Sha256Local}

theorem Turned.turn {t : Nat} {place : Fin 8} (turned : Turned data start held t place current)
    (writes : Writes data word held t) :
    Turned data start held (t + 1) (place + 7) (turn word current place (place + 1) (place + 2)
      (place + 3) (place + 4) (place + 5) (place + 6) (place + 7) t) where
  words := by rw [Sha256.turn, turned.words, writes.next]
  roles := by
    rw [Sha256.turn, view_p, turned.words, writes.next, writes.present, turned.roles]
    rfl

/-- After eight turns the variables are back in their places. -/
theorem Turned.eightTurns {i : Nat} (turned : Turned data start held i 0 current)
    (writes : ∀ t, i ≤ t → t < i + 8 → Writes data word held t) :
    Turned data start held (i + 8) 0 (eightTurns word current i) := by
  have first := turned.turn (writes i (by omega) (by omega))
  have second := first.turn (writes (i + 1) (by omega) (by omega))
  have third := second.turn (writes (i + 2) (by omega) (by omega))
  have fourth := third.turn (writes (i + 3) (by omega) (by omega))
  have fifth := fourth.turn (writes (i + 4) (by omega) (by omega))
  have sixth := fifth.turn (writes (i + 5) (by omega) (by omega))
  have seventh := sixth.turn (writes (i + 6) (by omega) (by omega))
  exact seventh.turn (writes (i + 7) (by omega) (by omega))

theorem Turned.loop (count : Nat) {i : Nat} (turned : Turned data start held i 0 current)
    (writes : ∀ t, i ≤ t → t < i + 8 * count → Writes data word held t) :
    Turned data start held (i + 8 * count) 0
      ((List.range' i count 8).foldl (Sha256.eightTurns word) current) := by
  induction count generalizing i current with
  | zero => exact turned
  | succ count ih =>
      have once := turned.eightTurns fun t lower upper => writes t lower (by omega)
      have others := ih once fun t lower upper => writes t (by omega) (by omega)
      rw [List.range'_succ, List.foldl_cons]
      have total : i + 8 + 8 * count = i + 8 * (count + 1) := by omega
      exact total ▸ others

variable (data)

theorem firstWords_eq : firstWords data = Sha2.schedule data 16 := by
  have upTo (count : Nat) (inside : count ≤ 16) :
      (List.range count).foldl (fun W i => W ++ [getUint32Be data (4 * i)]) [] =
        Sha2.schedule data count := by
    induction count with
    | zero => rfl
    | succ count ih =>
        rw [List.range_succ, List.foldl_append, ih (by omega), Sha2.schedule, Sha2.nextWord,
          Sha2.length_schedule, if_pos (by omega)]
        rfl
  exact upTo 16 le_rfl

theorem r_schedule {t : Nat} (later : 16 ≤ t) :
    r (Sha2.schedule data t) t = Sha2.schedule data (t + 1) := by
  rw [r, Sha2.schedule, Sha2.nextWord, Sha2.length_schedule, if_neg (by omega), s0_eq, s1_eq]

theorem writes_first {t : Nat} (inside : t < 16) :
    Writes data (fun W _ => W) (fun _ => Sha2.schedule data 16) t where
  next := rfl
  present := Sha2.schedule_getD data inside

theorem writes_later {t : Nat} (later : 16 ≤ t) : Writes data r (Sha2.schedule data) t where
  next := r_schedule data later
  present := Sha2.schedule_getD data (Nat.lt_succ_self t)

/-- The unrolled loops compute the compression of the standard. -/
theorem process_eq (state : Vector UInt32 8) :
    view 0 (mbedtlsInternalSha256Process state data) =
      Sha2.compress roundConstant (view 0 state) data := by
  have ready : Turned data (view 0 state) (fun _ => Sha2.schedule data 16) 0 0
      ⟨firstWords data, state⟩ := ⟨firstWords_eq data, rfl⟩
  have first := ready.loop 2 fun t _ upper => writes_first data upper
  have between : Turned data (view 0 state) (Sha2.schedule data) 16 0 _ :=
    ⟨first.words, first.roles⟩
  have last := between.loop 6 fun t lower _ => writes_later data lower
  rw [mbedtlsInternalSha256Process, view_addState, last.roles]
  rfl

/-- The short loop computes the rounds one by one. -/
theorem smallTurns (state : Vector UInt32 8) (count : Nat) :
    Turned data (view 0 state) (Sha2.schedule data) count 0
      ((List.range count).foldl (smallTurn data) ⟨[], state⟩) := by
  induction count with
  | zero => exact ⟨rfl, rfl⟩
  | succ count ih =>
      have written : (if count < 16 then
          Sha2.schedule data count ++ [getUint32Be data (4 * count)]
          else r (Sha2.schedule data count) count) = Sha2.schedule data (count + 1) := by
        split
        next early =>
          rw [Sha2.schedule, Sha2.nextWord, Sha2.length_schedule, if_pos early]
          rfl
        next later => exact r_schedule data (by omega)
      rw [List.range_succ, List.foldl_append, List.foldl_cons, List.foldl_nil, smallTurn, ih.words,
        written]
      constructor
      · rfl
      · rw [view_shiftVariables, Sha2.schedule_getD data (Nat.lt_succ_self count)]
        exact (view_p 0 _ _ _).trans (congrArg (Sha2.round · _ _) ih.roles)

theorem processSmaller_eq (state : Vector UInt32 8) :
    view 0 (mbedtlsInternalSha256ProcessSmaller state data) =
      Sha2.compress roundConstant (view 0 state) data := by
  rw [mbedtlsInternalSha256ProcessSmaller, view_addState, (smallTurns data state 64).roles]
  rfl

/-- The option that selects the short loop changes no state. -/
theorem process_smaller (state : Vector UInt32 8) :
    mbedtlsInternalSha256Process state data = mbedtlsInternalSha256ProcessSmaller state data :=
  view_injective ((process_eq data state).trans (processSmaller_eq data state).symm)

end Loops

end Sha256

end E2eeSecurity
