/-
This file gives the encoder and the decoder of the RFC 1521 text format with their size checks and
shows that a decoder with enough room takes an encoding back.
-/
import Mathlib.Algebra.Group.Nat.Defs
import Mathlib.Data.List.Basic

namespace Base64

def encMap : List UInt8 :=
  "ABCDEFGHIJKLMNOPQRSTUVWXYZabcdefghijklmnopqrstuvwxyz0123456789+/".toList.map
    fun character => character.toNat.toUInt8

def decMap : List UInt8 :=
  List.replicate 43 127 ++ [62, 127, 127, 127, 63, 52, 53, 54, 55, 56, 57, 58, 59, 60, 61,
    127, 127, 127, 64, 127, 127, 127, 0, 1, 2, 3, 4, 5, 6, 7, 8, 9, 10, 11, 12, 13, 14, 15, 16,
    17, 18, 19, 20, 21, 22, 23, 24, 25, 127, 127, 127, 127, 127, 127, 26, 27, 28, 29, 30, 31, 32,
    33, 34, 35, 36, 37, 38, 39, 40, 41, 42, 43, 44, 45, 46, 47, 48, 49, 50, 51, 127, 127, 127,
    127, 127]

/-- The lookup walks the whole table, and an index outside finds zero. -/
def tableLookup (table : List UInt8) (index : Nat) : UInt8 := table.getD index 0

def equalSign : UInt8 := 61

def sizeMax : Nat := 2 ^ 64 - 1

/-- Each turn takes three bytes, and the last one pads what is left. -/
def encodeTriples : List UInt8 → List UInt8
  | [] => []
  | [c1] =>
      [tableLookup encMap ((c1.toNat >>> 2) &&& 0x3F),
        tableLookup encMap (((c1.toNat &&& 3) <<< 4 + 0 >>> 4) &&& 0x3F), equalSign, equalSign]
  | [c1, c2] =>
      [tableLookup encMap ((c1.toNat >>> 2) &&& 0x3F),
        tableLookup encMap (((c1.toNat &&& 3) <<< 4 + c2.toNat >>> 4) &&& 0x3F),
        tableLookup encMap ((c2.toNat &&& 15) <<< 2 &&& 0x3F), equalSign]
  | c1 :: c2 :: c3 :: rest =>
      tableLookup encMap ((c1.toNat >>> 2) &&& 0x3F) ::
        tableLookup encMap (((c1.toNat &&& 3) <<< 4 + c2.toNat >>> 4) &&& 0x3F) ::
        tableLookup encMap (((c2.toNat &&& 15) <<< 2 + c3.toNat >>> 6) &&& 0x3F) ::
        tableLookup encMap (c3.toNat &&& 0x3F) :: encodeTriples rest

/-- The result is what the call writes, and nothing is written for an empty source. -/
def encode (dlen : Nat) (src : List UInt8) : Option (List UInt8) :=
  let n := src.length / 3 + if src.length % 3 ≠ 0 then 1 else 0
  if src.length = 0 then some []
  else if (sizeMax - 1) / 4 < n ∨ dlen < n * 4 + 1 then none
  else some (encodeTriples src ++ [0])

/-- The first pass counts the digits and the padding. Spaces are counted until the line ends. -/
def checkPass : List UInt8 → UInt32 → Nat → UInt32 → Option (Nat × UInt32)
  | [], _, n, j => some (n, j)
  | char :: rest, x, n, j =>
      if char = 32 then checkPass rest (x + 1) n j
      else if char = 13 ∧ rest.head? = some 10 then checkPass rest 0 n j
      else if char = 10 then checkPass rest 0 n j
      else if x ≠ 0 then none
      else
        let j' := if char = equalSign then j + 1 else j
        let decMapLookup := tableLookup decMap char.toNat
        if char = equalSign ∧ 2 < j' then none
        else if 127 < char ∨ decMapLookup = 127 then none
        else if decMapLookup < 64 ∧ j' ≠ 0 then none
        else checkPass rest 0 (n + 1) j'

/-- This is the length of the output. -/
def decodedLength (n : Nat) (j : UInt32) : Nat :=
  6 * (n >>> 3) + (6 * (n &&& 0x7) + 7) >>> 3 - j.toNat

/-- A word of four digits has up to three bytes. -/
def wordBytes (j x : UInt32) : List UInt8 :=
  (if 0 < j then [(x >>> 16).toUInt8] else []) ++ (if 1 < j then [(x >>> 8).toUInt8] else []) ++
    (if 2 < j then [x.toUInt8] else [])

/-- The second pass writes the bytes of a word after every four digits. -/
def decodePass : List UInt8 → UInt32 → Nat → UInt32 → List UInt8
  | [], _, _, _ => []
  | char :: rest, j, n, x =>
      if char = 13 ∨ char = 10 ∨ char = 32 then decodePass rest j n x
      else
        let decMapLookup := tableLookup decMap char.toNat
        let j' := if decMapLookup = 64 then j - 1 else j
        let x' := x <<< 6 ||| (decMapLookup &&& 0x3F).toUInt32
        if n + 1 = 4 then wordBytes j' x' ++ decodePass rest j' 0 x'
        else decodePass rest j' (n + 1) x'

def decode (dlen : Nat) (src : List UInt8) : Option (List UInt8) :=
  match checkPass src 0 0 0 with
  | none => none
  | some (n, j) =>
      if n = 0 then some []
      else if dlen < decodedLength n j then none
      else some (decodePass src 3 0 0)

/-- A group of three bytes has four digits. -/
def firstDigit (c1 : UInt8) : Nat := c1.toNat / 4

def secondDigit (c1 c2 : UInt8) : Nat := c1.toNat % 4 * 16 + c2.toNat / 16

def thirdDigit (c2 c3 : UInt8) : Nat := c2.toNat % 16 * 4 + c3.toNat / 64

def fourthDigit (c3 : UInt8) : Nat := c3.toNat % 64

/-- This is the word after one more digit. -/
def shiftIn (x : UInt32) (digit : Nat) : UInt32 :=
  x <<< 6 ||| (UInt8.ofNat digit &&& 0x3F).toUInt32

section Digits

/-- A digit of the text stands for its six bits. -/
theorem tableLookup_digit {digit : Nat} (small : digit < 64) :
    tableLookup decMap (tableLookup encMap digit).toNat = UInt8.ofNat digit ∧
      tableLookup encMap digit ≠ 32 ∧ tableLookup encMap digit ≠ 13 ∧
      tableLookup encMap digit ≠ 10 ∧ tableLookup encMap digit ≠ equalSign ∧
      tableLookup encMap digit ≠ 0 ∧ ¬ 127 < tableLookup encMap digit ∧
      UInt8.ofNat digit < 64 ∧ UInt8.ofNat digit ≠ 127 ∧ UInt8.ofNat digit ≠ 64 := by
  have every : ∀ digit : Fin 64,
      tableLookup decMap (tableLookup encMap digit).toNat = UInt8.ofNat digit ∧
        tableLookup encMap digit ≠ 32 ∧ tableLookup encMap digit ≠ 13 ∧
        tableLookup encMap digit ≠ 10 ∧ tableLookup encMap digit ≠ equalSign ∧
        tableLookup encMap digit ≠ 0 ∧ ¬ 127 < tableLookup encMap digit ∧
        UInt8.ofNat digit < 64 ∧ UInt8.ofNat digit ≠ 127 ∧ UInt8.ofNat digit ≠ 64 := by
    decide +kernel
  exact every ⟨digit, small⟩

theorem and_three (value : Nat) : value &&& 3 = value % 4 :=
  Nat.and_two_pow_sub_one_eq_mod value 2

theorem and_seven (value : Nat) : value &&& 7 = value % 8 :=
  Nat.and_two_pow_sub_one_eq_mod value 3

theorem and_fifteen (value : Nat) : value &&& 15 = value % 16 :=
  Nat.and_two_pow_sub_one_eq_mod value 4

theorem and_sixtyThree (value : Nat) : value &&& 63 = value % 64 :=
  Nat.and_two_pow_sub_one_eq_mod value 6

theorem firstDigit_lt (c1 : UInt8) : firstDigit c1 < 64 := by
  have byte := c1.toNat_lt
  rw [firstDigit]
  omega

theorem secondDigit_lt (c1 c2 : UInt8) : secondDigit c1 c2 < 64 := by
  have byte := c2.toNat_lt
  rw [secondDigit]
  omega

theorem thirdDigit_lt (c2 c3 : UInt8) : thirdDigit c2 c3 < 64 := by
  have byte := c3.toNat_lt
  rw [thirdDigit]
  omega

theorem fourthDigit_lt (c3 : UInt8) : fourthDigit c3 < 64 := Nat.mod_lt _ (by decide)

theorem firstDigit_eq (c1 : UInt8) : (c1.toNat >>> 2) &&& 0x3F = firstDigit c1 := by
  have small := firstDigit_lt c1
  rw [and_sixtyThree, Nat.shiftRight_eq_div_pow]
  exact Nat.mod_eq_of_lt small

theorem secondDigit_eq (c1 c2 : UInt8) :
    ((c1.toNat &&& 3) <<< 4 + c2.toNat >>> 4) &&& 0x3F = secondDigit c1 c2 := by
  have small := secondDigit_lt c1 c2
  rw [and_sixtyThree, and_three, Nat.shiftRight_eq_div_pow, Nat.shiftLeft_eq]
  exact Nat.mod_eq_of_lt small

theorem thirdDigit_eq (c2 c3 : UInt8) :
    ((c2.toNat &&& 15) <<< 2 + c3.toNat >>> 6) &&& 0x3F = thirdDigit c2 c3 := by
  have small := thirdDigit_lt c2 c3
  rw [and_sixtyThree, and_fifteen, Nat.shiftRight_eq_div_pow, Nat.shiftLeft_eq]
  exact Nat.mod_eq_of_lt small

theorem encodeTriples_one (c1 : UInt8) : encodeTriples [c1] =
    [tableLookup encMap (firstDigit c1), tableLookup encMap (secondDigit c1 0), equalSign,
      equalSign] := by
  rw [encodeTriples, firstDigit_eq, ← secondDigit_eq]
  rfl

theorem encodeTriples_two (c1 c2 : UInt8) : encodeTriples [c1, c2] =
    [tableLookup encMap (firstDigit c1), tableLookup encMap (secondDigit c1 c2),
      tableLookup encMap (thirdDigit c2 0), equalSign] := by
  rw [encodeTriples, firstDigit_eq, secondDigit_eq, ← thirdDigit_eq]
  rfl

theorem encodeTriples_three (c1 c2 c3 : UInt8) (rest : List UInt8) :
    encodeTriples (c1 :: c2 :: c3 :: rest) = tableLookup encMap (firstDigit c1) ::
      tableLookup encMap (secondDigit c1 c2) :: tableLookup encMap (thirdDigit c2 c3) ::
      tableLookup encMap (fourthDigit c3) :: encodeTriples rest := by
  rw [encodeTriples, firstDigit_eq, secondDigit_eq, thirdDigit_eq, and_sixtyThree]
  rfl

end Digits

section Encoding

/-- The text has four characters for every three bytes and for what is left. -/
theorem length_encodeTriples (src : List UInt8) :
    (encodeTriples src).length = 4 * ((src.length + 2) / 3) := by
  induction src using encodeTriples.induct with
  | case1 => simp [encodeTriples]
  | case2 c1 => simp [encodeTriples_one]
  | case3 c1 c2 => simp [encodeTriples_two]
  | case4 c1 c2 c3 rest ih =>
      rw [encodeTriples_three]
      simp only [List.length_cons, ih]
      omega

/-- A text of the encoder holds no zero. -/
theorem ne_zero_of_mem_encodeTriples {src : List UInt8} {char : UInt8}
    (inside : char ∈ encodeTriples src) : char ≠ 0 := by
  have digits : ∀ {digit}, digit < 64 → tableLookup encMap digit ≠ 0 := fun small =>
    (tableLookup_digit small).2.2.2.2.2.1
  induction src using encodeTriples.induct with
  | case1 => cases inside
  | case2 c1 =>
      rw [encodeTriples_one] at inside
      simp only [List.mem_cons, List.not_mem_nil, or_false] at inside
      rcases inside with rfl | rfl | rfl | rfl
      · exact digits (firstDigit_lt c1)
      · exact digits (secondDigit_lt c1 0)
      · decide
      · decide
  | case3 c1 c2 =>
      rw [encodeTriples_two] at inside
      simp only [List.mem_cons, List.not_mem_nil, or_false] at inside
      rcases inside with rfl | rfl | rfl | rfl
      · exact digits (firstDigit_lt c1)
      · exact digits (secondDigit_lt c1 c2)
      · exact digits (thirdDigit_lt c2 0)
      · decide
  | case4 c1 c2 c3 rest ih =>
      rw [encodeTriples_three] at inside
      simp only [List.mem_cons] at inside
      rcases inside with rfl | rfl | rfl | rfl | later
      · exact digits (firstDigit_lt c1)
      · exact digits (secondDigit_lt c1 c2)
      · exact digits (thirdDigit_lt c2 c3)
      · exact digits (fourthDigit_lt c3)
      · exact ih later

/-- The last character is a padding exactly when a group of three bytes is incomplete. -/
theorem getLast?_encodeTriples {src : List UInt8} (present : src ≠ []) :
    (encodeTriples src).getLast? = some equalSign ↔ src.length % 3 ≠ 0 := by
  induction src using encodeTriples.induct with
  | case1 => exact absurd rfl present
  | case2 c1 => simp [encodeTriples_one]
  | case3 c1 c2 => simp [encodeTriples_two]
  | case4 c1 c2 c3 rest ih =>
      rw [encodeTriples_three]
      cases rest with
      | nil =>
          have digit := (tableLookup_digit (fourthDigit_lt c3)).2.2.2.2.1
          simp [encodeTriples, digit]
      | cons c4 rest =>
          have later := ih (List.cons_ne_nil _ _)
          have more : encodeTriples (c4 :: rest) ≠ [] := by
            intro empty
            have length := length_encodeTriples (c4 :: rest)
            rw [empty, List.length_nil, List.length_cons] at length
            omega
          rw [List.getLast?_cons_cons, List.getLast?_cons_cons, List.getLast?_cons_cons,
            List.getLast?_cons_of_ne_nil more, later]
          simp only [List.length_cons]
          omega

end Encoding

section Decoding

theorem toNat_shiftIn (x : UInt32) {digit : Nat} (small : digit < 64) :
    (shiftIn x digit).toNat = x.toNat * 64 % 4294967296 + digit := by
  have low : (UInt8.ofNat digit &&& 0x3F).toUInt32.toNat = digit := by
    rw [UInt8.toNat_toUInt32, UInt8.toNat_and, UInt8.toNat_ofNat']
    have mask : (63 : UInt8).toNat = 63 := rfl
    rw [mask, and_sixtyThree]
    omega
  have high : (x <<< 6).toNat = (x.toNat % 67108864) <<< 6 := by
    rw [UInt32.toNat_shiftLeft, Nat.shiftLeft_eq, Nat.shiftLeft_eq]
    have amount : (6 : UInt32).toNat % 32 = 6 := rfl
    rw [amount]
    omega
  rw [shiftIn, UInt32.toNat_or, low, high, ← Nat.shiftLeft_add_eq_or_of_lt small,
    Nat.shiftLeft_eq]
  omega

/-- Four digits fill the three low bytes of the word. -/
theorem toNat_shiftIn_four (x : UInt32) {a b c d : Nat} (first : a < 64) (second : b < 64)
    (third : c < 64) (fourth : d < 64) :
    (shiftIn (shiftIn (shiftIn (shiftIn x a) b) c) d).toNat % 16777216 =
      ((a * 64 + b) * 64 + c) * 64 + d := by
  rw [toNat_shiftIn _ fourth, toNat_shiftIn _ third, toNat_shiftIn _ second,
    toNat_shiftIn _ first]
  omega

/-- The bytes of a group come back from its digits. -/
theorem bytes_shiftIn (x : UInt32) (c1 c2 c3 : UInt8) :
    let word := shiftIn (shiftIn (shiftIn (shiftIn x (firstDigit c1)) (secondDigit c1 c2))
      (thirdDigit c2 c3)) (fourthDigit c3)
    (word >>> 16).toUInt8 = c1 ∧ (word >>> 8).toUInt8 = c2 ∧ word.toUInt8 = c3 := by
  intro word
  have low : word.toNat % 16777216 = _ := toNat_shiftIn_four x (firstDigit_lt c1)
    (secondDigit_lt c1 c2) (thirdDigit_lt c2 c3) (fourthDigit_lt c3)
  have byte1 := c1.toNat_lt
  have byte2 := c2.toNat_lt
  have byte3 := c3.toNat_lt
  simp only [firstDigit, secondDigit, thirdDigit, fourthDigit] at low
  refine ⟨?_, ?_, ?_⟩
  · apply UInt8.toNat_inj.mp
    rw [UInt32.toNat_toUInt8, UInt32.toNat_shiftRight, Nat.shiftRight_eq_div_pow]
    have amount : (16 : UInt32).toNat % 32 = 16 := rfl
    rw [amount]
    omega
  · apply UInt8.toNat_inj.mp
    rw [UInt32.toNat_toUInt8, UInt32.toNat_shiftRight, Nat.shiftRight_eq_div_pow]
    have amount : (8 : UInt32).toNat % 32 = 8 := rfl
    rw [amount]
    omega
  · apply UInt8.toNat_inj.mp
    rw [UInt32.toNat_toUInt8]
    omega

/-- One digit is shifted into the word. -/
theorem decodePass_digit {digit n : Nat} (small : digit < 64) (more : n + 1 ≠ 4)
    (rest : List UInt8) (j x : UInt32) :
    decodePass (tableLookup encMap digit :: rest) j n x =
      decodePass rest j (n + 1) (shiftIn x digit) := by
  obtain ⟨value, space, cr, lf, -, -, -, -, -, other⟩ := tableLookup_digit small
  rw [decodePass, if_neg (by simp [space, cr, lf]), value, if_neg more, if_neg other]
  rfl

/-- The fourth digit completes a word. -/
theorem decodePass_lastDigit {digit : Nat} (small : digit < 64) (rest : List UInt8)
    (j x : UInt32) :
    decodePass (tableLookup encMap digit :: rest) j 3 x =
      wordBytes j (shiftIn x digit) ++ decodePass rest j 0 (shiftIn x digit) := by
  obtain ⟨value, space, cr, lf, -, -, -, -, -, other⟩ := tableLookup_digit small
  rw [decodePass, if_neg (by simp [space, cr, lf]), value, if_pos rfl, if_neg other]
  rfl

theorem decodePass_equalSign {n : Nat} (more : n + 1 ≠ 4) (rest : List UInt8) (j x : UInt32) :
    decodePass (equalSign :: rest) j n x = decodePass rest (j - 1) (n + 1) (shiftIn x 0) := by
  have value : tableLookup decMap equalSign.toNat = 64 := by decide
  rw [decodePass, if_neg (by decide), value, if_neg more, if_pos rfl]
  rfl

theorem decodePass_lastEqualSign (rest : List UInt8) (j x : UInt32) :
    decodePass (equalSign :: rest) j 3 x =
      wordBytes (j - 1) (shiftIn x 0) ++ decodePass rest (j - 1) 0 (shiftIn x 0) := by
  have value : tableLookup decMap equalSign.toNat = 64 := by decide
  rw [decodePass, if_neg (by decide), value, if_pos rfl, if_pos rfl]
  rfl

/-- The second pass takes a text of the encoder back. -/
theorem decodePass_encodeTriples (src : List UInt8) (x : UInt32) :
    decodePass (encodeTriples src) 3 0 x = src := by
  induction src using encodeTriples.induct generalizing x with
  | case1 => simp [encodeTriples, decodePass]
  | case2 c1 =>
      rw [encodeTriples_one, decodePass_digit (firstDigit_lt c1) (by decide),
        decodePass_digit (secondDigit_lt c1 0) (by decide), decodePass_equalSign (by decide),
        decodePass_lastEqualSign, decodePass, List.append_nil]
      exact congrArg (fun byte => [byte]) (bytes_shiftIn x c1 0 0).1
  | case3 c1 c2 =>
      obtain ⟨byte1, byte2, -⟩ := bytes_shiftIn x c1 c2 0
      rw [encodeTriples_two, decodePass_digit (firstDigit_lt c1) (by decide),
        decodePass_digit (secondDigit_lt c1 c2) (by decide),
        decodePass_digit (thirdDigit_lt c2 0) (by decide), decodePass_lastEqualSign, decodePass,
        List.append_nil]
      exact congrArg₂ (fun first second => [first, second]) byte1 byte2
  | case4 c1 c2 c3 rest ih =>
      obtain ⟨byte1, byte2, byte3⟩ := bytes_shiftIn x c1 c2 c3
      rw [encodeTriples_three, decodePass_digit (firstDigit_lt c1) (by decide),
        decodePass_digit (secondDigit_lt c1 c2) (by decide),
        decodePass_digit (thirdDigit_lt c2 c3) (by decide),
        decodePass_lastDigit (fourthDigit_lt c3), ih]
      simp only [wordBytes, byte1, byte2, byte3]
      rfl

/-- The first pass counts one digit. -/
theorem checkPass_digit {digit : Nat} (small : digit < 64) (rest : List UInt8) (n : Nat) :
    checkPass (tableLookup encMap digit :: rest) 0 n 0 = checkPass rest 0 (n + 1) 0 := by
  obtain ⟨value, space, cr, lf, sign, -, ascii, -, valid, -⟩ := tableLookup_digit small
  simp [checkPass, space, cr, lf, sign, value, ascii, valid]

/-- The first pass counts up to two padding characters. -/
theorem checkPass_equalSign {j : UInt32} (few : ¬ 2 < j + 1) (rest : List UInt8) (n : Nat) :
    checkPass (equalSign :: rest) 0 n j = checkPass rest 0 (n + 1) (j + 1) := by
  have value : tableLookup decMap equalSign.toNat = 64 := by decide
  rw [checkPass, if_neg (by decide), if_neg (fun both => absurd both.1 (by decide)),
    if_neg (by decide), if_neg (by decide)]
  simp only [value, if_true, few, and_false, if_false]
  rfl

/-- This is the number of padding characters. -/
def padding (length : Nat) : UInt32 :=
  if length % 3 = 0 then 0 else if length % 3 = 1 then 2 else 1

/-- The first pass accepts a text of the encoder. -/
theorem checkPass_encodeTriples (src : List UInt8) (n : Nat) :
    checkPass (encodeTriples src) 0 n 0 =
      some (n + 4 * ((src.length + 2) / 3), padding src.length) := by
  induction src using encodeTriples.induct generalizing n with
  | case1 => simp [encodeTriples, checkPass, padding]
  | case2 c1 =>
      rw [encodeTriples_one, checkPass_digit (firstDigit_lt c1),
        checkPass_digit (secondDigit_lt c1 0), checkPass_equalSign (by decide),
        checkPass_equalSign (by decide), checkPass]
      have count : 4 * (([c1].length + 2) / 3) = 4 := by
        rw [List.length_singleton]
      rw [count]
      rfl
  | case3 c1 c2 =>
      rw [encodeTriples_two, checkPass_digit (firstDigit_lt c1),
        checkPass_digit (secondDigit_lt c1 c2), checkPass_digit (thirdDigit_lt c2 0),
        checkPass_equalSign (by decide), checkPass]
      have count : 4 * (([c1, c2].length + 2) / 3) = 4 := by
        rw [List.length_cons, List.length_singleton]
      rw [count]
      rfl
  | case4 c1 c2 c3 rest ih =>
      have same : padding (rest.length + 3) = padding rest.length := by
        rw [padding, padding, Nat.add_mod_right]
      have count : n + 1 + 1 + 1 + 1 + 4 * ((rest.length + 2) / 3) =
          n + 4 * ((rest.length + 3 + 2) / 3) := by omega
      rw [encodeTriples_three, checkPass_digit (firstDigit_lt c1),
        checkPass_digit (secondDigit_lt c1 c2), checkPass_digit (thirdDigit_lt c2 c3),
        checkPass_digit (fourthDigit_lt c3), ih, count, ← same]
      rfl

/-- The first pass announces the length of the source. -/
theorem decodedLength_encoded (length : Nat) :
    decodedLength (4 * ((length + 2) / 3)) (padding length) = length := by
  have cases : length % 3 = 0 ∨ length % 3 = 1 ∨ length % 3 = 2 := by omega
  rw [decodedLength, and_seven, Nat.shiftRight_eq_div_pow, Nat.shiftRight_eq_div_pow]
  rcases cases with rest | rest | rest
  · rw [padding, if_pos rest]
    have none : (0 : UInt32).toNat = 0 := rfl
    rw [none]
    omega
  · rw [padding, if_neg (by omega), if_pos rest]
    have two : (2 : UInt32).toNat = 2 := rfl
    rw [two]
    omega
  · rw [padding, if_neg (by omega), if_neg (by omega)]
    have one : (1 : UInt32).toNat = 1 := rfl
    rw [one]
    omega

/-- The decoder takes a text of the encoder back when it has room for the source. -/
theorem decode_encodeTriples {src : List UInt8} (present : src ≠ []) (dlen : Nat) :
    decode dlen (encodeTriples src) = if dlen < src.length then none else some src := by
  have positive := List.length_pos_iff.mpr present
  rw [decode, checkPass_encodeTriples, Nat.zero_add]
  simp only [decodedLength_encoded, decodePass_encodeTriples]
  rw [if_neg (by omega)]

end Decoding

/-- The encoder has a result for every source with enough room. -/
theorem encode_eq {src : List UInt8} (present : src ≠ []) (small : src.length < 2 ^ 63)
    {dlen : Nat} (room : 4 * ((src.length + 2) / 3) + 1 ≤ dlen) :
    encode dlen src = some (encodeTriples src ++ [0]) := by
  have positive := List.length_pos_iff.mpr present
  have groups : (src.length / 3 + if src.length % 3 ≠ 0 then 1 else 0) =
      (src.length + 2) / 3 := by
    split <;> omega
  rw [encode, if_neg (by omega), groups, if_neg]
  simp only [sizeMax]
  omega

end Base64
