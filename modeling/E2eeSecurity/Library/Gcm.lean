/-
This file gives the Galois/Counter mode over any block cipher as a streaming interface, and shows
how its pieces compose and that its two modes invert each other.
-/
import Mathlib.Algebra.Group.Nat.Defs
import Mathlib.Data.List.Basic

namespace Gcm

abbrev Block := Fin 16 → UInt8

/-- The block cipher and the product of the field with 2^128 elements are open. -/
structure BlockCipher (κ : Type) where
  encryptBlock : κ → Block → Block
  multiply : Block → Block → Block

inductive Mode
  | encrypt
  | decrypt
  deriving DecidableEq

def Mode.other : Mode → Mode
  | .encrypt => .decrypt
  | .decrypt => .encrypt

/-- This is the state between two pieces of a text. -/
structure Context (κ : Type) where
  key : κ
  mode : Mode
  y : Block
  baseEctr : Block
  buf : Block
  len : Nat
  addLen : Nat

def Context.withLen {κ : Type} (context : Context κ) (len : Nat) : Context κ :=
  { context with len := len }

/-- A text has at most 2^36 - 32 bytes. -/
def maxLen : Nat := 0xFFFFFFFE0

def zeroBlock : Block := fun _ => 0

/-- The piece is added to the first bytes of the block. -/
def absorb (block : Block) (piece : List UInt8) : Block :=
  fun index => block index ^^^ piece.getD index 0

/-- The piece is added to the first bytes of a key stream block. -/
def mask (ectr : Block) (piece : List UInt8) : List UInt8 :=
  List.zipWith (· ^^^ ·) (List.ofFn ectr) piece

/-- The carry runs through the last bytes of the counter. -/
def carry : Nat → Block → Block
  | 0, y => y
  | count + 1, y =>
      let index : Fin 16 := Fin.ofNat 16 (12 + count)
      let next := Function.update y index (y index + 1)
      if next index ≠ 0 then next else carry count next

def increment (y : Block) : Block := carry 4 y

/-- Each turn takes 16 bytes, and the last one takes the rest. -/
def pieces : Nat → List UInt8 → List (List UInt8)
  | 0, _ => []
  | fuel + 1, data => if data.isEmpty then [] else data.take 16 :: pieces fuel (data.drop 16)

def blocks (data : List UInt8) : List (List UInt8) := pieces data.length data

def bigEndian : Nat → Nat → List UInt8
  | 0, _ => []
  | count + 1, value => UInt8.ofNat (value / 256 ^ count) :: bigEndian count value

section Streaming

variable {κ : Type} (cipher : BlockCipher κ)

def hashKey (key : κ) : Block := cipher.encryptBlock key zeroBlock

/-- The bytes are hashed block by block. -/
def hashBlocks (key : κ) (buf : Block) (data : List UInt8) : Block :=
  (blocks data).foldl (fun hash piece => cipher.multiply (hashKey cipher key) (absorb hash piece))
    buf

/-- A vector of 12 bytes is the counter itself, and any other one is hashed. -/
def initialCounter (key : κ) (iv : List UInt8) : Block :=
  if iv.length = 12 then absorb zeroBlock (iv ++ [0, 0, 0, 1])
  else cipher.multiply (hashKey cipher key) (absorb (hashBlocks cipher key zeroBlock iv)
    (List.replicate 12 0 ++ bigEndian 4 (iv.length * 8)))

def starts (key : κ) (mode : Mode) (iv add : List UInt8) : Option (Context κ) :=
  if iv.length = 0 ∨ 2 ^ 61 ≤ iv.length ∨ 2 ^ 61 ≤ add.length then none
  else
    let y := initialCounter cipher key iv
    some {
      key := key
      mode := mode
      y := y
      baseEctr := cipher.encryptBlock key y
      buf := hashBlocks cipher key zeroBlock add
      len := 0
      addLen := add.length }

/-- The ciphertext is hashed in both modes. -/
def updateBlock (context : Context κ) (piece : List UInt8) : Context κ × List UInt8 :=
  let y := increment context.y
  let output := mask (cipher.encryptBlock context.key y) piece
  let ciphertext := match context.mode with
    | .encrypt => output
    | .decrypt => piece
  ({ context with
      y := y
      buf := cipher.multiply (hashKey cipher context.key) (absorb context.buf ciphertext) },
    output)

def updateBlocks : Context κ → List (List UInt8) → Context κ × List UInt8
  | context, [] => (context, [])
  | context, piece :: rest =>
      let first := updateBlock cipher context piece
      let later := updateBlocks first.1 rest
      (later.1, first.2 ++ later.2)

/-- A text that grows beyond the limit is refused. -/
def update (context : Context κ) (input : List UInt8) : Option (Context κ × List UInt8) :=
  if context.len + input.length > maxLen then none
  else some (updateBlocks cipher (context.withLen (context.len + input.length)) (blocks input))

def finish (context : Context κ) : List UInt8 :=
  if context.len = 0 ∧ context.addLen = 0 then List.ofFn context.baseEctr
  else mask context.baseEctr (List.ofFn (cipher.multiply (hashKey cipher context.key)
    (absorb context.buf (bigEndian 8 (context.addLen * 8) ++ bigEndian 8 (context.len * 8)))))

/-- The result is the other text and the tag. -/
def cryptAndTag (key : κ) (mode : Mode) (iv add input : List UInt8) :
    Option (List UInt8 × List UInt8) := do
  let context ← starts cipher key mode iv add
  let updated ← update cipher context input
  some (updated.2, finish cipher updated.1)

end Streaming

section Masks

@[simp] theorem length_mask (ectr : Block) (piece : List UInt8) :
    (mask ectr piece).length = min 16 piece.length := by
  simp [mask]

/-- The key stream cancels itself. -/
theorem mask_mask (ectr : Block) {piece : List UInt8} (short : piece.length ≤ 16) :
    mask ectr (mask ectr piece) = piece := by
  apply List.ext_getElem
  · simp only [length_mask]
    omega
  · intro index _ inside
    simp only [mask, List.getElem_zipWith, List.getElem_ofFn]
    rw [← UInt8.xor_assoc, UInt8.xor_self, UInt8.zero_xor]

end Masks

section Blocks

theorem pieces_eq {fuel : Nat} {data : List UInt8} (enough : data.length ≤ fuel) :
    pieces fuel data = blocks data := by
  induction fuel using Nat.strongRecOn generalizing data with
  | _ fuel ih =>
    cases data with
    | nil => cases fuel <;> rfl
    | cons byte rest =>
        cases fuel with
        | zero => simp at enough
        | succ fuel =>
            rw [List.length_cons] at enough
            have shorter : ((byte :: rest).drop 16).length ≤ rest.length := by
              simp
            rw [blocks, List.length_cons, pieces, pieces]
            rw [ih fuel (Nat.lt_succ_self _) (Nat.le_trans shorter (by omega)),
              ih rest.length (by omega) shorter]

theorem blocks_cons {data : List UInt8} (present : data ≠ []) :
    blocks data = data.take 16 :: blocks (data.drop 16) := by
  cases data with
  | nil => exact absurd rfl present
  | cons byte rest =>
      rw [blocks, List.length_cons, pieces, if_neg (by simp), pieces_eq (by simp)]

/-- A fact about byte strings is proved from the back, one block at a time. -/
theorem blocks_induction {motive : List UInt8 → Prop} (nil : motive [])
    (block : ∀ data, data ≠ [] → motive (data.drop 16) → motive data) (data : List UInt8) :
    motive data := by
  induction length : data.length using Nat.strongRecOn generalizing data with
  | _ count ih =>
    by_cases empty : data = []
    · rw [empty]
      exact nil
    · have positive := List.length_pos_iff.mpr empty
      apply block data empty
      exact ih (data.drop 16).length (by rw [List.length_drop]; omega) _ rfl

/-- Only the last piece of a text may end inside a block. -/
theorem blocks_append {first second : List UInt8} (whole : 16 ∣ first.length) :
    blocks (first ++ second) = blocks first ++ blocks second := by
  induction first using blocks_induction with
  | nil => rfl
  | block data present ih =>
      have positive := List.length_pos_iff.mpr present
      have full : 16 ≤ data.length := Nat.le_of_dvd positive whole
      have rest : 16 ∣ (data.drop 16).length := by
        rw [List.length_drop]
        omega
      rw [blocks_cons (by simp [present]), blocks_cons present,
        List.take_append_of_le_length full, List.drop_append_of_le_length full, ih rest,
        List.cons_append]

/-- A piece that ends inside a block is the last one. -/
theorem blocks_block {piece rest : List UInt8} (present : piece ≠ [])
    (whole : piece.length = 16 ∨ piece.length ≤ 16 ∧ rest = []) :
    blocks (piece ++ rest) = piece :: blocks rest := by
  rw [blocks_cons (by simp [present])]
  rcases whole with full | ⟨short, rfl⟩
  · rw [List.take_left' full, List.drop_left' full]
  · rw [List.append_nil, List.take_of_length_le short, List.drop_eq_nil_of_le short]

end Blocks

section Composition

variable {κ : Type} (cipher : BlockCipher κ)

theorem length_updateBlocks (context : Context κ) (data : List UInt8) :
    (updateBlocks cipher context (blocks data)).2.length = data.length := by
  induction data using blocks_induction generalizing context with
  | nil => rfl
  | block data present ih =>
      rw [blocks_cons present, updateBlocks, List.length_append, ih, updateBlock, length_mask,
        List.length_take, List.length_drop]
      omega

theorem updateBlocks_append (context : Context κ) (first second : List (List UInt8)) :
    updateBlocks cipher context (first ++ second) =
      ((updateBlocks cipher (updateBlocks cipher context first).1 second).1,
        (updateBlocks cipher context first).2 ++
          (updateBlocks cipher (updateBlocks cipher context first).1 second).2) := by
  induction first generalizing context with
  | nil => simp [updateBlocks]
  | cons piece rest ih =>
      rw [List.cons_append, updateBlocks, updateBlocks, ih]
      simp

/-- The length is only counted. -/
theorem updateBlocks_withLen (context : Context κ) (len : Nat) (list : List (List UInt8)) :
    updateBlocks cipher (context.withLen len) list =
      ((updateBlocks cipher context list).1.withLen len,
        (updateBlocks cipher context list).2) := by
  induction list generalizing context with
  | nil => rfl
  | cons piece rest ih =>
      have same : updateBlock cipher (context.withLen len) piece =
          ((updateBlock cipher context piece).1.withLen len,
            (updateBlock cipher context piece).2) := rfl
      rw [updateBlocks, updateBlocks, same, ih]

theorem updateBlocks_keeps (context : Context κ) (list : List (List UInt8)) :
    (updateBlocks cipher context list).1.len = context.len ∧
      (updateBlocks cipher context list).1.addLen = context.addLen := by
  induction list generalizing context with
  | nil => exact ⟨rfl, rfl⟩
  | cons piece rest ih =>
      rw [updateBlocks]
      exact ih _

/-- A text that comes in two pieces gives the same as the whole text. -/
theorem update_append (context : Context κ) {first second : List UInt8}
    (whole : 16 ∣ first.length) :
    update cipher context (first ++ second) = (update cipher context first).bind fun early =>
      (update cipher early.1 second).map fun late => (late.1, early.2 ++ late.2) := by
  by_cases fits : context.len + first.length > maxLen
  · rw [update, update, if_pos fits, if_pos (by rw [List.length_append]; omega), Option.bind_none]
  · rw [update, update, if_neg fits, Option.bind_some, update, blocks_append whole,
      updateBlocks_append, updateBlocks_withLen, updateBlocks_withLen, updateBlocks_withLen,
      updateBlocks_withLen, List.length_append, ← Nat.add_assoc]
    have counted : ((updateBlocks cipher context (blocks first)).1.withLen
        (context.len + first.length)).len = context.len + first.length := rfl
    rw [counted]
    split
    · rfl
    · rw [Option.map_some, updateBlocks_withLen]
      rfl

/-- This is the context of the other mode. -/
def Context.other (context : Context κ) : Context κ :=
  { context with mode := context.mode.other }

theorem updateBlock_other (context : Context κ) {piece : List UInt8} (short : piece.length ≤ 16) :
    updateBlock cipher context.other (updateBlock cipher context piece).2 =
      ((updateBlock cipher context piece).1.other, piece) := by
  cases mode : context.mode with
  | encrypt => simp [updateBlock, Context.other, mode, Mode.other, mask_mask _ short]
  | decrypt => simp [updateBlock, Context.other, mode, Mode.other, mask_mask _ short]

/-- The other mode takes the output back to the input, and both modes hash the same bytes. -/
theorem updateBlocks_other (context : Context κ) (data : List UInt8) :
    updateBlocks cipher context.other
        (blocks (updateBlocks cipher context (blocks data)).2) =
      ((updateBlocks cipher context (blocks data)).1.other, data) := by
  induction data using blocks_induction generalizing context with
  | nil => rfl
  | block data present ih =>
      have short : (data.take 16).length ≤ 16 := by
        rw [List.length_take]
        omega
      have positive := List.length_pos_iff.mpr present
      have first := updateBlock_other cipher context short
      have later := ih (updateBlock cipher context (data.take 16)).1
      have length := length_updateBlocks cipher (updateBlock cipher context (data.take 16)).1
        (data.drop 16)
      have early : (updateBlock cipher context (data.take 16)).2.length = min 16 data.length := by
        rw [updateBlock, length_mask, List.length_take]
        omega
      rw [List.length_drop] at length
      rw [blocks_cons present, updateBlocks, blocks_block, updateBlocks, first, later,
        List.take_append_drop]
      · intro empty
        rw [empty, List.length_nil] at early
        omega
      · by_cases full : 16 ≤ data.length
        · exact Or.inl (by omega)
        · refine Or.inr ⟨by omega, List.eq_nil_of_length_eq_zero (by omega)⟩

theorem update_eq_some_iff {context : Context κ} {input : List UInt8}
    {updated : Context κ × List UInt8} :
    update cipher context input = some updated ↔ context.len + input.length ≤ maxLen ∧
      updateBlocks cipher (context.withLen (context.len + input.length)) (blocks input) =
        updated := by
  rw [update]
  split
  case isTrue beyond => simp only [reduceCtorEq, false_iff, not_and]; omega
  case isFalse within => simp only [Option.some.injEq, iff_and_self]; omega

theorem length_update {context : Context κ} {input : List UInt8}
    {updated : Context κ × List UInt8} (done : update cipher context input = some updated) :
    updated.2.length = input.length ∧ updated.1.len = context.len + input.length := by
  obtain ⟨-, rfl⟩ := (update_eq_some_iff cipher).mp done
  exact ⟨length_updateBlocks cipher _ _, (updateBlocks_keeps cipher _ _).1⟩

/-- No bytes leave the context as it is. -/
theorem update_nil {context : Context κ} (within : context.len ≤ maxLen) :
    update cipher context [] = some (context, []) := by
  rw [update_eq_some_iff, List.length_nil, Nat.add_zero]
  exact ⟨within, rfl⟩

/-- The other mode takes an output back to its input. -/
theorem update_other {context : Context κ} {input : List UInt8}
    {updated : Context κ × List UInt8} (done : update cipher context input = some updated) :
    update cipher context.other updated.2 = some (updated.1.other, input) := by
  have length := (length_update cipher done).1
  obtain ⟨within, rfl⟩ := (update_eq_some_iff cipher).mp done
  rw [update_eq_some_iff, length]
  exact ⟨within, updateBlocks_other cipher (context.withLen (context.len + input.length)) input⟩

end Composition

section Calls

variable {κ : Type} (cipher : BlockCipher κ) {key : κ} {mode : Mode} {iv add : List UInt8}

theorem starts_other : starts cipher key mode.other iv add =
    (starts cipher key mode iv add).map Context.other := by
  rw [starts, starts]
  split <;> rfl

theorem starts_present (ivPresent : iv ≠ []) (ivLength : iv.length < 2 ^ 61)
    (addLength : add.length < 2 ^ 61) :
    ∃ context, starts cipher key mode iv add = some context ∧ context.len = 0 := by
  have positive := List.length_pos_iff.mpr ivPresent
  rw [starts, if_neg (by omega)]
  exact ⟨_, rfl, rfl⟩

theorem starts_len {context : Context κ}
    (started : starts cipher key mode iv add = some context) : context.len = 0 := by
  rw [starts] at started
  split at started
  · cases started
  · cases started
    rfl

@[simp] theorem length_finish (context : Context κ) : (finish cipher context).length = 16 := by
  rw [finish]
  split <;> simp

theorem cryptAndTag_eq_some_iff {input output tag : List UInt8} :
    cryptAndTag cipher key mode iv add input = some (output, tag) ↔
      ∃ context last, starts cipher key mode iv add = some context ∧
        update cipher context input = some (last, output) ∧ finish cipher last = tag := by
  simp only [cryptAndTag, Option.bind_eq_bind, Option.bind_eq_some_iff, Option.some.injEq,
    Prod.mk.injEq, Prod.exists]
  constructor
  · rintro ⟨context, started, last, _, updated, rfl, rfl⟩
    exact ⟨context, last, started, updated, rfl⟩
  · rintro ⟨context, last, started, updated, rfl⟩
    exact ⟨context, started, last, output, updated, rfl, rfl⟩

/-- Decryption takes a ciphertext back to its text under the same tag, and so does encryption. -/
theorem cryptAndTag_other {input output tag : List UInt8}
    (done : cryptAndTag cipher key mode iv add input = some (output, tag)) :
    cryptAndTag cipher key mode.other iv add output = some (input, tag) := by
  rw [cryptAndTag_eq_some_iff] at done ⊢
  obtain ⟨context, last, started, updated, rfl⟩ := done
  exact ⟨context.other, last.other, by rw [starts_other, started, Option.map_some],
    update_other cipher updated, rfl⟩

theorem length_cryptAndTag {input output tag : List UInt8}
    (done : cryptAndTag cipher key mode iv add input = some (output, tag)) :
    output.length = input.length ∧ tag.length = 16 ∧ input.length ≤ maxLen := by
  obtain ⟨context, last, started, updated, rfl⟩ := (cryptAndTag_eq_some_iff cipher).mp done
  have within := ((update_eq_some_iff cipher).mp updated).1
  rw [starts_len cipher started, Nat.zero_add] at within
  exact ⟨(length_update cipher updated).1, length_finish cipher last, within⟩

/-- Every text within the limit has an output. -/
theorem cryptAndTag_present {input : List UInt8} (ivPresent : iv ≠ [])
    (ivLength : iv.length < 2 ^ 61) (addLength : add.length < 2 ^ 61)
    (within : input.length ≤ maxLen) :
    ∃ output tag, cryptAndTag cipher key mode iv add input = some (output, tag) := by
  obtain ⟨context, started, fresh⟩ :
      ∃ context, starts cipher key mode iv add = some context ∧ context.len = 0 :=
    starts_present cipher ivPresent ivLength addLength
  refine ⟨_, _, (cryptAndTag_eq_some_iff cipher).mpr ⟨context, _, started,
    (update_eq_some_iff cipher).mpr ⟨?_, rfl⟩, rfl⟩⟩
  rw [fresh, Nat.zero_add]
  exact within

end Calls

end Gcm
