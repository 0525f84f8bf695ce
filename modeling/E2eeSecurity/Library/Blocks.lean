/-
This file cuts data of any length into blocks of one size, and shows that a compression over the
blocks can be fed piece by piece.
-/
import Mathlib.Data.List.Basic
import Mathlib.Tactic.Ring

namespace Blocks

variable {α σ : Type*}

section Absorption

variable (size : Nat) (compress : σ → List α → σ)

/-- Blocks are taken from the front. -/
def absorb : Nat → σ → List α → σ
  | 0, state, _ => state
  | count + 1, state, data => absorb count (compress state (data.take size)) (data.drop size)

/-- Every complete block is taken. -/
def absorbAll (state : σ) (data : List α) : σ :=
  absorb size compress (data.length / size) state data

/-- This is what stays behind the last complete block. -/
def rest (data : List α) : List α := data.drop (data.length / size * size)

theorem length_rest (data : List α) : (rest size data).length = data.length % size := by
  have split := Nat.div_add_mod' data.length size
  rw [rest, List.length_drop]
  omega

theorem absorb_append (count : Nat) (state : σ) (data tail : List α)
    (inside : count * size ≤ data.length) :
    absorb size compress count state (data ++ tail) = absorb size compress count state data := by
  induction count generalizing state data with
  | zero => rfl
  | succ count ih =>
      have first : size ≤ data.length := by
        rw [Nat.succ_mul] at inside
        omega
      have later : count * size ≤ (data.drop size).length := by
        rw [Nat.succ_mul] at inside
        rw [List.length_drop]
        omega
      rw [absorb, absorb, List.take_append_of_le_length first, List.drop_append_of_le_length first]
      exact ih _ _ later

theorem absorb_add (first second : Nat) (state : σ) (data : List α) :
    absorb size compress (first + second) state data =
      absorb size compress second (absorb size compress first state data)
        (data.drop (first * size)) := by
  induction first generalizing state data with
  | zero => simp [absorb]
  | succ first ih =>
      have shift : size + first * size = (first + 1) * size := by ring
      rw [Nat.add_right_comm, absorb, absorb, ih, List.drop_drop, shift]

variable {size} (positive : 0 < size)
include positive

/-- The rest of the first piece and the second piece hold the other blocks. -/
theorem append_div (first second : List α) :
    (first ++ second).length / size =
      first.length / size + (rest size first ++ second).length / size := by
  have split := Nat.mod_add_div first.length size
  have regroup : (first ++ second).length =
      (rest size first ++ second).length + size * (first.length / size) := by
    rw [List.length_append, List.length_append, length_rest]
    omega
  rw [regroup, Nat.add_mul_div_left _ _ positive, Nat.add_comm]

/-- The blocks of the first piece can be taken before the second one is there. -/
theorem absorbAll_append (state : σ) (first second : List α) :
    absorbAll size compress state (first ++ second) =
      absorbAll size compress (absorbAll size compress state first) (rest size first ++ second) := by
  have inside : first.length / size * size ≤ first.length := Nat.div_mul_le_self ..
  rw [absorbAll, append_div positive, absorb_add, absorb_append size compress _ _ _ _ inside,
    List.drop_append_of_le_length inside]
  rfl

theorem rest_append (first second : List α) :
    rest size (first ++ second) = rest size (rest size first ++ second) := by
  have inside : first.length / size * size ≤ first.length := Nat.div_mul_le_self ..
  rw [rest, append_div positive, Nat.add_mul, ← List.drop_drop,
    List.drop_append_of_le_length inside]
  rfl

theorem length_rest_lt (data : List α) : (rest size data).length < size := by
  rw [length_rest]
  exact Nat.mod_lt _ positive

end Absorption

section Rules

variable {size : Nat} {compress : σ → List α → σ}

theorem absorbAll_short (state : σ) {data : List α} (short : data.length < size) :
    absorbAll size compress state data = state := by
  rw [absorbAll, Nat.div_eq_of_lt short]
  rfl

theorem rest_short {data : List α} (short : data.length < size) : rest size data = data := by
  rw [rest, Nat.div_eq_of_lt short, Nat.zero_mul, List.drop_zero]

theorem rest_single {block : List α} (sized : block.length = size) : rest size block = [] := by
  apply List.eq_nil_of_length_eq_zero
  rw [length_rest, sized, Nat.mod_self]

variable (positive : 0 < size)
include positive

theorem absorbAll_single (state : σ) {block : List α} (sized : block.length = size) :
    absorbAll size compress state block = compress state block := by
  rw [absorbAll, sized, Nat.div_self positive, absorb, absorb, List.take_of_length_le sized.le]

theorem absorbAll_block (state : σ) {block : List α} (sized : block.length = size)
    (data : List α) :
    absorbAll size compress state (block ++ data) =
      absorbAll size compress (compress state block) data := by
  rw [absorbAll_append compress positive, absorbAll_single positive state sized,
    rest_single sized, List.nil_append]

theorem rest_block {block : List α} (sized : block.length = size) (data : List α) :
    rest size (block ++ data) = rest size data := by
  rw [rest_append positive, rest_single sized, List.nil_append]

end Rules

/-- This is a compression that waits for the next complete block. -/
structure Stream (size : Nat) (σ α : Type*) where
  state : σ
  pending : List α
  short : pending.length < size

namespace Stream

variable {size : Nat} (compress : σ → List α → σ)

theorem positive (stream : Stream size σ α) : 0 < size := Nat.zero_lt_of_lt stream.short

@[ext]
theorem ext {first second : Stream size σ α} (state : first.state = second.state)
    (pending : first.pending = second.pending) : first = second := by
  cases first
  cases second
  cases state
  cases pending
  rfl

def feed (stream : Stream size σ α) (piece : List α) : Stream size σ α where
  state := absorbAll size compress stream.state (stream.pending ++ piece)
  pending := rest size (stream.pending ++ piece)
  short := length_rest_lt stream.positive _

theorem feed_nil (stream : Stream size σ α) : stream.feed compress [] = stream := by
  apply Stream.ext
  · dsimp only [feed]
    rw [List.append_nil, absorbAll_short _ stream.short]
  · dsimp only [feed]
    rw [List.append_nil, rest_short stream.short]

/-- It does not matter how the data are cut. -/
theorem feed_feed (stream : Stream size σ α) (first second : List α) :
    (stream.feed compress first).feed compress second =
      stream.feed compress (first ++ second) := by
  apply Stream.ext
  · dsimp only [feed]
    rw [← absorbAll_append compress stream.positive, List.append_assoc]
  · dsimp only [feed]
    rw [← rest_append stream.positive, List.append_assoc]

/-- A piece that completes the block starts a new one. -/
theorem feed_block (stream : Stream size σ α) {first : List α}
    (sized : (stream.pending ++ first).length = size) (second : List α) :
    stream.feed compress (first ++ second) =
      feed compress ⟨compress stream.state (stream.pending ++ first), [], stream.positive⟩
        second := by
  apply Stream.ext
  · dsimp only [feed]
    rw [← List.append_assoc, absorbAll_block stream.positive _ sized]
    rfl
  · dsimp only [feed]
    rw [← List.append_assoc, rest_block stream.positive sized]
    rfl

theorem foldl_feed (pieces : List (List α)) (stream : Stream size σ α) :
    pieces.foldl (feed compress) stream = stream.feed compress pieces.flatten := by
  induction pieces generalizing stream with
  | nil => exact (feed_nil compress stream).symm
  | cons piece rest ih => rw [List.foldl_cons, ih, feed_feed, List.flatten_cons]

end Stream

end Blocks
