/-
This file gives the buffered interface of SHA-256 with its two byte counters, and shows which digest
comes out however the data are cut.
-/
import E2eeSecurity.Crypto.Sha256Block

namespace E2eeSecurity

open Sha256

section Interface

/-- The buffer keeps its size, and its bytes beyond the pending ones are left from earlier data. -/
structure Sha256Context where
  total0 : UInt32
  total1 : UInt32
  state : Vector UInt32 8
  buffer : Bytes UInt8
  is224 : Bool
  sized : buffer.length = 64

def Sha256Context.write (ctx : Sha256Context) (offset : Nat) (piece : Bytes UInt8)
    (inside : offset + piece.length ≤ 64) : Sha256Context :=
  { ctx with
    buffer := ctx.buffer.take offset ++ piece ++ ctx.buffer.drop (offset + piece.length)
    sized := by
      have sized := ctx.sized
      simp only [List.length_append, List.length_take, List.length_drop]
      omega }

/-- No result stands for a write behind the buffer. -/
def Sha256Context.memcpy (ctx : Sha256Context) (offset : Nat) (piece : Bytes UInt8) :
    Option Sha256Context :=
  if inside : offset + piece.length ≤ 64 then some (ctx.write offset piece inside) else none

def Sha256Context.memset (ctx : Sha256Context) (offset : Nat) (value : UInt8) (count : Nat) :
    Option Sha256Context :=
  ctx.memcpy offset (List.replicate count value)

def Sha256Context.process (ctx : Sha256Context) (data : Bytes UInt8) : Sha256Context :=
  { ctx with state := mbedtlsInternalSha256Process ctx.state data }

def mbedtlsSha256Starts (ctx : Sha256Context) (is224 : Bool) : Sha256Context :=
  { ctx with
    total0 := 0
    total1 := 0
    state :=
      if is224 then #v[0xC1059ED8, 0x367CD507, 0x3070DD17, 0xF70E5939,
        0xFFC00B31, 0x68581511, 0x64F98FA7, 0xBEFA4FA4]
      else #v[0x6A09E667, 0xBB67AE85, 0x3C6EF372, 0xA54FF53A,
        0x510E527F, 0x9B05688C, 0x1F83D9AB, 0x5BE0CD19]
    is224 := is224 }

/-- Complete blocks are taken from the input without a copy. -/
def processBlocks (ctx : Sha256Context) (input : Bytes UInt8) : Sha256Context × Bytes UInt8 :=
  if 64 ≤ input.length then processBlocks (ctx.process (input.take 64)) (input.drop 64)
  else (ctx, input)
termination_by input.length
decreasing_by
  rw [List.length_drop]
  omega

/-- The length is added in 32 bits, and one carry is counted. -/
def Sha256Context.addLength (ctx : Sha256Context) (ilen : Nat) : Sha256Context :=
  let total0 := ctx.total0 + UInt32.ofNat ilen
  { ctx with
    total0 := total0
    total1 := if total0 < UInt32.ofNat ilen then ctx.total1 + 1 else ctx.total1 }

/-- What is left of the input is kept in the buffer. -/
def updateRest (ctx : Sha256Context) (left : Nat) (input : Bytes UInt8) : Option Sha256Context :=
  let taken := processBlocks ctx input
  if 0 < taken.2.length then taken.1.memcpy left taken.2 else some taken.1

def mbedtlsSha256Update (ctx : Sha256Context) (input : Bytes UInt8) : Option Sha256Context :=
  if input.length = 0 then some ctx
  else
    let left := (ctx.total0 &&& 0x3F).toNat
    let fill := 64 - left
    let counted := ctx.addLength input.length
    if left ≠ 0 ∧ fill ≤ input.length then
      (counted.memcpy left (input.take fill)).bind fun filled =>
        updateRest (filled.process filled.buffer) 0 (input.drop fill)
    else updateRest counted left input

def outputBytes (ctx : Sha256Context) : Bytes UInt8 :=
  let state (index : Nat) := ctx.state.toList.getD index 0
  putUint32Be (state 0) ++ putUint32Be (state 1) ++ putUint32Be (state 2) ++
    putUint32Be (state 3) ++ putUint32Be (state 4) ++ putUint32Be (state 5) ++
    putUint32Be (state 6) ++ (if ctx.is224 then [] else putUint32Be (state 7))

/-- The bytes behind the data up to the place of the length are cleared. -/
def padBuffer (ctx : Sha256Context) (used : Nat) : Option Sha256Context :=
  if used ≤ 56 then ctx.memset used 0 (56 - used)
  else (ctx.memset used 0 (64 - used)).bind fun full =>
    (full.process full.buffer).memset 0 0 56

def mbedtlsSha256Finish (ctx : Sha256Context) : Option (Bytes UInt8 × Sha256Context) :=
  let used := (ctx.total0 &&& 0x3F).toNat
  (ctx.memcpy used [0x80]).bind fun marked =>
    (padBuffer marked (used + 1)).bind fun padded =>
      let high := padded.total0 >>> 29 ||| padded.total1 <<< 3
      let low := padded.total0 <<< 3
      (padded.memcpy 56 (putUint32Be high)).bind fun upper =>
        (upper.memcpy 60 (putUint32Be low)).map fun complete =>
          let last := complete.process complete.buffer
          (outputBytes last, last)

end Interface

section Counters

/-- Both counters are read as one. -/
def Sha256Context.count (ctx : Sha256Context) : UInt64 :=
  UInt64.ofNat (ctx.total1.toNat * 2 ^ 32 + ctx.total0.toNat)

theorem pendingLength_eq (total : UInt32) : (total &&& 0x3F).toNat = total.toNat % 64 := by
  rw [UInt32.toNat_and]
  exact Nat.and_two_pow_sub_one_eq_mod total.toNat 6

theorem addLength_total0 (ctx : Sha256Context) (ilen : Nat) :
    (ctx.addLength ilen).total0.toNat = (ctx.total0.toNat + ilen) % 2 ^ 32 := by
  rw [Sha256Context.addLength, UInt32.toNat_add, UInt32.toNat_ofNat', Nat.add_mod_mod]

/-- Of each length only the lower 32 bits are counted. -/
theorem addLength_count (ctx : Sha256Context) (ilen : Nat) :
    (ctx.addLength ilen).count = ctx.count + UInt64.ofNat (ilen % 2 ^ 32) := by
  apply UInt64.toNat_inj.mp
  have low := ctx.total0.toNat_lt
  have one : (1 : UInt32).toNat = 1 := rfl
  simp only [Sha256Context.count, Sha256Context.addLength]
  split
  next carry =>
    rw [UInt32.lt_iff_toNat_lt, UInt32.toNat_add] at carry
    simp only [UInt32.toNat_add, UInt32.toNat_ofNat', UInt64.toNat_add, UInt64.toNat_ofNat',
      one] at carry ⊢
    omega
  next kept =>
    rw [UInt32.lt_iff_toNat_lt, UInt32.toNat_add] at kept
    simp only [UInt32.toNat_add, UInt32.toNat_ofNat', UInt64.toNat_add,
      UInt64.toNat_ofNat'] at kept ⊢
    omega

end Counters

section Buffer

theorem memcpy_eq (ctx : Sha256Context) {offset : Nat} {piece : Bytes UInt8}
    (inside : offset + piece.length ≤ 64) :
    ctx.memcpy offset piece = some (ctx.write offset piece inside) := dif_pos inside

/-- Up to the end of the piece the buffer is known. -/
theorem take_write (ctx : Sha256Context) {before piece : Bytes UInt8} {offset : Nat}
    (inside : offset + piece.length ≤ 64) (sized : before.length = offset)
    (known : ctx.buffer.take offset = before) :
    (ctx.write offset piece inside).buffer.take (offset + piece.length) = before ++ piece := by
  have whole : (before ++ piece).length = offset + piece.length := by
    rw [List.length_append, sized]
  dsimp only [Sha256Context.write]
  rw [known, List.take_append_of_le_length whole.ge, List.take_of_length_le whole.le]

theorem length_putUint32Be (n : UInt32) : (putUint32Be n).length = 4 := rfl

end Buffer

section Streaming

abbrev Sha256Stream := Blocks.Stream 64 Sha2.Words UInt8

abbrev sha256Compress : Sha2.Words → List UInt8 → Sha2.Words := Sha2.compress roundConstant

/-- The context holds the state and the pending bytes, and the counter knows where these end. -/
structure Sha256Context.Holds (ctx : Sha256Context) (stream : Sha256Stream) : Prop where
  state : view 0 ctx.state = stream.state
  pending : ctx.buffer.take stream.pending.length = stream.pending
  left : ctx.total0.toNat % 64 = stream.pending.length

/-- Nothing but the state and the buffer differs. -/
structure Sha256Context.Counted (before after : Sha256Context) : Prop where
  total0 : after.total0 = before.total0
  total1 : after.total1 = before.total1
  is224 : after.is224 = before.is224

theorem processBlocks_state (ctx : Sha256Context) (input : Bytes UInt8) :
    view 0 (processBlocks ctx input).1.state =
      Blocks.absorbAll 64 sha256Compress (view 0 ctx.state) input := by
  fun_induction processBlocks ctx input with
  | case1 ctx input long ih =>
      have first : (input.take 64).length = 64 := List.length_take_of_le long
      have joined := List.take_append_drop 64 input
      rw [ih]
      conv_rhs => rw [← joined, Blocks.absorbAll_block (by decide) _ first]
      exact congrArg (Blocks.absorbAll 64 sha256Compress · _) (process_eq _ _)
  | case2 ctx input short => exact (Blocks.absorbAll_short _ (Nat.lt_of_not_le short)).symm

theorem processBlocks_rest (ctx : Sha256Context) (input : Bytes UInt8) :
    (processBlocks ctx input).2 = Blocks.rest 64 input := by
  fun_induction processBlocks ctx input with
  | case1 ctx input long ih =>
      have first : (input.take 64).length = 64 := List.length_take_of_le long
      have joined := List.take_append_drop 64 input
      rw [ih]
      conv_rhs => rw [← joined, Blocks.rest_block (by decide) first]
  | case2 ctx input short => exact (Blocks.rest_short (Nat.lt_of_not_le short)).symm

theorem processBlocks_counted (ctx : Sha256Context) (input : Bytes UInt8) :
    ctx.Counted (processBlocks ctx input).1 ∧ (processBlocks ctx input).1.buffer = ctx.buffer := by
  fun_induction processBlocks ctx input with
  | case1 ctx input long ih => exact ⟨⟨ih.1.total0, ih.1.total1, ih.1.is224⟩, ih.2⟩
  | case2 ctx input short => exact ⟨⟨rfl, rfl, rfl⟩, rfl⟩

/-- The pending bytes are followed by the input, and the last block is complete only if it starts
with the input. -/
theorem updateRest_holds (ctx : Sha256Context) (stream : Sha256Stream) (input : Bytes UInt8)
    (state : view 0 ctx.state = stream.state)
    (pending : ctx.buffer.take stream.pending.length = stream.pending)
    (fits : stream.pending = [] ∨ stream.pending.length + input.length < 64)
    (left : ctx.total0.toNat % 64 = (stream.pending.length + input.length) % 64) :
    ∃ after, updateRest ctx stream.pending.length input = some after ∧ ctx.Counted after ∧
      after.Holds (stream.feed sha256Compress input) := by
  have counted := processBlocks_counted ctx input
  have fed : view 0 (processBlocks ctx input).1.state =
        (stream.feed sha256Compress input).state ∧
      (stream.feed sha256Compress input).pending =
        stream.pending ++ (processBlocks ctx input).2 := by
    rw [processBlocks_state, processBlocks_rest, state]
    dsimp only [Blocks.Stream.feed]
    obtain empty | short := fits
    · rw [empty]
      exact ⟨rfl, rfl⟩
    · have whole : (stream.pending ++ input).length < 64 := by
        rw [List.length_append]
        exact short
      have piece : input.length < 64 := by omega
      rw [Blocks.absorbAll_short _ whole, Blocks.rest_short whole,
        Blocks.absorbAll_short _ piece, Blocks.rest_short piece]
      exact ⟨rfl, rfl⟩
  have sum : (stream.feed sha256Compress input).pending.length =
      (stream.pending.length + input.length) % 64 := by
    rw [Blocks.Stream.feed, Blocks.length_rest, List.length_append]
  have inside := (stream.feed sha256Compress input).short
  rw [fed.2, List.length_append] at inside
  unfold updateRest
  dsimp only
  split
  · rw [memcpy_eq _ inside.le]
    refine ⟨_, rfl, ⟨counted.1.total0, counted.1.total1, counted.1.is224⟩, fed.1, ?_, ?_⟩
    · rw [fed.2, List.length_append]
      exact take_write _ _ rfl (counted.2 ▸ pending)
    · exact (congrArg (fun total : UInt32 => total.toNat % 64) counted.1.total0).trans
        (left.trans sum.symm)
  next empty =>
    have nothing : (processBlocks ctx input).2 = [] := by
      apply List.eq_nil_of_length_eq_zero
      omega
    rw [nothing, List.append_nil] at fed
    refine ⟨_, rfl, counted.1, fed.1, ?_, ?_⟩
    · rw [fed.2, counted.2]
      exact pending
    · rw [counted.1.total0]
      exact left.trans sum.symm

theorem addLength_left (ctx : Sha256Context) {stream : Sha256Stream}
    (left : ctx.total0.toNat % 64 = stream.pending.length) (ilen : Nat) :
    (ctx.addLength ilen).total0.toNat % 64 = (stream.pending.length + ilen) % 64 := by
  rw [addLength_total0]
  omega

/-- The first bytes complete the block in the buffer, and the second ones start a new block. -/
theorem filled_holds (ctx : Sha256Context) (stream : Sha256Stream) {first second : Bytes UInt8}
    (state : view 0 ctx.state = stream.state)
    (pending : ctx.buffer.take stream.pending.length = stream.pending)
    (sized : (stream.pending ++ first).length = 64)
    (left : ctx.total0.toNat % 64 = (stream.pending.length + (first ++ second).length) % 64) :
    ∃ after, ((ctx.memcpy stream.pending.length first).bind fun filled =>
        updateRest (filled.process filled.buffer) 0 second) = some after ∧
      ctx.Counted after ∧ after.Holds (stream.feed sha256Compress (first ++ second)) := by
  have inside : stream.pending.length + first.length ≤ 64 := by
    rw [← List.length_append]
    exact sized.le
  have whole : (ctx.write stream.pending.length first inside).buffer = stream.pending ++ first := by
    have known := take_write ctx inside rfl pending
    rw [← List.length_append, sized] at known
    rw [← known]
    exact (List.take_of_length_le (Sha256Context.sized _).le).symm
  have moved : view 0 ((ctx.write stream.pending.length first inside).process
      (ctx.write stream.pending.length first inside).buffer).state =
        sha256Compress stream.state (stream.pending ++ first) := by
    rw [← whole, ← state]
    exact process_eq _ _
  rw [memcpy_eq ctx inside, Option.bind_some, Blocks.Stream.feed_block sha256Compress stream sized]
  rw [List.length_append] at left sized
  have leftAfter : ctx.total0.toNat % 64 = (0 + second.length) % 64 := by omega
  obtain ⟨after, rest, counted, held⟩ := updateRest_holds _ ⟨_, [], stream.positive⟩ second moved
    rfl (.inl rfl) leftAfter
  exact ⟨after, rest, ⟨counted.total0, counted.total1, counted.is224⟩, held⟩

/-- An update feeds its input to the stream and counts it. -/
theorem update_holds {ctx : Sha256Context} {stream : Sha256Stream} (holds : ctx.Holds stream)
    (input : Bytes UInt8) :
    ∃ after, mbedtlsSha256Update ctx input = some after ∧
      after.Holds (stream.feed sha256Compress input) ∧ after.is224 = ctx.is224 ∧
      after.count = ctx.count + UInt64.ofNat (input.length % 2 ^ 32) := by
  have counts {after : Sha256Context} (counted : (ctx.addLength input.length).Counted after) :
      after.is224 = ctx.is224 ∧
        after.count = ctx.count + UInt64.ofNat (input.length % 2 ^ 32) := by
    rw [← addLength_count, Sha256Context.count, counted.total0, counted.total1]
    exact ⟨counted.is224, rfl⟩
  have leftAfter := addLength_left ctx holds.left input.length
  unfold mbedtlsSha256Update
  split
  next empty =>
    rw [List.eq_nil_of_length_eq_zero empty, Blocks.Stream.feed_nil]
    exact ⟨ctx, rfl, holds, rfl, (UInt64.add_zero _).symm⟩
  next nonempty =>
    rw [pendingLength_eq, holds.left]
    dsimp only
    split
    next full =>
      have sized :
          (stream.pending ++ input.take (64 - stream.pending.length)).length = 64 := by
        have short := stream.short
        rw [List.length_append, List.length_take_of_le full.2]
        omega
      have joined := List.take_append_drop (64 - stream.pending.length) input
      have leftJoined : (ctx.addLength input.length).total0.toNat % 64 =
          (stream.pending.length + (input.take (64 - stream.pending.length) ++
            input.drop (64 - stream.pending.length)).length) % 64 := by
        rw [joined]
        exact leftAfter
      obtain ⟨after, rest, counted, held⟩ := filled_holds (ctx.addLength input.length) stream
        holds.state holds.pending sized leftJoined
      exact ⟨after, rest, joined ▸ held, counts counted⟩
    next partly =>
      have fits : stream.pending = [] ∨ stream.pending.length + input.length < 64 := by
        by_cases empty : stream.pending.length = 0
        · exact .inl (List.eq_nil_of_length_eq_zero empty)
        · right
          omega
      obtain ⟨after, rest, counted, held⟩ :=
        updateRest_holds (ctx.addLength input.length) stream input holds.state holds.pending fits
          leftAfter
      exact ⟨after, rest, held, counts counted⟩

end Streaming

section Padding

theorem high_toNat (total0 total1 : UInt32) :
    (total0 >>> 29 ||| total1 <<< 3).toNat =
      8 * (total1.toNat % 2 ^ 29) + total0.toNat / 2 ^ 29 := by
  have low := total0.toNat_lt
  have small : total0.toNat / 2 ^ 29 < 2 ^ 3 := by omega
  have shifted : (total1 <<< 3).toNat = 2 ^ 3 * (total1.toNat % 2 ^ 29) := by
    rw [UInt32.toNat_shiftLeft]
    change total1.toNat <<< 3 % 2 ^ 32 = _
    rw [Nat.shiftLeft_eq]
    omega
  have moved : (total0 >>> 29).toNat = total0.toNat / 2 ^ 29 := by
    rw [UInt32.toNat_shiftRight]
    exact Nat.shiftRight_eq_div_pow _ _
  rw [UInt32.toNat_or, shifted, moved, Nat.or_comm, ← Nat.two_pow_add_eq_or_of_lt small]

/-- The two words hold the number of bits. -/
theorem words_toNat (ctx : Sha256Context) :
    (8 * ctx.count).toNat = (ctx.total0 >>> 29 ||| ctx.total1 <<< 3).toNat * 2 ^ 32 +
      (ctx.total0 <<< 3).toNat := by
  have shifted : (ctx.total0 <<< 3).toNat = ctx.total0.toNat * 8 % 2 ^ 32 := by
    rw [UInt32.toNat_shiftLeft]
    exact congrArg (· % 2 ^ 32) (Nat.shiftLeft_eq _ _)
  have low := ctx.total0.toNat_lt
  have high := ctx.total1.toNat_lt
  have eight : (8 : UInt64).toNat = 8 := rfl
  rw [high_toNat, shifted, UInt64.toNat_mul, Sha256Context.count, UInt64.toNat_ofNat', eight]
  omega

theorem lengthBytes_eq {high low : UInt32} {bits : UInt64}
    (same : bits.toNat = high.toNat * 2 ^ 32 + low.toNat) :
    putUint32Be high ++ putUint32Be low = Sha2.lengthBytes bits := by
  have lowSmall := low.toNat_lt
  have highSmall := high.toNat_lt
  simp only [putUint32Be, Sha2.lengthBytes, List.range, List.range.loop, List.map_cons,
    List.map_nil, List.cons_append, List.nil_append, List.cons.injEq, and_true]
  refine ⟨?_, ?_, ?_, ?_, ?_, ?_, ?_, ?_⟩ <;> apply UInt8.toNat_inj.mp <;>
    simp [same, Nat.shiftRight_eq_div_pow] <;> omega

/-- With a tail of eight bytes the buffer is the last block of the padded data. -/
theorem padBuffer_some {ctx : Sha256Context} {stream : Sha256Stream}
    (state : view 0 ctx.state = stream.state)
    (marked : ctx.buffer.take (stream.pending.length + 1) = stream.pending ++ [0x80]) :
    ∃ padded, padBuffer ctx (stream.pending.length + 1) = some padded ∧ ctx.Counted padded ∧
      ∀ tail : Bytes UInt8, tail.length = 8 →
        sha256Compress (view 0 padded.state) (padded.buffer.take 56 ++ tail) =
          Blocks.absorbAll 64 sha256Compress stream.state (stream.pending ++
            0x80 :: (List.replicate ((119 - stream.pending.length % 64) % 64) 0 ++ tail)) := by
  have short := stream.short
  have known : (stream.pending ++ [0x80]).length = stream.pending.length + 1 := by
    rw [List.length_append, List.length_singleton]
  unfold padBuffer
  split
  next room =>
    have inside : stream.pending.length + 1 +
        (List.replicate (56 - (stream.pending.length + 1)) (0 : UInt8)).length ≤ 64 := by
      rw [List.length_replicate]
      omega
    have filled := take_write ctx inside known marked
    rw [List.length_replicate, Nat.add_sub_of_le room] at filled
    refine ⟨_, memcpy_eq ctx inside, ⟨rfl, rfl, rfl⟩, ?_⟩
    intro tail sized
    have count : (119 - stream.pending.length % 64) % 64 = 56 - (stream.pending.length + 1) := by
      omega
    have regrouped : stream.pending ++
        0x80 :: (List.replicate (56 - (stream.pending.length + 1)) 0 ++ tail) =
          stream.pending ++ [0x80] ++ List.replicate (56 - (stream.pending.length + 1)) 0 ++
            tail := by
      simp
    have wholeBlock : (stream.pending ++ [0x80] ++
        List.replicate (56 - (stream.pending.length + 1)) (0 : UInt8) ++ tail).length = 64 := by
      rw [List.length_append, List.length_append, known, List.length_replicate, sized]
      omega
    rw [filled, count, regrouped, Blocks.absorbAll_single (by decide) _ wholeBlock, ← state]
    rfl
  next full =>
    have inside : stream.pending.length + 1 +
        (List.replicate (64 - (stream.pending.length + 1)) (0 : UInt8)).length ≤ 64 := by
      rw [List.length_replicate]
      omega
    have filled := take_write ctx inside known marked
    rw [List.length_replicate, Nat.add_sub_of_le (by omega),
      List.take_of_length_le (Sha256Context.sized _).le] at filled
    have cleared : 0 + (List.replicate 56 (0 : UInt8)).length ≤ 64 := by decide
    rw [Sha256Context.memset, memcpy_eq ctx inside, Option.bind_some]
    refine ⟨_, memcpy_eq _ cleared, ⟨rfl, rfl, rfl⟩, ?_⟩
    intro tail sized
    have zeros := take_write ((ctx.write _ _ inside).process (ctx.write _ _ inside).buffer) cleared
      rfl rfl
    have moved := (process_eq (ctx.write _ _ inside).buffer ctx.state).trans
      (congrArg (sha256Compress _) filled)
    have count : (119 - stream.pending.length % 64) % 64 =
        64 - (stream.pending.length + 1) + 56 := by omega
    have regrouped : stream.pending ++
        0x80 :: (List.replicate (64 - (stream.pending.length + 1) + 56) 0 ++ tail) =
          stream.pending ++ [0x80] ++ List.replicate (64 - (stream.pending.length + 1)) 0 ++
            (List.replicate 56 0 ++ tail) := by
      rw [List.replicate_add]
      simp
    have wholeBlock : (stream.pending ++ [0x80] ++
        List.replicate (64 - (stream.pending.length + 1)) (0 : UInt8)).length = 64 := by
      rw [List.length_append, known, List.length_replicate]
      omega
    have lastBlock : (List.replicate 56 (0 : UInt8) ++ tail).length = 64 := by
      rw [List.length_append, List.length_replicate, sized]
    rw [count, regrouped, Blocks.absorbAll_block (by decide) _ wholeBlock,
      Blocks.absorbAll_single (by decide) _ lastBlock, ← state]
    exact congr (congrArg sha256Compress moved) (congrArg (· ++ tail) zeros)

/-- The standard reads the first words of the state as the digest. -/
def digestBytes (is224 : Bool) (words : Sha2.Words) : Bytes UInt8 :=
  (words.toList.take (if is224 then 7 else 8)).flatMap Sha2.wordBytes

theorem outputBytes_eq (ctx : Sha256Context) :
    outputBytes ctx = digestBytes ctx.is224 (view 0 ctx.state) := by
  have word (index : Fin 8) : ctx.state.toList.getD index 0 = ctx.state[index] := by simp
  have words : outputBytes ctx = putUint32Be ctx.state[(0 : Fin 8)] ++
      putUint32Be ctx.state[(1 : Fin 8)] ++ putUint32Be ctx.state[(2 : Fin 8)] ++
      putUint32Be ctx.state[(3 : Fin 8)] ++ putUint32Be ctx.state[(4 : Fin 8)] ++
      putUint32Be ctx.state[(5 : Fin 8)] ++ putUint32Be ctx.state[(6 : Fin 8)] ++
      (if ctx.is224 then [] else putUint32Be ctx.state[(7 : Fin 8)]) := by
    simp only [← word]
    rfl
  rw [words, digestBytes]
  cases ctx.is224 <;> rfl

/-- Both words of the length go behind the padded data. -/
theorem lengthWritten (padded : Sha256Context) :
    ∃ upper complete,
      padded.memcpy 56 (putUint32Be (padded.total0 >>> 29 ||| padded.total1 <<< 3)) = some upper ∧
      upper.memcpy 60 (putUint32Be (padded.total0 <<< 3)) = some complete ∧
      complete.state = padded.state ∧ complete.is224 = padded.is224 ∧
      complete.buffer = padded.buffer.take 56 ++ Sha2.lengthBytes (8 * padded.count) := by
  have high : 56 + (putUint32Be (padded.total0 >>> 29 ||| padded.total1 <<< 3)).length ≤ 64 := by
    rw [length_putUint32Be]
    decide
  have low : 60 + (putUint32Be (padded.total0 <<< 3)).length ≤ 64 := by rw [length_putUint32Be]
  have front : (padded.buffer.take 56).length = 56 := by
    rw [List.length_take_of_le]
    rw [padded.sized]
    decide
  have sixty : (padded.buffer.take 56 ++
      putUint32Be (padded.total0 >>> 29 ||| padded.total1 <<< 3)).length = 60 := by
    rw [List.length_append, front, length_putUint32Be]
  have whole := take_write (padded.write 56 _ high) low sixty (take_write padded high front rfl)
  rw [length_putUint32Be, List.take_of_length_le (Sha256Context.sized _).le, List.append_assoc,
    lengthBytes_eq (words_toNat padded)] at whole
  exact ⟨_, _, memcpy_eq padded high, memcpy_eq _ low, rfl, rfl, whole⟩

/-- The digest is that of the padded data with the counted length. -/
theorem finish_digest {ctx : Sha256Context} {stream : Sha256Stream} (holds : ctx.Holds stream) :
    (mbedtlsSha256Finish ctx).map Prod.fst = some (digestBytes ctx.is224
      (Blocks.absorbAll 64 sha256Compress stream.state (stream.pending ++
        Sha2.padding stream.pending.length (8 * ctx.count)))) := by
  have inside : stream.pending.length + [(0x80 : UInt8)].length ≤ 64 := stream.short
  have marked := take_write ctx inside rfl holds.pending
  obtain ⟨padded, done, counted, closing⟩ := padBuffer_some
    (show view 0 (ctx.write stream.pending.length [0x80] inside).state = stream.state from
      holds.state) marked
  obtain ⟨upper, complete, high, low, state, is224, buffer⟩ := lengthWritten padded
  have counts : padded.count = ctx.count := by
    rw [Sha256Context.count, counted.total0, counted.total1]
    rfl
  have last : view 0 (mbedtlsInternalSha256Process complete.state complete.buffer) =
      Blocks.absorbAll 64 sha256Compress stream.state (stream.pending ++
        Sha2.padding stream.pending.length (8 * ctx.count)) := by
    rw [process_eq, state, buffer, counts]
    exact closing _ (by rw [Sha2.lengthBytes, List.length_map, List.length_range])
  rw [mbedtlsSha256Finish, pendingLength_eq, holds.left, memcpy_eq ctx inside, Option.bind_some,
    done, Option.bind_some]
  dsimp only
  rw [high, Option.bind_some, low, Option.map_some, Option.map_some, outputBytes_eq]
  dsimp only [Sha256Context.process]
  rw [last, is224, counted.is224]
  rfl

end Padding

section Digests

/-- The standard starts from these words. -/
def initialWords (is224 : Bool) : Sha2.Words :=
  if is224 then ⟨0xC1059ED8, 0x367CD507, 0x3070DD17, 0xF70E5939,
    0xFFC00B31, 0x68581511, 0x64F98FA7, 0xBEFA4FA4⟩
  else ⟨0x6A09E667, 0xBB67AE85, 0x3C6EF372, 0xA54FF53A,
    0x510E527F, 0x9B05688C, 0x1F83D9AB, 0x5BE0CD19⟩

/-- The words of the longer digest are taken from the square roots of the first prime numbers. -/
theorem initialWords_roots : List.Forall₂ (Sha2.RootFraction 2) (firstPrimes.take 8)
    (initialWords false).toList := by
  decide +kernel

/-- Of the length of each piece only the lower 32 bits are counted. -/
def countedLength : List (Bytes UInt8) → UInt64
  | [] => 0
  | piece :: rest => UInt64.ofNat (piece.length % 2 ^ 32) + countedLength rest

/-- The data are handed over piece by piece, in a context that may have been used before. -/
def sha256Pieces (ctx : Sha256Context) (is224 : Bool) (pieces : List (Bytes UInt8)) :
    Option (Bytes UInt8) :=
  ((pieces.foldlM mbedtlsSha256Update (mbedtlsSha256Starts ctx is224)).bind
    mbedtlsSha256Finish).map Prod.fst

/-- At first nothing is pending. -/
def startStream (is224 : Bool) : Sha256Stream where
  state := initialWords is224
  pending := []
  short := by decide

theorem starts_holds (ctx : Sha256Context) (is224 : Bool) :
    (mbedtlsSha256Starts ctx is224).Holds (startStream is224) where
  state := by cases is224 <;> rfl
  pending := rfl
  left := rfl

theorem starts_count (ctx : Sha256Context) (is224 : Bool) :
    (mbedtlsSha256Starts ctx is224).count = 0 := by
  simp [Sha256Context.count, mbedtlsSha256Starts]

theorem updates_hold {ctx : Sha256Context} {stream : Sha256Stream} (holds : ctx.Holds stream)
    (pieces : List (Bytes UInt8)) :
    ∃ after, pieces.foldlM mbedtlsSha256Update ctx = some after ∧
      after.Holds (pieces.foldl (Blocks.Stream.feed sha256Compress) stream) ∧
      after.is224 = ctx.is224 ∧
      after.count = ctx.count + countedLength pieces := by
  induction pieces generalizing ctx stream with
  | nil => exact ⟨ctx, rfl, holds, rfl, (UInt64.add_zero _).symm⟩
  | cons piece rest ih =>
      obtain ⟨between, updated, held, sameKind, counted⟩ := update_holds holds piece
      obtain ⟨after, updatedOn, heldOn, sameKindOn, countedOn⟩ := ih held
      refine ⟨after, ?_, heldOn, sameKindOn.trans sameKind, ?_⟩
      · rw [List.foldlM_cons, updated]
        exact updatedOn
      · rw [countedOn, counted, UInt64.add_assoc]
        rfl

/-- The bytes behind the data depend on the length of the last piece of a block only. -/
theorem padding_rest (data : Bytes UInt8) (bits : UInt64) :
    Sha2.padding (Blocks.rest 64 data).length bits = Sha2.padding data.length bits := by
  rw [Sha2.padding, Sha2.padding, Blocks.length_rest, Nat.mod_mod]

/-- The digest is that of all data since the start, with the counted length behind them. -/
theorem fed_digest {ctx : Sha256Context} {is224 : Bool} {data : Bytes UInt8}
    (holds : ctx.Holds ((startStream is224).feed sha256Compress data)) :
    (mbedtlsSha256Finish ctx).map Prod.fst = some (digestBytes ctx.is224
      (Sha2.digestWith roundConstant (initialWords is224) (8 * ctx.count) data)) := by
  rw [finish_digest holds]
  dsimp only [Blocks.Stream.feed, startStream]
  rw [List.nil_append, padding_rest, ← Blocks.absorbAll_append sha256Compress (by decide)]
  rfl

theorem sha256Pieces_digest (ctx : Sha256Context) (is224 : Bool) (pieces : List (Bytes UInt8)) :
    sha256Pieces ctx is224 pieces = some (digestBytes is224 (Sha2.digestWith roundConstant
      (initialWords is224) (8 * countedLength pieces) pieces.flatten)) := by
  obtain ⟨after, updated, held, kind, counted⟩ := updates_hold (starts_holds ctx is224) pieces
  rw [starts_count, UInt64.zero_add] at counted
  rw [Blocks.Stream.foldl_feed] at held
  rw [sha256Pieces, updated, Option.bind_some, fed_digest held, counted, kind]
  rfl

theorem countedLength_eq {pieces : List (Bytes UInt8)}
    (short : ∀ piece ∈ pieces, piece.length < 2 ^ 32) :
    countedLength pieces = UInt64.ofNat pieces.flatten.length := by
  induction pieces with
  | nil => rfl
  | cons piece rest ih =>
      rw [List.forall_mem_cons] at short
      have front : UInt64.ofNat (piece.length % 2 ^ 32) = UInt64.ofNat piece.length := by
        rw [Nat.mod_eq_of_lt short.1]
      rw [List.flatten_cons, List.length_append, UInt64.ofNat_add, ← ih short.2, ← front]
      rfl

theorem digestBytes_eq (is224 : Bool) (words : Sha2.Words) :
    digestBytes is224 words =
      (words.toList.flatMap Sha2.wordBytes).take (if is224 then 28 else 32) := by
  cases is224 <;> rfl

/-- Pieces of less than four gibibytes give the digest of the standard, however they are cut. -/
theorem sha256Pieces_standard (ctx : Sha256Context) (is224 : Bool) {pieces : List (Bytes UInt8)}
    (short : ∀ piece ∈ pieces, piece.length < 2 ^ 32) :
    sha256Pieces ctx is224 pieces =
      some ((Sha2.hash roundConstant (initialWords is224) pieces.flatten).take
        (if is224 then 28 else 32)) := by
  rw [sha256Pieces_digest, countedLength_eq short, digestBytes_eq]
  rfl

namespace Symbolic

/-- This context is left from a digest that was never finished. -/
def usedContext : Sha256Context where
  total0 := 5
  total1 := 1
  state := Vector.replicate 8 9
  buffer := List.replicate 64 7
  is224 := true
  sized := List.length_replicate

end Symbolic

/-- Three letters in two pieces have the digest that the standard gives. -/
theorem letters_standard :
    sha256Pieces Symbolic.usedContext false [[97], [98, 99]] =
      some ((Sha2.hash roundConstant (initialWords false) [97, 98, 99]).take 32) := by
  apply sha256Pieces_standard Symbolic.usedContext false
  decide

end Digests

end E2eeSecurity
