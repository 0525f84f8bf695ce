/-
This file gives the message authentication code over the buffered hash functions, and shows that it
computes what its standard says.
-/
import E2eeSecurity.Crypto.Sha256
import E2eeSecurity.Library.Hkdf

namespace E2eeSecurity

open Sha256

section Digest

/-- These types have the same context and blocks of 64 bytes. -/
inductive MdType
  | sha224
  | sha256
  deriving DecidableEq

def MdType.is224 : MdType → Bool
  | .sha224 => true
  | .sha256 => false

def MdType.size : MdType → Nat
  | .sha224 => 28
  | .sha256 => 32

def MdType.blockSize (_ : MdType) : Nat := 64

/-- The two halves of `hmac_ctx` are kept apart. -/
structure MdContext where
  type : MdType
  md : Sha256Context
  ipad : Bytes UInt8
  opad : Bytes UInt8

def mbedtlsMdSetup (type : MdType) : MdContext where
  type := type
  md := ⟨0, 0, Vector.replicate 8 0, List.replicate 64 0, false, List.length_replicate⟩
  ipad := List.replicate type.blockSize 0
  opad := List.replicate type.blockSize 0

def mbedtlsMdStarts (ctx : MdContext) : MdContext :=
  { ctx with md := mbedtlsSha256Starts ctx.md ctx.type.is224 }

def mbedtlsMdUpdate (ctx : MdContext) (input : Bytes UInt8) : Option MdContext :=
  (mbedtlsSha256Update ctx.md input).map fun md => { ctx with md := md }

def mbedtlsMdFinish (ctx : MdContext) : Option (Bytes UInt8 × MdContext) :=
  (mbedtlsSha256Finish ctx.md).map fun done => (done.1, { ctx with md := done.2 })

/-- This is the digest of the standard. -/
def mdHash (type : MdType) (data : Bytes UInt8) : Bytes UInt8 :=
  (Sha2.hash roundConstant (initialWords type.is224) data).take type.size

/-- The context has taken these data since it was started. -/
structure MdContext.Fed (ctx : MdContext) (data : Bytes UInt8) : Prop where
  holds : ctx.md.Holds ((startStream ctx.type.is224).feed sha256Compress data)
  kind : ctx.md.is224 = ctx.type.is224
  counted : ctx.md.count = UInt64.ofNat data.length

/-- The key of the context stays. -/
structure MdContext.SameKey (before after : MdContext) : Prop where
  type : after.type = before.type
  ipad : after.ipad = before.ipad
  opad : after.opad = before.opad

theorem mdStarts_fed (ctx : MdContext) : (mbedtlsMdStarts ctx).Fed [] where
  holds := by
    rw [Blocks.Stream.feed_nil]
    exact starts_holds ctx.md ctx.type.is224
  kind := rfl
  counted := starts_count ctx.md ctx.type.is224

theorem mdUpdate_fed {ctx : MdContext} {data : Bytes UInt8} (fed : ctx.Fed data)
    {input : Bytes UInt8} (short : input.length < 2 ^ 32) :
    ∃ after, mbedtlsMdUpdate ctx input = some after ∧ ctx.SameKey after ∧
      after.Fed (data ++ input) := by
  obtain ⟨md, updated, held, kind, counted⟩ := update_holds fed.holds input
  refine ⟨{ ctx with md := md }, ?_, ⟨rfl, rfl, rfl⟩, ?_, kind.trans fed.kind, ?_⟩
  · rw [mbedtlsMdUpdate, updated]
    rfl
  · rw [← Blocks.Stream.feed_feed]
    exact held
  · rw [List.length_append, UInt64.ofNat_add, ← fed.counted]
    rw [Nat.mod_eq_of_lt short] at counted
    exact counted

theorem mdFinish_fed {ctx : MdContext} {data : Bytes UInt8} (fed : ctx.Fed data) :
    ∃ after, mbedtlsMdFinish ctx = some (mdHash ctx.type data, after) ∧ ctx.SameKey after := by
  have digest := fed_digest fed.holds
  obtain ⟨done, finished, same⟩ := Option.map_eq_some_iff.mp digest
  refine ⟨{ ctx with md := done.2 }, ?_, rfl, rfl, rfl⟩
  have hashed : done.1 = mdHash ctx.type data := by
    rw [same, fed.counted, fed.kind, digestBytes_eq, mdHash]
    cases ctx.type <;> rfl
  rw [mbedtlsMdFinish, finished, Option.map_some, hashed]

theorem length_wordBytes (words : Sha2.Words) :
    (words.toList.flatMap Sha2.wordBytes).length = 32 := rfl

theorem length_mdHash (type : MdType) (data : Bytes UInt8) :
    (mdHash type data).length = type.size := by
  rw [mdHash, Sha2.hash, List.length_take, length_wordBytes]
  cases type <;> rfl

end Digest

section Authentication

/-- The key is added to the first bytes of a pad. -/
def xorKey (pad key : Bytes UInt8) : Bytes UInt8 :=
  (List.range key.length).foldl (fun pad i => pad.modify i (· ^^^ key.getD i 0)) pad

def MdContext.withPads (ctx : MdContext) (key : Bytes UInt8) : MdContext :=
  { ctx with
    ipad := xorKey (List.replicate ctx.type.blockSize 0x36) key
    opad := xorKey (List.replicate ctx.type.blockSize 0x5C) key }

def mbedtlsMdHmacStarts (ctx : MdContext) (key : Bytes UInt8) : Option MdContext :=
  (if ctx.type.blockSize < key.length then
    (mbedtlsMdUpdate (mbedtlsMdStarts ctx) key).bind mbedtlsMdFinish
  else some (key, ctx)).bind fun keyed =>
    let ctx := keyed.2.withPads keyed.1
    mbedtlsMdUpdate (mbedtlsMdStarts ctx) ctx.ipad

def mbedtlsMdHmacUpdate (ctx : MdContext) (input : Bytes UInt8) : Option MdContext :=
  mbedtlsMdUpdate ctx input

def mbedtlsMdHmacFinish (ctx : MdContext) : Option (Bytes UInt8 × MdContext) :=
  (mbedtlsMdFinish ctx).bind fun inner =>
    (mbedtlsMdUpdate (mbedtlsMdStarts inner.2) inner.2.opad).bind fun outer =>
      (mbedtlsMdUpdate outer inner.1).bind mbedtlsMdFinish

def mbedtlsMdHmac (type : MdType) (key input : Bytes UInt8) : Option (Bytes UInt8) :=
  (mbedtlsMdHmacStarts (mbedtlsMdSetup type) key).bind fun started =>
    (mbedtlsMdHmacUpdate started input).bind fun updated =>
      (mbedtlsMdHmacFinish updated).map Prod.fst

/-- This is the code of the standard over the digest of the type. -/
def mdHmac (type : MdType) (key message : Bytes UInt8) : Bytes UInt8 :=
  Hkdf.hmac (mdHash type) 64 key message

theorem getElem?_xorKey (pad key : Bytes UInt8) (count index : Nat) :
    ((List.range count).foldl (fun pad i => pad.modify i (· ^^^ key.getD i 0)) pad)[index]? =
      pad[index]?.map fun value => if index < count then value ^^^ key.getD index 0 else value := by
  induction count with
  | zero => simp
  | succ count ih =>
      rw [List.range_succ, List.foldl_append, List.foldl_cons, List.foldl_nil,
        List.getElem?_modify, ih]
      by_cases last : count = index
      · subst last
        simp
      · have same : index < count + 1 ↔ index < count := by omega
        simp [last, same]

/-- A key that fits in a block is added to both pads as if it were filled up with zeros. -/
theorem xorKey_eq (value : UInt8) {size : Nat} {key : Bytes UInt8} (fits : key.length ≤ size) :
    xorKey (List.replicate size value) key =
      (key ++ List.replicate (size - key.length) 0).map (· ^^^ value) := by
  apply List.ext_getElem?
  intro index
  rw [xorKey, getElem?_xorKey, List.getElem?_map]
  by_cases inKey : index < key.length
  · have inside : index < size := by omega
    simp [inKey, inside, List.getElem?_append_left, UInt8.xor_comm]
  · rw [List.getElem?_append_right (by omega)]
    by_cases inside : index < size
    · have behind : index - key.length < size - key.length := by omega
      simp [inKey, inside, behind]
    · have behind : ¬ index - key.length < size - key.length := by omega
      simp [inside, behind]

/-- The inner digest has taken the masked key and the message. -/
structure MdContext.Keyed (ctx : MdContext) (key message : Bytes UInt8) : Prop where
  inner : ctx.Fed (Hkdf.mask (mdHash ctx.type) 64 0x36 key ++ message)
  outer : ctx.opad = Hkdf.mask (mdHash ctx.type) 64 0x5C key

theorem length_mask (type : MdType) (value : UInt8) (key : Bytes UInt8) :
    (Hkdf.mask (mdHash type) 64 value key).length = 64 := by
  rw [Hkdf.mask, List.length_map, Hkdf.paddedKey]
  split
  · rw [List.length_append, List.length_replicate, length_mdHash]
    cases type <;> rfl
  · rw [List.length_append, List.length_replicate]
    omega

/-- From a key of at most one block both pads are masked keys. -/
theorem withPads_keyed (ctx : MdContext) {key block : Bytes UInt8} (fits : block.length ≤ 64)
    (padded : Hkdf.paddedKey (mdHash ctx.type) 64 key =
      block ++ List.replicate (64 - block.length) 0) :
    ∃ after, mbedtlsMdUpdate (mbedtlsMdStarts (ctx.withPads block)) (ctx.withPads block).ipad =
        some after ∧ after.type = ctx.type ∧ after.Keyed key [] := by
  have inner : (ctx.withPads block).ipad = Hkdf.mask (mdHash ctx.type) 64 0x36 key := by
    rw [Hkdf.mask, padded]
    exact xorKey_eq 0x36 fits
  have outer : (ctx.withPads block).opad = Hkdf.mask (mdHash ctx.type) 64 0x5C key := by
    rw [Hkdf.mask, padded]
    exact xorKey_eq 0x5C fits
  have short : (ctx.withPads block).ipad.length < 2 ^ 32 := by
    rw [inner, length_mask]
    decide
  obtain ⟨after, updated, same, fed⟩ := mdUpdate_fed (mdStarts_fed (ctx.withPads block)) short
  have sameType : after.type = ctx.type := same.type
  refine ⟨after, updated, sameType, ?_, ?_⟩
  · rw [sameType, List.append_nil, ← inner]
    exact fed
  · rw [sameType, ← outer]
    exact same.opad

theorem hmacStarts_keyed (ctx : MdContext) {key : Bytes UInt8} (short : key.length < 2 ^ 32) :
    ∃ after, mbedtlsMdHmacStarts ctx key = some after ∧ after.type = ctx.type ∧
      after.Keyed key [] := by
  unfold mbedtlsMdHmacStarts
  split
  next long =>
    -- the digest of the key takes its place
    obtain ⟨hashing, updated, hashingSame, fed⟩ := mdUpdate_fed (mdStarts_fed ctx) short
    obtain ⟨hashed, finished, hashedSame⟩ := mdFinish_fed fed
    have sameType : hashed.type = ctx.type := hashedSame.type.trans hashingSame.type
    have kept : hashing.type = ctx.type := hashingSame.type
    have fits : (mdHash ctx.type key).length ≤ 64 := by
      rw [length_mdHash]
      cases ctx.type <;> decide
    have padded : Hkdf.paddedKey (mdHash hashed.type) 64 key = mdHash ctx.type key ++
        List.replicate (64 - (mdHash ctx.type key).length) 0 := by
      have long64 : 64 < key.length := long
      rw [sameType, Hkdf.paddedKey, if_pos long64]
    obtain ⟨after, started, afterType, keyed⟩ := withPads_keyed hashed fits padded
    refine ⟨after, ?_, afterType.trans sameType, keyed⟩
    rw [updated, Option.bind_some, finished, Option.bind_some, kept]
    exact started
  next whole =>
    have whole64 : ¬ 64 < key.length := whole
    exact withPads_keyed ctx (Nat.le_of_not_lt whole64) (by rw [Hkdf.paddedKey, if_neg whole64])

theorem hmacUpdate_keyed {ctx : MdContext} {key message : Bytes UInt8}
    (keyed : ctx.Keyed key message) {input : Bytes UInt8} (short : input.length < 2 ^ 32) :
    ∃ after, mbedtlsMdHmacUpdate ctx input = some after ∧ after.type = ctx.type ∧
      after.Keyed key (message ++ input) := by
  obtain ⟨after, updated, same, fed⟩ := mdUpdate_fed keyed.inner short
  refine ⟨after, updated, same.type, ?_, ?_⟩
  · rw [same.type, ← List.append_assoc]
    exact fed
  · rw [same.opad, same.type]
    exact keyed.outer

theorem hmacFinish_keyed {ctx : MdContext} {key message : Bytes UInt8}
    (keyed : ctx.Keyed key message) :
    ∃ after, mbedtlsMdHmacFinish ctx = some (mdHmac ctx.type key message, after) ∧
      after.type = ctx.type := by
  obtain ⟨inner, finished, innerSame⟩ := mdFinish_fed keyed.inner
  have padShort : inner.opad.length < 2 ^ 32 := by
    rw [innerSame.opad, keyed.outer, length_mask]
    decide
  obtain ⟨outer, updated, outerSame, outerFed⟩ := mdUpdate_fed (mdStarts_fed inner) padShort
  have tmpShort : (mdHash ctx.type (Hkdf.mask (mdHash ctx.type) 64 0x36 key ++ message)).length <
      2 ^ 32 := by
    rw [length_mdHash]
    cases ctx.type <;> decide
  obtain ⟨complete, added, completeSame, completeFed⟩ := mdUpdate_fed outerFed tmpShort
  obtain ⟨after, ended, afterSame⟩ := mdFinish_fed completeFed
  have sameType : complete.type = ctx.type :=
    (completeSame.type.trans outerSame.type).trans innerSame.type
  refine ⟨after, ?_, afterSame.type.trans sameType⟩
  rw [mbedtlsMdHmacFinish, finished, Option.bind_some, updated, Option.bind_some, added,
    Option.bind_some, ended, sameType, innerSame.opad, keyed.outer]
  rfl

theorem mdHmac_eq (type : MdType) {key input : Bytes UInt8} (shortKey : key.length < 2 ^ 32)
    (short : input.length < 2 ^ 32) :
    mbedtlsMdHmac type key input = some (mdHmac type key input) := by
  obtain ⟨started, begun, startedType, keyed⟩ := hmacStarts_keyed (mbedtlsMdSetup type) shortKey
  obtain ⟨updated, fed, updatedType, keyedOn⟩ := hmacUpdate_keyed keyed short
  obtain ⟨after, finished, -⟩ := hmacFinish_keyed keyedOn
  have sameType : updated.type = type := updatedType.trans startedType
  rw [mbedtlsMdHmac, begun, Option.bind_some, fed, Option.bind_some, finished, sameType,
    List.nil_append]
  rfl

theorem length_mdHmac (type : MdType) (key message : Bytes UInt8) :
    (mdHmac type key message).length = type.size := length_mdHash type _

/-- A message that comes in pieces has the code of the whole message. -/
def hmacPieces (ctx : MdContext) (key : Bytes UInt8) (pieces : List (Bytes UInt8)) :
    Option (Bytes UInt8 × MdContext) :=
  ((mbedtlsMdHmacStarts ctx key).bind fun started =>
    pieces.foldlM mbedtlsMdHmacUpdate started).bind mbedtlsMdHmacFinish

theorem hmacUpdates_keyed {ctx : MdContext} {key message : Bytes UInt8}
    (keyed : ctx.Keyed key message) {pieces : List (Bytes UInt8)}
    (short : ∀ piece ∈ pieces, piece.length < 2 ^ 32) :
    ∃ after, pieces.foldlM mbedtlsMdHmacUpdate ctx = some after ∧ after.type = ctx.type ∧
      after.Keyed key (message ++ pieces.flatten) := by
  induction pieces generalizing ctx message with
  | nil =>
      refine ⟨ctx, rfl, rfl, ?_⟩
      rw [List.flatten_nil, List.append_nil]
      exact keyed
  | cons piece rest ih =>
      rw [List.forall_mem_cons] at short
      obtain ⟨between, updated, same, keyedOn⟩ := hmacUpdate_keyed keyed short.1
      obtain ⟨after, updatedOn, sameOn, last⟩ := ih keyedOn short.2
      refine ⟨after, ?_, sameOn.trans same, ?_⟩
      · rw [List.foldlM_cons, updated]
        exact updatedOn
      · rw [List.flatten_cons, ← List.append_assoc]
        exact last

theorem hmacPieces_standard (ctx : MdContext) {key : Bytes UInt8} (shortKey : key.length < 2 ^ 32)
    {pieces : List (Bytes UInt8)} (short : ∀ piece ∈ pieces, piece.length < 2 ^ 32) :
    ∃ after, hmacPieces ctx key pieces = some (mdHmac ctx.type key pieces.flatten, after) ∧
      after.type = ctx.type := by
  obtain ⟨started, begun, startedType, keyed⟩ := hmacStarts_keyed ctx shortKey
  obtain ⟨updated, fed, updatedType, keyedOn⟩ := hmacUpdates_keyed keyed short
  obtain ⟨after, finished, afterType⟩ := hmacFinish_keyed keyedOn
  have sameType : updated.type = ctx.type := updatedType.trans startedType
  refine ⟨after, ?_, afterType.trans sameType⟩
  rw [hmacPieces, begun, Option.bind_some, fed, Option.bind_some, finished, sameType,
    List.nil_append]

namespace Symbolic

/-- This key does not fit in a block. -/
def longKey : Bytes UInt8 := List.replicate 65 7

end Symbolic

/-- A long key is hashed first, also after a digest that was never finished. -/
theorem longKey_standard :
    ∃ after, hmacPieces ⟨.sha256, Symbolic.usedContext, [1], []⟩ Symbolic.longKey [[1], [2, 3]] =
        some (mdHmac .sha256 Symbolic.longKey [1, 2, 3], after) ∧ after.type = .sha256 := by
  apply hmacPieces_standard ⟨.sha256, Symbolic.usedContext, [1], []⟩
  · rw [Symbolic.longKey, List.length_replicate]
    decide
  · decide

end Authentication

end E2eeSecurity
