/-
This file gives the encryption and decryption of files in chunks and shows which files decrypt.
-/
import E2eeSecurity.Crypto.Aes

namespace E2eeSecurity

open Gcm

def FILE_ENCRYPTION_BUFFER_LENGTH : Nat := 8192

def E2EES_RESULT_SUCC : Int32 := 0

def E2EES_RESULT_FAIL : Int32 := -1

/-- The size of a file is a `long`. -/
structure FileContent where
  data : Bytes UInt8
  fits : data.length < 2 ^ 63

/-- A removed output file is none. -/
structure FileOutcome where
  result : Int32
  outfile : Option (Bytes UInt8)
  deriving DecidableEq

/-- The last bytes of the array have no character of the text. -/
def AES256_FILE_AD : Bytes UInt8 :=
  "E2EES ---> file encryption with AES256/GCM/Nopadding algorithm".toList.map
    (fun character => character.toNat.toUInt8) ++ [0, 0]

def fileIv : Bytes UInt8 := List.replicate 12 0

/-- This is the state of the mode with the unread part of the input and the output so far. -/
structure FileStream where
  context : Context (Bytes UInt8)
  infile : Bytes UInt8
  outfile : Bytes UInt8

/-- The number of whole chunks is kept in an `int`. -/
def chunkTimes (size : Nat) : Int32 := Int32.ofInt (size / FILE_ENCRYPTION_BUFFER_LENGTH)

def chunkRest (size : Nat) : Nat := size % FILE_ENCRYPTION_BUFFER_LENGTH

section Files

variable (cipher : BlockCipher (Bytes UInt8))

/-- A read that finds fewer bytes than it asks for ends the work. -/
def updateChunk (count : Nat) (stream : FileStream) : Option FileStream :=
  let inBuffer := stream.infile.take count
  if inBuffer.length ≠ count then none
  else (update cipher stream.context inBuffer).map fun updated =>
    { context := updated.1
      infile := stream.infile.drop count
      outfile := stream.outfile ++ updated.2 }

def updateChunks : Nat → FileStream → Option FileStream
  | 0, stream => some stream
  | times + 1, stream => do
      let next ← updateChunk cipher FILE_ENCRYPTION_BUFFER_LENGTH stream
      updateChunks times next

/-- A negative number of chunks takes no turn of the loop. -/
def updateFile (size : Nat) (stream : FileStream) : Option FileStream := do
  let next ← updateChunks cipher (chunkTimes size).toInt.toNat stream
  if 0 < chunkRest size then updateChunk cipher (chunkRest size) next else some next

/-- The next bytes of the input are compared with the tag. -/
def verifyTag (outfile tag infile : Bytes UInt8) : Option (Bytes UInt8) :=
  let inputTag := infile.take AES256_GCM_TAG_LENGTH
  if inputTag.length ≠ AES256_GCM_TAG_LENGTH then none
  else if tagDiff inputTag tag = 0 then some outfile else none

/-- The output is removed after a failure. -/
def closeFile : Option (Bytes UInt8) → FileOutcome
  | some outfile => ⟨E2EES_RESULT_SUCC, some outfile⟩
  | none => ⟨E2EES_RESULT_FAIL, none⟩

def cryptoEncryptAesFile (infile : FileContent) (aesKey : Bytes UInt8) : FileOutcome :=
  closeFile do
    let context ← starts cipher aesKey .encrypt fileIv AES256_FILE_AD
    let last ← updateFile cipher infile.data.length ⟨context, infile.data, []⟩
    some (last.outfile ++ finish cipher last.context)

def cryptoDecryptAesFile (infile : FileContent) (aesKey : Bytes UInt8) : FileOutcome :=
  closeFile <|
    if infile.data.length < AES256_GCM_TAG_LENGTH then none
    else do
      let context ← starts cipher aesKey .decrypt fileIv AES256_FILE_AD
      let last ← updateFile cipher (infile.data.length - AES256_GCM_TAG_LENGTH)
        ⟨context, infile.data, []⟩
      verifyTag last.outfile (finish cipher last.context) last.infile

/-- A file is an encryption when some content has it as the output. -/
def IsEncryption (aesKey file : Bytes UInt8) : Prop :=
  ∃ content, cryptoEncryptAesFile cipher content aesKey = ⟨E2EES_RESULT_SUCC, some file⟩

end Files

/-- This is the number of bytes that the loop and the last read take from a file. -/
def coveredLength (size : Nat) : Nat :=
  FILE_ENCRYPTION_BUFFER_LENGTH * (chunkTimes size).toInt.toNat + chunkRest size

/-- This is the part of an encrypted file that decryption reads. -/
def coveredPart (file : Bytes UInt8) : Bytes UInt8 :=
  file.take (coveredLength (file.length - AES256_GCM_TAG_LENGTH) + AES256_GCM_TAG_LENGTH)

section Coverage

theorem toInt_chunkTimes (size : Nat) :
    (chunkTimes size).toInt = Int.bmod (size / 8192) (2 ^ 32) := by
  rw [chunkTimes, Int32.toInt_ofInt]
  rfl

/-- The chunk count never exceeds the number of whole chunks. -/
theorem coveredLength_le (size : Nat) : coveredLength size ≤ size := by
  rw [coveredLength, toInt_chunkTimes, chunkRest, FILE_ENCRYPTION_BUFFER_LENGTH, Int.bmod_def]
  split <;> omega

/-- A size below 2^44 has a chunk count that fits. -/
theorem coveredLength_eq {size : Nat} (small : size < 2 ^ 44) : coveredLength size = size := by
  rw [coveredLength, toInt_chunkTimes, chunkRest, FILE_ENCRYPTION_BUFFER_LENGTH, Int.bmod_def]
  split <;> omega

/-- At 2^44 the chunk count is negative, and the loop takes no turn. -/
theorem coveredLength_wraps : coveredLength (2 ^ 44) = 0 := by
  rw [coveredLength, toInt_chunkTimes]
  decide

theorem coveredPart_eq {file : Bytes UInt8}
    (small : file.length < 2 ^ 44 + AES256_GCM_TAG_LENGTH) : coveredPart file = file := by
  rw [coveredPart, coveredLength_eq (by omega), List.take_of_length_le (by omega)]

end Coverage

section Streams

variable (cipher : BlockCipher (Bytes UInt8))

/-- The stream has read the bytes and has written their output. -/
def FileStream.after (stream : FileStream) (count : Nat)
    (updated : Context (Bytes UInt8) × Bytes UInt8) : FileStream where
  context := updated.1
  infile := stream.infile.drop count
  outfile := stream.outfile ++ updated.2

/-- This is what one call on the next bytes of the input does. -/
def FileStream.updated (stream : FileStream) (count : Nat) : Option FileStream :=
  (update cipher stream.context (stream.infile.take count)).map (stream.after count)

theorem updateChunk_eq {count : Nat} {stream : FileStream}
    (enough : count ≤ stream.infile.length) :
    updateChunk cipher count stream = stream.updated cipher count := by
  rw [updateChunk, if_neg (by rw [List.length_take]; omega)]
  rfl

theorem updated_zero {stream : FileStream} (within : stream.context.len ≤ maxLen) :
    stream.updated cipher 0 = some stream := by
  rw [FileStream.updated, List.take_zero, update_nil cipher within, Option.map_some,
    FileStream.after, List.drop_zero, List.append_nil]

theorem updated_len {stream next : FileStream} {count : Nat}
    (updated : stream.updated cipher count = some next) :
    next.context.len ≤ maxLen ∧ next.infile = stream.infile.drop count := by
  obtain ⟨pair, done, rfl⟩ := Option.map_eq_some_iff.mp updated
  have within := ((update_eq_some_iff cipher).mp done).1
  rw [← (length_update cipher done).2] at within
  exact ⟨within, rfl⟩

/-- Two calls in a row do what one call on all the bytes does. -/
theorem updated_add (stream : FileStream) {first : Nat} (second : Nat)
    (whole : 16 ∣ first) (enough : first ≤ stream.infile.length) :
    stream.updated cipher (first + second) =
      (stream.updated cipher first).bind fun next => next.updated cipher second := by
  have blocks : 16 ∣ (stream.infile.take first).length := by
    rw [List.length_take, Nat.min_eq_left enough]
    exact whole
  rw [FileStream.updated, List.take_add, update_append cipher _ blocks, FileStream.updated]
  cases update cipher stream.context (stream.infile.take first) with
  | none => rfl
  | some early =>
      rw [Option.bind_some, Option.map_some, Option.bind_some, Option.map_map, FileStream.updated]
      congr 1
      funext late
      simp [FileStream.after, List.drop_drop, List.append_assoc]

/-- The loop over the chunks does what one call on their concatenation does. -/
theorem updateChunks_eq {times : Nat} {stream : FileStream}
    (within : stream.context.len ≤ maxLen)
    (enough : FILE_ENCRYPTION_BUFFER_LENGTH * times ≤ stream.infile.length) :
    updateChunks cipher times stream =
      stream.updated cipher (FILE_ENCRYPTION_BUFFER_LENGTH * times) := by
  induction times generalizing stream with
  | zero => exact (updated_zero cipher within).symm
  | succ times ih =>
      have first : FILE_ENCRYPTION_BUFFER_LENGTH ≤ stream.infile.length := by
        rw [Nat.mul_succ] at enough
        omega
      rw [Nat.mul_succ, Nat.add_comm (_ * times), updated_add cipher stream _ (by decide) first, updateChunks,
        updateChunk_eq cipher first]
      cases early : stream.updated cipher FILE_ENCRYPTION_BUFFER_LENGTH with
      | none => rfl
      | some next =>
          obtain ⟨small, rest⟩ := updated_len cipher early
          refine ih small ?_
          rw [rest, List.length_drop]
          rw [Nat.mul_succ] at enough
          omega

theorem updateFile_eq {size : Nat} {stream : FileStream}
    (within : stream.context.len ≤ maxLen) (enough : size ≤ stream.infile.length) :
    updateFile cipher size stream = stream.updated cipher (coveredLength size) := by
  have covered := coveredLength_le size
  have chunks : FILE_ENCRYPTION_BUFFER_LENGTH * (chunkTimes size).toInt.toNat ≤
      stream.infile.length := by
    rw [coveredLength] at covered
    omega
  rw [coveredLength, updated_add cipher stream _ (Nat.dvd_mul_right_of_dvd (by decide) _) chunks,
    updateFile, updateChunks_eq cipher within chunks]
  cases early : stream.updated cipher
      (FILE_ENCRYPTION_BUFFER_LENGTH * (chunkTimes size).toInt.toNat) with
  | none => rfl
  | some next =>
      obtain ⟨small, rest⟩ := updated_len cipher early
      simp only [Option.bind_eq_bind, Option.bind_some]
      split
      case isTrue =>
        apply updateChunk_eq
        rw [rest, List.length_drop]
        rw [coveredLength] at covered
        omega
      case isFalse exact =>
        rw [Nat.eq_zero_of_not_pos exact]
        exact (updated_zero cipher small).symm

end Streams

section Files

variable (cipher : BlockCipher (Bytes UInt8)) (aesKey : Bytes UInt8)

/-- The loops of a whole file do what one call on the covered part does. -/
theorem updateFile_cryptAndTag (mode : Mode) {size : Nat} {infile : Bytes UInt8} {α : Type}
    (close : Bytes UInt8 → Bytes UInt8 → Bytes UInt8 → Option α) (enough : size ≤ infile.length) :
    (do
      let context ← starts cipher aesKey mode fileIv AES256_FILE_AD
      let last ← updateFile cipher size ⟨context, infile, []⟩
      close last.outfile (finish cipher last.context) last.infile) =
      (cryptAndTag cipher aesKey mode fileIv AES256_FILE_AD
        (infile.take (coveredLength size))).bind fun written =>
          close written.1 written.2 (infile.drop (coveredLength size)) := by
  rw [cryptAndTag]
  cases started : starts cipher aesKey mode fileIv AES256_FILE_AD with
  | none => rfl
  | some context =>
      have fresh : context.len ≤ maxLen := by
        rw [starts_len cipher started]
        exact Nat.zero_le _
      simp only [Option.bind_eq_bind, Option.bind_some]
      rw [updateFile_eq cipher fresh enough, FileStream.updated]
      cases update cipher context (infile.take (coveredLength size)) with
      | none => rfl
      | some updated => simp [FileStream.after]

/-- The output of encryption is the output of the mode on the covered part. -/
theorem cryptoEncryptAesFile_eq (infile : FileContent) :
    cryptoEncryptAesFile cipher infile aesKey =
      closeFile ((cryptAndTag cipher aesKey .encrypt fileIv AES256_FILE_AD
        (infile.data.take (coveredLength infile.data.length))).bind fun written =>
          some (written.1 ++ written.2)) :=
  congrArg closeFile (updateFile_cryptAndTag cipher aesKey .encrypt
    (fun outfile tag _ => some (outfile ++ tag)) (Nat.le_refl _))

variable {aesKey}

theorem closeFile_eq_succ_iff {closed : Option (Bytes UInt8)} {outfile : Bytes UInt8} :
    closeFile closed = ⟨E2EES_RESULT_SUCC, some outfile⟩ ↔ closed = some outfile := by
  cases closed with
  | none => simp [closeFile]
  | some written => simp [closeFile]

theorem closeFile_eq_fail_iff {closed : Option (Bytes UInt8)} :
    closeFile closed = ⟨E2EES_RESULT_FAIL, none⟩ ↔ closed = none := by
  cases closed with
  | none => simp [closeFile]
  | some written => simp [closeFile]

/-- The check passes exactly when the next bytes are the tag. -/
theorem verifyTag_eq_some_iff {outfile tag infile plaintext : Bytes UInt8}
    (sized : (infile.take AES256_GCM_TAG_LENGTH).length = AES256_GCM_TAG_LENGTH)
    (tagLength : tag.length = AES256_GCM_TAG_LENGTH) :
    verifyTag outfile tag infile = some plaintext ↔
      infile.take AES256_GCM_TAG_LENGTH = tag ∧ outfile = plaintext := by
  rw [verifyTag, if_neg (not_not_intro sized)]
  simp only [tagDiff_eq_zero_iff (sized.trans tagLength.symm)]
  split
  case isTrue same => simp [same]
  case isFalse different => simp [different]

/-- Encryptions are the outputs of the mode with their tags. -/
theorem isEncryption_iff {file : Bytes UInt8} :
    IsEncryption cipher aesKey file ↔ ∃ content output tag,
      cryptAndTag cipher aesKey .encrypt fileIv AES256_FILE_AD content = some (output, tag) ∧
        output ++ tag = file := by
  constructor
  · rintro ⟨content, encrypted⟩
    rw [cryptoEncryptAesFile_eq, closeFile_eq_succ_iff, Option.bind_eq_some_iff] at encrypted
    obtain ⟨written, done, joined⟩ := encrypted
    exact ⟨_, written.1, written.2, done, Option.some.inj joined⟩
  · rintro ⟨content, output, tag, done, joined⟩
    have within := (length_cryptAndTag cipher done).2.2
    simp only [maxLen] at within
    have small : content.length < 2 ^ 44 := by omega
    refine ⟨⟨content, by omega⟩, ?_⟩
    rw [cryptoEncryptAesFile_eq, coveredLength_eq small, List.take_length, done,
      closeFile_eq_succ_iff, Option.bind_some, joined]

theorem IsEncryption.length {file : Bytes UInt8} (encrypted : IsEncryption cipher aesKey file) :
    AES256_GCM_TAG_LENGTH ≤ file.length ∧ file.length ≤ maxLen + AES256_GCM_TAG_LENGTH := by
  obtain ⟨content, output, tag, done, rfl⟩ := (isEncryption_iff cipher).mp encrypted
  obtain ⟨same, sized, within⟩ := length_cryptAndTag cipher done
  rw [List.length_append, same, sized]
  simp only [AES256_GCM_TAG_LENGTH]
  omega

/-- The covered part ends with the bytes that decryption reads as the tag. -/
theorem coveredPart_append {file : Bytes UInt8} (room : AES256_GCM_TAG_LENGTH ≤ file.length) :
    coveredPart file = file.take (coveredLength (file.length - AES256_GCM_TAG_LENGTH)) ++
      (file.drop (coveredLength (file.length - AES256_GCM_TAG_LENGTH))).take
        AES256_GCM_TAG_LENGTH ∧
    ((file.drop (coveredLength (file.length - AES256_GCM_TAG_LENGTH))).take
        AES256_GCM_TAG_LENGTH).length = AES256_GCM_TAG_LENGTH := by
  have covered := coveredLength_le (file.length - AES256_GCM_TAG_LENGTH)
  rw [coveredPart, List.take_add, List.length_take, List.length_drop]
  exact ⟨rfl, by omega⟩

/-- Decryption writes the plaintext of the covered part when its tag is there. -/
theorem cryptoDecryptAesFile_eq_succ_iff {infile : FileContent} {outfile : Bytes UInt8} :
    cryptoDecryptAesFile cipher infile aesKey = ⟨E2EES_RESULT_SUCC, some outfile⟩ ↔
      ∃ output tag, cryptAndTag cipher aesKey .decrypt fileIv AES256_FILE_AD output =
        some (outfile, tag) ∧ output ++ tag = coveredPart infile.data := by
  rw [cryptoDecryptAesFile, closeFile_eq_succ_iff]
  by_cases short : infile.data.length < AES256_GCM_TAG_LENGTH
  · rw [if_pos short]
    simp only [reduceCtorEq, false_iff, not_exists, not_and]
    intro output tag done joined
    have total := congrArg List.length joined
    rw [List.length_append, (length_cryptAndTag cipher done).2.1, coveredPart,
      List.length_take] at total
    simp only [AES256_GCM_TAG_LENGTH] at short total
    omega
  · obtain ⟨joined, sized⟩ := coveredPart_append (Nat.le_of_not_lt short)
    have run := updateFile_cryptAndTag cipher aesKey .decrypt verifyTag
      (Nat.sub_le infile.data.length AES256_GCM_TAG_LENGTH)
    rw [if_neg short, joined, run, Option.bind_eq_some_iff]
    constructor
    · rintro ⟨⟨plaintext, tag⟩, done, verified⟩
      obtain ⟨same, rfl⟩ := (verifyTag_eq_some_iff sized (length_cryptAndTag cipher done).2.1).mp
        verified
      exact ⟨_, tag, done, congrArg _ same.symm⟩
    · rintro ⟨output, tag, done, parts⟩
      have tagLength := (length_cryptAndTag cipher done).2.1
      obtain ⟨rfl, same⟩ := List.append_inj' parts (tagLength.trans sized.symm)
      exact ⟨_, done, (verifyTag_eq_some_iff sized tagLength).mpr ⟨same.symm, rfl⟩⟩

/-- Decryption of a file fails exactly when the covered part is no encryption. -/
theorem cryptoDecryptAesFile_eq_fail_iff {infile : FileContent} :
    cryptoDecryptAesFile cipher infile aesKey = ⟨E2EES_RESULT_FAIL, none⟩ ↔
      ¬ IsEncryption cipher aesKey (coveredPart infile.data) := by
  have closed : cryptoDecryptAesFile cipher infile aesKey = ⟨E2EES_RESULT_FAIL, none⟩ ↔
      ¬ ∃ outfile, cryptoDecryptAesFile cipher infile aesKey =
        ⟨E2EES_RESULT_SUCC, some outfile⟩ := by
    simp only [cryptoDecryptAesFile, closeFile_eq_succ_iff, closeFile_eq_fail_iff]
    rw [← Option.isSome_iff_exists, Bool.not_eq_true, Option.isSome_eq_false_iff,
      Option.isNone_iff_eq_none]
  rw [closed, isEncryption_iff, not_iff_not]
  simp only [cryptoDecryptAesFile_eq_succ_iff]
  constructor
  · rintro ⟨outfile, output, tag, done, joined⟩
    exact ⟨outfile, output, tag, cryptAndTag_other cipher done, joined⟩
  · rintro ⟨content, output, tag, done, joined⟩
    exact ⟨content, output, tag, cryptAndTag_other cipher done, joined⟩

/-- Every content within the limit comes back from its encryption. -/
theorem cryptoDecryptAesFile_encrypted {content : FileContent}
    (within : content.data.length ≤ maxLen) :
    ∃ encrypted : FileContent,
      cryptoEncryptAesFile cipher content aesKey = ⟨E2EES_RESULT_SUCC, some encrypted.data⟩ ∧
        cryptoDecryptAesFile cipher encrypted aesKey = ⟨E2EES_RESULT_SUCC, some content.data⟩ ∧
          encrypted.data.length = content.data.length + AES256_GCM_TAG_LENGTH := by
  obtain ⟨output, tag, done⟩ : ∃ output tag,
      cryptAndTag cipher aesKey .encrypt fileIv AES256_FILE_AD content.data =
        some (output, tag) :=
    cryptAndTag_present cipher (by decide) (by decide) (by decide) within
  obtain ⟨same, sized, -⟩ := length_cryptAndTag cipher done
  have total : (output ++ tag).length = content.data.length + AES256_GCM_TAG_LENGTH := by
    rw [List.length_append, same, sized]
    rfl
  simp only [maxLen] at within
  simp only [AES256_GCM_TAG_LENGTH] at total
  have small : content.data.length < 2 ^ 44 := by omega
  refine ⟨⟨output ++ tag, by omega⟩, ?_, ?_, total⟩
  · rw [cryptoEncryptAesFile_eq, coveredLength_eq small, List.take_length, done,
      Option.bind_some, closeFile_eq_succ_iff]
  · rw [cryptoDecryptAesFile_eq_succ_iff, coveredPart_eq]
    · exact ⟨output, tag, cryptAndTag_other cipher done, rfl⟩
    · simp only [AES256_GCM_TAG_LENGTH]
      omega

/-- Every content within the limit comes back from its encryption. Any other file is refused
without an output exactly when its chunk count fits or its covered part is no encryption. -/
theorem cryptoDecryptAesFile_refuses_iff (aesKey : Bytes UInt8) :
    (∀ content : FileContent, content.data.length ≤ maxLen → ∃ encrypted : FileContent,
      cryptoEncryptAesFile cipher content aesKey = ⟨E2EES_RESULT_SUCC, some encrypted.data⟩ ∧
        cryptoDecryptAesFile cipher encrypted aesKey =
          ⟨E2EES_RESULT_SUCC, some content.data⟩) ∧
    ∀ infile : FileContent, (¬ IsEncryption cipher aesKey infile.data →
      cryptoDecryptAesFile cipher infile aesKey = ⟨E2EES_RESULT_FAIL, none⟩) ↔
        (infile.data.length < 2 ^ 44 + AES256_GCM_TAG_LENGTH ∨
          ¬ IsEncryption cipher aesKey (coveredPart infile.data)) := by
  constructor
  · intro content within
    obtain ⟨encrypted, encrypts, decrypts, -⟩ :=
      @cryptoDecryptAesFile_encrypted cipher aesKey content within
    exact ⟨encrypted, encrypts, decrypts⟩
  intro infile
  rw [cryptoDecryptAesFile_eq_fail_iff]
  constructor
  · intro refused
    by_cases small : infile.data.length < 2 ^ 44 + AES256_GCM_TAG_LENGTH
    · exact Or.inl small
    · refine Or.inr (refused fun encrypted => small ?_)
      have within := (IsEncryption.length cipher encrypted).2
      simp only [maxLen] at within
      omega
  · rintro (small | refused) foreign
    · rw [coveredPart_eq small]
      exact foreign
    · exact refused

theorem cryptoDecryptAesFile_refuses_iff_sample :
    (∃ encrypted : FileContent,
      cryptoDecryptAesFile sampleCipher encrypted [7] = ⟨E2EES_RESULT_SUCC, some [1, 2, 3]⟩) ∧
      cryptoDecryptAesFile sampleCipher ⟨[5], by decide⟩ [7] = ⟨E2EES_RESULT_FAIL, none⟩ := by
  have files := cryptoDecryptAesFile_refuses_iff sampleCipher [7]
  obtain ⟨encrypted, -, decrypted⟩ := files.1 ⟨[1, 2, 3], by decide⟩ (by decide)
  refine ⟨⟨encrypted, decrypted⟩, (files.2 _).mpr (Or.inl (by decide)) fun short => ?_⟩
  exact absurd (IsEncryption.length sampleCipher short).1 (by decide)

/-- A file with 2^44 bytes behind an encryption of nothing decrypts to nothing. -/
theorem extendedFile_decrypts :
    ¬ ∃ cipher, ∀ aesKey (infile : FileContent), ¬ IsEncryption cipher aesKey infile.data →
      cryptoDecryptAesFile cipher infile aesKey = ⟨E2EES_RESULT_FAIL, none⟩ := by
  rintro ⟨cipher, refuses⟩
  obtain ⟨encrypted, encrypts, -, sized⟩ :=
    @cryptoDecryptAesFile_encrypted cipher [] ⟨[], by decide⟩ (by decide)
  have extended : (encrypted.data ++ List.replicate (2 ^ 44) 0).length =
      2 ^ 44 + AES256_GCM_TAG_LENGTH := by
    rw [List.length_append, List.length_replicate, sized, List.length_nil, Nat.zero_add,
      Nat.add_comm]
  have covered : coveredPart (encrypted.data ++ List.replicate (2 ^ 44) 0) = encrypted.data := by
    rw [coveredPart, extended, Nat.add_sub_cancel, coveredLength_wraps, Nat.zero_add]
    exact List.take_left' sized
  have fails := refuses [] ⟨encrypted.data ++ List.replicate (2 ^ 44) 0, by
    rw [extended]
    decide⟩ fun foreign => by
      have within := (IsEncryption.length cipher foreign).2
      rw [extended] at within
      exact absurd within (by decide)
  rw [cryptoDecryptAesFile_eq_fail_iff, covered] at fails
  exact fails ⟨_, encrypts⟩

end Files

end E2eeSecurity
