/-
This file gives the symmetric suite with AES-256 in Galois/Counter mode and shows which
ciphertexts it can open without a wrapped length.
-/
import E2eeSecurity.Group.Messages
import E2eeSecurity.Library.Gcm

namespace E2eeSecurity

open Gcm

def AES256_KEY_LENGTH : Nat := 32

def AES256_IV_LENGTH : Nat := 16

def AES256_GCM_TAG_LENGTH : Nat := 16

/-- The number of bytes of an object in memory has 64 bits. -/
structure ProtobufCBinaryData where
  data : Bytes UInt8
  fits : data.length < UInt64.size

def ProtobufCBinaryData.len (binary : ProtobufCBinaryData) : UInt64 :=
  UInt64.ofNat binary.data.length

/-- A message key is an AES key with the vector behind it. -/
structure AeadKey where
  data : Bytes UInt8
  sized : data.length = AES256_KEY_LENGTH + AES256_IV_LENGTH

def AeadKey.aesKey (key : AeadKey) : Bytes UInt8 := key.data.take AES256_KEY_LENGTH

def AeadKey.iv (key : AeadKey) : Bytes UInt8 := key.data.drop AES256_KEY_LENGTH

def cryptoAes256GcmPlaintextDataLen (ciphertextDataLen : UInt64) : UInt64 :=
  ciphertextDataLen - UInt64.ofNat AES256_GCM_TAG_LENGTH

/-- The tags are compared byte by byte without an early end. -/
def tagDiff (inputTagBuf tagBuf : Bytes UInt8) : UInt8 :=
  (List.zipWith (· ^^^ ·) inputTagBuf tagBuf).foldl (· ||| ·) 0

/-- A length beyond the limit is refused before the first byte of the input is read. -/
def mbedtlsGcmCryptAndTag (cipher : BlockCipher (Bytes UInt8)) (mode : Mode) (length : UInt64)
    (aesKey iv add input : Bytes UInt8) : Option (Bytes UInt8 × Bytes UInt8) :=
  if maxLen < length.toNat then none
  else cryptAndTag cipher aesKey mode iv add (input.take length.toNat)

/-- This is every length and every offset that a decryption computes, and what it returns. -/
structure GcmDecryption where
  plaintextDataLen : UInt64
  gcmLength : UInt64
  inputTagBuf : Int
  plaintextData : Option (Bytes UInt8)

section Suite

variable (cipher : BlockCipher (Bytes UInt8))

/-- The tag is written behind the text. -/
def cryptoAesEncryptGcm (plaintext : ProtobufCBinaryData) (aesKey iv : Bytes UInt8)
    (ad : ProtobufCBinaryData) : Option (Bytes UInt8) :=
  (mbedtlsGcmCryptAndTag cipher .encrypt plaintext.len aesKey iv ad.data plaintext.data).map
    fun written => written.1 ++ written.2

def cryptoAesDecryptGcm (ciphertext : ProtobufCBinaryData) (aesKey iv : Bytes UInt8)
    (ad : ProtobufCBinaryData) : GcmDecryption :=
  let inputTagBuf : Int := ciphertext.data.length - AES256_GCM_TAG_LENGTH
  let gcmLength := ciphertext.len - UInt64.ofNat AES256_GCM_TAG_LENGTH
  { plaintextDataLen := cryptoAes256GcmPlaintextDataLen ciphertext.len
    gcmLength := gcmLength
    inputTagBuf := inputTagBuf
    plaintextData :=
      match mbedtlsGcmCryptAndTag cipher .decrypt gcmLength aesKey iv ad.data ciphertext.data with
      | none => none
      | some (plaintext, tagBuf) =>
          if tagDiff (ciphertext.data.drop inputTagBuf.toNat) tagBuf = 0 then some plaintext
          else none }

def cryptoSeEncryptAes256Gcm (ad : ProtobufCBinaryData) (aesKey : AeadKey)
    (plaintext : ProtobufCBinaryData) : Option (Bytes UInt8) :=
  cryptoAesEncryptGcm cipher plaintext aesKey.aesKey aesKey.iv ad

/-- The buffer for the plaintext has the length that the inner call computes again. -/
def cryptoSeDecryptAes256Gcm (ad : ProtobufCBinaryData) (aesKey : AeadKey)
    (ciphertext : ProtobufCBinaryData) : GcmDecryption :=
  cryptoAesDecryptGcm cipher ciphertext aesKey.aesKey aesKey.iv ad

end Suite

section Lengths

theorem toNat_len (binary : ProtobufCBinaryData) : binary.len.toNat = binary.data.length :=
  UInt64.toNat_ofNat_of_lt binary.fits

/-- The length of a plaintext is exact when there is room for the tag. -/
theorem toNat_plaintextDataLen {ciphertext : ProtobufCBinaryData}
    (room : AES256_GCM_TAG_LENGTH ≤ ciphertext.data.length) :
    (cryptoAes256GcmPlaintextDataLen ciphertext.len).toNat =
      ciphertext.data.length - AES256_GCM_TAG_LENGTH := by
  rw [cryptoAes256GcmPlaintextDataLen, UInt64.toNat_sub_of_le, toNat_len]
  · rfl
  · rw [UInt64.le_iff_toNat_le, toNat_len]
    exact room

/-- Without room for the tag the length wraps beyond every limit. -/
theorem plaintextDataLen_wraps {ciphertext : ProtobufCBinaryData}
    (short : ciphertext.data.length < AES256_GCM_TAG_LENGTH) :
    maxLen < (cryptoAes256GcmPlaintextDataLen ciphertext.len).toNat := by
  have wrapped : (cryptoAes256GcmPlaintextDataLen ciphertext.len).toNat =
      (UInt64.size - AES256_GCM_TAG_LENGTH + ciphertext.data.length) % UInt64.size := by
    rw [cryptoAes256GcmPlaintextDataLen, UInt64.toNat_sub, toNat_len]
    rfl
  simp only [AES256_GCM_TAG_LENGTH, UInt64.size] at short wrapped
  rw [wrapped, maxLen]
  omega

end Lengths

section Tags

theorem foldl_or_eq_zero_iff (list : List UInt8) (start : UInt8) :
    list.foldl (· ||| ·) start = 0 ↔ start = 0 ∧ ∀ byte ∈ list, byte = 0 := by
  induction list generalizing start with
  | nil => simp
  | cons byte rest ih =>
      rw [List.foldl_cons, ih, UInt8.or_eq_zero_iff, List.forall_mem_cons, and_assoc]

/-- Tags of one length have no difference exactly when they are the same. -/
theorem tagDiff_eq_zero_iff {inputTagBuf tagBuf : Bytes UInt8}
    (sized : inputTagBuf.length = tagBuf.length) :
    tagDiff inputTagBuf tagBuf = 0 ↔ inputTagBuf = tagBuf := by
  rw [tagDiff, foldl_or_eq_zero_iff]
  induction inputTagBuf generalizing tagBuf with
  | nil => simpa [eq_comm] using sized
  | cons byte rest ih =>
      cases tagBuf with
      | nil => simp at sized
      | cons other others =>
          have later := ih (Nat.succ.inj sized)
          simp only [true_and] at later
          simp [later]

end Tags

section Calls

variable (cipher : BlockCipher (Bytes UInt8))

/-- The mode itself refuses a text beyond the limit as well. -/
theorem mbedtlsGcmCryptAndTag_eq {mode : Mode} {length : UInt64}
    {aesKey iv add input : Bytes UInt8} (inside : length.toNat ≤ input.length) :
    mbedtlsGcmCryptAndTag cipher mode length aesKey iv add input =
      cryptAndTag cipher aesKey mode iv add (input.take length.toNat) := by
  rw [mbedtlsGcmCryptAndTag]
  split
  case isFalse => rfl
  case isTrue beyond =>
    cases done : cryptAndTag cipher aesKey mode iv add (input.take length.toNat) with
    | none => rfl
    | some written =>
        have within := (length_cryptAndTag cipher done).2.2
        rw [List.length_take] at within
        omega

/-- A ciphertext is the output of the mode with its tag. -/
theorem cryptoAesEncryptGcm_eq_some_iff {plaintext ad : ProtobufCBinaryData}
    {aesKey iv ciphertext : Bytes UInt8} :
    cryptoAesEncryptGcm cipher plaintext aesKey iv ad = some ciphertext ↔
      ∃ output tag, cryptAndTag cipher aesKey .encrypt iv ad.data plaintext.data =
        some (output, tag) ∧ output ++ tag = ciphertext := by
  rw [cryptoAesEncryptGcm, mbedtlsGcmCryptAndTag_eq cipher (Nat.le_of_eq (toNat_len plaintext)),
    toNat_len, List.take_length, Option.map_eq_some_iff, Prod.exists]

/-- The calls refuse a ciphertext without room for a tag, because its length has wrapped. -/
theorem cryptoAesDecryptGcm_short {ciphertext : ProtobufCBinaryData}
    (short : ciphertext.data.length < AES256_GCM_TAG_LENGTH) (aesKey iv : Bytes UInt8)
    (ad : ProtobufCBinaryData) :
    (cryptoAesDecryptGcm cipher ciphertext aesKey iv ad).plaintextData = none := by
  have wraps := plaintextDataLen_wraps short
  rw [cryptoAes256GcmPlaintextDataLen] at wraps
  rw [cryptoAesDecryptGcm, mbedtlsGcmCryptAndTag, if_pos wraps]

/-- The last bytes are compared with the tag of the bytes before them. -/
theorem cryptoAesDecryptGcm_append {ciphertext : ProtobufCBinaryData}
    {output inputTag : Bytes UInt8} (joined : output ++ inputTag = ciphertext.data)
    (sized : inputTag.length = AES256_GCM_TAG_LENGTH) (aesKey iv : Bytes UInt8)
    (ad : ProtobufCBinaryData) :
    (cryptoAesDecryptGcm cipher ciphertext aesKey iv ad).plaintextData =
      (cryptAndTag cipher aesKey .decrypt iv ad.data output).bind fun written =>
        if inputTag = written.2 then some written.1 else none := by
  have total : ciphertext.data.length = output.length + AES256_GCM_TAG_LENGTH := by
    rw [← joined, List.length_append, sized]
  have length : (ciphertext.len - UInt64.ofNat AES256_GCM_TAG_LENGTH).toNat = output.length := by
    have exactly := toNat_plaintextDataLen (total ▸ Nat.le_add_left _ _)
    rw [cryptoAes256GcmPlaintextDataLen] at exactly
    omega
  have offset : ((ciphertext.data.length : Int) - AES256_GCM_TAG_LENGTH).toNat =
      output.length := by
    omega
  rw [cryptoAesDecryptGcm]
  simp only
  rw [mbedtlsGcmCryptAndTag_eq cipher (by omega), length, offset, ← joined,
    List.take_left, List.drop_left]
  cases done : cryptAndTag cipher aesKey .decrypt iv ad.data output with
  | none => rfl
  | some written =>
      have same := tagDiff_eq_zero_iff (sized.trans (length_cryptAndTag cipher done).2.1.symm)
      simp only [same, Option.bind_some]

/-- A plaintext comes out exactly when the last bytes are the tag of the bytes before them. -/
theorem cryptoAesDecryptGcm_eq_some_iff {ciphertext ad : ProtobufCBinaryData}
    {aesKey iv plaintext : Bytes UInt8} :
    (cryptoAesDecryptGcm cipher ciphertext aesKey iv ad).plaintextData = some plaintext ↔
      ∃ output tag, cryptAndTag cipher aesKey .decrypt iv ad.data output =
        some (plaintext, tag) ∧ output ++ tag = ciphertext.data := by
  constructor
  · intro opened
    by_cases short : ciphertext.data.length < AES256_GCM_TAG_LENGTH
    · rw [cryptoAesDecryptGcm_short cipher short] at opened
      cases opened
    · have joined := List.take_append_drop
        (ciphertext.data.length - AES256_GCM_TAG_LENGTH) ciphertext.data
      have sized : (ciphertext.data.drop
          (ciphertext.data.length - AES256_GCM_TAG_LENGTH)).length = AES256_GCM_TAG_LENGTH := by
        rw [List.length_drop]
        omega
      rw [cryptoAesDecryptGcm_append cipher joined sized] at opened
      obtain ⟨written, done, matching⟩ := Option.bind_eq_some_iff.mp opened
      split at matching
      case isTrue same =>
        cases matching
        exact ⟨_, _, done, same ▸ joined⟩
      case isFalse => cases matching
  · rintro ⟨output, tag, done, joined⟩
    rw [cryptoAesDecryptGcm_append cipher joined (length_cryptAndTag cipher done).2.1, done,
      Option.bind_some, if_pos rfl]

end Calls

section Suite

variable (cipher : BlockCipher (Bytes UInt8))

theorem cryptoSeEncryptAes256Gcm_ne_nil {ad plaintext : ProtobufCBinaryData} {aesKey : AeadKey}
    {ciphertext : Bytes UInt8}
    (encrypted : cryptoSeEncryptAes256Gcm cipher ad aesKey plaintext = some ciphertext) :
    ciphertext ≠ [] := by
  obtain ⟨output, tag, done, rfl⟩ := (cryptoAesEncryptGcm_eq_some_iff cipher).mp encrypted
  intro empty
  have sized := (length_cryptAndTag cipher done).2.1
  rw [(List.append_eq_nil_iff.mp empty).2] at sized
  cases sized

/-- A ciphertext is longer than its text by the tag. -/
theorem length_cryptoSeEncryptAes256Gcm {ad plaintext : ProtobufCBinaryData} {aesKey : AeadKey}
    {ciphertext : Bytes UInt8}
    (encrypted : cryptoSeEncryptAes256Gcm cipher ad aesKey plaintext = some ciphertext) :
    ciphertext.length = plaintext.data.length + AES256_GCM_TAG_LENGTH ∧
      plaintext.data.length ≤ maxLen := by
  obtain ⟨output, tag, done, rfl⟩ := (cryptoAesEncryptGcm_eq_some_iff cipher).mp encrypted
  obtain ⟨same, sized, within⟩ := length_cryptAndTag cipher done
  rw [List.length_append, same, sized]
  exact ⟨rfl, within⟩

/-- Decryption returns the text of every encryption. -/
theorem cryptoSeDecryptAes256Gcm_encrypted {ad plaintext ciphertext : ProtobufCBinaryData}
    {aesKey : AeadKey}
    (encrypted : cryptoSeEncryptAes256Gcm cipher ad aesKey plaintext = some ciphertext.data) :
    (cryptoSeDecryptAes256Gcm cipher ad aesKey ciphertext).plaintextData =
      some plaintext.data := by
  obtain ⟨output, tag, done, joined⟩ := (cryptoAesEncryptGcm_eq_some_iff cipher).mp encrypted
  exact (cryptoAesDecryptGcm_eq_some_iff cipher).mpr
    ⟨output, tag, cryptAndTag_other cipher done, joined⟩

/-- Every text within the limit can be encrypted. -/
theorem cryptoSeEncryptAes256Gcm_present {ad plaintext : ProtobufCBinaryData}
    (adLength : ad.data.length < 2 ^ 61) (within : plaintext.data.length ≤ maxLen)
    (aesKey : AeadKey) :
    ∃ ciphertext : ProtobufCBinaryData,
      cryptoSeEncryptAes256Gcm cipher ad aesKey plaintext = some ciphertext.data := by
  have vector : aesKey.iv.length = 16 := by
    rw [AeadKey.iv, List.length_drop, aesKey.sized]
    rfl
  have present : aesKey.iv ≠ [] := by
    intro empty
    rw [empty] at vector
    cases vector
  obtain ⟨output, tag, done⟩ : ∃ output tag,
      cryptAndTag cipher aesKey.aesKey .encrypt aesKey.iv ad.data plaintext.data =
        some (output, tag) :=
    cryptAndTag_present cipher present (by omega) adLength within
  have encrypted : cryptoSeEncryptAes256Gcm cipher ad aesKey plaintext = some (output ++ tag) :=
    (cryptoAesEncryptGcm_eq_some_iff cipher).mpr ⟨output, tag, done, rfl⟩
  refine ⟨⟨output ++ tag, ?_⟩, encrypted⟩
  rw [(length_cryptoSeEncryptAes256Gcm cipher encrypted).1]
  simp only [maxLen] at within
  simp only [AES256_GCM_TAG_LENGTH, UInt64.size]
  omega

/-- A byte string that no C object can hold, and a key of another size, never reach the calls. -/
def aes256GcmSuite : SeSuite UInt8 where
  aeadKeyLen := AES256_KEY_LENGTH
  aeadIvLen := AES256_IV_LENGTH
  encrypt ad key plaintext :=
    if fits : ad.length < UInt64.size ∧ key.length = AES256_KEY_LENGTH + AES256_IV_LENGTH ∧
        plaintext.length < UInt64.size then
      cryptoSeEncryptAes256Gcm cipher ⟨ad, fits.1⟩ ⟨key, fits.2.1⟩ ⟨plaintext, fits.2.2⟩
    else none
  decrypt ad key ciphertext :=
    if fits : ad.length < UInt64.size ∧ key.length = AES256_KEY_LENGTH + AES256_IV_LENGTH ∧
        ciphertext.length < UInt64.size then
      (cryptoSeDecryptAes256Gcm cipher ⟨ad, fits.1⟩ ⟨key, fits.2.1⟩
        ⟨ciphertext, fits.2.2⟩).plaintextData
    else none
  aeadKeyLenPositive := by decide
  encryptNonempty ad key plaintext ciphertext encrypted := by
    split at encrypted
    · exact cryptoSeEncryptAes256Gcm_ne_nil cipher encrypted
    · cases encrypted

/-- The shipped suite meets the assumption that the protocol makes about its suite. -/
theorem aes256GcmSuite_correct : (aes256GcmSuite cipher).Correct := by
  intro ad key plaintext ciphertext encrypted
  simp only [aes256GcmSuite] at encrypted ⊢
  split at encrypted
  case isFalse => cases encrypted
  case isTrue fits =>
    obtain ⟨sized, within⟩ := length_cryptoSeEncryptAes256Gcm cipher encrypted
    simp only [maxLen] at within
    simp only [AES256_GCM_TAG_LENGTH] at sized
    have fitting : ciphertext.length < UInt64.size := by
      simp only [UInt64.size]
      omega
    rw [dif_pos ⟨fits.1, fits.2.1, fitting⟩]
    exact @cryptoSeDecryptAes256Gcm_encrypted cipher ⟨ad, fits.1⟩ ⟨plaintext, fits.2.2⟩
      ⟨ciphertext, fitting⟩ ⟨key, fits.2.1⟩ encrypted

end Suite

section ShortCiphertexts

/-- These are the ciphertexts that the two validators let through. -/
inductive LetThrough : Bytes UInt8 → Prop
  | one2one (payload : One2oneMsgPayload UInt8)
      (valid : isValidOne2oneMsgPayload payload = true) : LetThrough payload.ciphertext
  | group (msg : E2eeMsg UInt8) (valid : isValidE2eeMsg msg = true) :
      LetThrough msg.groupMsg.ciphertext

/-- No length has wrapped and no offset is negative, a ciphertext without room for a tag is
refused, and any other one is longer than its plaintext by the tag. -/
structure GcmDecryption.Clean (decryption : GcmDecryption) (ciphertextDataLen : Nat) : Prop where
  plaintextDataLen : decryption.plaintextDataLen.toNat ≤ ciphertextDataLen
  gcmLength : decryption.gcmLength.toNat ≤ ciphertextDataLen
  inputTagBuf : 0 ≤ decryption.inputTagBuf
  refused : ciphertextDataLen < AES256_GCM_TAG_LENGTH → decryption.plaintextData = none
  sized : AES256_GCM_TAG_LENGTH ≤ ciphertextDataLen →
    decryption.plaintextDataLen.toNat = ciphertextDataLen - AES256_GCM_TAG_LENGTH ∧
      ∀ plaintext, decryption.plaintextData = some plaintext →
        plaintext.length = ciphertextDataLen - AES256_GCM_TAG_LENGTH

variable (cipher : BlockCipher (Bytes UInt8))

/-- The validators ask for one byte only. -/
theorem letThrough_of_ne_nil {ciphertext : Bytes UInt8} (present : ciphertext ≠ []) :
    LetThrough ciphertext :=
  LetThrough.one2one ⟨1, [0], 1, 1, ciphertext⟩ (by
    simp [isValidOne2oneMsgPayload, isValidProtobuf, present])

theorem cryptoSeDecryptAes256Gcm_clean {ad ciphertext : ProtobufCBinaryData} {aesKey : AeadKey}
    (room : AES256_GCM_TAG_LENGTH ≤ ciphertext.data.length) :
    (cryptoSeDecryptAes256Gcm cipher ad aesKey ciphertext).Clean ciphertext.data.length := by
  have exactly := toNat_plaintextDataLen room
  have before : cryptoAes256GcmPlaintextDataLen ciphertext.len =
    ciphertext.len - UInt64.ofNat AES256_GCM_TAG_LENGTH := rfl
  constructor
  · exact exactly ▸ Nat.sub_le _ _
  · exact (before ▸ exactly) ▸ Nat.sub_le _ _
  · exact Int.sub_nonneg.mpr (Int.ofNat_le.mpr room)
  · exact fun short => absurd room (Nat.not_le_of_lt short)
  · refine fun _ => ⟨exactly, fun plaintext opened => ?_⟩
    obtain ⟨output, tag, done, joined⟩ := (cryptoAesDecryptGcm_eq_some_iff cipher).mp opened
    obtain ⟨same, sized, -⟩ := length_cryptAndTag cipher done
    rw [← joined, List.length_append, same, sized]
    exact (Nat.add_sub_cancel _ _).symm

/-- Decryption is clean exactly when the ciphertext has room for a tag. A shorter one is refused,
but only after its lengths have wrapped. Decryption returns the text of every encryption. -/
theorem cryptoSeDecryptAes256Gcm_clean_iff :
    (∀ ad aesKey (ciphertext : ProtobufCBinaryData), LetThrough ciphertext.data →
      ((cryptoSeDecryptAes256Gcm cipher ad aesKey ciphertext).Clean ciphertext.data.length ↔
        AES256_GCM_TAG_LENGTH ≤ ciphertext.data.length) ∧
      (ciphertext.data.length < AES256_GCM_TAG_LENGTH →
        (cryptoSeDecryptAes256Gcm cipher ad aesKey ciphertext).plaintextData = none)) ∧
    ∀ ad aesKey plaintext (ciphertext : ProtobufCBinaryData),
      cryptoSeEncryptAes256Gcm cipher ad aesKey plaintext = some ciphertext.data →
        (cryptoSeDecryptAes256Gcm cipher ad aesKey ciphertext).plaintextData =
          some plaintext.data := by
  constructor
  · intro ad aesKey ciphertext _
    refine ⟨⟨?_, cryptoSeDecryptAes256Gcm_clean cipher⟩,
      fun short => cryptoAesDecryptGcm_short cipher short _ _ _⟩
    intro clean
    have offset : (0 : Int) ≤ ciphertext.data.length - AES256_GCM_TAG_LENGTH := clean.inputTagBuf
    exact Int.ofNat_le.mp (Int.sub_nonneg.mp offset)
  · intro ad aesKey plaintext ciphertext encrypted
    exact cryptoSeDecryptAes256Gcm_encrypted cipher encrypted

/-- This block cipher is one concrete choice for the parameter. -/
def sampleCipher : BlockCipher (Bytes UInt8) where
  encryptBlock key block := fun index => block index ^^^ key.getD index 0
  multiply first second := fun index => first index * second index

def sampleKey : AeadKey := ⟨List.replicate 48 7, by decide⟩

def sampleAd : ProtobufCBinaryData := ⟨[1], by decide⟩

def sampleText : ProtobufCBinaryData := ⟨[2, 3], by decide⟩

def shortCiphertext : ProtobufCBinaryData := ⟨[5], by decide⟩

theorem cryptoSeDecryptAes256Gcm_clean_iff_short :
    ¬ (cryptoSeDecryptAes256Gcm sampleCipher sampleAd sampleKey shortCiphertext).Clean 1 ∧
      ∃ ciphertext : ProtobufCBinaryData,
        (cryptoSeDecryptAes256Gcm sampleCipher sampleAd sampleKey ciphertext).plaintextData =
          some [2, 3] := by
  obtain ⟨ciphertext, encrypted⟩ := @cryptoSeEncryptAes256Gcm_present sampleCipher sampleAd
    sampleText (by decide) (by decide) sampleKey
  have clean := cryptoSeDecryptAes256Gcm_clean_iff sampleCipher
  have opened := clean.2 sampleAd sampleKey sampleText ciphertext encrypted
  refine ⟨fun short => ?_, ciphertext, opened⟩
  have room := (clean.1 sampleAd sampleKey shortCiphertext
    (letThrough_of_ne_nil (by decide))).1.mp short
  exact absurd room (by decide)

/-- A ciphertext of one byte passes the validators, and its lengths wrap under every cipher. -/
theorem shortCiphertext_wraps :
    ¬ ∃ cipher, ∀ ad aesKey (ciphertext : ProtobufCBinaryData), LetThrough ciphertext.data →
      (cryptoSeDecryptAes256Gcm cipher ad aesKey ciphertext).Clean ciphertext.data.length := by
  rintro ⟨cipher, clean⟩
  have offset : (0 : Int) ≤ shortCiphertext.data.length - AES256_GCM_TAG_LENGTH :=
    (clean sampleAd sampleKey shortCiphertext (letThrough_of_ne_nil (by decide))).inputTagBuf
  exact absurd offset (by decide)

end ShortCiphertexts

end E2eeSecurity
