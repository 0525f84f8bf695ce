/-
This file gives the key derivation over the message authentication code with the hash suite and the
password files that use it, and shows that it computes what its standard says.
-/
import E2eeSecurity.Crypto.File
import E2eeSecurity.Crypto.Hmac

namespace E2eeSecurity

section Derivation

inductive HkdfError
  | badInputData
  deriving DecidableEq

/-- A null salt stands for as many zeros as the digest has bytes. -/
def mbedtlsHkdfExtract (type : MdType) (salt : Option (Bytes UInt8)) (ikm : Bytes UInt8) :
    Option (Bytes UInt8) :=
  mbedtlsMdHmac type (salt.getD (List.replicate type.size 0)) ikm

/-- The output is written in its order, so the list holds what is there. Of `t` the list holds the
first `t_len` bytes. -/
structure ExpandState where
  ctx : MdContext
  t : Bytes UInt8
  okm : Bytes UInt8
  written : Nat

def expandTurn (prk info : Bytes UInt8) (hfLen n okmLen : Nat) (state : ExpandState) (i : Nat) :
    Option ExpandState :=
  (mbedtlsMdHmacStarts state.ctx prk).bind fun started =>
    (mbedtlsMdHmacUpdate started state.t).bind fun chained =>
      (mbedtlsMdHmacUpdate chained info).bind fun informed =>
        (mbedtlsMdHmacUpdate informed [UInt8.ofNat i]).bind fun counted =>
          (mbedtlsMdHmacFinish counted).map fun done =>
            let numToCopy := if i ≠ n then hfLen else okmLen - state.written
            ⟨done.2, done.1, state.okm ++ done.1.take numToCopy, state.written + hfLen⟩

def mbedtlsHkdfExpand (type : MdType) (prk info : Bytes UInt8) (okmLen : Nat) :
    Option (Except HkdfError (Bytes UInt8)) :=
  let hfLen := type.size
  if prk.length < hfLen ∨ hfLen = 0 then some (.error .badInputData)
  else
    let n := if okmLen % hfLen ≠ 0 then okmLen / hfLen + 1 else okmLen / hfLen
    if 255 < n then some (.error .badInputData)
    else
      ((List.range' 1 n).foldlM (expandTurn prk info hfLen n okmLen)
        ⟨mbedtlsMdSetup type, [], [], 0⟩).map fun state => .ok state.okm

def mbedtlsHkdf (type : MdType) (salt : Option (Bytes UInt8)) (ikm info : Bytes UInt8)
    (okmLen : Nat) : Option (Except HkdfError (Bytes UInt8)) :=
  (mbedtlsHkdfExtract type salt ikm).bind fun prk => mbedtlsHkdfExpand type prk info okmLen

def cryptoHfHkdfSha256 (input salt info : Bytes UInt8) (outputLen : Nat) :
    Option (Except HkdfError (Bytes UInt8)) :=
  mbedtlsHkdf .sha256 (some salt) input info outputLen

def cryptoHfHmacSha256 (key input : Bytes UInt8) : Option (Bytes UInt8) :=
  (mbedtlsMdHmacStarts (mbedtlsMdSetup .sha256) key).bind fun started =>
    (mbedtlsMdHmacUpdate started input).bind fun updated =>
      (mbedtlsMdHmacFinish updated).map Prod.fst

/-- So many blocks are chained, and of the last one only what is asked for is copied. -/
structure ExpandState.Reached (type : MdType) (prk info : Bytes UInt8) (state : ExpandState)
    (count : Nat) (okm : Bytes UInt8) : Prop where
  kind : state.ctx.type = type
  t : state.t = Hkdf.chainBlock (mdHmac type) prk info count
  okm : state.okm = okm
  written : state.written = count * type.size

theorem expandTurn_reached {type : MdType} {prk info okm : Bytes UInt8} {state : ExpandState}
    {count : Nat} (reached : state.Reached type prk info count okm)
    (shortPrk : prk.length < 2 ^ 32) (shortInfo : info.length < 2 ^ 32) (n okmLen : Nat) :
    ∃ after, expandTurn prk info type.size n okmLen state (count + 1) = some after ∧
      after.Reached type prk info (count + 1)
        (okm ++ (Hkdf.chainBlock (mdHmac type) prk info (count + 1)).take
          (if count + 1 ≠ n then type.size else okmLen - count * type.size)) := by
  have shortBlock : state.t.length < 2 ^ 32 := by
    rw [reached.t]
    cases count with
    | zero =>
        rw [Hkdf.chainBlock, List.length_nil]
        decide
    | succ count =>
        rw [Hkdf.chainBlock, length_mdHmac]
        cases type <;> decide
  obtain ⟨started, begun, startedType, keyed⟩ := hmacStarts_keyed state.ctx shortPrk
  obtain ⟨chained, first, chainedType, keyedFirst⟩ := hmacUpdate_keyed keyed shortBlock
  obtain ⟨informed, second, informedType, keyedSecond⟩ := hmacUpdate_keyed keyedFirst shortInfo
  have shortByte : [UInt8.ofNat (count + 1)].length < 2 ^ 32 := by
    rw [List.length_singleton]
    decide
  obtain ⟨counted, third, countedType, keyedThird⟩ := hmacUpdate_keyed keyedSecond shortByte
  obtain ⟨after, finished, afterType⟩ := hmacFinish_keyed keyedThird
  have sameType : counted.type = type :=
    countedType.trans (informedType.trans (chainedType.trans (startedType.trans reached.kind)))
  have made : mdHmac counted.type prk ([] ++ state.t ++ info ++ [UInt8.ofNat (count + 1)]) =
      Hkdf.chainBlock (mdHmac type) prk info (count + 1) := by
    rw [sameType, reached.t, List.nil_append, Hkdf.chainBlock]
  rw [expandTurn, begun, Option.bind_some, first, Option.bind_some, second, Option.bind_some,
    third, Option.bind_some, finished, Option.map_some, made]
  refine ⟨_, rfl, afterType.trans sameType, rfl, ?_, ?_⟩
  · dsimp only
    rw [reached.okm, reached.written]
  · dsimp only
    rw [reached.written, Nat.succ_mul]

/-- The last turn runs on what the turns before it left. -/
theorem expandTurns_succ {turn : ExpandState → Nat → Option ExpandState}
    {start state after : ExpandState} {count : Nat}
    (ran : (List.range' 1 count).foldlM turn start = some state)
    (turned : turn state (count + 1) = some after) :
    (List.range' 1 (count + 1)).foldlM turn start = some after := by
  rw [List.range'_concat, List.foldlM_append, ran, Nat.one_mul, Nat.add_comm 1 count]
  simp only [List.foldlM_cons, List.foldlM_nil, Option.bind_eq_bind, Option.bind_some, turned]
  rfl

/-- Before the last turn every block is copied as a whole. -/
theorem expandTurns_reached (type : MdType) {prk info : Bytes UInt8}
    (shortPrk : prk.length < 2 ^ 32) (shortInfo : info.length < 2 ^ 32) {n : Nat} (okmLen : Nat)
    {count : Nat} (early : count < n) :
    ∃ state, (List.range' 1 count).foldlM (expandTurn prk info type.size n okmLen)
        ⟨mbedtlsMdSetup type, [], [], 0⟩ = some state ∧
      state.Reached type prk info count (Hkdf.chain (mdHmac type) prk info count) := by
  induction count with
  | zero => exact ⟨_, rfl, rfl, rfl, rfl, (Nat.zero_mul _).symm⟩
  | succ count ih =>
      obtain ⟨state, ran, reached⟩ := ih (by omega)
      obtain ⟨after, turned, reachedOn⟩ :=
        expandTurn_reached reached shortPrk shortInfo n okmLen
      have whole : (Hkdf.chainBlock (mdHmac type) prk info (count + 1)).take type.size =
          Hkdf.chainBlock (mdHmac type) prk info (count + 1) := by
        apply List.take_of_length_le
        rw [Hkdf.chainBlock, length_mdHmac]
      rw [if_pos (by omega), whole] at reachedOn
      exact ⟨after, expandTurns_succ ran turned, reachedOn⟩

/-- The last turn copies what is still asked for. -/
theorem expandLoop_eq (type : MdType) {prk info : Bytes UInt8}
    (shortPrk : prk.length < 2 ^ 32) (shortInfo : info.length < 2 ^ 32) {count okmLen : Nat}
    (asked : count * type.size ≤ okmLen) :
    ∃ state, (List.range' 1 (count + 1)).foldlM
        (expandTurn prk info type.size (count + 1) okmLen) ⟨mbedtlsMdSetup type, [], [], 0⟩ =
          some state ∧
      state.okm = (Hkdf.chain (mdHmac type) prk info (count + 1)).take okmLen := by
  obtain ⟨state, ran, reached⟩ :=
    expandTurns_reached type shortPrk shortInfo okmLen (Nat.lt_succ_self count)
  obtain ⟨after, turned, reachedOn⟩ :=
    expandTurn_reached reached shortPrk shortInfo (count + 1) okmLen
  have sized := Hkdf.length_chain (mdHmac type) prk info (length_mdHmac type) count
  refine ⟨after, expandTurns_succ ran turned, ?_⟩
  rw [reachedOn.okm, if_neg (not_not_intro rfl), Hkdf.chain, List.take_append, sized,
    List.take_of_length_le (sized.trans_le asked)]

theorem mbedtlsHkdfExpand_eq (type : MdType) {prk info : Bytes UInt8}
    (sized : prk.length = type.size) (shortInfo : info.length < 2 ^ 32) (okmLen : Nat) :
    mbedtlsHkdfExpand type prk info okmLen =
      some (if okmLen ≤ 255 * type.size then
        .ok (Hkdf.expand (mdHmac type) prk info type.size okmLen)
      else .error .badInputData) := by
  have shortPrk : prk.length < 2 ^ 32 := by
    rw [sized]
    cases type <;> decide
  have allowed : ¬ (prk.length < type.size ∨ type.size = 0) := by
    rw [sized]
    cases type <;> decide
  have blocks : (if okmLen % type.size ≠ 0 then okmLen / type.size + 1
      else okmLen / type.size) = (okmLen + type.size - 1) / type.size := by
    by_cases divides : okmLen % type.size = 0
    · rw [if_neg (not_not_intro divides)]
      cases type <;> dsimp only [MdType.size] at * <;> omega
    · rw [if_pos divides]
      cases type <;> dsimp only [MdType.size] at * <;> omega
  have limit : 255 < (okmLen + type.size - 1) / type.size ↔ ¬ okmLen ≤ 255 * type.size := by
    cases type <;> dsimp only [MdType.size] <;> omega
  rw [mbedtlsHkdfExpand, if_neg allowed, blocks, Hkdf.expand]
  dsimp only
  by_cases fits : okmLen ≤ 255 * type.size
  · rw [if_neg (fun exceeds => limit.mp exceeds fits), if_pos fits]
    cases turns : (okmLen + type.size - 1) / type.size with
    | zero =>
        simp only [List.range'_zero, List.foldlM_nil, Hkdf.chain, List.take_nil]
        rfl
    | succ count =>
        have asked : count * type.size ≤ okmLen := by
          cases type <;> dsimp only [MdType.size] at * <;> omega
        obtain ⟨state, ran, okm⟩ := expandLoop_eq type shortPrk shortInfo asked
        rw [ran, Option.map_some, okm]
  · rw [if_pos (limit.mpr fits), if_neg fits]

/-- The key derivation is that of the standard, and more than 255 blocks are refused. -/
theorem cryptoHfHkdfSha256_eq {input salt info : Bytes UInt8}
    (shortInput : input.length < 2 ^ 32) (shortSalt : salt.length < 2 ^ 32)
    (shortInfo : info.length < 2 ^ 32) (outputLen : Nat) :
    cryptoHfHkdfSha256 input salt info outputLen =
      some (if outputLen ≤ 255 * 32 then
        .ok (Hkdf.expand (mdHmac .sha256) (mdHmac .sha256 salt input) info 32 outputLen)
      else .error .badInputData) := by
  rw [cryptoHfHkdfSha256, mbedtlsHkdf, mbedtlsHkdfExtract, Option.getD_some,
    mdHmac_eq .sha256 shortSalt shortInput, Option.bind_some]
  exact mbedtlsHkdfExpand_eq .sha256 (length_mdHmac .sha256 salt input) shortInfo outputLen

end Derivation

section Suite

def SHA256_OUTPUT_LENGTH : Nat := 32

/-- The output goes to the front of a buffer of zeros. -/
def outputBuffer (length : Nat) (output : Bytes UInt8) : Bytes UInt8 :=
  (output ++ List.replicate (length - output.length) 0).take length

theorem length_outputBuffer (length : Nat) (output : Bytes UInt8) :
    (outputBuffer length output).length = length := by
  rw [outputBuffer, List.length_take, List.length_append, List.length_replicate]
  omega

theorem outputBuffer_full {length : Nat} {output : Bytes UInt8} (sized : output.length = length) :
    outputBuffer length output = output := by
  rw [outputBuffer, sized, Nat.sub_self, List.replicate_zero, List.append_nil,
    List.take_of_length_le sized.le]

/-- A failure of either function leaves the buffer as it is, and no caller looks at it. -/
def sha256Suite : HfSuite UInt8 where
  hfLen := SHA256_OUTPUT_LENGTH
  hkdf input salt info outputLen := outputBuffer outputLen
    (((cryptoHfHkdfSha256 input salt info outputLen).bind Except.toOption).getD [])
  hmac key message := outputBuffer SHA256_OUTPUT_LENGTH ((cryptoHfHmacSha256 key message).getD [])
  hfLenPositive := by decide
  hkdfLength _ _ _ outputLen := length_outputBuffer outputLen _
  hmacLength _ _ := length_outputBuffer SHA256_OUTPUT_LENGTH _

/-- The shipped suite derives the keys of the standard. -/
theorem sha256Suite_hkdf {input salt info : Bytes UInt8} (shortInput : input.length < 2 ^ 32)
    (shortSalt : salt.length < 2 ^ 32) (shortInfo : info.length < 2 ^ 32) {outputLen : Nat}
    (allowed : outputLen ≤ 255 * 32) :
    sha256Suite.hkdf input salt info outputLen =
      Hkdf.expand (mdHmac .sha256) (mdHmac .sha256 salt input) info 32 outputLen := by
  have derived := cryptoHfHkdfSha256_eq shortInput shortSalt shortInfo outputLen
  rw [if_pos allowed] at derived
  dsimp only [sha256Suite]
  rw [derived]
  exact outputBuffer_full (Hkdf.length_expand (mdHmac .sha256) _ info
    (length_mdHmac .sha256) (by decide) outputLen)

/-- A key of 64 bytes takes two turns of the loop. -/
theorem twoBlocks_standard :
    sha256Suite.hkdf [1, 2] [] [82, 79, 79, 84] 64 =
      Hkdf.expand (mdHmac .sha256) (mdHmac .sha256 [] [1, 2]) [82, 79, 79, 84] 32 64 :=
  sha256Suite_hkdf (by decide) (by decide) (by decide) (by decide)

theorem sha256Suite_hmac {key message : Bytes UInt8} (shortKey : key.length < 2 ^ 32)
    (short : message.length < 2 ^ 32) :
    sha256Suite.hmac key message = mdHmac .sha256 key message := by
  have authenticated : cryptoHfHmacSha256 key message = some (mdHmac .sha256 key message) :=
    mdHmac_eq .sha256 shortKey short
  dsimp only [sha256Suite]
  rw [authenticated]
  exact outputBuffer_full (length_mdHmac .sha256 key message)

end Suite

section PasswordFiles

open Gcm

variable (cipher : BlockCipher (Bytes UInt8))

def AES256_FILE_KDF_INFO : Bytes UInt8 :=
  "FILE".toList.map fun character => character.toNat.toUInt8

/-- The result is not looked at, and a refused request leaves no key. -/
def fileKey (password : Bytes UInt8) : Option (Bytes UInt8) :=
  (cryptoHfHkdfSha256 password [] AES256_FILE_KDF_INFO AES256_KEY_LENGTH).bind Except.toOption

def cryptoEncryptFile (infile : FileContent) (password : Bytes UInt8) : Option FileOutcome :=
  (fileKey password).map (cryptoEncryptAesFile cipher infile)

def cryptoDecryptFile (infile : FileContent) (password : Bytes UInt8) : Option FileOutcome :=
  (fileKey password).map (cryptoDecryptAesFile cipher infile)

/-- This is the key that the standard derives from the password. -/
def passwordKey (password : Bytes UInt8) : Bytes UInt8 :=
  Hkdf.expand (mdHmac .sha256) (mdHmac .sha256 [] password) AES256_FILE_KDF_INFO 32 32

theorem fileKey_eq {password : Bytes UInt8} (short : password.length < 2 ^ 32) :
    fileKey password = some (passwordKey password) := by
  have saltShort : ([] : Bytes UInt8).length < 2 ^ 32 := by decide
  have infoShort : AES256_FILE_KDF_INFO.length < 2 ^ 32 := by decide
  have derived := cryptoHfHkdfSha256_eq short saltShort infoShort AES256_KEY_LENGTH
  rw [if_pos (by decide)] at derived
  rw [fileKey, derived]
  rfl

/-- Every content within the limit is encrypted with the key of the standard, and comes back with
the same password. -/
theorem cryptoDecryptFile_encrypted {password : Bytes UInt8} (short : password.length < 2 ^ 32)
    {content : FileContent} (within : content.data.length ≤ maxLen) :
    ∃ encrypted : FileContent, IsEncryption cipher (passwordKey password) encrypted.data ∧
      cryptoEncryptFile cipher content password = some ⟨E2EES_RESULT_SUCC, some encrypted.data⟩ ∧
      cryptoDecryptFile cipher encrypted password =
        some ⟨E2EES_RESULT_SUCC, some content.data⟩ := by
  obtain ⟨encrypted, encrypts, decrypts, -⟩ :=
    @cryptoDecryptAesFile_encrypted cipher (passwordKey password) content within
  refine ⟨encrypted, ⟨content, encrypts⟩, ?_, ?_⟩
  · rw [cryptoEncryptFile, fileKey_eq short, Option.map_some, encrypts]
  · rw [cryptoDecryptFile, fileKey_eq short, Option.map_some, decrypts]

/-- An empty password is a password, too. -/
theorem emptyPassword_decrypts :
    ∃ encrypted : FileContent, IsEncryption sampleCipher (passwordKey []) encrypted.data ∧
      cryptoEncryptFile sampleCipher ⟨[1, 2, 3], by decide⟩ [] =
        some ⟨E2EES_RESULT_SUCC, some encrypted.data⟩ ∧
      cryptoDecryptFile sampleCipher encrypted [] = some ⟨E2EES_RESULT_SUCC, some [1, 2, 3]⟩ :=
  cryptoDecryptFile_encrypted sampleCipher (by decide) (by decide)

end PasswordFiles

end E2eeSecurity
