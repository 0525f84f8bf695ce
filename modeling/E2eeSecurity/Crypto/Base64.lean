/-
This file gives the Base64 functions of `crypto.c` and shows which messages come back.
-/
import E2eeSecurity.Cipher
import E2eeSecurity.Library.Base64

namespace E2eeSecurity

/-- The number of bytes of an object in memory fits a signed difference of pointers. -/
structure MessageBuffer where
  data : Bytes UInt8
  fits : data.length < 2 ^ 63

/-- The result of the inner call is not checked, and no string stands for a buffer without one. -/
def cryptoBase64Encode (msg : MessageBuffer) : Option (Bytes UInt8) :=
  let msgLen := UInt64.ofNat msg.data.length
  let len := 4 * ((msgLen + 2) / 3) + 1
  Base64.encode len.toNat msg.data

/-- The string ends before the first zero. -/
def stringText (base64Str : Bytes UInt8) : Bytes UInt8 := base64Str.takeWhile (· ≠ 0)

/-- An incomplete last group takes all of its four characters away. -/
def decodeBufferLen (text : Bytes UInt8) : UInt64 :=
  let base64StrLen := UInt64.ofNat text.length
  let pad : UInt64 :=
    if 0 < base64StrLen ∧ (base64StrLen % 4 ≠ 0 ∨ text.getLast? = some Base64.equalSign) then 1
    else 0
  ((base64StrLen + 3) / 4 - pad) * 4

/-- No bytes stand for a null pointer with the length zero. -/
def cryptoBase64Decode (base64Str : Bytes UInt8) : Option (Bytes UInt8) :=
  let text := stringText base64Str
  let len := decodeBufferLen text
  match Base64.decode (len + 1).toNat text with
  | none => none
  | some buffer =>
      if (len + 1).toNat < buffer.length then none
      else if buffer.length = 0 then none
      else some buffer

section RoundTrip

variable {msg : MessageBuffer}

theorem cryptoBase64Encode_eq (present : msg.data ≠ []) :
    cryptoBase64Encode msg = some (Base64.encodeTriples msg.data ++ [0]) := by
  have fits := msg.fits
  apply Base64.encode_eq present fits
  have length : (UInt64.ofNat msg.data.length).toNat = msg.data.length :=
    UInt64.toNat_ofNat_of_lt (Nat.lt_trans fits (by decide))
  simp only [UInt64.toNat_add, UInt64.toNat_mul, UInt64.toNat_div, length, UInt64.reduceToNat]
  omega

theorem stringText_encoded (data : Bytes UInt8) :
    stringText (Base64.encodeTriples data ++ [0]) = Base64.encodeTriples data := by
  rw [stringText, List.takeWhile_append_of_pos]
  · simp
  · intro char inside
    simpa using Base64.ne_zero_of_mem_encodeTriples inside

theorem toNat_encodedLength (msg : MessageBuffer) :
    (UInt64.ofNat (Base64.encodeTriples msg.data).length).toNat =
      4 * ((msg.data.length + 2) / 3) := by
  have fits := msg.fits
  have total := Base64.length_encodeTriples msg.data
  have small : (Base64.encodeTriples msg.data).length < UInt64.size := by
    rw [total]
    simp only [UInt64.size]
    omega
  exact (UInt64.toNat_ofNat_of_lt small).trans total

/-- The buffer has no room for the last group when that group is incomplete. -/
theorem toNat_decodeBufferLen (present : msg.data ≠ []) :
    (decodeBufferLen (Base64.encodeTriples msg.data) + 1).toNat =
      ((msg.data.length + 2) / 3 - if msg.data.length % 3 ≠ 0 then 1 else 0) * 4 + 1 := by
  have positive := List.length_pos_iff.mpr present
  have fits := msg.fits
  have length := toNat_encodedLength msg
  have whole : UInt64.ofNat (Base64.encodeTriples msg.data).length % 4 = 0 := by
    apply UInt64.toNat_inj.mp
    rw [UInt64.toNat_mod, length]
    exact Nat.mul_mod_right _ _
  have more : 0 < UInt64.ofNat (Base64.encodeTriples msg.data).length := by
    rw [UInt64.lt_iff_toNat_lt, length]
    simp only [UInt64.reduceToNat]
    omega
  rw [decodeBufferLen]
  simp only [more, whole, Base64.getLast?_encodeTriples present, ne_eq, not_true, false_or,
    true_and]
  split
  all_goals
    simp only [UInt64.toNat_add, UInt64.toNat_mul, UInt64.toNat_div, UInt64.toNat_sub, length,
      UInt64.reduceToNat]
    omega

/-- The buffer is too small for two bytes, and for no other message. -/
theorem decodeBufferLen_lt_iff (present : msg.data ≠ []) :
    (decodeBufferLen (Base64.encodeTriples msg.data) + 1).toNat < msg.data.length ↔
      msg.data.length = 2 := by
  have positive := List.length_pos_iff.mpr present
  rw [toNat_decodeBufferLen present]
  split <;> omega

/-- A message comes back exactly when it does not have two bytes. -/
theorem cryptoBase64Decode_encode_iff (present : msg.data ≠ []) :
    (cryptoBase64Encode msg).bind cryptoBase64Decode = some msg.data ↔
      msg.data.length ≠ 2 := by
  have positive := List.length_pos_iff.mpr present
  have small := decodeBufferLen_lt_iff present
  rw [cryptoBase64Encode_eq present, Option.bind_some, cryptoBase64Decode, stringText_encoded]
  simp only [Base64.decode_encodeTriples present]
  by_cases two : msg.data.length = 2
  · rw [if_pos (small.mpr two)]
    simp [two]
  · rw [if_neg fun less => two (small.mp less)]
    simp only [small, two, if_false, ne_eq, not_false_eq_true, iff_true]
    rw [if_neg (by omega)]

theorem cryptoBase64Decode_encode_iff_three :
    (cryptoBase64Encode ⟨[77, 97, 110], by decide⟩).bind cryptoBase64Decode =
      some [77, 97, 110] :=
  (@cryptoBase64Decode_encode_iff ⟨[77, 97, 110], by decide⟩ (by decide)).mpr (by decide)

/-- Two bytes do not come back. -/
theorem twoBytes_lost :
    ¬ ∀ msg : MessageBuffer, msg.data ≠ [] →
      (cryptoBase64Encode msg).bind cryptoBase64Decode = some msg.data := by
  intro back
  have two := back ⟨[77, 97], by decide⟩ (by decide)
  revert two
  decide +kernel

end RoundTrip

end E2eeSecurity
