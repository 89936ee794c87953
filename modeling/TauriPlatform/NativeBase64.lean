import TauriPlatform.Base64
import TauriPlatform.NativeQuery

/-!
# The blobs of the native side

`base64_encode` puts three bytes into one word and takes its digits out with shifts and a mask.
The text is the padded encoding of the bits, for every number of bytes.
-/

namespace TauriPlatform.NativeQuery

theorem base64Digit_eq (value : UInt32) :
    base64Digit value = Base64.digit (value.toNat % 64) := by
  have hmask : (value &&& 63).toNat = value.toNat % 64 := by
    rw [UInt32.toNat_and]
    exact Nat.and_two_pow_sub_one_eq_mod value.toNat 6
  rw [base64Digit, hmask]
  rfl

theorem toNat_word (b1 b2 b3 : UInt8) :
    (b1.toUInt32 <<< 16 ||| b2.toUInt32 <<< 8 ||| b3.toUInt32).toNat =
      b1.toNat * 2 ^ 16 + b2.toNat * 2 ^ 8 + b3.toNat := by
  have hfirst := b1.toNat_lt
  have hsecond := b2.toNat_lt
  have hthird := b3.toNat_lt
  have hhigh : (b1.toUInt32 <<< 16).toNat = b1.toNat <<< 16 := by
    rw [UInt32.toNat_shiftLeft, UInt8.toNat_toUInt32, Nat.shiftLeft_eq, Nat.shiftLeft_eq]
    exact Nat.mod_eq_of_lt (by change b1.toNat * 2 ^ 16 < 2 ^ 32; omega)
  have hmiddle : (b2.toUInt32 <<< 8).toNat = b2.toNat <<< 8 := by
    rw [UInt32.toNat_shiftLeft, UInt8.toNat_toUInt32, Nat.shiftLeft_eq, Nat.shiftLeft_eq]
    exact Nat.mod_eq_of_lt (by change b2.toNat * 2 ^ 8 < 2 ^ 32; omega)
  have hlow : b2.toNat <<< 8 < 2 ^ 16 := by
    rw [Nat.shiftLeft_eq]
    omega
  rw [UInt32.toNat_or, UInt32.toNat_or, hhigh, hmiddle, UInt8.toNat_toUInt32, Nat.or_assoc,
    ← Nat.shiftLeft_add_eq_or_of_lt hthird, ← Nat.shiftLeft_add_eq_or_of_lt]
  · rw [Nat.shiftLeft_eq, Nat.shiftLeft_eq, Nat.add_assoc]
  · rw [Nat.shiftLeft_eq]
    omega

theorem base64Chunk_digits (chunk : List UInt8) {value : Nat}
    (hvalue : (chunk.getD 0 0).toNat * 2 ^ 16 + (chunk.getD 1 0).toNat * 2 ^ 8 +
      (chunk.getD 2 0).toNat = value) :
    base64Chunk chunk =
      [Base64.digit (value / 2 ^ 18 % 64), Base64.digit (value / 2 ^ 12 % 64),
        if chunk.length > 1 then Base64.digit (value / 2 ^ 6 % 64) else '=',
        if chunk.length > 2 then Base64.digit (value % 64) else '='] := by
  have hword := (toNat_word (chunk.getD 0 0) (chunk.getD 1 0) (chunk.getD 2 0)).trans hvalue
  have hshift (places : UInt32) (hplaces : places.toNat < 32) :
      base64Digit (((chunk.getD 0 0).toUInt32 <<< 16 ||| (chunk.getD 1 0).toUInt32 <<< 8 |||
        (chunk.getD 2 0).toUInt32) >>> places) =
        Base64.digit (value / 2 ^ places.toNat % 64) := by
    rw [base64Digit_eq, UInt32.toNat_shiftRight, Nat.shiftRight_eq_div_pow,
      Nat.mod_eq_of_lt hplaces, hword]
  rw [base64Chunk, hshift 18 (by decide), hshift 12 (by decide), hshift 6 (by decide),
    base64Digit_eq, hword]
  rfl

theorem base64Encode_eq (data : List UInt8) : base64Encode data = Base64.encode data := by
  induction data using base64Encode.induct with
  | case1 => rfl
  | case2 b1 =>
      have hchunk := base64Chunk_digits [b1] (by simp : _ = b1.toNat * 2 ^ 16)
      rw [base64Encode, Base64.encode_one, hchunk]
      rfl
  | case3 b1 b2 =>
      have hchunk := base64Chunk_digits [b1, b2]
        (by simp : _ = b1.toNat * 2 ^ 16 + b2.toNat * 2 ^ 8)
      rw [base64Encode, Base64.encode_two, hchunk]
      rfl
  | case4 b1 b2 b3 rest ih =>
      have hchunk := base64Chunk_digits [b1, b2, b3]
        (by simp : _ = b1.toNat * 2 ^ 16 + b2.toNat * 2 ^ 8 + b3.toNat)
      rw [base64Encode, Base64.encode_three, ih, hchunk]
      rfl

/-- Every blob is written in the padded encoding, and the decoder recovers its bytes. -/
theorem base64Encode_standard (data : List UInt8) :
    base64Encode data = Base64.encode data ∧ Base64.decode (base64Encode data) = some data :=
  ⟨base64Encode_eq data, by rw [base64Encode_eq, Base64.decode_encode]⟩

end TauriPlatform.NativeQuery
