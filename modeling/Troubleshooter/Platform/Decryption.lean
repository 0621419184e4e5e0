import Troubleshooter.Library.Padding
import Troubleshooter.Platform.ChatPlatform

-- Unpadding a decrypted event undoes the padding, and takes nothing else off.
namespace Troubleshooter.Platform.ChatPlatform

open Troubleshooter.Library

variable {blockSize : Nat} {value padded : List UInt8}

theorem pkcs7Unpad_pad (hpos : 0 < blockSize) (hsize : blockSize < 256) :
    pkcs7Unpad (Padding.pad blockSize value) blockSize = .ok value := by
  have hmissing := @Padding.toNat_missing blockSize value.length hsize
  have hlength : (Padding.pad blockSize value).length -
      Padding.missing blockSize value.length = value.length := by
    rw [Padding.length_pad]
    exact Nat.add_sub_cancel ..
  have hbounds : ¬(Padding.missing blockSize value.length = 0 ∨
      blockSize < Padding.missing blockSize value.length ∨
      (Padding.pad blockSize value).length < Padding.missing blockSize value.length) := by
    have hfirst := @Padding.missing_pos blockSize value.length hpos
    have hle := @Padding.missing_le blockSize value.length
    rw [Padding.length_pad]
    omega
  unfold pkcs7Unpad
  rw [Padding.getLast?_pad hpos]
  dsimp only
  rw [hmissing, hlength, Padding.take_pad, Padding.drop_pad, if_neg, if_neg hbounds, if_neg]
  · exact not_not_intro rfl
  · rw [Padding.length_pad]
    exact not_not_intro (Padding.add_missing_mod hpos)

theorem pkcs7Unpad_eq_ok (h : pkcs7Unpad padded blockSize = .ok value) :
    padded = Padding.pad blockSize value := by
  unfold pkcs7Unpad at h
  cases hlast : padded.getLast? with
  | none =>
    rw [hlast] at h
    exact nomatch h
  | some last =>
    rw [hlast] at h
    dsimp only [refuse] at h
    simp only [Checks.refuse_eq_ok, not_or, not_not, Nat.not_lt] at h
    obtain ⟨hmod, ⟨hpos, hle, hfits⟩, hdrop, hvalue⟩ := h
    rw [← Except.ok.inj hvalue]
    exact Padding.eq_pad hmod (Nat.pos_of_ne_zero hpos) hle hfits hdrop

-- The blocks of the cipher have 16 bytes.
theorem pkcs7Unpad_exact :
    (∀ message, pkcs7Unpad (Padding.pad 16 message) 16 = .ok message) ∧
      ∀ padded, ((∃ message, pkcs7Unpad padded 16 = .ok message) ↔
          ∃ message, padded = Padding.pad 16 message) ∧
        ∀ message, pkcs7Unpad padded 16 = .ok message → Padding.pad 16 message = padded := by
  have hpad : ∀ message, pkcs7Unpad (Padding.pad 16 message) 16 = .ok message :=
    fun message => pkcs7Unpad_pad (by decide) (by decide)
  refine ⟨hpad, fun padded => ⟨⟨?_, ?_⟩, fun message h => (pkcs7Unpad_eq_ok h).symm⟩⟩
  · rintro ⟨message, h⟩
    exact ⟨message, pkcs7Unpad_eq_ok h⟩
  · rintro ⟨message, rfl⟩
    exact ⟨message, hpad message⟩

end Troubleshooter.Platform.ChatPlatform
