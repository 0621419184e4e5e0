import Mathlib.Data.List.Basic
import Mathlib.Data.UInt

-- Padding to whole blocks, where each byte of the padding is its length.
namespace Troubleshooter.Library.Padding

def missing (blockSize length : Nat) : Nat := blockSize - length % blockSize

def pad (blockSize : Nat) (value : List UInt8) : List UInt8 :=
  value ++ List.replicate (missing blockSize value.length)
    (UInt8.ofNat (missing blockSize value.length))

section Blocks

variable {blockSize length : Nat}

theorem missing_pos (hpos : 0 < blockSize) : 0 < missing blockSize length :=
  Nat.sub_pos_of_lt (Nat.mod_lt length hpos)

theorem missing_le : missing blockSize length ≤ blockSize := Nat.sub_le ..

theorem add_missing_mod (hpos : 0 < blockSize) :
    (length + missing blockSize length) % blockSize = 0 := by
  have hlt := Nat.mod_lt length hpos
  have hdiv := Nat.div_add_mod length blockSize
  have hsum : length + missing blockSize length = blockSize * (length / blockSize + 1) := by
    unfold missing
    rw [Nat.mul_add, Nat.mul_one]
    omega
  rw [hsum, Nat.mul_mod_right]

-- A length that fills the last block is the missing one.
theorem missing_eq {rest : Nat} (hrest : 0 < rest) (hle : rest ≤ blockSize)
    (hmod : (length + rest) % blockSize = 0) : missing blockSize length = rest := by
  have hpos := Nat.lt_of_lt_of_le hrest hle
  have hlt := Nat.mod_lt length hpos
  obtain ⟨blocks, hblocks⟩ := Nat.dvd_of_mod_eq_zero hmod
  have hdiv := Nat.div_add_mod length blockSize
  have hcount : blocks = length / blockSize + 1 := by
    refine Nat.le_antisymm ?_ ?_
    · by_contra hmore
      have := Nat.mul_le_mul_left blockSize (Nat.not_le.mp hmore)
      rw [Nat.mul_succ, Nat.mul_add, Nat.mul_one] at this
      omega
    · by_contra hless
      have := Nat.mul_le_mul_left blockSize (Nat.le_of_lt_succ (Nat.not_le.mp hless))
      omega
  rw [hcount, Nat.mul_add, Nat.mul_one] at hblocks
  unfold missing
  omega

theorem toNat_missing (hsize : blockSize < 256) :
    (UInt8.ofNat (missing blockSize length)).toNat = missing blockSize length :=
  UInt8.toNat_ofNat_of_lt' (Nat.lt_of_le_of_lt missing_le hsize)

variable {value padded : List UInt8}

theorem length_pad : (pad blockSize value).length =
    value.length + missing blockSize value.length := by
  rw [pad, List.length_append, List.length_replicate]

theorem getLast?_pad (hpos : 0 < blockSize) : (pad blockSize value).getLast? =
    some (UInt8.ofNat (missing blockSize value.length)) := by
  rw [pad, List.getLast?_append_of_ne_nil, List.getLast?_replicate, if_neg]
  · exact (missing_pos hpos).ne'
  · exact List.ne_nil_of_length_pos (by rw [List.length_replicate]; exact missing_pos hpos)

theorem take_pad : (pad blockSize value).take value.length = value := List.take_left

theorem drop_pad : (pad blockSize value).drop value.length =
    List.replicate (missing blockSize value.length)
      (UInt8.ofNat (missing blockSize value.length)) := List.drop_left

-- Whole blocks that end in as many bytes as the last of them says are padded.
theorem eq_pad {last : UInt8} (hmod : padded.length % blockSize = 0) (hpos : 0 < last.toNat)
    (hle : last.toNat ≤ blockSize) (hfits : last.toNat ≤ padded.length)
    (hdrop : padded.drop (padded.length - last.toNat) = List.replicate last.toNat last) :
    padded = pad blockSize (padded.take (padded.length - last.toNat)) := by
  have hlength : (padded.take (padded.length - last.toNat)).length =
      padded.length - last.toNat := by
    rw [List.length_take]
    exact Nat.min_eq_left (Nat.sub_le ..)
  have hmissing : missing blockSize (padded.length - last.toNat) = last.toNat :=
    missing_eq hpos hle (by rwa [Nat.sub_add_cancel hfits])
  rw [pad, hlength, hmissing, UInt8.ofNat_toNat, ← hdrop, List.take_append_drop]

end Blocks

end Troubleshooter.Library.Padding
