import Mathlib.Algebra.GroupWithZero.Nat
import Mathlib.Data.List.TakeWhile

-- Texts as the bytes that they are written with.
namespace Troubleshooter.Library.Utf8

def encode (letters : List Char) : List UInt8 := letters.flatMap String.utf8EncodeChar

-- The bytes are those of a text.
def Valid (bytes : List UInt8) : Prop := ∃ letters, bytes = encode letters

theorem encode_cons (c : Char) (letters : List Char) :
    encode (c :: letters) = String.utf8EncodeChar c ++ encode letters := List.flatMap_cons

theorem encode_append (front back : List Char) :
    encode (front ++ back) = encode front ++ encode back := List.flatMap_append

theorem length_encode (letters : List Char) :
    (encode letters).length = (letters.map Char.utf8Size).sum := by
  induction letters with
  | nil => rfl
  | cons c letters ih =>
    rw [encode_cons, List.length_append, String.length_utf8EncodeChar, ih, List.map_cons,
      List.sum_cons]

-- The bytes of a letter are told apart from those of any other one.
theorem encodeChar_inj {c d : Char} {x y : List UInt8}
    (h : String.utf8EncodeChar c ++ x = String.utf8EncodeChar d ++ y) : c = d ∧ x = y := by
  have hbytes := congrArg List.toByteArray h
  rw [List.toByteArray_append, List.toByteArray_append] at hbytes
  have hdecode := congrArg (fun bytes => bytes.utf8DecodeChar? 0) hbytes
  rw [ByteArray.utf8DecodeChar?_utf8EncodeChar_append,
    ByteArray.utf8DecodeChar?_utf8EncodeChar_append] at hdecode
  obtain rfl := Option.some.inj hdecode
  exact ⟨rfl, List.append_cancel_left h⟩

-- A text whose bytes begin those of another one begins it.
theorem encode_prefix {front letters : List Char} {x : List UInt8}
    (h : encode front ++ x = encode letters) : ∃ back, letters = front ++ back ∧ x = encode back := by
  induction front generalizing letters with
  | nil => exact ⟨letters, rfl, h⟩
  | cons c front ih =>
    rw [encode_cons, List.append_assoc] at h
    cases letters with
    | nil =>
      have hlength := congrArg List.length h
      rw [List.length_append, String.length_utf8EncodeChar] at hlength
      have hpos := c.utf8Size_pos
      simp only [encode, List.flatMap_nil, List.length_nil] at hlength
      omega
    | cons d letters =>
      rw [encode_cons] at h
      obtain ⟨rfl, hrest⟩ := encodeChar_inj h
      obtain ⟨back, rfl, hx⟩ := ih hrest
      exact ⟨back, rfl, hx⟩

-- The first bytes of a text are those of a text exactly when they end where one of its letters
-- does.
theorem valid_take_iff {letters : List Char} {count : Nat} (h : count ≤ (encode letters).length) :
    Valid ((encode letters).take count) ↔
      ∃ front back, letters = front ++ back ∧ (encode front).length = count := by
  constructor
  · rintro ⟨front, hfront⟩
    have hsplit : encode front ++ (encode letters).drop count = encode letters := by
      rw [← hfront, List.take_append_drop]
    obtain ⟨back, hletters, -⟩ := encode_prefix hsplit
    refine ⟨front, back, hletters, ?_⟩
    rw [← hfront, List.length_take]
    omega
  · rintro ⟨front, back, rfl, rfl⟩
    exact ⟨front, by rw [encode_append, List.take_left]⟩

-- A byte that begins a letter, at the end, is a letter of its own.
theorem Valid.of_concat {bytes : List UInt8} {byte : UInt8} (hfirst : byte.IsUTF8FirstByte)
    (h : Valid (bytes ++ [byte])) : Valid bytes := by
  obtain ⟨letters, hletters⟩ := h
  rcases List.eq_nil_or_concat letters with rfl | ⟨front, e, rfl⟩
  · exact absurd hletters (by simp [encode])
  · rw [List.concat_eq_append, encode_append] at hletters
    have hsingle : encode [e] = String.utf8EncodeChar e := List.append_nil _
    obtain ⟨before, ends, hsplit⟩ : ∃ before ends, String.utf8EncodeChar e = before ++ [ends] := by
      refine ⟨_, _, (List.dropLast_concat_getLast (List.length_pos_iff.mp ?_)).symm⟩
      rw [String.length_utf8EncodeChar]
      exact e.utf8Size_pos
    rw [hsingle, hsplit, ← List.append_assoc] at hletters
    obtain ⟨hbytes, hends⟩ := List.append_inj' hletters rfl
    obtain ⟨rfl, -⟩ := List.cons.inj hends
    have hlength : before.length < (String.utf8EncodeChar e).length := by
      rw [hsplit, List.length_append, List.length_singleton]
      exact Nat.lt_succ_self _
    have hbyte : (String.utf8EncodeChar e)[before.length] = byte := by
      simp only [hsplit, List.getElem_concat_length]
    have hzero := UInt8.isUTF8FirstByte_getElem_utf8EncodeChar.mp (hbyte ▸ hfirst)
    rw [List.length_eq_zero_iff.mp hzero, List.append_nil] at hbytes
    exact ⟨front, hbytes⟩

theorem Valid.append {front back : List UInt8} (hfront : Valid front) (hback : Valid back) :
    Valid (front ++ back) := by
  obtain ⟨letters, rfl⟩ := hfront
  obtain ⟨more, rfl⟩ := hback
  exact ⟨letters ++ more, (encode_append letters more).symm⟩

end Troubleshooter.Library.Utf8
