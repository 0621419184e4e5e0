import Troubleshooter.Library.Utf8
import Troubleshooter.Masking.Values
import Troubleshooter.Tool.Types

-- The summary of the arguments that the audit record of a call carries.
namespace Troubleshooter.Gateway

open Troubleshooter.Library
open Troubleshooter.Tool (Arguments)

-- The bytes of the summary, which are cut wherever the limit falls.
def argumentsSummary (go : Go.Runtime) (args : Arguments) : List UInt8 :=
  match Go.marshal go (Masking.maskValue go (.map args)) with
  | none => Utf8.encode "\x7b\x7d".toList
  | some json =>
    let b := Utf8.encode json.toList
    if b.length > 512 then b.take 512 ++ Utf8.encode "...".toList else b

-- What a column of the audit table takes: a text of no more than 515 bytes.
structure Fits (bytes : List UInt8) : Prop where
  valid : Utf8.Valid bytes
  length : bytes.length ≤ 515

-- A text that is not cut, or cut between two letters.
def Cuttable (letters : List Char) : Prop :=
  (letters.map Char.utf8Size).sum ≤ 512 ∨
    ∃ front back, letters = front ++ back ∧ (front.map Char.utf8Size).sum = 512

theorem encode_dots : Utf8.encode "...".toList = [46] ++ ([46] ++ [46]) := by decide +kernel

theorem valid_cut_iff {letters : List Char} (hlong : 512 < (Utf8.encode letters).length) :
    Utf8.Valid ((Utf8.encode letters).take 512 ++ Utf8.encode "...".toList) ↔ Cuttable letters := by
  have hdots : Utf8.Valid ((Utf8.encode letters).take 512 ++ Utf8.encode "...".toList) ↔
      Utf8.Valid ((Utf8.encode letters).take 512) := by
    have hfirst : (46 : UInt8).IsUTF8FirstByte := by decide
    constructor
    · intro h
      rw [encode_dots, ← List.append_assoc, ← List.append_assoc] at h
      exact ((h.of_concat hfirst).of_concat hfirst).of_concat hfirst
    · exact fun h => h.append ⟨_, rfl⟩
  rw [hdots, Utf8.valid_take_iff (Nat.le_of_lt hlong), Cuttable, ← Utf8.length_encode]
  simp only [Utf8.length_encode] at hlong ⊢
  constructor
  · exact .inr
  · exact fun h => h.resolve_left (Nat.not_le.mpr hlong)

-- The summary always keeps to the length, and it is a text exactly when the limit does not fall
-- into a letter of the masked arguments as JSON writes them.
theorem argumentsSummary_fits_iff (go : Go.Runtime) (args : Arguments) :
    Fits (argumentsSummary go args) ↔
      ∀ json, Go.marshal go (Masking.maskValue go (.map args)) = some json →
        Cuttable json.toList := by
  unfold argumentsSummary
  cases Go.marshal go (Masking.maskValue go (.map args)) with
  | none =>
    dsimp only
    refine ⟨fun _ json hjson => absurd hjson (Option.some_ne_none json).symm, fun _ => ⟨⟨_, rfl⟩, ?_⟩⟩
    rw [Utf8.length_encode]
    decide
  | some json =>
    dsimp only
    have hall : (∀ other, some json = some other → Cuttable other.toList) ↔
        Cuttable json.toList := ⟨fun h => h json rfl, fun h other heq => Option.some.inj heq ▸ h⟩
    rw [hall]
    split
    next hlong =>
      rw [← valid_cut_iff hlong]
      refine ⟨Fits.valid, fun h => ⟨h, ?_⟩⟩
      rw [List.length_append, List.length_take, encode_dots]
      exact Nat.add_le_add_right (Nat.min_le_left 512 _) 3
    next hshort =>
      rw [Nat.not_lt] at hshort
      refine ⟨fun _ => .inl (Utf8.length_encode _ ▸ hshort), fun _ => ⟨⟨_, rfl⟩, ?_⟩⟩
      exact hshort.trans (by decide)

-- A question of 170 Chinese characters.
def longQuestion : List Char := List.replicate 170 '\u4e2d'

def longArguments : Arguments := [("q", .str (String.ofList longQuestion))]

theorem maskString_longQuestion :
    Masking.maskString (String.ofList longQuestion) = String.ofList longQuestion := by
  have hemail : Masking.emailPattern.found none longQuestion = false := by decide +kernel
  have hphone : Masking.phonePattern.found none longQuestion = false := by decide +kernel
  have htoken : Masking.tokenPattern.found none longQuestion = false := by decide +kernel
  unfold Masking.maskString Regex.replaceAll
  dsimp only
  rw [String.toList_ofList, Regex.replaceFrom_of_not_found hemail,
    Regex.replaceFrom_of_not_found hphone, Regex.replaceFrom_of_not_found htoken]

theorem marshal_longArguments : ∃ json,
    Go.marshal .ascii (Masking.maskValue .ascii (.map longArguments)) = some json ∧
      json.toList = ['\x7b', '"', 'q', '"', ':', '"'] ++ (longQuestion ++ ['"', '\x7d']) := by
  have hescaped : longQuestion.flatMap Go.jsonEscape = longQuestion := by decide +kernel
  have hkey : Masking.sensitive .ascii "q" = false := by decide +kernel
  refine ⟨"\x7b" ++ (Go.jsonString "q" ++ ":" ++ Go.jsonString (String.ofList longQuestion)) ++
    "\x7d", ?_, ?_⟩
  · rw [longArguments, Masking.maskValue, Masking.maskEntries, Masking.maskEntries, hkey,
      if_neg Bool.false_ne_true, Masking.maskValue, maskString_longQuestion]
    rfl
  · simp [Go.jsonString, hescaped, Go.jsonEscape]

theorem not_fits_longQuestion : ¬Fits (argumentsSummary .ascii longArguments) := by
  obtain ⟨json, hjson, hletters⟩ := marshal_longArguments
  intro h
  have hlong : 512 < (Utf8.encode json.toList).length := by
    rw [Utf8.length_encode, hletters]
    decide +kernel
  have hvalid := h.valid
  rw [argumentsSummary, hjson] at hvalid
  dsimp only at hvalid
  rw [if_pos hlong, valid_cut_iff hlong, Cuttable, ← Utf8.length_encode] at hvalid
  rcases hvalid with hshort | ⟨front, back, hsplit, hsum⟩
  · omega
  · have hfront : front = json.toList.take front.length := by rw [hsplit, List.take_left]
    have hcount : front.length < 179 := by
      have hlength := congrArg List.length hsplit
      have hwhole : (['\x7b', '"', 'q', '"', ':', '"'] ++ (longQuestion ++ ['"', '\x7d'])).length =
          178 := by decide +kernel
      rw [hletters, hwhole, List.length_append] at hlength
      omega
    -- before the cut there are six bytes and then three for each letter
    have hnone : ∀ count < 179, (((['\x7b', '"', 'q', '"', ':', '"'] ++
        (longQuestion ++ ['"', '\x7d'])).take count).map Char.utf8Size).sum ≠ 512 := by
      decide +kernel
    rw [hletters] at hfront
    exact hnone _ hcount (hfront ▸ hsum)

end Troubleshooter.Gateway
