import Troubleshooter.Library.Firsts
import Troubleshooter.Platform.ChatPlatform

-- How many images of an event are looked at.
namespace Troubleshooter.Platform.ChatPlatform

open Troubleshooter.Library
open Troubleshooter.Python (strip)

structure LarkImageDownloader where
  host : Host
  maxImagesPerMessage : Nat

-- The keys that download_images asks for.
def LarkImageDownloader.keys (downloader : LarkImageDownloader) (event : ChatEvent) :
    List String :=
  Host.boundedFrom downloader.maxImagesPerMessage
    ((event.imageKeys.map .str).map (Python.str downloader.host.python)) []

-- The trimmed keys that are not blank.
def presentKeys (keys : List String) : List String := (keys.map strip).filter (· ≠ "")

-- A list of keys that keeps to the bound: the first of the different keys, in order.
structure Bounded (maxImages : Nat) (keys out : List String) : Prop where
  atMost : out.length ≤ maxImages
  distinct : out.Nodup
  trimmed : ∀ key ∈ out, strip key = key ∧ key ≠ ""
  ordered : out <+: Firsts.firsts id (presentKeys keys)

section Keys

variable {maxImages : Nat} {keys out : List String}

theorem presentKeys_cons (raw : String) : presentKeys (raw :: keys) =
    if strip raw = "" then presentKeys keys else strip raw :: presentKeys keys := by
  unfold presentKeys
  rw [List.map_cons]
  split
  next hblank => exact List.filter_cons_of_neg (by simp [hblank])
  next hpresent => exact List.filter_cons_of_pos (by simp [hpresent])

-- The loop looks at the bound after a key only, so that it takes one in any case.
theorem boundedFrom_eq (hroom : out.length < max 1 maxImages) :
    Host.boundedFrom maxImages keys out =
      ((presentKeys keys).foldl (Firsts.add id) out).take (max 1 maxImages) := by
  induction keys generalizing out with
  | nil => exact (List.take_of_length_le hroom.le).symm
  | cons raw rest ih =>
    rw [Host.boundedFrom, presentKeys_cons]
    by_cases hblank : strip raw = ""
    · rw [if_pos (.inl hblank), if_pos hblank, ih hroom]
    · rw [if_neg hblank, List.foldl_cons, Firsts.add, List.map_id, id_eq]
      by_cases hold : strip raw ∈ out
      · rw [if_pos (.inr hold), if_pos hold, ih hroom]
      · rw [if_neg (not_or_intro hblank hold), if_neg hold]
        by_cases hfull : maxImages ≤ out.length + 1
        · have hlength : (out ++ [strip raw]).length = max 1 maxImages := by
            rw [List.length_append, List.length_singleton]
            omega
          have hgrows : out ++ [strip raw] <+:
              (presentKeys rest).foldl (Firsts.add id) (out ++ [strip raw]) :=
            Firsts.prefix_foldl_add
          obtain ⟨more, hmore⟩ := hgrows
          rw [if_pos hfull, ← hmore, ← hlength, List.take_left]
        · rw [if_neg hfull, ih]
          rw [List.length_append, List.length_singleton]
          omega

theorem boundedFrom_firsts : Host.boundedFrom maxImages keys [] =
    (Firsts.firsts id (presentKeys keys)).take (max 1 maxImages) := by
  rw [boundedFrom_eq (by simp), Firsts.foldl_add]

end Keys

-- The keys keep to the bound where it is not zero, or no key is there to be taken.
theorem keys_bounded_iff (downloader : LarkImageDownloader) (event : ChatEvent) :
    Bounded downloader.maxImagesPerMessage event.imageKeys (downloader.keys event) ↔
      downloader.maxImagesPerMessage ≠ 0 ∨ ∀ key ∈ event.imageKeys, strip key = "" := by
  have hkeys : downloader.keys event =
      (Firsts.firsts id (presentKeys event.imageKeys)).take
        (max 1 downloader.maxImagesPerMessage) := by
    have hstr : (event.imageKeys.map Value.str).map (Python.str downloader.host.python) =
        event.imageKeys := by
      rw [List.map_map]
      exact List.map_id _
    rw [LarkImageDownloader.keys, hstr, boundedFrom_firsts]
  have hpresent : Firsts.firsts id (presentKeys event.imageKeys) = [] ↔
      ∀ key ∈ event.imageKeys, strip key = "" := by
    rw [List.eq_nil_iff_forall_not_mem]
    simp [Firsts.mem_firsts_id, presentKeys]
  rw [hkeys]
  constructor
  · intro h
    by_contra hnot
    obtain ⟨hzero, hsome⟩ := not_or.mp hnot
    -- With a bound of zero one key is taken all the same.
    have hatMost := h.atMost
    rw [not_not.mp hzero, Nat.max_zero, List.length_take, Nat.le_zero, Nat.min_eq_zero_iff,
      List.length_eq_zero_iff] at hatMost
    exact hsome (hpresent.mp (hatMost.resolve_left Nat.one_ne_zero))
  · intro h
    refine ⟨?_, ?_, ?_, List.take_prefix _ _⟩
    · rcases h with hpositive | hblank
      · rw [List.length_take]
        omega
      · rw [hpresent.mpr hblank, List.take_nil]
        exact Nat.zero_le _
    · exact Firsts.nodup_firsts_id.sublist (List.take_sublist _ _)
    · intro key hkey
      obtain ⟨hraw, hne⟩ :=
        List.mem_filter.mp (Firsts.mem_firsts_id.mp (List.mem_of_mem_take hkey))
      obtain ⟨raw, -, rfl⟩ := List.mem_map.mp hraw
      exact ⟨Text.strip_strip _ _, of_decide_eq_true hne⟩

namespace Sample

def noImages : LarkImageDownloader := { host, maxImagesPerMessage := 0 }

end Sample

-- No image is wanted, and one is asked for.
theorem keys_not_bounded :
    ¬∀ (downloader : LarkImageDownloader) (event : ChatEvent),
      Bounded downloader.maxImagesPerMessage event.imageKeys (downloader.keys event) := by
  intro h
  exact absurd (h Sample.noImages { imageKeys := ["img_1"] }).atMost (by decide +kernel)

end Troubleshooter.Platform.ChatPlatform
