import Troubleshooter.Capability.Consistency

namespace Troubleshooter.Capability

-- A capability store as the gateway meets it: its rows, one for each tool name, and
-- what a listing answers, which may leave rows out and may fail.
structure StoreView where
  rows : List ToolCapability
  listToolCapabilities : ToolFilter → Except Go.Error (List ToolCapability)
  distinct : (rows.map ToolCapability.toolName).Nodup
  listed : ∀ filter items, listToolCapabilities filter = .ok items →
    (∀ item ∈ items, item ∈ rows) ∧ (items.map ToolCapability.toolName).Nodup

namespace StoreView

def empty : StoreView where
  rows := []
  listToolCapabilities _ := .ok []
  distinct := List.nodup_nil
  listed filter items h := by simp [← Except.ok.inj h]

-- One row, in every listing.
def single (item : ToolCapability) : StoreView where
  rows := [item]
  listToolCapabilities _ := .ok [item]
  distinct := List.nodup_singleton _
  listed _ items h := by simp [← Except.ok.inj h]

end StoreView

namespace MemoryStore

def rows (s : MemoryStore) : List ToolCapability := s.tools.entries.map Sigma.snd

theorem mem_rows (s : MemoryStore) (item : ToolCapability) (h : item ∈ s.rows) :
    ∃ id, s.tools.get? id = some item := by
  obtain ⟨entry, hentry, rfl⟩ := List.mem_map.mp h
  exact ⟨entry.1, AList.mem_lookup_iff.mpr hentry⟩

theorem rows_distinct (s : MemoryStore) (h : s.Consistent) :
    (s.rows.map ToolCapability.toolName).Nodup := by
  have hkeys : (s.tools.entries.map Sigma.fst).Nodup := s.tools.nodupKeys
  rw [rows, List.map_map]
  refine (List.nodup_map_iff_inj_on (hkeys.of_map _)).mpr fun entry hentry other hother heq => ?_
  -- rows of one name have one id, and an id has one row
  have hentryrow := (h.indexed entry.1 entry.2 (AList.mem_lookup_iff.mpr hentry)).2
  have hotherrow := (h.indexed other.1 other.2 (AList.mem_lookup_iff.mpr hother)).2
  simp only [Function.comp_apply] at heq
  rw [heq, hotherrow] at hentryrow
  exact List.inj_on_of_nodup_map hkeys hentry hother (Option.some.inj hentryrow).symm

-- A listing takes some of the rows, in its own order.
theorem listToolCapabilities_perm (s : MemoryStore) (filter : ToolFilter) :
    ∃ taken : List ToolCapability, taken.Perm (s.listToolCapabilities filter) ∧ taken.Sublist s.rows := by
  have htaken := (List.take_sublist (if filter.limit ≤ 0 then 100 else filter.limit).toNat
    ((s.rows.filter filter.admits).insertionSort listedBefore)).subperm
  exact (htaken.trans (List.perm_insertionSort _ _).subperm).trans List.filter_sublist.subperm

-- The in-memory store is a view.
def view (s : MemoryStore) (h : s.Consistent) : StoreView where
  rows := s.rows
  listToolCapabilities filter := .ok (s.listToolCapabilities filter)
  distinct := s.rows_distinct h
  listed filter items hitems := by
    obtain rfl := Except.ok.inj hitems
    obtain ⟨taken, hperm, hsublist⟩ := s.listToolCapabilities_perm filter
    refine ⟨fun item hmem => hsublist.subset (hperm.mem_iff.mpr hmem), ?_⟩
    exact (hperm.map ToolCapability.toolName).nodup_iff.mp
      ((s.rows_distinct h).sublist (hsublist.map _))

end MemoryStore

end Troubleshooter.Capability
