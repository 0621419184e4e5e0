import Mathlib.Data.List.Induction

-- Rows with a key, where a row is written over the one that has its key already.
namespace Troubleshooter.Library

section Last

variable {α κ : Type} [DecidableEq κ] (key : α → κ)

-- The last item of a key.
def lastOf (items : List α) (k : κ) : Option α := items.reverse.find? fun item => key item = k

variable {key} {items : List α} {item : α} {k : κ}

theorem lastOf_concat :
    lastOf key (items ++ [item]) k = if key item = k then some item else lastOf key items k := by
  unfold lastOf
  rw [List.reverse_append, List.reverse_singleton, List.singleton_append, List.find?_cons]
  by_cases h : key item = k
  · simp [h]
  · simp [h]

theorem key_of_lastOf (h : lastOf key items k = some item) : key item = k :=
  of_decide_eq_true (List.find?_some (p := fun item => decide (key item = k)) h)

theorem mem_of_lastOf (h : lastOf key items k = some item) : item ∈ items :=
  List.mem_reverse.mp (List.mem_of_find?_eq_some h)

end Last

-- What is left of an old row under a new one does not depend on what was between them.
structure Upserting (ρ κ : Type) where
  key : ρ → κ
  merge : ρ → ρ → ρ
  key_merge : ∀ row old, key (merge row old) = key row
  merge_merge : ∀ row between old, merge row (merge between old) = merge row old

namespace Upserting

variable {ρ κ : Type} [DecidableEq κ] (u : Upserting ρ κ)

def written (row old : ρ) : ρ := if u.key old = u.key row then u.merge row old else old

def upsert (rows : List ρ) (row : ρ) : List ρ :=
  if rows.any fun old => u.key old = u.key row then rows.map (u.written row) else rows ++ [row]

def upsertAll (writes rows : List ρ) : List ρ := writes.foldl u.upsert rows

-- What a row has become of an old one.
def refreshed (writes : List ρ) (old : ρ) : ρ :=
  match lastOf u.key writes (u.key old) with
  | some row => u.merge row old
  | none => old

-- A row is there already, as writing it would leave it.
def Held (rows : List ρ) (row : ρ) : Prop :=
  (∃ old ∈ rows, u.key old = u.key row) ∧
    ∀ old ∈ rows, u.key old = u.key row → u.merge row old = old

def Saved (rows : List ρ) (row : ρ) : Prop :=
  ∃ saved ∈ rows, saved = row ∨ ∃ old, saved = u.merge row old

variable {u} {writes rows : List ρ} {row old : ρ} {key : κ}

theorem key_written : u.key (u.written row old) = u.key old := by
  unfold written
  split
  next h => exact (u.key_merge row old).trans h.symm
  next => rfl

theorem key_refreshed : u.key (u.refreshed writes old) = u.key old := by
  unfold refreshed
  split
  next row hlast => exact (u.key_merge row old).trans (key_of_lastOf hlast)
  next => rfl

theorem refreshed_concat :
    u.refreshed (writes ++ [row]) old = u.written row (u.refreshed writes old) := by
  unfold written
  rw [key_refreshed]
  unfold refreshed
  rw [lastOf_concat]
  by_cases h : u.key row = u.key old
  · rw [if_pos h, if_pos h.symm]
    cases lastOf u.key writes (u.key old) with
    | none => rfl
    | some between => exact (u.merge_merge row between old).symm
  · rw [if_neg h, if_neg (Ne.symm h)]

-- A row that the writes have added: its key was not there, and it comes from the last write of it.
structure Added (u : Upserting ρ κ) (writes rows : List ρ) (row : ρ) : Prop where
  new : ∀ old ∈ rows, u.key old ≠ u.key row
  saved : ∃ final, lastOf u.key writes (u.key row) = some final ∧
    (row = final ∨ ∃ old, row = u.merge final old)

theorem Added.written {added : ρ} (h : Added u writes rows added) :
    Added u (writes ++ [row]) rows (u.written row added) where
  new old hold := by
    rw [key_written]
    exact h.new old hold
  saved := by
    rw [key_written, lastOf_concat]
    unfold Upserting.written
    by_cases hkey : u.key row = u.key added
    · rw [if_pos hkey, if_pos hkey.symm]
      exact ⟨row, rfl, .inr ⟨added, rfl⟩⟩
    · rw [if_neg hkey, if_neg (Ne.symm hkey)]
      exact h.saved

theorem Added.concat {added : ρ} (h : Added u writes rows added) (hkey : u.key row ≠ u.key added) :
    Added u (writes ++ [row]) rows added where
  new := h.new
  saved := by
    rw [lastOf_concat, if_neg hkey]
    exact h.saved

-- The old rows stand where they were, each as the last write of its key has left it, and the new
-- ones come behind them.
theorem upsertAll_shape (u : Upserting ρ κ) (writes rows : List ρ) :
    ∃ added, u.upsertAll writes rows = rows.map (u.refreshed writes) ++ added ∧
      (∀ row ∈ added, Added u writes rows row) ∧
      ∀ row ∈ writes, ∃ there ∈ u.upsertAll writes rows, u.key there = u.key row := by
  induction writes using List.reverseRecOn with
  | nil =>
    have hsame : u.refreshed [] = id := rfl
    exact ⟨[], by rw [hsame, List.map_id, List.append_nil]; rfl, nofun, nofun⟩
  | append_singleton writes row ih =>
    obtain ⟨added, hshape, hadded, hthere⟩ := ih
    have hstep : u.upsertAll (writes ++ [row]) rows = u.upsert (u.upsertAll writes rows) row := by
      unfold upsertAll
      rw [List.foldl_append, List.foldl_cons, List.foldl_nil]
    have hmap : (rows.map (u.refreshed writes)).map (u.written row) =
        rows.map (u.refreshed (writes ++ [row])) := by
      rw [List.map_map]
      exact List.map_congr_left fun old _ => refreshed_concat.symm
    rw [hstep]
    unfold upsert
    split
    next hany =>
      obtain ⟨there, hmem, hkey⟩ := List.any_eq_true.mp hany
      refine ⟨added.map (u.written row), ?_, ?_, ?_⟩
      · rw [hshape, List.map_append, hmap]
      · intro other hother
        obtain ⟨old, hold, rfl⟩ := List.mem_map.mp hother
        exact (hadded old hold).written
      · intro other hother
        have hold : ∃ there ∈ u.upsertAll writes rows, u.key there = u.key other := by
          rcases List.mem_append.mp hother with hwritten | hlast
          · exact hthere other hwritten
          · exact ⟨there, hmem, List.mem_singleton.mp hlast ▸ of_decide_eq_true hkey⟩
        obtain ⟨old, hold, hsame⟩ := hold
        exact ⟨u.written row old, List.mem_map_of_mem hold, key_written.trans hsame⟩
    next hnone =>
      have hfresh : ∀ old ∈ u.upsertAll writes rows, u.key old ≠ u.key row := by
        intro old hold hkey
        exact hnone (List.any_eq_true.mpr ⟨old, hold, decide_eq_true hkey⟩)
      have hkept : ∀ old ∈ u.upsertAll writes rows, u.written row old = old :=
        fun old hold => if_neg (hfresh old hold)
      refine ⟨added ++ [row], ?_, ?_, ?_⟩
      · rw [← hmap, List.map_congr_left (g := id) fun old hold => hkept old ?_, List.map_id,
          hshape, List.append_assoc]
        rw [hshape]
        exact List.mem_append_left _ hold
      · intro other hother
        rcases List.mem_append.mp hother with hold | hlast
        · refine (hadded other hold).concat (Ne.symm (hfresh other ?_))
          rw [hshape]
          exact List.mem_append_right _ hold
        · obtain rfl := List.mem_singleton.mp hlast
          refine ⟨fun old hold hkey => ?_, other, ?_, .inl rfl⟩
          · refine hfresh (u.refreshed writes old) ?_ (key_refreshed.trans hkey)
            rw [hshape]
            exact List.mem_append_left _ (List.mem_map_of_mem hold)
          · rw [lastOf_concat, if_pos rfl]
      · intro other hother
        rcases List.mem_append.mp hother with hwritten | hlast
        · obtain ⟨there, hmem, hkey⟩ := hthere other hwritten
          exact ⟨there, List.mem_append_left _ hmem, hkey⟩
        · exact ⟨row, List.mem_append_right _ (List.mem_singleton_self _),
            List.mem_singleton.mp hlast ▸ rfl⟩

-- The writes change nothing where the last one of each key finds its row as it leaves it.
theorem upsertAll_eq_iff :
    u.upsertAll writes rows = rows ↔
      ∀ key row, lastOf u.key writes key = some row → u.Held rows row := by
  obtain ⟨added, hshape, hadded, hthere⟩ := upsertAll_shape u writes rows
  constructor
  · intro heq key row hlast
    have hnil : added = [] := by
      have hlength := congrArg List.length (hshape.symm.trans heq)
      rw [List.length_append, List.length_map] at hlength
      exact List.eq_nil_of_length_eq_zero (by omega)
    rw [hnil, List.append_nil] at hshape
    have hsame : ∀ old ∈ rows, u.refreshed writes old = old :=
      List.map_inj_left.mp (hshape.symm.trans (heq.trans (List.map_id rows).symm))
    refine ⟨heq ▸ hthere row (mem_of_lastOf hlast), fun old hold hkey => ?_⟩
    have hrefreshed := hsame old hold
    unfold refreshed at hrefreshed
    rw [hkey, key_of_lastOf hlast, hlast] at hrefreshed
    exact hrefreshed
  · intro hheld
    have hnil : added = [] := by
      refine List.eq_nil_iff_forall_not_mem.mpr fun row hrow => ?_
      obtain ⟨hnew, final, hlast, -⟩ := hadded row hrow
      obtain ⟨⟨old, hold, hkey⟩, -⟩ := hheld _ final hlast
      exact hnew old hold (hkey.trans (key_of_lastOf hlast))
    have hsame : ∀ old ∈ rows, u.refreshed writes old = old := by
      intro old hold
      unfold refreshed
      split
      next row hlast => exact (hheld _ row hlast).2 old hold (key_of_lastOf hlast).symm
      next => rfl
    rw [hshape, hnil, List.append_nil]
    exact (List.map_congr_left hsame).trans (List.map_id rows)

theorem upsert_eq_iff : u.upsert rows row = rows ↔ u.Held rows row := by
  have hone : u.upsert rows row = u.upsertAll [row] rows := rfl
  have hlast : ∀ key, lastOf u.key [row] key = if u.key row = key then some row else none :=
    fun key => @lastOf_concat _ _ _ u.key [] row key
  rw [hone, upsertAll_eq_iff]
  constructor
  · intro h
    exact h (u.key row) row (by rw [hlast, if_pos rfl])
  · intro h key other hother
    rw [hlast] at hother
    split at hother
    next => exact Option.some.inj hother ▸ h
    next => exact nomatch hother

-- The last write of a key is in the table.
theorem saved_of_lastOf (h : lastOf u.key writes key = some row) :
    u.Saved (u.upsertAll writes rows) row := by
  obtain ⟨added, hshape, hadded, hthere⟩ := upsertAll_shape u writes rows
  obtain ⟨there, hmem, hkey⟩ := hthere row (mem_of_lastOf h)
  refine ⟨there, hmem, ?_⟩
  rw [hshape] at hmem
  rcases List.mem_append.mp hmem with hold | hnew
  · obtain ⟨old, -, rfl⟩ := List.mem_map.mp hold
    rw [key_refreshed, key_of_lastOf h] at hkey
    refine .inr ⟨old, ?_⟩
    unfold refreshed
    rw [hkey, h]
  · obtain ⟨-, final, hlast, hsaved⟩ := hadded there hnew
    rw [hkey, key_of_lastOf h, h] at hlast
    exact Option.some.inj hlast ▸ hsaved

end Upserting

end Troubleshooter.Library
