import Mathlib.Data.List.Induction
import Mathlib.Data.List.Infix

namespace Troubleshooter.Library.Paths

variable {α : Type} [DecidableEq α]

-- One more segment below what has been resolved: a name for the place itself, one for
-- the place above, or a place of its own.
def step (here up : α) (above : List α) (segment : α) : List α :=
  if segment = here then above
  else if segment = up then above.dropLast
  else above ++ [segment]

def resolve (here up : α) (segments : List α) : List α := segments.foldl (step here up) []

section Stays

variable (here up : α)

-- A segment that names a place of its own.
def own (segment : α) : Bool := segment != here && segment != up

-- At no point there are more steps up than places to go up from.
def Stays (segments : List α) : Prop :=
  ∀ taken, taken <+: segments → taken.count up ≤ taken.countP (own here up)

theorem segment_cases (segment : α) :
    segment = here ∧ own here up segment = false ∨
      (segment ≠ here ∧ segment = up) ∧ own here up segment = false ∨
      (segment ≠ here ∧ segment ≠ up) ∧ own here up segment = true := by
  unfold own
  by_cases hhere : segment = here
  · exact .inl ⟨hhere, by simp [hhere]⟩
  · by_cases hup : segment = up
    · exact .inr (.inl ⟨⟨hhere, hup⟩, by simp [hup]⟩)
    · exact .inr (.inr ⟨⟨hhere, hup⟩, by simp [hhere, hup]⟩)

variable {here up} {segments above below : List α} {segment place : α}

theorem resolve_concat :
    resolve here up (segments ++ [segment]) = step here up (resolve here up segments) segment := by
  unfold resolve
  rw [List.foldl_append, List.foldl_cons, List.foldl_nil]

theorem stays_nil : Stays here up ([] : List α) := by
  intro taken htaken
  rw [List.prefix_nil.mp htaken]
  exact Nat.le_refl 0

theorem stays_concat :
    Stays here up (segments ++ [segment]) ↔ Stays here up segments ∧
      (segments ++ [segment]).count up ≤ (segments ++ [segment]).countP (own here up) := by
  constructor
  · intro h
    exact ⟨fun taken htaken => h taken (htaken.trans (List.prefix_append _ _)),
      h _ (List.prefix_refl _)⟩
  · rintro ⟨hsegments, hall⟩ taken htaken
    rcases List.prefix_concat_iff.mp htaken with rfl | hshorter
    · exact hall
    · exact hsegments taken hshorter

-- The depth that is reached where no step goes out.
theorem length_resolve (hne : here ≠ up) (h : Stays here up segments) :
    (resolve here up segments).length + segments.count up = segments.countP (own here up) := by
  induction segments using List.reverseRecOn with
  | nil => rfl
  | append_singleton segments segment ih =>
    obtain ⟨hsegments, hall⟩ := stays_concat.mp h
    have hlength := ih hsegments
    rw [List.count_append, List.countP_append, List.count_singleton, List.countP_singleton] at hall
    rw [resolve_concat, step, List.count_append, List.countP_append, List.count_singleton,
      List.countP_singleton]
    rcases segment_cases here up segment with
      ⟨rfl, hown⟩ | ⟨⟨hhere, rfl⟩, hown⟩ | ⟨⟨hhere, hup⟩, hown⟩
    · rw [if_pos rfl, hown]
      have hup : (segment == up) = false := beq_false_of_ne hne
      simp only [hup, Bool.false_eq_true, if_false]
      omega
    · rw [if_neg hhere, if_pos rfl, hown, List.length_dropLast]
      rw [hown] at hall
      simp only [beq_self_eq_true, Bool.false_eq_true, if_true, if_false] at hall ⊢
      omega
    · have hother : (segment == up) = false := beq_false_of_ne hup
      rw [if_neg hhere, if_neg hup, hown, List.length_append]
      simp only [hother, Bool.false_eq_true, if_true, if_false, List.length_singleton]
      omega

theorem resolve_ne_nil (hne : here ≠ up) (h : Stays here up (segments ++ [up])) :
    resolve here up segments ≠ [] := by
  obtain ⟨hsegments, hall⟩ := stays_concat.mp h
  have hlength := length_resolve hne hsegments
  have hown : own here up up = false := by simp [own]
  rw [List.count_append, List.countP_append, List.count_singleton, List.countP_singleton, hown,
    if_pos (beq_self_eq_true up)] at hall
  simp only [Bool.false_eq_true, if_false] at hall
  intro hnil
  rw [hnil, List.length_nil] at hlength
  omega

theorem Stays.concat (h : Stays here up segments) (hup : segment ≠ up) :
    Stays here up (segments ++ [segment]) := by
  refine stays_concat.mpr ⟨h, ?_⟩
  have hother : (segment == up) = false := beq_false_of_ne hup
  rw [List.count_append, List.countP_append, List.count_singleton, hother,
    if_neg Bool.false_ne_true]
  exact Nat.le_add_right_of_le (h segments (List.prefix_refl _))

theorem Stays.concat_up (hne : here ≠ up) (h : Stays here up segments)
    (hdeep : resolve here up segments ≠ []) : Stays here up (segments ++ [up]) := by
  refine stays_concat.mpr ⟨h, ?_⟩
  have hlength := length_resolve hne h
  have hpos := List.length_pos_iff.mpr hdeep
  rw [List.count_append, List.countP_append, List.count_singleton, if_pos (beq_self_eq_true up)]
  omega

-- What stays inside leaves alone what it stands below.
theorem foldl_step (hne : here ≠ up) (h : Stays here up segments) (above : List α) :
    segments.foldl (step here up) above = above ++ resolve here up segments := by
  induction segments using List.reverseRecOn with
  | nil => exact (List.append_nil above).symm
  | append_singleton segments segment ih =>
    rw [List.foldl_append, List.foldl_cons, List.foldl_nil, ih (stays_concat.mp h).1,
      resolve_concat]
    unfold step
    split
    next => rfl
    next =>
      split
      next hup => exact List.dropLast_append_of_ne_nil (resolve_ne_nil hne (hup ▸ h))
      next => exact List.append_assoc ..

-- A place is on the resolved path where one of its segments is not left again.
theorem resolve_eq_iff (hne : here ≠ up) :
    resolve here up segments = above ++ place :: below ↔
      ∃ before after, segments = before ++ place :: after ∧ own here up place = true ∧
        resolve here up before = above ∧ Stays here up after ∧ resolve here up after = below := by
  constructor
  · intro h
    induction segments using List.reverseRecOn generalizing below with
    | nil => exact absurd h (by simp [resolve])
    | append_singleton segments segment ih =>
      rw [resolve_concat] at h
      rcases segment_cases here up segment with
        ⟨rfl, hown⟩ | ⟨⟨hhere, rfl⟩, hown⟩ | ⟨⟨hhere, hup⟩, hown⟩
      · rw [step, if_pos rfl] at h
        obtain ⟨before, after, rfl, hplace, habove, hstays, hbelow⟩ := ih h
        refine ⟨before, after ++ [segment], by simp, hplace, habove, ?_, ?_⟩
        · exact hstays.concat hne
        · rw [resolve_concat, step, if_pos rfl, hbelow]
      · rw [step, if_neg hhere, if_pos rfl] at h
        have hdeep : resolve here segment segments ≠ [] := by
          intro hnil
          rw [hnil] at h
          exact absurd h (by simp)
        have hsplit := List.dropLast_append_getLast hdeep
        rw [h, List.append_assoc, List.cons_append] at hsplit
        obtain ⟨before, after, rfl, hplace, habove, hstays, hbelow⟩ := ih hsplit.symm
        refine ⟨before, after ++ [segment], by simp, hplace, habove, ?_, ?_⟩
        · exact hstays.concat_up hne (by simp [hbelow])
        · rw [resolve_concat, step, if_neg hhere, if_pos rfl, hbelow, List.dropLast_concat]
      · rw [step, if_neg hhere, if_neg hup] at h
        rcases List.eq_nil_or_concat below with rfl | ⟨init, last, rfl⟩
        · obtain ⟨habove, hplace⟩ := List.append_inj' h rfl
          obtain rfl := List.singleton_inj.mp hplace
          exact ⟨segments, [], rfl, hown, habove, stays_nil, rfl⟩
        · rw [List.concat_eq_append] at h ⊢
          rw [← List.cons_append, ← List.append_assoc] at h
          obtain ⟨hrest, hlast⟩ := List.append_inj' h rfl
          obtain rfl := List.singleton_inj.mp hlast
          obtain ⟨before, after, rfl, hplace, habove, hstays, hbelow⟩ := ih hrest
          refine ⟨before, after ++ [segment], by simp, hplace, habove, hstays.concat hup, ?_⟩
          rw [resolve_concat, step, if_neg hhere, if_neg hup, hbelow]
  · rintro ⟨before, after, rfl, hplace, rfl, hstays, rfl⟩
    rcases segment_cases here up place with ⟨-, hown⟩ | ⟨-, hown⟩ | ⟨⟨hhere, hup⟩, -⟩
    · exact nomatch hown.symm.trans hplace
    · exact nomatch hown.symm.trans hplace
    · have hbefore : resolve here up (before ++ place :: after) =
          after.foldl (step here up) (step here up (resolve here up before) place) := by
        unfold resolve
        rw [List.foldl_append, List.foldl_cons]
      rw [hbefore, foldl_step hne hstays, step, if_neg hhere, if_neg hup, List.append_assoc]
      rfl

end Stays

end Troubleshooter.Library.Paths
