import Mathlib.Algebra.Order.Group.Nat
import Mathlib.Algebra.Order.Group.Int
import Mathlib.Data.List.Pairwise

namespace Troubleshooter.Library.Windows

-- One call against a limit that counts in windows: when it came, when the window began
-- that it was counted in, and whether it passed.
structure Event where
  time : Int
  start : Int
  passed : Bool

def Event.counts (start : Int) (event : Event) : Bool := event.passed && event.start == start

-- A call that passed within a window's length from a moment on.
def Event.lies (moment window : Int) (event : Event) : Bool :=
  event.passed && (decide (moment ≤ event.time) && decide (event.time < moment + window))

-- Either both calls fall into one window, or the window of the second one begins behind the
-- first call and the end of its window.
def Follows (window : Int) (event later : Event) : Prop :=
  event.start = later.start ∨ event.time ≤ later.start ∧ event.start + window ≤ later.start

structure Course (limit : Nat) (window : Int) (log : List Event) : Prop where
  ordered : log.Pairwise (Follows window)
  begun : ∀ event ∈ log, event.start ≤ event.time
  within : ∀ start, log.countP (Event.counts start) ≤ limit
  opened : ∀ event ∈ log, ∃ first ∈ log,
    first.passed = true ∧ first.start = event.start ∧ first.time = event.start

-- What a limiter knows of the calls so far: the window that is open, and how many have
-- passed in it.
structure Tracks (window : Int) (log : List Event) (start : Int) (count : Nat) : Prop where
  open_ : ∃ event ∈ log, event.start = start
  last : ∀ event ∈ log, event.start = start ∨ event.time ≤ start ∧ event.start + window ≤ start
  counted : log.countP (Event.counts start) = count

section Course

variable {limit : Nat} {window : Int} {log : List Event}

theorem course_nil : Course limit window [] where
  ordered := .nil
  begun := by simp
  within := by simp
  opened := by simp

theorem countP_snoc (p : Event → Bool) (event : Event) :
    (log ++ [event]).countP p = log.countP p + if p event = true then 1 else 0 := by
  rw [List.countP_append, List.countP_singleton]

-- A call behind every window that there was opens one of its own.
theorem Course.opens (h : Course limit window log) (hlimit : 1 ≤ limit) (hwindow : 0 < window)
    {now : Int} (hpast : ∀ event ∈ log, event.time ≤ now ∧ event.start + window ≤ now) :
    Course limit window (log ++ [⟨now, now, true⟩]) ∧
      Tracks window (log ++ [⟨now, now, true⟩]) now 1 := by
  have hnone : log.countP (Event.counts now) = 0 := by
    refine List.countP_eq_zero.mpr fun event hevent hcounts => ?_
    have hstart : event.start = now := by simpa using (Bool.and_eq_true_iff.mp hcounts).2
    have hend := (hpast event hevent).2
    omega
  have hmem : (⟨now, now, true⟩ : Event) ∈ log ++ [⟨now, now, true⟩] := by simp
  have hone : (log ++ [(⟨now, now, true⟩ : Event)]).countP (Event.counts now) = 1 := by
    rw [countP_snoc, hnone]
    simp [Event.counts]
  constructor
  · refine ⟨?_, ?_, ?_, ?_⟩
    · refine List.pairwise_append.mpr ⟨h.ordered, List.pairwise_singleton _ _, ?_⟩
      intro event hevent later hlater
      rw [List.mem_singleton.mp hlater]
      exact .inr (hpast event hevent)
    · intro event hevent
      rcases List.mem_append.mp hevent with hold | hnew
      · exact h.begun event hold
      · rw [List.mem_singleton.mp hnew]
    · intro start
      by_cases hstart : start = now
      · rw [hstart, hone]
        exact hlimit
      · have hskips : Event.counts start ⟨now, now, true⟩ = false := by
          simp [Event.counts, Ne.symm hstart]
        rw [countP_snoc, hskips]
        exact h.within start
    · intro event hevent
      rcases List.mem_append.mp hevent with hold | hnew
      · obtain ⟨first, hfirst, hopened⟩ := h.opened event hold
        exact ⟨first, List.mem_append_left _ hfirst, hopened⟩
      · rw [List.mem_singleton.mp hnew]
        exact ⟨_, hmem, rfl, rfl, rfl⟩
  · refine ⟨⟨_, hmem, rfl⟩, ?_, hone⟩
    intro event hevent
    rcases List.mem_append.mp hevent with hold | hnew
    · exact .inr (hpast event hold)
    · rw [List.mem_singleton.mp hnew]
      exact .inl rfl

-- A call in the window that is open passes only where there is room.
theorem Course.joins (h : Course limit window log) {start : Int} {count : Nat}
    (htracks : Tracks window log start count) {now : Int} (hnow : start ≤ now) (passed : Bool)
    (hroom : passed = true → count < limit) :
    Course limit window (log ++ [⟨now, start, passed⟩]) ∧
      Tracks window (log ++ [⟨now, start, passed⟩]) start
        (count + if passed = true then 1 else 0) := by
  have hcounted : (log ++ [(⟨now, start, passed⟩ : Event)]).countP (Event.counts start) =
      count + if passed = true then 1 else 0 := by
    rw [countP_snoc, htracks.counted]
    simp [Event.counts]
  constructor
  · refine ⟨?_, ?_, ?_, ?_⟩
    · refine List.pairwise_append.mpr ⟨h.ordered, List.pairwise_singleton _ _, ?_⟩
      intro event hevent later hlater
      rw [List.mem_singleton.mp hlater]
      exact htracks.last event hevent
    · intro event hevent
      rcases List.mem_append.mp hevent with hold | hnew
      · exact h.begun event hold
      · rw [List.mem_singleton.mp hnew]
        exact hnow
    · intro other
      by_cases hother : other = start
      · rw [hother, hcounted]
        have hwithin := h.within start
        rw [htracks.counted] at hwithin
        split
        next hpassed =>
          have hlt := hroom hpassed
          omega
        next => omega
      · have hskips : Event.counts other ⟨now, start, passed⟩ = false := by
          simp [Event.counts, Ne.symm hother]
        rw [countP_snoc, hskips]
        exact h.within other
    · intro event hevent
      obtain ⟨known, hknown, hsame⟩ : ∃ known ∈ log, known.start = event.start := by
        rcases List.mem_append.mp hevent with hold | hnew
        · exact ⟨event, hold, rfl⟩
        · rw [List.mem_singleton.mp hnew]
          exact htracks.open_
      obtain ⟨first, hfirst, hpassed, hstart, htime⟩ := h.opened known hknown
      exact ⟨first, List.mem_append_left _ hfirst, hpassed, hstart.trans hsame, htime.trans hsame⟩
  · refine ⟨?_, ?_, hcounted⟩
    · obtain ⟨event, hevent, hstart⟩ := htracks.open_
      exact ⟨event, List.mem_append_left _ hevent, hstart⟩
    · intro event hevent
      rcases List.mem_append.mp hevent with hold | hnew
      · exact htracks.last event hold
      · rw [List.mem_singleton.mp hnew]
        exact .inl rfl

theorem Tracks.count_le {start : Int} {count : Nat} (h : Course limit window log)
    (htracks : Tracks window log start count) : count ≤ limit :=
  htracks.counted ▸ h.within start

-- Of any two calls one follows the other.
theorem Course.total (h : Course limit window log) :
    ∀ event ∈ log, ∀ other ∈ log, Follows window event other ∨ Follows window other event := by
  have hsymm : Std.Symm fun event other =>
      Follows window event other ∨ Follows window other event := ⟨fun _ _ => Or.symm⟩
  have hfollows : log.Pairwise fun event other =>
      Follows window event other ∨ Follows window other event := h.ordered.imp .inl
  exact fun event hevent other hother =>
    List.Pairwise.forall_of_forall (fun _ _ => .inl (.inl rfl)) hfollows hevent hother

-- Of the window that was open at a moment the first call has passed before it.
theorem Course.early (h : Course limit window log) (moment : Int) :
    log.countP (fun event => event.lies moment window && decide (event.start < moment)) ≤
      limit - 1 := by
  by_cases hany : ∃ event ∈ log, (event.lies moment window && decide (event.start < moment)) = true
  · obtain ⟨event, hevent, hlies⟩ := hany
    have hsame : ∀ other ∈ log, (other.lies moment window && decide (other.start < moment)) = true →
        (other.counts event.start && decide (moment ≤ other.time)) = true := by
      intro other hother hotherlies
      simp only [Event.lies, Event.counts, Bool.and_eq_true, decide_eq_true_eq,
        beq_iff_eq] at hlies hotherlies ⊢
      refine ⟨⟨hotherlies.1.1, ?_⟩, hotherlies.1.2.1⟩
      rcases h.total event hevent other hother with (hfollows | hfollows) | (hfollows | hfollows)
      · exact hfollows.symm
      · omega
      · exact hfollows
      · omega
    have hopen : log.countP
        (fun other => other.counts event.start && !decide (moment ≤ other.time)) ≠ 0 := by
      obtain ⟨first, hfirst, hpassed, hstart, htime⟩ := h.opened event hevent
      refine Nat.pos_iff_ne_zero.mp (List.countP_pos_iff.mpr ⟨first, hfirst, ?_⟩)
      simp only [Bool.and_eq_true, decide_eq_true_eq] at hlies
      have hbefore : ¬moment ≤ first.time := by omega
      simp [Event.counts, hpassed, hstart, hbefore]
    have hwithin := h.within event.start
    rw [List.countP_eq_countP_filter_add log (Event.counts event.start)
      fun other => decide (moment ≤ other.time), List.countP_filter, List.countP_filter] at hwithin
    have hle := List.countP_mono_left hsame
    omega
  · have hnone : log.countP
        (fun event => event.lies moment window && decide (event.start < moment)) = 0 :=
      List.countP_eq_zero.mpr fun event hevent hlies => hany ⟨event, hevent, hlies⟩
    omega

-- And a window that opens later is the only one that opens within its length.
theorem Course.late (h : Course limit window log) (moment : Int) :
    log.countP (fun event => event.lies moment window && !decide (event.start < moment)) ≤
      limit := by
  by_cases hany : ∃ event ∈ log, (event.lies moment window && !decide (event.start < moment)) = true
  · obtain ⟨event, hevent, hlies⟩ := hany
    refine (List.countP_mono_left fun other hother hotherlies => ?_).trans (h.within event.start)
    have hbegun := h.begun event hevent
    have hotherbegun := h.begun other hother
    simp only [Event.lies, Event.counts, Bool.and_eq_true, Bool.not_eq_true',
      decide_eq_true_eq, decide_eq_false_iff_not, beq_iff_eq] at hlies hotherlies ⊢
    refine ⟨hotherlies.1.1, ?_⟩
    rcases h.total event hevent other hother with (hfollows | hfollows) | (hfollows | hfollows)
    · exact hfollows.symm
    · omega
    · exact hfollows
    · omega
  · exact (List.countP_eq_zero.mpr fun event hevent hlies => hany ⟨event, hevent, hlies⟩).trans_le
      (Nat.zero_le limit)

-- Within one window's length from a moment on there are the calls of at most two windows.
theorem Course.at_most (h : Course limit window log) (moment : Int) :
    log.countP (Event.lies moment window) ≤ 2 * limit - 1 := by
  have hsplit : log.countP (Event.lies moment window) =
      log.countP (fun event => event.lies moment window && decide (event.start < moment)) +
        log.countP (fun event => event.lies moment window && !decide (event.start < moment)) := by
    rw [List.countP_eq_countP_filter_add log (Event.lies moment window)
      fun event => decide (event.start < moment), List.countP_filter, List.countP_filter]
  have hearly := h.early moment
  have hlate := h.late moment
  omega

end Course

end Troubleshooter.Library.Windows
