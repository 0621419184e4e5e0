import Troubleshooter.Library.Pool

-- A component that counts its calls, each of which meets a choice that is not its own.
namespace Troubleshooter.Library

structure Chosen (S : Signature) (σ C : Type) where
  handle : C → Handler S σ
  enabled : S.Op → σ → Bool
  clock : σ → Nat
  ticks : ∀ choice op s, clock s < clock (handle choice op s).2

namespace Chosen

variable {S : Signature} {σ γ α C : Type} (chosen : Chosen S σ C)

-- The component with its choices fixed, each by the number of the call.
def machine (choices : Nat → C) : Machine S σ where
  handle op s := chosen.handle (choices (chosen.clock s)) op s
  enabled := chosen.enabled

variable {chosen} {choices choices' : Nat → C} {protocol : Protocol S σ γ}

-- What a step of a thread that makes its call comes to.
theorem step_ready (choices : Nat → C) (protocol : Protocol S σ γ) {pool : Pool S σ γ α} {i : Nat}
    {ghost : γ} {op : S.Op} {next : S.Res op → Prog S α}
    (hthread : pool.threads[i]? = some ⟨ghost, .call op next⟩)
    (hready : chosen.enabled op pool.state = true) :
    pool.step (chosen.machine choices) protocol i =
      { state := (chosen.handle (choices (chosen.clock pool.state)) op pool.state).2
        threads := pool.threads.set i
          ⟨protocol.observe ghost pool.state op
              (chosen.handle (choices (chosen.clock pool.state)) op pool.state).1,
            next (chosen.handle (choices (chosen.clock pool.state)) op pool.state).1⟩ } := by
  unfold Pool.step
  rw [hthread]
  exact if_pos hready

theorem clock_step_le (pool : Pool S σ γ α) (i : Nat) :
    chosen.clock pool.state ≤
      chosen.clock (pool.step (chosen.machine choices) protocol i).state := by
  rcases Pool.step_cases (chosen.machine choices) protocol pool i with
    hsame | ⟨ghost, op, next, -, -, hnext⟩
  · exact Nat.le_of_eq (congrArg (fun pool => chosen.clock pool.state) hsame.symm)
  · rw [hnext]
    exact Nat.le_of_lt (chosen.ticks _ op pool.state)

theorem step_agree (pool : Pool S σ γ α) (i : Nat)
    (h : ∀ n, n < chosen.clock (pool.step (chosen.machine choices) protocol i).state →
      choices n = choices' n) :
    pool.step (chosen.machine choices) protocol i =
      pool.step (chosen.machine choices') protocol i := by
  rcases Pool.step_cases (chosen.machine choices') protocol pool i with
    hsame | ⟨ghost, op, next, hthread, hready, hnext⟩
  · rcases Pool.step_cases (chosen.machine choices) protocol pool i with
      hsame' | ⟨ghost, op, next, hthread, hready, hnext⟩
    · rw [hsame, hsame']
    · -- whether a call may be made does not depend on the choice
      have hnow : choices (chosen.clock pool.state) = choices' (chosen.clock pool.state) := by
        refine h _ ?_
        rw [hnext]
        exact chosen.ticks _ op pool.state
      rw [step_ready choices protocol hthread hready, step_ready choices' protocol hthread hready,
        hnow]
  · have hnow : choices (chosen.clock pool.state) = choices' (chosen.clock pool.state) := by
      refine h _ ?_
      rw [step_ready choices protocol hthread hready]
      exact chosen.ticks _ op pool.state
    rw [step_ready choices protocol hthread hready, step_ready choices' protocol hthread hready,
      hnow]

-- A run has met no choice past the number of its last call.
theorem runs_agree (protocol : Protocol S σ γ) (pool : Pool S σ γ α) (schedule : List Nat)
    (h : ∀ n, n < chosen.clock (pool.runs (chosen.machine choices) protocol schedule).state →
      choices n = choices' n) :
    pool.runs (chosen.machine choices) protocol schedule =
      pool.runs (chosen.machine choices') protocol schedule := by
  induction schedule using List.reverseRecOn with
  | nil => rfl
  | append_singleton schedule i ih =>
    rw [Pool.runs_concat] at h ⊢
    rw [Pool.runs_concat, ← ih fun n hn => h n (Nat.lt_of_lt_of_le hn (clock_step_le _ i))]
    exact step_agree _ i h

-- A simulation that takes at most some steps of the component for each step of another one,
-- under choices that go on from those before, takes a run of it for each run.
theorem runs_follow {S' : Signature} {σ' γ' α' : Type} (machine : Machine S' σ')
    (watch : Protocol S' σ' γ') (protocol : Protocol S σ γ)
    (related : Pool S' σ' γ' α' → Pool S σ γ α → Prop)
    (hstep : ∀ pool upper (choices : Nat → C) (i : Nat), related pool upper →
      ∃ (choices' : Nat → C) (schedule : List Nat),
        (∀ n, n < chosen.clock upper.state → choices n = choices' n) ∧
          related (pool.step machine watch i)
            (upper.runs (chosen.machine choices') protocol schedule))
    {pool : Pool S' σ' γ' α'} {upper : Pool S σ γ α} (h : related pool upper) (choices : Nat → C)
    (schedule : List Nat) :
    ∃ (choices' : Nat → C) (schedule' : List Nat),
      related (pool.runs machine watch schedule)
        (upper.runs (chosen.machine choices') protocol schedule') := by
  induction schedule using List.reverseRecOn with
  | nil => exact ⟨choices, [], h⟩
  | append_singleton schedule i ih =>
    obtain ⟨before, earlier, hbefore⟩ := ih
    obtain ⟨after, later, hagree, hafter⟩ := hstep _ _ before i hbefore
    refine ⟨after, earlier ++ later, ?_⟩
    have hruns : upper.runs (chosen.machine after) protocol (earlier ++ later) =
        (upper.runs (chosen.machine after) protocol earlier).runs
          (chosen.machine after) protocol later := List.foldl_append ..
    rw [Pool.runs_concat, hruns, ← runs_agree protocol upper earlier hagree]
    exact hafter

end Chosen

end Troubleshooter.Library
