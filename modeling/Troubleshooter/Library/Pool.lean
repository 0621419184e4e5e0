import Mathlib.Data.List.Induction
import Troubleshooter.Library.Protocol

namespace Troubleshooter.Library

-- After a thread has moved, an entry is its own or that of a thread that has not.
theorem getElem?_set_cases {α : Type} {items : List α} {i j : Nat} {item other : α}
    (h : (items.set i item)[j]? = some other) :
    (i = j ∧ other = item) ∨ (i ≠ j ∧ items[j]? = some other) := by
  rw [List.getElem?_set] at h
  split at h
  next hsame =>
    split at h
    · exact Or.inl ⟨hsame, (Option.some.inj h).symm⟩
    · exact nomatch h
  next hne => exact Or.inr ⟨hne, h⟩

theorem set_same {α : Type} {items : List α} {i : Nat} {item : α} (h : items[i]? = some item) :
    items.set i item = items := by
  obtain ⟨hi, rfl⟩ := List.getElem?_eq_some_iff.mp h
  exact List.set_getElem_self hi

theorem mem_set_cases {α : Type} {items : List α} {i : Nat} {item other : α}
    (h : other ∈ items.set i item) :
    other = item ∨ ∃ j, i ≠ j ∧ items[j]? = some other := by
  obtain ⟨j, hj⟩ := List.getElem?_of_mem h
  rcases getElem?_set_cases hj with ⟨_, hsame⟩ | ⟨hne, hother⟩
  · exact Or.inl hsame
  · exact Or.inr ⟨j, hne, hother⟩

theorem filterMap_set_same {α β : Type} {items : List α} {i : Nat} {item other : α} {f : α → Option β}
    (h : items[i]? = some item) (hsame : f other = f item) :
    (items.set i other).filterMap f = items.filterMap f := by
  induction items generalizing i with
  | nil => rfl
  | cons first rest ih =>
    cases i with
    | zero =>
      obtain rfl := Option.some.inj h
      simp [List.filterMap_cons, hsame]
    | succ i => simp [List.filterMap_cons, ih h]

theorem filterMap_set_new {α β : Type} {items : List α} {i : Nat} {item other : α} {f : α → Option β}
    {value : β} (h : items[i]? = some item) (hnone : f item = none) (hsome : f other = some value) :
    ((items.set i other).filterMap f).Perm (value :: items.filterMap f) := by
  induction items generalizing i with
  | nil => exact nomatch h
  | cons first rest ih =>
    cases i with
    | zero =>
      obtain rfl := Option.some.inj h
      simp [hnone, hsome]
    | succ i =>
      have hrest := ih h
      simp only [List.set_cons_succ, List.filterMap_cons]
      cases f first with
      | none => exact hrest
      | some head => exact (hrest.cons head).trans (List.Perm.swap value head _)

-- What a call does to the shared state, and when it may be made at all: a call that
-- is not enabled waits.
structure Machine (S : Signature) (σ : Type) where
  handle : Handler S σ
  enabled : S.Op → σ → Bool

structure Thread (S : Signature) (γ α : Type) where
  ghost : γ
  program : Prog S α

structure Pool (S : Signature) (σ γ α : Type) where
  state : σ
  threads : List (Thread S γ α)

namespace Pool

variable {S : Signature} {σ γ α : Type}

-- One step of the thread at an index: its next call, atomically. A thread that is
-- done, or that waits, leaves the pool as it is.
def step (machine : Machine S σ) (protocol : Protocol S σ γ) (pool : Pool S σ γ α) (i : Nat) :
    Pool S σ γ α :=
  match pool.threads[i]? with
  | some ⟨ghost, .call op next⟩ =>
    if machine.enabled op pool.state then
      let answer := machine.handle op pool.state
      { state := answer.2
        threads := pool.threads.set i
          ⟨protocol.observe ghost pool.state op answer.1, next answer.1⟩ }
    else pool
  | _ => pool

-- A schedule names the thread of each step.
def runs (machine : Machine S σ) (protocol : Protocol S σ γ) (pool : Pool S σ γ α)
    (schedule : List Nat) : Pool S σ γ α :=
  schedule.foldl (step machine protocol) pool

def ghosts (pool : Pool S σ γ α) : List γ := pool.threads.map Thread.ghost

-- The call a thread is about to make, with what is known of the thread.
def pending (pool : Pool S σ γ α) (i : Nat) : Option (γ × S.Op) :=
  match pool.threads[i]? with
  | some ⟨ghost, .call op _⟩ => some (ghost, op)
  | _ => none

-- Every thread has come to its end.
def Ended (pool : Pool S σ γ α) : Prop :=
  ∀ thread ∈ pool.threads, thread.program.returned.isSome = true

instance (pool : Pool S σ γ α) : Decidable pool.Ended :=
  inferInstanceAs (Decidable (∀ thread ∈ pool.threads, thread.program.returned.isSome = true))

variable (machine : Machine S σ) (protocol : Protocol S σ γ)

-- Everything a step can do.
theorem step_cases (pool : Pool S σ γ α) (i : Nat) :
    pool.step machine protocol i = pool ∨
      ∃ ghost op next, pool.threads[i]? = some ⟨ghost, .call op next⟩ ∧
        machine.enabled op pool.state = true ∧
        pool.step machine protocol i =
          { state := (machine.handle op pool.state).2
            threads := pool.threads.set i
              ⟨protocol.observe ghost pool.state op (machine.handle op pool.state).1,
                next (machine.handle op pool.state).1⟩ } := by
  unfold step
  split
  next ghost op next hthread =>
    split
    next henabled => exact Or.inr ⟨ghost, op, next, hthread, henabled, rfl⟩
    next => exact Or.inl rfl
  next => exact Or.inl rfl

@[simp] theorem runs_nil (pool : Pool S σ γ α) : pool.runs machine protocol [] = pool := rfl

theorem runs_concat (pool : Pool S σ γ α) (schedule : List Nat) (i : Nat) :
    pool.runs machine protocol (schedule ++ [i]) =
      (pool.runs machine protocol schedule).step machine protocol i := by
  simp [runs]

-- Every step of the schedule meets a condition on the pool it is taken in.
def Meets (condition : Pool S σ γ α → Nat → Prop) (pool : Pool S σ γ α) (schedule : List Nat) :
    Prop :=
  ∀ before i after, schedule = before ++ i :: after →
    condition (pool.runs machine protocol before) i

theorem Meets.init {condition : Pool S σ γ α → Nat → Prop} {pool : Pool S σ γ α}
    {schedule : List Nat} {i : Nat}
    (h : Meets machine protocol condition pool (schedule ++ [i])) :
    Meets machine protocol condition pool schedule := by
  rintro before j after rfl
  exact h before j (after ++ [i]) (by simp)

theorem Meets.last {condition : Pool S σ γ α → Nat → Prop} {pool : Pool S σ γ α}
    {schedule : List Nat} {i : Nat}
    (h : Meets machine protocol condition pool (schedule ++ [i])) :
    condition (pool.runs machine protocol schedule) i := h schedule i [] rfl

-- The same, by running the schedule.
def meets (check : Pool S σ γ α → Nat → Bool) : Pool S σ γ α → List Nat → Bool
  | _, [] => true
  | pool, i :: rest => check pool i && meets check (pool.step machine protocol i) rest

theorem Meets.of_meets {condition : Pool S σ γ α → Nat → Prop} {check : Pool S σ γ α → Nat → Bool}
    (hcheck : ∀ pool i, check pool i = true → condition pool i) {pool : Pool S σ γ α}
    {schedule : List Nat} (h : meets machine protocol check pool schedule = true) :
    Meets machine protocol condition pool schedule := by
  induction schedule generalizing pool with
  | nil => exact fun before i after hsplit => absurd hsplit (by simp)
  | cons first rest ih =>
    obtain ⟨hfirst, hrest⟩ := Bool.and_eq_true_iff.mp h
    rintro before i after hsplit
    cases before with
    | nil =>
      obtain ⟨rfl, rfl⟩ := List.cons.inj hsplit
      exact hcheck _ _ hfirst
    | cons other before =>
      obtain ⟨rfl, rfl⟩ := List.cons.inj hsplit
      exact ih hrest before i after rfl

-- An invariant that every step meeting the condition keeps holds after a schedule
-- whose steps all meet it.
theorem runs_invariant (invariant : Pool S σ γ α → Prop) (condition : Pool S σ γ α → Nat → Prop)
    (hstep : ∀ pool i, invariant pool → condition pool i →
      invariant (pool.step machine protocol i))
    (pool : Pool S σ γ α) (hpool : invariant pool) (schedule : List Nat)
    (hmeets : Meets machine protocol condition pool schedule) :
    invariant (pool.runs machine protocol schedule) := by
  induction schedule using List.reverseRecOn with
  | nil => exact hpool
  | append_singleton schedule i ih =>
    rw [runs_concat]
    exact hstep _ i (ih hmeets.init) hmeets.last

-- Every thread follows the protocol from what is known of it.
def Conforms (post : γ → α → Prop) (pool : Pool S σ γ α) : Prop :=
  ∀ thread ∈ pool.threads, thread.program.Follows protocol thread.ghost post

-- A thread that has ended meets its postcondition.
theorem Conforms.ended {post : γ → α → Prop} {pool : Pool S σ γ α}
    (h : Conforms protocol post pool) (hended : pool.Ended) {ghost : γ} (hghost : ghost ∈ pool.ghosts) :
    ∃ value, post ghost value := by
  obtain ⟨thread, hthread, rfl⟩ := List.mem_map.mp hghost
  obtain ⟨value, hvalue⟩ := Option.isSome_iff_exists.mp (hended thread hthread)
  have hfollows := h thread hthread
  rw [Prog.eq_ret_of_returned hvalue, Prog.follows_ret] at hfollows
  exact ⟨value, hfollows⟩

-- A step of a conforming thread makes an allowed call; if its answer is one the
-- protocol relies on, the pool conforms after it.
theorem Conforms.step {post : γ → α → Prop} {pool : Pool S σ γ α}
    (h : Conforms protocol post pool) {i : Nat} {ghost : γ} {op : S.Op}
    {next : S.Res op → Prog S α} (hthread : pool.threads[i]? = some ⟨ghost, .call op next⟩) :
    protocol.allows ghost op ∧ ∀ answer, protocol.answers ghost pool.state op answer →
      ∀ state, Conforms protocol post
        ⟨state, pool.threads.set i ⟨protocol.observe ghost pool.state op answer, next answer⟩⟩ := by
  have hfollows := h _ (List.mem_of_getElem? hthread)
  rw [Prog.follows_step] at hfollows
  refine ⟨hfollows.1, fun answer hanswer state thread hmem => ?_⟩
  rcases List.mem_or_eq_of_mem_set hmem with hold | rfl
  · exact h thread hold
  · exact hfollows.2 _ answer hanswer

-- The interleaving rule. The invariant is over the shared state and what is known
-- of each thread; it is enough that every allowed call, made where the invariant and
-- the condition hold, is answered as the protocol relies on and keeps the invariant.
theorem conforming_runs (post : γ → α → Prop) (invariant : σ → List γ → Prop)
    (condition : σ → List γ → Nat → γ → S.Op → Prop)
    (hcall : ∀ state ghosts i ghost op, invariant state ghosts → ghosts[i]? = some ghost →
      protocol.allows ghost op → machine.enabled op state = true →
      condition state ghosts i ghost op →
      protocol.answers ghost state op (machine.handle op state).1 ∧
        invariant (machine.handle op state).2
          (ghosts.set i (protocol.observe ghost state op (machine.handle op state).1)))
    (pool : Pool S σ γ α) (hconforms : Conforms protocol post pool)
    (hinvariant : invariant pool.state pool.ghosts) (schedule : List Nat)
    (hmeets : Meets machine protocol
      (fun pool i => ∀ ghost op, pool.pending i = some (ghost, op) →
        condition pool.state pool.ghosts i ghost op) pool schedule) :
    Conforms protocol post (pool.runs machine protocol schedule) ∧
      invariant (pool.runs machine protocol schedule).state
        (pool.runs machine protocol schedule).ghosts := by
  refine runs_invariant machine protocol
    (fun pool => Conforms protocol post pool ∧ invariant pool.state pool.ghosts) _ ?_ pool
    ⟨hconforms, hinvariant⟩ schedule hmeets
  rintro pool i ⟨hconforms, hinvariant⟩ hcondition
  rcases step_cases machine protocol pool i with hsame | ⟨ghost, op, next, hthread, henabled, hnext⟩
  · rw [hsame]
    exact ⟨hconforms, hinvariant⟩
  rw [hnext]
  obtain ⟨hallowed, hkeeps⟩ := hconforms.step protocol hthread
  have hghost : pool.ghosts[i]? = some ghost := by simp [ghosts, hthread]
  have hpending : pool.pending i = some (ghost, op) := by simp [pending, hthread]
  obtain ⟨hanswer, hlater⟩ := hcall pool.state pool.ghosts i ghost op hinvariant hghost hallowed
    henabled (hcondition ghost op hpending)
  refine ⟨hkeeps _ hanswer _, ?_⟩
  simpa only [ghosts, List.map_set] using hlater

end Pool

end Troubleshooter.Library
