import Troubleshooter.Library.Asks
import Troubleshooter.Library.Pool

-- What a program asks for, and what it may return, whatever it is answered.
namespace Troubleshooter.Library

namespace Prog

variable {S : Signature} {α β : Type} {allowed : S.Op → Prop} {post : α → Prop}

def Yields (allowed : S.Op → Prop) (post : α → Prop) : Prog S α → Prop
  | .ret value => post value
  | .call op next => allowed op ∧ ∀ answer, (next answer).Yields allowed post

theorem yields_bind {program : Prog S α} {f : α → Prog S β} {post' : β → Prop}
    (h : program.Yields allowed post)
    (hnext : ∀ value, post value → (f value).Yields allowed post') :
    (program >>= f).Yields allowed post' := by
  change (program.bind f).Yields allowed post'
  induction program with
  | ret value => exact hnext value h
  | call op next ih => exact ⟨h.1, fun answer => ih answer (h.2 answer)⟩

theorem yields_mono {post' : α → Prop} {program : Prog S α} (h : program.Yields allowed post)
    (hpost : ∀ value, post value → post' value) : program.Yields allowed post' := by
  induction program with
  | ret value => exact hpost value h
  | call op next ih => exact ⟨h.1, fun answer => ih answer (h.2 answer)⟩

theorem yields_of_asks {program : Prog S α} (h : program.Asks allowed) :
    program.Yields allowed fun _ => True := by
  induction program with
  | ret value => trivial
  | call op next ih => exact ⟨h.1, fun answer => ih answer (h.2 answer)⟩

theorem asks_of_yields {program : Prog S α} (h : program.Yields allowed post) :
    program.Asks allowed := by
  induction program with
  | ret value => trivial
  | call op next ih => exact ⟨h.1, fun answer => ih answer (h.2 answer)⟩

end Prog

namespace Raising

variable {S : Signature} {ε ε' α β : Type} {allowed : S.Op → Prop} {post : α → Prop}

-- Nothing is said of what it may raise.
def Yields (allowed : S.Op → Prop) (post : α → Prop) (program : Raising S ε α) : Prop :=
  Prog.Yields allowed (fun outcome => ∀ value, outcome = .ok value → post value) program.run

theorem Yields.pure {value : α} (h : post value) :
    Yields allowed post (Pure.pure value : Raising S ε α) :=
  fun _ hvalue => Except.ok.inj hvalue ▸ h

theorem Yields.throw (failure : ε) :
    Yields allowed post (MonadExcept.throw failure : Raising S ε α) :=
  fun _ habsurd => nomatch habsurd

theorem Yields.bind {program : Raising S ε α} {f : α → Raising S ε β} {post' : β → Prop}
    (h : Yields allowed post program)
    (hnext : ∀ value, post value → Yields allowed post' (f value)) :
    Yields allowed post' (program >>= f) := by
  refine Prog.yields_bind h fun outcome houtcome => ?_
  cases outcome with
  | ok value => exact hnext value (houtcome value rfl)
  | error failure => exact fun _ habsurd => nomatch habsurd

theorem Yields.ite {c : Prop} [Decidable c] {left right : Raising S ε α}
    (hleft : Yields allowed post left) (hright : Yields allowed post right) :
    Yields allowed post (if c then left else right) := by
  by_cases h : c
  · exact (if_pos h).symm ▸ hleft
  · exact (if_neg h).symm ▸ hright

theorem Yields.mono {post' : α → Prop} {program : Raising S ε α} (h : Yields allowed post program)
    (hpost : ∀ value, post value → post' value) : Yields allowed post' program :=
  Prog.yields_mono h fun _ houtcome value hvalue => hpost value (houtcome value hvalue)

theorem Yields.asks {program : Raising S ε α} (h : Yields allowed post program) :
    Asks allowed program :=
  asks_iff.mpr (Prog.asks_of_yields h)

theorem Asks.yields {program : Raising S ε α} (h : Asks allowed program) :
    Yields allowed (fun _ => True) program :=
  Prog.yields_mono (Prog.yields_of_asks (asks_iff.mp h)) fun _ _ _ _ => trivial

-- What a value is known of matters to what is asked for next.
theorem Yields.asks_bind {program : Raising S ε α} {f : α → Raising S ε β}
    (h : Yields allowed post program) (hnext : ∀ value, post value → Asks allowed (f value)) :
    Asks allowed (program >>= f) :=
  Yields.asks (Yields.bind h fun value hvalue => (hnext value hvalue).yields)

-- What comes before is no more than asked for.
theorem Asks.before {program : Raising S ε α} {f : α → Raising S ε β} {post' : β → Prop}
    (h : Asks allowed program) (hnext : ∀ value, Yields allowed post' (f value)) :
    Yields allowed post' (program >>= f) :=
  Yields.bind h.yields fun value _ => hnext value

end Raising

namespace Pool

variable {S : Signature} {σ γ α : Type} (machine : Machine S σ) (protocol : Protocol S σ γ)
  {allowed : S.Op → Prop}

def Asks (allowed : S.Op → Prop) (pool : Pool S σ γ α) : Prop :=
  ∀ thread ∈ pool.threads, thread.program.Asks allowed

theorem Asks.step {pool : Pool S σ γ α} (h : pool.Asks allowed) (i : Nat) :
    (pool.step machine protocol i).Asks allowed := by
  rcases step_cases machine protocol pool i with hsame | ⟨ghost, op, next, hthread, _, hnext⟩
  · rw [hsame]
    exact h
  · rw [hnext]
    intro thread hmem
    rcases List.mem_or_eq_of_mem_set hmem with hold | rfl
    · exact h thread hold
    · exact (h _ (List.mem_of_getElem? hthread)).2 _

theorem Asks.runs {pool : Pool S σ γ α} (h : pool.Asks allowed) (schedule : List Nat) :
    (pool.runs machine protocol schedule).Asks allowed := by
  induction schedule using List.reverseRecOn with
  | nil => exact h
  | append_singleton schedule i ih =>
    rw [runs_concat]
    exact ih.step machine protocol i

theorem Asks.pending {pool : Pool S σ γ α} (h : pool.Asks allowed) {i : Nat} {ghost : γ} {op : S.Op}
    (hpending : pool.pending i = some (ghost, op)) : allowed op := by
  unfold Pool.pending at hpending
  split at hpending
  next hthread =>
    obtain ⟨rfl, rfl⟩ := Prod.mk.inj (Option.some.inj hpending)
    exact (h _ (List.mem_of_getElem? hthread)).1
  next => exact nomatch hpending

end Pool

end Troubleshooter.Library
