import Troubleshooter.Library.Protocol

namespace Troubleshooter.Library.Prog

variable {S : Signature} {α γ σ : Type}

-- A run of a program among others: before each of its calls, and once it has ended, the
-- others may move the state as far as what is known of the program lets them.
inductive Among (handle : Handler S σ) (protocol : Protocol S σ γ) (others : γ → σ → σ → Prop) :
    Prog S α → γ → σ → α → γ → σ → Prop where
  | ret {value : α} {ghost : γ} {state last : σ} (hothers : others ghost state last) :
    Among handle protocol others (.ret value) ghost state value ghost last
  | call {op : S.Op} {next : S.Res op → Prog S α} {ghost later : γ} {state met last : σ} {value : α}
    (hothers : others ghost state met)
    (hnext : Among handle protocol others (next (handle op met).1)
      (protocol.observe ghost met op (handle op met).1) (handle op met).2 value later last) :
    Among handle protocol others (.call op next) ghost state value later last

-- The run rule among others: a relation that the protocol's calls keep, and the others
-- too, holds at the end, with the postcondition.
theorem follows_among {protocol : Protocol S σ γ} {handle : Handler S σ} {related : γ → σ → Prop}
    {others : γ → σ → σ → Prop} (hrealises : Realises protocol handle related)
    (hothers : ∀ ghost state met, related ghost state → others ghost state met →
      related ghost met)
    {program : Prog S α} {ghost later : γ} {state last : σ} {value : α} {post : γ → α → Prop}
    (hfollows : program.Follows protocol ghost post) (hrelated : related ghost state)
    (hrun : Among handle protocol others program ghost state value later last) :
    related later last ∧ post later value := by
  induction hrun with
  | ret hmoved => exact ⟨hothers _ _ _ hrelated hmoved, (follows_ret ..).mp hfollows⟩
  | call hmoved _ ih =>
    rw [follows_step] at hfollows
    have hmet := hothers _ _ _ hrelated hmoved
    exact ih (hfollows.2 _ _ (hrealises.answered _ _ _ hmet hfollows.1))
      (hrealises.kept _ _ _ hmet hfollows.1)

-- The program alone, with what is known of it along the way.
def observed (handle : Handler S σ) (protocol : Protocol S σ γ) : Prog S α → γ → σ → α × γ × σ
  | .ret value, ghost, state => (value, ghost, state)
  | .call op next, ghost, state =>
    (next (handle op state).1).observed handle protocol
      (protocol.observe ghost state op (handle op state).1) (handle op state).2

-- Others that may do nothing leave it at that.
theorem among_observed (handle : Handler S σ) (protocol : Protocol S σ γ)
    {others : γ → σ → σ → Prop} (hrefl : ∀ ghost state, others ghost state state)
    (program : Prog S α) (ghost : γ) (state : σ) :
    Among handle protocol others program ghost state
      (program.observed handle protocol ghost state).1
      (program.observed handle protocol ghost state).2.1
      (program.observed handle protocol ghost state).2.2 := by
  induction program generalizing ghost state with
  | ret value => exact .ret (hrefl ghost state)
  | call op next ih => exact .call (hrefl ghost state) (ih _ _ _)

end Troubleshooter.Library.Prog
