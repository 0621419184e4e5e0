import Troubleshooter.Library.Joint

-- Calls that are carried out in several steps, each as one step of another component would.
namespace Troubleshooter.Library

variable {U L : Signature} {σ τ C α : Type}

-- What stands behind the calls of one component: the machine that carries them out, what its
-- state comes to above, and what is known to stay so from one state of it to a later one.
structure Carrier (U L : Signature) (σ τ C : Type) where
  chosen : Chosen U σ C
  lower : Machine L τ
  implement : (op : U.Op) → Prog L (U.Res op)
  view : τ → σ
  later : τ → τ → Prop

namespace Carrier

variable (carrier : Carrier U L σ τ C)

-- What is left of the program that carries out a call, before the call has been made above
-- or with the answer it has had there: whatever others do in between, one step of it makes
-- the call and the others leave the state above alone.
def Carries (op : U.Op) : Prog L (U.Res op) → Option (U.Res op) → τ → Prop
  | .ret value, answered, _ => answered = some value
  | .call low next, answered, t =>
    ∀ t', carrier.later t t' → carrier.lower.enabled low t' = true →
      carrier.later t' (carrier.lower.handle low t').2 ∧
        ((carrier.view (carrier.lower.handle low t').2 = carrier.view t' ∧
            Carries op (next (carrier.lower.handle low t').1) answered
              (carrier.lower.handle low t').2) ∨
          (answered = none ∧ carrier.chosen.enabled op (carrier.view t') = true ∧ ∃ choice,
            carrier.view (carrier.lower.handle low t').2 =
                (carrier.chosen.handle choice op (carrier.view t')).2 ∧
              Carries op (next (carrier.lower.handle low t').1)
                (some (carrier.chosen.handle choice op (carrier.view t')).1)
                (carrier.lower.handle low t').2))

-- One statement, with what it comes to in each state it may meet: it leaves the state above
-- alone, or it makes the call.
theorem carries_call {op : U.Op} {low : L.Op} {next : L.Res low → Prog L (U.Res op)}
    {answered : Option (U.Res op)} {t : τ}
    (h : ∀ t', carrier.later t t' → ∃ met, carrier.lower.handle low t' = met ∧
      carrier.later t' met.2 ∧
        ((carrier.view met.2 = carrier.view t' ∧ carrier.Carries op (next met.1) answered met.2) ∨
          (answered = none ∧ carrier.chosen.enabled op (carrier.view t') = true ∧ ∃ choice result,
            carrier.chosen.handle choice op (carrier.view t') = result ∧
              carrier.view met.2 = result.2 ∧
              carrier.Carries op (next met.1) (some result.1) met.2))) :
    carrier.Carries op (.call low next) answered t := by
  intro t' hlater _
  obtain ⟨met, rfl, hon, hsilent | ⟨hnone, henabled, choice, result, rfl, hview, hnext⟩⟩ :=
    h t' hlater
  · exact ⟨hon, Or.inl hsilent⟩
  · exact ⟨hon, Or.inr ⟨hnone, henabled, choice, hview, hnext⟩⟩

-- Every call is carried out, from every state that can be met.
structure Sound : Prop where
  refl : ∀ {t t'}, carrier.later t t' → carrier.later t' t'
  trans : ∀ {t t' t''}, carrier.later t t' → carrier.later t' t'' → carrier.later t t''
  carries : ∀ op t, carrier.later t t → carrier.Carries op (carrier.implement op) none t

-- Where a program stands below another one: at its end, within a call that is still to be
-- made above, or within one that has been made.
inductive Beneath (t : τ) : Prog L α → Prog U α → Prop
  | ended (value : α) : Beneath t (.ret value) (.ret value)
  | before (op : U.Op) (next : U.Res op → Prog U α) (rest : Prog L (U.Res op))
      (hrest : carrier.Carries op rest none t) :
      Beneath t (rest.bind fun answer => (next answer).expand carrier.implement) (.call op next)
  | after (op : U.Op) (next : U.Res op → Prog U α) (rest : Prog L (U.Res op)) (answer : U.Res op)
      (hrest : carrier.Carries op rest (some answer) t) :
      Beneath t (rest.bind fun answer => (next answer).expand carrier.implement) (next answer)

-- What a step of a program below another one is above: nothing, or the call there.
structure Stepped (t t' : τ) (program : Prog L α) (upper : Prog U α) : Prop where
  later : carrier.later t t'
  taken : (carrier.view t' = carrier.view t ∧ carrier.Beneath t' program upper) ∨
    ∃ (op : U.Op) (next : U.Res op → Prog U α) (choice : C), upper = .call op next ∧
      carrier.chosen.enabled op (carrier.view t) = true ∧
      carrier.view t' = (carrier.chosen.handle choice op (carrier.view t)).2 ∧
      carrier.Beneath t' program (next (carrier.chosen.handle choice op (carrier.view t)).1)

section Standing

variable {carrier} (hsound : carrier.Sound)

include hsound

theorem Carries.mono {op : U.Op} {rest : Prog L (U.Res op)} {answered : Option (U.Res op)}
    {t t' : τ} (h : carrier.Carries op rest answered t) (hlater : carrier.later t t') :
    carrier.Carries op rest answered t' := by
  cases rest with
  | ret value => exact h
  | call low next => exact fun t'' hon => h t'' (hsound.trans hlater hon)

theorem Beneath.mono {t t' : τ} {program : Prog L α} {upper : Prog U α}
    (h : carrier.Beneath t program upper) (hlater : carrier.later t t') :
    carrier.Beneath t' program upper := by
  cases h with
  | ended value => exact .ended value
  | before op next rest hrest => exact .before op next rest (hrest.mono hsound hlater)
  | after op next rest answer hrest =>
    exact .after op next rest answer (hrest.mono hsound hlater)

-- A program that is carried out stands at its first call.
theorem beneath_expand {t : τ} (ht : carrier.later t t) (program : Prog U α) :
    carrier.Beneath t (program.expand carrier.implement) program := by
  cases program with
  | ret value => exact .ended value
  | call op next => exact .before op next _ (hsound.carries op t ht)

-- A program that is done below is done above.
theorem Beneath.returned {t : τ} (ht : carrier.later t t) {program : Prog L α} {upper : Prog U α}
    {value : α} (h : carrier.Beneath t program upper) (hprogram : program = .ret value) :
    upper = .ret value := by
  have hexpand : ∀ program : Prog U α, program.expand carrier.implement = .ret value →
      program = .ret value := by
    intro program hret
    cases program with
    | ret other => exact congrArg Prog.ret (Prog.ret.inj hret)
    | call op next =>
      have hcarries := hsound.carries op t ht
      change (carrier.implement op).bind _ = _ at hret
      generalize carrier.implement op = rest at hcarries hret
      cases rest with
      | ret answer => exact absurd hcarries (by simp [Carries])
      | call low rest => cases hret
  cases h with
  | ended other => exact congrArg Prog.ret (Prog.ret.inj hprogram)
  | before op next rest hrest =>
    cases rest with
    | ret answer => exact absurd hrest (by simp [Carries])
    | call low rest => cases hprogram
  | after op next rest answer hrest =>
    cases rest with
    | ret other =>
      obtain rfl : answer = other := Option.some.inj hrest
      exact hexpand _ hprogram
    | call low rest => cases hprogram

omit hsound in
theorem before_step {t t' : τ} {low : L.Op} {goOn : L.Res low → Prog L α} {op : U.Op}
    {next : U.Res op → Prog U α} {rest : Prog L (U.Res op)} (hrest : carrier.Carries op rest none t)
    (hprogram : (rest.bind fun answer => (next answer).expand carrier.implement) = .call low goOn)
    (hlater : carrier.later t t') (hready : carrier.lower.enabled low t' = true) :
    carrier.Stepped t' (carrier.lower.handle low t').2 (goOn (carrier.lower.handle low t').1)
      (.call op next) := by
  cases rest with
  | ret answer => exact absurd hrest (by simp [Carries])
  | call low' rest =>
    cases hprogram
    obtain ⟨hon, ⟨hview, hnext⟩ | ⟨-, henabled, choice, hview, hnext⟩⟩ := hrest t' hlater hready
    · exact ⟨hon, Or.inl ⟨hview, .before op next _ hnext⟩⟩
    · exact ⟨hon, Or.inr ⟨op, next, choice, rfl, henabled, hview, .after op next _ _ hnext⟩⟩

theorem Beneath.step {t t' : τ} {low : L.Op} {goOn : L.Res low → Prog L α} {program : Prog L α}
    {upper : Prog U α} (h : carrier.Beneath t program upper) (ht : carrier.later t t)
    (hprogram : program = .call low goOn) (hlater : carrier.later t t')
    (hready : carrier.lower.enabled low t' = true) :
    carrier.Stepped t' (carrier.lower.handle low t').2 (goOn (carrier.lower.handle low t').1)
      upper := by
  cases h with
  | ended value => cases hprogram
  | before op next rest hrest => exact before_step hrest hprogram hlater hready
  | after op next rest answer hrest =>
    cases rest with
    | ret other =>
      -- the next call begins here
      obtain rfl : answer = other := Option.some.inj hrest
      change (next answer).expand carrier.implement = _ at hprogram
      cases hupper : next answer with
      | ret value =>
        rw [hupper] at hprogram
        cases hprogram
      | call op' next' =>
        rw [hupper] at hprogram
        exact before_step (hsound.carries op' t ht) hprogram hlater hready
    | call low' rest =>
      cases hprogram
      obtain ⟨hon, ⟨hview, hnext⟩ | ⟨habsurd, -⟩⟩ := hrest t' hlater hready
      · exact ⟨hon, Or.inl ⟨hview, .after op next _ answer hnext⟩⟩
      · cases habsurd

end Standing

-- A pool below another one.
structure Beneaths {γ δ : Type} (pool : Pool L τ δ α) (upper : Pool U σ γ α) : Prop where
  known : carrier.later pool.state pool.state
  state : upper.state = carrier.view pool.state
  length : upper.threads.length = pool.threads.length
  threads : ∀ (i : Nat) (thread : Thread L δ α) (above : Thread U γ α),
    pool.threads[i]? = some thread → upper.threads[i]? = some above →
      carrier.Beneath pool.state thread.program above.program

section Pools

variable {carrier} {γ δ : Type} {pool : Pool L τ δ α} {upper : Pool U σ γ α}

-- A step of a thread below, with what it comes to above.
theorem Beneaths.set (hsound : carrier.Sound) (h : carrier.Beneaths pool upper) {i : Nat} {t : τ}
    {thread : Thread L δ α} {later : σ} {threads : List (Thread U γ α)}
    (hlater : carrier.later pool.state t) (hview : later = carrier.view t)
    (hlength : threads.length = upper.threads.length)
    (hown : ∀ above : Thread U γ α, threads[i]? = some above →
      carrier.Beneath t thread.program above.program)
    (hothers : ∀ j : Nat, i ≠ j → threads[j]? = upper.threads[j]?) :
    carrier.Beneaths ⟨t, pool.threads.set i thread⟩ ⟨later, threads⟩ where
  known := hsound.refl hlater
  state := hview
  length := by rw [hlength, h.length, List.length_set]
  threads j below above hbelow habove := by
    rcases getElem?_set_cases hbelow with ⟨rfl, rfl⟩ | ⟨hne, hold⟩
    · exact hown above habove
    · rw [hothers j hne] at habove
      exact (h.threads j below above hold habove).mono hsound hlater

-- Each step of the pool below is at most one step of the pool above, under choices that go on
-- from the ones before it.
theorem Beneaths.step (hsound : carrier.Sound) (watch : Protocol L τ δ) (protocol : Protocol U σ γ)
    (h : carrier.Beneaths pool upper) (choices : Nat → C) (i : Nat) :
    ∃ (choices' : Nat → C) (schedule : List Nat),
      (∀ n, n < carrier.chosen.clock upper.state → choices n = choices' n) ∧
        carrier.Beneaths (pool.step carrier.lower watch i)
          (upper.runs (carrier.chosen.machine choices') protocol schedule) := by
  rcases Pool.step_cases carrier.lower watch pool i with
    hsame | ⟨ghost, low, goOn, hthread, hready, hnext⟩
  · rw [hsame]
    exact ⟨choices, [], fun _ _ => rfl, h⟩
  have hi : i < upper.threads.length := by
    rw [h.length]
    exact (List.getElem?_eq_some_iff.mp hthread).1
  have habove := List.getElem?_eq_getElem hi
  generalize upper.threads[i] = above at habove
  obtain ⟨known, program⟩ := above
  obtain ⟨hlater, htaken⟩ :=
    (h.threads i _ _ hthread habove).step hsound h.known rfl h.known hready
  rw [hnext]
  rcases htaken with ⟨hview, hbeneath⟩ | ⟨op, next, choice, hupper, henabled, hview, hbeneath⟩
  · refine ⟨choices, [], fun _ _ => rfl, h.set hsound hlater ?_ rfl ?_ fun _ _ => rfl⟩
    · rw [h.state, hview]
    · intro other hother
      obtain rfl := Option.some.inj (habove.symm.trans hother)
      exact hbeneath
  · obtain rfl : program = .call op next := hupper
    have hready' : carrier.chosen.enabled op upper.state = true := by
      rw [h.state]
      exact henabled
    refine ⟨Function.update choices (carrier.chosen.clock upper.state) choice, [i],
      fun n hn => (Function.update_of_ne (Nat.ne_of_lt hn) ..).symm, ?_⟩
    change carrier.Beneaths _ (upper.step (carrier.chosen.machine _) protocol i)
    rw [Chosen.step_ready _ protocol habove hready', Function.update_self, h.state]
    refine h.set hsound hlater hview.symm (by rw [List.length_set]) ?_ fun j hne =>
      List.getElem?_set_ne hne
    intro other hother
    rw [List.getElem?_set_self hi] at hother
    obtain rfl := Option.some.inj hother
    exact hbeneath

-- Whatever is done below, in every order of the single steps, is done above call by call, in
-- some order of the calls and under some choices.
theorem Beneaths.runs (hsound : carrier.Sound) (watch : Protocol L τ δ) (protocol : Protocol U σ γ)
    (h : carrier.Beneaths pool upper) (choices : Nat → C) (schedule : List Nat) :
    ∃ (choices' : Nat → C) (schedule' : List Nat),
      carrier.Beneaths (pool.runs carrier.lower watch schedule)
        (upper.runs (carrier.chosen.machine choices') protocol schedule') :=
  Chosen.runs_follow carrier.lower watch protocol carrier.Beneaths
    (fun _ _ choices i hbefore => hbefore.step hsound watch protocol choices i) h choices schedule

end Pools

end Carrier

end Troubleshooter.Library
