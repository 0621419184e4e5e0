import Troubleshooter.Library.Asks
import Troubleshooter.Library.Pool

namespace Troubleshooter.Library

-- Which answers of a call are not to be told apart.
abbrev Likeness (S : Signature) := (op : S.Op) → S.Res op → S.Res op → Prop

namespace Prog

variable {S : Signature} {α β γ σ : Type} {alike : Likeness S} {allowed : S.Op → Prop}

-- Answers that are alike are gone on from in the same way.
def Blind (alike : Likeness S) : Prog S α → Prop
  | .ret _ => True
  | .call op next =>
    (∀ answer answer', alike op answer answer' → next answer = next answer') ∧
      ∀ answer, (next answer).Blind alike

theorem blind_bind {program : Prog S α} {f : α → Prog S β} (h : program.Blind alike)
    (hnext : ∀ value, (f value).Blind alike) : (program >>= f).Blind alike := by
  change (program.bind f).Blind alike
  induction program with
  | ret value => exact hnext value
  | call op next ih =>
    refine ⟨fun answer answer' halike => ?_, fun answer => ih answer (h.2 answer)⟩
    exact congrArg (Prog.bind · f) (h.1 answer answer' halike)

theorem blind_ite {c : Prop} [Decidable c] {left right : Prog S α} (hleft : left.Blind alike)
    (hright : right.Blind alike) : (if c then left else right).Blind alike := by
  by_cases h : c
  · exact (if_pos h).symm ▸ hleft
  · exact (if_neg h).symm ▸ hright

theorem blind_pure (value : α) : (pure value : Prog S α).Blind alike := True.intro

theorem blind_perform {op : S.Op} {f : S.Res op → Prog S α}
    (hlike : ∀ answer answer', alike op answer answer' → f answer = f answer')
    (hnext : ∀ answer, (f answer).Blind alike) : (perform op >>= f).Blind alike := ⟨hlike, hnext⟩

-- A program that asks for nothing whose answers could be mixed up is blind to it.
theorem blind_of_asks {program : Prog S α} (h : program.Asks allowed)
    (hequal : ∀ op answer answer', allowed op → alike op answer answer' → answer = answer') :
    program.Blind alike := by
  induction program with
  | ret value => trivial
  | call op next ih =>
    refine ⟨fun answer answer' halike => ?_, fun answer => ih answer (h.2 answer)⟩
    exact congrArg next (hequal op answer answer' h.1 halike)

-- A blind program that runs alone ends the same way on two machines that differ only in answers
-- that are alike.
theorem run_blind {handle handle' : Handler S σ} {program : Prog S α}
    (h : program.Blind alike) (hwritten : ∀ op state, (handle op state).2 = (handle' op state).2)
    (hanswered : ∀ op state, alike op (handle op state).1 (handle' op state).1) (state : σ) :
    program.run handle state = program.run handle' state := by
  induction program generalizing state with
  | ret value => rfl
  | call op next ih =>
    simp only [run]
    rw [← h.1 _ _ (hanswered op state), ← hwritten op state]
    exact ih _ (h.2 _) _

end Prog

namespace Raising

variable {S : Signature} {ε ε' α β σ : Type} {alike : Likeness S} {allowed : S.Op → Prop}

def Blind (alike : Likeness S) (program : Raising S ε α) : Prop := Prog.Blind alike program.run

theorem blind_iff {program : Raising S ε α} :
    Blind alike program ↔ Prog.Blind alike program.run := Iff.rfl

theorem Blind.pure (value : α) : Blind alike (Pure.pure value : Raising S ε α) := trivial

theorem Blind.throw (failure : ε) : Blind alike (MonadExcept.throw failure : Raising S ε α) :=
  trivial

theorem Blind.bind {program : Raising S ε α} {f : α → Raising S ε β} (h : Blind alike program)
    (hnext : ∀ value, Blind alike (f value)) : Blind alike (program >>= f) := by
  refine Prog.blind_bind h fun outcome => ?_
  cases outcome with
  | ok value => exact hnext value
  | error failure => exact trivial

theorem Blind.attempt {program : Raising S ε α} (h : Blind alike program) :
    Blind alike (attempt program : Raising S ε' (Except ε α)) := by
  change Prog.Blind alike (Except.ok <$> program.run)
  rw [← bind_pure_comp]
  exact Prog.blind_bind h fun _ => trivial

theorem Blind.adapt {program : Raising S ε α} (f : ε → ε') (h : Blind alike program) :
    Blind alike (ExceptT.adapt f program : Raising S ε' α) := by
  change Prog.Blind alike (Except.mapError f <$> program.run)
  rw [← bind_pure_comp]
  exact Prog.blind_bind h fun _ => trivial

theorem Blind.ensuring {program : Raising S ε α} {closing : Raising S ε Unit}
    (h : Blind alike program) (hclosing : Blind alike closing) :
    Blind alike (ensuring program closing) :=
  Prog.blind_bind h fun _ => Prog.blind_bind hclosing fun _ => trivial

theorem Asks.blind {program : Raising S ε α} (h : Asks allowed program)
    (hequal : ∀ op answer answer', allowed op → alike op answer answer' → answer = answer') :
    Blind alike program :=
  Prog.blind_of_asks (asks_iff.mp h) hequal

attribute [irreducible] Blind

end Raising

namespace Pool

variable {S : Signature} {σ γ α : Type} {alike : Likeness S}

-- Two machines that do the same and give answers that are alike.
structure Twins (alike : Likeness S) (machine machine' : Machine S σ) : Prop where
  enabled : ∀ op state, machine.enabled op state = machine'.enabled op state
  written : ∀ op state, (machine.handle op state).2 = (machine'.handle op state).2
  answered : ∀ op state, alike op (machine.handle op state).1 (machine'.handle op state).1

-- What is known of a thread does not tell answers apart that are alike.
def Unprying (alike : Likeness S) (protocol : Protocol S σ γ) : Prop :=
  ∀ ghost state op answer answer', alike op answer answer' →
    protocol.observe ghost state op answer = protocol.observe ghost state op answer'

variable {machine machine' : Machine S σ} {protocol : Protocol S σ γ}

theorem step_blind (htwins : Twins alike machine machine') (hprotocol : Unprying alike protocol)
    (pool : Pool S σ γ α) (h : ∀ thread ∈ pool.threads, thread.program.Blind alike) (i : Nat) :
    pool.step machine protocol i = pool.step machine' protocol i ∧
      ∀ thread ∈ (pool.step machine protocol i).threads, thread.program.Blind alike := by
  unfold step
  split
  next ghost op next hthread =>
    have hblind := h _ (List.mem_of_getElem? hthread)
    rw [htwins.enabled op pool.state]
    split
    · have hnext := hblind.1 _ _ (htwins.answered op pool.state)
      have hghost := hprotocol ghost pool.state op _ _ (htwins.answered op pool.state)
      refine ⟨?_, fun thread hmem => ?_⟩
      · simp only [htwins.written op pool.state, hnext, hghost]
      · rcases List.mem_or_eq_of_mem_set hmem with hold | rfl
        · exact h thread hold
        · exact hblind.2 _
    · exact ⟨rfl, h⟩
  next => exact ⟨rfl, h⟩

-- Threads that are blind to what sets two machines apart go the same way on both.
theorem runs_blind (htwins : Twins alike machine machine') (hprotocol : Unprying alike protocol)
    (pool : Pool S σ γ α) (h : ∀ thread ∈ pool.threads, thread.program.Blind alike)
    (schedule : List Nat) :
    pool.runs machine protocol schedule = pool.runs machine' protocol schedule ∧
      ∀ thread ∈ (pool.runs machine protocol schedule).threads, thread.program.Blind alike := by
  induction schedule using List.reverseRecOn with
  | nil => exact ⟨rfl, h⟩
  | append_singleton schedule i ih =>
    rw [runs_concat, runs_concat, ← ih.1]
    exact step_blind htwins hprotocol _ ih.2 i

end Pool

end Troubleshooter.Library
