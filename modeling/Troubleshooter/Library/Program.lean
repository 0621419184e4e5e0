import Mathlib.Logic.Function.Basic

namespace Troubleshooter.Library

-- What a component may ask of the outside: the calls, and what each one answers.
structure Signature where
  Op : Type
  Res : Op → Type

-- A program is the tree of the calls it makes. One node is one atomic step;
-- what happens between two calls is the program's own pure computation.
inductive Prog (S : Signature) (α : Type) where
  | ret (value : α)
  | call (op : S.Op) (next : S.Res op → Prog S α)

-- What a call does to a state, and what it answers there.
abbrev Handler (S : Signature) (σ : Type) := (op : S.Op) → σ → S.Res op × σ

namespace Prog

variable {S : Signature} {α β σ : Type}

def bind : Prog S α → (α → Prog S β) → Prog S β
  | .ret value, f => f value
  | .call op next, f => .call op fun answer => (next answer).bind f

instance : Monad (Prog S) where
  pure := .ret
  bind := bind

def perform (op : S.Op) : Prog S (S.Res op) := .call op .ret

-- What a program that has come to its end has returned.
def returned : Prog S α → Option α
  | .ret value => some value
  | .call _ _ => none

theorem eq_ret_of_returned {program : Prog S α} {value : α} (h : program.returned = some value) :
    program = .ret value := by
  cases program with
  | ret other => rw [Option.some.inj h]
  | call op next => exact nomatch h

theorem bind_ret (program : Prog S α) : program.bind .ret = program := by
  induction program with
  | ret value => rfl
  | call op next ih => simp only [bind, ih]

theorem bind_assoc {γ : Type} (program : Prog S α) (f : α → Prog S β) (g : β → Prog S γ) :
    (program.bind f).bind g = program.bind fun value => (f value).bind g := by
  induction program with
  | ret value => rfl
  | call op next ih => simp only [bind, ih]

instance : LawfulMonad (Prog S) :=
  LawfulMonad.mk' _ (fun program => bind_ret program) (fun _ _ => rfl) bind_assoc

-- The program alone against a state: nobody else moves between its calls.
def run (handle : Handler S σ) : Prog S α → σ → α × σ
  | .ret value, state => (value, state)
  | .call op next, state => (next (handle op state).1).run handle (handle op state).2

@[simp] theorem run_pure (handle : Handler S σ) (value : α) (state : σ) :
    (pure value : Prog S α).run handle state = (value, state) := rfl

@[simp] theorem run_ret (handle : Handler S σ) (value : α) (state : σ) :
    (Prog.ret value : Prog S α).run handle state = (value, state) := rfl

@[simp] theorem run_perform (handle : Handler S σ) (op : S.Op) (state : σ) :
    (perform op).run handle state = handle op state := rfl

@[simp] theorem run_bind (handle : Handler S σ) (program : Prog S α) (f : α → Prog S β)
    (state : σ) :
    (program >>= f).run handle state =
      (f (program.run handle state).1).run handle (program.run handle state).2 := by
  change (program.bind f).run handle state = _
  induction program generalizing state with
  | ret value => rfl
  | call op next ih => exact ih _ _

@[simp] theorem run_map (handle : Handler S σ) (program : Prog S α) (f : α → β) (state : σ) :
    (f <$> program).run handle state =
      (f (program.run handle state).1, (program.run handle state).2) := by
  rw [← bind_pure_comp, run_bind, run_pure]

theorem run_ite (handle : Handler S σ) (c : Prop) [Decidable c] (left right : Prog S α)
    (state : σ) :
    (if c then left else right).run handle state =
      if c then left.run handle state else right.run handle state := by
  split <;> rfl

end Prog

end Troubleshooter.Library
