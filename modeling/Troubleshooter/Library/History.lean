import Troubleshooter.Library.Raising

namespace Troubleshooter.Library

-- A call with what it was answered.
structure Exchange (S : Signature) where
  op : S.Op
  answer : S.Res op

namespace Prog

variable {S : Signature} {α β σ : Type}

-- The calls of a run with their answers, in order.
def exchanges (handle : Handler S σ) : Prog S α → σ → List (Exchange S)
  | .ret _, _ => []
  | .call op next, state =>
    ⟨op, (handle op state).1⟩ ::
      (next (handle op state).1).exchanges handle (handle op state).2

-- A program knows all that it has asked and been told, and what it may ask goes by that.
def recorded (S : Signature) (allows : List (Exchange S) → S.Op → Prop) :
    Protocol S Unit (List (Exchange S)) where
  observe history _ op answer := history ++ [⟨op, answer⟩]
  allows := allows
  answers _ _ _ _ := True

-- A program that follows its history is a run of allowed calls, and its end meets the
-- postcondition at all its exchanges.
theorem follows_exchanges {allows : List (Exchange S) → S.Op → Prop} (handle : Handler S σ)
    (program : Prog S α) (history : List (Exchange S)) (state : σ)
    (post : List (Exchange S) → α → Prop)
    (h : program.Follows (recorded S allows) history post) :
    (∀ before exchange after,
        program.exchanges handle state = before ++ exchange :: after →
          allows (history ++ before) exchange.op) ∧
      post (history ++ program.exchanges handle state) (program.run handle state).1 := by
  induction program generalizing history state with
  | ret value =>
    refine ⟨fun before exchange after heq => ?_, ?_⟩
    · exact absurd heq (by simp [exchanges])
    · rw [exchanges, List.append_nil]
      exact (follows_ret ..).mp h
  | call op next ih =>
    obtain ⟨hallowed, hnext⟩ := (follows_step ..).mp h
    obtain ⟨hcalls, hend⟩ := ih _ _ (handle op state).2 (hnext () (handle op state).1 trivial)
    refine ⟨fun before exchange after heq => ?_, ?_⟩
    · rw [exchanges] at heq
      cases before with
      | nil =>
        obtain ⟨rfl, -⟩ := List.cons.inj heq
        rw [List.append_nil]
        exact hallowed
      | cons first before =>
        obtain ⟨rfl, hrest⟩ := List.cons.inj heq
        rw [List.append_cons]
        exact hcalls before exchange after hrest
    · rw [exchanges, List.append_cons]
      exact hend

end Prog

end Troubleshooter.Library
