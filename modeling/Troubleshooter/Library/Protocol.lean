import Troubleshooter.Library.Program

namespace Troubleshooter.Library

-- A discipline on the calls of a program over a state. The ghost value is what is
-- known of the program's own past; it decides which calls are allowed next and which
-- answers may be relied on. The state is the one the call meets.
structure Protocol (S : Signature) (σ γ : Type) where
  observe : γ → σ → (op : S.Op) → S.Res op → γ
  allows : γ → S.Op → Prop
  answers : γ → σ → (op : S.Op) → S.Res op → Prop

-- Nothing is asked of a program, and nothing is learnt from it.
def Protocol.free (S : Signature) (σ γ : Type) : Protocol S σ γ where
  observe ghost _ _ _ := ghost
  allows _ _ := True
  answers _ _ _ _ := True

-- A protocol for each kind of program; the ghost value says which kind it is.
def Protocol.family {S : Signature} {σ γ ι : Type} (protocols : ι → Protocol S σ γ) :
    Protocol S σ (ι × γ) where
  observe ghost state op answer := (ghost.1, (protocols ghost.1).observe ghost.2 state op answer)
  allows ghost := (protocols ghost.1).allows ghost.2
  answers ghost := (protocols ghost.1).answers ghost.2

namespace Prog

variable {S : Signature} {α β γ σ : Type}

-- Every call is allowed where it is made, whatever state it meets and whatever it
-- is answered there, and the end meets the postcondition.
def Follows (protocol : Protocol S σ γ) : Prog S α → γ → (γ → α → Prop) → Prop
  | .ret value, ghost, post => post ghost value
  | .call op next, ghost, post =>
    protocol.allows ghost op ∧ ∀ state answer, protocol.answers ghost state op answer →
      (next answer).Follows protocol (protocol.observe ghost state op answer) post

variable (protocol : Protocol S σ γ)

@[simp] theorem follows_pure (value : α) (ghost : γ) (post : γ → α → Prop) :
    (pure value : Prog S α).Follows protocol ghost post ↔ post ghost value := Iff.rfl

@[simp] theorem follows_ret (value : α) (ghost : γ) (post : γ → α → Prop) :
    (Prog.ret value : Prog S α).Follows protocol ghost post ↔ post ghost value := Iff.rfl

theorem follows_step (op : S.Op) (next : S.Res op → Prog S α) (ghost : γ)
    (post : γ → α → Prop) :
    (Prog.call op next).Follows protocol ghost post ↔
      protocol.allows ghost op ∧ ∀ state answer, protocol.answers ghost state op answer →
        (next answer).Follows protocol (protocol.observe ghost state op answer) post := Iff.rfl

@[simp] theorem follows_perform (op : S.Op) (ghost : γ) (post : γ → S.Res op → Prop) :
    (perform op).Follows protocol ghost post ↔
      protocol.allows ghost op ∧ ∀ state answer, protocol.answers ghost state op answer →
        post (protocol.observe ghost state op answer) answer := Iff.rfl

theorem follows_mono (program : Prog S α) (ghost : γ) (post post' : γ → α → Prop)
    (hpost : ∀ ghost value, post ghost value → post' ghost value)
    (h : program.Follows protocol ghost post) : program.Follows protocol ghost post' := by
  induction program generalizing ghost with
  | ret value => exact hpost _ _ h
  | call op next ih =>
    exact ⟨h.1, fun state answer hanswer => ih answer _ (h.2 state answer hanswer)⟩

@[simp] theorem follows_bind (program : Prog S α) (f : α → Prog S β) (ghost : γ)
    (post : γ → β → Prop) :
    (program >>= f).Follows protocol ghost post ↔
      program.Follows protocol ghost fun ghost value => (f value).Follows protocol ghost post := by
  change (program.bind f).Follows protocol ghost post ↔ _
  induction program generalizing ghost with
  | ret value => exact Iff.rfl
  | call op next ih =>
    simp only [Prog.bind, Follows]
    exact and_congr_right fun _ =>
      forall_congr' fun state => forall_congr' fun answer => imp_congr_right fun _ => ih answer _

theorem follows_call (op : S.Op) (f : S.Res op → Prog S β) (ghost : γ) (post : γ → β → Prop) :
    (perform op >>= f).Follows protocol ghost post ↔
      protocol.allows ghost op ∧ ∀ state answer, protocol.answers ghost state op answer →
        (f answer).Follows protocol (protocol.observe ghost state op answer) post := Iff.rfl

theorem follows_free (program : Prog S α) (ghost : γ) :
    program.Follows (Protocol.free S σ γ) ghost fun _ _ => True := by
  induction program with
  | ret value => trivial
  | call op next ih => exact ⟨trivial, fun _ answer _ => ih answer⟩

theorem follows_family {ι : Type} (protocols : ι → Protocol S σ γ) (kind : ι)
    (program : Prog S α) (ghost : γ) (post : γ → α → Prop)
    (h : program.Follows (protocols kind) ghost post) :
    program.Follows (Protocol.family protocols) (kind, ghost) fun ghost value =>
      post ghost.2 value := by
  induction program generalizing ghost with
  | ret value => exact h
  | call op next ih => exact ⟨h.1, fun state answer hanswer => ih answer _ (h.2 state answer hanswer)⟩

-- A program that follows one protocol follows any other that allows as much, under a
-- relation between what the two know.
theorem follows_transfer {γ' : Type} (protocol' : Protocol S σ γ') (related : γ → γ' → Prop)
    (hallows : ∀ ghost ghost' op, related ghost ghost' → protocol.allows ghost op →
      protocol'.allows ghost' op)
    (hanswers : ∀ ghost ghost' state op answer, related ghost ghost' → protocol.allows ghost op →
      protocol'.answers ghost' state op answer → protocol.answers ghost state op answer ∧
        related (protocol.observe ghost state op answer)
          (protocol'.observe ghost' state op answer))
    (program : Prog S α) (ghost : γ) (ghost' : γ') (post : γ → α → Prop)
    (hrelated : related ghost ghost') (h : program.Follows protocol ghost post) :
    program.Follows protocol' ghost' fun later' value =>
      ∃ later, related later later' ∧ post later value := by
  induction program generalizing ghost ghost' with
  | ret value => exact ⟨ghost, hrelated, h⟩
  | call op next ih =>
    refine ⟨hallows _ _ _ hrelated h.1, fun state answer hanswer => ?_⟩
    obtain ⟨hrelied, hlater⟩ := hanswers _ _ _ _ _ hrelated h.1 hanswer
    exact ih answer _ _ hlater (h.2 state answer hrelied)

-- A handler realises the protocol under a relation between what is known of a
-- program and the state.
structure Realises (handle : Handler S σ) (related : γ → σ → Prop) : Prop where
  answered : ∀ ghost op state, related ghost state → protocol.allows ghost op →
    protocol.answers ghost state op (handle op state).1
  kept : ∀ ghost op state, related ghost state → protocol.allows ghost op →
    related (protocol.observe ghost state op (handle op state).1) (handle op state).2

-- The run rule: a program that follows the protocol, started where the relation
-- holds, ends where it holds, with its postcondition.
theorem follows_run {protocol : Protocol S σ γ} {handle : Handler S σ} {related : γ → σ → Prop}
    (hrealises : Realises protocol handle related) (program : Prog S α) (ghost : γ) (state : σ)
    (post : γ → α → Prop) (hfollows : program.Follows protocol ghost post)
    (hrelated : related ghost state) :
    ∃ last, related last (program.run handle state).2 ∧
      post last (program.run handle state).1 := by
  induction program generalizing ghost state with
  | ret value => exact ⟨ghost, hrelated, hfollows⟩
  | call op next ih =>
    obtain ⟨hallowed, hnext⟩ := hfollows
    exact ih _ _ _ (hnext _ _ (hrealises.answered ghost op state hrelated hallowed))
      (hrealises.kept ghost op state hrelated hallowed)

-- From here on a program is followed through the rules above, never by unfolding it.
attribute [irreducible] Follows

end Prog

end Troubleshooter.Library
