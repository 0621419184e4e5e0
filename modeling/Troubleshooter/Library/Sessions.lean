import Troubleshooter.Library.Asks

-- Programs that go through sessions, with what is known of a program begun anew in each.
namespace Troubleshooter.Library

-- Two disciplines at once.
def Protocol.both {S : Signature} {σ γ δ : Type} (left : Protocol S σ γ) (right : Protocol S σ δ) :
    Protocol S σ (γ × δ) where
  observe ghost state op answer :=
    (left.observe ghost.1 state op answer, right.observe ghost.2 state op answer)
  allows ghost op := left.allows ghost.1 op ∧ right.allows ghost.2 op
  answers ghost state op answer :=
    left.answers ghost.1 state op answer ∧ right.answers ghost.2 state op answer

namespace Prog

variable {S : Signature} {σ γ δ α : Type} {allowed : S.Op → Prop}

theorem follows_both {left : Protocol S σ γ} {right : Protocol S σ δ} {program : Prog S α}
    {ghost : γ} {ghost' : δ} {post : γ → α → Prop} {post' : δ → α → Prop}
    (h : program.Follows left ghost post) (h' : program.Follows right ghost' post') :
    program.Follows (left.both right) (ghost, ghost') fun later value =>
      post later.1 value ∧ post' later.2 value := by
  induction program generalizing ghost ghost' with
  | ret value => exact (follows_ret ..).mpr ⟨(follows_ret ..).mp h, (follows_ret ..).mp h'⟩
  | call op next ih =>
    obtain ⟨hallowed, hnext⟩ := (follows_step ..).mp h
    obtain ⟨hallowed', hnext'⟩ := (follows_step ..).mp h'
    exact (follows_step ..).mpr ⟨⟨hallowed, hallowed'⟩, fun state answer hanswer =>
      ih answer (hnext state answer hanswer.1) (hnext' state answer hanswer.2)⟩

-- A program is moved to another discipline with the calls that it is known to be made of.
theorem follows_beside {protocol : Protocol S σ γ} {protocol' : Protocol S σ δ}
    (related : γ → δ → Prop)
    (hallows : ∀ ghost ghost' op, related ghost ghost' → allowed op → protocol.allows ghost op →
      protocol'.allows ghost' op)
    (hanswers : ∀ ghost ghost' state op answer, related ghost ghost' → allowed op →
      protocol'.answers ghost' state op answer → protocol.answers ghost state op answer ∧
        related (protocol.observe ghost state op answer)
          (protocol'.observe ghost' state op answer))
    {program : Prog S α} (hasks : program.Asks allowed) {ghost : γ} {ghost' : δ}
    {post : γ → α → Prop} (hrelated : related ghost ghost')
    (h : program.Follows protocol ghost post) :
    program.Follows protocol' ghost' fun later' value =>
      ∃ later, related later later' ∧ post later value := by
  induction program generalizing ghost ghost' with
  | ret value => exact (follows_ret ..).mpr ⟨ghost, hrelated, (follows_ret ..).mp h⟩
  | call op next ih =>
    obtain ⟨hallowed, hnext⟩ := (follows_step ..).mp h
    refine (follows_step ..).mpr ⟨hallows _ _ _ hrelated hasks.1 hallowed,
      fun state answer hanswer => ?_⟩
    obtain ⟨hrelied, hlater⟩ := hanswers _ _ _ _ _ hrelated hasks.1 hanswer
    exact ih answer (hasks.2 answer) hlater (hnext state answer hrelied)

-- What every allowed call keeps is known at the end.
theorem follows_invariant {protocol : Protocol S σ γ} {invariant : γ → Prop}
    (hkept : ∀ ghost state op answer, invariant ghost → protocol.allows ghost op →
      invariant (protocol.observe ghost state op answer))
    {program : Prog S α} {ghost : γ} {post : γ → α → Prop} (h : program.Follows protocol ghost post)
    (hghost : invariant ghost) :
    program.Follows protocol ghost fun later value => invariant later ∧ post later value := by
  induction program generalizing ghost with
  | ret value => exact (follows_ret ..).mpr ⟨hghost, (follows_ret ..).mp h⟩
  | call op next ih =>
    obtain ⟨hallowed, hnext⟩ := (follows_step ..).mp h
    exact (follows_step ..).mpr ⟨hallowed, fun state answer hanswer =>
      ih answer (hnext state answer hanswer) (hkept ghost state op answer hghost hallowed)⟩

-- What a discipline allows wherever it may have come to is all that its programs ask for.
theorem asks_of_follows {protocol : Protocol S σ γ} (state : σ)
    (hfree : ∀ ghost op answer, protocol.answers ghost state op answer)
    (hallows : ∀ ghost op, protocol.allows ghost op → allowed op) {program : Prog S α} {ghost : γ}
    {post : γ → α → Prop} (h : program.Follows protocol ghost post) : program.Asks allowed := by
  induction program generalizing ghost with
  | ret value => trivial
  | call op next ih =>
    obtain ⟨hallowed, hnext⟩ := (follows_step ..).mp h
    exact ⟨hallows ghost op hallowed, fun answer => ih answer (hnext state answer (hfree ..))⟩

end Prog

-- Which calls begin a session, with what is known at its beginning, which end one, and
-- which are made between them.
structure Sessions (S : Signature) (γ : Type) where
  begins : S.Op → Option γ
  ends : S.Op → Bool
  outside : S.Op → Prop
  apart : ∀ op, outside op → begins op = none

namespace Sessions

open Raising (Triple Keeps)

variable {S : Signature} {σ γ ε α : Type} (sessions : Sessions S γ) {inner : Protocol S σ γ}

-- A call of a session itself.
def Within (op : S.Op) : Prop := sessions.begins op = none ∧ sessions.ends op = false

def protocol (inner : Protocol S σ γ) : Protocol S σ (Option γ) where
  observe known state op answer :=
    match sessions.begins op with
    | some start => some start
    | none =>
      if sessions.ends op then none
      else known.map fun ghost => inner.observe ghost state op answer
  allows known op :=
    match known with
    | none => (sessions.begins op).isSome = true ∨ sessions.outside op
    | some ghost => sessions.ends op = true ∨ sessions.Within op ∧ inner.allows ghost op
  answers known state op answer :=
    match known with
    | none => True
    | some ghost => sessions.Within op → inner.answers ghost state op answer

theorem observe_within {op : S.Op} (h : sessions.Within op) (ghost : γ) (state : σ)
    (answer : S.Res op) : (sessions.protocol inner).observe (some ghost) state op answer =
      some (inner.observe ghost state op answer) := by
  simp [protocol, h.1, h.2]

theorem observe_outside {op : S.Op} (h : sessions.outside op) (state : σ) (answer : S.Res op) :
    (sessions.protocol inner).observe none state op answer = none := by
  simp [protocol, sessions.apart op h]

theorem outside_keeps {program : Raising S ε α} (h : Raising.Asks sessions.outside program) :
    Keeps (sessions.protocol inner) (· = none) program fun _ => True := by
  refine h.keeps ?_ ?_
  · rintro _ op rfl hop
    exact Or.inr hop
  · rintro _ state op answer rfl hop
    exact observe_outside sessions hop state answer

-- In a session a program is followed as the inner discipline has it.
theorem within_triple {program : Raising S ε α} {pre : γ → Prop} {post : γ → α → Prop}
    {raised : γ → ε → Prop} (h : Triple inner pre program post raised)
    (hasks : Raising.Asks sessions.Within program) :
    Triple (sessions.protocol inner) (fun known => ∃ ghost, known = some ghost ∧ pre ghost) program
      (fun known value => ∃ ghost, known = some ghost ∧ post ghost value)
      (fun known failure => ∃ ghost, known = some ghost ∧ raised ghost failure) := by
  rintro _ ⟨ghost, rfl, hghost⟩
  refine Prog.follows_mono _ _ _ _ _ (fun known outcome => ?_)
    (Prog.follows_beside (fun ghost known => known = some ghost) ?_ ?_ (Raising.asks_iff.mp hasks)
      rfl (h ghost hghost))
  · rintro ⟨later, rfl, houtcome⟩
    cases outcome with
    | ok value => exact ⟨later, rfl, houtcome⟩
    | error failure => exact ⟨later, rfl, houtcome⟩
  · rintro ghost _ op rfl hop hallowed
    exact Or.inr ⟨hop, hallowed⟩
  · rintro ghost _ state op answer rfl hop hanswer
    exact ⟨hanswer hop, observe_within sessions hop ghost state answer⟩

end Sessions

end Troubleshooter.Library
