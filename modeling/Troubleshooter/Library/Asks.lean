import Troubleshooter.Library.Raising

namespace Troubleshooter.Library

namespace Prog

variable {S : Signature} {α β γ σ : Type} {allowed : S.Op → Prop}

-- Every call of the program is an allowed one, whatever it is answered.
def Asks (allowed : S.Op → Prop) : Prog S α → Prop
  | .ret _ => True
  | .call op next => allowed op ∧ ∀ answer, (next answer).Asks allowed

theorem asks_bind {program : Prog S α} {f : α → Prog S β} (h : program.Asks allowed)
    (hnext : ∀ value, (f value).Asks allowed) : (program >>= f).Asks allowed := by
  change (program.bind f).Asks allowed
  induction program with
  | ret value => exact hnext value
  | call op next ih => exact ⟨h.1, fun answer => ih answer (h.2 answer)⟩

theorem asks_ite {c : Prop} [Decidable c] {left right : Prog S α} (hleft : left.Asks allowed)
    (hright : right.Asks allowed) : (if c then left else right).Asks allowed := by
  by_cases h : c
  · exact (if_pos h).symm ▸ hleft
  · exact (if_neg h).symm ▸ hright

theorem asks_mono {allowed' : S.Op → Prop} {program : Prog S α} (h : program.Asks allowed)
    (himp : ∀ op, allowed op → allowed' op) : program.Asks allowed' := by
  induction program with
  | ret value => trivial
  | call op next ih => exact ⟨himp op h.1, fun answer => ih answer (h.2 answer)⟩

-- A call of the kind is the last one that the program makes.
def Closes (final : S.Op → Prop) : Prog S α → Prop
  | .ret _ => True
  | .call op next =>
    (final op → ∀ answer, ∃ value, next answer = .ret value) ∧
      ∀ answer, (next answer).Closes final

variable {final : S.Op → Prop}

theorem closes_bind {program : Prog S α} {f : α → Prog S β}
    (h : program.Asks fun op => ¬final op) (hnext : ∀ value, (f value).Closes final) :
    (program >>= f).Closes final := by
  change (program.bind f).Closes final
  induction program with
  | ret value => exact hnext value
  | call op next ih => exact ⟨fun hfinal => absurd hfinal h.1, fun answer => ih answer (h.2 answer)⟩

theorem closes_map {program : Prog S α} {f : α → β} (h : program.Closes final) :
    (program >>= fun value => pure (f value)).Closes final := by
  change (program.bind fun value => .ret (f value)).Closes final
  induction program with
  | ret value => trivial
  | call op next ih =>
    refine ⟨fun hfinal answer => ?_, fun answer => ih answer (h.2 answer)⟩
    obtain ⟨value, hvalue⟩ := h.1 hfinal answer
    exact ⟨f value, congrArg (fun rest => rest.bind fun value => .ret (f value)) hvalue⟩

theorem closes_perform (op : S.Op) : (perform op : Prog S (S.Res op)).Closes final :=
  ⟨fun _ answer => ⟨answer, rfl⟩, fun _ => trivial⟩

-- What no allowed call can move is kept by a program of such calls.
theorem asks_follows {protocol : Protocol S σ γ} {known : γ → Prop} {program : Prog S α}
    (h : program.Asks allowed)
    (hallows : ∀ ghost op, known ghost → allowed op → protocol.allows ghost op)
    (hkept : ∀ ghost state op answer, known ghost → allowed op →
      known (protocol.observe ghost state op answer)) (ghost : γ) (hghost : known ghost) :
    program.Follows protocol ghost fun later _ => known later := by
  induction program generalizing ghost with
  | ret value => exact (follows_ret ..).mpr hghost
  | call op next ih =>
    refine (follows_step ..).mpr ⟨hallows ghost op hghost h.1, fun state answer _ => ?_⟩
    exact ih answer (h.2 answer) _ (hkept ghost state op answer hghost h.1)

end Prog

namespace Raising

variable {S : Signature} {ε ε' α β γ σ : Type} {allowed : S.Op → Prop}

def Asks (allowed : S.Op → Prop) (program : Raising S ε α) : Prop :=
  Prog.Asks allowed program.run

theorem asks_iff {program : Raising S ε α} :
    Asks allowed program ↔ Prog.Asks allowed program.run := Iff.rfl

theorem Asks.pure (value : α) : Asks allowed (Pure.pure value : Raising S ε α) := trivial

theorem Asks.throw (failure : ε) : Asks allowed (MonadExcept.throw failure : Raising S ε α) :=
  trivial

theorem Asks.bind {program : Raising S ε α} {f : α → Raising S ε β} (h : Asks allowed program)
    (hnext : ∀ value, Asks allowed (f value)) : Asks allowed (program >>= f) := by
  refine Prog.asks_bind h fun outcome => ?_
  cases outcome with
  | ok value => exact hnext value
  | error failure => exact trivial

theorem Asks.ite {c : Prop} [Decidable c] {left right : Raising S ε α} (hleft : Asks allowed left)
    (hright : Asks allowed right) : Asks allowed (if c then left else right) :=
  Prog.asks_ite hleft hright

theorem Asks.attempt {program : Raising S ε α} (h : Asks allowed program) :
    Asks allowed (attempt program : Raising S ε' (Except ε α)) := by
  change Prog.Asks allowed (Except.ok <$> program.run)
  rw [← bind_pure_comp]
  exact Prog.asks_bind h fun _ => trivial

theorem Asks.adapt {program : Raising S ε α} (f : ε → ε') (h : Asks allowed program) :
    Asks allowed (ExceptT.adapt f program : Raising S ε' α) := by
  change Prog.Asks allowed (Except.mapError f <$> program.run)
  rw [← bind_pure_comp]
  exact Prog.asks_bind h fun _ => trivial

theorem Asks.ensuring {program : Raising S ε α} {closing : Raising S ε Unit}
    (h : Asks allowed program) (hclosing : Asks allowed closing) :
    Asks allowed (ensuring program closing) :=
  Prog.asks_bind h fun _ => Prog.asks_bind hclosing fun _ => trivial

theorem Asks.forM {f : β → Raising S ε PUnit} (items : List β) (h : ∀ item, Asks allowed (f item)) :
    Asks allowed (items.forM f) := by
  induction items with
  | nil => exact trivial
  | cons item rest ih => exact Asks.bind (h item) fun _ => ih

theorem Asks.mapM {f : α → Raising S ε β} (items : List α) (h : ∀ item, Asks allowed (f item)) :
    Asks allowed (items.mapM f) := by
  induction items with
  | nil => exact trivial
  | cons item rest ih =>
    rw [List.mapM_cons]
    exact Asks.bind (h item) fun _ => Asks.bind ih fun _ => Asks.pure _

theorem Asks.mono {allowed' : S.Op → Prop} {program : Raising S ε α} (h : Asks allowed program)
    (himp : ∀ op, allowed op → allowed' op) : Asks allowed' program :=
  Prog.asks_mono h himp

-- A program of allowed calls keeps what none of them can move, however it ends.
theorem Asks.keeps {protocol : Protocol S σ γ} {known : γ → Prop} {program : Raising S ε α}
    (h : Asks allowed program)
    (hallows : ∀ ghost op, known ghost → allowed op → protocol.allows ghost op)
    (hkept : ∀ ghost state op answer, known ghost → allowed op →
      known (protocol.observe ghost state op answer)) :
    Keeps protocol known program fun _ => True := by
  intro ghost hghost
  refine Prog.follows_mono _ _ _ _ _ (fun later outcome hlater => ?_)
    (Prog.asks_follows h hallows hkept ghost hghost)
  cases outcome with
  | ok value => exact ⟨hlater, trivial⟩
  | error failure => exact hlater

attribute [irreducible] Asks

end Raising

end Troubleshooter.Library
