import Mathlib.Order.Basic
import Troubleshooter.Library.Raising

-- Programs of which ever more is known: what was known once may be used to the end.
namespace Troubleshooter.Library.Raising

variable {S : Signature} {ε ε' α β γ σ : Type} [Preorder γ]

-- From any knowledge that has grown out of this one the program follows the protocol, to
-- knowledge that has grown further.
def Gathers (protocol : Protocol S σ γ) (known : γ) (program : Raising S ε α)
    (post : γ → α → Prop) (raised : γ → ε → Prop) : Prop :=
  Triple protocol (known ≤ ·) program (fun later value => known ≤ later ∧ post later value)
    fun later failure => known ≤ later ∧ raised later failure

section Learning

variable {protocol : Protocol S σ γ} {known : γ} {post : γ → α → Prop} {raised : γ → ε → Prop}

theorem Gathers.pure {value : α} (h : ∀ later, known ≤ later → post later value) :
    Gathers protocol known (Pure.pure value : Raising S ε α) post raised :=
  Triple.pure fun later hlater => ⟨hlater, h later hlater⟩

theorem Gathers.throw {failure : ε} (h : ∀ later, known ≤ later → raised later failure) :
    Gathers protocol known (MonadExcept.throw failure : Raising S ε α) post raised :=
  Triple.throw fun later hlater => ⟨hlater, h later hlater⟩

theorem Gathers.bind {program : Raising S ε α} {f : α → Raising S ε β} {post' : γ → β → Prop}
    (h : Gathers protocol known program post raised)
    (hnext : ∀ later value, known ≤ later → post later value →
      Gathers protocol later (f value) post' raised) :
    Gathers protocol known (program >>= f) post' raised := by
  refine Triple.bind h fun value ghost hghost => ?_
  exact Triple.mono (hnext ghost value hghost.1 hghost.2) (fun _ hle => hle)
    (fun _ _ hlater => ⟨hghost.1.trans hlater.1, hlater.2⟩)
    (fun _ _ hlater => ⟨hghost.1.trans hlater.1, hlater.2⟩) ghost le_rfl

theorem Gathers.ite {c : Prop} [Decidable c] {left right : Raising S ε α}
    (hleft : Gathers protocol known left post raised)
    (hright : Gathers protocol known right post raised) :
    Gathers protocol known (if c then left else right) post raised := by
  split
  · exact hleft
  · exact hright

theorem Gathers.mono {program : Raising S ε α} {post' : γ → α → Prop} {raised' : γ → ε → Prop}
    (h : Gathers protocol known program post raised)
    (hpost : ∀ later value, known ≤ later → post later value → post' later value)
    (hraised : ∀ later failure, known ≤ later → raised later failure → raised' later failure) :
    Gathers protocol known program post' raised' :=
  Triple.mono h (fun _ hle => hle) (fun _ _ hlater => ⟨hlater.1, hpost _ _ hlater.1 hlater.2⟩)
    fun _ _ hlater => ⟨hlater.1, hraised _ _ hlater.1 hlater.2⟩

theorem Gathers.attempt {program : Raising S ε α} {raised' : γ → ε' → Prop}
    (h : Gathers protocol known program post raised) :
    Gathers protocol known (attempt program) (Outcome post raised) raised' := by
  refine Triple.mono (Triple.attempt h) (fun _ hle => hle) (fun later outcome hlater => ?_)
    fun _ _ hlater => hlater
  cases outcome with
  | ok value => exact hlater
  | error failure => exact hlater

theorem Gathers.ensuring {program : Raising S ε α} {closing : Raising S ε Unit}
    (h : Gathers protocol known program post raised)
    (hpost : ∀ {later last value}, later ≤ last → post later value → post last value)
    (hraised : ∀ {later last failure}, later ≤ last → raised later failure → raised last failure)
    (hclosing : ∀ later, known ≤ later → Gathers protocol later closing (fun _ _ => True) raised) :
    Gathers protocol known (ensuring program closing) post raised := by
  refine Triple.ensuring h fun outcome ghost hghost => ?_
  cases outcome with
  | ok value =>
    exact Triple.mono (hclosing ghost hghost.1) (fun _ hle => hle)
      (fun _ _ hlater => ⟨hghost.1.trans hlater.1, hpost hlater.1 hghost.2⟩)
      (fun _ _ hlater => ⟨hghost.1.trans hlater.1, hlater.2⟩) ghost le_rfl
  | error failure =>
    exact Triple.mono (hclosing ghost hghost.1) (fun _ hle => hle)
      (fun _ _ hlater => ⟨hghost.1.trans hlater.1, hraised hlater.1 hghost.2⟩)
      (fun _ _ hlater => ⟨hghost.1.trans hlater.1, hlater.2⟩) ghost le_rfl

theorem Gathers.adapt {program : Raising S ε α} {raised' : γ → ε' → Prop} (f : ε → ε')
    (h : Gathers protocol known program post raised)
    (hraised : ∀ later failure, known ≤ later → raised later failure → raised' later (f failure)) :
    Gathers protocol known (ExceptT.adapt f program : Raising S ε' α) post raised' :=
  Triple.adapt f (h.mono (fun _ _ _ hpost => hpost) hraised)

theorem Gathers.forM {f : β → Raising S ε PUnit} (items : List β)
    (h : ∀ later, known ≤ later → ∀ item ∈ items,
      Gathers protocol later (f item) (fun _ _ => True) raised) :
    Gathers protocol known (items.forM f) (fun _ _ => True) raised := by
  induction items generalizing known with
  | nil => exact Gathers.pure fun _ _ => trivial
  | cons item rest ih =>
    refine Gathers.bind (h known le_rfl item List.mem_cons_self) fun later _ hlater _ => ?_
    exact ih fun last hlast other hother =>
      h last (hlater.trans hlast) other (List.mem_cons_of_mem item hother)

theorem Gathers.mapM {f : β → Raising S ε α} (items : List β)
    (h : ∀ later, known ≤ later → ∀ item ∈ items,
      Gathers protocol later (f item) (fun _ _ => True) raised) :
    Gathers protocol known (items.mapM f) (fun _ _ => True) raised := by
  induction items generalizing known with
  | nil => exact Gathers.pure fun _ _ => trivial
  | cons item rest ih =>
    rw [List.mapM_cons]
    refine Gathers.bind (h known le_rfl item List.mem_cons_self) fun later _ hlater _ => ?_
    refine Gathers.bind (ih fun last hlast other hother =>
      h last (hlater.trans hlast) other (List.mem_cons_of_mem item hother)) fun _ _ _ _ => ?_
    exact Gathers.pure fun _ _ => trivial

end Learning

end Troubleshooter.Library.Raising
