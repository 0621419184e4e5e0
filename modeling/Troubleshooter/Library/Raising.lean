import Troubleshooter.Library.Protocol

namespace Troubleshooter.Library

-- Programs that may raise: an exception ends the program where it is raised.
abbrev Raising (S : Signature) (ε α : Type) := ExceptT ε (Prog S) α

namespace Raising

variable {S : Signature} {ε ε' α β γ σ : Type}

-- try: whatever it raises becomes the outcome.
def attempt (program : Raising S ε α) : Raising S ε' (Except ε α) :=
  ExceptT.mk (Except.ok <$> program.run)

-- finally: the closing part runs either way, and what it raises goes first.
def ensuring (program : Raising S ε α) (closing : Raising S ε Unit) : Raising S ε α :=
  ExceptT.mk do
    let outcome ← program.run
    let closed ← closing.run
    return (closed >>= fun _ => outcome)

-- One condition for what is returned and one for what is raised.
def Outcome (post : γ → α → Prop) (raised : γ → ε → Prop) (ghost : γ) : Except ε α → Prop
  | .ok value => post ghost value
  | .error failure => raised ghost failure

-- From a ghost value that meets the precondition the program follows the protocol, and
-- it ends in one condition where it returns and in another where it raises.
def Triple (protocol : Protocol S σ γ) (pre : γ → Prop) (program : Raising S ε α)
    (post : γ → α → Prop) (raised : γ → ε → Prop) : Prop :=
  ∀ ghost, pre ghost → program.run.Follows protocol ghost (Outcome post raised)

section Triples

variable {protocol : Protocol S σ γ} {pre : γ → Prop} {post : γ → α → Prop}
  {raised : γ → ε → Prop}

theorem Triple.pure {value : α} (h : ∀ ghost, pre ghost → post ghost value) :
    Triple protocol pre (Pure.pure value : Raising S ε α) post raised :=
  fun ghost hghost => (Prog.follows_pure ..).mpr (h ghost hghost)

theorem Triple.throw {failure : ε} (h : ∀ ghost, pre ghost → raised ghost failure) :
    Triple protocol pre (MonadExcept.throw failure : Raising S ε α) post raised :=
  fun ghost hghost => (Prog.follows_pure ..).mpr (h ghost hghost)

theorem Triple.bind {program : Raising S ε α} {f : α → Raising S ε β} {post' : γ → β → Prop}
    (h : Triple protocol pre program post raised)
    (hnext : ∀ value, Triple protocol (post · value) (f value) post' raised) :
    Triple protocol pre (program >>= f) post' raised := by
  intro ghost hghost
  change (program.run >>= fun outcome => ExceptT.bindCont f outcome).Follows protocol ghost _
  rw [Prog.follows_bind]
  refine Prog.follows_mono _ _ _ _ _ (fun later outcome hlater => ?_) (h ghost hghost)
  cases outcome with
  | ok value => exact hnext value later hlater
  | error failure => exact (Prog.follows_pure ..).mpr hlater

theorem Triple.mono {program : Raising S ε α} {pre' : γ → Prop} {post' : γ → α → Prop}
    {raised' : γ → ε → Prop} (h : Triple protocol pre program post raised)
    (hpre : ∀ ghost, pre' ghost → pre ghost)
    (hpost : ∀ ghost value, post ghost value → post' ghost value)
    (hraised : ∀ ghost failure, raised ghost failure → raised' ghost failure) :
    Triple protocol pre' program post' raised' := by
  intro ghost hghost
  refine Prog.follows_mono _ _ _ _ _ (fun later outcome hlater => ?_) (h ghost (hpre ghost hghost))
  cases outcome with
  | ok value => exact hpost later value hlater
  | error failure => exact hraised later failure hlater

theorem Triple.attempt {program : Raising S ε α} {raised' : γ → ε' → Prop}
    (h : Triple protocol pre program post raised) :
    Triple protocol pre (attempt program) (Outcome post raised) raised' := by
  intro ghost hghost
  change (Except.ok <$> program.run).Follows protocol ghost _
  rw [← bind_pure_comp, Prog.follows_bind]
  exact Prog.follows_mono _ _ _ _ _ (fun _ _ hlater => (Prog.follows_pure ..).mpr hlater)
    (h ghost hghost)

-- The closing part is entered with either outcome and leaves its own condition to it.
theorem Triple.ensuring {program : Raising S ε α} {closing : Raising S ε Unit}
    {post' : γ → α → Prop} {raised' : γ → ε → Prop}
    (h : Triple protocol pre program post raised)
    (hclosing : ∀ outcome, Triple protocol (Outcome post raised · outcome) closing
      (fun ghost _ => Outcome post' raised' ghost outcome) raised') :
    Triple protocol pre (ensuring program closing) post' raised' := by
  intro ghost hghost
  change Prog.Follows protocol (program.run >>= fun outcome => closing.run >>= fun closed =>
    Pure.pure (closed >>= fun _ => outcome)) ghost _
  rw [Prog.follows_bind]
  refine Prog.follows_mono _ _ _ _ _ (fun later outcome hlater => ?_) (h ghost hghost)
  rw [Prog.follows_bind]
  refine Prog.follows_mono _ _ _ _ _ (fun last closed hlast => ?_) (hclosing outcome later hlater)
  rw [Prog.follows_pure]
  cases closed with
  | ok value => exact hlast
  | error failure => exact hlast

theorem Triple.adapt {program : Raising S ε α} {raised' : γ → ε' → Prop} (f : ε → ε')
    (h : Triple protocol pre program post fun ghost failure => raised' ghost (f failure)) :
    Triple protocol pre (ExceptT.adapt f program : Raising S ε' α) post raised' := by
  intro ghost hghost
  change (Except.mapError f <$> program.run).Follows protocol ghost _
  rw [← bind_pure_comp, Prog.follows_bind]
  refine Prog.follows_mono _ _ _ _ _ (fun later outcome hlater => ?_) (h ghost hghost)
  rw [Prog.follows_pure]
  cases outcome with
  | ok value => exact hlater
  | error failure => exact hlater

theorem Triple.forM {invariant : γ → Prop} {f : β → Raising S ε PUnit} (items : List β)
    (h : ∀ item ∈ items, Triple protocol invariant (f item) (fun ghost _ => invariant ghost)
      raised) :
    Triple protocol invariant (items.forM f) (fun ghost _ => invariant ghost) raised := by
  induction items with
  | nil => exact Triple.pure fun _ hghost => hghost
  | cons item rest ih =>
    refine Triple.bind (h item List.mem_cons_self) fun _ => ih fun other hother => ?_
    exact h other (List.mem_cons_of_mem item hother)

-- A triple of one protocol is one of any other that allows as much, under a relation
-- between what the two know.
theorem Triple.transfer {γ' : Type} (protocol' : Protocol S σ γ') (related : γ → γ' → Prop)
    (hallows : ∀ ghost ghost' op, related ghost ghost' → protocol.allows ghost op →
      protocol'.allows ghost' op)
    (hanswers : ∀ ghost ghost' state op answer, related ghost ghost' → protocol.allows ghost op →
      protocol'.answers ghost' state op answer → protocol.answers ghost state op answer ∧
        related (protocol.observe ghost state op answer)
          (protocol'.observe ghost' state op answer))
    {program : Raising S ε α} (h : Triple protocol pre program post raised) :
    Triple protocol' (fun ghost' => ∃ ghost, related ghost ghost' ∧ pre ghost) program
      (fun ghost' value => ∃ ghost, related ghost ghost' ∧ post ghost value)
      (fun ghost' failure => ∃ ghost, related ghost ghost' ∧ raised ghost failure) := by
  rintro ghost' ⟨ghost, hrelated, hghost⟩
  refine Prog.follows_mono _ _ _ _ _ (fun later' outcome hlater => ?_)
    (Prog.follows_transfer protocol protocol' related hallows hanswers _ _ _ _ hrelated
      (h ghost hghost))
  obtain ⟨later, hrelated', houtcome⟩ := hlater
  cases outcome with
  | ok value => exact ⟨later, hrelated', houtcome⟩
  | error failure => exact ⟨later, hrelated', houtcome⟩

end Triples

-- What is known of the program stays as it is required to be, however it ends, and
-- what it returns meets the postcondition.
def Keeps (protocol : Protocol S σ γ) (known : γ → Prop) (program : Raising S ε α)
    (post : α → Prop) : Prop :=
  Triple protocol known program (fun ghost value => known ghost ∧ post value)
    fun ghost _ => known ghost

section Kept

variable {protocol : Protocol S σ γ} {known : γ → Prop} {post : α → Prop}

theorem Keeps.pure {value : α} (h : post value) :
    Keeps protocol known (Pure.pure value : Raising S ε α) post :=
  Triple.pure fun _ hghost => ⟨hghost, h⟩

theorem Keeps.throw {failure : ε} :
    Keeps protocol known (MonadExcept.throw failure : Raising S ε α) post :=
  Triple.throw fun _ hghost => hghost

theorem Keeps.bind {program : Raising S ε α} {f : α → Raising S ε β} {post' : β → Prop}
    (h : Keeps protocol known program post)
    (hnext : ∀ value, post value → Keeps protocol known (f value) post') :
    Keeps protocol known (program >>= f) post' :=
  Triple.bind h fun value ghost hghost => hnext value hghost.2 ghost hghost.1

theorem Keeps.attempt {program : Raising S ε α} (h : Keeps protocol known program post) :
    Keeps protocol known (attempt program : Raising S ε' _) fun outcome =>
      ∀ value, outcome = .ok value → post value := by
  refine Triple.mono (Triple.attempt h) (fun _ hghost => hghost)
    (fun ghost outcome hghost => ?_) fun ghost failure hghost => hghost
  cases outcome with
  | ok value => exact ⟨hghost.1, fun _ hvalue => Except.ok.inj hvalue ▸ hghost.2⟩
  | error failure => exact ⟨hghost, fun _ hvalue => nomatch hvalue⟩

theorem Keeps.ensuring {program : Raising S ε α} {closing : Raising S ε Unit}
    (h : Keeps protocol known program post)
    (hclosing : Keeps protocol known closing fun _ => True) :
    Keeps protocol known (ensuring program closing) post := by
  refine Triple.ensuring h fun outcome => ?_
  cases outcome with
  | ok value =>
    intro ghost hghost
    exact Triple.mono hclosing (fun _ hknown => hknown) (fun _ _ hlater => ⟨hlater.1, hghost.2⟩)
      (fun _ _ hlater => hlater) ghost hghost.1
  | error failure =>
    exact Triple.mono hclosing (fun _ hknown => hknown) (fun _ _ hlater => hlater.1)
      fun _ _ hlater => hlater

theorem Keeps.adapt {program : Raising S ε α} (f : ε → ε')
    (h : Keeps protocol known program post) :
    Keeps protocol known (ExceptT.adapt f program : Raising S ε' α) post :=
  Triple.adapt f h

-- A part that keeps what is known, before one that goes on from it.
theorem Keeps.before {program : Raising S ε α} {f : α → Raising S ε β} {post' : γ → β → Prop}
    {raised : γ → ε → Prop} (h : Keeps protocol known program post)
    (hraised : ∀ ghost failure, known ghost → raised ghost failure)
    (hnext : ∀ value, post value → Triple protocol known (f value) post' raised) :
    Triple protocol known (program >>= f) post' raised :=
  Triple.bind (Triple.mono h (fun _ hghost => hghost) (fun _ _ hghost => hghost) hraised)
    fun value ghost hghost => hnext value hghost.2 ghost hghost.1

end Kept

end Raising

end Troubleshooter.Library
