namespace Troubleshooter.Library.Checks

variable {ε α β : Type}

-- A sequence of checks has gone through where each of its steps has.
@[simp] theorem bind_eq_ok {first : Except ε α} {next : α → Except ε β} {result : β} :
    (first >>= next) = .ok result ↔ ∃ value, first = .ok value ∧ next value = .ok result := by
  cases first with
  | error failure => exact ⟨fun h => (nomatch h), fun ⟨_, h, _⟩ => nomatch h⟩
  | ok value => exact ⟨fun h => ⟨value, rfl, h⟩, fun ⟨_, hvalue, h⟩ => Except.ok.inj hvalue ▸ h⟩

-- A check that refuses on a condition has gone through where the condition fails.
@[simp] theorem refuse_eq_ok {refused : Prop} [Decidable refused] {failure : ε}
    {next : Except ε α} {result : α} :
    (if refused then .error failure else next) = .ok result ↔ ¬refused ∧ next = .ok result := by
  split
  next h => exact ⟨fun habsurd => (nomatch habsurd), fun habsurd => absurd h habsurd.1⟩
  next h => exact ⟨fun hnext => ⟨h, hnext⟩, fun hnext => hnext.2⟩

-- Each result of a list of checks is that of one of the items.
theorem mem_of_mapM_eq_ok {f : α → Except ε β} {items : List α} {results : List β}
    (h : items.mapM f = .ok results) : ∀ result ∈ results, ∃ item ∈ items, f item = .ok result := by
  induction items generalizing results with
  | nil =>
    obtain rfl := Except.ok.inj h
    exact fun _ hresult => absurd hresult List.not_mem_nil
  | cons item rest ih =>
    rw [List.mapM_cons] at h
    obtain ⟨first, hfirst, h⟩ := bind_eq_ok.mp h
    obtain ⟨others, hothers, h⟩ := bind_eq_ok.mp h
    obtain rfl := Except.ok.inj h
    intro result hresult
    rcases List.mem_cons.mp hresult with heq | hmem
    · exact ⟨item, List.mem_cons_self, heq ▸ hfirst⟩
    · obtain ⟨other, hother, hok⟩ := ih hothers result hmem
      exact ⟨other, List.mem_cons_of_mem item hother, hok⟩

end Troubleshooter.Library.Checks
