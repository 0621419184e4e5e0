import Troubleshooter.Capability.Memory

namespace Troubleshooter.Capability

-- What a published capability does when it is called: where, under which scope,
-- with which parameters and limits.
structure Behaviour where
  readonlyBaseURL : String
  readonlyPath : String
  httpMethod : String
  requiredScope : String
  inputSchemaJSON : String
  paramMapJSON : String
  fixedParamsJSON : String
  requiredParamsJSON : String
  optionalParamsJSON : String
  maxTimeRangeMinutes : Int
  maxLimit : Int
  timeoutMS : Int

def ToolCapability.behaviour (item : ToolCapability) : Behaviour where
  readonlyBaseURL := item.readonlyBaseURL
  readonlyPath := item.readonlyPath
  httpMethod := item.httpMethod
  requiredScope := item.requiredScope
  inputSchemaJSON := item.inputSchemaJSON
  paramMapJSON := item.paramMapJSON
  fixedParamsJSON := item.fixedParamsJSON
  requiredParamsJSON := item.requiredParamsJSON
  optionalParamsJSON := item.optionalParamsJSON
  maxTimeRangeMinutes := item.maxTimeRangeMinutes
  maxLimit := item.maxLimit
  timeoutMS := item.timeoutMS

namespace ToolCapability

variable (item : ToolCapability) (status publishedBy : String)

@[simp] theorem withStatus_behaviour :
    (item.withStatus status publishedBy).behaviour = item.behaviour := by
  unfold withStatus
  split <;> rfl

@[simp] theorem withStatus_id : (item.withStatus status publishedBy).id = item.id := by
  unfold withStatus
  split <;> rfl

@[simp] theorem withStatus_toolName :
    (item.withStatus status publishedBy).toolName = item.toolName := by
  unfold withStatus
  split <;> rfl

@[simp] theorem withStatus_toolStatus :
    (item.withStatus status publishedBy).toolStatus = status := by
  unfold withStatus
  split <;> rfl

end ToolCapability

namespace MemoryStore

-- The two maps in step: a name leads to the row that carries it, and a row is
-- found under its own name and its own id.
structure Consistent (s : MemoryStore) : Prop where
  fresh : ∀ id item, s.tools.get? id = some item → id ≤ s.nextToolID
  named : ∀ name id, s.toolsByName.get? name = some id →
    ∃ item, s.tools.get? id = some item ∧ item.toolName = name
  indexed : ∀ id item, s.tools.get? id = some item →
    item.id = id ∧ s.toolsByName.get? item.toolName = some id

theorem newMemoryStore_consistent : newMemoryStore.Consistent where
  fresh := by simp [newMemoryStore]
  named := by simp [newMemoryStore]
  indexed := by simp [newMemoryStore]

theorem Consistent.one_to_one {s : MemoryStore} (h : s.Consistent) (name name' : String)
    (id : Int) (hname : s.toolsByName.get? name = some id)
    (hname' : s.toolsByName.get? name' = some id) : name = name' := by
  obtain ⟨item, hitem, rfl⟩ := h.named name id hname
  obtain ⟨item', hitem', rfl⟩ := h.named name' id hname'
  rw [hitem, Option.some.injEq] at hitem'
  rw [hitem']

-- Everything an upsert does to the two maps: the row goes to the id its name
-- already has, or to one that no row has.
structure Stored (item : ToolCapability) (id : Int) (s s' : MemoryStore) : Prop where
  tools : ∀ other, s'.tools.get? other =
    if other = id then some { item with id } else s.tools.get? other
  names : ∀ name, s'.toolsByName.get? name =
    if name = item.toolName then some id else s.toolsByName.get? name
  place : s.toolsByName.get? item.toolName = some id ∨
    s.toolsByName.get? item.toolName = none ∧ s.tools.get? id = none
  within : id ≤ s'.nextToolID
  grows : s.nextToolID ≤ s'.nextToolID

theorem upsertToolCapability_stored (item : ToolCapability) (s : MemoryStore)
    (h : s.Consistent) :
    ∃ id, (upsertToolCapability item s).1 = .ok { item with id } ∧
      Stored item id s (upsertToolCapability item s).2 := by
  unfold upsertToolCapability
  split
  next id hid =>
    refine ⟨id, rfl, fun other => Go.Map.get?_set _ _ _ _, fun name => ?_, Or.inl hid, ?_,
      le_refl _⟩
    · dsimp only
      split
      next heq => rw [heq, hid]
      next => rfl
    · obtain ⟨row, hrow, _⟩ := h.named _ _ hid
      exact h.fresh _ _ hrow
  next hnone =>
    refine ⟨s.nextToolID + 1, rfl, fun other => Go.Map.get?_set _ _ _ _,
      fun name => Go.Map.get?_set _ _ _ _, Or.inr ⟨hnone, ?_⟩, le_refl _,
      Int.le_add_one (le_refl _)⟩
    cases hrow : s.tools.get? (s.nextToolID + 1) with
    | none => rfl
    | some row =>
      have := h.fresh _ _ hrow
      omega

theorem Stored.consistent {item : ToolCapability} {id : Int} {s s' : MemoryStore}
    (hstored : Stored item id s s') (h : s.Consistent) : s'.Consistent where
  fresh other row hrow := by
    rw [hstored.tools] at hrow
    split at hrow
    next heq => rw [heq]; exact hstored.within
    next => exact le_trans (h.fresh _ _ hrow) hstored.grows
  named name other hname := by
    rw [hstored.names] at hname
    rw [hstored.tools]
    split at hname
    next heq =>
      obtain rfl := Option.some.inj hname
      exact ⟨_, if_pos rfl, heq.symm⟩
    next hne =>
      obtain ⟨row, hrow, hrowname⟩ := h.named name other hname
      have hother : other ≠ id := by
        rintro rfl
        rcases hstored.place with hplace | ⟨_, hfree⟩
        · exact hne (h.one_to_one name item.toolName other hname hplace)
        · rw [hrow] at hfree
          exact Option.some_ne_none _ hfree
      exact ⟨row, (if_neg hother).trans hrow, hrowname⟩
  indexed other row hrow := by
    rw [hstored.tools] at hrow
    rw [hstored.names]
    split at hrow
    next heq =>
      obtain rfl := Option.some.inj hrow
      exact ⟨heq.symm, by rw [if_pos rfl, heq]⟩
    next hne =>
      obtain ⟨hid, hname⟩ := h.indexed other row hrow
      refine ⟨hid, ?_⟩
      split
      next heq =>
        rw [heq] at hname
        rcases hstored.place with hplace | ⟨hplace, _⟩
        · rw [hplace] at hname
          exact absurd (Option.some.inj hname).symm hne
        · rw [hplace] at hname
          exact absurd hname.symm (Option.some_ne_none _)
      next => exact hname

-- A name that already has an id keeps it.
theorem Stored.keeps_id {item : ToolCapability} {id : Int} {s s' : MemoryStore}
    (hstored : Stored item id s s') (name : String) (other : Int)
    (hname : s.toolsByName.get? name = some other) :
    s'.toolsByName.get? name = some other := by
  rw [hstored.names]
  split
  next heq =>
    rcases hstored.place with hplace | ⟨hplace, _⟩
    · rw [heq, hplace] at hname
      exact hname
    · rw [heq, hplace] at hname
      exact absurd hname.symm (Option.some_ne_none _)
  next => exact hname

-- Everything a status update does: it finds the row and writes its status, or
-- nothing changes.
theorem updateToolCapabilityStatus_cases (id : Int) (status publishedBy : String)
    (s : MemoryStore) :
    (s.tools.get? id = none ∧ (updateToolCapabilityStatus id status publishedBy s).2 = s) ∨
      ∃ old, s.tools.get? id = some old ∧
        (updateToolCapabilityStatus id status publishedBy s).2 =
          { s with tools := s.tools.set id (old.withStatus status publishedBy) } := by
  unfold updateToolCapabilityStatus
  split
  next hnone => exact Or.inl ⟨hnone, rfl⟩
  next old hold => exact Or.inr ⟨old, hold, rfl⟩

theorem updateToolCapabilityStatus_consistent (id : Int) (status publishedBy : String)
    (s : MemoryStore) (h : s.Consistent) :
    (updateToolCapabilityStatus id status publishedBy s).2.Consistent := by
  rcases updateToolCapabilityStatus_cases id status publishedBy s with ⟨_, hsame⟩ | ⟨old, hold, hnew⟩
  · rw [hsame]
    exact h
  rw [hnew]
  obtain ⟨hid, hname⟩ := h.indexed id old hold
  constructor
  · intro other row hrow
    rw [Go.Map.get?_set] at hrow
    split at hrow
    next heq => rw [heq]; exact h.fresh id old hold
    next => exact h.fresh other row hrow
  · intro name other hnamed
    obtain ⟨row, hrow, hrowname⟩ := h.named name other hnamed
    dsimp only
    rw [Go.Map.get?_set]
    split
    next heq =>
      rw [heq, hold] at hrow
      obtain rfl := Option.some.inj hrow
      exact ⟨_, rfl, by simpa using hrowname⟩
    next => exact ⟨row, hrow, hrowname⟩
  · intro other row hrow
    rw [Go.Map.get?_set] at hrow
    split at hrow
    next heq =>
      obtain rfl := Option.some.inj hrow
      exact ⟨by simp [hid, heq], by simpa [heq] using hname⟩
    next => exact h.indexed other row hrow

end MemoryStore

end Troubleshooter.Capability
