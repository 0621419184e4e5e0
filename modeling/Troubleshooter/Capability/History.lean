import Troubleshooter.Capability.Consistency
import Troubleshooter.Capability.Review

namespace Troubleshooter.Capability

open Troubleshooter.Library

namespace MemoryStore

def names (rows : List ToolCapability) : List String := rows.map ToolCapability.toolName

-- The store in the middle of an import that began at start and has stored the
-- touched rows so far: what it touched is assessed, what it did not is untouched.
structure ImportedFrom (go : Go.Runtime) (start : MemoryStore) (touched : List ToolCapability)
    (s : MemoryStore) : Prop where
  consistent : s.Consistent
  keeps_id : ∀ name id, start.toolsByName.get? name = some id →
    s.toolsByName.get? name = some id
  assessed : ∀ id item, s.tools.get? id = some item → item.toolName ∈ names touched →
    Assessed go item
  untouched : ∀ id item, s.tools.get? id = some item → item.toolName ∉ names touched →
    start.tools.get? id = some item

theorem importedFrom_start (go : Go.Runtime) (start : MemoryStore) (h : start.Consistent) :
    ImportedFrom go start [] start :=
  ⟨h, fun _ _ hname => hname, by simp [names], fun _ _ hrow _ => hrow⟩

theorem ImportedFrom.store {go : Go.Runtime} {start s s' : MemoryStore}
    {touched : List ToolCapability} (h : ImportedFrom go start touched s)
    {item : ToolCapability} {id : Int} (hitem : Assessed go item)
    (hstored : Stored item id s s') :
    ImportedFrom go start (touched ++ [{ item with id }]) s' where
  consistent := hstored.consistent h.consistent
  keeps_id name other hname := hstored.keeps_id name other (h.keeps_id name other hname)
  assessed other row hrow hmem := by
    rw [hstored.tools] at hrow
    split at hrow
    next =>
      obtain rfl := Option.some.inj hrow
      exact ⟨hitem.assessment, hitem.status⟩
    next hother =>
      simp only [names, List.map_append, List.mem_append, List.map_singleton,
        List.mem_singleton] at hmem
      rcases hmem with hmem | hname
      · exact h.assessed other row hrow hmem
      · -- a second row of the same name would share its id
        exfalso
        have hindexed := (h.consistent.indexed other row hrow).2
        have hkept := hstored.keeps_id row.toolName other hindexed
        rw [hstored.names, if_pos hname] at hkept
        exact hother (Option.some.inj hkept).symm
  untouched other row hrow hmem := by
    simp only [names, List.map_append, List.mem_append, List.map_singleton, List.mem_singleton,
      not_or] at hmem
    rw [hstored.tools] at hrow
    split at hrow
    next =>
      obtain rfl := Option.some.inj hrow
      exact absurd rfl hmem.2
    next => exact h.untouched other row hrow hmem.1

-- The calls that leave both maps alone leave the relation alone.
theorem ImportedFrom.same {go : Go.Runtime} {start s s' : MemoryStore}
    {touched : List ToolCapability} (h : ImportedFrom go start touched s)
    (htools : s'.tools = s.tools) (hnames : s'.toolsByName = s.toolsByName)
    (hnext : s'.nextToolID = s.nextToolID) : ImportedFrom go start touched s' := by
  refine ⟨⟨?_, ?_, ?_⟩, ?_, ?_, ?_⟩ <;> simp only [htools, hnames, hnext]
  · exact h.consistent.fresh
  · exact h.consistent.named
  · exact h.consistent.indexed
  · exact h.keeps_id
  · exact h.assessed
  · exact h.untouched

theorem handle_realises (go : Go.Runtime) (start : MemoryStore) :
    Prog.Realises (importProtocol go) handle (ImportedFrom go start) where
  answered _ _ _ _ _ := trivial
  kept touched op s h hallowed := by
    cases op with
    | upsertBusinessService service =>
      have hsame : ImportedFrom go start touched (upsertBusinessService service s).2 := by
        unfold upsertBusinessService
        split
        · exact h.same rfl rfl rfl
        · exact h.same rfl rfl rfl
      exact hsame
    | createMCPServer server => exact h.same rfl rfl rfl
    | createValidationRun run => exact h.same rfl rfl rfl
    | upsertToolCapability item =>
      obtain ⟨id, hanswer, hstored⟩ := upsertToolCapability_stored item s h.consistent
      have hnext := h.store hallowed hstored
      simp only [handle, hanswer, importProtocol]
      exact hnext
    | getToolCapability id => exact hallowed.elim
    | listToolCapabilities filter => exact hallowed.elim
    | updateToolCapabilityStatus id status publishedBy => exact hallowed.elim

def importRun (host : ImportHost) (req : ImportRequest) (s : MemoryStore) :
    ImportOutcome × MemoryStore := (importConfig host req).run handle s

theorem importRun_importedFrom (host : ImportHost) (req : ImportRequest) (s : MemoryStore)
    (h : s.Consistent) :
    ImportedFrom host.go s (importRun host req s).1.1.capabilities (importRun host req s).2 := by
  have hrun := Prog.follows_run (handle_realises host.go s) (importConfig host req) [] s Reported
    (importConfig_follows host req) (importedFrom_start host.go s h)
  unfold importRun
  generalize (importConfig host req).run handle s = last at hrun ⊢
  obtain ⟨touched, hrelated, rfl⟩ := hrun
  exact hrelated

-- What an import does to the store is known by the lemma above.
attribute [irreducible] importRun

end MemoryStore

open MemoryStore

-- One call on the store by its users: an import or a review decision.
inductive ReviewCall where
  | importConfig (req : ImportRequest)
  | updateStatus (id : Int) (status publishedBy : String)

def ReviewCall.apply (host : ImportHost) (s : MemoryStore) : ReviewCall → MemoryStore
  | .importConfig req => (importRun host req s).2
  | .updateStatus id status publishedBy => (updateToolCapabilityStatus id status publishedBy s).2

def review (host : ImportHost) (calls : List ReviewCall) : MemoryStore :=
  calls.foldl (ReviewCall.apply host) newMemoryStore

theorem review_append (host : ImportHost) (calls : List ReviewCall) (call : ReviewCall) :
    review host (calls ++ [call]) = call.apply host (review host calls) := by
  simp [review]

theorem apply_consistent (host : ImportHost) (call : ReviewCall) (s : MemoryStore)
    (h : s.Consistent) : (call.apply host s).Consistent := by
  cases call with
  | importConfig req => exact (importRun_importedFrom host req s h).consistent
  | updateStatus id status publishedBy =>
    exact updateToolCapabilityStatus_consistent id status publishedBy s h

theorem review_consistent (host : ImportHost) (calls : List ReviewCall) :
    (review host calls).Consistent := by
  induction calls using List.reverseRecOn with
  | nil => exact newMemoryStore_consistent
  | append_singleton calls call ih =>
    rw [review_append]
    exact apply_consistent host call _ ih

theorem apply_keeps_id (host : ImportHost) (call : ReviewCall) (s : MemoryStore)
    (h : s.Consistent) (name : String) (id : Int) (hname : s.toolsByName.get? name = some id) :
    (call.apply host s).toolsByName.get? name = some id := by
  cases call with
  | importConfig req => exact (importRun_importedFrom host req s h).keeps_id name id hname
  | updateStatus other status publishedBy =>
    rcases updateToolCapabilityStatus_cases other status publishedBy s with
      ⟨_, hsame⟩ | ⟨old, _, hnew⟩
    · simpa only [ReviewCall.apply, hsame] using hname
    · simpa only [ReviewCall.apply, hnew] using hname

theorem review_keeps_id (host : ImportHost) (calls more : List ReviewCall) (name : String)
    (id : Int) (hname : (review host calls).toolsByName.get? name = some id) :
    (review host (calls ++ more)).toolsByName.get? name = some id := by
  induction more using List.reverseRecOn with
  | nil => simpa using hname
  | append_singleton more call ih =>
    rw [← List.append_assoc, review_append]
    exact apply_keeps_id host call _ (review_consistent host _) name id ih

def enabling (id : Int) : ReviewCall → Prop
  | .updateStatus other status _ => other = id ∧ status = statusEnabled
  | .importConfig _ => False

-- The row behaves as the row the last call that enabled it found.
def AsEnabled (host : ImportHost) (calls : List ReviewCall) (id : Int) (item : ToolCapability) :
    Prop :=
  ∃ before publishedBy after old,
    calls = before ++ .updateStatus id statusEnabled publishedBy :: after ∧
      (∀ call ∈ after, ¬enabling id call) ∧
      (review host before).tools.get? id = some old ∧ item.behaviour = old.behaviour

theorem AsEnabled.later {host : ImportHost} {calls : List ReviewCall} {id : Int}
    {item : ToolCapability} (h : AsEnabled host calls id item) (call : ReviewCall)
    (hcall : ¬enabling id call) : AsEnabled host (calls ++ [call]) id item := by
  obtain ⟨before, publishedBy, after, old, rfl, hafter, hold, hbehaviour⟩ := h
  refine ⟨before, publishedBy, after ++ [call], old, by simp, fun other hother => ?_, hold,
    hbehaviour⟩
  rcases List.mem_append.mp hother with hmem | hmem
  · exact hafter other hmem
  · exact List.mem_singleton.mp hmem ▸ hcall

theorem review_asEnabled (host : ImportHost) (calls : List ReviewCall) (id : Int)
    (item : ToolCapability) (hrow : (review host calls).tools.get? id = some item)
    (henabled : item.toolStatus = statusEnabled) : AsEnabled host calls id item := by
  induction calls using List.reverseRecOn with
  | nil => simp [review, newMemoryStore] at hrow
  | append_singleton calls call ih =>
    rw [review_append] at hrow
    cases call with
    | importConfig req =>
      have himport := importRun_importedFrom host req _ (review_consistent host calls)
      have huntouched : item.toolName ∉ names (importRun host req _).1.1.capabilities :=
        fun hmem => (himport.assessed id item hrow hmem).not_enabled henabled
      exact (ih (himport.untouched id item hrow huntouched)).later _ (fun h => h)
    | updateStatus other status publishedBy =>
      rcases updateToolCapabilityStatus_cases other status publishedBy (review host calls) with
        ⟨hnone, hsame⟩ | ⟨old, hold, hnew⟩
      · rw [ReviewCall.apply, hsame] at hrow
        refine (ih hrow).later _ fun henabling => ?_
        rw [henabling.1, hrow] at hnone
        exact Option.some_ne_none _ hnone
      · rw [ReviewCall.apply, hnew] at hrow
        dsimp only at hrow
        rw [Go.Map.get?_set] at hrow
        split at hrow
        next heq =>
          obtain rfl := Option.some.inj hrow
          rw [ToolCapability.withStatus_toolStatus] at henabled
          subst heq henabled
          exact ⟨calls, publishedBy, [], old, rfl, by simp, hold,
            old.withStatus_behaviour _ _⟩
        next hne => exact (ih hrow).later _ fun henabling => hne henabling.1.symm

-- Review before publish, after any calls on the store. An import reports the
-- rows it stored; every other row is as it was.
structure ReviewGuarantee (host : ImportHost) (calls : List ReviewCall) : Prop where
  imported : ∀ req id item, (importRun host req (review host calls)).2.tools.get? id = some item →
    item.toolName ∈ names (importRun host req (review host calls)).1.1.capabilities →
      (item.toolStatus = statusDraft ∨ item.toolStatus = statusRejected) ∧
      (item.toolStatus = statusRejected ↔ item.safetyStatus = safetyRejected) ∧
      Assessed host.go item
  untouched : ∀ req id item, (importRun host req (review host calls)).2.tools.get? id = some item →
    item.toolName ∉ names (importRun host req (review host calls)).1.1.capabilities →
      (review host calls).tools.get? id = some item
  enabled : ∀ id item, (review host calls).tools.get? id = some item →
    item.toolStatus = statusEnabled → AsEnabled host calls id item
  named : ∀ name id, (review host calls).toolsByName.get? name = some id ↔
    ∃ item, (review host calls).tools.get? id = some item ∧ item.toolName = name
  one_to_one : ∀ name name' id, (review host calls).toolsByName.get? name = some id →
    (review host calls).toolsByName.get? name' = some id → name = name'
  keeps_id : ∀ more name id, (review host calls).toolsByName.get? name = some id →
    (review host (calls ++ more)).toolsByName.get? name = some id

theorem review_guarantee (host : ImportHost) (calls : List ReviewCall) :
    ReviewGuarantee host calls where
  imported req id item hrow hmem := by
    have hassessed :=
      (importRun_importedFrom host req _ (review_consistent host calls)).assessed id item hrow hmem
    rw [hassessed.status]
    exact ⟨importStatus_cases _, importStatus_rejected_iff _, hassessed⟩
  untouched req id item :=
    (importRun_importedFrom host req _ (review_consistent host calls)).untouched id item
  enabled := review_asEnabled host calls
  named name id := by
    have hconsistent := review_consistent host calls
    constructor
    · exact hconsistent.named name id
    · rintro ⟨item, hrow, rfl⟩
      exact (hconsistent.indexed id item hrow).2
  one_to_one := (review_consistent host calls).one_to_one
  keeps_id := review_keeps_id host calls

end Troubleshooter.Capability
