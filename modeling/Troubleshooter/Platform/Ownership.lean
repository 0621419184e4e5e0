import Troubleshooter.Platform.Integrity

namespace Troubleshooter.Platform

open Troubleshooter.Library

namespace CaseStore

variable (s : CaseStore)

-- The rows of a run, and of an investigation.
def ofRun (runID : Int) : List AgentRun × List AgentRunEvent :=
  (s.agentRuns.filter (·.id == runID), s.agentRunEvents.filter (·.runID == runID))

def ofInvestigation (investigationID : Int) : List Investigation :=
  s.investigations.filter (·.id == investigationID)

end CaseStore

-- The runs and the investigations that a thread knows as its own have been left alone.
structure LeftAlone (known : Known) (before after : CaseStore) : Prop where
  runs : ∀ id caseID, (id, caseID) ∈ known.runs → after.ofRun id = before.ofRun id
  investigations : ∀ id caseID, (id, caseID) ∈ known.investigations →
    after.ofInvestigation id = before.ofInvestigation id

theorem LeftAlone.refl (known : Known) (s : CaseStore) : LeftAlone known s s :=
  ⟨fun _ _ _ => rfl, fun _ _ _ => rfl⟩

theorem LeftAlone.trans {known : Known} {s s' s'' : CaseStore} (h : LeftAlone known s s')
    (h' : LeftAlone known s' s'') : LeftAlone known s s'' :=
  ⟨fun id caseID hrun => (h'.runs id caseID hrun).trans (h.runs id caseID hrun),
    fun id caseID hid => (h'.investigations id caseID hid).trans (h.investigations id caseID hid)⟩

-- No two threads have created a row of the same id.
def Separate (rows : Known → List (Int × Int)) (ghosts : List Known) : Prop :=
  ∀ (i j : Nat) (known other : Known), i ≠ j → ghosts[i]? = some known → ghosts[j]? = some other →
    ∀ id caseID caseID', (id, caseID) ∈ rows known → (id, caseID') ∉ rows other

structure Owned (s : CaseStore) (ghosts : List Known) : Prop where
  told : ∀ known ∈ ghosts, known ≤ s.known
  runs : Separate Known.runs ghosts
  investigations : Separate Known.investigations ghosts

section Steps

variable {rows : Known → List (Int × Int)} {ghosts : List Known} {known later : Known} {i : Nat}
  {s : CaseStore} {op : CaseCall} {id caseID : Int} (world : World)

-- What a thread adds to its own is new to all.
theorem Separate.set (h : Separate rows ghosts) (hi : ghosts[i]? = some known)
    (hnew : ∀ id caseID, (id, caseID) ∈ rows later → (id, caseID) ∈ rows known ∨
      ∀ other ∈ ghosts, ∀ caseID', (id, caseID') ∉ rows other) :
    Separate rows (ghosts.set i later) := by
  intro j k former other hne hj hk id caseID caseID' hmem hother
  rcases getElem?_set_cases hj with ⟨hij, hlater⟩ | ⟨_, hformer⟩
  · rcases getElem?_set_cases hk with ⟨hik, _⟩ | ⟨_, hkept⟩
    · exact hne (hij.symm.trans hik)
    subst hij hlater
    rcases hnew id caseID hmem with hold | hnone
    · exact h i k known other hne hi hkept id caseID caseID' hold hother
    · exact hnone other (List.mem_of_getElem? hkept) caseID' hother
  · rcases getElem?_set_cases hk with ⟨hik, hlater⟩ | ⟨_, hkept⟩
    · subst hik hlater
      rcases hnew id caseID' hother with hold | hnone
      · exact h j i former known hne hformer hi id caseID caseID' hmem hold
      · exact hnone former (List.mem_of_getElem? hformer) caseID hmem
    · exact h j k former other hne hformer hkept id caseID caseID' hmem hother

-- A thread's own grow by what it creates, under the next id of the table.
theorem own_new (known : Known) (s : CaseStore) (op : CaseCall) :
    let later := referring.observe known s op (world.handle op s).1
    (later.runs = known.runs ∨ ∃ caseID, later.runs = (s.freshRunID, caseID) :: known.runs) ∧
      (later.investigations = known.investigations ∨ ∃ caseID,
        later.investigations = (s.freshInvestigationID, caseID) :: known.investigations) := by
  cases hanswer : (world.handle op s).1 with
  | error failure => cases op <;> exact ⟨Or.inl rfl, Or.inl rfl⟩
  | ok value =>
    obtain ⟨hok, _⟩ := world.handle_ok op s hanswer
    cases op with
    | createAgentRun item =>
      obtain rfl := Except.ok.inj hok
      exact ⟨Or.inr ⟨item.caseID, rfl⟩, Or.inl rfl⟩
    | createInvestigation caseID hypothesis =>
      obtain rfl := Except.ok.inj hok
      exact ⟨Or.inl rfl, Or.inr ⟨caseID, rfl⟩⟩
    | getCaseByID caseID => cases value <;> exact ⟨Or.inl rfl, Or.inl rfl⟩
    | getCaseByNo caseNo => cases value <;> exact ⟨Or.inl rfl, Or.inl rfl⟩
    | findCaseByMessageID source messageID => cases value <;> exact ⟨Or.inl rfl, Or.inl rfl⟩
    | _ => exact ⟨Or.inl rfl, Or.inl rfl⟩

theorem run_fresh : (s.freshRunID, caseID) ∉ s.known.runs := by
  intro habsurd
  obtain ⟨row, hrow, hpair⟩ := List.mem_map.mp habsurd
  exact (lt_freshID _ _ (List.mem_map_of_mem hrow)).ne (Prod.mk.inj hpair).1

theorem investigation_fresh : (s.freshInvestigationID, caseID) ∉ s.known.investigations := by
  intro habsurd
  obtain ⟨row, hrow, hpair⟩ := List.mem_map.mp habsurd
  exact (lt_freshID _ _ (List.mem_map_of_mem hrow)).ne (Prod.mk.inj hpair).1

theorem fresh_new {fresh : Int} {before after : List (Int × Int)}
    (h : after = before ∨ ∃ caseID, after = (fresh, caseID) :: before)
    (hfresh : ∀ other ∈ ghosts, ∀ caseID', (fresh, caseID') ∉ rows other) (id caseID : Int)
    (hmem : (id, caseID) ∈ after) :
    (id, caseID) ∈ before ∨ ∀ other ∈ ghosts, ∀ caseID', (id, caseID') ∉ rows other := by
  rcases h with rfl | ⟨created, rfl⟩
  · exact Or.inl hmem
  · rcases List.mem_cons.mp hmem with hnew | hold
    · obtain ⟨rfl, rfl⟩ := Prod.mk.inj hnew
      exact Or.inr hfresh
    · exact Or.inl hold

theorem Owned.step (h : Owned s ghosts) (hi : ghosts[i]? = some known) :
    Owned (world.handle op s).2
      (ghosts.set i (referring.observe known s op (world.handle op s).1)) := by
  obtain ⟨hruns, hinvestigations⟩ := own_new world known s op
  refine ⟨fun other hother => ?_, h.runs.set hi ?_, h.investigations.set hi ?_⟩
  · rcases mem_set_cases hother with rfl | ⟨j, _, hj⟩
    · exact told_handle world (h.told known (List.mem_of_getElem? hi))
    · exact (h.told other (List.mem_of_getElem? hj)).trans (known_handle world op)
  · refine fresh_new hruns fun other hother caseID habsurd => ?_
    exact run_fresh (runs_grown (h.told other hother) habsurd)
  · refine fresh_new hinvestigations fun other hother caseID habsurd => ?_
    exact investigation_fresh (investigations_grown (h.told other hother) habsurd)

-- Rows of other ids come and are rewritten beside those of this one.
theorem filter_new {α : Type} {items : List α} {item : α} {found : α → Bool}
    (h : found item = false) : (items ++ [item]).filter found = items.filter found := by
  rw [List.filter_append, List.filter_singleton, h]
  simp

theorem filter_rewritten {α : Type} {items : List α} {found : α → Bool} {rewrite : α → α}
    (h : ∀ item, found (rewrite item) = found item)
    (hsame : ∀ item, found item = true → rewrite item = item) :
    (items.map rewrite).filter found = items.filter found := by
  induction items with
  | nil => rfl
  | cons item rest ih =>
    rw [List.map_cons, List.filter_cons, List.filter_cons, h, ih]
    cases hfound : found item with
    | true => rw [hsame item hfound]
    | false => rfl

-- A call that writes to no run of this id leaves its rows.
theorem ofRun_handle (hid : (id, caseID) ∈ s.known.runs)
    (hupdate : ∀ fields, op ≠ .updateAgentRun id fields)
    (hevent : ∀ item, op = .addAgentRunEvent item → item.runID ≠ id) :
    (world.handle op s).2.ofRun id = s.ofRun id := by
  have hwrite : (world.write op s).ofRun id = s.ofRun id := by
    refine Prod.ext ?_ ?_
    · dsimp only [CaseStore.ofRun]
      rcases world.write_agentRuns op s with ⟨item, rfl⟩ | ⟨runID, fields, rfl⟩ | hsame
      · refine filter_new (beq_eq_false_iff_ne.mpr ?_)
        rintro rfl
        exact run_fresh hid
      · dsimp only [World.write]
        split
        · rfl
        · refine filter_rewritten (fun row => ?_) fun row hrow => if_neg fun habsurd => ?_
          · split <;> rfl
          · exact hupdate fields (by rw [← habsurd, beq_iff_eq.mp hrow])
      · rw [hsame]
    · dsimp only [CaseStore.ofRun]
      cases op with
      | addAgentRunEvent item =>
        exact filter_new (beq_eq_false_iff_ne.mpr (hevent item rfl))
      | _ => rfl
  rcases world.handle_state op s with hstate | hstate
  · rw [hstate]
    rfl
  · rw [hstate]
    exact hwrite

theorem ofInvestigation_handle (hid : (id, caseID) ∈ s.known.investigations)
    (hfinish : ∀ status summary confidence,
      op ≠ .finishInvestigation id status summary confidence) :
    (world.handle op s).2.ofInvestigation id = s.ofInvestigation id := by
  have hwrite : (world.write op s).ofInvestigation id = s.ofInvestigation id := by
    dsimp only [CaseStore.ofInvestigation]
    rcases world.write_investigations op s with ⟨caseID, hypothesis, rfl⟩ |
      ⟨investigationID, status, summary, confidence, rfl⟩ | hsame
    · refine filter_new (beq_eq_false_iff_ne.mpr ?_)
      rintro rfl
      exact investigation_fresh hid
    · refine filter_rewritten (fun row => ?_) fun row hrow => if_neg fun habsurd => ?_
      · split <;> rfl
      · exact hfinish status summary confidence (by rw [← habsurd, beq_iff_eq.mp hrow])
    · rw [hsame]
  rcases world.handle_state op s with hstate | hstate
  · rw [hstate]
    rfl
  · rw [hstate]
    exact hwrite

end Steps

-- What the first run knows once it investigates.
def Sample.working : Known := ⟨[1, 1, 1, 1, 1, 1], [(1, 1)], [(1, 1)]⟩

section Services

variable (p : AgentPlatform) (world : World) (services : List Service) (s : CaseStore)

theorem served_owned (schedule : List Nat) :
    (served p world services s schedule).Conforms referring (fun _ _ => True) ∧
      Owned (served p world services s schedule).state
        (served p world services s schedule).ghosts := by
  have hnone : ∀ {i : Nat} {known : Known}, (serving p services s).ghosts[i]? = some known →
      known = {} := fun hi => serving_ghosts p services s (List.mem_of_getElem? hi)
  have hstart : Owned (serving p services s).state (serving p services s).ghosts := by
    refine ⟨fun known hknown => serving_ghosts p services s hknown ▸ nothing_le _, ?_, ?_⟩
    · intro i j known other _ hi _ id caseID caseID' hmem _
      obtain rfl := hnone hi
      exact absurd hmem List.not_mem_nil
    · intro i j known other _ hi _ id caseID caseID' hmem _
      obtain rfl := hnone hi
      exact absurd hmem List.not_mem_nil
  exact Pool.conforming_runs world.machine referring (fun _ _ => True) Owned
    (fun _ _ _ _ _ => True) (fun state ghosts i known op howned hi _ _ _ =>
      ⟨referring_answers world known op, howned.step world hi⟩)
    (serving p services s) (serving_conforms p services s) hstart schedule
    fun _ _ _ _ _ _ _ => trivial

-- A step of one thread leaves what another has created, and what the other knows.
theorem step_owned {pool : Pool CaseCalls CaseStore Known Unit} {i j : Nat} {known : Known}
    (hconforms : pool.Conforms referring fun _ _ => True) (howned : Owned pool.state pool.ghosts)
    (hknown : pool.ghosts[j]? = some known) (hne : i ≠ j) :
    (pool.step world.machine referring i).ghosts[j]? = some known ∧
      LeftAlone known pool.state (pool.step world.machine referring i).state := by
  rcases Pool.step_cases world.machine referring pool i with
    hsame | ⟨ghost, op, next, hthread, _, hnext⟩
  · rw [hsame]
    exact ⟨hknown, LeftAlone.refl known _⟩
  obtain ⟨hallowed, _⟩ := hconforms.step referring hthread
  have hghost : pool.ghosts[i]? = some ghost := by simp [Pool.ghosts, hthread]
  have htold := howned.told known (List.mem_of_getElem? hknown)
  rw [hnext]
  refine ⟨?_, fun id caseID hrun => ?_, fun id caseID hinvestigation => ?_⟩
  · simpa only [Pool.ghosts, List.map_set, List.getElem?_set_ne hne] using hknown
  · have hother : ∀ caseID', (id, caseID') ∉ ghost.runs := fun caseID' =>
      howned.runs j i known ghost hne.symm hknown hghost id caseID caseID' hrun
    refine ofRun_handle world (runs_grown htold hrun) ?_ ?_
    · rintro fields rfl
      obtain ⟨caseID', hown, _⟩ := hallowed
      exact hother caseID' hown
    · rintro item rfl rfl
      obtain ⟨caseID', hown⟩ := hallowed
      exact hother caseID' hown
  · refine ofInvestigation_handle world (investigations_grown htold hinvestigation) ?_
    rintro status summary confidence rfl
    obtain ⟨caseID', hown⟩ := hallowed
    exact howned.investigations j i known ghost hne.symm hknown hghost id caseID caseID'
      hinvestigation hown

theorem rested (schedule later : List Nat) (j : Nat) (known : Known)
    (hknown : (served p world services s schedule).ghosts[j]? = some known) (hrests : j ∉ later) :
    (served p world services s (schedule ++ later)).ghosts[j]? = some known ∧
      LeftAlone known (served p world services s schedule).state
        (served p world services s (schedule ++ later)).state := by
  induction later using List.reverseRecOn with
  | nil =>
    rw [List.append_nil]
    exact ⟨hknown, LeftAlone.refl known _⟩
  | append_singleton later i ih =>
    obtain ⟨hbefore, hkept⟩ := ih fun hmem => hrests (List.mem_append_left _ hmem)
    have hne : i ≠ j := fun habsurd =>
      hrests (List.mem_append_right _ (habsurd ▸ List.mem_cons_self))
    obtain ⟨hconforms, howned⟩ := served_owned p world services s (schedule ++ later)
    have hlast : served p world services s (schedule ++ (later ++ [i])) =
        (served p world services s (schedule ++ later)).step world.machine referring i := by
      rw [← List.append_assoc]
      exact Pool.runs_concat ..
    obtain ⟨hafter, hsame⟩ := step_owned world hconforms howned hbefore hne
    rw [hlast]
    exact ⟨hafter, hkept.trans hsame⟩

-- As long as a thread rests, the runs and the investigations that it has created stay as
-- they are, with the events of the runs, whatever the others do.
theorem created_untouched (schedule later : List Nat) (j : Nat) (known : Known)
    (hknown : (served p world services s schedule).ghosts[j]? = some known) (hrests : j ∉ later) :
    LeftAlone known (served p world services s schedule).state
      (served p world services s (schedule ++ later)).state :=
  (rested p world services s schedule later j known hknown hrests).2

-- A run of the case is at work when a request brings another, and a second run is tried.
theorem created_untouched_meanwhile :
    (served Sample.platform Sample.world Sample.services (Sample.opened "an order is missing")
        (List.replicate 40 0)).ghosts[0]? = some Sample.working ∧
      LeftAlone Sample.working
        (served Sample.platform Sample.world Sample.services (Sample.opened "an order is missing")
          (List.replicate 40 0)).state
        (served Sample.platform Sample.world Sample.services (Sample.opened "an order is missing")
          (List.replicate 40 0 ++ Sample.shifts)).state := by
  have hworking : (served Sample.platform Sample.world Sample.services
      (Sample.opened "an order is missing") (List.replicate 40 0)).ghosts[0]? =
        some Sample.working := by
    decide +kernel
  exact ⟨hworking, created_untouched _ _ _ _ _ _ 0 _ hworking (by decide)⟩

end Services

end Troubleshooter.Platform
