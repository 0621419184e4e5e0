import Troubleshooter.Platform.Delivery
import Troubleshooter.Platform.Exclusion

namespace Troubleshooter.Platform

open Troubleshooter.Library
open Troubleshooter.Library.Raising
open Troubleshooter.Python (strip)

namespace CaseStore

variable (source messageID : String) (s : CaseStore)

-- The rows of the case table for a channel message.
def received : List Case :=
  s.cases.filter fun row => row.source == source && row.messageID == messageID

def userMessages (caseID : Int) : Nat :=
  s.messages.countP fun message => message.caseID == caseID && message.role == "user"

def scheduledRuns (caseID : Int) : Nat := s.tasks.count caseID

-- A message and a scheduled run are of a case that is there.
def Linked : Prop :=
  (∀ message ∈ s.messages, message.caseID ∈ s.cases.map Case.id) ∧
    ∀ caseID ∈ s.tasks, caseID ∈ s.cases.map Case.id

end CaseStore

-- What a channel message leaves in the store: its cases, and for each case the user
-- messages and the scheduled runs.
structure Footprint where
  cases : List (Int × Bool)
  fresh : Int
  messages : Int → Nat
  runs : Int → Nat

def CaseStore.footprint (source messageID : String) (s : CaseStore) : Footprint where
  cases := (s.received source messageID).map fun row => (row.id, row.alive)
  fresh := s.freshCaseID
  messages := s.userMessages
  runs := s.scheduledRuns

namespace Footprint

variable (f : Footprint)

def opened : Footprint := { f with cases := f.cases ++ [(f.fresh, true)], fresh := f.fresh + 1 }

def messaged (caseID : Int) : Footprint :=
  { f with messages := fun id => if id = caseID then f.messages id + 1 else f.messages id }

def scheduled (caseID : Int) : Footprint :=
  { f with runs := fun id => if id = caseID then f.runs id + 1 else f.runs id }

end Footprint

namespace Delivery

-- A delivery that has not found the message stands for it from then on.
def Active : Delivery → Prop
  | .absent | .created _ | .messaged _ | .scheduled _ => True
  | _ => False

-- What an active delivery has left.
def left : Delivery → Option (Int × Nat × Nat)
  | .created caseID => some (caseID, 0, 0)
  | .messaged caseID => some (caseID, 1, 0)
  | .scheduled caseID => some (caseID, 1, 1)
  | _ => none

theorem active_of_left {delivery : Delivery} (h : delivery.left ≠ none) : delivery.Active := by
  cases delivery <;> trivial

end Delivery

-- One delivery at most is active, the footprint is what it has left, and a delivery that
-- has found the message has found the case of another.
structure Delivering (f : Footprint) (deliveries : List Delivery) : Prop where
  fresh : ∀ caseID, f.fresh ≤ caseID → f.messages caseID = 0 ∧ f.runs caseID = 0
  single : ∀ (i j : Nat) (first second : Delivery), deliveries[i]? = some first →
    deliveries[j]? = some second → first.Active → second.Active → i = j
  held : ∀ delivery ∈ deliveries, ∀ caseID messages runs,
    delivery.left = some (caseID, messages, runs) →
    f.cases = [(caseID, true)] ∧ caseID < f.fresh ∧ f.messages caseID = messages ∧
      f.runs caseID = runs
  unheld : (∀ delivery ∈ deliveries, delivery.left = none) → f.cases = []
  duplicate : Delivery.duplicate ∈ deliveries → ∃ delivery ∈ deliveries, delivery.left ≠ none

namespace Delivering

variable {f f' : Footprint} {deliveries : List Delivery} {i : Nat} {before after : Delivery}

-- A delivery that stays as active as it was, with as much left.
theorem alike (h : Delivering f deliveries) (hbefore : deliveries[i]? = some before)
    (hactive : after.Active → before.Active) (hleft : after.left = before.left)
    (hduplicate : after = .duplicate → f.cases ≠ []) : Delivering f (deliveries.set i after) := by
  have hmem : ∀ delivery ∈ deliveries.set i after, ∃ old ∈ deliveries, delivery.left = old.left := by
    intro delivery hdelivery
    rcases mem_set_cases hdelivery with rfl | ⟨j, _, hj⟩
    · exact ⟨before, List.mem_of_getElem? hbefore, hleft⟩
    · exact ⟨delivery, List.mem_of_getElem? hj, rfl⟩
  have hlen : i < deliveries.length := (List.getElem?_eq_some_iff.mp hbefore).1
  have hkept : ∀ old ∈ deliveries, ∃ delivery ∈ deliveries.set i after,
      delivery.left = old.left := by
    intro old hold
    obtain ⟨j, hj⟩ := List.getElem?_of_mem hold
    by_cases hsame : i = j
    · subst hsame
      obtain rfl := Option.some.inj (hbefore.symm.trans hj)
      exact ⟨after, List.mem_of_getElem? (List.getElem?_set_self hlen), hleft⟩
    · exact ⟨old, List.mem_of_getElem? ((List.getElem?_set_ne hsame).trans hj), rfl⟩
  have hunheld : (∀ delivery ∈ deliveries.set i after, delivery.left = none) → f.cases = [] := by
    refine fun hnone => h.unheld fun old hold => ?_
    obtain ⟨delivery, hdelivery, hsame⟩ := hkept old hold
    exact hsame.symm.trans (hnone delivery hdelivery)
  constructor
  · exact h.fresh
  · intro j k first second hj hk hfirst hsecond
    rcases getElem?_set_cases hj with ⟨rfl, rfl⟩ | ⟨_, hj⟩
    · rcases getElem?_set_cases hk with ⟨rfl, rfl⟩ | ⟨_, hk⟩
      · rfl
      · exact h.single _ _ _ _ hbefore hk (hactive hfirst) hsecond
    · rcases getElem?_set_cases hk with ⟨rfl, hsame⟩ | ⟨_, hk⟩
      · exact h.single _ _ _ _ hj hbefore hfirst (hactive (hsame ▸ hsecond))
      · exact h.single _ _ _ _ hj hk hfirst hsecond
  · intro delivery hdelivery caseID messages runs hholds
    obtain ⟨old, hold, hsame⟩ := hmem delivery hdelivery
    exact h.held old hold caseID messages runs (hsame.symm.trans hholds)
  · exact hunheld
  · intro hmember
    by_contra hnone
    refine (mem_set_cases hmember).elim (fun hsame => ?_) fun ⟨j, _, hj⟩ => ?_
    · refine hduplicate hsame.symm (hunheld fun delivery hdelivery => ?_)
      by_contra hleft
      exact hnone ⟨delivery, hdelivery, hleft⟩
    · obtain ⟨old, hold, hleft⟩ := h.duplicate (List.mem_of_getElem? hj)
      obtain ⟨delivery, hdelivery, hsame⟩ := hkept old hold
      exact hnone ⟨delivery, hdelivery, hsame ▸ hleft⟩

-- Where no case has been found, nobody has left one.
theorem none_left (h : Delivering f deliveries) (hcases : f.cases = []) :
    ∀ delivery ∈ deliveries, delivery.left = none := by
  intro delivery hdelivery
  cases hleft : delivery.left with
  | none => rfl
  | some left =>
    have hheld := (h.held delivery hdelivery left.1 left.2.1 left.2.2 hleft).1
    exact nomatch hcases.symm.trans hheld

-- A lookup that finds nothing, while no other delivery has found nothing.
theorem absent (h : Delivering f deliveries) (hcases : f.cases = [])
    (hnobody : Delivery.absent ∉ deliveries) : Delivering f (deliveries.set i .absent) := by
  have hleft := h.none_left hcases
  have hidle : ∀ (j : Nat) delivery, deliveries[j]? = some delivery → ¬delivery.Active := by
    intro j delivery hj hactive
    have hmember := List.mem_of_getElem? hj
    cases delivery with
    | absent => exact hnobody hmember
    | created caseID => exact nomatch hleft _ hmember
    | messaged caseID => exact nomatch hleft _ hmember
    | scheduled caseID => exact nomatch hleft _ hmember
    | _ => exact hactive
  have hnone : ∀ delivery ∈ deliveries.set i .absent, delivery.left = none := by
    intro delivery hdelivery
    rcases mem_set_cases hdelivery with rfl | ⟨j, _, hj⟩
    · rfl
    · exact hleft delivery (List.mem_of_getElem? hj)
  constructor
  · exact h.fresh
  · intro j k first second hj hk hfirst hsecond
    rcases getElem?_set_cases hj with ⟨rfl, _⟩ | ⟨_, hj⟩
    · rcases getElem?_set_cases hk with ⟨rfl, _⟩ | ⟨_, hk⟩
      · rfl
      · exact absurd hsecond (hidle k second hk)
    · exact absurd hfirst (hidle j first hj)
  · intro delivery hdelivery caseID messages runs hholds
    exact nomatch (hnone delivery hdelivery).symm.trans hholds
  · exact fun _ => hcases
  · intro hmember
    rcases mem_set_cases hmember with habsurd | ⟨j, _, hj⟩
    · exact nomatch habsurd
    · obtain ⟨delivery, hdelivery, habsurd⟩ := h.duplicate (List.mem_of_getElem? hj)
      exact absurd (hleft delivery hdelivery) habsurd

-- While a delivery is active, nobody else has left anything.
theorem others_left (h : Delivering f deliveries) (hbefore : deliveries[i]? = some before)
    (hactive : before.Active) {j : Nat} {delivery : Delivery} (hne : i ≠ j)
    (hj : deliveries[j]? = some delivery) : ¬delivery.Active :=
  fun hother => hne (h.single i j before delivery hbefore hj hactive hother)

-- While a delivery has found nothing, nothing has been left.
theorem untouched (h : Delivering f deliveries) (hbefore : deliveries[i]? = some .absent) :
    f.cases = [] := by
  refine h.unheld fun delivery hdelivery => ?_
  obtain ⟨j, hj⟩ := List.getElem?_of_mem hdelivery
  by_cases hsame : i = j
  · subst hsame
    obtain rfl := Option.some.inj (hbefore.symm.trans hj)
    rfl
  · by_contra hleft
    exact h.others_left hbefore trivial hsame hj (Delivery.active_of_left hleft)

-- The active delivery goes on, and the footprint with it.
theorem onward (h : Delivering f deliveries) (hbefore : deliveries[i]? = some before)
    (hactive : before.Active) {caseID : Int} {messages runs : Nat}
    (hafter : after.left = some (caseID, messages, runs))
    (hfresh : ∀ id, f'.fresh ≤ id → f'.messages id = 0 ∧ f'.runs id = 0)
    (hheld : f'.cases = [(caseID, true)] ∧ caseID < f'.fresh ∧ f'.messages caseID = messages ∧
      f'.runs caseID = runs) : Delivering f' (deliveries.set i after) := by
  have hlen : i < deliveries.length := (List.getElem?_eq_some_iff.mp hbefore).1
  have hself : after ∈ deliveries.set i after :=
    List.mem_of_getElem? (List.getElem?_set_self hlen)
  have hleft : after.left ≠ none := by rw [hafter]; exact Option.some_ne_none _
  constructor
  · exact hfresh
  · intro j k first second hj hk hfirst hsecond
    rcases getElem?_set_cases hj with ⟨rfl, _⟩ | ⟨hne, hj⟩
    · rcases getElem?_set_cases hk with ⟨rfl, _⟩ | ⟨hne, hk⟩
      · rfl
      · exact absurd hsecond (h.others_left hbefore hactive hne hk)
    · exact absurd hfirst (h.others_left hbefore hactive hne hj)
  · intro delivery hdelivery id m r hholds
    rcases mem_set_cases hdelivery with rfl | ⟨j, hne, hj⟩
    · obtain ⟨rfl, rfl, rfl⟩ : id = caseID ∧ m = messages ∧ r = runs := by
        simpa using hholds.symm.trans hafter
      exact hheld
    · refine absurd (Delivery.active_of_left ?_) (h.others_left hbefore hactive hne hj)
      rw [hholds]
      exact Option.some_ne_none _
  · exact fun hnone => absurd (hnone after hself) hleft
  · exact fun _ => ⟨after, hself, hleft⟩

end Delivering

-- The calls that leave something of a delivery.
def CaseCall.leaves : CaseCall → Bool
  | .createCase _ | .addTask _ => true
  | .addMessage item => item.role == "user"
  | _ => false

section Store

variable {world : World} {source messageID : String} {s : CaseStore} {op : CaseCall}

theorem footprint_counted :
    s.counted.footprint source messageID = s.footprint source messageID := rfl

theorem freshID_append (ids : List Int) : freshID (ids ++ [freshID ids]) = freshID ids + 1 := by
  simp only [freshID, List.foldl_append, List.foldl_cons, List.foldl_nil]
  omega

-- Rows that are rewritten in place keep what a message leaves.
theorem footprint_cases_written (caseID : Int) (fields : CaseFields) :
    ((world.write (.updateCaseFields caseID fields) s).footprint source messageID).cases =
        (s.footprint source messageID).cases ∧
      (world.write (.updateCaseFields caseID fields) s).freshCaseID = s.freshCaseID := by
  simp only [CaseStore.footprint, CaseStore.received, CaseStore.freshCaseID, World.write]
  split
  · exact ⟨rfl, rfl⟩
  · have hid : ∀ row : Case, (if row.id = caseID ∧ row.alive = true then row.written fields
        else row).id = row.id := by intro row; split <;> rfl
    rw [List.filter_map, List.map_map, List.map_map]
    refine ⟨?_, congrArg freshID (List.map_congr_left fun row _ => hid row)⟩
    have hfound : ((fun row : Case => row.source == source && row.messageID == messageID) ∘
        fun row => if row.id = caseID ∧ row.alive = true then row.written fields else row) =
        fun row => row.source == source && row.messageID == messageID := by
      funext row
      simp only [Function.comp]
      split <;> rfl
    rw [hfound]
    refine List.map_congr_left fun row _ => ?_
    simp only [Function.comp]
    split <;> rfl

theorem footprint_written (hop : op.leaves = false) :
    (world.write op s).footprint source messageID = s.footprint source messageID := by
  have hcases : ((world.write op s).footprint source messageID).cases =
        (s.footprint source messageID).cases ∧
      (world.write op s).freshCaseID = s.freshCaseID := by
    rcases world.write_cases op s with ⟨item, rfl⟩ | ⟨caseID, fields, rfl⟩ | hsame
    · cases hop
    · exact footprint_cases_written caseID fields
    · simp only [CaseStore.footprint, CaseStore.received, CaseStore.freshCaseID, hsame, and_self]
  have hmessages : (world.write op s).userMessages = s.userMessages := by
    funext caseID
    rcases world.write_messages op s with ⟨item, rfl⟩ | hsame
    · have hrole : (item.role == "user") = false := hop
      simp [CaseStore.userMessages, World.write, List.countP_append, hrole]
    · simp only [CaseStore.userMessages, hsame]
  have hruns : (world.write op s).scheduledRuns = s.scheduledRuns := by
    funext caseID
    rcases world.write_tasks op s with ⟨id, rfl⟩ | hsame
    · cases hop
    · simp only [CaseStore.scheduledRuns, hsame]
  unfold CaseStore.footprint at hcases ⊢
  rw [hmessages, hruns, hcases.2]
  exact congrArg (Footprint.mk · _ _ _) hcases.1

theorem footprint_handle (hop : op.leaves = false) :
    (world.handle op s).2.footprint source messageID = s.footprint source messageID := by
  rcases world.handle_state op s with hsame | hwritten
  · rw [hsame, footprint_counted]
  · rw [hwritten, footprint_counted]
    exact footprint_written hop

-- A case that is there is found by its message and by its id.
theorem found_of_footprint {caseID : Int} (hsource : source ≠ "") (hmessageID : messageID ≠ "")
    (h : (s.footprint source messageID).cases = [(caseID, true)]) :
    s.caseByMessageID source messageID ≠ none ∧ s.caseByID caseID ≠ none := by
  have hmem : (caseID, true) ∈ (s.footprint source messageID).cases := by
    rw [h]
    exact List.mem_singleton_self _
  obtain ⟨row, hrow, hsame⟩ := List.mem_map.mp hmem
  obtain ⟨hlisted, hkey⟩ := List.mem_filter.mp hrow
  obtain ⟨rfl, halive⟩ := Prod.mk.inj hsame
  unfold CaseStore.caseByMessageID CaseStore.caseByID
  rw [if_neg (by simp [hsource, hmessageID])]
  refine ⟨fun hnone => ?_, fun hnone => ?_⟩
  · have habsent := List.find?_eq_none.mp hnone row hlisted
    simp [hkey, halive] at habsent
  · have habsent := List.find?_eq_none.mp hnone row hlisted
    simp [halive] at habsent

theorem footprint_found {row : Case} (h : s.caseByMessageID source messageID = some row) :
    (s.footprint source messageID).cases ≠ [] := by
  unfold CaseStore.caseByMessageID at h
  split at h
  · exact nomatch h
  · have hkey := List.find?_some h
    have hlisted := List.mem_of_find?_eq_some h
    refine fun hnone => List.not_mem_nil (hnone ▸ List.mem_map_of_mem (List.mem_filter.mpr
      ⟨hlisted, ?_⟩) : (row.id, row.alive) ∈ [])
    exact (Bool.and_eq_true_iff.mp hkey).1

theorem stored_eq {value : String} (h : strip value ≠ "") : stored value = value := if_neg h

theorem duplicate_of_footprint (h : (s.footprint source messageID).cases = []) :
    s.duplicate source messageID = false := by
  have hnone : s.received source messageID = [] := List.map_eq_nil_iff.mp h
  unfold CaseStore.duplicate
  rw [Bool.and_eq_false_iff]
  refine Or.inr (List.any_eq_false.mpr fun row hrow hkey => ?_)
  exact List.filter_eq_nil_iff.mp hnone row hrow hkey

theorem footprint_created {item : CaseItem} (hsource : source ≠ "") (hmessageID : strip messageID ≠ "")
    (hitem : item.source = source ∧ item.messageID = messageID)
    (h : (s.footprint source messageID).cases = []) :
    world.answer (.createCase item) s = .ok (world.newCase item s) ∧
      (world.write (.createCase item) s).footprint source messageID =
        (s.footprint source messageID).opened := by
  have horigin : orText item.source "web" = source := by
    rw [hitem.1]
    exact if_pos (by simpa using hsource)
  have hkey : stored item.messageID = messageID := by rw [hitem.2, stored_eq hmessageID]
  have hfirst : s.duplicate (orText item.source "web") (stored item.messageID) = false := by
    rw [horigin, hkey]
    exact duplicate_of_footprint h
  constructor
  · simp only [World.answer, hfirst, Bool.false_eq_true, if_false]
  · have hrow : (world.newCase item s).source = source ∧ (world.newCase item s).messageID = messageID :=
      by
        dsimp only [World.newCase]
        exact ⟨horigin, hkey⟩
    simp only [CaseStore.footprint, CaseStore.received, CaseStore.freshCaseID, World.write, hfirst,
      Bool.false_eq_true, if_false, List.filter_append, List.map_append, Footprint.opened]
    simp only [List.filter_cons, hrow.1, hrow.2, beq_self_eq_true, Bool.and_self, if_true,
      List.filter_nil, List.map_cons, List.map_nil]
    exact congrArg (Footprint.mk _ · _ _) (freshID_append _)

theorem footprint_messaged (caseID : Int) (content : String) :
    (world.write (.addMessage ⟨caseID, "user", content⟩) s).footprint source messageID =
      (s.footprint source messageID).messaged caseID := by
  dsimp only [CaseStore.footprint, CaseStore.received, CaseStore.freshCaseID, World.write,
    Footprint.messaged]
  refine congrArg (Footprint.mk _ _ · _) (funext fun id => ?_)
  by_cases hid : id = caseID
  · subst hid
    simp [CaseStore.userMessages, List.countP_append]
  · simp [CaseStore.userMessages, List.countP_append, hid, Ne.symm hid]

theorem footprint_scheduled (caseID : Int) :
    (world.write (.addTask caseID) s).footprint source messageID =
      (s.footprint source messageID).scheduled caseID := by
  dsimp only [CaseStore.footprint, CaseStore.received, CaseStore.freshCaseID, World.write,
    Footprint.scheduled]
  refine congrArg (Footprint.mk _ _ _) (funext fun id => ?_)
  by_cases hid : id = caseID
  · subst hid
    simp [CaseStore.scheduledRuns, List.count_append]
  · simp [CaseStore.scheduledRuns, List.count_append, hid, Ne.symm hid]

end Store

-- A lookup of the message.
def CaseCall.looksUp : CaseCall → Bool
  | .findCaseByMessageID _ _ => true
  | _ => false

def Fault.isLost : Fault → Bool
  | .refused _ => false
  | .lost _ => true

-- A step that leaves the deliveries of a message in order. It is not looked up while
-- another delivery is between its lookup and its insert, the answer to an insert is not
-- lost, and from then on until the run is scheduled no call of the repository fails.
def InOrder (world : World) (s : CaseStore) (deliveries : List Delivery) :
    Delivery → CaseCall → Prop
  | .looking, op => op.looksUp = true → Delivery.absent ∉ deliveries
  | .absent, _ => (world.fault s.calls).any Fault.isLost = false
  | .created _, _ => (world.fault s.calls).isNone = true
  | .messaged _, op => op.ofRepository = true → (world.fault s.calls).isNone = true
  | _, _ => True

instance (world : World) (s : CaseStore) (deliveries : List Delivery) (delivery : Delivery)
    (op : CaseCall) : Decidable (InOrder world s deliveries delivery op) :=
  match delivery with
  | .looking => by
    dsimp only [InOrder]
    infer_instance
  | .absent => inferInstanceAs (Decidable ((world.fault s.calls).any Fault.isLost = false))
  | .created _ => inferInstanceAs (Decidable ((world.fault s.calls).isNone = true))
  | .messaged _ =>
    inferInstanceAs (Decidable (op.ofRepository = true → (world.fault s.calls).isNone = true))
  | .scheduled _ | .duplicate | .refused => inferInstanceAs (Decidable True)

section Steps

variable {world : World} {source messageID : String} {s : CaseStore} {deliveries : List Delivery}
  {i : Nat} {delivery : Delivery} {op : CaseCall}

theorem handle_unfailed (h : op.ofRepository = true → (world.fault s.calls).isNone = true) :
    world.handle op s = (world.answer op s, (world.write op s).counted) := by
  unfold World.handle
  split
  next hfault =>
    split at hfault
    next hof => exact nomatch Option.isNone_iff_eq_none.mp (h hof) ▸ hfault
    next => exact nomatch hfault
  next hfault =>
    split at hfault
    next hof => exact nomatch Option.isNone_iff_eq_none.mp (h hof) ▸ hfault
    next => exact nomatch hfault
  next => rfl

theorem Plain.answered (h : Plain op) (hof : op.ofRepository = true) :
    hasRaised (world.answer op s) = false := by
  cases op <;> first | exact h.elim | exact absurd hof Bool.false_ne_true | rfl

theorem Plain.leaves (h : Plain op) : op.leaves = false := by
  cases op with
  | addMessage item => exact beq_eq_false_iff_ne.mpr h
  | _ => first | exact h.elim | rfl

theorem Conduct.leaves {caseID : Int} (h : Conduct caseID true op) : op.leaves = false := by
  cases op with
  | addMessage item => exact beq_eq_false_iff_ne.mpr h
  | _ => first | exact h.elim | rfl

-- What a delivery relies on once its case is there.
theorem pending_answered (hsource : source ≠ "") (hmessageID : strip messageID ≠ "")
    (h : Delivering (s.footprint source messageID) deliveries)
    (hdelivery : deliveries[i]? = some delivery) (hallowed : delivery.Allows source messageID op)
    (horder : InOrder world s deliveries delivery op) (hpending : delivery.Pending)
    (hof : op.ofRepository = true) : hasRaised (world.handle op s).1 = false := by
  have hnonempty : messageID ≠ "" := by
    rintro rfl
    exact hmessageID rfl
  cases delivery with
  | created caseID =>
    obtain ⟨content, rfl⟩ := hallowed
    rw [handle_unfailed fun _ => horder]
    rfl
  | messaged caseID =>
    rw [handle_unfailed horder]
    rcases hallowed with hplain | rfl | rfl
    · exact hplain.answered hof
    · rfl
    · have hcases := (h.held _ (List.mem_of_getElem? hdelivery) caseID 1 0 rfl).1
      have hfound := (found_of_footprint hsource hnonempty hcases).2
      obtain ⟨row, hrow⟩ := Option.ne_none_iff_exists'.mp hfound
      have hwritten : (world.write (.updateCaseFields caseID
          { caseStatus := some "READY_TO_INVESTIGATE" }) s).caseByID caseID =
          some (row.written { caseStatus := some "READY_TO_INVESTIGATE" }) := by
        rw [World.caseByID_update, hrow]
        rfl
      change hasRaised (World.found _ _) = false
      rw [hwritten]
      rfl
  | _ => exact hpending.elim

-- A step that leaves nothing changes no delivery but the one that has looked.
theorem Delivering.step_quiet (h : Delivering (s.footprint source messageID) deliveries)
    (hdelivery : deliveries[i]? = some delivery) (hop : op.leaves = false)
    (hsame : delivery.observe op (world.handle op s).1 = delivery) :
    Delivering ((world.handle op s).2.footprint source messageID)
      (deliveries.set i (delivery.observe op (world.handle op s).1)) := by
  rw [footprint_handle hop, hsame]
  refine h.alike hdelivery id rfl fun hduplicate hcases => ?_
  obtain ⟨other, hother, hleft⟩ := h.duplicate (hduplicate ▸ List.mem_of_getElem? hdelivery)
  exact hleft (h.none_left hcases other hother)

theorem Delivering.step_looking (hsource : source ≠ "") (hmessageID : messageID ≠ "")
    (h : Delivering (s.footprint source messageID) deliveries)
    (hdelivery : deliveries[i]? = some .looking)
    (hnobody : Delivery.absent ∉ deliveries) :
    Delivering ((world.handle (.findCaseByMessageID source messageID) s).2.footprint source messageID)
      (deliveries.set i (Delivery.looking.observe (.findCaseByMessageID source messageID)
        (world.handle (.findCaseByMessageID source messageID) s).1)) := by
  cases hanswer : (world.handle (.findCaseByMessageID source messageID) s).1 with
  | error failure =>
    have hsame : Delivery.looking.observe (.findCaseByMessageID source messageID)
        (world.handle (.findCaseByMessageID source messageID) s).1 = .looking := by
      rw [hanswer]
      rfl
    have hquiet := h.step_quiet hdelivery rfl hsame
    rwa [hanswer] at hquiet
  | ok found =>
    have hfound : s.caseByMessageID source messageID = found :=
      Except.ok.inj (world.handle_ok _ s hanswer).1
    rw [footprint_handle rfl]
    cases found with
    | none =>
      refine h.absent (h.unheld fun other hother => ?_) hnobody
      cases hleft : other.left with
      | none => rfl
      | some left =>
        have hcases := (h.held other hother left.1 left.2.1 left.2.2 hleft).1
        exact absurd hfound (found_of_footprint hsource hmessageID hcases).1
    | some row =>
      exact h.alike hdelivery (fun habsurd => habsurd.elim) rfl fun _ => footprint_found hfound

theorem Delivering.step_absent (hsource : source ≠ "") (hmessageID : strip messageID ≠ "")
    (h : Delivering (s.footprint source messageID) deliveries)
    (hdelivery : deliveries[i]? = some .absent) {item : CaseItem}
    (hitem : item.source = source ∧ item.messageID = messageID)
    (hfault : (world.fault s.calls).any Fault.isLost = false) :
    Delivering ((world.handle (.createCase item) s).2.footprint source messageID)
      (deliveries.set i (Delivery.absent.observe (.createCase item)
        (world.handle (.createCase item) s).1)) := by
  have hcases := h.untouched hdelivery
  obtain ⟨hanswer, hwritten⟩ :
      world.answer (.createCase item) s = .ok (world.newCase item s) ∧
        (world.write (.createCase item) s).footprint source messageID =
          (s.footprint source messageID).opened :=
    footprint_created hsource hmessageID hitem hcases
  unfold World.handle
  split
  next => exact h.alike hdelivery (fun habsurd => habsurd.elim) rfl fun habsurd => nomatch habsurd
  next raised hsome =>
    have hlost : world.fault s.calls = some (.lost raised) := hsome
    rw [hlost] at hfault
    exact nomatch hfault
  next =>
    rw [hanswer]
    dsimp only
    rw [footprint_counted, hwritten]
    have hnew := h.fresh s.freshCaseID (le_refl s.freshCaseID)
    have hleft : (Delivery.created s.freshCaseID).left = some (s.freshCaseID, 0, 0) := rfl
    refine h.onward hdelivery trivial hleft (fun id hid => ?_)
      ⟨?_, ?_, hnew.1, hnew.2⟩
    · exact h.fresh id (by have := Int.lt_of_add_one_le hid; exact le_of_lt this)
    · exact (congrArg (· ++ [(s.freshCaseID, true)]) hcases)
    · exact Int.lt_succ s.freshCaseID

theorem Delivering.step_created {caseID : Int}
    (h : Delivering (s.footprint source messageID) deliveries)
    (hdelivery : deliveries[i]? = some (.created caseID)) (content : String)
    (hfault : (world.fault s.calls).isNone = true) :
    Delivering ((world.handle (.addMessage ⟨caseID, "user", content⟩) s).2.footprint source messageID)
      (deliveries.set i ((Delivery.created caseID).observe (.addMessage ⟨caseID, "user", content⟩)
        (world.handle (.addMessage ⟨caseID, "user", content⟩) s).1)) := by
  obtain ⟨hcases, hfresh, hmessages, hruns⟩ :=
    h.held _ (List.mem_of_getElem? hdelivery) caseID 0 0 rfl
  rw [handle_unfailed fun _ => hfault]
  dsimp only
  rw [footprint_counted, footprint_messaged]
  refine h.onward hdelivery trivial rfl (fun id hid => ?_) ⟨hcases, hfresh, ?_, hruns⟩
  · have hne : id ≠ caseID := by rintro rfl; exact absurd hfresh (not_lt.mpr hid)
    simpa [Footprint.messaged, hne] using h.fresh id hid
  · simp [Footprint.messaged, hmessages]

theorem Delivering.step_scheduled {caseID : Int}
    (h : Delivering (s.footprint source messageID) deliveries)
    (hdelivery : deliveries[i]? = some (.messaged caseID)) :
    Delivering ((world.handle (.addTask caseID) s).2.footprint source messageID)
      (deliveries.set i (.scheduled caseID)) := by
  obtain ⟨hcases, hfresh, hmessages, hruns⟩ :=
    h.held _ (List.mem_of_getElem? hdelivery) caseID 1 0 rfl
  have hhandle : world.handle (.addTask caseID) s =
      (.ok (), (world.write (.addTask caseID) s).counted) := handle_unfailed nofun
  rw [hhandle]
  dsimp only
  rw [footprint_counted, footprint_scheduled]
  refine h.onward hdelivery trivial rfl (fun id hid => ?_) ⟨hcases, hfresh, hmessages, ?_⟩
  · have hne : id ≠ caseID := by rintro rfl; exact absurd hfresh (not_lt.mpr hid)
    simpa [Footprint.scheduled, hne] using h.fresh id hid
  · simp [Footprint.scheduled, hruns]

theorem Delivering.step (hsource : source ≠ "") (hmessageID : strip messageID ≠ "")
    (h : Delivering (s.footprint source messageID) deliveries)
    (hdelivery : deliveries[i]? = some delivery) (hallowed : delivery.Allows source messageID op)
    (horder : InOrder world s deliveries delivery op) :
    Delivering ((world.handle op s).2.footprint source messageID)
      (deliveries.set i (delivery.observe op (world.handle op s).1)) := by
  have hnonempty : messageID ≠ "" := by
    rintro rfl
    exact hmessageID rfl
  cases delivery with
  | looking =>
    rcases hallowed with rfl | ⟨text, images, rfl⟩
    · exact h.step_looking hsource hnonempty hdelivery (horder rfl)
    · exact h.step_quiet hdelivery rfl rfl
  | absent =>
    obtain ⟨item, rfl, hitem⟩ := hallowed
    exact h.step_absent hsource hmessageID hdelivery hitem horder
  | created caseID =>
    obtain ⟨content, rfl⟩ := hallowed
    exact h.step_created hdelivery content horder
  | messaged caseID =>
    rcases hallowed with hplain | rfl | rfl
    · exact h.step_quiet hdelivery hplain.leaves
        (hplain.undelivered (.messaged caseID) (fun _ habsurd => nomatch habsurd) _)
    · exact h.step_scheduled hdelivery
    · exact h.step_quiet hdelivery rfl rfl
  | scheduled caseID =>
    have hleaves : op.leaves = false := by
      rcases hallowed with hconduct | rfl | rfl
      · exact hconduct.leaves
      · rfl
      · rfl
    refine h.step_quiet hdelivery hleaves ?_
    cases op <;> cases (world.handle _ s).1 <;> rfl
  | duplicate =>
    exact h.step_quiet hdelivery hallowed.leaves
      (Plain.undelivered hallowed .duplicate (fun _ habsurd => nomatch habsurd) _)
  | refused => exact hallowed.elim

end Steps

section Interleavings

variable (p : AgentPlatform) (world : World) (deliveries : List ChannelMessage) (s : CaseStore)

-- The deliveries, each with the run that it leaves to the server.
def submissions : Pool CaseCalls CaseStore Delivery (Except String Unit) :=
  ⟨s, deliveries.map fun message => ⟨.looking, (p.chatPlatformEvent message).run⟩⟩

def delivered (source messageID : String) (schedule : List Nat) :
    Pool CaseCalls CaseStore Delivery (Except String Unit) :=
  (submissions p deliveries s).runs world.machine (delivering source messageID) schedule

-- The message has one case at most, with one user message and one scheduled run.
def CaseStore.ReceivedOnce (source messageID : String) (s : CaseStore) : Prop :=
  (s.received source messageID).length ≤ 1 ∧
    ∀ row ∈ s.received source messageID, s.userMessages row.id ≤ 1 ∧ s.scheduledRuns row.id ≤ 1

-- It has one of each.
def CaseStore.Handled (source messageID : String) (s : CaseStore) : Prop :=
  ∃ row, s.received source messageID = [row] ∧ s.userMessages row.id = 1 ∧
    s.scheduledRuns row.id = 1

theorem received_single {source messageID : String} {caseID : Int}
    (h : (s.footprint source messageID).cases = [(caseID, true)]) :
    ∃ row, s.received source messageID = [row] ∧ row.id = caseID := by
  obtain ⟨row, hreceived, hsame⟩ := List.map_eq_singleton_iff.mp h
  exact ⟨row, hreceived, congrArg Prod.fst hsame⟩

theorem Delivery.left_le {delivery : Delivery} {caseID : Int} {messages runs : Nat}
    (h : delivery.left = some (caseID, messages, runs)) : messages ≤ 1 ∧ runs ≤ 1 := by
  cases delivery <;> simp [Delivery.left] at h <;> omega

theorem Delivery.left_rested {delivery : Delivery} {caseID : Int} {messages runs : Nat}
    (h : delivery.left = some (caseID, messages, runs)) (hrested : delivery.Rested) :
    messages = 1 ∧ runs = 1 := by
  cases delivery with
  | scheduled id => simp [Delivery.left] at h; omega
  | created id => exact hrested.elim
  | messaged id => exact hrested.elim
  | _ => exact nomatch h

variable {s} {source messageID : String} {phases : List Delivery}

theorem Delivering.receivedOnce (h : Delivering (s.footprint source messageID) phases) :
    s.ReceivedOnce source messageID := by
  unfold CaseStore.ReceivedOnce
  cases hreceived : s.received source messageID with
  | nil => exact ⟨Nat.zero_le 1, fun _ habsurd => absurd habsurd List.not_mem_nil⟩
  | cons first rest =>
    have hcases : (s.footprint source messageID).cases ≠ [] := by
      simp [CaseStore.footprint, hreceived]
    obtain ⟨delivery, hdelivery, hleft⟩ : ∃ delivery ∈ phases, delivery.left ≠ none := by
      by_contra hnone
      push Not at hnone
      exact hcases (h.unheld hnone)
    obtain ⟨⟨caseID, messages, runs⟩, hleft⟩ := Option.ne_none_iff_exists'.mp hleft
    obtain ⟨hsingle, _, hmessages, hruns⟩ := h.held delivery hdelivery caseID messages runs hleft
    obtain ⟨row, hrow, hid⟩ := received_single s hsingle
    obtain ⟨hlemessages, hleruns⟩ := Delivery.left_le hleft
    rw [← hreceived, hrow]
    refine ⟨le_refl 1, fun other hother => ?_⟩
    rw [List.mem_singleton.mp hother, hid]
    exact ⟨hmessages.trans_le hlemessages, hruns.trans_le hleruns⟩

theorem Delivering.handled (h : Delivering (s.footprint source messageID) phases)
    (hrested : ∀ delivery ∈ phases, delivery.Rested)
    (hsome : ∃ delivery ∈ phases, delivery ≠ .looking ∧ delivery ≠ .refused) :
    s.Handled source messageID := by
  have hholder : ∃ delivery ∈ phases, delivery.left ≠ none := by
    obtain ⟨delivery, hdelivery, hlooked, haccepted⟩ := hsome
    cases delivery with
    | looking => exact absurd rfl hlooked
    | refused => exact absurd rfl haccepted
    | duplicate => exact h.duplicate hdelivery
    | absent => exact (hrested _ hdelivery).elim
    | _ => exact ⟨_, hdelivery, Option.some_ne_none _⟩
  obtain ⟨delivery, hdelivery, hleft⟩ := hholder
  obtain ⟨⟨caseID, messages, runs⟩, hleft⟩ := Option.ne_none_iff_exists'.mp hleft
  obtain ⟨hsingle, _, hmessages, hruns⟩ := h.held delivery hdelivery caseID messages runs hleft
  obtain ⟨row, hrow, rfl⟩ := received_single s hsingle
  obtain ⟨rfl, rfl⟩ := Delivery.left_rested hleft (hrested delivery hdelivery)
  exact ⟨row, hrow, hmessages, hruns⟩

-- Where the message is new, nothing of it is in the store.
theorem delivering_start (hlinked : s.Linked) (hnew : s.received source messageID = [])
    (hlooking : ∀ delivery ∈ phases, delivery = .looking) :
    Delivering (s.footprint source messageID) phases := by
  have hidle : ∀ {i : Nat} {delivery}, phases[i]? = some delivery → ¬delivery.Active := by
    intro i delivery hi hactive
    rw [hlooking delivery (List.mem_of_getElem? hi)] at hactive
    exact hactive
  constructor
  · intro caseID hfresh
    have habsent : caseID ∉ s.cases.map Case.id := fun hmem =>
      absurd (lt_freshID _ caseID hmem) (not_lt.mpr hfresh)
    constructor
    · refine List.countP_eq_zero.mpr fun message hmessage hkey => habsent ?_
      obtain ⟨hid, _⟩ := Bool.and_eq_true_iff.mp hkey
      exact (beq_iff_eq.mp hid) ▸ hlinked.1 message hmessage
    · exact List.count_eq_zero.mpr fun hmem => habsent (hlinked.2 caseID hmem)
  · exact fun i j first second hi _ hactive _ => absurd hactive (hidle hi)
  · intro delivery hdelivery caseID messages runs hleft
    rw [hlooking delivery hdelivery] at hleft
    exact nomatch hleft
  · exact fun _ => List.map_eq_nil_iff.mpr hnew
  · exact fun hmember => nomatch hlooking _ hmember

-- However the deliveries of a new message interleave, if each step leaves them in order
-- then the message is never received twice, and once all have ended it has been handled,
-- unless none came beyond its lookup and its insert.
theorem message_received_once (p : AgentPlatform) (world : World) (source messageID : String)
    (deliveries : List ChannelMessage) (s : CaseStore) (schedule : List Nat)
    (hsource : source ≠ "") (hmessageID : strip messageID ≠ "")
    (hsame : ∀ message ∈ deliveries, message.source = source ∧ message.messageID = messageID)
    (hlinked : s.Linked) (hnew : s.received source messageID = [])
    (horder : Pool.Meets world.machine (delivering source messageID)
      (fun pool i => ∀ delivery op, pool.pending i = some (delivery, op) →
        InOrder world pool.state pool.ghosts delivery op)
      (submissions p deliveries s) schedule) :
    let pool := delivered p world deliveries s source messageID schedule
    pool.state.ReceivedOnce source messageID ∧
      (pool.Ended → (∃ delivery ∈ pool.ghosts, delivery ≠ .looking ∧ delivery ≠ .refused) →
        pool.state.Handled source messageID) := by
  have hnonempty : messageID ≠ "" := by
    rintro rfl
    exact hmessageID rfl
  have hconforms : (submissions p deliveries s).Conforms (delivering source messageID)
      fun delivery _ => delivery.Rested := by
    intro thread hthread
    obtain ⟨message, hmessage, rfl⟩ := List.mem_map.mp hthread
    obtain ⟨hfrom, hid⟩ := hsame message hmessage
    refine Prog.follows_mono _ _ _ _ _ (fun delivery outcome hended => ?_)
      (chatPlatformEvent_delivery p message hfrom hid hnonempty .looking rfl)
    cases outcome with
    | ok value => exact hended
    | error failure => exact hended
  have hlooking : ∀ delivery ∈ (submissions p deliveries s).ghosts, delivery = .looking := by
    intro delivery hdelivery
    obtain ⟨thread, hthread, rfl⟩ := List.mem_map.mp hdelivery
    obtain ⟨message, _, rfl⟩ := List.mem_map.mp hthread
    rfl
  obtain ⟨hfollowed, hdelivering⟩ := Pool.conforming_runs world.machine
    (delivering source messageID) (fun delivery _ => delivery.Rested)
    (fun state phases => Delivering (state.footprint source messageID) phases)
    (fun state phases _ delivery op => InOrder world state phases delivery op)
    (fun state phases i delivery op hinvariant hdelivery hallowed _ hcondition =>
      ⟨⟨handle_identified world op state,
        pending_answered hsource hmessageID hinvariant hdelivery hallowed hcondition⟩,
        hinvariant.step hsource hmessageID hdelivery hallowed hcondition⟩)
    (submissions p deliveries s) hconforms (delivering_start hlinked hnew hlooking) schedule horder
  refine ⟨hdelivering.receivedOnce, fun hended => hdelivering.handled fun delivery hdelivery => ?_⟩
  obtain ⟨_, hrested⟩ := hfollowed.ended _ hended hdelivery
  exact hrested

def Sample.greeting : ChannelMessage where
  source := "lark"
  text := "hello"
  chatID := "oc_1"
  messageID := "om_1"
  reporterUserID := "ou_1"

-- The second delivery looks the message up when the first has created its case.
def Sample.inTurn : List Nat := [0, 0, 1, 0, 1] ++ List.replicate 80 1 ++ List.replicate 80 0

theorem message_received_once_greeting :
    (delivered Sample.platform Sample.world [Sample.greeting, Sample.greeting] {} "lark" "om_1"
      Sample.inTurn).state.Handled "lark" "om_1" := by
  have hsound : ∀ (pool : Pool CaseCalls CaseStore Delivery (Except String Unit)) i,
      ((pool.pending i).all fun call =>
        decide (InOrder Sample.world pool.state pool.ghosts call.1 call.2)) = true →
      ∀ delivery op, pool.pending i = some (delivery, op) →
        InOrder Sample.world pool.state pool.ghosts delivery op := by
    intro pool i hcheck delivery op hpending
    rw [hpending] at hcheck
    exact of_decide_eq_true hcheck
  have hruns := message_received_once Sample.platform Sample.world "lark" "om_1"
    [Sample.greeting, Sample.greeting] {} Sample.inTurn (by decide) (by decide +kernel)
    (by simp [Sample.greeting]) ⟨nofun, nofun⟩ rfl
    (Pool.Meets.of_meets _ _ hsound (by decide +kernel))
  have hended : (delivered Sample.platform Sample.world [Sample.greeting, Sample.greeting] {} "lark"
      "om_1" Sample.inTurn).Ended ∧ Delivery.duplicate ∈ (delivered Sample.platform Sample.world
      [Sample.greeting, Sample.greeting] {} "lark" "om_1" Sample.inTurn).ghosts := by decide +kernel
  exact hruns.2 hended.1 ⟨_, hended.2, by decide⟩

-- Two deliveries look the message up before either has created its case.
theorem message_received_twice :
    ¬∀ (deliveries : List ChannelMessage) (schedule : List Nat), deliveries ≠ [] →
      (∀ message ∈ deliveries, message.source = "lark" ∧ message.messageID = "om_1") →
      (delivered Sample.platform Sample.world deliveries {} "lark" "om_1" schedule).Ended →
      (delivered Sample.platform Sample.world deliveries {} "lark" "om_1"
        schedule).state.Handled "lark" "om_1" := by
  intro h
  have htwice :
      let pool := delivered Sample.platform Sample.world [Sample.greeting, Sample.greeting] {}
        "lark" "om_1" ([0, 1, 0, 1] ++ List.replicate 80 0 ++ List.replicate 80 1)
      pool.Ended ∧ (pool.state.received "lark" "om_1").map
        (fun row => pool.state.userMessages row.id) = [2] := by decide +kernel
  obtain ⟨row, hrow, hmessages, _⟩ := h [Sample.greeting, Sample.greeting] _ (by decide)
    (by simp [Sample.greeting]) htwice.1
  have habsurd := htwice.2
  rw [hrow, List.map_cons, hmessages] at habsurd
  exact absurd habsurd (by decide)

end Interleavings

end Troubleshooter.Platform
