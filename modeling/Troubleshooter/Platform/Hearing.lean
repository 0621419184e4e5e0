import Troubleshooter.Platform.Appending
import Troubleshooter.Platform.Attention

namespace Troubleshooter.Platform

open Troubleshooter.Library
open Troubleshooter.Library.Raising
open Troubleshooter.Python (strip)
open CaseScheduler (Claimable)

namespace Attention

-- The case that a submission still has to do with.
def caseID : Attention → Option Int
  | .holding caseID | .opened caseID _ => some caseID
  | .noted message | .told message _ | .entering message _ => some message.caseID
  | .arriving | .accepted _ _ _ | .skipped _ _ _ => none

-- The calls that are spoken of have been made, and a text is read after it is written.
def Sound (calls : Nat) : Attention → Prop
  | .opened _ written | .told _ written | .entering _ written => written < calls
  | .accepted _ written read => written < read
  | .skipped _ _ status => ¬Claimable status
  | .arriving | .holding _ | .noted _ => True

-- The stored message with the number of the call that has written its text, and the case
-- that the run has accepted with the number of the call that has read it.
def text : Attention → Option (Message × Nat)
  | .told message written | .entering message written | .accepted message written _
  | .skipped message written _ => some (message, written)
  | .arriving | .holding _ | .opened _ _ | .noted _ => none

def run : Attention → Option (Int × Nat)
  | .accepted message _ read => some (message.caseID, read)
  | _ => none

theorem Sound.later {attention : Attention} {calls : Nat} (h : attention.Sound calls) :
    attention.Sound (calls + 1) := by
  cases attention with
  | opened caseID written => exact Nat.lt_succ_of_lt h
  | told message written => exact Nat.lt_succ_of_lt h
  | entering message written => exact Nat.lt_succ_of_lt h
  | _ => exact h

theorem claim_sound {message : Message} {written read calls : Nat} {row : Case}
    (h : written < read) : (claim message written read row).Sound calls := by
  unfold claim
  split
  · exact h
  next hrejected => exact hrejected

theorem claim_message {message : Message} {written read : Nat} {row : Case} :
    (claim message written read row).message = some message ∧
      (claim message written read row).caseID = none := by
  unfold claim
  split <;> exact ⟨rfl, rfl⟩

end Attention

-- The user messages that have been stored are those of the submissions, one for one, and
-- the case of a submission is there.
structure Heard (first s : CaseStore) (attentions : List Attention) : Prop where
  messages : ∃ added, s.messages = first.messages ++ added ∧
    (added.filter fun message => message.role == "user").Perm
      (attentions.filterMap Attention.message)
  present : ∀ attention ∈ attentions, ∀ caseID ∈ attention.caseID, s.caseByID caseID ≠ none
  sound : ∀ attention ∈ attentions, attention.Sound s.calls

section Steps

variable {world : World} {first s : CaseStore} {attentions : List Attention} {i : Nat}
  {attention : Attention} {op : CaseCall}

theorem handle_calls : (world.handle op s).2.calls = s.calls + 1 := by
  have hwrite : (world.write op s).calls = s.calls := by
    cases op <;> dsimp only [World.write]
  rcases world.handle_state op s with hstate | hstate
  · rw [hstate]
    rfl
  · rw [hstate]
    exact congrArg (· + 1) hwrite

-- A case that is there stays.
theorem caseByID_stays {caseID : Int} (h : s.caseByID caseID ≠ none) :
    (world.handle op s).2.caseByID caseID ≠ none := by
  obtain ⟨row, hrow⟩ := Option.ne_none_iff_exists'.mp h
  by_cases hop : ∃ fields, op = .updateCaseFields caseID fields
  · obtain ⟨fields, rfl⟩ := hop
    obtain ⟨rewrite, hcases, hkept, _⟩ :=
      handle_rewrites world (.updateCaseFields caseID fields) s fun _ => nofun
    rw [(found_rewritten hcases hkept caseID "").1, hrow]
    exact Option.some_ne_none _
  · rw [caseByID_kept world op hrow fun fields hsame => hop ⟨fields, hsame⟩]
    exact Option.some_ne_none _

theorem handle_unfailing (hfault : ∀ call, world.fault call = none) :
    world.handle op s = (world.answer op s, (world.write op s).counted) := by
  unfold World.handle
  rw [hfault, ite_self]

theorem statusAfterUserMessage_ne_empty (status : String) :
    strip (statusAfterUserMessage status) ≠ "" := by
  unfold statusAfterUserMessage
  split
  next hactive =>
    simp only [activeStatuses, List.mem_cons, List.not_mem_nil, or_false] at hactive
    rcases hactive with rfl | rfl | rfl <;> decide +kernel
  next => decide +kernel

-- An update that names a status is answered where the case is there.
theorem update_answered {caseID : Int} {fields : CaseFields} (h : s.caseByID caseID ≠ none)
    (huid : fields.uid = none) (hstatus : ∀ status ∈ fields.caseStatus, strip status ≠ "") :
    hasRaised (world.answer (.updateCaseFields caseID fields) s) = false := by
  have hrefused : fields.refused = false := by
    unfold CaseFields.refused
    rw [huid]
    cases hfield : fields.caseStatus with
    | none => rfl
    | some status =>
      simp only [List.any_cons, List.any_nil, Option.any_none, Option.any_some, Bool.false_or,
        Bool.or_false, beq_eq_false_iff_ne]
      have hmem : status ∈ fields.caseStatus := Option.mem_def.mpr hfield
      exact hstatus status hmem
  obtain ⟨row, hrow⟩ := Option.ne_none_iff_exists'.mp h
  have hafter : (world.write (.updateCaseFields caseID fields) s).caseByID caseID =
      some (row.written fields) := by
    rw [World.caseByID_update, hrow, hrefused]
    rfl
  simp only [World.answer, hrefused, Bool.false_eq_true, if_false]
  rw [hafter]
  rfl

theorem Heard.relied (h : Heard first s attentions) (hattention : attention ∈ attentions)
    (hfault : ∀ call, world.fault call = none) (hallowed : attention.Allows op)
    (hpending : attention.Pending) : Relied op (world.handle op s).1 := by
  rw [handle_unfailing hfault]
  have hpresent := h.present attention hattention
  cases attention with
  | holding caseID =>
    obtain ⟨content, rfl⟩ := hallowed
    exact fun _ => rfl
  | opened caseID written =>
    obtain ⟨content, rfl⟩ := hallowed
    exact fun _ => rfl
  | noted message =>
    obtain ⟨fields, ⟨_, _, _, _, status, _, hfields⟩, rfl⟩ := hallowed
    have hanswered : hasRaised (world.answer (.updateCaseFields message.caseID fields) s) = false := by
      refine update_answered (hpresent message.caseID rfl) (by rw [hfields]) fun named hnamed => ?_
      rw [hfields] at hnamed
      obtain rfl := Option.some.inj hnamed
      exact statusAfterUserMessage_ne_empty status
    exact fun _ => hanswered
  | told message written =>
    rcases hallowed with hplain | rfl | rfl | rfl
    · cases op <;> first | exact hplain.elim | exact fun _ => rfl | exact fun hof => nomatch hof
    · rfl
    · rfl
    · have hanswered : hasRaised (world.answer (.updateCaseFields message.caseID
          { caseStatus := some "READY_TO_INVESTIGATE" }) s) = false := by
        refine update_answered (hpresent message.caseID rfl) rfl fun named hnamed => ?_
        obtain rfl := Option.some.inj hnamed
        decide +kernel
      exact fun _ => hanswered
  | entering message written =>
    obtain rfl := hallowed
    obtain ⟨row, hrow⟩ := Option.ne_none_iff_exists'.mp (hpresent message.caseID rfl)
    exact ⟨row, congrArg Except.ok hrow⟩
  | _ => exact hpending.elim

-- What a step does to the message of its submission: nothing, or it is stored.
theorem message_after (hfault : ∀ call, world.fault call = none) (hallowed : attention.Allows op) :
    ((attention.observe s.calls op (world.handle op s).1).message = attention.message ∧
        ∀ item, op = .addMessage item → item.role ≠ "user") ∨
      ∃ item, op = .addMessage item ∧ item.role = "user" ∧ attention.message = none ∧
        (attention.observe s.calls op (world.handle op s).1).message = some item := by
  rw [handle_unfailing hfault]
  dsimp only
  cases attention with
  | arriving =>
    refine Or.inl ⟨?_, ?_⟩
    · cases op with
      | getCaseByNo ref => cases hfound : world.answer (.getCaseByNo ref) s with
        | error failure => rfl
        | ok found => cases found <;> rfl
      | getCaseByID caseID => cases hfound : world.answer (.getCaseByID caseID) s with
        | error failure => rfl
        | ok found => cases found <;> rfl
      | createCase item => cases world.answer (.createCase item) s <;> rfl
      | _ => rfl
    · rintro item rfl
      rcases hallowed with hsilent | ⟨_, habsurd⟩
      · exact hsilent
      · exact nomatch habsurd
  | holding caseID =>
    obtain ⟨content, rfl⟩ := hallowed
    exact Or.inr ⟨_, rfl, rfl, rfl, rfl⟩
  | opened caseID written =>
    obtain ⟨content, rfl⟩ := hallowed
    exact Or.inr ⟨_, rfl, rfl, rfl, rfl⟩
  | noted message =>
    obtain ⟨fields, _, rfl⟩ := hallowed
    refine Or.inl ⟨?_, nofun⟩
    cases world.answer (.updateCaseFields message.caseID fields) s <;> rfl
  | told message written =>
    refine Or.inl ⟨?_, ?_⟩
    · cases op <;> cases world.answer _ s <;> rfl
    · rintro item rfl
      rcases hallowed with hplain | habsurd | habsurd | habsurd
      · exact hplain
      · exact nomatch habsurd
      · exact nomatch habsurd
      · exact nomatch habsurd
  | entering message written =>
    obtain rfl := hallowed
    refine Or.inl ⟨?_, nofun⟩
    cases hfound : world.answer (.getCaseByID message.caseID) s with
    | error failure => rfl
    | ok found =>
      cases found with
      | none => rfl
      | some row => exact Attention.claim_message.1
  | accepted message written read =>
    refine Or.inl ⟨?_, ?_⟩
    · rw [attended_observed (Or.inl ⟨message, written, read, rfl⟩)]
    · rintro item rfl
      exact hallowed
  | skipped message written status =>
    refine Or.inl ⟨?_, ?_⟩
    · rw [attended_observed (Or.inr ⟨message, written, status, rfl⟩)]
    · rintro item rfl
      exact hallowed

theorem Heard.messages_after (h : Heard first s attentions) (hattention : attentions[i]? = some attention)
    (hfault : ∀ call, world.fault call = none) (hallowed : attention.Allows op) :
    ∃ added, (world.handle op s).2.messages = first.messages ++ added ∧
      (added.filter fun message => message.role == "user").Perm
        ((attentions.set i (attention.observe s.calls op (world.handle op s).1)).filterMap
          Attention.message) := by
  obtain ⟨added, hadded, hperm⟩ := h.messages
  have hstate : (world.handle op s).2.messages = (world.write op s).messages := by
    rw [handle_unfailing hfault]
    rfl
  have hafter : (attention.observe s.calls op (world.handle op s).1).message = attention.message ∧
      (∀ item, op = .addMessage item → item.role ≠ "user") ∨ _ := message_after hfault hallowed
  rcases hafter with
    ⟨hsame, hsilent⟩ | ⟨item, rfl, hrole, hnone, hsome⟩
  · rw [filterMap_set_same hattention hsame]
    rcases world.write_messages op s with ⟨item, rfl⟩ | hwrite
    · refine ⟨added ++ [item], ?_, ?_⟩
      · rw [hstate, ← List.append_assoc, ← hadded]
        rfl
      · have hother : (item.role == "user") = false := beq_eq_false_iff_ne.mpr (hsilent item rfl)
        rw [List.filter_append, List.filter_cons_of_neg (by simp [hother]), List.filter_nil,
          List.append_nil]
        exact hperm
    · exact ⟨added, by rw [hstate, hwrite, hadded], hperm⟩
  · refine ⟨added ++ [item], ?_, ?_⟩
    · rw [hstate, ← List.append_assoc, ← hadded]
      rfl
    · rw [List.filter_append, List.filter_cons_of_pos (by simpa using hrole), List.filter_nil]
      exact (List.perm_append_singleton item _).trans
        ((hperm.cons item).trans (filterMap_set_new hattention hnone hsome).symm)

theorem caseByID_counted (caseID : Int) : s.counted.caseByID caseID = s.caseByID caseID := rfl

theorem caseByID_of_mem {row : Case} (hrow : row ∈ s.cases) (halive : row.alive = true) :
    s.caseByID row.id ≠ none := by
  intro hnone
  have habsent := List.find?_eq_none.mp hnone row hrow
  simp [halive] at habsent

-- A case that a call has found, or has opened, is there.
theorem caseByNo_present {ref : String} {row : Case} (h : s.caseByNo ref = some row) :
    s.caseByID row.id ≠ none := by
  have hfound := List.find?_some h
  exact caseByID_of_mem (List.mem_of_find?_eq_some h)
    (by simpa using hfound : row.caseNo = ref ∧ row.alive = true).2

theorem created_present {item : CaseItem} {row : Case}
    (h : world.answer (.createCase item) s = .ok row) :
    (world.write (.createCase item) s).caseByID row.id ≠ none := by
  simp only [World.answer] at h
  split at h
  next hduplicate =>
    have hwrite : (world.write (.createCase item) s).cases = s.cases := by
      simp only [World.write, hduplicate, if_true]
    cases hfound : s.caseByMessageID (orText item.source "web") item.messageID with
    | none =>
      rw [hfound] at h
      cases h
    | some found =>
      rw [hfound] at h
      obtain rfl := Except.ok.inj h
      unfold CaseStore.caseByMessageID at hfound
      split at hfound
      · cases hfound
      · have hkey := List.find?_some hfound
        have halive : found.alive = true := (Bool.and_eq_true_iff.mp hkey).2
        refine caseByID_of_mem ?_ halive
        rw [hwrite]
        exact List.mem_of_find?_eq_some hfound
  next hfirst =>
    obtain rfl := Except.ok.inj h
    refine caseByID_of_mem ?_ rfl
    simp only [World.write, hfirst, Bool.false_eq_true, if_false]
    exact List.mem_append_right _ (List.mem_singleton_self _)

theorem caseID_after (hfault : ∀ call, world.fault call = none) (hallowed : attention.Allows op)
    {caseID : Int}
    (h : (attention.observe s.calls op (world.handle op s).1).caseID = some caseID) :
    attention.caseID = some caseID ∨ (world.handle op s).2.caseByID caseID ≠ none := by
  have hfound : ∀ row : Case, s.caseByID row.id ≠ none → (world.handle op s).2.caseByID row.id ≠ none :=
    fun row hpresent => caseByID_stays hpresent
  rw [handle_unfailing hfault] at h hfound ⊢
  dsimp only at h hfound ⊢
  cases attention with
  | arriving =>
    refine Or.inr ?_
    cases op with
    | getCaseByNo ref =>
      cases hanswer : world.answer (.getCaseByNo ref) s with
      | error failure => exact nomatch hanswer ▸ h
      | ok found =>
        rw [hanswer] at h
        cases found with
        | none => exact nomatch h
        | some row =>
          obtain rfl := Option.some.inj h
          exact hfound row (caseByNo_present (Except.ok.inj hanswer))
    | getCaseByID id =>
      cases hanswer : world.answer (.getCaseByID id) s with
      | error failure => exact nomatch hanswer ▸ h
      | ok found =>
        rw [hanswer] at h
        cases found with
        | none => exact nomatch h
        | some row =>
          obtain rfl := Option.some.inj h
          have hrow : s.caseByID id = some row := Except.ok.inj hanswer
          refine hfound row (caseByID_of_mem (World.caseByID_mem hrow) (World.caseByID_alive hrow))
    | createCase item =>
      cases hanswer : world.answer (.createCase item) s with
      | error failure => exact nomatch hanswer ▸ h
      | ok row =>
        rw [hanswer] at h
        obtain rfl := Option.some.inj h
        rw [caseByID_counted]
        exact created_present hanswer
    | _ => exact nomatch h
  | holding id =>
    obtain ⟨content, rfl⟩ := hallowed
    exact Or.inl h
  | opened id written =>
    obtain ⟨content, rfl⟩ := hallowed
    exact Or.inl h
  | noted message =>
    obtain ⟨fields, _, rfl⟩ := hallowed
    have hsame : ∀ answer, ((Attention.noted message).observe s.calls
        (.updateCaseFields message.caseID fields) answer).caseID = some message.caseID := by
      rintro (failure | row) <;> rfl
    exact Or.inl ((hsame _).symm.trans h)
  | told message written =>
    have hsame : ∀ answer, ((Attention.told message written).observe s.calls op answer).caseID =
        some message.caseID := by
      intro answer
      cases op <;> cases answer <;> rfl
    exact Or.inl ((hsame _).symm.trans h)
  | entering message written =>
    obtain rfl := hallowed
    cases hanswer : world.answer (.getCaseByID message.caseID) s with
    | error failure =>
      rw [hanswer] at h
      exact Or.inl h
    | ok found =>
      rw [hanswer] at h
      cases found with
      | none => exact Or.inl h
      | some row => exact nomatch Attention.claim_message.2.symm.trans h
  | accepted message written read =>
    rw [attended_observed (Or.inl ⟨message, written, read, rfl⟩)] at h
    exact Or.inl h
  | skipped message written status =>
    rw [attended_observed (Or.inr ⟨message, written, status, rfl⟩)] at h
    exact Or.inl h

theorem sound_after (h : attention.Sound s.calls) (answer : Except String op.Answer) :
    (attention.observe s.calls op answer).Sound (s.calls + 1) := by
  have hlater := h.later
  cases attention with
  | arriving =>
    cases op with
    | createCase item => cases answer with
      | error failure => trivial
      | ok row => exact Nat.lt_succ_self s.calls
    | getCaseByNo ref => cases answer with
      | error failure => trivial
      | ok found => cases found <;> trivial
    | getCaseByID caseID => cases answer with
      | error failure => trivial
      | ok found => cases found <;> trivial
    | _ => trivial
  | noted message =>
    cases op with
    | updateCaseFields caseID fields => cases answer with
      | error failure => trivial
      | ok row => exact Nat.lt_succ_self s.calls
    | _ => trivial
  | entering message written =>
    cases op with
    | getCaseByID caseID => cases answer with
      | error failure => exact hlater
      | ok found => cases found with
        | none => exact hlater
        | some row => exact Attention.claim_sound h
    | _ => exact hlater
  | accepted message written read =>
    rw [attended_observed (Or.inl ⟨message, written, read, rfl⟩)]
    exact hlater
  | skipped message written status =>
    rw [attended_observed (Or.inr ⟨message, written, status, rfl⟩)]
    exact hlater
  | _ => cases op <;> cases answer <;> exact hlater

theorem Heard.step (h : Heard first s attentions) (hattention : attentions[i]? = some attention)
    (hfault : ∀ call, world.fault call = none) (hallowed : attention.Allows op) :
    Heard first (world.handle op s).2
      (attentions.set i (attention.observe s.calls op (world.handle op s).1)) := by
  have hmem := List.mem_of_getElem? hattention
  refine ⟨h.messages_after hattention hfault hallowed, fun other hother caseID hcase => ?_,
    fun other hother => ?_⟩
  · rcases mem_set_cases hother with rfl | ⟨j, _, hj⟩
    · rcases caseID_after hfault hallowed hcase with hbefore | hpresent
      · exact caseByID_stays (h.present attention hmem caseID hbefore)
      · exact hpresent
    · exact caseByID_stays (h.present other (List.mem_of_getElem? hj) caseID hcase)
  · rw [handle_calls]
    rcases mem_set_cases hother with rfl | ⟨j, _, hj⟩
    · exact sound_after (h.sound attention hmem) _
    · exact (h.sound other (List.mem_of_getElem? hj)).later

end Steps

section Interleavings

variable (p : AgentPlatform) (world : World) (calls : List ChatCall) (s : CaseStore)

-- The submissions, each with the run that it starts or leaves to the server.
def requests : Pool CaseCalls CaseStore Attention (Except String Unit) :=
  ⟨s, calls.map fun call => ⟨.arriving,
    (p.chatRequest call.message call.title call.caseNo call.images call.asyncProcess).run⟩⟩

def requested (schedule : List Nat) :
    Pool CaseCalls CaseStore Attention (Except String Unit) :=
  (requests p calls s).runs world.machine attending schedule

-- However the submissions and their runs interleave, once all have ended every user
-- message that has been stored is that of a submission whose run has read the case after
-- the message's text was written, or has been skipped over the status of the case.

-- Some accepted run of the case has read it after the text of each message was written.
def ReadAfterwards (attentions : List Attention) : Prop :=
  ∀ attention ∈ attentions, ∀ told ∈ attention.text,
    ∃ other ∈ attentions, ∃ run ∈ other.run, run.1 = told.1.caseID ∧ told.2 < run.2

instance (attentions : List Attention) : Decidable (ReadAfterwards attentions) :=
  inferInstanceAs (Decidable (∀ attention ∈ attentions, ∀ told ∈ attention.text,
    ∃ other ∈ attentions, ∃ run ∈ other.run, run.1 = told.1.caseID ∧ told.2 < run.2))

-- The second submission comes while the run of the first is investigating.
def Sample.submissions : List ChatCall :=
  [{ message := "报错", caseNo := "case_1", asyncProcess := false },
    { message := "b", caseNo := "case_1", asyncProcess := false }]

def Sample.meanwhile : List Nat :=
  List.replicate 40 0 ++ List.replicate 30 1 ++ List.replicate 60 0

end Interleavings

end Troubleshooter.Platform
