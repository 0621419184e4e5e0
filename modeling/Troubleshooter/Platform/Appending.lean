import Troubleshooter.Platform.FollowUps

namespace Troubleshooter.Platform

open Troubleshooter.Library
open Troubleshooter.Library.Raising
open Troubleshooter.Python (strip)

-- The text with a block for each of the texts that the order names.
def appendBlocks (label : String) (texts : List String) (order : List Nat) (text : String) :
    String :=
  order.foldl (fun text i => appendBlock text label (texts.getD i "")) text

section Texts

variable {label text value : String} {texts texts' : List String} {order : List Nat} {i : Nat}

theorem appendBlocks_concat :
    appendBlocks label texts (order ++ [i]) text =
      appendBlock (appendBlocks label texts order text) label (texts.getD i "") := by
  simp [appendBlocks]

theorem appendBlocks_congr (h : ∀ i ∈ order, texts.getD i "" = texts'.getD i "") :
    appendBlocks label texts order text = appendBlocks label texts' order text := by
  unfold appendBlocks
  refine List.foldl_ext _ _ _ fun text i hi => ?_
  rw [h i hi]

theorem appendBlock_ne_empty (h : strip value ≠ "") : strip (appendBlock text label value) ≠ "" := by
  refine Library.Text.strip_ne_empty _ _ '：' ?_ (by decide)
  unfold appendBlock
  dsimp only
  rw [if_neg h]
  split <;> simp

-- What the repository stores as it is stays so when a block is appended.
theorem stored_appendBlock (h : stored text = text) :
    stored (appendBlock text label value) = appendBlock text label value := by
  by_cases hblank : strip value = ""
  · have hsame : appendBlock text label value = text := by
      unfold appendBlock
      exact if_pos (by rw [hblank])
    rw [hsame, h]
  · exact if_neg (appendBlock_ne_empty hblank)

end Texts

-- A call that opens no case rewrites the rows of the others in place.
theorem handle_rewrites (world : World) (op : CaseCall) (s : CaseStore)
    (hop : ∀ item, op ≠ .createCase item) :
    ∃ rewrite : Case → Case, (world.handle op s).2.cases = s.cases.map rewrite ∧
      (∀ row, (rewrite row).id = row.id ∧ (rewrite row).caseNo = row.caseNo ∧
        (rewrite row).alive = row.alive) ∧
      (op.KeepsTexts → ∀ row, (rewrite row).originalText = row.originalText ∧
        (rewrite row).ocrText = row.ocrText) := by
  have hsame : ∀ state : CaseStore, state.cases = s.cases →
      ∃ rewrite : Case → Case, state.cases = s.cases.map rewrite ∧
        (∀ row, (rewrite row).id = row.id ∧ (rewrite row).caseNo = row.caseNo ∧
          (rewrite row).alive = row.alive) ∧
        (op.KeepsTexts → ∀ row, (rewrite row).originalText = row.originalText ∧
          (rewrite row).ocrText = row.ocrText) :=
    fun state hcases => ⟨id, by rw [hcases, List.map_id], fun _ => ⟨rfl, rfl, rfl⟩,
      fun _ _ => ⟨rfl, rfl⟩⟩
  rcases world.handle_state op s with hstate | hstate
  · exact hsame _ (by rw [hstate]; rfl)
  rcases world.write_cases op s with ⟨item, rfl⟩ | ⟨caseID, fields, rfl⟩ | hcases
  · exact absurd rfl (hop item)
  · by_cases hrefused : fields.refused = true
    · refine hsame _ ?_
      rw [hstate]
      simp [World.write, CaseStore.counted, hrefused]
    · refine ⟨fun row => if row.id = caseID ∧ row.alive = true then row.written fields else row,
        ?_, fun row => ?_, fun hkeeps row => ?_⟩
      · rw [hstate]
        simp [World.write, CaseStore.counted, hrefused]
      · dsimp only
        split <;> exact ⟨rfl, rfl, rfl⟩
      · obtain ⟨horiginal, hocr⟩ := hkeeps
        dsimp only
        split
        · simp [Case.written, horiginal, hocr]
        · exact ⟨rfl, rfl⟩
  · exact hsame _ (by rw [hstate]; exact hcases)

-- The calls on a case: by its number, or by its id where no case has the number.
def NamesCase (python : Python.Runtime) (s : CaseStore) (caseID : Int) (caseNo : String) : Prop :=
  s.caseByNo caseNo = s.caseByID caseID ∨
    (s.caseByNo caseNo = none ∧ digitsOf python caseNo = some caseID)

-- The texts of the case are those it had, with a block for every call that has written.
structure Appended (base row : Case) (calls : List FollowUp) (order : List Nat) : Prop where
  once : order.Nodup
  settled : ∀ i ∈ order, ∃ call, calls[i]? = some call ∧ call.Settled
  written : ∀ (i : Nat) call, calls[i]? = some call → call.Written → i ∈ order
  original : row.originalText =
    appendBlocks "用户补充" (calls.map FollowUp.userText) order base.originalText
  ocr : row.ocrText =
    appendBlocks "图片识别补充" (calls.map fun call => call.stage.ocrText) order base.ocrText

structure Following (python : Python.Runtime) (base : Case) (s : CaseStore)
    (calls : List FollowUp) : Prop where
  appended : ∃ row order, s.caseByID base.id = some row ∧ stored row.originalText = row.originalText ∧
    stored row.ocrText = row.ocrText ∧ Appended base row calls order
  named : ∀ call ∈ calls, NamesCase python s base.id call.caseNo
  unnumbered : ∀ call ∈ calls, ∀ ocrText, call.stage = .unnumbered ocrText →
    digitsOf python call.caseNo = some base.id
  holding : ∀ call ∈ calls, ∀ ocrText case, call.stage = .holding ocrText case → case.id = base.id

-- A follow-up writes its texts where they still are as it has read them.
def Fresh (s : CaseStore) (call : FollowUp) (op : CaseCall) : Prop :=
  match call.stage, op with
  | .holding _ case, .updateCaseFields caseID _ => ∀ row ∈ s.caseByID caseID,
    row.originalText = case.originalText ∧ row.ocrText = case.ocrText
  | _, _ => True

instance (s : CaseStore) (call : FollowUp) (op : CaseCall) : Decidable (Fresh s call op) := by
  unfold Fresh
  split <;> infer_instance

section Steps

variable {world : World} {python : Python.Runtime} {base row row' : Case} {s : CaseStore}
  {calls : List FollowUp} {order : List Nat} {i : Nat} {call after : FollowUp} {op : CaseCall}

theorem texts_set (text : FollowUp → String) (hcall : calls[i]? = some call)
    (hsame : text after = text call) :
    (calls.set i after).map text = calls.map text := by
  rw [List.map_set, hsame]
  exact set_same (by rw [List.getElem?_map, hcall]; rfl)

theorem userTexts_kept (hcall : calls[i]? = some call) (state : CaseStore) (op : CaseCall)
    (answer : Except String op.Answer) :
    (calls.set i ((following python).observe call state op answer)).map FollowUp.userText =
      calls.map FollowUp.userText := texts_set FollowUp.userText hcall rfl

theorem texts_getD (text : FollowUp → String) (hcall : calls[i]? = some call) (j : Nat)
    (hsame : i = j → text after = text call) :
    ((calls.set i after).map text).getD j "" = (calls.map text).getD j "" := by
  by_cases hj : i = j
  · rw [texts_set text hcall (hsame hj)]
  · rw [List.getD_eq_getElem?_getD, List.getD_eq_getElem?_getD, List.map_set,
      List.getElem?_set_ne hj]

-- A call that has not come to write, or that has written, moves nothing.
theorem Appended.still (h : Appended base row calls order) (hcall : calls[i]? = some call)
    (huser : after.userText = call.userText)
    (hsettled : call.Settled → after.Settled ∧ after.stage.ocrText = call.stage.ocrText)
    (hwritten : after.Written → call.Written)
    (htexts : row'.originalText = row.originalText ∧ row'.ocrText = row.ocrText) :
    Appended base row' (calls.set i after) order := by
  have hi : i < calls.length := (List.getElem?_eq_some_iff.mp hcall).1
  constructor
  · exact h.once
  · intro j hj
    obtain ⟨other, hother, hdone⟩ := h.settled j hj
    by_cases hsame : i = j
    · subst hsame
      obtain rfl := Option.some.inj (hcall.symm.trans hother)
      exact ⟨after, List.getElem?_set_self hi, (hsettled hdone).1⟩
    · exact ⟨other, (List.getElem?_set_ne hsame).trans hother, hdone⟩
  · intro j other hother hdone
    rcases getElem?_set_cases hother with ⟨rfl, rfl⟩ | ⟨_, hother⟩
    · exact h.written _ call hcall (hwritten hdone)
    · exact h.written j other hother hdone
  · rw [texts_set FollowUp.userText hcall huser, htexts.1]
    exact h.original
  · rw [htexts.2, h.ocr]
    refine appendBlocks_congr fun j hj => (texts_getD _ hcall j fun hsame => ?_).symm
    subst hsame
    obtain ⟨other, hother, hdone⟩ := h.settled _ hj
    obtain rfl := Option.some.inj (hcall.symm.trans hother)
    exact (hsettled hdone).2

-- A call that writes its texts comes last in the order.
theorem Appended.wrote (h : Appended base row calls order) (hcall : calls[i]? = some call)
    (hunsettled : ¬call.Settled) (hafter : after.Settled) (huser : after.userText = call.userText)
    (hocr : after.stage.ocrText = call.stage.ocrText)
    (horiginal : row'.originalText = appendBlock row.originalText "用户补充" call.userText)
    (hocrText : row'.ocrText = appendBlock row.ocrText "图片识别补充" call.stage.ocrText) :
    Appended base row' (calls.set i after) (order ++ [i]) := by
  have hi : i < calls.length := (List.getElem?_eq_some_iff.mp hcall).1
  have hnew : i ∉ order := by
    intro hmem
    obtain ⟨other, hother, hdone⟩ := h.settled i hmem
    obtain rfl := Option.some.inj (hcall.symm.trans hother)
    exact hunsettled hdone
  have htext : ∀ text : FollowUp → String, (calls.map text).getD i "" = text call := by
    intro text
    rw [List.getD_eq_getElem?_getD, List.getElem?_map, hcall]
    rfl
  constructor
  · refine List.Nodup.append h.once (List.nodup_singleton i) fun j hj hsame => ?_
    exact hnew (List.mem_singleton.mp hsame ▸ hj)
  · intro j hj
    rcases List.mem_append.mp hj with hj | hj
    · obtain ⟨other, hother, hdone⟩ := h.settled j hj
      have hne : i ≠ j := by
        rintro rfl
        exact hnew hj
      exact ⟨other, (List.getElem?_set_ne hne).trans hother, hdone⟩
    · rw [List.mem_singleton.mp hj]
      exact ⟨after, List.getElem?_set_self hi, hafter⟩
  · intro j other hother hdone
    rcases getElem?_set_cases hother with ⟨rfl, rfl⟩ | ⟨_, hother⟩
    · exact List.mem_append_right _ (List.mem_singleton_self _)
    · exact List.mem_append_left _ (h.written j other hother hdone)
  · rw [texts_set FollowUp.userText hcall huser, appendBlocks_concat, htext, horiginal, h.original]
  · rw [texts_set (fun call => call.stage.ocrText) hcall hocr, appendBlocks_concat, htext, hocrText,
      h.ocr]

-- How the rows of the case are found after a call.
theorem found_rewritten {rewrite : Case → Case} {state : CaseStore}
    (hcases : state.cases = s.cases.map rewrite)
    (hkept : ∀ row, (rewrite row).id = row.id ∧ (rewrite row).caseNo = row.caseNo ∧
      (rewrite row).alive = row.alive) (caseID : Int) (caseNo : String) :
    state.caseByID caseID = (s.caseByID caseID).map rewrite ∧
      state.caseByNo caseNo = (s.caseByNo caseNo).map rewrite := by
  unfold CaseStore.caseByID CaseStore.caseByNo
  rw [hcases]
  constructor
  · refine find?_map_keeping (fun row => ?_) s.cases
    rw [(hkept row).1, (hkept row).2.2]
  · refine find?_map_keeping (fun row => ?_) s.cases
    rw [(hkept row).2.1, (hkept row).2.2]

theorem NamesCase.rewritten {rewrite : Case → Case} {state : CaseStore} {caseID : Int}
    {caseNo : String} (hcases : state.cases = s.cases.map rewrite)
    (hkept : ∀ row, (rewrite row).id = row.id ∧ (rewrite row).caseNo = row.caseNo ∧
      (rewrite row).alive = row.alive) (h : NamesCase python s caseID caseNo) :
    NamesCase python state caseID caseNo := by
  obtain ⟨hid, hno⟩ := found_rewritten hcases hkept caseID caseNo
  rcases h with hsame | ⟨hnone, hdigits⟩
  · exact Or.inl (by rw [hid, hno, hsame])
  · exact Or.inr ⟨by rw [hno, hnone]; rfl, hdigits⟩

theorem allowed_opens_nothing (hallowed : call.Allows python op) (item : CaseItem) :
    op ≠ .createCase item := by
  rintro rfl
  unfold FollowUp.Allows at hallowed
  split at hallowed
  · obtain ⟨_, _, habsurd⟩ := hallowed
    exact nomatch habsurd
  · exact nomatch hallowed
  · obtain ⟨_, _, habsurd⟩ := hallowed
    exact nomatch habsurd
  · rcases hallowed with ⟨_, habsurd⟩ | habsurd
    · exact nomatch habsurd
    · exact nomatch habsurd
  · exact hallowed
  · exact hallowed

-- What a call learns of its case by one step.
structure Learns (python : Python.Runtime) (caseID : Int) (call after : FollowUp) : Prop where
  caseNo : after.caseNo = call.caseNo
  userText : after.userText = call.userText
  unnumbered : ∀ ocrText, after.stage = .unnumbered ocrText →
    digitsOf python call.caseNo = some caseID
  holding : ∀ ocrText case, after.stage = .holding ocrText case → case.id = caseID

theorem Following.others (h : Following python base s calls) {state : CaseStore}
    (hnamed : ∀ caseNo, NamesCase python s base.id caseNo → NamesCase python state base.id caseNo)
    (hcall : calls[i]? = some call) (hlearns : Learns python base.id call after) :
    (∀ other ∈ calls.set i after, NamesCase python state base.id other.caseNo) ∧
      (∀ other ∈ calls.set i after, ∀ ocrText, other.stage = .unnumbered ocrText →
        digitsOf python other.caseNo = some base.id) ∧
      ∀ other ∈ calls.set i after, ∀ ocrText case, other.stage = .holding ocrText case →
        case.id = base.id := by
  have hmem : call ∈ calls := List.mem_of_getElem? hcall
  refine ⟨fun other hother => ?_, fun other hother ocrText hstage => ?_,
    fun other hother ocrText case hstage => ?_⟩
  · rcases mem_set_cases hother with rfl | ⟨j, _, hj⟩
    · rw [hlearns.caseNo]
      exact hnamed _ (h.named call hmem)
    · exact hnamed _ (h.named other (List.mem_of_getElem? hj))
  · rcases mem_set_cases hother with rfl | ⟨j, _, hj⟩
    · rw [hlearns.caseNo]
      exact hlearns.unnumbered ocrText hstage
    · exact h.unnumbered other (List.mem_of_getElem? hj) ocrText hstage
  · rcases mem_set_cases hother with rfl | ⟨j, _, hj⟩
    · exact hlearns.holding ocrText case hstage
    · exact h.holding other (List.mem_of_getElem? hj) ocrText case hstage

-- A step that writes no text.
theorem Following.step_still (h : Following python base s calls) (hcall : calls[i]? = some call)
    (hop : op.KeepsTexts) (hopens : ∀ item, op ≠ .createCase item)
    (hlearns : Learns python base.id call after)
    (hsettled : call.Settled → after.Settled ∧ after.stage.ocrText = call.stage.ocrText)
    (hwritten : after.Written → call.Written) :
    Following python base (world.handle op s).2 (calls.set i after) := by
  obtain ⟨rewrite, hcases, hkept, htexts⟩ := handle_rewrites world op s hopens
  obtain ⟨row, order, hrow, hstored, hstoredOCR, happended⟩ := h.appended
  obtain ⟨hnamed, hunnumbered, hholding⟩ :=
    h.others (fun _ hnamed => hnamed.rewritten hcases hkept) hcall hlearns
  refine ⟨⟨rewrite row, order, ?_, ?_, ?_, ?_⟩, hnamed, hunnumbered, hholding⟩
  · rw [(found_rewritten hcases hkept base.id "").1, hrow]
    rfl
  · rw [(htexts hop row).1, hstored]
  · rw [(htexts hop row).2, hstoredOCR]
  · exact happended.still hcall hlearns.userText hsettled hwritten (htexts hop row)

theorem written_texts (row : Case) (original ocr status : String) :
    (row.written ⟨none, some original, some ocr, none, none, some status⟩).originalText =
        stored original ∧
      (row.written ⟨none, some original, some ocr, none, none, some status⟩).ocrText =
        stored ocr := by
  constructor <;> simp only [Case.written, Option.map_some, Option.getD_some]

theorem holding_unsettled {ocrText : String} {case : Case}
    (hstage : call.stage = .holding ocrText case) : ¬call.Settled := by
  rintro (⟨_, habsurd⟩ | ⟨_, habsurd⟩)
  · exact nomatch hstage.symm.trans habsurd
  · exact nomatch hstage.symm.trans habsurd

-- The write of the texts, where they still are as they have been read.
theorem Following.step_write {ocrText : String} {case : Case} (h : Following python base s calls)
    (hcall : calls[i]? = some call) (hstage : call.stage = .holding ocrText case)
    {fields : CaseFields}
    (hfields : fields = {
      originalText := some (appendBlock case.originalText "用户补充" call.userText)
      ocrText := some (appendBlock case.ocrText "图片识别补充" ocrText)
      caseStatus := some (statusAfterUserMessage case.status) })
    (hfresh : ∀ row ∈ s.caseByID case.id,
      row.originalText = case.originalText ∧ row.ocrText = case.ocrText) :
    Following python base (world.handle (.updateCaseFields case.id fields) s).2
      (calls.set i ((following python).observe call s (.updateCaseFields case.id fields)
        (world.handle (.updateCaseFields case.id fields) s).1)) := by
  have hid : case.id = base.id := h.holding call (List.mem_of_getElem? hcall) ocrText case hstage
  obtain ⟨row, order, hrow, hstored, hstoredOCR, happended⟩ := h.appended
  obtain ⟨horiginal, hocr⟩ := hfresh row (hid.symm ▸ hrow)
  rw [hid]
  have hunsettled := holding_unsettled hstage
  have hwrittenTexts : (row.written fields).originalText =
        appendBlock row.originalText "用户补充" call.userText ∧
      (row.written fields).ocrText = appendBlock row.ocrText "图片识别补充" call.stage.ocrText := by
    rw [hfields, (written_texts row _ _ _).1, (written_texts row _ _ _).2, ← horiginal, ← hocr,
      hstage, stored_appendBlock hstored, stored_appendBlock hstoredOCR]
    exact ⟨rfl, rfl⟩
  have hstoredTexts : stored (row.written fields).originalText = (row.written fields).originalText ∧
      stored (row.written fields).ocrText = (row.written fields).ocrText := by
    rw [hwrittenTexts.1, hwrittenTexts.2]
    exact ⟨stored_appendBlock hstored, stored_appendBlock hstoredOCR⟩
  obtain ⟨rewrite, hcases, hkept, _⟩ := handle_rewrites world (.updateCaseFields base.id fields) s
    fun _ => nofun
  -- whether the write is made is seen in the table, not in the answer
  have hfound : (world.handle (.updateCaseFields base.id fields) s).2.caseByID base.id =
        some (row.written fields) ∨
      ((world.handle (.updateCaseFields base.id fields) s).2.caseByID base.id = some row ∧
        hasRaised (world.handle (.updateCaseFields base.id fields) s).1 = true) := by
    cases hanswer : (world.handle (.updateCaseFields base.id fields) s).1 with
    | ok value =>
      obtain ⟨hok, hstate⟩ := world.handle_ok _ s hanswer
      obtain ⟨_, old, hold, rfl, hafter⟩ := World.answer_update hok
      obtain rfl := Option.some.inj (hrow.symm.trans hold)
      rw [hstate]
      exact Or.inl hafter
    | error failure =>
      rcases world.handle_state (.updateCaseFields base.id fields) s with hstate | hstate
      · rw [hstate]
        exact Or.inr ⟨hrow, rfl⟩
      · have hafter : (world.write (.updateCaseFields base.id fields) s).caseByID base.id =
            some (if fields.refused then row else row.written fields) := by
          rw [World.caseByID_update, hrow]
          rfl
        rw [hstate]
        by_cases hrefused : fields.refused = true
        · rw [if_pos hrefused] at hafter
          exact Or.inr ⟨hafter, rfl⟩
        · rw [if_neg hrefused] at hafter
          exact Or.inl hafter
  have hlearns : ∀ stage : Stage, stage = .wrote ocrText ∨ stage = .unsure ocrText →
      Learns python base.id call { call with stage } := by
    rintro stage (rfl | rfl)
    · exact ⟨rfl, rfl, fun _ => nofun, fun _ _ => nofun⟩
    · exact ⟨rfl, rfl, fun _ => nofun, fun _ _ => nofun⟩
  have hobserved : (following python).observe call s (.updateCaseFields base.id fields)
      (world.handle (.updateCaseFields base.id fields) s).1 =
      { call with stage :=
          if hasRaised (world.handle (.updateCaseFields base.id fields) s).1 then .unsure ocrText
          else .wrote ocrText } := by
    simp only [following, hstage]
    cases (world.handle (.updateCaseFields base.id fields) s).1 <;> rfl
  rw [hobserved]
  have hnamed := fun caseNo (hnamed : NamesCase python s base.id caseNo) =>
    hnamed.rewritten hcases hkept
  split
  · obtain ⟨hnames, hunnumbered, hholding⟩ := h.others hnamed hcall (hlearns _ (Or.inr rfl))
    rcases hfound with hwritten | ⟨hsame, _⟩
    · exact ⟨⟨_, _, hwritten, hstoredTexts.1, hstoredTexts.2,
        happended.wrote hcall hunsettled (Or.inr ⟨ocrText, rfl⟩) rfl (by rw [hstage]; rfl)
          hwrittenTexts.1 hwrittenTexts.2⟩, hnames, hunnumbered, hholding⟩
    · refine ⟨⟨row, order, hsame, hstored, hstoredOCR, happended.still hcall rfl ?_ ?_ ⟨rfl, rfl⟩⟩,
        hnames, hunnumbered, hholding⟩
      · exact fun hsettled => absurd hsettled hunsettled
      · rintro ⟨_, habsurd⟩
        exact nomatch habsurd
  next hanswered =>
    obtain ⟨hnames, hunnumbered, hholding⟩ := h.others hnamed hcall (hlearns _ (Or.inl rfl))
    rcases hfound with hwritten | ⟨_, hraised⟩
    · exact ⟨⟨_, _, hwritten, hstoredTexts.1, hstoredTexts.2,
        happended.wrote hcall hunsettled (Or.inl ⟨ocrText, rfl⟩) rfl (by rw [hstage]; rfl)
          hwrittenTexts.1 hwrittenTexts.2⟩, hnames, hunnumbered, hholding⟩
    · exact absurd hraised hanswered

-- What a call may know of its case before it has written.
def Stage.Sound (python : Python.Runtime) (caseID : Int) (caseNo : String) : Stage → Prop
  | .unnumbered _ => digitsOf python caseNo = some caseID
  | .holding _ case => case.id = caseID
  | .wrote _ | .unsure _ => False
  | .arriving | .reading _ => True

theorem Following.step_unsettled (h : Following python base s calls)
    (hcall : calls[i]? = some call) (hop : op.KeepsTexts) (hopens : ∀ item, op ≠ .createCase item)
    (hunsettled : ¬call.Settled)
    (hsound : (call.stage.observe op (world.handle op s).1).Sound python base.id call.caseNo) :
    Following python base (world.handle op s).2
      (calls.set i ((following python).observe call s op (world.handle op s).1)) := by
  refine h.step_still hcall hop hopens ⟨rfl, rfl, fun ocrText hlater => ?_,
    fun ocrText case hlater => ?_⟩ (fun hdone => absurd hdone hunsettled) ?_
  · change call.stage.observe op (world.handle op s).1 = _ at hlater
    rw [hlater] at hsound
    exact hsound
  · change call.stage.observe op (world.handle op s).1 = _ at hlater
    rw [hlater] at hsound
    exact hsound
  · rintro ⟨ocrText, hlater⟩
    change call.stage.observe op (world.handle op s).1 = _ at hlater
    rw [hlater] at hsound
    exact hsound.elim

-- What a call reads of its case is sound, by its number as by its id.
theorem read_by_number (h : Following python base s calls) (hmem : call ∈ calls) (ocrText : String) :
    ((Stage.reading ocrText).observe (.getCaseByNo call.caseNo)
      (world.handle (.getCaseByNo call.caseNo) s).1).Sound python base.id call.caseNo := by
  cases hanswer : (world.handle (.getCaseByNo call.caseNo) s).1 with
  | error failure => trivial
  | ok found =>
    have hfound : s.caseByNo call.caseNo = found :=
      Except.ok.inj (world.handle_ok _ s hanswer).1
    obtain ⟨row, _, hrow, _⟩ := h.appended
    cases found with
    | none =>
      rcases h.named call hmem with hsame | ⟨_, hdigits⟩
      · rw [hfound, hrow] at hsame
        exact nomatch hsame
      · exact hdigits
    | some case =>
      rcases h.named call hmem with hsame | ⟨hnone, _⟩
      · exact World.caseByID_id (hsame.symm.trans hfound)
      · exact nomatch hnone.symm.trans hfound

theorem read_by_id (caseID : Int) (ocrText : String) (hdigits : digitsOf python call.caseNo = some caseID) :
    ((Stage.unnumbered ocrText).observe (.getCaseByID caseID)
      (world.handle (.getCaseByID caseID) s).1).Sound python caseID call.caseNo := by
  cases hanswer : (world.handle (.getCaseByID caseID) s).1 with
  | error failure => exact hdigits
  | ok found =>
    have hfound : s.caseByID caseID = found := Except.ok.inj (world.handle_ok _ s hanswer).1
    cases found with
    | none => exact hdigits
    | some case => exact World.caseByID_id hfound

theorem Following.step (h : Following python base s calls) (hcall : calls[i]? = some call)
    (hallowed : call.Allows python op) (hfresh : Fresh s call op) :
    Following python base (world.handle op s).2
      (calls.set i ((following python).observe call s op (world.handle op s).1)) := by
  have hmem : call ∈ calls := List.mem_of_getElem? hcall
  have hopens := allowed_opens_nothing hallowed
  have hunsettled : ∀ stage, call.stage = stage → (∀ ocrText, stage ≠ .wrote ocrText) →
      (∀ ocrText, stage ≠ .unsure ocrText) → ¬call.Settled := by
    rintro stage hstage hwrote hunsure (⟨ocrText, hdone⟩ | ⟨ocrText, hdone⟩)
    · exact hwrote ocrText (hstage.symm.trans hdone)
    · exact hunsure ocrText (hstage.symm.trans hdone)
  unfold FollowUp.Allows at hallowed
  cases hstage : call.stage with
  | arriving =>
    rw [hstage] at hallowed
    obtain ⟨text, images, rfl⟩ := hallowed
    refine h.step_unsettled hcall trivial hopens (hunsettled _ hstage nofun nofun) ?_
    rw [hstage]
    cases (world.handle (.analyzeImages text images) s).1 <;> trivial
  | reading ocrText =>
    rw [hstage] at hallowed
    obtain rfl := hallowed
    refine h.step_unsettled hcall trivial hopens (hunsettled _ hstage nofun nofun) ?_
    rw [hstage]
    exact read_by_number h hmem ocrText
  | unnumbered ocrText =>
    rw [hstage] at hallowed
    obtain ⟨caseID, hdigits, rfl⟩ := hallowed
    refine h.step_unsettled hcall trivial hopens (hunsettled _ hstage nofun nofun) ?_
    obtain rfl := Option.some.inj (hdigits.symm.trans (h.unnumbered call hmem ocrText hstage))
    rw [hstage]
    exact read_by_id base.id ocrText hdigits
  | holding ocrText case =>
    rw [hstage] at hallowed
    rcases hallowed with ⟨item, rfl⟩ | rfl
    · refine h.step_unsettled hcall trivial hopens (hunsettled _ hstage nofun nofun) ?_
      rw [hstage]
      have hid := h.holding call hmem ocrText case hstage
      cases (world.handle (.addMessage item) s).1 <;> exact hid
    · refine h.step_write hcall hstage rfl ?_
      simpa only [Fresh, hstage] using hfresh
  | wrote ocrText =>
    rw [hstage] at hallowed
    have hsame : (following python).observe call s op (world.handle op s).1 = call := by
      simp only [following, hstage, Stage.observe_wrote]
      rw [← hstage]
    rw [hsame]
    refine h.step_still hcall hallowed hopens ⟨rfl, rfl, h.unnumbered call hmem, h.holding call hmem⟩
      (fun hdone => ⟨hdone, rfl⟩) id
  | unsure ocrText =>
    rw [hstage] at hallowed
    exact hallowed.elim

end Steps

section Interleavings

variable (p : AgentPlatform) (world : World) (calls : List ChatCall) (s : CaseStore)

def ChatCall.program (call : ChatCall) : Prog CaseCalls (Except String CasePayload) :=
  (p.submitChat call.message call.title call.caseNo call.images call.asyncProcess).run

def chatting : Pool CaseCalls CaseStore FollowUp (Except String CasePayload) :=
  ⟨s, calls.map fun call => ⟨⟨call.caseNo, strip call.message, .arriving⟩, call.program p⟩⟩

def chatted (schedule : List Nat) :
    Pool CaseCalls CaseStore FollowUp (Except String CasePayload) :=
  (chatting p calls s).runs world.machine (following p.python) schedule

-- Every call has answered, and none has raised.
def AllAnswered {γ α : Type} (pool : Pool CaseCalls CaseStore γ (Except String α)) : Prop :=
  ∀ thread ∈ pool.threads,
    thread.program.returned.any (fun outcome => !hasRaised outcome) = true

instance {γ α : Type} (pool : Pool CaseCalls CaseStore γ (Except String α)) :
    Decidable (AllAnswered pool) :=
  inferInstanceAs (Decidable (∀ thread ∈ pool.threads, _ = true))

theorem AllAnswered.payload {γ α : Type} {pool : Pool CaseCalls CaseStore γ (Except String α)}
    (h : AllAnswered pool) {thread : Thread CaseCalls γ (Except String α)}
    (hthread : thread ∈ pool.threads) :
    ∃ payload, thread.program.returned = some (.ok payload) := by
  obtain ⟨outcome, houtcome, hanswered⟩ := (Option.any_eq_true _ _).mp (h thread hthread)
  cases outcome with
  | ok payload => exact ⟨payload, houtcome⟩
  | error failure => exact nomatch hanswered

-- What the texts of a case come to when calls on it have written in an order.
structure TextsAre (base row : Case) (userTexts ocrTexts : List String) (order : List Nat) :
    Prop where
  original : row.originalText = appendBlocks "用户补充" userTexts order base.originalText
  ocr : row.ocrText = appendBlocks "图片识别补充" ocrTexts order base.ocrText

theorem chatting_conforms (hcalls : ∀ call ∈ calls, call.caseNo ≠ "") :
    (chatting p calls s).Conforms (following p.python) fun call outcome =>
      ∀ payload, outcome = .ok payload → call.Written := by
  intro thread hthread
  obtain ⟨call, hcall, rfl⟩ := List.mem_map.mp hthread
  dsimp only [ChatCall.program]
  have hfollows := submitChat_follows p call.message call.title call.images call.asyncProcess
    (hcalls call hcall) _ rfl
  refine Prog.follows_mono _ _ _ _ _ (fun later outcome hlater payload hpayload => ?_) hfollows
  rw [hpayload] at hlater
  exact hlater

variable {s} {base : Case}

theorem following_start (hrow : s.caseByID base.id = some base)
    (htexts : stored base.originalText = base.originalText ∧ stored base.ocrText = base.ocrText)
    (hcalls : ∀ call ∈ calls, NamesCase p.python s base.id call.caseNo) :
    Following p.python base s (chatting p calls s).ghosts := by
  have harriving : ∀ call ∈ (chatting p calls s).ghosts,
      call.stage = .arriving ∧ NamesCase p.python s base.id call.caseNo := by
    intro call hcall
    obtain ⟨thread, hthread, rfl⟩ := List.mem_map.mp hcall
    obtain ⟨chat, hchat, rfl⟩ := List.mem_map.mp hthread
    exact ⟨rfl, hcalls chat hchat⟩
  refine ⟨⟨base, [], hrow, htexts.1, htexts.2, List.nodup_nil, fun _ habsurd => ?_, ?_, rfl, rfl⟩,
    fun call hcall => (harriving call hcall).2, ?_, ?_⟩
  · exact absurd habsurd List.not_mem_nil
  · rintro i call hi ⟨ocrText, hstage⟩
    exact nomatch (harriving call (List.mem_of_getElem? hi)).1.symm.trans hstage
  · exact fun call hcall ocrText hstage => nomatch (harriving call hcall).1.symm.trans hstage
  · exact fun call hcall ocrText case hstage => nomatch (harriving call hcall).1.symm.trans hstage

-- However the calls on a case interleave, if each writes its texts where they still are as
-- it has read them, then the texts have one block for each call that has written, in the
-- order of the writes, and in the end for each call.
theorem follow_ups_kept (p : AgentPlatform) (world : World) (base : Case) (calls : List ChatCall)
    (s : CaseStore) (schedule : List Nat) (hrow : s.caseByID base.id = some base)
    (htexts : stored base.originalText = base.originalText ∧ stored base.ocrText = base.ocrText)
    (hcalls : ∀ call ∈ calls, call.caseNo ≠ "" ∧ NamesCase p.python s base.id call.caseNo)
    (hfresh : Pool.Meets world.machine (following p.python)
      (fun pool i => ∀ call op, pool.pending i = some (call, op) → Fresh pool.state call op)
      (chatting p calls s) schedule) :
    let pool := chatted p world calls s schedule
    ∃ row order, pool.state.caseByID base.id = some row ∧
      TextsAre base row (calls.map fun call => strip call.message)
        (pool.ghosts.map fun call => call.stage.ocrText) order ∧
      order.Nodup ∧ (∀ i ∈ order, ∃ call, pool.ghosts[i]? = some call ∧ call.Settled) ∧
      (AllAnswered pool → order.Perm (List.range calls.length)) := by
  intro pool
  have hstart : (chatting p calls s).ghosts.map FollowUp.userText =
      calls.map fun call => strip call.message := by
    simp [chatting, Pool.ghosts]
  obtain ⟨hconforms, ⟨hfollowing, huser⟩⟩ := Pool.conforming_runs world.machine (following p.python)
    (fun (call : FollowUp) (outcome : Except String CasePayload) =>
      ∀ payload, outcome = .ok payload → call.Written)
    (fun state followUps => Following p.python base state followUps ∧
      followUps.map FollowUp.userText = calls.map fun call => strip call.message)
    (fun state _ _ call op => Fresh state call op)
    (fun state followUps i call op hinvariant hcall hallowed _ hcondition =>
      ⟨handle_identified world op state, hinvariant.1.step hcall hallowed hcondition,
        (userTexts_kept hcall state op _).trans hinvariant.2⟩)
    (chatting p calls s) (chatting_conforms p calls s fun call hcall => (hcalls call hcall).1)
    ⟨following_start p calls hrow htexts fun call hcall => (hcalls call hcall).2, hstart⟩
    schedule hfresh
  obtain ⟨row, order, hfound, _, _, happended⟩ := hfollowing.appended
  refine ⟨row, order, hfound, ⟨?_, happended.ocr⟩, happended.once, happended.settled, ?_⟩
  · rw [← huser]
    exact happended.original
  · intro hanswered
    have hlength : pool.ghosts.length = calls.length := by
      have hmapped := congrArg List.length huser
      rw [List.length_map, List.length_map] at hmapped
      exact hmapped
    refine (List.perm_ext_iff_of_nodup happended.once List.nodup_range).mpr fun i => ?_
    rw [List.mem_range, ← hlength]
    constructor
    · intro hi
      obtain ⟨call, hcall, _⟩ := happended.settled i hi
      exact (List.getElem?_eq_some_iff.mp hcall).1
    · intro hi
      have hthreads : i < pool.threads.length := by simpa [Pool.ghosts] using hi
      obtain ⟨payload, hpayload⟩ := hanswered.payload (List.getElem_mem hthreads)
      have hdone := hconforms _ (List.getElem_mem hthreads)
      rw [Prog.eq_ret_of_returned hpayload, Prog.follows_ret] at hdone
      refine happended.written i _ ?_ (hdone payload rfl)
      change (pool.threads.map Thread.ghost)[i]? = some pool.threads[i].ghost
      rw [List.getElem?_map, List.getElem?_eq_getElem hthreads]
      rfl

-- A case with a text, and two follow-ups on it.
def Sample.reported : Case :=
  { id := 1, caseNo := "case_1", uid := "u1", originalText := "lost" }

def Sample.followUps : List ChatCall :=
  [{ message := "a", caseNo := "case_1", asyncProcess := true },
    { message := "b", caseNo := "case_1", asyncProcess := true }]

-- The second follow-up reads the case when the first has written it.
def Sample.oneAfterTheOther : List Nat := List.replicate 20 0 ++ List.replicate 20 1

theorem follow_ups_kept_one_after_the_other :
    let pool := chatted Sample.platform Sample.world Sample.followUps
      (Sample.opened "lost") Sample.oneAfterTheOther
    ∃ row order, pool.state.caseByID 1 = some row ∧
      TextsAre Sample.reported row ["a", "b"] ["", ""] order ∧
      order.Perm [0, 1] := by
  have hsound : ∀ (pool : Pool CaseCalls CaseStore FollowUp (Except String CasePayload)) i,
      ((pool.pending i).all fun call => decide (Fresh pool.state call.1 call.2)) = true →
      ∀ call op, pool.pending i = some (call, op) → Fresh pool.state call op := by
    intro pool i hcheck call op hpending
    rw [hpending] at hcheck
    exact of_decide_eq_true hcheck
  have hcalls : ∀ call ∈ Sample.followUps, call.caseNo ≠ "" ∧
      NamesCase Sample.platform.python (Sample.opened "lost") 1 call.caseNo := by
    intro call hcall
    have hnumber : call.caseNo = "case_1" := by
      simp only [Sample.followUps, List.mem_cons, List.not_mem_nil, or_false] at hcall
      rcases hcall with rfl | rfl <;> rfl
    rw [hnumber]
    exact ⟨by decide, Or.inl rfl⟩
  obtain ⟨row, order, hrow, htexts, _, _, hperm⟩ := follow_ups_kept Sample.platform Sample.world
    Sample.reported Sample.followUps (Sample.opened "lost") Sample.oneAfterTheOther
    rfl (by decide +kernel) hcalls (Pool.Meets.of_meets _ _ hsound (by decide +kernel))
  have hended : AllAnswered (chatted Sample.platform Sample.world Sample.followUps
        (Sample.opened "lost") Sample.oneAfterTheOther) ∧
      (chatted Sample.platform Sample.world Sample.followUps (Sample.opened "lost")
        Sample.oneAfterTheOther).ghosts.map (fun call => call.stage.ocrText) = ["", ""] := by
    decide +kernel
  rw [hended.2] at htexts
  exact ⟨row, order, hrow, htexts, hperm hended.1⟩

theorem orders_of_two {order : List Nat} (h : order.Perm [0, 1]) :
    order = [0, 1] ∨ order = [1, 0] := by
  match order, h.length_eq with
  | [first, second], _ =>
    have hnodup : [first, second].Nodup := h.nodup_iff.mpr (by decide)
    have hne : first ≠ second := by simpa using hnodup
    have hfirst : first = 0 ∨ first = 1 := by simpa using h.subset (List.mem_cons_self)
    have hsecond : second = 0 ∨ second = 1 := by
      simpa using h.subset (List.mem_cons_of_mem _ List.mem_cons_self)
    rcases hfirst with rfl | rfl <;> rcases hsecond with rfl | rfl <;> simp at hne ⊢

-- Both follow-ups read the case before either has written it, and the first block is lost.
theorem follow_up_lost :
    ¬∀ (calls : List ChatCall) (schedule : List Nat),
      (∀ call ∈ calls, call.caseNo = "case_1") →
      AllAnswered (chatted Sample.platform Sample.world calls (Sample.opened "lost")
        schedule) →
      ∃ row order, (chatted Sample.platform Sample.world calls
          (Sample.opened "lost") schedule).state.caseByID 1 = some row ∧
        row.originalText = appendBlocks "用户补充" (calls.map fun call => strip call.message) order
          Sample.reported.originalText ∧
        order.Perm (List.range calls.length) := by
  intro h
  have hlost :
      let pool := chatted Sample.platform Sample.world Sample.followUps
        (Sample.opened "lost")
        ([0, 1, 0, 1] ++ List.replicate 20 0 ++ List.replicate 20 1)
      AllAnswered pool ∧ (pool.state.caseByID 1).map Case.originalText =
        some "lost\n用户补充：b" := by decide +kernel
  obtain ⟨row, order, hrow, htext, hperm⟩ := h Sample.followUps _
    (by simp [Sample.followUps]) hlost.1
  have hfound := hlost.2
  rw [hrow, Option.map_some, htext, Option.some.injEq] at hfound
  rcases orders_of_two hperm with rfl | rfl
  · exact absurd hfound (by decide +kernel)
  · exact absurd hfound (by decide +kernel)

end Interleavings

end Troubleshooter.Platform
