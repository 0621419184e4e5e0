import Troubleshooter.Gateway.Pinning

namespace Troubleshooter.Gateway

open Troubleshooter.Library
open Troubleshooter.Go (Map)
open Troubleshooter.Tool (Arguments)

-- The number that a value stands for: a JSON number, or a text with a whole number in it.
def numberOf : Value → Option ℚ
  | .int value => some value
  | .float value => some value
  | .str text => (Go.atoi (Go.trimSpace text)).map fun value => value
  | _ => none

def exceeds (value : Value) (maxLimit : Int) : Bool :=
  (numberOf value).any fun number => decide ((maxLimit : ℚ) < number)

-- The time that a value stands for.
def timeOf (host : Host) : Value → Option Go.Time
  | .str text => (parseTime host text).toOption
  | _ => none

-- Two values that stand for times further apart than a tool may ask for.
def tooLong (host : Host) (decision : Policy.Decision) (start finish : Value) : Bool :=
  (timeOf host start).any fun start => (timeOf host finish).any fun finish =>
    decide (Go.Duration.times decision.maxTimeRangeMinutes Go.Duration.minute <
      Go.Time.sub finish start)

-- The bounds on what the caller has supplied under the three names of a forwarded map.
structure Within (host : Host) (decision : Policy.Decision) (fixed : List (String × Value))
    (out : Map String Value) : Prop where
  limit : 0 < decision.maxLimit → "limit" ∉ Reconcile.keys fixed →
    ∀ value, out.get? "limit" = some value → exceeds value decision.maxLimit = false
  range : 0 < decision.maxTimeRangeMinutes → "start_time" ∉ Reconcile.keys fixed →
    "end_time" ∉ Reconcile.keys fixed → ∀ start finish, out.get? "start_time" = some start →
      out.get? "end_time" = some finish → tooLong host decision start finish = false

-- A given argument that is mapped to a name, and one that keeps its name.
def Renamed (args : Arguments) (paramMap : List (String × String)) (name : String)
    (value : Value) : Prop :=
  ∃ source, (source, name) ∈ paramMap ∧ args.lookup source = some value

def Kept (args : Arguments) (paramMap : List (String × String)) (name : String)
    (value : Value) : Prop :=
  (∀ source, (source, name) ∈ paramMap → args.lookup source = none) ∧ args.lookup name = some value

-- What the check of the bounds does not see: an argument that gets its name by the mapping, and
-- what int() cuts off a number.
structure Unseen (host : Host) (decision : Policy.Decision) (args : Arguments)
    (paramMap : List (String × String)) (fixed : List (String × Value)) : Prop where
  limit : 0 < decision.maxLimit → "limit" ∉ Reconcile.keys fixed →
    ∀ value, Renamed args paramMap "limit" value → exceeds value decision.maxLimit = false
  cut : 0 < decision.maxLimit → "limit" ∉ Reconcile.keys fixed →
    ∀ number, Kept args paramMap "limit" (.float number) → number ≤ decision.maxLimit
  range : 0 < decision.maxTimeRangeMinutes → "start_time" ∉ Reconcile.keys fixed →
    "end_time" ∉ Reconcile.keys fixed → ∀ start finish,
      (Renamed args paramMap "start_time" start ∧ Renamed args paramMap "end_time" finish) ∨
        (Renamed args paramMap "start_time" start ∧ Kept args paramMap "end_time" finish) ∨
        (Kept args paramMap "start_time" start ∧ Renamed args paramMap "end_time" finish) →
      tooLong host decision start finish = false

section Checked

variable {host : Host} {decision : Policy.Decision} {args : Arguments}

theorem validateBoundary_eq_none (h : validateBoundary host args decision = none) :
    checkLimit args decision = none ∧ ∃ start finish, timeArg host args "start_time" = .ok start ∧
      timeArg host args "end_time" = .ok finish ∧ checkTimeRange start finish decision = none := by
  unfold validateBoundary at h
  split at h
  next => exact nomatch h
  next hlimit =>
    split at h
    next => exact nomatch h
    next start hstart =>
      split at h
      next => exact nomatch h
      next finish hfinish => exact ⟨hlimit, start, finish, hstart, hfinish, h⟩

theorem timeArg_of_lookup {name : String} {value : Value} {read : Option Go.Time}
    (h : timeArg host args name = .ok read) (hvalue : args.lookup name = some value) :
    read = timeOf host value := by
  unfold timeArg Go.index at h
  rw [hvalue, Option.getD_some] at h
  cases value with
  | null => exact (Except.ok.inj h).symm
  | str text =>
    dsimp only at h
    split at h
    next => exact nomatch h
    next =>
      split at h
      next time hparse =>
        have hread : timeOf host (.str text) = some time := congrArg Except.toOption hparse
        rw [hread]
        exact (Except.ok.inj h).symm
      next => exact nomatch h
  | _ => exact nomatch h

theorem checkTimeRange_eq_none {start finish : Go.Time} (hrange : 0 < decision.maxTimeRangeMinutes)
    (h : checkTimeRange (some start) (some finish) decision = none) :
    ¬Go.Duration.times decision.maxTimeRangeMinutes Go.Duration.minute <
      Go.Time.sub finish start := by
  intro hlong
  unfold checkTimeRange at h
  dsimp only at h
  split at h
  next => exact nomatch h
  next =>
    rw [if_pos ⟨hrange, hlong⟩] at h
    exact nomatch h

-- What the check has let through under the names themselves is within the bounds, but for what
-- int() cuts off.
theorem exceeds_of_checked (h : validateBoundary host args decision = none)
    (hmax : 0 < decision.maxLimit) {value : Value} (hvalue : args.lookup "limit" = some value) :
    exceeds value decision.maxLimit = true →
      ∃ number, value = .float number ∧ ¬number ≤ decision.maxLimit := by
  intro hexceeds
  have hlimit := (validateBoundary_eq_none h).1
  unfold checkLimit intArg Go.index at hlimit
  rw [hvalue, Option.getD_some] at hlimit
  cases value with
  | int number =>
    have hlarge : (decision.maxLimit : ℚ) < number := by simpa [exceeds, numberOf] using hexceeds
    have hlarge : decision.maxLimit < number := Rat.intCast_lt_intCast.mp hlarge
    simp [hmax, hlarge] at hlimit
  | float number => 
    exact ⟨number, rfl, Rat.not_le.mpr (by simpa [exceeds, numberOf] using hexceeds)⟩
  | str text =>
    cases hread : Go.atoi (Go.trimSpace text) with
    | none => simp [exceeds, numberOf, hread] at hexceeds
    | some number =>
      have hlarge : (decision.maxLimit : ℚ) < number := by
        simpa [exceeds, numberOf, hread] using hexceeds
      have hlarge : decision.maxLimit < number := Rat.intCast_lt_intCast.mp hlarge
      simp [hread, hmax, hlarge] at hlimit
  | _ => exact nomatch hexceeds

theorem not_tooLong_of_checked (h : validateBoundary host args decision = none)
    (hrange : 0 < decision.maxTimeRangeMinutes) {start finish : Value}
    (hstart : args.lookup "start_time" = some start)
    (hfinish : args.lookup "end_time" = some finish) :
    tooLong host decision start finish = false := by
  obtain ⟨-, first, second, hfirst, hsecond, hcheck⟩ := validateBoundary_eq_none h
  rw [timeArg_of_lookup hfirst hstart, timeArg_of_lookup hsecond hfinish] at hcheck
  unfold tooLong
  cases hread : timeOf host start with
  | none => rfl
  | some first =>
    cases hread' : timeOf host finish with
    | none => rfl
    | some second =>
      rw [hread, hread'] at hcheck
      exact decide_eq_false (checkTimeRange_eq_none hrange hcheck)

end Checked

section Forwarded

variable {args : Arguments} {paramMap : List (String × String)} {fixed : List (String × Value)}
  {name : String}

theorem sent_of_renamed {value : Value} (hname : name ≠ "") (hfixed : name ∉ Reconcile.keys fixed)
    (h : Renamed args paramMap name value) : Sent args paramMap fixed name value :=
  .mapped hfixed (mem_mapped_iff.mpr ⟨hname, h⟩)

theorem sent_of_kept {value : Value} (hargs : (Reconcile.keys args).Nodup) (hname : name ≠ "")
    (hfixed : name ∉ Reconcile.keys fixed) (h : Kept args paramMap name value) :
    Sent args paramMap fixed name value :=
  .own hfixed ((not_mem_keys_mapped_iff hname).mpr h.1) ((Reconcile.lookup_eq_some_iff hargs _).mp h.2)

theorem renamed_or_kept {value : Value} (hargs : (Reconcile.keys args).Nodup) (hname : name ≠ "")
    (hfixed : name ∉ Reconcile.keys fixed) (h : Sent args paramMap fixed name value) :
    Renamed args paramMap name value ∨ Kept args paramMap name value := by
  cases h with
  | fixed hvalue => exact absurd (Reconcile.mem_keys hvalue) hfixed
  | mapped _ hvalue => exact .inl (mem_mapped_iff.mp hvalue).2
  | own _ hunmapped hvalue =>
    exact .inr ⟨(not_mem_keys_mapped_iff hname).mp hunmapped,
      (Reconcile.lookup_eq_some_iff hargs _).mpr hvalue⟩

end Forwarded

-- The bounds that the caller's arguments have been checked for hold of what is forwarded
-- exactly where nothing is brought under the three names unseen.
theorem forwards_within_iff (host : Host) (decoder : Decoder) (decision : Policy.Decision)
    (closure : DynamicHandler) (args : Arguments) (hargs : (Reconcile.keys args).Nodup)
    (hreaches : requireDynamicParams host.go args closure.requiredParams = none)
    (haccepted : validateBoundary host args decision = none) :
    (∀ out, closure.Forwards host.go decoder args out →
        Within host decision (fixedParamsOf decoder closure.item.fixedParamsJSON) out) ↔
      Unseen host decision args (paramMapOf decoder closure.item.paramMapJSON)
        (fixedParamsOf decoder closure.item.fixedParamsJSON) := by
  have hfixed := fixedParamsOf_nodup decoder closure.item.fixedParamsJSON
  constructor
  · intro hwithin
    have hforwards : ∀ paramMap : List (String × String),
        paramMap.Perm (paramMapOf decoder closure.item.paramMapJSON) →
        Within host decision (fixedParamsOf decoder closure.item.fixedParamsJSON)
          (dynamicArgs args paramMap (fixedParamsOf decoder closure.item.fixedParamsJSON)) :=
      fun paramMap hparamMap => hwithin _
        ⟨hreaches, args, paramMap, _, .refl _, hparamMap, .refl _, rfl⟩
    refine ⟨fun hmax hnone value hvalue => ?_, fun hmax hnone number hnumber => ?_,
      fun hrange hstart hend start finish hvalues => ?_⟩
    · obtain ⟨paramMap, hparamMap, hget⟩ := exists_get?_of_sent hargs hfixed
        (sent_of_renamed (by decide) hnone hvalue)
      exact (hforwards paramMap hparamMap).limit hmax hnone value hget
    · obtain ⟨paramMap, hparamMap, hget⟩ := exists_get?_of_sent hargs hfixed
        (sent_of_kept hargs (by decide) hnone hnumber)
      have hbound := (hforwards paramMap hparamMap).limit hmax hnone _ hget
      exact Rat.not_lt.mp (of_decide_eq_false hbound)
    · have hsent : Sent args (paramMapOf decoder closure.item.paramMapJSON)
            (fixedParamsOf decoder closure.item.fixedParamsJSON) "start_time" start ∧
          Sent args (paramMapOf decoder closure.item.paramMapJSON)
            (fixedParamsOf decoder closure.item.fixedParamsJSON) "end_time" finish := by
        rcases hvalues with ⟨hfirst, hsecond⟩ | ⟨hfirst, hsecond⟩ | ⟨hfirst, hsecond⟩
        · exact ⟨sent_of_renamed (by decide) hstart hfirst,
            sent_of_renamed (by decide) hend hsecond⟩
        · exact ⟨sent_of_renamed (by decide) hstart hfirst,
            sent_of_kept hargs (by decide) hend hsecond⟩
        · exact ⟨sent_of_kept hargs (by decide) hstart hfirst,
            sent_of_renamed (by decide) hend hsecond⟩
      obtain ⟨paramMap, hparamMap, hget, hget'⟩ := exists_get?_of_sent_two hargs hfixed
        (by decide) hsent.1 hsent.2
      exact (hforwards paramMap hparamMap).range hrange hstart hend start finish hget hget'
  · rintro hunseen out ⟨-, args', paramMap, fixed, hargs', hparamMap, hfixed', rfl⟩
    refine ⟨fun hmax hnone value hget => ?_, fun hrange hstart hend start finish hget hget' => ?_⟩
    · have hsent := sent_of_get? hargs hargs' hparamMap hfixed' hget
      rcases renamed_or_kept hargs (by decide) hnone hsent with hrenamed | hkept
      · exact hunseen.limit hmax hnone value hrenamed
      · refine Bool.eq_false_iff.mpr fun hexceeds => ?_
        obtain ⟨number, rfl, hlarge⟩ := exceeds_of_checked haccepted hmax hkept.2 hexceeds
        exact hlarge (hunseen.cut hmax hnone number hkept)
    · have hsent := sent_of_get? hargs hargs' hparamMap hfixed' hget
      have hsent' := sent_of_get? hargs hargs' hparamMap hfixed' hget'
      rcases renamed_or_kept hargs (by decide) hstart hsent with hfirst | hfirst
      · rcases renamed_or_kept hargs (by decide) hend hsent' with hsecond | hsecond
        · exact hunseen.range hrange hstart hend start finish (.inl ⟨hfirst, hsecond⟩)
        · exact hunseen.range hrange hstart hend start finish (.inr (.inl ⟨hfirst, hsecond⟩))
      · rcases renamed_or_kept hargs (by decide) hend hsent' with hsecond | hsecond
        · exact hunseen.range hrange hstart hend start finish (.inr (.inr ⟨hfirst, hsecond⟩))
        · exact not_tooLong_of_checked haccepted hrange hfirst.2 hsecond.2

-- A decoder that knows one text.
def pageSize : Decoder where
  parse raw :=
    if raw = "\x7b\"page_size\":\"limit\"\x7d" then some (.map [("page_size", .str "limit")])
    else none
  distinct raw entries h := by
    split at h
    next => cases h; decide
    next => exact nomatch h

def pagedTool : DynamicHandler where
  item := ordersRow "\x7b\"page_size\":\"limit\"\x7d" ""
  baseURL := "http://orders:8080"
  apiKey := ""
  timeout := Go.Duration.times 5 Go.Duration.second
  requiredParams := []

def hundred : Policy.Decision := { allowed := true, maxLimit := 100, maxTimeRangeMinutes := 30 }

def pageOf (size : ℚ) : Arguments := [("page_size", .float size)]

theorem forwards_within_iff_paged :
    (∀ out, pagedTool.Forwards .ascii pageSize (pageOf 50) out →
        Within .plain hundred (fixedParamsOf pageSize pagedTool.item.fixedParamsJSON) out) ↔
      Unseen .plain hundred (pageOf 50) (paramMapOf pageSize pagedTool.item.paramMapJSON)
        (fixedParamsOf pageSize pagedTool.item.fixedParamsJSON) :=
  forwards_within_iff .plain pageSize hundred pagedTool (pageOf 50) (by decide) (by decide +kernel)
    (by decide +kernel)

theorem paramMapOf_pageSize :
    paramMapOf pageSize pagedTool.item.paramMapJSON = [("page_size", "limit")] := by
  decide +kernel

-- The check looks for limit, and finds it neither there nor too large.
theorem limit_unseen :
    validateBoundary .plain (pageOf 5000) hundred = none ∧
      ∃ out, pagedTool.Forwards .ascii pageSize (pageOf 5000) out ∧
        ¬Within .plain hundred (fixedParamsOf pageSize pagedTool.item.fixedParamsJSON) out := by
  have hblank : fixedParamsOf pageSize pagedTool.item.fixedParamsJSON = [] :=
    fixedParamsOf_blank pageSize
  refine ⟨by decide +kernel, dynamicArgs (pageOf 5000) [("page_size", "limit")] [],
    ⟨by decide +kernel, _, _, [], .refl _, ?_, ?_, rfl⟩, fun hwithin => ?_⟩
  · exact List.Perm.of_eq paramMapOf_pageSize.symm
  · exact List.Perm.of_eq hblank.symm
  · rw [hblank] at hwithin
    have hlimit := hwithin.limit (by decide) (by decide) (.float 5000) rfl
    exact absurd hlimit (by decide +kernel)

end Troubleshooter.Gateway
