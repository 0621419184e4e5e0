import Troubleshooter.Gateway.Forwarding
import Troubleshooter.Gateway.State
import Troubleshooter.Gateway.Invoke

namespace Troubleshooter.Gateway

open Troubleshooter.Library
open Troubleshooter.Go (Map)
open Troubleshooter.Capability (ToolCapability)
open Troubleshooter.Tool (Spec Arguments)

section Rows

variable (decoder : Decoder)

-- A text that is blank or can be decoded into what the handler decodes it into.
def Shaped {α : Type} (unmarshal : Option Value → α × Bool) (raw : String) : Prop :=
  Go.trimSpace raw = "" ∨ (unmarshal (decoder.parse raw)).2 = true

instance {α : Type} (unmarshal : Option Value → α × Bool) (raw : String) :
    Decidable (Shaped decoder unmarshal raw) := inferInstanceAs (Decidable (_ ∨ _))

structure ShapedRow (item : ToolCapability) : Prop where
  fixedParams : Shaped decoder unmarshalAny item.fixedParamsJSON
  paramMap : Shaped decoder unmarshalTexts item.paramMapJSON
  requiredParams : Shaped decoder unmarshalList item.requiredParamsJSON

-- The params that a row fixes and requires. A blank name stands for no param.
def FixedParam (item : ToolCapability) (name : String) (value : Value) : Prop :=
  Go.trimSpace item.fixedParamsJSON ≠ "" ∧
    ∃ entries, decoder.parse item.fixedParamsJSON = some (.map entries) ∧ (name, value) ∈ entries

def RequiredParam (item : ToolCapability) (name : String) : Prop :=
  Go.trimSpace item.requiredParamsJSON ≠ "" ∧ Go.trimSpace name ≠ "" ∧
    ∃ items, decoder.parse item.requiredParamsJSON = some (.list items) ∧ .str name ∈ items

-- What the law asks of a tool that has been registered for a row.
structure Pins (go : Go.Runtime) (item : ToolCapability) (closure : DynamicHandler) : Prop where
  forwards : ∀ args : Arguments, (Reconcile.keys args).Nodup →
    ∀ out, closure.Forwards go decoder args out →
      ∀ name value, FixedParam decoder item name value → out.get? name = some value
  rejects : ∀ args : Arguments, ∀ name, RequiredParam decoder item name →
    name ∉ Reconcile.keys args → requireDynamicParams go args closure.requiredParams ≠ none

variable {decoder} {go : Go.Runtime} {item : ToolCapability} {closure : DynamicHandler}

theorem fixedParamsOf_nodup (decoder : Decoder) (raw : String) :
    (Reconcile.keys (fixedParamsOf decoder raw)).Nodup := by
  unfold fixedParamsOf unmarshalAny
  split
  next => exact List.nodup_nil
  next =>
    split
    next entries hparse => exact decoder.distinct raw entries hparse
    next => exact List.nodup_nil
    next => exact List.nodup_nil

theorem fixedParam_mem {name : String} {value : Value} (h : FixedParam decoder item name value) :
    (name, value) ∈ fixedParamsOf decoder item.fixedParamsJSON := by
  obtain ⟨hset, entries, hparse, hmem⟩ := h
  unfold fixedParamsOf
  rw [if_neg hset, hparse]
  exact hmem

theorem requireDynamicParams_eq_none_iff {args : Arguments} {required : List String} :
    requireDynamicParams go args required = none ↔
      ∀ name ∈ required, Go.trimSpace name ≠ "" → missing go args name = false := by
  unfold requireDynamicParams
  rw [Option.map_eq_none_iff, List.find?_eq_none]
  simp

theorem missing_of_not_mem {args : Arguments} {name : String} (h : name ∉ Reconcile.keys args) :
    missing go args name = true := by
  unfold missing
  rw [Reconcile.lookup_eq_none_iff.mpr h]

-- Fixed params are written last, and no call gets past a missing param.
theorem pins_of_captured (hitem : closure.item = item)
    (hrequired : ∀ name, RequiredParam decoder item name → name ∈ closure.requiredParams) :
    Pins decoder go item closure where
  forwards := by
    rintro args hargs out ⟨-, args', paramMap, fixed, hargs', hparamMap, hfixed, rfl⟩ name value hparam
    rw [hitem] at hfixed
    have hnodup : (Reconcile.keys fixed).Nodup :=
      (hfixed.map Prod.fst).nodup_iff.mpr (fixedParamsOf_nodup decoder item.fixedParamsJSON)
    rw [get?_dynamicArgs]
    exact Reconcile.install_of_mem _ fixed hnodup name value
      (hfixed.mem_iff.mpr (fixedParam_mem hparam))
  rejects := by
    intro args name hparam hlacks hnone
    have hfound := requireDynamicParams_eq_none_iff.mp hnone name (hrequired name hparam) hparam.2.1
    rw [missing_of_not_mem hlacks] at hfound
    exact nomatch hfound

end Rows

variable {B : Type}

theorem registration_closure {host : Host} {getenv : String → String} {item : ToolCapability}
    {spec : Spec} {closure : DynamicHandler}
    (h : registration (B := B) host getenv item = .ok (spec, .dynamic closure)) :
    closure.item = item ∧ closure.requiredParams = jsonStringList host item.requiredParamsJSON := by
  unfold registration at h
  split at h
  next => exact nomatch h
  next =>
    split at h
    next => exact nomatch h
    next =>
      split at h
      next => exact nomatch h
      next =>
        have hclosure := (Prod.mk.inj (Except.ok.inj h)).2
        rw [← HandlerFunc.dynamic.inj hclosure]
        unfold dynamicHandler
        exact ⟨by dsimp only, by dsimp only⟩

-- A row is registered whatever its three texts are, and the law is kept where they can be
-- decoded.
theorem registration_pins_iff (host : Host) (decoder : Decoder) (getenv : String → String)
    (hstrings : ∀ raw, host.jsonStrings raw = (unmarshalList (decoder.parse raw)).1)
    (item : ToolCapability) (spec : Spec) (closure : DynamicHandler)
    (hregistered : registration (B := B) host getenv item = .ok (spec, .dynamic closure)) :
    (Pins decoder host.go item closure ∧
        (¬ShapedRow decoder item → (registration (B := B) host getenv item).isOk = false)) ↔
      ShapedRow decoder item := by
  constructor
  · rintro ⟨-, hrefused⟩
    by_contra hshape
    rw [hregistered] at hrefused
    exact nomatch hrefused hshape
  · intro hshape
    obtain ⟨hitem, hrequired⟩ := registration_closure hregistered
    refine ⟨pins_of_captured hitem fun name hparam => ?_, fun h => absurd hshape h⟩
    obtain ⟨hset, -, items, hparse, hmem⟩ := hparam
    rw [hrequired, jsonStringList, if_neg hset, hstrings, hparse]
    exact List.mem_map.mpr ⟨.str name, hmem, rfl⟩

-- A decoder that knows three texts.
def fewTexts : Decoder where
  parse raw :=
    if raw = "\x7b\"tenant\":\"a\"\x7d" then some (.map [("tenant", .str "a")])
    else if raw = "\x7b\"user\":\"uid\"\x7d" then some (.map [("user", .str "uid")])
    else if raw = "[\"uid\"]" then some (.list [.str "uid"])
    else none
  distinct raw entries h := by
    split at h
    next => cases h; decide
    next =>
      split at h
      next => cases h; decide
      next =>
        split at h
        next => cases h
        next => cases h

def fewTextsHost : Host :=
  { Host.plain with jsonStrings := fun raw => (unmarshalList (fewTexts.parse raw)).1 }

def ordersRow (paramMap fixedParams : String) : ToolCapability where
  toolName := "get_orders"
  sourceType := Capability.sourceMCP
  requiredScope := "orders:read"
  readonlyBaseURL := "http://orders:8080"
  readonlyPath := "/readonly/orders"
  paramMapJSON := paramMap
  fixedParamsJSON := fixedParams
  requiredParamsJSON := "[\"uid\"]"
  safetyStatus := Capability.safetyReadonlyCandidate
  toolStatus := Capability.statusEnabled

def ordersTool (paramMap fixedParams : String) : DynamicHandler :=
  dynamicHandler fewTextsHost (ordersRow paramMap fixedParams) "http://orders:8080" ""

theorem ordersRow_registered (paramMap fixedParams : String) :
    ∃ spec, registration (B := B) fewTextsHost noEnvironment (ordersRow paramMap fixedParams) =
      .ok (spec, .dynamic (ordersTool paramMap fixedParams)) := by
  have hconnector : newGenericReadonlyConnector fewTextsHost "http://orders:8080" =
      .ok "http://orders:8080" := by
    unfold newGenericReadonlyConnector
    dsimp only
    rw [if_neg (by decide +kernel)]
    decide +kernel
  have hschema : ∀ label, schemaOf fewTextsHost label "" = .ok [("type", .str "object")] := by
    intro label
    unfold schemaOf jsonObject
    rw [if_pos (by decide +kernel)]
  have hspec : ∃ spec, dynamicSpec fewTextsHost (ordersRow paramMap fixedParams) = .ok spec ∧
      Tool.Registry.refusal spec = none := by
    unfold dynamicSpec ordersRow
    dsimp only
    rw [if_neg (by decide), if_neg (by decide), if_neg (by decide +kernel), hschema, hschema]
    exact ⟨_, rfl, rfl⟩
  obtain ⟨spec, hspec, hrefusal⟩ := hspec
  refine ⟨Tool.Registry.withDefaults spec, ?_⟩
  unfold registration
  rw [hspec]
  dsimp only
  rw [show (ordersRow paramMap fixedParams).readonlyBaseURL = "http://orders:8080" from rfl,
    hconnector, hrefusal]
  rfl

theorem registration_pins_iff_orders :
    (Pins fewTexts .ascii (ordersRow "" "\x7b\"tenant\":\"a\"\x7d")
        (ordersTool "" "\x7b\"tenant\":\"a\"\x7d") ∧
      (¬ShapedRow fewTexts (ordersRow "" "\x7b\"tenant\":\"a\"\x7d") →
        (registration (B := Unit) fewTextsHost noEnvironment
          (ordersRow "" "\x7b\"tenant\":\"a\"\x7d")).isOk = false)) ↔
      ShapedRow fewTexts (ordersRow "" "\x7b\"tenant\":\"a\"\x7d") := by
  obtain ⟨spec, hregistered⟩ := ordersRow_registered (B := Unit) "" "\x7b\"tenant\":\"a\"\x7d"
  exact registration_pins_iff fewTextsHost fewTexts noEnvironment (fun _ => rfl) _ spec _ hregistered

theorem paramMapOf_blank (decoder : Decoder) : paramMapOf decoder "" = [] :=
  if_pos (by decide +kernel)

theorem fixedParamsOf_blank (decoder : Decoder) : fixedParamsOf decoder "" = [] :=
  if_pos (by decide +kernel)

theorem fixedParamsOf_malformed {decoder : Decoder} {raw : String}
    (h : (decoder.parse raw).isNone = true) : fixedParamsOf decoder raw = [] := by
  unfold fixedParamsOf
  rw [Option.isNone_iff_eq_none.mp h]
  exact ite_self _

-- A text that has been cut off fixes nothing any more, and the caller chooses the tenant.
theorem registration_unpinned :
    ∃ spec, registration (B := Unit) fewTextsHost noEnvironment
        (ordersRow "" "\x7b\"tenant\":\"a\"") =
          .ok (spec, .dynamic (ordersTool "" "\x7b\"tenant\":\"a\"")) ∧
      ¬ShapedRow fewTexts (ordersRow "" "\x7b\"tenant\":\"a\"") ∧
      ∃ out, (ordersTool "" "\x7b\"tenant\":\"a\"").Forwards .ascii fewTexts
          [("uid", .str "7"), ("tenant", .str "b")] out ∧
        out.get? "tenant" = some (.str "b") := by
  obtain ⟨spec, hregistered⟩ := ordersRow_registered (B := Unit) "" "\x7b\"tenant\":\"a\""
  refine ⟨spec, hregistered, fun hshape => ?_, ?_⟩
  · exact absurd hshape.fixedParams (by decide +kernel)
  · refine ⟨dynamicArgs [("uid", .str "7"), ("tenant", .str "b")] [] [],
      ⟨by decide +kernel, _, [], [], .refl _, ?_, ?_, rfl⟩, rfl⟩
    · exact List.Perm.of_eq (paramMapOf_blank fewTexts).symm
    · exact List.Perm.of_eq (fixedParamsOf_malformed (by decide +kernel)).symm

section Required

-- The name under which a required param goes to the adapter.
def boundName (paramMap : List (String × String)) (name : String) : String :=
  match paramMap.lookup name with
  | none => name
  | some target => if target = "" then name else target

-- A value that is neither null nor a blank text.
def filled : Value → Bool
  | .null => false
  | .str text => Go.trimSpace text != ""
  | _ => true

-- No value that stands for a param is empty: the fixed one of its name, else those given for
-- the name by any mapping, else the param's own, which the check lets be null.
structure NoneEmpty (args : Arguments) (paramMap : List (String × String))
    (fixed : List (String × Value)) (name : String) : Prop where
  ofFixed : ∀ value, (boundName paramMap name, value) ∈ fixed → filled value = true
  ofMapped : boundName paramMap name ∉ Reconcile.keys fixed →
    ∀ source value, (source, boundName paramMap name) ∈ paramMap →
      args.lookup source = some value → filled value = true
  ofOwn : boundName paramMap name ∉ Reconcile.keys fixed →
    (∀ source, (source, boundName paramMap name) ∈ paramMap → args.lookup source = none) →
      args.lookup name ≠ some .null

variable {go : Go.Runtime} {args : Arguments} {paramMap : List (String × String)}
  {fixed : List (String × Value)} {name : String}

theorem boundName_cases (paramMap : List (String × String))
    (hname : Go.trimSpace name ≠ "") :
    boundName paramMap name ≠ "" ∧
      (boundName paramMap name = name ∨ (name, boundName paramMap name) ∈ paramMap) := by
  have hset : name ≠ "" := fun hempty => hname (by rw [hempty]; rfl)
  unfold boundName
  cases hlookup : paramMap.lookup name with
  | none => exact ⟨hset, .inl rfl⟩
  | some target =>
    dsimp only
    split
    next => exact ⟨hset, .inl rfl⟩
    next htarget =>
      refine ⟨htarget, .inr ?_⟩
      obtain ⟨before, after, heq, -⟩ := List.lookup_eq_some_iff.mp hlookup
      rw [heq]
      exact List.mem_append_right _ List.mem_cons_self

-- A value that the check has found is empty only where it is null.
theorem filled_iff_of_not_missing {value : Value} (hvalue : args.lookup name = some value)
    (hfound : missing go args name = false) : filled value = true ↔ value ≠ .null := by
  unfold missing at hfound
  rw [hvalue] at hfound
  cases value with
  | null => simp [filled]
  | str text => simpa [filled, Go.sprint] using hfound
  | _ => simp [filled]

theorem exists_of_not_missing (hfound : missing go args name = false) :
    ∃ value, args.lookup name = some value := by
  unfold missing at hfound
  cases hvalue : args.lookup name with
  | none =>
    rw [hvalue] at hfound
    exact nomatch hfound
  | some value => exact ⟨value, rfl⟩

-- Where nothing given is mapped to its name, a param that is given goes under its own name.
theorem boundName_eq (hname : Go.trimSpace name ≠ "") {value : Value}
    (hvalue : args.lookup name = some value)
    (hunmapped : boundName paramMap name ∉ Reconcile.keys (mapped args paramMap)) :
    boundName paramMap name = name := by
  obtain ⟨hset, hsame | hentry⟩ := boundName_cases paramMap hname
  · exact hsame
  · exact absurd (Reconcile.mem_keys
      (mem_mapped_iff.mpr ⟨hset, name, hentry, hvalue⟩)) hunmapped

theorem not_mem_keys_mapped_iff {target : String} (htarget : target ≠ "") :
    target ∉ Reconcile.keys (mapped args paramMap) ↔
      ∀ source, (source, target) ∈ paramMap → args.lookup source = none := by
  constructor
  · intro hunmapped source hsource
    by_contra hgiven
    obtain ⟨value, hvalue⟩ := Option.ne_none_iff_exists'.mp hgiven
    exact hunmapped (Reconcile.mem_keys
      (mem_mapped_iff.mpr ⟨htarget, source, hsource, hvalue⟩))
  · intro hnone hmem
    obtain ⟨⟨_, value⟩, hentry, rfl⟩ := List.mem_map.mp hmem
    obtain ⟨-, source, hsource, hvalue⟩ := mem_mapped_iff.mp hentry
    rw [hnone source hsource] at hvalue
    exact nomatch hvalue

theorem sent_filled_iff (hargs : (Reconcile.keys args).Nodup) (hname : Go.trimSpace name ≠ "")
    (hfound : missing go args name = false) :
    (∀ value, Sent args paramMap fixed (boundName paramMap name) value → filled value = true) ↔
      NoneEmpty args paramMap fixed name := by
  obtain ⟨hset, -⟩ := boundName_cases paramMap hname
  obtain ⟨given, hgiven⟩ := exists_of_not_missing hfound
  constructor
  · intro hsent
    refine ⟨fun value hvalue => hsent value (.fixed hvalue), ?_, ?_⟩
    · intro hnone source value hsource hvalue
      exact hsent value (.mapped hnone (mem_mapped_iff.mpr ⟨hset, source, hsource, hvalue⟩))
    · intro hnone hnotgiven hnull
      have hunmapped := (not_mem_keys_mapped_iff hset).mpr hnotgiven
      have hsame := boundName_eq hname hgiven hunmapped
      have hown : (boundName paramMap name, Value.null) ∈ args := by
        rw [hsame]
        exact (Reconcile.lookup_eq_some_iff hargs _).mp hnull
      exact absurd (hsent .null (.own hnone hunmapped hown)) (by simp [filled])
  · intro hempty value hsent
    cases hsent with
    | fixed hvalue => exact hempty.ofFixed value hvalue
    | mapped hnone hvalue =>
      obtain ⟨-, source, hsource, hvalue⟩ := mem_mapped_iff.mp hvalue
      exact hempty.ofMapped hnone source value hsource hvalue
    | own hnone hunmapped hvalue =>
      have hsame := boundName_eq hname hgiven hunmapped
      rw [hsame] at hvalue
      have hvalue := (Reconcile.lookup_eq_some_iff hargs value).mpr hvalue
      refine (filled_iff_of_not_missing hvalue hfound).mpr fun hnull => ?_
      refine hempty.ofOwn hnone ((not_mem_keys_mapped_iff hset).mp hunmapped) ?_
      rw [hvalue, hnull]

-- The required params of a tool, as they reach the adapter.
theorem required_bound_iff (go : Go.Runtime) (decoder : Decoder) (closure : DynamicHandler)
    (args : Arguments) (hargs : (Reconcile.keys args).Nodup)
    (hreaches : requireDynamicParams go args closure.requiredParams = none) :
    (∀ out, closure.Forwards go decoder args out →
        ∀ name ∈ closure.requiredParams, Go.trimSpace name ≠ "" →
          ∃ value, out.get? (boundName (paramMapOf decoder closure.item.paramMapJSON) name) =
            some value ∧ filled value = true) ↔
      ∀ name ∈ closure.requiredParams, Go.trimSpace name ≠ "" →
        NoneEmpty args (paramMapOf decoder closure.item.paramMapJSON)
          (fixedParamsOf decoder closure.item.fixedParamsJSON) name := by
  have hfixed := fixedParamsOf_nodup decoder closure.item.fixedParamsJSON
  have hfound := requireDynamicParams_eq_none_iff.mp hreaches
  constructor
  · intro hbound name hname hblank
    refine (sent_filled_iff hargs hblank (hfound name hname hblank)).mp fun value hsent => ?_
    obtain ⟨paramMap, hparamMap, hget⟩ := exists_get?_of_sent hargs hfixed hsent
    obtain ⟨other, hother, hfilled⟩ := hbound _
      ⟨hreaches, args, paramMap, _, .refl _, hparamMap, .refl _, rfl⟩ name hname hblank
    rw [hget] at hother
    exact Option.some.inj hother ▸ hfilled
  · rintro hempty out ⟨-, args', paramMap, fixed, hargs', hparamMap, hfixed', rfl⟩ name hname hblank
    obtain ⟨hset, hcases⟩ :=
      boundName_cases (paramMapOf decoder closure.item.paramMapJSON) hblank
    obtain ⟨given, hgiven⟩ := exists_of_not_missing (hfound name hname hblank)
    have hsome : ((dynamicArgs args' paramMap fixed).get?
        (boundName (paramMapOf decoder closure.item.paramMapJSON) name)).isSome := by
      rw [get?_isSome_iff]
      rcases hcases with hsame | hentry
      · refine .inr (.inr ((hargs'.map Prod.fst).mem_iff.mpr ?_))
        rw [hsame]
        exact Reconcile.mem_keys ((Reconcile.lookup_eq_some_iff hargs given).mp hgiven)
      · refine .inr (.inl (((mapped_perm hargs hargs' hparamMap).map Prod.fst).mem_iff.mpr ?_))
        exact Reconcile.mem_keys
          (mem_mapped_iff.mpr ⟨hset, name, hentry, hgiven⟩)
    obtain ⟨value, hvalue⟩ := Option.isSome_iff_exists.mp hsome
    refine ⟨value, hvalue, ?_⟩
    exact (sent_filled_iff hargs hblank (hfound name hname hblank)).mpr (hempty name hname hblank)
      value (sent_of_get? hargs hargs' hparamMap hfixed' hvalue)

end Required

theorem required_bound_iff_orders :
    (∀ out, (ordersTool "\x7b\"user\":\"uid\"\x7d" "").Forwards .ascii fewTexts
        [("uid", .str "7"), ("user", .str "")] out →
        ∀ name ∈ (ordersTool "\x7b\"user\":\"uid\"\x7d" "").requiredParams,
          Go.trimSpace name ≠ "" → ∃ value, out.get? (boundName (paramMapOf fewTexts
            (ordersTool "\x7b\"user\":\"uid\"\x7d" "").item.paramMapJSON) name) =
              some value ∧ filled value = true) ↔
      ∀ name ∈ (ordersTool "\x7b\"user\":\"uid\"\x7d" "").requiredParams,
        Go.trimSpace name ≠ "" → NoneEmpty [("uid", .str "7"), ("user", .str "")]
          (paramMapOf fewTexts (ordersTool "\x7b\"user\":\"uid\"\x7d" "").item.paramMapJSON)
          (fixedParamsOf fewTexts (ordersTool "\x7b\"user\":\"uid\"\x7d" "").item.fixedParamsJSON)
          name :=
  required_bound_iff .ascii fewTexts _ _ (by decide) (by decide +kernel)

-- A null is printed as a text that is not blank, and goes on to the adapter.
theorem required_null :
    "uid" ∈ (ordersTool "" "").requiredParams ∧
      ∃ out, (ordersTool "" "").Forwards .ascii fewTexts [("uid", .null)] out ∧
        boundName (paramMapOf fewTexts (ordersTool "" "").item.paramMapJSON) "uid" = "uid" ∧
        out.get? "uid" = some .null := by
  refine ⟨by decide +kernel, dynamicArgs [("uid", .null)] [] [],
    ⟨by decide +kernel, _, [], [], .refl _, ?_, ?_, rfl⟩, by decide +kernel, rfl⟩
  · exact List.Perm.of_eq (paramMapOf_blank fewTexts).symm
  · exact List.Perm.of_eq (fixedParamsOf_blank fewTexts).symm

end Troubleshooter.Gateway
