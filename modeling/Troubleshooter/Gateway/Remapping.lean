import Mathlib.Data.List.Dedup
import Mathlib.Data.List.Sort
import Mathlib.Data.String.Basic
import Troubleshooter.Adapter.Mapping
import Troubleshooter.Capability.Importer
import Troubleshooter.Gateway.Pinning

namespace Troubleshooter.Gateway

open Troubleshooter.Library
open Troubleshooter.Capability
open Troubleshooter.Go (Map)
open Troubleshooter.Tool (Arguments)
open Troubleshooter.Adapter (Route takes mcpArguments)

-- The params of the request to the adapter: json.Marshal writes the keys of a map in order.
def sentParams (out : Map String Value) : Adapter.Params := Go.sortedEntries out.toList

-- The names of what is sent.
def forwardedNames (args : Arguments) (paramMap : List (String × String))
    (fixed : List (String × Value)) : List String :=
  (Reconcile.keys args ++ Reconcile.keys (mapped args paramMap) ++ Reconcile.keys fixed).dedup
    |>.insertionSort (· ≤ ·)

-- A name that the mapping puts a value under.
def Written (args : Arguments) (paramMap : List (String × String))
    (fixed : List (String × Value)) (name : String) : Prop :=
  name ∈ Reconcile.keys fixed ∨ name ∈ Reconcile.keys (mapped args paramMap)

-- Where the adapter takes an argument of the call from a name that has been written already, it
-- finds what it takes from the caller's arguments alone; and two names of the caller's with one
-- snake_case form do not change their order to any effect.
structure MappedOnce (python : Python.Runtime) (args : Arguments)
    (paramMap : List (String × String)) (fixed : List (String × Value)) (route : Route) :
    Prop where
  written : ∀ name, name ∉ Reconcile.keys route.fixedParams → ∀ source,
    takes python (forwardedNames args paramMap fixed) route.paramMap name = some source →
      Written args paramMap fixed source → ∀ value, Sent args paramMap fixed source value →
        ∃ given, takes python (Reconcile.keys args) route.paramMap name = some given ∧
          args.lookup given = some value
  unwritten : ∀ name, name ∉ Reconcile.keys route.fixedParams → ∀ source,
    takes python (forwardedNames args paramMap fixed) route.paramMap name = some source →
      ¬Written args paramMap fixed source → ∀ given,
        takes python (Reconcile.keys args) route.paramMap name = some given →
          args.lookup given = args.lookup source

section Params

variable {args args' : Arguments} {paramMap paramMap' : List (String × String)}
  {fixed fixed' : List (String × Value)}

theorem sentParams_perm (out : Map String Value) : (sentParams out).Perm out.toList :=
  List.perm_insertionSort _ _

theorem sentParams_nodup (out : Map String Value) : (Reconcile.keys (sentParams out)).Nodup :=
  ((sentParams_perm out).map Prod.fst).nodup_iff.mpr out.keys_toList_nodup

theorem lookup_sentParams (out : Map String Value) (name : String) :
    (sentParams out).lookup name = out.get? name := by
  ext value
  rw [Reconcile.lookup_eq_some_iff (sentParams_nodup out), (sentParams_perm out).mem_iff,
    Map.mem_toList_iff]

theorem mem_keys_sentParams (out : Map String Value) (name : String) :
    name ∈ Reconcile.keys (sentParams out) ↔ (out.get? name).isSome := by
  rw [← lookup_sentParams, ← Option.ne_none_iff_isSome, ne_eq, Reconcile.lookup_eq_none_iff,
    not_not]

theorem mem_forwardedNames_iff {name : String} : name ∈ forwardedNames args paramMap fixed ↔
    name ∈ Reconcile.keys args ∨ Written args paramMap fixed name := by
  unfold forwardedNames Written
  rw [List.mem_insertionSort, List.mem_dedup, List.mem_append, List.mem_append, or_assoc,
    or_comm (a := name ∈ Reconcile.keys fixed)]

theorem get?_isSome_of_perm (hargs : (Reconcile.keys args).Nodup) (hargs' : args'.Perm args)
    (hparamMap : paramMap'.Perm paramMap) (hfixed' : fixed'.Perm fixed) (name : String) :
    ((dynamicArgs args' paramMap' fixed').get? name).isSome ↔
      name ∈ forwardedNames args paramMap fixed := by
  rw [get?_isSome_iff, mem_forwardedNames_iff]
  have hmapped := ((mapped_perm hargs hargs' hparamMap).map Prod.fst).mem_iff (a := name)
  have hkeys := (hargs'.map Prod.fst).mem_iff (a := name)
  have hfixedKeys := (hfixed'.map Prod.fst).mem_iff (a := name)
  unfold Written Reconcile.keys
  rw [hmapped, hkeys, hfixedKeys]
  tauto

-- Whatever the orders, the adapter gets the same names in the same order.
theorem keys_sentParams_dynamicArgs (hargs : (Reconcile.keys args).Nodup)
    (hargs' : args'.Perm args) (hparamMap : paramMap'.Perm paramMap)
    (hfixed' : fixed'.Perm fixed) :
    Reconcile.keys (sentParams (dynamicArgs args' paramMap' fixed')) =
      forwardedNames args paramMap fixed := by
  have hsorted : Reconcile.keys (sentParams (dynamicArgs args' paramMap' fixed')) =
      (Reconcile.keys (dynamicArgs args' paramMap' fixed').toList).insertionSort (· ≤ ·) :=
    List.map_insertionSort _ _ _ _ fun _ _ _ _ => Iff.rfl
  have hperm : (Reconcile.keys (sentParams (dynamicArgs args' paramMap' fixed'))).Perm
      (forwardedNames args paramMap fixed) := by
    refine (List.perm_ext_iff_of_nodup (sentParams_nodup _) ?_).mpr fun name => ?_
    · exact (List.perm_insertionSort _ _).nodup_iff.mpr (List.nodup_dedup _)
    · rw [mem_keys_sentParams, get?_isSome_of_perm hargs hargs' hparamMap hfixed']
  refine hperm.eq_of_pairwise' ?_ (List.pairwise_insertionSort _ _)
  rw [hsorted]
  exact List.pairwise_insertionSort _ _

end Params

section Taken

variable {python : Python.Runtime} {args : Arguments} {route : Route} {name : String}

theorem lookup_of_fixed {params params' : Adapter.Params}
    (hparams : (Reconcile.keys params).Nodup) (hparams' : (Reconcile.keys params').Nodup)
    (hforward : route.forwardAllParams = true) (hname : name ∈ Reconcile.keys route.fixedParams) :
    (mcpArguments python route params).lookup name =
      (mcpArguments python route params').lookup name := by
  rw [Adapter.lookup_mcpArguments python hparams hforward,
    Adapter.lookup_mcpArguments python hparams' hforward]
  cases hfixed : route.fixedParams.reverse.lookup name with
  | some value => rfl
  | none =>
    refine absurd ?_ (Reconcile.lookup_eq_none_iff.mp hfixed)
    unfold Reconcile.keys at hname ⊢
    rwa [List.map_reverse, List.mem_reverse]

theorem lookup_of_unfixed {params : Adapter.Params} (hparams : (Reconcile.keys params).Nodup)
    (hforward : route.forwardAllParams = true)
    (hname : name ∉ Reconcile.keys route.fixedParams) :
    (mcpArguments python route params).lookup name =
      (takes python (Reconcile.keys params) route.paramMap name).bind fun found =>
        params.lookup found := by
  have hfixed : route.fixedParams.reverse.lookup name = none := by
    refine Reconcile.lookup_eq_none_iff.mpr fun hmem => hname ?_
    unfold Reconcile.keys at hmem ⊢
    rwa [List.map_reverse, List.mem_reverse] at hmem
  rw [Adapter.lookup_mcpArguments python hparams hforward, hfixed, Option.none_or]

variable {args' : Arguments} {paramMap paramMap' : List (String × String)}
  {fixed fixed' : List (String × Value)}

-- What the adapter makes of a forwarded map, under a name that its route does not fix.
theorem lookup_forwarded (hargs : (Reconcile.keys args).Nodup) (hargs' : args'.Perm args)
    (hparamMap : paramMap'.Perm paramMap) (hfixed' : fixed'.Perm fixed)
    (hforward : route.forwardAllParams = true) (hname : name ∉ Reconcile.keys route.fixedParams) :
    (mcpArguments python route (sentParams (dynamicArgs args' paramMap' fixed'))).lookup name =
      (takes python (forwardedNames args paramMap fixed) route.paramMap name).bind
        (dynamicArgs args' paramMap' fixed').get? := by
  rw [lookup_of_unfixed (sentParams_nodup _) hforward hname,
    keys_sentParams_dynamicArgs hargs hargs' hparamMap hfixed']
  exact congrArg _ (funext fun found => lookup_sentParams _ found)

-- What is not written is there as the caller has given it.
theorem get?_of_unwritten (hargs : (Reconcile.keys args).Nodup) (hargs' : args'.Perm args)
    (hparamMap : paramMap'.Perm paramMap) (hfixed' : fixed'.Perm fixed) {source : String}
    (hwritten : ¬Written args paramMap fixed source)
    (hsource : source ∈ forwardedNames args paramMap fixed) :
    ∃ value, (dynamicArgs args' paramMap' fixed').get? source = some value ∧
      args.lookup source = some value := by
  obtain ⟨value, hvalue⟩ := Option.isSome_iff_exists.mp
    ((get?_isSome_of_perm hargs hargs' hparamMap hfixed' source).mpr hsource)
  refine ⟨value, hvalue, ?_⟩
  cases sent_of_get? hargs hargs' hparamMap hfixed' hvalue with
  | fixed hmem => exact absurd (.inl (Reconcile.mem_keys hmem)) hwritten
  | mapped _ hmem => exact absurd (.inr (Reconcile.mem_keys hmem)) hwritten
  | own _ _ hmem => exact (Reconcile.lookup_eq_some_iff hargs value).mpr hmem

theorem takes_isSome_of_unwritten {source : String}
    (hwritten : ¬Written args paramMap fixed source)
    (htakes : takes python (forwardedNames args paramMap fixed) route.paramMap name =
      some source) : (takes python (Reconcile.keys args) route.paramMap name).isSome :=
  Adapter.takes_isSome_of_mem htakes
    ((mem_forwardedNames_iff.mp (Adapter.mem_of_takes htakes)).resolve_right hwritten)

end Taken

-- The call is made with the same arguments, in whatever order.
def SameArguments (first second : Adapter.Params) : Prop :=
  ∀ name, first.lookup name = second.lookup name

-- Mapping the arguments in the Gateway and in the adapter comes to mapping them in the adapter
-- exactly where the second mapping takes nothing else from what the first has written.
theorem mapped_once_iff (go : Go.Runtime) (decoder : Decoder) (python : Python.Runtime)
    (req : ImportRequest) (service : BusinessService) (mcpServer : MCPServer) (config : Data)
    (route : Route) (hroute : Adapter.parseRoute python config = .ok route)
    (hforward : Python.truthy (Python.get config "forward_all_params" (.bool true)) = true)
    (closure : DynamicHandler) (hitem : closure.item = mcpCapability go req service mcpServer config)
    (args : Arguments) (hargs : (Reconcile.keys args).Nodup)
    (hreaches : requireDynamicParams go args closure.requiredParams = none) :
    (∀ out, closure.Forwards go decoder args out →
        SameArguments (mcpArguments python route (sentParams out))
          (mcpArguments python route args)) ↔
      MappedOnce python args
        (paramMapOf decoder (mustJSON go (Go.index config "param_map")))
        (fixedParamsOf decoder (mustJSON go (Go.index config "fixed_params"))) route := by
  have hforward : route.forwardAllParams = true :=
    (Adapter.forwardAllParams_of_parseRoute hroute).trans hforward
  have hparamMapJSON : closure.item.paramMapJSON = mustJSON go (Go.index config "param_map") := by
    rw [hitem]
    rfl
  have hfixedParamsJSON :
      closure.item.fixedParamsJSON = mustJSON go (Go.index config "fixed_params") := by
    rw [hitem]
    rfl
  unfold DynamicHandler.Forwards
  rw [hparamMapJSON, hfixedParamsJSON]
  have hfixed := fixedParamsOf_nodup decoder (mustJSON go (Go.index config "fixed_params"))
  generalize paramMapOf decoder (mustJSON go (Go.index config "param_map")) = paramMap
  generalize fixedParamsOf decoder (mustJSON go (Go.index config "fixed_params")) = fixed at hfixed ⊢
  constructor
  · intro hsame
    have hsame : ∀ paramMap' : List (String × String), paramMap'.Perm paramMap → ∀ name,
        name ∉ Reconcile.keys route.fixedParams →
        (takes python (forwardedNames args paramMap fixed) route.paramMap name).bind
            (dynamicArgs args paramMap' fixed).get? =
          (takes python (Reconcile.keys args) route.paramMap name).bind fun found =>
            args.lookup found := by
      intro paramMap' hparamMap name hname
      rw [← lookup_forwarded hargs (.refl _) hparamMap (.refl _) hforward hname,
        ← lookup_of_unfixed hargs hforward hname]
      exact hsame _ ⟨hreaches, args, paramMap', fixed, .refl _, hparamMap, .refl _, rfl⟩ name
    refine ⟨fun name hname source htakes _ value hvalue => ?_,
      fun name hname source htakes hwritten given hgiven => ?_⟩
    · obtain ⟨paramMap', hparamMap, hget⟩ := exists_get?_of_sent hargs hfixed hvalue
      have heq := hsame paramMap' hparamMap name hname
      rw [htakes, Option.bind_some, hget] at heq
      exact Option.bind_eq_some_iff.mp heq.symm
    · obtain ⟨value, hget, hvalue⟩ := get?_of_unwritten hargs (.refl _) (.refl _) (.refl _)
        hwritten (Adapter.mem_of_takes htakes)
      have heq := hsame paramMap (.refl _) name hname
      rw [htakes, hgiven, Option.bind_some, Option.bind_some, hget] at heq
      rw [← heq, hvalue]
  · rintro honce out ⟨-, args', paramMap', fixed', hargs', hparamMap, hfixed', rfl⟩ name
    by_cases hname : name ∈ Reconcile.keys route.fixedParams
    · exact lookup_of_fixed (sentParams_nodup _) hargs hforward hname
    · rw [lookup_forwarded hargs hargs' hparamMap hfixed' hforward hname,
        lookup_of_unfixed hargs hforward hname]
      cases htakes : takes python (forwardedNames args paramMap fixed) route.paramMap name with
      | none =>
        cases hgiven : takes python (Reconcile.keys args) route.paramMap name with
        | none => rfl
        | some given =>
          have hmem : given ∈ forwardedNames args paramMap fixed :=
            mem_forwardedNames_iff.mpr (.inl (Adapter.mem_of_takes hgiven))
          have hsome := Adapter.takes_isSome_of_mem hgiven hmem
          rw [htakes] at hsome
          exact nomatch hsome
      | some source =>
        rw [Option.bind_some]
        by_cases hwritten : Written args paramMap fixed source
        · obtain ⟨value, hget⟩ := Option.isSome_iff_exists.mp
            ((get?_isSome_of_perm hargs hargs' hparamMap hfixed' source).mpr
              (Adapter.mem_of_takes htakes))
          obtain ⟨given, hgiven, hvalue⟩ := honce.written name hname source htakes hwritten value
            (sent_of_get? hargs hargs' hparamMap hfixed' hget)
          rw [hget, hgiven, Option.bind_some, hvalue]
        · obtain ⟨value, hget, hvalue⟩ := get?_of_unwritten hargs hargs' hparamMap hfixed' hwritten
            (Adapter.mem_of_takes htakes)
          obtain ⟨given, hgiven⟩ := Option.isSome_iff_exists.mp
            (takes_isSome_of_unwritten hwritten htakes)
          rw [hget, hgiven, Option.bind_some,
            honce.unwritten name hname source htakes hwritten given hgiven, hvalue]

-- A route whose tool names the two sides the other way round.
def swapConfig : Data :=
  [ ("path", .str "/v1/readonly/transfers"), ("tool_name", .str "transfers"),
    ("param_map", .map [("payer", .str "payee"), ("payee", .str "payer")]) ]

def swapRoute : Route where
  path := "/v1/readonly/transfers"
  toolName := "transfers"
  source := "mcp-readonly-adapter"
  version := "mcp-v1"
  requiredParams := []
  paramMap := [("payer", "payee"), ("payee", "payer")]
  fixedParams := []
  forwardAllParams := true

def swapText : String := "\x7b\"payee\":\"payer\",\"payer\":\"payee\"\x7d"

-- A decoder that knows one text.
def swapDecoder : Decoder where
  parse raw :=
    if raw = swapText then some (.map [("payee", .str "payer"), ("payer", .str "payee")]) else none
  distinct raw entries h := by
    split at h
    next => cases h; decide
    next => exact nomatch h

def transferTool : DynamicHandler where
  item := mcpCapability .ascii { rawConfig := "" } { serviceName := "transfers" }
    { serverName := "transfers", serviceName := "transfers", transportType := "stdio" } swapConfig
  baseURL := "http://adapter:19085"
  apiKey := ""
  timeout := Go.Duration.times 5 Go.Duration.second
  requiredParams := []

def transfer : Arguments := [("payer", .str "a"), ("payee", .str "b")]

theorem parseRoute_swap : Adapter.parseRoute .ascii swapConfig = .ok swapRoute := by
  rfl

theorem swap_marshalled : mustJSON .ascii (Go.index swapConfig "param_map") = swapText := by
  decide +kernel

theorem mapped_once_iff_swap :
    (∀ out, transferTool.Forwards .ascii swapDecoder transfer out →
        SameArguments (mcpArguments .ascii swapRoute (sentParams out))
          (mcpArguments .ascii swapRoute transfer)) ↔
      MappedOnce .ascii transfer
        (paramMapOf swapDecoder (mustJSON .ascii (Go.index swapConfig "param_map")))
        (fixedParamsOf swapDecoder (mustJSON .ascii (Go.index swapConfig "fixed_params")))
        swapRoute :=
  mapped_once_iff .ascii swapDecoder .ascii _ _ _ swapConfig swapRoute parseRoute_swap rfl
    transferTool rfl transfer (by decide) rfl

-- The Gateway exchanges the two, and the adapter exchanges them back.
theorem mapped_twice :
    Adapter.parseRoute .ascii swapConfig = .ok swapRoute ∧
      ∃ out, transferTool.Forwards .ascii swapDecoder transfer out ∧
        ¬SameArguments (mcpArguments .ascii swapRoute (sentParams out))
          (mcpArguments .ascii swapRoute transfer) := by
  have hparamMap : paramMapOf swapDecoder transferTool.item.paramMapJSON =
      [("payee", "payer"), ("payer", "payee")] := by
    unfold transferTool mcpCapability
    dsimp only
    rw [swap_marshalled]
    decide +kernel
  refine ⟨parseRoute_swap, dynamicArgs transfer [("payee", "payer"), ("payer", "payee")] [],
    ⟨rfl, _, _, [], .refl _, .of_eq hparamMap.symm, .of_eq (if_pos (by decide +kernel)).symm, rfl⟩,
    fun hsame => ?_⟩
  have htwice : (mcpArguments .ascii swapRoute (sentParams
      (dynamicArgs transfer [("payee", "payer"), ("payer", "payee")] []))).lookup "payee" =
      some (.str "b") := rfl
  have honce : (mcpArguments .ascii swapRoute transfer).lookup "payee" = some (.str "a") := rfl
  have heq := hsame "payee"
  rw [htwice, honce] at heq
  exact absurd (Value.str.inj (Option.some.inj heq)) (by decide)

end Troubleshooter.Gateway
