import Troubleshooter.Gateway.Authority
import Troubleshooter.Library.Blind
import Troubleshooter.Masking.Values

-- What a handler puts under a sensitive key leaves no trace in what the gateway answers and
-- records.
namespace Troubleshooter.Gateway

open Troubleshooter.Library
open Troubleshooter.Masking (Codec maskValue maskItems maskEntries sensitive)
open Troubleshooter.Tool (Spec InvocationRequest InvocationResponse)

variable {B : Type} {codec : Codec}

mutual

-- Two values that differ at most in what stands under sensitive keys.
inductive SameOutside (codec : Codec) : Value → Value → Prop
  | same (value : Value) : SameOutside codec value value
  | list {items items' : List Value} (hitems : SameItems codec items items') :
      SameOutside codec (.list items) (.list items')
  | map {entries entries' : List (String × Value)} (hentries : SameEntries codec entries entries') :
      SameOutside codec (.map entries) (.map entries')

inductive SameItems (codec : Codec) : List Value → List Value → Prop
  | nil : SameItems codec [] []
  | cons {item item' : Value} {items items' : List Value} (hitem : SameOutside codec item item')
      (hitems : SameItems codec items items') : SameItems codec (item :: items) (item' :: items')

inductive SameEntries (codec : Codec) : List (String × Value) → List (String × Value) → Prop
  | nil : SameEntries codec [] []
  | hidden {key : String} (child child' : Value) {entries entries' : List (String × Value)}
      (hkey : sensitive codec.go key = true) (hentries : SameEntries codec entries entries') :
      SameEntries codec ((key, child) :: entries) ((key, child') :: entries')
  | shown (key : String) {child child' : Value} {entries entries' : List (String × Value)}
      (hchild : SameOutside codec child child') (hentries : SameEntries codec entries entries') :
      SameEntries codec ((key, child) :: entries) ((key, child') :: entries')

end

mutual

theorem SameOutside.decoded {value value' : Value} :
    SameOutside codec value value' → SameOutside codec (codec.decoded value) (codec.decoded value')
  | .same value => .same _
  | .list hitems => .list hitems.decoded
  | .map hentries => .map hentries.decoded

theorem SameItems.decoded {items items' : List Value} :
    SameItems codec items items' →
      SameItems codec (codec.decodedItems items) (codec.decodedItems items')
  | .nil => .nil
  | .cons hitem hitems => .cons hitem.decoded hitems.decoded

theorem SameEntries.decoded {entries entries' : List (String × Value)} :
    SameEntries codec entries entries' →
      SameEntries codec (codec.decodedEntries entries) (codec.decodedEntries entries')
  | .nil => .nil
  | .hidden _ _ hkey hentries => .hidden _ _ hkey hentries.decoded
  | .shown key hchild hentries => .shown key hchild.decoded hentries.decoded

end

mutual

theorem SameOutside.maskValue_eq {value value' : Value} :
    SameOutside codec value value' → maskValue codec.go value = maskValue codec.go value'
  | .same value => rfl
  | .list hitems => congrArg Value.list hitems.maskItems_eq
  | .map hentries => congrArg Value.map hentries.maskEntries_eq

theorem SameItems.maskItems_eq {items items' : List Value} :
    SameItems codec items items' → maskItems codec.go items = maskItems codec.go items'
  | .nil => rfl
  | .cons hitem hitems => congrArg₂ List.cons hitem.maskValue_eq hitems.maskItems_eq

theorem SameEntries.maskEntries_eq {entries entries' : List (String × Value)} :
    SameEntries codec entries entries' →
      maskEntries codec.go entries = maskEntries codec.go entries'
  | .nil => rfl
  | .hidden _ _ hkey hentries => by
    simp only [maskEntries, hkey, if_true, hentries.maskEntries_eq]
  | .shown key hchild hentries => by
    simp only [maskEntries, hchild.maskValue_eq, hentries.maskEntries_eq]

end

-- json.Marshal writes the value.
def Representable (codec : Codec) (value : Value) : Prop := (Go.marshal codec.go value).isSome

theorem maskAny_eq {value value' : Value} (hvalue : Representable codec value)
    (hvalue' : Representable codec value') (hsame : SameOutside codec value value') :
    Masking.maskAny codec value = Masking.maskAny codec value' := by
  obtain ⟨json, hjson⟩ := Option.isSome_iff_exists.mp hvalue
  obtain ⟨json', hjson'⟩ := Option.isSome_iff_exists.mp hvalue'
  unfold Masking.maskAny Codec.roundTrip
  rw [hjson, hjson']
  exact hsame.decoded.maskValue_eq

-- The gateway with the masker behind it.
def masking (codec : Codec) (g : Gateway) : Gateway :=
  { g with host := { g.host with mask := Masking.maskAny codec } }

-- Two results of a handler that are equal but for the values under sensitive keys of their data.
structure SameResult (codec : Codec) (result result' : InvocationResponse × Option Go.Error) :
    Prop where
  representable : Representable codec result.1.data
  representable' : Representable codec result'.1.data
  data : SameOutside codec result.1.data result'.1.data
  answer : result'.1 = { result.1 with data := result'.1.data }
  failure : result'.2 = result.2

-- What an invocation need not tell apart.
def alike (codec : Codec) : Likeness (Calls B) := fun op =>
  match op with
  | .runHandler _ _ _ => SameResult codec
  | _ => Eq

theorem masking_maskAny (g : Gateway) (value : Value) :
    maskAny (masking codec g).host value = Masking.maskAny codec value := by
  unfold maskAny
  split
  next => rfl
  next => rfl

theorem completed_eq (g : Gateway) (toolCallID queryID : String)
    {result result' : InvocationResponse × Option Go.Error} (h : SameResult codec result result') :
    completed (masking codec g) toolCallID queryID result'.1 =
      completed (masking codec g) toolCallID queryID result.1 := by
  have hdata := maskAny_eq h.representable h.representable' h.data
  rw [h.answer]
  simp only [completed, masking_maskAny, hdata]

section Blindness

variable (g : Gateway) (req : InvocationRequest) (spec : Spec) (start : Go.Time)

-- Only a handler is answered by what need not be told apart.
theorem call_blind {α : Type} {op : Call B} {f : Call.Res op → GatewayProg B α}
    (hop : ∀ handler requestMeta run, op ≠ .runHandler handler requestMeta run)
    (hnext : ∀ answer, (f answer).Blind (alike codec)) :
    (call op >>= f).Blind (alike codec) := by
  refine Prog.blind_perform (fun answer answer' halike => ?_) hnext
  have hequal : answer = answer' := by
    cases op with
    | runHandler handler requestMeta run => exact absurd rfl (hop handler requestMeta run)
    | _ => exact halike
  rw [hequal]

theorem recordAudit_blind (toolCallID decision denyReason queryID : String) (count : Int)
    (err : Option Go.Error) :
    (recordAudit g req spec toolCallID decision denyReason queryID count start err :
      GatewayProg B Unit).Blind (alike codec) := by
  unfold recordAudit
  split
  next => exact Prog.blind_pure _
  next =>
    refine call_blind (fun _ _ _ => nofun) fun finished => ?_
    refine call_blind (fun _ _ _ => nofun) fun createdAt => ?_
    exact ⟨fun _ _ _ => rfl, fun _ => Prog.blind_pure _⟩

theorem refuse_blind (resp : InvocationResponse) (decision denyReason : String)
    (auditErr : Option Go.Error) (err : Go.Error) :
    (refuse g req spec start resp decision denyReason auditErr err :
      GatewayProg B Outcome).Blind (alike codec) :=
  Prog.blind_bind (recordAudit_blind ..) fun _ => Prog.blind_pure _

theorem report_blind (out : InvocationResponse) (failure : Option Go.Error) :
    (report g req spec start out failure : GatewayProg B Outcome).Blind (alike codec) := by
  unfold report
  split
  next => exact Prog.blind_bind (recordAudit_blind ..) fun _ => Prog.blind_pure _
  next => exact Prog.blind_bind (recordAudit_blind ..) fun _ => Prog.blind_pure _

theorem userPermit_blind {now : Go.Time} {permit : GatewayProg B Bool}
    (hpermit : userPermit req now = permit) : permit.Blind (alike codec) := by
  unfold userPermit at hpermit
  by_cases hcaller : callerUserID req ≠ ""
  · rw [if_pos hcaller] at hpermit
    subst hpermit
    exact ⟨fun _ _ h => congrArg _ h, fun _ => Prog.blind_pure _⟩
  · rw [if_neg hcaller] at hpermit
    subst hpermit
    exact Prog.blind_pure _

theorem enforceRateLimits_blind :
    (enforceRateLimits req : GatewayProg B (Option Go.Error)).Blind (alike codec) := by
  unfold enforceRateLimits
  refine call_blind (fun _ _ _ => nofun) fun now => ?_
  refine call_blind (fun _ _ _ => nofun) fun agentAllowed => ?_
  refine Prog.blind_ite (Prog.blind_pure _) ?_
  generalize hpermit : userPermit req now = permit
  refine Prog.blind_bind (userPermit_blind req hpermit) fun userAllowed => ?_
  refine Prog.blind_ite (Prog.blind_pure _) ?_
  refine call_blind (fun _ _ _ => nofun) fun toolAllowed => ?_
  exact Prog.blind_ite (Prog.blind_pure _) (Prog.blind_pure _)

theorem queryIDOf_blind (out : InvocationResponse) :
    (queryIDOf out : GatewayProg B String).Blind (alike codec) := by
  unfold queryIDOf
  split
  next => exact ⟨fun _ _ h => congrArg _ h, fun _ => Prog.blind_pure _⟩
  next => exact Prog.blind_pure _

-- What follows the handler is the same for two results that are the same outside.
theorem execute_blind (resp : InvocationResponse) :
    (execute (masking codec g) req spec start resp : GatewayProg B Outcome).Blind
      (alike codec) := by
  unfold execute
  refine call_blind (fun _ _ _ => nofun) fun found => ?_
  cases found with
  | none => exact refuse_blind ..
  | some handler =>
    refine Prog.blind_perform (fun result result' hsame => ?_) fun result => ?_
    · have hsame : SameResult codec result result' := hsame
      have hcompleted : ∀ queryID, completed (masking codec g) resp.toolCallID queryID result'.1 =
          completed (masking codec g) resp.toolCallID queryID result.1 :=
        fun queryID => completed_eq g resp.toolCallID queryID hsame
      have hquery : result'.1.queryID = result.1.queryID := by rw [hsame.answer]
      have hdrawn : (queryIDOf result'.1 : GatewayProg B String) = queryIDOf result.1 := by
        unfold queryIDOf
        rw [hquery]
      simp only [hcompleted, hsame.failure, hdrawn]
    · exact Prog.blind_bind (queryIDOf_blind _) fun queryID => report_blind ..

theorem proceed_blind (resp : InvocationResponse) :
    (proceed (masking codec g) req spec start resp : GatewayProg B Outcome).Blind
      (alike codec) := by
  unfold proceed
  refine Prog.blind_bind (enforceRateLimits_blind req) fun limited => ?_
  cases limited with
  | some err => exact refuse_blind ..
  | none =>
    cases (masking codec g).policy (policyRequest req spec start) with
    | error err => exact refuse_blind ..
    | ok decision =>
      dsimp only
      split
      next => exact refuse_blind ..
      next =>
        split
        next => exact refuse_blind ..
        next => exact execute_blind ..

theorem invoke_blind (agent : String) :
    (invoke (masking codec g) agent req : GatewayProg B Outcome).Blind (alike codec) := by
  unfold invoke
  refine call_blind (fun _ _ _ => nofun) fun start => ?_
  refine call_blind (fun _ _ _ => nofun) fun toolCallID => ?_
  refine call_blind (fun _ _ _ => nofun) fun found => ?_
  cases found with
  | none => exact Prog.blind_pure _
  | some spec =>
    dsimp only
    split
    next => exact Prog.blind_pure _
    next =>
      split
      next => exact refuse_blind ..
      next => exact proceed_blind ..

end Blindness

-- Two worlds whose handlers give results that are the same outside sensitive keys see the same
-- responses, the same records and the same state.
theorem invoke_noninterference (g : Gateway) (world : World B)
    (respond' : Nat → HandlerFunc B → RequestMeta → InvocationRequest →
      InvocationResponse × Option Go.Error)
    (hsame : ∀ asked handler requestMeta req,
      SameResult codec (world.respond asked handler requestMeta req)
        (respond' asked handler requestMeta req))
    (agent : String) (req : InvocationRequest) (s : State B) :
    (invoke (masking codec g) agent req).run (handle world) s =
      (invoke (masking codec g) agent req).run
        (handle { world with respond := respond' }) s := by
  refine Prog.run_blind (invoke_blind g req agent) (fun op state => ?_) (fun op state => ?_) s
  · cases op <;> rfl
  · cases op with
    | runHandler handler requestMeta req => exact hsame _ _ _ _
    | _ => rfl

def plainCodec : Codec where
  go := .ascii
  float64 := id
  unmarshal := .str

-- A handler that answers with a token next to something that is none.
def leaking (secret : String) : World Unit :=
  { (World.plain : World Unit) with
    respond := fun _ _ _ _ =>
      ({ data := .map [("items", .list [.map [("Token", .str secret), ("note", .str "ok")]])] },
        none) }

theorem invoke_noninterference_sample :
    (invoke (masking plainCodec sampleGateway) "agent" { toolName := "logs" }).run
        (handle (leaking "alpha")) sampleState =
      (invoke (masking plainCodec sampleGateway) "agent" { toolName := "logs" }).run
        (handle (leaking "bravo")) sampleState ∧
      ((invoke (masking plainCodec sampleGateway) "agent" { toolName := "logs" }).run
        (handle (leaking "alpha")) sampleState).2.executed.length = 1 := by
  refine ⟨invoke_noninterference sampleGateway (leaking "alpha") (leaking "bravo").respond
    (fun _ _ _ _ => ⟨rfl, rfl, ?_, rfl, rfl⟩) _ _ _, by decide +kernel⟩
  exact .map (.shown "items" (.list (.cons (.map (.hidden _ _ (by decide +kernel)
    (.shown "note" (.same _) .nil))) .nil)) .nil)

end Troubleshooter.Gateway
