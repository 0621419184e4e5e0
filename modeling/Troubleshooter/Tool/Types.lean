import Troubleshooter.Go.Error
import Troubleshooter.Go.Map
import Troubleshooter.Go.Text
import Troubleshooter.Library.Reconcile
import Troubleshooter.Value

namespace Troubleshooter.Tool

open Troubleshooter.Go (Map)
open Troubleshooter.Library.Reconcile (Table)

def errToolNotFound : Go.Error := ⟨"tool not found", [.toolNotFound]⟩
def errToolDisabled : Go.Error := ⟨"tool disabled", [.toolDisabled]⟩

structure Spec where
  name : String
  description : String := ""
  inputSchema : List (String × Value) := []
  outputSchema : List (String × Value) := []
  requiredScope : String := ""
  backendHandler : String := ""
  maxTimeRangeMinutes : Int := 0
  maxLimit : Int := 0
  sensitivityLevel : String := ""
  status : String := ""

abbrev Arguments := List (String × Value)

structure InvocationRequest where
  caseID : String := ""
  agentID : String := ""
  callerUserID : String := ""
  larkUserID : String := ""
  chatID : String := ""
  toolName : String := ""
  arguments : Arguments := []

structure InvocationResponse where
  toolCallID : String := ""
  status : String := ""
  data : Value := .null
  summary : String := ""
  warnings : List String := []
  queryID : String := ""

-- A registry keeps each spec under the spec's own name, and a spec and a handler
-- under the same names.
structure Registry (H : Type) where
  specs : Map String Spec
  handlers : Map String H
  named : ∀ name spec, specs.get? name = some spec → spec.name = name
  paired : ∀ name, (specs.get? name).isSome = (handlers.get? name).isSome

namespace Registry

variable {H : Type}

def newRegistry : Registry H := ⟨∅, ∅, by simp, by simp⟩

-- What Register fills in before it stores a spec.
def withDefaults (spec : Spec) : Spec :=
  { spec with
    status := if spec.status = "" then "enabled" else spec.status
    sensitivityLevel := if spec.sensitivityLevel = "" then "normal" else spec.sensitivityLevel
    backendHandler := if spec.backendHandler = "" then spec.name else spec.backendHandler }

def put (r : Registry H) (spec : Spec) (handler : H) : Registry H where
  specs := r.specs.set spec.name spec
  handlers := r.handlers.set spec.name handler
  named name other h := by
    rw [Map.get?_set] at h
    split at h
    next heq => rw [heq, ← Option.some.inj h]
    next => exact r.named name other h
  paired name := by
    rw [Map.get?_set, Map.get?_set]
    split
    · rfl
    · exact r.paired name

-- What Register asks of a spec.
def refusal (spec : Spec) : Option Go.Error :=
  if spec.name = "" then some ⟨"tool name is required", []⟩
  else if spec.requiredScope = "" then some ⟨"required scope is required", []⟩
  else none

def register (spec : Spec) (handler : H) (r : Registry H) : Option Go.Error × Registry H :=
  match refusal spec with
  | some err => (some err, r)
  | none => (none, r.put (withDefaults spec) handler)

def unregister (name : String) (r : Registry H) : Registry H where
  specs := r.specs.delete name
  handlers := r.handlers.delete name
  named other spec h := by
    rw [Map.get?_delete] at h
    split at h
    · exact absurd h.symm (Option.some_ne_none _)
    · exact r.named other spec h
  paired other := by
    rw [Map.get?_delete, Map.get?_delete]
    split
    · rfl
    · exact r.paired other

def get (r : Registry H) (name : String) : Option Spec := r.specs.get? name

def handler (r : Registry H) (name : String) : Option H := r.handlers.get? name

def list (r : Registry H) : List Spec :=
  (r.specs.entries.map Sigma.snd).insertionSort fun first second => first.name ≤ second.name

@[simp] theorem newRegistry_get (name : String) :
    (newRegistry : Registry H).get name = none := rfl

theorem get_put (r : Registry H) (spec : Spec) (handler : H) (name : String) :
    (r.put spec handler).get name = if name = spec.name then some spec else r.get name :=
  Map.get?_set _ _ _ _

theorem handler_put (r : Registry H) (spec : Spec) (handler : H) (name : String) :
    (r.put spec handler).handler name =
      if name = spec.name then some handler else r.handler name :=
  Map.get?_set _ _ _ _

theorem get_unregister (r : Registry H) (name other : String) :
    (r.unregister name).get other = if other = name then none else r.get other :=
  Map.get?_delete _ _ _

theorem handler_unregister (r : Registry H) (name other : String) :
    (r.unregister name).handler other = if other = name then none else r.handler other :=
  Map.get?_delete _ _ _

theorem get_name (r : Registry H) (name : String) (spec : Spec) (h : r.get name = some spec) :
    spec.name = name := r.named name spec h

theorem get_isSome_iff (r : Registry H) (name : String) :
    (r.get name).isSome = (r.handler name).isSome := r.paired name

-- The two maps as one table: what a name resolves to.
def table (r : Registry H) : Table String (Spec × H) := fun name =>
  (r.get name).bind fun spec => (r.handler name).map (spec, ·)

theorem table_fst (r : Registry H) (name : String) : (r.table name).map Prod.fst = r.get name := by
  have hpaired := r.get_isSome_iff name
  unfold table
  cases hget : r.get name with
  | none => rfl
  | some spec =>
    cases hhandler : r.handler name with
    | none => simp [hget, hhandler] at hpaired
    | some handler => rfl

theorem table_snd (r : Registry H) (name : String) :
    (r.table name).map Prod.snd = r.handler name := by
  have hpaired := r.get_isSome_iff name
  unfold table
  cases hhandler : r.handler name with
  | none => simp
  | some handler =>
    cases hget : r.get name with
    | none => simp [hget, hhandler] at hpaired
    | some spec => rfl

theorem table_eq_some_iff (r : Registry H) (name : String) (spec : Spec) (handler : H) :
    r.table name = some (spec, handler) ↔ r.get name = some spec ∧ r.handler name = some handler := by
  simp [table, Option.bind_eq_some_iff]

-- Two registries with one table answer every lookup alike.
theorem table_eq_iff (r r' : Registry H) :
    r.table = r'.table ↔ ∀ name, r.get name = r'.get name ∧ r.handler name = r'.handler name := by
  constructor
  · intro h name
    rw [← table_fst, ← table_fst, ← table_snd, ← table_snd, h]
    exact ⟨rfl, rfl⟩
  · intro h
    funext name
    unfold table
    rw [(h name).1, (h name).2]

theorem table_put (r : Registry H) (spec : Spec) (handler : H) :
    (r.put spec handler).table = Function.update r.table spec.name (some (spec, handler)) := by
  funext name
  unfold table
  rw [get_put, handler_put, Function.update_apply]
  split <;> rfl

theorem table_unregister (r : Registry H) (name : String) :
    (r.unregister name).table = Function.update r.table name none := by
  funext other
  unfold table
  rw [get_unregister, handler_unregister, Function.update_apply]
  split <;> rfl

end Registry

end Troubleshooter.Tool
