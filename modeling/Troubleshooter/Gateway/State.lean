import Troubleshooter.Capability.View
import Troubleshooter.Gateway.Invoke

namespace Troubleshooter.Gateway

open Troubleshooter.Library
open Troubleshooter.Go (Map)
open Troubleshooter.Capability (StoreView)
open Troubleshooter.Tool (Spec Registry InvocationRequest InvocationResponse)

-- What the outside answers: the clock, the random source, the order a map is ranged
-- over and the handlers, each by how often it has been asked, and the environment.
structure World (B : Type) where
  clock : Nat → Go.Time
  randomID : Nat → String
  getenv : String → String
  range : Nat → List String → List String
  range_perm : ∀ asked names, (range asked names).Perm names
  respond : Nat → HandlerFunc B → RequestMeta → InvocationRequest →
    InvocationResponse × Option Go.Error

def noEnvironment (_ : String) : String := ""

-- A world in which every second reads one tick later and every handler answers at
-- once with no data, for running the model.
def World.plain {B : Type} : World B where
  clock reads := (reads + 1) * Go.Duration.second
  randomID drawn := toString drawn
  getenv := noEnvironment
  range _ names := names
  range_perm _ names := List.Perm.refl names
  respond _ _ _ _ := ({}, none)

structure Execution (B : Type) where
  handler : HandlerFunc B
  req : InvocationRequest

structure State (B : Type) where
  registry : Registry (HandlerFunc B)
  limits : RateLimiters
  audit : List AuditRecord
  registered : List String
  reloadLocked : Bool
  store : StoreView
  clockReads : Nat
  idsDrawn : Nat
  mapRanges : Nat
  -- history kept for the statements only: the handlers that ran, the registrations
  -- made so far, and which of them a name's entry comes from
  executed : List (Execution B)
  registrations : List (Spec × HandlerFunc B)
  origin : Map String Nat

-- A gateway that has served nothing yet.
def State.initial {B : Type} (registry : Registry (HandlerFunc B)) (cfg : SecurityConfig)
    (store : StoreView) : State B where
  registry
  limits := newRateLimiters cfg
  audit := []
  registered := []
  reloadLocked := false
  store
  clockReads := 0
  idsDrawn := 0
  mapRanges := 0
  executed := []
  registrations := []
  origin := ∅

variable {B : Type}

def allow (limiter : Limiter) (key : String) (now : Go.Time) (limits : RateLimiters) :
    Bool × RateLimiters :=
  match limiter with
  | .agent =>
    let answer := limits.agent.allow key now
    (answer.1, { limits with agent := answer.2 })
  | .user =>
    let answer := limits.user.allow key now
    (answer.1, { limits with user := answer.2 })
  | .tool =>
    let answer := limits.tool.allow key now
    (answer.1, { limits with tool := answer.2 })

def State.register (spec : Spec) (handler : HandlerFunc B) (s : State B) :
    Option Go.Error × State B :=
  let answer := Registry.register spec handler s.registry
  match answer.1 with
  | some err => (some err, s)
  | none =>
    (none,
      { s with
        registry := answer.2
        registrations := s.registrations ++ [(Registry.withDefaults spec, handler)]
        origin := s.origin.set spec.name s.registrations.length })

def handle (world : World B) : Handler (Calls B) (State B)
  | .now, s => (world.clock s.clockReads, { s with clockReads := s.clockReads + 1 })
  | .newID label, s =>
    (label ++ "_" ++ world.randomID s.idsDrawn, { s with idsDrawn := s.idsDrawn + 1 })
  | .registryGet name, s => (s.registry.get name, s)
  | .registryHandler name, s => (s.registry.handler name, s)
  | .registryList, s => (s.registry.list, s)
  | .registryRegister spec handler, s => s.register spec handler
  | .registryUnregister name, s => ((), { s with registry := s.registry.unregister name })
  | .allow limiter key now, s =>
    let answer := allow limiter key now s.limits
    (answer.1, { s with limits := answer.2 })
  | .runHandler handler requestMeta req, s =>
    (world.respond s.executed.length handler requestMeta req,
      { s with executed := s.executed ++ [⟨handler, req⟩] })
  | .recordAudit record, s => ((), { s with audit := s.audit ++ [record] })
  | .lockReload, s => ((), { s with reloadLocked := true })
  | .unlockReload, s => ((), { s with reloadLocked := false })
  | .listToolCapabilities filter, s => (s.store.listToolCapabilities filter, s)
  | .getenv name, s => (world.getenv name, s)
  | .registered, s =>
    (world.range s.mapRanges s.registered, { s with mapRanges := s.mapRanges + 1 })
  | .setRegistered names, s => ((), { s with registered := names })

-- Only the lock of the reloader makes a caller wait.
def enabled : Call B → State B → Bool
  | .lockReload, s => !s.reloadLocked
  | _, _ => true

end Troubleshooter.Gateway
