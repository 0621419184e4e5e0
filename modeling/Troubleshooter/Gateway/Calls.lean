import Troubleshooter.Capability.Types
import Troubleshooter.Policy.Static
import Troubleshooter.RateLimit.FixedWindow

namespace Troubleshooter.Gateway

open Troubleshooter.Library
open Troubleshooter.Capability (ToolCapability ToolFilter)
open Troubleshooter.Tool (Spec InvocationRequest InvocationResponse Arguments)

def errDenied : Go.Error := ⟨"tool invocation denied", [.denied]⟩
def errInvalidArguments : Go.Error := ⟨"invalid tool arguments", [.invalidArguments]⟩
def errUnauthenticated : Go.Error := ⟨"gateway authentication required", [.unauthenticated]⟩
def errAgentMismatch : Go.Error :=
  ⟨"authenticated agent does not match request agent", [.agentMismatch]⟩
def errRateLimited : Go.Error := ⟨"gateway rate limit exceeded", [.rateLimited]⟩

structure AuditRecord where
  toolCallID : String
  caseID : String
  agentID : String
  callerUserID : String
  larkUserID : String
  toolName : String
  requiredScope : String
  argumentsSummary : String
  policyDecision : String
  denyReason : String
  queryID : String
  resultCount : Int
  latencyMS : Int
  errorMessage : String
  createdAt : Go.Time

-- What the handler of a capability has captured at its registration.
structure DynamicHandler where
  item : ToolCapability
  baseURL : String
  apiKey : String
  timeout : Go.Duration
  requiredParams : List String

-- A registered handler: one of the built-in closures, or that of a capability.
inductive HandlerFunc (B : Type) where
  | builtin (body : B)
  | dynamic (closure : DynamicHandler)

inductive Limiter where
  | agent
  | user
  | tool
  deriving DecidableEq

structure RequestMeta where
  caseID : String
  agentID : String
  callerUserID : String
  toolName : String
  timeout : Go.Duration

-- The atomic steps of the gateway and of the reloader: every method of a shared
-- object runs under that object's lock.
inductive Call (B : Type) where
  | now
  | newID (label : String)
  | registryGet (name : String)
  | registryHandler (name : String)
  | registryList
  | registryRegister (spec : Spec) (handler : HandlerFunc B)
  | registryUnregister (name : String)
  | allow (limiter : Limiter) (key : String) (now : Go.Time)
  | runHandler (handler : HandlerFunc B) (requestMeta : RequestMeta) (req : InvocationRequest)
  | recordAudit (record : AuditRecord)
  | lockReload
  | unlockReload
  | listToolCapabilities (filter : ToolFilter)
  | getenv (name : String)
  | registered
  | setRegistered (names : List String)

abbrev Call.Res {B : Type} : Call B → Type
  | .now => Go.Time
  | .newID _ => String
  | .registryGet _ => Option Spec
  | .registryHandler _ => Option (HandlerFunc B)
  | .registryList => List Spec
  | .registryRegister _ _ => Option Go.Error
  | .registryUnregister _ => Unit
  | .allow _ _ _ => Bool
  | .runHandler _ _ _ => InvocationResponse × Option Go.Error
  | .recordAudit _ => Unit
  | .lockReload => Unit
  | .unlockReload => Unit
  | .listToolCapabilities _ => Except Go.Error (List ToolCapability)
  | .getenv _ => String
  | .registered => List String
  | .setRegistered _ => Unit

abbrev Calls (B : Type) : Signature where
  Op := Call B
  Res := Call.Res

abbrev GatewayProg (B α : Type) := Prog (Calls B) α

def call {B : Type} (op : Call B) : GatewayProg B (Call.Res op) := Prog.perform (S := Calls B) op

@[simp] theorem run_call {B σ : Type} (handle : Handler (Calls B) σ) (op : Call B) (state : σ) :
    (call op).run handle state = handle op state := rfl

-- The library functions the gateway calls: tables, digests, decoders, the masker.
structure Host where
  go : Go.Runtime
  sha256 : String → String
  parseLayout : (layout value : String) → Except Go.Error Go.Time
  mask : Value → Value
  argumentsSummary : Arguments → String
  jsonUnmarshal : String → Except Go.Error (List (String × Value))
  jsonStrings : String → List String
  parseRequestURI : String → Except Go.Error String

-- The functions cut down to plain text and no JSON, for running the model.
def Host.plain : Host where
  go := .ascii
  sha256 := id
  parseLayout _ value := .error ⟨"cannot parse " ++ value, []⟩
  mask := id
  argumentsSummary _ := ""
  jsonUnmarshal _ := .ok []
  jsonStrings _ := []
  parseRequestURI := .ok

structure SecurityConfig where
  authEnabled : Bool
  bearerTokens : List (String × String)
  allowUnauthenticatedListTools : Bool
  agentQPS : Int
  userQPS : Int
  toolQPS : Int

structure RateLimiters where
  agent : RateLimit.FixedWindow
  user : RateLimit.FixedWindow
  tool : RateLimit.FixedWindow

def newRateLimiters (cfg : SecurityConfig) : RateLimiters where
  agent := RateLimit.newFixedWindow cfg.agentQPS Go.Duration.second
  user := RateLimit.newFixedWindow cfg.userQPS Go.Duration.second
  tool := RateLimit.newFixedWindow cfg.toolQPS Go.Duration.second

set_option linter.dupNamespace false in
-- The fields of a gateway that never change once it serves; audit tells whether a
-- sink is configured.
structure Gateway where
  host : Host
  policy : Policy.Engine
  audit : Bool
  timeout : Go.Duration
  security : SecurityConfig

end Troubleshooter.Gateway
