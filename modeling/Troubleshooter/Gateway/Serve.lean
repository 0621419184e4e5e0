import Troubleshooter.Gateway.Invoke

namespace Troubleshooter.Gateway

open Troubleshooter.Library
open Troubleshooter.Tool (Spec InvocationRequest InvocationResponse)

-- A request as the server hands it over; the body is what the decoder makes of it.
structure HTTPRequest where
  method : String
  path : String
  authorization : String
  body : Except Go.Error InvocationRequest

inductive Body where
  | error (message : String)
  | tools (specs : List Spec)
  | ok
  | invocation (resp : InvocationResponse)

structure HTTPResponse where
  status : Nat
  body : Body

def bearerToken (r : HTTPRequest) : String :=
  let raw := Go.trimSpace r.authorization
  let scheme := raw.toList.takeWhile (· ≠ ' ')
  let rest := raw.toList.dropWhile (· ≠ ' ')
  -- two parts only when there is a blank to split at
  if rest.isEmpty || scheme.map Char.toLower != "bearer".toList then ""
  else Go.trimSpace (String.ofList rest.tail)

-- The tokens come in the order the map is ranged over.
def authenticateBearer (host : Host) (tokens : List (String × String)) (token : String) :
    Option String :=
  if token = "" then none
  else (tokens.find? fun entry => host.sha256 entry.1 == host.sha256 token).map Prod.snd

-- The agent of the authenticated context, or the error.
def authenticateRequest (g : Gateway) (r : HTTPRequest) : Except Go.Error String :=
  match authenticateBearer g.host g.security.bearerTokens (bearerToken r) with
  | some agentID => .ok agentID
  | none => .error errUnauthenticated

def isInvokePath (path : String) : Bool := Go.hasPrefix path "/tools/" && Go.hasSuffix path "/invoke"

def invokedTool (path : String) : String :=
  Go.trim (Go.trimSuffix (Go.trimPrefix path "/tools/") "/invoke") "/"

-- Each match overwrites the status of the one before.
def statusOf (err : Go.Error) : Nat :=
  let status := 500
  let status := if err.is .denied then 403 else status
  let status := if err.is .unauthenticated then 401 else status
  let status := if err.is .agentMismatch then 403 else status
  let status := if err.is .rateLimited then 429 else status
  let status :=
    if err.is .invalidArguments || err.is .toolNotFound || err.is .toolDisabled then 400
    else status
  if err.is .deadlineExceeded then 504 else status

variable {B : Type}

def serveInvoke (g : Gateway) (r : HTTPRequest) (req : InvocationRequest)
    (authenticatedAgent : String) : GatewayProg B HTTPResponse := do
  let answer ← invoke g authenticatedAgent { req with toolName := invokedTool r.path }
  match answer.2 with
  | some err => return ⟨statusOf err, .invocation answer.1⟩
  | none => return ⟨200, .invocation answer.1⟩

def serveHTTP (g : Gateway) (r : HTTPRequest) : GatewayProg B HTTPResponse :=
  if r.method = "GET" ∧ r.path = "/tools" then
    let authenticated :=
      if g.security.authEnabled && !g.security.allowUnauthenticatedListTools then
        authenticateRequest g r
      else .ok ""
    match authenticated with
    | .error err => return ⟨401, .error err.message⟩
    | .ok _ => do
      let specs ← call .registryList
      return ⟨200, .tools specs⟩
  else if r.method = "GET" ∧ r.path = "/healthz" then return ⟨200, .ok⟩
  else if r.method = "POST" ∧ isInvokePath r.path then
    match r.body with
    | .error err => return ⟨400, .error err.message⟩
    | .ok req =>
      if g.security.authEnabled then
        match authenticateRequest g r with
        | .error err => return ⟨401, .error err.message⟩
        | .ok agentID => serveInvoke g r req agentID
      else serveInvoke g r req ""
  else return ⟨404, .error "not found"⟩

end Troubleshooter.Gateway
