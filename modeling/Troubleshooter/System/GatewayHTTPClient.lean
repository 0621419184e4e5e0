import Troubleshooter.Gateway.Server
import Troubleshooter.Library.Joint
import Troubleshooter.Platform.Cases
import Troubleshooter.Platform.Capabilities
import Troubleshooter.Platform.Messages

namespace Troubleshooter.System

open Troubleshooter.Library
open Troubleshooter.Gateway (ServerRequest Reply Server Calls GatewayProg)
open Troubleshooter.Platform (CaseCall CaseCalls Dict ToolRequest orText)
open Troubleshooter.Python (get iterate orElse str)

-- A request as the client hands it to urllib; the payload is written as JSON.
structure ClientRequest where
  method : String
  url : String
  authorization : Option String
  payload : Option Dict

-- What opening a request comes to, with what is read from it: a body, an HTTP error with
-- its body, its reason and the way it prints, or another exception.
inductive Opened where
  | read (raw : String)
  | httpError (raw reason shown : String)
  | raised (failure : String)

-- One request to the server and its reply.
abbrev Exchanges : Signature where
  Op := ServerRequest
  Res _ := Reply

-- urllib and json under the client. Opening a request makes the exchanges that it takes,
-- none where the address cannot be reached and more than one where a reply redirects.
structure StandardLibrary where
  python : Python.Runtime
  urlopen : ClientRequest → Prog Exchanges Opened
  loads : String → Except String Value

structure GatewayHTTPClient where
  library : StandardLibrary
  endpoint : String
  bearerToken : String := ""
  adminBearerToken : String := ""

-- endpoint.rstrip("/")
def rstripSlashes (endpoint : String) : String :=
  String.ofList (endpoint.toList.rdropWhile (· = '/'))

def noGet : String := "object has no attribute 'get'"

namespace GatewayHTTPClient

variable (client : GatewayHTTPClient)

-- What is raised for an HTTP error.
def errorOf (raw reason shown : String) : String :=
  let value := match client.library.loads (orText raw "\x7b\x7d") with
    | .ok value => value
    | .error _ => .map [("error", .str (orText raw reason))]
  match value with
  | .map entries =>
    str client.library.python
      (orElse (orElse (get entries "error" .null) (get entries "summary" .null)) (.str shown))
  | _ => noGet

def answerOf : Opened → Except String Value
  | .read raw => client.library.loads (orText raw "\x7b\x7d")
  | .httpError raw reason shown => .error (client.errorOf raw reason shown)
  | .raised failure => .error failure

def request (method path : String) (payload : Option Dict) (bearerToken : String) :
    Prog Exchanges (Except String Value) :=
  client.answerOf <$> client.library.urlopen
    { method
      url := rstripSlashes client.endpoint ++ path
      authorization := if bearerToken = "" then none else some ("Bearer " ++ bearerToken)
      payload }

-- The dicts among the tools of the payload.
def toolsOf (payload : Value) : Except String (List Dict) :=
  match payload with
  | .map entries => do
    let items ← iterate (get entries "tools" (.list []))
    return items.filterMap fun
      | .map tool => some tool
      | _ => none
  | _ => .error noGet

def listTools : Prog Exchanges (Except String (List Dict)) :=
  (· >>= toolsOf) <$> client.request "GET" "/tools" none client.bearerToken

-- Whoever reads the response takes it for a dict.
def responseOf (payload : Value) : Except String Dict :=
  match payload with
  | .map entries => .ok entries
  | _ => .error noGet

def invocationPayload (request : ToolRequest) : Dict :=
  [("case_id", .str request.caseNo), ("agent_id", .str request.agentID),
    ("caller_user_id", .str request.callerUserID), ("chat_id", .str request.chatID),
    ("arguments", .map request.arguments)]

def invokeTool (request : ToolRequest) : Prog Exchanges (Except String Dict) :=
  (· >>= responseOf) <$> client.request "POST" ("/tools/" ++ request.toolName ++ "/invoke")
    (some (invocationPayload request)) client.bearerToken

def reloadCapabilities : Prog Exchanges (Except String Dict) :=
  (· >>= responseOf) <$> client.request "POST" "/admin/capabilities/reload" none
    (orText client.adminBearerToken client.bearerToken)

variable {B α : Type} (server : Server)

-- The exchanges of the client with a server, carried out call by call.
def through (program : Prog Exchanges α) : GatewayProg B α :=
  program.expand fun r => server.serveHTTP r

-- What the platform asks of its Gateway client, and the calls that this takes there.
def link : Link CaseCalls (Calls B) where
  remote
    | .listTools | .invokeTool _ => true
    | _ => false
  serve
    | .listTools => through server client.listTools
    | .invokeTool request => through server (client.invokeTool request)
    | _ => pure (.error "")

end GatewayHTTPClient

namespace Sample

def endpoint : String := "http://gateway"

def textOf (payload : Dict) (key : String) : String :=
  match get payload key .null with
  | .str text => text
  | _ => ""

-- What the decoder of the server makes of a payload.
def decoded : Option Dict → Except Go.Error Tool.InvocationRequest
  | none => .error ⟨"EOF", []⟩
  | some payload =>
    .ok {
      caseID := textOf payload "case_id"
      agentID := textOf payload "agent_id"
      callerUserID := textOf payload "caller_user_id"
      chatID := textOf payload "chat_id"
      arguments := match get payload "arguments" .null with
        | .map arguments => arguments
        | _ => [] }

def sent (r : ClientRequest) : ServerRequest :=
  let path := Go.trimPrefix r.url endpoint
  { http := ⟨r.method, path, r.authorization.getD "", decoded r.payload⟩
    escapedPath := path
    segments := (Go.split path '/').filter (· ≠ "") }

-- Of a reply no more is written here than the names of tools, or the status.
def written (reply : Reply) : String :=
  match reply.body with
  | .gateway (.tools specs) => " ".intercalate ("tools" :: specs.map Tool.Spec.name)
  | .gateway (.invocation resp) => "status " ++ resp.status
  | _ => ""

def loads (raw : String) : Except String Value :=
  match Go.split raw ' ' with
  | "tools" :: names =>
    .ok (.map [("tools", .list (names.map fun name => .map [("name", .str name)]))])
  | ["status", status] => .ok (.map [("status", .str status)])
  | _ => .ok (.map [])

def urlopen (r : ClientRequest) : Prog Exchanges Opened := do
  let reply ← Prog.perform (S := Exchanges) (sent r)
  return if reply.status < 300 then .read (written reply)
    else .httpError "" "refused" ("HTTP Error " ++ toString reply.status)

def client : GatewayHTTPClient where
  library := ⟨.ascii, urlopen, loads⟩
  endpoint
  bearerToken := "secret"

end Sample

end Troubleshooter.System
