import Troubleshooter.Capability.Types

namespace Troubleshooter.Capability

open Troubleshooter.Library

def ToolFilter.admits (filter : ToolFilter) (item : ToolCapability) : Bool :=
  (filter.status == "" || item.toolStatus == filter.status) &&
    (filter.sourceType == "" || item.sourceType == filter.sourceType)

-- What a status update writes into the row.
def ToolCapability.withStatus (item : ToolCapability) (status publishedBy : String) :
    ToolCapability :=
  let item := { item with toolStatus := status, publishedBy }
  if status = statusEnabled then { item with approvalStatus := "approved" } else item

structure MemoryStore where
  nextServiceID : Int
  nextServerID : Int
  nextToolID : Int
  nextRunID : Int
  services : Go.Map String BusinessService
  servers : Go.Map Int MCPServer
  tools : Go.Map Int ToolCapability
  toolsByName : Go.Map String Int
  validationRuns : Go.Map Int ValidationRun

namespace MemoryStore

def newMemoryStore : MemoryStore := ⟨0, 0, 0, 0, ∅, ∅, ∅, ∅, ∅⟩

def errNotFound : Go.Error := ⟨"capability not found", [.capabilityNotFound]⟩

def upsertBusinessService (service : BusinessService) (s : MemoryStore) :
    Except Go.Error BusinessService × MemoryStore :=
  match s.services.get? service.serviceName with
  | some existing =>
    let service := { service with id := existing.id }
    (.ok service, { s with services := s.services.set service.serviceName service })
  | none =>
    let service := { service with id := s.nextServiceID + 1 }
    (.ok service,
      { s with
        nextServiceID := s.nextServiceID + 1
        services := s.services.set service.serviceName service })

def createMCPServer (server : MCPServer) (s : MemoryStore) :
    Except Go.Error MCPServer × MemoryStore :=
  let server := { server with id := s.nextServerID + 1 }
  (.ok server,
    { s with nextServerID := s.nextServerID + 1, servers := s.servers.set server.id server })

def upsertToolCapability (item : ToolCapability) (s : MemoryStore) :
    Except Go.Error ToolCapability × MemoryStore :=
  match s.toolsByName.get? item.toolName with
  | some id =>
    let item := { item with id }
    (.ok item, { s with tools := s.tools.set id item })
  | none =>
    let item := { item with id := s.nextToolID + 1 }
    (.ok item,
      { s with
        nextToolID := s.nextToolID + 1
        tools := s.tools.set item.id item
        toolsByName := s.toolsByName.set item.toolName item.id })

def getToolCapability (id : Int) (s : MemoryStore) : Except Go.Error ToolCapability :=
  match s.tools.get? id with
  | some item => .ok item
  | none => .error errNotFound

-- By service name, then by tool name.
def listedBefore (first second : ToolCapability) : Prop :=
  if first.serviceName ≠ second.serviceName then first.serviceName < second.serviceName
  else first.toolName ≤ second.toolName

instance : DecidableRel listedBefore := fun _ _ => inferInstanceAs (Decidable (ite ..))

def listToolCapabilities (filter : ToolFilter) (s : MemoryStore) : List ToolCapability :=
  let limit := if filter.limit ≤ 0 then 100 else filter.limit
  let out := (s.tools.entries.map Sigma.snd).filter filter.admits
  (out.insertionSort listedBefore).take limit.toNat

def updateToolCapabilityStatus (id : Int) (status publishedBy : String) (s : MemoryStore) :
    Except Go.Error ToolCapability × MemoryStore :=
  match s.tools.get? id with
  | none => (.error errNotFound, s)
  | some item =>
    let item := item.withStatus status publishedBy
    (.ok item, { s with tools := s.tools.set id item })

def createValidationRun (run : ValidationRun) (s : MemoryStore) :
    Except Go.Error ValidationRun × MemoryStore :=
  let run := { run with id := s.nextRunID + 1 }
  (.ok run,
    { s with
      nextRunID := s.nextRunID + 1
      validationRuns := s.validationRuns.set run.id run })

def handle : Handler Store MemoryStore
  | .upsertBusinessService service, s => upsertBusinessService service s
  | .createMCPServer server, s => createMCPServer server s
  | .upsertToolCapability item, s => upsertToolCapability item s
  | .getToolCapability id, s => (getToolCapability id s, s)
  | .listToolCapabilities filter, s => (.ok (listToolCapabilities filter s), s)
  | .updateToolCapabilityStatus id status publishedBy, s =>
    updateToolCapabilityStatus id status publishedBy s
  | .createValidationRun run, s => createValidationRun run s

end MemoryStore

end Troubleshooter.Capability
