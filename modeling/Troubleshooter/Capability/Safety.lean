import Troubleshooter.Capability.Types

namespace Troubleshooter.Capability

open Troubleshooter.Library

def dangerWords : List String :=
  ["delete", "remove", "drop", "truncate", "insert", "update", "upsert", "create", "write",
   "execute", "exec", "run", "shell", "command", "deploy", "restart", "approve", "refund", "pay",
   "transfer", "send", "grant", "revoke", "disable", "enable"]

def readWords : List String :=
  ["get", "list", "search", "query", "read", "find", "describe", "profile", "status", "quota",
   "logs", "kline", "snapshot", "events", "compare", "similar", "metadata", "summary"]

def isLowerAlnum (letter : Char) : Bool :=
  ('a' ≤ letter && letter ≤ 'z') || ('0' ≤ letter && letter ≤ '9')

-- (^|[^a-z0-9])word([^a-z0-9]|$): the words begin and end with letters of the
-- class, so this is the word between two boundaries of the class.
def containsWord (signal word : String) : Bool :=
  Text.searchWord isLowerAlnum (word.toList.map fun letter => (· == letter)) none signal.toList

def assessSafety (go : Go.Runtime) (toolName description method path scope : String) :
    String × List String :=
  let signal := go.toLower (String.intercalate " " [toolName, description, path, scope])
  if method ≠ "" ∧ method ≠ "GET" ∧ method ≠ "POST" then
    (safetyRejected, ["method " ++ method ++ " is not allowed for readonly capability"])
  else
    match dangerWords.find? (containsWord signal) with
    | some word => (safetyRejected, ["dangerous action keyword: " ++ word])
    | none =>
      if Text.Contains signal "sql" ∧ (Text.Contains signal "execute" ∨
          Text.Contains signal "script" ∨ ¬Text.Contains signal "readonly") then
        (safetyRejected,
          ["sql capability must be named readonly query and cannot expose arbitrary execution"])
      else
        match readWords.find? fun word => Text.Contains signal word with
        | some word => (safetyReadonlyCandidate, ["readonly signal: " ++ word])
        | none => (safetyNeedsReview, ["no clear readonly signal; manual review required"])

-- What both kinds of import make of it: a path outside /readonly/ is rejected
-- whatever the words say, with the reason of its kind.
def assessImport (go : Go.Runtime) (toolName description method path scope outside : String) :
    String × List String :=
  let (safetyStatus, reasons) := assessSafety go toolName description method path scope
  if Text.Contains path "/readonly/" then (safetyStatus, reasons)
  else (safetyRejected, reasons ++ [outside])

def importStatus (safetyStatus : String) : String :=
  if safetyStatus = safetyRejected then statusRejected else statusDraft

def importApproval (safetyStatus : String) : String :=
  if safetyStatus = safetyRejected then "rejected" else "pending"

end Troubleshooter.Capability
