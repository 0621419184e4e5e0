import Troubleshooter.Python.Text

namespace Troubleshooter.Platform

namespace CaseScheduler

open Troubleshooter.Python (strip)

def claimableStatuses : List String :=
  ["NEW", "NEED_MORE_INFO", "WAITING_USER_REPLY", "READY_TO_INVESTIGATE"]

def activeStatuses : List String := ["INVESTIGATING", "WAITING_TOOL_RESULT"]

def terminalStatuses : List String := ["NEED_HUMAN_CONFIRMATION", "DONE", "FAILED"]

structure ScheduleDecision where
  accepted : Bool
  eventType : String
  nextStatus : String
  reason : String

def statusOr (default current : String) : String :=
  if strip current = "" then default else strip current

def claim (currentStatus : String) : ScheduleDecision :=
  let status := statusOr "NEW" currentStatus
  if status ∈ claimableStatuses then
    { accepted := true
      eventType := "scheduler_claimed"
      nextStatus := "READY_TO_INVESTIGATE"
      reason := "case status " ++ status ++ " is claimable" }
  else
    { accepted := false
      eventType := "scheduler_rejected"
      nextStatus := status
      reason := "case status " ++ status ++ " is not claimable" }

def finish (finalStatus : String) (failed : Bool) (timedOut : Bool := false) : ScheduleDecision :=
  let status := statusOr "UNKNOWN" finalStatus
  if timedOut then
    ⟨false, "scheduler_timed_out", "FAILED", "case processing exceeded timeout"⟩
  else if failed then
    ⟨false, "scheduler_failed", "FAILED", "case processing failed"⟩
  else if status ∈ terminalStatuses ∨ status ∈ ["NEED_MORE_INFO", "WAITING_USER_REPLY"] then
    ⟨true, "scheduler_finished", status, "case finished with status " ++ status⟩
  else if status ∈ activeStatuses then
    ⟨false, "scheduler_still_active", status, "case remains active with status " ++ status⟩
  else ⟨true, "scheduler_finished", status, "case finished with status " ++ status⟩

-- A status that process_case goes on from.
def Claimable (status : String) : Prop := statusOr "NEW" status ∈ claimableStatuses

instance (status : String) : Decidable (Claimable status) :=
  inferInstanceAs (Decidable (_ ∈ _))

theorem claim_accepted_iff (status : String) :
    (claim status).accepted = true ↔ Claimable status := by
  unfold claim Claimable
  dsimp only
  split <;> simp_all

-- What an accepted claim writes can be claimed again.
theorem claim_next_claimable (status : String) (h : Claimable status) :
    Claimable (claim status).nextStatus := by
  unfold Claimable at h
  simp only [claim, if_pos h]
  decide +kernel

end CaseScheduler

end Troubleshooter.Platform
