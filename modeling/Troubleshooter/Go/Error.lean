namespace Troubleshooter.Go

-- The package-level error variables callers compare against.
inductive Sentinel where
  | denied
  | invalidArguments
  | unauthenticated
  | agentMismatch
  | rateLimited
  | toolNotFound
  | toolDisabled
  | capabilityNotFound
  | deadlineExceeded
  deriving DecidableEq

-- An error by its message and the package-level errors it wraps.
structure Error where
  message : String
  wraps : List Sentinel := []
  deriving DecidableEq

-- errors.Is
def Error.is (err : Error) (target : Sentinel) : Bool := target ∈ err.wraps

end Troubleshooter.Go
