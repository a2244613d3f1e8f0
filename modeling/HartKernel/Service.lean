import HartKernel.Word

/-!
# System services

A task asks for a service by an environment call; the number of the service is
passed in a register.

Main definitions:

- `Service` lists the services, `Service.ofNumber?` reads a service number.
-/

namespace HartKernel

/-- A service that a task can ask for. -/
inductive Service where
  /-- Let the scheduler reconsider the current task. -/
  | yield
  /-- Block the calling task. -/
  | block
  /-- Make the task named by the argument Ready. -/
  | wake
  /-- Suspend the calling task. -/
  | suspendSelf
deriving DecidableEq, Repr

namespace Service

/-- The service with a given number. -/
def ofNumber? (n : Word) : Option Service :=
  if n = 0 then some yield
  else if n = 1 then some block
  else if n = 2 then some wake
  else if n = 3 then some suspendSelf
  else none

/-- The name of a service. -/
def name : Service → String
  | yield => "Yield"
  | block => "Block"
  | wake => "Wake"
  | suspendSelf => "SuspendSelf"

end Service

end HartKernel
