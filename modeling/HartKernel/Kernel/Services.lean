import HartKernel.Kernel.Lifecycle
import HartKernel.Service

/-!
# Executing system services

A service number and an argument are turned into a kernel operation on behalf
of a caller.  Code that runs on behalf of no task has no caller, and cannot
block or suspend itself.

Main definitions:

- `Kernel.serve` executes one service and answers with its result code.
-/

namespace HartKernel

namespace Kernel

variable {capacity levels : Nat}

/-- The result code of an operation, beside the state after it. -/
def coded {ε : Type} [OperationError ε]
    (answer : Except ε Unit × Kernel capacity levels) : ResultCode × Kernel capacity levels :=
  (.ofOutcome answer.1, answer.2)

/-- Execute a known service. -/
def perform (k : Kernel capacity levels) (caller : Option TaskId) (service : Service)
    (argument : Word) : Traced (ResultCode × Kernel capacity levels) :=
  match service, caller with
  | .yield, _ => pure (.success, k)
  | .block, some id => coded <$> k.markBlocked id
  | .wake, _ =>
    match TaskId.ofRaw? argument.toNat with
    | none => pure (.badId, k)
    | some id => coded <$> k.markReady id
  | .suspendSelf, some id => coded <$> k.suspend id
  | .block, none | .suspendSelf, none => pure (.badContext, k)

/-- Execute the service with a number.  Whoever asks for a service has to
request a dispatch as well. -/
def serve (k : Kernel capacity levels) (caller : Option TaskId) (number argument : Word) :
    Traced (ResultCode × Kernel capacity levels) :=
  match Service.ofNumber? number with
  | none => do
    Traced.note (.unknownService number caller)
    return (.notSupported, k)
  | some service => do
    Traced.note (.serviceCalled caller service argument)
    let (result, k) ← k.perform caller service argument
    if result.isErr then
      Traced.note (.serviceFailed caller service argument result)
    return (result, k)

end Kernel

end HartKernel
