import HartKernel.Word
import HartKernel.Text.Form

/-!
# Result codes

Every kernel operation ends with a result code.  Codes travel through a
register of the caller, sign-extended, so each has a small number: zero is
success and failures are negative.  An operation can fail in a few ways only,
and has an error type with exactly those.

Main definitions:

- `ResultCode` lists the codes; `ResultCode.value` and `ResultCode.ofValue?`
  pass between a code and its number.
- `OperationError` is the class of error types whose values are failure codes.

Main results:

- `ResultCode.ofValue?_value` and `ResultCode.value_of_ofValue?`: the numbers
  name the codes exactly.
-/

namespace HartKernel

/-- How an operation or a system service ended. -/
inductive ResultCode where
  /-- The operation was successful. -/
  | success
  /-- The operation is not supported. -/
  | notSupported
  /-- A parameter is invalid in a way that no other code covers. -/
  | badParam
  /-- The identifier does not belong to a created task. -/
  | badId
  /-- The current context disallows the operation. -/
  | badContext
  /-- A stack region is too small to hold a frame. -/
  | noMemory
  /-- The state of the task disallows the operation. -/
  | badObjectState
  /-- There are too many things of a kind already. -/
  | queueOverflow
deriving DecidableEq, Repr, Inhabited

namespace ResultCode

/-- All codes. -/
def all : List ResultCode :=
  [success, notSupported, badParam, badId, badContext, noMemory, badObjectState, queueOverflow]

/-- The number of a code. -/
def value : ResultCode → Int
  | success => 0
  | notSupported => -9
  | badParam => -17
  | badId => -18
  | badContext => -25
  | noMemory => -33
  | badObjectState => -41
  | queueOverflow => -43

/-- The code with a given number. -/
def ofValue? (n : Int) : Option ResultCode := all.find? fun c => c.value == n

/-- The name of a code. -/
def name : ResultCode → String
  | success => "Success"
  | notSupported => "NotSupported"
  | badParam => "BadParam"
  | badId => "BadId"
  | badContext => "BadContext"
  | noMemory => "NoMemory"
  | badObjectState => "BadObjectState"
  | queueOverflow => "QueueOverflow"

/-- Failures have negative numbers. -/
def isErr (c : ResultCode) : Bool := decide (c.value < 0)

/-- A code that is no failure is a success. -/
def isOk (c : ResultCode) : Bool := !c.isErr

/-- The number of a code, sign-extended to a register. -/
def toRegister (c : ResultCode) : Word := BitVec.ofInt 64 c.value

/-- Codes are ordered by their numbers. -/
def compare (a b : ResultCode) : Ordering := Ord.compare a.value b.value

@[simp] theorem mem_all (c : ResultCode) : c ∈ all := by cases c <;> decide

/-- The number of a code names that code. -/
@[simp] theorem ofValue?_value (c : ResultCode) : ofValue? c.value = some c := by
  cases c <;> decide

/-- Only the number of a code names it. -/
theorem value_of_ofValue? {n : Int} {c : ResultCode} (h : ofValue? n = some c) :
    c.value = n := by
  simpa using List.find?_some h

theorem isErr_iff (c : ResultCode) : c.isErr = true ↔ c ≠ success := by
  cases c <;> decide

end ResultCode

instance : Describe ResultCode := ⟨fun c => .atom c.name⟩

/-! ## Errors of single operations -/

/-- Types of errors whose values are failure codes. -/
class OperationError (ε : Type) where
  /-- The code that the error is reported as. -/
  code : ε → ResultCode
  /-- All values of the type. -/
  values : List ε

/-- The code that an operation ends with. -/
def ResultCode.ofOutcome {ε : Type} [OperationError ε] : Except ε Unit → ResultCode
  | .ok () => .success
  | .error e => OperationError.code e

/-- A task is looked up by an identifier that no task has. -/
inductive LookupError where
  | badId
deriving DecidableEq, Repr

instance : OperationError LookupError where
  code
    | .badId => .badId
  values := [.badId]

/-- The interrupt mask is asked for while it is already held. -/
inductive LockError where
  | badContext
deriving DecidableEq, Repr

instance : OperationError LockError where
  code
    | .badContext => .badContext
  values := [.badContext]

/-- A task cannot be created. -/
inductive CreateError where
  /-- The priority is out of range, or the stack region is misaligned. -/
  | badParam
  /-- The stack region cannot hold the initial frame. -/
  | noMemory
  /-- The task table is full. -/
  | queueOverflow
deriving DecidableEq, Repr

instance : OperationError CreateError where
  code
    | .badParam => .badParam
    | .noMemory => .noMemory
    | .queueOverflow => .queueOverflow
  values := [.badParam, .noMemory, .queueOverflow]

/-- A task cannot be activated. -/
inductive ActivateError where
  | badId
  /-- The task is active already. -/
  | queueOverflow
deriving DecidableEq, Repr

instance : OperationError ActivateError where
  code
    | .badId => .badId
    | .queueOverflow => .queueOverflow
  values := [.badId, .queueOverflow]

/-- A task cannot be woken. -/
inductive WakeError where
  | badId
  /-- The task is neither Blocked nor Suspended. -/
  | badObjectState
deriving DecidableEq, Repr

instance : OperationError WakeError where
  code
    | .badId => .badId
    | .badObjectState => .badObjectState
  values := [.badId, .badObjectState]

/-- A task cannot be blocked. -/
inductive BlockError where
  | badId
  /-- The task is neither Running nor Ready. -/
  | badObjectState
deriving DecidableEq, Repr

instance : OperationError BlockError where
  code
    | .badId => .badId
    | .badObjectState => .badObjectState
  values := [.badId, .badObjectState]

/-- A task cannot be suspended or resumed. -/
inductive SuspendError where
  | badId
  /-- The task is Dormant, or is in the wrong state for the operation. -/
  | badObjectState
deriving DecidableEq, Repr

instance : OperationError SuspendError where
  code
    | .badId => .badId
    | .badObjectState => .badObjectState
  values := [.badId, .badObjectState]

/-- The priority of a task cannot be changed. -/
inductive PriorityError where
  | badId
  /-- The priority is out of range. -/
  | badParam
  /-- The task is Dormant. -/
  | badObjectState
deriving DecidableEq, Repr

instance : OperationError PriorityError where
  code
    | .badId => .badId
    | .badParam => .badParam
    | .badObjectState => .badObjectState
  values := [.badId, .badParam, .badObjectState]

/-- The processor cannot be handed from one task to another. -/
inductive SwitchError where
  | badId
  /-- The task to leave is not the current one. -/
  | badContext
  /-- The task to enter is not Ready, or its saved frame is corrupted. -/
  | badObjectState
  /-- The stack of the task to leave cannot hold its frame. -/
  | noMemory
deriving DecidableEq, Repr

instance : OperationError SwitchError where
  code
    | .badId => .badId
    | .badContext => .badContext
    | .badObjectState => .badObjectState
    | .noMemory => .noMemory
  values := [.badId, .badContext, .badObjectState, .noMemory]

end HartKernel
