import HartKernel.Priority.ReadyQueue
import HartKernel.Traced

/-!
# Answers

What a simulated system answers to a command.

Main definitions:

- `Answer` is an answer; `Answer.ofOperation`, `Answer.ofFrame` and
  `Answer.ofContext` make one from the outcome of an operation.
-/

namespace HartKernel

/-- What is known of a task, as far as there is such a task. -/
structure TaskFacts where
  /-- The state, or that there is no such task. -/
  state : Except LookupError TaskState
  /-- The current priority, or that there is no such task. -/
  priority : Except LookupError Nat
  /-- The name. -/
  name : Option String
  /-- The lowest and one past the highest address of the stack. -/
  extent : Option (Nat × Nat)

/-- An answer to a command. -/
inductive Answer where
  /-- There is nothing to answer. -/
  | nothing
  | flag (value : Bool)
  | number (value : Nat)
  | word (value : Word)
  | text (value : String)
  /-- A task, or none. -/
  | task (id : Option TaskId)
  | tasks (ids : List TaskId)
  | decision (value : Decision)
  | context (value : TrapContext)
  /-- Words of memory with their indices. -/
  | cells (values : List (Nat × Word))
  | facts (value : TaskFacts)
  /-- Several answers. -/
  | several (items : List Answer)
  /-- The operation succeeded. -/
  | done (value : Answer)
  /-- The operation failed, with the name of the error. -/
  | failed (error : String)
  /-- A phase of trap handling failed. -/
  | trapFailed (diagnostic : FatalTrap)
  /-- The trap was fatal. -/
  | fatal (diagnostic : FatalTrap)
  /-- The interrupt mask was not available. -/
  | lockRefused (error : LockError)

namespace Answer

/-- An optional answer. -/
def ofOption : Option Answer → Answer
  | none => nothing
  | some a => a

/-- The outcome of a kernel operation. -/
def ofOperation {ε α : Type} [OperationError ε] (f : α → Answer) : Except ε α → Answer
  | .ok a => done (f a)
  | .error e => failed (OperationError.code e).name

/-- The outcome of a stack or frame access. -/
def ofFrame {α : Type} (f : α → Answer) : Except FrameError α → Answer
  | .ok a => done (f a)
  | .error e => failed e.name

/-- The outcome of saving or restoring a context. -/
def ofContext {α : Type} (f : α → Answer) : Except ContextError α → Answer
  | .ok a => done (f a)
  | .error e => failed (form e).inline

/-- The outcome of a phase of trap handling. -/
def ofPhase {α : Type} (f : α → Answer) : Except FatalTrap α → Answer
  | .ok a => done (f a)
  | .error d => trapFailed d

/-- The outcome of handling a trap. -/
def ofTrap : Except FatalTrap Unit → Answer
  | .ok () => text "returned"
  | .error d => fatal d

/-- The variant of a loaded frame, if any. -/
def ofKind : Option FrameKind → Answer
  | none => nothing
  | some kind => text kind.name

end Answer

end HartKernel
