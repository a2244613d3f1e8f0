import HartKernel.Frame.Codec
import HartKernel.Hart.Config
import HartKernel.Kernel.Basic

/-!
# The life cycle of tasks

Tasks are created Dormant, made Ready by activation, and move between Ready,
Running, Blocked and Suspended from then on.  Every operation looks the task up,
checks that its state allows the step, takes it, and leaves a dispatch request
if the running task is not the best choice any more.

Main definitions:

- `Kernel.create` and `Kernel.activate` bring a task into being.
- `Kernel.markReady`, `Kernel.markBlocked`, `Kernel.suspend` and `Kernel.resume`
  move it; `Kernel.setPriority` changes its priority.

An operation answers with its outcome and with the state after it, also when it
fails.
-/

namespace HartKernel

namespace Kernel

variable {capacity levels : Nat}

/-- The registers that a new task starts with. -/
def startRegisters (cfg : Config) (a : TaskAttributes) : RegisterFile :=
  (({ RegisterFile.zero with pc := a.entryPoint }).set .a0 a.entryParam).set .ra cfg.exitAddress

/-- Create a Dormant task.  Its stack is primed with a frame from which the
first switch to the task starts at the entry point with the parameter; returning
from there goes to the exit address. -/
def create (cfg : Config) (k : Kernel capacity levels) (a : TaskAttributes)
    (stack : StackRegion) : Traced (Except CreateError TaskId × Kernel capacity levels) :=
  if levels ≤ a.priority then pure (.error .badParam, k)
  else if k.tasks.size = capacity then pure (.error .queueOverflow, k)
  else do
    let (saved, stack) ← cfg.layouts.cooperative.save (startRegisters cfg a) stack
      (BitVec.ofNat 64 stack.alignedTop)
    match saved with
    | .error .stackOverflow => return (.error .noMemory, k)
    | .error _ => return (.error .badParam, k)
    | .ok savedSp =>
      let id : TaskId := ⟨k.tasks.size⟩
      Traced.note (.created id a.name a.priority stack.base stack.top)
      let task : Task :=
        { attributes := a, stack := stack, savedSp := savedSp, frameKind := .cooperative
          priority := a.priority, state := .dormant, link := none }
      return (.ok id, { k with tasks := k.tasks.push task })

/-- Make a Dormant task Ready, with the priority of its attributes. -/
def activate (k : Kernel capacity levels) (id : TaskId) :
    Traced (Except ActivateError Unit × Kernel capacity levels) :=
  match k.task? id with
  | none => pure (.error .badId, k)
  | some t =>
    if t.state ≠ .dormant then pure (.error .queueOverflow, k)
    else do
      let k := k.updateTask id fun t => { t with priority := t.attributes.priority }
      Traced.note (.activating id t.name)
      let k ← k.makeReady id
      let k ← k.checkPreemption
      return (.ok (), k)

/-- Make a Blocked or Suspended task Ready. -/
def markReady (k : Kernel capacity levels) (id : TaskId) :
    Traced (Except WakeError Unit × Kernel capacity levels) :=
  match k.task? id with
  | none => pure (.error .badId, k)
  | some t =>
    if t.state ≠ .blocked ∧ t.state ≠ .suspended then pure (.error .badObjectState, k)
    else do
      Traced.note (.moved id t.name t.state .ready)
      let k ← k.makeReady id
      let k ← k.checkPreemption
      return (.ok (), k)

/-- Take a task off the processor or out of the queue.  The running task only
leaves a dispatch request: it goes on until the next scheduling point. -/
def withdraw (k : Kernel capacity levels) (id : TaskId) (t : Task) :
    Except Panic (Kernel capacity levels) :=
  match t.state with
  | .running => do
    Panic.require (k.running = some id) .inconsistent
    return k.requestDispatch
  | .ready => k.dequeue id
  | _ => return k

/-- Block a Running or Ready task. -/
def markBlocked (k : Kernel capacity levels) (id : TaskId) :
    Traced (Except BlockError Unit × Kernel capacity levels) :=
  match k.task? id with
  | none => pure (.error .badId, k)
  | some t =>
    if t.state ≠ .running ∧ t.state ≠ .ready then pure (.error .badObjectState, k)
    else do
      let k ← k.withdraw id t
      Traced.note (.moved id t.name t.state .blocked)
      return (.ok (), k.updateTask id fun t => { t with state := .blocked })

/-- Suspend a Running, Ready or Blocked task. -/
def suspend (k : Kernel capacity levels) (id : TaskId) :
    Traced (Except SuspendError Unit × Kernel capacity levels) :=
  match k.task? id with
  | none => pure (.error .badId, k)
  | some t =>
    if t.state = .dormant ∨ t.state = .suspended then pure (.error .badObjectState, k)
    else do
      let k ← k.withdraw id t
      Traced.note (.moved id t.name t.state .suspended)
      return (.ok (), k.updateTask id fun t => { t with state := .suspended })

/-- Make a Suspended task Ready. -/
def resume (k : Kernel capacity levels) (id : TaskId) :
    Traced (Except SuspendError Unit × Kernel capacity levels) :=
  match k.task? id with
  | none => pure (.error .badId, k)
  | some t =>
    if t.state ≠ .suspended then pure (.error .badObjectState, k)
    else do
      Traced.note (.moved id t.name .suspended .ready)
      let k ← k.makeReady id
      let k ← k.checkPreemption
      return (.ok (), k)

/-- Give a task another priority; if it is in the queue it moves to the back of
the new level. -/
def reprioritise (k : Kernel capacity levels) (id : TaskId) (t : Task) (priority : Nat) :
    Except Panic (Kernel capacity levels) :=
  if t.state = .ready then k.withQueue fun q tasks => q.reorder tasks id priority
  else .ok (k.updateTask id fun t => { t with priority := priority })

/-- Change the priority of a task.  A Ready task goes to the back of its new
level. -/
def setPriority (k : Kernel capacity levels) (id : TaskId) (priority : Nat) :
    Traced (Except PriorityError Unit × Kernel capacity levels) :=
  match k.task? id with
  | none => pure (.error .badId, k)
  | some t =>
    if levels ≤ priority then pure (.error .badParam, k)
    else if t.state = .dormant then pure (.error .badObjectState, k)
    else do
      let k ← k.reprioritise id t priority
      Traced.note (.prioritised id t.name priority)
      let k ← k.checkPreemption
      return (.ok (), k)

end Kernel

end HartKernel
