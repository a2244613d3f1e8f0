import HartKernel.Kernel.Services
import HartKernel.Simulation.Answer

/-!
# Actions on tasks

The kernel calls that a task or an interrupt handler can make while it holds
the interrupt mask.

Main definitions:

- `Action` is such a call and `Kernel.act` makes it.
-/

namespace HartKernel

/-- A kernel call that needs the interrupt mask and leaves the hart alone. -/
inductive Action where
  | activate (id : TaskId)
  | markReady (id : TaskId)
  | markBlocked (id : TaskId)
  | suspend (id : TaskId)
  | resume (id : TaskId)
  | setPriority (id : TaskId) (priority : Nat)
  | requestDispatch
  | takeDispatch
  | advanceTick
  | serve (caller : Option TaskId) (number argument : Word)
  /-- Change the priority that a task is activated with. -/
  | assignPriority (id : TaskId) (priority : Nat)
  /-- Write into the stack of a task. -/
  | poke (id : TaskId) (addr value : Word)
  /-- Overwrite a slot of the saved frame of a task. -/
  | patch (id : TaskId) (slot : RegisterSlot) (value : Word)
deriving DecidableEq, Repr

namespace Kernel

variable {capacity levels : Nat}

/-- The answer to an operation without a result. -/
def answered {ε : Type} [OperationError ε]
    (outcome : Except ε Unit × Kernel capacity levels) : Answer × Kernel capacity levels :=
  (Answer.ofOperation (fun _ => .nothing) outcome.1, outcome.2)

/-- Access the stack of a task; there is no answer if there is no such task. -/
def onStack (k : Kernel capacity levels) (id : TaskId)
    (f : Task → Except FrameError Unit × StackRegion) : Answer × Kernel capacity levels :=
  match k.task? id with
  | none => (.nothing, k)
  | some t =>
    let (outcome, stack) := f t
    (Answer.ofFrame (fun _ => .nothing) outcome,
      k.updateTask id fun t => { t with stack := stack })

/-- Make a kernel call. -/
def act (ls : FrameLayouts) (k : Kernel capacity levels) :
    Action → Traced (Answer × Kernel capacity levels)
  | .activate id => answered <$> k.activate id
  | .markReady id => answered <$> k.markReady id
  | .markBlocked id => answered <$> k.markBlocked id
  | .suspend id => answered <$> k.suspend id
  | .resume id => answered <$> k.resume id
  | .setPriority id priority => answered <$> k.setPriority id priority
  | .requestDispatch => pure (.nothing, k.requestDispatch)
  | .takeDispatch =>
    let (requested, k) := k.takeDispatch
    pure (.flag requested, k)
  | .advanceTick =>
    let k := k.advanceTick
    pure (.number k.tick.toNat, k)
  | .serve caller number argument => do
    let (result, k) ← k.serve caller number argument
    return (.text result.name, k)
  | .assignPriority id priority =>
    match k.task? id with
    | none => pure (.nothing, k)
    | some _ => pure (.flag true, k.updateTask id fun t =>
        { t with attributes := { t.attributes with priority := priority } })
  | .poke id addr value => pure (k.onStack id fun t => t.stack.write addr value)
  | .patch id slot value => pure (k.onStack id fun t =>
      (ls.layout t.frameKind).writeSlot t.stack t.savedSp slot value)

end Kernel

end HartKernel
