import HartKernel.Frame.Codec
import HartKernel.Kernel.Basic

/-!
# Context switches

The registers of a task are saved on its own stack when it loses the processor
and loaded from there when it gets the processor back.

Main definitions:

- `Kernel.saveContext` and `Kernel.restoreContext` save and load one task.
- `Kernel.switchTo` completes a switch from a task that is already saved.
- `Kernel.switch` saves the current task and switches to another.

An operation answers with its outcome, the state after it and the live
registers after it, also when it fails.
-/

namespace HartKernel

namespace Kernel

variable {capacity levels : Nat}

/-- Save the live registers on the stack of a task, below the live stack
pointer, and record where. -/
def saveContext (ls : FrameLayouts) (k : Kernel capacity levels) (r : RegisterFile) (id : TaskId)
    (kind : FrameKind) : Traced (Except ContextError Word × Kernel capacity levels) :=
  match k.task? id with
  | none => pure (.error .badId, k)
  | some t => do
    let (saved, stack) ← (ls.layout kind).save r t.stack r.sp
    match saved with
    | .error e => return (.error (.frame e), k.updateTask id fun t => { t with stack := stack })
    | .ok sp =>
      return (.ok sp, k.updateTask id fun t =>
        { t with stack := stack, savedSp := sp, frameKind := kind })

/-- Load the saved registers of a task, with the stack pointer from before they
were saved.  Answers the variant of the frame. -/
def restoreContext (ls : FrameLayouts) (k : Kernel capacity levels) (r : RegisterFile)
    (id : TaskId) : Traced (Except ContextError FrameKind × RegisterFile) :=
  match k.task? id with
  | none => pure (.error .badId, r)
  | some t =>
    match ls.peekKind t.stack t.savedSp with
    | .error e => pure (.error (.frame e), r)
    | .ok kind =>
      if kind ≠ t.frameKind then pure (.error (.frame .kindMismatch), r)
      else do
        let (restored, r) ← (ls.layout kind).restore t.stack t.savedSp r
        match restored with
        | .error e => return (.error (.frame e), r)
        | .ok sp => return (.ok kind, r.setSp sp)

/-- A task can be switched to only if it is Ready. -/
def checkTarget (k : Kernel capacity levels) (id : TaskId) : Except SwitchError Unit :=
  match k.task? id with
  | none => .error .badId
  | some t => if t.state = .ready then .ok () else .error .badObjectState

/-- Load the registers of the task to switch to, if there is one. -/
def loadTarget (ls : FrameLayouts) (k : Kernel capacity levels) (r : RegisterFile)
    (target : Option TaskId) :
    Traced (Except SwitchError (Option FrameKind) × RegisterFile) :=
  match target with
  | none => pure (.ok none, r)
  | some id =>
    match k.checkTarget id with
    | .error e => pure (.error e, r)
    | .ok () => do
      let (restored, r) ← k.restoreContext ls r id
      match restored with
      | .error _ => return (.error .badObjectState, r)
      | .ok kind => return (.ok (some kind), r)

/-- The current task loses the processor: it goes back to the queue if it is
still Running. -/
def release (k : Kernel capacity levels) (id : TaskId) : Except Panic (Kernel capacity levels) := do
  match (← k.tasks.fetch id).state with
  | .running => k.makeReady id
  | .dormant => .error .inconsistent
  | .ready | .blocked | .suspended => return k

/-- A task leaves the queue and becomes Running. -/
def engage (k : Kernel capacity levels) (id : TaskId) : Except Panic (Kernel capacity levels) := do
  let k ← k.dequeue id
  return k.updateTask id fun t => { t with state := .running }

/-- The current task loses the processor, unless it is the task that gets it. -/
def releaseCurrent (k : Kernel capacity levels) (target : Option TaskId) :
    Except Panic (Kernel capacity levels) :=
  match k.running with
  | none => .ok k
  | some id => if some id = target then .ok k else k.release id

/-- Hand the processor over to a task, or let it idle. -/
def handOver (k : Kernel capacity levels) (target : Option TaskId) :
    Except Panic (Kernel capacity levels) := do
  let k ← k.releaseCurrent target
  let k ← match target with
    | none => .ok k
    | some id => k.engage id
  return { k with running := target }

/-- What is reported of a hand-over. -/
def reportSwitch (k : Kernel capacity levels) (before target : Option TaskId) : Traced Unit :=
  match target, before with
  | some id, _ => Traced.note (.switched before id (((k.task? id).map Task.name).getD ""))
  | none, some id => Traced.note (.idled id)
  | none, none => pure ()

/-- Complete a switch away from a task whose registers are saved already.
Answers the variant of the frame that was loaded, if any. -/
def switchTo (ls : FrameLayouts) (k : Kernel capacity levels) (r : RegisterFile)
    (target : Option TaskId) :
    Traced (Except SwitchError (Option FrameKind) × Kernel capacity levels × RegisterFile) := do
  let (loaded, r) ← k.loadTarget ls r target
  match loaded with
  | .error e => return (.error e, k, r)
  | .ok kind =>
    let after ← k.handOver target
    after.reportSwitch k.running target
    return (.ok kind, after, r)

/-- The error that a switch reports if the task to leave cannot be saved. -/
def switchErrorOfFrame : FrameError → SwitchError
  | .stackOverflow => .noMemory
  | _ => .badObjectState

/-- Switch from the current task `source` to the Ready task `target`.  The live
registers are saved as by a call.  If the second half fails, the record of where
`source` was saved before is put back. -/
def switch (ls : FrameLayouts) (k : Kernel capacity levels) (r : RegisterFile)
    (source target : TaskId) :
    Traced (Except SwitchError Unit × Kernel capacity levels × RegisterFile) :=
  match k.task? source with
  | none => pure (.error .badId, k, r)
  | some t =>
    if k.running ≠ some source then pure (.error .badContext, k, r)
    else
      match k.checkTarget target with
      | .error e => pure (.error e, k, r)
      | .ok () => do
        let (saved, stack) ← ls.cooperative.save r t.stack r.sp
        let k := k.updateTask source fun t => { t with stack := stack }
        match saved with
        | .error e => return (.error (switchErrorOfFrame e), k, r)
        | .ok sp =>
          let (outcome, k, r) ← (k.updateTask source fun t =>
            { t with savedSp := sp, frameKind := .cooperative }).switchTo ls r (some target)
          match outcome with
          | .error e =>
            return (.error e, k.updateTask source fun s =>
              { s with savedSp := t.savedSp, frameKind := t.frameKind }, r)
          | .ok _ => return (.ok (), k, r)

end Kernel

end HartKernel
