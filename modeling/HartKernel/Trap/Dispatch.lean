import HartKernel.Trap.Machine

/-!
# Trap dispatch

A trap is handled according to its cause.  Software and timer interrupts and
environment calls ask for a dispatch; an exception cannot be handled.

An environment call finds its arguments in the saved frame of the caller and
leaves its result there, so that the caller finds it whenever it is resumed.

Main definitions:

- `Machine.environmentCall` executes the service that a caller asked for.
- `Machine.dispatch` handles a trap.
-/

namespace HartKernel

namespace Machine

variable {capacity levels : Nat} {σ : Type}

/-- Access the stack region with a saved frame, at the address of the frame. -/
def withFrame {α : Type} (m : Machine capacity levels) (frame : SavedFrame)
    (f : StackRegion → Word → Except FrameError α × StackRegion) :
    Except FrameError α × Machine capacity levels :=
  match frame with
  | .idle => (.error .outOfRegion, m)
  | .nested sp =>
    let (answer, stack) := f m.interruptStack sp
    (answer, { m with interruptStack := stack })
  | .task id sp =>
    match m.kernel.task? id with
    | none => (.error .outOfRegion, m)
    | some t =>
      let (answer, stack) := f t.stack sp
      (answer, { m with kernel := m.kernel.updateTask id fun t => { t with stack := stack } })

/-- What an environment call is made of. -/
structure CallArguments where
  /-- The number of the service. -/
  number : Word
  /-- The argument of the service. -/
  argument : Word
  /-- Where the call was made. -/
  pc : Word
deriving DecidableEq, Repr

/-- Read an environment call from the frame of the caller. -/
def readCall (l : FrameLayout) (region : StackRegion) (sp : Word) :
    Except FrameError CallArguments := do
  let number ← l.readSlot region sp .a7
  let argument ← l.readSlot region sp .a0
  let pc ← l.readSlot region sp .pc
  return ⟨number, argument, pc⟩

/-- Leave a result in the frame of the caller, and let it go on after the
instruction that made the call. -/
def answerCall (l : FrameLayout) (pc result : Word) (region : StackRegion) (sp : Word) :
    Except FrameError Unit × StackRegion :=
  match l.writeSlot region sp .pc (pc + 4) with
  | (.error e, region) => (.error e, region)
  | (.ok (), region) => l.writeSlot region sp .a0 result

/-- Execute the service that the caller with a saved frame asked for. -/
def environmentCall (cfg : Config) (m : Machine capacity levels) (frame : SavedFrame) :
    Traced (Except FrameError Unit × Machine capacity levels) :=
  let l := cfg.layouts.interrupted
  match m.withFrame frame fun region sp => (readCall l region sp, region) with
  | (.error e, m) => pure (.error e, m)
  | (.ok call, m) => do
    let (result, kernel) ← m.kernel.serve frame.owner? call.number call.argument
    return { m with kernel := kernel }.withFrame frame
      (answerCall l call.pc result.toRegister)

/-- Handle a trap according to its cause. -/
def dispatch (cfg : Config) (handlers : Handlers σ capacity levels) (m : Machine capacity levels)
    (s : σ) (context : TrapContext) :
    Traced (Except FatalTrap Unit × Machine capacity levels × σ) :=
  match context.cause with
  | .software =>
    let m := m.updateStats fun s => { s with softwareInterrupts := s.softwareInterrupts + 1 }
    pure (.ok (), { m with
      hart := m.hart.clearSoftware cfg
      kernel := m.kernel.requestDispatch }, s)
  | .timer => do
    let m := m.updateStats fun s => { s with timerInterrupts := s.timerInterrupts + 1 }
    let kernel := m.kernel.advanceTick
    let (kernel, s) ← handlers.tick kernel.tick kernel s
    return (.ok (), { m with kernel := kernel.requestDispatch }, s)
  | .external code => do
    let m := m.updateStats fun s => { s with externalInterrupts := s.externalInterrupts + 1 }
    let (kernel, s) ← handlers.external code m.kernel s
    return (.ok (), { m with kernel := kernel }, s)
  | .environmentCall _ => do
    let m := m.updateStats fun s => { s with environmentCalls := s.environmentCalls + 1 }
    let (answer, m) ← m.environmentCall cfg context.frame
    match answer with
    | .error e => return (.error (m.diagnose (some e)), m, s)
    | .ok () => return (.ok (), { m with kernel := m.kernel.requestDispatch }, s)
  | .exception _ =>
    let m := m.updateStats fun s => { s with exceptions := s.exceptions + 1 }
    pure (.error (m.diagnose none), m, s)

end Machine

end HartKernel
