import HartKernel.Trap.Cause
import HartKernel.Frame.Error

/-!
# Trap contexts, diagnostics and counters

What the phases of trap handling pass on: the cause and the place of the saved
frame, the diagnostic of a trap that cannot be handled, and counters.

Main definitions:

- `SavedFrame` and `TrapContext` describe the trap being handled.
- `FatalTrap` is the diagnostic of an unrecoverable trap.
- `TrapStats` counts stack switches and traps by class.
-/

namespace HartKernel

/-- Where trap entry saved the interrupted context. -/
inductive SavedFrame where
  /-- The trap was taken from the idle loop; nothing was saved. -/
  | idle
  /-- A frame at an address in a task's own stack. -/
  | task (id : TaskId) (sp : Word)
  /-- A frame at an address in the interrupt stack: another handler was
  interrupted. -/
  | nested (sp : Word)
deriving DecidableEq, Repr

/-- The task whose context was saved, if any. -/
def SavedFrame.owner? : SavedFrame → Option TaskId
  | .task id _ => some id
  | .idle | .nested _ => none

/-- The spelling of a saved frame, with bare hexadecimal addresses. -/
def SavedFrame.text : SavedFrame → String
  | .idle => "Idle"
  | .task id sp => s!"Task({id.text}, {hexDigits sp.toNat})"
  | .nested sp => s!"Nested({hexDigits sp.toNat})"

/-- The trap being handled. -/
structure TrapContext where
  /-- Why the trap was taken. -/
  cause : TrapCause
  /-- Where the interrupted context is. -/
  frame : SavedFrame
deriving DecidableEq, Repr

/-- The diagnostic of an unrecoverable trap. -/
structure FatalTrap where
  /-- The cause word. -/
  cause : Word
  /-- Where the trap was taken. -/
  epc : Word
  /-- The trap value, such as a faulting address. -/
  tval : Word
  /-- The status word. -/
  status : Word
  /-- Set if a context could not be saved or restored. -/
  frameError : Option FrameError
deriving DecidableEq, Repr

namespace FatalTrap

/-- The record that is kept of a fatal trap when nobody handles it: four words,
without the frame error. -/
def record (diagnostic : FatalTrap) : FatalTrap := { diagnostic with frameError := none }

/-- The spelling of a diagnostic, with bare hexadecimal words. -/
def text (d : FatalTrap) : String :=
  (Form.record "FatalTrap"
    [("cause", .atom (hexDigits d.cause.toNat)), ("epc", .atom (hexDigits d.epc.toNat)),
     ("tval", .atom (hexDigits d.tval.toNat)), ("status", .atom (hexDigits d.status.toNat)),
     ("frame_error", form d.frameError)]).inline

end FatalTrap

/-- Counters of the trap handler. -/
structure TrapStats where
  /-- How often the interrupt stack was installed. -/
  stackSwitchesIn : Nat := 0
  /-- How often the interrupt stack was left. -/
  stackSwitchesOut : Nat := 0
  /-- The greatest nesting level so far. -/
  maxNesting : Nat := 0
  softwareInterrupts : Nat := 0
  timerInterrupts : Nat := 0
  externalInterrupts : Nat := 0
  environmentCalls : Nat := 0
  exceptions : Nat := 0
deriving DecidableEq, Repr

/-- The number of a counter in the order in which counters are shown. -/
def TrapStats.toList (s : TrapStats) : List (String × Nat) :=
  [("stack_switches_in", s.stackSwitchesIn), ("stack_switches_out", s.stackSwitchesOut),
   ("max_nesting", s.maxNesting), ("software_interrupts", s.softwareInterrupts),
   ("timer_interrupts", s.timerInterrupts), ("external_interrupts", s.externalInterrupts),
   ("environment_calls", s.environmentCalls), ("exceptions", s.exceptions)]

instance : Describe TrapStats where
  form s := .record "TrapStats" (s.toList.map fun entry => (entry.1, form entry.2))

end HartKernel
