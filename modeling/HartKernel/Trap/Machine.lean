import HartKernel.Hart.Basic
import HartKernel.Kernel.Services
import HartKernel.Kernel.Switch

/-!
# Machines

A machine is a hart with its kernel and the stack that traps are handled on.
The top of the interrupt stack holds the stack pointer of the background
context, which is what the outermost trap interrupted; traps that interrupt a
handler push frames below it.

Main definitions:

- `Machine` is the state, `Machine.initial` a machine that idles.
- `Machine.backgroundSlot` is the address of the background stack pointer.
- `Machine.diagnose` is the diagnostic of the trap being handled.
- `Handlers` is what the embedding system does on interrupts and when idling.
-/

namespace HartKernel

/-- A hart with its kernel and its interrupt stack. -/
structure Machine (capacity levels : Nat) where
  /-- The kernel. -/
  kernel : Kernel capacity levels
  /-- The hart. -/
  hart : Hart
  /-- The stack that traps are handled on. -/
  interruptStack : StackRegion
  /-- How many traps are being handled. -/
  nesting : Nat
  /-- Counters. -/
  stats : TrapStats
deriving DecidableEq

/-- What the embedding system does on interrupts and when there is nothing to
run.  The handlers keep a state `σ` of their own and may change task states
through the kernel. -/
structure Handlers (σ : Type) (capacity levels : Nat) where
  /-- Called on an interrupt other than software and timer, with its code. -/
  external : Word → Kernel capacity levels → σ → Traced (Kernel capacity levels × σ)
  /-- Called on a timer interrupt, with the number of ticks so far. -/
  tick : Word → Kernel capacity levels → σ → Traced (Kernel capacity levels × σ)
  /-- Called when the hart enters the idle loop. -/
  idle : σ → σ

/-- Report interrupts that nobody handles, and do nothing otherwise. -/
def Handlers.default {σ : Type} {capacity levels : Nat} : Handlers σ capacity levels where
  external code k s := do
    Traced.note (.unhandledInterrupt code)
    return (k, s)
  tick _ k s := pure (k, s)
  idle s := s

namespace Machine

variable {capacity levels : Nat}

/-- A machine without tasks, in the idle loop. -/
def initial (cfg : Config) (capacity levels : Nat) (interruptStack : StackRegion) :
    Except Panic (Machine capacity levels) :=
  return ⟨← Kernel.initial capacity levels, Hart.initial cfg, interruptStack, 0, {}⟩

/-- The address of the word that holds the background stack pointer.  It is also
the stack pointer while the outermost trap is handled. -/
def backgroundSlot (m : Machine capacity levels) : Except Panic Word :=
  if 16 ≤ m.interruptStack.alignedTop then
    .ok (BitVec.ofNat 64 (m.interruptStack.alignedTop - 16))
  else .error .overflow

/-- The diagnostic of the trap being handled. -/
def diagnose (m : Machine capacity levels) (error : Option FrameError) : FatalTrap where
  cause := m.hart.cause
  epc := m.hart.regs.pc
  tval := m.hart.trapValue
  status := m.hart.regs.status
  frameError := error

/-- Assign the live stack pointer. -/
def setSp (m : Machine capacity levels) (sp : Word) : Machine capacity levels :=
  { m with hart := m.hart.setSp sp }

/-- Change the counters. -/
def updateStats (m : Machine capacity levels) (f : TrapStats → TrapStats) :
    Machine capacity levels :=
  { m with stats := f m.stats }

end Machine

end HartKernel
