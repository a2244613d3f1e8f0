import HartKernel.Hart.Config
import HartKernel.Register.File
import HartKernel.Traced

/-!
# Harts

A hart has live registers and a few control registers.  Taking a trap saves the
interrupt enable and masks interrupts; an exception return puts it back.

Main definitions:

- `Hart` is the state, `Hart.initial` a hart that idles with interrupts enabled.
- `Hart.Masked`, `Hart.mask` and `Hart.unmask` deal with the interrupt mask.
- `Hart.raise` takes a trap and `Hart.exceptionReturn` returns from one.

Main results:

- `Hart.masked_mask`: interrupts are masked after masking them.
-/

namespace HartKernel

/-- The state of a hart. -/
@[ext]
structure Hart where
  /-- The live registers.  While a trap is handled they are those of the
  interrupted context. -/
  regs : RegisterFile
  /-- The cause of the last trap. -/
  cause : Word
  /-- The trap value of the last trap. -/
  trapValue : Word
  /-- The pending interrupts. -/
  pending : Word
  /-- Whether the hart is in the idle loop. -/
  idle : Bool
deriving DecidableEq

namespace Hart

/-- A hart in the idle loop with interrupts enabled. -/
def initial (cfg : Config) : Hart where
  regs := { RegisterFile.zero with status := Status.enable cfg.level }
  cause := 0
  trapValue := 0
  pending := 0
  idle := true

/-- Change the live registers. -/
def updateRegs (h : Hart) (f : RegisterFile → RegisterFile) : Hart :=
  { h with regs := f h.regs }

/-- Assign the live stack pointer. -/
def setSp (h : Hart) (sp : Word) : Hart := h.updateRegs fun r => r.setSp sp

/-- Assign the live status. -/
def setStatus (h : Hart) (status : Word) : Hart := h.updateRegs fun r => { r with status := status }

/-! ## The interrupt mask -/

/-- Interrupts of the kernel's level are masked. -/
def Masked (cfg : Config) (h : Hart) : Prop := h.regs.status &&& Status.enable cfg.level = 0

instance (cfg : Config) (h : Hart) : Decidable (h.Masked cfg) :=
  inferInstanceAs (Decidable (_ = _))

/-- Mask interrupts. -/
def mask (cfg : Config) (h : Hart) : Hart :=
  h.setStatus (h.regs.status &&& ~~~(Status.enable cfg.level))

/-- Unmask interrupts. -/
def unmask (cfg : Config) (h : Hart) : Hart :=
  h.setStatus (h.regs.status ||| Status.enable cfg.level)

/-- Mask interrupts if they are not masked already; tells whether that was
done. -/
def tryMask (cfg : Config) (h : Hart) : Bool × Hart :=
  if h.Masked cfg then (false, h) else (true, h.mask cfg)

/-- Interrupts are masked after masking them. -/
theorem masked_mask (cfg : Config) (h : Hart) : (h.mask cfg).Masked cfg := by
  change h.regs.status &&& ~~~(Status.enable cfg.level) &&& Status.enable cfg.level = 0
  rw [BitVec.and_assoc, BitVec.and_comm (~~~(Status.enable cfg.level)), BitVec.and_not_self]
  exact BitVec.and_zero

/-! ## Taking a trap and returning from it -/

/-- The status after a trap was taken: interrupts are masked, whether they were
enabled is remembered, and the level before the trap is the kernel's. -/
def trapStatus (level : Nat) (status : Word) : Word :=
  (status &&& ~~~(Status.enable level ||| Status.previousEnable level)) |||
    Status.previousLevel level |||
    if status &&& Status.enable level = 0 then 0 else Status.previousEnable level

/-- The status after an exception return: interrupts are enabled if they were
before the trap. -/
def returnStatus (level : Nat) (status : Word) : Word :=
  (status &&& ~~~(Status.enable level)) ||| Status.previousEnable level |||
    if status &&& Status.previousEnable level = 0 then 0 else Status.enable level

/-- The pending bit that an interrupt sets. -/
def pendingBit (level : Nat) : TrapCause → Word
  | .software => Interrupts.software level
  | .timer => Interrupts.timer level
  | .external code => Interrupts.coded code
  | .environmentCall _ | .exception _ => 0

/-- Take a trap.  The trap is taken whether interrupts are masked or not, so
that traps can be nested at will. -/
def raise (cfg : Config) (h : Hart) (cause : TrapCause) (value : Word) : Traced Hart := do
  let word ← cause.encode cfg.level
  Traced.note (.raised cause h.regs.pc)
  return { h.setStatus (trapStatus cfg.level h.regs.status) with
    cause := word
    trapValue := value
    pending := h.pending ||| pendingBit cfg.level cause
    idle := false }

/-- Return from a trap to the context in the live registers. -/
def exceptionReturn (cfg : Config) (h : Hart) : Hart :=
  h.setStatus (returnStatus cfg.level h.regs.status)

/-- Withdraw the pending software interrupt. -/
def clearSoftware (cfg : Config) (h : Hart) : Hart :=
  { h with pending := h.pending &&& ~~~(Interrupts.software cfg.level) }

/-- Let the exception return go to the idle loop. -/
def enterIdle (h : Hart) : Hart :=
  { h.updateRegs fun r => { r with pc := 0 } with idle := true }

end Hart

instance : Describe Hart where
  form h := .record "SimHart"
    [("regs", form h.regs), ("xcause", .hex h.cause), ("xtval", .hex h.trapValue),
     ("xip", .atom (Interrupts.flags.text h.pending)), ("idle", form h.idle)]

end HartKernel
