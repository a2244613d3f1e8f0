import HartKernel.Trap.Machine

/-!
# Trap entry

Entry saves what the trap interrupted and moves onto the interrupt stack.  A
task is saved on its own stack, a handler on the interrupt stack, and the idle
loop has nothing to save.

Main definitions:

- `Machine.saveInterrupted` saves the interrupted context.
- `Machine.installStack` moves an outermost trap onto the interrupt stack.
- `Machine.entry` does both and counts the trap.
-/

namespace HartKernel

namespace Machine

variable {capacity levels : Nat}

/-- Save the handler that a nested trap interrupted. -/
def saveHandler (cfg : Config) (m : Machine capacity levels) :
    Traced (Except FatalTrap SavedFrame × Machine capacity levels) := do
  let (saved, stack) ← cfg.layouts.interrupted.save m.hart.regs m.interruptStack m.hart.regs.sp
  let m := { m with interruptStack := stack }
  match saved with
  | .error e => return (.error (m.diagnose (some e)), m)
  | .ok sp => return (.ok (.nested sp), m.setSp sp)

/-- Save the current task that an outermost trap interrupted. -/
def saveTask (cfg : Config) (m : Machine capacity levels) :
    Traced (Except FatalTrap SavedFrame × Machine capacity levels) :=
  match m.kernel.running with
  | none => pure (.error (m.diagnose none), m)
  | some id => do
    let (saved, kernel) ← m.kernel.saveContext cfg.layouts m.hart.regs id .interrupted
    let m := { m with kernel := kernel }
    match saved with
    | .error e => return (.error (m.diagnose e.frameError?), m)
    | .ok sp => return (.ok (.task id sp), m)

/-- Save the interrupted context.  The idle loop runs with a stack pointer of
zero, and never while a task is Running. -/
def saveInterrupted (cfg : Config) (m : Machine capacity levels) :
    Traced (Except FatalTrap SavedFrame × Machine capacity levels) :=
  if 0 < m.nesting then m.saveHandler cfg
  else if m.hart.regs.sp = 0 then do
    Panic.require (m.kernel.runningTask? = none) .inconsistent
    return (.ok .idle, m)
  else m.saveTask cfg

/-- The stack pointer of the background context. -/
def backgroundSp : SavedFrame → Word
  | .task _ sp => sp
  | .idle | .nested _ => 0

/-- Move an outermost trap onto the interrupt stack, below the stack pointer of
the background context. -/
def installStack (m : Machine capacity levels) (frame : SavedFrame) :
    Traced (Except FatalTrap Unit × Machine capacity levels) :=
  if 0 < m.nesting then pure (.ok (), m)
  else do
    let slot ← m.backgroundSlot
    let (written, stack) := m.interruptStack.write slot (backgroundSp frame)
    let m := { m with interruptStack := stack }
    match written with
    | .error e => return (.error (m.diagnose (some e)), m)
    | .ok () =>
      return (.ok (), (m.setSp slot).updateStats fun s =>
        { s with stackSwitchesIn := s.stackSwitchesIn + 1 })

/-- Count one more trap being handled. -/
def deepen (m : Machine capacity levels) : Machine capacity levels :=
  { m with
    nesting := m.nesting + 1
    stats := { m.stats with maxNesting := max m.stats.maxNesting (m.nesting + 1) } }

/-- Save the interrupted context and move onto the interrupt stack. -/
def entry (cfg : Config) (m : Machine capacity levels) :
    Traced (Except FatalTrap TrapContext × Machine capacity levels) := do
  let cause := TrapCause.decode m.hart.cause cfg.level
  let (saved, m) ← m.saveInterrupted cfg
  match saved with
  | .error d => return (.error d, m)
  | .ok frame =>
    let (installed, m) ← m.installStack frame
    match installed with
    | .error d => return (.error d, m)
    | .ok () =>
      let m := m.deepen
      Traced.note (.entered cause m.nesting frame)
      return (.ok ⟨cause, frame⟩, m)

end Machine

end HartKernel
