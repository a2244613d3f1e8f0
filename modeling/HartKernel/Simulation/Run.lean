import HartKernel.Simulation.Command
import HartKernel.Simulation.Script
import HartKernel.Trap.Handle

/-!
# Simulated systems

A simulated system is a machine with scripted interrupt handlers, memory to
allocate stacks from, the contexts of traps that are handled phase by phase, and
a second ready queue.  It is driven by commands.

Main definitions:

- `Simulation` is the system, `Simulation.initial` its first state.
- `Simulation.step` carries out a command and answers it.
-/

namespace HartKernel

/-- The address of the first stack region. -/
def memoryBase : Nat := 0x40000000

/-- The distance between stack regions. -/
def regionStride : Nat := 0x10000

/-- The region that a request is given if `count` regions were allocated
before. -/
def allocate (count : Nat) (request : RegionRequest) : Except Panic StackRegion :=
  match StackRegion.make? (memoryBase + count * regionStride + 8 * request.skew) request.words
      request.fill with
  | none => .error .overflow
  | some region => .ok region

/-- A machine driven by commands. -/
structure Simulation (capacity levels : Nat) where
  /-- The machine. -/
  machine : Machine capacity levels
  /-- The number of regions allocated. -/
  regions : Nat
  /-- The contexts of traps being handled phase by phase, latest first. -/
  contexts : List TrapContext
  /-- A second queue that knows the first task only. -/
  spare : ReadyQueue levels
  /-- What interrupt handlers do. -/
  script : Script

namespace Simulation

variable {capacity levels : Nat}

/-- The system without tasks; the interrupt stack is the first region. -/
def initial (cfg : Config) (capacity levels : Nat) (interruptStack : RegionRequest) :
    Except Panic (Simulation capacity levels) := do
  let stack ← allocate 0 interruptStack
  let machine ← Machine.initial cfg capacity levels stack
  return ⟨machine, 1, [], .empty machine.kernel.queue.levels_le, {}⟩

/-- Replace the kernel. -/
def setKernel (s : Simulation capacity levels) (k : Kernel capacity levels) :
    Simulation capacity levels :=
  { s with machine := { s.machine with kernel := k } }

/-- Replace the hart. -/
def setHart (s : Simulation capacity levels) (h : Hart) : Simulation capacity levels :=
  { s with machine := { s.machine with hart := h } }

/-- Replace kernel and live registers. -/
def setContext (s : Simulation capacity levels) (k : Kernel capacity levels) (r : RegisterFile) :
    Simulation capacity levels :=
  (s.setKernel k).setHart { s.machine.hart with regs := r }

/-! ## Commands under the interrupt mask -/

/-- Create a task on the next region. -/
def create (cfg : Config) (s : Simulation capacity levels) (attributes : TaskAttributes)
    (stack : StackRegion) : Traced (Answer × Simulation capacity levels) := do
  let (outcome, k) ← s.machine.kernel.create cfg attributes stack
  return (Answer.ofOperation (fun id => .task (some id)) outcome, s.setKernel k)

/-- Make a scheduling decision and carry it out outside of a trap. -/
def reschedule (cfg : Config) (s : Simulation capacity levels) :
    Traced (Answer × Simulation capacity levels) := do
  let k := s.machine.kernel.takeDispatch.2
  let s := s.setKernel k
  match ← k.decide, k.running with
  | .keep, _ => return (.text "Keep", s)
  | .switchTo (some target), some source =>
    let (outcome, k, r) ← k.switch cfg.layouts s.machine.hart.regs source target
    return (Answer.ofOperation (fun _ => .nothing) outcome, s.setContext k r)
  | .switchTo target, _ =>
    let (outcome, k, r) ← k.switchTo cfg.layouts s.machine.hart.regs target
    return (Answer.ofOperation .ofKind outcome, s.setContext k r)

/-- Run an operation of the second queue on the first task.  There is no answer
if there is no task. -/
def onSpare (s : Simulation capacity levels)
    (f : ReadyQueue levels → TaskTable → TaskId →
      Except Panic (ReadyQueue levels × TaskTable)) :
    Traced (Answer × Simulation capacity levels) :=
  let tasks : TaskTable := s.machine.kernel.tasks.extract 0 1
  if tasks.size = 0 then pure (.nothing, s)
  else do
    let (spare, first) ← f s.spare tasks ⟨0⟩
    let k := { s.machine.kernel with
      tasks := first ++ s.machine.kernel.tasks.extract 1 s.machine.kernel.tasks.size }
    return (.tasks (← spare.toList first), { s.setKernel k with spare := spare })

/-- Carry out a command while interrupts are masked. -/
def stepMasked (cfg : Config) (s : Simulation capacity levels) :
    MaskedCommand → Traced (Answer × Simulation capacity levels)
  | .act action => do
    let (answer, k) ← s.machine.kernel.act cfg.layouts action
    return (answer, s.setKernel k)
  | .save id kind => do
    let (outcome, k) ← s.machine.kernel.saveContext cfg.layouts s.machine.hart.regs id kind
    return (Answer.ofContext .word outcome, s.setKernel k)
  | .restore id => do
    let (outcome, r) ← s.machine.kernel.restoreContext cfg.layouts s.machine.hart.regs id
    return (Answer.ofContext (fun kind => .text kind.name) outcome,
      s.setContext s.machine.kernel r)
  | .switch source target => do
    let (outcome, k, r) ←
      s.machine.kernel.switch cfg.layouts s.machine.hart.regs source target
    return (Answer.ofOperation (fun _ => .nothing) outcome, s.setContext k r)
  | .switchTo target => do
    let (outcome, k, r) ← s.machine.kernel.switchTo cfg.layouts s.machine.hart.regs target
    return (Answer.ofOperation .ofKind outcome, s.setContext k r)
  | .reschedule => s.reschedule cfg
  | .describeMask => pure (.several [.text "CpuLockGuard", .text "CpuLockTokenRefMut"], s)
  | .sparePush => s.onSpare fun q tasks id => q.pushBack tasks id
  | .spareRemove => s.onSpare fun q tasks id => q.remove tasks id
  | .spareReorder priority => s.onSpare fun q tasks id => q.reorder tasks id priority

/-- Work under the interrupt mask.  Either the mask is taken, in which case it
must not be held yet and is given back, or it is held already and stays held. -/
def underMask (cfg : Config) (s : Simulation capacity levels) (assumed : Bool)
    (work : Simulation capacity levels → Traced (Answer × Simulation capacity levels)) :
    Traced (Answer × Simulation capacity levels) :=
  if assumed then do
    Panic.require (s.machine.hart.Masked cfg) .inconsistent
    work s
  else do
    let (taken, hart) := s.machine.hart.tryMask cfg
    if taken then
      let (answer, s) ← work (s.setHart hart)
      return (answer, s.setHart (s.machine.hart.unmask cfg))
    else return (.lockRefused .badContext, s)

/-! ## Queries -/

/-- What is known of a task. -/
def facts (k : Kernel capacity levels) (id : TaskId) : TaskFacts where
  state := k.taskState id
  priority := k.priority id
  name := (k.task? id).map Task.name
  extent := (k.task? id).map fun t => (t.stack.base, t.stack.top)

/-- Something as text. -/
def describe (m : Machine capacity levels) : Subject → Form
  | .kernel => form m.kernel
  | .queue => form m.kernel.queue
  | .hart => form m.hart
  | .registers => form m.hart.regs
  | .stats => form m.stats
  | .attributes id => form ((m.kernel.task? id).map Task.attributes)
  | .task id => form (m.kernel.task? id)

/-- The ends of a queue. -/
def queueFacts (q : ReadyQueue levels) (asBlock : Bool) : Except Panic (List Answer) := do
  let highest := match ← q.highest? with
    | none => .nothing
    | some p => .number p
  return [highest, .task (← q.front?), .flag (← q.isEmpty), .text ((form q).render asBlock)]

/-- Answer a question. -/
def answer (cfg : Config) (s : Simulation capacity levels) : Query → Except Panic Answer
  | .facts id => return .facts (facts s.machine.kernel id)
  | .peek id addr =>
    return .ofOption <| (s.machine.kernel.task? id).map fun t =>
      .ofFrame .word (t.stack.read addr)
  | .frameSlot id slot =>
    return .ofOption <| (s.machine.kernel.task? id).map fun t =>
      .ofFrame .word ((cfg.layouts.layout t.frameKind).readSlot t.stack t.savedSp slot)
  | .stackCells id =>
    return .ofOption <| (s.machine.kernel.task? id).map fun t =>
      .done (.cells t.stack.nonzeroCells)
  | .interruptStackCells => return .done (.cells s.machine.interruptStack.nonzeroCells)
  | .background => do
    let slot ← s.machine.backgroundSlot
    return .several [.word slot, .ofFrame .word (s.machine.interruptStack.read slot)]
  | .decision asBlock => do
    let decision ← s.machine.kernel.decide
    return .several [.decision decision, .task (← s.machine.kernel.selectNext),
      .text ((form decision).render asBlock)]
  | .queue asBlock => return .several (← queueFacts s.machine.kernel.queue asBlock)
  | .decisionAt priority => return .decision (← s.machine.kernel.queue.decide priority)
  | .describe subject asBlock => return .text ((describe s.machine subject).render asBlock)
  | .spareQueue priority asBlock =>
    return .several ((← queueFacts s.spare asBlock) ++ [.decision (← s.spare.decide priority)])

/-! ## Commands to the hart -/

/-- Carry out a change of the hart. -/
def stepHart (cfg : Config) (h : Hart) : HartCommand → Traced (Answer × Hart)
  | .mask => pure (.nothing, h.mask cfg)
  | .unmask => pure (.nothing, h.unmask cfg)
  | .tryMask =>
    let (taken, h) := h.tryMask cfg
    pure (.flag taken, h)
  | .setRegisters values => do
    let regs ← h.regs.assignAll values
    return (.nothing, { h with regs := regs })
  | .setControl cause value pending =>
    pure (.nothing, { h with
      cause := cause.getD h.cause
      trapValue := value.getD h.trapValue
      pending := (pending.map Interrupts.flags.truncate).getD h.pending })
  | .raise cause value => do return (.nothing, ← h.raise cfg cause value)
  | .raiseWord cause value => do
    return (.nothing, ← h.raise cfg (TrapCause.decode cause cfg.level) value)
  | .exceptionReturn => pure (.nothing, h.exceptionReturn cfg)
  | .enterIdle => pure (.nothing, h.enterIdle)
  | .clearSoftware => pure (.nothing, h.clearSoftware cfg)

/-! ## Traps -/

/-- Handle the trap that the hart has taken, following the script. -/
def handle (cfg : Config) (s : Simulation capacity levels) :
    Traced (Answer × Simulation capacity levels) := do
  let (outcome, machine, script) ←
    s.machine.handleTrap cfg (Script.handlers cfg.layouts) s.script
  return (.ofTrap outcome, { s with machine := machine, script := script })

/-- Put an environment call into the live registers. -/
def callRegisters (r : RegisterFile) (number argument : Word) (pc : Option Word) : RegisterFile :=
  (({ r with pc := pc.getD r.pc }).set .a7 number).set .a0 argument

/-- Save the interrupted context and keep the context of the trap. -/
def enter (cfg : Config) (s : Simulation capacity levels) :
    Traced (Answer × Simulation capacity levels) := do
  Panic.require (s.machine.hart.Masked cfg) .inconsistent
  let (outcome, machine) ← s.machine.entry cfg
  let contexts := match outcome with
    | .ok context => context :: s.contexts
    | .error _ => s.contexts
  return (.ofPhase .context outcome, { s with machine := machine, contexts := contexts })

/-- Handle a trap according to a context, or else to the one kept last. -/
def dispatchLast (cfg : Config) (s : Simulation capacity levels) (context : Option TrapContext) :
    Traced (Answer × Simulation capacity levels) := do
  Panic.require (s.machine.hart.Masked cfg) .inconsistent
  match context.or s.contexts.head? with
  | none => return (.done (.text "no context"), s)
  | some context =>
    let (outcome, machine, script) ←
      s.machine.dispatch cfg (Script.handlers cfg.layouts) s.script context
    return (.ofPhase (fun _ => .nothing) outcome,
      { s with machine := machine, script := script })

/-- Leave a trap and drop its context. -/
def leave (cfg : Config) (s : Simulation capacity levels) :
    Traced (Answer × Simulation capacity levels) := do
  Panic.require (s.machine.hart.Masked cfg) .inconsistent
  let (outcome, machine, script) ←
    s.machine.exit cfg (Script.handlers cfg.layouts) s.script
  return (.ofPhase (fun _ => .nothing) outcome,
    { s with machine := machine, script := script, contexts := s.contexts.tail })

/-! ## Steps -/

/-- Carry out a command. -/
def run (cfg : Config) (s : Simulation capacity levels) :
    Command → Traced (Answer × Simulation capacity levels)
  | .masked assumed command => s.underMask cfg assumed fun s => s.stepMasked cfg command
  | .create assumed attributes request => do
    let stack ← allocate s.regions request
    let s := { s with regions := s.regions + 1 }
    s.underMask cfg assumed fun s => s.create cfg attributes stack
  | .query query => do return (← s.answer cfg query, s)
  | .hart command => do
    let (answer, hart) ← stepHart cfg s.machine.hart command
    return (answer, s.setHart hart)
  | .handle => s.handle cfg
  | .trap command => do
    let (_, hart) ← stepHart cfg s.machine.hart command
    (s.setHart hart).handle cfg
  | .call number argument pc code => do
    let h := s.machine.hart.updateRegs fun r => callRegisters r number argument pc
    let hart ← h.raise cfg (.environmentCall code) 0
    (s.setHart hart).handle cfg
  | .entry => s.enter cfg
  | .dispatch context => s.dispatchLast cfg context
  | .exit => s.leave cfg
  | .onExternal actions =>
    pure (.nothing, { s with script :=
      { s.script with external := s.script.external ++ [actions] } })
  | .onTick actions =>
    pure (.nothing, { s with script := { s.script with tick := s.script.tick ++ [actions] } })

/-- Carry out a command, with the record of events starting anew. -/
def step (cfg : Config) (s : Simulation capacity levels) (command : Command) :
    Traced (Answer × Simulation capacity levels) :=
  run cfg { s with script := { s.script with events := [] } } command

end Simulation

end HartKernel
