import HartKernel.Trap.Machine

/-!
# Trap exit

Leaving a nested trap brings back the handler that it interrupted.  Leaving the
outermost trap leaves the interrupt stack, and if a dispatch was requested or
the current task is not Running any more, the scheduler chooses what to resume.

Main definitions:

- `Machine.exitNested` and `Machine.exitOutermost` are the two cases.
- `Machine.resumeBackground` and `Machine.resumeChosen` load what to resume.
- `Machine.exit` leaves a trap.
-/

namespace HartKernel

namespace Machine

variable {capacity levels : Nat} {σ : Type}

/-- Bring back the handler that a nested trap interrupted. -/
def exitNested (cfg : Config) (m : Machine capacity levels) :
    Traced (Except FatalTrap Unit × Machine capacity levels) := do
  let (restored, regs) ←
    cfg.layouts.interrupted.restore m.interruptStack m.hart.regs.sp m.hart.regs
  let m := { m with hart := { m.hart with regs := regs } }
  match restored with
  | .error e => return (.error (m.diagnose (some e)), m)
  | .ok sp =>
    Traced.note (.leftNested m.nesting)
    return (.ok (), m.setSp sp)

/-- Resume the interrupted task.  Its registers were saved on trap entry. -/
def resumeBackground (cfg : Config) (m : Machine capacity levels) (id : TaskId) :
    Traced (Except FatalTrap Unit × Machine capacity levels) := do
  let (restored, regs) ← m.kernel.restoreContext cfg.layouts m.hart.regs id
  let m := { m with hart := { m.hart with regs := regs } }
  match restored with
  | .error e => return (.error (m.diagnose e.frameError?), m)
  | .ok kind =>
    Panic.require (kind = .interrupted) .inconsistent
    Traced.note (.resuming id)
    return (.ok (), m)

/-- Go to the idle loop. -/
def enterIdle (cfg : Config) (m : Machine capacity levels) : Machine capacity levels :=
  { m with hart := ((m.hart.setSp 0).setStatus cfg.initialStatus).enterIdle }

/-- Resume what the scheduler chose: another task, or the idle loop.  A frame
saved by a call has no status, so the task gets the initial one. -/
def resumeChosen (cfg : Config) (handlers : Handlers σ capacity levels)
    (m : Machine capacity levels) (s : σ) (target : Option TaskId) :
    Traced (Except FatalTrap Unit × Machine capacity levels × σ) := do
  let (outcome, kernel, regs) ← m.kernel.switchTo cfg.layouts m.hart.regs target
  let m := { m with kernel := kernel, hart := { m.hart with regs := regs } }
  match outcome with
  | .error _ => return (.error (m.diagnose none), m, s)
  | .ok kind =>
    Traced.note (.leftTo target)
    match kind with
    | some .interrupted => return (.ok (), m, s)
    | some .cooperative =>
      return (.ok (), { m with hart := m.hart.setStatus cfg.initialStatus }, s)
    | none => return (.ok (), m.enterIdle cfg, handlers.idle s)

/-- What the outermost exit does: the scheduler is consulted only if a dispatch
was requested or no task is Running. -/
def exitDecision (k : Kernel capacity levels) (requested : Bool) : Except Panic Decision :=
  if requested ∨ k.runningTask? = none then k.decide else .ok .keep

/-- Leave the interrupt stack. -/
def leaveStack (m : Machine capacity levels) :
    Traced (Except FatalTrap Unit × Machine capacity levels) := do
  let slot := m.hart.regs.sp
  Panic.require (slot = (← m.backgroundSlot)) .inconsistent
  match m.interruptStack.read slot with
  | .error e => return (.error (m.diagnose (some e)), m)
  | .ok background =>
    return (.ok (), (m.setSp background).updateStats fun s =>
      { s with stackSwitchesOut := s.stackSwitchesOut + 1 })

/-- Leave the outermost trap. -/
def exitOutermost (cfg : Config) (handlers : Handlers σ capacity levels)
    (m : Machine capacity levels) (s : σ) :
    Traced (Except FatalTrap Unit × Machine capacity levels × σ) := do
  let (left, m) ← m.leaveStack
  match left with
  | .error d => return (.error d, m, s)
  | .ok () =>
    let (requested, kernel) := m.kernel.takeDispatch
    let m := { m with kernel := kernel }
    match ← exitDecision kernel requested with
    | .switchTo target => m.resumeChosen cfg handlers s target
    | .keep =>
      match kernel.runningTask? with
      | none => Traced.panic .inconsistent
      | some id =>
        let (answer, m) ← m.resumeBackground cfg id
        return (answer, m, s)

/-- Leave a trap. -/
def exit (cfg : Config) (handlers : Handlers σ capacity levels) (m : Machine capacity levels)
    (s : σ) : Traced (Except FatalTrap Unit × Machine capacity levels × σ) := do
  Panic.require (0 < m.nesting) .exitWithoutEntry
  let m := { m with nesting := m.nesting - 1 }
  if 0 < m.nesting then
    let (answer, m) ← m.exitNested cfg
    return (answer, m, s)
  else m.exitOutermost cfg handlers s

end Machine

end HartKernel
