import HartKernel.Trap.Dispatch
import HartKernel.Trap.Entry
import HartKernel.Trap.Exit

/-!
# Handling a trap

Handling a trap is entry, dispatch and exit, followed by an exception return.
If one of the phases fails the trap is fatal: the hart stays masked and does not
return.

Main definitions:

- `Machine.handleTrap` handles the trap that the hart has taken, and
  `Machine.trap` takes one first.
- `Machine.unattendedTrap` is a trap without an embedding system.
-/

namespace HartKernel

namespace Machine

variable {capacity levels : Nat} {σ : Type}

/-- The three phases of a trap. -/
def phases (cfg : Config) (handlers : Handlers σ capacity levels) (m : Machine capacity levels)
    (s : σ) : Traced (Except FatalTrap Unit × Machine capacity levels × σ) := do
  let (entered, m) ← m.entry cfg
  match entered with
  | .error d => return (.error d, m, s)
  | .ok context =>
    let (dispatched, m, s) ← m.dispatch cfg handlers s context
    match dispatched with
    | .error d => return (.error d, m, s)
    | .ok () => m.exit cfg handlers s

/-- Handle the trap that the hart has taken.  Interrupts have to be masked.
Answers the diagnostic if the trap is fatal. -/
def handleTrap (cfg : Config) (handlers : Handlers σ capacity levels)
    (m : Machine capacity levels) (s : σ) :
    Traced (Except FatalTrap Unit × Machine capacity levels × σ) := do
  Panic.require (m.hart.Masked cfg) .inconsistent
  let (answer, m, s) ← m.phases cfg handlers s
  match answer with
  | .error d =>
    Traced.note (.fatal d)
    return (.error d, m, s)
  | .ok () => return (.ok (), { m with hart := m.hart.exceptionReturn cfg }, s)

/-- Take a trap and handle it. -/
def trap (cfg : Config) (handlers : Handlers σ capacity levels) (m : Machine capacity levels)
    (s : σ) (cause : TrapCause) (value : Word) :
    Traced (Except FatalTrap Unit × Machine capacity levels × σ) := do
  let hart ← m.hart.raise cfg cause value
  { m with hart := hart }.handleTrap cfg handlers s

/-- Take a trap on a machine whose embedding system handles nothing by itself.
Answers the record that is kept if the trap is fatal. -/
def unattendedTrap (cfg : Config) (m : Machine capacity levels) (cause : TrapCause)
    (value : Word) : Traced (Option FatalTrap) := do
  let (answer, _, ()) ← m.trap cfg .default () cause value
  match answer with
  | .ok () => return none
  | .error d => return some d.record

end Machine

end HartKernel
