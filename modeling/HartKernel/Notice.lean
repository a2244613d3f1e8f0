import HartKernel.Frame.Layout
import HartKernel.ResultCode
import HartKernel.Service
import HartKernel.Stack.Region
import HartKernel.Trap.Context

/-!
# Notices

Everything that the kernel reports about its own work, with the wording of each
report in one place.

Main definitions:

- `Notice` lists the reports; `Notice.level` is how urgent one is and
  `Notice.text` what it says.
- `Notice.line` is the line written for a report.
-/

namespace HartKernel

/-- A report of the kernel on its own work. -/
inductive Notice where
  | frameSaved (kind : FrameKind) (sp : Word) (words : Nat)
  | frameRestored (kind : FrameKind) (sp : Word)
  | created (id : TaskId) (name : String) (priority base top : Nat)
  | activating (id : TaskId) (name : String)
  | moved (id : TaskId) (name : String) (before after : TaskState)
  | prioritised (id : TaskId) (name : String) (priority : Nat)
  | switched (before : Option TaskId) (after : TaskId) (name : String)
  | idled (before : TaskId)
  | raised (cause : TrapCause) (pc : Word)
  | entered (cause : TrapCause) (nesting : Nat) (frame : SavedFrame)
  | leftNested (nesting : Nat)
  | resuming (id : TaskId)
  | leftTo (target : Option TaskId)
  | fatal (diagnostic : FatalTrap)
  | unhandledInterrupt (code : Word)
  | unknownService (number : Word) (caller : Option TaskId)
  | serviceCalled (caller : Option TaskId) (service : Service) (argument : Word)
  | serviceFailed (caller : Option TaskId) (service : Service) (argument : Word)
      (result : ResultCode)
deriving DecidableEq, Repr

/-- How urgent a notice is. -/
inductive NoticeLevel where
  | trace
  | debug
  | warn
  | error
deriving DecidableEq, Repr

/-- The name of a level. -/
def NoticeLevel.name : NoticeLevel → String
  | trace => "TRACE"
  | debug => "DEBUG"
  | warn => "WARN"
  | error => "ERROR"

namespace Notice

/-- How urgent a notice is. -/
def level : Notice → NoticeLevel
  | frameSaved .. | frameRestored .. | raised .. | entered .. | leftNested .. | resuming ..
  | leftTo .. | serviceCalled .. => .trace
  | created .. | activating .. | moved .. | prioritised .. | switched .. | idled .. => .debug
  | unhandledInterrupt .. | unknownService .. | serviceFailed .. => .warn
  | fatal .. => .error

/-- The words of a notice. -/
def text : Notice → String
  | frameSaved kind sp words => s!"saved {kind.name} frame at {sp.hex} ({words} words)"
  | frameRestored kind sp => s!"restored {kind.name} frame from {sp.hex}"
  | created id name priority base top =>
    s!"created {id.text} '{name}' (priority {priority}, stack {StackRegion.extentText base top})"
  | activating id name => s!"activating {id.text} '{name}'"
  | moved id name before after => s!"{id.text} '{name}': {before.name} -> {after.name}"
  | prioritised id name priority => s!"{id.text} '{name}': priority = {priority}"
  | switched before after name =>
    s!"switch {TaskId.optionText before} -> {after.text} '{name}'"
  | idled before => s!"switch {TaskId.optionText (some before)} -> idle"
  | raised cause pc => s!"raise {cause.text} at pc = {pc.hex}"
  | entered cause nesting frame =>
    s!"trap entry: {cause.text}, nesting = {nesting}, {frame.text}"
  | leftNested nesting => s!"trap exit: nesting = {nesting}"
  | resuming id => s!"trap exit: resuming {id.text}"
  | leftTo target => s!"trap exit: switched to {TaskId.optionText target}"
  | fatal diagnostic => s!"fatal trap: {diagnostic.text}"
  | unhandledInterrupt code => s!"unhandled interrupt {code.toNat}"
  | unknownService number caller =>
    s!"unknown system service {number.toNat} requested by {TaskId.optionText caller}"
  | serviceCalled caller service argument =>
    s!"{TaskId.optionText caller}: {service.name}({argument.hex})"
  | serviceFailed caller service argument result =>
    s!"{TaskId.optionText caller}: {service.name}({argument.hex}) failed: {result.name}"

/-- The line written for a notice. -/
def line (n : Notice) : String := s!"{n.level.name} {n.text}"

end Notice

end HartKernel
