import HartKernel.Frame.Layout
import HartKernel.Hart.Flags

/-!
# Configurations

What is fixed when a system is built: the privilege level of the kernel, the
status that new contexts start in, where tasks return to, and whether frames
hold the floating-point registers.

Main definitions:

- `Config` is a configuration, `Config.layouts` the layouts of its frames.
- `Config.machine`, `Config.supervisor` and `Config.bare` are three examples.
-/

namespace HartKernel

/-- What is fixed when a system is built. -/
structure Config where
  /-- The privilege level of the kernel and the tasks. -/
  level : Nat
  /-- The status loaded when a task resumes from a frame without status. -/
  initialStatus : Word
  /-- Where a task goes when it returns from its entry point. -/
  exitAddress : Word
  /-- Whether frames hold the floating-point registers. -/
  includeFp : Bool
  /-- The interrupts of the level have a place in a word. -/
  level_lt : level < 56

namespace Config

/-- The layouts of saved frames. -/
def layouts (cfg : Config) : FrameLayouts := .standard cfg.includeFp

/-- The kernel at the machine level. -/
def machine (includeFp : Bool) : Config where
  level := 3
  initialStatus := Status.initial 3 includeFp
  exitAddress := 0xdead0000
  includeFp := includeFp
  level_lt := by decide

/-- The kernel at the supervisor level. -/
def supervisor (includeFp : Bool) : Config where
  level := 1
  initialStatus := Status.initial 1 includeFp
  exitAddress := 0xbeef0000
  includeFp := includeFp
  level_lt := by decide

/-- The kernel at the machine level, with a status of its own choice for new
contexts and with tasks that return to the last address. -/
def bare (includeFp : Bool) : Config where
  level := 3
  initialStatus := 0x1808
  exitAddress := 0xffffffffffffffff
  includeFp := includeFp
  level_lt := by decide

end Config

end HartKernel
