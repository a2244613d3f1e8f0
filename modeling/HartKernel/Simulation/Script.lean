import HartKernel.Simulation.Action
import HartKernel.Trap.Machine

/-!
# Scripts

A script says what interrupt handlers do: each call of a handler takes the next
list of kernel calls from a queue.  It also records what the handlers were
called with.

Main definitions:

- `Script` holds the queues and the record of `Event`s.
- `Script.handlers` are the handlers that follow the script.
-/

namespace HartKernel

/-- Something that a handler was called for or did. -/
inductive Event where
  | external (code : Word)
  | tick (count : Word)
  | idle
  | acted (answer : Answer)

/-- What interrupt handlers are to do, and what has happened. -/
structure Script where
  /-- The calls for the next external interrupts. -/
  external : List (List Action) := []
  /-- The calls for the next timer interrupts. -/
  tick : List (List Action) := []
  /-- What has happened, oldest first. -/
  events : List Event := []

namespace Script

variable {capacity levels : Nat}

/-- Record an event. -/
def record (s : Script) (e : Event) : Script := { s with events := s.events ++ [e] }

/-- Make kernel calls one after another and record the answers. -/
def perform (ls : FrameLayouts) (k : Kernel capacity levels) (s : Script) :
    List Action → Traced (Kernel capacity levels × Script)
  | [] => pure (k, s)
  | action :: actions => do
    let (answer, k) ← k.act ls action
    perform ls k (s.record (.acted answer)) actions

/-- Handle an external interrupt: report it as unhandled, then follow the
script. -/
def onExternal (ls : FrameLayouts) (code : Word) (k : Kernel capacity levels) (s : Script) :
    Traced (Kernel capacity levels × Script) := do
  let s := s.record (.external code)
  let (k, s) ← Handlers.default.external code k s
  perform ls k { s with external := s.external.tail } (s.external.headD [])

/-- Handle a timer tick: follow the script. -/
def onTick (ls : FrameLayouts) (count : Word) (k : Kernel capacity levels) (s : Script) :
    Traced (Kernel capacity levels × Script) :=
  let s := s.record (.tick count)
  perform ls k { s with tick := s.tick.tail } (s.tick.headD [])

/-- The handlers that follow a script. -/
def handlers (ls : FrameLayouts) : Handlers Script capacity levels where
  external := onExternal ls
  tick := onTick ls
  idle s := s.record .idle

end Script

end HartKernel
