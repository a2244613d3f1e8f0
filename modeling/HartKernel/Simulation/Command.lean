import HartKernel.Simulation.Action
import HartKernel.Trap.Context

/-!
# Commands

What a simulated system can be told to do: kernel calls under the interrupt
mask, changes of the hart, traps and their single phases, and questions.

Main definitions:

- `MaskedCommand` is a command that runs under the interrupt mask.
- `Query` is a question that changes nothing.
- `Command` is any command.
-/

namespace HartKernel

/-- A region to be allocated for a stack. -/
structure RegionRequest where
  /-- The number of words. -/
  words : Nat
  /-- How many words to leave out at the start. -/
  skew : Nat
  /-- The initial contents of each word. -/
  fill : Word
deriving DecidableEq, Repr

/-- A command that runs under the interrupt mask. -/
inductive MaskedCommand where
  | act (action : Action)
  | save (id : TaskId) (kind : FrameKind)
  | restore (id : TaskId)
  | switch (source target : TaskId)
  | switchTo (target : Option TaskId)
  /-- Make and carry out a scheduling decision outside of a trap. -/
  | reschedule
  /-- Show what holding the mask looks like. -/
  | describeMask
  /-- Operations on a second queue that knows the first task only. -/
  | sparePush
  | spareRemove
  | spareReorder (priority : Nat)
deriving DecidableEq, Repr

/-- Something that can be shown as text. -/
inductive Subject where
  | kernel
  | queue
  | hart
  | registers
  | stats
  | attributes (id : TaskId)
  | task (id : TaskId)
deriving DecidableEq, Repr

/-- A question that changes nothing. -/
inductive Query where
  | facts (id : TaskId)
  | peek (id : TaskId) (addr : Word)
  | frameSlot (id : TaskId) (slot : RegisterSlot)
  | stackCells (id : TaskId)
  | interruptStackCells
  | background
  | decision (asBlock : Bool)
  | queue (asBlock : Bool)
  | decisionAt (priority : Nat)
  | describe (subject : Subject) (asBlock : Bool)
  | spareQueue (priority : Nat) (asBlock : Bool)
deriving DecidableEq, Repr

/-- A change of the hart. -/
inductive HartCommand where
  | mask
  | unmask
  | tryMask
  | setRegisters (values : List (RegisterSlot × Word))
  | setControl (cause value pending : Option Word)
  | raise (cause : TrapCause) (value : Word)
  | raiseWord (cause value : Word)
  | exceptionReturn
  | enterIdle
  | clearSoftware
deriving DecidableEq, Repr

/-- A command to a simulated system. -/
inductive Command where
  /-- Run under the interrupt mask: take the mask and give it back, or rely on
  interrupts being masked already. -/
  | masked (assumed : Bool) (command : MaskedCommand)
  /-- Create a task under the interrupt mask, on a stack region of its own. -/
  | create (assumed : Bool) (attributes : TaskAttributes) (region : RegionRequest)
  | query (query : Query)
  | hart (command : HartCommand)
  /-- Handle the trap that the hart has taken. -/
  | handle
  /-- Take a trap and handle it. -/
  | trap (command : HartCommand)
  /-- Make an environment call. -/
  | call (number argument : Word) (pc : Option Word) (code : Word)
  /-- Single phases of trap handling; contexts are kept on a list. -/
  | entry
  | dispatch (context : Option TrapContext)
  | exit
  /-- Queue kernel calls for an external interrupt. -/
  | onExternal (actions : List Action)
  /-- Queue kernel calls for a timer interrupt. -/
  | onTick (actions : List Action)
deriving DecidableEq, Repr

end HartKernel
