import HartKernel.Text.Form

/-!
# Frame errors

The ways in which a stack access or a frame operation can be refused.
-/

namespace HartKernel

/-- Why a stack access or a frame operation was refused. -/
inductive FrameError where
  /-- The frame does not fit in the stack region below the stack pointer. -/
  | stackOverflow
  /-- The stack pointer or the address is not aligned. -/
  | misaligned
  /-- The address range does not belong to the stack region. -/
  | outOfRegion
  /-- The frame at the address was saved with a different layout. -/
  | kindMismatch
  /-- The layout does not contain the register slot. -/
  | noSuchSlot
deriving DecidableEq, Repr

namespace FrameError

/-- All frame errors. -/
def all : List FrameError :=
  [stackOverflow, misaligned, outOfRegion, kindMismatch, noSuchSlot]

/-- The name of an error. -/
def name : FrameError → String
  | stackOverflow => "StackOverflow"
  | misaligned => "Misaligned"
  | outOfRegion => "OutOfRegion"
  | kindMismatch => "KindMismatch"
  | noSuchSlot => "NoSuchSlot"

/-- An error in words. -/
def message : FrameError → String
  | stackOverflow => "stack overflow"
  | misaligned => "misaligned stack pointer"
  | outOfRegion => "address out of stack region"
  | kindMismatch => "frame kind mismatch"
  | noSuchSlot => "register slot not in frame layout"

end FrameError

instance : Describe FrameError := ⟨fun e => .atom e.name⟩

/-- A task's context cannot be saved or restored. -/
inductive ContextError where
  /-- No task has the identifier. -/
  | badId
  /-- The frame was refused. -/
  | frame (error : FrameError)
deriving DecidableEq, Repr

/-- The frame error behind a context error, if any. -/
def ContextError.frameError? : ContextError → Option FrameError
  | .badId => none
  | .frame e => some e

instance : Describe ContextError where
  form
    | .badId => .atom "BadId"
    | .frame e => .variant "Frame" [form e]

end HartKernel
