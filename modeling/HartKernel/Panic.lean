import HartKernel.Task.Id

/-!
# Panics

A panic stops the kernel for good: a check on its own data has failed.  It is
not an answer to a caller, unlike the error of an operation.

Main definitions:

- `Panic` lists the failed checks, `Panic.message?` the words that some of them
  come with.
-/

namespace HartKernel

/-- A check of the kernel on its own data that has failed. -/
inductive Panic where
  /-- An internal consistency check failed. -/
  | inconsistent
  /-- A position lies outside a table. -/
  | outOfBounds
  /-- A number does not fit in its type. -/
  | overflow
  /-- A task was expected in the ready queue and is not linked there. -/
  | notQueued (id : TaskId)
  /-- The number of priority levels is not supported. -/
  | unsupportedLevels
  /-- A trap cause has no encoding at the privilege level. -/
  | unencodableCause
  /-- A trap is left that was never entered. -/
  | exitWithoutEntry
deriving DecidableEq, Repr

/-- The words that come with a panic, if any. -/
def Panic.message? : Panic → Option String
  | inconsistent | outOfBounds | overflow => none
  | notQueued id => some s!"{id.text} is not in the ready queue"
  | unsupportedLevels => some "unsupported number of priority levels"
  | unencodableCause => some "trap cause can't be encoded in this privilege level"
  | exitWithoutEntry => some "trap exit without a matching entry"

/-- Go on only if a check holds. -/
def Panic.require (p : Prop) [Decidable p] (panic : Panic) : Except Panic Unit :=
  if p then .ok () else .error panic

end HartKernel
