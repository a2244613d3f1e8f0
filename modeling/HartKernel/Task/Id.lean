import HartKernel.Text.Form

/-!
# Task identifiers and task states

Tasks are numbered from one in the order of their creation.

Main definitions:

- `TaskId` is an identifier, `TaskId.ofRaw?` reads one from a number.
- `TaskState` is the life cycle of a task.
-/

namespace HartKernel

/-- The identifier of a task.  The number shown is one more than the position
of the task in the task table. -/
structure TaskId where
  /-- The position in the task table. -/
  index : Nat
deriving DecidableEq, Repr, Inhabited

namespace TaskId

/-- The number of a task, counted from one. -/
def raw (id : TaskId) : Nat := id.index + 1

/-- The task with a given number; there is no task zero. -/
def ofRaw? : Nat → Option TaskId
  | 0 => none
  | n + 1 => some ⟨n⟩

@[simp] theorem ofRaw?_raw (id : TaskId) : ofRaw? id.raw = some id := rfl

theorem raw_of_ofRaw? {n : Nat} {id : TaskId} (h : ofRaw? n = some id) : id.raw = n := by
  cases n with
  | zero => simp [ofRaw?] at h
  | succ n => simp only [ofRaw?, Option.some.injEq] at h; subst h; rfl

/-- The spelling of an identifier. -/
def text (id : TaskId) : String := s!"TaskId({id.raw})"

/-- The spelling of an optional identifier. -/
def optionText : Option TaskId → String
  | none => "None"
  | some id => s!"Some({id.text})"

end TaskId

instance : Describe TaskId := ⟨fun id => .atom id.text⟩

/-- The life cycle of a task. -/
inductive TaskState where
  /-- Created but not activated yet. -/
  | dormant
  /-- Waiting for the processor. -/
  | ready
  /-- Holding the processor. -/
  | running
  /-- Waiting for an event. -/
  | blocked
  /-- Held back until it is resumed. -/
  | suspended
deriving DecidableEq, Repr

/-- The name of a task state. -/
def TaskState.name : TaskState → String
  | dormant => "Dormant"
  | ready => "Ready"
  | running => "Running"
  | blocked => "Blocked"
  | suspended => "Suspended"

instance : Describe TaskState := ⟨fun s => .atom s.name⟩

end HartKernel
