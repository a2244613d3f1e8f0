import HartKernel.Frame.Layout
import HartKernel.Panic
import HartKernel.Stack.Region
import HartKernel.Text.Quoted

/-!
# Tasks

What the kernel knows about a task: how it was created, its stack, where its
registers are saved, its priority and state, and its neighbours in the ready
queue.

Main definitions:

- `TaskAttributes` is what a task is created from, `Task` the whole record.
- `TaskTable` is the table of all tasks, with checked access by identifier.
-/

namespace HartKernel

/-- What a task is created from. -/
structure TaskAttributes where
  /-- The name used in notices. -/
  name : String
  /-- Where the task starts. -/
  entryPoint : Word
  /-- The parameter that the task starts with. -/
  entryParam : Word
  /-- The priority that the task is activated with; lower is more urgent. -/
  priority : Nat
deriving DecidableEq, Repr

instance : Describe TaskAttributes where
  form a := .record "TaskAttr"
    [("name", .atom (Quoted.quote a.name)), ("entry_point", .address a.entryPoint),
     ("entry_param", form a.entryParam.toNat), ("priority", form a.priority)]

/-- The neighbours of a task in a circular list. -/
structure Link where
  /-- The task before. -/
  prev : TaskId
  /-- The task after. -/
  next : TaskId
deriving DecidableEq, Repr

instance : Describe Link where
  form l := .record "Link" [("prev", form l.prev), ("next", form l.next)]

/-- The record of a task. -/
structure Task where
  /-- What the task was created from. -/
  attributes : TaskAttributes
  /-- The stack that the task owns. -/
  stack : StackRegion
  /-- The address of the frame saved last. -/
  savedSp : Word
  /-- The variant of the frame saved last. -/
  frameKind : FrameKind
  /-- The current priority. -/
  priority : Nat
  /-- Where the task is in its life cycle. -/
  state : TaskState
  /-- The neighbours in the ready queue, if the task is Ready. -/
  link : Option Link
deriving DecidableEq

/-- The name of a task. -/
def Task.name (t : Task) : String := t.attributes.name

instance : Describe Task where
  form t := .record "TaskCb"
    [("attr", form t.attributes), ("stack", form t.stack), ("saved_sp", .hex t.savedSp),
     ("frame_kind", form t.frameKind), ("priority", form t.priority), ("st", form t.state),
     ("ready_link", form t.link)]

/-- All tasks in the order of their creation. -/
abbrev TaskTable := Array Task

namespace TaskTable

/-- The task with an identifier, which has to exist. -/
def fetch (tasks : TaskTable) (id : TaskId) : Except Panic Task :=
  match tasks[id.index]? with
  | none => .error .outOfBounds
  | some t => .ok t

/-- Change the record of one task. -/
def update (tasks : TaskTable) (id : TaskId) (f : Task → Task) : TaskTable :=
  tasks.modify id.index f

/-- The neighbours of a task, which has to be linked. -/
def link (tasks : TaskTable) (id : TaskId) : Except Panic Link := do
  match (← tasks.fetch id).link with
  | none => .error (.notQueued id)
  | some l => .ok l

/-- Change the neighbours of a task, which has to be linked. -/
def relink (tasks : TaskTable) (id : TaskId) (f : Link → Link) : Except Panic TaskTable := do
  let l ← tasks.link id
  return tasks.update id fun t => { t with link := some (f l) }

theorem getElem?_update (tasks : TaskTable) (id : TaskId) (f : Task → Task) (j : Nat) :
    (tasks.update id f)[j]? = if id.index = j then tasks[j]?.map f else tasks[j]? := by
  simp [update, Array.getElem?_modify]

@[simp] theorem size_update (tasks : TaskTable) (id : TaskId) (f : Task → Task) :
    (tasks.update id f).size = tasks.size := by
  simp [update]

end TaskTable

end HartKernel
