import HartKernel.Priority.Bitmap
import HartKernel.Task.Control

/-!
# The ready queue

Ready tasks wait in one circular list for each priority level.  The lists run
through the task records themselves; the queue keeps the first task of each
level and a bitmap of the levels that have one.  A task enters at the back of
its level, which is the place before the first task.

Main definitions:

- `ReadyQueue` is the queue, `ReadyQueue.pushBack`, `ReadyQueue.remove` and
  `ReadyQueue.reorder` move tasks.
- `ReadyQueue.decide` weighs a running task against the queue and answers with
  a `Decision`.
- `ReadyQueue.levelList` and `ReadyQueue.toList` list the tasks of a level and
  of the whole queue in scheduling order.
-/

namespace HartKernel

/-- What the scheduler wants next. -/
inductive Decision where
  /-- The current task goes on. -/
  | keep
  /-- The processor goes to a task, or idles. -/
  | switchTo (target : Option TaskId)
deriving DecidableEq, Repr

instance : Describe Decision where
  form
    | .keep => .atom "Keep"
    | .switchTo target => .variant "SwitchTo" [form target]

/-- The ready queue for a number of priority levels. -/
structure ReadyQueue (levels : Nat) where
  /-- The first task of each level. -/
  heads : Vector (Option TaskId) levels
  /-- The levels that have a task. -/
  bitmap : PriorityBitmap
  /-- Every level has a position in the bitmap. -/
  levels_le : levels ≤ 4096
deriving DecidableEq

namespace ReadyQueue

variable {levels : Nat}

/-- The queue without tasks. -/
def empty (h : levels ≤ 4096) : ReadyQueue levels :=
  ⟨Vector.replicate levels none, .empty, h⟩

/-- The most urgent level that has a task. -/
def highest? (q : ReadyQueue levels) : Except Panic (Option Nat) :=
  return (← q.bitmap.lowest?).map Fin.val

/-- The first task of a level. -/
def head (q : ReadyQueue levels) (priority : Nat) : Except Panic (Option TaskId) :=
  if h : priority < levels then .ok q.heads[priority] else .error .outOfBounds

/-- The task that has waited longest at the most urgent level. -/
def front? (q : ReadyQueue levels) : Except Panic (Option TaskId) := do
  match ← q.highest? with
  | none => return none
  | some priority => q.head priority

/-- Whether no task is in the queue. -/
def isEmpty (q : ReadyQueue levels) : Except Panic Bool :=
  return (← q.highest?).isNone

/-- Weigh the priority of the running task, or `leastUrgent` if none is running,
against the queue.  The running task goes on only if it is more urgent than
every task in the queue: one of equal priority takes over. -/
def decide (q : ReadyQueue levels) (current : Nat) : Except Panic Decision := do
  let next := (← q.highest?).getD leastUrgent
  if current < next then return .keep
  else if h : next < levels then return .switchTo q.heads[next]
  else return .switchTo none

/-- Set the first task of a level and mark the level as occupied or not. -/
def setHead (q : ReadyQueue levels) (priority : Nat) (h : priority < levels)
    (id : Option TaskId) : ReadyQueue levels where
  heads := q.heads.set priority id
  bitmap :=
    let position : Position := ⟨priority, Nat.lt_of_lt_of_le h q.levels_le⟩
    if id.isSome then q.bitmap.insert position else q.bitmap.erase position
  levels_le := q.levels_le

/-- Put a task at the back of the level of its priority.  The task must not be
in the queue. -/
def pushBack (q : ReadyQueue levels) (tasks : TaskTable) (id : TaskId) :
    Except Panic (ReadyQueue levels × TaskTable) := do
  let task ← tasks.fetch id
  Panic.require (task.link = none) .inconsistent
  if h : task.priority < levels then
    match q.heads[task.priority] with
    | none =>
      return (q.setHead task.priority h (some id),
        tasks.update id fun t => { t with link := some ⟨id, id⟩ })
    | some first =>
      let last := (← tasks.link first).prev
      let tasks := tasks.update id fun t => { t with link := some ⟨last, first⟩ }
      let tasks ← tasks.relink last fun l => { l with next := id }
      let tasks ← tasks.relink first fun l => { l with prev := id }
      return (q.setHead task.priority h (some first), tasks)
  else .error .outOfBounds

/-- Take a task out of the queue.  The task must be linked at the level of its
priority. -/
def remove (q : ReadyQueue levels) (tasks : TaskTable) (id : TaskId) :
    Except Panic (ReadyQueue levels × TaskTable) := do
  let task ← tasks.fetch id
  let ⟨prev, next⟩ ← tasks.link id
  let tasks := tasks.update id fun t => { t with link := none }
  if next = id then
    if h : task.priority < levels then
      Panic.require (q.heads[task.priority] = some id) .inconsistent
      return (q.setHead task.priority h none, tasks)
    else .error .outOfBounds
  else
    let tasks ← tasks.relink prev fun l => { l with next := next }
    let tasks ← tasks.relink next fun l => { l with prev := prev }
    if h : task.priority < levels then
      if q.heads[task.priority] = some id then
        return ({ q with heads := q.heads.set task.priority (some next) }, tasks)
      else return (q, tasks)
    else .error .outOfBounds

/-- Give a task in the queue a new priority and put it at the back of that
level. -/
def reorder (q : ReadyQueue levels) (tasks : TaskTable) (id : TaskId) (priority : Nat) :
    Except Panic (ReadyQueue levels × TaskTable) := do
  let (q, tasks) ← q.remove tasks id
  q.pushBack (tasks.update id fun t => { t with priority := priority }) id

/-! ## Scheduling order -/

/-- Follow a circular list from `id` for at most `count` tasks, until `first`
comes round again. -/
def walk (tasks : TaskTable) (first : TaskId) : Nat → TaskId → Except Panic (List TaskId)
  | 0, _ => .error .inconsistent
  | count + 1, id => do
    let next := (← tasks.link id).next
    if next = first then return [id] else return id :: (← walk tasks first count next)

/-- The tasks of a level, front to back.  A circular list cannot be longer than
the task table. -/
def levelList (q : ReadyQueue levels) (tasks : TaskTable) (priority : Nat) :
    Except Panic (List TaskId) := do
  match ← q.head priority with
  | none => return []
  | some first => walk tasks first tasks.size first

/-- All tasks of the queue in scheduling order. -/
def toList (q : ReadyQueue levels) (tasks : TaskTable) : Except Panic (List TaskId) :=
  return (← q.bitmap.toList.mapM fun i => q.levelList tasks i.val).flatten

end ReadyQueue

/-- A queue is shown by the first task of each occupied level. -/
instance {levels : Nat} : Describe (ReadyQueue levels) where
  form q := .table "BitmapQueue "
    (q.bitmap.toList.map fun i => (toString i.val, form (q.heads[i.val]?.getD none)))

end HartKernel
