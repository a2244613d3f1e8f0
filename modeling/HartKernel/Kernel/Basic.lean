import HartKernel.Priority.ReadyQueue
import HartKernel.Traced

/-!
# The kernel

The kernel knows the tasks, the order in which Ready tasks wait, and which task
holds the processor.  Operations that make another task the better choice do
not switch at once: they leave a request that is taken up at the next
scheduling point.

Main definitions:

- `Kernel` is the state; `Kernel.initial` is the state without tasks.
- `Kernel.decide` and `Kernel.selectNext` make the scheduling decision.
- `Kernel.makeReady` queues a task, `Kernel.checkPreemption` leaves a request if
  a Ready task is more urgent than the running one.
-/

namespace HartKernel

/-- The state of the kernel, for a number of tasks and of priority levels.
Priority zero is the most urgent. -/
structure Kernel (capacity levels : Nat) where
  /-- The tasks created so far. -/
  tasks : TaskTable
  /-- The Ready tasks. -/
  queue : ReadyQueue levels
  /-- The current task: the one that holds the processor or, if it is not
  Running any more, held it before the pending dispatch. -/
  running : Option TaskId
  /-- Whether the next scheduling point has to consult the ready queue. -/
  dispatchPending : Bool
  /-- The number of timer ticks. -/
  tick : Word
deriving DecidableEq

namespace Kernel

variable {capacity levels : Nat}

/-- The state without tasks.  There must be a priority level, and a position in
the bitmap for each. -/
def initial (capacity levels : Nat) : Except Panic (Kernel capacity levels) :=
  if h : 0 < levels ∧ levels ≤ 4096 then
    .ok ⟨#[], .empty h.2, none, false, 0⟩
  else .error .unsupportedLevels

/-- The record of a task. -/
def task? (k : Kernel capacity levels) (id : TaskId) : Option Task := k.tasks[id.index]?

/-- Change the record of a task. -/
def updateTask (k : Kernel capacity levels) (id : TaskId) (f : Task → Task) :
    Kernel capacity levels :=
  { k with tasks := k.tasks.update id f }

/-- The state of a task. -/
def taskState (k : Kernel capacity levels) (id : TaskId) : Except LookupError TaskState :=
  match k.task? id with
  | none => .error .badId
  | some t => .ok t.state

/-- The current priority of a task. -/
def priority (k : Kernel capacity levels) (id : TaskId) : Except LookupError Nat :=
  match k.task? id with
  | none => .error .badId
  | some t => .ok t.priority

/-- The Ready tasks in scheduling order. -/
def readyTasks (k : Kernel capacity levels) : Except Panic (List TaskId) :=
  k.queue.toList k.tasks

/-- Whether a task is Running. -/
def IsRunning (k : Kernel capacity levels) (id : TaskId) : Prop :=
  (k.task? id).map Task.state = some .running

instance (k : Kernel capacity levels) (id : TaskId) : Decidable (k.IsRunning id) :=
  inferInstanceAs (Decidable (_ = _))

/-- The current task, if it is Running. -/
def runningTask? (k : Kernel capacity levels) : Option TaskId :=
  k.running.filter fun id => k.IsRunning id

/-- The priority of the running task, or `leastUrgent` if no task is Running. -/
def runningPriority (k : Kernel capacity levels) : Nat :=
  ((k.runningTask?.bind k.task?).map Task.priority).getD leastUrgent

/-- What the scheduler wants next. -/
def decide (k : Kernel capacity levels) : Except Panic Decision :=
  k.queue.decide k.runningPriority

/-- The task that should run next: the first task of the most urgent level, or
the current task if that is more urgent; none if there is no task to run. -/
def selectNext (k : Kernel capacity levels) : Except Panic (Option TaskId) := do
  match ← k.decide with
  | .keep => return k.running
  | .switchTo target => return target

/-! ## Dispatch requests and ticks -/

/-- Ask the next scheduling point to reconsider the current task. -/
def requestDispatch (k : Kernel capacity levels) : Kernel capacity levels :=
  { k with dispatchPending := true }

/-- Withdraw the dispatch request; tells whether there was one. -/
def takeDispatch (k : Kernel capacity levels) : Bool × Kernel capacity levels :=
  (k.dispatchPending, { k with dispatchPending := false })

/-- Count a timer tick. -/
def advanceTick (k : Kernel capacity levels) : Kernel capacity levels :=
  { k with tick := k.tick + 1 }

/-- Ask for a dispatch if a Ready task is more urgent than the running one. -/
def checkPreemption (k : Kernel capacity levels) : Except Panic (Kernel capacity levels) := do
  match ← k.queue.highest? with
  | none => return k
  | some p => if p < k.runningPriority then return k.requestDispatch else return k

/-! ## Queue operations on the task table of the kernel -/

/-- Run a queue operation on the queue and the task table. -/
def withQueue (k : Kernel capacity levels)
    (f : ReadyQueue levels → TaskTable → Except Panic (ReadyQueue levels × TaskTable)) :
    Except Panic (Kernel capacity levels) := do
  let (queue, tasks) ← f k.queue k.tasks
  return { k with queue := queue, tasks := tasks }

/-- Make a task Ready and put it at the back of its level. -/
def makeReady (k : Kernel capacity levels) (id : TaskId) :
    Except Panic (Kernel capacity levels) :=
  (k.updateTask id fun t => { t with state := .ready }).withQueue fun q tasks =>
    q.pushBack tasks id

/-- Take a task out of the ready queue. -/
def dequeue (k : Kernel capacity levels) (id : TaskId) :
    Except Panic (Kernel capacity levels) :=
  k.withQueue fun q tasks => q.remove tasks id

end Kernel

instance {capacity levels : Nat} : Describe (Kernel capacity levels) where
  form k := .record "State"
    [("tasks", .list (k.tasks.toList.map form)), ("ready_queue", form k.queue),
     ("running_task", form k.running), ("dispatch_pending", form k.dispatchPending),
     ("tick_count", form k.tick.toNat)]

end HartKernel
