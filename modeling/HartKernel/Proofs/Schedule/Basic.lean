import HartKernel.Kernel.Basic
import HartKernel.Proofs.Priority.Queue

/-!
# Schedules

A schedule is what is left of the kernel when stacks, registers and links are
forgotten: the state and the priority of each task, the lists of Ready tasks,
the current task, the dispatch request and the tick counter.  The operations of
the kernel are functions on schedules that cannot fail.

Main definitions:

- `Schedule` is the state; `Schedule.activate`, `Schedule.markReady` and their
  companions are the operations on it.
- `Schedule.decide` and `Schedule.conclude` are the decision of the scheduler
  and what the outermost exit of a trap makes of it.
- `Schedule.Still` says that the current task and the ticks are the same.
-/

namespace HartKernel

/-- What the scheduler knows of a task. -/
structure Entry where
  /-- Where the task is in its life cycle. -/
  state : TaskState
  /-- The current priority. -/
  priority : Nat
  /-- The priority that the task is activated with. -/
  initial : Nat
deriving DecidableEq

/-- What the scheduler knows of a task record. -/
def Task.entry (t : Task) : Entry := ⟨t.state, t.priority, t.attributes.priority⟩

/-- The state of the scheduler. -/
structure Schedule where
  /-- The tasks created so far. -/
  entries : Array Entry
  /-- The Ready tasks. -/
  ready : Waiting
  /-- The current task. -/
  running : Option TaskId
  /-- Whether a dispatch is requested. -/
  pending : Bool
  /-- The number of timer ticks. -/
  tick : Word

namespace Schedule

variable {levels : Nat} {s s' : Schedule} {id target : TaskId} {e e' : Entry}

/-- The state without tasks. -/
def initial : Schedule := ⟨#[], fun _ => [], none, false, 0⟩

/-- What is known of a task. -/
def lookup? (s : Schedule) (id : TaskId) : Option Entry := s.entries[id.index]?

/-- The state of a task. -/
def state? (s : Schedule) (id : TaskId) : Option TaskState := (s.lookup? id).map Entry.state

/-- Change what is known of a task. -/
def update (s : Schedule) (id : TaskId) (f : Entry → Entry) : Schedule :=
  { s with entries := s.entries.modify id.index f }

/-- Change the lists. -/
def withReady (s : Schedule) (ready : Waiting) : Schedule := { s with ready := ready }

/-- Change the state of a task. -/
def setState (s : Schedule) (id : TaskId) (state : TaskState) : Schedule :=
  s.update id fun e => { e with state := state }

/-- The current task, if it is Running. -/
def runningTask? (s : Schedule) : Option TaskId :=
  s.running.filter fun id => s.state? id = some .running

/-- The priority of the running task, or `leastUrgent` if no task is Running. -/
def runningPriority (s : Schedule) : Nat :=
  ((s.runningTask?.bind s.lookup?).map Entry.priority).getD leastUrgent

/-- What the scheduler wants next. -/
def decide (levels : Nat) (s : Schedule) : Decision := s.ready.decide levels s.runningPriority

/-! ## Operations -/

/-- Ask the next scheduling point to reconsider the current task. -/
def requestDispatch (s : Schedule) : Schedule := { s with pending := true }

/-- Withdraw the dispatch request. -/
def takeDispatch (s : Schedule) : Schedule := { s with pending := false }

/-- Count a timer tick. -/
def advanceTick (s : Schedule) : Schedule := { s with tick := s.tick + 1 }

/-- Ask for a dispatch if a Ready task is more urgent than the running one. -/
def checkPreemption (levels : Nat) (s : Schedule) : Schedule :=
  match s.ready.highest? levels with
  | none => s
  | some p => if p < s.runningPriority then s.requestDispatch else s

/-- A task becomes Ready, behind the others of its level. -/
def makeReady (s : Schedule) (id : TaskId) : Schedule :=
  match s.lookup? id with
  | none => s
  | some e => (s.setState id .ready).withReady (s.ready.push e.priority id)

/-- A task leaves the list that it waits in. -/
def dequeue (s : Schedule) (id : TaskId) : Schedule :=
  match s.lookup? id with
  | none => s
  | some e => s.withReady (s.ready.drop e.priority id)

/-- A task is created. -/
def create (s : Schedule) (priority : Nat) : Schedule :=
  { s with entries := s.entries.push ⟨.dormant, priority, priority⟩ }

/-- A Dormant task becomes Ready with its initial priority. -/
def activate (levels : Nat) (s : Schedule) (id : TaskId) : Schedule :=
  if s.state? id = some .dormant then
    ((s.update id fun e => { e with priority := e.initial }).makeReady id).checkPreemption levels
  else s

/-- A Blocked or Suspended task becomes Ready. -/
def markReady (levels : Nat) (s : Schedule) (id : TaskId) : Schedule :=
  if s.state? id = some .blocked ∨ s.state? id = some .suspended then
    (s.makeReady id).checkPreemption levels
  else s

/-- A Suspended task becomes Ready. -/
def resume (levels : Nat) (s : Schedule) (id : TaskId) : Schedule :=
  if s.state? id = some .suspended then (s.makeReady id).checkPreemption levels else s

/-- A task is taken off the processor at the next scheduling point, or leaves
its list at once. -/
def withdraw (s : Schedule) (id : TaskId) : Schedule :=
  match s.state? id with
  | some .running => s.requestDispatch
  | some .ready => s.dequeue id
  | _ => s

/-- A Running or Ready task is blocked. -/
def markBlocked (s : Schedule) (id : TaskId) : Schedule :=
  if s.state? id = some .running ∨ s.state? id = some .ready then
    (s.withdraw id).setState id .blocked
  else s

/-- A Running, Ready or Blocked task is suspended. -/
def suspend (s : Schedule) (id : TaskId) : Schedule :=
  if s.state? id = some .running ∨ s.state? id = some .ready ∨ s.state? id = some .blocked then
    (s.withdraw id).setState id .suspended
  else s

/-- A task gets another priority; a Ready task moves to the back of its new
level. -/
def reprioritise (s : Schedule) (id : TaskId) (priority : Nat) : Schedule :=
  let changed := s.update id fun e => { e with priority := priority }
  if s.state? id = some .ready then
    changed.withReady ((s.dequeue id).ready.push priority id)
  else changed

/-- The priority of a task is changed, if the level exists and the task is
activated. -/
def setPriority (levels : Nat) (s : Schedule) (id : TaskId) (priority : Nat) : Schedule :=
  match s.state? id with
  | none | some .dormant => s
  | some _ =>
    if levels ≤ priority then s else (s.reprioritise id priority).checkPreemption levels

/-- The current task loses the processor, unless it is the task that gets it. -/
def releaseCurrent (s : Schedule) (target : Option TaskId) : Schedule :=
  match s.running with
  | none => s
  | some id =>
    if some id = target then s
    else if s.state? id = some .running then s.makeReady id else s

/-- A task leaves its list and gets the processor. -/
def engage (s : Schedule) (id : TaskId) : Schedule :=
  { (s.dequeue id).setState id .running with running := some id }

/-- The processor goes to a task, or idles. -/
def handOver (s : Schedule) (target : Option TaskId) : Schedule :=
  match target with
  | none => { s.releaseCurrent none with running := none }
  | some id => (s.releaseCurrent (some id)).engage id

/-- Carry out a decision of the scheduler. -/
def obey (s : Schedule) : Decision → Schedule
  | .keep => s
  | .switchTo target => s.handOver target

/-- What the outermost exit does: it takes the dispatch request, and the
scheduler decides if there was one or if no task is Running. -/
def conclude (levels : Nat) (s : Schedule) : Schedule :=
  if s.pending ∨ s.runningTask? = none then s.takeDispatch.obey (s.decide levels)
  else s.takeDispatch

/-! ## Looking at a changed schedule -/

theorem lookup?_update (s : Schedule) (id : TaskId) (f : Entry → Entry) (j : TaskId) :
    (s.update id f).lookup? j = if j = id then (s.lookup? j).map f else s.lookup? j := by
  unfold lookup? update
  rw [Array.getElem?_modify]
  by_cases hj : j = id
  · rw [hj, if_pos rfl, if_pos rfl]
  · have hne : id.index ≠ j.index := fun h => hj (TaskId.index_injective h.symm)
    rw [if_neg hne, if_neg hj]

theorem lookup?_update_of (he : s.lookup? id = some e) (f : Entry → Entry) (j : TaskId) :
    (s.update id f).lookup? j = if j = id then some (f e) else s.lookup? j := by
  rw [lookup?_update]
  split
  · rename_i hj
    rw [hj, he]
    rfl
  · rfl

theorem update_of_none (he : s.lookup? id = none) (f : Entry → Entry) : s.update id f = s := by
  have hentries : s.entries.modify id.index f = s.entries := by
    apply Array.ext_getElem?
    intro i
    rw [Array.getElem?_modify]
    split
    · rename_i hi
      rw [← hi, ← lookup?, he]
      rfl
    · rfl
  rw [update, hentries]

@[simp] theorem lookup?_withReady (s : Schedule) (w : Waiting) (j : TaskId) :
    (s.withReady w).lookup? j = s.lookup? j := rfl

@[simp] theorem ready_withReady (s : Schedule) (w : Waiting) : (s.withReady w).ready = w := rfl

@[simp] theorem ready_update (s : Schedule) (id : TaskId) (f : Entry → Entry) :
    (s.update id f).ready = s.ready := rfl

theorem state?_of_lookup? (he : s.lookup? id = some e) : s.state? id = some e.state := by
  rw [state?, he]
  rfl

theorem state?_makeReady {state : TaskState} (hid : s.state? id = some state) (j : TaskId) :
    (s.makeReady id).state? j = if j = id then some .ready else s.state? j := by
  obtain ⟨e, he, -⟩ := Option.map_eq_some_iff.1 hid
  have hready : s.makeReady id = (s.setState id .ready).withReady (s.ready.push e.priority id) := by
    simp [makeReady, he]
  rw [state?, hready, lookup?_withReady, setState, lookup?_update_of he]
  split
  · rfl
  · rfl

/-- Releasing the current task leaves the task that gets the processor alone. -/
theorem lookup?_releaseCurrent :
    (s.releaseCurrent (some target)).lookup? target = s.lookup? target := by
  unfold releaseCurrent
  split
  · rfl
  · rename_i id hid
    split
    · rfl
    · rename_i hne
      split
      · unfold makeReady
        split
        · rfl
        · rw [lookup?_withReady, setState, lookup?_update, if_neg]
          exact fun e => hne (congrArg some e.symm)
      · rfl

theorem exists_of_state? {state : TaskState} (h : s.state? id = some state) :
    ∃ e, s.lookup? id = some e ∧ e.state = state :=
  Option.map_eq_some_iff.1 h

theorem runningTask?_eq_some :
    s.runningTask? = some id ↔ s.running = some id ∧ s.state? id = some .running := by
  rw [runningTask?, Option.filter_eq_some_iff, decide_eq_true_iff]

theorem runningPriority_of_running (h : s.runningTask? = some id) (he : s.lookup? id = some e) :
    s.runningPriority = e.priority := by
  rw [runningPriority, h, Option.bind_some, he]
  rfl

theorem runningPriority_of_none (h : s.runningTask? = none) : s.runningPriority = leastUrgent := by
  rw [runningPriority, h]
  rfl

theorem releaseCurrent_of_none (h : s.runningTask? = none) (target : Option TaskId) :
    s.releaseCurrent target = s := by
  unfold releaseCurrent
  split
  · rfl
  · rename_i id hid
    split
    · rfl
    · rw [if_neg]
      intro hstate
      rw [runningTask?_eq_some.2 ⟨hid, hstate⟩] at h
      cases h

/-- A task that waits after the current task was released waited before, or is
the task that was released. -/
theorem mem_ready_releaseCurrent {target : Option TaskId} {p : Nat}
    (h : id ∈ (s.releaseCurrent target).ready p) :
    id ∈ s.ready p ∨ s.runningTask? = some id ∧ ∃ e, s.lookup? id = some e ∧ e.priority = p := by
  unfold releaseCurrent at h
  split at h
  · exact .inl h
  · rename_i a ha
    split at h
    · exact .inl h
    · split at h
      · rename_i hstate
        unfold makeReady at h
        split at h
        · exact .inl h
        · rename_i e he
          rcases Waiting.mem_push.1 h with hid | ⟨rfl, rfl⟩
          · exact .inl hid
          · exact .inr ⟨runningTask?_eq_some.2 ⟨ha, hstate⟩, e, he, rfl⟩
      · exact .inl h

/-- Handing the processor over has nothing to do with requests and ticks. -/
theorem rest_handOver (s : Schedule) (target : Option TaskId) :
    (s.handOver target).pending = s.pending ∧ (s.handOver target).tick = s.tick := by
  have hready : ∀ id, (s.makeReady id).pending = s.pending ∧ (s.makeReady id).tick = s.tick := by
    intro id
    unfold makeReady
    split <;> exact ⟨rfl, rfl⟩
  have hrelease : (s.releaseCurrent target).pending = s.pending ∧
      (s.releaseCurrent target).tick = s.tick := by
    unfold releaseCurrent
    split
    · exact ⟨rfl, rfl⟩
    · split
      · exact ⟨rfl, rfl⟩
      · split
        · exact hready _
        · exact ⟨rfl, rfl⟩
  have hdequeue : ∀ (s : Schedule) (id : TaskId),
      (s.dequeue id).pending = s.pending ∧ (s.dequeue id).tick = s.tick := by
    intro s id
    unfold dequeue
    split <;> exact ⟨rfl, rfl⟩
  cases target with
  | none => exact hrelease
  | some id =>
    obtain ⟨hpending, htick⟩ := hdequeue (s.releaseCurrent (some id)) id
    exact ⟨hpending.trans hrelease.1, htick.trans hrelease.2⟩

theorem pending_handOver (s : Schedule) (target : Option TaskId) :
    (s.handOver target).pending = s.pending :=
  (s.rest_handOver target).1

/-- The outermost exit counts no tick. -/
theorem tick_conclude (s : Schedule) : (s.conclude levels).tick = s.tick := by
  unfold conclude
  split
  · cases s.decide levels with
    | keep => rfl
    | switchTo target => exact (rest_handOver _ target).2
  · rfl

/-- The outermost exit leaves no request. -/
theorem pending_conclude (s : Schedule) : (s.conclude levels).pending = false := by
  unfold conclude
  split
  · cases s.decide levels with
    | keep => rfl
    | switchTo target => exact pending_handOver _ target
  · rfl

/-! ## The current task and the ticks -/

/-- The current task is the same, and no tick was counted. -/
structure Still (s s' : Schedule) : Prop where
  running : s'.running = s.running
  tick : s'.tick = s.tick

theorem Still.refl (s : Schedule) : s.Still s := ⟨rfl, rfl⟩

theorem Still.trans {s'' : Schedule} (h : s.Still s') (h' : s'.Still s'') : s.Still s'' :=
  ⟨h'.running.trans h.running, h'.tick.trans h.tick⟩

theorem still_makeReady (s : Schedule) (id : TaskId) : s.Still (s.makeReady id) := by
  unfold makeReady
  split <;> exact ⟨rfl, rfl⟩

theorem still_checkPreemption (s : Schedule) : s.Still (s.checkPreemption levels) := by
  unfold checkPreemption
  split
  · exact .refl s
  · split <;> exact ⟨rfl, rfl⟩

theorem still_wake (s : Schedule) (id : TaskId) :
    s.Still ((s.makeReady id).checkPreemption levels) :=
  (s.still_makeReady id).trans (still_checkPreemption _)

theorem still_withdraw (s : Schedule) (id : TaskId) : s.Still (s.withdraw id) := by
  unfold withdraw
  split
  · exact ⟨rfl, rfl⟩
  · unfold dequeue
    split <;> exact ⟨rfl, rfl⟩
  · exact .refl s

theorem still_activate (s : Schedule) (id : TaskId) : s.Still (s.activate levels id) := by
  unfold activate
  split
  · refine Still.trans ?_ (still_wake _ id)
    exact ⟨rfl, rfl⟩
  · exact .refl s

theorem still_markReady (s : Schedule) (id : TaskId) : s.Still (s.markReady levels id) := by
  unfold markReady
  split
  · exact s.still_wake id
  · exact .refl s

theorem still_resume (s : Schedule) (id : TaskId) : s.Still (s.resume levels id) := by
  unfold resume
  split
  · exact s.still_wake id
  · exact .refl s

theorem still_markBlocked (s : Schedule) (id : TaskId) : s.Still (s.markBlocked id) := by
  unfold markBlocked
  split
  · exact (s.still_withdraw id).trans ⟨rfl, rfl⟩
  · exact .refl s

theorem still_suspend (s : Schedule) (id : TaskId) : s.Still (s.suspend id) := by
  unfold suspend
  split
  · exact (s.still_withdraw id).trans ⟨rfl, rfl⟩
  · exact .refl s

theorem still_setPriority (s : Schedule) (id : TaskId) (priority : Nat) :
    s.Still (s.setPriority levels id priority) := by
  unfold setPriority
  split
  · exact .refl s
  · exact .refl s
  · split
    · exact .refl s
    · refine Still.trans ?_ (still_checkPreemption _)
      unfold reprioritise
      split <;> exact ⟨rfl, rfl⟩

theorem running_handOver (s : Schedule) (target : Option TaskId) :
    (s.handOver target).running = target := by
  cases target <;> rfl

end Schedule

end HartKernel
