import HartKernel.Proofs.Priority.Queue

/-!
# The ready queue as an array of lists

The queue is a circular list for each level, threaded through the task table,
with a bitmap of the levels that have one.  To whoever moves tasks in and out and
reads the order it cannot be told from an array of plain lists: a task joins the
list of its priority at the back and leaves it from wherever it is.

Main definitions:

- `QueueMove` is what can be done with a task, `ReadyQueue.moveAll` does it to the
  queue and the task table, move by move.
- `Lanes` is the array of lists, with the priorities that tasks have;
  `Lanes.run` makes the same moves there, and `Lanes.Legal` says which moves make
  sense.
- `ReadyQueue.ReadsAs` says that everything that can be read off a queue is read
  off the lists.

Main results:

- `ReadyQueue.Mirrors.move`: a legal move goes well, and queue and lists still go
  together.
- `ReadyQueue.Represents.readsAs`: a queue reads as the lists that it holds.
- `ReadyQueue.moveAll_refines`: every sequence of legal moves from the empty queue
  goes well and ends in a queue that reads as the lists after the same moves; the
  records of tasks differ in links, and in the priorities that were given.
-/

namespace HartKernel

/-! ## Moves and lists -/

/-- What can be done with a task in the ready queue. -/
inductive QueueMove where
  /-- A task that does not wait joins the back of the level of its priority. -/
  | push (id : TaskId)
  /-- A task that waits leaves. -/
  | remove (id : TaskId)
  /-- A task that waits gets a priority and joins the back of that level. -/
  | reorder (id : TaskId) (priority : Nat)

/-- An array of lists of tasks, and the priority that each task has. -/
structure Lanes where
  /-- The priority of each task. -/
  priority : TaskId → Nat
  /-- The tasks that wait at each level. -/
  waiting : Waiting

namespace Lanes

variable {levels count : Nat}

/-- Nobody waits, and tasks have the priorities that a table gives them. -/
def start (tasks : TaskTable) : Lanes where
  priority id := (tasks[id.index]?.map Task.priority).getD 0
  waiting _ := []

/-- What a move does to the lists. -/
def step (m : Lanes) : QueueMove → Lanes
  | .push id => { m with waiting := m.waiting.push (m.priority id) id }
  | .remove id => { m with waiting := m.waiting.drop (m.priority id) id }
  | .reorder id priority =>
    { priority := Function.update m.priority id priority
      waiting := (m.waiting.drop (m.priority id) id).push priority id }

/-- What moves do to the lists. -/
def run (m : Lanes) : List QueueMove → Lanes
  | [] => m
  | move :: moves => (m.step move).run moves

/-- Only a created task that does not wait is pushed, only a task that waits is
removed or reordered, and it is reordered to an existing level. -/
def Allows (levels count : Nat) (m : Lanes) : QueueMove → Prop
  | .push id => id.index < count ∧ id ∉ m.waiting.toList levels
  | .remove id => id ∈ m.waiting.toList levels
  | .reorder id priority => id ∈ m.waiting.toList levels ∧ priority < levels

/-- Every move is allowed when its turn comes. -/
def Legal (levels count : Nat) : Lanes → List QueueMove → Prop
  | _, [] => True
  | m, move :: moves => m.Allows levels count move ∧ (m.step move).Legal levels count moves

instance (m : Lanes) (move : QueueMove) : Decidable (m.Allows levels count move) :=
  match move with
  | .push _ => inferInstanceAs (Decidable (_ ∧ _))
  | .remove _ => inferInstanceAs (Decidable (_ ∈ _))
  | .reorder _ _ => inferInstanceAs (Decidable (_ ∧ _))

instance decidableLegal : (m : Lanes) → (moves : List QueueMove) →
    Decidable (m.Legal levels count moves)
  | _, [] => inferInstanceAs (Decidable True)
  | m, move :: moves =>
    have := decidableLegal (m.step move) moves
    inferInstanceAs (Decidable (_ ∧ _))

/-- The records of a table, with the priorities that tasks have now. -/
def records (m : Lanes) (tasks : TaskTable) : TaskTable :=
  tasks.mapIdx fun i t => { t with priority := m.priority ⟨i⟩ }

theorem getElem?_records (m : Lanes) (tasks : TaskTable) (i : Nat) :
    (m.records tasks)[i]? = tasks[i]?.map fun t => { t with priority := m.priority ⟨i⟩ } :=
  Array.getElem?_mapIdx

theorem priority_start {tasks : TaskTable} {id : TaskId} {t : Task}
    (ht : tasks[id.index]? = some t) : (start tasks).priority id = t.priority := by
  simp only [start, ht, Option.map_some, Option.getD_some]

theorem records_start (tasks : TaskTable) : (start tasks).records tasks = tasks := by
  apply Array.ext_getElem?
  intro i
  rw [getElem?_records]
  cases ht : tasks[i]? with
  | none => rfl
  | some t =>
    have hpriority : (start tasks).priority ⟨i⟩ = t.priority := priority_start ht
    rw [Option.map_some, hpriority]

/-- A new priority of one task is a change of one record. -/
theorem records_update (m : Lanes) (tasks : TaskTable) (id : TaskId) (priority : Nat)
    (w : Waiting) : (⟨Function.update m.priority id priority, w⟩ : Lanes).records tasks =
      (m.records tasks).update id fun t => { t with priority := priority } := by
  apply Array.ext_getElem?
  intro i
  rw [getElem?_records, TaskTable.getElem?_update, getElem?_records]
  by_cases hi : id.index = i
  · subst hi
    rw [if_pos rfl, Option.map_map]
    simp [Function.comp_def]
  · have hne : (⟨i⟩ : TaskId) ≠ id := fun e => hi (e ▸ rfl)
    rw [if_neg hi]
    simp only [Function.update_of_ne hne]

end Lanes

namespace ReadyQueue

variable {levels : Nat} {q : ReadyQueue levels} {tasks tasks₀ : TaskTable} {w : Waiting}
variable {m : Lanes} {id : TaskId}

/-- Make a move on the queue and the task table. -/
def move (q : ReadyQueue levels) (tasks : TaskTable) :
    QueueMove → Except Panic (ReadyQueue levels × TaskTable)
  | .push id => q.pushBack tasks id
  | .remove id => q.remove tasks id
  | .reorder id priority => q.reorder tasks id priority

/-- Make several moves, first to last. -/
def moveAll (q : ReadyQueue levels) (tasks : TaskTable) :
    List QueueMove → Except Panic (ReadyQueue levels × TaskTable)
  | [] => .ok (q, tasks)
  | move :: moves => do
    let (q, tasks) ← q.move tasks move
    q.moveAll tasks moves

/-! ## Reading -/

/-- Everything that can be read off a queue is read off the lists. -/
structure ReadsAs (q : ReadyQueue levels) (tasks : TaskTable) (w : Waiting) : Prop where
  /-- The order of all tasks is that of the lists one after another. -/
  list : q.toList tasks = .ok (w.toList levels)
  /-- The order of the tasks of a level is that of its list. -/
  level : ∀ p < levels, q.levelList tasks p = .ok (w p)
  /-- The first task is the first of all. -/
  front : q.front? = .ok (w.toList levels).head?
  /-- The most urgent level is the first one whose list is not empty. -/
  highest : q.highest? = .ok (w.highest? levels)
  /-- The queue is empty if all lists are. -/
  empty : q.isEmpty = .ok (w.toList levels).isEmpty
  /-- A running task goes on if its priority comes before the first level whose
  list is not empty, and gives way to the first task otherwise. -/
  decision : ∀ current, q.decide current =
    .ok (if current < (w.highest? levels).getD leastUrgent then .keep
      else .switchTo (w.toList levels).head?)

/-- A queue reads as the lists that it holds. -/
theorem Represents.readsAs (h : q.Represents tasks w) : q.ReadsAs tasks w where
  list := h.toList_eq
  level _ hp := h.levelList_eq hp
  front := h.front?_eq
  highest := h.highest?_eq
  empty := h.isEmpty_eq
  decision current := by rw [h.decide_eq, Waiting.decide, Waiting.head?_toList]

/-! ## Moving -/

/-- A queue and its task table go together with an array of lists: the queue holds
the lists, and the records are those of an earlier table with the priorities of
the array. -/
structure Mirrors (q : ReadyQueue levels) (tasks : TaskTable) (m : Lanes)
    (tasks₀ : TaskTable) : Prop where
  represents : q.Represents tasks m.waiting
  records : TaskTable.SameRecords (m.records tasks₀) tasks
  bounded : ∀ id : TaskId, id.index < tasks₀.size → m.priority id < levels

/-- The empty queue goes with empty lists. -/
theorem mirrors_start (hlevels : levels ≤ 4096) (hlinks : ∀ t ∈ tasks, t.link = none)
    (hpriorities : ∀ t ∈ tasks, t.priority < levels) :
    (ReadyQueue.empty hlevels).Mirrors tasks (.start tasks) tasks where
  represents := by
    refine represents_empty hlevels fun id => ?_
    cases ht : tasks[id.index]? with
    | none => rw [TaskTable.links, ht, Option.bind_none]
    | some t => rw [TaskTable.links_of_getElem? ht, hlinks t (Array.mem_of_getElem? ht)]
  records := by
    rw [Lanes.records_start]
    exact .refl tasks
  bounded id hid := by
    have ht : tasks[id.index]? = some tasks[id.index] := Array.getElem?_eq_getElem hid
    rw [Lanes.priority_start ht]
    exact hpriorities _ (Array.getElem_mem hid)

namespace Mirrors

/-- A created task has the priority that the array knows. -/
theorem exists_task (h : q.Mirrors tasks m tasks₀) (hid : id.index < tasks₀.size) :
    ∃ t, tasks[id.index]? = some t ∧ t.priority = m.priority id := by
  have ht₀ : (m.records tasks₀)[id.index]? =
      some { tasks₀[id.index] with priority := m.priority id } := by
    rw [Lanes.getElem?_records, Array.getElem?_eq_getElem hid]
    rfl
  obtain ⟨t, ht, hsame⟩ := h.records.exists_of_getElem? ht₀
  have hpriority : t.unlinked.priority = _ := congrArg Task.priority hsame
  exact ⟨t, ht, hpriority⟩

/-- A task that waits is created, and waits at the level of its priority. -/
theorem exists_waiting (h : q.Mirrors tasks m tasks₀) (hid : id ∈ m.waiting.toList levels) :
    ∃ t, tasks[id.index]? = some t ∧ t.priority = m.priority id ∧ id ∈ m.waiting t.priority := by
  obtain ⟨p, hp⟩ := h.represents.mem_toList.1 hid
  obtain ⟨t, ht, rfl⟩ := h.represents.level p id hp
  have hsize : id.index < tasks₀.size := by
    have hlt := (Array.getElem?_eq_some_iff.1 ht).1
    rwa [h.records.size, Lanes.records, Array.size_mapIdx] at hlt
  obtain ⟨t', ht', hpriority⟩ := h.exists_task hsize
  rw [ht, Option.some.injEq] at ht'
  exact ⟨t, ht, ht' ▸ hpriority, hp⟩

/-- A legal move goes well, and queue and lists go together afterwards. -/
theorem move (h : q.Mirrors tasks m tasks₀) {move : QueueMove}
    (hallowed : m.Allows levels tasks₀.size move) :
    ∃ q' tasks', q.move tasks move = .ok (q', tasks') ∧ q'.Mirrors tasks' (m.step move) tasks₀ := by
  cases move with
  | push id =>
    obtain ⟨hid, hnot⟩ := hallowed
    obtain ⟨t, ht, hpriority⟩ := h.exists_task hid
    have hlink : t.link = none := by
      cases hl : t.link with
      | none => rfl
      | some l => exact absurd (h.represents.mem_toList.2 ⟨_, h.represents.mem_of_link ht hl⟩) hnot
    obtain ⟨q', tasks', hpush, hrecords, hq'⟩ :=
      h.represents.pushBack ht hlink (hpriority ▸ h.bounded id hid)
    rw [hpriority] at hq'
    exact ⟨q', tasks', hpush, hq', h.records.trans hrecords, h.bounded⟩
  | remove id =>
    obtain ⟨t, ht, hpriority, hwaits⟩ := h.exists_waiting hallowed
    obtain ⟨q', tasks', hremove, hrecords, -, hq'⟩ := h.represents.remove ht hwaits
    rw [hpriority] at hq'
    exact ⟨q', tasks', hremove, hq', h.records.trans hrecords, h.bounded⟩
  | reorder id priority =>
    obtain ⟨hid, hlevel⟩ := hallowed
    obtain ⟨t, ht, hpriority, hwaits⟩ := h.exists_waiting hid
    obtain ⟨q', tasks', hreorder, hrecords, hq'⟩ := h.represents.reorder ht hwaits hlevel
    rw [hpriority] at hq'
    refine ⟨q', tasks', hreorder, hq', ?_, fun a ha => ?_⟩
    · rw [Lanes.step, Lanes.records_update]
      exact (h.records.update id fun t t' e =>
        congrArg (fun t => { t with priority := priority }) e).trans hrecords
    · change Function.update m.priority id priority a < levels
      by_cases hne : a = id
      · rwa [hne, Function.update_self]
      · rw [Function.update_of_ne hne]
        exact h.bounded a ha

/-- Legal moves go well, and queue and lists go together afterwards. -/
theorem moveAll (h : q.Mirrors tasks m tasks₀) {moves : List QueueMove}
    (hlegal : m.Legal levels tasks₀.size moves) :
    ∃ q' tasks', q.moveAll tasks moves = .ok (q', tasks') ∧
      q'.Mirrors tasks' (m.run moves) tasks₀ := by
  induction moves generalizing q tasks m with
  | nil => exact ⟨q, tasks, rfl, h⟩
  | cons move moves ih =>
    obtain ⟨hallowed, hlater⟩ := hlegal
    obtain ⟨q₁, tasks₁, hmove, h₁⟩ := h.move hallowed
    obtain ⟨q', tasks', hmoves, h'⟩ := ih h₁ hlater
    refine ⟨q', tasks', ?_, h'⟩
    rw [ReadyQueue.moveAll, hmove]
    exact hmoves

end Mirrors

/-- Every sequence of legal moves from the empty queue goes well.  The queue then
holds the lists after the same moves and reads as they do, and the records of
tasks are as before, except for links and for the priorities that were given. -/
theorem moveAll_refines (hlevels : levels ≤ 4096) (tasks : TaskTable)
    (hlinks : ∀ t ∈ tasks, t.link = none) (hpriorities : ∀ t ∈ tasks, t.priority < levels)
    (moves : List QueueMove) (hlegal : (Lanes.start tasks).Legal levels tasks.size moves) :
    ∃ q tasks', (ReadyQueue.empty hlevels).moveAll tasks moves = .ok (q, tasks') ∧
      q.Represents tasks' ((Lanes.start tasks).run moves).waiting ∧
      q.ReadsAs tasks' ((Lanes.start tasks).run moves).waiting ∧
      TaskTable.SameRecords (((Lanes.start tasks).run moves).records tasks) tasks' := by
  obtain ⟨q, tasks', hmoves, h⟩ := (mirrors_start hlevels hlinks hpriorities).moveAll hlegal
  exact ⟨q, tasks', hmoves, h.represents, h.represents.readsAs, h.records⟩

/-- A dormant task with a stack of no words. -/
def bareTask (priority : Nat) : Task where
  attributes := ⟨"", 0, 0, priority⟩
  stack := ⟨0, #[], rfl, by decide⟩
  savedSp := 0
  frameKind := .cooperative
  priority := priority
  state := .dormant
  link := none

/-- Three tasks join one level and another one joins a more urgent level; the middle
one of the three leaves, the first one moves to a level of its own and back, and
the one in the middle joins again. -/
theorem moveAll_refines_four :
    let tasks : TaskTable := #[bareTask 1, bareTask 1, bareTask 1, bareTask 0]
    let moves : List QueueMove := [.push ⟨0⟩, .push ⟨1⟩, .push ⟨2⟩, .push ⟨3⟩, .remove ⟨1⟩,
      .reorder ⟨0⟩ 2, .remove ⟨3⟩, .reorder ⟨0⟩ 1, .push ⟨1⟩]
    (∀ t ∈ tasks, t.link = none) ∧ (∀ t ∈ tasks, t.priority < 3) ∧
      (Lanes.start tasks).Legal 3 tasks.size moves ∧
      ∃ hlevels : 3 ≤ 4096, ∃ q tasks',
        (ReadyQueue.empty hlevels).moveAll tasks moves = .ok (q, tasks') ∧
        q.toList tasks' = .ok [⟨2⟩, ⟨0⟩, ⟨1⟩] ∧ q.front? = .ok (some ⟨2⟩) ∧
        q.highest? = .ok (some 1) ∧ q.decide 1 = .ok (.switchTo (some ⟨2⟩)) ∧
        q.decide 0 = .ok .keep := by
  refine ⟨by decide, by decide, by decide, by decide, ?_⟩
  obtain ⟨q, tasks', hmoves, -, hreads, -⟩ := moveAll_refines (show 3 ≤ 4096 by decide)
    #[bareTask 1, bareTask 1, bareTask 1, bareTask 0] (by decide) (by decide)
    [.push ⟨0⟩, .push ⟨1⟩, .push ⟨2⟩, .push ⟨3⟩, .remove ⟨1⟩, .reorder ⟨0⟩ 2, .remove ⟨3⟩,
      .reorder ⟨0⟩ 1, .push ⟨1⟩] (by decide)
  exact ⟨q, tasks', hmoves, hreads.list, hreads.front, hreads.highest, hreads.decision 1,
    hreads.decision 0⟩

end ReadyQueue

end HartKernel
