import HartKernel.Kernel.Lifecycle
import HartKernel.Kernel.Switch
import HartKernel.Proofs.Schedule.Validity

/-!
# The kernel implements a schedule

Every kernel that meets its invariant stands for a schedule, and its operations
do to the kernel what the operations on schedules do.  None of the checks that
the kernel makes on its own data fails on the way.

Main definitions:

- `Kernel.Implements` ties a kernel to the schedule that it stands for.
- `TaskTable.SameContexts` says that two tables differ in what the scheduler
  works on at most; stacks and saved contexts are the same.
- `Kernel.Realises` says that a computation goes well, ends in a kernel that
  stands for a given schedule and leaves contexts alone.

Main results:

- One lemma for each operation, such as `Kernel.Implements.activate` and
  `Kernel.Implements.handOver`: the operation on the kernel realises the
  operation on the schedule.
-/

namespace HartKernel

/-- A task record without what the scheduler works on. -/
def Task.context (t : Task) : Task := { t with priority := 0, state := .dormant, link := none }

/-- Two tables differ in what the scheduler works on at most. -/
def TaskTable.SameContexts (tasks tasks' : TaskTable) : Prop :=
  tasks'.map Task.context = tasks.map Task.context

namespace TaskTable

variable {tasks tasks' tasks'' : TaskTable}

theorem SameContexts.refl (tasks : TaskTable) : SameContexts tasks tasks := rfl

theorem SameContexts.trans (h : SameContexts tasks tasks') (h' : SameContexts tasks' tasks'') :
    SameContexts tasks tasks'' :=
  Eq.trans h' h

theorem SameRecords.sameContexts (h : SameRecords tasks tasks') : SameContexts tasks tasks' :=
  h.map_eq fun _ => rfl

/-- What a change of a record leaves alone is left alone in the whole table. -/
theorem map_update_of_eq {α : Type} (tasks : TaskTable) (id : TaskId) {f : Task → Task}
    {g : Task → α} (h : ∀ t, g (f t) = g t) : (tasks.update id f).map g = tasks.map g := by
  apply Array.ext_getElem?
  intro i
  rw [Array.getElem?_map, Array.getElem?_map, getElem?_update]
  split
  · cases tasks[i]? with
    | none => rfl
    | some t => exact congrArg some (h t)
  · rfl

theorem sameContexts_update (tasks : TaskTable) (id : TaskId) {f : Task → Task}
    (hf : ∀ t, (f t).context = t.context) : SameContexts tasks (tasks.update id f) :=
  map_update_of_eq tasks id hf

theorem map_update {α : Type} (tasks : TaskTable) (id : TaskId) {f : Task → Task} {g : Task → α}
    (g' : α → α) (h : ∀ t, g (f t) = g' (g t)) :
    (tasks.update id f).map g = (tasks.map g).modify id.index g' := by
  apply Array.ext_getElem?
  intro i
  rw [Array.getElem?_map, getElem?_update, Array.getElem?_modify, Array.getElem?_map]
  split
  · cases tasks[i]? with
    | none => rfl
    | some t => exact congrArg some (h t)
  · rfl

end TaskTable

namespace Kernel

variable {capacity levels : Nat} {k k' : Kernel capacity levels} {s s' s₁ : Schedule}
variable {id : TaskId} {t : Task} {e : Entry}

/-- A kernel stands for a schedule. -/
structure Implements (k : Kernel capacity levels) (s : Schedule) : Prop where
  entries : s.entries = k.tasks.map Task.entry
  running : s.running = k.running
  pending : s.pending = k.dispatchPending
  tick : s.tick = k.tick
  queue : k.queue.Represents k.tasks s.ready

/-- A computation goes well and ends in a kernel that stands for a schedule and
has the contexts of `k`. -/
def Realises (k : Kernel capacity levels) (x : Except Panic (Kernel capacity levels))
    (s : Schedule) : Prop :=
  ∃ k', x = .ok k' ∧ k'.Implements s ∧ TaskTable.SameContexts k.tasks k'.tasks

theorem Implements.realises (h : k.Implements s) : k.Realises (.ok k) s :=
  ⟨k, rfl, h, .refl _⟩

/-- Computations are realised one after another. -/
theorem Realises.bind {x : Except Panic (Kernel capacity levels)}
    {f : Kernel capacity levels → Except Panic (Kernel capacity levels)}
    (hx : k.Realises x s₁)
    (hf : ∀ k₁ : Kernel capacity levels, k₁.Implements s₁ → k₁.Realises (f k₁) s) :
    k.Realises (x >>= f) s := by
  obtain ⟨k₁, rfl, h₁, hcontexts₁⟩ := hx
  obtain ⟨k₂, hk₂, h₂, hcontexts₂⟩ := hf k₁ h₁
  exact ⟨k₂, hk₂, h₂, hcontexts₁.trans hcontexts₂⟩

theorem Realises.of_sameContexts {x : Except Panic (Kernel capacity levels)}
    (h : k'.Realises x s) (hcontexts : TaskTable.SameContexts k.tasks k'.tasks) :
    k.Realises x s := by
  obtain ⟨k₁, hk₁, h₁, hcontexts₁⟩ := h
  exact ⟨k₁, hk₁, h₁, hcontexts.trans hcontexts₁⟩

theorem task?_updateTask (k : Kernel capacity levels) (id : TaskId) (f : Task → Task) (j : TaskId) :
    (k.updateTask id f).task? j = if j = id then (k.task? j).map f else k.task? j := by
  rw [task?, updateTask, TaskTable.getElem?_update]
  by_cases hj : j = id
  · rw [hj, if_pos rfl, if_pos rfl]
    rfl
  · rw [if_neg fun e => hj (TaskId.index_injective e.symm), if_neg hj]
    rfl

theorem updateTask_updateTask (k : Kernel capacity levels) (id : TaskId) (f g : Task → Task) :
    (k.updateTask id f).updateTask id g = k.updateTask id fun t => g (f t) := by
  have htasks : (k.tasks.update id f).update id g = k.tasks.update id fun t => g (f t) := by
    apply Array.ext_getElem?
    intro i
    rw [TaskTable.getElem?_update, TaskTable.getElem?_update, TaskTable.getElem?_update]
    split
    · rw [Option.map_map]
      rfl
    · rfl
  rw [updateTask, updateTask, htasks, updateTask]

theorem updateTask_eq_self (ht : k.task? id = some t) {f : Task → Task} (hf : f t = t) :
    k.updateTask id f = k := by
  rw [updateTask, TaskTable.update_eq_self ht hf]

theorem sameContexts_updateTask (k : Kernel capacity levels) (id : TaskId) {f : Task → Task}
    (hf : ∀ t, (f t).context = t.context) :
    TaskTable.SameContexts k.tasks (k.updateTask id f).tasks :=
  TaskTable.sameContexts_update _ _ hf

/-- The state after an operation. -/
def after {α : Type} (x : Traced (α × Kernel capacity levels)) :
    Except Panic (Kernel capacity levels) := Prod.snd <$> x.result

@[simp] theorem after_pure {α : Type} (answer : α) (k : Kernel capacity levels) :
    after (pure (answer, k)) = .ok k := rfl

@[simp] theorem after_note {α : Type} (n : Notice)
    (f : Unit → Traced (α × Kernel capacity levels)) :
    after (Traced.note n >>= f) = after (f ()) := by
  simp [after]

@[simp] theorem after_lift {α β : Type} (x : Except Panic β)
    (f : β → Traced (α × Kernel capacity levels)) :
    after (liftM x >>= f) = x >>= fun b => after (f b) := by
  simp [after]

/-- What follows an operation does not matter if it keeps the state. -/
theorem after_bind_of {α β : Type} {x : Traced (α × Kernel capacity levels)}
    {f : α × Kernel capacity levels → Traced (β × Kernel capacity levels)}
    (hf : ∀ answer, after (f answer) = .ok answer.2) : after (x >>= f) = after x := by
  unfold after at hf ⊢
  rw [Traced.result_bind]
  cases x.result with
  | error p => rfl
  | ok answer => exact hf answer

/-! ## Reading the kernel -/

namespace Implements

theorem lookup?_eq (h : k.Implements s) (id : TaskId) :
    s.lookup? id = (k.task? id).map Task.entry := by
  rw [Schedule.lookup?, h.entries, Array.getElem?_map, task?]

theorem state?_eq (h : k.Implements s) (id : TaskId) :
    s.state? id = (k.task? id).map Task.state := by
  rw [Schedule.state?, h.lookup?_eq, Option.map_map]
  rfl

theorem lookup?_of_task? (h : k.Implements s) (ht : k.task? id = some t) :
    s.lookup? id = some t.entry := by
  rw [h.lookup?_eq, ht]
  rfl

theorem state?_of_task? (h : k.Implements s) (ht : k.task? id = some t) :
    s.state? id = some t.state := by
  rw [h.state?_eq, ht]
  rfl

theorem runningTask?_eq (h : k.Implements s) : s.runningTask? = k.runningTask? := by
  unfold Schedule.runningTask? Kernel.runningTask? IsRunning
  rw [h.running]
  refine congrArg (fun p => k.running.filter p) (funext fun id => decide_eq_decide.2 ?_)
  rw [h.state?_eq]

theorem runningPriority_eq (h : k.Implements s) : s.runningPriority = k.runningPriority := by
  unfold Schedule.runningPriority Kernel.runningPriority
  rw [h.runningTask?_eq]
  cases k.runningTask? with
  | none => rfl
  | some id =>
    rw [Option.bind_some, Option.bind_some, h.lookup?_eq, Option.map_map]
    rfl

theorem decide_eq (h : k.Implements s) : k.decide = .ok (s.decide levels) := by
  rw [Kernel.decide, h.queue.decide_eq, ← h.runningPriority_eq, Schedule.decide]

/-! ## Changing the kernel -/

/-- A change of a task record that keeps the place of the task in the queue. -/
theorem updateTask (h : k.Implements s) (id : TaskId) {f : Task → Task} {g : Entry → Entry}
    (hentry : ∀ t, (f t).entry = g t.entry) (hlink : ∀ t, (f t).link = t.link)
    (hlevel : ∀ t p, k.task? id = some t → id ∈ s.ready p → (f t).priority = t.priority) :
    (k.updateTask id f).Implements (s.update id g) where
  entries := by
    rw [Kernel.updateTask, TaskTable.map_update _ _ g hentry, ← h.entries, Schedule.update]
  running := h.running
  pending := h.pending
  tick := h.tick
  queue := by
    refine h.queue.congr_tasks (fun a => ?_) (fun p a ha => ?_)
    · simp only [Kernel.updateTask, TaskTable.links, TaskTable.getElem?_update]
      split
      · cases k.tasks[a.index]? with
        | none => rfl
        | some t => exact hlink t
      · rfl
    · obtain ⟨t, ht, hpriority⟩ := h.queue.level p a ha
      simp only [Kernel.updateTask, TaskTable.getElem?_update]
      split
      · rename_i heq
        have haid : id = a := TaskId.index_injective heq
        subst haid
        rw [ht]
        exact ⟨f t, rfl, (hlevel t p ht ha).trans hpriority⟩
      · exact ⟨t, ht, hpriority⟩

/-- A queue operation ends in a kernel for other lists. -/
theorem withQueue (h : k.Implements s)
    {f : ReadyQueue levels → TaskTable → Except Panic (ReadyQueue levels × TaskTable)}
    {queue : ReadyQueue levels} {tasks : TaskTable} (hf : f k.queue k.tasks = .ok (queue, tasks))
    (hrecords : TaskTable.SameRecords k.tasks tasks) {w : Waiting}
    (hqueue : queue.Represents tasks w) : k.Realises (k.withQueue f) (s.withReady w) := by
  refine ⟨{ k with queue := queue, tasks := tasks }, ?_, ?_, hrecords.sameContexts⟩
  · rw [Kernel.withQueue, hf]
    rfl
  · exact ⟨h.entries.trans (hrecords.map_eq fun _ => rfl).symm, h.running, h.pending, h.tick,
      hqueue⟩

theorem requestDispatch (h : k.Implements s) : k.requestDispatch.Implements s.requestDispatch :=
  ⟨h.entries, h.running, rfl, h.tick, h.queue⟩

theorem takeDispatch (h : k.Implements s) : k.takeDispatch.2.Implements s.takeDispatch :=
  ⟨h.entries, h.running, rfl, h.tick, h.queue⟩

theorem advanceTick (h : k.Implements s) : k.advanceTick.Implements s.advanceTick :=
  ⟨h.entries, h.running, h.pending, congrArg (· + 1) h.tick, h.queue⟩

theorem checkPreemption (h : k.Implements s) :
    k.Realises k.checkPreemption (s.checkPreemption levels) := by
  unfold Kernel.checkPreemption Schedule.checkPreemption
  rw [h.queue.highest?_eq, ok_bind, h.runningPriority_eq]
  cases s.ready.highest? levels with
  | none => exact h.realises
  | some p =>
    by_cases hp : p < k.runningPriority
    · simp only [if_pos hp]
      exact ⟨_, rfl, h.requestDispatch, .refl _⟩
    · simp only [if_neg hp]
      exact h.realises

theorem makeReady (h : k.Implements s) (hv : s.Valid levels) (ht : k.task? id = some t)
    (hstate : t.state ≠ .ready) : k.Realises (k.makeReady id) (s.makeReady id) := by
  have he := h.lookup?_of_task? ht
  have hnot : ∀ p, id ∉ s.ready p := by
    refine hv.not_mem_of_state ?_
    rw [h.state?_of_task? ht]
    simpa using hstate
  have hready := h.updateTask id (f := fun t => { t with state := .ready })
    (g := fun e => { e with state := .ready }) (fun _ => rfl) (fun _ => rfl) (fun _ _ _ _ => rfl)
  have ht' : (k.updateTask id fun t => { t with state := .ready }).task? id =
      some { t with state := .ready } := by
    rw [task?_updateTask, if_pos rfl, ht]
    rfl
  have hlink : t.link = none := by
    cases hl : t.link with
    | none => rfl
    | some l => exact absurd (h.queue.mem_of_link ht hl) (hnot _)
  obtain ⟨queue, tasks, hpush, hrecords, hqueue⟩ :=
    hready.queue.pushBack ht' hlink (hv.bounded id _ he).1
  rw [Schedule.makeReady, he]
  exact (hready.withQueue (f := fun q tasks => q.pushBack tasks id) hpush hrecords
    hqueue).of_sameContexts (k.sameContexts_updateTask id fun _ => rfl)

theorem dequeue (h : k.Implements s) (hv : s.Valid levels) (ht : k.task? id = some t)
    (hstate : t.state = .ready) : k.Realises (k.dequeue id) (s.dequeue id) := by
  have he := h.lookup?_of_task? ht
  have hmem : id ∈ s.ready t.priority := (hv.mem_ready he).2 ⟨hstate, rfl⟩
  obtain ⟨queue, tasks, hremove, hrecords, -, hqueue⟩ := h.queue.remove ht hmem
  rw [Schedule.dequeue, he]
  exact h.withQueue (f := fun q tasks => q.remove tasks id) hremove hrecords hqueue

theorem reprioritise (h : k.Implements s) (hv : s.Valid levels) (ht : k.task? id = some t)
    {priority : Nat} (hp : priority < levels) :
    k.Realises (k.reprioritise id t priority) (s.reprioritise id priority) := by
  have he := h.lookup?_of_task? ht
  have hstate := h.state?_of_task? ht
  unfold Kernel.reprioritise Schedule.reprioritise
  by_cases hready : t.state = .ready
  · rw [if_pos hready, if_pos (by rw [hstate, hready])]
    have hmem : id ∈ s.ready t.priority := (hv.mem_ready he).2 ⟨hready, rfl⟩
    obtain ⟨queue, tasks, hreorder, hrecords, hqueue⟩ := h.queue.reorder ht hmem hp
    have hdrop : (s.dequeue id).ready = s.ready.drop t.priority id := by
      rw [Schedule.dequeue, he]
      rfl
    rw [hdrop]
    have hcontexts := k.sameContexts_updateTask id (f := fun t => { t with priority := priority })
      fun _ => rfl
    refine ⟨{ k with queue := queue, tasks := tasks }, ?_, ?_,
      hcontexts.trans hrecords.sameContexts⟩
    · rw [Kernel.withQueue, hreorder]
      rfl
    · have hentries := TaskTable.map_update k.tasks id
        (f := fun t => { t with priority := priority }) (g := Task.entry)
        (fun e => { e with priority := priority }) fun _ => rfl
      rw [← hrecords.map_eq fun _ => rfl, ← h.entries] at hentries
      exact ⟨hentries.symm, h.running, h.pending, h.tick, hqueue⟩
  · rw [if_neg hready, if_neg (by rw [hstate]; simpa using hready)]
    refine ⟨_, rfl, h.updateTask id (fun _ => rfl) (fun _ => rfl) (fun t' p ht' hmem => ?_),
      k.sameContexts_updateTask id fun _ => rfl⟩
    exact absurd ((hv.mem_ready he).1 hmem).1 hready

/-- Taking a task off the processor or out of the queue. -/
theorem withdraw (h : k.Implements s) (hv : s.Valid levels) (ht : k.task? id = some t) :
    k.Realises (k.withdraw id t) (s.withdraw id) := by
  have he := h.lookup?_of_task? ht
  unfold Kernel.withdraw Schedule.withdraw
  rw [h.state?_of_task? ht]
  cases hstate : t.state with
  | running =>
    have hrunning : k.running = some id := by
      rw [← h.running]
      exact hv.holder_of_lookup? he hstate
    simp only [Panic.require_of hrunning]
    exact ⟨_, rfl, h.requestDispatch, .refl _⟩
  | ready => exact h.dequeue hv ht hstate
  | dormant => exact h.realises
  | blocked => exact h.realises
  | suspended => exact h.realises

/-- Taking a task off the processor or out of the queue and giving it another
state. -/
theorem hold (h : k.Implements s) (hv : s.Valid levels) (ht : k.task? id = some t)
    (state : TaskState) :
    k.Realises (k.withdraw id t >>= fun k =>
      .ok (k.updateTask id fun t => { t with state := state }))
      ((s.withdraw id).setState id state) := by
  obtain ⟨k₁, hk₁, h₁, hcontexts⟩ := h.withdraw hv ht
  rw [hk₁]
  exact ⟨_, rfl, h₁.updateTask id (fun _ => rfl) (fun _ => rfl) (fun _ _ _ _ => rfl),
    hcontexts.trans (k₁.sameContexts_updateTask id fun _ => rfl)⟩

/-- Making a task Ready and looking whether it is the better choice. -/
theorem wake (h : k.Implements s) (hv : s.Valid levels) (ht : k.task? id = some t)
    (hstate : t.state ≠ .ready) :
    k.Realises (k.makeReady id >>= fun k => k.checkPreemption >>= fun k => .ok k)
      ((s.makeReady id).checkPreemption levels) :=
  (h.makeReady hv ht hstate).bind fun _ h₁ =>
    h₁.checkPreemption.bind fun _ h₂ => h₂.realises

/-! ## Operations on tasks -/

theorem activate (h : k.Implements s) (hv : s.Valid levels) (id : TaskId) :
    k.Realises (after (k.activate id)) (s.activate levels id) := by
  unfold Kernel.activate Schedule.activate
  rw [h.state?_eq]
  cases ht : k.task? id with
  | none => exact h.realises
  | some t =>
    by_cases hstate : t.state = .dormant
    · simp only [hstate, ne_eq, not_true_eq_false, if_false, after_note, after_lift, after_pure,
        Option.map_some, if_true]
      have hid : s.state? id = some .dormant := by rw [h.state?_of_task? ht, hstate]
      have hnot : ∀ p, id ∉ s.ready p := hv.not_mem_of_state (by simp [hid])
      have hchanged := h.updateTask id
        (f := fun t => { t with priority := t.attributes.priority })
        (g := fun e => { e with priority := e.initial }) (fun _ => rfl) (fun _ => rfl)
        (fun _ p _ hmem => absurd hmem (hnot p))
      have ht' : (k.updateTask id fun t => { t with priority := t.attributes.priority }).task? id =
          some { t with priority := t.attributes.priority } := by
        rw [task?_updateTask, if_pos rfl, ht]
        rfl
      have hready : t.state ≠ .ready := by
        rw [hstate]
        exact TaskState.noConfusion
      exact (hchanged.wake (hv.restart hid) ht' hready).of_sameContexts
        (k.sameContexts_updateTask id fun _ => rfl)
    · simpa [hstate] using h.realises

theorem markReady (h : k.Implements s) (hv : s.Valid levels) (id : TaskId) :
    k.Realises (after (k.markReady id)) (s.markReady levels id) := by
  unfold Kernel.markReady Schedule.markReady
  rw [h.state?_eq]
  cases ht : k.task? id with
  | none => exact h.realises
  | some t =>
    by_cases hstate : t.state = .blocked ∨ t.state = .suspended
    · have hready : t.state ≠ .ready := by
        intro e
        simp [e] at hstate
      have hguard : ¬(t.state ≠ .blocked ∧ t.state ≠ .suspended) := by tauto
      simpa [hstate, hguard, -bind_pure_comp] using h.wake hv ht hready
    · have hguard : t.state ≠ .blocked ∧ t.state ≠ .suspended := not_or.1 hstate
      simpa [hguard] using h.realises

theorem resume (h : k.Implements s) (hv : s.Valid levels) (id : TaskId) :
    k.Realises (after (k.resume id)) (s.resume levels id) := by
  unfold Kernel.resume Schedule.resume
  rw [h.state?_eq]
  cases ht : k.task? id with
  | none => exact h.realises
  | some t =>
    by_cases hstate : t.state = .suspended
    · have hready : t.state ≠ .ready := by
        rw [hstate]
        exact TaskState.noConfusion
      simpa [hstate, -bind_pure_comp] using h.wake hv ht hready
    · simpa [hstate] using h.realises

theorem markBlocked (h : k.Implements s) (hv : s.Valid levels) (id : TaskId) :
    k.Realises (after (k.markBlocked id)) (s.markBlocked id) := by
  unfold Kernel.markBlocked Schedule.markBlocked
  rw [h.state?_eq]
  cases ht : k.task? id with
  | none => exact h.realises
  | some t =>
    by_cases hstate : t.state = .running ∨ t.state = .ready
    · have hguard : ¬(t.state ≠ .running ∧ t.state ≠ .ready) := by tauto
      simpa [hstate, hguard, -bind_pure_comp] using h.hold hv ht .blocked
    · have hguard : t.state ≠ .running ∧ t.state ≠ .ready := not_or.1 hstate
      simpa [hguard] using h.realises

theorem suspend (h : k.Implements s) (hv : s.Valid levels) (id : TaskId) :
    k.Realises (after (k.suspend id)) (s.suspend id) := by
  unfold Kernel.suspend Schedule.suspend
  rw [h.state?_eq]
  cases ht : k.task? id with
  | none => exact h.realises
  | some t =>
    have hcases : (t.state = .running ∨ t.state = .ready ∨ t.state = .blocked) ↔
        ¬(t.state = .dormant ∨ t.state = .suspended) := by
      cases t.state <;> simp
    by_cases hstate : t.state = .dormant ∨ t.state = .suspended
    · simpa [hcases, hstate] using h.realises
    · simpa [hcases, hstate, -bind_pure_comp] using h.hold hv ht .suspended

theorem setPriority (h : k.Implements s) (hv : s.Valid levels) (id : TaskId) (priority : Nat) :
    k.Realises (after (k.setPriority id priority)) (s.setPriority levels id priority) := by
  unfold Kernel.setPriority Schedule.setPriority
  rw [h.state?_eq]
  cases ht : k.task? id with
  | none => exact h.realises
  | some t =>
    by_cases hp : levels ≤ priority
    · cases hstate : t.state <;> simpa [hp, hstate] using h.realises
    · have hchanged : k.Realises (k.reprioritise id t priority >>= fun k =>
          k.checkPreemption >>= fun k => .ok k)
          ((s.reprioritise id priority).checkPreemption levels) :=
        (h.reprioritise hv ht (not_le.1 hp)).bind fun _ h₁ =>
          h₁.checkPreemption.bind fun _ h₂ => h₂.realises
      cases hstate : t.state with
      | dormant => simpa [hp, hstate] using h.realises
      | ready => simpa [hp, hstate, -bind_pure_comp] using hchanged
      | running => simpa [hp, hstate, -bind_pure_comp] using hchanged
      | blocked => simpa [hp, hstate, -bind_pure_comp] using hchanged
      | suspended => simpa [hp, hstate, -bind_pure_comp] using hchanged

/-! ## Handing over the processor -/

theorem releaseCurrent (h : k.Implements s) (hv : s.Valid levels) (target : Option TaskId) :
    k.Realises (k.releaseCurrent target) (s.releaseCurrent target) := by
  unfold Kernel.releaseCurrent Schedule.releaseCurrent
  rw [h.running]
  cases hrun : k.running with
  | none => exact h.realises
  | some id =>
    by_cases htarget : some id = target
    · simp only [if_pos htarget]
      exact h.realises
    · simp only [if_neg htarget]
      obtain ⟨e, he, hdormant⟩ := hv.current id (h.running.trans hrun)
      rw [h.lookup?_eq, Option.map_eq_some_iff] at he
      obtain ⟨t, ht, rfl⟩ := he
      have hstate := h.state?_of_task? ht
      unfold Kernel.release
      rw [TaskTable.fetch_eq_ok ht, ok_bind, hstate]
      cases hcase : t.state with
      | dormant => exact absurd hcase hdormant
      | running =>
        rw [if_pos rfl]
        refine h.makeReady hv ht ?_
        rw [hcase]
        exact TaskState.noConfusion
      | ready => exact h.realises
      | blocked => exact h.realises
      | suspended => exact h.realises

theorem engage (h : k.Implements s) (hv : s.Valid levels) (hid : s.state? id = some .ready) :
    k.Realises (k.engage id >>= fun k => .ok { k with running := some id }) (s.engage id) := by
  rw [h.state?_eq, Option.map_eq_some_iff] at hid
  obtain ⟨t, ht, hstate⟩ := hid
  obtain ⟨k₁, hk₁, h₁, hcontexts⟩ := h.dequeue hv ht hstate
  have hrunning := h₁.updateTask id (f := fun t => { t with state := .running })
    (g := fun e => { e with state := .running }) (fun _ => rfl) (fun _ => rfl)
    (fun _ _ _ _ => rfl)
  have hcontexts₁ := k₁.sameContexts_updateTask id (f := fun t => { t with state := .running })
    fun _ => rfl
  unfold Kernel.engage
  rw [hk₁, ok_bind]
  exact ⟨_, rfl, ⟨hrunning.entries, rfl, hrunning.pending, hrunning.tick, hrunning.queue⟩,
    hcontexts.trans hcontexts₁⟩

/-- The processor goes to a Ready task, or idles. -/
theorem handOver (h : k.Implements s) (hv : s.Valid levels) {target : Option TaskId}
    (htarget : ∀ id, target = some id → s.state? id = some .ready) :
    k.Realises (k.handOver target) (s.handOver target) := by
  unfold Kernel.handOver
  cases target with
  | none =>
    refine (h.releaseCurrent hv none).bind fun k₁ h₁ => ?_
    exact ⟨_, rfl, ⟨h₁.entries, rfl, h₁.pending, h₁.tick, h₁.queue⟩, .refl _⟩
  | some id =>
    refine (h.releaseCurrent hv (some id)).bind fun k₁ h₁ => ?_
    refine h₁.engage (hv.releaseCurrent (some id)) ?_
    rw [Schedule.state?, Schedule.lookup?_releaseCurrent]
    exact htarget id rfl

end Implements

end Kernel

end HartKernel
