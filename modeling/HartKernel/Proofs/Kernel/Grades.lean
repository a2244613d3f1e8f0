import HartKernel.Proofs.Kernel.Invariant

/-!
# Grades

The grade of a task is the priority that it is activated with.  It is read when the
task is activated and at no other time.  So a change of all grades goes through every
call as long as it leaves alone the grade that the call reads or gives.

Main definitions:

- `Task.regrade`, `TaskTable.regrade` and `Kernel.regrade` change all grades.
- `KernelCall.FixedBy` says that a change leaves alone what a call has to do with
  grades.

Main results:

- One lemma for each operation, such as `ReadyQueue.pushBack_regrade`: what the
  operation does after the change is what it does before, changed.
- `Kernel.invoke_regrade`: the same for every call.
-/

namespace HartKernel

/-- Change the grade of a task. -/
def Task.regrade (h : Nat → Nat) (t : Task) : Task :=
  { t with attributes := { t.attributes with priority := h t.attributes.priority } }

@[simp] theorem Task.state_regrade (h : Nat → Nat) (t : Task) : (t.regrade h).state = t.state := rfl

/-- Change the grades of all tasks. -/
def TaskTable.regrade (h : Nat → Nat) (tasks : TaskTable) : TaskTable := tasks.map (Task.regrade h)

namespace TaskTable

variable {h : Nat → Nat} {tasks : TaskTable}

theorem getElem?_regrade (i : Nat) :
    (tasks.regrade h)[i]? = tasks[i]?.map (Task.regrade h) :=
  Array.getElem?_map

theorem size_regrade : (tasks.regrade h).size = tasks.size := Array.size_map

theorem fetch_regrade (id : TaskId) :
    (tasks.regrade h).fetch id = Task.regrade h <$> tasks.fetch id := by
  unfold fetch
  rw [getElem?_regrade]
  cases tasks[id.index]? <;> rfl

theorem link_regrade (id : TaskId) : (tasks.regrade h).link id = tasks.link id := by
  unfold link
  rw [fetch_regrade, bind_map_left]
  rfl

/-- A change of one record that does not concern its grade. -/
theorem update_regrade (id : TaskId) {f : Task → Task}
    (hf : ∀ t, tasks[id.index]? = some t → f (t.regrade h) = (f t).regrade h) :
    (tasks.regrade h).update id f = (tasks.update id f).regrade h := by
  apply Array.ext_getElem?
  intro i
  rw [getElem?_update, getElem?_regrade, getElem?_regrade, getElem?_update]
  split
  · rename_i hi
    cases ht : tasks[i]? with
    | none => rfl
    | some t => exact congrArg some (hf t (hi ▸ ht))
  · rfl

theorem update_link_regrade (id : TaskId) (l : Option Link) :
    (tasks.regrade h).update id (fun t => { t with link := l }) =
      (tasks.update id fun t => { t with link := l }).regrade h :=
  update_regrade id fun _ _ => rfl

theorem update_priority_regrade (id : TaskId) (priority : Nat) :
    (tasks.regrade h).update id (fun t => { t with priority := priority }) =
      (tasks.update id fun t => { t with priority := priority }).regrade h :=
  update_regrade id fun _ _ => rfl

theorem relink_regrade (id : TaskId) (f : Link → Link) :
    (tasks.regrade h).relink id f = regrade h <$> tasks.relink id f := by
  unfold relink
  rw [link_regrade, map_bind]
  exact bind_congr fun l => congrArg Except.ok (update_regrade id fun _ _ => rfl)

end TaskTable

/-! ## The ready queue -/

namespace ReadyQueue

variable {levels : Nat} {h : Nat → Nat}

/-- Change the grades of the tasks beside a queue. -/
def regradeBeside (h : Nat → Nat) (x : ReadyQueue levels × TaskTable) :
    ReadyQueue levels × TaskTable := (x.1, x.2.regrade h)

theorem pushBack_regrade (q : ReadyQueue levels) (tasks : TaskTable) (id : TaskId) :
    q.pushBack (tasks.regrade h) id = regradeBeside h <$> q.pushBack tasks id := by
  unfold pushBack
  simp only [TaskTable.fetch_regrade, bind_map_left, map_bind]
  refine bind_congr fun t => bind_congr fun _ => ?_
  dsimp +instances only [Task.regrade]
  by_cases hp : t.priority < levels
  · rw [dif_pos hp, dif_pos hp]
    cases q.heads[t.priority] with
    | none =>
      simp only [TaskTable.update_link_regrade]
      rfl
    | some first =>
      simp only [TaskTable.link_regrade, TaskTable.update_link_regrade, TaskTable.relink_regrade,
        bind_map_left, map_bind]
      rfl
  · rw [dif_neg hp, dif_neg hp]
    rfl

theorem remove_regrade (q : ReadyQueue levels) (tasks : TaskTable) (id : TaskId) :
    q.remove (tasks.regrade h) id = regradeBeside h <$> q.remove tasks id := by
  unfold remove
  simp only [TaskTable.fetch_regrade, TaskTable.link_regrade, TaskTable.update_link_regrade,
    TaskTable.relink_regrade, bind_map_left, map_bind]
  refine bind_congr fun t => bind_congr fun l => ?_
  dsimp +instances only [Task.regrade]
  by_cases hp : t.priority < levels
  · simp only [dif_pos hp]
    split
    · rw [map_bind]
      rfl
    · simp only [map_bind]
      refine bind_congr fun _ => bind_congr fun _ => ?_
      split <;> rfl
  · simp only [dif_neg hp]
    split
    · rfl
    · simp only [map_bind]
      rfl

theorem reorder_regrade (q : ReadyQueue levels) (tasks : TaskTable) (id : TaskId)
    (priority : Nat) :
    q.reorder (tasks.regrade h) id priority = regradeBeside h <$> q.reorder tasks id priority := by
  unfold reorder
  rw [remove_regrade, bind_map_left, map_bind]
  refine bind_congr fun x => ?_
  rw [← pushBack_regrade, ← TaskTable.update_priority_regrade]
  rfl

end ReadyQueue

/-! ## The kernel -/

namespace Kernel

variable {capacity levels : Nat} {h : Nat → Nat} {k : Kernel capacity levels}

/-- Change the grades of all tasks. -/
def regrade (h : Nat → Nat) (k : Kernel capacity levels) : Kernel capacity levels :=
  { k with tasks := k.tasks.regrade h }

theorem task?_regrade (id : TaskId) : (k.regrade h).task? id = (k.task? id).map (Task.regrade h) :=
  TaskTable.getElem?_regrade _

theorem updateTask_regrade (id : TaskId) {f : Task → Task}
    (hf : ∀ t, k.task? id = some t → f (t.regrade h) = (f t).regrade h) :
    (k.regrade h).updateTask id f = (k.updateTask id f).regrade h := by
  simp only [updateTask, regrade, TaskTable.update_regrade id hf]

theorem setState_regrade (id : TaskId) (state : TaskState) :
    (k.regrade h).updateTask id (fun t => { t with state := state }) =
      (k.updateTask id fun t => { t with state := state }).regrade h :=
  updateTask_regrade id fun _ _ => rfl

theorem setStack_regrade (id : TaskId) (stack : StackRegion) :
    (k.regrade h).updateTask id (fun t => { t with stack := stack }) =
      (k.updateTask id fun t => { t with stack := stack }).regrade h :=
  updateTask_regrade id fun _ _ => rfl

theorem setFrame_regrade (id : TaskId) (sp : Word) (kind : FrameKind) :
    (k.regrade h).updateTask id (fun t => { t with savedSp := sp, frameKind := kind }) =
      (k.updateTask id fun t => { t with savedSp := sp, frameKind := kind }).regrade h :=
  updateTask_regrade id fun _ _ => rfl

theorem addTask_regrade {t : Task} (hfix : h t.attributes.priority = t.attributes.priority) :
    (k.regrade h).addTask t = (k.addTask t).regrade h := by
  have ht : t.regrade h = t := by
    rw [Task.regrade, hfix]
  have hpush : (k.tasks.push t).map (Task.regrade h) = (k.tasks.regrade h).push t := by
    rw [Array.map_push, ht]
    rfl
  exact congrArg (fun tasks => { k with tasks := tasks }) hpush.symm

theorem runningTask?_regrade : (k.regrade h).runningTask? = k.runningTask? := by
  unfold runningTask?
  refine congrArg k.running.filter (funext fun id => ?_)
  simp only [IsRunning, task?_regrade, Option.map_map]
  rfl

theorem runningPriority_regrade : (k.regrade h).runningPriority = k.runningPriority := by
  unfold runningPriority
  rw [runningTask?_regrade]
  cases k.runningTask? with
  | none => rfl
  | some id =>
    rw [Option.bind_some, Option.bind_some, task?_regrade, Option.map_map]
    rfl

theorem withQueue_regrade
    {f : ReadyQueue levels → TaskTable → Except Panic (ReadyQueue levels × TaskTable)}
    (hf : ∀ q tasks, f q (tasks.regrade h) = ReadyQueue.regradeBeside h <$> f q tasks) :
    (k.regrade h).withQueue f = regrade h <$> k.withQueue f := by
  unfold withQueue
  simp only [regrade, hf, bind_map_left, map_bind]
  rfl

theorem checkPreemption_regrade :
    (k.regrade h).checkPreemption = regrade h <$> k.checkPreemption := by
  unfold checkPreemption
  rw [runningPriority_regrade, map_bind]
  refine bind_congr fun highest => ?_
  cases highest with
  | none => rfl
  | some p =>
    dsimp only
    split <;> rfl

theorem makeReady_regrade (id : TaskId) :
    (k.regrade h).makeReady id = regrade h <$> k.makeReady id := by
  unfold makeReady
  rw [updateTask_regrade]
  · exact withQueue_regrade fun q tasks => q.pushBack_regrade tasks id
  · exact fun _ _ => rfl

theorem dequeue_regrade (id : TaskId) : (k.regrade h).dequeue id = regrade h <$> k.dequeue id :=
  withQueue_regrade fun q tasks => q.remove_regrade tasks id

theorem reprioritise_regrade (id : TaskId) (t : Task) (priority : Nat) :
    (k.regrade h).reprioritise id (t.regrade h) priority =
      regrade h <$> k.reprioritise id t priority := by
  unfold reprioritise
  rw [Task.state_regrade]
  split
  · exact withQueue_regrade fun q tasks => q.reorder_regrade tasks id priority
  · rw [updateTask_regrade]
    · rfl
    · exact fun _ _ => rfl

theorem withdraw_regrade (id : TaskId) (t : Task) :
    (k.regrade h).withdraw id (t.regrade h) = regrade h <$> k.withdraw id t := by
  unfold withdraw
  rw [Task.state_regrade]
  cases t.state with
  | running =>
    rw [map_bind]
    rfl
  | ready => exact dequeue_regrade id
  | _ => rfl

/-! ## The life of a task -/

/-- Change the grades of all tasks after an operation. -/
def regradeAfter {α : Type} (h : Nat → Nat) (x : α × Kernel capacity levels) :
    α × Kernel capacity levels := (x.1, x.2.regrade h)

/-- How every operation ends that makes a task Ready. -/
theorem wake_regrade {ε : Type} (id : TaskId) (report : Traced Unit) :
    (do
      report
      let k ← (k.regrade h).makeReady id
      let k ← k.checkPreemption
      return (.ok (), k) : Traced (Except ε Unit × Kernel capacity levels)) =
    regradeAfter h <$> (do
      report
      let k ← k.makeReady id
      let k ← k.checkPreemption
      return (.ok (), k)) := by
  simp only [makeReady_regrade, checkPreemption_regrade, Traced.lift_map, bind_map_left, map_bind]
  rfl

/-- How every operation ends that stops a task. -/
theorem hold_regrade {ε : Type} (id : TaskId) (t : Task) (report : Traced Unit)
    (state : TaskState) :
    (do
      let k ← (k.regrade h).withdraw id (t.regrade h)
      report
      return (.ok (), k.updateTask id fun t => { t with state := state }) :
        Traced (Except ε Unit × Kernel capacity levels)) =
    regradeAfter h <$> (do
      let k ← k.withdraw id t
      report
      return (.ok (), k.updateTask id fun t => { t with state := state })) := by
  simp only [withdraw_regrade, setState_regrade, Traced.lift_map, bind_map_left, map_bind]
  rfl

theorem markReady_regrade (id : TaskId) :
    (k.regrade h).markReady id = regradeAfter h <$> k.markReady id := by
  unfold markReady
  rw [task?_regrade]
  cases k.task? id with
  | none => rfl
  | some t =>
    dsimp +instances only [Option.map_some, Task.state_regrade]
    split
    · rfl
    · exact wake_regrade id _

theorem resume_regrade (id : TaskId) :
    (k.regrade h).resume id = regradeAfter h <$> k.resume id := by
  unfold resume
  rw [task?_regrade]
  cases k.task? id with
  | none => rfl
  | some t =>
    dsimp +instances only [Option.map_some, Task.state_regrade]
    split
    · rfl
    · exact wake_regrade id _

theorem markBlocked_regrade (id : TaskId) :
    (k.regrade h).markBlocked id = regradeAfter h <$> k.markBlocked id := by
  unfold markBlocked
  rw [task?_regrade]
  cases k.task? id with
  | none => rfl
  | some t =>
    dsimp +instances only [Option.map_some, Task.state_regrade]
    split
    · rfl
    · exact hold_regrade id t _ _

theorem suspend_regrade (id : TaskId) :
    (k.regrade h).suspend id = regradeAfter h <$> k.suspend id := by
  unfold suspend
  rw [task?_regrade]
  cases k.task? id with
  | none => rfl
  | some t =>
    dsimp +instances only [Option.map_some, Task.state_regrade]
    split
    · rfl
    · exact hold_regrade id t _ _

theorem setPriority_regrade (id : TaskId) (priority : Nat) :
    (k.regrade h).setPriority id priority = regradeAfter h <$> k.setPriority id priority := by
  unfold setPriority
  rw [task?_regrade]
  cases k.task? id with
  | none => rfl
  | some t =>
    dsimp +instances only [Option.map_some, Task.state_regrade]
    split
    · rfl
    · split
      · rfl
      · simp only [reprioritise_regrade, checkPreemption_regrade, Traced.lift_map, bind_map_left,
          map_bind]
        rfl

/-- Activating a task reads its grade. -/
theorem activate_regrade {id : TaskId} (hfix : ∀ t, k.task? id = some t → t.state = .dormant →
    h t.attributes.priority = t.attributes.priority) :
    (k.regrade h).activate id = regradeAfter h <$> k.activate id := by
  unfold activate
  rw [task?_regrade]
  cases ht : k.task? id with
  | none => rfl
  | some t =>
    dsimp +instances only [Option.map_some, Task.state_regrade]
    split
    · rfl
    · rename_i hstate
      have hrestart : (k.regrade h).updateTask id
          (fun t => { t with priority := t.attributes.priority }) =
          (k.updateTask id fun t => { t with priority := t.attributes.priority }).regrade h :=
        updateTask_regrade id fun u hu => by
          cases ht.symm.trans hu
          simp only [Task.regrade, hfix t ht (not_not.1 hstate)]
      simp only [hrestart]
      exact wake_regrade id _

/-- Creating a task gives it a grade. -/
theorem create_regrade (cfg : Config) {a : TaskAttributes} (stack : StackRegion)
    (hfix : a.priority < levels → h a.priority = a.priority) :
    (k.regrade h).create cfg a stack = regradeAfter h <$> k.create cfg a stack := by
  unfold create
  split
  · rfl
  · rename_i hp
    have hsize : (k.regrade h).tasks.size = k.tasks.size := TaskTable.size_regrade
    rw [hsize]
    split
    · rfl
    · rw [map_bind]
      refine bind_congr fun x => ?_
      rcases x with ⟨saved, stack⟩
      cases saved with
      | error e => cases e <;> rfl
      | ok sp =>
        dsimp only
        rw [map_bind]
        refine bind_congr fun _ => congrArg (fun k => pure (_, k)) ?_
        have hgrade : h a.priority = a.priority := hfix (not_le.1 hp)
        exact addTask_regrade (t := newTask a stack sp) hgrade

/-! ## Services -/

theorem perform_regrade (caller : Option TaskId) (service : Service) (argument : Word) :
    (k.regrade h).perform caller service argument =
      regradeAfter h <$> k.perform caller service argument := by
  unfold perform
  split
  · rfl
  · rw [markBlocked_regrade, Functor.map_map, Functor.map_map]
    rfl
  · split
    · rfl
    · rw [markReady_regrade, Functor.map_map, Functor.map_map]
      rfl
  · rw [suspend_regrade, Functor.map_map, Functor.map_map]
    rfl
  · rfl
  · rfl

theorem serve_regrade (caller : Option TaskId) (number argument : Word) :
    (k.regrade h).serve caller number argument =
      regradeAfter h <$> k.serve caller number argument := by
  unfold serve
  split
  · rfl
  · simp only [perform_regrade, bind_map_left, map_bind]
    refine bind_congr fun _ => bind_congr fun x => ?_
    change (if x.1.isErr = true then _ else _) = _
    split <;> rfl

/-! ## Contexts -/

theorem saveContext_regrade (ls : FrameLayouts) (r : RegisterFile) (id : TaskId)
    (kind : FrameKind) :
    (k.regrade h).saveContext ls r id kind = regradeAfter h <$> k.saveContext ls r id kind := by
  unfold saveContext
  rw [task?_regrade]
  cases k.task? id with
  | none => rfl
  | some t =>
    rw [Option.map_some, map_bind]
    refine bind_congr fun x => ?_
    rcases x with ⟨saved, stack⟩
    cases saved with
    | error e => exact congrArg (fun k => pure (_, k)) (setStack_regrade id stack)
    | ok sp => exact congrArg (fun k => pure (_, k)) (updateTask_regrade id fun _ _ => rfl)

theorem restoreContext_regrade (ls : FrameLayouts) (r : RegisterFile) (id : TaskId) :
    (k.regrade h).restoreContext ls r id = k.restoreContext ls r id := by
  unfold restoreContext
  rw [task?_regrade]
  cases k.task? id <;> rfl

theorem checkTarget_regrade (id : TaskId) :
    (k.regrade h).checkTarget id = k.checkTarget id := by
  unfold checkTarget
  rw [task?_regrade]
  cases k.task? id <;> rfl

theorem loadTarget_regrade (ls : FrameLayouts) (r : RegisterFile) (target : Option TaskId) :
    (k.regrade h).loadTarget ls r target = k.loadTarget ls r target := by
  unfold loadTarget
  simp only [checkTarget_regrade, restoreContext_regrade]

theorem releaseCurrent_regrade (target : Option TaskId) :
    (k.regrade h).releaseCurrent target = regrade h <$> k.releaseCurrent target := by
  have hrunning : (k.regrade h).running = k.running := rfl
  unfold releaseCurrent
  rw [hrunning]
  cases k.running with
  | none => rfl
  | some id =>
    dsimp only
    split
    · rfl
    · unfold release
      have hfetch : (k.regrade h).tasks.fetch id = Task.regrade h <$> k.tasks.fetch id :=
        TaskTable.fetch_regrade id
      rw [hfetch, bind_map_left, map_bind]
      refine bind_congr fun t => ?_
      rw [Task.state_regrade]
      cases t.state with
      | running => exact makeReady_regrade id
      | _ => rfl

theorem engage_regrade (id : TaskId) : (k.regrade h).engage id = regrade h <$> k.engage id := by
  unfold engage
  rw [dequeue_regrade, bind_map_left, map_bind]
  exact bind_congr fun k => congrArg Except.ok (setState_regrade id _)

theorem handOver_regrade (target : Option TaskId) :
    (k.regrade h).handOver target = regrade h <$> k.handOver target := by
  unfold handOver
  rw [releaseCurrent_regrade, bind_map_left, map_bind]
  refine bind_congr fun k => ?_
  cases target with
  | none => rfl
  | some id =>
    dsimp only
    rw [engage_regrade, bind_map_left, map_bind]
    rfl

theorem reportSwitch_regrade (before target : Option TaskId) :
    (k.regrade h).reportSwitch before target = k.reportSwitch before target := by
  unfold reportSwitch
  simp only [task?_regrade, Option.map_map]
  rfl

/-- Change the grades of all tasks after a switch. -/
def regradeSwitch {α : Type} (h : Nat → Nat) (x : α × Kernel capacity levels × RegisterFile) :
    α × Kernel capacity levels × RegisterFile := (x.1, x.2.1.regrade h, x.2.2)

theorem switchTo_regrade (ls : FrameLayouts) (r : RegisterFile) (target : Option TaskId) :
    (k.regrade h).switchTo ls r target = regradeSwitch h <$> k.switchTo ls r target := by
  unfold switchTo
  rw [loadTarget_regrade, map_bind]
  refine bind_congr fun x => ?_
  rcases x with ⟨loaded, r⟩
  cases loaded with
  | error e => rfl
  | ok kind =>
    simp only [handOver_regrade, reportSwitch_regrade, Traced.lift_map, bind_map_left, map_bind]
    rfl

theorem switch_regrade (ls : FrameLayouts) (r : RegisterFile) (source target : TaskId) :
    (k.regrade h).switch ls r source target = regradeSwitch h <$> k.switch ls r source target := by
  unfold switch
  rw [task?_regrade]
  cases k.task? source with
  | none => rfl
  | some t =>
    rw [Option.map_some, checkTarget_regrade]
    change (if k.running ≠ some source then _ else _) = _
    split
    · rfl
    · cases k.checkTarget target with
      | error e => rfl
      | ok u =>
        dsimp only
        rw [map_bind]
        refine bind_congr fun x => ?_
        rcases x with ⟨saved, stack⟩
        cases saved with
        | error e => exact congrArg (fun k => pure (_, k, _)) (setStack_regrade source stack)
        | ok sp =>
          simp only [setStack_regrade, setFrame_regrade, switchTo_regrade, bind_map_left, map_bind]
          refine bind_congr fun x => ?_
          rcases x with ⟨outcome, k', r'⟩
          cases outcome with
          | error e => exact congrArg (fun k => pure (_, k, _)) (setFrame_regrade source _ _)
          | ok kind => rfl

end Kernel

/-! ## Calls -/

/-- A change of grades leaves alone the grade that a call reads or gives. -/
def KernelCall.FixedBy {capacity levels : Nat} (h : Nat → Nat) (k : Kernel capacity levels) :
    KernelCall → Prop
  | .create a _ => a.priority < levels → h a.priority = a.priority
  | .activate id => ∀ t, k.task? id = some t → t.state = .dormant →
      h t.attributes.priority = t.attributes.priority
  | _ => True

namespace Kernel

variable {capacity levels : Nat} {h : Nat → Nat} {k : Kernel capacity levels}

/-- A reply does not tell the grades. -/
theorem reply_regrade {ε α : Type} {x y : Traced (Except ε α × Kernel capacity levels)}
    (r : RegisterFile) (hxy : y = regradeAfter h <$> x) :
    reply r <$> y = regradeSwitch h <$> reply r <$> x := by
  rw [hxy, Functor.map_map, Functor.map_map]
  rfl

/-- A call after a change of grades does what it does before the change. -/
theorem invoke_regrade (cfg : Config) (r : RegisterFile) {call : KernelCall}
    (hfix : call.FixedBy h k) :
    (k.regrade h).invoke cfg r call = regradeSwitch h <$> k.invoke cfg r call := by
  cases call with
  | create a stack => exact reply_regrade r (create_regrade cfg stack hfix)
  | activate id => exact reply_regrade r (activate_regrade hfix)
  | markReady id => exact reply_regrade r (markReady_regrade id)
  | markBlocked id => exact reply_regrade r (markBlocked_regrade id)
  | suspend id => exact reply_regrade r (suspend_regrade id)
  | resume id => exact reply_regrade r (resume_regrade id)
  | setPriority id priority => exact reply_regrade r (setPriority_regrade id priority)
  | requestDispatch => rfl
  | takeDispatch => rfl
  | advanceTick => rfl
  | save id kind => exact reply_regrade r (saveContext_regrade cfg.layouts r id kind)
  | restore id =>
    rw [invoke, invoke, restoreContext_regrade, Functor.map_map]
    rfl
  | switch source target =>
    rw [invoke, invoke, switch_regrade, Functor.map_map, Functor.map_map]
    rfl
  | switchTo target =>
    rw [invoke, invoke, switchTo_regrade, Functor.map_map, Functor.map_map]
    rfl
  | serve caller number argument =>
    rw [invoke, invoke, serve_regrade, Functor.map_map, Functor.map_map]
    rfl

end Kernel

end HartKernel
