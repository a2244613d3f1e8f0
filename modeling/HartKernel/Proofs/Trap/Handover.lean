import HartKernel.Proofs.Trap.Rotation

/-!
# Handing over the processor

A switch that goes well does four things: it pushes the registers of the current task
on the stack of that task, puts the task at the back of its level if it was Running,
takes the target out of the queue, and loads the registers of the target.  Everything
else is as before, whatever the queue looks like and whatever has become of the
current task.

Main definitions:

- `Kernel.HandsOver` says what a hand-over to a Ready task makes of the kernel.
- `Kernel.Loads` says that the registers of a task were loaded from its frame.

Main results:

- `Kernel.Implements.handsOver`: handing over the processor on the schedule does this
  to the kernel.
- `Machine.Recorded.switch_effect`: in any state of a system, what a switch does and
  what a switch from a saved task does.
-/

namespace HartKernel

namespace Task

/-- A task that loses the processor is Ready if it was Running. -/
def displaced (t : Task) : Task := if t.state = .running then { t with state := .ready } else t

/-- A record is its context, its state and its priority, apart from the link. -/
theorem unlinked_of_context {t u : Task} (h : u.context = t.context) :
    u.unlinked = { t with state := u.state, priority := u.priority }.unlinked := by
  cases t
  cases u
  simp only [context, mk.injEq] at h
  simp [unlinked, h]

end Task

namespace Kernel

variable {capacity levels : Nat} {k k₁ k' : Kernel capacity levels} {s s' : Schedule}
variable {cfg : Config} {r r' : RegisterFile} {id target : TaskId} {saved : Task → Task}

/-- The record of a task without its link. -/
def record? (k : Kernel capacity levels) (id : TaskId) : Option Task :=
  (k.task? id).map Task.unlinked

/-- The processor is handed over from the current task, whose context is saved as
`saved` tells, to a Ready task. -/
structure HandsOver (k k' : Kernel capacity levels) (saved : Task → Task) (target : TaskId) :
    Prop where
  /-- The target is the current task. -/
  running : k'.running = some target
  /-- The target was Ready and is Running. -/
  taken : ∃ t, k.task? target = some t ∧ t.state = .ready ∧
    k'.record? target = some { t with state := .running }.unlinked
  /-- The target does not wait any more. -/
  absent : ∃ ready, k'.readyTasks = .ok ready ∧ target ∉ ready
  /-- The old current task is Ready if it was Running, and its context is saved. -/
  left : ∀ id t, k.running = some id → k.task? id = some t →
    t.state ≠ .dormant ∧ k'.record? id = some (saved t).displaced.unlinked
  /-- The other tasks are as before. -/
  others : ∀ id, id ≠ target → k.running ≠ some id → k'.record? id = k.record? id
  /-- At each level the target leaves its place, the old current task joins the back
  if it was Running there, and the others keep their order. -/
  order : ∀ p < levels, ∃ l, k.levelTasks p = .ok l ∧
    k'.levelTasks p = .ok (l.erase target ++ (k.runningAt? p).toList)
  /-- Requests for a dispatch are as before. -/
  pending : k'.dispatchPending = k.dispatchPending
  /-- Ticks are as before. -/
  tick : k'.tick = k.tick

/-- The registers of a task were loaded from the frame on its record. -/
def Loads (cfg : Config) (k : Kernel capacity levels) (id : TaskId) (r r' : RegisterFile) : Prop :=
  ∃ t, k.task? id = some t ∧
    (cfg.layouts.layout t.frameKind).Loaded t.stack t.savedSp r r'

theorem loads_of_restoreContext {kind : FrameKind}
    (h : (k.restoreContext cfg.layouts r id).result = .ok (.ok kind, r')) :
    k.Loads cfg id r r' := by
  obtain ⟨t, ht, rfl, hframe⟩ := frameAt_of_restoreContext h
  rw [restoreContext_eq ht hframe] at h
  cases h
  obtain ⟨hzero, hsp⟩ := FrameLayouts.notMem_standard cfg.includeFp t.frameKind
  exact ⟨t, ht, hframe.loaded (cfg.valid_layout _)
    (FrameLayouts.nodup_standard cfg.includeFp t.frameKind) hzero hsp r⟩

theorem loads_of_loadTarget {kind : Option FrameKind}
    (h : (k.loadTarget cfg.layouts r (some id)).result = .ok (.ok kind, r')) :
    k.Loads cfg id r r' := by
  obtain ⟨hnone, -⟩ | ⟨id', kind', hid, -, hrestore⟩ := loadTarget_cases h
  · cases hnone
  · cases hid
    exact loads_of_restoreContext hrestore

namespace Implements

/-- A record is told by its context and by the schedule. -/
theorem record?_eq (h' : k'.Implements s') (hcontexts : TaskTable.SameContexts k₁.tasks k'.tasks)
    {u : Task} {e : Entry} (hu : k₁.task? id = some u) (he : s'.lookup? id = some e) :
    k'.record? id = some { u with state := e.state, priority := e.priority }.unlinked := by
  rw [h'.lookup?_eq, Option.map_eq_some_iff] at he
  obtain ⟨t, ht, rfl⟩ := he
  obtain ⟨u', hu', hcontext⟩ := exists_task?_of_sameContexts hcontexts ht
  rw [hu, Option.some.injEq] at hu'
  rw [record?, ht, Option.map_some, Task.unlinked_of_context (hu' ▸ hcontext)]
  rfl

/-- A task of which neither the context nor the entry has changed keeps its record. -/
theorem record?_eq_of_same (h : k.Implements s) (h' : k'.Implements s')
    (hcontexts : TaskTable.SameContexts k₁.tasks k'.tasks) (htask : k₁.task? id = k.task? id)
    (hlookup : s'.lookup? id = s.lookup? id) : k'.record? id = k.record? id := by
  cases hu : k.task? id with
  | none =>
    have hnone : (k'.task? id).map Task.entry = none := by
      rw [← h'.lookup?_eq, hlookup, h.lookup?_eq, hu, Option.map_none]
    rw [record?, record?, hu, Option.map_eq_none_iff.1 hnone]
  | some u =>
    rw [h.lookup?_of_task? hu] at hlookup
    rw [h'.record?_eq hcontexts (htask.trans hu) hlookup, record?, hu, Option.map_some]
    rfl

theorem runningTask?_iff (h : k.Implements s) {u : Task} (hid : k.running = some id)
    (hu : k.task? id = some u) : s.runningTask? = some id ↔ u.state = .running := by
  rw [Schedule.runningTask?_eq_some, h.running, h.state?_of_task? hu, Option.some.injEq]
  exact and_iff_right hid

/-- Handing over the processor, once the context of the current task was saved. -/
theorem handsOver (h : k.Implements s) (hv : s.Valid levels)
    (hentry : ∀ t, (saved t).entry = t.entry)
    (hsaved : ∀ id, k₁.task? id =
      if k.running = some id then (k.task? id).map saved else k.task? id)
    (hne : k.running ≠ some target) (hready : s.state? target = some .ready)
    (h' : k'.Implements (s.handOver (some target)))
    (hcontexts : TaskTable.SameContexts k₁.tasks k'.tasks) : k.HandsOver k' saved target := by
  rw [h.state?_eq, Option.map_eq_some_iff] at hready
  obtain ⟨t, ht, hstate⟩ := hready
  have he := h.lookup?_of_task? ht
  have hlookup := Schedule.lookup?_handOver he hstate
  have hv' : (s.handOver (some target)).Valid levels := by
    refine hv.handOver fun id hid => ?_
    cases hid
    rw [h.state?_of_task? ht, hstate]
  have htaken : (s.handOver (some target)).lookup? target =
      some { t.entry with state := .running } := (hlookup target).trans (if_pos rfl)
  have hrest := s.rest_handOver (some target)
  refine
    { running := h'.running.symm, taken := ⟨t, ht, hstate, ?_⟩, absent := ?_,
      left := fun id u hid hu => ?_, others := fun id hid hrunning => ?_, order := fun p hp => ?_,
      pending := h'.pending.symm.trans (hrest.1.trans h.pending),
      tick := h'.tick.symm.trans (hrest.2.trans h.tick) }
  · exact h'.record?_eq hcontexts ((hsaved target).trans ((if_neg hne).trans ht)) htaken
  · refine ⟨_, h'.queue.toList_eq, fun hmem => ?_⟩
    have hwaits := hv'.mem_toList.1 hmem
    rw [Schedule.state?_of_lookup? htaken] at hwaits
    cases hwaits
  · have hu₁ : k₁.task? id = some (saved u) := by rw [hsaved, if_pos hid, hu, Option.map_some]
    have hidne : id ≠ target := fun e => hne (e ▸ hid)
    have hsame : (saved u).state = u.state := congrArg Entry.state (hentry u)
    have hpriority : (saved u).priority = u.priority := congrArg Entry.priority (hentry u)
    refine ⟨hv.current_of_lookup? (h.lookup?_of_task? hu) (h.running.trans hid), ?_⟩
    have hchanged := hlookup id
    rw [if_neg hidne, h.lookup?_of_task? hu] at hchanged
    simp only [h.runningTask?_iff hid hu] at hchanged
    by_cases hrun : u.state = .running
    · rw [if_pos hrun] at hchanged
      rw [h'.record?_eq hcontexts hu₁ hchanged, Task.displaced, hsame, if_pos hrun]
      simp only [Task.entry, hpriority]
    · rw [if_neg hrun] at hchanged
      rw [h'.record?_eq hcontexts hu₁ hchanged, Task.displaced, hsame, if_neg hrun]
      simp only [Task.entry, ← hsame, ← hpriority]
  · have htask : s.runningTask? ≠ some id := by
      intro e
      exact hrunning (h.running.symm.trans (Schedule.runningTask?_eq_some.1 e).1)
    refine h.record?_eq_of_same h' hcontexts ((hsaved id).trans (if_neg hrunning)) ?_
    rw [hlookup, if_neg hid, if_neg htask]
  · refine ⟨_, h.levelTasks_eq hp, ?_⟩
    rw [h'.levelTasks_eq hp, hv.level_handOver he hstate, h.runningAt?_eq]

/-- A switch from a saved task that goes well. -/
theorem handsOver_switchTo (h : k.Implements s) (hv : s.Valid levels) {kind : Option FrameKind}
    (hne : k.running ≠ some target)
    (hswitch : (k.switchTo cfg.layouts r (some target)).result = .ok (.ok kind, k', r')) :
    k.HandsOver k' (fun t => t) target ∧ k.Loads cfg target r r' := by
  obtain ⟨answer, k₂, r₂, hresult, hcases⟩ := h.switchTo hv cfg r (some target)
  rw [hresult] at hswitch
  cases hswitch
  obtain ⟨e, he, -⟩ | ⟨kind', -, hload, hready, h', hcontexts⟩ := hcases
  · cases he
  · refine ⟨h.handsOver hv (fun _ => rfl) (fun a => ?_) hne (hready target rfl) h' hcontexts,
      loads_of_loadTarget hload⟩
    rw [Option.map_id', ite_self]

/-- A switch that goes well. -/
theorem handsOver_switch (h : k.Implements s) (hv : s.Valid levels) {source : TaskId}
    (hne : source ≠ target)
    (hswitch : (k.switch cfg.layouts r source target).result = .ok (.ok (), k', r')) :
    ∃ t stack savedSp, k.running = some source ∧ k.task? source = some t ∧
      cfg.layouts.cooperative.Pushed r t.stack stack savedSp ∧
      k.HandsOver k' (fun t => { t with
        stack := stack, savedSp := savedSp, frameKind := .cooperative }) target ∧
      k.Loads cfg target r r' := by
  obtain ⟨e, he⟩ | ⟨t, stack, savedSp, ht, hrunning, -, hsave, heq⟩ :=
    switch_eq cfg k r source target
  · rw [he] at hswitch
    cases hswitch
  · obtain ⟨answer, k₂, r₂, hresult, hcases⟩ :=
      (h.recordCall source stack savedSp).switchTo hv cfg r (some target)
    rw [heq, hresult] at hswitch
    obtain ⟨e, rfl, -⟩ | ⟨kind, rfl, hload, hready, h', hcontexts⟩ := hcases
    · cases hswitch
    · cases hswitch
      have htarget : k.running ≠ some target := by
        rw [hrunning]
        exact fun e => hne (Option.some.inj e)
      refine ⟨t, stack, savedSp, hrunning, ht,
        FrameLayout.pushed_of_save cfg.valid_cooperative hsave,
        h.handsOver hv (fun _ => rfl) (fun a => ?_) htarget (hready target rfl) h' hcontexts, ?_⟩
      · rw [Kernel.recordCall, task?_updateTask, hrunning]
        simp only [Option.some.injEq, eq_comm]
      · obtain ⟨u, hu, hloaded⟩ := loads_of_loadTarget hload
        rw [Kernel.recordCall, task?_updateTask, if_neg hne.symm] at hu
        exact ⟨u, hu, hloaded⟩

end Implements

end Kernel

namespace Machine

variable {capacity levels : Nat} {σ : Type} {cfg : Config} {handlers : Handlers σ capacity levels}
variable {m : Machine capacity levels} {s : σ} {log : List (Option TaskId)}

/-- In any state of a system and with any live registers: a switch between two tasks
that goes well pushes the registers on the stack of the current task, hands the
processor over and loads the registers of the target.  A switch from a saved task to
a task that is not the current one does the same without pushing anything. -/
theorem Recorded.switch_effect (h : Recorded cfg handlers log m s) (r r' : RegisterFile)
    (k' : Kernel capacity levels) (target : TaskId) :
    (∀ source, source ≠ target →
      (m.kernel.switch cfg.layouts r source target).result = .ok (.ok (), k', r') →
      ∃ t stack savedSp, m.kernel.running = some source ∧ m.kernel.task? source = some t ∧
        cfg.layouts.cooperative.Pushed r t.stack stack savedSp ∧
        m.kernel.HandsOver k' (fun t => { t with
          stack := stack, savedSp := savedSp, frameKind := .cooperative }) target ∧
        m.kernel.Loads cfg target r r') ∧
    ∀ kind, m.kernel.running ≠ some target →
      (m.kernel.switchTo cfg.layouts r (some target)).result = .ok (.ok kind, k', r') →
      m.kernel.HandsOver k' (fun t => t) target ∧ m.kernel.Loads cfg target r r' := by
  obtain ⟨sch, himpl, hv, -⟩ := h.arranged
  exact ⟨fun _ hne hswitch => himpl.handsOver_switch hv hne hswitch,
    fun _ hne hswitch => himpl.handsOver_switchTo hv hne hswitch⟩

/-- The running task switches to the last one of its level, and joins the back. -/
theorem Recorded.switch_effect_same_level :
    ∃ (log : List (Option TaskId)) (m : Machine 4 4) (k' : Kernel 4 4) (r' : RegisterFile),
      Recorded (Config.machine false) (Handlers.default : Handlers Unit 4 4) log m () ∧
      m.kernel.levelTasks 1 = .ok [⟨2⟩, ⟨0⟩] ∧
      (m.kernel.switch (Config.machine false).layouts m.hart.regs ⟨1⟩ ⟨0⟩).result =
        .ok (.ok (), k', r') ∧
      k'.levelTasks 1 = .ok [⟨2⟩, ⟨1⟩] ∧ k'.running = some ⟨0⟩ ∧
      k'.record? ⟨2⟩ = m.kernel.record? ⟨2⟩ ∧
      m.kernel.Loads (Config.machine false) ⟨0⟩ m.hart.regs r' := by
  obtain ⟨⟨m, u⟩, hplay, hm⟩ := exists_of_returns
    (x := small.play (Config.machine false) (Handlers.default : Handlers Unit 4 4) ()
      (activateThree ++ [.trap .software 0]))
    (p := fun b => decide (b.1.kernel.levelTasks 1 = .ok [⟨2⟩, ⟨0⟩]) &&
      ends (b.1.kernel.invoke (Config.machine false) b.1.hart.regs (.switch ⟨1⟩ ⟨0⟩))
        fun answer => decide (answer.1 = true ∧ answer.2.1.levelTasks 1 = .ok [⟨2⟩, ⟨1⟩]))
    (by decide +kernel)
  obtain ⟨hbefore, hm⟩ := Bool.and_eq_true_iff.1 hm
  obtain ⟨⟨ok, k', r'⟩, hcall, hafter⟩ := exists_of_ends hm
  obtain ⟨rfl, hafter⟩ := of_decide_eq_true hafter
  obtain ⟨log, hrecorded⟩ := (Recorded.initial () initial_small).play
    (Handlers.calling_default _ fun _ => True) hplay
  obtain ⟨⟨answer, k₁, r₁⟩, hswitch, heq⟩ := Traced.map_eq_ok.1 hcall
  cases answer with
  | error e => cases heq
  | ok v =>
    cases heq
    obtain ⟨t, stack, savedSp, hrunning, -, -, hhands, hloads⟩ :=
      (hrecorded.switch_effect m.hart.regs r' k' ⟨0⟩).1 ⟨1⟩ (by decide) hswitch
    refine ⟨log, m, k', r', hrecorded, of_decide_eq_true hbefore, hswitch, hafter,
      hhands.running, hhands.others ⟨2⟩ (by decide) ?_, hloads⟩
    rw [hrunning]
    decide

end Machine

end HartKernel
