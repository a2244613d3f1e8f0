import HartKernel.Proofs.Frame.Codec
import HartKernel.Proofs.Schedule.Refinement

/-!
# Saving, loading and switching

The operations on contexts go well on every kernel that stands for a schedule,
whatever the stacks hold.  They leave the schedule alone, except for a switch,
which hands the processor over.

Main results:

- `Kernel.restoreContext_eq` and `Kernel.frameAt_of_restoreContext`: the context of
  a task with a frame is loaded as it was saved, and no other context is loaded.
- `Kernel.exists_create` and `Kernel.saveContext_cases`: what is created and saved,
  and that nothing has changed otherwise.
- `Kernel.Implements.create`, `Kernel.Implements.saveContext`,
  `Kernel.Implements.switchTo` and `Kernel.Implements.switch`: what the
  operations do to the schedule.
-/

namespace HartKernel

namespace Kernel

variable {capacity levels : Nat} {k k' : Kernel capacity levels} {s : Schedule}
variable {id : TaskId} {t : Task} {r : RegisterFile}

/-- A change of stacks and saved contexts does not matter to the scheduler. -/
theorem Implements.updateContext (h : k.Implements s) (id : TaskId) {f : Task → Task}
    (hentry : ∀ t, (f t).entry = t.entry) (hlink : ∀ t, (f t).link = t.link) :
    (k.updateTask id f).Implements s := by
  have hsame : s.update id (fun e => e) = s := by
    rw [Schedule.update]
    have hentries : s.entries.modify id.index (fun e => e) = s.entries := by
      apply Array.ext_getElem?
      intro i
      rw [Array.getElem?_modify]
      split
      · rw [Option.map_id']
      · rfl
    rw [hentries]
  have hupdated := h.updateTask id (g := fun e => e) hentry hlink
    (fun t _ _ _ => congrArg Entry.priority (hentry t))
  rwa [hsame] at hupdated

/-! ## Creating a task -/

/-- A task as it is created. -/
def newTask (a : TaskAttributes) (stack : StackRegion) (savedSp : Word) : Task where
  attributes := a
  stack := stack
  savedSp := savedSp
  frameKind := .cooperative
  priority := a.priority
  state := .dormant
  link := none

/-- One more task. -/
def addTask (k : Kernel capacity levels) (t : Task) : Kernel capacity levels :=
  { k with tasks := k.tasks.push t }

theorem Implements.addTask (h : k.Implements s) (a : TaskAttributes) (stack : StackRegion)
    (savedSp : Word) : (k.addTask (newTask a stack savedSp)).Implements (s.create a.priority) := by
  refine ⟨?_, h.running, h.pending, h.tick, ?_⟩
  · rw [Schedule.create, h.entries, Kernel.addTask, Array.map_push]
    rfl
  · refine h.queue.congr_tasks (fun j => ?_) (fun p j hj => ?_)
    · rw [TaskTable.links, TaskTable.links, Kernel.addTask, Array.getElem?_push]
      split
      · rename_i hj
        rw [hj, Array.getElem?_size]
        rfl
      · rfl
    · obtain ⟨t, ht, hp⟩ := h.queue.level p j hj
      have hlt : j.index < k.tasks.size := (Array.getElem?_eq_some_iff.1 ht).1
      refine ⟨t, ?_, hp⟩
      rw [Kernel.addTask, Array.getElem?_push, if_neg hlt.ne]
      exact ht

/-- A task is created, or nothing happens. -/
theorem exists_create (cfg : Config) (k : Kernel capacity levels) (a : TaskAttributes)
    (stack : StackRegion) :
    ∃ answer k', (k.create cfg a stack).result = .ok (answer, k') ∧
      ((∃ e, answer = .error e ∧ k' = k) ∨
        ∃ id stack' savedSp, answer = .ok id ∧ a.priority < levels ∧
          id.index = k.tasks.size ∧
          (cfg.layouts.cooperative.save (startRegisters cfg a) stack
            (BitVec.ofNat 64 stack.alignedTop)).result = .ok (.ok savedSp, stack') ∧
          k' = k.addTask (newTask a stack' savedSp)) := by
  unfold create
  by_cases hp : levels ≤ a.priority
  · rw [if_pos hp]
    exact ⟨_, _, rfl, .inl ⟨_, rfl, rfl⟩⟩
  · rw [if_neg hp]
    by_cases hfull : k.tasks.size = capacity
    · rw [if_pos hfull]
      exact ⟨_, _, rfl, .inl ⟨_, rfl, rfl⟩⟩
    · rw [if_neg hfull]
      rw [Traced.result_bind]
      rcases FrameLayout.save_eq cfg.valid_cooperative (startRegisters cfg a) stack
        (BitVec.ofNat 64 stack.alignedTop) with ⟨e, he⟩ | ⟨-, -, -, hok⟩
      · rw [he, ok_bind]
        cases e <;> exact ⟨_, _, rfl, .inl ⟨_, rfl, rfl⟩⟩
      · rw [hok, ok_bind]
        exact ⟨_, _, rfl, .inr ⟨⟨k.tasks.size⟩, _, _, rfl, not_le.1 hp, rfl, rfl, rfl⟩⟩

/-- The schedule learns of a new task only. -/
theorem Implements.create (h : k.Implements s) (cfg : Config) (a : TaskAttributes)
    (stack : StackRegion) :
    ∃ answer k', (k.create cfg a stack).result = .ok (answer, k') ∧
      ((∃ e, answer = .error e ∧ k' = k) ∨
        ∃ id stack' savedSp, answer = .ok id ∧ a.priority < levels ∧
          id.index = k.tasks.size ∧
          (cfg.layouts.cooperative.save (startRegisters cfg a) stack
            (BitVec.ofNat 64 stack.alignedTop)).result = .ok (.ok savedSp, stack') ∧
          k' = k.addTask (newTask a stack' savedSp) ∧ k'.Implements (s.create a.priority)) := by
  obtain ⟨answer, k', hresult, hcases⟩ := exists_create cfg k a stack
  refine ⟨answer, k', hresult, hcases.imp_right ?_⟩
  rintro ⟨id, stack', savedSp, hanswer, hp, hindex, hsave, rfl⟩
  exact ⟨id, stack', savedSp, hanswer, hp, hindex, hsave, rfl, h.addTask a stack' savedSp⟩

/-! ## Saving and loading one context -/

/-- Saving a context is refused without a trace, or changes the stack of the
task and the record of where it was saved. -/
theorem saveContext_cases {ls : FrameLayouts} {kind : FrameKind} {answer : Except ContextError Word}
    (h : (k.saveContext ls r id kind).result = .ok (answer, k')) :
    (∃ e, answer = .error e ∧ k' = k) ∨
      ∃ t stack savedSp, answer = .ok savedSp ∧ k.task? id = some t ∧
        ((ls.layout kind).save r t.stack r.sp).result = .ok (.ok savedSp, stack) ∧
        k' = k.updateTask id fun t =>
          { t with stack := stack, savedSp := savedSp, frameKind := kind } := by
  unfold saveContext at h
  cases ht : k.task? id with
  | none =>
    simp only [ht] at h
    cases h
    exact .inl ⟨_, rfl, rfl⟩
  | some t =>
    simp only [ht] at h
    obtain ⟨⟨saved, stack⟩, hsave, h⟩ := Traced.bind_eq_ok.1 h
    cases saved with
    | error e =>
      cases h
      rw [FrameLayout.region_of_save_error hsave]
      exact .inl ⟨_, rfl, updateTask_eq_self ht rfl⟩
    | ok sp =>
      cases h
      exact .inr ⟨t, stack, sp, rfl, rfl, hsave, rfl⟩

/-- What saving a context has done if it went well. -/
theorem saveContext_eq_ok {ls : FrameLayouts} {kind : FrameKind} {savedSp : Word}
    (h : (k.saveContext ls r id kind).result = .ok (.ok savedSp, k')) :
    ∃ t stack, k.task? id = some t ∧
      ((ls.layout kind).save r t.stack r.sp).result = .ok (.ok savedSp, stack) ∧
      k' = k.updateTask id fun t =>
        { t with stack := stack, savedSp := savedSp, frameKind := kind } := by
  rcases saveContext_cases h with ⟨e, he, -⟩ | ⟨t, stack, sp, hsp, ht, hsave, hsame⟩
  · cases he
  · cases hsp
    exact ⟨t, stack, ht, hsave, hsame⟩

/-- Saving a context does not matter to the scheduler, whether it goes well or not. -/
theorem Implements.of_saveContext (h : k.Implements s) {ls : FrameLayouts} {kind : FrameKind}
    {answer : Except ContextError Word}
    (hsave : (k.saveContext ls r id kind).result = .ok (answer, k')) : k'.Implements s := by
  rcases saveContext_cases hsave with ⟨e, -, rfl⟩ | ⟨t, stack, sp, -, -, -, rfl⟩
  · exact h
  · exact h.updateContext id (fun _ => rfl) fun _ => rfl

/-- Saving a context answers. -/
theorem Implements.saveContext (h : k.Implements s) (cfg : Config) (r : RegisterFile)
    (id : TaskId) (kind : FrameKind) :
    ∃ answer k', (k.saveContext cfg.layouts r id kind).result = .ok (answer, k') ∧
      k'.Implements s ∧
      ((∃ e, answer = .error e ∧ k' = k) ∨
        ∃ t stack savedSp, answer = .ok savedSp ∧ k.task? id = some t ∧
          ((cfg.layouts.layout kind).save r t.stack r.sp).result = .ok (.ok savedSp, stack) ∧
          k' = k.updateTask id fun t =>
            { t with stack := stack, savedSp := savedSp, frameKind := kind }) := by
  obtain ⟨answer, k', hresult⟩ :
      ∃ answer k', (k.saveContext cfg.layouts r id kind).result = .ok (answer, k') := by
    unfold Kernel.saveContext
    cases ht : k.task? id with
    | none => exact ⟨_, _, rfl⟩
    | some t =>
      simp only [Traced.result_bind]
      rcases FrameLayout.save_eq (cfg.valid_layout kind) r t.stack r.sp with
        ⟨e, he⟩ | ⟨-, -, -, hok⟩
      · rw [he]
        exact ⟨_, _, rfl⟩
      · rw [hok]
        exact ⟨_, _, rfl⟩
  exact ⟨answer, k', hresult, h.of_saveContext hresult, saveContext_cases hresult⟩

/-- Loading a context goes well or is refused. -/
theorem exists_restoreContext (cfg : Config) (k : Kernel capacity levels) (r : RegisterFile)
    (id : TaskId) : ∃ answer r', (k.restoreContext cfg.layouts r id).result = .ok (answer, r') := by
  unfold restoreContext
  split
  · exact ⟨_, _, rfl⟩
  · split
    · exact ⟨_, _, rfl⟩
    · rename_i t _ _ kind _
      split
      · exact ⟨_, _, rfl⟩
      · obtain ⟨answer, r', hrestore⟩ :=
          FrameLayout.exists_restore (cfg.valid_layout kind) t.stack t.savedSp r
        rw [Traced.result_bind, hrestore, ok_bind]
        cases answer <;> exact ⟨_, _, rfl⟩

/-- The context of a task with a frame is loaded as it was saved. -/
theorem restoreContext_eq {cfg : Config} (ht : k.task? id = some t)
    (hframe : (cfg.layouts.layout t.frameKind).FrameAt t.stack t.savedSp) (r : RegisterFile) :
    (k.restoreContext cfg.layouts r id).result = .ok (.ok t.frameKind,
      (r.setAll ((cfg.layouts.layout t.frameKind).slots.zip
        ((cfg.layouts.layout t.frameKind).payload t.stack t.savedSp))).setSp
          (BitVec.ofNat 64 (t.savedSp.toNat + (cfg.layouts.layout t.frameKind).frameSize))) := by
  have hpeek : cfg.layouts.peekKind t.stack t.savedSp = .ok t.frameKind :=
    FrameLayouts.peekKind_eq hframe
  have hrestore := FrameLayout.restore_eq (cfg.valid_layout t.frameKind) hframe r
  unfold restoreContext
  simp only [ht, hpeek, ne_eq, not_true_eq_false, if_false, Traced.result_bind, hrestore, ok_bind]
  rfl

/-- What was loaded was a frame of the variant on record. -/
theorem frameAt_of_restoreContext {cfg : Config} {kind : FrameKind} {r' : RegisterFile}
    (h : (k.restoreContext cfg.layouts r id).result = .ok (.ok kind, r')) :
    ∃ t, k.task? id = some t ∧ kind = t.frameKind ∧
      (cfg.layouts.layout t.frameKind).FrameAt t.stack t.savedSp := by
  unfold restoreContext at h
  split at h
  · cases h
  · rename_i t ht
    split at h
    · cases h
    · split at h
      · cases h
      · rename_i hkind
        obtain ⟨⟨restored, r₁⟩, hrestore, h⟩ := Traced.bind_eq_ok.1 h
        cases restored with
        | error e => cases h
        | ok sp =>
          cases h
          obtain rfl := not_not.1 hkind
          exact ⟨t, ht, rfl, FrameLayout.frameAt_of_restore hrestore⟩

/-! ## Switching -/

/-- Loading the target of a switch goes well or is refused; only a Ready task is
loaded. -/
theorem exists_loadTarget (cfg : Config) (k : Kernel capacity levels) (r : RegisterFile)
    (target : Option TaskId) :
    ∃ answer r', (k.loadTarget cfg.layouts r target).result = .ok (answer, r') ∧
      ∀ kind, answer = .ok kind → ∀ id, target = some id →
        ∃ t, k.task? id = some t ∧ t.state = .ready := by
  unfold loadTarget
  split
  · exact ⟨_, _, rfl, fun _ _ _ hid => by cases hid⟩
  · rename_i id
    split
    · exact ⟨_, _, rfl, fun _ hkind => by cases hkind⟩
    · rename_i hcheck
      have hready : ∃ t, k.task? id = some t ∧ t.state = .ready := by
        unfold checkTarget at hcheck
        split at hcheck
        · cases hcheck
        · rename_i t ht
          split at hcheck
          · rename_i hstate
            exact ⟨t, ht, hstate⟩
          · cases hcheck
      obtain ⟨answer, r', hrestore⟩ := exists_restoreContext cfg k r id
      rw [Traced.result_bind, hrestore, ok_bind]
      cases answer with
      | error e => exact ⟨_, _, rfl, fun _ hkind => by cases hkind⟩
      | ok kind =>
        refine ⟨_, _, rfl, fun _ _ id' hid => ?_⟩
        cases hid
        exact hready

/-- What was loaded if loading the target of a switch went well. -/
theorem loadTarget_cases {cfg : Config} {target : Option TaskId} {kind : Option FrameKind}
    {r' : RegisterFile} (h : (k.loadTarget cfg.layouts r target).result = .ok (.ok kind, r')) :
    target = none ∧ kind = none ∧ r' = r ∨
      ∃ id kind', target = some id ∧ kind = some kind' ∧
        (k.restoreContext cfg.layouts r id).result = .ok (.ok kind', r') := by
  unfold loadTarget at h
  split at h
  · cases h
    exact .inl ⟨rfl, rfl, rfl⟩
  · rename_i id
    split at h
    · cases h
    · obtain ⟨⟨restored, r₁⟩, hrestore, h⟩ := Traced.bind_eq_ok.1 h
      cases restored with
      | error e => cases h
      | ok kind' =>
        cases h
        exact .inr ⟨id, kind', rfl, rfl, hrestore⟩

/-- What was done if a switch from a saved task went well. -/
theorem switchTo_cases {cfg : Config} {k' : Kernel capacity levels} {target : Option TaskId}
    {kind : Option FrameKind} {r' : RegisterFile}
    (h : (k.switchTo cfg.layouts r target).result = .ok (.ok kind, k', r')) :
    (k.loadTarget cfg.layouts r target).result = .ok (.ok kind, r') ∧
      k.handOver target = .ok k' := by
  unfold Kernel.switchTo at h
  obtain ⟨⟨loaded, r₁⟩, hload, h⟩ := Traced.bind_eq_ok.1 h
  cases loaded with
  | error e => cases h
  | ok kind₁ =>
    obtain ⟨k₁, hhand, h⟩ := Traced.bind_eq_ok.1 h
    obtain ⟨u, -, h⟩ := Traced.bind_eq_ok.1 h
    cases h
    exact ⟨hload, hhand⟩

/-- A switch from a saved task is refused without a trace, or hands the
processor over. -/
theorem Implements.switchTo (h : k.Implements s) (hv : s.Valid levels) (cfg : Config)
    (r : RegisterFile) (target : Option TaskId) :
    ∃ answer k' r', (k.switchTo cfg.layouts r target).result = .ok (answer, k', r') ∧
      ((∃ e, answer = .error e ∧ k' = k ∧
          (k.loadTarget cfg.layouts r target).result = .ok (.error e, r')) ∨
        ∃ kind, answer = .ok kind ∧
          (k.loadTarget cfg.layouts r target).result = .ok (.ok kind, r') ∧
          (∀ id, target = some id → s.state? id = some .ready) ∧
          k'.Implements (s.handOver target) ∧ TaskTable.SameContexts k.tasks k'.tasks) := by
  obtain ⟨answer, r', hload, hready⟩ := exists_loadTarget cfg k r target
  unfold Kernel.switchTo
  rw [Traced.result_bind, hload, ok_bind]
  cases answer with
  | error e => exact ⟨_, _, _, rfl, .inl ⟨e, rfl, rfl, rfl⟩⟩
  | ok kind =>
    have htarget : ∀ id, target = some id → s.state? id = some .ready := by
      intro id hid
      obtain ⟨t, ht, hstate⟩ := hready kind rfl id hid
      rw [h.state?_of_task? ht, hstate]
    obtain ⟨k', hk', h', hcontexts⟩ := h.handOver hv htarget
    have hreport : ∃ u, (k'.reportSwitch k.running target).result = .ok u := by
      unfold reportSwitch
      split <;> exact ⟨_, rfl⟩
    obtain ⟨u, hu⟩ := hreport
    refine ⟨.ok kind, k', r', ?_, .inr ⟨kind, rfl, rfl, htarget, h', hcontexts⟩⟩
    simp [hk', hu]

/-- A task is recorded as saved by a call. -/
def recordCall (k : Kernel capacity levels) (id : TaskId) (stack : StackRegion) (savedSp : Word) :
    Kernel capacity levels :=
  k.updateTask id fun t => { t with stack := stack, savedSp := savedSp, frameKind := .cooperative }

theorem Implements.recordCall (h : k.Implements s) (id : TaskId) (stack : StackRegion)
    (savedSp : Word) : (k.recordCall id stack savedSp).Implements s :=
  h.updateContext id (fun _ => rfl) (fun _ => rfl)

/-- What a switch answers when its second half is over. -/
def closeSwitch {κ : Type} (source : TaskId) (t : Task) :
    Except SwitchError κ × Kernel capacity levels × RegisterFile →
      Except SwitchError Unit × Kernel capacity levels × RegisterFile
  | (.error e, k, r) => (.error e, k.updateTask source fun s =>
      { s with savedSp := t.savedSp, frameKind := t.frameKind }, r)
  | (.ok _, k, r) => (.ok (), k, r)

/-- A switch is refused without a trace, or saves the current task as by a call
and goes on as a switch from a saved task. -/
theorem switch_eq (cfg : Config) (k : Kernel capacity levels) (r : RegisterFile)
    (source target : TaskId) :
    (∃ e, (k.switch cfg.layouts r source target).result = .ok (.error e, k, r)) ∨
      ∃ t stack savedSp, k.task? source = some t ∧ k.running = some source ∧
        k.checkTarget target = .ok () ∧
        (cfg.layouts.cooperative.save r t.stack r.sp).result = .ok (.ok savedSp, stack) ∧
        (k.switch cfg.layouts r source target).result =
          closeSwitch source t <$>
            ((k.recordCall source stack savedSp).switchTo cfg.layouts r (some target)).result := by
  unfold Kernel.switch
  cases ht : k.task? source with
  | none => exact .inl ⟨_, rfl⟩
  | some t =>
    by_cases hrun : k.running = some source
    · simp only [hrun, ne_eq, not_true_eq_false, if_false]
      cases hcheck : k.checkTarget target with
      | error e => exact .inl ⟨e, rfl⟩
      | ok u =>
        simp only [Traced.result_bind]
        rcases FrameLayout.save_eq cfg.valid_cooperative r t.stack r.sp with
          ⟨e, he⟩ | ⟨-, -, -, hok⟩
        · have hsame : k.updateTask source (fun u => { u with stack := t.stack }) = k :=
            updateTask_eq_self ht rfl
          rw [he, ok_bind]
          simp only [hsame]
          exact .inl ⟨_, rfl⟩
        · rw [hok, ok_bind]
          refine .inr ⟨t, _, _, rfl, trivial, trivial, hok, ?_⟩
          simp only [updateTask_updateTask]
          unfold recordCall
          rw [Traced.result_bind, map_eq_pure_bind]
          refine bind_congr fun ⟨outcome, k', r'⟩ => ?_
          cases outcome <;> rfl
    · simp only [hrun, ne_eq, not_false_eq_true, if_true]
      exact .inl ⟨_, rfl⟩

/-- A switch is refused and leaves the schedule alone, or hands the processor
over. -/
theorem Implements.switch (h : k.Implements s) (hv : s.Valid levels) (cfg : Config)
    (r : RegisterFile) (source target : TaskId) :
    ∃ answer k' r', (k.switch cfg.layouts r source target).result = .ok (answer, k', r') ∧
      ((∃ e, answer = .error e ∧ k'.Implements s) ∨
        answer = .ok () ∧ s.state? target = some .ready ∧
          k'.Implements (s.handOver (some target))) := by
  rcases switch_eq cfg k r source target with
    ⟨e, he⟩ | ⟨t, stack, savedSp, -, -, -, -, heq⟩
  · exact ⟨_, _, _, he, .inl ⟨e, rfl, h⟩⟩
  · obtain ⟨answer, k', r', hresult, hcases⟩ :=
      (h.recordCall source stack savedSp).switchTo hv cfg r (some target)
    rw [heq, hresult]
    rcases hcases with ⟨e, rfl, rfl, -⟩ | ⟨kind, rfl, -, hready, h', -⟩
    · exact ⟨_, _, _, rfl, .inl ⟨e, rfl, (h.recordCall source stack savedSp).updateContext source
        (fun _ => rfl) (fun _ => rfl)⟩⟩
    · exact ⟨_, _, _, rfl, .inr ⟨rfl, hready target rfl, h'⟩⟩

end Kernel

end HartKernel
