import HartKernel.Proofs.Kernel.Invariant
import HartKernel.Proofs.Kernel.Memory

/-!
# Operations that are refused

An operation on the schedule checks its arguments before it does anything: it
goes well or leaves the kernel as it is.  A switch checks the frame of its target
only after it has saved the current task, and puts back only the record of where
that task was saved before.

Main definitions:

- `Kernel.Guarded` says under which condition an operation goes well, and that
  it leaves the kernel as it is otherwise.

Main results:

- One lemma for each operation, such as `Kernel.guarded_activate`.
- `Kernel.switch_refused`: what a switch that is refused may have changed.
- `Kernel.switch_not_atomic`: it may have changed something.
-/

namespace HartKernel

namespace Kernel

variable {capacity levels : Nat} {k k' : Kernel capacity levels} {id : TaskId}
variable {r r' : RegisterFile}

/-! ## Operations on the schedule -/

/-- A task is in one of several states. -/
def InState (k : Kernel capacity levels) (id : TaskId) (states : List TaskState) : Prop :=
  ∃ t, k.task? id = some t ∧ t.state ∈ states

/-- An operation goes well if a condition holds; otherwise it leaves the kernel as
it is. -/
def Guarded {ε α : Type} (k : Kernel capacity levels) (guard : Prop)
    (x : Traced (Except ε α × Kernel capacity levels)) : Prop :=
  ∀ answer k', x.result = .ok (answer, k') →
    answer.isOk = true ∧ guard ∨ answer.isOk = false ∧ ¬guard ∧ k' = k

/-- An operation that looks its task up and checks the state of the task. -/
theorem guarded_of_task? {ε α : Type} {states : List TaskState}
    {x : Traced (Except ε α × Kernel capacity levels)}
    (hnone : k.task? id = none → ∃ e, x = pure (.error e, k))
    (hrefused : ∀ t, k.task? id = some t → t.state ∉ states → ∃ e, x = pure (.error e, k))
    (hdone : ∀ t, k.task? id = some t → t.state ∈ states →
      ∀ answer k', x.result = .ok (answer, k') → answer.isOk = true) :
    k.Guarded (k.InState id states) x := by
  have hsame : ¬k.InState id states → (∃ e, x = pure (.error e, k)) →
      k.Guarded (k.InState id states) x := by
    rintro hnot ⟨e, rfl⟩ answer k' h
    cases h
    exact .inr ⟨rfl, hnot, rfl⟩
  cases ht : k.task? id with
  | none =>
    refine hsame ?_ (hnone ht)
    rintro ⟨t, ht', -⟩
    rw [ht] at ht'
    cases ht'
  | some t =>
    by_cases hstate : t.state ∈ states
    · exact fun answer k' h => .inl ⟨hdone t ht hstate answer k' h, t, ht, hstate⟩
    · refine hsame ?_ (hrefused t ht hstate)
      rintro ⟨t', ht', hstate'⟩
      rw [ht, Option.some.injEq] at ht'
      exact hstate (ht' ▸ hstate')

/-- A task is activated if it is Dormant. -/
theorem guarded_activate (k : Kernel capacity levels) (id : TaskId) :
    k.Guarded (k.InState id [.dormant]) (k.activate id) := by
  unfold activate
  refine guarded_of_task? (fun ht => ?_) (fun t ht hstate => ?_) (fun t ht hstate => ?_)
  · simp only [ht]
    exact ⟨_, rfl⟩
  · rw [List.mem_singleton] at hstate
    simp only [ht, if_pos hstate]
    exact ⟨_, rfl⟩
  · rw [List.mem_singleton] at hstate
    simp only [ht, hstate, ne_eq, not_true_eq_false, if_false]
    intro answer k' h
    obtain ⟨u, -, h⟩ := Traced.bind_eq_ok.1 h
    obtain ⟨k₁, -, h⟩ := Traced.bind_eq_ok.1 h
    obtain ⟨k₂, -, h⟩ := Traced.bind_eq_ok.1 h
    cases h
    rfl

/-- A task is woken if it is Blocked or Suspended. -/
theorem guarded_markReady (k : Kernel capacity levels) (id : TaskId) :
    k.Guarded (k.InState id [.blocked, .suspended]) (k.markReady id) := by
  unfold markReady
  refine guarded_of_task? (fun ht => ?_) (fun t ht hstate => ?_) (fun t ht hstate => ?_)
  · simp only [ht]
    exact ⟨_, rfl⟩
  · have hguard : t.state ≠ .blocked ∧ t.state ≠ .suspended := by simpa using hstate
    simp only [ht, if_pos hguard]
    exact ⟨_, rfl⟩
  · have hguard : ¬(t.state ≠ .blocked ∧ t.state ≠ .suspended) := by
      simpa [imp_iff_not_or] using hstate
    simp only [ht, if_neg hguard]
    intro answer k' h
    obtain ⟨u, -, h⟩ := Traced.bind_eq_ok.1 h
    obtain ⟨k₁, -, h⟩ := Traced.bind_eq_ok.1 h
    obtain ⟨k₂, -, h⟩ := Traced.bind_eq_ok.1 h
    cases h
    rfl

/-- A task is resumed if it is Suspended. -/
theorem guarded_resume (k : Kernel capacity levels) (id : TaskId) :
    k.Guarded (k.InState id [.suspended]) (k.resume id) := by
  unfold resume
  refine guarded_of_task? (fun ht => ?_) (fun t ht hstate => ?_) (fun t ht hstate => ?_)
  · simp only [ht]
    exact ⟨_, rfl⟩
  · rw [List.mem_singleton] at hstate
    simp only [ht, if_pos hstate]
    exact ⟨_, rfl⟩
  · rw [List.mem_singleton] at hstate
    simp only [ht, hstate, ne_eq, not_true_eq_false, if_false]
    intro answer k' h
    obtain ⟨u, -, h⟩ := Traced.bind_eq_ok.1 h
    obtain ⟨k₁, -, h⟩ := Traced.bind_eq_ok.1 h
    obtain ⟨k₂, -, h⟩ := Traced.bind_eq_ok.1 h
    cases h
    rfl

/-- The priority of a task is changed if the task is activated and the level
exists. -/
theorem guarded_setPriority (k : Kernel capacity levels) (id : TaskId) (priority : Nat) :
    k.Guarded (k.InState id [.ready, .running, .blocked, .suspended] ∧ priority < levels)
      (k.setPriority id priority) := by
  intro answer k' h
  unfold setPriority at h
  cases ht : k.task? id with
  | none =>
    simp only [ht] at h
    cases h
    refine .inr ⟨rfl, ?_, rfl⟩
    rintro ⟨⟨t, ht', -⟩, -⟩
    rw [ht] at ht'
    cases ht'
  | some t =>
    simp only [ht] at h
    split at h
    · rename_i hp
      cases h
      exact .inr ⟨rfl, fun hguard => absurd hguard.2 (not_lt.2 hp), rfl⟩
    · rename_i hp
      split at h
      · rename_i hstate
        cases h
        refine .inr ⟨rfl, ?_, rfl⟩
        rintro ⟨⟨t', ht', hstate'⟩, -⟩
        rw [ht, Option.some.injEq] at ht'
        subst ht'
        simp [hstate] at hstate'
      · rename_i hstate
        obtain ⟨k₁, -, h⟩ := Traced.bind_eq_ok.1 h
        obtain ⟨u, -, h⟩ := Traced.bind_eq_ok.1 h
        obtain ⟨k₂, -, h⟩ := Traced.bind_eq_ok.1 h
        cases h
        refine .inl ⟨rfl, ⟨t, ht, ?_⟩, not_le.1 hp⟩
        revert hstate
        cases t.state <;> simp

/-! ## Switches -/

theorem updateTask_congr {t : Task} (ht : k.task? id = some t) {f g : Task → Task}
    (hfg : f t = g t) : k.updateTask id f = k.updateTask id g := by
  have htasks : k.tasks.update id f = k.tasks.update id g := by
    apply Array.ext_getElem?
    intro i
    rw [TaskTable.getElem?_update, TaskTable.getElem?_update]
    split
    · rename_i hi
      rw [← hi, show k.tasks[id.index]? = some t from ht, Option.map_some, Option.map_some, hfg]
    · rfl
  rw [updateTask, htasks, updateTask]

/-- Saving one task does not matter for loading another. -/
theorem restoreContext_recordCall {ls : FrameLayouts} {source target : TaskId}
    {stack : StackRegion} {savedSp : Word} (hne : target ≠ source) :
    (k.recordCall source stack savedSp).restoreContext ls r target =
      k.restoreContext ls r target := by
  unfold restoreContext recordCall
  rw [task?_updateTask, if_neg hne]

theorem regs_of_restoreContext_error {ls : FrameLayouts} {e : ContextError}
    (h : (k.restoreContext ls r id).result = .ok (.error e, r')) : r' = r := by
  unfold restoreContext at h
  split at h
  · cases h
    rfl
  · split at h
    · cases h
      rfl
    · split at h
      · cases h
        rfl
      · obtain ⟨⟨restored, r₁⟩, hrestore, h⟩ := Traced.bind_eq_ok.1 h
        cases restored with
        | error e' =>
          cases h
          exact FrameLayout.regs_of_restore_error hrestore
        | ok sp => cases h

/-- A switch from a saved task to a Ready one that is refused leaves everything as
it is; the context of the Ready task cannot be loaded. -/
theorem switchTo_unchanged {ls : FrameLayouts} {target : TaskId} {e : SwitchError}
    (hcheck : k.checkTarget target = .ok ())
    (h : (k.switchTo ls r (some target)).result = .ok (.error e, k', r')) :
    k' = k ∧ r' = r ∧ ∃ e', (k.restoreContext ls r target).result = .ok (.error e', r) := by
  unfold switchTo at h
  obtain ⟨⟨loaded, r₁⟩, hload, h⟩ := Traced.bind_eq_ok.1 h
  unfold loadTarget at hload
  simp only [hcheck] at hload
  obtain ⟨⟨restored, r₂⟩, hrestore, hload⟩ := Traced.bind_eq_ok.1 hload
  cases restored with
  | error e' =>
    have hregs : r₂ = r := regs_of_restoreContext_error hrestore
    cases hload
    cases h
    exact ⟨rfl, hregs, e', hregs ▸ hrestore⟩
  | ok kind =>
    cases hload
    obtain ⟨k₁, -, h⟩ := Traced.bind_eq_ok.1 h
    obtain ⟨u, -, h⟩ := Traced.bind_eq_ok.1 h
    cases h

/-- A switch that is refused leaves the registers and the kernel as they are, but
for the words on the stack of the current task where its context was saved.  They
change only if the context of the target cannot be loaded. -/
theorem switch_refused {cfg : Config} {source target : TaskId} {e : SwitchError}
    (h : (k.switch cfg.layouts r source target).result = .ok (.error e, k', r')) :
    r' = r ∧ (k' = k ∨ ∃ t stack, k.task? source = some t ∧ k.running = some source ∧
      t.stack.ChangesOnly (cfg.layouts.cooperative.Below r.sp) stack ∧
      k' = k.updateTask source (fun t => { t with stack := stack }) ∧
      (target ≠ source → ∃ e', (k.restoreContext cfg.layouts r target).result =
        .ok (.error e', r))) := by
  rcases switch_eq cfg k r source target with
    ⟨e', he⟩ | ⟨t, stack, savedSp, ht, hrunning, hcheck, hsave, heq⟩
  · rw [he] at h
    cases h
    exact ⟨rfl, .inl rfl⟩
  · rw [heq] at h
    have hstack := FrameLayout.changesOnly_save cfg.valid_cooperative hsave
    have hcheck' : (k.recordCall source stack savedSp).checkTarget target = .ok () := by
      rw [checkTarget_recordCall, hcheck]
    cases hsecond : ((k.recordCall source stack savedSp).switchTo cfg.layouts r
        (some target)).result with
    | error p => simp [hsecond] at h
    | ok answer =>
      obtain ⟨outcome, k₁, r₁⟩ := answer
      rw [hsecond] at h
      cases outcome with
      | ok kind => cases h
      | error e' =>
        cases h
        obtain ⟨rfl, rfl, hload⟩ := switchTo_unchanged hcheck' hsecond
        refine ⟨rfl, .inr ⟨t, stack, ht, hrunning, hstack, ?_, fun hne => ?_⟩⟩
        · rw [recordCall, updateTask_updateTask]
          exact updateTask_congr ht rfl
        · rwa [restoreContext_recordCall hne] at hload

/-- The first of two tasks is running, and the tag of the frame of the second one
is overwritten. -/
def damaged : Traced (Kernel 4 4) := do
  let k ← Kernel.initial 4 4
  let k ← k.run (Config.machine false)
    [(.zero, .create ⟨"a", 0x80000000, 0, 1⟩
      ⟨0x50010000, .replicate 64 0, by decide, by decide⟩),
     (.zero, .create ⟨"b", 0x80000000, 0, 1⟩
      ⟨0x50020000, .replicate 64 0, by decide, by decide⟩),
     (.zero, .activate ⟨0⟩), (.zero, .activate ⟨1⟩), (.zero, .switchTo (some ⟨0⟩))]
  return k.updateTask ⟨1⟩ fun t => { t with stack := t.stack.put 48 0 }

/-- Live registers of the first task, with a value to be saved. -/
def saving : RegisterFile := (RegisterFile.zero.setSp 0x50010200).set (.int 8) 0x1111

theorem wellFormed_damaged {k : Kernel 4 4} (h : damaged.result = .ok k) : k.WellFormed := by
  obtain ⟨k₀, hk₀, h⟩ := Traced.bind_eq_ok.1 h
  obtain ⟨k₁, hk₁, h⟩ := Traced.bind_eq_ok.1 h
  have h₀ : k₀.Implements .initial := implements_of_initial hk₀
  obtain ⟨k₁', s, hk₁', h₁, hvalid⟩ := h₀.run Schedule.valid_initial (Config.machine false) _
  have hrun : k₁' = k₁ := Except.ok.inj (hk₁'.symm.trans hk₁)
  cases h
  -- The scheduler invariant does not mention stacks, so the damage does not matter to it.
  have hwritten := (hrun ▸ h₁).updateContext ⟨1⟩ (f := fun t =>
    { t with stack := t.stack.put 48 0 }) (fun _ => rfl) fun _ => rfl
  exact hwritten.wellFormed hvalid

theorem exists_switch_damaged :
    ∃ k k', damaged.result = .ok k ∧
      (k.switch (Config.machine false).layouts saving ⟨0⟩ ⟨1⟩).result =
        .ok (.error .badObjectState, k', saving) ∧ k' ≠ k := by
  have hswitch : (match damaged.result with
      | .error _ => false
      | .ok k =>
        match (k.switch (Config.machine false).layouts saving ⟨0⟩ ⟨1⟩).result with
        | .ok (.error .badObjectState, k', r') => Decidable.decide (r' = saving ∧ k' ≠ k)
        | _ => false) = true := by decide +kernel
  split at hswitch
  · cases hswitch
  · rename_i k hk
    split at hswitch
    · rename_i k' r' hresult
      obtain ⟨rfl, hne⟩ := of_decide_eq_true hswitch
      exact ⟨k, k', hk, hresult, hne⟩
    · cases hswitch

/-- The target is damaged: the switch is refused, and the stack of the current task
has changed. -/
theorem switch_refused_damaged :
    ∃ (k k' : Kernel 4 4) (r' : RegisterFile),
      (k.switch (Config.machine false).layouts saving ⟨0⟩ ⟨1⟩).result =
        .ok (.error .badObjectState, k', r') ∧
      r' = saving ∧ k' ≠ k ∧ ∃ t stack, k.task? ⟨0⟩ = some t ∧
        t.stack.ChangesOnly ((Config.machine false).layouts.cooperative.Below saving.sp) stack ∧
        k' = k.updateTask ⟨0⟩ (fun t => { t with stack := stack }) ∧
        ∃ e', (k.restoreContext (Config.machine false).layouts saving ⟨1⟩).result =
          .ok (.error e', saving) := by
  obtain ⟨k, k', -, hswitch, hne⟩ := exists_switch_damaged
  obtain ⟨hregs, heq | ⟨t, stack, ht, -, hstack, hchanged, hload⟩⟩ := switch_refused hswitch
  · exact absurd heq hne
  · exact ⟨k, k', _, hswitch, hregs, hne, t, stack, ht, hstack, hchanged, hload (by decide)⟩

/-- A switch may change the stack of the current task although it is refused. -/
theorem switch_not_atomic :
    ∃ (k k' : Kernel 4 4) (r : RegisterFile), k.WellFormed ∧
      (k.switch (Config.machine false).layouts r ⟨0⟩ ⟨1⟩).result =
        .ok (.error .badObjectState, k', r) ∧ k' ≠ k := by
  obtain ⟨k, k', hdamaged, hswitch, hne⟩ := exists_switch_damaged
  exact ⟨k, k', saving, wellFormed_damaged hdamaged, hswitch, hne⟩

end Kernel

end HartKernel
