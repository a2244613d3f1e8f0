import HartKernel.Proofs.Frame.Footprint
import HartKernel.Proofs.Kernel.Frames

/-!
# What kernel operations do to memory

Scheduling never touches a stack.  The lemmas here say so for any kernel, also
for one whose data do not agree: they need no invariant, only that the operation
returns.

Main definitions:

- `Kernel.ChangesOnly` compares the stacks of all tasks before and after an
  operation.

Main results:

- One lemma for each operation on the schedule, such as
  `Kernel.sameContexts_handOver` and `Kernel.sameContexts_serve`: whenever it
  returns it has left stacks and saved contexts alone.
- `Kernel.changesOnly_saveContext`: saving a context changes words below the
  stack pointer on the stack of that task only.
-/

namespace HartKernel

/-! ## Queue operations -/

namespace TaskTable

variable {tasks tasks' : TaskTable} {id : TaskId}

theorem sameContexts_relink {f : Link → Link} (h : tasks.relink id f = .ok tasks') :
    SameContexts tasks tasks' := by
  obtain ⟨l, -, h⟩ := bind_eq_ok_iff.1 h
  cases h
  exact sameContexts_update _ _ fun _ => rfl

/-- Tasks keep their stacks if they keep their contexts. -/
theorem SameContexts.exists_of_getElem? (h : SameContexts tasks tasks') {i : Nat} {t : Task}
    (ht : tasks[i]? = some t) : ∃ t', tasks'[i]? = some t' ∧ t'.context = t.context := by
  have heq := congrArg (fun a => a[i]?) h
  rw [Array.getElem?_map, Array.getElem?_map, ht, Option.map_some] at heq
  exact Option.map_eq_some_iff.1 heq

end TaskTable

namespace ReadyQueue

variable {levels : Nat} {q q' : ReadyQueue levels} {tasks tasks' : TaskTable} {id : TaskId}

theorem sameContexts_pushBack (h : q.pushBack tasks id = .ok (q', tasks')) :
    TaskTable.SameContexts tasks tasks' := by
  unfold pushBack at h
  obtain ⟨t, -, h⟩ := bind_eq_ok_iff.1 h
  obtain ⟨u, -, h⟩ := bind_eq_ok_iff.1 h
  split at h
  · split at h
    · cases h
      exact TaskTable.sameContexts_update _ _ fun _ => rfl
    · obtain ⟨last, -, h⟩ := bind_eq_ok_iff.1 h
      obtain ⟨tasks₁, h₁, h⟩ := bind_eq_ok_iff.1 h
      obtain ⟨tasks₂, h₂, h⟩ := bind_eq_ok_iff.1 h
      cases h
      refine TaskTable.SameContexts.trans ?_
        ((TaskTable.sameContexts_relink h₁).trans (TaskTable.sameContexts_relink h₂))
      exact TaskTable.sameContexts_update tasks id fun _ => rfl
  · cases h

theorem sameContexts_remove (h : q.remove tasks id = .ok (q', tasks')) :
    TaskTable.SameContexts tasks tasks' := by
  have hunlinked := TaskTable.sameContexts_update tasks id (f := fun t => { t with link := none })
    fun _ => rfl
  unfold remove at h
  obtain ⟨t, -, h⟩ := bind_eq_ok_iff.1 h
  obtain ⟨⟨prev, next⟩, -, h⟩ := bind_eq_ok_iff.1 h
  dsimp only at h
  split at h
  · split at h
    · obtain ⟨u, -, h⟩ := bind_eq_ok_iff.1 h
      cases h
      exact hunlinked
    · cases h
  · obtain ⟨tasks₁, h₁, h⟩ := bind_eq_ok_iff.1 h
    obtain ⟨tasks₂, h₂, h⟩ := bind_eq_ok_iff.1 h
    have hrelinked := (hunlinked.trans (TaskTable.sameContexts_relink h₁)).trans
      (TaskTable.sameContexts_relink h₂)
    split at h
    · split at h <;> cases h <;> exact hrelinked
    · cases h

end ReadyQueue

namespace Kernel

variable {capacity levels : Nat} {k k' k'' : Kernel capacity levels} {id : TaskId} {t : Task}

/-! ## Scheduling -/

theorem sameContexts_withQueue
    {f : ReadyQueue levels → TaskTable → Except Panic (ReadyQueue levels × TaskTable)}
    (hf : ∀ {q tasks}, f k.queue k.tasks = .ok (q, tasks) → TaskTable.SameContexts k.tasks tasks)
    (h : k.withQueue f = .ok k') : TaskTable.SameContexts k.tasks k'.tasks := by
  obtain ⟨⟨q, tasks⟩, hresult, h⟩ := bind_eq_ok_iff.1 h
  cases h
  exact hf hresult

theorem sameContexts_makeReady (h : k.makeReady id = .ok k') :
    TaskTable.SameContexts k.tasks k'.tasks := by
  refine TaskTable.SameContexts.trans ?_ (sameContexts_withQueue ReadyQueue.sameContexts_pushBack h)
  exact k.sameContexts_updateTask id fun _ => rfl

theorem sameContexts_dequeue (h : k.dequeue id = .ok k') :
    TaskTable.SameContexts k.tasks k'.tasks :=
  sameContexts_withQueue ReadyQueue.sameContexts_remove h

theorem sameContexts_checkPreemption (h : k.checkPreemption = .ok k') :
    TaskTable.SameContexts k.tasks k'.tasks := by
  obtain ⟨highest, -, h⟩ := bind_eq_ok_iff.1 h
  cases highest with
  | none =>
    cases h
    exact .refl _
  | some p =>
    dsimp only at h
    split at h <;> cases h <;> exact .refl _

theorem sameContexts_withdraw (h : k.withdraw id t = .ok k') :
    TaskTable.SameContexts k.tasks k'.tasks := by
  unfold withdraw at h
  split at h
  · obtain ⟨u, -, h⟩ := bind_eq_ok_iff.1 h
    cases h
    exact .refl _
  · exact sameContexts_dequeue h
  · cases h
    exact .refl _

theorem sameContexts_markReady {answer : Except WakeError Unit}
    (h : (k.markReady id).result = .ok (answer, k')) :
    TaskTable.SameContexts k.tasks k'.tasks := by
  unfold markReady at h
  split at h
  · cases h
    exact .refl _
  · split at h
    · cases h
      exact .refl _
    · obtain ⟨u, -, h⟩ := Traced.bind_eq_ok.1 h
      obtain ⟨k₁, h₁, h⟩ := Traced.bind_eq_ok.1 h
      obtain ⟨k₂, h₂, h⟩ := Traced.bind_eq_ok.1 h
      cases h
      exact (sameContexts_makeReady h₁).trans (sameContexts_checkPreemption h₂)

theorem sameContexts_markBlocked {answer : Except BlockError Unit}
    (h : (k.markBlocked id).result = .ok (answer, k')) :
    TaskTable.SameContexts k.tasks k'.tasks := by
  unfold markBlocked at h
  split at h
  · cases h
    exact .refl _
  · split at h
    · cases h
      exact .refl _
    · obtain ⟨k₁, h₁, h⟩ := Traced.bind_eq_ok.1 h
      obtain ⟨u, -, h⟩ := Traced.bind_eq_ok.1 h
      cases h
      exact (sameContexts_withdraw h₁).trans (k₁.sameContexts_updateTask id fun _ => rfl)

theorem sameContexts_suspend {answer : Except SuspendError Unit}
    (h : (k.suspend id).result = .ok (answer, k')) :
    TaskTable.SameContexts k.tasks k'.tasks := by
  unfold suspend at h
  split at h
  · cases h
    exact .refl _
  · split at h
    · cases h
      exact .refl _
    · obtain ⟨k₁, h₁, h⟩ := Traced.bind_eq_ok.1 h
      obtain ⟨u, -, h⟩ := Traced.bind_eq_ok.1 h
      cases h
      exact (sameContexts_withdraw h₁).trans (k₁.sameContexts_updateTask id fun _ => rfl)

theorem sameContexts_coded {ε : Type} [OperationError ε] {code : ResultCode}
    {x : Traced (Except ε Unit × Kernel capacity levels)}
    (hx : ∀ {answer}, x.result = .ok (answer, k') → TaskTable.SameContexts k.tasks k'.tasks)
    (h : (coded <$> x).result = .ok (code, k')) : TaskTable.SameContexts k.tasks k'.tasks := by
  obtain ⟨answer, hresult, hanswer⟩ := Traced.map_eq_ok.1 h
  cases hanswer
  exact hx hresult

theorem sameContexts_perform {caller : Option TaskId} {service : Service} {argument : Word}
    {code : ResultCode} (h : (k.perform caller service argument).result = .ok (code, k')) :
    TaskTable.SameContexts k.tasks k'.tasks := by
  unfold perform at h
  split at h
  · cases h
    exact .refl _
  · exact sameContexts_coded sameContexts_markBlocked h
  · split at h
    · cases h
      exact .refl _
    · exact sameContexts_coded sameContexts_markReady h
  · exact sameContexts_coded sameContexts_suspend h
  · cases h
    exact .refl _
  · cases h
    exact .refl _

/-- No service touches a stack. -/
theorem sameContexts_serve {caller : Option TaskId} {number argument : Word} {code : ResultCode}
    (h : (k.serve caller number argument).result = .ok (code, k')) :
    TaskTable.SameContexts k.tasks k'.tasks := by
  unfold serve at h
  split at h
  · cases h
    exact .refl _
  · obtain ⟨u, -, h⟩ := Traced.bind_eq_ok.1 h
    obtain ⟨⟨code₁, k₁⟩, hperform, h⟩ := Traced.bind_eq_ok.1 h
    dsimp only at h
    split at h <;> cases h <;> exact sameContexts_perform hperform

theorem sameContexts_releaseCurrent {target : Option TaskId}
    (h : k.releaseCurrent target = .ok k') : TaskTable.SameContexts k.tasks k'.tasks := by
  unfold releaseCurrent at h
  split at h
  · cases h
    exact .refl _
  · split at h
    · cases h
      exact .refl _
    · obtain ⟨t, -, h⟩ := bind_eq_ok_iff.1 h
      split at h
      · exact sameContexts_makeReady h
      · cases h
      all_goals
        cases h
        exact .refl _

/-- Handing over the processor touches no stack. -/
theorem sameContexts_handOver {target : Option TaskId} (h : k.handOver target = .ok k') :
    TaskTable.SameContexts k.tasks k'.tasks := by
  obtain ⟨k₁, h₁, h⟩ := bind_eq_ok_iff.1 h
  refine (sameContexts_releaseCurrent h₁).trans ?_
  cases target with
  | none =>
    cases h
    exact .refl _
  | some id =>
    obtain ⟨k₂, hengage, h⟩ := bind_eq_ok_iff.1 h
    obtain ⟨k₃, hdequeue, hengage⟩ := bind_eq_ok_iff.1 hengage
    cases hengage
    cases h
    refine (sameContexts_dequeue hdequeue).trans ?_
    exact k₃.sameContexts_updateTask id (f := fun t => { t with state := .running }) fun _ => rfl

/-! ## Stacks -/

/-- Every task is still there, and of its stack only words at addresses with a
property have changed. -/
def ChangesOnly (p : TaskId → Nat → Prop) (k k' : Kernel capacity levels) : Prop :=
  ∀ id t, k.task? id = some t → ∃ t', k'.task? id = some t' ∧ t.stack.ChangesOnly (p id) t'.stack

namespace ChangesOnly

variable {p q : TaskId → Nat → Prop}

theorem refl (p : TaskId → Nat → Prop) (k : Kernel capacity levels) : k.ChangesOnly p k :=
  fun _ t ht => ⟨t, ht, .refl _ _⟩

theorem trans (h : k.ChangesOnly p k') (h' : k'.ChangesOnly p k'') : k.ChangesOnly p k'' := by
  intro id t ht
  obtain ⟨t', ht', hstack⟩ := h id t ht
  obtain ⟨t'', ht'', hstack'⟩ := h' id t' ht'
  exact ⟨t'', ht'', hstack.trans hstack'⟩

theorem mono (h : k.ChangesOnly p k') (hpq : ∀ id a, p id a → q id a) : k.ChangesOnly q k' := by
  intro id t ht
  obtain ⟨t', ht', hstack⟩ := h id t ht
  exact ⟨t', ht', hstack.mono (hpq id)⟩

theorem of_sameContexts (h : TaskTable.SameContexts k.tasks k'.tasks) : k.ChangesOnly p k' := by
  intro id t ht
  obtain ⟨t', ht', hcontext⟩ := h.exists_of_getElem? ht
  refine ⟨t', ht', ?_⟩
  rw [(Task.stack_eq_of_context hcontext).1]
  exact .refl _ _

/-- A task of which no word may change keeps its stack. -/
theorem exists_stack_eq (h : k.ChangesOnly p k') (ht : k.task? id = some t) (hp : ∀ a, ¬p id a) :
    ∃ t', k'.task? id = some t' ∧ t'.stack = t.stack := by
  obtain ⟨t', ht', hstack⟩ := h id t ht
  exact ⟨t', ht', hstack.eq hp⟩

end ChangesOnly

/-- A change of one task changes no other stack. -/
theorem changesOnly_updateTask {p : TaskId → Nat → Prop} (id : TaskId) {f : Task → Task}
    (hf : ∀ t, k.task? id = some t → t.stack.ChangesOnly (p id) (f t).stack) :
    k.ChangesOnly p (k.updateTask id f) := by
  intro j t ht
  rw [task?_updateTask]
  by_cases hj : j = id
  · subst hj
    rw [if_pos rfl, ht]
    exact ⟨f t, rfl, hf t ht⟩
  · rw [if_neg hj]
    exact ⟨t, ht, .refl _ _⟩

/-- Saving a context changes words below the stack pointer on the stack of that
task only, also if it is refused. -/
theorem changesOnly_saveContext {cfg : Config} {r : RegisterFile} {kind : FrameKind}
    {answer : Except ContextError Word}
    (h : (k.saveContext cfg.layouts r id kind).result = .ok (answer, k')) :
    k.ChangesOnly (fun j a => j = id ∧ (cfg.layouts.layout kind).Below r.sp a) k' := by
  rcases saveContext_cases h with ⟨e, -, rfl⟩ | ⟨t, stack, sp, -, ht, hsave, rfl⟩
  · exact .refl _ k'
  · refine changesOnly_updateTask id fun u hu => ?_
    obtain rfl : t = u := Option.some.inj (ht.symm.trans hu)
    exact (FrameLayout.changesOnly_save (cfg.valid_layout kind) hsave).mono fun _ ha => ⟨rfl, ha⟩

/-- A context that was saved ends at the stack pointer. -/
theorem sp_of_saveContext {cfg : Config} {r : RegisterFile} {kind : FrameKind} {sp : Word}
    (h : (k.saveContext cfg.layouts r id kind).result = .ok (.ok sp, k')) :
    sp.toNat + (cfg.layouts.layout kind).frameSize = r.sp.toNat := by
  obtain ⟨t, stack, -, hsave, -⟩ := saveContext_eq_ok h
  exact (FrameLayout.frameAt_of_save (cfg.valid_layout kind) hsave).2.2.1

end Kernel

end HartKernel
