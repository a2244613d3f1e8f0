import HartKernel.Proofs.Kernel.Invariant

/-!
# Saved contexts

Every task has a frame where its record says, so that its registers can be
loaded whenever it gets the processor.  A call changes the saved context of at
most one task.

Main definitions:

- `RegisterFile.Agree` compares registers as far as a frame preserves them.
- `Task.Holds` says that a task has a frame with given registers.
- `Kernel.Framed` says that every task has a frame, and `Kernel.Keeps` that the
  frame of one task holds given registers.
- `Kernel.Answered` says what a call may do to contexts.
- `Kernel.Whole` says that the scheduler invariant holds and that every task has
  a frame, and `Kernel.Spares` that the frames of some tasks were left alone.

Main results:

- `Kernel.Implements.answered`: every call does one of these things.
- `Kernel.Answered.framed` and `Kernel.Answered.keeps`: what they mean for the
  frames of all tasks and of one task.
- `Kernel.Keeps.restore`: registers that are kept are loaded.
- `Kernel.Whole.spares_invoke`: a call spares the tasks that it neither saves nor
  gives the processor to.
-/

namespace HartKernel

/-- Registers agree in the stack pointer and in what a frame preserves.  The
status belongs to the hart. -/
def RegisterFile.Agree (l : FrameLayout) (r r' : RegisterFile) : Prop :=
  r'.sp = r.sp ∧ ∀ s ∈ l.slots, s ≠ .status → r'.get s = r.get s

instance (l : FrameLayout) (r r' : RegisterFile) : Decidable (RegisterFile.Agree l r r') :=
  inferInstanceAs (Decidable (_ ∧ _))

namespace RegisterFile

theorem Agree.refl (l : FrameLayout) (r : RegisterFile) : Agree l r r :=
  ⟨rfl, fun _ _ _ => rfl⟩

theorem Agree.trans {l : FrameLayout} {r r₁ r₂ : RegisterFile} (h : Agree l r r₁)
    (h' : Agree l r₁ r₂) : Agree l r r₂ :=
  ⟨h'.1.trans h.1, fun s hs hne => (h'.2 s hs hne).trans (h.2 s hs hne)⟩

/-- A change of the status does not matter. -/
theorem agree_status (l : FrameLayout) (r : RegisterFile) (status : Word) :
    Agree l r { r with status := status } := by
  refine ⟨rfl, fun s _ hne => ?_⟩
  cases s with
  | status => exact absurd rfl hne
  | _ => rfl

end RegisterFile

namespace Task

/-- A task has a frame where its record says. -/
def Framed (cfg : Config) (t : Task) : Prop :=
  (cfg.layouts.layout t.frameKind).FrameAt t.stack t.savedSp

/-- A task has a frame of a variant that holds given registers. -/
structure Holds (cfg : Config) (kind : FrameKind) (r : RegisterFile) (t : Task) : Prop where
  variant : t.frameKind = kind
  frame : (cfg.layouts.layout kind).FrameAt t.stack t.savedSp
  payload : (cfg.layouts.layout kind).payload t.stack t.savedSp =
    (cfg.layouts.layout kind).slots.map r.get
  above : t.savedSp.toNat + (cfg.layouts.layout kind).frameSize = r.sp.toNat

variable {cfg : Config} {kind : FrameKind} {r : RegisterFile} {t u : Task}

theorem stack_eq_of_context (h : u.context = t.context) :
    u.stack = t.stack ∧ u.savedSp = t.savedSp ∧ u.frameKind = t.frameKind := by
  have hstack := congrArg Task.stack h
  have hsp := congrArg Task.savedSp h
  have hkind := congrArg Task.frameKind h
  exact ⟨hstack, hsp, hkind⟩

theorem Framed.of_context (h : t.Framed cfg) (hcontext : u.context = t.context) : u.Framed cfg := by
  obtain ⟨hstack, hsp, hkind⟩ := stack_eq_of_context hcontext
  rw [Framed, hstack, hsp, hkind]
  exact h

theorem Holds.of_context (h : t.Holds cfg kind r) (hcontext : u.context = t.context) :
    u.Holds cfg kind r := by
  obtain ⟨hstack, hsp, hkind⟩ := stack_eq_of_context hcontext
  refine ⟨hkind.trans h.variant, ?_, ?_, ?_⟩
  · rw [hstack, hsp]
    exact h.frame
  · rw [hstack, hsp]
    exact h.payload
  · rw [hsp]
    exact h.above

theorem Holds.framed (h : t.Holds cfg kind r) : t.Framed cfg := by
  rw [Framed, h.variant]
  exact h.frame

/-- A task whose registers were just saved holds them. -/
theorem holds_of_save {stack stack' : StackRegion} {sp : Word}
    (hsave : ((cfg.layouts.layout kind).save r stack r.sp).result = .ok (.ok sp, stack'))
    (t : Task) : { t with stack := stack', savedSp := sp, frameKind := kind }.Holds cfg kind r := by
  obtain ⟨hframe, hpayload, habove, -⟩ :=
    FrameLayout.frameAt_of_save (cfg.valid_layout kind) hsave
  exact ⟨rfl, hframe, hpayload, habove⟩

end Task

namespace Kernel

variable {capacity levels : Nat} {k k' : Kernel capacity levels} {s : Schedule}
variable {cfg : Config} {kind : FrameKind} {id a : TaskId} {t : Task} {r r' q : RegisterFile}
variable {call : KernelCall} {ok : Bool}

/-- Every task has a frame where its record says. -/
def Framed (cfg : Config) (k : Kernel capacity levels) : Prop :=
  ∀ id t, k.task? id = some t → t.Framed cfg

/-- The saved frame of a task holds given registers. -/
def Keeps (cfg : Config) (k : Kernel capacity levels) (id : TaskId) (kind : FrameKind)
    (r : RegisterFile) : Prop :=
  ∃ t, k.task? id = some t ∧ t.Holds cfg kind r

/-! ## Equal contexts -/

theorem exists_task?_of_sameContexts (hsame : TaskTable.SameContexts k.tasks k'.tasks)
    (ht : k'.task? id = some t) : ∃ u, k.task? id = some u ∧ t.context = u.context := by
  have hcontext : (k'.task? id).map Task.context = (k.task? id).map Task.context := by
    rw [task?, task?, ← Array.getElem?_map, ← Array.getElem?_map, hsame]
  rw [ht, Option.map_some] at hcontext
  obtain ⟨u, hu, heq⟩ := Option.map_eq_some_iff.1 hcontext.symm
  exact ⟨u, hu, heq.symm⟩

theorem Framed.of_sameContexts (h : k.Framed cfg)
    (hsame : TaskTable.SameContexts k.tasks k'.tasks) : k'.Framed cfg := by
  intro id t ht
  obtain ⟨u, hu, hcontext⟩ := exists_task?_of_sameContexts hsame ht
  exact (h id u hu).of_context hcontext

theorem Keeps.of_sameContexts (h : k.Keeps cfg id kind r)
    (hsame : TaskTable.SameContexts k.tasks k'.tasks) : k'.Keeps cfg id kind r := by
  obtain ⟨t, ht, hholds⟩ := h
  have hsymm : TaskTable.SameContexts k'.tasks k.tasks := hsame.symm
  obtain ⟨u, hu, hcontext⟩ := exists_task?_of_sameContexts hsymm ht
  exact ⟨u, hu, hholds.of_context hcontext.symm⟩

/-! ## One changed context -/

theorem Framed.updateTask (h : k.Framed cfg) {f : Task → Task}
    (hf : ∀ t, k.task? id = some t → (f t).Framed cfg) : (k.updateTask id f).Framed cfg := by
  intro j u hu
  rw [task?_updateTask] at hu
  split at hu
  · rename_i hj
    obtain ⟨t, ht, rfl⟩ := Option.map_eq_some_iff.1 hu
    exact hf t (hj ▸ ht)
  · exact h j u hu

theorem Keeps.updateTask_of_ne (h : k.Keeps cfg a kind r) (hne : id ≠ a) (f : Task → Task) :
    (k.updateTask id f).Keeps cfg a kind r := by
  obtain ⟨t, ht, hholds⟩ := h
  refine ⟨t, ?_, hholds⟩
  rw [task?_updateTask, if_neg (Ne.symm hne)]
  exact ht

/-- The task whose registers were just saved keeps them. -/
theorem keeps_of_save {stack stack' : StackRegion} {sp : Word} (ht : k.task? id = some t)
    (hsave : ((cfg.layouts.layout kind).save r stack r.sp).result = .ok (.ok sp, stack')) :
    (k.updateTask id fun t =>
      { t with stack := stack', savedSp := sp, frameKind := kind }).Keeps cfg id kind r := by
  refine ⟨_, ?_, Task.holds_of_save hsave t⟩
  rw [task?_updateTask, if_pos rfl, ht]
  rfl

theorem Framed.of_save (h : k.Framed cfg) {stack stack' : StackRegion} {sp : Word}
    (hsave : ((cfg.layouts.layout kind).save r stack r.sp).result = .ok (.ok sp, stack')) :
    (k.updateTask id fun t =>
      { t with stack := stack', savedSp := sp, frameKind := kind }).Framed cfg :=
  h.updateTask fun t _ => (Task.holds_of_save hsave t).framed

theorem task?_addTask (k : Kernel capacity levels) (t : Task) (j : TaskId) :
    (k.addTask t).task? j = if j.index = k.tasks.size then some t else k.task? j := by
  rw [task?, addTask, Array.getElem?_push]
  rfl

/-! ## Loading -/

/-- Registers that are kept are loaded. -/
theorem Keeps.restore (h : k.Keeps cfg id kind r) (q : RegisterFile) :
    ∃ r', (k.restoreContext cfg.layouts q id).result = .ok (.ok kind, r') ∧
      RegisterFile.Agree (cfg.layouts.layout kind) r r' := by
  obtain ⟨t, ht, hvariant, hframe, hpayload, habove⟩ := h
  subst hvariant
  refine ⟨_, restoreContext_eq ht hframe q, ?_, fun s hs _ => ?_⟩
  · rw [RegisterFile.sp_setSp, habove, BitVec.ofNat_toNat, BitVec.setWidth_eq]
  · obtain ⟨hzero, hsp⟩ := FrameLayouts.notMem_standard cfg.includeFp t.frameKind
    have hne : s ≠ .sp := fun e => hsp (e ▸ hs)
    have hne0 : s ≠ .int 0 := fun e => hzero (e ▸ hs)
    rw [← RegisterFile.set_sp, RegisterFile.get_set_of_ne hne, hpayload]
    exact RegisterFile.get_setAll hs (cfg.valid_layout t.frameKind s hs) hne0 r q

/-- What was loaded from a kept frame. -/
theorem Keeps.agree (h : k.Keeps cfg id kind r) {kind' : FrameKind}
    (hload : (k.restoreContext cfg.layouts q id).result = .ok (.ok kind', r')) :
    kind' = kind ∧ RegisterFile.Agree (cfg.layouts.layout kind) r r' := by
  obtain ⟨r₁, hresult, hagree⟩ := h.restore q
  rw [hresult] at hload
  cases hload
  exact ⟨rfl, hagree⟩

/-- A task that can be switched to is loaded. -/
theorem Framed.exists_loadTarget (h : k.Framed cfg) (hcheck : k.checkTarget id = .ok ())
    (q : RegisterFile) :
    ∃ kind r', (k.loadTarget cfg.layouts q (some id)).result = .ok (.ok (some kind), r') := by
  obtain ⟨t, ht⟩ : ∃ t, k.task? id = some t := by
    unfold checkTarget at hcheck
    split at hcheck
    · cases hcheck
    · rename_i t ht
      exact ⟨t, ht⟩
  obtain ⟨kind, r', hrestore⟩ : ∃ kind r',
      (k.restoreContext cfg.layouts q id).result = .ok (.ok kind, r') :=
    ⟨_, _, restoreContext_eq ht (h id t ht) q⟩
  refine ⟨kind, r', ?_⟩
  unfold loadTarget
  simp only [hcheck, Traced.result_bind, hrestore, ok_bind]
  rfl

/-! ## Calls -/

/-- What a call may do to contexts and to the processor.  A call that is refused
does nothing to them. -/
inductive Answered (cfg : Config) (k : Kernel capacity levels) (r : RegisterFile) :
    KernelCall → Bool → Kernel capacity levels → RegisterFile → Prop where
  | quiet {call : KernelCall} {ok : Bool} {k' : Kernel capacity levels} {r' : RegisterFile}
    (hquiet : ok = true → call.Quiet) (hsame : TaskTable.SameContexts k.tasks k'.tasks)
    (hrunning : k'.running = k.running) : Answered cfg k r call ok k' r'
  | create {a : TaskAttributes} {stack : StackRegion} {t : Task} (hframed : t.Framed cfg) :
    Answered cfg k r (.create a stack) true (k.addTask t) r
  | save {id : TaskId} {kind : FrameKind} {t : Task} {stack : StackRegion} {sp : Word}
    (ht : k.task? id = some t)
    (hsave : ((cfg.layouts.layout kind).save r t.stack r.sp).result = .ok (.ok sp, stack)) :
    Answered cfg k r (.save id kind) true
      (k.updateTask id fun t => { t with stack := stack, savedSp := sp, frameKind := kind }) r
  | switch {source target : TaskId} {t : Task} {stack : StackRegion} {sp : Word}
    {kind : FrameKind} {k' : Kernel capacity levels} {r' : RegisterFile}
    (ht : k.task? source = some t) (hsource : k.running = some source)
    (hsave : ((cfg.layouts.layout .cooperative).save r t.stack r.sp).result = .ok (.ok sp, stack))
    (hload : ((k.recordCall source stack sp).restoreContext cfg.layouts r target).result =
      .ok (.ok kind, r'))
    (hsame : TaskTable.SameContexts (k.recordCall source stack sp).tasks k'.tasks)
    (hrunning : k'.running = some target) : Answered cfg k r (.switch source target) true k' r'
  | switchTo {target : Option TaskId} {kind : Option FrameKind} {k' : Kernel capacity levels}
    {r' : RegisterFile}
    (hload : (k.loadTarget cfg.layouts r target).result = .ok (.ok kind, r'))
    (hsame : TaskTable.SameContexts k.tasks k'.tasks) (hrunning : k'.running = target) :
    Answered cfg k r (.switchTo target) true k' r'

theorem checkTarget_recordCall (k : Kernel capacity levels) (id : TaskId) (stack : StackRegion)
    (sp : Word) (target : TaskId) :
    (k.recordCall id stack sp).checkTarget target = k.checkTarget target := by
  unfold checkTarget recordCall
  rw [task?_updateTask]
  by_cases htarget : target = id
  · rw [if_pos htarget]
    cases k.task? target <;> rfl
  · rw [if_neg htarget]

/-- Every call does one of these things. -/
theorem Implements.answered (h : k.Implements s) (hv : s.Valid levels) (hframed : k.Framed cfg)
    (hcall : (k.invoke cfg r call).result = .ok (ok, k', r')) :
    Answered cfg k r call ok k' r' := by
  have hquiet : call.Quiet → Answered cfg k r call ok k' r' := by
    intro hquiet
    obtain ⟨ok₁, k₁, r₁, s₁, hresult, h₁, hstep, hsame⟩ := h.invoke hv cfg r call
    rw [hresult] at hcall
    cases hcall
    refine .quiet (fun _ => hquiet) (hsame hquiet) ?_
    rw [← h₁.running, hstep.running_eq hquiet, h.running]
  have hrefused : ∀ {call : KernelCall} {r' : RegisterFile}, Answered cfg k r call false k r' :=
    .quiet (fun hok => by cases hok) (.refl _) rfl
  cases call with
  | create a stack =>
    obtain ⟨answer, k₁, hresult, hcases⟩ := h.create cfg a stack
    rw [Kernel.invoke, Traced.result_map, hresult] at hcall
    cases hcall
    rcases hcases with ⟨e, rfl, rfl⟩ | ⟨id, stack', sp, rfl, -, -, hsave, rfl, -⟩
    · exact hrefused
    · exact .create (FrameLayout.frameAt_of_save cfg.valid_cooperative hsave).1
  | save id kind =>
    obtain ⟨answer, k₁, hresult, -, hcases⟩ := h.saveContext cfg r id kind
    rw [Kernel.invoke, Traced.result_map, hresult] at hcall
    cases hcall
    rcases hcases with ⟨e, rfl, rfl⟩ | ⟨t, stack, sp, rfl, ht, hsave, rfl⟩
    · exact hrefused
    · exact .save ht hsave
  | switch source target =>
    rcases switch_eq cfg k r source target with
      ⟨e, he⟩ | ⟨t, stack, sp, ht, hsource, hcheck, hsave, heq⟩
    · rw [Kernel.invoke, Traced.result_map, he] at hcall
      cases hcall
      exact hrefused
    · -- the target has a frame, so the second half of the switch is not refused
      have hsaved : ((cfg.layouts.layout .cooperative).save r t.stack r.sp).result =
          .ok (.ok sp, stack) := hsave
      have hrecorded : (k.recordCall source stack sp).Framed cfg := hframed.of_save hsaved
      rw [← checkTarget_recordCall k source stack sp] at hcheck
      obtain ⟨kind, r₁, hload⟩ := hrecorded.exists_loadTarget hcheck r
      obtain ⟨answer, k₁, r₂, hresult, hcases⟩ :=
        (h.recordCall source stack sp).switchTo hv cfg r (some target)
      rw [Kernel.invoke, Traced.result_map, heq, hresult] at hcall
      rcases hcases with ⟨e, -, -, he⟩ | ⟨kind', rfl, hload', -, h₁, hsame⟩
      · rw [hload] at he
        cases he
      · cases hcall
        rw [hload] at hload'
        cases hload'
        rcases loadTarget_cases hload with ⟨hnone, -⟩ | ⟨id, kind₁, hid, -, hrestore⟩
        · cases hnone
        · cases hid
          exact .switch ht hsource hsaved hrestore hsame
            (h₁.running.symm.trans (Schedule.running_handOver s _))
  | switchTo target =>
    obtain ⟨answer, k₁, r₁, hresult, hcases⟩ := h.switchTo hv cfg r target
    rw [Kernel.invoke, Traced.result_map, hresult] at hcall
    cases hcall
    rcases hcases with ⟨e, rfl, rfl, -⟩ | ⟨kind, rfl, hload, -, h₁, hsame⟩
    · exact hrefused
    · exact .switchTo hload hsame (h₁.running.symm.trans (Schedule.running_handOver s _))
  | _ => exact hquiet trivial

end Kernel

/-- The task that a call saves registers for. -/
def KernelCall.saved? : KernelCall → Option TaskId
  | .save id _ | .switch id _ => some id
  | _ => none

/-- The task that a call gives the processor to. -/
def KernelCall.target? : KernelCall → Option TaskId
  | .switch _ target => some target
  | .switchTo target => target
  | _ => none

namespace Kernel

variable {capacity levels : Nat} {k k' : Kernel capacity levels} {cfg : Config}
variable {kind : FrameKind} {a : TaskId} {r r' r₀ : RegisterFile} {call : KernelCall} {ok : Bool}

theorem Framed.addTask (h : k.Framed cfg) {t : Task} (ht : t.Framed cfg) :
    (k.addTask t).Framed cfg := by
  intro id u hu
  rw [task?_addTask] at hu
  split at hu
  · cases hu
    exact ht
  · exact h id u hu

theorem Keeps.addTask (h : k.Keeps cfg a kind r) (t : Task) : (k.addTask t).Keeps cfg a kind r := by
  obtain ⟨u, hu, hholds⟩ := h
  have hlt : a.index < k.tasks.size := (Array.getElem?_eq_some_iff.1 hu).1
  refine ⟨u, ?_, hholds⟩
  rw [task?_addTask, if_neg hlt.ne]
  exact hu

namespace Answered

/-- A call keeps a frame for every task. -/
theorem framed (h : Answered cfg k r call ok k' r') (hframed : k.Framed cfg) : k'.Framed cfg := by
  cases h with
  | quiet hquiet hsame hrunning => exact hframed.of_sameContexts hsame
  | create ht => exact hframed.addTask ht
  | save ht hsave => exact hframed.of_save hsave
  | switch ht hsource hsave hload hsame hrunning =>
    exact (hframed.of_save hsave).of_sameContexts hsame
  | switchTo hload hsame hrunning => exact hframed.of_sameContexts hsame

/-- A call that does not save a task leaves its frame alone. -/
theorem keeps (h : Answered cfg k r call ok k' r') (hkeeps : k.Keeps cfg a kind r₀)
    (hother : ok = true → call.saved? ≠ some a) : k'.Keeps cfg a kind r₀ := by
  cases h with
  | quiet hquiet hsame hrunning => exact hkeeps.of_sameContexts hsame
  | create ht => exact hkeeps.addTask _
  | save ht hsave => exact hkeeps.updateTask_of_ne (fun h => hother rfl (congrArg some h)) _
  | switch ht hsource hsave hload hsame hrunning =>
    exact (hkeeps.updateTask_of_ne (fun h => hother rfl (congrArg some h)) _).of_sameContexts hsame
  | switchTo hload hsame hrunning => exact hkeeps.of_sameContexts hsame

/-- A task is the current one because it was, or because the call gave it the
processor. -/
theorem running (h : Answered cfg k r call ok k' r') (hrunning : k'.running = some a) :
    k.running = some a ∨ ok = true ∧ call.target? = some a := by
  cases h with
  | quiet hquiet hsame hsameRunning => exact .inl (hsameRunning.symm.trans hrunning)
  | create ht => exact .inl hrunning
  | save ht hsave => exact .inl hrunning
  | switch ht hsource hsave hload hsame htarget =>
    exact .inr ⟨rfl, htarget.symm.trans hrunning⟩
  | switchTo hload hsame htarget => exact .inr ⟨rfl, htarget.symm.trans hrunning⟩

/-- A call that gives the processor to a task loads the registers that the frame
of the task holds. -/
theorem agree (h : Answered cfg k r call true k' r') (hkeeps : k.Keeps cfg a kind r₀)
    (hother : call.saved? ≠ some a) (htarget : call.target? = some a) :
    RegisterFile.Agree (cfg.layouts.layout kind) r₀ r' := by
  cases h with
  | quiet hquiet hsame hrunning =>
    have hcall := hquiet rfl
    cases call <;> first | exact hcall.elim | cases htarget
  | create ht => cases htarget
  | save ht hsave => cases htarget
  | switch ht hsource hsave hload hsame hrunning =>
    cases htarget
    exact ((hkeeps.updateTask_of_ne (fun h => hother (congrArg some h)) _).agree hload).2
  | switchTo hload hsame hrunning =>
    cases htarget
    rcases loadTarget_cases hload with ⟨hnone, -⟩ | ⟨id, kind', hid, -, hrestore⟩
    · cases hnone
    · cases hid
      exact (hkeeps.agree hrestore).2

end Answered

/-! ## Frames that are left alone -/

/-- The scheduler invariant holds, and every task has a frame. -/
structure Whole (cfg : Config) (k : Kernel capacity levels) : Prop where
  scheduled : ∃ s, k.Implements s ∧ s.Valid levels
  framed : k.Framed cfg

/-- A whole kernel came out of another one.  The frames of some tasks were left
alone on the way, and none of these tasks got the processor. -/
structure Spares (cfg : Config) (k k' : Kernel capacity levels) (spared : TaskId → Prop) :
    Prop where
  whole : k'.Whole cfg
  keeps : ∀ a, spared a → ∀ kind r, k.Keeps cfg a kind r → k'.Keeps cfg a kind r
  running : ∀ a, spared a → k'.running = some a → k.running = some a

variable {k₁ : Kernel capacity levels} {spared spared' : TaskId → Prop} {id : TaskId}

namespace Spares

theorem refl (h : k.Whole cfg) (spared : TaskId → Prop) : k.Spares cfg k spared :=
  ⟨h, fun _ _ _ _ hkeeps => hkeeps, fun _ _ hrunning => hrunning⟩

theorem trans (h : k.Spares cfg k₁ spared) (h' : k₁.Spares cfg k' spared) :
    k.Spares cfg k' spared :=
  ⟨h'.whole, fun a ha kind r hkeeps => h'.keeps a ha kind r (h.keeps a ha kind r hkeeps),
    fun a ha hrunning => h.running a ha (h'.running a ha hrunning)⟩

theorem mono (h : k.Spares cfg k' spared) (hle : ∀ a, spared' a → spared a) :
    k.Spares cfg k' spared' :=
  ⟨h.whole, fun a ha => h.keeps a (hle a ha), fun a ha => h.running a (hle a ha)⟩

end Spares

namespace Whole

theorem wellFormed (h : k.Whole cfg) : k.WellFormed := by
  obtain ⟨s, himpl, hvalid⟩ := h.scheduled
  exact himpl.wellFormed hvalid

/-- Changes for the scheduler only spare all frames. -/
theorem spares_of_sameContexts (h : k.Whole cfg)
    (hscheduled : ∃ s, k'.Implements s ∧ s.Valid levels)
    (hsame : TaskTable.SameContexts k.tasks k'.tasks) (hrunning : k'.running = k.running) :
    k.Spares cfg k' fun _ => True :=
  ⟨⟨hscheduled, h.framed.of_sameContexts hsame⟩, fun _ _ _ _ hkeeps => hkeeps.of_sameContexts hsame,
    fun _ _ hcurrent => hrunning.symm.trans hcurrent⟩

theorem spares_requestDispatch (h : k.Whole cfg) :
    k.Spares cfg k.requestDispatch fun _ => True := by
  obtain ⟨s, himpl, hvalid⟩ := h.scheduled
  exact h.spares_of_sameContexts ⟨_, himpl.requestDispatch, hvalid.requestDispatch⟩ (.refl _) rfl

theorem spares_advanceTick (h : k.Whole cfg) : k.Spares cfg k.advanceTick fun _ => True := by
  obtain ⟨s, himpl, hvalid⟩ := h.scheduled
  exact h.spares_of_sameContexts ⟨_, himpl.advanceTick, hvalid.advanceTick⟩ (.refl _) rfl

/-- A call spares the tasks that it neither saves nor gives the processor to. -/
theorem spares_invoke (h : k.Whole cfg)
    (hcall : (k.invoke cfg r call).result = .ok (ok, k', r')) :
    k.Spares cfg k' fun a => ok = true → call.saved? ≠ some a ∧ call.target? ≠ some a := by
  obtain ⟨s, himpl, hvalid⟩ := h.scheduled
  have hanswered := himpl.answered hvalid h.framed hcall
  obtain ⟨ok₁, k₁, r₁, s₁, hresult, himpl₁, hstep, -⟩ := himpl.invoke hvalid cfg r call
  rw [hresult] at hcall
  cases hcall
  refine ⟨⟨⟨s₁, himpl₁, hstep.valid hvalid⟩, hanswered.framed h.framed⟩, ?_, ?_⟩
  · intro a ha kind r₀ hkeeps
    exact hanswered.keeps hkeeps fun hok => (ha hok).1
  · intro a ha hrunning
    rcases hanswered.running hrunning with hbefore | ⟨hok, htarget⟩
    · exact hbefore
    · exact absurd htarget (ha hok).2

/-- A task that has switched to another one keeps its registers. -/
theorem keeps_of_switch (h : k.Whole cfg) {target : TaskId}
    (hcall : (k.invoke cfg r (.switch a target)).result = .ok (true, k', r')) :
    k.running = some a ∧ k'.Keeps cfg a .cooperative r ∧ k'.running = some target := by
  obtain ⟨s, himpl, hvalid⟩ := h.scheduled
  cases himpl.answered hvalid h.framed hcall with
  | quiet hquiet hsame hrunning => exact (hquiet rfl).elim
  | switch ht hsource hsave hload hsame hrunning =>
    exact ⟨hsource, (keeps_of_save ht hsave).of_sameContexts hsame, hrunning⟩

/-- A change of one context spares the other tasks. -/
theorem spares_updateContext (h : k.Whole cfg) {f : Task → Task}
    (hentry : ∀ t, (f t).entry = t.entry) (hlink : ∀ t, (f t).link = t.link)
    (hframed : ∀ t, k.task? id = some t → (f t).Framed cfg) :
    k.Spares cfg (k.updateTask id f) fun a => a ≠ id := by
  obtain ⟨s, himpl, hvalid⟩ := h.scheduled
  refine ⟨⟨⟨s, himpl.updateContext id hentry hlink, hvalid⟩, h.framed.updateTask hframed⟩, ?_, ?_⟩
  · intro a ha kind r hkeeps
    exact hkeeps.updateTask_of_ne (Ne.symm ha) f
  · intro a _ hrunning
    exact hrunning

/-- Saving one task spares the others, and the task keeps the registers. -/
theorem spares_saveContext (h : k.Whole cfg) {sp : Word}
    (hsave : (k.saveContext cfg.layouts r id kind).result = .ok (.ok sp, k')) :
    (k.Spares cfg k' fun a => a ≠ id) ∧ k'.Keeps cfg id kind r ∧ sp.toNat % 16 = 0 := by
  obtain ⟨t, stack, ht, hsaved, rfl⟩ := saveContext_eq_ok hsave
  exact ⟨h.spares_updateContext (fun _ => rfl) (fun _ => rfl)
    fun t _ => (Task.holds_of_save hsaved t).framed, keeps_of_save ht hsaved,
    (FrameLayout.frameAt_of_save (cfg.valid_layout kind) hsaved).1.aligned⟩

end Whole

end Kernel

end HartKernel
