import HartKernel.Kernel.Services
import HartKernel.Proofs.Kernel.Contexts

/-!
# Kernel calls

Everything that can be asked of the kernel, as data, so that a history of the
kernel is a list.  No call ever fails a check of the kernel, and what a call
does to the schedule depends on the schedule only, except for whether a frame
could be saved or loaded.

Main definitions:

- `KernelCall` lists the calls and `Kernel.invoke` makes one.
- `Schedule.Step` says what a call may do to a schedule.

Main results:

- `Schedule.Step.valid`: a call keeps the scheduler invariant.
- `Schedule.Step.running_eq`: a quiet call leaves the current task alone.
- `Schedule.Step.tick_eq`: no other call counts a tick than the one that does so.
- `Kernel.Implements.invoke`: a call goes well and takes a step of the schedule.
-/

namespace HartKernel

/-- What can be asked of the kernel. -/
inductive KernelCall where
  | create (a : TaskAttributes) (stack : StackRegion)
  | activate (id : TaskId)
  | markReady (id : TaskId)
  | markBlocked (id : TaskId)
  | suspend (id : TaskId)
  | resume (id : TaskId)
  | setPriority (id : TaskId) (priority : Nat)
  | requestDispatch
  | takeDispatch
  | advanceTick
  | save (id : TaskId) (kind : FrameKind)
  | restore (id : TaskId)
  | switch (source target : TaskId)
  | switchTo (target : Option TaskId)
  | serve (caller : Option TaskId) (number argument : Word)

/-- The calls that work on existing tasks and neither save registers nor hand
over the processor. -/
def KernelCall.Quiet : KernelCall → Prop
  | .create _ _ | .save _ _ | .switch _ _ | .switchTo _ => False
  | _ => True

namespace Kernel

variable {capacity levels : Nat}

/-- Keep of an answer whether the call went well, and add the registers. -/
def reply {ε α : Type} (r : RegisterFile) :
    Except ε α × Kernel capacity levels → Bool × Kernel capacity levels × RegisterFile
  | (answer, k) => (answer.isOk, k, r)

/-- Make a call with given live registers.  Answers whether the call went well,
the state after it and the live registers after it. -/
def invoke (cfg : Config) (k : Kernel capacity levels) (r : RegisterFile) :
    KernelCall → Traced (Bool × Kernel capacity levels × RegisterFile)
  | .create a stack => reply r <$> k.create cfg a stack
  | .activate id => reply r <$> k.activate id
  | .markReady id => reply r <$> k.markReady id
  | .markBlocked id => reply r <$> k.markBlocked id
  | .suspend id => reply r <$> k.suspend id
  | .resume id => reply r <$> k.resume id
  | .setPriority id priority => reply r <$> k.setPriority id priority
  | .requestDispatch => pure (true, k.requestDispatch, r)
  | .takeDispatch => pure (true, k.takeDispatch.2, r)
  | .advanceTick => pure (true, k.advanceTick, r)
  | .save id kind => reply r <$> k.saveContext cfg.layouts r id kind
  | .restore id =>
    (fun answer => (answer.1.isOk, k, answer.2)) <$> k.restoreContext cfg.layouts r id
  | .switch source target =>
    (fun answer => (answer.1.isOk, answer.2)) <$> k.switch cfg.layouts r source target
  | .switchTo target =>
    (fun answer => (answer.1.isOk, answer.2)) <$> k.switchTo cfg.layouts r target
  | .serve caller number argument =>
    (fun answer => (!answer.1.isErr, answer.2, r)) <$> k.serve caller number argument

end Kernel

/-! ## Calls on schedules -/

namespace Schedule

variable {levels : Nat} {s s' : Schedule}

/-- Execute a known service. -/
def perform (levels : Nat) (s : Schedule) (caller : Option TaskId) (service : Service)
    (argument : Word) : Schedule :=
  match service, caller with
  | .block, some id => s.markBlocked id
  | .suspendSelf, some id => s.suspend id
  | .wake, _ =>
    match TaskId.ofRaw? argument.toNat with
    | none => s
    | some id => s.markReady levels id
  | .yield, _ | .block, none | .suspendSelf, none => s

/-- Execute the service with a number. -/
def serve (levels : Nat) (s : Schedule) (caller : Option TaskId) (number argument : Word) :
    Schedule :=
  match Service.ofNumber? number with
  | none => s
  | some service => s.perform levels caller service argument

/-- What a call may do to a schedule.  Whether a task is created and whether the
processor changes hands depends on stacks as well. -/
def Step (levels : Nat) (s : Schedule) (call : KernelCall) (s' : Schedule) : Prop :=
  match call with
  | .create a _ => s' = s ∨ a.priority < levels ∧ s' = s.create a.priority
  | .activate id => s' = s.activate levels id
  | .markReady id => s' = s.markReady levels id
  | .markBlocked id => s' = s.markBlocked id
  | .suspend id => s' = s.suspend id
  | .resume id => s' = s.resume levels id
  | .setPriority id priority => s' = s.setPriority levels id priority
  | .requestDispatch => s' = s.requestDispatch
  | .takeDispatch => s' = s.takeDispatch
  | .advanceTick => s' = s.advanceTick
  | .save _ _ | .restore _ => s' = s
  | .switch _ target => s' = s ∨ s.state? target = some .ready ∧ s' = s.handOver (some target)
  | .switchTo target =>
    s' = s ∨ (∀ id, target = some id → s.state? id = some .ready) ∧ s' = s.handOver target
  | .serve caller number argument => s' = s.serve levels caller number argument

theorem Valid.serve (h : s.Valid levels) (caller : Option TaskId) (number argument : Word) :
    (s.serve levels caller number argument).Valid levels := by
  unfold Schedule.serve
  split
  · exact h
  · unfold perform
    split
    · exact h.markBlocked _
    · exact h.suspend _
    · split
      · exact h
      · exact h.markReady _
    · exact h
    · exact h
    · exact h

/-- A call keeps the scheduler invariant. -/
theorem Step.valid {call : KernelCall} (hstep : s.Step levels call s') (h : s.Valid levels) :
    s'.Valid levels := by
  cases call with
  | create a stack =>
    rcases hstep with rfl | ⟨hp, rfl⟩
    · exact h
    · exact h.create hp
  | activate id => exact hstep ▸ h.activate id
  | markReady id => exact hstep ▸ h.markReady id
  | markBlocked id => exact hstep ▸ h.markBlocked id
  | suspend id => exact hstep ▸ h.suspend id
  | resume id => exact hstep ▸ h.resume id
  | setPriority id priority => exact hstep ▸ h.setPriority id priority
  | requestDispatch => exact hstep ▸ h.requestDispatch
  | takeDispatch => exact hstep ▸ h.takeDispatch
  | advanceTick => exact hstep ▸ h.advanceTick
  | save id kind => exact hstep ▸ h
  | restore id => exact hstep ▸ h
  | switch source target =>
    rcases hstep with rfl | ⟨hready, rfl⟩
    · exact h
    · refine h.handOver fun id hid => ?_
      cases hid
      exact hready
  | switchTo target =>
    rcases hstep with rfl | ⟨hready, rfl⟩
    · exact h
    · exact h.handOver hready
  | serve caller number argument => exact hstep ▸ h.serve caller number argument

theorem still_serve (s : Schedule) (caller : Option TaskId) (number argument : Word) :
    s.Still (s.serve levels caller number argument) := by
  unfold Schedule.serve
  split
  · exact .refl s
  · unfold perform
    split
    · exact still_markBlocked s _
    · exact still_suspend s _
    · split
      · exact .refl s
      · exact still_markReady s _
    · exact .refl s
    · exact .refl s
    · exact .refl s

/-- A quiet call leaves the current task alone, and counts no tick unless it is asked
to. -/
theorem Step.still {call : KernelCall} (hstep : s.Step levels call s') (hquiet : call.Quiet)
    (htick : call ≠ .advanceTick) : s.Still s' := by
  cases call with
  | create a stack => exact hquiet.elim
  | activate id => exact hstep ▸ still_activate s id
  | markReady id => exact hstep ▸ still_markReady s id
  | markBlocked id => exact hstep ▸ still_markBlocked s id
  | suspend id => exact hstep ▸ still_suspend s id
  | resume id => exact hstep ▸ still_resume s id
  | setPriority id priority => exact hstep ▸ still_setPriority s id priority
  | requestDispatch => exact hstep ▸ ⟨rfl, rfl⟩
  | takeDispatch => exact hstep ▸ ⟨rfl, rfl⟩
  | advanceTick => exact absurd rfl htick
  | save id kind => exact hquiet.elim
  | restore id => exact hstep ▸ .refl s
  | switch source target => exact hquiet.elim
  | switchTo target => exact hquiet.elim
  | serve caller number argument => exact hstep ▸ still_serve s caller number argument

/-- A quiet call leaves the current task alone. -/
theorem Step.running_eq {call : KernelCall} (hstep : s.Step levels call s') (hquiet : call.Quiet) :
    s'.running = s.running := by
  by_cases htick : call = .advanceTick
  · subst htick
    exact hstep ▸ rfl
  · exact (hstep.still hquiet htick).running

/-- No call counts a tick unless it is asked to. -/
theorem Step.tick_eq {call : KernelCall} (hstep : s.Step levels call s')
    (htick : call ≠ .advanceTick) : s'.tick = s.tick := by
  cases call with
  | create a stack => rcases hstep with rfl | ⟨-, rfl⟩ <;> rfl
  | save id kind => exact hstep ▸ rfl
  | switch source target =>
    rcases hstep with rfl | ⟨-, rfl⟩
    · rfl
    · exact (s.rest_handOver _).2
  | switchTo target =>
    rcases hstep with rfl | ⟨-, rfl⟩
    · rfl
    · exact (s.rest_handOver _).2
  | _ => exact (hstep.still trivial htick).tick

end Schedule

/-! ## Calls on kernels -/

namespace Kernel

variable {capacity levels : Nat} {k : Kernel capacity levels} {s : Schedule}

theorem exists_of_realises {ε α : Type} {x : Traced (Except ε α × Kernel capacity levels)}
    {s' : Schedule} (h : k.Realises (after x) s') (r : RegisterFile) :
    ∃ ok k', (reply r <$> x).result = .ok (ok, k', r) ∧ k'.Implements s' ∧
      TaskTable.SameContexts k.tasks k'.tasks := by
  obtain ⟨k', hk', h', hcontexts⟩ := h
  rw [after] at hk'
  rw [Traced.result_map]
  cases hx : x.result with
  | error p => simp [hx] at hk'
  | ok answer =>
    rw [hx] at hk'
    cases hk'
    exact ⟨_, _, rfl, h', hcontexts⟩

/-- What is behind the answer to a call. -/
theorem eq_ok_of_reply {ε α : Type} {x : Traced (Except ε α × Kernel capacity levels)}
    {k' : Kernel capacity levels} {r r' : RegisterFile} {ok : Bool}
    (h : (reply r <$> x).result = .ok (ok, k', r')) :
    ∃ answer, x.result = .ok (answer, k') ∧ ok = answer.isOk ∧ r' = r := by
  obtain ⟨answer, hx, hanswer⟩ := Traced.map_eq_ok.1 h
  cases hanswer
  exact ⟨_, hx, rfl, rfl⟩

theorem after_coded {ε : Type} [OperationError ε]
    (x : Traced (Except ε Unit × Kernel capacity levels)) : after (coded <$> x) = after x := by
  rw [after, Traced.result_map, Functor.map_map]
  rfl

theorem Implements.perform (h : k.Implements s) (hv : s.Valid levels) (caller : Option TaskId)
    (service : Service) (argument : Word) :
    k.Realises (after (k.perform caller service argument))
      (s.perform levels caller service argument) := by
  cases service with
  | yield => cases caller <;> exact h.realises
  | block =>
    cases caller with
    | none => exact h.realises
    | some id =>
      rw [Kernel.perform, after_coded]
      exact h.markBlocked hv id
  | suspendSelf =>
    cases caller with
    | none => exact h.realises
    | some id =>
      rw [Kernel.perform, after_coded]
      exact h.suspend hv id
  | wake =>
    unfold Kernel.perform Schedule.perform
    cases hid : TaskId.ofRaw? argument.toNat with
    | none => cases caller <;> simpa [hid] using h.realises
    | some id => cases caller <;> simpa [hid, after_coded] using h.markReady hv id

theorem Implements.serve (h : k.Implements s) (hv : s.Valid levels) (caller : Option TaskId)
    (number argument : Word) :
    k.Realises (after (k.serve caller number argument))
      (s.serve levels caller number argument) := by
  unfold Kernel.serve Schedule.serve
  cases Service.ofNumber? number with
  | none => exact h.realises
  | some service =>
    have hreport : ∀ answer : ResultCode × Kernel capacity levels,
        after (do
          if answer.1.isErr then
            Traced.note (.serviceFailed caller service argument answer.1)
          return answer) = .ok answer.2 := by
      intro answer
      split <;> rfl
    simp only [after_note]
    rw [after_bind_of hreport]
    exact h.perform hv caller service argument

/-- Serving is a call. -/
theorem invoke_serve {k' : Kernel capacity levels} {caller : Option TaskId}
    {number argument : Word} {result : ResultCode}
    (h : (k.serve caller number argument).result = .ok (result, k')) (cfg : Config)
    (r : RegisterFile) :
    (k.invoke cfg r (.serve caller number argument)).result = .ok (!result.isErr, k', r) := by
  rw [invoke, Traced.result_map, h]
  rfl

/-- A call goes well and takes a step of the schedule; a quiet one leaves
contexts alone. -/
theorem Implements.invoke (h : k.Implements s) (hv : s.Valid levels) (cfg : Config)
    (r : RegisterFile) (call : KernelCall) :
    ∃ ok k' r' s', (k.invoke cfg r call).result = .ok (ok, k', r') ∧ k'.Implements s' ∧
      s.Step levels call s' ∧ (call.Quiet → TaskTable.SameContexts k.tasks k'.tasks) := by
  have hrealised : ∀ {ε : Type} {s' : Schedule}
      {x : Traced (Except ε Unit × Kernel capacity levels)},
      k.Realises (after x) s' → s.Step levels call s' →
      ∃ ok k' r' s', (reply r <$> x).result = .ok (ok, k', r') ∧ k'.Implements s' ∧
        s.Step levels call s' ∧ (call.Quiet → TaskTable.SameContexts k.tasks k'.tasks) := by
    intro ε s' x hx hstep
    obtain ⟨ok, k', hresult, h', hcontexts⟩ := exists_of_realises hx r
    exact ⟨ok, k', r, s', hresult, h', hstep, fun _ => hcontexts⟩
  cases call with
  | create a stack =>
    obtain ⟨answer, k', hresult, hcases⟩ := h.create cfg a stack
    rw [Kernel.invoke, Traced.result_map, hresult]
    rcases hcases with ⟨e, -, rfl⟩ | ⟨id, stack', savedSp, -, hp, -, -, -, h'⟩
    · exact ⟨_, _, _, _, rfl, h, .inl rfl, False.elim⟩
    · exact ⟨_, _, _, _, rfl, h', .inr ⟨hp, rfl⟩, False.elim⟩
  | activate id => exact hrealised (h.activate hv id) rfl
  | markReady id => exact hrealised (h.markReady hv id) rfl
  | markBlocked id => exact hrealised (h.markBlocked hv id) rfl
  | suspend id => exact hrealised (h.suspend hv id) rfl
  | resume id => exact hrealised (h.resume hv id) rfl
  | setPriority id priority => exact hrealised (h.setPriority hv id priority) rfl
  | requestDispatch => exact ⟨_, _, _, _, rfl, h.requestDispatch, rfl, fun _ => .refl _⟩
  | takeDispatch => exact ⟨_, _, _, _, rfl, h.takeDispatch, rfl, fun _ => .refl _⟩
  | advanceTick => exact ⟨_, _, _, _, rfl, h.advanceTick, rfl, fun _ => .refl _⟩
  | save id kind =>
    obtain ⟨answer, k', hresult, h', -⟩ := h.saveContext cfg r id kind
    rw [Kernel.invoke, Traced.result_map, hresult]
    exact ⟨_, _, _, _, rfl, h', rfl, False.elim⟩
  | restore id =>
    obtain ⟨answer, r', hresult⟩ := exists_restoreContext cfg k r id
    rw [Kernel.invoke, Traced.result_map, hresult]
    exact ⟨_, _, _, _, rfl, h, rfl, fun _ => .refl _⟩
  | switch source target =>
    obtain ⟨answer, k', r', hresult, hcases⟩ := h.switch hv cfg r source target
    rw [Kernel.invoke, Traced.result_map, hresult]
    rcases hcases with ⟨e, -, h'⟩ | ⟨-, hready, h'⟩
    · exact ⟨_, _, _, _, rfl, h', .inl rfl, False.elim⟩
    · exact ⟨_, _, _, _, rfl, h', .inr ⟨hready, rfl⟩, False.elim⟩
  | switchTo target =>
    obtain ⟨answer, k', r', hresult, hcases⟩ := h.switchTo hv cfg r target
    rw [Kernel.invoke, Traced.result_map, hresult]
    rcases hcases with ⟨e, -, rfl, -⟩ | ⟨kind, -, -, hready, h', -⟩
    · exact ⟨_, _, _, _, rfl, h, .inl rfl, False.elim⟩
    · exact ⟨_, _, _, _, rfl, h', .inr ⟨hready, rfl⟩, False.elim⟩
  | serve caller number argument =>
    obtain ⟨k', hresult, h', hcontexts⟩ := h.serve hv caller number argument
    rw [after] at hresult
    rw [Kernel.invoke, Traced.result_map]
    cases hx : (k.serve caller number argument).result with
    | error p => simp [hx] at hresult
    | ok answer =>
      rw [hx] at hresult
      cases hresult
      exact ⟨_, _, _, _, rfl, h', rfl, fun _ => hcontexts⟩

end Kernel

end HartKernel
