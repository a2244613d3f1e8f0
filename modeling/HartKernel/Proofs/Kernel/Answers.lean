import HartKernel.Proofs.Kernel.Atomicity
import HartKernel.Proofs.Kernel.Services

/-!
# What calls answer

Unless a frame stands in the way, what a call answers and what it does to the
schedule can be read off the schedule: registers, stacks and saved contexts do not
matter.

Main definitions:

- `Outcome` says how a call ended, and `Kernel.ask` makes a call and tells.
- `Kernel.FrameFails` says that a frame stands in the way of a call.
- `Schedule.code` and `Schedule.follow` are what a call answers and what it does to
  the schedule otherwise.

Main results:

- `Kernel.result_invoke`: an outcome says more than whether a call went well.
- `Kernel.Implements.exists_ask`: these are what the kernel answers and does.
-/

namespace HartKernel

/-- How a call ended: with a code, or because a frame could not be saved or
loaded. -/
inductive Outcome where
  | code (c : ResultCode)
  | frame (e : FrameError)
deriving DecidableEq, Repr

namespace Outcome

/-- How an operation ended. -/
def ofAnswer {ε α : Type} [OperationError ε] : Except ε α → Outcome
  | .ok _ => .code .success
  | .error e => .code (OperationError.code e)

/-- How an operation on a context ended. -/
def ofContext {α : Type} : Except ContextError α → Outcome
  | .ok _ => .code .success
  | .error .badId => .code .badId
  | .error (.frame e) => .frame e

/-- Whether a call went well. -/
def isOk : Outcome → Bool
  | .code c => c.isOk
  | .frame _ => false

theorem ofAnswer_eq {ε : Type} [OperationError ε] (answer : Except ε Unit) :
    ofAnswer answer = .code (.ofOutcome answer) := by
  cases answer <;> rfl

theorem isOk_ofAnswer {ε α : Type} [OperationError ε]
    (herror : ∀ e : ε, (OperationError.code e).isOk = false) (answer : Except ε α) :
    (ofAnswer answer).isOk = answer.isOk := by
  cases answer with
  | error e => exact herror e
  | ok a => rfl

theorem isOk_ofContext {α : Type} (answer : Except ContextError α) :
    (ofContext answer).isOk = answer.isOk := by
  rcases answer with (- | e) | a <;> rfl

end Outcome

namespace Kernel

variable {capacity levels : Nat}

/-- Tell of an answer how the call ended, and add the registers. -/
def tell {ε α : Type} [OperationError ε] (r : RegisterFile) :
    Except ε α × Kernel capacity levels → Outcome × Kernel capacity levels × RegisterFile
  | (answer, k) => (.ofAnswer answer, k, r)

/-- Make a call with given live registers.  Answers how it ended, the state after it
and the live registers after it. -/
def ask (cfg : Config) (k : Kernel capacity levels) (r : RegisterFile) :
    KernelCall → Traced (Outcome × Kernel capacity levels × RegisterFile)
  | .create a stack => tell r <$> k.create cfg a stack
  | .activate id => tell r <$> k.activate id
  | .markReady id => tell r <$> k.markReady id
  | .markBlocked id => tell r <$> k.markBlocked id
  | .suspend id => tell r <$> k.suspend id
  | .resume id => tell r <$> k.resume id
  | .setPriority id priority => tell r <$> k.setPriority id priority
  | .requestDispatch => pure (.code .success, k.requestDispatch, r)
  | .takeDispatch => pure (.code .success, k.takeDispatch.2, r)
  | .advanceTick => pure (.code .success, k.advanceTick, r)
  | .save id kind =>
    (fun answer => (.ofContext answer.1, answer.2, r)) <$> k.saveContext cfg.layouts r id kind
  | .restore id =>
    (fun answer => (.ofContext answer.1, k, answer.2)) <$> k.restoreContext cfg.layouts r id
  | .switch source target =>
    (fun answer => (.ofAnswer answer.1, answer.2)) <$> k.switch cfg.layouts r source target
  | .switchTo target =>
    (fun answer => (.ofAnswer answer.1, answer.2)) <$> k.switchTo cfg.layouts r target
  | .serve caller number argument =>
    (fun answer => (.code answer.1, answer.2, r)) <$> k.serve caller number argument

theorem isOk_tell {ε α : Type} [OperationError ε]
    (herror : ∀ e : ε, (OperationError.code e).isOk = false) (r : RegisterFile)
    (answer : Except ε α × Kernel capacity levels) :
    ((tell r answer).1.isOk, (tell r answer).2) = reply r answer :=
  Prod.ext (Outcome.isOk_ofAnswer herror answer.1) rfl

/-- `Kernel.invoke` makes the same calls, and only answers whether they went well. -/
theorem result_invoke (cfg : Config) (k : Kernel capacity levels) (r : RegisterFile)
    (call : KernelCall) : (k.invoke cfg r call).result =
      (fun answer => (answer.1.isOk, answer.2)) <$> (k.ask cfg r call).result := by
  -- no error is reported as a success
  have hcreate : ∀ e : CreateError, (OperationError.code e).isOk = false := by rintro ⟨⟩ <;> rfl
  have hactivate : ∀ e : ActivateError, (OperationError.code e).isOk = false := by
    rintro ⟨⟩ <;> rfl
  have hwake : ∀ e : WakeError, (OperationError.code e).isOk = false := by rintro ⟨⟩ <;> rfl
  have hblock : ∀ e : BlockError, (OperationError.code e).isOk = false := by rintro ⟨⟩ <;> rfl
  have hsuspend : ∀ e : SuspendError, (OperationError.code e).isOk = false := by rintro ⟨⟩ <;> rfl
  have hpriority : ∀ e : PriorityError, (OperationError.code e).isOk = false := by
    rintro ⟨⟩ <;> rfl
  have hswitch : ∀ e : SwitchError, (OperationError.code e).isOk = false := by rintro ⟨⟩ <;> rfl
  cases call <;>
    simp only [invoke, ask, Traced.result_map, Traced.result_pure, Functor.map_map,
      isOk_tell hcreate, isOk_tell hactivate, isOk_tell hwake, isOk_tell hblock,
      isOk_tell hsuspend, isOk_tell hpriority, Outcome.isOk_ofAnswer hswitch,
      Outcome.isOk_ofContext] <;> rfl

/-- What a switch checks before it looks at a frame. -/
def checkSwitch (k : Kernel capacity levels) (source target : TaskId) : Except SwitchError Unit :=
  match k.task? source with
  | none => .error .badId
  | some _ => if k.running ≠ some source then .error .badContext else k.checkTarget target

/-- A call passes its checks, and then a frame cannot be saved or loaded. -/
inductive FrameFails (cfg : Config) (k : Kernel capacity levels) (r : RegisterFile) :
    KernelCall → Prop where
  | create {a : TaskAttributes} {stack stack' : StackRegion} {e : FrameError}
    (hlevel : a.priority < levels) (hroom : k.tasks.size ≠ capacity)
    (hsave : (cfg.layouts.cooperative.save (startRegisters cfg a) stack
      (BitVec.ofNat 64 stack.alignedTop)).result = .ok (.error e, stack')) :
    FrameFails cfg k r (.create a stack)
  | save {id : TaskId} {kind : FrameKind} {k' : Kernel capacity levels} {e : FrameError}
    (hsave : (k.saveContext cfg.layouts r id kind).result = .ok (.error (.frame e), k')) :
    FrameFails cfg k r (.save id kind)
  | restore {id : TaskId} {r' : RegisterFile} {e : FrameError}
    (hload : (k.restoreContext cfg.layouts r id).result = .ok (.error (.frame e), r')) :
    FrameFails cfg k r (.restore id)
  | leave {source target : TaskId} {t : Task} {stack : StackRegion} {e : FrameError}
    (hcheck : k.checkSwitch source target = .ok ()) (ht : k.task? source = some t)
    (hsave : (cfg.layouts.cooperative.save r t.stack r.sp).result = .ok (.error e, stack)) :
    FrameFails cfg k r (.switch source target)
  | enter {source target : TaskId} {t : Task} {stack : StackRegion} {sp : Word}
    {r' : RegisterFile} {e : ContextError}
    (hcheck : k.checkSwitch source target = .ok ()) (ht : k.task? source = some t)
    (hsave : (cfg.layouts.cooperative.save r t.stack r.sp).result = .ok (.ok sp, stack))
    (hload : ((k.recordCall source stack sp).restoreContext cfg.layouts r target).result =
      .ok (.error e, r')) :
    FrameFails cfg k r (.switch source target)
  | switchTo {id : TaskId} {r' : RegisterFile} {e : ContextError}
    (hcheck : k.checkTarget id = .ok ())
    (hload : (k.restoreContext cfg.layouts r id).result = .ok (.error e, r')) :
    FrameFails cfg k r (.switchTo (some id))

end Kernel

/-! ## Calls on schedules -/

namespace Schedule

/-- What a call answers unless a frame stands in the way. -/
def code (levels capacity : Nat) (s : Schedule) : KernelCall → ResultCode
  | .create a _ =>
    if levels ≤ a.priority then .badParam
    else if s.entries.size = capacity then .queueOverflow
    else .success
  | .activate id =>
    match s.state? id with
    | none => .badId
    | some state => if state = .dormant then .success else .queueOverflow
  | .markReady id => s.codeIn id [.blocked, .suspended]
  | .markBlocked id => s.codeIn id [.running, .ready]
  | .suspend id => s.codeIn id [.running, .ready, .blocked]
  | .resume id => s.codeIn id [.suspended]
  | .setPriority id priority =>
    match s.state? id with
    | none => .badId
    | some state =>
      if levels ≤ priority then .badParam
      else if state = .dormant then .badObjectState
      else .success
  | .requestDispatch | .takeDispatch | .advanceTick => .success
  | .save id _ | .restore id =>
    match s.state? id with
    | none => .badId
    | some _ => .success
  | .switch source target =>
    match s.state? source with
    | none => .badId
    | some _ => if s.running ≠ some source then .badContext else s.codeIn target [.ready]
  | .switchTo none => .success
  | .switchTo (some id) => s.codeIn id [.ready]
  | .serve caller number argument => s.serveCode caller number argument

/-- What a call does to the schedule unless a frame stands in the way. -/
def follow (levels capacity : Nat) (s : Schedule) (call : KernelCall) : Schedule :=
  match call with
  | .create a _ => if s.code levels capacity call = .success then s.create a.priority else s
  | .activate id => s.activate levels id
  | .markReady id => s.markReady levels id
  | .markBlocked id => s.markBlocked id
  | .suspend id => s.suspend id
  | .resume id => s.resume levels id
  | .setPriority id priority => s.setPriority levels id priority
  | .requestDispatch => s.requestDispatch
  | .takeDispatch => s.takeDispatch
  | .advanceTick => s.advanceTick
  | .save _ _ | .restore _ => s
  | .switch _ target =>
    if s.code levels capacity call = .success then s.handOver (some target) else s
  | .switchTo target => if s.code levels capacity call = .success then s.handOver target else s
  | .serve caller number argument => s.serve levels caller number argument

variable {levels : Nat} {s : Schedule} {id : TaskId}

theorem state?_of_codeIn (h : s.codeIn id [.ready] = .success) : s.state? id = some .ready := by
  unfold codeIn at h
  split at h
  · cases h
  · rename_i state hstate
    split at h
    · rename_i hmem
      rw [hstate, List.mem_singleton.1 hmem]
    · cases h

/-- What a call does to the schedule is a step of the schedule. -/
theorem step_follow (levels capacity : Nat) (s : Schedule) (call : KernelCall) :
    s.Step levels call (s.follow levels capacity call) := by
  cases call with
  | create a stack =>
    rw [follow]
    split
    · rename_i hcode
      refine .inr ⟨?_, rfl⟩
      by_contra hlevel
      rw [code, if_pos (not_lt.1 hlevel)] at hcode
      cases hcode
    · exact .inl rfl
  | switch source target =>
    rw [follow]
    split
    · rename_i hcode
      refine .inr ⟨?_, rfl⟩
      rw [code] at hcode
      split at hcode
      · cases hcode
      · split at hcode
        · cases hcode
        · exact state?_of_codeIn hcode
    · exact .inl rfl
  | switchTo target =>
    rw [follow]
    split
    · rename_i hcode
      refine .inr ⟨fun id hid => ?_, rfl⟩
      subst hid
      exact state?_of_codeIn hcode
    · exact .inl rfl
  | _ => rfl

/-- A call keeps the schedule valid. -/
theorem Valid.follow (h : s.Valid levels) (capacity : Nat) (call : KernelCall) :
    (s.follow levels capacity call).Valid levels :=
  (step_follow levels capacity s call).valid h

end Schedule

/-- Two calls ask for the same thing.  If a task is created, its name, its entry
point and parameter and its stack may differ. -/
inductive KernelCall.Alike : KernelCall → KernelCall → Prop where
  | create {a a' : TaskAttributes} (stack stack' : StackRegion) (h : a'.priority = a.priority) :
    Alike (.create a stack) (.create a' stack')
  | refl (call : KernelCall) : Alike call call

/-- Such calls are answered alike and do the same to the schedule. -/
theorem Schedule.follow_of_alike {call call' : KernelCall} (h : call.Alike call')
    (levels capacity : Nat) (s : Schedule) :
    s.code levels capacity call' = s.code levels capacity call ∧
      s.follow levels capacity call' = s.follow levels capacity call := by
  cases h with
  | @create a a' stack stack' h =>
    have hcode : s.code levels capacity (.create a' stack') =
        s.code levels capacity (.create a stack) := by
      rw [code, code, h]
    refine ⟨hcode, ?_⟩
    rw [follow, follow, hcode, h]
  | refl => exact ⟨rfl, rfl⟩

/-! ## Calls on kernels -/

namespace Kernel

variable {capacity levels : Nat} {k k' : Kernel capacity levels} {s : Schedule} {cfg : Config}
variable {id source target : TaskId} {t : Task} {r r' : RegisterFile}

/-- A switch that does not pass its checks is refused. -/
theorem switch_of_refused {ls : FrameLayouts} {e : SwitchError}
    (hcheck : k.checkSwitch source target = .error e) :
    (k.switch ls r source target).result = .ok (.error e, k, r) := by
  unfold checkSwitch at hcheck
  unfold Kernel.switch
  cases ht : k.task? source with
  | none =>
    rw [ht] at hcheck
    cases hcheck
    rfl
  | some t =>
    simp only [ht] at hcheck
    dsimp only
    split at hcheck
    · rename_i hrun
      cases hcheck
      rw [if_pos hrun]
      rfl
    · rename_i hrun
      rw [if_neg hrun, hcheck]
      rfl

theorem cases_checkSwitch (hcheck : k.checkSwitch source target = .ok ()) :
    ∃ t, k.task? source = some t ∧ k.running = some source ∧ k.checkTarget target = .ok () := by
  unfold checkSwitch at hcheck
  split at hcheck
  · cases hcheck
  · rename_i t ht
    split at hcheck
    · cases hcheck
    · rename_i hrun
      exact ⟨t, ht, not_not.1 hrun, hcheck⟩

/-- A switch that passes its checks and saves the current task goes on as a switch
from a saved task. -/
theorem switch_of_saved {ls : FrameLayouts} {stack : StackRegion} {sp : Word}
    (hcheck : k.checkSwitch source target = .ok ()) (ht : k.task? source = some t)
    (hsave : (ls.cooperative.save r t.stack r.sp).result = .ok (.ok sp, stack)) :
    (k.switch ls r source target).result =
      closeSwitch source t <$>
        ((k.recordCall source stack sp).switchTo ls r (some target)).result := by
  obtain ⟨-, -, hrun, htarget⟩ := cases_checkSwitch hcheck
  unfold Kernel.switch recordCall
  simp only [ht, hrun, htarget, ne_eq, not_true_eq_false, if_false, Traced.result_bind, hsave,
    ok_bind, updateTask_updateTask]
  rw [map_eq_pure_bind]
  refine bind_congr fun ⟨outcome, k', r'⟩ => ?_
  cases outcome <;> rfl

namespace Implements

theorem code_activate (h : k.Implements s) {answer : Except ActivateError Unit}
    (hresult : (k.activate id).result = .ok (answer, k')) :
    ResultCode.ofOutcome answer = s.code levels capacity (.activate id) := by
  unfold Kernel.activate at hresult
  rw [Schedule.code]
  cases ht : k.task? id with
  | none =>
    rw [h.state?_eq, ht]
    simp only [ht] at hresult
    cases hresult
    rfl
  | some t =>
    rw [h.state?_of_task? ht]
    simp only [ht] at hresult
    split at hresult
    · rename_i hstate
      cases hresult
      exact (if_neg hstate).symm
    · rename_i hstate
      obtain ⟨u, -, hresult⟩ := Traced.bind_eq_ok.1 hresult
      obtain ⟨k₁, -, hresult⟩ := Traced.bind_eq_ok.1 hresult
      obtain ⟨k₂, -, hresult⟩ := Traced.bind_eq_ok.1 hresult
      cases hresult
      exact (if_pos (not_not.1 hstate)).symm

theorem code_resume (h : k.Implements s) {answer : Except SuspendError Unit}
    (hresult : (k.resume id).result = .ok (answer, k')) :
    ResultCode.ofOutcome answer = s.codeIn id [.suspended] := by
  unfold Kernel.resume at hresult
  cases ht : k.task? id with
  | none =>
    rw [h.codeIn_of_none ht]
    simp only [ht] at hresult
    cases hresult
    rfl
  | some t =>
    rw [h.codeIn_of_task? ht]
    simp only [ht] at hresult
    split at hresult
    · rename_i hstate
      cases hresult
      rw [if_neg (by simpa using hstate)]
      rfl
    · rename_i hstate
      obtain ⟨u, -, hresult⟩ := Traced.bind_eq_ok.1 hresult
      obtain ⟨k₁, -, hresult⟩ := Traced.bind_eq_ok.1 hresult
      obtain ⟨k₂, -, hresult⟩ := Traced.bind_eq_ok.1 hresult
      cases hresult
      rw [if_pos (by simpa using hstate)]
      rfl

theorem code_setPriority (h : k.Implements s) {priority : Nat} {answer : Except PriorityError Unit}
    (hresult : (k.setPriority id priority).result = .ok (answer, k')) :
    ResultCode.ofOutcome answer = s.code levels capacity (.setPriority id priority) := by
  unfold Kernel.setPriority at hresult
  rw [Schedule.code]
  cases ht : k.task? id with
  | none =>
    rw [h.state?_eq, ht]
    simp only [ht] at hresult
    cases hresult
    rfl
  | some t =>
    rw [h.state?_of_task? ht]
    simp only [ht] at hresult
    split at hresult
    · rename_i hlevel
      cases hresult
      exact (if_pos hlevel).symm
    · rename_i hlevel
      split at hresult
      · rename_i hstate
        cases hresult
        exact ((if_neg hlevel).trans (if_pos hstate)).symm
      · rename_i hstate
        obtain ⟨k₁, -, hresult⟩ := Traced.bind_eq_ok.1 hresult
        obtain ⟨u, -, hresult⟩ := Traced.bind_eq_ok.1 hresult
        obtain ⟨k₂, -, hresult⟩ := Traced.bind_eq_ok.1 hresult
        cases hresult
        exact ((if_neg hlevel).trans (if_neg hstate)).symm

/-! ## Operations on contexts -/

/-- Whether a task can be switched to is known to the scheduler. -/
theorem ofAnswer_checkTarget (h : k.Implements s) (id : TaskId) :
    Outcome.ofAnswer (k.checkTarget id) = .code (s.codeIn id [.ready]) := by
  unfold Kernel.checkTarget
  cases ht : k.task? id with
  | none =>
    rw [h.codeIn_of_none ht]
    rfl
  | some t =>
    rw [h.codeIn_of_task? ht]
    by_cases hready : t.state = .ready
    · simp [hready, Outcome.ofAnswer]
    · simp [hready, Outcome.ofAnswer, OperationError.code]

/-- What a switch checks first is known to the scheduler. -/
theorem ofAnswer_checkSwitch (h : k.Implements s) (source target : TaskId) :
    Outcome.ofAnswer (k.checkSwitch source target) =
      .code (s.code levels capacity (.switch source target)) := by
  unfold Kernel.checkSwitch
  rw [Schedule.code, h.state?_eq, h.running]
  cases k.task? source with
  | none => rfl
  | some t =>
    dsimp only [Option.map_some]
    split
    · rfl
    · exact h.ofAnswer_checkTarget target

/-- A call that works on the state of a task ends as the schedule says. -/
theorem exists_of_ofOutcome {ε : Type} [OperationError ε] {s' : Schedule} {c : ResultCode}
    {x : Traced (Except ε Unit × Kernel capacity levels)} (hx : k.Realises (after x) s')
    (hcode : ∀ {answer k'}, x.result = .ok (answer, k') → ResultCode.ofOutcome answer = c)
    (r : RegisterFile) :
    ∃ k' r', (tell r <$> x).result = .ok (.code c, k', r') ∧ k'.Implements s' := by
  obtain ⟨k', hafter, himpl, -⟩ := hx
  obtain ⟨answer, hresult⟩ := exists_of_after hafter
  refine ⟨k', r, ?_, himpl⟩
  rw [Traced.result_map, hresult, ← hcode hresult, ← Outcome.ofAnswer_eq]
  rfl

/-- A task is created if the checks allow it, unless its frame cannot be saved. -/
theorem exists_ask_create (h : k.Implements s) {a : TaskAttributes} {stack : StackRegion}
    (hframe : ¬k.FrameFails cfg r (.create a stack)) :
    ∃ k' r', (k.ask cfg r (.create a stack)).result =
        .ok (.code (s.code levels capacity (.create a stack)), k', r') ∧
      k'.Implements (s.follow levels capacity (.create a stack)) := by
  have hsize : s.entries.size = k.tasks.size := by rw [h.entries, Array.size_map]
  rw [Schedule.follow, Schedule.code, hsize, Kernel.ask, Kernel.create]
  split
  · exact ⟨k, r, rfl, h⟩
  · rename_i hlevel
    split
    · exact ⟨k, r, rfl, h⟩
    · rename_i hroom
      rcases FrameLayout.save_eq cfg.valid_cooperative (startRegisters cfg a) stack
        (BitVec.ofNat 64 stack.alignedTop) with ⟨e, he⟩ | ⟨-, -, -, hok⟩
      · exact absurd (.create (not_le.1 hlevel) hroom he) hframe
      · rw [Traced.result_map, Traced.result_bind, hok, if_pos rfl]
        exact ⟨_, r, rfl, h.addTask a _ _⟩

/-- A target that can be loaded is switched to if it is Ready. -/
theorem exists_switchTo_answer (h : k.Implements s) (hv : s.Valid levels) (cfg : Config)
    (r : RegisterFile) (id : TaskId) :
    (∃ e r', k.checkTarget id = .ok () ∧
        (k.restoreContext cfg.layouts r id).result = .ok (.error e, r')) ∨
      ∃ answer k' r', (k.switchTo cfg.layouts r (some id)).result = .ok (answer, k', r') ∧
        Outcome.ofAnswer answer = .code (s.codeIn id [.ready]) ∧
        k'.Implements (if s.codeIn id [.ready] = .success then s.handOver (some id) else s) := by
  have hcode := h.ofAnswer_checkTarget id
  obtain ⟨answer, k', r', hresult, hcases⟩ := h.switchTo hv cfg r (some id)
  rcases hcases with ⟨e, rfl, rfl, hload⟩ | ⟨kind, rfl, -, hready, himpl, -⟩
  · unfold loadTarget at hload
    cases hcheck : k'.checkTarget id with
    | ok u =>
      obtain ⟨restored, r₁, hrestore⟩ := exists_restoreContext cfg k' r id
      cases restored with
      | error e' => exact .inl ⟨e', r₁, rfl, hrestore⟩
      | ok kind =>
        simp only [hcheck, Traced.result_bind, hrestore, ok_bind] at hload
        cases hload
    | error e' =>
      simp only [hcheck] at hload
      cases hload
      rw [hcheck] at hcode
      refine .inr ⟨_, _, _, hresult, hcode, ?_⟩
      rw [if_neg fun hsuccess => ?_]
      · exact h
      · rw [hsuccess] at hcode
        cases e <;> cases hcode
  · have hsuccess : s.codeIn id [.ready] = .success := by
      rw [Schedule.codeIn, hready id rfl]
      rfl
    rw [hsuccess, if_pos rfl]
    exact .inr ⟨_, _, _, hresult, rfl, himpl⟩

/-- A switch from a saved task goes well if the target is Ready, unless it cannot be
loaded. -/
theorem exists_ask_switchTo (h : k.Implements s) (hv : s.Valid levels) {target : Option TaskId}
    (hframe : ¬k.FrameFails cfg r (.switchTo target)) :
    ∃ k' r', (k.ask cfg r (.switchTo target)).result =
        .ok (.code (s.code levels capacity (.switchTo target)), k', r') ∧
      k'.Implements (s.follow levels capacity (.switchTo target)) := by
  rw [Kernel.ask, Traced.result_map]
  cases target with
  | none =>
    obtain ⟨answer, k', r', hresult, ⟨e, -, -, hload⟩ | ⟨kind, rfl, -, -, himpl, -⟩⟩ :=
      h.switchTo hv cfg r none
    · cases hload
    · rw [hresult]
      exact ⟨k', r', rfl, himpl⟩
  | some id =>
    rcases h.exists_switchTo_answer hv cfg r id with
      ⟨e, r', hcheck, hload⟩ | ⟨answer, k', r', hresult, hanswer, himpl⟩
    · exact absurd (.switchTo hcheck hload) hframe
    · rw [hresult]
      exact ⟨k', r', by rw [Schedule.code, ← hanswer]; rfl, himpl⟩

/-- A switch goes well if its checks allow it, unless a frame cannot be saved or
loaded. -/
theorem exists_ask_switch (h : k.Implements s) (hv : s.Valid levels)
    (hframe : ¬k.FrameFails cfg r (.switch source target)) :
    ∃ k' r', (k.ask cfg r (.switch source target)).result =
        .ok (.code (s.code levels capacity (.switch source target)), k', r') ∧
      k'.Implements (s.follow levels capacity (.switch source target)) := by
  have hcode := h.ofAnswer_checkSwitch source target
  rw [Kernel.ask, Traced.result_map]
  cases hcheck : k.checkSwitch source target with
  | error e =>
    rw [hcheck] at hcode
    have hrefused : s.code levels capacity (.switch source target) ≠ .success := by
      intro hsuccess
      rw [hsuccess] at hcode
      cases e <;> cases hcode
    rw [switch_of_refused hcheck, ← hcode, Schedule.follow, if_neg hrefused]
    exact ⟨k, r, rfl, h⟩
  | ok u =>
    obtain ⟨t, ht, hrun, htarget⟩ := cases_checkSwitch hcheck
    rcases FrameLayout.save_eq cfg.valid_cooperative r t.stack r.sp with ⟨e, he⟩ | ⟨-, -, -, hok⟩
    · exact absurd (.leave hcheck ht he) hframe
    · rw [switch_of_saved hcheck ht hok]
      have hcodeIn : s.code levels capacity (.switch source target) = s.codeIn target [.ready] := by
        rw [hcheck] at hcode
        have htarget' := h.ofAnswer_checkTarget target
        rw [htarget] at htarget'
        exact Outcome.code.inj (hcode.symm.trans htarget')
      rcases (h.recordCall source _ _).exists_switchTo_answer hv cfg r target with
        ⟨e, r', -, hload⟩ | ⟨answer, k', r', hresult, hanswer, himpl⟩
      · exact absurd (.enter hcheck ht hok hload) hframe
      · rw [hresult, Schedule.follow, hcodeIn, ← hanswer]
        cases answer with
        | error e =>
          exact ⟨_, r', rfl, himpl.updateContext source (fun _ => rfl) fun _ => rfl⟩
        | ok kind => exact ⟨k', r', rfl, himpl⟩

/-- A context is saved if there is a task, unless its frame cannot be saved. -/
theorem exists_ask_save (h : k.Implements s) {kind : FrameKind}
    (hframe : ¬k.FrameFails cfg r (.save id kind)) :
    ∃ k' r', (k.ask cfg r (.save id kind)).result =
        .ok (.code (s.code levels capacity (.save id kind)), k', r') ∧ k'.Implements s := by
  rw [Kernel.ask, Traced.result_map, Schedule.code, h.state?_eq]
  cases ht : k.task? id with
  | none =>
    unfold Kernel.saveContext
    rw [ht]
    exact ⟨k, r, rfl, h⟩
  | some t =>
    obtain ⟨answer, k', hresult, himpl, ⟨e, rfl, -⟩ | ⟨_, _, _, rfl, -⟩⟩ :=
      h.saveContext cfg r id kind
    · cases e with
      | badId =>
        unfold Kernel.saveContext at hresult
        simp only [ht] at hresult
        obtain ⟨⟨saved, stack⟩, -, hresult⟩ := Traced.bind_eq_ok.1 hresult
        cases saved <;> cases hresult
      | frame e => exact absurd (.save hresult) hframe
    · rw [hresult]
      exact ⟨k', r, rfl, himpl⟩

/-- A context is loaded if there is a task, unless its frame cannot be loaded. -/
theorem exists_ask_restore (h : k.Implements s) (hframe : ¬k.FrameFails cfg r (.restore id)) :
    ∃ r', (k.ask cfg r (.restore id)).result =
      .ok (.code (s.code levels capacity (.restore id)), k, r') := by
  rw [Kernel.ask, Traced.result_map, Schedule.code, h.state?_eq]
  cases ht : k.task? id with
  | none =>
    unfold Kernel.restoreContext
    rw [ht]
    exact ⟨r, rfl⟩
  | some t =>
    obtain ⟨answer, r', hresult⟩ := exists_restoreContext cfg k r id
    rw [hresult]
    cases answer with
    | ok kind => exact ⟨r', rfl⟩
    | error e =>
      cases e with
      | frame e => exact absurd (.restore hresult) hframe
      | badId =>
        unfold Kernel.restoreContext at hresult
        simp only [ht] at hresult
        split at hresult
        · cases hresult
        · split at hresult
          · cases hresult
          · obtain ⟨⟨restored, r₁⟩, -, hresult⟩ := Traced.bind_eq_ok.1 hresult
            cases restored <;> cases hresult

/-! ## All calls -/

/-- Unless a frame stands in the way, a call answers and does what the schedule
says. -/
theorem exists_ask (h : k.Implements s) (hv : s.Valid levels) {call : KernelCall}
    (hframe : ¬k.FrameFails cfg r call) :
    ∃ k' r', (k.ask cfg r call).result = .ok (.code (s.code levels capacity call), k', r') ∧
      k'.Implements (s.follow levels capacity call) := by
  cases call with
  | create a stack => exact h.exists_ask_create hframe
  | activate id => exact exists_of_ofOutcome (h.activate hv id) h.code_activate r
  | markReady id => exact exists_of_ofOutcome (h.markReady hv id) h.code_markReady r
  | markBlocked id => exact exists_of_ofOutcome (h.markBlocked hv id) h.code_markBlocked r
  | suspend id => exact exists_of_ofOutcome (h.suspend hv id) h.code_suspend r
  | resume id => exact exists_of_ofOutcome (h.resume hv id) h.code_resume r
  | setPriority id priority =>
    exact exists_of_ofOutcome (h.setPriority hv id priority) h.code_setPriority r
  | requestDispatch => exact ⟨_, r, rfl, h.requestDispatch⟩
  | takeDispatch => exact ⟨_, r, rfl, h.takeDispatch⟩
  | advanceTick => exact ⟨_, r, rfl, h.advanceTick⟩
  | save id kind => exact h.exists_ask_save hframe
  | restore id =>
    obtain ⟨r', hresult⟩ := h.exists_ask_restore hframe
    exact ⟨k, r', hresult, h⟩
  | switch source target => exact h.exists_ask_switch hv hframe
  | switchTo target => exact h.exists_ask_switchTo hv hframe
  | serve caller number argument =>
    obtain ⟨k', hresult, himpl, -⟩ := h.exists_serve hv caller number argument
    refine ⟨k', r, ?_, himpl⟩
    rw [Kernel.ask, Traced.result_map, hresult]
    rfl

end Implements

end Kernel

end HartKernel
