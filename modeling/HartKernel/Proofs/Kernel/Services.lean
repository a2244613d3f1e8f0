import HartKernel.Proofs.Kernel.Calls

/-!
# What services answer

A service goes well on every kernel that stands for a schedule, and its result
code can be read off the schedule: stacks and saved contexts do not matter.

Main definitions:

- `Schedule.serveCode` is the result code of a service.
- `Kernel.SameSchedule` compares what the scheduler knows in two kernels.

Main results:

- `Kernel.Implements.exists_serve`: what a service answers and what it does to
  the schedule.
- `Kernel.Implements.sameSchedule`: kernels that stand for the same schedule look
  the same to the scheduler.
-/

namespace HartKernel

namespace Schedule

/-- The result code of an operation that is possible in some states of its task
only. -/
def codeIn (s : Schedule) (id : TaskId) (states : List TaskState) : ResultCode :=
  match s.state? id with
  | none => .badId
  | some state => if state ∈ states then .success else .badObjectState

/-- The result code of a known service. -/
def performCode (s : Schedule) (caller : Option TaskId) (service : Service) (argument : Word) :
    ResultCode :=
  match service, caller with
  | .yield, _ => .success
  | .block, some id => s.codeIn id [.running, .ready]
  | .suspendSelf, some id => s.codeIn id [.running, .ready, .blocked]
  | .wake, _ =>
    match TaskId.ofRaw? argument.toNat with
    | none => .badId
    | some id => s.codeIn id [.blocked, .suspended]
  | .block, none | .suspendSelf, none => .badContext

/-- The result code of the service with a number. -/
def serveCode (s : Schedule) (caller : Option TaskId) (number argument : Word) : ResultCode :=
  match Service.ofNumber? number with
  | none => .notSupported
  | some service => s.performCode caller service argument

end Schedule

namespace Kernel

variable {capacity levels : Nat} {k k' : Kernel capacity levels} {s : Schedule} {id : TaskId}

theorem exists_of_after {α : Type} {x : Traced (α × Kernel capacity levels)}
    (h : after x = .ok k') : ∃ a, x.result = .ok (a, k') := by
  unfold after at h
  cases hx : x.result with
  | error p => simp [hx] at h
  | ok answer =>
    obtain ⟨a, k₁⟩ := answer
    rw [hx] at h
    cases h
    exact ⟨a, rfl⟩

/-! ## Result codes -/

namespace Implements

theorem codeIn_of_task? (h : k.Implements s) {t : Task} (ht : k.task? id = some t)
    (states : List TaskState) :
    s.codeIn id states = if t.state ∈ states then .success else .badObjectState := by
  rw [Schedule.codeIn, h.state?_of_task? ht]

theorem codeIn_of_none (h : k.Implements s) (ht : k.task? id = none) (states : List TaskState) :
    s.codeIn id states = .badId := by
  rw [Schedule.codeIn, h.state?_eq, ht, Option.map_none]

theorem code_markBlocked (h : k.Implements s) {answer : Except BlockError Unit}
    (hresult : (k.markBlocked id).result = .ok (answer, k')) :
    ResultCode.ofOutcome answer = s.codeIn id [.running, .ready] := by
  unfold Kernel.markBlocked at hresult
  cases ht : k.task? id with
  | none =>
    rw [h.codeIn_of_none ht]
    simp only [ht] at hresult
    cases hresult
    rfl
  | some t =>
    rw [h.codeIn_of_task? ht]
    simp only [ht] at hresult
    split at hresult
    · rename_i hstate
      cases hresult
      rw [if_neg (by simpa using hstate)]
      rfl
    · rename_i hstate
      obtain ⟨k₁, -, hresult⟩ := Traced.bind_eq_ok.1 hresult
      cases hresult
      rw [if_pos (by simpa [imp_iff_not_or] using hstate)]
      rfl

theorem code_suspend (h : k.Implements s) {answer : Except SuspendError Unit}
    (hresult : (k.suspend id).result = .ok (answer, k')) :
    ResultCode.ofOutcome answer = s.codeIn id [.running, .ready, .blocked] := by
  unfold Kernel.suspend at hresult
  cases ht : k.task? id with
  | none =>
    rw [h.codeIn_of_none ht]
    simp only [ht] at hresult
    cases hresult
    rfl
  | some t =>
    rw [h.codeIn_of_task? ht]
    simp only [ht] at hresult
    split at hresult
    · rename_i hstate
      cases hresult
      rw [if_neg (by rcases hstate with e | e <;> simp [e])]
      rfl
    · rename_i hstate
      obtain ⟨k₁, -, hresult⟩ := Traced.bind_eq_ok.1 hresult
      cases hresult
      rw [if_pos (by revert hstate; cases t.state <;> simp)]
      rfl

theorem code_markReady (h : k.Implements s) {answer : Except WakeError Unit}
    (hresult : (k.markReady id).result = .ok (answer, k')) :
    ResultCode.ofOutcome answer = s.codeIn id [.blocked, .suspended] := by
  unfold Kernel.markReady at hresult
  cases ht : k.task? id with
  | none =>
    rw [h.codeIn_of_none ht]
    simp only [ht] at hresult
    cases hresult
    rfl
  | some t =>
    rw [h.codeIn_of_task? ht]
    simp only [ht] at hresult
    split at hresult
    · rename_i hstate
      cases hresult
      rw [if_neg (by simpa using hstate)]
      rfl
    · rename_i hstate
      obtain ⟨u, -, hresult⟩ := Traced.bind_eq_ok.1 hresult
      obtain ⟨k₁, -, hresult⟩ := Traced.bind_eq_ok.1 hresult
      obtain ⟨k₂, -, hresult⟩ := Traced.bind_eq_ok.1 hresult
      cases hresult
      rw [if_pos (by simpa [imp_iff_not_or] using hstate)]
      rfl

theorem code_of_coded {ε : Type} [OperationError ε] {code code' : ResultCode}
    {x : Traced (Except ε Unit × Kernel capacity levels)}
    (hcode : ∀ {answer}, x.result = .ok (answer, k') → ResultCode.ofOutcome answer = code')
    (hresult : (coded <$> x).result = .ok (code, k')) : code = code' := by
  obtain ⟨answer, hx, hanswer⟩ := Traced.map_eq_ok.1 hresult
  cases hanswer
  exact hcode hx

theorem code_perform (h : k.Implements s) {caller : Option TaskId} {service : Service}
    {argument : Word} {code : ResultCode}
    (hresult : (k.perform caller service argument).result = .ok (code, k')) :
    code = s.performCode caller service argument := by
  cases service with
  | yield =>
    cases hresult
    rfl
  | block =>
    cases caller with
    | none =>
      cases hresult
      rfl
    | some id => exact code_of_coded h.code_markBlocked hresult
  | suspendSelf =>
    cases caller with
    | none =>
      cases hresult
      rfl
    | some id => exact code_of_coded h.code_suspend hresult
  | wake =>
    unfold Kernel.perform at hresult
    unfold Schedule.performCode
    cases hid : TaskId.ofRaw? argument.toNat with
    | none =>
      simp only [hid] at hresult
      cases hresult
      rfl
    | some id =>
      simp only [hid] at hresult
      exact code_of_coded h.code_markReady hresult

theorem code_serve (h : k.Implements s) {caller : Option TaskId} {number argument : Word}
    {code : ResultCode}
    (hresult : (k.serve caller number argument).result = .ok (code, k')) :
    code = s.serveCode caller number argument := by
  unfold Kernel.serve at hresult
  unfold Schedule.serveCode
  cases hservice : Service.ofNumber? number with
  | none =>
    simp only [hservice] at hresult
    cases hresult
    rfl
  | some service =>
    simp only [hservice] at hresult
    obtain ⟨u, -, hresult⟩ := Traced.bind_eq_ok.1 hresult
    obtain ⟨⟨code₁, k₁⟩, hperform, hresult⟩ := Traced.bind_eq_ok.1 hresult
    have hanswer : code₁ = code := by
      dsimp only at hresult
      split at hresult <;> cases hresult <;> rfl
    rw [← hanswer]
    exact h.code_perform hperform

/-- What a service answers and what it does to the schedule. -/
theorem exists_serve (h : k.Implements s) (hv : s.Valid levels) (caller : Option TaskId)
    (number argument : Word) :
    ∃ k', (k.serve caller number argument).result =
        .ok (s.serveCode caller number argument, k') ∧
      k'.Implements (s.serve levels caller number argument) ∧
      TaskTable.SameContexts k.tasks k'.tasks := by
  obtain ⟨k', hafter, h', hcontexts⟩ := h.serve hv caller number argument
  obtain ⟨code, hresult⟩ := exists_of_after hafter
  exact ⟨k', h.code_serve hresult ▸ hresult, h', hcontexts⟩

end Implements

/-! ## Kernels that look the same to the scheduler -/

/-- What the scheduler knows is the same in two kernels. -/
structure SameSchedule (k k' : Kernel capacity levels) : Prop where
  entries : k'.tasks.map Task.entry = k.tasks.map Task.entry
  ready : k'.readyTasks = k.readyTasks
  running : k'.running = k.running
  pending : k'.dispatchPending = k.dispatchPending
  tick : k'.tick = k.tick

/-- Kernels that stand for the same schedule look the same to the scheduler. -/
theorem Implements.sameSchedule (h : k.Implements s) (h' : k'.Implements s) :
    k.SameSchedule k' where
  entries := h'.entries.symm.trans h.entries
  ready := h'.queue.toList_eq.trans h.queue.toList_eq.symm
  running := h'.running.symm.trans h.running
  pending := h'.pending.symm.trans h.pending
  tick := h'.tick.symm.trans h.tick

end Kernel

end HartKernel
