import HartKernel.Proofs.Kernel.Atomicity
import HartKernel.Proofs.Kernel.Services
import HartKernel.Proofs.Schedule.Arrival

/-!
# Who was put at the back

Every call puts at most one task at the back of its level.  Who that is can be
told from what the call was, from whether it went well, and from who was Running
before.

Main definitions:

- `KernelCall.placed?` is the task that a call has put at the back of its level.
- `Kernel.Calls` says that calls lead from one kernel to another, and keeps a
  record of who was put at the back.
- `Kernel.Follows` says that the ready queue has changed as a record tells.

Main results:

- `Kernel.Implements.requeues_invoke`: a call appends the task that it tells.
- `Kernel.Calls.follows`: calls change the ready queue as their record tells.
-/

namespace HartKernel

namespace Kernel

variable {capacity levels : Nat} {k k' k'' : Kernel capacity levels} {s : Schedule}
variable {id : TaskId}

/-- The task that was Running and is not the current one afterwards. -/
def lost? (k k' : Kernel capacity levels) : Option TaskId :=
  k.runningTask?.filter fun id => k'.running ≠ some id

theorem lost?_of_running (h : k'.running = k.running) : k.lost? k' = none := by
  rw [lost?, Option.filter_eq_none_iff]
  intro id hid
  simp [h, (Option.filter_eq_some_iff.1 hid).1]

end Kernel

/-- The task that a call has put at the back of its level: the task that the call
made Ready, the Ready task that the call gave a priority, or the task that lost
the processor while Running. -/
def KernelCall.placed? {capacity levels : Nat} (k k' : Kernel capacity levels) (ok : Bool) :
    KernelCall → Option TaskId
  | .activate id | .markReady id | .resume id => if ok then some id else none
  | .setPriority id _ => if ok ∧ (k.task? id).map Task.state = some .ready then some id else none
  | .serve _ number argument =>
    if ok ∧ Service.ofNumber? number = some .wake then TaskId.ofRaw? argument.toNat else none
  | .switch _ _ | .switchTo _ => k.lost? k'
  | .create _ _ | .markBlocked _ | .suspend _ | .requestDispatch | .takeDispatch | .advanceTick
  | .save _ _ | .restore _ => none

namespace Kernel

variable {capacity levels : Nat} {k k' k'' : Kernel capacity levels} {s : Schedule}
variable {id : TaskId}

/-- Calls lead from one kernel to another, with changes of stacks in between.  The
record tells, newest first, which task each call has put at the back of its
level. -/
inductive Calls (cfg : Config) :
    Kernel capacity levels → List (Option TaskId) → Kernel capacity levels → Prop where
  | refl (k : Kernel capacity levels) : Calls cfg k [] k
  | call {k k₁ k₂ : Kernel capacity levels} {log : List (Option TaskId)} {r r' : RegisterFile}
    {call : KernelCall} {ok : Bool} (h : Calls cfg k log k₁)
    (hcall : (k₁.invoke cfg r call).result = .ok (ok, k₂, r')) :
    Calls cfg k (call.placed? k₁ k₂ ok :: log) k₂
  | write {k k₁ : Kernel capacity levels} {log : List (Option TaskId)} (h : Calls cfg k log k₁)
    (id : TaskId) (stack : StackRegion) :
    Calls cfg k log (k₁.updateTask id fun t => { t with stack := stack })

/-- The ready queue has changed as a record tells: the tasks of each level still
wait in the order of the record, and no task outside the record has moved to a
level. -/
def Follows (placed : List (Option TaskId)) (k k' : Kernel capacity levels) : Prop :=
  ∀ s : Schedule, k.Implements s → s.Valid levels → ∃ s' : Schedule, k'.Implements s' ∧
    s'.Valid levels ∧ s.ready.Keeps placed s'.ready ∧
    ∀ log, s.ready.Arranged log → s'.ready.Arranged (placed ++ log)

namespace Follows

variable {placed placed' : List (Option TaskId)}

theorem refl (k : Kernel capacity levels) : k.Follows [] k :=
  fun s h hv => ⟨s, h, hv, .refl _, fun _ ha => ha⟩

theorem trans (h : k.Follows placed k') (h' : k'.Follows placed' k'') :
    k.Follows (placed' ++ placed) k'' := by
  intro s himpl hv
  obtain ⟨s₁, himpl₁, hv₁, hkeeps₁, harranged₁⟩ := h s himpl hv
  obtain ⟨s₂, himpl₂, hv₂, hkeeps₂, harranged₂⟩ := h' s₁ himpl₁ hv₁
  refine ⟨s₂, himpl₂, hv₂, hkeeps₁.trans hkeeps₂, fun log ha => ?_⟩
  rw [List.append_assoc]
  exact harranged₂ _ (harranged₁ log ha)

/-- At most one task was appended. -/
theorem of_requeues {appended : Option TaskId}
    (h : ∀ s, k.Implements s → s.Valid levels → ∃ s' : Schedule, k'.Implements s' ∧
      s'.Valid levels ∧ s.ready.Requeues appended s'.ready) : k.Follows [appended] k' := by
  intro s himpl hv
  obtain ⟨s', himpl', hv', hrequeues⟩ := h s himpl hv
  exact ⟨s', himpl', hv', hrequeues.keeps, fun _ ha => hrequeues.arranged ha⟩

/-- The schedule has not changed. -/
theorem of_implements (h : ∀ s, k.Implements s → s.Valid levels → k'.Implements s) :
    k.Follows [] k' :=
  fun s himpl hv => ⟨s, h s himpl hv, hv, .refl _, fun _ ha => ha⟩

end Follows

/-- Stacks do not matter to the ready queue. -/
theorem follows_setStack (id : TaskId) (f : Task → StackRegion) :
    k.Follows [] (k.updateTask id fun t => { t with stack := f t }) :=
  .of_implements fun _ h _ => h.updateContext id (fun _ => rfl) fun _ => rfl

/-! ## What a call tells -/

namespace Implements

theorem lost?_eq {s' : Schedule} (h : k.Implements s) (h' : k'.Implements s') :
    s.lost? s' = k.lost? k' := by
  rw [Schedule.lost?, lost?, h.runningTask?_eq, h'.running]

theorem inState_iff (h : k.Implements s) {states : List TaskState} :
    k.InState id states ↔ ∃ state ∈ states, s.state? id = some state := by
  constructor
  · rintro ⟨t, ht, hstate⟩
    exact ⟨t.state, hstate, h.state?_of_task? ht⟩
  · rintro ⟨state, hmem, hstate⟩
    rw [h.state?_eq, Option.map_eq_some_iff] at hstate
    obtain ⟨t, ht, rfl⟩ := hstate
    exact ⟨t, ht, hmem⟩

end Implements

/-- A guarded operation that appends one task if it goes well. -/
theorem Guarded.requeues {ε α : Type} {guard : Prop} {s' : Schedule}
    {x : Traced (Except ε α × Kernel capacity levels)} {r r' : RegisterFile} {ok : Bool}
    (hguarded : k.Guarded guard x) (h : (reply r <$> x).result = .ok (ok, k', r'))
    (hdone : guard → s.ready.Requeues (some id) s'.ready) (hrefused : ¬guard → s'.ready = s.ready) :
    s.ready.Requeues (if ok then some id else none) s'.ready := by
  obtain ⟨answer, hx, rfl, -⟩ := eq_ok_of_reply h
  rcases hguarded answer k' hx with ⟨hok, hguard⟩ | ⟨hok, hguard, -⟩
  · rw [hok]
    exact hdone hguard
  · rw [hok, hrefused hguard]
    exact .refl _

/-- Waking a task appends it if the answer is a success. -/
theorem requeues_markReady_coded (hv : s.Valid levels) (id : TaskId) :
    s.ready.Requeues (if !(s.codeIn id [.blocked, .suspended]).isErr then some id else none)
      (s.markReady levels id).ready := by
  by_cases hstate : s.state? id = some .blocked ∨ s.state? id = some .suspended
  · have hok : (s.codeIn id [.blocked, .suspended]).isErr = false := by
      rw [Schedule.codeIn]
      rcases hstate with e | e <;> rw [e] <;> decide
    rw [hok]
    exact hv.requeues_markReady hstate
  · have hrefused : (s.codeIn id [.blocked, .suspended]).isErr = true := by
      rw [Schedule.codeIn]
      cases hs : s.state? id with
      | none => rfl
      | some state =>
        rw [hs] at hstate
        cases state <;> simp at hstate ⊢ <;> decide
    rw [hrefused, Schedule.markReady, if_neg hstate]
    exact .refl _

/-- A service appends a task if it wakes one. -/
theorem Implements.requeues_serve (h : k.Implements s) (hv : s.Valid levels)
    {caller : Option TaskId} {number argument : Word} {code : ResultCode}
    (hserve : (k.serve caller number argument).result = .ok (code, k')) :
    s.ready.Requeues
      (if !code.isErr ∧ Service.ofNumber? number = some .wake then TaskId.ofRaw? argument.toNat
        else none) (s.serve levels caller number argument).ready := by
  have hcode := h.code_serve hserve
  unfold Schedule.serve
  unfold Schedule.serveCode at hcode
  cases hservice : Service.ofNumber? number with
  | none =>
    rw [if_neg (by simp)]
    exact .refl _
  | some service =>
    simp only [hservice] at hcode
    cases service with
    | yield =>
      rw [if_neg (by simp)]
      cases caller <;> exact .refl _
    | block =>
      rw [if_neg (by simp)]
      cases caller with
      | none => exact .refl _
      | some id => exact s.requeues_markBlocked id
    | suspendSelf =>
      rw [if_neg (by simp)]
      cases caller with
      | none => exact .refl _
      | some id => exact s.requeues_suspend id
    | wake =>
      unfold Schedule.performCode at hcode
      unfold Schedule.perform
      cases hid : TaskId.ofRaw? argument.toNat with
      | none =>
        rw [ite_self]
        cases caller <;> exact .refl _
      | some id =>
        have hcode' : code = s.codeIn id [.blocked, .suspended] := by
          cases caller <;> simpa [hid] using hcode
        have hwake : s.ready.Requeues (if !code.isErr then some id else none)
            (s.markReady levels id).ready := hcode' ▸ requeues_markReady_coded hv id
        simp only [and_true]
        cases caller <;> exact hwake

/-- Every call appends the task that it tells, and no other one. -/
theorem Implements.requeues_invoke (h : k.Implements s) (hv : s.Valid levels) {cfg : Config}
    {r r' : RegisterFile} {call : KernelCall} {ok : Bool}
    (hcall : (k.invoke cfg r call).result = .ok (ok, k', r')) :
    ∃ s' : Schedule, k'.Implements s' ∧ s'.Valid levels ∧
      s.ready.Requeues (call.placed? k k' ok) s'.ready := by
  obtain ⟨ok₁, k₁, r₁, s', hresult, h', hstep, -⟩ := h.invoke hv cfg r call
  rw [hresult] at hcall
  cases hcall
  refine ⟨s', h', hstep.valid hv, ?_⟩
  cases call with
  | create a stack =>
    rcases hstep with rfl | ⟨-, rfl⟩
    · exact .refl _
    · exact .refl s.ready
  | activate id =>
    cases hstep
    refine (k.guarded_activate id).requeues hresult (fun hguard => ?_) fun hguard => ?_
    · rw [h.inState_iff] at hguard
      exact hv.requeues_activate (by simpa using hguard)
    · rw [h.inState_iff] at hguard
      rw [Schedule.activate, if_neg (by simpa using hguard)]
  | markReady id =>
    cases hstep
    refine (k.guarded_markReady id).requeues hresult (fun hguard => ?_) fun hguard => ?_
    · rw [h.inState_iff] at hguard
      exact hv.requeues_markReady (by simpa using hguard)
    · rw [h.inState_iff] at hguard
      rw [Schedule.markReady, if_neg (by simpa using hguard)]
  | resume id =>
    cases hstep
    refine (k.guarded_resume id).requeues hresult (fun hguard => ?_) fun hguard => ?_
    · rw [h.inState_iff] at hguard
      exact hv.requeues_resume (by simpa using hguard)
    · rw [h.inState_iff] at hguard
      rw [Schedule.resume, if_neg (by simpa using hguard)]
  | setPriority id priority =>
    cases hstep
    simp only [KernelCall.placed?, ← h.state?_eq]
    by_cases hready : s.state? id = some .ready
    · simp only [hready, and_true]
      refine (k.guarded_setPriority id priority).requeues hresult (fun hguard => ?_)
        fun hguard => ?_
      · exact hv.requeues_setPriority hready hguard.2
      · -- of the two conditions the state holds, so it is the level that does not exist
        have hp : levels ≤ priority := by
          by_contra hp
          exact hguard ⟨h.inState_iff.2 ⟨_, by simp, hready⟩, not_le.1 hp⟩
        rw [Schedule.setPriority, hready]
        exact congrArg Schedule.ready (if_pos hp)
    · rw [if_neg fun hguard => hready hguard.2, Schedule.ready_setPriority_of_not_ready hready]
      exact .refl _
  | markBlocked id => exact hstep ▸ s.requeues_markBlocked id
  | suspend id => exact hstep ▸ s.requeues_suspend id
  | requestDispatch => exact hstep ▸ .refl _
  | takeDispatch => exact hstep ▸ .refl _
  | advanceTick => exact hstep ▸ .refl _
  | save id kind => exact hstep ▸ .refl _
  | restore id => exact hstep ▸ .refl _
  | switch source target =>
    rw [KernelCall.placed?, ← h.lost?_eq h']
    rcases hstep with rfl | ⟨-, rfl⟩
    · rw [Schedule.lost?_of_running rfl]
      exact .refl _
    · exact hv.requeues_handOver _
  | switchTo target =>
    rw [KernelCall.placed?, ← h.lost?_eq h']
    rcases hstep with rfl | ⟨-, rfl⟩
    · rw [Schedule.lost?_of_running rfl]
      exact .refl _
    · exact hv.requeues_handOver _
  | serve caller number argument =>
    cases hstep
    obtain ⟨answer, hserve, hanswer⟩ := Traced.map_eq_ok.1 hresult
    cases hanswer
    exact h.requeues_serve hv hserve

/-! ## Calls and exits -/

/-- A call changes the ready queue as it tells. -/
theorem follows_invoke {cfg : Config} {r r' : RegisterFile} {call : KernelCall} {ok : Bool}
    (hcall : (k.invoke cfg r call).result = .ok (ok, k', r')) :
    k.Follows [call.placed? k k' ok] k' :=
  .of_requeues fun _ h hv => h.requeues_invoke hv hcall

theorem Calls.follows {cfg : Config} {placed : List (Option TaskId)}
    (h : k.Calls cfg placed k') : k.Follows placed k' := by
  induction h with
  | refl => exact .refl _
  | call h hcall ih => exact ih.trans (follows_invoke hcall)
  | write h id stack ih => exact ih.trans (follows_setStack id fun _ => stack)

end Kernel

end HartKernel
