import HartKernel.Proofs.Kernel.Calls

/-!
# No request for a dispatch is lost

The outermost exit of a trap consults the scheduler only if a dispatch is
requested or no task is Running.  That is enough because every operation that
makes another task the better choice leaves a request.

Main definitions:

- `Schedule.Settled` says that the processor is where it should be.
- `Schedule.Prompt` says that a dispatch is requested or none is needed.

Main results:

- `Schedule.Prompt.step`: every call keeps `Prompt`, unless it takes the request
  or hands over the processor.
- `Schedule.settled_conclude`: the outermost exit settles the schedule.
-/

namespace HartKernel

namespace Schedule

variable {levels : Nat} {s s' : Schedule} {id : TaskId} {e : Entry}

/-- The current task is Running and no Ready task is more urgent, or nobody is
there to run. -/
def Settled (s : Schedule) : Prop :=
  (∃ id e, s.running = some id ∧ s.lookup? id = some e ∧ e.state = .running ∧
    ∀ p, s.ready p ≠ [] → e.priority ≤ p) ∨
  s.running = none ∧ ∀ p, s.ready p = []

/-- A dispatch is requested or none is needed. -/
def Prompt (s : Schedule) : Prop := s.pending = true ∨ s.Settled

/-- A dispatch is requested, or the current task is Running if there is one. -/
def Manned (s : Schedule) : Prop :=
  s.pending = true ∨ ∀ id, s.running = some id → s.state? id = some .running

theorem Prompt.manned (h : s.Prompt) : s.Manned := by
  rcases h with hpending | ⟨id, e, hrun, he, hstate, -⟩ | ⟨hnone, -⟩
  · exact .inl hpending
  · refine .inr fun a ha => ?_
    rw [hrun, Option.some.injEq] at ha
    rw [← ha, state?_of_lookup? he, hstate]
  · exact .inr fun a ha => by rw [hnone] at ha; cases ha

/-- A check for preemption brings the request up to date. -/
theorem Manned.checkPreemption (h : s.Manned) (hv : s.Valid levels)
    (hlevels : levels ≤ leastUrgent) : (s.checkPreemption levels).Prompt := by
  unfold Schedule.checkPreemption
  rcases h with hpending | hrun
  · split
    · exact .inl hpending
    · split
      · exact .inl rfl
      · exact .inl hpending
  · cases hw : s.ready.highest? levels with
    | none =>
      have hempty := hv.eq_nil_of_highest? hw
      cases hr : s.running with
      | none => exact .inr (.inr ⟨hr, hempty⟩)
      | some id =>
        obtain ⟨e, he, hstate⟩ := exists_of_state? (hrun id hr)
        exact .inr (.inl ⟨id, e, hr, he, hstate, fun p hne => absurd (hempty p) hne⟩)
    | some p =>
      by_cases hlt : p < s.runningPriority
      · simp only [if_pos hlt]
        exact .inl rfl
      · simp only [if_neg hlt]
        cases hr : s.running with
        | none =>
          have hnone : s.runningTask? = none := by rw [runningTask?, hr]; rfl
          have hp := (Waiting.highest?_eq_some_iff.1 hw).1
          rw [runningPriority_of_none hnone] at hlt
          omega
        | some id =>
          obtain ⟨e, he, hstate⟩ := exists_of_state? (hrun id hr)
          refine .inr (.inl ⟨id, e, hr, he, hstate, fun p' hne' => ?_⟩)
          obtain ⟨p₁, hp₁, hle⟩ := hv.exists_highest? hne'
          rw [hw, Option.some.injEq] at hp₁
          rw [runningPriority_of_running (runningTask?_eq_some.2 ⟨hr, hrun id hr⟩) he] at hlt
          omega

/-- Making a task Ready that is not Running leaves the current task alone, or
finds a request. -/
theorem Manned.makeReady (h : s.Manned) (hid : s.state? id ≠ some .running)
    (hsome : s.state? id ≠ none) : (s.makeReady id).Manned := by
  obtain ⟨state, hstate⟩ := Option.ne_none_iff_exists'.1 hsome
  obtain ⟨e, he, -⟩ := exists_of_state? hstate
  have heq : s.makeReady id = (s.setState id .ready).withReady (s.ready.push e.priority id) := by
    simp [Schedule.makeReady, he]
  rcases h with hpending | hrun
  · rw [heq]
    exact .inl hpending
  · refine .inr fun a ha => ?_
    rw [heq] at ha
    have hrunning := hrun a ha
    have hne : a ≠ id := by
      rintro rfl
      exact hid hrunning
    rw [state?_makeReady hstate, if_neg hne]
    exact hrunning

/-- States matter, priorities do not. -/
theorem Manned.congr (h : s.Manned) (hpending : s'.pending = s.pending)
    (hrunning : s'.running = s.running) (hstate : ∀ id, s'.state? id = s.state? id) :
    s'.Manned := by
  rcases h with hp | hrun
  · exact .inl (hpending.trans hp)
  · refine .inr fun id hid => ?_
    rw [hstate]
    exact hrun id (hrunning ▸ hid)

theorem state?_update {f : Entry → Entry} (hf : ∀ e, (f e).state = e.state) (a : TaskId) :
    (s.update id f).state? a = s.state? a := by
  rw [state?, lookup?_update]
  split
  · rw [Option.map_map]
    exact congrArg (fun g => Option.map g (s.lookup? a)) (funext hf)
  · rfl

/-! ## Operations -/

namespace Prompt

theorem activate (h : s.Prompt) (hv : s.Valid levels) (hlevels : levels ≤ leastUrgent)
    (id : TaskId) : (s.activate levels id).Prompt := by
  unfold Schedule.activate
  split
  · rename_i hid
    have hstate : ∀ a, (s.update id fun e => { e with priority := e.initial }).state? a =
        s.state? a := state?_update fun _ => rfl
    have hmanned : (s.update id fun e => { e with priority := e.initial }).Manned :=
      h.manned.congr rfl rfl hstate
    have hready : ((s.update id fun e => { e with priority := e.initial }).makeReady id).Manned :=
      hmanned.makeReady (by rw [hstate, hid]; simp) (by rw [hstate, hid]; simp)
    exact hready.checkPreemption ((hv.restart hid).makeReady (by rw [hstate, hid]; simp)) hlevels
  · exact h

/-- A waiting task becomes Ready. -/
theorem wake (h : s.Prompt) (hv : s.Valid levels) (hlevels : levels ≤ leastUrgent)
    (hid : s.state? id = some .blocked ∨ s.state? id = some .suspended) :
    ((s.makeReady id).checkPreemption levels).Prompt := by
  have hready : s.state? id ≠ some .ready := by rcases hid with e | e <;> simp [e]
  have hrunning : s.state? id ≠ some .running := by rcases hid with e | e <;> simp [e]
  have hsome : s.state? id ≠ none := by rcases hid with e | e <;> simp [e]
  exact (h.manned.makeReady hrunning hsome).checkPreemption (hv.makeReady hready) hlevels

theorem markReady (h : s.Prompt) (hv : s.Valid levels) (hlevels : levels ≤ leastUrgent)
    (id : TaskId) : (s.markReady levels id).Prompt := by
  unfold Schedule.markReady
  split
  · rename_i hid
    exact h.wake hv hlevels hid
  · exact h

theorem resume (h : s.Prompt) (hv : s.Valid levels) (hlevels : levels ≤ leastUrgent)
    (id : TaskId) : (s.resume levels id).Prompt := by
  unfold Schedule.resume
  split
  · rename_i hid
    exact h.wake hv hlevels (.inr hid)
  · exact h

theorem setPriority (h : s.Prompt) (hv : s.Valid levels) (hlevels : levels ≤ leastUrgent)
    (id : TaskId) (priority : Nat) : (s.setPriority levels id priority).Prompt := by
  unfold Schedule.setPriority
  split
  · exact h
  · exact h
  · split
    · exact h
    · rename_i hp
      refine Manned.checkPreemption ?_ (hv.reprioritise id (not_le.1 hp)) hlevels
      unfold Schedule.reprioritise
      split
      · exact h.manned.congr rfl rfl (state?_update fun _ => rfl)
      · exact h.manned.congr rfl rfl (state?_update fun _ => rfl)

/-- A task that does not hold the processor leaves its list, if it is in one, and
gets another state. -/
theorem settled_of_lookup? (h : s.Settled) (hid : s.state? id ≠ some .running)
    (hentry : ∀ a, a ≠ id → s'.lookup? a = s.lookup? a) (hrunning : s'.running = s.running)
    (hready : ∀ p, s.ready p = [] → s'.ready p = []) : s'.Settled := by
  rcases h with ⟨a, e, hrun, he, hstate, hle⟩ | ⟨hnone, hempty⟩
  · have hne : a ≠ id := by
      rintro rfl
      exact hid (by rw [state?_of_lookup? he, hstate])
    exact .inl ⟨a, e, hrunning.trans hrun, (hentry a hne).trans he, hstate,
      fun p hp => hle p fun hnil => hp (hready p hnil)⟩
  · exact .inr ⟨hrunning.trans hnone, fun p => hready p (hempty p)⟩

/-- Taking a task off the processor or out of its list. -/
theorem hold (h : s.Prompt) (id : TaskId) (state : TaskState) :
    ((s.withdraw id).setState id state).Prompt := by
  have hother : s.state? id ≠ some .running → ∀ s₁ : Schedule, s₁.entries = s.entries →
      s₁.running = s.running → s₁.pending = s.pending →
      (∀ p, s.ready p = [] → s₁.ready p = []) → (s₁.setState id state).Prompt := by
    intro hid s₁ hentries hrunning hpending hready
    rcases h with hp | hsettled
    · exact .inl (hpending.trans hp)
    · refine .inr (settled_of_lookup? hsettled hid (fun a ha => ?_) hrunning hready)
      rw [setState, lookup?_update, if_neg ha, lookup?, hentries, lookup?]
  unfold withdraw
  split
  · exact .inl rfl
  · rename_i hwait
    have hid : s.state? id ≠ some .running := by simp [hwait]
    unfold dequeue
    split
    · exact hother hid s rfl rfl rfl fun _ hp => hp
    · exact hother hid _ rfl rfl rfl fun _ hp => Waiting.drop_eq_nil hp _ _
  · rename_i hrun _
    exact hother hrun s rfl rfl rfl fun _ hp => hp

theorem markBlocked (h : s.Prompt) (id : TaskId) : (s.markBlocked id).Prompt := by
  unfold Schedule.markBlocked
  split
  · exact h.hold id _
  · exact h

theorem suspend (h : s.Prompt) (id : TaskId) : (s.suspend id).Prompt := by
  unfold Schedule.suspend
  split
  · exact h.hold id _
  · exact h

theorem create (h : s.Prompt) (priority : Nat) : (s.create priority).Prompt := by
  rcases h with hp | ⟨id, e, hrun, he, hstate, hle⟩ | hidle
  · exact .inl hp
  · refine .inr (.inl ⟨id, e, hrun, ?_, hstate, hle⟩)
    have hlt : id.index < s.entries.size := (Array.getElem?_eq_some_iff.1 he).1
    rw [lookup?, Schedule.create, Array.getElem?_push, if_neg hlt.ne]
    exact he
  · exact .inr (.inr hidle)

theorem serve (h : s.Prompt) (hv : s.Valid levels) (hlevels : levels ≤ leastUrgent)
    (caller : Option TaskId) (number argument : Word) :
    (s.serve levels caller number argument).Prompt := by
  unfold Schedule.serve
  split
  · exact h
  · unfold perform
    split
    · exact h.markBlocked _
    · exact h.suspend _
    · split
      · exact h
      · exact h.markReady hv hlevels _
    · exact h
    · exact h
    · exact h

end Prompt

end Schedule

/-- The calls that neither take the request for a dispatch nor hand over the
processor. -/
def KernelCall.Local : KernelCall → Prop
  | .takeDispatch | .switch _ _ | .switchTo _ => False
  | _ => True

instance : DecidablePred KernelCall.Local := fun call => by
  cases call <;> unfold KernelCall.Local <;> infer_instance

namespace Schedule

variable {levels : Nat} {s s' : Schedule} {id : TaskId} {e : Entry}

/-- A call keeps `Prompt`, unless it takes the request or hands over the
processor. -/
theorem Prompt.step {call : KernelCall} (h : s.Prompt) (hv : s.Valid levels)
    (hlevels : levels ≤ leastUrgent) (hlocal : call.Local) (hstep : s.Step levels call s') :
    s'.Prompt := by
  cases call with
  | create a stack =>
    rcases hstep with rfl | ⟨-, rfl⟩
    · exact h
    · exact h.create _
  | activate id => exact hstep ▸ h.activate hv hlevels id
  | markReady id => exact hstep ▸ h.markReady hv hlevels id
  | markBlocked id => exact hstep ▸ h.markBlocked id
  | suspend id => exact hstep ▸ h.suspend id
  | resume id => exact hstep ▸ h.resume hv hlevels id
  | setPriority id priority => exact hstep ▸ h.setPriority hv hlevels id priority
  | requestDispatch => exact .inl (by rw [hstep]; rfl)
  | advanceTick => exact hstep ▸ h
  | save id kind => exact hstep ▸ h
  | restore id => exact hstep ▸ h
  | serve caller number argument => exact hstep ▸ h.serve hv hlevels caller number argument
  | takeDispatch => exact hlocal.elim
  | switch source target => exact hlocal.elim
  | switchTo target => exact hlocal.elim

/-! ## The outermost exit -/

/-- If the current task goes on it is Running and more urgent than every Ready
task. -/
theorem settled_of_keep (hv : s.Valid levels) (hlevels : levels ≤ leastUrgent)
    (hdecide : s.decide levels = .keep) : s.Settled := by
  unfold Schedule.decide Waiting.decide at hdecide
  split at hdecide
  · rename_i hlt
    cases htask : s.runningTask? with
    | none =>
      rw [runningPriority_of_none htask] at hlt
      cases hw : s.ready.highest? levels with
      | none => simp [hw] at hlt
      | some p =>
        have hp := (Waiting.highest?_eq_some_iff.1 hw).1
        rw [hw, Option.getD_some] at hlt
        omega
    | some id =>
      obtain ⟨hrun, hstate⟩ := runningTask?_eq_some.1 htask
      obtain ⟨e, he, hrunning⟩ := exists_of_state? hstate
      rw [runningPriority_of_running htask he] at hlt
      refine .inl ⟨id, e, hrun, he, hrunning, fun p hne => ?_⟩
      obtain ⟨p', hw, hle⟩ := hv.exists_highest? hne
      rw [hw, Option.getD_some] at hlt
      omega
  · cases hdecide

/-- If the processor is handed over it goes to a most urgent task, or there is
none. -/
theorem settled_handOver (hv : s.Valid levels) (hlevels : levels ≤ leastUrgent)
    {target : Option TaskId} (hdecide : s.decide levels = .switchTo target) :
    (s.handOver target).Settled := by
  unfold Schedule.decide Waiting.decide at hdecide
  split at hdecide
  · cases hdecide
  · rename_i hge
    rw [Decision.switchTo.injEq] at hdecide
    cases hw : s.ready.highest? levels with
    | none =>
      rw [hw, Option.bind_none] at hdecide
      rw [hw, Option.getD_none] at hge
      have htask : s.runningTask? = none := by
        by_contra hsome
        obtain ⟨id, hid⟩ := Option.ne_none_iff_exists'.1 hsome
        obtain ⟨e, he, -⟩ := exists_of_state? (runningTask?_eq_some.1 hid).2
        have hlt := (hv.bounded id e he).1
        rw [runningPriority_of_running hid he] at hge
        omega
      rw [← hdecide]
      refine .inr ⟨rfl, fun p => ?_⟩
      change (s.releaseCurrent none).ready p = []
      rw [releaseCurrent_of_none htask]
      exact hv.eq_nil_of_highest? hw p
    | some p =>
      obtain ⟨hp, hne, hlow⟩ := Waiting.highest?_eq_some_iff.1 hw
      rw [hw, Option.getD_some] at hge
      rw [hw, Option.bind_some] at hdecide
      obtain ⟨id, rest, hlist⟩ := List.exists_cons_of_ne_nil hne
      rw [hlist, List.head?_cons] at hdecide
      obtain ⟨e, he, hready, rfl⟩ := (hv.ready id p).1 (hlist ▸ List.mem_cons_self)
      rw [← hdecide]
      have he₁ : (s.releaseCurrent (some id)).lookup? id = some e := by
        rw [lookup?_releaseCurrent, he]
      have hqueue : (s.releaseCurrent (some id)).dequeue id =
          (s.releaseCurrent (some id)).withReady
            ((s.releaseCurrent (some id)).ready.drop e.priority id) := by
        simp [dequeue, he₁]
      refine .inl ⟨id, { e with state := .running }, rfl, ?_, rfl, fun p' hp' => ?_⟩
      · rw [handOver, engage, hqueue]
        exact (lookup?_update_of he₁ _ id).trans (if_pos rfl)
      · rw [handOver, engage, hqueue] at hp'
        have hwait : (s.releaseCurrent (some id)).ready p' ≠ [] :=
          fun hnil => hp' (Waiting.drop_eq_nil hnil _ _)
        obtain ⟨a, ha⟩ := List.exists_mem_of_ne_nil _ hwait
        rcases mem_ready_releaseCurrent ha with ha | ⟨htask, e', he', rfl⟩
        · by_contra hgt
          rw [hlow p' (not_le.1 hgt)] at ha
          exact List.not_mem_nil ha
        · rw [runningPriority_of_running htask he'] at hge
          exact not_lt.1 hge

/-- The outermost exit settles the schedule. -/
theorem settled_conclude (h : s.Prompt) (hv : s.Valid levels) (hlevels : levels ≤ leastUrgent) :
    (s.conclude levels).Settled := by
  unfold conclude
  split
  · cases hdecide : s.decide levels with
    | keep => exact settled_of_keep (s := s) hv hlevels hdecide
    | switchTo target =>
      exact settled_handOver (s := s.takeDispatch) hv.takeDispatch hlevels hdecide
  · rename_i hskip
    rcases h with hp | hsettled
    · exact absurd (.inl hp) hskip
    · exact hsettled

end Schedule

end HartKernel
