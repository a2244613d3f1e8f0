import HartKernel.Proofs.Schedule.Urgency

/-!
# Who can become Running

Only a hand-over makes a task Running.  Every other operation may take the
processor from a task, but gives it to none.

Main definitions:

- `Schedule.Withholds` says that nobody has become Running.

Main results:

- `Schedule.Withholds.runningTask?_eq_none`: if nobody was Running nobody is.
- One lemma for each operation, such as `Schedule.withholds_activate`.
- `Schedule.runningTask?_of_keep`: if the current task goes on it is Running.
-/

namespace HartKernel

namespace Schedule

variable {levels : Nat} {s s' s'' : Schedule} {id : TaskId}

/-- Nobody has become Running, and the current task is the same. -/
structure Withholds (s s' : Schedule) : Prop where
  current : s'.running = s.running
  state : ∀ a, s'.state? a = some .running → s.state? a = some .running

namespace Withholds

theorem refl (s : Schedule) : s.Withholds s := ⟨rfl, fun _ h => h⟩

theorem trans (h : s.Withholds s') (h' : s'.Withholds s'') : s.Withholds s'' :=
  ⟨h'.current.trans h.current, fun a ha => h.state a (h'.state a ha)⟩

theorem of_entries (hentries : s'.entries = s.entries) (hrunning : s'.running = s.running) :
    s.Withholds s' := by
  refine ⟨hrunning, fun a ha => ?_⟩
  rwa [state?, lookup?, hentries] at ha

/-- If nobody was Running nobody is. -/
theorem runningTask?_eq_none (h : s.Withholds s') (hnone : s.runningTask? = none) :
    s'.runningTask? = none := by
  by_contra hsome
  obtain ⟨id, hid⟩ := Option.ne_none_iff_exists'.1 hsome
  obtain ⟨hrunning, hstate⟩ := runningTask?_eq_some.1 hid
  rw [runningTask?_eq_some.2 ⟨h.current.symm.trans hrunning, h.state id hstate⟩] at hnone
  cases hnone

end Withholds

/-! ## Operations -/

theorem withholds_update (s : Schedule) (id : TaskId) {f : Entry → Entry}
    (hf : ∀ e, (f e).state = e.state) : s.Withholds (s.update id f) :=
  ⟨rfl, fun a ha => by rwa [state?_update hf] at ha⟩

theorem withholds_setState (s : Schedule) (id : TaskId) {state : TaskState}
    (hstate : state ≠ .running) : s.Withholds (s.setState id state) := by
  refine ⟨rfl, fun a ha => ?_⟩
  rw [state?, setState, lookup?_update] at ha
  split at ha
  · obtain ⟨e, he, hrunning⟩ := Option.map_eq_some_iff.1 ha
    obtain ⟨e', -, rfl⟩ := Option.map_eq_some_iff.1 he
    exact absurd hrunning hstate
  · exact ha

theorem withholds_makeReady (s : Schedule) (id : TaskId) : s.Withholds (s.makeReady id) := by
  unfold makeReady
  split
  · exact .refl s
  · exact (s.withholds_setState id TaskState.noConfusion).trans (.of_entries rfl rfl)

theorem withholds_checkPreemption (s : Schedule) : s.Withholds (s.checkPreemption levels) := by
  unfold checkPreemption
  split
  · exact .refl s
  · split
    · exact .of_entries rfl rfl
    · exact .refl s

theorem withholds_wake (s : Schedule) (id : TaskId) :
    s.Withholds ((s.makeReady id).checkPreemption levels) :=
  (s.withholds_makeReady id).trans (withholds_checkPreemption _)

theorem withholds_activate (s : Schedule) (id : TaskId) : s.Withholds (s.activate levels id) := by
  unfold activate
  split
  · refine Withholds.trans ?_ (withholds_wake _ id)
    exact s.withholds_update id fun _ => rfl
  · exact .refl s

theorem withholds_markReady (s : Schedule) (id : TaskId) : s.Withholds (s.markReady levels id) := by
  unfold markReady
  split
  · exact s.withholds_wake id
  · exact .refl s

theorem withholds_resume (s : Schedule) (id : TaskId) : s.Withholds (s.resume levels id) := by
  unfold resume
  split
  · exact s.withholds_wake id
  · exact .refl s

theorem withholds_withdraw (s : Schedule) (id : TaskId) : s.Withholds (s.withdraw id) := by
  unfold withdraw
  split
  · exact .of_entries rfl rfl
  · unfold dequeue
    split <;> exact .of_entries rfl rfl
  · exact .refl s

theorem withholds_markBlocked (s : Schedule) (id : TaskId) : s.Withholds (s.markBlocked id) := by
  unfold markBlocked
  split
  · exact (s.withholds_withdraw id).trans (withholds_setState _ id TaskState.noConfusion)
  · exact .refl s

theorem withholds_suspend (s : Schedule) (id : TaskId) : s.Withholds (s.suspend id) := by
  unfold suspend
  split
  · exact (s.withholds_withdraw id).trans (withholds_setState _ id TaskState.noConfusion)
  · exact .refl s

theorem withholds_setPriority (s : Schedule) (id : TaskId) (priority : Nat) :
    s.Withholds (s.setPriority levels id priority) := by
  have hupdate := s.withholds_update id (f := fun e => { e with priority := priority }) fun _ => rfl
  unfold setPriority
  split
  · exact .refl s
  · exact .refl s
  · split
    · exact .refl s
    · refine Withholds.trans ?_ (withholds_checkPreemption _)
      unfold reprioritise
      split
      · exact hupdate.trans (.of_entries rfl rfl)
      · exact hupdate

theorem withholds_create (s : Schedule) (priority : Nat) : s.Withholds (s.create priority) := by
  refine ⟨rfl, fun a ha => ?_⟩
  rw [state?, lookup?, create, Array.getElem?_push] at ha
  split at ha
  · cases ha
  · exact ha

theorem withholds_serve (s : Schedule) (caller : Option TaskId) (number argument : Word) :
    s.Withholds (s.serve levels caller number argument) := by
  unfold serve
  split
  · exact .refl s
  · unfold perform
    split
    · exact s.withholds_markBlocked _
    · exact s.withholds_suspend _
    · split
      · exact .refl s
      · exact s.withholds_markReady _
    · exact .refl s
    · exact .refl s
    · exact .refl s

/-! ## The decision of the scheduler -/

/-- If the current task goes on it is Running. -/
theorem runningTask?_of_keep (hv : s.Valid levels) (hlevels : levels ≤ leastUrgent)
    (hkeep : s.decide levels = .keep) : s.runningTask? ≠ none := by
  intro hnone
  rcases settled_of_keep hv hlevels hkeep with ⟨id, e, hrun, he, hstate, -⟩ | ⟨-, hempty⟩
  · rw [runningTask?_eq_some.2 ⟨hrun, by rw [state?_of_lookup? he, hstate]⟩] at hnone
    cases hnone
  · have hhighest : s.ready.highest? levels = none :=
      Waiting.highest?_eq_none_iff.2 fun p _ => hempty p
    unfold Schedule.decide Waiting.decide at hkeep
    rw [runningPriority_of_none hnone, hhighest] at hkeep
    simp at hkeep

end Schedule

end HartKernel
