import HartKernel.Proofs.Trap.History

/-!
# Whom the scheduler chooses

The scheduler looks at the bitmap, at the first task of one level and at the current
task.  What it decides can be told from the task table alone, and from who was last
put at the back of a level when.

Main definitions:

- `Kernel.Prevails` says that the current task is Running and more urgent than every
  Ready task.
- `Kernel.Foremost` says that a Ready task comes before every other one.
- `Kernel.Deserted` says that no task is Running or Ready.

Main results:

- `Kernel.Implements.exists_prevails_iff`, `Kernel.Implements.foremost_iff` and
  `Kernel.Implements.deserted_iff`: what these mean for the schedule.
- `Machine.Recorded.decides`: whatever happened to a system, the scheduler keeps the
  current task if it prevails, idles if nobody is there to run, and otherwise gives
  the processor to the foremost task.
-/

namespace HartKernel

namespace Kernel

variable {capacity levels : Nat} {k : Kernel capacity levels} {s : Schedule}
variable {log : List (Option TaskId)} {id : TaskId}

/-- The current task is Running, and more urgent than every Ready task. -/
def Prevails (k : Kernel capacity levels) (id : TaskId) : Prop :=
  k.running = some id ∧ ∃ t, k.task? id = some t ∧ t.state = .running ∧
    ∀ a u, k.task? a = some u → u.state = .ready → t.priority < u.priority

/-- A Ready task is more urgent than every other Ready task, or as urgent and was
put at the back of their level earlier. -/
structure Foremost (k : Kernel capacity levels) (log : List (Option TaskId)) (id : TaskId) :
    Prop where
  ready : (k.task? id).map Task.state = some .ready
  recorded : some id ∈ log
  first : ∀ a, (k.task? a).map Task.state = some .ready → a ≠ id → k.Before log id a

/-- No task is Running or Ready. -/
def Deserted (k : Kernel capacity levels) : Prop :=
  ∀ id t, k.task? id = some t → t.state ≠ .running ∧ t.state ≠ .ready

/-- Two tasks cannot both come first. -/
theorem Foremost.eq {a b : TaskId} (ha : k.Foremost log a) (hb : k.Foremost log b) : a = b := by
  by_contra hne
  exact (ha.first b hb.ready (Ne.symm hne)).asymm (hb.first a ha.ready hne)

namespace Implements

/-- The first task in scheduling order is foremost, and no other one is. -/
theorem foremost_iff (h : k.Implements s) (hv : s.Valid levels) (harranged : s.ready.Arranged log) :
    k.Foremost log id ↔ (s.ready.toList levels).head? = some id := by
  have horder := h.inOrder hv harranged
  have hhead : ∀ {a : TaskId}, (s.ready.toList levels).head? = some a → k.Foremost log a := by
    intro a ha
    obtain ⟨rest, hlist⟩ := List.head?_eq_some_iff.1 ha
    have hmem : a ∈ s.ready.toList levels := hlist ▸ List.mem_cons_self
    have hpairs := horder.order
    rw [hlist] at hpairs
    refine ⟨(horder.mem a).1 hmem, horder.recorded a hmem, fun b hb hne => ?_⟩
    have hb' := (horder.mem b).2 hb
    rw [hlist] at hb'
    exact List.rel_of_pairwise_cons hpairs ((List.mem_cons.1 hb').resolve_left hne)
  refine ⟨fun hfirst => ?_, hhead⟩
  obtain ⟨a, ha⟩ := Option.isSome_iff_exists.1
    (List.isSome_head?.2 (List.ne_nil_of_mem ((horder.mem id).2 hfirst.ready)))
  rw [ha, hfirst.eq (hhead ha)]

/-- The priority of the running task comes before every level where a task waits
exactly if the running task prevails. -/
theorem exists_prevails_iff (h : k.Implements s) (hv : s.Valid levels) :
    (∃ id, k.Prevails id) ↔ s.runningPriority < (s.ready.highest? levels).getD leastUrgent := by
  have hlevels : levels ≤ leastUrgent := k.queue.levels_le.trans (by decide)
  constructor
  · rintro ⟨id, hrunning, t, ht, hstate, hbefore⟩
    have he := h.lookup?_of_task? ht
    have hrun : s.runningTask? = some id := by
      refine Schedule.runningTask?_eq_some.2 ⟨h.running.trans hrunning, ?_⟩
      rw [h.state?_of_task? ht, hstate]
    rw [Schedule.runningPriority_of_running hrun he]
    cases hw : s.ready.highest? levels with
    | none => exact (hv.bounded id _ he).1.trans_le hlevels
    | some p =>
      obtain ⟨-, hne, -⟩ := Waiting.highest?_eq_some_iff.1 hw
      obtain ⟨a, ha⟩ := List.exists_mem_of_ne_nil _ hne
      obtain ⟨u, hu, rfl⟩ := h.queue.level p a ha
      exact hbefore a u hu ((hv.mem_ready (h.lookup?_of_task? hu)).1 ha).1
  · intro hlt
    obtain ⟨id, hrun⟩ : ∃ id, s.runningTask? = some id := by
      rw [← Option.ne_none_iff_exists']
      intro hnone
      -- without a running task no level would come later than the priority
      rw [Schedule.runningPriority_of_none hnone] at hlt
      cases hw : s.ready.highest? levels with
      | none => simp [hw] at hlt
      | some p =>
        have hp := (Waiting.highest?_eq_some_iff.1 hw).1
        rw [hw, Option.getD_some] at hlt
        omega
    obtain ⟨hrunning, hstate⟩ := Schedule.runningTask?_eq_some.1 hrun
    rw [h.state?_eq, Option.map_eq_some_iff] at hstate
    obtain ⟨t, ht, hstate⟩ := hstate
    refine ⟨id, h.running.symm.trans hrunning, t, ht, hstate, fun a u hu hready => ?_⟩
    have hwaits : a ∈ s.ready u.priority :=
      (hv.mem_ready (h.lookup?_of_task? hu)).2 ⟨hready, rfl⟩
    obtain ⟨p, hw, hle⟩ := hv.exists_highest? (List.ne_nil_of_mem hwaits)
    rw [Schedule.runningPriority_of_running hrun (h.lookup?_of_task? ht), hw] at hlt
    exact Nat.lt_of_lt_of_le hlt hle

/-- Nobody is there to run exactly if nobody waits and nobody prevails. -/
theorem deserted_iff (h : k.Implements s) (hv : s.Valid levels) :
    k.Deserted ↔ (¬∃ id, k.Prevails id) ∧ (s.ready.toList levels).head? = none := by
  rw [List.head?_eq_none_iff, List.eq_nil_iff_forall_not_mem]
  constructor
  · refine fun hnone => ⟨?_, fun id hid => ?_⟩
    · rintro ⟨id, -, t, ht, hstate, -⟩
      exact (hnone id t ht).1 hstate
    · rw [hv.mem_toList, h.state?_eq, Option.map_eq_some_iff] at hid
      obtain ⟨t, ht, hstate⟩ := hid
      exact (hnone id t ht).2 hstate
  · rintro ⟨hnot, hempty⟩ id t ht
    have hready : ∀ a u, k.task? a = some u → u.state ≠ .ready := by
      intro a u hu hstate
      exact hempty a (hv.mem_toList.2 (by rw [h.state?_of_task? hu, hstate]))
    refine ⟨fun hstate => hnot ⟨id, ?_, t, ht, hstate, fun a u hu hwaits => ?_⟩, hready id t ht⟩
    · rw [← h.running]
      exact hv.holder id (by rw [h.state?_of_task? ht, hstate])
    · exact absurd hwaits (hready a u hu)

/-- The current task is kept if it prevails. -/
theorem decide_of_prevails (h : k.Implements s) (hv : s.Valid levels) (hid : k.Prevails id) :
    k.decide = .ok .keep := by
  rw [h.decide_eq, Schedule.decide, Waiting.decide,
    if_pos ((h.exists_prevails_iff hv).1 ⟨id, hid⟩)]

/-- If no task prevails the processor goes to the first task in scheduling order. -/
theorem decide_of_not_prevails (h : k.Implements s) (hv : s.Valid levels)
    (hnot : ¬∃ id, k.Prevails id) : k.decide = .ok (.switchTo (s.ready.toList levels).head?) := by
  rw [h.exists_prevails_iff hv] at hnot
  rw [h.decide_eq, Schedule.decide, Waiting.decide, if_neg hnot, Waiting.head?_toList]

end Implements

end Kernel

namespace Machine

variable {capacity levels : Nat} {σ : Type} {cfg : Config} {handlers : Handlers σ capacity levels}
variable {m : Machine capacity levels} {s : σ} {log : List (Option TaskId)}

/-- At any time the scheduler decides by the task table and by who was put at the
back when: it keeps the current task exactly if that task prevails, it idles exactly
if no task is Running or Ready, and otherwise the processor goes to the foremost
task.  The task to run next is the one that is kept or gets the processor, there is
none exactly if no task is Running or Ready, and it is always one of those. -/
theorem Recorded.decides (h : Recorded cfg handlers log m s) :
    ∃ decision next, m.kernel.decide = .ok decision ∧ m.kernel.selectNext = .ok next ∧
      (decision = .keep ↔ ∃ id, m.kernel.Prevails id) ∧
      (decision = .switchTo none ↔ m.kernel.Deserted) ∧
      (∀ id, decision = .switchTo (some id) ↔
        (¬∃ a, m.kernel.Prevails a) ∧ m.kernel.Foremost log id) ∧
      (∀ id, next = some id ↔ m.kernel.Prevails id ∨
        (¬∃ a, m.kernel.Prevails a) ∧ m.kernel.Foremost log id) ∧
      (next = none ↔ m.kernel.Deserted) ∧
      ∀ id, next = some id → ∃ t, m.kernel.task? id = some t ∧
        (t.state = .running ∨ t.state = .ready) := by
  obtain ⟨sch, himpl, hv, harranged⟩ := h.arranged
  by_cases hprevails : ∃ id, m.kernel.Prevails id
  · obtain ⟨a, ha⟩ := hprevails
    have hdecide := himpl.decide_of_prevails hv ha
    obtain ⟨t, ht, hstate, -⟩ := ha.2
    have hselect : m.kernel.selectNext = .ok (some a) := by
      rw [Kernel.selectNext, hdecide, ← ha.1]
      rfl
    have hmanned : ¬m.kernel.Deserted := fun hnone => (hnone a t ht).1 hstate
    refine ⟨_, _, hdecide, hselect, iff_of_true rfl ⟨a, ha⟩, iff_of_false nofun hmanned,
      fun id => iff_of_false nofun fun hnot => hnot.1 ⟨a, ha⟩, fun id => ⟨fun hid => ?_, ?_⟩,
      iff_of_false nofun hmanned, fun id hid => ?_⟩
    · cases hid
      exact .inl ha
    · rintro (hid | ⟨hnot, -⟩)
      · exact ha.1.symm.trans hid.1
      · exact absurd ⟨a, ha⟩ hnot
    · cases hid
      exact ⟨t, ht, .inl hstate⟩
  · have hdecide := himpl.decide_of_not_prevails hv hprevails
    have hforemost : ∀ id, m.kernel.Foremost log id ↔
        (sch.ready.toList levels).head? = some id := fun id => himpl.foremost_iff hv harranged
    have hnone : (sch.ready.toList levels).head? = none ↔ m.kernel.Deserted := by
      rw [himpl.deserted_iff hv, and_iff_right hprevails]
    have hselect : m.kernel.selectNext = .ok (sch.ready.toList levels).head? := by
      rw [Kernel.selectNext, hdecide]
      rfl
    refine ⟨_, _, hdecide, hselect, iff_of_false nofun hprevails, ?_, fun id => ?_, fun id => ?_,
      hnone, fun id hid => ?_⟩
    · rw [Decision.switchTo.injEq]
      exact hnone
    · rw [Decision.switchTo.injEq, and_iff_right hprevails, hforemost]
    · rw [and_iff_right hprevails, hforemost, or_iff_right fun hid => hprevails ⟨id, hid⟩]
    · obtain ⟨t, ht, hstate⟩ := Option.map_eq_some_iff.1 ((hforemost id).2 hid).ready
      exact ⟨t, ht, .inr hstate⟩

/-- The current task has been blocked, and two tasks of the same priority are Ready:
the one that was put at the back earlier is chosen. -/
theorem Recorded.decides_blocked :
    ∃ (log : List (Option TaskId)) (m : Machine 4 4),
      Recorded (Config.machine false) (Handlers.default : Handlers Unit 4 4) log m () ∧
      m.kernel.running = some ⟨1⟩ ∧ ¬m.kernel.IsRunning ⟨1⟩ ∧
      m.kernel.decide = .ok (.switchTo (some ⟨2⟩)) ∧ m.kernel.Foremost log ⟨2⟩ ∧
      lastPlaced ⟨2⟩ log < lastPlaced ⟨0⟩ log := by
  obtain ⟨⟨m, u⟩, hplay, hm⟩ := exists_of_returns
    (x := small.play (Config.machine false) (Handlers.default : Handlers Unit 4 4) ()
      (activateThree ++ [.trap .software 0, .call (.markBlocked ⟨1⟩)]))
    (p := fun b => decide (b.1.kernel.running = some ⟨1⟩ ∧ ¬b.1.kernel.IsRunning ⟨1⟩ ∧
      b.1.kernel.decide = .ok (.switchTo (some ⟨2⟩)) ∧
      (b.1.kernel.task? ⟨0⟩).map Task.entry = some ⟨.ready, 1, 1⟩ ∧
      (b.1.kernel.task? ⟨2⟩).map Task.entry = some ⟨.ready, 1, 1⟩))
    (by decide +kernel)
  obtain ⟨hrunning, hblocked, hdecide, hzero, htwo⟩ := of_decide_eq_true hm
  obtain ⟨log, hrecorded⟩ := (Recorded.initial () initial_small).play
    (Handlers.calling_default _ fun _ => True) hplay
  obtain ⟨decision, next, hdecision, -, -, -, hswitch, -⟩ := hrecorded.decides
  rw [hdecide, Except.ok.injEq] at hdecision
  have hforemost := ((hswitch ⟨2⟩).1 hdecision.symm).2
  obtain ⟨u₀, hu₀, hentry₀⟩ := Option.map_eq_some_iff.1 hzero
  obtain ⟨u₂, hu₂, hentry₂⟩ := Option.map_eq_some_iff.1 htwo
  have hready : (m.kernel.task? ⟨0⟩).map Task.state = some .ready := by
    have hstate : u₀.entry.state = .ready := by rw [hentry₀]
    rw [hu₀]
    exact congrArg some hstate
  obtain ⟨t, t', ht, ht', hlt | ⟨-, hlt⟩⟩ := hforemost.first ⟨0⟩ hready (by decide)
  · -- both tasks have the same priority
    rw [hu₂, Option.some.injEq] at ht
    rw [hu₀, Option.some.injEq] at ht'
    subst ht ht'
    have hsame : u₂.entry.priority = u₀.entry.priority := by rw [hentry₀, hentry₂]
    exact absurd hsame (Nat.ne_of_lt hlt)
  · exact ⟨log, m, hrecorded, hrunning, hblocked, hdecide, hforemost, hlt⟩

end Machine

end HartKernel
