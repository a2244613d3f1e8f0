import HartKernel.Proofs.Schedule.Rotation
import HartKernel.Proofs.Trap.History
import HartKernel.Proofs.Trap.SystemCall
import Mathlib.Order.Bounds.Basic

/-!
# Round robin

As long as nothing happens but traps that ask for a dispatch, the tasks of the most
urgent level take turns, and no other task runs.

Main definitions:

- `Kernel.cycle` are the tasks that take turns at a level, in turn.
- `TrapCause.Yields` are the traps that ask for a dispatch and for nothing else.
- `Machine.Rounds` says that such traps lead from one state to another, and who ran
  after each of them.

Main results:

- `Machine.implements_of_yields`: what such a trap does to the schedule.
- `Machine.Recorded.round_robin`: in any state of a system, whose turn it is.
-/

namespace HartKernel

/-! ## Levels of a kernel -/

namespace Kernel

variable {capacity levels p : Nat} {k k' : Kernel capacity levels} {s : Schedule} {id : TaskId}

/-- The Ready tasks of a level, in the order of the queue. -/
def levelTasks (k : Kernel capacity levels) (p : Nat) : Except Panic (List TaskId) :=
  k.queue.levelList k.tasks p

/-- The running task, if it is Running at a level. -/
def runningAt? (k : Kernel capacity levels) (p : Nat) : Option TaskId :=
  k.runningTask?.filter fun id => (k.task? id).map Task.priority = some p

/-- The tasks that take turns at a level: the Ready tasks in the order of the queue,
and then the one that is Running. -/
def cycle (k : Kernel capacity levels) (p : Nat) : Except Panic (List TaskId) :=
  return (← k.levelTasks p) ++ (k.runningAt? p).toList

/-- A task is Running or Ready at a level. -/
def RunnableAt (k : Kernel capacity levels) (p : Nat) (id : TaskId) : Prop :=
  ∃ t, k.task? id = some t ∧ (t.state = .running ∨ t.state = .ready) ∧ t.priority = p

namespace Implements

theorem levelTasks_eq (h : k.Implements s) (hp : p < levels) : k.levelTasks p = .ok (s.ready p) :=
  h.queue.levelList_eq hp

theorem runningAt?_eq (h : k.Implements s) (p : Nat) : s.runningAt? p = k.runningAt? p := by
  rw [Schedule.runningAt?, runningAt?, h.runningTask?_eq]
  congr 1
  funext id
  rw [h.lookup?_eq, Option.map_map]
  rfl

theorem cycle_eq (h : k.Implements s) (hp : p < levels) : k.cycle p = .ok (s.cycle p) := by
  rw [cycle, h.levelTasks_eq hp, ← h.runningAt?_eq]
  rfl

theorem runnableAt_iff (h : k.Implements s) (hv : s.Valid levels) :
    k.RunnableAt p id ↔ id ∈ s.cycle p := by
  rw [hv.mem_cycle, h.lookup?_eq]
  constructor
  · rintro ⟨t, ht, hstate, hp⟩
    exact ⟨t.entry, Option.map_eq_some_iff.2 ⟨t, ht, rfl⟩, hstate, hp⟩
  · rintro ⟨e, he, hstate, hp⟩
    obtain ⟨t, ht, rfl⟩ := Option.map_eq_some_iff.1 he
    exact ⟨t, ht, hstate, hp⟩

/-- The most urgent level with tasks to run. -/
theorem leads_iff (h : k.Implements s) (hv : s.Valid levels) :
    s.Leads p ↔ IsLeast {p | ∃ id, k.RunnableAt p id} p := by
  have hoccupied : ∀ q, (∃ id, k.RunnableAt q id) ↔ s.cycle q ≠ [] := by
    intro q
    simp only [h.runnableAt_iff hv]
    exact ⟨fun ⟨_, hid⟩ => List.ne_nil_of_mem hid, List.exists_mem_of_ne_nil _⟩
  constructor
  · intro hp
    refine ⟨(hoccupied p).2 hp.occupied, fun q hq => ?_⟩
    by_contra hlt
    exact (hoccupied q).1 hq (hp.vacant q (not_le.1 hlt))
  · rintro ⟨hp, hleast⟩
    refine ⟨(hoccupied p).1 hp, fun q hq => ?_⟩
    by_contra hne
    exact absurd (hleast ((hoccupied q).2 hne)) (not_le.2 hq)

end Implements

end Kernel

/-! ## Traps that ask for a dispatch -/

/-- The traps that ask for a dispatch and for nothing else, if the handlers change
nothing: software and timer interrupts, and calls to yield. -/
def TrapCause.Yields (r : RegisterFile) : TrapCause → Prop
  | .software | .timer => True
  | .environmentCall _ => Service.ofNumber? (r.get .a7) = some .yield
  | .external _ | .exception _ => False

/-- Nothing is changed on a timer interrupt. -/
def Handlers.Passive {σ : Type} {capacity levels : Nat} (handlers : Handlers σ capacity levels) :
    Prop :=
  ∀ count k s k' s', (handlers.tick count k s).result = .ok (k', s') → k' = k

/-- A schedule after a request for a dispatch, at any time. -/
def Schedule.requestedAt (s : Schedule) (tick : Word) : Schedule :=
  { s with pending := true, tick := tick }

theorem Handlers.passive_default {σ : Type} {capacity levels : Nat} :
    (default : Handlers σ capacity levels).Passive := by
  intro count k s k' s' h
  cases h
  rfl

namespace Machine

variable {capacity levels : Nat} {σ : Type} {cfg : Config} {handlers : Handlers σ capacity levels}
variable {m m' : Machine capacity levels} {s s' : σ} {sch : Schedule}

/-- A software or timer interrupt asks for a dispatch and does nothing else. -/
theorem implements_of_dispatched {frame : SavedFrame} {cause : TrapCause}
    (hpassive : handlers.Passive) (himpl : m.kernel.Implements sch)
    (hinterrupt : cause = .software ∨ cause = .timer)
    (h : Dispatched cfg handlers m m' s s' frame cause) :
    ∃ tick, m'.kernel.Implements (sch.requestedAt tick) := by
  cases h with
  | software hkernel hs => exact ⟨sch.tick, hkernel ▸ himpl.requestDispatch⟩
  | timer kernel htick hkernel =>
    obtain rfl := hpassive _ _ _ _ _ htick
    exact ⟨sch.tick + 1, hkernel ▸ himpl.advanceTick.requestDispatch⟩
  | external code hexternal => simp at hinterrupt
  | environmentCall => simp at hinterrupt

/-- The idle loop cannot call. -/
theorem not_idle_of_environmentCall {context : TrapContext} {code : Word}
    (hcause : context.cause = .environmentCall code)
    (h : (m.dispatch cfg handlers s context).result = .ok (.ok (), m', s')) :
    context.frame ≠ .idle := by
  obtain ⟨cause, frame⟩ := context
  rintro rfl
  cases hcause
  obtain ⟨m₁, hcall, -⟩ := dispatch_environmentCall_cases h
  rw [environmentCall_of_error (e := .outOfRegion) rfl] at hcall
  cases hcall

/-- An outermost trap that asks for a dispatch makes the scheduler decide and does
nothing else to the schedule. -/
theorem implements_of_yields {cause : TrapCause} {value : Word} (hpassive : handlers.Passive)
    (himpl : m.kernel.Implements sch) (hv : sch.Valid levels) (hnesting : m.nesting = 0)
    (hyields : cause.Yields m.hart.regs)
    (htrap : (m.trap cfg handlers s cause value).result = .ok (.ok (), m', s')) :
    m'.nesting = 0 ∧ ∃ tick, m'.kernel.Implements ((sch.requestedAt tick).conclude levels) := by
  obtain ⟨hart, context, m₁, m₂, s₂, m₃, hraise, hentry, hdispatch, hexit, rfl⟩ :=
    trap_cases htrap
  obtain ⟨hcause, hinterrupted, hnesting₁, -⟩ := entry_cases hentry
  obtain ⟨hdispatched, hnesting₂, -⟩ := dispatch_cases hdispatch
  have hdecoded : context.cause = cause := hcause.trans (Hart.decode_raise hraise)
  have himpl₁ : m₁.kernel.Implements sch := hinterrupted.implements himpl
  have hinterrupt : cause = .software ∨ cause = .timer →
      m₃.nesting = 0 ∧ ∃ tick, m₃.kernel.Implements ((sch.requestedAt tick).conclude levels) := by
    intro hcauses
    obtain ⟨tick, himpl₂⟩ :=
      implements_of_dispatched hpassive himpl₁ (hdecoded ▸ hcauses) hdispatched
    dsimp only at hnesting₁
    obtain ⟨hbefore, ⟨hpos, -⟩ | ⟨hzero, decision, hdecision, hresumed⟩⟩ := exit_cases hexit
    · omega
    · have hv₂ : (sch.requestedAt tick).Valid levels := hv.congr rfl rfl rfl
      exact ⟨hzero, tick, (himpl₂.conclude hv₂ hdecision (obey_of_resumed hresumed)).1⟩
  cases cause with
  | software => exact hinterrupt (.inl rfl)
  | timer => exact hinterrupt (.inr rfl)
  | external code => exact hyields.elim
  | exception code => exact hyields.elim
  | environmentCall code =>
    have hcaller := not_idle_of_environmentCall hdecoded hdispatch
    obtain ⟨a, hcurrent, hsp⟩ : ∃ a, m.kernel.running = some a ∧ m.hart.regs.sp ≠ 0 := by
      have hsame := Hart.sp_raise hraise
      generalize context.frame = frame at hinterrupted hcaller
      cases hinterrupted with
      | handler sp hnested hkernel => exact absurd hnesting hnested.ne'
      | idle hnested hzero hrunning hkernel => exact absurd rfl hcaller
      | task id sp hnested hne hrunning hsave => exact ⟨id, hrunning, hsame ▸ hne⟩
    obtain ⟨hzero, himpl₃, -⟩ := trap_environmentCall himpl hv hnesting hcurrent hsp htrap
    have hserve : sch.serve levels (some a) (m.hart.regs.get .a7) (m.hart.regs.get .a0) = sch := by
      rw [Schedule.serve, hyields]
      rfl
    rw [hserve] at himpl₃
    exact ⟨hzero, sch.tick, himpl₃⟩

/-! ## Rounds -/

/-- Whoever holds the hart works: it changes the hart and memory, and neither calls
the kernel nor traps. -/
inductive Works : Machine capacity levels → Machine capacity levels → Prop where
  | refl (m : Machine capacity levels) : Works m m
  | hart {m m' : Machine capacity levels} (h : Works m m') (hart : Hart) :
    Works m { m' with hart := hart }
  | write {m m' : Machine capacity levels} (h : Works m m') (id : TaskId) (index : Nat) (v : Word) :
    Works m { m' with kernel := m'.kernel.updateTask id fun t =>
      { t with stack := t.stack.put index v } }
  | writeInterrupt {m m' : Machine capacity levels} (h : Works m m') (index : Nat) (v : Word) :
    Works m { m' with interruptStack := m'.interruptStack.put index v }

/-- Traps that ask for a dispatch lead from one state to another, with work in
between.  The list tells, oldest first, who was Running after each trap. -/
inductive Rounds (cfg : Config) (handlers : Handlers σ capacity levels)
    (m : Machine capacity levels) (s : σ) :
    List (Option TaskId) → Machine capacity levels → σ → Prop where
  | start : Rounds cfg handlers m s [] m s
  | round {ran : List (Option TaskId)} {m₁ m₂ m₃ : Machine capacity levels} {s₁ s₂ : σ}
    {cause : TrapCause} {value : Word} (h : Rounds cfg handlers m s ran m₁ s₁)
    (hworks : Works m₁ m₂) (hyields : cause.Yields m₂.hart.regs)
    (htrap : (m₂.trap cfg handlers s₁ cause value).result = .ok (.ok (), m₃, s₂)) :
    Rounds cfg handlers m s (ran ++ [m₃.kernel.runningTask?]) m₃ s₂

/-- Work does not concern the scheduler. -/
theorem Works.implements (h : Works m m') (himpl : m.kernel.Implements sch) :
    m'.kernel.Implements sch ∧ m'.nesting = m.nesting := by
  induction h with
  | refl => exact ⟨himpl, rfl⟩
  | hart h hart ih => exact ih
  | write h id index v ih =>
    exact ⟨ih.1.updateContext id (fun _ => rfl) fun _ => rfl, ih.2⟩
  | writeInterrupt h index v ih => exact ih

namespace Rounds

variable {p : Nat} {ran ran' : List (Option TaskId)} {m'' : Machine capacity levels} {s'' : σ}

theorem trans (h : Rounds cfg handlers m s ran m' s')
    (h' : Rounds cfg handlers m' s' ran' m'' s'') :
    Rounds cfg handlers m s (ran ++ ran') m'' s'' := by
  induction h' with
  | start =>
    rw [List.append_nil]
    exact h
  | round h' hworks hyields htrap ih =>
    rw [← List.append_assoc]
    exact ih.round hworks hyields htrap

/-- The tasks of the most urgent level take one turn in each round. -/
theorem rotated (h : Rounds cfg handlers m s ran m' s') (hpassive : handlers.Passive)
    (himpl : m.kernel.Implements sch) (hv : sch.Valid levels) (hp : sch.Leads p)
    (hnesting : m.nesting = 0) :
    m'.nesting = 0 ∧ (∃ sch', m'.kernel.Implements sch' ∧ sch'.Valid levels ∧
        Schedule.Rotated p ran.length sch sch') ∧
      ∀ i < ran.length, ran[i]? = some (sch.cycle p)[i % (sch.cycle p).length]? := by
  induction h with
  | start =>
    exact ⟨hnesting, ⟨sch, himpl, hv, .refl sch p⟩, fun i hi => absurd hi (Nat.not_lt_zero i)⟩
  | @round ran m₁ m₂ m₃ s₁ s₂ cause value h hworks hyields htrap ih =>
    obtain ⟨hnesting₁, ⟨sch₁, himpl₁, hv₁, hrotated₁⟩, hran⟩ := ih
    obtain ⟨himpl₂, hnesting₂⟩ := hworks.implements himpl₁
    obtain ⟨hnesting₃, tick, himpl₃⟩ := implements_of_yields hpassive himpl₂ hv₁
      (hnesting₂.trans hnesting₁) hyields htrap
    -- neither the request nor the tick counter matters to the turns; the exit takes one
    have hv₃ : (sch₁.requestedAt tick).Valid levels := hv₁.congr rfl rfl rfl
    have hrotated₂ : Schedule.Rotated p ran.length sch (sch₁.requestedAt tick) :=
      hrotated₁.congr rfl rfl rfl
    have hrotated₃ := hrotated₂.conclude hv₃ m.kernel.levels_le hp rfl
    refine ⟨hnesting₃, ⟨_, himpl₃, hv₃.conclude, by simpa using hrotated₃⟩, fun i hi => ?_⟩
    rw [List.length_append, List.length_singleton] at hi
    rcases Nat.lt_succ_iff_lt_or_eq.1 hi with hlt | rfl
    · rw [List.getElem?_append_left hlt, hran i hlt]
    · rw [List.getElem?_concat_length, ← himpl₃.runningTask?_eq,
        hrotated₃.runningTask?_eq hp (Nat.succ_pos _), Nat.add_sub_cancel]

end Rounds

/-- What is left of a kernel after the tasks of one level have taken a number of
turns, while nothing happened at the other levels. -/
structure TookTurns (p : Nat) (lead : List TaskId) (n : Nat) (k k' : Kernel capacity levels) :
    Prop where
  running : k'.runningTask? = lead[(n - 1) % lead.length]?
  runnable : ∀ id ∈ lead, k'.RunnableAt p id
  cycle : k'.cycle p = .ok (lead.rotate n)
  others : ∀ q < levels, q ≠ p → k'.levelTasks q = k.cycle q

theorem tookTurns_of_rotated {p n : Nat} {k k' : Kernel capacity levels} {sch' : Schedule}
    (himpl : k.Implements sch) (himpl' : k'.Implements sch') (hv' : sch'.Valid levels)
    (hp : sch.Leads p) (hlevel : p < levels) (h : Schedule.Rotated p n sch sch') (hn : 0 < n) :
    TookTurns p (sch.cycle p) n k k' where
  running := by rw [← himpl'.runningTask?_eq, h.runningTask?_eq hp hn]
  runnable id hid := by
    rw [himpl'.runnableAt_iff hv', h.cycle, if_pos rfl, List.mem_rotate]
    exact hid
  cycle := by rw [himpl'.cycle_eq hlevel, h.cycle, if_pos rfl]
  others q hq hne := by rw [himpl'.levelTasks_eq hq, himpl.cycle_eq hq, h.ready_of_ne hn hne]

/-- In any state of a system that handles no trap and has a task to run, the tasks
of the most urgent level take turns, beginning with the first one that waits there,
as long as nothing happens but traps that ask for a dispatch.  After each trap the
running task is the one whose turn it is, so that no other task runs; the tasks of
all other levels wait as before, behind them a task that was running there; and
as many traps as there are tasks that take turns lead back to the same task and
the same order. -/
theorem Recorded.round_robin {handlers₀ : Handlers σ capacity levels} {log : List (Option TaskId)}
    (h : Recorded cfg handlers₀ log m s) (hnesting : m.nesting = 0)
    (hrunnable : ∃ p id, m.kernel.RunnableAt p id) (hpassive : handlers.Passive) :
    ∃ p lead, IsLeast {p | ∃ id, m.kernel.RunnableAt p id} p ∧ m.kernel.cycle p = .ok lead ∧
      lead ≠ [] ∧
      ∀ ran m' s', Rounds cfg handlers m s ran m' s' →
        (∀ i < ran.length, ran[i]? = some lead[i % lead.length]?) ∧
        (ran ≠ [] → TookTurns p lead ran.length m.kernel m'.kernel ∧
          ∀ ran' m'' s'', ran'.length = lead.length → Rounds cfg handlers m' s' ran' m'' s'' →
            m''.kernel.runningTask? = m'.kernel.runningTask? ∧
              m''.kernel.readyTasks = m'.kernel.readyTasks) := by
  obtain ⟨sch, himpl, hv, -⟩ := h.arranged
  classical
  have hleast : IsLeast {p | ∃ id, m.kernel.RunnableAt p id} (Nat.find hrunnable) :=
    ⟨Nat.find_spec hrunnable, fun _ hq => Nat.find_min' hrunnable hq⟩
  have hp : sch.Leads (Nat.find hrunnable) := (himpl.leads_iff hv).2 hleast
  generalize Nat.find hrunnable = p at hleast hp
  have hlevel : p < levels := by
    obtain ⟨id, hid⟩ := List.exists_mem_of_ne_nil _ hp.occupied
    obtain ⟨e, he, -, rfl⟩ := hv.mem_cycle.1 hid
    exact (hv.bounded id e he).1
  refine ⟨p, sch.cycle p, hleast, himpl.cycle_eq hlevel, hp.occupied, fun ran m' s' hrounds => ?_⟩
  obtain ⟨hnesting', ⟨sch', himpl', hv', hrotated⟩, hran⟩ :=
    hrounds.rotated hpassive himpl hv hp hnesting
  refine ⟨hran, fun hne => ?_⟩
  have hpos : 0 < ran.length := List.length_pos_iff.2 hne
  refine ⟨tookTurns_of_rotated himpl himpl' hv' hp hlevel hrotated hpos, ?_⟩
  intro ran' m'' s'' hlength hrounds'
  -- also the later rounds rotate the level that is the most urgent one at the beginning
  obtain ⟨-, ⟨sch'', himpl'', -, hrotated'⟩, -⟩ :=
    (hrounds.trans hrounds').rotated hpassive himpl hv hp hnesting
  rw [List.length_append, hlength] at hrotated'
  obtain ⟨hready, hrunning⟩ := hrotated.again hrotated' hp hpos
  have hlist : m''.kernel.readyTasks = .ok (sch''.ready.toList levels) := himpl''.queue.toList_eq
  rw [← himpl''.runningTask?_eq, ← himpl'.runningTask?_eq, hlist, hready]
  exact ⟨hrunning, himpl'.queue.toList_eq.symm⟩

/-- Two tasks of the same priority take turns: on a software interrupt, a call to
yield and a timer interrupt. -/
theorem Recorded.round_robin_two :
    ∃ (log ran : List (Option TaskId)) (m m' : Machine 4 4) (p : Nat) (lead : List TaskId),
      Recorded (Config.machine false) (Handlers.default : Handlers Unit 4 4) log m () ∧
      m.nesting = 0 ∧ (Handlers.default : Handlers Unit 4 4).Passive ∧
      Rounds (Config.machine false) Handlers.default m () ran m' () ∧
      ran = [some ⟨0⟩, some ⟨1⟩, some ⟨0⟩] ∧
      IsLeast {p | ∃ id, m.kernel.RunnableAt p id} p ∧ m.kernel.cycle p = .ok lead ∧
      (∀ i < ran.length, ran[i]? = some lead[i % lead.length]?) ∧
      TookTurns p lead ran.length m.kernel m'.kernel := by
  obtain ⟨⟨m, u⟩, hplay, hm⟩ := exists_of_returns
    (x := small.play (Config.machine false) (Handlers.default : Handlers Unit 4 4) ()
      (Move.startTwo.take 4))
    (p := fun b => decide (b.1.nesting = 0) &&
      (b.1.kernel.task? ⟨0⟩).any (fun t : Task => decide (t.state = .ready)) &&
      returns (b.1.trap (Config.machine false) Handlers.default () .software 0) fun b₁ =>
        decide (b₁.1.kernel.runningTask? = some ⟨0⟩) && decide (b₁.1.hart.regs.get .a7 = 0) &&
        returns (b₁.1.trap (Config.machine false) Handlers.default () (.environmentCall 11) 0)
          fun b₂ => decide (b₂.1.kernel.runningTask? = some ⟨1⟩) &&
            returns (b₂.1.trap (Config.machine false) Handlers.default () .timer 0)
              fun b₃ => decide (b₃.1.kernel.runningTask? = some ⟨0⟩))
    (by decide +kernel)
  simp only [Bool.and_eq_true, decide_eq_true_eq] at hm
  obtain ⟨⟨hnesting, hany⟩, hm⟩ := hm
  obtain ⟨t, ht, hready⟩ := (Option.any_eq_true _ _).1 hany
  obtain ⟨⟨m₁, u₁⟩, htrap₁, hm⟩ := exists_of_returns hm
  simp only [Bool.and_eq_true, decide_eq_true_eq] at hm
  obtain ⟨⟨hran₁, hnumber⟩, hm⟩ := hm
  obtain ⟨⟨m₂, u₂⟩, htrap₂, hm⟩ := exists_of_returns hm
  simp only [Bool.and_eq_true, decide_eq_true_eq] at hm
  obtain ⟨hran₂, hm⟩ := hm
  obtain ⟨⟨m₃, u₃⟩, htrap₃, hran₃⟩ := exists_of_returns hm
  have hyield : (TrapCause.environmentCall 11).Yields m₁.hart.regs := by
    rw [TrapCause.Yields, hnumber]
    rfl
  have hsoftware : TrapCause.software.Yields m.hart.regs := trivial
  have htimer : TrapCause.timer.Yields m₂.hart.regs := trivial
  have hrounds : Rounds (Config.machine false) Handlers.default m () _ m₃ () :=
    ((Rounds.start.round (.refl m) hsoftware htrap₁).round (.refl m₁) hyield htrap₂).round
      (.refl m₂) htimer htrap₃
  have hrunnable : m.kernel.RunnableAt t.priority ⟨0⟩ :=
    ⟨t, ht, .inr (of_decide_eq_true hready), rfl⟩
  obtain ⟨log, hrecorded⟩ := (Recorded.initial () initial_small).play
    (Handlers.calling_default _ fun _ => True) hplay
  obtain ⟨p, lead, hleast, hcycle, -, hrotates⟩ := hrecorded.round_robin hnesting
    ⟨_, _, hrunnable⟩ Handlers.passive_default
  obtain ⟨hran, hturns⟩ := hrotates _ _ _ hrounds
  refine ⟨log, _, m, m₃, p, lead, hrecorded, hnesting, Handlers.passive_default, hrounds, ?_,
    hleast, hcycle, hran, (hturns (by simp)).1⟩
  rw [hran₁, hran₂, of_decide_eq_true hran₃]
  rfl

end Machine

end HartKernel
