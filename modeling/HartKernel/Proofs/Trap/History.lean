import HartKernel.Proofs.Kernel.History
import HartKernel.Proofs.Trap.Reach

/-!
# First come, first served

Whatever happens to a system, the Ready tasks are listed by priority, and tasks of
equal priority in the order in which they were last put at the back of their
level.  Tasks may write anything to memory, handlers may make any calls, and
calls and phases of traps may be refused.

Main definitions:

- `Machine.Step` is a step of a system, with a record of who it puts at the back.
- `Machine.Recorded` says that steps lead to a state of a system, and keeps the
  record of all of them.
- `Kernel.InOrder` says that the Ready tasks are listed in the order of a record.

Main results:

- `Machine.Step.follows`: a step changes the ready queue as its record tells.
- `Machine.Recorded.play`: every run has a record.
- `Machine.Recorded.first_come`: the Ready tasks are always listed in the order of
  the record, and a step does not change the order of the tasks that it does not
  put at the back.
-/

namespace HartKernel

/-! ## Lists in the order of a record -/

namespace Kernel

variable {capacity levels : Nat} {k k' : Kernel capacity levels} {s : Schedule}
variable {log : List (Option TaskId)} {ready : List TaskId}

/-- Of two tasks the first one is more urgent, or was put at the back of their
common level earlier. -/
def Before (k : Kernel capacity levels) (log : List (Option TaskId)) (a b : TaskId) : Prop :=
  ∃ t u, k.task? a = some t ∧ k.task? b = some u ∧
    (t.priority < u.priority ∨ t.priority = u.priority ∧ lastPlaced a log < lastPlaced b log)

/-- The Ready tasks are listed, once each and in the order of a record that knows
all of them. -/
structure InOrder (k : Kernel capacity levels) (log : List (Option TaskId))
    (ready : List TaskId) : Prop where
  listed : k.readyTasks = .ok ready
  nodup : ready.Nodup
  mem : ∀ id, id ∈ ready ↔ (k.task? id).map Task.state = some .ready
  recorded : ∀ id ∈ ready, some id ∈ log
  order : ready.Pairwise (k.Before log)

theorem Before.asymm {a b : TaskId} (h : k.Before log a b) : ¬k.Before log b a := by
  obtain ⟨t, u, ht, hu, hlt⟩ := h
  rintro ⟨u', t', hu', ht', hlt'⟩
  rw [ht, Option.some.injEq] at ht'
  rw [hu, Option.some.injEq] at hu'
  subst ht' hu'
  omega

/-- Of two listed tasks the first one comes first. -/
theorem InOrder.idxOf_lt_iff (h : k.InOrder log ready) {a b : TaskId} (ha : a ∈ ready)
    (hb : b ∈ ready) : ready.idxOf a < ready.idxOf b ↔ k.Before log a b := by
  have hbefore : ∀ {a b : TaskId}, a ∈ ready → b ∈ ready → ready.idxOf a < ready.idxOf b →
      k.Before log a b := by
    intro a b ha hb hlt
    have hpair := List.pairwise_iff_getElem.1 h.order _ _ (List.idxOf_lt_length_iff.2 ha)
      (List.idxOf_lt_length_iff.2 hb) hlt
    rwa [List.getElem_idxOf, List.getElem_idxOf] at hpair
  refine ⟨hbefore ha hb, fun hab => ?_⟩
  rcases Nat.lt_trichotomy (ready.idxOf a) (ready.idxOf b) with hlt | heq | hgt
  · exact hlt
  · rw [List.idxOf_inj ha] at heq
    exact absurd hab (heq ▸ hab.asymm)
  · exact absurd hab (hbefore hb ha hgt).asymm

/-- Lists that are arranged by a record are listed in its order. -/
theorem Implements.inOrder (h : k.Implements s) (hv : s.Valid levels)
    (harranged : s.ready.Arranged log) : k.InOrder log (s.ready.toList levels) where
  listed := h.queue.toList_eq
  nodup := hv.nodup_toList
  mem id := by rw [hv.mem_toList, h.state?_eq]
  recorded id hid := by
    obtain ⟨p, -, hp⟩ := List.mem_flatMap.1 hid
    exact harranged.placed p id hp
  order := by
    have htask : ∀ {p : Nat} {id : TaskId}, id ∈ s.ready p →
        ∃ t, k.task? id = some t ∧ t.priority = p := fun hid => h.queue.level _ _ hid
    -- between two levels the priority decides, and within a level the record does
    rw [Waiting.toList, List.pairwise_flatMap]
    refine ⟨fun p _ => (harranged.order p).imp_of_mem fun {a b} ha hb hlt => ?_, ?_⟩
    · obtain ⟨t, ht, hp⟩ := htask ha
      obtain ⟨u, hu, hp'⟩ := htask hb
      exact ⟨t, u, ht, hu, .inr ⟨hp.trans hp'.symm, hlt⟩⟩
    · refine List.pairwise_lt_range.imp fun {p p'} hlt a ha b hb => ?_
      obtain ⟨t, ht, rfl⟩ := htask ha
      obtain ⟨u, hu, rfl⟩ := htask hb
      exact ⟨t, u, ht, hu, .inl hlt⟩

/-- A kernel that meets the scheduler invariant, and whose Ready tasks wait in the
order of a record. -/
def Arranged (k : Kernel capacity levels) (log : List (Option TaskId)) : Prop :=
  ∃ s : Schedule, k.Implements s ∧ s.Valid levels ∧ s.ready.Arranged log

theorem Arranged.inOrder (h : k.Arranged log) (hready : k.readyTasks = .ok ready) :
    k.InOrder log ready := by
  obtain ⟨s, himpl, hv, harranged⟩ := h
  have horder := himpl.inOrder hv harranged
  rw [horder.listed] at hready
  cases hready
  exact horder

theorem Arranged.exists_inOrder (h : k.Arranged log) : ∃ ready, k.InOrder log ready := by
  obtain ⟨s, himpl, hv, harranged⟩ := h
  exact ⟨_, himpl.inOrder hv harranged⟩

theorem Arranged.follows {placed : List (Option TaskId)} (h : k.Arranged log)
    (hfollows : k.Follows placed k') : k'.Arranged (placed ++ log) := by
  obtain ⟨s, himpl, hv, harranged⟩ := h
  obtain ⟨s', himpl', hv', -, harranged'⟩ := hfollows s himpl hv
  exact ⟨s', himpl', hv', harranged' log harranged⟩

/-- A Ready task that is not in the record of what happened was Ready before, at
the same level. -/
theorem Arranged.ready_before {placed : List (Option TaskId)} {a : TaskId} {t : Task}
    (h : k.Arranged log) (hfollows : k.Follows placed k') (ht : k'.task? a = some t)
    (hready : t.state = .ready) (hnot : some a ∉ placed) :
    ∃ u, k.task? a = some u ∧ u.state = .ready ∧ u.priority = t.priority := by
  obtain ⟨s, himpl, hv, -⟩ := h
  obtain ⟨s', himpl', hv', hkeeps, -⟩ := hfollows s himpl hv
  have hwaits : a ∈ s'.ready t.priority :=
    (hv'.mem_ready (himpl'.lookup?_of_task? ht)).2 ⟨hready, rfl⟩
  have hwaited : a ∈ s.ready t.priority := hkeeps _ _ hwaits hnot
  obtain ⟨e, he, hstate, hpriority⟩ := (hv.ready a _).1 hwaited
  rw [himpl.lookup?_eq, Option.map_eq_some_iff] at he
  obtain ⟨u, hu, rfl⟩ := he
  exact ⟨u, hu, hstate, hpriority⟩

/-- Two Ready tasks that are not in the record of what happened were listed
before, and in the same order. -/
theorem Arranged.idxOf_lt_iff {placed : List (Option TaskId)} {ready' : List TaskId} {a b : TaskId}
    (h : k.Arranged log) (hfollows : k.Follows placed k') (hready : k.readyTasks = .ok ready)
    (hready' : k'.readyTasks = .ok ready') (ha : a ∈ ready') (hb : b ∈ ready')
    (hnota : some a ∉ placed) (hnotb : some b ∉ placed) :
    a ∈ ready ∧ b ∈ ready ∧
      (ready.idxOf a < ready.idxOf b ↔ ready'.idxOf a < ready'.idxOf b) := by
  have horder := h.inOrder hready
  have horder' := (h.follows hfollows).inOrder hready'
  obtain ⟨t, ht, hstate⟩ := Option.map_eq_some_iff.1 ((horder'.mem a).1 ha)
  obtain ⟨u, hu, hstate'⟩ := Option.map_eq_some_iff.1 ((horder'.mem b).1 hb)
  obtain ⟨t₀, ht₀, hstate₀, hpt⟩ := h.ready_before hfollows ht hstate hnota
  obtain ⟨u₀, hu₀, hstate₀', hpu⟩ := h.ready_before hfollows hu hstate' hnotb
  have ha₀ : a ∈ ready := (horder.mem a).2 (by rw [ht₀, Option.map_some, hstate₀])
  have hb₀ : b ∈ ready := (horder.mem b).2 (by rw [hu₀, Option.map_some, hstate₀'])
  refine ⟨ha₀, hb₀, ?_⟩
  rw [horder.idxOf_lt_iff ha₀ hb₀, horder'.idxOf_lt_iff ha hb]
  simp only [Before, ht, hu, ht₀, hu₀, Option.some.injEq, exists_and_left, exists_eq_left',
    lastPlaced_append hnota, lastPlaced_append hnotb, hpt, hpu]

end Kernel

/-! ## Steps of a system -/

/-- Calls have a record. -/
theorem Kernel.Calls.reaches {capacity levels : Nat} {k k' k'' : Kernel capacity levels}
    {cfg : Config} {allowed : KernelCall → Prop} {log : List (Option TaskId)}
    (h : k.Calls cfg log k') (hreach : k'.Reaches cfg allowed k'') :
    ∃ log', k.Calls cfg log' k'' := by
  induction hreach with
  | refl => exact ⟨log, h⟩
  | tail hreach hallowed hcall ih =>
    obtain ⟨log', h'⟩ := ih
    exact ⟨_, h'.call hcall⟩

namespace Machine

variable {capacity levels : Nat} {σ : Type} {cfg : Config} {handlers : Handlers σ capacity levels}
variable {m m' : Machine capacity levels} {s s' : σ}

/-- A step of a system: whoever holds the hart calls the kernel, changes registers
and memory, or a phase of a trap takes place, fatal or not.  The record tells,
newest first, who was put at the back of a level.  Dispatch may call the kernel
many times. -/
inductive Step (cfg : Config) (handlers : Handlers σ capacity levels) :
    Machine capacity levels → σ → List (Option TaskId) → Machine capacity levels → σ → Prop where
  | call {m : Machine capacity levels} {s : σ} {c : KernelCall} {ok : Bool}
    {kernel : Kernel capacity levels} {regs : RegisterFile}
    (hcall : (m.kernel.invoke cfg m.hart.regs c).result = .ok (ok, kernel, regs)) :
    Step cfg handlers m s [c.placed? m.kernel kernel ok]
      { m with kernel := kernel, hart := { m.hart with regs := regs } } s
  | work (m : Machine capacity levels) (s : σ) (hart : Hart) :
    Step cfg handlers m s [] { m with hart := hart } s
  | write (m : Machine capacity levels) (s : σ) (id : TaskId) (index : Nat) (v : Word) :
    Step cfg handlers m s [] { m with kernel := m.kernel.updateTask id fun t =>
      { t with stack := t.stack.put index v } } s
  | writeInterrupt (m : Machine capacity levels) (s : σ) (index : Nat) (v : Word) :
    Step cfg handlers m s [] { m with interruptStack := m.interruptStack.put index v } s
  | enter {m m' : Machine capacity levels} {answer : Except FatalTrap TrapContext} (s : σ)
    (hentry : (m.entry cfg).result = .ok (answer, m')) : Step cfg handlers m s [] m' s
  | dispatch {m m' : Machine capacity levels} {s s' : σ} {context : TrapContext}
    {answer : Except FatalTrap Unit} {placed : List (Option TaskId)}
    (hdispatch : (m.dispatch cfg handlers s context).result = .ok (answer, m', s'))
    (hcalls : m.kernel.Calls cfg placed m'.kernel) : Step cfg handlers m s placed m' s'
  | exit {m m' : Machine capacity levels} {s s' : σ} {answer : Except FatalTrap Unit}
    (hexit : (m.exit cfg handlers s).result = .ok (answer, m', s')) :
    Step cfg handlers m s [m.kernel.lost? m'.kernel] m' s'

/-- Steps lead from a machine without tasks to a state of a system.  The record
tells, newest first, who was put at the back of a level. -/
inductive Recorded (cfg : Config) (handlers : Handlers σ capacity levels) :
    List (Option TaskId) → Machine capacity levels → σ → Prop where
  | initial {interruptStack : StackRegion} {m : Machine capacity levels} (s : σ)
    (h : initial cfg capacity levels interruptStack = .ok m) : Recorded cfg handlers [] m s
  | step {log placed : List (Option TaskId)} {m m' : Machine capacity levels} {s s' : σ}
    (h : Recorded cfg handlers log m s) (hstep : Step cfg handlers m s placed m' s') :
    Recorded cfg handlers (placed ++ log) m' s'

/-! ## What phases of traps put at the back -/

theorem Interrupted.follows {k : Kernel capacity levels} {frame : SavedFrame}
    (h : Interrupted cfg m k frame) : m.kernel.Follows [] k :=
  .of_implements fun _ himpl _ => h.implements himpl

theorem follows_entry {answer : Except FatalTrap TrapContext}
    (h : (m.entry cfg).result = .ok (answer, m')) : m.kernel.Follows [] m'.kernel := by
  cases enters_of_entry h with
  | unsaved e => exact .refl _
  | uninstalled e hnested hsaves => exact hsaves.interrupted.follows
  | entered hsaves hinstalls => exact hinstalls.kernel ▸ hsaves.interrupted.follows

/-- An exit puts the task at the back that loses the processor while Running. -/
theorem follows_exit {answer : Except FatalTrap Unit}
    (h : (m.exit cfg handlers s).result = .ok (answer, m', s')) :
    m.kernel.Follows [m.kernel.lost? m'.kernel] m'.kernel := by
  have hsame : ∀ k : Kernel capacity levels, k.running = m.kernel.running →
      (∀ sch : Schedule, m.kernel.Implements sch → sch.Valid levels → ∃ sch' : Schedule,
        k.Implements sch' ∧ sch'.Valid levels ∧ sch'.ready = sch.ready) →
      m.kernel.Follows [m.kernel.lost? k] k := by
    intro k hrunning hk
    rw [Kernel.lost?_of_running hrunning]
    refine .of_requeues fun sch himpl hv => ?_
    obtain ⟨sch', himpl', hv', hready⟩ := hk sch himpl hv
    exact ⟨sch', himpl', hv', hready ▸ .refl _⟩
  have hkept := hsame m.kernel rfl fun sch himpl hv => ⟨sch, himpl, hv, rfl⟩
  have htaken := hsame m.kernel.takeDispatch.2 rfl fun sch himpl hv =>
    ⟨sch.takeDispatch, himpl.takeDispatch, hv.takeDispatch, rfl⟩
  cases answer with
  | error d =>
    rcases (exit_refused h).1 with hkernel | hkernel
    · rw [hkernel]
      exact hkept
    · rw [hkernel]
      exact htaken
  | ok u =>
    obtain ⟨-, ⟨-, hkernel, -⟩ | ⟨-, decision, hdecision, hresumed⟩⟩ := exit_cases h
    · rw [hkernel]
      exact hkept
    · refine .of_requeues fun sch himpl hv => ?_
      obtain ⟨himpl', -⟩ := himpl.conclude hv hdecision (obey_of_resumed hresumed)
      rw [← himpl.lost?_eq himpl']
      exact ⟨_, himpl', hv.conclude, hv.requeues_conclude⟩

/-- A step changes the ready queue as its record tells. -/
theorem Step.follows {placed : List (Option TaskId)} (h : Step cfg handlers m s placed m' s') :
    m.kernel.Follows placed m'.kernel := by
  cases h with
  | call hcall => exact Kernel.follows_invoke hcall
  | work => exact .refl _
  | write _ id index v => exact Kernel.follows_setStack id fun t => t.stack.put index v
  | writeInterrupt => exact .refl _
  | enter s hentry => exact follows_entry hentry
  | dispatch hdispatch hcalls => exact hcalls.follows
  | exit hexit => exact follows_exit hexit

/-! ## Runs have records -/

/-- What dispatch does to the kernel is done by calls, if handlers make calls
only. -/
theorem exists_calls_of_dispatched {frame : SavedFrame} {cause : TrapCause}
    {allowed : KernelCall → Prop} (hcalling : handlers.Calling cfg allowed)
    (h : Dispatched cfg handlers m m' s s' frame cause) :
    ∃ placed, m.kernel.Calls cfg placed m'.kernel := by
  -- every cause but an external interrupt ends with a request for a dispatch
  have hrequest : ∀ {placed : List (Option TaskId)} {k : Kernel capacity levels},
      m.kernel.Calls cfg placed k → m'.kernel = k.requestDispatch →
      ∃ placed, m.kernel.Calls cfg placed m'.kernel := by
    intro placed k hcalls hkernel
    have hcall : (k.invoke cfg m.hart.regs .requestDispatch).result =
        .ok (true, m'.kernel, m.hart.regs) := by
      rw [hkernel]
      rfl
    exact ⟨_, hcalls.call hcall⟩
  cases h with
  | software hkernel hs => exact hrequest (.refl _) hkernel
  | timer kernel htick hkernel =>
    have hcount : (m.kernel.invoke cfg m.hart.regs .advanceTick).result =
        .ok (true, m.kernel.advanceTick, m.hart.regs) := rfl
    have hticked := (Kernel.Calls.refl m.kernel).call hcount
    obtain ⟨placed, hcalls⟩ := hticked.reaches (hcalling.tick _ _ _ _ _ htick)
    exact hrequest hcalls hkernel
  | external code hexternal =>
    exact (Kernel.Calls.refl _).reaches (hcalling.external _ _ _ _ _ hexternal)
  | environmentCall code number argument pc result served accessed hserve haccess hkernel hs =>
    have hserved : m.kernel.Calls cfg _ served :=
      (Kernel.Calls.refl _).call (Kernel.invoke_serve hserve cfg m.hart.regs)
    cases haccess with
    | nested sp haccessed => exact hrequest (haccessed ▸ hserved) hkernel
    | task id sp t ht haccessed => exact hrequest (haccessed ▸ hserved.write id _) hkernel

namespace Recorded

variable {log : List (Option TaskId)} {allowed : KernelCall → Prop}

/-- A dispatch that goes well takes a step if handlers make calls only. -/
theorem dispatch (h : Recorded cfg handlers log m s) (hcalling : handlers.Calling cfg allowed)
    {context : TrapContext}
    (hdispatch : (m.dispatch cfg handlers s context).result = .ok (.ok (), m', s')) :
    ∃ log', Recorded cfg handlers log' m' s' := by
  obtain ⟨placed, hcalls⟩ := exists_calls_of_dispatched hcalling (dispatch_cases hdispatch).1
  exact ⟨_, h.step (.dispatch hdispatch hcalls)⟩

/-- A move that goes well takes steps if handlers make calls only. -/
theorem move (h : Recorded cfg handlers log m s) (hcalling : handlers.Calling cfg allowed)
    {mv : Move} {ok : Bool} (hmove : (m.move cfg handlers s mv).result = .ok (.ok ok, m', s')) :
    ∃ log', Recorded cfg handlers log' m' s' := by
  cases move_cases hmove with
  | call hcall => exact ⟨_, h.step (.call hcall)⟩
  | work hart => exact ⟨_, h.step (.work m s hart)⟩
  | write id index v => exact ⟨_, h.step (.write m s id index v)⟩
  | writeInterrupt index v => exact ⟨_, h.step (.writeInterrupt m s index v)⟩
  | enter hraise hentry => exact ⟨_, (h.step (.work m s _)).step (.enter s hentry)⟩
  | dispatch hdispatch => exact h.dispatch hcalling hdispatch
  | exit hexit => exact ⟨_, h.step (.exit hexit)⟩
  | trap htrap =>
    obtain ⟨hart, context, m₁, m₂, s₂, m₃, -, hentry, hdispatch, hexit, rfl⟩ := trap_cases htrap
    have hentered := (h.step (.work m s hart)).step (.enter s hentry)
    obtain ⟨log₂, h₂⟩ := hentered.dispatch hcalling hdispatch
    exact ⟨_, (h₂.step (.exit hexit)).step (.work m₃ s' _)⟩

/-- A run that goes well has a record if handlers make calls only. -/
theorem play (h : Recorded cfg handlers log m s) (hcalling : handlers.Calling cfg allowed)
    {moves : List Move} (hplay : (m.play cfg handlers s moves).result = .ok (.ok (), m', s')) :
    ∃ log', Recorded cfg handlers log' m' s' := by
  refine play_induction (P := fun _ m s => ∃ log, Recorded cfg handlers log m s) [] ?_ ⟨log, h⟩
    hplay
  rintro done mv m s ok m' s' - ⟨log, h⟩ hmove
  exact h.move hcalling hmove

end Recorded

/-- Three tasks of the same priority are created and activated, and the first one
is put behind the others by giving it the priority that it has. -/
def activateThree : List Move :=
  Move.startTwo.take 2 ++
    [.call (.create ⟨"c", 0x80000000, 0, 1⟩ ⟨0x40030000, .replicate 64 0, by decide, by decide⟩),
      .call (.activate ⟨0⟩), .call (.activate ⟨1⟩), .call (.activate ⟨2⟩),
      .call (.setPriority ⟨0⟩ 1)]

/-! ## The order of the ready queue -/

theorem Recorded.arranged {log : List (Option TaskId)} (h : Recorded cfg handlers log m s) :
    m.kernel.Arranged log := by
  induction h with
  | initial s hinitial =>
    exact ⟨_, implements_initial hinitial, Schedule.valid_initial, Waiting.arranged_empty⟩
  | step h hstep ih => exact ih.follows hstep.follows

/-- At any time the Ready tasks are listed by priority, and tasks of equal priority
in the order in which they were last put at the back of their level.  Whatever
the next step is, the tasks that are Ready after it and that it has not put at the
back were Ready before, and it has not changed their order. -/
theorem Recorded.first_come {log : List (Option TaskId)} (h : Recorded cfg handlers log m s) :
    (∃ ready, m.kernel.InOrder log ready) ∧
      ∀ placed m' s', Step cfg handlers m s placed m' s' →
        ∀ ready ready', m.kernel.readyTasks = .ok ready → m'.kernel.readyTasks = .ok ready' →
          ∀ a ∈ ready', ∀ b ∈ ready', some a ∉ placed → some b ∉ placed →
            a ∈ ready ∧ b ∈ ready ∧
              (ready.idxOf a < ready.idxOf b ↔ ready'.idxOf a < ready'.idxOf b) :=
  ⟨h.arranged.exists_inOrder, fun _ _ _ hstep _ _ hready hready' _ ha _ hb hnota hnotb =>
    h.arranged.idxOf_lt_iff hstep.follows hready hready' ha hb hnota hnotb⟩

/-- Blocking one of three tasks does not change the order of the other two. -/
theorem Recorded.first_come_reordered :
    ∃ (log placed : List (Option TaskId)) (m m' : Machine 4 4) (ready ready' : List TaskId),
      Recorded (Config.machine false) (Handlers.default : Handlers Unit 4 4) log m () ∧
      Step (Config.machine false) (Handlers.default : Handlers Unit 4 4) m () placed m' () ∧
      m.kernel.InOrder log ready ∧ ready = [⟨1⟩, ⟨2⟩, ⟨0⟩] ∧
      m'.kernel.readyTasks = .ok ready' ∧ ready' = [⟨1⟩, ⟨0⟩] ∧
      (ready.idxOf ⟨1⟩ < ready.idxOf ⟨0⟩ ↔ ready'.idxOf ⟨1⟩ < ready'.idxOf ⟨0⟩) := by
  obtain ⟨⟨m, u⟩, hplay, hm⟩ := exists_of_returns
    (x := small.play (Config.machine false) (Handlers.default : Handlers Unit 4 4) ()
      activateThree)
    (p := fun b => decide (b.1.kernel.readyTasks = .ok [⟨1⟩, ⟨2⟩, ⟨0⟩]) &&
      ends (b.1.kernel.invoke (Config.machine false) b.1.hart.regs (.markBlocked ⟨2⟩))
        fun answer => decide (answer.2.1.readyTasks = .ok [⟨1⟩, ⟨0⟩]))
    (by decide +kernel)
  obtain ⟨hready, hm⟩ := Bool.and_eq_true_iff.1 hm
  obtain ⟨⟨ok, k', r'⟩, hcall, hready'⟩ := exists_of_ends hm
  obtain ⟨log, hrecorded⟩ := (Recorded.initial () initial_small).play
    (Handlers.calling_default _ fun _ => True) hplay
  have hstep : Step (Config.machine false) (Handlers.default : Handlers Unit 4 4) m () [none]
      _ () := .call hcall
  obtain ⟨⟨ready, horder⟩, hkept⟩ := hrecorded.first_come
  have heq : ready = [⟨1⟩, ⟨2⟩, ⟨0⟩] :=
    Except.ok.inj (horder.listed.symm.trans (of_decide_eq_true hready))
  have hiff := hkept _ _ _ hstep _ _ horder.listed (of_decide_eq_true hready') ⟨1⟩ (by decide) ⟨0⟩
    (by decide) (by decide) (by decide)
  exact ⟨log, _, m, _, ready, _, hrecorded, hstep, horder, heq, of_decide_eq_true hready', rfl,
    hiff.2.2⟩

end Machine

end HartKernel
