import HartKernel.Proofs.Trap.Fatal
import HartKernel.Proofs.Trap.Rotation

/-!
# Requests for a dispatch coalesce

However many traps are stacked on an outermost trap, and however many of them ask
for a dispatch, the scheduler decides once, when the outermost trap is left.  The
traps in between leave the kernel alone but for the tick counter and the request,
so what the scheduler finds is what it would have found after a single software
interrupt.

Main definitions:

- `Machine.Amid` is what may happen while a trap is handled: work and traps that are
  entered, dispatched and left again, at any depth.
- `Machine.Nest` is an outermost trap with everything stacked on it.
- `Kernel.SameOutcome` compares what a scheduling decision has led to.

Main results:

- `Machine.Amid.asked`: what the inner traps leave behind.
- `Machine.Nest.implements`: what a nest does to the schedule.
- `Machine.Nest.coalesces`: a single software interrupt has the same outcome, and so has
  a single decision.
-/

namespace HartKernel

/-- The interrupts that ask for a dispatch. -/
def TrapCause.asks : TrapCause → Bool
  | .software | .timer => true
  | .external _ | .environmentCall _ | .exception _ => false

/-- Nothing is changed on any interrupt. -/
structure Handlers.Inert {σ : Type} {capacity levels : Nat}
    (handlers : Handlers σ capacity levels) : Prop where
  tick : handlers.Passive
  external : ∀ code k s k' s', (handlers.external code k s).result = .ok (k', s') → k' = k

theorem Handlers.inert_default {σ : Type} {capacity levels : Nat} :
    (default : Handlers σ capacity levels).Inert where
  tick := passive_default
  external _ _ _ _ _ h := by
    cases h
    rfl

/-! ## Schedules at another time -/

namespace Schedule

theorem makeReady_tick (s : Schedule) (tick : Word) (id : TaskId) :
    { s with tick := tick }.makeReady id = { s.makeReady id with tick := tick } := by
  have hlookup : { s with tick := tick }.lookup? id = s.lookup? id := rfl
  unfold makeReady
  rw [hlookup]
  cases s.lookup? id <;> rfl

theorem releaseCurrent_tick (s : Schedule) (tick : Word) (target : Option TaskId) :
    { s with tick := tick }.releaseCurrent target =
      { s.releaseCurrent target with tick := tick } := by
  obtain ⟨entries, ready, running, pending, time⟩ := s
  cases running with
  | none => rfl
  | some id =>
    have hready := makeReady_tick ⟨entries, ready, some id, pending, time⟩ tick id
    have hstate : state? ⟨entries, ready, some id, pending, tick⟩ id =
        state? ⟨entries, ready, some id, pending, time⟩ id := rfl
    simp only [releaseCurrent, hstate]
    split
    · rfl
    · split
      · exact hready
      · rfl

theorem engage_tick (s : Schedule) (tick : Word) (id : TaskId) :
    { s with tick := tick }.engage id = { s.engage id with tick := tick } := by
  have hlookup : { s with tick := tick }.lookup? id = s.lookup? id := rfl
  unfold engage dequeue
  rw [hlookup]
  cases s.lookup? id <;> rfl

/-- A decision does the same at any time. -/
theorem obey_tick (s : Schedule) (tick : Word) (decision : Decision) :
    { s with tick := tick }.obey decision = { s.obey decision with tick := tick } := by
  match decision with
  | .keep => rfl
  | .switchTo none =>
    simp only [obey, handOver, releaseCurrent_tick]
  | .switchTo (some id) =>
    simp only [obey, handOver, releaseCurrent_tick, engage_tick]

/-- The time of a request does not matter to what is decided. -/
theorem conclude_requestedAt {levels : Nat} (s : Schedule) (tick tick' : Word) :
    (s.requestedAt tick').conclude levels =
      { (s.requestedAt tick).conclude levels with tick := tick' } := by
  unfold conclude
  rw [if_pos (.inl rfl), if_pos (.inl rfl)]
  exact obey_tick (s.requestedAt tick).takeDispatch tick' ((s.requestedAt tick).decide levels)

end Schedule

/-! ## Kernels that differ in a request -/

namespace Kernel

variable {capacity levels : Nat} {k k' k'' : Kernel capacity levels} {s : Schedule} {a b : Bool}

/-- A kernel after some traps: the tick counter may have changed, and there is a
request for a dispatch if there was one or if one of the traps has asked. -/
def Asked (k : Kernel capacity levels) (asked : Bool) (k' : Kernel capacity levels) : Prop :=
  ∃ tick, k' = { k with dispatchPending := k.dispatchPending || asked, tick := tick }

namespace Asked

theorem refl (k : Kernel capacity levels) : k.Asked false k :=
  ⟨k.tick, by simp⟩

theorem trans (h : k.Asked a k') (h' : k'.Asked b k'') : k.Asked (a || b) k'' := by
  obtain ⟨tick, rfl⟩ := h
  obtain ⟨tick', rfl⟩ := h'
  exact ⟨tick', by simp [Bool.or_assoc]⟩

/-- A kernel that was asked stands for the same schedule with a request. -/
theorem implements (h : k.Asked true k') (himpl : k.Implements s) :
    ∃ tick, k'.Implements (s.requestedAt tick) := by
  obtain ⟨tick, rfl⟩ := h
  refine ⟨tick, himpl.entries, himpl.running, ?_, rfl, himpl.queue⟩
  simp [Schedule.requestedAt]

end Asked

/-- The outcome of a scheduling decision is the same in two kernels: the same tasks
are in the same states at the same priorities, the Ready tasks wait in the same
order, and the current task and the request are the same. -/
structure SameOutcome (k k' : Kernel capacity levels) : Prop where
  entries : k'.tasks.map Task.entry = k.tasks.map Task.entry
  ready : k'.readyTasks = k.readyTasks
  running : k'.running = k.running
  pending : k'.dispatchPending = k.dispatchPending

/-- Kernels that stand for the same schedule at different times have the same
outcome. -/
theorem Implements.sameOutcome {s' : Schedule} {tick : Word} (h : k.Implements s)
    (h' : k'.Implements s') (hsame : s' = { s with tick := tick }) : k.SameOutcome k' := by
  subst hsame
  exact {
    entries := h'.entries.symm.trans h.entries
    ready := h'.queue.toList_eq.trans h.queue.toList_eq.symm
    running := h'.running.symm.trans h.running
    pending := h'.pending.symm.trans h.pending }

/-- Whether a context can be loaded does not depend on the live registers. -/
theorem exists_restoreContext_of_ok {cfg : Config} {id : TaskId} {kind : FrameKind}
    {r r' : RegisterFile} (h : (k.restoreContext cfg.layouts r id).result = .ok (.ok kind, r'))
    (q : RegisterFile) : ∃ q', (k.restoreContext cfg.layouts q id).result = .ok (.ok kind, q') := by
  obtain ⟨t, ht, rfl, hframe⟩ := frameAt_of_restoreContext h
  exact ⟨_, restoreContext_eq ht hframe q⟩

/-- A Ready task whose context can be loaded can be switched to. -/
theorem Implements.exists_switchTo {cfg : Config} (h : k.Implements s) (hv : s.Valid levels)
    {target : Option TaskId} (hready : ∀ id, target = some id → s.state? id = some .ready)
    (hload : ∀ id, target = some id → ∃ r kind r',
      (k.restoreContext cfg.layouts r id).result = .ok (.ok kind, r')) (q : RegisterFile) :
    ∃ kind k' q', (k.switchTo cfg.layouts q target).result = .ok (.ok kind, k', q') := by
  obtain ⟨answer, k', q', hresult, hcases⟩ := h.switchTo hv cfg q target
  rcases hcases with ⟨e, -, -, hrefused⟩ | ⟨kind, rfl, -⟩
  · cases target with
    | none => cases hrefused
    | some id =>
      obtain ⟨r, kind, r', hrestore⟩ := hload id rfl
      obtain ⟨q₁, hrestored⟩ := exists_restoreContext_of_ok hrestore q
      have hcheck : k.checkTarget id = .ok () := by
        have hstate := hready id rfl
        rw [h.state?_eq, Option.map_eq_some_iff] at hstate
        obtain ⟨t, ht, hstate⟩ := hstate
        simp [checkTarget, ht, hstate]
      unfold loadTarget at hrefused
      simp only [hcheck, Traced.result_bind, hrestored, ok_bind] at hrefused
      cases hrefused
  · exact ⟨kind, k', q', hresult⟩

end Kernel

namespace Machine

variable {capacity levels : Nat} {σ : Type} {cfg : Config} {handlers : Handlers σ capacity levels}
variable {m m' : Machine capacity levels} {s s' : σ} {causes : List TrapCause} {sch : Schedule}

/-! ## What may happen while a trap is handled -/

/-- Whoever handles a trap works on the hart and on the interrupt stack, and is
interrupted by traps, which are entered, dispatched and left again with the same
going on in between.  The causes of these traps are listed. -/
inductive Amid (cfg : Config) (handlers : Handlers σ capacity levels) :
    List TrapCause → Machine capacity levels → σ → Machine capacity levels → σ → Prop where
  | done (m : Machine capacity levels) (s : σ) : Amid cfg handlers [] m s m s
  | work {causes : List TrapCause} {m m₁ : Machine capacity levels} {s s₁ : σ}
    (h : Amid cfg handlers causes m s m₁ s₁) (hart : Hart) :
    Amid cfg handlers causes m s { m₁ with hart := hart } s₁
  | write {causes : List TrapCause} {m m₁ : Machine capacity levels} {s s₁ : σ}
    (h : Amid cfg handlers causes m s m₁ s₁) (index : Nat) (w : Word) :
    Amid cfg handlers causes m s { m₁ with interruptStack := m₁.interruptStack.put index w } s₁
  | trap {causes before after : List TrapCause} {m m₁ m₂ m₃ m₄ m₅ m₆ : Machine capacity levels}
    {s s₁ s₃ s₄ s₅ s₆ : σ} {cause : TrapCause} {value : Word} {hart : Hart} {context : TrapContext}
    (h : Amid cfg handlers causes m s m₁ s₁) (hinterrupt : cause.isInterrupt = true)
    (hraise : (m₁.hart.raise cfg cause value).result = .ok hart)
    (hentry : (({ m₁ with hart := hart } : Machine capacity levels).entry cfg).result =
      .ok (.ok context, m₂))
    (hbefore : Amid cfg handlers before m₂ s₁ m₃ s₃)
    (hdispatch : (m₃.dispatch cfg handlers s₃ context).result = .ok (.ok (), m₄, s₄))
    (hafter : Amid cfg handlers after m₄ s₄ m₅ s₅)
    (hexit : (m₅.exit cfg handlers s₅).result = .ok (.ok (), m₆, s₆)) :
    Amid cfg handlers (causes ++ cause :: (before ++ after)) m s
      { m₆ with hart := m₆.hart.exceptionReturn cfg } s₆

/-- A trap is taken, and everything stacked on it is over when it is left.  The causes
of all these traps are listed. -/
inductive Nest (cfg : Config) (handlers : Handlers σ capacity levels) :
    List TrapCause → Machine capacity levels → σ → Machine capacity levels → σ → Prop where
  | intro {before after : List TrapCause} {m m₁ m₂ m₃ m₄ m₅ : Machine capacity levels}
    {s s₂ s₃ s₄ s₅ : σ} {cause : TrapCause} {value : Word} {hart : Hart} {context : TrapContext}
    (hinterrupt : cause.isInterrupt = true)
    (hraise : (m.hart.raise cfg cause value).result = .ok hart) (hmasked : hart.Masked cfg)
    (hentry : (({ m with hart := hart } : Machine capacity levels).entry cfg).result =
      .ok (.ok context, m₁))
    (hbefore : Amid cfg handlers before m₁ s m₂ s₂)
    (hdispatch : (m₂.dispatch cfg handlers s₂ context).result = .ok (.ok (), m₃, s₃))
    (hafter : Amid cfg handlers after m₃ s₃ m₄ s₄)
    (hexit : (m₄.exit cfg handlers s₄).result = .ok (.ok (), m₅, s₅)) :
    Nest cfg handlers (cause :: (before ++ after)) m s
      { m₅ with hart := m₅.hart.exceptionReturn cfg } s₅

/-- A trap on which nothing is stacked. -/
theorem Amid.of_trap {cause : TrapCause} {value : Word} (hinterrupt : cause.isInterrupt = true)
    (h : (m.trap cfg handlers s cause value).result = .ok (.ok (), m', s')) :
    Amid cfg handlers [cause] m s m' s' := by
  obtain ⟨hart, context, m₁, m₂, s₂, m₃, hraise, hentry, hdispatch, hexit, rfl⟩ := trap_cases h
  exact (Amid.done m s).trap hinterrupt hraise hentry (.done m₁ s) hdispatch (.done m₂ s₂) hexit

/-- Dispatching an interrupt may ask for a dispatch, and does nothing else to the
kernel but count. -/
theorem asked_of_dispatched (hinert : handlers.Inert) {frame : SavedFrame} {cause : TrapCause}
    (hinterrupt : cause.isInterrupt = true)
    (h : Dispatched cfg handlers m m' s s' frame cause) :
    m.kernel.Asked cause.asks m'.kernel := by
  cases h with
  | software hkernel hs => exact ⟨m.kernel.tick, by simp [hkernel, Kernel.requestDispatch,
      TrapCause.asks]⟩
  | timer kernel htick hkernel =>
    obtain rfl := hinert.tick _ _ _ _ _ htick
    exact ⟨m.kernel.tick + 1, by simp [hkernel, Kernel.requestDispatch, Kernel.advanceTick,
      TrapCause.asks]⟩
  | external code hexternal =>
    rw [hinert.external _ _ _ _ _ hexternal]
    exact .refl _
  | environmentCall => cases hinterrupt

/-- A trap that interrupts a handler is entered without the kernel. -/
theorem kernel_of_interrupted {k : Kernel capacity levels} {frame : SavedFrame}
    (hnesting : 0 < m.nesting) (h : Interrupted cfg m k frame) : k = m.kernel := by
  cases h with
  | handler sp hnested hkernel => exact hkernel
  | idle hnested hsp hrunning hkernel => omega
  | task id sp hnested hsp hrunning hsave => omega

/-- What goes on around the dispatch of an interrupt and the dispatch itself, taken
together. -/
theorem asked_of_handled {m₁ m₂ m₃ m₄ : Machine capacity levels} {s₂ s₃ : σ}
    {context : TrapContext} {a b : Bool} (hinert : handlers.Inert)
    (hinterrupt : context.cause.isInterrupt = true)
    (hbefore : m₂.nesting = m₁.nesting ∧ m₁.kernel.Asked a m₂.kernel)
    (hdispatch : (m₂.dispatch cfg handlers s₂ context).result = .ok (.ok (), m₃, s₃))
    (hafter : m₄.nesting = m₃.nesting ∧ m₃.kernel.Asked b m₄.kernel) :
    m₄.nesting = m₁.nesting ∧ m₁.kernel.Asked (context.cause.asks || (a || b)) m₄.kernel := by
  obtain ⟨hdispatched, hnesting, -⟩ := dispatch_cases hdispatch
  have hasked := asked_of_dispatched hinert hinterrupt hdispatched
  refine ⟨hafter.1.trans (hnesting.trans hbefore.1), ?_⟩
  rw [Bool.or_left_comm]
  exact hbefore.2.trans (hasked.trans hafter.2)

/-- Whatever happens while a trap is handled, the nesting level is the same again,
and the kernel was asked for a dispatch if one of the traps asks for one. -/
theorem Amid.asked (hinert : handlers.Inert) (h : Amid cfg handlers causes m s m' s')
    (hnesting : 0 < m.nesting) :
    m'.nesting = m.nesting ∧ m.kernel.Asked (causes.any TrapCause.asks) m'.kernel := by
  induction h with
  | done m s => exact ⟨rfl, .refl _⟩
  | work h hart ih => exact ih hnesting
  | write h index w ih => exact ih hnesting
  | @trap causes before after m m₁ m₂ m₃ m₄ m₅ m₆ s s₁ s₃ s₄ s₅ s₆ cause value hart context h
      hinterrupt hraise hentry hbefore hdispatch hafter hexit ih ihbefore ihafter =>
    obtain ⟨hnesting₁, hasked₁⟩ := ih hnesting
    obtain ⟨hdecoded, hinterrupted, hnesting₂, -⟩ := entry_cases hentry
    have hcause : context.cause = cause := hdecoded.trans (Hart.decode_raise hraise)
    dsimp only at hnesting₂
    have hkernel₂ : m₂.kernel = m₁.kernel :=
      kernel_of_interrupted (m := { m₁ with hart := hart }) (hnesting₁ ▸ hnesting) hinterrupted
    obtain ⟨-, hnesting₄, -⟩ := dispatch_cases hdispatch
    have hbefore := ihbefore (by omega)
    obtain ⟨hnesting₅, hasked₅⟩ := asked_of_handled hinert (hcause ▸ hinterrupt) hbefore hdispatch
      (ihafter (by omega))
    obtain ⟨hleft, ⟨-, hkernel₆, -⟩ | ⟨hzero, -⟩⟩ := exit_cases hexit
    · change m₆.nesting = m.nesting ∧ m.kernel.Asked _ m₆.kernel
      refine ⟨by omega, ?_⟩
      rw [hkernel₆, List.any_append, List.any_cons, List.any_append, ← hcause]
      exact hasked₁.trans (hkernel₂ ▸ hasked₅)
    · omega

/-! ## The same context interrupted by another trap -/

variable {frame : SavedFrame} {context : TrapContext} {hart : Hart}

/-- What the hart reports about an outermost trap does not matter when the interrupted
context is saved. -/
theorem saveInterrupted_hart (hnesting : m.nesting = 0) (hregs : hart.regs = m.hart.regs)
    (h : (m.saveInterrupted cfg).result = .ok (.ok frame, m')) :
    (({ m with hart := hart } : Machine capacity levels).saveInterrupted cfg).result =
      .ok (.ok frame, { m' with hart := hart }) := by
  unfold saveInterrupted at h ⊢
  dsimp only
  rw [if_neg (by omega)] at h ⊢
  rw [hregs]
  split at h
  · rename_i hsp
    rw [if_pos hsp]
    obtain ⟨u, hrequire, h⟩ := Traced.bind_eq_ok.1 h
    cases h
    rw [Traced.result_bind, hrequire]
    rfl
  · rename_i hsp
    rw [if_neg hsp]
    unfold saveTask at h ⊢
    split at h
    · cases h
    · rename_i id hrunning
      obtain ⟨⟨saved, k⟩, hsave, h⟩ := Traced.bind_eq_ok.1 h
      cases saved with
      | error e => cases h
      | ok sp =>
        cases h
        simp only [hrunning, hregs, Traced.result_bind, hsave, ok_bind]
        rfl

/-- If an outermost trap can be entered, so can any other trap that interrupts the
same context. -/
theorem exists_entry_hart (hnesting : m.nesting = 0) (hregs : hart.regs = m.hart.regs)
    (h : (m.entry cfg).result = .ok (.ok context, m')) :
    ∃ m'' slot, (({ m with hart := hart } : Machine capacity levels).entry cfg).result =
        .ok (.ok ⟨TrapCause.decode hart.cause cfg.level, context.frame⟩, m'') ∧
      m''.kernel = m'.kernel ∧ m''.Installed slot ∧ m''.nesting = 1 := by
  unfold entry at h
  obtain ⟨⟨saved, m₁⟩, hsave, h⟩ := Traced.bind_eq_ok.1 h
  cases saved with
  | error d => cases h
  | ok frame =>
    obtain ⟨⟨installed, m₂⟩, hinstall, h⟩ := Traced.bind_eq_ok.1 h
    cases installed with
    | error d => cases h
    | ok u =>
      cases h
      have hnesting₁ : m₁.nesting = 0 :=
        (saves_of_saveInterrupted hsave).nesting.trans hnesting
      have hinstalls := installs_of_installStack hinstall
      -- both traps find the same interrupt stack, so the other one can be installed, too
      obtain ⟨m₃, hinstall₃⟩ : ∃ m₃,
          (({ m₁ with hart := hart } : Machine capacity levels).installStack frame).result =
            .ok (.ok (), m₃) := by
        cases hinstalls with
        | nested hnested => omega
        | outermost slot stack _ hslot hwrite =>
          have hslot₃ : ({ m₁ with hart := hart } : Machine capacity levels).backgroundSlot =
              .ok slot := hslot
          unfold installStack
          dsimp only
          rw [if_neg (by omega), Traced.result_bind, hslot₃, Traced.result_lift, ok_bind, hwrite]
          exact ⟨_, rfl⟩
      have hinstalls₃ := installs_of_installStack hinstall₃
      have hinstalled := hinstalls₃.installed hnesting₁
      refine ⟨m₃.deepen, _, ?_, hinstalls₃.kernel.trans hinstalls.kernel.symm,
        ⟨hinstalled.place, rfl, hinstalled.readable⟩, ?_⟩
      · unfold entry
        rw [Traced.result_bind, saveInterrupted_hart hnesting hregs hsave, ok_bind,
          Traced.result_bind, hinstall₃]
        rfl
      · exact congrArg Nat.succ (hinstalls₃.nesting.trans hnesting₁)

/-- A task that the outermost exit chooses is Ready. -/
theorem ready_of_exitDecision {k : Kernel capacity levels} {requested : Bool}
    {target : Option TaskId} {id : TaskId} (himpl : k.Implements sch) (hv : sch.Valid levels)
    (h : exitDecision k requested = .ok (.switchTo target)) (hid : target = some id) :
    sch.state? id = some .ready := by
  unfold exitDecision at h
  split at h
  · rw [himpl.decide_eq, Except.ok.injEq] at h
    exact hv.ready_of_decide h hid
  · cases h

theorem exists_resumeBackground_of_ok {id : TaskId} {r r' : RegisterFile}
    (h : (m.kernel.restoreContext cfg.layouts r id).result = .ok (.ok .interrupted, r')) :
    ∃ m', (m.resumeBackground cfg id).result = .ok (.ok (), m') := by
  obtain ⟨q, hload⟩ := Kernel.exists_restoreContext_of_ok h m.hart.regs
  refine ⟨{ m with hart := { m.hart with regs := q } }, ?_⟩
  unfold resumeBackground
  rw [Traced.result_bind, hload]
  simp [Panic.require_of]

theorem exists_resumeChosen_of_ok {target : Option TaskId} (himpl : m.kernel.Implements sch)
    (hv : sch.Valid levels) (hready : ∀ id, target = some id → sch.state? id = some .ready)
    (hload : ∀ id, target = some id → ∃ r kind r',
      (m.kernel.restoreContext cfg.layouts r id).result = .ok (.ok kind, r')) (s : σ) :
    ∃ m' s', (m.resumeChosen cfg handlers s target).result = .ok (.ok (), m', s') := by
  obtain ⟨kind, k', q, hswitch⟩ := himpl.exists_switchTo hv hready hload m.hart.regs
  unfold resumeChosen
  rw [Traced.result_bind, hswitch, ok_bind]
  rcases kind with - | (- | -) <;> exact ⟨_, _, rfl⟩

/-- If an outermost trap can be left, so can any other one whose kernel differs in
nothing but the tick counter. -/
theorem exists_exit_of_ok {m₁ : Machine capacity levels} {slot tick : Word}
    (h : (m.exit cfg handlers s).result = .ok (.ok (), m', s')) (hnesting : m.nesting = 1)
    (himpl : m.kernel.Implements sch) (hv : sch.Valid levels)
    (hkernel : m.kernel = { m₁.kernel with tick := tick }) (hinstalled : m₁.Installed slot)
    (hnesting₁ : m₁.nesting = 1) (s₁ : σ) :
    ∃ m₂ s₂, (m₁.exit cfg handlers s₁).result = .ok (.ok (), m₂, s₂) := by
  obtain ⟨hleft, ⟨hnested, -⟩ | ⟨-, decision, hdecision, hresumed⟩⟩ := exit_cases h
  · omega
  rw [hkernel] at himpl hdecision hresumed
  have himpl₁ : m₁.kernel.Implements { sch with tick := m₁.kernel.tick } :=
    ⟨himpl.entries, himpl.running, himpl.pending, rfl, himpl.queue⟩
  have htaken : m₁.kernel.takeDispatch.2.Implements _ := himpl₁.takeDispatch
  have hv₁ : ({ sch with tick := m₁.kernel.tick } : Schedule).Valid levels := hv.congr rfl rfl rfl
  have hvtaken := hv₁.takeDispatch
  have hdecision₁ :
      exitDecision m₁.kernel.takeDispatch.2 m₁.kernel.dispatchPending = .ok decision := hdecision
  obtain ⟨m₂, hleave⟩ := exists_leaveStack (m := { m₁ with nesting := m₁.nesting - 1 })
    ⟨hinstalled.place, hinstalled.sp, hinstalled.readable⟩
  have hkernel₂ := (leaves_of_leaveStack hleave).kernel
  dsimp only at hkernel₂
  unfold exit
  rw [Traced.result_bind, Traced.result_lift, Panic.require_of (by omega), ok_bind]
  dsimp only
  rw [if_neg (by omega)]
  unfold exitOutermost
  rw [Traced.result_bind, hleave, ok_bind]
  dsimp only
  rw [Traced.result_bind, Traced.result_lift, hkernel₂]
  change ∃ m₂ s₂, (exitDecision m₁.kernel.takeDispatch.2 m₁.kernel.dispatchPending >>= _) = _
  rw [hdecision₁, ok_bind]
  cases hresumed with
  | background id r hrunning hload hk hidle hs =>
    have hrunning₁ : m₁.kernel.takeDispatch.2.runningTask? = some id := hrunning
    obtain ⟨m₃, hresume⟩ := exists_resumeBackground_of_ok
      (m := { m₂ with kernel := m₁.kernel.takeDispatch.2 }) hload
    refine ⟨m₃, s₁, ?_⟩
    simp only [hrunning₁]
    rw [Traced.result_bind, hresume]
    rfl
  | task id kind r loaded hload hk hregs hidle hs =>
    refine exists_resumeChosen_of_ok (m := { m₂ with kernel := m₁.kernel.takeDispatch.2 }) htaken
      hvtaken (fun j hj => ready_of_exitDecision htaken hvtaken hdecision₁ hj) (fun j hj => ?_) s₁
    cases hj
    exact ⟨r, kind, loaded, hload⟩
  | idle hk hsp hidle hs =>
    exact exists_resumeChosen_of_ok (m := { m₂ with kernel := m₁.kernel.takeDispatch.2 }) htaken
      hvtaken (fun j hj => absurd hj (Option.some_ne_none j).symm)
      (fun j hj => absurd hj (Option.some_ne_none j).symm) s₁

/-! ## A nest and a single trap -/

/-- While the outermost trap of a nest is handled, the kernel is asked for a dispatch
and for nothing else. -/
theorem asked_of_nest {before after : List TrapCause} {m₁ m₂ m₃ m₄ : Machine capacity levels}
    {s₁ s₂ s₃ s₄ : σ} {cause : TrapCause} {value : Word} (hinert : handlers.Inert)
    (hasks : (cause :: (before ++ after)).any TrapCause.asks = true) (hnesting : m.nesting = 0)
    (hinterrupt : cause.isInterrupt = true)
    (hraise : (m.hart.raise cfg cause value).result = .ok hart)
    (hentry : (({ m with hart := hart } : Machine capacity levels).entry cfg).result =
      .ok (.ok context, m₁))
    (hbefore : Amid cfg handlers before m₁ s₁ m₂ s₂)
    (hdispatch : (m₂.dispatch cfg handlers s₂ context).result = .ok (.ok (), m₃, s₃))
    (hafter : Amid cfg handlers after m₃ s₃ m₄ s₄) :
    m₄.nesting = 1 ∧ m₁.kernel.Asked true m₄.kernel := by
  obtain ⟨hdecoded, -, hnesting₁, -⟩ := entry_cases hentry
  have hcause : context.cause = cause := hdecoded.trans (Hart.decode_raise hraise)
  dsimp only at hnesting₁
  obtain ⟨-, hnesting₃, -⟩ := dispatch_cases hdispatch
  have hbefore₂ := hbefore.asked hinert (by omega)
  obtain ⟨hnesting₄, hasked⟩ := asked_of_handled hinert (hcause ▸ hinterrupt) hbefore₂ hdispatch
    (hafter.asked hinert (by omega))
  rw [hcause, ← List.any_append, ← List.any_cons, hasks] at hasked
  exact ⟨by omega, hasked⟩

namespace Nest

/-- A nest in which a trap asks for a dispatch makes the scheduler decide once, on
what the outermost trap has found. -/
theorem implements (hinert : handlers.Inert) (himpl : m.kernel.Implements sch)
    (hv : sch.Valid levels) (hnesting : m.nesting = 0)
    (hasks : causes.any TrapCause.asks = true) (h : Nest cfg handlers causes m s m' s') :
    m'.nesting = 0 ∧ ∃ tick, m'.kernel.Implements ((sch.requestedAt tick).conclude levels) := by
  cases h with
  | @intro before after _ m₁ m₂ m₃ m₄ m₅ _ s₂ s₃ s₄ s₅ cause value hart context hinterrupt hraise
      hmasked hentry hbefore hdispatch hafter hexit =>
    obtain ⟨hnesting₄, hasked⟩ := asked_of_nest hinert hasks hnesting hinterrupt hraise hentry
      hbefore hdispatch hafter
    obtain ⟨-, hinterrupted, -⟩ := entry_cases hentry
    obtain ⟨tick, himpl₄⟩ := hasked.implements (hinterrupted.implements himpl)
    have hv₄ : (sch.requestedAt tick).Valid levels := hv.congr rfl rfl rfl
    obtain ⟨hleft, ⟨hnested, -⟩ | ⟨hzero, decision, hdecision, hresumed⟩⟩ := exit_cases hexit
    · omega
    · exact ⟨hzero, tick, (himpl₄.conclude hv₄ hdecision (obey_of_resumed hresumed)).1⟩

/-- If a nest in which a trap asks for a dispatch is over at some time, a single
software interrupt would have been handled. -/
theorem exists_software (hinert : handlers.Inert) (himpl : m.kernel.Implements sch)
    (hv : sch.Valid levels) (hnesting : m.nesting = 0)
    (hasks : causes.any TrapCause.asks = true) (h : Nest cfg handlers causes m s m' s')
    (value : Word) :
    ∃ m'' s'', (m.trap cfg handlers s .software value).result = .ok (.ok (), m'', s'') := by
  cases h with
  | @intro before after _ m₁ m₂ m₃ m₄ m₅ _ s₂ s₃ s₄ s₅ cause value' hart context hinterrupt hraise
      hmasked hentry hbefore hdispatch hafter hexit =>
    obtain ⟨hnesting₄, hasked⟩ := asked_of_nest hinert hasks hnesting hinterrupt hraise
      hentry hbefore hdispatch hafter
    obtain ⟨-, hinterrupted, -⟩ := entry_cases hentry
    obtain ⟨tick, himpl₄⟩ := hasked.implements (hinterrupted.implements himpl)
    obtain ⟨tick₄, hkernel₄⟩ := hasked
    -- the software interrupt finds the same registers, and so it is entered as well
    have hcanonical : TrapCause.software.Canonical cfg.level := trivial
    obtain ⟨hart', hraise'⟩ := Hart.exists_raise hcanonical m.hart value
    have hregs : hart'.regs = hart.regs :=
      (Hart.raise_cases hraise').2.2.2.trans (Hart.raise_cases hraise).2.2.2.symm
    obtain ⟨n₁, slot, hentry', hkernel₁, hinstalled, hnesting₁⟩ :=
      exists_entry_hart (m := { m with hart := hart }) hnesting hregs hentry
    rw [Hart.decode_raise hraise'] at hentry'
    have hdispatch' : ∃ n₂, (n₁.dispatch cfg handlers s ⟨.software, context.frame⟩).result =
        .ok (.ok (), n₂, s) ∧ n₂.kernel = n₁.kernel.requestDispatch ∧ n₂.Installed slot ∧
        n₂.nesting = 1 :=
      ⟨_, rfl, rfl, ⟨hinstalled.place, hinstalled.sp, hinstalled.readable⟩, hnesting₁⟩
    obtain ⟨n₂, hdispatch', hkernel₂, hinstalled₂, hnesting₂⟩ := hdispatch'
    -- it asks for the same dispatch, and so it can be left as well
    have hsame : m₄.kernel = { n₂.kernel with tick := tick₄ } := by
      rw [hkernel₄, hkernel₂, hkernel₁, Bool.or_true]
      rfl
    have hv₄ : (sch.requestedAt tick).Valid levels := hv.congr rfl rfl rfl
    obtain ⟨n₃, s₃', hexit'⟩ :=
      exists_exit_of_ok hexit hnesting₄ himpl₄ hv₄ hsame hinstalled₂ hnesting₂ s
    have hphases : (({ m with hart := hart' } : Machine capacity levels).phases cfg handlers
        s).result = .ok (.ok (), n₃, s₃') := by
      unfold phases
      rw [Traced.result_bind, hentry', ok_bind]
      dsimp only
      rw [Traced.result_bind, hdispatch', ok_bind]
      exact hexit'
    have hmasked' : hart'.Masked cfg := by
      rw [Hart.Masked, hregs]
      exact hmasked
    obtain ⟨n₄, hhandled, -⟩ := exists_handleTrap (m := { m with hart := hart' }) hmasked' hphases
    refine ⟨n₄, s₃', ?_⟩
    unfold trap
    rw [Traced.result_bind, hraise', ok_bind]
    exact hhandled

/-- Requests for a dispatch coalesce.  In any state of a system that handles no trap,
take a trap with any number of traps stacked on it, to any depth, while nothing
fails and no handler changes anything.  If one of all these interrupts asks for a
dispatch, then a single software interrupt in the same state has the same outcome
as all of them.  It is the outcome of one request and one decision in this state. -/
theorem coalesces {handlers₀ : Handlers σ capacity levels} {log : List (Option TaskId)} {s₀ : σ}
    (hrecorded : Recorded cfg handlers₀ log m s₀) (hnesting : m.nesting = 0)
    (hinert : handlers.Inert) (h : Nest cfg handlers causes m s m' s')
    (hasks : ∃ cause ∈ causes, cause = .software ∨ cause = .timer) (value : Word) :
    ∃ m'' s'' concluded,
      (m.trap cfg handlers s .software value).result = .ok (.ok (), m'', s'') ∧
      m'.nesting = 0 ∧ m''.nesting = 0 ∧ m''.kernel.SameOutcome m'.kernel ∧
      m.kernel.requestDispatch.conclude = .ok concluded ∧
      concluded.SameOutcome m'.kernel := by
  have hany : causes.any TrapCause.asks = true := by
    obtain ⟨cause, hmem, hcause⟩ := hasks
    refine List.any_eq_true.2 ⟨cause, hmem, ?_⟩
    rcases hcause with rfl | rfl <;> rfl
  obtain ⟨sch, himpl, hv, -⟩ := hrecorded.arranged
  obtain ⟨hnesting', tick', himpl'⟩ := h.implements hinert himpl hv hnesting hany
  obtain ⟨m'', s'', hsoftware⟩ := h.exists_software hinert himpl hv hnesting hany value
  have hyields : TrapCause.software.Yields m.hart.regs := trivial
  obtain ⟨hnesting'', tick'', himpl''⟩ :=
    implements_of_yields hinert.tick himpl hv hnesting hyields hsoftware
  obtain ⟨concluded, hconclude, himpl₁⟩ :=
    himpl.requestDispatch.exists_conclude hv.requestDispatch
  exact ⟨m'', s'', concluded, hsoftware, hnesting', hnesting'',
    himpl''.sameOutcome himpl' (Schedule.conclude_requestedAt sch tick'' tick'), hconclude,
    himpl₁.sameOutcome himpl' (Schedule.conclude_requestedAt sch sch.tick tick')⟩

/-- The running task is interrupted by a device.  Its handler is interrupted by the
timer and then by a software interrupt, and yet the two tasks change places once. -/
theorem coalesces_two :
    ∃ (log : List (Option TaskId)) (m m' m'' : Machine 4 4) (concluded : Kernel 4 4),
      Recorded (Config.machine false) (Handlers.default : Handlers Unit 4 4) log m () ∧
      m.nesting = 0 ∧ (Handlers.default : Handlers Unit 4 4).Inert ∧
      Nest (Config.machine false) (Handlers.default : Handlers Unit 4 4)
        [.external 11, .timer, .software] m () m' () ∧
      (∃ cause ∈ [TrapCause.external 11, .timer, .software],
        cause = .software ∨ cause = .timer) ∧
      m.kernel.running = some ⟨0⟩ ∧ m'.kernel.running = some ⟨1⟩ ∧
      (m.trap (Config.machine false) (Handlers.default : Handlers Unit 4 4) () .software 0).result =
        .ok (.ok (), m'', ()) ∧
      m'.nesting = 0 ∧ m''.nesting = 0 ∧ m''.kernel.SameOutcome m'.kernel ∧
      m.kernel.requestDispatch.conclude = .ok concluded ∧
      concluded.SameOutcome m'.kernel := by
  obtain ⟨⟨m, u⟩, hplay, hm⟩ := exists_of_returns
    (x := small.play (Config.machine false) (Handlers.default : Handlers Unit 4 4) ()
      Move.launchTwo)
    (p := fun b => decide (b.1.nesting = 0 ∧ b.1.kernel.running = some ⟨0⟩) &&
      ends (b.1.hart.raise (Config.machine false) (.external 11) 0) fun hart =>
        decide (hart.Masked (Config.machine false)) &&
        ends (({ b.1 with hart := hart } : Machine 4 4).entry (Config.machine false)) fun c =>
          decide (c.1 = .ok ⟨.external 11, .task ⟨0⟩ 0x400100f0⟩) &&
          returns (c.2.trap (Config.machine false) (Handlers.default : Handlers Unit 4 4) ()
              .timer 0) fun b₂ =>
            returns (b₂.1.dispatch (Config.machine false) (Handlers.default : Handlers Unit 4 4) ()
                ⟨.external 11, .task ⟨0⟩ 0x400100f0⟩) fun b₃ =>
              returns (b₃.1.trap (Config.machine false) (Handlers.default : Handlers Unit 4 4) ()
                  .software 0) fun b₄ =>
                returns (b₄.1.exit (Config.machine false) (Handlers.default : Handlers Unit 4 4) ())
                  fun b₅ => decide (b₅.1.kernel.running = some ⟨1⟩)) (by decide +kernel)
  rw [Bool.and_eq_true, decide_eq_true_iff] at hm
  obtain ⟨⟨hnesting, hrunning⟩, hm⟩ := hm
  obtain ⟨hart, hraise, hm⟩ := exists_of_ends hm
  rw [Bool.and_eq_true, decide_eq_true_iff] at hm
  obtain ⟨hmasked, hm⟩ := hm
  obtain ⟨⟨entered, m₁⟩, hentry, hm⟩ := exists_of_ends hm
  rw [Bool.and_eq_true, decide_eq_true_iff] at hm
  obtain ⟨rfl, hm⟩ := hm
  obtain ⟨⟨m₂, u₂⟩, htimer, hm⟩ := exists_of_returns hm
  obtain ⟨⟨m₃, u₃⟩, hdispatch, hm⟩ := exists_of_returns hm
  obtain ⟨⟨m₄, u₄⟩, hsoftware, hm⟩ := exists_of_returns hm
  obtain ⟨⟨m₅, u₅⟩, hexit, hrunning₅⟩ := exists_of_returns hm
  have hnest : Nest (Config.machine false) (Handlers.default : Handlers Unit 4 4)
      [.external 11, .timer, .software] m () { m₅ with hart := m₅.hart.exceptionReturn _ } () :=
    .intro rfl hraise hmasked hentry (.of_trap rfl htimer) hdispatch (.of_trap rfl hsoftware) hexit
  have hasks : ∃ cause ∈ [TrapCause.external 11, .timer, .software],
      cause = .software ∨ cause = .timer := ⟨.timer, by simp, .inr rfl⟩
  obtain ⟨log, hrecorded⟩ := (Recorded.initial () initial_small).play
    (Handlers.calling_default _ fun _ => True) hplay
  obtain ⟨m'', u'', concluded, hsingle, hzero, hzero', hsame, hconclude, hdecided⟩ :=
    hnest.coalesces hrecorded hnesting Handlers.inert_default hasks 0
  exact ⟨log, m, _, m'', concluded, hrecorded, hnesting, Handlers.inert_default, hnest, hasks,
    hrunning, of_decide_eq_true hrunning₅, hsingle, hzero, hzero', hsame, hconclude, hdecided⟩

end Nest

end Machine

end HartKernel
