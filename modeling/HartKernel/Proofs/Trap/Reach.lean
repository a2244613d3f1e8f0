import HartKernel.Proofs.Trap.EnvironmentCall
import HartKernel.Proofs.Trap.Session

/-!
# Every task can be resumed

Whatever happens to a system, every task has a frame where its record says.
This includes operations and phases of traps that are refused: they undo or never
start what would damage a frame.

Main definitions:

- `Machine.Reached` says that a system can be in a state.

Main results:

- `Machine.entry_refused`, `Machine.dispatch_refused` and
  `Machine.exit_refused`: what a phase that is refused has done.
- `Machine.Reached.whole`: the kernel of a system is whole at any time.
- `Machine.Reached.resumable`: every task can be loaded, and no switch fails
  because of the frame of its target.
-/

namespace HartKernel

/-! ## Calls -/

/-- Calls of any kind keep a kernel whole. -/
theorem Kernel.Whole.reaches {capacity levels : Nat} {cfg : Config} {allowed : KernelCall → Prop}
    {k k' : Kernel capacity levels} (h : k.Whole cfg) (hreach : k.Reaches cfg allowed k') :
    k'.Whole cfg := by
  induction hreach with
  | refl => exact h
  | tail _ _ hcall ih => exact (ih.spares_invoke hcall).whole

theorem Kernel.Whole.takeDispatch {capacity levels : Nat} {cfg : Config}
    {k : Kernel capacity levels} (h : k.Whole cfg) : k.takeDispatch.2.Whole cfg := by
  obtain ⟨s, himpl, hvalid⟩ := h.scheduled
  exact ⟨⟨_, himpl.takeDispatch, hvalid.takeDispatch⟩,
    h.framed.of_sameContexts (k := k) (.refl _)⟩

namespace Machine

variable {capacity levels : Nat} {σ : Type} {cfg : Config} {handlers : Handlers σ capacity levels}
variable {m m' : Machine capacity levels} {s s' : σ} {d : FatalTrap}

/-! ## Phases that are refused -/

/-- An entry that is refused has saved a task at most. -/
theorem entry_refused (hentry : (m.entry cfg).result = .ok (.error d, m')) :
    (m'.kernel = m.kernel ∨ ∃ frame, Interrupted cfg m m'.kernel frame) ∧
      m'.nesting = m.nesting := by
  cases enters_of_entry hentry with
  | unsaved e => exact ⟨.inl rfl, rfl⟩
  | uninstalled e hnested hsaves => exact ⟨.inr ⟨_, hsaves.interrupted⟩, hsaves.nesting⟩

/-- A dispatch that is refused leaves the kernel, the hart and the handlers as they are.
It is no dispatch of a timer interrupt. -/
theorem dispatch_refused
    (hscheduled : ∃ sch : Schedule, m.kernel.Implements sch ∧ sch.Valid levels)
    {context : TrapContext}
    (hdispatch : (m.dispatch cfg handlers s context).result = .ok (.error d, m', s')) :
    m'.kernel = m.kernel ∧ m'.nesting = m.nesting ∧ m'.hart = m.hart ∧ s' = s ∧
      context.cause ≠ .timer := by
  unfold dispatch at hdispatch
  split at hdispatch
  · cases hdispatch
  · obtain ⟨⟨kernel, s₁⟩, -, hdispatch⟩ := Traced.bind_eq_ok.1 hdispatch
    cases hdispatch
  · obtain ⟨⟨kernel, s₁⟩, -, hdispatch⟩ := Traced.bind_eq_ok.1 hdispatch
    cases hdispatch
  · rename_i code hcause
    obtain ⟨⟨answer, m₁⟩, hcall, hdispatch⟩ := Traced.bind_eq_ok.1 hdispatch
    obtain ⟨sch, himpl, hvalid⟩ := hscheduled
    cases answer with
    | error e =>
      cases hdispatch
      have hsame := environmentCall_refused (m := m.updateStats _) himpl hvalid hcall
      subst hsame
      exact ⟨rfl, rfl, rfl, rfl, hcause ▸ TrapCause.noConfusion⟩
    | ok u => cases hdispatch
  · rename_i code hcause
    cases hdispatch
    exact ⟨rfl, rfl, rfl, rfl, hcause ▸ TrapCause.noConfusion⟩

/-- An exit that is refused has taken the request for a dispatch at most, and has left
the nesting level. -/
theorem exit_refused (hexit : (m.exit cfg handlers s).result = .ok (.error d, m', s')) :
    (m'.kernel = m.kernel ∨ m'.kernel = m.kernel.takeDispatch.2) ∧ m'.nesting + 1 = m.nesting := by
  cases exits_of_exit hexit with
  | refused e hpos => exact ⟨.inl rfl, Nat.sub_add_cancel hpos⟩
  | outermost hnesting hleaves hdecision hacts =>
    have hdepth := (congrArg (· + 1) hleaves.nesting).trans (Nat.sub_add_cancel hnesting.ge)
    cases hacts with
    | refused => exact ⟨.inr rfl, hdepth⟩

/-! ## Phases that go well -/

/-- Dispatch keeps the kernel whole, whatever the handlers call. -/
theorem whole_of_dispatched {frame : SavedFrame} {cause : TrapCause}
    {allowed : KernelCall → Prop} (hcalling : handlers.Calling cfg allowed)
    (h : m.kernel.Whole cfg) (haligned : ∀ id sp, frame = .task id sp → sp.toNat % 16 = 0)
    (hdispatched : Dispatched cfg handlers m m' s s' frame cause) : m'.kernel.Whole cfg := by
  cases hdispatched with
  | software hkernel hs =>
    rw [hkernel]
    exact h.spares_requestDispatch.whole
  | timer kernel htick hkernel =>
    have hticked := h.spares_advanceTick.whole.reaches (hcalling.tick _ _ _ _ _ htick)
    rw [hkernel]
    exact hticked.spares_requestDispatch.whole
  | external code hexternal => exact h.reaches (hcalling.external _ _ _ _ _ hexternal)
  | environmentCall code number argument pc result served accessed hserve haccess hkernel hs =>
    have hserved := (h.spares_invoke (Kernel.invoke_serve hserve cfg m.hart.regs)).whole
    rw [hkernel]
    exact (spares_of_accessed hserved haligned haccess).whole.spares_requestDispatch.whole

/-- The frame of an interrupted task is aligned. -/
theorem Interrupted.aligned {k : Kernel capacity levels} {frame : SavedFrame}
    (h : Interrupted cfg m k frame) (hwhole : m.kernel.Whole cfg) (id : TaskId) (sp : Word)
    (hframe : frame = .task id sp) : sp.toNat % 16 = 0 :=
  (hwhole.spares_saveContext (h.of_task hframe).2.2).2.2

/-! ## Reachable states -/

/-- The states that a system can be in, if stack memory is written by the kernel
and the trap handler only.  Whoever holds the hart may change the hart, call the
kernel with any registers, and take and leave traps, also fatally; a trap is
dispatched directly after its entry. -/
inductive Reached (cfg : Config) (handlers : Handlers σ capacity levels) :
    Machine capacity levels → σ → Prop where
  | initial {interruptStack : StackRegion} {m : Machine capacity levels} (s : σ)
    (hinitial : initial cfg capacity levels interruptStack = .ok m) : Reached cfg handlers m s
  | call {m : Machine capacity levels} {s : σ} {r r' : RegisterFile} {c : KernelCall} {ok : Bool}
    {k : Kernel capacity levels} (hreached : Reached cfg handlers m s)
    (hcall : (m.kernel.invoke cfg r c).result = .ok (ok, k, r')) :
    Reached cfg handlers { m with kernel := k } s
  | work {m : Machine capacity levels} {s : σ} (hart : Hart) (hreached : Reached cfg handlers m s) :
    Reached cfg handlers { m with hart := hart } s
  | enter {m m' : Machine capacity levels} {s : σ} {answer : Except FatalTrap TrapContext}
    (hreached : Reached cfg handlers m s) (hentry : (m.entry cfg).result = .ok (answer, m')) :
    Reached cfg handlers m' s
  | dispatch {m m₁ m' : Machine capacity levels} {s s' : σ} {context : TrapContext}
    {answer : Except FatalTrap Unit} (hreached : Reached cfg handlers m s)
    (hentry : (m.entry cfg).result = .ok (.ok context, m₁))
    (hdispatch : (m₁.dispatch cfg handlers s context).result = .ok (answer, m', s')) :
    Reached cfg handlers m' s'
  | exit {m m' : Machine capacity levels} {s s' : σ} {answer : Except FatalTrap Unit}
    (hreached : Reached cfg handlers m s)
    (hexit : (m.exit cfg handlers s).result = .ok (answer, m', s')) : Reached cfg handlers m' s'

theorem whole_initial {interruptStack : StackRegion}
    (h : initial cfg capacity levels interruptStack = .ok m) : m.kernel.Whole cfg :=
  (Session.tidy_start h ()).whole

/-- An entry keeps the kernel whole, also if it is refused. -/
theorem whole_of_entry {answer : Except FatalTrap TrapContext} (h : m.kernel.Whole cfg)
    (hentry : (m.entry cfg).result = .ok (answer, m')) : m'.kernel.Whole cfg := by
  cases answer with
  | ok context => exact (spares_of_interrupted h (entry_cases hentry).2.1).whole
  | error d =>
    rcases (entry_refused hentry).1 with hkernel | ⟨frame, hinterrupted⟩
    · exact hkernel ▸ h
    · exact (spares_of_interrupted h hinterrupted).whole

/-- The kernel of a system is whole at any time. -/
theorem Reached.whole {allowed : KernelCall → Prop} (hcalling : handlers.Calling cfg allowed)
    (h : Reached cfg handlers m s) : m.kernel.Whole cfg := by
  induction h with
  | initial s hinitial => exact whole_initial hinitial
  | call _ hcall ih => exact (ih.spares_invoke hcall).whole
  | work hart _ ih => exact ih
  | enter _ hentry ih => exact whole_of_entry ih hentry
  | @dispatch m m₁ m' s s' context answer _ hentry hdispatch ih =>
    have h₁ := whole_of_entry ih hentry
    cases answer with
    | ok u =>
      have hinterrupted := (entry_cases hentry).2.1
      exact whole_of_dispatched hcalling h₁ (hinterrupted.aligned ih) (dispatch_cases hdispatch).1
    | error d => exact (dispatch_refused h₁.scheduled hdispatch).1 ▸ h₁
  | @exit m m' s s' answer _ hexit ih =>
    cases answer with
    | ok u => exact (whole_of_exit ih hexit).1
    | error d =>
      rcases (exit_refused hexit).1 with hkernel | hkernel
      · exact hkernel ▸ ih
      · exact hkernel ▸ ih.takeDispatch

end Machine

/-! ## Runs -/

/-- A computation goes through and ends in a value of a kind. -/
def Machine.ends {β : Type} (x : Traced β) (p : β → Bool) : Bool :=
  match x.result with
  | .ok b => p b
  | .error _ => false

theorem Machine.exists_of_ends {β : Type} {x : Traced β} {p : β → Bool} (h : ends x p = true) :
    ∃ b, x.result = .ok b ∧ p b = true := by
  unfold ends at h
  split at h
  · rename_i b hb
    exact ⟨b, hb, h⟩
  · cases h

/-- The moves that write no memory and dispatch no trap apart from its entry. -/
def Move.Guarded : Move → Prop
  | .write .. | .writeInterrupt .. | .dispatch _ => False
  | _ => True

instance : DecidablePred Move.Guarded := fun mv => by
  cases mv <;> unfold Move.Guarded <;> infer_instance

/-- Two tasks of the same priority are created, and a trap gives the processor to
the first one. -/
def Move.launchTwo : List Move := Move.startTwo.take 4 ++ [.trap .software 0]

namespace Machine.Reached

variable {capacity levels : Nat} {σ : Type} {cfg : Config} {handlers : Handlers σ capacity levels}
variable {m m' : Machine capacity levels} {s s' : σ}

/-- A trap that returns leads to a reachable state. -/
theorem trap (h : Reached cfg handlers m s) {cause : TrapCause} {value : Word}
    (htrap : (m.trap cfg handlers s cause value).result = .ok (.ok (), m', s')) :
    Reached cfg handlers m' s' := by
  obtain ⟨hart, context, m₁, m₂, s₂, m₃, -, hentry, hdispatch, hexit, rfl⟩ := trap_cases htrap
  exact (((h.work hart).dispatch hentry hdispatch).exit hexit).work _

theorem move (h : Reached cfg handlers m s) {mv : Move} {ok : Bool} (hguarded : mv.Guarded)
    (hmove : (m.move cfg handlers s mv).result = .ok (.ok ok, m', s')) :
    Reached cfg handlers m' s' := by
  cases move_cases hmove with
  | call hcall => exact (h.call hcall).work _
  | work hart => exact h.work hart
  | write | writeInterrupt | dispatch => exact hguarded.elim
  | enter hraise hentry => exact (h.work _).enter hentry
  | exit hexit => exact h.exit hexit
  | trap htrap => exact h.trap htrap

/-- A run of guarded moves leads to a reachable state. -/
theorem play {moves : List Move} (h : Reached cfg handlers m s)
    (hguarded : ∀ mv ∈ moves, mv.Guarded)
    (hplay : (m.play cfg handlers s moves).result = .ok (.ok (), m', s')) :
    Reached cfg handlers m' s' := by
  refine play_induction (P := fun _ m s => Reached cfg handlers m s) [] ?_ h hplay
  intro done mv m s ok m' s' hmem h hmove
  exact h.move (hguarded mv hmem) hmove

end Machine.Reached

/-! ## Resuming a task -/

namespace Kernel

/-- A task can be resumed: there is an aligned frame on its own stack, with the
tag of its variant.  So its context can be loaded, and a switch to it goes well
if it is Ready and the current task can be saved. -/
structure Resumable {capacity levels : Nat} (cfg : Config) (k : Kernel capacity levels)
    (id : TaskId) (t : Task) : Prop where
  aligned : t.savedSp.toNat % 16 = 0
  inside : t.stack.Contains t.savedSp.toNat (cfg.layouts.layout t.frameKind).frameSize
  tag : t.stack.read t.savedSp = .ok (cfg.layouts.layout t.frameKind).tag
  restore : ∀ r, ∃ r', (k.restoreContext cfg.layouts r id).result = .ok (.ok t.frameKind, r')
  switchTo : t.state = .ready → ∀ r, ∃ kind k' r',
    (k.switchTo cfg.layouts r (some id)).result = .ok (.ok (some kind), k', r')
  switch : t.state = .ready → ∀ r source u, k.running = some source →
    k.task? source = some u → cfg.layouts.cooperative.Fits u.stack r.sp →
    ∃ k' r', (k.switch cfg.layouts r source id).result = .ok (.ok (), k', r')

namespace Whole

variable {capacity levels : Nat} {cfg : Config} {k : Kernel capacity levels} {id : TaskId}
variable {t : Task}

/-- A Ready task can be switched to. -/
theorem exists_switchTo (h : k.Whole cfg) (ht : k.task? id = some t) (hready : t.state = .ready)
    (r : RegisterFile) : ∃ kind k' r',
      (k.switchTo cfg.layouts r (some id)).result = .ok (.ok (some kind), k', r') := by
  obtain ⟨s, himpl, hvalid⟩ := h.scheduled
  have hcheck : k.checkTarget id = .ok () := by simp [checkTarget, ht, hready]
  obtain ⟨kind, q, hload⟩ := h.framed.exists_loadTarget hcheck r
  obtain ⟨answer, k', r', hresult, hcases⟩ := himpl.switchTo hvalid cfg r (some id)
  rcases hcases with ⟨e, -, -, hrefused⟩ | ⟨kind', rfl, hload', -⟩
  · rw [hload] at hrefused
    cases hrefused
  · rw [hload] at hload'
    cases hload'
    exact ⟨kind, k', _, hresult⟩

/-- The processor can be left idle. -/
theorem exists_switchTo_none (h : k.Whole cfg) (r : RegisterFile) : ∃ kind k' r',
    (k.switchTo cfg.layouts r none).result = .ok (.ok kind, k', r') := by
  obtain ⟨s, himpl, hvalid⟩ := h.scheduled
  obtain ⟨answer, k', r', hresult, hcases⟩ := himpl.switchTo hvalid cfg r none
  rcases hcases with ⟨e, -, -, hrefused⟩ | ⟨kind, rfl, -⟩
  · cases hrefused
  · exact ⟨kind, k', r', hresult⟩

/-- The current task can switch to a Ready task if its own registers can be
saved. -/
theorem exists_switch (h : k.Whole cfg) (ht : k.task? id = some t) (hready : t.state = .ready)
    {source : TaskId} {u : Task} {r : RegisterFile} (hcurrent : k.running = some source)
    (hu : k.task? source = some u) (hfits : cfg.layouts.cooperative.Fits u.stack r.sp) :
    ∃ k' r', (k.switch cfg.layouts r source id).result = .ok (.ok (), k', r') := by
  have hcheck : k.checkTarget id = .ok () := by simp [checkTarget, ht, hready]
  obtain ⟨sp, stack, hsave⟩ := FrameLayout.save_of_fits cfg.valid_cooperative hfits r
  have hsaved : ((cfg.layouts.layout .cooperative).save r u.stack r.sp).result =
      .ok (.ok sp, stack) := hsave
  have hrecorded : k.Spares cfg (k.recordCall source stack sp) fun a => a ≠ source :=
    h.spares_updateContext (fun _ => rfl) (fun _ => rfl) fun u _ =>
      (Task.holds_of_save hsaved u).framed
  obtain ⟨t', ht', hready'⟩ : ∃ t', (k.recordCall source stack sp).task? id = some t' ∧
      t'.state = .ready := by
    rw [recordCall, task?_updateTask, ht]
    split
    · exact ⟨_, rfl, hready⟩
    · exact ⟨t, rfl, hready⟩
  obtain ⟨kind, k', r', hswitch⟩ := hrecorded.whole.exists_switchTo ht' hready' r
  refine ⟨k', r', ?_⟩
  unfold Kernel.switch
  simp only [hu, hcurrent, ne_eq, not_true_eq_false, if_false, hcheck, Traced.result_bind, hsave,
    ok_bind, updateTask_updateTask]
  change ((k.recordCall source stack sp).switchTo cfg.layouts r (some id)).result >>= _ = _
  rw [hswitch]
  rfl

end Whole

end Kernel

namespace Machine

variable {capacity levels : Nat} {σ : Type} {cfg : Config} {handlers : Handlers σ capacity levels}
variable {m : Machine capacity levels} {s : σ}

/-- At any time every task can be resumed. -/
theorem Reached.resumable {allowed : KernelCall → Prop} (hcalling : handlers.Calling cfg allowed)
    (h : Reached cfg handlers m s) {id : TaskId} {t : Task} (ht : m.kernel.task? id = some t) :
    m.kernel.Resumable cfg id t := by
  have hwhole := h.whole hcalling
  have hframe : (cfg.layouts.layout t.frameKind).FrameAt t.stack t.savedSp := hwhole.framed id t ht
  exact {
    aligned := hframe.aligned
    inside := hframe.inside
    tag := hframe.read_tag
    restore := fun r => ⟨_, Kernel.restoreContext_eq ht hframe r⟩
    switchTo := fun hready r => hwhole.exists_switchTo ht hready r
    switch := fun hready r _ _ hcurrent hu hfits =>
      hwhole.exists_switch ht hready hcurrent hu hfits }

/-- The task has switched away, and then a trap was fatal because the stack
pointer of the other task was odd. -/
theorem Reached.resumable_switched :
    ∃ (m : Machine 4 4) (t : Task),
      Reached (Config.machine false) (Handlers.default : Handlers Unit 4 4) m () ∧
      m.kernel.task? ⟨0⟩ = some t ∧ t.state = .ready ∧
      m.kernel.Resumable (Config.machine false) ⟨0⟩ t := by
  obtain ⟨⟨m, u⟩, hplay, hm⟩ := exists_of_returns
    (x := small.play (Config.machine false) Handlers.default () (Move.launchTwo ++
      [.work (small.hart.setSp 0x40010200), .call (.switch ⟨0⟩ ⟨1⟩),
        .work (small.hart.setSp 0x40020201)]))
    (p := fun b => ends (b.1.entry (Config.machine false)) fun answer => !answer.1.isOk &&
      (answer.2.kernel.task? ⟨0⟩).any fun t => t.state = .ready)
    (by decide +kernel)
  obtain ⟨⟨answer, m'⟩, hentry, hm⟩ := exists_of_ends hm
  obtain ⟨t, ht, hready⟩ := (Option.any_eq_true _ _).1 (Bool.and_eq_true_iff.1 hm).2
  have hreached : Reached (Config.machine false) (Handlers.default : Handlers Unit 4 4) m' () :=
    ((Reached.initial () initial_small).play (by decide) hplay).enter hentry
  exact ⟨m', t, hreached, ht, of_decide_eq_true hready,
    Reached.resumable (Handlers.calling_default _ fun _ => True) hreached ht⟩

end Machine

end HartKernel
