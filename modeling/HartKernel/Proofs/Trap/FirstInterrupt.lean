import HartKernel.Proofs.Trap.Fatal
import HartKernel.Proofs.Trap.FirstDispatch
import HartKernel.Proofs.Trap.Isolation

/-!
# The first interrupt of a task

A task is accepted if the frame that it starts from fits on its stack.  This frame
holds the registers that a call preserves, and it is popped when the task starts.
An interrupt pushes all registers in its place.  So a task can be accepted and
still be too small to be interrupted, which shows at its first interrupt.

Main definitions:

- `Machine.Launched` is a run up to the moment in which a task executes its first
  instruction.
- `Machine.Poised` is what holds at this moment.

Main results:

- `Session.keepsPlaces_of_play`: stacks do not move, whatever happens.
- `Machine.Launched.poised`: the new task has its stack for itself, and it is empty.
- `Machine.Launched.interrupt_returns_iff`: the first interrupt goes through exactly
  if the frame that it pushes fits below the aligned top of the stack.
- `Machine.Launched.exists_overflow`: that the task was accepted is not enough.
-/

namespace HartKernel

/-! ## Stacks that do not move -/

/-- Every task is still there, and its stack has stayed where it is. -/
abbrev Kernel.KeepsPlaces {capacity levels : Nat} (k k' : Kernel capacity levels) : Prop :=
  k.ChangesOnly (fun _ _ => True) k'

namespace FrameLayout

variable {l : FrameLayout} {region region' : StackRegion} {r : RegisterFile} {sp : Word}

/-- A frame that is too large for the room below an aligned stack pointer inside the
region overflows the stack. -/
theorem save_of_short (haligned : sp.toNat % 16 = 0) (hlow : region.base ≤ sp.toNat)
    (hhigh : sp.toNat ≤ region.top) (hshort : sp.toNat < region.base + l.frameSize) :
    (l.save r region sp).result = .ok (.error .stackOverflow, region) := by
  unfold save
  rw [if_neg (not_not.2 haligned), if_neg (by omega), if_pos hshort]
  rfl

end FrameLayout

namespace Kernel

variable {capacity levels : Nat} {k k' : Kernel capacity levels} {cfg : Config} {id : TaskId}
variable {a : TaskAttributes} {stack : StackRegion} {r r' : RegisterFile} {call : KernelCall}
variable {ok : Bool}

theorem changesOnly_addTask (p : TaskId → Nat → Prop) (k : Kernel capacity levels) (t : Task) :
    k.ChangesOnly p (k.addTask t) := by
  intro id u hu
  have hlt : id.index < k.tasks.size := (Array.getElem?_eq_some_iff.1 hu).1
  refine ⟨u, ?_, .refl _ _⟩
  rw [task?_addTask, if_neg hlt.ne, hu]

/-- Writing a frame to a stack does not move the stack. -/
theorem keepsPlaces_updateTask {f : Task → Task} {t : Task} (ht : k.task? id = some t)
    (hf : t.stack.SamePlace (f t).stack) : k.KeepsPlaces (k.updateTask id f) := by
  refine changesOnly_updateTask id fun u hu => ?_
  rw [ht, Option.some.injEq] at hu
  exact hu ▸ hf

/-- A call does not move any stack. -/
theorem Answered.keepsPlaces (h : Answered cfg k r call ok k' r') : k.KeepsPlaces k' := by
  cases h with
  | quiet hquiet hsame hrunning => exact .of_sameContexts hsame
  | create ht => exact changesOnly_addTask _ k _
  | save ht hsave =>
    exact keepsPlaces_updateTask ht (FrameLayout.samePlace_save (cfg.valid_layout _) hsave)
  | switch ht hsource hsave hload hsame hrunning =>
    exact (keepsPlaces_updateTask ht (FrameLayout.samePlace_save (cfg.valid_layout _) hsave)).trans
      (.of_sameContexts hsame)
  | switchTo hload hsame hrunning => exact .of_sameContexts hsame

theorem Whole.keepsPlaces_of_invoke (h : k.Whole cfg)
    (hcall : (k.invoke cfg r call).result = .ok (ok, k', r')) : k.KeepsPlaces k' := by
  obtain ⟨s, himpl, hvalid⟩ := h.scheduled
  exact (himpl.answered hvalid h.framed hcall).keepsPlaces

theorem Whole.keepsPlaces_of_reaches {allowed : KernelCall → Prop} (h : k.Whole cfg)
    (hreach : k.Reaches cfg allowed k') : k.KeepsPlaces k' := by
  induction hreach with
  | refl => exact .refl _ k
  | tail hreach hallowed hcall ih => exact ih.trans ((h.reaches hreach).keepsPlaces_of_invoke hcall)

/-- The stack of a task is a region, with whatever contents. -/
def Owns (k : Kernel capacity levels) (id : TaskId) (stack : StackRegion) : Prop :=
  ∃ t, k.task? id = some t ∧ stack.SamePlace t.stack

theorem Owns.of_keepsPlaces (h : k.Owns id stack) (hsame : k.KeepsPlaces k') :
    k'.Owns id stack := by
  obtain ⟨t, ht, hstack⟩ := h
  obtain ⟨t', ht', hstack'⟩ := hsame id t ht
  exact ⟨t', ht', hstack.trans hstack'⟩

/-- A task is accepted only if its first frame fits below the aligned top. -/
theorem Creates.accepted (h : k.Whole cfg) (hcreates : k.Creates cfg a stack id k') :
    stack.base + cfg.layouts.cooperative.frameSize ≤ stack.alignedTop := by
  obtain ⟨k₁, stack', savedSp, -, -, -, hsave, -⟩ := hcreates.cases h
  obtain ⟨hframe, -, habove, -⟩ := FrameLayout.frameAt_of_save cfg.valid_cooperative hsave
  have hbase := (FrameLayout.samePlace_save cfg.valid_cooperative hsave).base
  have hinside := hframe.inside.1
  have htop := (BitVec.toNat_ofNat stack.alignedTop 64).trans_le (Nat.mod_le _ _)
  omega

/-- A task that was created has the region that it was created with. -/
theorem Creates.owns (h : k.Whole cfg) (hcreates : k.Creates cfg a stack id k') :
    k'.Owns id stack := by
  obtain ⟨k₁, stack', savedSp, -, -, hindex, hsave, hspares, hafter⟩ := hcreates.cases h
  have hnew : (k₁.addTask (newTask a stack' savedSp)).Owns id stack := by
    refine ⟨newTask a stack' savedSp, ?_, FrameLayout.samePlace_save cfg.valid_cooperative hsave⟩
    rw [task?_addTask, if_pos hindex]
  exact hnew.of_keepsPlaces (hspares.whole.keepsPlaces_of_reaches hafter)

end Kernel

namespace Machine

variable {capacity levels : Nat} {σ : Type} {cfg : Config} {handlers : Handlers σ capacity levels}
variable {m m' : Machine capacity levels} {s s' : σ}

/-- Dispatch does not move any stack. -/
theorem keepsPlaces_of_dispatched {frame : SavedFrame} {cause : TrapCause}
    {allowed : KernelCall → Prop} (hcalling : handlers.Calling cfg allowed)
    (h : m.kernel.Whole cfg) (hdispatched : Dispatched cfg handlers m m' s s' frame cause) :
    m.kernel.KeepsPlaces m'.kernel := by
  cases hdispatched with
  | software hkernel hs => exact hkernel ▸ .of_sameContexts (.refl _)
  | timer kernel htick hkernel =>
    have hcalled := h.spares_advanceTick.whole.keepsPlaces_of_reaches
      (hcalling.tick _ _ _ _ _ htick)
    exact hkernel ▸ hcalled
  | external code hexternal =>
    exact h.keepsPlaces_of_reaches (hcalling.external _ _ _ _ _ hexternal)
  | environmentCall code number argument pc result served accessed hserve haccess hkernel hs =>
    have hserved : m.kernel.KeepsPlaces served :=
      .of_sameContexts (Kernel.sameContexts_serve hserve)
    have haccessed : served.KeepsPlaces accessed := by
      cases haccess with
      | nested sp hsame =>
        subst hsame
        exact .refl _ _
      | task id sp t ht hsame =>
        rw [hsame]
        exact Kernel.keepsPlaces_updateTask ht (samePlace_answerCall _ _ _ t.stack sp)
    exact hkernel ▸ hserved.trans haccessed

end Machine

namespace Session

variable {capacity levels : Nat} {σ : Type} {cfg : Config} {handlers : Handlers σ capacity levels}
variable {u v : Session σ capacity levels}

/-- No move of a session moves a stack. -/
theorem keepsPlaces_of_next {mv : Move} {ok : Bool}
    (hcalling : handlers.Calling cfg KernelCall.Plain) (h : u.Tidy cfg)
    (hnext : u.next cfg handlers mv = some (ok, v)) :
    u.machine.kernel.KeepsPlaces v.machine.kernel := by
  cases next_cases hnext with
  | call hcall => exact h.whole.keepsPlaces_of_invoke hcall
  | work hart => exact .refl _ _
  | enter hraise hentry =>
    exact (Machine.changesOnly_entry hentry).1.kernel.mono fun _ _ _ => trivial
  | dispatch hmem hdispatch =>
    exact Machine.keepsPlaces_of_dispatched hcalling h.whole (Machine.dispatch_cases hdispatch).1
  | exit hexit => exact (Machine.changesOnly_exit (q := fun _ => True) hexit).kernel

/-- Stacks stay where they are throughout a session. -/
theorem keepsPlaces_of_play
    {permits : Session σ capacity levels → Move → Bool → Session σ capacity levels → Prop}
    [∀ u mv ok v, Decidable (permits u mv ok v)] {moves : List Move}
    (hcalling : handlers.Calling cfg KernelCall.Plain) (h : u.Tidy cfg)
    (hplay : u.play cfg handlers permits moves = some v) :
    u.machine.kernel.KeepsPlaces v.machine.kernel := by
  refine (play_induction (P := fun w => u.machine.kernel.KeepsPlaces w.machine.kernel) hcalling ?_ h
    (.refl _ _) hplay).2
  intro w mv ok w' h hkept _ hnext
  exact hkept.trans (keepsPlaces_of_next hcalling h hnext)

end Session

/-! ## The moment of the first instruction -/

namespace Machine

variable {capacity levels : Nat} {σ : Type} {cfg : Config} {handlers : Handlers σ capacity levels}
variable {m m' : Machine capacity levels} {s s' : σ} {id : TaskId} {a : TaskAttributes}
variable {stack : StackRegion} {cause : TrapCause}

/-- When an outermost trap has been left the interrupt stack has room for the
background stack pointer, which was read there. -/
theorem exists_slot_of_exit (hexit : (m.exit cfg handlers s).result = .ok (.ok (), m', s'))
    (houtermost : m'.nesting = 0) :
    ∃ slot, m'.backgroundSlot = .ok slot ∧ m'.interruptStack.base ≤ slot.toNat := by
  have hchanges : m.ChangesOnly (fun _ _ => True) (fun _ => False) m' := changesOnly_exit hexit
  have hstack : m'.interruptStack = m.interruptStack := hchanges.interruptStack.eq fun _ => id
  rw [backgroundSlot, hstack]
  cases exits_of_exit hexit with
  | nested sp r hnested => exact absurd houtermost (Nat.sub_pos_of_lt hnested).ne'
  | outermost _ hleaves =>
    cases hleaves with
    | left background hslot hread =>
      exact ⟨_, hslot, (StackRegion.read_eq_ok_iff.1 hread).2.1.1⟩

/-- A task is about to execute its first instruction.  It is the current one, its
stack is empty, and there once was room for its first frame. -/
structure Poised (cfg : Config) (id : TaskId) (stack : StackRegion)
    (m : Machine capacity levels) : Prop where
  whole : m.kernel.Whole cfg
  outermost : m.nesting = 0
  current : m.kernel.running = some id
  owns : m.kernel.Owns id stack
  accepted : stack.base + cfg.layouts.cooperative.frameSize ≤ stack.alignedTop
  empty : m.hart.regs.sp.toNat = stack.alignedTop
  slot : ∃ slot, m.backgroundSlot = .ok slot ∧ m.interruptStack.base ≤ slot.toNat

/-- A run in which a task is created, by whoever holds the hart or by a handler, and
gets the processor for the first time when an outermost trap is left, without any
other context having been saved for it in between.  The machine is the one after the
exception return. -/
inductive Launched (cfg : Config) (handlers : Handlers σ capacity levels) (a : TaskAttributes)
    (stack : StackRegion) (id : TaskId) : Machine capacity levels → σ → Prop where
  | intro {interruptStack : StackRegion} {m₀ : Machine capacity levels} {s₀ : σ}
    {before between : List Move} {u v w x : Session σ capacity levels} {mv : Move} {ok ok' : Bool}
    (hinitial : initial cfg capacity levels interruptStack = .ok m₀)
    (hbefore : (Session.start m₀ s₀).play cfg handlers (fun _ _ _ _ => True) before = some u)
    (hcreation : u.next cfg handlers mv = some (ok, v))
    (hcreates : u.machine.kernel.Creates cfg a stack id v.machine.kernel)
    (hbetween : v.play cfg handlers (fun _ mv _ y => mv.savedTask? ≠ some id ∧
      y.machine.kernel.running ≠ some id) between = some w)
    (hexit : w.next cfg handlers .exit = some (ok', x)) (houtermost : x.machine.nesting = 0)
    (hcurrent : x.machine.kernel.running = some id) :
    Launched cfg handlers a stack id
      { x.machine with hart := x.machine.hart.exceptionReturn cfg } x.state

/-- Such a run ends with the stack of the task as it was handed over, and empty. -/
theorem Launched.poised (hcalling : handlers.Calling cfg KernelCall.Plain)
    (h : Launched cfg handlers a stack id m s) : m.Poised cfg id stack := by
  cases h with
  | @intro interruptStack m₀ s₀ before between u v w x mv ok ok' hinitial hbefore hcreation
      hcreates hbetween hexit houtermost hcurrent =>
    have htidy₀ := Session.tidy_start hinitial s₀
    have htidy₁ := Session.play_tidy hcalling htidy₀ hbefore
    have htidy₂ := Session.next_tidy hcalling htidy₁ hcreation
    have htidy₃ := Session.play_tidy hcalling htidy₂ hbetween
    have howned : u.Owned := Session.play_owned hcalling htidy₀
      (fun c hc => absurd hc List.not_mem_nil) hbefore
    have hwaits := Session.waits_of_play hcalling (fun hpermits => hpermits) htidy₂
      (Session.waits_of_creates htidy₁ howned hcreation hcreates) hbetween
    have hplaces : v.machine.kernel.KeepsPlaces x.machine.kernel :=
      (Session.keepsPlaces_of_play hcalling htidy₂ hbetween).trans
        (Session.keepsPlaces_of_next hcalling htidy₃ hexit)
    have howns := (hcreates.owns htidy₁.whole).of_keepsPlaces hplaces
    have hwhole := (Session.next_tidy hcalling htidy₃ hexit).whole
    cases Session.next_cases hexit with
    | exit hleave =>
      have hslot := exists_slot_of_exit hleave houtermost
      obtain ⟨-, ⟨hpos, -⟩ | ⟨-, decision, -, hresumed⟩⟩ := exit_cases hleave
      · exact absurd houtermost hpos.ne'
      · have hstarts := hresumed.starts (hwaits.away.keeps.of_sameContexts (.refl _)) hwaits.idle
          hcurrent
        exact ⟨hwhole, houtermost, hcurrent, howns, hcreates.accepted htidy₁.whole, hstarts.sp,
          hslot⟩

namespace Poised

/-- Taking a trap keeps the stack pointer. -/
theorem raise (h : m.Poised cfg id stack) {value : Word} {hart : Hart}
    (hraise : (m.hart.raise cfg cause value).result = .ok hart) :
    Poised cfg id stack { m with hart := hart } :=
  { h with empty := (congrArg BitVec.toNat (Hart.sp_raise hraise)).trans h.empty }

/-- The stack pointer tells the task from the idle loop. -/
theorem sp_ne_zero (h : m.Poised cfg id stack) : m.hart.regs.sp ≠ 0 := by
  intro hzero
  have hempty := h.empty
  have haccepted := h.accepted
  have hpos := cfg.layouts.cooperative.frameWords_pos
  rw [hzero] at hempty
  rw [FrameLayout.frameSize, ← hempty] at haccepted
  exact absurd haccepted (by simp; omega)

/-- The stack pointer is at the aligned top of the stack that the task owns. -/
theorem exists_task (h : m.Poised cfg id stack) : ∃ t, m.kernel.task? id = some t ∧
    t.stack.base = stack.base ∧ m.hart.regs.sp.toNat % 16 = 0 ∧
    stack.base ≤ m.hart.regs.sp.toNat ∧ m.hart.regs.sp.toNat ≤ t.stack.top := by
  obtain ⟨t, ht, hplace⟩ := h.owns
  have htop : t.stack.top = stack.top := by
    rw [StackRegion.top, StackRegion.byteSize, hplace.base, hplace.size]
    rfl
  refine ⟨t, ht, hplace.base, ?_⟩
  rw [h.empty, htop]
  exact ⟨alignDown_mod 16 stack.top, Nat.le_of_add_right_le h.accepted, alignDown_le 16 stack.top⟩

/-- If the frame fits, nothing stands in the way of handling an interrupt. -/
theorem not_hopeless (h : m.Poised cfg id stack) (hinterrupt : cause.isInterrupt = true)
    (hroom : stack.base + cfg.layouts.interrupted.frameSize ≤ stack.alignedTop) :
    ¬m.Hopeless cfg cause := by
  obtain ⟨t, ht, hbase, haligned, hlow, hhigh⟩ := h.exists_task
  have hfits : cfg.layouts.interrupted.Fits t.stack m.hart.regs.sp := by
    refine ⟨haligned, hbase ▸ hlow, hhigh, ?_⟩
    rw [hbase, h.empty]
    omega
  intro hhopeless
  cases hhopeless with
  | noRoom hcramped =>
    obtain ⟨slot, hslot, hinside⟩ := h.slot
    exact absurd ((cramped_iff hslot).1 hcramped) (Nat.not_lt.2 hinside)
  | unsaved hunsaved =>
    cases hunsaved with
    | nobody hsp hnobody =>
      rw [h.current] at hnobody
      cases hnobody
    | misfit hsp hrunning hu hnot =>
      rw [h.current, Option.some.injEq] at hrunning
      rw [← hrunning, ht, Option.some.injEq] at hu
      exact hnot (hu ▸ hfits)
  | exception code => cases hinterrupt
  | idleCall code hsp => cases hinterrupt

/-- If the frame does not fit, the task cannot be saved. -/
theorem saveInterrupted_of_short (h : m.Poised cfg id stack)
    (hshort : stack.alignedTop < stack.base + cfg.layouts.interrupted.frameSize) :
    (m.saveInterrupted cfg).result = .ok (.error (m.diagnose (some .stackOverflow)), m) := by
  obtain ⟨t, ht, hbase, haligned, hlow, hhigh⟩ := h.exists_task
  rw [← h.empty, ← hbase] at hshort
  have hsave : (m.kernel.saveContext cfg.layouts m.hart.regs id .interrupted).result =
      .ok (.error (.frame .stackOverflow), m.kernel) :=
    Kernel.saveContext_of_refused ht
      (FrameLayout.save_of_short haligned (hbase ▸ hlow) hhigh hshort)
  unfold saveInterrupted saveTask
  rw [if_neg h.outermost.not_gt, if_neg h.sp_ne_zero]
  simp only [h.current, Traced.result_bind, hsave, ok_bind]
  rfl

end Poised

/-! ## The first interrupt -/

/-- If the interrupted context cannot be saved the trap is not handled. -/
theorem phases_of_unsaved {d : FatalTrap}
    (h : (m.saveInterrupted cfg).result = .ok (.error d, m')) (s : σ) :
    (m.phases cfg handlers s).result = .ok (.error d, m', s) := by
  have hentry : (m.entry cfg).result = .ok (.error d, m') := by
    unfold entry
    rw [Traced.result_bind, h]
    rfl
  unfold phases
  rw [Traced.result_bind, hentry]
  rfl

/-- A task that was accepted and has just got the processor is interrupted before it
executes anything.  The trap goes through exactly if the frame that it pushes fits on
the stack of the task, and is fatal because of a stack overflow otherwise. -/
theorem Launched.interrupt_returns_iff (hscripted : handlers.Scripted cfg KernelCall.Plain)
    (hlevel : cfg.level ≠ 8) (h : Launched cfg handlers a stack id m s)
    (hinterrupt : cause.isInterrupt = true) (hcanonical : cause.Canonical cfg.level)
    (value : Word) :
    ∃ answer m' s', (m.trap cfg handlers s cause value).result = .ok (answer, m', s') ∧
      (answer = .ok () ↔
        stack.base + cfg.layouts.interrupted.frameSize ≤ stack.alignedTop) ∧
      ∀ d, answer = .error d → d.frameError = some .stackOverflow := by
  have hpoised := h.poised hscripted.calling
  obtain ⟨slot, hslot, -⟩ := hpoised.slot
  obtain ⟨hart, hraise⟩ := Hart.exists_raise hcanonical m.hart value
  have hraised := hpoised.raise hraise
  have htrap : (m.trap cfg handlers s cause value).result =
      (({ m with hart := hart } : Machine capacity levels).handleTrap cfg handlers s).result := by
    rw [trap, Traced.result_bind, hraise]
    rfl
  have hmasked : ({ m with hart := hart } : Machine capacity levels).hart.Masked cfg :=
    Hart.masked_raise hlevel hraise
  rw [htrap]
  by_cases hroom : stack.base + cfg.layouts.interrupted.frameSize ≤ stack.alignedTop
  · -- the dispatch has used the interrupt stack, so only the stack of the task could fail
    have hpossible := hraised.not_hopeless hinterrupt hroom
    rcases exists_phases hscripted hraised.whole hraised.outermost
        (fun hzero => absurd hzero hraised.sp_ne_zero) (.inl (placed_of_slot hslot))
        (Hart.decode_raise hraise) s with
      ⟨e, m₁, s₁, -, hhopeless⟩ | ⟨m₁, s₁, hphases, -⟩
    · exact absurd hhopeless hpossible
    · obtain ⟨m', hhandle, -⟩ := exists_handleTrap hmasked hphases
      exact ⟨_, m', s₁, hhandle, ⟨fun _ => hroom, fun _ => rfl⟩, fun d hd => by cases hd⟩
  · have hunsaved := hraised.saveInterrupted_of_short (not_le.1 hroom)
    obtain ⟨m', hhandle, -⟩ := exists_handleTrap hmasked (phases_of_unsaved hunsaved s)
    refine ⟨_, m', s, hhandle, ⟨fun hok => ?_, fun hfits => absurd hfits hroom⟩, fun d hd => ?_⟩
    · cases hok
    · cases hd
      rfl

variable (cfg handlers a stack id) in
/-- A run that goes through and ends in a machine of a kind. -/
theorem Launched.exists_of_attempt {interruptStack : StackRegion} {m₀ : Machine capacity levels}
    (s₀ : σ) (before between : List Move) (p : Machine capacity levels × σ → Bool)
    (hinitial : initial cfg capacity levels interruptStack = .ok m₀)
    (h : (FirstDispatch.attempt cfg handlers id m₀ s₀ before a stack between).any (fun b =>
      decide ((b.1.machine.kernel.create cfg a stack).result = .ok (.ok id, b.2.1.machine.kernel) ∧
        b.2.2.machine.nesting = 0 ∧ b.2.2.machine.kernel.running = some id) &&
      p ({ b.2.2.machine with hart := b.2.2.machine.hart.exceptionReturn cfg }, b.2.2.state)) =
      true) :
    ∃ m s, Launched cfg handlers a stack id m s ∧ p (m, s) = true := by
  obtain ⟨⟨u, v, x⟩, hattempt, hp⟩ := (Option.any_eq_true _ _).1 h
  obtain ⟨hrun, hp⟩ := Bool.and_eq_true_iff.1 hp
  obtain ⟨hcreate, houtermost, hcurrent⟩ := of_decide_eq_true hrun
  refine ⟨_, _, ?_, hp⟩
  unfold FirstDispatch.attempt at hattempt
  obtain ⟨u₁, hbefore, hattempt⟩ := Option.bind_eq_some_iff.1 hattempt
  obtain ⟨⟨ok, v₁⟩, hcreation, hattempt⟩ := Option.bind_eq_some_iff.1 hattempt
  obtain ⟨w, hbetween, hattempt⟩ := Option.bind_eq_some_iff.1 hattempt
  obtain ⟨⟨ok', x₁⟩, hexit, hattempt⟩ := Option.bind_eq_some_iff.1 hattempt
  cases hattempt
  exact .intro hinitial hbefore hcreation ⟨_, _, .refl _, hcreate, .refl _⟩
    (Session.play_mono (fun hpermits => ⟨Move.savedTask?_ne hpermits.1 id, hpermits.2⟩) hbetween)
    hexit houtermost hcurrent

/-- A trap was fatal because a stack has overflowed. -/
def overflows : Except FatalTrap Unit → Bool
  | .ok () => false
  | .error d => d.frameError = some .stackOverflow

/-- The moves that give the processor to the only task. -/
def startOnly : List Move :=
  [.call (.activate ⟨0⟩), .enter .software 0, .dispatch ⟨.software, .idle⟩]

/-- With a stack of 64 words the task is interrupted by the timer. -/
theorem Launched.interrupt_returns_timer :
    ∃ m m' : Machine 4 4,
      Launched (Config.machine false) (Handlers.default : Handlers Unit 4 4)
        ⟨"a", 0x80000000, 0, 1⟩ ⟨0x40010000, .replicate 64 0, by decide, by decide⟩ ⟨0⟩ m () ∧
      (m.trap (Config.machine false) (Handlers.default : Handlers Unit 4 4) () .timer 0).result =
        .ok (.ok (), m', ()) := by
  obtain ⟨m, s, hlaunched, -⟩ := exists_of_attempt (Config.machine false)
    (Handlers.default : Handlers Unit 4 4) ⟨0⟩ ⟨"a", 0x80000000, 0, 1⟩
    ⟨0x40010000, .replicate 64 0, by decide, by decide⟩ () [] startOnly (fun _ => true)
    initial_small (by decide +kernel)
  obtain ⟨answer, m', s', htrap, hiff, -⟩ :=
    interrupt_returns_iff (Handlers.scripted_default _ _) (by decide) hlaunched
      (by decide : TrapCause.timer.isInterrupt = true) (by decide) 0
  rw [hiff.2 (by decide)] at htrap
  exact ⟨m, m', hlaunched, htrap⟩

/-- A stack of 16 words has room for the frame that a task starts from.  The task is
accepted, activated and dispatched, and its first interrupt is fatal, although the
interrupt stack has room for the background stack pointer. -/
theorem Launched.exists_overflow :
    ∃ (m m' : Machine 4 4) (d : FatalTrap),
      Launched (Config.machine false) (Handlers.default : Handlers Unit 4 4)
        ⟨"a", 0x80000000, 0, 1⟩ ⟨0x40010000, .replicate 16 0, by decide, by decide⟩ ⟨0⟩ m () ∧
      m.interruptStack.base = 0x40000000 ∧ m.backgroundSlot = .ok 0x400001f0 ∧
      (m.trap (Config.machine false) (Handlers.default : Handlers Unit 4 4) () .software 0).result =
        .ok (.error d, m', ()) ∧ d.frameError = some .stackOverflow := by
  obtain ⟨m, s, hlaunched, hm⟩ := exists_of_attempt (Config.machine false)
    (Handlers.default : Handlers Unit 4 4) ⟨0⟩ ⟨"a", 0x80000000, 0, 1⟩
    ⟨0x40010000, .replicate 16 0, by decide, by decide⟩ () [] startOnly
    (fun b => decide (b.1.interruptStack.base = 0x40000000 ∧
        b.1.backgroundSlot = .ok 0x400001f0) &&
      ends (b.1.trap (Config.machine false) (Handlers.default : Handlers Unit 4 4) () .software 0)
        fun b' => overflows b'.1)
    initial_small (by decide +kernel)
  obtain ⟨hstate, htrap⟩ := Bool.and_eq_true_iff.1 hm
  obtain ⟨hbase, hslot⟩ := of_decide_eq_true hstate
  obtain ⟨⟨answer, m', s'⟩, htrap, hfatal⟩ := exists_of_ends htrap
  cases answer with
  | ok u => cases hfatal
  | error d => exact ⟨m, m', d, hlaunched, hbase, hslot, htrap, of_decide_eq_true hfatal⟩

end Machine

end HartKernel
