import HartKernel.Proofs.Trap.Fatal
import HartKernel.Proofs.Trap.History

/-!
# Interrupting a running task

A trap finds the registers of a running task as the task has left them.  If the
stack pointer is not zero, entry saves them in a frame below it, on the stack that
the task owns, or is refused and changes nothing that the diagnostic is about.
The stack pointer zero is how entry knows the idle loop: a running task that has
it makes entry fail its check.  No other registers make a check fail; what else can
stop the kernel is an interrupt stack in the first two words of memory.

Main definitions:

- `Machine.Preempts` says that entry has saved a task.

Main results:

- `Machine.entry_error` and `Machine.status_entry`: what entry does to the hart.
- `Machine.entry_of_zero` and `Machine.preempts_of_entry`: how entry ends while a task
  is Running.
- `Machine.Recorded.preempts_or_refuses`: the same for every state of a system.
-/

namespace HartKernel

namespace Machine

variable {capacity levels : Nat} {σ : Type} {cfg : Config} {handlers : Handlers σ capacity levels}
variable {m m' : Machine capacity levels} {s s' : σ} {d : FatalTrap} {id : TaskId}

/-! ## What entry does to the hart -/

/-- An entry that is refused leaves the hart, the nesting level and the counters as
they are, and the diagnostic is about this hart. -/
theorem entry_error (h : (m.entry cfg).result = .ok (.error d, m')) :
    m'.hart = m.hart ∧ m'.nesting = m.nesting ∧ m'.stats = m.stats ∧ ∃ e, d = m.diagnose e := by
  cases enters_of_entry h with
  | unsaved e => exact ⟨rfl, rfl, rfl, e, rfl⟩
  | uninstalled e hnested hsaves =>
    exact ⟨(hsaves.outermost hnested).1, hsaves.nesting, hsaves.stats, e, rfl⟩

/-- Entry leaves the status of the hart alone, whether it goes well or not. -/
theorem status_entry {answer : Except FatalTrap TrapContext}
    (h : (m.entry cfg).result = .ok (answer, m')) :
    m'.hart.regs.status = m.hart.regs.status := by
  cases enters_of_entry h with
  | unsaved e => rfl
  | uninstalled e hnested hsaves => exact hsaves.status
  | entered hsaves hinstalls => exact hinstalls.status.trans hsaves.status

/-! ## Entry while a task is Running -/

/-- Entry has saved a task: its registers are in a frame on its own stack, and
nothing at the stack pointer or above it was touched, nor any other task.  The trap
context says where the frame is. -/
structure Preempts (cfg : Config) (m : Machine capacity levels) (id : TaskId)
    (context : TrapContext) (m' : Machine capacity levels) : Prop where
  keeps : m'.kernel.Keeps cfg id .interrupted m.hart.regs
  own : ∃ t t', m.kernel.task? id = some t ∧ m'.kernel.task? id = some t' ∧
    context.frame = .task id t'.savedSp ∧ t'.entry = t.entry ∧
    t.stack.AgreeFrom m.hart.regs.sp.toNat t'.stack
  others : ∀ j ≠ id, m'.kernel.task? j = m.kernel.task? j
  current : m'.kernel.running = some id
  nesting : m'.nesting = m.nesting + 1

/-- A running task with the stack pointer zero makes entry fail its check. -/
theorem entry_of_zero (hnesting : m.nesting = 0) (hsp : m.hart.regs.sp = 0)
    (hcurrent : m.kernel.running = some id) (hrunning : m.kernel.IsRunning id) :
    (m.entry cfg).result = .error .inconsistent := by
  have htask : m.kernel.runningTask? ≠ none := by
    rw [Kernel.runningTask?, hcurrent, Option.filter_some, if_pos (by simpa using hrunning)]
    exact Option.some_ne_none id
  have hcheck : (m.saveInterrupted cfg).result = .error .inconsistent := by
    unfold saveInterrupted
    rw [if_neg (by omega), if_pos hsp, Traced.result_bind, Traced.result_lift, Panic.require,
      if_neg htask]
    rfl
  unfold entry
  rw [Traced.result_bind, hcheck]
  rfl

/-- What entry has done to the current task if it goes well. -/
theorem preempts_of_entry {sch : Schedule} {context : TrapContext}
    (himpl : m.kernel.Implements sch) (hnesting : m.nesting = 0) (hsp : m.hart.regs.sp ≠ 0)
    (hcurrent : m.kernel.running = some id)
    (hentry : (m.entry cfg).result = .ok (.ok context, m')) :
    m.Preempts cfg id context m' := by
  obtain ⟨-, hinterrupted, hdeeper, -⟩ := entry_cases hentry
  obtain ⟨cause, frame⟩ := context
  dsimp only at hinterrupted
  obtain ⟨sp, rfl⟩ := hinterrupted.exists_task hnesting hsp hcurrent
  obtain ⟨-, hrunning, hsave⟩ := hinterrupted.of_task rfl
  obtain ⟨answer, k, hresult, -, hcases⟩ := himpl.saveContext cfg m.hart.regs id .interrupted
  rw [hresult] at hsave
  obtain ⟨rfl, hkernel⟩ := Prod.mk.inj (Except.ok.inj hsave)
  rcases hcases with ⟨e, he, -⟩ | ⟨t, stack, sp', hsp', ht, hsaved, hsame⟩
  · cases he
  · cases hsp'
    rw [hsame] at hkernel
    have htask : ∀ j, m'.kernel.task? j = if j = id then
        some { t with stack := stack, savedSp := sp, frameKind := .interrupted }
        else m.kernel.task? j := by
      intro j
      rw [← hkernel, Kernel.task?_updateTask]
      split
      · rename_i hj
        rw [hj, ht]
        rfl
      · rfl
    constructor
    · rw [← hkernel]
      exact Kernel.keeps_of_save ht hsaved
    · exact ⟨t, _, ht, (htask id).trans (if_pos rfl), rfl, rfl,
        FrameLayout.agreeFrom_of_save (cfg.valid_layout .interrupted) hsaved⟩
    · exact fun j hj => (htask j).trans (if_neg hj)
    · rw [← hkernel]
      exact hrunning
    · exact hdeeper

/-! ## Every state of a system -/

/-- A trap that is taken while a task is Running and no trap is being handled, with
any registers.  If the stack pointer is zero the check of entry fails.  Otherwise
the task is saved on its own stack, or the trap is fatal with a diagnostic about the
hart as the trap has left it, and the hart, the nesting level and the counters stay
as they are.  Whatever the registers are, a task that can be saved stops the kernel if
the word of the background stack pointer has no address. -/
theorem Recorded.preempts_or_refuses {log : List (Option TaskId)} {cause : TrapCause}
    (h : Recorded cfg handlers log m s) (hnesting : m.nesting = 0)
    (hrunning : m.kernel.IsRunning id) (hcanonical : cause.Canonical cfg.level) (value : Word) :
    ∃ hart, (m.hart.raise cfg cause value).result = .ok hart ∧
      (m.hart.regs.sp = 0 →
        (({ m with hart := hart } : Machine capacity levels).entry cfg).result =
          .error .inconsistent) ∧
      (m.hart.regs.sp ≠ 0 → m.Placed ∨ m.Unsaved cfg →
        ∃ answer m', (({ m with hart := hart } : Machine capacity levels).entry cfg).result =
            .ok (answer, m') ∧
          (∀ context, answer = .ok context → context.cause = cause ∧
            Preempts cfg { m with hart := hart } id context m') ∧
          ∀ d, answer = .error d → d.Describes hart ∧ m'.hart = hart ∧ m'.nesting = 0 ∧
            m'.stats = m.stats) ∧
      (m.hart.regs.sp ≠ 0 → ¬m.Placed → ¬m.Unsaved cfg →
        (({ m with hart := hart } : Machine capacity levels).entry cfg).result =
          .error .overflow) := by
  obtain ⟨hart, hraise⟩ := Hart.exists_raise hcanonical m.hart value
  have hsp := Hart.sp_raise hraise
  obtain ⟨sch, himpl, hvalid, -⟩ := h.arranged
  have hformed := himpl.wellFormed hvalid
  have hcurrent := hformed.holder id hrunning
  have hidle : m.hart.regs.sp ≠ 0 → hart.regs.sp = 0 → m.kernel.runningTask? = none :=
    fun hne hzero => absurd (hsp.symm.trans hzero) hne
  refine ⟨hart, hraise, fun hzero => ?_, fun hne hplaced => ?_, fun hne hplaced hsaved => ?_⟩
  · exact entry_of_zero (m := { m with hart := hart }) hnesting (hsp.trans hzero) hcurrent hrunning
  · obtain ⟨answer, m', hentry⟩ : ∃ answer m',
        (({ m with hart := hart } : Machine capacity levels).entry cfg).result =
          .ok (answer, m') := by
      rcases exists_entry (m := { m with hart := hart }) hformed hnesting (hidle hne)
          (hplaced.imp_right fun hunsaved => hunsaved.congr hart hsp) with
        ⟨e, m', hentry, -⟩ | ⟨context, slot, m', hentry, -⟩
      · exact ⟨_, m', hentry⟩
      · exact ⟨_, m', hentry⟩
    refine ⟨answer, m', hentry, ?_, ?_⟩
    · rintro context rfl
      exact ⟨(entry_cases hentry).1.trans (Hart.decode_raise hraise),
        preempts_of_entry (m := { m with hart := hart }) himpl hnesting (hsp ▸ hne) hcurrent hentry⟩
    · rintro d rfl
      obtain ⟨hhart, hdepth, hstats, e, rfl⟩ := entry_error hentry
      exact ⟨describes_diagnose _ e, hhart, hdepth.trans hnesting, hstats⟩
  · exact entry_of_not_placed (m := { m with hart := hart }) hformed hnesting (hidle hne) hplaced
      fun hunsaved => hsaved (hunsaved.congr m.hart hsp.symm)

/-- The running task is interrupted with a stack pointer inside its stack. -/
theorem Recorded.preempts_or_refuses_inside :
    ∃ (log : List (Option TaskId)) (m m' : Machine 4 4) (hart : Hart) (context : TrapContext),
      Recorded (Config.machine false) (Handlers.default : Handlers Unit 4 4) log m () ∧
      m.nesting = 0 ∧ m.kernel.IsRunning ⟨0⟩ ∧ m.Placed ∧ m.hart.regs.sp = 0x40010180 ∧
      (m.hart.raise (Config.machine false) .timer 0).result = .ok hart ∧
      (({ m with hart := hart } : Machine 4 4).entry (Config.machine false)).result =
        .ok (.ok context, m') ∧
      Preempts (Config.machine false) { m with hart := hart } ⟨0⟩ context m' := by
  obtain ⟨⟨m, u⟩, hplay, hm⟩ := exists_of_returns
    (x := small.play (Config.machine false) Handlers.default ()
      (Move.launchTwo ++ [.work (small.hart.setSp 0x40010180)]))
    (p := fun b => decide (b.1.nesting = 0 ∧ b.1.kernel.IsRunning ⟨0⟩ ∧
        16 ≤ b.1.interruptStack.alignedTop ∧ b.1.hart.regs.sp = 0x40010180) &&
      ends (b.1.take (Config.machine false) .timer 0) fun answer => answer.1.isOk)
    (by decide +kernel)
  obtain ⟨hstate, htake⟩ := Bool.and_eq_true_iff.1 hm
  obtain ⟨hnesting, hrunning, hplaced, hsp⟩ := of_decide_eq_true hstate
  obtain ⟨log, hrecorded⟩ := (Recorded.initial () initial_small).play
    (Handlers.calling_default _ fun _ => True) hplay
  obtain ⟨hart, hraise, -, hother, -⟩ :=
    hrecorded.preempts_or_refuses hnesting hrunning (by decide : TrapCause.timer.Canonical 3) 0
  obtain ⟨answer, m', hentry, hsaved, -⟩ := hother (by rw [hsp]; decide) (.inl hplaced)
  obtain ⟨⟨taken, m₁⟩, htaken, hok⟩ := exists_of_ends htake
  rw [take, Traced.result_bind, hraise, ok_bind, hentry] at htaken
  cases htaken
  cases answer with
  | error d => cases hok
  | ok context =>
    exact ⟨log, m, m', hart, context, hrecorded, hnesting, hrunning, hplaced, hsp, hraise, hentry,
      (hsaved context rfl).2⟩

/-- The running task has put zero into its stack pointer. -/
theorem Recorded.exists_entry_inconsistent :
    ∃ (log : List (Option TaskId)) (m : Machine 4 4) (hart : Hart),
      Recorded (Config.machine false) (Handlers.default : Handlers Unit 4 4) log m () ∧
      m.nesting = 0 ∧ m.kernel.IsRunning ⟨0⟩ ∧ TrapCause.software.Canonical 3 ∧
      (m.hart.raise (Config.machine false) .software 0).result = .ok hart ∧
      ∀ answer, (({ m with hart := hart } : Machine 4 4).entry (Config.machine false)).result ≠
        .ok answer := by
  obtain ⟨⟨m, u⟩, hplay, hm⟩ := exists_of_returns
    (x := small.play (Config.machine false) Handlers.default ()
      (Move.launchTwo ++ [.work (small.hart.setSp 0)]))
    (p := fun b => decide (b.1.nesting = 0 ∧ b.1.kernel.IsRunning ⟨0⟩ ∧ b.1.hart.regs.sp = 0))
    (by decide +kernel)
  obtain ⟨hnesting, hrunning, hsp⟩ := of_decide_eq_true hm
  obtain ⟨log, hrecorded⟩ := (Recorded.initial () initial_small).play
    (Handlers.calling_default _ fun _ => True) hplay
  obtain ⟨sch, himpl, hvalid, -⟩ := hrecorded.arranged
  have hcurrent := (himpl.wellFormed hvalid).holder _ hrunning
  obtain ⟨hart, hraise⟩ : ∃ hart, (m.hart.raise (Config.machine false) .software 0).result =
      .ok hart := Hart.exists_raise (by decide) m.hart 0
  have hpanic : (({ m with hart := hart } : Machine 4 4).entry (Config.machine false)).result =
      .error .inconsistent :=
    entry_of_zero hnesting ((Hart.sp_raise hraise).trans hsp) hcurrent hrunning
  refine ⟨log, m, hart, hrecorded, hnesting, hrunning, by decide, hraise, fun answer hanswer => ?_⟩
  rw [hpanic] at hanswer
  cases hanswer

end Machine

end HartKernel
