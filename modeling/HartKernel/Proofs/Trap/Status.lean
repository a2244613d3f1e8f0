import HartKernel.Proofs.Trap.Interruption

/-!
# The status word

Taking a trap masks interrupts and remembers in the status word whether they were
enabled, and an exception return undoes this.  In between no phase of a trap changes
the status, except that leaving the trap loads the one of what is resumed.

Main definitions:

- `Status.Restored` compares the status of a task before a trap with its status when
  it goes on.

Main results:

- `Hart.returnStatus_trapStatus`: an exception return undoes taking a trap, up to the
  values from before the trap.
- `Machine.regs_dispatch` and `Machine.status_exit`: what dispatch and exit do to the
  status, whether they go well or not.
-/

namespace HartKernel

/-! ## Status words -/

/-- Words whose conjunction is zero have no bit in common. -/
theorem Word.getElem_of_disjoint {v w : Word} (h : v &&& w = 0) {i : Nat} (hi : i < 64) :
    ¬(v[i] = true ∧ w[i] = true) := by
  have hbit := congrArg (fun u : Word => u[i]) h
  simp only [BitVec.getElem_and] at hbit
  simpa using hbit

namespace Status

variable {level : Nat}

/-- The flags of the levels that a kernel runs at are different bits. -/
theorem disjoint (h : level = 1 ∨ level = 3) :
    enable level &&& previousEnable level = 0 ∧ enable level &&& previousLevel level = 0 ∧
      previousEnable level &&& previousLevel level = 0 := by
  rcases h with rfl | rfl <;> decide

theorem ne_zero (h : level = 1 ∨ level = 3) : enable level ≠ 0 ∧ previousEnable level ≠ 0 := by
  rcases h with rfl | rfl <;> decide

/-- The interrupt enable is one bit. -/
theorem and_enable (h : level = 1 ∨ level = 3) (w : Word) :
    w &&& enable level = 0 ∨ w &&& enable level = enable level := by
  have hbit : ∀ i : Nat, w &&& BitVec.twoPow 64 i = 0 ∨
      w &&& BitVec.twoPow 64 i = BitVec.twoPow 64 i := by
    intro i
    rw [BitVec.and_twoPow]
    cases w.getLsbD i <;> simp
  rcases h with rfl | rfl
  · exact hbit 1
  · exact hbit 3

/-- A status differs from another one at most in what an exception return leaves
behind: the interrupt enable is the same, and so is every bit but the values from
before the trap. -/
structure Restored (level : Nat) (before after : Word) : Prop where
  enable : after &&& Status.enable level = before &&& Status.enable level
  others : after &&& ~~~(previousEnable level ||| previousLevel level) =
    before &&& ~~~(previousEnable level ||| previousLevel level)

end Status

namespace Hart

variable {level : Nat}

/-- Taking a trap remembers that interrupts were disabled or enabled. -/
theorem trapStatus_and_previousEnable (h : level = 1 ∨ level = 3) (w : Word) :
    trapStatus level w &&& Status.previousEnable level =
      if w &&& Status.enable level = 0 then 0 else Status.previousEnable level := by
  obtain ⟨-, -, hlevel⟩ := Status.disjoint h
  unfold trapStatus
  split
  all_goals
    ext i hi
    have hbit := Word.getElem_of_disjoint hlevel hi
    simp only [BitVec.getElem_and, BitVec.getElem_or, BitVec.getElem_not]
    grind

/-- An exception return undoes taking a trap, but for the values from before the
trap. -/
theorem returnStatus_trapStatus (h : level = 1 ∨ level = 3) (w : Word) :
    returnStatus level (trapStatus level w) =
      w ||| Status.previousEnable level ||| Status.previousLevel level := by
  obtain ⟨hprevious, hlevel, -⟩ := Status.disjoint h
  obtain ⟨henable, hset⟩ := Status.ne_zero h
  have hremembered := trapStatus_and_previousEnable h w
  rcases Status.and_enable h w with hw | hw
  · rw [if_pos hw] at hremembered
    rw [returnStatus, if_pos hremembered, trapStatus, if_pos hw]
    ext i hi
    have hlevel := Word.getElem_of_disjoint hlevel hi
    have hclear := Word.getElem_of_disjoint hw hi
    simp only [BitVec.getElem_and, BitVec.getElem_or, BitVec.getElem_not]
    grind
  · have hne : ¬w &&& Status.enable level = 0 := fun hzero => henable (hw.symm.trans hzero)
    rw [if_neg hne] at hremembered
    rw [returnStatus, if_neg fun hzero => hset (hremembered.symm.trans hzero), trapStatus,
      if_neg hne]
    ext i hi
    have hprevious := Word.getElem_of_disjoint hprevious hi
    have hlevel := Word.getElem_of_disjoint hlevel hi
    have henabled := congrArg (fun u : Word => u[i]) hw
    simp only [BitVec.getElem_and, BitVec.getElem_or, BitVec.getElem_not] at henabled ⊢
    grind

/-- A task that goes on with the status with which it was interrupted has its
interrupt enable back. -/
theorem restored_returnStatus (h : level = 1 ∨ level = 3) (w : Word) :
    Status.Restored level w (returnStatus level (trapStatus level w)) := by
  obtain ⟨hprevious, hlevel, -⟩ := Status.disjoint h
  rw [returnStatus_trapStatus h]
  constructor
  · ext i hi
    have hprevious := Word.getElem_of_disjoint hprevious hi
    have hlevel := Word.getElem_of_disjoint hlevel hi
    simp only [BitVec.getElem_and, BitVec.getElem_or]
    grind
  · ext i hi
    simp only [BitVec.getElem_and, BitVec.getElem_or, BitVec.getElem_not]
    grind

/-- Interrupts are masked while a task has the status with which it was
interrupted. -/
theorem trapStatus_and_enable (h : level = 1 ∨ level = 3) (w : Word) :
    trapStatus level w &&& Status.enable level = 0 := by
  obtain ⟨hprevious, hlevel, -⟩ := Status.disjoint h
  unfold trapStatus
  split
  all_goals
    ext i hi
    have hprevious := Word.getElem_of_disjoint hprevious hi
    have hlevel := Word.getElem_of_disjoint hlevel hi
    simp only [BitVec.getElem_and, BitVec.getElem_or, BitVec.getElem_not]
    grind

/-- Whether interrupts are masked depends on the status only. -/
theorem Masked.of_status {cfg : Config} {h h' : Hart} (hmasked : h.Masked cfg)
    (hstatus : h'.regs.status = h.regs.status) : h'.Masked cfg := by
  rw [Masked, hstatus]
  exact hmasked

/-- With the default status interrupts are masked until the exception return, and
enabled from then on. -/
theorem initial_and_enable (h : level = 1 ∨ level = 3) (includeFp : Bool) :
    Status.initial level includeFp &&& Status.enable level = 0 ∧
      returnStatus level (Status.initial level includeFp) &&& Status.enable level ≠ 0 := by
  rcases h with rfl | rfl <;> cases includeFp <;> decide

end Hart

namespace Machine

variable {capacity levels : Nat} {σ : Type} {cfg : Config} {handlers : Handlers σ capacity levels}
variable {m m' : Machine capacity levels} {s s' : σ}

/-! ## Phases of a trap -/

/-- Dispatch leaves the registers alone, whether it goes well or not. -/
theorem regs_dispatch {context : TrapContext} {answer : Except FatalTrap Unit}
    (hscheduled : ∃ sch : Schedule, m.kernel.Implements sch ∧ sch.Valid levels)
    (h : (m.dispatch cfg handlers s context).result = .ok (answer, m', s')) :
    m'.hart.regs = m.hart.regs := by
  cases answer with
  | ok u => exact (dispatch_cases h).2.2.2
  | error d => rw [(dispatch_refused hscheduled h).2.2.1]

/-- An outermost exit that is refused leaves the status alone, and one that goes to
the idle loop loads the default status. -/
theorem status_exit {answer : Except FatalTrap Unit} (hnesting : m.nesting = 1)
    (h : (m.exit cfg handlers s).result = .ok (answer, m', s')) :
    (∃ d, answer = .error d ∧ m'.hart.regs.status = m.hart.regs.status) ∨
      answer = .ok () ∧ (m'.kernel.running = none → m'.hart.regs.status = cfg.initialStatus) := by
  cases exits_of_exit h with
  | refused e => exact .inl ⟨_, rfl, rfl⟩
  | nested sp r hnested => omega
  | outermost _ hleaves _ hacts =>
    have hbusy : ∀ {running : Option TaskId} {id : TaskId} {p : Prop}, running = some id →
        running = none → p := fun hid hnone => absurd (hid.symm.trans hnone) (Option.some_ne_none _)
    cases hacts with
    | refused => exact .inl ⟨_, rfl, hleaves.status⟩
    | background id r hrunning =>
      exact .inr ⟨rfl, hbusy (Option.filter_eq_some_iff.1 hrunning).1⟩
    | task id kind r k hload hkernel => exact .inr ⟨rfl, hbusy (Kernel.running_of_handOver hkernel)⟩
    | idle => exact .inr ⟨rfl, fun _ => rfl⟩

end Machine

end HartKernel
