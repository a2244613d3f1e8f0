import HartKernel.Proofs.Trap.EnvironmentCall
import HartKernel.Proofs.Trap.Raise
import HartKernel.Proofs.Trap.Reach

/-!
# Nested traps

A trap that interrupts a handler pushes a frame on the interrupt stack, and its own
handler works below this frame.  Whatever traps are stacked on top of each other,
the frame and everything above it stay as they are, so the interrupted handler
goes on as if nothing had happened.

Main definitions:

- `Config.registers` lists the registers that a handler has.
- `Machine.Handling` is what a handler may do, nested traps included.
- `Machine.AtWork` says that a handler is at work below an address.
- `Machine.Guards` is the invariant of a nested trap: its frame holds the
  registers of the interrupted handler.

Main results:

- `Machine.Handling.keeps`: a handler leaves the nesting level and everything above
  its own part of the interrupt stack alone.
- `Machine.AtWork.trap_balanced`: after a nested trap everything is as before.
-/

namespace HartKernel

/-! ## The registers of a handler -/

namespace Config

/-- The general-purpose registers and the program counter, and the floating-point
registers if frames hold them. -/
def registers (cfg : Config) : List RegisterSlot :=
  FrameLayouts.numbered .int 1 32 ++ .pc ::
    if cfg.includeFp then .floatStatus :: FrameLayouts.numbered .float 0 32 else []

/-- The frame of an interrupted handler holds them all but the stack pointer. -/
theorem mem_slots_of_mem_registers {cfg : Config} {s : RegisterSlot} (h : s ∈ cfg.registers) :
    s = .sp ∨ s ∈ cfg.layouts.interrupted.slots ∧ s ≠ .status := by
  unfold registers at h
  unfold layouts
  revert s
  cases cfg.includeFp <;> decide

end Config

namespace RegisterFile

variable {cfg : Config} {r r' : RegisterFile} {s : RegisterSlot}

theorem Agree.get_eq (h : Agree cfg.layouts.interrupted r r') (hs : s ∈ cfg.registers) :
    r'.get s = r.get s := by
  rcases Config.mem_slots_of_mem_registers hs with rfl | ⟨hs, hstatus⟩
  · rw [get_sp, get_sp, h.1]
  · exact h.2 s hs hstatus

end RegisterFile

/-- The registers with which a handler goes on after a trap: those that it had, and
after an environment call those with the result of one service, which is executed
for nobody.  The result is the number of a code, sign-extended. -/
inductive Kernel.Repays {capacity levels : Nat} (k : Kernel capacity levels) (r : RegisterFile) :
    TrapCause → RegisterFile → Prop where
  | call (code : Word) (result : ResultCode) (served : Kernel capacity levels)
    (hserve : (k.serve none (r.get .a7) (r.get .a0)).result = .ok (result, served)) :
    Repays k r (.environmentCall code) (r.answered (BitVec.ofInt 64 result.value))
  | other (cause : TrapCause) (hcause : ∀ code, cause ≠ .environmentCall code) :
    Repays k r cause r

namespace Kernel.Repays

variable {capacity levels : Nat} {k : Kernel capacity levels} {r q : RegisterFile}
variable {cause : TrapCause}

theorem sp_eq (h : k.Repays r cause q) : q.sp = r.sp := by
  cases h with
  | call code result served hserve => exact RegisterFile.sp_answered
  | other cause hcause => rfl

/-- A service has one result. -/
theorem eq_answered {code : Word} {result : ResultCode} {served : Kernel capacity levels}
    (h : k.Repays r (.environmentCall code) q)
    (hserve : (k.serve none (r.get .a7) (r.get .a0)).result = .ok (result, served)) :
    q = r.answered (BitVec.ofInt 64 result.value) := by
  cases h with
  | call code result' served' hserve' =>
    rw [hserve] at hserve'
    cases hserve'
    rfl
  | other cause hcause => exact absurd rfl (hcause code)

/-- The status of the interrupted handler does not matter. -/
theorem of_status {status : Word} (h : k.Repays { r with status := status } cause q)
    (l : FrameLayout) : ∃ q', k.Repays r cause q' ∧ RegisterFile.Agree l q' q := by
  cases h with
  | call code result served hserve =>
    exact ⟨_, .call code result served hserve, RegisterFile.agree_status _ _ _⟩
  | other cause hcause => exact ⟨r, .other cause hcause, RegisterFile.agree_status _ _ _⟩

end Kernel.Repays

/-- The moves that are a handler's own: calls, work on registers and on the stacks of
tasks, and work on the interrupt stack below an address. -/
def Move.Own (floor base : Nat) : Move → Prop
  | .call _ | .work _ | .write .. => True
  | .writeInterrupt index _ => base + 8 * index < floor
  | .enter .. | .dispatch _ | .exit | .trap .. => False

namespace Machine

variable {capacity levels : Nat} {σ : Type} {cfg : Config} {handlers : Handlers σ capacity levels}
variable {m m' : Machine capacity levels} {s s' : σ} {floor n : Nat} {context : TrapContext}
variable {fsp : Word} {q r : RegisterFile} {region : StackRegion}
variable {answer : Except FatalTrap Unit}

/-! ## The phases of a nested trap -/

/-- An environment call neither moves the interrupt stack nor leaves a trap. -/
theorem samePlace_environmentCall {frame : SavedFrame} {called : Except FrameError Unit}
    (h : (m.environmentCall cfg frame).result = .ok (called, m')) :
    m.interruptStack.SamePlace m'.interruptStack ∧ m'.nesting = m.nesting := by
  cases hcall : m.frameCall cfg frame with
  | error e =>
    rw [environmentCall_of_error hcall] at h
    cases h
    exact ⟨.refl _ _, rfl⟩
  | ok call =>
    rw [environmentCall_eq hcall] at h
    obtain ⟨⟨code, served⟩, -, h⟩ := Traced.bind_eq_ok.1 h
    obtain rfl := congrArg Prod.snd (Except.ok.inj h)
    cases frame with
    | idle => exact ⟨.refl _ _, rfl⟩
    | nested sp => exact ⟨samePlace_answerCall .., rfl⟩
    | task id sp =>
      simp only [withFrame]
      split <;> exact ⟨.refl _ _, rfl⟩

/-- A nested entry is refused and leaves the interrupt stack alone, or it pushes a
frame below the stack pointer and moves there. -/
theorem entry_nested_cases {entered : Except FatalTrap TrapContext} (hnesting : 0 < m.nesting)
    (h : (m.entry cfg).result = .ok (entered, m')) :
    (∃ d, entered = .error d ∧ m'.interruptStack = m.interruptStack ∧ m'.nesting = m.nesting) ∨
      ∃ cause fsp, entered = .ok ⟨cause, .nested fsp⟩ ∧
        (cfg.layouts.interrupted.save m.hart.regs m.interruptStack m.hart.regs.sp).result =
          .ok (.ok fsp, m'.interruptStack) ∧
        m'.hart = m.hart.setSp fsp ∧ m'.nesting = m.nesting + 1 := by
  cases enters_of_entry h with
  | unsaved e => exact .inl ⟨_, rfl, rfl, rfl⟩
  | uninstalled e hzero => exact absurd hzero hnesting.ne'
  | entered hsaves hinstalls =>
    have hdepth := hsaves.nesting
    cases hsaves with
    | handler sp stack _ hsave =>
      cases hinstalls with
      | nested => exact .inr ⟨_, sp, rfl, hsave, rfl, rfl⟩
      | outermost _ _ hzero => exact absurd (hdepth.symm.trans hzero) hnesting.ne'
    | idle hzero | task _ _ _ hzero => exact absurd hzero hnesting.ne'

/-- An outermost entry moves to the word of the background stack pointer. -/
theorem entry_outermost_cases (hnesting : m.nesting = 0)
    (h : (m.entry cfg).result = .ok (.ok context, m')) :
    m'.backgroundSlot = .ok m'.hart.regs.sp ∧ m'.nesting = 1 := by
  have hdepth := (entry_cases h).2.2.1
  refine ⟨?_, by omega⟩
  cases enters_of_entry h with
  | @entered frame m₁ _ hsaves hinstalls =>
    have hnesting₁ := hsaves.nesting.trans hnesting
    cases hinstalls with
    | nested hnested => omega
    | outermost slot stack _ hslot hwrite =>
      have htop : stack.alignedTop = m₁.interruptStack.alignedTop := by
        rw [← m₁.interruptStack.alignedTop_write slot (backgroundSp frame), hwrite]
      simp only [deepen, updateStats, setSp, Hart.setSp, Hart.updateRegs, RegisterFile.sp_setSp]
      rw [← hslot]
      simp only [backgroundSlot, htop]

/-- Dispatch leaves the interrupt stack alone, except that an environment call
answers in a frame. -/
theorem interruptStack_dispatch
    (h : (m.dispatch cfg handlers s context).result = .ok (answer, m', s'))
    (hcause : ∀ code, context.cause ≠ .environmentCall code) :
    m'.interruptStack = m.interruptStack ∧ m'.nesting = m.nesting := by
  unfold dispatch at h
  split at h
  · cases h
    exact ⟨rfl, rfl⟩
  · obtain ⟨⟨kernel, s₁⟩, -, h⟩ := Traced.bind_eq_ok.1 h
    cases h
    exact ⟨rfl, rfl⟩
  · obtain ⟨⟨kernel, s₁⟩, -, h⟩ := Traced.bind_eq_ok.1 h
    cases h
    exact ⟨rfl, rfl⟩
  · rename_i code hcall
    exact absurd hcall (hcause code)
  · cases h
    exact ⟨rfl, rfl⟩

/-- Dispatching an environment call does to the interrupt stack what executing it
does. -/
theorem interruptStack_dispatch_call {frame : SavedFrame} {code : Word}
    (h : (m.dispatch cfg handlers s ⟨.environmentCall code, frame⟩).result =
      .ok (answer, m', s')) :
    ∃ called m₁, ((m.updateStats fun s => { s with
        environmentCalls := s.environmentCalls + 1 }).environmentCall cfg frame).result =
          .ok (called, m₁) ∧
      m'.interruptStack = m₁.interruptStack ∧ m'.nesting = m₁.nesting := by
  obtain ⟨⟨called, m₁⟩, hcall, h⟩ := Traced.bind_eq_ok.1 h
  refine ⟨called, m₁, hcall, ?_⟩
  cases called with
  | error e =>
    cases h
    exact ⟨rfl, rfl⟩
  | ok u =>
    cases h
    exact ⟨rfl, rfl⟩

/-- Dispatch neither moves the interrupt stack nor leaves a trap. -/
theorem samePlace_dispatch
    (h : (m.dispatch cfg handlers s context).result = .ok (answer, m', s')) :
    m.interruptStack.SamePlace m'.interruptStack ∧ m'.nesting = m.nesting := by
  obtain ⟨cause, frame⟩ := context
  by_cases hcause : ∃ code, cause = .environmentCall code
  · obtain ⟨code, rfl⟩ := hcause
    obtain ⟨called, m₁, hcall, hstack, hnesting⟩ := interruptStack_dispatch_call h
    obtain ⟨hplace, hnesting₁⟩ := samePlace_environmentCall hcall
    rw [← hstack] at hplace
    exact ⟨hplace, hnesting.trans hnesting₁⟩
  · obtain ⟨hstack, hnesting⟩ := interruptStack_dispatch h fun code hcode => hcause ⟨code, hcode⟩
    exact ⟨hstack ▸ .refl _ _, hnesting⟩

/-! ## A handler that was interrupted -/

/-- A nested trap is being handled at level `n + 1`.  Its frame holds registers, and
above it the interrupt stack is as it was when the trap was taken. -/
structure Guards (cfg : Config) (region : StackRegion) (n : Nat) (fsp : Word) (q : RegisterFile)
    (m : Machine capacity levels) : Prop where
  stores : cfg.layouts.interrupted.Stores m.interruptStack fsp q
  place : fsp.toNat + cfg.layouts.interrupted.frameSize = q.sp.toNat
  above : StackRegion.AgreeFrom q.sp.toNat region m.interruptStack
  depth : m.nesting = n + 1

theorem guards_of_entry (hnesting : 0 < m.nesting)
    (h : (m.entry cfg).result = .ok (.ok context, m')) :
    context.frame = .nested m'.hart.regs.sp ∧
      m'.Guards cfg m.interruptStack m.nesting m'.hart.regs.sp m.hart.regs := by
  rcases entry_nested_cases hnesting h with
    ⟨d, hrefused, -⟩ | ⟨cause, fsp, hentered, hsave, hhart, hdepth⟩
  · cases hrefused
  · cases hentered
    have hsp : m'.hart.regs.sp = fsp := by
      rw [hhart]
      exact RegisterFile.sp_setSp _ _
    have hvalid := cfg.valid_layout .interrupted
    rw [hsp]
    exact ⟨rfl, FrameLayout.stores_of_save hvalid hsave,
      (FrameLayout.frameAt_of_save hvalid hsave).2.2.1,
      FrameLayout.agreeFrom_of_save hvalid hsave, hdepth⟩

namespace Guards

/-- Work below the frame does not matter. -/
theorem of_agreeFrom (h : m.Guards cfg region n fsp q) (hdepth : m'.nesting = m.nesting)
    (hagree : StackRegion.AgreeFrom fsp.toNat m.interruptStack m'.interruptStack) :
    m'.Guards cfg region n fsp q where
  stores := h.stores.of_agreeFrom hagree le_rfl
  place := h.place
  above := h.above.trans (hagree.mono (by have hplace := h.place; omega))
  depth := hdepth.trans h.depth

/-- Dispatch may leave a result in the frame. -/
theorem dispatch (h : m.Guards cfg region n fsp q) (hframe : context.frame = .nested fsp)
    (hdispatch : (m.dispatch cfg handlers s context).result = .ok (answer, m', s')) :
    ∃ q', m.kernel.Repays q context.cause q' ∧ m'.Guards cfg region n fsp q' := by
  obtain ⟨-, hdepth⟩ := samePlace_dispatch hdispatch
  by_cases hcause : ∃ code, context.cause = .environmentCall code
  · obtain ⟨cause, frame⟩ := context
    obtain ⟨code, rfl⟩ := hcause
    cases hframe
    obtain ⟨called, m₁, hcall, hstack, -⟩ := interruptStack_dispatch_call hdispatch
    obtain ⟨result, hserve, hstores, hagree⟩ := environmentCall_nested (m := m.updateStats _)
      h.stores hcall
    rw [← hstack] at hstores hagree
    refine ⟨_, .call code result m₁.kernel hserve, hstores, ?_, ?_, hdepth.trans h.depth⟩
    · rw [RegisterFile.sp_answered]
      exact h.place
    · rw [RegisterFile.sp_answered, ← h.place]
      exact (h.place ▸ h.above).trans hagree
  · have hother : ∀ code, context.cause ≠ .environmentCall code :=
      fun code hcode => hcause ⟨code, hcode⟩
    obtain ⟨hstack, -⟩ := interruptStack_dispatch hdispatch hother
    exact ⟨q, .other _ hother, h.of_agreeFrom hdepth (hstack ▸ .refl _ _)⟩

/-- A nested trap can be left by a handler that is back at its frame. -/
theorem exists_exit (handlers : Handlers σ capacity levels) (h : m.Guards cfg region n fsp q)
    (hn : 0 < n) (hsp : m.hart.regs.sp = fsp) (s : σ) :
    ∃ m', (m.exit cfg handlers s).result = .ok (.ok (), m', s) ∧ m'.kernel = m.kernel ∧
      m'.nesting = n ∧ m'.interruptStack = m.interruptStack ∧
      RegisterFile.Agree cfg.layouts.interrupted q m'.hart.regs := by
  obtain ⟨hzero, hstack⟩ := FrameLayouts.notMem_standard cfg.includeFp .interrupted
  obtain ⟨q', hrestore, hslots⟩ := h.stores.restore (cfg.valid_layout .interrupted)
    hzero m.hart.regs
  have hdepth := h.depth
  have hback : BitVec.ofNat 64 (fsp.toNat + cfg.layouts.interrupted.frameSize) = q.sp := by
    rw [h.place, BitVec.ofNat_toNat, BitVec.setWidth_eq]
  rw [hback] at hrestore
  refine ⟨({ m with nesting := n, hart := { m.hart with regs := q' } } :
    Machine capacity levels).setSp q.sp, ?_, rfl, rfl, rfl, ?_, fun slot hslot _ => ?_⟩
  · unfold exit exitNested
    rw [Traced.result_bind, Traced.result_lift, Panic.require_of (by omega), ok_bind]
    simp only [hdepth, Nat.add_sub_cancel, hn, if_true, hsp, Traced.result_bind, hrestore, ok_bind]
    rfl
  · exact RegisterFile.sp_setSp _ _
  · have hne : slot ≠ .sp := fun e => hstack (e ▸ hslot)
    change (q'.setSp q.sp).get slot = q.get slot
    rw [← RegisterFile.set_sp, RegisterFile.get_set_of_ne hne]
    exact hslots slot hslot

end Guards

/-! ## What a handler may do -/

/-- A handler goes from one state to another.  It makes moves of its own and is
interrupted by traps, which are left again: when such a trap is taken the stack
pointer is not above `floor`, and the handler of the trap hands its own stack
pointer back as it got it from entry.  It does not matter whether dispatch finds
such a trap fatal, nor whether others are fatal on entry. -/
inductive Handling (cfg : Config) (handlers : Handlers σ capacity levels) :
    Nat → Machine capacity levels → σ → Machine capacity levels → σ → Prop where
  | done (floor : Nat) (m : Machine capacity levels) (s : σ) : Handling cfg handlers floor m s m s
  | own {floor : Nat} {m m₁ m₂ : Machine capacity levels} {s s₁ s₂ : σ} {mv : Move} {ok : Bool}
    (h : Handling cfg handlers floor m s m₁ s₁) (hown : mv.Own floor m₁.interruptStack.base)
    (hmove : (m₁.move cfg handlers s₁ mv).result = .ok (.ok ok, m₂, s₂)) :
    Handling cfg handlers floor m s m₂ s₂
  | refused {floor : Nat} {m m₁ m₂ : Machine capacity levels} {s s₁ : σ} {hart : Hart}
    {d : FatalTrap} (h : Handling cfg handlers floor m s m₁ s₁)
    (hentry : (({ m₁ with hart := hart } : Machine capacity levels).entry cfg).result =
      .ok (.error d, m₂)) :
    Handling cfg handlers floor m s m₂ s₁
  | trap {floor : Nat} {m m₁ m₂ m₃ m₄ m₅ m₆ : Machine capacity levels} {s s₁ s₃ s₄ s₅ s₆ : σ}
    {cause : TrapCause} {value : Word} {hart : Hart} {context : TrapContext}
    {answer : Except FatalTrap Unit}
    (h : Handling cfg handlers floor m s m₁ s₁) (hsp : m₁.hart.regs.sp.toNat ≤ floor)
    (hraise : (m₁.hart.raise cfg cause value).result = .ok hart)
    (hentry : (({ m₁ with hart := hart } : Machine capacity levels).entry cfg).result =
      .ok (.ok context, m₂))
    (hbefore : Handling cfg handlers m₂.hart.regs.sp.toNat m₂ s₁ m₃ s₃)
    (hdispatch : (m₃.dispatch cfg handlers s₃ context).result = .ok (answer, m₄, s₄))
    (hafter : Handling cfg handlers m₂.hart.regs.sp.toNat m₄ s₄ m₅ s₅)
    (hback : m₅.hart.regs.sp = m₂.hart.regs.sp)
    (hexit : (m₅.exit cfg handlers s₅).result = .ok (.ok (), m₆, s₆)) :
    Handling cfg handlers floor m s { m₆ with hart := m₆.hart.exceptionReturn cfg } s₆

/-- A move of its own keeps a handler at its level and below its address. -/
theorem move_own {mv : Move} {ok : Bool} (hown : mv.Own floor m.interruptStack.base)
    (hmove : (m.move cfg handlers s mv).result = .ok (.ok ok, m', s')) :
    m'.nesting = m.nesting ∧
      StackRegion.AgreeFrom floor m.interruptStack m'.interruptStack := by
  cases move_cases hmove with
  | call | work | write => exact ⟨rfl, .refl _ _⟩
  | writeInterrupt index v => exact ⟨rfl, StackRegion.agreeFrom_put v hown⟩
  | enter | dispatch | exit | trap => exact hown.elim

/-- A trap that was entered, dispatched and handled is guarded to the end if handling
keeps a handler at its level and below its address. -/
theorem guards_of_handled {m₁ m₂ m₃ m₄ : Machine capacity levels} {s₂ s₃ : σ}
    (hnesting : 0 < m.nesting) (hentry : (m.entry cfg).result = .ok (.ok context, m₁))
    (hbefore : m₂.nesting = m₁.nesting ∧ StackRegion.AgreeFrom m₁.hart.regs.sp.toNat
      m₁.interruptStack m₂.interruptStack)
    (hdispatch : (m₂.dispatch cfg handlers s₂ context).result = .ok (answer, m₃, s₃))
    (hafter : m₄.nesting = m₃.nesting ∧ StackRegion.AgreeFrom m₁.hart.regs.sp.toNat
      m₃.interruptStack m₄.interruptStack) :
    ∃ q, m₂.kernel.Repays m.hart.regs context.cause q ∧
      m₄.Guards cfg m.interruptStack m.nesting m₁.hart.regs.sp q := by
  obtain ⟨hframe, hguards⟩ := guards_of_entry hnesting hentry
  have hreached := hguards.of_agreeFrom hbefore.1 hbefore.2
  obtain ⟨q, hrepays, hdispatched⟩ := hreached.dispatch hframe hdispatch
  exact ⟨q, hrepays, hdispatched.of_agreeFrom hafter.1 hafter.2⟩

/-- A handler stays at its level, and leaves the interrupt stack alone from its
address upward. -/
theorem Handling.keeps (h : Handling cfg handlers floor m s m' s') (hnesting : 0 < m.nesting) :
    m'.nesting = m.nesting ∧
      StackRegion.AgreeFrom floor m.interruptStack m'.interruptStack := by
  induction h with
  | done floor m s => exact ⟨rfl, .refl _ _⟩
  | own h hown hmove ih =>
    obtain ⟨hdepth, hagree⟩ := ih hnesting
    obtain ⟨hdepth', hagree'⟩ := move_own hown hmove
    exact ⟨hdepth'.trans hdepth, hagree.trans hagree'⟩
  | @refused floor m m₁ m₂ s s₁ hart d h hentry ih =>
    obtain ⟨hdepth, hagree⟩ := ih hnesting
    rcases entry_nested_cases (m := { m₁ with hart := hart }) (hdepth ▸ hnesting) hentry with
      ⟨d', -, hstack, hdepth'⟩ | ⟨cause, fsp, hentered, -⟩
    · exact ⟨hdepth'.trans hdepth, hstack ▸ hagree⟩
    · cases hentered
  | @trap floor m m₁ m₂ m₃ m₄ m₅ m₆ s s₁ s₃ s₄ s₅ s₆ cause value hart context answer h hsp hraise
      hentry hbefore hdispatch hafter hback hexit ih ihbefore ihafter =>
    obtain ⟨hdepth, hagree⟩ := ih hnesting
    have hdepth₂ := (entry_cases hentry).2.2.1
    dsimp only at hdepth₂
    have hdepth₃ := (ihbefore (by omega)).1
    have hdepth₄ := (samePlace_dispatch hdispatch).2
    obtain ⟨q, hrepays, hguards⟩ := guards_of_handled (m := { m₁ with hart := hart })
      (hdepth ▸ hnesting) hentry (ihbefore (by omega)) hdispatch (ihafter (by omega))
    obtain ⟨m', hexit', -, hdepth', hstack', -⟩ :=
      hguards.exists_exit handlers (hdepth ▸ hnesting) hback s₅
    rw [hexit] at hexit'
    cases hexit'
    have hsame : hart.regs.sp = m₁.hart.regs.sp := Hart.sp_raise hraise
    have habove := hguards.above.mono (b := floor) (by rw [hrepays.sp_eq]; exact hsame ▸ hsp)
    refine ⟨hdepth'.trans hdepth, hagree.trans ?_⟩
    rw [← hstack'] at habove
    exact habove

/-! ## A nested trap from beginning to end -/

/-- A handler is at work that got `floor` as its stack pointer from entry.  On the way
every handler that was interrupted had a stack pointer not above its own. -/
inductive AtWork (cfg : Config) (handlers : Handlers σ capacity levels) :
    Nat → Machine capacity levels → σ → Prop where
  | outermost {m m' : Machine capacity levels} (s : σ) {context : TrapContext}
    (hnesting : m.nesting = 0) (hentry : (m.entry cfg).result = .ok (.ok context, m')) :
    AtWork cfg handlers m'.hart.regs.sp.toNat m' s
  | nested {floor : Nat} {m m' : Machine capacity levels} {s : σ} {cause : TrapCause}
    {value : Word} {hart : Hart} {context : TrapContext} (h : AtWork cfg handlers floor m s)
    (hsp : m.hart.regs.sp.toNat ≤ floor)
    (hraise : (m.hart.raise cfg cause value).result = .ok hart)
    (hentry : (({ m with hart := hart } : Machine capacity levels).entry cfg).result =
      .ok (.ok context, m')) :
    AtWork cfg handlers m'.hart.regs.sp.toNat m' s
  | dispatch {floor : Nat} {m m' : Machine capacity levels} {s s' : σ} {context : TrapContext}
    {answer : Except FatalTrap Unit} (h : AtWork cfg handlers floor m s)
    (hdispatch : (m.dispatch cfg handlers s context).result = .ok (answer, m', s')) :
    AtWork cfg handlers floor m' s'
  | handling {floor : Nat} {m m' : Machine capacity levels} {s s' : σ}
    (h : AtWork cfg handlers floor m s) (hhandling : Handling cfg handlers floor m s m' s') :
    AtWork cfg handlers floor m' s'

/-- A handler is at work below the word of the background stack pointer. -/
theorem AtWork.below_slot (h : AtWork cfg handlers floor m s) :
    0 < m.nesting ∧ ∃ slot, m.backgroundSlot = .ok slot ∧ floor ≤ slot.toNat := by
  induction h with
  | outermost s hnesting hentry =>
    obtain ⟨hslot, hdepth⟩ := entry_outermost_cases hnesting hentry
    exact ⟨by omega, _, hslot, le_rfl⟩
  | @nested floor m m' s cause value hart context h hsp hraise hentry ih =>
    obtain ⟨hpos, slot, hslot, hle⟩ := ih
    obtain ⟨-, hguards⟩ := guards_of_entry (m := { m with hart := hart }) hpos hentry
    have hsame : hart.regs.sp = m.hart.regs.sp := Hart.sp_raise hraise
    have hplace := hguards.place
    have hdepth := hguards.depth
    dsimp only at hplace hdepth
    rw [hsame] at hplace
    refine ⟨by omega, slot, ?_, by omega⟩
    rw [backgroundSlot, hguards.above.alignedTop]
    exact hslot
  | dispatch h hdispatch ih =>
    obtain ⟨hpos, slot, hslot, hle⟩ := ih
    obtain ⟨hplace, hdepth⟩ := samePlace_dispatch hdispatch
    refine ⟨hdepth ▸ hpos, slot, ?_, hle⟩
    rw [backgroundSlot, hplace.alignedTop]
    exact hslot
  | handling h hhandling ih =>
    obtain ⟨hpos, slot, hslot, hle⟩ := ih
    obtain ⟨hdepth, hagree⟩ := hhandling.keeps hpos
    refine ⟨hdepth ▸ hpos, slot, ?_, hle⟩
    rw [backgroundSlot, hagree.alignedTop]
    exact hslot

/-- After a nested trap the nesting level, the registers of the interrupted handler
and the interrupt stack from its stack pointer upward are as before, and leaving
the trap leaves the kernel alone.  This does not depend on the answer of dispatch. -/
theorem AtWork.trap_balanced (h : AtWork cfg handlers floor m s)
    (hsp : m.hart.regs.sp.toNat ≤ floor) {cause : TrapCause} {value : Word} {hart : Hart}
    (hraise : (m.hart.raise cfg cause value).result = .ok hart)
    {m₁ m₂ m₃ m₄ : Machine capacity levels} {s₂ s₃ s₄ : σ}
    (hentry : (({ m with hart := hart } : Machine capacity levels).entry cfg).result =
      .ok (.ok context, m₁))
    (hbefore : Handling cfg handlers m₁.hart.regs.sp.toNat m₁ s m₂ s₂)
    (hdispatch : (m₂.dispatch cfg handlers s₂ context).result = .ok (answer, m₃, s₃))
    (hafter : Handling cfg handlers m₁.hart.regs.sp.toNat m₃ s₃ m₄ s₄)
    (hback : m₄.hart.regs.sp = m₁.hart.regs.sp) :
    ∃ m₅ slot, (m₄.exit cfg handlers s₄).result = .ok (.ok (), m₅, s₄) ∧
      m₅.kernel = m₄.kernel ∧ m₅.nesting = m.nesting ∧
      StackRegion.AgreeFrom m.hart.regs.sp.toNat m.interruptStack m₅.interruptStack ∧
      m.backgroundSlot = .ok slot ∧ m₅.backgroundSlot = .ok slot ∧
      m₅.interruptStack.read slot = m.interruptStack.read slot ∧
      ∃ q, m₂.kernel.Repays m.hart.regs cause q ∧
        ∀ s ∈ cfg.registers, (m₅.hart.exceptionReturn cfg).regs.get s = q.get s := by
  obtain ⟨hpos, slot, hslot, hle⟩ := h.below_slot
  obtain ⟨-, -, -, hregs⟩ := Hart.raise_cases hraise
  have hsame : hart.regs.sp = m.hart.regs.sp := Hart.sp_raise hraise
  have hdepth₁ := (entry_cases hentry).2.2.1
  have hcause : context.cause = cause := (entry_cases hentry).1.trans (Hart.decode_raise hraise)
  dsimp only at hdepth₁
  have hkept := hbefore.keeps (by omega)
  have hdepth₃ := (samePlace_dispatch hdispatch).2
  obtain ⟨q, hrepays, hguards⟩ := guards_of_handled (m := { m with hart := hart }) hpos hentry hkept
    hdispatch (hafter.keeps (by omega))
  obtain ⟨m₅, hexit, hkernel, hdepth, hstack, hagree⟩ :=
    hguards.exists_exit handlers hpos hback s₄
  have habove : StackRegion.AgreeFrom m.hart.regs.sp.toNat m.interruptStack m₅.interruptStack := by
    have habove := hguards.above
    rw [hrepays.sp_eq, ← hstack] at habove
    exact hsame ▸ habove
  refine ⟨m₅, slot, hexit, hkernel, hdepth, habove, hslot, ?_, habove.read (hsp.trans hle), ?_⟩
  · rw [backgroundSlot, habove.alignedTop]
    exact hslot
  · rw [hcause] at hrepays
    dsimp only at hrepays
    rw [hregs] at hrepays
    obtain ⟨q', hrepays', hstatus⟩ := hrepays.of_status cfg.layouts.interrupted
    have hreturned : RegisterFile.Agree cfg.layouts.interrupted q'
        (m₅.hart.exceptionReturn cfg).regs :=
      (hstatus.trans hagree).trans (RegisterFile.agree_status _ _ _)
    exact ⟨q', hrepays', fun s hs => hreturned.get_eq hs⟩

/-- The handler of a trap that the idle loop has taken asks to be blocked, which is
refused since it is no task.  The handler of the call changes all registers but its
stack pointer.  Afterwards the first handler goes on behind its call, with the number
-25 of the refusal. -/
theorem AtWork.trap_balanced_call :
    ∃ (m m₁ m₃ m₅ : Machine 4 4) (hart : Hart) (slot : Word),
      AtWork (Config.machine false) (Handlers.default : Handlers Unit 4 4)
        m.hart.regs.sp.toNat m () ∧
      m.hart.regs.get .a7 = 1 ∧
      (m.hart.raise (Config.machine false) (.environmentCall 11) 0).result = .ok hart ∧
      (({ m with hart := hart } : Machine 4 4).entry (Config.machine false)).result =
        .ok (.ok ⟨.environmentCall 11, .nested 0x400000e0⟩, m₁) ∧
      (m₁.dispatch (Config.machine false) Handlers.default ()
        ⟨.environmentCall 11, .nested 0x400000e0⟩).result = .ok (.ok (), m₃, ()) ∧
      (({ m₃ with hart := small.hart.setSp m₁.hart.regs.sp } : Machine 4 4).exit
        (Config.machine false) Handlers.default ()).result = .ok (.ok (), m₅, ()) ∧
      m₅.kernel = m₃.kernel ∧ m₅.nesting = m.nesting ∧
      StackRegion.AgreeFrom m.hart.regs.sp.toNat m.interruptStack m₅.interruptStack ∧
      m.backgroundSlot = .ok slot ∧ m₅.backgroundSlot = .ok slot ∧
      m₅.interruptStack.read slot = m.interruptStack.read slot ∧
      (m₅.hart.exceptionReturn (Config.machine false)).regs.get .a0 = 0xffffffffffffffe7 ∧
      ∀ s ∈ (Config.machine false).registers,
        (m₅.hart.exceptionReturn (Config.machine false)).regs.get s =
          (m.hart.regs.answered 0xffffffffffffffe7).get s := by
  obtain ⟨⟨answer, m⟩, htake, hm⟩ := exists_of_ends
    (x := ({ small with hart := small.hart.updateRegs fun r => r.set .a7 1 } : Machine 4 4).take
      (Config.machine false) .software 0)
    (p := fun b => decide (b.1 = .ok ⟨.software, .idle⟩ ∧ b.2.hart.regs.get .a7 = 1) &&
      ends (b.2.hart.raise (Config.machine false) (.environmentCall 11) 0) fun hart =>
        ends (({ b.2 with hart := hart } : Machine 4 4).entry (Config.machine false)) fun c =>
          decide (c.1 = .ok ⟨.environmentCall 11, .nested 0x400000e0⟩) &&
          (ends (c.2.kernel.serve none (b.2.hart.regs.get .a7) (b.2.hart.regs.get .a0))
            (fun a => decide (a.1 = .badContext)) &&
          returns (c.2.dispatch (Config.machine false) (Handlers.default : Handlers Unit 4 4) ()
            ⟨.environmentCall 11, .nested 0x400000e0⟩) fun _ => true)) (by decide +kernel)
  rw [Bool.and_eq_true, decide_eq_true_iff] at hm
  obtain ⟨⟨rfl, hnumber⟩, hraise⟩ := hm
  obtain ⟨hart, hraise, hentry⟩ := exists_of_ends hraise
  obtain ⟨⟨entered, m₁⟩, hentry, hm₁⟩ := exists_of_ends hentry
  rw [Bool.and_eq_true, Bool.and_eq_true, decide_eq_true_iff] at hm₁
  obtain ⟨rfl, hserved, hdispatch⟩ := hm₁
  obtain ⟨⟨result, served⟩, hserve, hresult⟩ := exists_of_ends hserved
  obtain rfl : result = .badContext := of_decide_eq_true hresult
  obtain ⟨⟨m₃, u⟩, hdispatch, -⟩ := exists_of_returns hdispatch
  obtain ⟨hart₀, -, hentry₀⟩ := Traced.bind_eq_ok.1 htake
  have hatWork : AtWork (Config.machine false) (Handlers.default : Handlers Unit 4 4)
      m.hart.regs.sp.toNat m () := .outermost () rfl hentry₀
  have hback : (small.hart.setSp m₁.hart.regs.sp).regs.sp = m₁.hart.regs.sp :=
    RegisterFile.sp_setSp _ _
  have hown : (Move.work (small.hart.setSp m₁.hart.regs.sp)).Own m₁.hart.regs.sp.toNat
      m₃.interruptStack.base := trivial
  have hclobber : Handling (Config.machine false) Handlers.default m₁.hart.regs.sp.toNat m₃ ()
      { m₃ with hart := small.hart.setSp m₁.hart.regs.sp } () := .own (.done _ _ _) hown rfl
  obtain ⟨m₅, slot, hexit, hkernel, hdepth, habove, hslot, hslot₅, hread, q, hrepays, hregs⟩ :=
    hatWork.trap_balanced le_rfl hraise hentry (.done _ _ _) hdispatch hclobber hback
  obtain rfl : q = m.hart.regs.answered 0xffffffffffffffe7 := hrepays.eq_answered hserve
  exact ⟨m, m₁, m₃, m₅, hart, slot, hatWork, hnumber, hraise, hentry, hdispatch, hexit, hkernel,
    hdepth, habove, hslot, hslot₅, hread, (hregs .a0 (by decide)).trans RegisterFile.a0_answered,
    hregs⟩

end Machine

end HartKernel
