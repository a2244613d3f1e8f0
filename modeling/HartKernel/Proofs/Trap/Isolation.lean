import HartKernel.Proofs.Kernel.Memory
import HartKernel.Proofs.Trap.Raise
import HartKernel.Proofs.Trap.Run

/-!
# Memory isolation of traps

The stack pointer that a trap finds is any word: it may lie outside every region,
or point into the stack of another task.  Whatever it is, handling the trap
changes no memory but the frame below it on the stack that it belongs to, and
the background stack pointer.  The machine need not meet any invariant.

Main definitions:

- `Handlers.KeepStacks` says that handlers write no stack.
- `Machine.taskWords` and `Machine.interruptWords` are the addresses of the words
  that a trap may change.

Main results:

- `Machine.changesOnly_entry`, `Machine.changesOnly_dispatch` and
  `Machine.changesOnly_exit`: what the phases change, whether they are fatal or
  not.
- `Machine.trap_isolated`: a trap changes those words only, and leaves the stacks
  of all tasks but the interrupted one alone.
-/

namespace HartKernel

/-- Handlers write no stack. -/
structure Handlers.KeepStacks {σ : Type} {capacity levels : Nat}
    (handlers : Handlers σ capacity levels) : Prop where
  external : ∀ code k s k' s', (handlers.external code k s).result = .ok (k', s') →
    k.ChangesOnly (fun _ _ => False) k'
  tick : ∀ count k s k' s', (handlers.tick count k s).result = .ok (k', s') →
    k.ChangesOnly (fun _ _ => False) k'

theorem Handlers.keepStacks_default {σ : Type} {capacity levels : Nat} :
    (default : Handlers σ capacity levels).KeepStacks where
  external _ k _ _ _ h := by
    cases h
    exact .refl _ k
  tick _ k _ _ _ h := by
    cases h
    exact .refl _ k

namespace Machine

variable {capacity levels : Nat} {σ : Type} {cfg : Config} {handlers : Handlers σ capacity levels}
variable {m₀ m m' m'' : Machine capacity levels} {s s' : σ}

/-- The words of the stack of a task that a trap may change: if the trap
interrupts the task, those of a frame below the stack pointer. -/
def taskWords (cfg : Config) (m : Machine capacity levels) (id : TaskId) (a : Nat) : Prop :=
  m.nesting = 0 ∧ m.kernel.running = some id ∧ cfg.layouts.interrupted.Below m.hart.regs.sp a

/-- The words of the interrupt stack that a trap may change: the background stack
pointer if the trap is an outermost one, and otherwise those of a frame below the
stack pointer. -/
def interruptWords (cfg : Config) (m : Machine capacity levels) (a : Nat) : Prop :=
  if m.nesting = 0 then a + 16 = m.interruptStack.alignedTop
  else cfg.layouts.interrupted.Below m.hart.regs.sp a

/-- Of the stacks of tasks and of the interrupt stack only words at addresses with
a property have changed. -/
structure ChangesOnly (p : TaskId → Nat → Prop) (q : Nat → Prop) (m m' : Machine capacity levels) :
    Prop where
  kernel : m.kernel.ChangesOnly p m'.kernel
  interruptStack : m.interruptStack.ChangesOnly q m'.interruptStack

namespace ChangesOnly

variable {p : TaskId → Nat → Prop} {q : Nat → Prop}

theorem refl (p : TaskId → Nat → Prop) (q : Nat → Prop) (m : Machine capacity levels) :
    m.ChangesOnly p q m :=
  ⟨.refl p m.kernel, .refl q m.interruptStack⟩

theorem trans (h : m.ChangesOnly p q m') (h' : m'.ChangesOnly p q m'') : m.ChangesOnly p q m'' :=
  ⟨h.kernel.trans h'.kernel, h.interruptStack.trans h'.interruptStack⟩

theorem of_kernel (h : m.kernel.ChangesOnly p m'.kernel)
    (hstack : m'.interruptStack = m.interruptStack) : m.ChangesOnly p q m' :=
  ⟨h, hstack ▸ .refl q m.interruptStack⟩

end ChangesOnly

/-! ## Entry -/

/-- A saved frame ends at the stack pointer of the interrupted context, on the
stack that the context belongs to. -/
def SavesAt (cfg : Config) (m : Machine capacity levels) : SavedFrame → Prop
  | .idle => True
  | .nested sp =>
    m.nesting ≠ 0 ∧ sp.toNat + cfg.layouts.interrupted.frameSize = m.hart.regs.sp.toNat
  | .task id sp =>
    m.nesting = 0 ∧ m.kernel.running = some id ∧
      sp.toNat + cfg.layouts.interrupted.frameSize = m.hart.regs.sp.toNat

theorem Saves.savesAt {frame : SavedFrame} (h : m.Saves cfg (.ok frame) m') :
    m.SavesAt cfg frame := by
  cases h with
  | handler sp stack hnested hsave =>
    exact ⟨hnested.ne', (FrameLayout.frameAt_of_save (cfg.valid_layout .interrupted) hsave).2.2.1⟩
  | idle => trivial
  | task id sp k hnested hsp hrunning hsave =>
    have hsp := Kernel.sp_of_saveContext hsave
    exact ⟨hnested, hrunning, hsp⟩

/-- Saving the interrupted context changes the words of its frame only. -/
theorem Saves.changesOnly {answer : Except FatalTrap SavedFrame} (h : m.Saves cfg answer m') :
    m.ChangesOnly (m.taskWords cfg) (m.interruptWords cfg) m' := by
  cases h with
  | refused | idle => exact .refl _ _ m
  | handler sp stack hnested hsave =>
    have hvalid := cfg.valid_layout .interrupted
    refine ⟨.refl _ _, (FrameLayout.changesOnly_save hvalid hsave).mono fun a ha => ?_⟩
    rw [interruptWords, if_neg hnested.ne']
    exact ha
  | task id sp k hnested hsp hrunning hsave =>
    refine .of_kernel ((Kernel.changesOnly_saveContext hsave).mono fun j a ha => ?_) rfl
    obtain ⟨rfl, ha⟩ := ha
    exact ⟨hnested, hrunning, ha⟩

theorem backgroundSlot_add {slot : Word} (h : m.backgroundSlot = .ok slot) :
    slot.toNat + 16 = m.interruptStack.alignedTop := by
  unfold backgroundSlot at h
  split at h
  · rename_i hroom
    cases h
    have hlt : m.interruptStack.top < 0x10000000000000000 := m.interruptStack.top_lt
    have hle := alignDown_le 16 m.interruptStack.top
    rw [StackRegion.alignedTop] at hroom ⊢
    rw [BitVec.toNat_ofNat, Nat.mod_eq_of_lt (by omega)]
    omega
  · cases h

/-- Moving onto the interrupt stack changes the background stack pointer only. -/
theorem Installs.changesOnly {frame : SavedFrame} {answer : Except FatalTrap Unit}
    (h : m.Installs frame answer m') (hnesting : m.nesting = m₀.nesting)
    (htop : m.interruptStack.alignedTop = m₀.interruptStack.alignedTop) :
    m.ChangesOnly (m₀.taskWords cfg) (m₀.interruptWords cfg) m' := by
  cases h with
  | nested | refused => exact .refl _ _ m
  | outermost slot stack hnested hslot hwrite =>
    have hplace := backgroundSlot_add hslot
    have hchanges := m.interruptStack.changesOnly_write slot (backgroundSp frame)
    rw [hwrite] at hchanges
    refine ⟨.refl _ _, hchanges.mono fun a ha => ?_⟩
    rw [interruptWords, if_pos (hnesting ▸ hnested), ha, hplace, htop]

/-- Entry changes the words of the frame that it saves and the background stack
pointer only. -/
theorem changesOnly_entry {answer : Except FatalTrap TrapContext}
    (h : (m.entry cfg).result = .ok (answer, m')) :
    m.ChangesOnly (m.taskWords cfg) (m.interruptWords cfg) m' ∧
      ∀ context, answer = .ok context → m.SavesAt cfg context.frame := by
  cases enters_of_entry h with
  | unsaved e => exact ⟨.refl _ _ m, fun _ hcontext => by cases hcontext⟩
  | uninstalled e hnested hsaves =>
    exact ⟨hsaves.changesOnly, fun _ hcontext => by cases hcontext⟩
  | entered hsaves hinstalls =>
    have hsaved := hsaves.changesOnly
    have hinstalled : Machine.ChangesOnly (m.taskWords cfg) (m.interruptWords cfg) _ _ :=
      hinstalls.changesOnly hsaves.nesting hsaved.interruptStack.alignedTop
    refine ⟨hsaved.trans ⟨hinstalled.kernel, hinstalled.interruptStack⟩, ?_⟩
    intro context hcontext
    cases hcontext
    exact hsaves.savesAt

/-! ## Dispatch -/

/-- An access to the saved frame that stays within the frame. -/
theorem changesOnly_withFrame {α : Type} {frame : SavedFrame}
    {f : StackRegion → Word → Except FrameError α × StackRegion} (hframe : m₀.SavesAt cfg frame)
    (hf : ∀ (region : StackRegion) (sp : Word),
      sp.toNat + cfg.layouts.interrupted.frameSize = m₀.hart.regs.sp.toNat →
      region.ChangesOnly (cfg.layouts.interrupted.Below m₀.hart.regs.sp) (f region sp).2)
    (m : Machine capacity levels) :
    m.ChangesOnly (m₀.taskWords cfg) (m₀.interruptWords cfg) (m.withFrame frame f).2 := by
  cases frame with
  | idle => exact .refl _ _ m
  | nested sp =>
    obtain ⟨hne, hsp⟩ := hframe
    refine ⟨.refl _ _, (hf m.interruptStack sp hsp).mono fun a ha => ?_⟩
    rw [interruptWords, if_neg hne]
    exact ha
  | task id sp =>
    obtain ⟨hzero, hrunning, hsp⟩ := hframe
    simp only [withFrame]
    cases ht : m.kernel.task? id with
    | none => exact .refl _ _ m
    | some t =>
      refine .of_kernel (Kernel.changesOnly_updateTask id fun u hu => ?_) rfl
      rw [ht, Option.some.injEq] at hu
      subst hu
      exact (hf t.stack sp hsp).mono fun a ha => ⟨hzero, hrunning, ha⟩

/-- The result of a call is left in the frame of the caller. -/
theorem changesOnly_answerCall {l : FrameLayout} {fsp sp : Word}
    (hsp : fsp.toNat + l.frameSize = sp.toNat) (pc result : Word) (region : StackRegion) :
    region.ChangesOnly (l.Below sp) (answerCall l pc result region fsp).2 := by
  have hpc := l.changesOnly_writeSlot hsp region .pc (pc + 4)
  unfold answerCall
  split
  · rename_i hwrite
    rwa [hwrite] at hpc
  · rename_i hwrite
    rw [hwrite] at hpc
    exact hpc.trans (l.changesOnly_writeSlot hsp _ .a0 result)

theorem changesOnly_environmentCall {frame : SavedFrame} {answer : Except FrameError Unit}
    (hframe : m₀.SavesAt cfg frame) (h : (m.environmentCall cfg frame).result = .ok (answer, m')) :
    m.ChangesOnly (m₀.taskWords cfg) (m₀.interruptWords cfg) m' := by
  have hread := m.withFrame_read frame (readCall cfg.layouts.interrupted)
  unfold environmentCall at h
  dsimp only at h
  split at h
  · rename_i m₁ hcall
    have hm : m₁ = m := by rwa [hcall] at hread
    subst hm
    cases h
    exact .refl _ _ _
  · rename_i call m₁ hcall
    have hm : m₁ = m := by rwa [hcall] at hread
    subst hm
    obtain ⟨⟨result, kernel⟩, hserve, h⟩ := Traced.bind_eq_ok.1 h
    have hserved : m₁.ChangesOnly (m₀.taskWords cfg) (m₀.interruptWords cfg)
        { m₁ with kernel := kernel } :=
      .of_kernel (.of_sameContexts (Kernel.sameContexts_serve hserve)) rfl
    have hanswered := changesOnly_withFrame hframe
      (fun region fsp hsp => changesOnly_answerCall hsp call.pc result.toRegister region)
      { m₁ with kernel := kernel }
    refine hserved.trans ?_
    rwa [show _ = (answer, m') from Except.ok.inj h] at hanswered

/-- Dispatch changes words of the saved frame only. -/
theorem changesOnly_dispatch {context : TrapContext} {answer : Except FatalTrap Unit}
    (hkeeps : handlers.KeepStacks) (hframe : m₀.SavesAt cfg context.frame)
    (h : (m.dispatch cfg handlers s context).result = .ok (answer, m', s')) :
    m.ChangesOnly (m₀.taskWords cfg) (m₀.interruptWords cfg) m' := by
  have hnone : ∀ {k k' : Kernel capacity levels}, k.ChangesOnly (fun _ _ => False) k' →
      k.ChangesOnly (m₀.taskWords cfg) k' := fun h => h.mono fun _ _ => False.elim
  unfold dispatch at h
  split at h
  · cases h
    exact .of_kernel (.refl _ m.kernel) rfl
  · obtain ⟨⟨kernel, s₁⟩, htick, h⟩ := Traced.bind_eq_ok.1 h
    have hticked := hnone (hkeeps.tick _ _ _ _ _ htick)
    cases h
    exact .of_kernel hticked rfl
  · obtain ⟨⟨kernel, s₁⟩, hexternal, h⟩ := Traced.bind_eq_ok.1 h
    have hcalled := hnone (hkeeps.external _ _ _ _ _ hexternal)
    cases h
    exact .of_kernel hcalled rfl
  · obtain ⟨⟨called, m₁⟩, hcall, h⟩ := Traced.bind_eq_ok.1 h
    have hchanged := changesOnly_environmentCall hframe hcall
    cases called with
    | error e =>
      cases h
      exact ⟨hchanged.kernel, hchanged.interruptStack⟩
    | ok u =>
      cases h
      exact ⟨hchanged.kernel, hchanged.interruptStack⟩
  · cases h
    exact .of_kernel (.refl _ m.kernel) rfl

/-! ## Exit -/

section Exit

variable {p : TaskId → Nat → Prop} {q : Nat → Prop} {answer : Except FatalTrap Unit}

/-- Exit changes no memory. -/
theorem changesOnly_exit (h : (m.exit cfg handlers s).result = .ok (answer, m', s')) :
    m.ChangesOnly p q m' := by
  cases exits_of_exit h with
  | refused | nested => exact .of_kernel (.refl _ m.kernel) rfl
  | outermost _ hleaves _ hacts =>
    have hstack := hacts.interruptStack.trans hleaves.interruptStack
    cases hacts with
    | refused | background => exact .of_kernel (.refl _ m.kernel) hstack
    | task _ _ _ _ _ hkernel | idle _ hkernel =>
      have hsame := Kernel.sameContexts_handOver hkernel
      exact .of_kernel (.of_sameContexts (k := m.kernel) hsame) hstack

end Exit

/-! ## The whole trap -/

theorem changesOnly_phases {answer : Except FatalTrap Unit} (hkeeps : handlers.KeepStacks)
    (h : (m.phases cfg handlers s).result = .ok (answer, m', s')) :
    m.ChangesOnly (m.taskWords cfg) (m.interruptWords cfg) m' := by
  unfold phases at h
  obtain ⟨⟨entered, m₁⟩, hentry, h⟩ := Traced.bind_eq_ok.1 h
  obtain ⟨hentered, hframe⟩ := changesOnly_entry hentry
  cases entered with
  | error d =>
    cases h
    exact hentered
  | ok context =>
    obtain ⟨⟨dispatched, m₂, s₂⟩, hdispatch, h⟩ := Traced.bind_eq_ok.1 h
    have hdispatched := changesOnly_dispatch hkeeps (hframe context rfl) hdispatch
    cases dispatched with
    | error d =>
      cases h
      exact hentered.trans hdispatched
    | ok u => exact (hentered.trans hdispatched).trans (changesOnly_exit h)

/-- A trap that does not panic, fatal or not, changes only the words of a frame
below the stack pointer on the stack of the context that it interrupts, and the
background stack pointer if it is an outermost trap.  In particular it leaves the
stacks of all other tasks alone, wherever the stack pointer points. -/
theorem trap_isolated {cause : TrapCause} {value : Word} {answer : Except FatalTrap Unit}
    (hkeeps : handlers.KeepStacks)
    (h : (m.trap cfg handlers s cause value).result = .ok (answer, m', s')) :
    m.ChangesOnly (m.taskWords cfg) (m.interruptWords cfg) m' ∧
      ∀ id t, m.kernel.task? id = some t → ¬(m.nesting = 0 ∧ m.kernel.running = some id) →
        ∃ t', m'.kernel.task? id = some t' ∧ t'.stack = t.stack := by
  obtain ⟨hart, hraise, h⟩ := Traced.bind_eq_ok.1 h
  obtain ⟨u, -, h⟩ := Traced.bind_eq_ok.1 h
  obtain ⟨⟨phased, m₁, s₁⟩, hphases, h⟩ := Traced.bind_eq_ok.1 h
  have hchanged := changesOnly_phases hkeeps hphases
  -- taking the trap does not change the stack pointer, which the footprint depends on
  have htask : ({ m with hart := hart } : Machine capacity levels).taskWords cfg =
      m.taskWords cfg := by
    funext id a
    simp only [taskWords, Hart.sp_raise hraise]
  have hinterrupt : ({ m with hart := hart } : Machine capacity levels).interruptWords cfg =
      m.interruptWords cfg := by
    funext a
    simp only [interruptWords, Hart.sp_raise hraise]
  rw [htask, hinterrupt] at hchanged
  have hisolated : m.ChangesOnly (m.taskWords cfg) (m.interruptWords cfg) m' := by
    cases phased with
    | error d =>
      obtain ⟨v, -, h⟩ := Traced.bind_eq_ok.1 h
      cases h
      exact ⟨hchanged.kernel, hchanged.interruptStack⟩
    | ok v =>
      cases h
      exact ⟨hchanged.kernel, hchanged.interruptStack⟩
  refine ⟨hisolated, fun id t ht hother => hisolated.kernel.exists_stack_eq ht fun a ha => ?_⟩
  exact hother ⟨ha.1, ha.2.1⟩

/-- The first task calls to be blocked: its context and the background stack
pointer are written. -/
theorem trap_isolated_block :
    ∃ m m' : Machine 4 4,
      (Handlers.default : Handlers Unit 4 4).KeepStacks ∧
      (m.trap (Config.machine false) Handlers.default () (.environmentCall 11) 0).result =
        .ok (.ok (), m', ()) ∧
      (m'.kernel.task? ⟨0⟩).map Task.stack ≠ (m.kernel.task? ⟨0⟩).map Task.stack ∧
      m'.interruptStack ≠ m.interruptStack ∧
      (m.ChangesOnly (m.taskWords (Config.machine false)) (m.interruptWords (Config.machine false))
          m' ∧
        ∀ id t, m.kernel.task? id = some t → ¬(m.nesting = 0 ∧ m.kernel.running = some id) →
          ∃ t', m'.kernel.task? id = some t' ∧ t'.stack = t.stack) := by
  obtain ⟨⟨m, u⟩, -, hm⟩ := exists_of_returns
    (x := small.play (Config.machine false) Handlers.default () (Move.startTwo ++
      [.work (small.hart.updateRegs fun r => (r.setSp 0x40010200).set .a7 1)]))
    (p := fun b =>
      returns (b.1.trap (Config.machine false) Handlers.default () (.environmentCall 11) 0)
        fun b' => decide
          ((b'.1.kernel.task? ⟨0⟩).map Task.stack ≠ (b.1.kernel.task? ⟨0⟩).map Task.stack ∧
            b'.1.interruptStack ≠ b.1.interruptStack)) (by decide +kernel)
  obtain ⟨⟨m', u'⟩, htrap, hm'⟩ := exists_of_returns hm
  obtain ⟨hstack, hinterrupt⟩ := of_decide_eq_true hm'
  exact ⟨m, m', Handlers.keepStacks_default, htrap, hstack, hinterrupt,
    trap_isolated Handlers.keepStacks_default htrap⟩

end Machine

end HartKernel
