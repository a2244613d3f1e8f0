import HartKernel.Proofs.Schedule.Holding
import HartKernel.Proofs.Trap.Raise
import HartKernel.Proofs.Trap.Reach

/-!
# Outermost traps

An outermost trap interrupts the current task or the idle loop.  The context that
it has interrupted stays where entry has saved it as long as the handlers do
nothing but make calls, so that every phase of the trap goes well unless there
is a reason at the start of the phase that it cannot.

Main definitions:

- `Handlers.Scripted` says that handlers do nothing but make calls.
- `Kernel.Parks` says where the context is that an outermost trap has interrupted.
- `Machine.Installed` says that the interrupt stack is in use.
- `Machine.Placed` says that the word of the background stack pointer has an address.
- `Machine.Unsaved`, `Machine.Cramped` and `TrapContext.Unhandled` say why a phase
  cannot go well.

Main results:

- `Machine.exists_entry`, `Machine.exists_dispatch` and `Machine.exists_exit`: how
  each phase ends.
-/

namespace HartKernel

/-! ## Handlers that make calls -/

/-- Handlers make calls and do nothing else: what a handler does to the kernel is
what some list of calls does, and it goes through if the calls do. -/
structure Handlers.Scripted {σ : Type} {capacity levels : Nat} (cfg : Config)
    (allowed : KernelCall → Prop) (handlers : Handlers σ capacity levels) : Prop where
  external : ∀ code k s, ∃ (calls : List (RegisterFile × KernelCall)) (s' : σ),
    (∀ c ∈ calls, allowed c.2) ∧
      (handlers.external code k s).result = (fun k' => (k', s')) <$> (k.run cfg calls).result
  tick : ∀ count k s, ∃ (calls : List (RegisterFile × KernelCall)) (s' : σ),
    (∀ c ∈ calls, allowed c.2) ∧
      (handlers.tick count k s).result = (fun k' => (k', s')) <$> (k.run cfg calls).result

namespace Kernel

variable {capacity levels : Nat} {k k' : Kernel capacity levels} {cfg : Config} {s : Schedule}
variable {allowed : KernelCall → Prop} {calls : List (RegisterFile × KernelCall)}

/-- The calls of a list lead from one kernel to another. -/
theorem Reaches.run {k₀ : Kernel capacity levels} (h : k₀.Reaches cfg allowed k)
    (hallowed : ∀ c ∈ calls, allowed c.2) (hrun : (k.run cfg calls).result = .ok k') :
    k₀.Reaches cfg allowed k' := by
  induction calls generalizing k with
  | nil =>
    cases hrun
    exact h
  | cons c calls ih =>
    obtain ⟨⟨ok, k₁, r₁⟩, hcall, hrun⟩ := Traced.bind_eq_ok.1 hrun
    have hrest : ∀ c' ∈ calls, allowed c'.2 :=
      fun c' hc' => hallowed c' (List.mem_cons_of_mem _ hc')
    exact ih (.tail h (hallowed c List.mem_cons_self) hcall) hrest hrun

end Kernel

namespace Handlers.Scripted

variable {σ : Type} {capacity levels : Nat} {cfg : Config} {allowed : KernelCall → Prop}
variable {handlers : Handlers σ capacity levels}

theorem eq_ok_of_run {x : Except Panic (Kernel capacity levels × σ)}
    {y : Except Panic (Kernel capacity levels)} {s s' : σ} {k : Kernel capacity levels}
    (hx : x = (fun k' => (k', s')) <$> y) (h : x = .ok (k, s)) : y = .ok k := by
  rw [hx] at h
  cases y with
  | error p => cases h
  | ok k' =>
    cases h
    rfl

theorem calling (h : handlers.Scripted cfg allowed) : handlers.Calling cfg allowed where
  external code k s k' s' hresult := by
    obtain ⟨calls, s₁, hallowed, heq⟩ := h.external code k s
    exact (Kernel.Reaches.refl k).run hallowed (eq_ok_of_run heq hresult)
  tick count k s k' s' hresult := by
    obtain ⟨calls, s₁, hallowed, heq⟩ := h.tick count k s
    exact (Kernel.Reaches.refl k).run hallowed (eq_ok_of_run heq hresult)

/-- Scripted handlers go through. -/
theorem exists_external (h : handlers.Scripted cfg allowed) {k : Kernel capacity levels}
    (hwhole : k.Whole cfg) (code : Word) (s : σ) :
    ∃ k' s', (handlers.external code k s).result = .ok (k', s') := by
  obtain ⟨sch, himpl, hvalid⟩ := hwhole.scheduled
  obtain ⟨calls, s₁, -, heq⟩ := h.external code k s
  obtain ⟨k', sch', hrun, -⟩ := himpl.run hvalid cfg calls
  exact ⟨k', s₁, by rw [heq, hrun]; rfl⟩

theorem exists_tick (h : handlers.Scripted cfg allowed) {k : Kernel capacity levels}
    (hwhole : k.Whole cfg) (count : Word) (s : σ) :
    ∃ k' s', (handlers.tick count k s).result = .ok (k', s') := by
  obtain ⟨sch, himpl, hvalid⟩ := hwhole.scheduled
  obtain ⟨calls, s₁, -, heq⟩ := h.tick count k s
  obtain ⟨k', sch', hrun, -⟩ := himpl.run hvalid cfg calls
  exact ⟨k', s₁, by rw [heq, hrun]; rfl⟩

end Handlers.Scripted

/-- Handlers that do nothing make no calls. -/
theorem Handlers.scripted_default {σ : Type} {capacity levels : Nat} (cfg : Config)
    (allowed : KernelCall → Prop) :
    (default : Handlers σ capacity levels).Scripted cfg allowed where
  external _ _ s := ⟨[], s, fun _ hc => absurd hc List.not_mem_nil, rfl⟩
  tick _ _ s := ⟨[], s, fun _ hc => absurd hc List.not_mem_nil, rfl⟩

/-! ## Who is Running while a trap is handled -/

/-- A call that needs no registers makes no task Running. -/
theorem Schedule.Step.withholds {levels : Nat} {s s' : Schedule} {call : KernelCall}
    (hstep : s.Step levels call s') (hplain : call.Plain) : s.Withholds s' := by
  cases call with
  | create a stack =>
    rcases hstep with rfl | ⟨-, rfl⟩
    · exact .refl _
    · exact s.withholds_create _
  | activate id => exact hstep ▸ s.withholds_activate id
  | markReady id => exact hstep ▸ s.withholds_markReady id
  | markBlocked id => exact hstep ▸ s.withholds_markBlocked id
  | suspend id => exact hstep ▸ s.withholds_suspend id
  | resume id => exact hstep ▸ s.withholds_resume id
  | setPriority id priority => exact hstep ▸ s.withholds_setPriority id priority
  | requestDispatch => exact hstep ▸ .of_entries rfl rfl
  | takeDispatch => exact hstep ▸ .of_entries rfl rfl
  | advanceTick => exact hstep ▸ .of_entries rfl rfl
  | serve caller number argument => exact hstep ▸ s.withholds_serve caller number argument
  | save id kind => exact hplain.elim
  | restore id => exact hplain.elim
  | switch source target => exact hplain.elim
  | switchTo target => exact hplain.elim

namespace Kernel

variable {capacity levels : Nat} {k k' : Kernel capacity levels} {cfg : Config}
variable {s : Schedule} {frame : SavedFrame}

/-- Calls that need no registers make no task Running. -/
theorem Implements.withholds_reaches (h : k.Implements s) (hv : s.Valid levels)
    (hreach : k.Reaches cfg KernelCall.Plain k') :
    ∃ s', k'.Implements s' ∧ s'.Valid levels ∧ s.Withholds s' := by
  induction hreach with
  | refl => exact ⟨s, h, hv, .refl s⟩
  | @tail k₁ k₂ r r' call ok _ hplain hcall ih =>
    obtain ⟨s₁, h₁, hv₁, hwithholds⟩ := ih
    obtain ⟨ok₁, k₃, r₃, s₂, hresult, h₂, hstep, -⟩ := h₁.invoke hv₁ cfg r call
    rw [hresult] at hcall
    cases hcall
    exact ⟨s₂, h₂, hstep.valid hv₁, hwithholds.trans (hstep.withholds hplain)⟩

/-- The context that an outermost trap has interrupted is where the frame says:
nobody was Running, or the current task can go on from its frame. -/
def Parks (cfg : Config) (k : Kernel capacity levels) : SavedFrame → Prop
  | .idle => k.runningTask? = none
  | .task id sp => k.running = some id ∧ ∃ r, k.Keeps cfg id .interrupted r ∧
      sp.toNat + cfg.layouts.interrupted.frameSize = r.sp.toNat
  | .nested _ => False

/-- If somebody is Running it is the task that was interrupted. -/
theorem Parks.keeps (h : k.Parks cfg frame) {id : TaskId} (hrunning : k.runningTask? = some id) :
    ∃ r, k.Keeps cfg id .interrupted r := by
  cases frame with
  | idle =>
    rw [Parks, hrunning] at h
    cases h
  | nested sp => exact h.elim
  | task a sp =>
    obtain ⟨hcurrent, r, hkeeps, -⟩ := h
    have hid := hcurrent.symm.trans (Option.filter_eq_some_iff.1 hrunning).1
    cases hid
    exact ⟨r, hkeeps⟩

/-- Whatever leaves frames alone and makes nobody Running leaves the interrupted
context where it is. -/
theorem Parks.of_spares (h : k.Parks cfg frame) (himpl : k.Implements s)
    (hspares : k.Spares cfg k' fun _ => True) {s' : Schedule} (himpl' : k'.Implements s')
    (hwithholds : s.Withholds s') : k'.Parks cfg frame := by
  cases frame with
  | idle =>
    have hnone : s.runningTask? = none := himpl.runningTask?_eq.trans h
    exact himpl'.runningTask?_eq.symm.trans (hwithholds.runningTask?_eq_none hnone)
  | nested sp => exact h.elim
  | task id sp =>
    obtain ⟨hcurrent, r, hkeeps, hsp⟩ := h
    refine ⟨?_, r, hspares.keeps id trivial _ _ hkeeps, hsp⟩
    rw [← himpl'.running, hwithholds.current, himpl.running, hcurrent]

/-- Neither the request for a dispatch nor the tick counter matters. -/
theorem Parks.congr (h : k.Parks cfg frame) (htasks : k'.tasks = k.tasks)
    (hrunning : k'.running = k.running) : k'.Parks cfg frame := by
  have htask : ∀ id, k'.task? id = k.task? id := fun id => by rw [task?, htasks, task?]
  cases frame with
  | idle =>
    have hsame : k'.runningTask? = k.runningTask? := by
      rw [runningTask?, runningTask?, hrunning]
      refine congrArg k.running.filter (funext fun id => decide_eq_decide.2 ?_)
      rw [IsRunning, IsRunning, htask]
    exact hsame.trans h
  | nested sp => exact h.elim
  | task id sp =>
    obtain ⟨hcurrent, r, hkeeps, hsp⟩ := h
    have hsame : TaskTable.SameContexts k.tasks k'.tasks := by
      rw [htasks]
      exact .refl _
    exact ⟨hrunning.trans hcurrent, r, hkeeps.of_sameContexts hsame, hsp⟩

/-- Calls that need no registers leave the interrupted context where it is. -/
theorem Parks.reaches (h : k.Parks cfg frame) (hwhole : k.Whole cfg)
    (hreach : k.Reaches cfg KernelCall.Plain k') : k'.Parks cfg frame := by
  obtain ⟨s, himpl, hvalid⟩ := hwhole.scheduled
  obtain ⟨s', himpl', -, hwithholds⟩ := himpl.withholds_reaches hvalid hreach
  exact h.of_spares himpl (hwhole.spares_reaches hreach) himpl' hwithholds

/-! ## Saving a task -/

variable {kind : FrameKind} {r : RegisterFile} {id : TaskId} {t : Task}

/-- A task is saved if its frame fits below the stack pointer. -/
theorem saveContext_of_fits (ht : k.task? id = some t)
    (hfits : (cfg.layouts.layout kind).Fits t.stack r.sp) :
    ∃ sp k', (k.saveContext cfg.layouts r id kind).result = .ok (.ok sp, k') := by
  obtain ⟨sp, stack, hsave⟩ := FrameLayout.save_of_fits (cfg.valid_layout kind) hfits r
  refine ⟨sp, k.updateTask id fun t => { t with stack := stack, savedSp := sp, frameKind := kind },
    ?_⟩
  unfold saveContext
  simp only [ht, Traced.result_bind, hsave, ok_bind]
  rfl

/-- If the frame is refused, nothing changes. -/
theorem saveContext_of_refused {e : FrameError} (ht : k.task? id = some t)
    (hsave : ((cfg.layouts.layout kind).save r t.stack r.sp).result = .ok (.error e, t.stack)) :
    (k.saveContext cfg.layouts r id kind).result = .ok (.error (.frame e), k) := by
  have hsame : k.updateTask id (fun u => { u with stack := t.stack }) = k :=
    updateTask_eq_self ht rfl
  unfold saveContext
  simp only [ht, Traced.result_bind, hsave, ok_bind, hsame]
  rfl

/-- A task whose frame does not fit is refused. -/
theorem saveContext_of_not_fits (ht : k.task? id = some t)
    (hfits : ¬(cfg.layouts.layout kind).Fits t.stack r.sp) :
    ∃ e, (k.saveContext cfg.layouts r id kind).result = .ok (.error (.frame e), k) := by
  obtain ⟨e, hsave⟩ := FrameLayout.refuses_of_not_fits hfits r
  exact ⟨e, saveContext_of_refused ht hsave⟩

end Kernel

/-- A trap that cannot be handled: an exception, or an environment call by the
idle loop. -/
def TrapContext.Unhandled (context : TrapContext) : Prop :=
  (∃ code, context.cause = .exception code) ∨
    (∃ code, context.cause = .environmentCall code) ∧ context.frame = .idle

namespace Machine

variable {capacity levels : Nat} {σ : Type} {cfg : Config} {handlers : Handlers σ capacity levels}
variable {m m' : Machine capacity levels} {s s' : σ} {frame : SavedFrame} {slot : Word}

/-! ## Entry -/

/-- The current task cannot be saved, or there is none. -/
inductive Unsaved (cfg : Config) (m : Machine capacity levels) : Prop where
  | nobody (hsp : m.hart.regs.sp ≠ 0) (hrunning : m.kernel.running = none)
  | misfit {id : TaskId} {t : Task} (hsp : m.hart.regs.sp ≠ 0)
    (hrunning : m.kernel.running = some id) (ht : m.kernel.task? id = some t)
    (hfits : ¬cfg.layouts.interrupted.Fits t.stack m.hart.regs.sp)

/-- Of the hart this depends on the stack pointer only. -/
theorem Unsaved.congr (h : m.Unsaved cfg) (hart : Hart) (hsp : hart.regs.sp = m.hart.regs.sp) :
    Unsaved cfg { m with hart := hart } := by
  cases h with
  | nobody hne hrunning => exact .nobody (hsp ▸ hne) hrunning
  | misfit hne hrunning ht hfits => exact .misfit (hsp ▸ hne) hrunning ht (hsp ▸ hfits)

/-- A task that was interrupted can go on from its frame. -/
theorem Interrupted.keeps {k : Kernel capacity levels} {id : TaskId} {sp : Word}
    (h : Interrupted cfg m k (.task id sp)) :
    k.running = some id ∧ k.Keeps cfg id .interrupted m.hart.regs ∧
      sp.toNat + cfg.layouts.interrupted.frameSize = m.hart.regs.sp.toNat := by
  obtain ⟨-, hrunning, hsave⟩ := h.of_task rfl
  obtain ⟨t, stack, ht, hsaved, rfl⟩ := Kernel.saveContext_eq_ok hsave
  have hframe := FrameLayout.frameAt_of_save (cfg.valid_layout .interrupted) hsaved
  exact ⟨hrunning, Kernel.keeps_of_save ht hsaved, hframe.2.2.1⟩

/-- What was interrupted is parked. -/
theorem Interrupted.parks {k : Kernel capacity levels} (h : Interrupted cfg m k frame)
    (hnesting : m.nesting = 0) : k.Parks cfg frame := by
  cases frame with
  | idle =>
    cases h with
    | idle hnested hsp hrunning hkernel => exact hkernel ▸ hrunning
  | nested sp =>
    cases h with
    | handler sp hnested hkernel => exact absurd hnesting hnested.ne'
  | task id sp =>
    obtain ⟨hrunning, hkeeps, hsp⟩ := h.keeps
    exact ⟨hrunning, _, hkeeps, hsp⟩

/-- The interrupted context is saved unless there is a reason that it cannot. -/
theorem exists_saveInterrupted (hformed : m.kernel.WellFormed) (hnesting : m.nesting = 0)
    (hsp : m.hart.regs.sp = 0 → m.kernel.runningTask? = none) :
    (∃ e, (m.saveInterrupted cfg).result = .ok (.error (m.diagnose e), m) ∧ m.Unsaved cfg) ∨
      ∃ frame m', (m.saveInterrupted cfg).result = .ok (.ok frame, m') ∧ ¬m.Unsaved cfg := by
  unfold saveInterrupted
  rw [if_neg (by omega)]
  by_cases hidle : m.hart.regs.sp = 0
  · rw [if_pos hidle]
    refine .inr ⟨.idle, m, ?_, ?_⟩
    · simp [Panic.require_of (hsp hidle)]
    · rintro (⟨hne, -⟩ | ⟨hne, -⟩) <;> exact hne hidle
  · rw [if_neg hidle]
    unfold saveTask
    cases hrunning : m.kernel.running with
    | none => exact .inl ⟨none, rfl, .nobody hidle hrunning⟩
    | some id =>
      obtain ⟨t, ht, -⟩ := hformed.current id hrunning
      by_cases hfits : (cfg.layouts.layout .interrupted).Fits t.stack m.hart.regs.sp
      · obtain ⟨sp, k, hsave⟩ := Kernel.saveContext_of_fits (r := m.hart.regs) ht hfits
        refine .inr ⟨.task id sp, { m with kernel := k }, ?_, ?_⟩
        · simp only [Traced.result_bind, hsave, ok_bind]
          rfl
        · rintro (⟨-, hnone⟩ | ⟨-, hid, hu, hnot⟩)
          · rw [hrunning] at hnone
            cases hnone
          · rw [hrunning] at hid
            cases hid
            rw [ht] at hu
            cases hu
            exact hnot hfits
      · obtain ⟨e, hsave⟩ := Kernel.saveContext_of_not_fits (r := m.hart.regs) ht hfits
        refine .inl ⟨some e, ?_, .misfit hidle hrunning ht hfits⟩
        simp only [Traced.result_bind, hsave, ok_bind]
        rfl

/-- The word of the background stack pointer is the lower one of the two below the
aligned top. -/
theorem toNat_slot (hslot : m.backgroundSlot = .ok slot) :
    slot.toNat + 16 = m.interruptStack.alignedTop := by
  unfold backgroundSlot at hslot
  split at hslot
  · cases hslot
    have hle : m.interruptStack.alignedTop ≤ m.interruptStack.top := alignDown_le 16 _
    have hlt : m.interruptStack.top < 0x10000000000000000 := m.interruptStack.top_lt
    rw [BitVec.toNat_ofNat, Nat.mod_eq_of_lt (by omega)]
    omega
  · cases hslot

theorem slot_le_top (hslot : m.backgroundSlot = .ok slot) :
    slot.toNat % 16 = 0 ∧ slot.toNat + 8 ≤ m.interruptStack.top := by
  have hplace := toNat_slot hslot
  have hle : m.interruptStack.alignedTop ≤ m.interruptStack.top := alignDown_le 16 _
  have hmod : m.interruptStack.alignedTop % 16 = 0 := alignDown_mod 16 _
  omega

/-- The word of the background stack pointer is there if its address is not below
the stack. -/
theorem index_slot (hslot : m.backgroundSlot = .ok slot)
    (hbase : ¬slot.toNat < m.interruptStack.base) :
    m.interruptStack.index slot.toNat 1 = .ok (m.interruptStack.place slot.toNat) := by
  obtain ⟨haligned, htop⟩ := slot_le_top hslot
  exact StackRegion.index_eq_place (by omega) ⟨by omega, by omega⟩

/-- The interrupt stack is in use: the hart is at the word of the background stack
pointer, and this word can be read. -/
structure Installed (m : Machine capacity levels) (slot : Word) : Prop where
  place : m.backgroundSlot = .ok slot
  sp : m.hart.regs.sp = slot
  readable : ∃ w, m.interruptStack.read slot = .ok w

/-- Moving an outermost trap onto the interrupt stack installs it. -/
theorem Installs.installed (h : m.Installs frame (.ok ()) m') (hnesting : m.nesting = 0) :
    m'.Installed m'.hart.regs.sp := by
  cases h with
  | nested hnested => exact absurd hnesting hnested.ne'
  | outermost slot stack _ hslot hwrite =>
    obtain ⟨i, hindex⟩ : ∃ i, m.interruptStack.index slot.toNat 1 = .ok i := by
      cases hindex : m.interruptStack.index slot.toNat 1 with
      | ok i => exact ⟨i, rfl⟩
      | error e => simp [StackRegion.write, StackRegion.writeAll, hindex] at hwrite
    obtain ⟨stack', hwrite', htop, hread⟩ :=
      StackRegion.exists_write hindex (backgroundSp frame)
    cases hwrite.symm.trans hwrite'
    have hsp : (m.hart.setSp slot).regs.sp = slot := RegisterFile.sp_setSp _ _
    refine ⟨?_, rfl, backgroundSp frame, ?_⟩
    · change backgroundSlot _ = .ok (m.hart.setSp slot).regs.sp
      rw [hsp, ← hslot]
      simp only [backgroundSlot, updateStats, setSp, htop]
    · change stack.read (m.hart.setSp slot).regs.sp = _
      rw [hsp, hread]

/-- There is no room on the interrupt stack for the background stack pointer: its word
would lie below the base. -/
def Cramped (m : Machine capacity levels) : Prop :=
  m.interruptStack.alignedTop < m.interruptStack.base + 16

theorem cramped_iff (hslot : m.backgroundSlot = .ok slot) :
    m.Cramped ↔ slot.toNat < m.interruptStack.base := by
  rw [Cramped, ← toNat_slot hslot, Nat.add_lt_add_iff_right]

/-- The interrupt stack is installed unless there is no room for the background
stack pointer. -/
theorem exists_installStack (hnesting : m.nesting = 0) (hslot : m.backgroundSlot = .ok slot)
    (frame : SavedFrame) :
    (∃ e m', (m.installStack frame).result = .ok (.error (m.diagnose e), m') ∧ m.Cramped) ∨
      ∃ m', (m.installStack frame).result = .ok (.ok (), m') ∧
        ¬m.Cramped ∧ m'.Installed slot ∧ m'.hart = m.hart.setSp slot := by
  unfold installStack
  rw [if_neg (by omega), cramped_iff hslot]
  by_cases hbase : slot.toNat < m.interruptStack.base
  · left
    cases hindex : m.interruptStack.index slot.toNat 1 with
    | ok i =>
      have hlow := (StackRegion.index_eq_ok_iff.1 hindex).2.1.1
      omega
    | error e =>
      refine ⟨some e, m, ?_, hbase⟩
      simp [hslot, StackRegion.write, StackRegion.writeAll, hindex]
  · right
    obtain ⟨stack, hwrite, htop, hread⟩ :=
      StackRegion.exists_write (index_slot hslot hbase) (backgroundSp frame)
    refine ⟨({ m with interruptStack := stack }.setSp slot).updateStats fun s =>
      { s with stackSwitchesIn := s.stackSwitchesIn + 1 }, ?_, hbase, ⟨?_, ?_, _, hread⟩, rfl⟩
    · simp [hslot, hwrite]
    · rw [← hslot]
      simp only [backgroundSlot, updateStats, setSp, htop]
    · exact RegisterFile.sp_setSp _ _

/-- The address of the word of the background stack pointer can be computed.  It cannot
if the interrupt stack lies in the first two words of memory, as an empty one at the
address 8 does. -/
def Placed (m : Machine capacity levels) : Prop := 16 ≤ m.interruptStack.alignedTop

theorem Placed.exists_slot (h : m.Placed) : ∃ slot, m.backgroundSlot = .ok slot :=
  ⟨_, if_pos h⟩

theorem placed_of_slot (hslot : m.backgroundSlot = .ok slot) : m.Placed := by
  have hplace := toNat_slot hslot
  rw [Placed]
  omega

/-- The interrupted context is saved and the interrupt stack installed, unless
there is a reason that one of them cannot be done.  Whether the context can be saved is
found out first. -/
theorem exists_entry (hformed : m.kernel.WellFormed) (hnesting : m.nesting = 0)
    (hsp : m.hart.regs.sp = 0 → m.kernel.runningTask? = none)
    (hplaced : m.Placed ∨ m.Unsaved cfg) :
    (∃ e m', (m.entry cfg).result = .ok (.error (m.diagnose e), m') ∧
        (m.Unsaved cfg ∨ m.Cramped)) ∨
      ∃ context slot m', (m.entry cfg).result = .ok (.ok context, m') ∧ ¬m.Unsaved cfg ∧
        ¬m.Cramped ∧ m'.Installed slot ∧ m'.hart = m.hart.setSp slot := by
  unfold entry
  rcases exists_saveInterrupted hformed hnesting hsp with
    ⟨e, hsave, hunsaved⟩ | ⟨frame, m₁, hsave, hsaved⟩
  · refine .inl ⟨e, m, ?_, .inl hunsaved⟩
    rw [Traced.result_bind, hsave]
    rfl
  · have hsaves := saves_of_saveInterrupted hsave
    obtain ⟨hhart, hstack⟩ := hsaves.outermost hnesting
    obtain ⟨slot, hslot⟩ := (hplaced.resolve_right hsaved).exists_slot
    have hslot₁ : m₁.backgroundSlot = .ok slot := by rwa [backgroundSlot, hstack]
    have hcramped : m₁.Cramped ↔ m.Cramped := by rw [Cramped, hstack, Cramped]
    rcases exists_installStack (hsaves.nesting.trans hnesting) hslot₁ frame with
      ⟨e, m₂, hinstall, hbelow⟩ | ⟨m₂, hinstall, hroom, hinstalled, hhart₂⟩
    · refine .inl ⟨e, m₂, ?_, .inr (hcramped.1 hbelow)⟩
      rw [Traced.result_bind, hsave, ok_bind, Traced.result_bind, hinstall,
        diagnose_congr hhart]
      rfl
    · refine .inr ⟨⟨TrapCause.decode m.hart.cause cfg.level, frame⟩, slot, m₂.deepen, ?_, hsaved,
        mt hcramped.2 hroom, ⟨hinstalled.place, hinstalled.sp, hinstalled.readable⟩,
        hhart₂.trans (by rw [hhart])⟩
      rw [Traced.result_bind, hsave, ok_bind, Traced.result_bind, hinstall]
      rfl

/-- If the context can be saved and the word of the background stack pointer has no
address, entry stops the kernel. -/
theorem entry_of_not_placed (hformed : m.kernel.WellFormed) (hnesting : m.nesting = 0)
    (hsp : m.hart.regs.sp = 0 → m.kernel.runningTask? = none) (hplaced : ¬m.Placed)
    (hsaved : ¬m.Unsaved cfg) : (m.entry cfg).result = .error .overflow := by
  rcases exists_saveInterrupted hformed hnesting hsp with
    ⟨e, -, hunsaved⟩ | ⟨frame, m₁, hsave, -⟩
  · exact absurd hunsaved hsaved
  · have hsaves := saves_of_saveInterrupted hsave
    have hslot : m₁.backgroundSlot = .error .overflow := by
      rw [backgroundSlot, (hsaves.outermost hnesting).2]
      exact if_neg hplaced
    have hnesting₁ := hsaves.nesting.trans hnesting
    have hinstall : (m₁.installStack frame).result = .error .overflow := by
      unfold installStack
      rw [if_neg (by omega), Traced.result_bind, Traced.result_lift, hslot]
      rfl
    unfold entry
    rw [Traced.result_bind, hsave, ok_bind, Traced.result_bind, hinstall]
    rfl

/-! ## Dispatch -/

/-- An environment call by the idle loop is refused.  A task can be answered, and
what was interrupted stays where it is. -/
theorem exists_environmentCall (hwhole : m.kernel.Whole cfg) (hparks : m.kernel.Parks cfg frame) :
    (∃ e, (m.environmentCall cfg frame).result = .ok (.error e, m) ∧ frame = .idle) ∨
      ∃ m', (m.environmentCall cfg frame).result = .ok (.ok (), m') ∧ frame ≠ .idle ∧
        m'.interruptStack = m.interruptStack ∧ m'.kernel.Parks cfg frame := by
  cases frame with
  | idle =>
    have hcall : m.frameCall cfg .idle = .error .outOfRegion := rfl
    exact .inl ⟨.outOfRegion, by rw [environmentCall_of_error hcall]; rfl, rfl⟩
  | nested sp => exact hparks.elim
  | task id sp =>
    obtain ⟨hrunning, r, hkeeps, hsp⟩ := hparks
    obtain ⟨sch, himpl, hvalid⟩ := hwhole.scheduled
    obtain ⟨m', hcall, himpl', hkeeps', -, -, hstack⟩ :=
      environmentCall_task himpl hvalid hkeeps hsp
    refine .inr ⟨m', hcall, SavedFrame.noConfusion, hstack, ?_, _, hkeeps', ?_⟩
    · rw [← himpl'.running, (sch.still_serve _ _ _).running, himpl.running, hrunning]
    · rw [RegisterFile.sp_answered, hsp]

/-- A trap is handled unless it is an exception or an environment call by the
idle loop. -/
theorem exists_dispatch (hscripted : handlers.Scripted cfg KernelCall.Plain)
    (hwhole : m.kernel.Whole cfg) {context : TrapContext}
    (hparks : m.kernel.Parks cfg context.frame) (s : σ) :
    (∃ e m', (m.dispatch cfg handlers s context).result = .ok (.error (m.diagnose e), m', s) ∧
        context.Unhandled) ∨
      ∃ m' s', (m.dispatch cfg handlers s context).result = .ok (.ok (), m', s') ∧
        ¬context.Unhandled ∧ m'.interruptStack = m.interruptStack ∧
        m'.kernel.Parks cfg context.frame := by
  obtain ⟨cause, frame⟩ := context
  have hcalling := hscripted.calling
  unfold dispatch
  cases cause with
  | software =>
    refine .inr ⟨_, s, rfl, ?_, rfl, hparks.congr rfl rfl⟩
    rintro (⟨code, hcause⟩ | ⟨⟨code, hcause⟩, -⟩) <;> cases hcause
  | timer =>
    have hticked := hwhole.spares_advanceTick.whole
    obtain ⟨k, s', htick⟩ := hscripted.exists_tick hticked m.kernel.advanceTick.tick s
    have hcalled := Kernel.Parks.reaches (k := m.kernel.advanceTick) (hparks.congr rfl rfl) hticked
      (hcalling.tick _ _ _ _ _ htick)
    refine .inr ⟨{ m.updateStats fun s => { s with timerInterrupts := s.timerInterrupts + 1 } with
      kernel := k.requestDispatch }, s', ?_, ?_, rfl, hcalled.congr rfl rfl⟩
    · rw [Traced.result_bind]
      exact congrArg (· >>= _) htick
    · rintro (⟨code, hcause⟩ | ⟨⟨code, hcause⟩, -⟩) <;> cases hcause
  | external code =>
    obtain ⟨k, s', hexternal⟩ := hscripted.exists_external hwhole code s
    have hcalled := hparks.reaches hwhole (hcalling.external _ _ _ _ _ hexternal)
    refine .inr ⟨{ m.updateStats fun s => { s with
      externalInterrupts := s.externalInterrupts + 1 } with kernel := k }, s', ?_, ?_, rfl, hcalled⟩
    · rw [Traced.result_bind]
      exact congrArg (· >>= _) hexternal
    · rintro (⟨code, hcause⟩ | ⟨⟨code, hcause⟩, -⟩) <;> cases hcause
  | exception code => exact .inl ⟨none, _, rfl, .inl ⟨code, rfl⟩⟩
  | environmentCall code =>
    rcases exists_environmentCall (m := m.updateStats fun s => { s with
      environmentCalls := s.environmentCalls + 1 }) hwhole hparks with
      ⟨e, hcall, hidle⟩ | ⟨m₁, hcall, hidle, hstack, hparks₁⟩
    · refine .inl ⟨some e, m.updateStats fun s => { s with
        environmentCalls := s.environmentCalls + 1 }, ?_, .inr ⟨⟨code, rfl⟩, hidle⟩⟩
      dsimp only
      rw [Traced.result_bind, hcall]
      rfl
    · refine .inr ⟨{ m₁ with kernel := m₁.kernel.requestDispatch }, s, ?_, ?_, hstack,
        hparks₁.congr rfl rfl⟩
      · dsimp only
        rw [Traced.result_bind, hcall]
        rfl
      · rintro (⟨code', hcause⟩ | ⟨-, hframe⟩)
        · cases hcause
        · exact hidle hframe

/-! ## Exit -/

theorem exists_leaveStack (h : m.Installed slot) :
    ∃ m', m.leaveStack.result = .ok (.ok (), m') := by
  obtain ⟨background, hread⟩ := h.readable
  have hplace : m.hart.regs.sp = slot := h.sp
  refine ⟨(m.setSp background).updateStats fun s =>
    { s with stackSwitchesOut := s.stackSwitchesOut + 1 }, ?_⟩
  unfold leaveStack
  simp [hplace, h.place, Panic.require_of, hread]

/-- The decision of the outermost exit can be carried out: the current task goes on
only if it is Running, and a task that is chosen is Ready. -/
theorem exists_exitDecision {k : Kernel capacity levels} (h : k.Whole cfg) (requested : Bool) :
    ∃ decision, exitDecision k requested = .ok decision ∧
      (decision = .keep → ∃ id, k.runningTask? = some id) ∧
      ∀ id, decision = .switchTo (some id) → ∃ t, k.task? id = some t ∧ t.state = .ready := by
  obtain ⟨sch, himpl, hvalid⟩ := h.scheduled
  unfold exitDecision
  split
  · refine ⟨_, himpl.decide_eq, fun hkeep => ?_, fun id hid => ?_⟩
    · rw [← Option.ne_none_iff_exists', ← himpl.runningTask?_eq]
      exact Schedule.runningTask?_of_keep hvalid k.levels_le hkeep
    · have hready := hvalid.ready_of_decide hid rfl
      rw [himpl.state?_eq] at hready
      exact Option.map_eq_some_iff.1 hready
  · rename_i hconsult
    refine ⟨.keep, rfl, fun _ => ?_, fun id hid => Decision.noConfusion hid⟩
    exact Option.ne_none_iff_exists'.1 fun hnone => hconsult (.inr hnone)

theorem exists_resumeBackground {id : TaskId} {r : RegisterFile}
    (h : m.kernel.Keeps cfg id .interrupted r) :
    ∃ m', (m.resumeBackground cfg id).result = .ok (.ok (), m') := by
  obtain ⟨r', hload, -⟩ := h.restore m.hart.regs
  refine ⟨{ m with hart := { m.hart with regs := r' } }, ?_⟩
  unfold resumeBackground
  rw [Traced.result_bind, hload]
  simp [Panic.require_of]

theorem exists_resumeChosen (h : m.kernel.Whole cfg) {target : Option TaskId}
    (htarget : ∀ id, target = some id → ∃ t, m.kernel.task? id = some t ∧ t.state = .ready)
    (s : σ) : ∃ m' s', (m.resumeChosen cfg handlers s target).result = .ok (.ok (), m', s') := by
  obtain ⟨kind, k', r', hswitch⟩ : ∃ kind k' r',
      (m.kernel.switchTo cfg.layouts m.hart.regs target).result = .ok (.ok kind, k', r') := by
    cases target with
    | none => exact h.exists_switchTo_none m.hart.regs
    | some id =>
      obtain ⟨t, ht, hready⟩ := htarget id rfl
      obtain ⟨kind, k', r', hswitch⟩ := h.exists_switchTo ht hready m.hart.regs
      exact ⟨some kind, k', r', hswitch⟩
  unfold resumeChosen
  rw [Traced.result_bind, hswitch, ok_bind]
  rcases kind with - | (- | -) <;> exact ⟨_, _, rfl⟩

/-- Leaving an outermost trap goes well, whatever the scheduler decides. -/
theorem exists_exit (hwhole : m.kernel.Whole cfg) (hparks : m.kernel.Parks cfg frame)
    (hinstalled : m.Installed slot) (hnesting : m.nesting = 1) (s : σ) :
    ∃ m' s', (m.exit cfg handlers s).result = .ok (.ok (), m', s') := by
  obtain ⟨m₁, hleave⟩ := exists_leaveStack (m := { m with nesting := m.nesting - 1 })
    ⟨hinstalled.place, hinstalled.sp, hinstalled.readable⟩
  have hkernel := (leaves_of_leaveStack hleave).kernel
  dsimp only at hkernel
  have hwhole₁ : m₁.kernel.takeDispatch.2.Whole cfg := hkernel ▸ hwhole.takeDispatch
  obtain ⟨decision, hdecision, hkeep, hswitch⟩ :=
    exists_exitDecision hwhole₁ m₁.kernel.takeDispatch.1
  unfold exit
  rw [Traced.result_bind, Traced.result_lift, Panic.require_of (by omega), ok_bind]
  dsimp only
  rw [if_neg (by omega)]
  unfold exitOutermost
  rw [Traced.result_bind, hleave, ok_bind]
  dsimp only
  rw [Traced.result_bind, Traced.result_lift, hdecision, ok_bind]
  cases decision with
  | switchTo target =>
    exact exists_resumeChosen (m := { m₁ with kernel := m₁.kernel.takeDispatch.2 }) hwhole₁
      (fun id hid => hswitch id (congrArg Decision.switchTo hid)) s
  | keep =>
    obtain ⟨id, hrunning⟩ := hkeep rfl
    -- the interrupted task goes on, so its frame is the one that entry has saved
    have hparks₁ : m₁.kernel.takeDispatch.2.Parks cfg frame :=
      Kernel.Parks.congr (hkernel ▸ hparks) rfl rfl
    obtain ⟨r, hkeeps⟩ := hparks₁.keeps hrunning
    obtain ⟨m₂, hresume⟩ :=
      exists_resumeBackground (m := { m₁ with kernel := m₁.kernel.takeDispatch.2 }) hkeeps
    refine ⟨m₂, s, ?_⟩
    simp only [hrunning]
    rw [Traced.result_bind, hresume]
    rfl

end Machine

end HartKernel
