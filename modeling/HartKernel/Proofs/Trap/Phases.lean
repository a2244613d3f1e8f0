import HartKernel.Trap.Handle
import HartKernel.Proofs.Kernel.Refusal

/-!
# The phases of a trap

What each phase of a trap has done: once for each phase, so that no later proof opens
the phases again.

Main definitions:

- `Machine.Saves`, `Machine.Installs` and `Machine.Enters` list what entry can do, also
  if it is refused.
- `Machine.Leaves`, `Machine.ActsOn` and `Machine.Exits` do so for exit.

Main results:

- `Machine.enters_of_entry` and `Machine.exits_of_exit`: nothing else can happen.
- `Machine.entry_cases`, `Machine.dispatch_cases` and
  `Machine.environmentCall_cases`: what was interrupted and saved, and what was
  done about the cause.
- `Machine.exit_cases` and `Machine.trap_cases`: what was resumed, and the phases
  together.
-/

namespace HartKernel

theorem SavedFrame.owner?_eq_some {frame : SavedFrame} {id : TaskId} :
    frame.owner? = some id ↔ ∃ sp, frame = .task id sp := by
  cases frame <;> simp [owner?]

namespace Machine

variable {capacity levels : Nat} {σ : Type} {cfg : Config} {handlers : Handlers σ capacity levels}
variable {m m' : Machine capacity levels} {s s' : σ}

/-! ## Entry -/

/-- What entry found and where it saved it.  The kernel `k` is the one after
that. -/
inductive Interrupted (cfg : Config) (m : Machine capacity levels) (k : Kernel capacity levels) :
    SavedFrame → Prop where
  | handler (sp : Word) (hnested : 0 < m.nesting) (hkernel : k = m.kernel) :
    Interrupted cfg m k (.nested sp)
  | idle (hnested : m.nesting = 0) (hsp : m.hart.regs.sp = 0)
    (hrunning : m.kernel.runningTask? = none) (hkernel : k = m.kernel) :
    Interrupted cfg m k .idle
  | task (id : TaskId) (sp : Word) (hnested : m.nesting = 0) (hsp : m.hart.regs.sp ≠ 0)
    (hrunning : m.kernel.running = some id)
    (hsave : (m.kernel.saveContext cfg.layouts m.hart.regs id .interrupted).result =
      .ok (.ok sp, k)) :
    Interrupted cfg m k (.task id sp)

/-- A task is interrupted while it is the current one, and outermost. -/
theorem Interrupted.of_task {k : Kernel capacity levels} {frame : SavedFrame} {id : TaskId}
    {sp : Word} (h : Interrupted cfg m k frame) (hframe : frame = .task id sp) :
    m.nesting = 0 ∧ m.kernel.running = some id ∧
      (m.kernel.saveContext cfg.layouts m.hart.regs id .interrupted).result = .ok (.ok sp, k) := by
  subst hframe
  cases h with
  | task id sp hnested hsp hrunning hsave => exact ⟨hnested, hrunning, hsave⟩

/-- What is interrupted is the current task, unless it has no stack. -/
theorem Interrupted.exists_task {k : Kernel capacity levels} {frame : SavedFrame} {id : TaskId}
    (h : Interrupted cfg m k frame) (hnesting : m.nesting = 0) (hsp : m.hart.regs.sp ≠ 0)
    (hcurrent : m.kernel.running = some id) : ∃ sp, frame = .task id sp := by
  cases h with
  | handler sp hnested hkernel => exact absurd hnesting hnested.ne'
  | idle hnested hzero hrunning hkernel => exact absurd hzero hsp
  | task a sp hnested hne hrunning hsave =>
    obtain rfl : a = id := Option.some.inj (hrunning.symm.trans hcurrent)
    exact ⟨sp, rfl⟩

theorem diagnose_congr (h : m'.hart = m.hart) (e : Option FrameError) :
    m'.diagnose e = m.diagnose e := by
  rw [diagnose, h, diagnose]

/-- What saving the interrupted context can do.  If it is refused nothing has
changed. -/
inductive Saves (cfg : Config) (m : Machine capacity levels) :
    Except FatalTrap SavedFrame → Machine capacity levels → Prop where
  | refused (e : Option FrameError) : Saves cfg m (.error (m.diagnose e)) m
  | handler (sp : Word) (stack : StackRegion) (hnested : 0 < m.nesting)
    (hsave : (cfg.layouts.interrupted.save m.hart.regs m.interruptStack m.hart.regs.sp).result =
      .ok (.ok sp, stack)) :
    Saves cfg m (.ok (.nested sp)) ({ m with interruptStack := stack }.setSp sp)
  | idle (hnested : m.nesting = 0) (hsp : m.hart.regs.sp = 0)
    (hrunning : m.kernel.runningTask? = none) : Saves cfg m (.ok .idle) m
  | task (id : TaskId) (sp : Word) (k : Kernel capacity levels) (hnested : m.nesting = 0)
    (hsp : m.hart.regs.sp ≠ 0) (hrunning : m.kernel.running = some id)
    (hsave : (m.kernel.saveContext cfg.layouts m.hart.regs id .interrupted).result =
      .ok (.ok sp, k)) :
    Saves cfg m (.ok (.task id sp)) { m with kernel := k }

theorem saves_of_saveInterrupted {answer : Except FatalTrap SavedFrame}
    (h : (m.saveInterrupted cfg).result = .ok (answer, m')) : m.Saves cfg answer m' := by
  unfold saveInterrupted at h
  split at h
  · rename_i hnested
    obtain ⟨⟨saved, stack⟩, hsave, h⟩ := Traced.bind_eq_ok.1 h
    cases saved with
    | error e =>
      cases h
      rw [FrameLayout.region_of_save_error hsave]
      exact .refused _
    | ok sp =>
      cases h
      exact .handler sp stack hnested hsave
  · rename_i hnested
    have hzero : m.nesting = 0 := Nat.eq_zero_of_not_pos hnested
    split at h
    · rename_i hsp
      obtain ⟨u, hrequire, h⟩ := Traced.bind_eq_ok.1 h
      cases h
      exact .idle hzero hsp (Panic.require_eq_ok_iff.1 hrequire)
    · rename_i hsp
      unfold saveTask at h
      split at h
      · cases h
        exact .refused none
      · rename_i id hid
        obtain ⟨⟨saved, kernel⟩, hsave, h⟩ := Traced.bind_eq_ok.1 h
        cases saved with
        | error e =>
          cases h
          rcases Kernel.saveContext_cases hsave with ⟨_, -, rfl⟩ | ⟨t, stack, sp, hok, -⟩
          · exact .refused _
          · cases hok
        | ok sp =>
          cases h
          exact .task id sp kernel hzero hsp hid hsave

namespace Saves

variable {answer : Except FatalTrap SavedFrame} {frame : SavedFrame}

theorem nesting (h : m.Saves cfg answer m') : m'.nesting = m.nesting := by
  cases h <;> rfl

theorem stats (h : m.Saves cfg answer m') : m'.stats = m.stats := by
  cases h <;> rfl

theorem idle_eq (h : m.Saves cfg answer m') : m'.hart.idle = m.hart.idle := by
  cases h <;> rfl

theorem status (h : m.Saves cfg answer m') : m'.hart.regs.status = m.hart.regs.status := by
  cases h <;> rfl

/-- Only a handler is saved on the interrupt stack, which moves the stack pointer. -/
theorem outermost (h : m.Saves cfg answer m') (hnesting : m.nesting = 0) :
    m'.hart = m.hart ∧ m'.interruptStack = m.interruptStack := by
  cases h with
  | refused | idle | task => exact ⟨rfl, rfl⟩
  | handler sp stack hnested => exact absurd hnesting hnested.ne'

theorem interrupted (h : m.Saves cfg (.ok frame) m') : Interrupted cfg m m'.kernel frame := by
  cases h with
  | handler sp stack hnested hsave => exact .handler sp hnested rfl
  | idle hnested hsp hrunning => exact .idle hnested hsp hrunning rfl
  | task id sp k hnested hsp hrunning hsave => exact .task id sp hnested hsp hrunning hsave

end Saves

/-- What moving onto the interrupt stack can do.  It is never refused to a nested trap,
and if it is refused nothing has changed. -/
inductive Installs (m : Machine capacity levels) (frame : SavedFrame) :
    Except FatalTrap Unit → Machine capacity levels → Prop where
  | nested (hnested : 0 < m.nesting) : Installs m frame (.ok ()) m
  | refused (e : FrameError) (hnested : m.nesting = 0) :
    Installs m frame (.error (m.diagnose (some e))) m
  | outermost (slot : Word) (stack : StackRegion) (hnested : m.nesting = 0)
    (hslot : m.backgroundSlot = .ok slot)
    (hwrite : m.interruptStack.write slot (backgroundSp frame) = (.ok (), stack)) :
    Installs m frame (.ok ()) (({ m with interruptStack := stack }.setSp slot).updateStats
      fun s => { s with stackSwitchesIn := s.stackSwitchesIn + 1 })

theorem installs_of_installStack {frame : SavedFrame} {answer : Except FatalTrap Unit}
    (h : (m.installStack frame).result = .ok (answer, m')) : m.Installs frame answer m' := by
  unfold installStack at h
  split at h
  · rename_i hnested
    cases h
    exact .nested hnested
  · rename_i hnested
    have hzero : m.nesting = 0 := Nat.eq_zero_of_not_pos hnested
    obtain ⟨slot, hslot, h⟩ := Traced.bind_eq_ok.1 h
    dsimp only at h
    cases hwrite : m.interruptStack.write slot (backgroundSp frame) with
    | mk written stack =>
      rw [hwrite] at h
      cases written with
      | error e =>
        cases h
        rw [StackRegion.eq_of_write_error hwrite]
        exact .refused e hzero
      | ok u =>
        cases h
        exact .outermost slot stack hzero hslot hwrite

namespace Installs

variable {answer : Except FatalTrap Unit} {frame : SavedFrame}

theorem kernel (h : m.Installs frame answer m') : m'.kernel = m.kernel := by
  cases h <;> rfl

theorem nesting (h : m.Installs frame answer m') : m'.nesting = m.nesting := by
  cases h <;> rfl

theorem idle_eq (h : m.Installs frame answer m') : m'.hart.idle = m.hart.idle := by
  cases h <;> rfl

theorem status (h : m.Installs frame answer m') :
    m'.hart.regs.status = m.hart.regs.status := by
  cases h <;> rfl

end Installs

/-- What entry can do.  If the interrupted context cannot be saved nothing has changed.
A nested trap needs no more than that. -/
inductive Enters (cfg : Config) (m : Machine capacity levels) :
    Except FatalTrap TrapContext → Machine capacity levels → Prop where
  | unsaved (e : Option FrameError) : Enters cfg m (.error (m.diagnose e)) m
  | uninstalled {frame : SavedFrame} {m₁ : Machine capacity levels} (e : Option FrameError)
    (hnested : m.nesting = 0) (hsaves : m.Saves cfg (.ok frame) m₁) :
    Enters cfg m (.error (m.diagnose e)) m₁
  | entered {frame : SavedFrame} {m₁ m₂ : Machine capacity levels}
    (hsaves : m.Saves cfg (.ok frame) m₁) (hinstalls : m₁.Installs frame (.ok ()) m₂) :
    Enters cfg m (.ok ⟨TrapCause.decode m.hart.cause cfg.level, frame⟩) m₂.deepen

theorem enters_of_entry {answer : Except FatalTrap TrapContext}
    (h : (m.entry cfg).result = .ok (answer, m')) : m.Enters cfg answer m' := by
  unfold entry at h
  obtain ⟨⟨saved, m₁⟩, hsave, h⟩ := Traced.bind_eq_ok.1 h
  have hsaves := saves_of_saveInterrupted hsave
  cases saved with
  | error d =>
    cases h
    cases hsaves with
    | refused e => exact .unsaved e
  | ok frame =>
    obtain ⟨⟨installed, m₂⟩, hinstall, h⟩ := Traced.bind_eq_ok.1 h
    have hinstalls := installs_of_installStack hinstall
    cases installed with
    | error d =>
      cases h
      cases hinstalls with
      | refused e hzero =>
        have hnesting : m.nesting = 0 := hsaves.nesting ▸ hzero
        rw [diagnose_congr (hsaves.outermost hnesting).1]
        exact .uninstalled (some e) hnesting hsaves
    | ok u =>
      obtain ⟨v, -, h⟩ := Traced.bind_eq_ok.1 h
      cases h
      exact .entered hsaves hinstalls

/-- Entry saves what was interrupted and counts the trap. -/
theorem entry_cases {context : TrapContext} (h : (m.entry cfg).result = .ok (.ok context, m')) :
    context.cause = TrapCause.decode m.hart.cause cfg.level ∧
      Interrupted cfg m m'.kernel context.frame ∧ m'.nesting = m.nesting + 1 ∧
      m'.hart.idle = m.hart.idle := by
  cases enters_of_entry h with
  | entered hsaves hinstalls =>
    have hkernel := hinstalls.kernel ▸ hsaves.interrupted
    have hdepth := congrArg Nat.succ (hinstalls.nesting.trans hsaves.nesting)
    exact ⟨rfl, hkernel, hdepth, hinstalls.idle_eq.trans hsaves.idle_eq⟩

/-! ## Dispatch -/

/-- Reading a saved frame changes nothing. -/
theorem withFrame_read {α : Type} (m : Machine capacity levels) (frame : SavedFrame)
    (f : StackRegion → Word → Except FrameError α) :
    (m.withFrame frame fun region sp => (f region sp, region)).2 = m := by
  cases frame with
  | idle => rfl
  | nested sp => rfl
  | task id sp =>
    simp only [withFrame]
    cases ht : m.kernel.task? id with
    | none => rfl
    | some t =>
      have hsame : m.kernel.updateTask id (fun u => { u with stack := t.stack }) = m.kernel :=
        Kernel.updateTask_eq_self ht rfl
      simp only [hsame]

/-- What an access to a saved frame has changed of the kernel. -/
inductive Accessed {α : Type} (f : StackRegion → Word → Except FrameError α × StackRegion)
    (k k' : Kernel capacity levels) : SavedFrame → Prop where
  | nested (sp : Word) (hkernel : k' = k) : Accessed f k k' (.nested sp)
  | task (id : TaskId) (sp : Word) (t : Task) (ht : k.task? id = some t)
    (hkernel : k' = k.updateTask id fun u => { u with stack := (f t.stack sp).2 }) :
    Accessed f k k' (.task id sp)

theorem withFrame_cases {α : Type} {frame : SavedFrame}
    {f : StackRegion → Word → Except FrameError α × StackRegion} {a : α}
    (h : m.withFrame frame f = (.ok a, m')) :
    Accessed f m.kernel m'.kernel frame ∧ m'.nesting = m.nesting ∧ m'.hart = m.hart := by
  have hm : (m.withFrame frame f).2 = m' := congrArg Prod.snd h
  rw [← hm]
  cases frame with
  | idle => cases h
  | nested sp => exact ⟨.nested sp rfl, rfl, rfl⟩
  | task id sp =>
    simp only [withFrame] at h ⊢
    cases ht : m.kernel.task? id with
    | none => simp [ht] at h
    | some t => exact ⟨.task id sp t ht rfl, rfl, rfl⟩

/-- An environment call executes one service and leaves its result in the frame
of the caller. -/
theorem environmentCall_cases {frame : SavedFrame}
    (h : (m.environmentCall cfg frame).result = .ok (.ok (), m')) :
    ∃ number argument pc result kernel,
      (m.kernel.serve frame.owner? number argument).result = .ok (result, kernel) ∧
      Accessed (answerCall cfg.layouts.interrupted pc result.toRegister) kernel m'.kernel frame ∧
      m'.nesting = m.nesting ∧ m'.hart = m.hart := by
  unfold environmentCall at h
  have hread := m.withFrame_read frame (readCall cfg.layouts.interrupted)
  dsimp only at h
  split at h
  · cases h
  · rename_i call m₁ hcall
    rw [hcall] at hread
    cases hread
    obtain ⟨⟨result, kernel⟩, hserve, h⟩ := Traced.bind_eq_ok.1 h
    have hanswer := Except.ok.inj h
    obtain ⟨haccess, hnesting, hhart⟩ := withFrame_cases hanswer
    exact ⟨_, _, _, _, _, hserve, haccess, hnesting, hhart⟩

/-- What dispatch does about a cause. -/
inductive Dispatched (cfg : Config) (handlers : Handlers σ capacity levels)
    (m m' : Machine capacity levels) (s s' : σ) (frame : SavedFrame) : TrapCause → Prop where
  | software (hkernel : m'.kernel = m.kernel.requestDispatch) (hs : s' = s) :
    Dispatched cfg handlers m m' s s' frame .software
  | timer (kernel : Kernel capacity levels)
    (htick : (handlers.tick m.kernel.advanceTick.tick m.kernel.advanceTick s).result =
      .ok (kernel, s'))
    (hkernel : m'.kernel = kernel.requestDispatch) :
    Dispatched cfg handlers m m' s s' frame .timer
  | external (code : Word)
    (hexternal : (handlers.external code m.kernel s).result = .ok (m'.kernel, s')) :
    Dispatched cfg handlers m m' s s' frame (.external code)
  | environmentCall (code number argument pc : Word) (result : ResultCode)
    (served accessed : Kernel capacity levels)
    (hserve : (m.kernel.serve frame.owner? number argument).result = .ok (result, served))
    (haccess : Accessed (answerCall cfg.layouts.interrupted pc result.toRegister) served accessed
      frame)
    (hkernel : m'.kernel = accessed.requestDispatch) (hs : s' = s) :
    Dispatched cfg handlers m m' s s' frame (.environmentCall code)

theorem dispatch_cases {context : TrapContext}
    (h : (m.dispatch cfg handlers s context).result = .ok (.ok (), m', s')) :
    Dispatched cfg handlers m m' s s' context.frame context.cause ∧ m'.nesting = m.nesting ∧
      m'.hart.idle = m.hart.idle ∧ m'.hart.regs = m.hart.regs := by
  unfold dispatch at h
  split at h
  · rename_i hcause
    cases h
    rw [hcause]
    exact ⟨.software rfl rfl, rfl, rfl, rfl⟩
  · rename_i hcause
    obtain ⟨⟨kernel, s₁⟩, htick, h⟩ := Traced.bind_eq_ok.1 h
    cases h
    rw [hcause]
    exact ⟨.timer kernel htick rfl, rfl, rfl, rfl⟩
  · rename_i code hcause
    obtain ⟨⟨kernel, s₁⟩, hexternal, h⟩ := Traced.bind_eq_ok.1 h
    cases h
    rw [hcause]
    exact ⟨.external code hexternal, rfl, rfl, rfl⟩
  · rename_i code hcause
    obtain ⟨⟨answer, m₁⟩, hcall, h⟩ := Traced.bind_eq_ok.1 h
    cases answer with
    | error e => cases h
    | ok u =>
      cases h
      obtain ⟨number, argument, pc, result, kernel, hserve, haccess, hnesting, hhart⟩ :=
        environmentCall_cases hcall
      rw [hcause]
      exact ⟨.environmentCall code number argument pc result kernel _ hserve haccess rfl rfl,
        hnesting, congrArg Hart.idle hhart, congrArg Hart.regs hhart⟩
  · cases h

/-! ## Exit -/

/-- What leaving the interrupt stack can do.  If it is refused nothing has changed. -/
inductive Leaves (m : Machine capacity levels) :
    Except FatalTrap Unit → Machine capacity levels → Prop where
  | refused (e : FrameError) : Leaves m (.error (m.diagnose (some e))) m
  | left (background : Word) (hslot : m.backgroundSlot = .ok m.hart.regs.sp)
    (hread : m.interruptStack.read m.hart.regs.sp = .ok background) :
    Leaves m (.ok ()) ((m.setSp background).updateStats fun s =>
      { s with stackSwitchesOut := s.stackSwitchesOut + 1 })

theorem leaves_of_leaveStack {answer : Except FatalTrap Unit}
    (h : m.leaveStack.result = .ok (answer, m')) : m.Leaves answer m' := by
  unfold leaveStack at h
  obtain ⟨slot, hslot, h⟩ := Traced.bind_eq_ok.1 h
  obtain ⟨u, hplace, h⟩ := Traced.bind_eq_ok.1 h
  have hsp : m.hart.regs.sp = slot := Panic.require_eq_ok_iff.1 hplace
  split at h
  · cases h
    exact .refused _
  · rename_i background hread
    cases h
    exact .left background (hsp ▸ hslot) hread

namespace Leaves

variable {answer : Except FatalTrap Unit}

theorem kernel (h : m.Leaves answer m') : m'.kernel = m.kernel := by
  cases h <;> rfl

theorem nesting (h : m.Leaves answer m') : m'.nesting = m.nesting := by
  cases h <;> rfl

theorem idle_eq (h : m.Leaves answer m') : m'.hart.idle = m.hart.idle := by
  cases h <;> rfl

theorem status (h : m.Leaves answer m') : m'.hart.regs.status = m.hart.regs.status := by
  cases h <;> rfl

theorem interruptStack (h : m.Leaves answer m') : m'.interruptStack = m.interruptStack := by
  cases h <;> rfl

end Leaves

/-- The registers with which a task goes on.  A frame saved by a call has no
status. -/
def resumedRegs (cfg : Config) (kind : FrameKind) (r : RegisterFile) : RegisterFile :=
  match kind with
  | .interrupted => r
  | .cooperative => { r with status := cfg.initialStatus }

/-- What an outermost exit that acts on a decision has resumed.  The kernel `k`
is the one that made the decision, and the hart was in the idle loop if `idle`. -/
inductive Resumed (cfg : Config) (handlers : Handlers σ capacity levels)
    (k : Kernel capacity levels) (idle : Bool) (m' : Machine capacity levels) (s s' : σ) :
    Decision → Prop where
  | background (id : TaskId) (r : RegisterFile) (hrunning : k.runningTask? = some id)
    (hload : (k.restoreContext cfg.layouts r id).result = .ok (.ok .interrupted, m'.hart.regs))
    (hkernel : m'.kernel = k) (hidle : m'.hart.idle = idle) (hs : s' = s) :
    Resumed cfg handlers k idle m' s s' .keep
  | task (id : TaskId) (kind : FrameKind) (r loaded : RegisterFile)
    (hload : (k.restoreContext cfg.layouts r id).result = .ok (.ok kind, loaded))
    (hkernel : k.handOver (some id) = .ok m'.kernel)
    (hregs : m'.hart.regs = resumedRegs cfg kind loaded)
    (hidle : m'.hart.idle = idle) (hs : s' = s) :
    Resumed cfg handlers k idle m' s s' (.switchTo (some id))
  | idle (hkernel : k.handOver none = .ok m'.kernel) (hsp : m'.hart.regs.sp = 0)
    (hidle : m'.hart.idle = true) (hs : s' = handlers.idle s) :
    Resumed cfg handlers k idle m' s s' (.switchTo none)

/-- What acting on a decision can do, once the interrupt stack has been left and the
request was taken.  If it is refused nothing has changed. -/
inductive ActsOn (cfg : Config) (handlers : Handlers σ capacity levels)
    (m : Machine capacity levels) (s : σ) :
    Decision → Except FatalTrap Unit → Machine capacity levels → σ → Prop where
  | refused (decision : Decision) (e : Option FrameError) :
    ActsOn cfg handlers m s decision (.error (m.diagnose e)) m s
  | background (id : TaskId) (r : RegisterFile) (hrunning : m.kernel.runningTask? = some id)
    (hload : (m.kernel.restoreContext cfg.layouts m.hart.regs id).result =
      .ok (.ok .interrupted, r)) :
    ActsOn cfg handlers m s .keep (.ok ()) { m with hart := { m.hart with regs := r } } s
  | task (id : TaskId) (kind : FrameKind) (r : RegisterFile) (k : Kernel capacity levels)
    (hload : (m.kernel.restoreContext cfg.layouts m.hart.regs id).result = .ok (.ok kind, r))
    (hkernel : m.kernel.handOver (some id) = .ok k) :
    ActsOn cfg handlers m s (.switchTo (some id)) (.ok ())
      { m with kernel := k, hart := { m.hart with regs := resumedRegs cfg kind r } } s
  | idle (k : Kernel capacity levels) (hkernel : m.kernel.handOver none = .ok k) :
    ActsOn cfg handlers m s (.switchTo none) (.ok ()) ({ m with kernel := k }.enterIdle cfg)
      (handlers.idle s)

theorem actsOn_of_resumeBackground {id : TaskId} {answer : Except FatalTrap Unit}
    (hrunning : m.kernel.runningTask? = some id)
    (h : (m.resumeBackground cfg id).result = .ok (answer, m')) :
    m.ActsOn cfg handlers s .keep answer m' s := by
  unfold resumeBackground at h
  obtain ⟨⟨restored, regs⟩, hload, h⟩ := Traced.bind_eq_ok.1 h
  cases restored with
  | error e =>
    cases h
    obtain rfl := Kernel.regs_of_restoreContext_error hload
    exact .refused _ _
  | ok kind =>
    obtain ⟨u, hkind, h⟩ := Traced.bind_eq_ok.1 h
    obtain ⟨v, -, h⟩ := Traced.bind_eq_ok.1 h
    rw [Panic.require_eq_ok_iff.1 hkind] at hload
    cases h
    exact .background id regs hrunning hload

theorem actsOn_of_resumeChosen {target : Option TaskId} {answer : Except FatalTrap Unit}
    (h : (m.resumeChosen cfg handlers s target).result = .ok (answer, m', s')) :
    m.ActsOn cfg handlers s (.switchTo target) answer m' s' := by
  unfold resumeChosen at h
  obtain ⟨⟨outcome, kernel, regs⟩, hswitch, h⟩ := Traced.bind_eq_ok.1 h
  cases outcome with
  | error e =>
    cases h
    obtain ⟨rfl, rfl⟩ := Kernel.switchTo_refused hswitch
    exact .refused _ _
  | ok kind =>
    obtain ⟨u, -, h⟩ := Traced.bind_eq_ok.1 h
    obtain ⟨hload, hhand⟩ := Kernel.switchTo_cases hswitch
    rcases Kernel.loadTarget_cases hload with ⟨rfl, rfl, rfl⟩ | ⟨id, kind', rfl, rfl, hrestore⟩
    · cases h
      exact .idle kernel hhand
    · cases kind' with
      | interrupted =>
        cases h
        exact .task id .interrupted regs kernel hrestore hhand
      | cooperative =>
        cases h
        exact .task id .cooperative regs kernel hrestore hhand

namespace ActsOn

variable {decision : Decision} {answer : Except FatalTrap Unit}

theorem nesting (h : m.ActsOn cfg handlers s decision answer m' s') :
    m'.nesting = m.nesting := by
  cases h <;> rfl

theorem stats (h : m.ActsOn cfg handlers s decision answer m' s') : m'.stats = m.stats := by
  cases h <;> rfl

theorem interruptStack (h : m.ActsOn cfg handlers s decision answer m' s') :
    m'.interruptStack = m.interruptStack := by
  cases h <;> rfl

theorem resumed (h : m.ActsOn cfg handlers s decision (.ok ()) m' s') :
    Resumed cfg handlers m.kernel m.hart.idle m' s s' decision := by
  cases h with
  | background id r hrunning hload => exact .background id _ hrunning hload rfl rfl rfl
  | task id kind r k hload hkernel => exact .task id kind _ r hload hkernel rfl rfl rfl
  | idle k hkernel => exact .idle hkernel (RegisterFile.sp_setSp _ _) rfl rfl

end ActsOn

/-- One nesting level further out. -/
def outward (m : Machine capacity levels) : Machine capacity levels :=
  { m with nesting := m.nesting - 1 }

/-- What leaving a trap can do: it brings a handler back, or resumes what the scheduler
wants. -/
inductive Exits (cfg : Config) (handlers : Handlers σ capacity levels)
    (m : Machine capacity levels) (s : σ) :
    Except FatalTrap Unit → Machine capacity levels → σ → Prop where
  | refused (e : Option FrameError) (hnesting : 0 < m.nesting) :
    Exits cfg handlers m s (.error (m.diagnose e)) m.outward s
  | nested (sp : Word) (r : RegisterFile) (hnesting : 1 < m.nesting)
    (hload : (cfg.layouts.interrupted.restore m.interruptStack m.hart.regs.sp m.hart.regs).result =
      .ok (.ok sp, r)) :
    Exits cfg handlers m s (.ok ())
      ({ m.outward with hart := { m.hart with regs := r } }.setSp sp) s
  | outermost {m₁ m' : Machine capacity levels} {s' : σ} {decision : Decision}
    {answer : Except FatalTrap Unit} (hnesting : m.nesting = 1)
    (hleaves : m.outward.Leaves (.ok ()) m₁)
    (hdecision : exitDecision m.kernel.takeDispatch.2 m.kernel.dispatchPending = .ok decision)
    (hacts : ({ m₁ with kernel := m.kernel.takeDispatch.2 } : Machine capacity levels).ActsOn cfg
      handlers s decision answer m' s') :
    Exits cfg handlers m s answer m' s'

theorem exits_of_exit {answer : Except FatalTrap Unit}
    (h : (m.exit cfg handlers s).result = .ok (answer, m', s')) :
    m.Exits cfg handlers s answer m' s' := by
  unfold exit at h
  obtain ⟨u, hrequire, h⟩ := Traced.bind_eq_ok.1 h
  have hpos : 0 < m.nesting := Panic.require_eq_ok_iff.1 hrequire
  dsimp only at h
  split at h
  · rename_i hnested
    unfold exitNested at h
    obtain ⟨⟨left, m₁⟩, hleft, h⟩ := Traced.bind_eq_ok.1 h
    obtain ⟨⟨restored, regs⟩, hload, hleft⟩ := Traced.bind_eq_ok.1 hleft
    cases restored with
    | error e =>
      cases hleft
      cases h
      obtain rfl := FrameLayout.regs_of_restore_error hload
      exact .refused (some e) hpos
    | ok sp =>
      obtain ⟨u, -, hleft⟩ := Traced.bind_eq_ok.1 hleft
      cases hleft
      cases h
      exact .nested sp regs (by omega) hload
  · have hone : m.nesting = 1 := by omega
    unfold exitOutermost at h
    obtain ⟨⟨left, m₁⟩, hleave, h⟩ := Traced.bind_eq_ok.1 h
    have hleaves : m.outward.Leaves left m₁ := leaves_of_leaveStack hleave
    cases left with
    | error d =>
      cases h
      cases hleaves with
      | refused e => exact .refused (some e) hpos
    | ok u =>
      have hkernel : m₁.kernel = m.kernel := hleaves.kernel
      obtain ⟨decision, hdecision, h⟩ := Traced.bind_eq_ok.1 h
      rw [hkernel] at hdecision h
      refine .outermost hone hleaves hdecision ?_
      cases decision with
      | switchTo target => exact actsOn_of_resumeChosen h
      | keep =>
        dsimp only at h
        split at h
        · cases h
        · rename_i id hrunning
          obtain ⟨⟨answer, m₂⟩, hresume, h⟩ := Traced.bind_eq_ok.1 h
          cases h
          exact actsOn_of_resumeBackground hrunning hresume

/-- Leaving a trap brings a handler back, or resumes what the scheduler wants. -/
theorem exit_cases (h : (m.exit cfg handlers s).result = .ok (.ok (), m', s')) :
    m.nesting = m'.nesting + 1 ∧
      (0 < m'.nesting ∧ m'.kernel = m.kernel ∧ m'.hart.idle = m.hart.idle ∧ s' = s ∨
        m'.nesting = 0 ∧ ∃ decision,
          exitDecision m.kernel.takeDispatch.2 m.kernel.dispatchPending = .ok decision ∧
          Resumed cfg handlers m.kernel.takeDispatch.2 m.hart.idle m' s s' decision) := by
  cases exits_of_exit h with
  | nested sp r hnesting hload =>
    have hpos : 0 < m.nesting := Nat.zero_lt_of_lt hnesting
    exact ⟨(Nat.sub_add_cancel hpos).symm, .inl ⟨Nat.sub_pos_of_lt hnesting, rfl, rfl, rfl⟩⟩
  | outermost hnesting hleaves hdecision hacts =>
    have hzero : m'.nesting = 0 := by
      rw [hacts.nesting, hleaves.nesting, outward, hnesting]
    have hidle : _ = m.hart.idle := hleaves.idle_eq
    exact ⟨by omega, .inr ⟨hzero, _, hdecision, hidle ▸ hacts.resumed⟩⟩

/-! ## The phases together -/

theorem phases_cases (h : (m.phases cfg handlers s).result = .ok (.ok (), m', s')) :
    ∃ context m₁ m₂ s₂, (m.entry cfg).result = .ok (.ok context, m₁) ∧
      (m₁.dispatch cfg handlers s context).result = .ok (.ok (), m₂, s₂) ∧
      (m₂.exit cfg handlers s₂).result = .ok (.ok (), m', s') := by
  unfold phases at h
  obtain ⟨⟨entered, m₁⟩, hentry, h⟩ := Traced.bind_eq_ok.1 h
  cases entered with
  | error d => cases h
  | ok context =>
    obtain ⟨⟨dispatched, m₂, s₂⟩, hdispatch, h⟩ := Traced.bind_eq_ok.1 h
    cases dispatched with
    | error d => cases h
    | ok u => exact ⟨context, m₁, m₂, s₂, hentry, hdispatch, h⟩

/-- A trap that returns went through its three phases. -/
theorem trap_cases {cause : TrapCause} {value : Word}
    (h : (m.trap cfg handlers s cause value).result = .ok (.ok (), m', s')) :
    ∃ hart context m₁ m₂ s₂ m₃, (m.hart.raise cfg cause value).result = .ok hart ∧
      (({ m with hart := hart } : Machine capacity levels).entry cfg).result =
        .ok (.ok context, m₁) ∧
      (m₁.dispatch cfg handlers s context).result = .ok (.ok (), m₂, s₂) ∧
      (m₂.exit cfg handlers s₂).result = .ok (.ok (), m₃, s') ∧
      m' = { m₃ with hart := m₃.hart.exceptionReturn cfg } := by
  unfold trap at h
  obtain ⟨hart, hraise, h⟩ := Traced.bind_eq_ok.1 h
  unfold handleTrap at h
  obtain ⟨u, -, h⟩ := Traced.bind_eq_ok.1 h
  obtain ⟨⟨answer, m₃, s₃⟩, hphases, h⟩ := Traced.bind_eq_ok.1 h
  cases answer with
  | error d =>
    obtain ⟨v, -, h⟩ := Traced.bind_eq_ok.1 h
    cases h
  | ok v =>
    cases h
    obtain ⟨context, m₁, m₂, s₂, hentry, hdispatch, hexit⟩ := phases_cases hphases
    exact ⟨hart, context, m₁, m₂, s₂, m₃, hraise, hentry, hdispatch, hexit, rfl⟩

end Machine

end HartKernel
