import HartKernel.Proofs.Trap.Status

/-!
# The interrupt mask

Interrupts are masked from the moment a trap is taken until the exception return.
Whether they were enabled before is kept in the status word, which travels through
the frame of the interrupted task and comes back when the task does, possibly long
after and past the traps of many other tasks.  A context that has no status of its
own starts with interrupts enabled.

Main definitions:

- `StatusLog` tells the status of every task just before the trap that has
  interrupted it last, and `Machine.Attended` follows a system with such a log.
- `Kernel.Recalls` is the invariant: what the frames left by traps hold.
- `Machine.MaskedThroughout` and `Machine.Unmasks` say what happens to the mask
  while a trap is handled and when it has returned.

Main results:

- `Kernel.Recalls.invoke`, `Machine.recalls_of_interrupted` and
  `Machine.recalls_of_dispatched`: every step keeps the invariant.
- `Machine.resumes_of_exit`: the status with which a task goes on.
- `Machine.Attended.mask_discipline`: the discipline, for every trap of a system.
-/

namespace HartKernel

/-! ## Frames left by traps -/

/-- The calls that save no task as if a trap had interrupted it. -/
def KernelCall.Voluntary : KernelCall → Prop
  | .save _ .interrupted => False
  | _ => True

instance : DecidablePred KernelCall.Voluntary := fun c => by
  unfold KernelCall.Voluntary
  split <;> infer_instance

/-- The status that every task had just before the trap that has interrupted it
last. -/
abbrev StatusLog := TaskId → Option Word

/-- The log after a trap was entered at a given status. -/
def StatusLog.enter (log : StatusLog) (status : Word) : SavedFrame → StatusLog
  | .task id _ => Function.update log id (some status)
  | .idle | .nested _ => log

/-- A frame that a trap has left holds the status of the log, as taking the trap has
changed it. -/
def Task.Recalls (cfg : Config) (t : Task) (status : Option Word) : Prop :=
  t.frameKind = .interrupted → ∃ w r, status = some w ∧ t.Holds cfg .interrupted r ∧
    r.status = Hart.trapStatus cfg.level w

namespace Kernel

variable {capacity levels : Nat} {k k' : Kernel capacity levels} {cfg : Config}
variable {log : StatusLog} {id : TaskId} {kind : FrameKind} {r r' q : RegisterFile}

/-- Every frame that a trap has left holds the status of the log. -/
def Recalls (cfg : Config) (k : Kernel capacity levels) (log : StatusLog) : Prop :=
  ∀ id t, k.task? id = some t → t.Recalls cfg (log id)

theorem Recalls.of_sameContexts (h : k.Recalls cfg log)
    (hsame : TaskTable.SameContexts k.tasks k'.tasks) : k'.Recalls cfg log := by
  intro id t ht hkind
  obtain ⟨u, hu, hcontext⟩ := exists_task?_of_sameContexts hsame ht
  obtain ⟨w, r, hw, hholds, hstatus⟩ :=
    h id u hu ((Task.stack_eq_of_context hcontext).2.2.symm.trans hkind)
  exact ⟨w, r, hw, hholds.of_context hcontext, hstatus⟩

/-- One changed task, and one changed entry of the log. -/
theorem Recalls.updateTask (h : k.Recalls cfg log) {f : Task → Task} {status : Option Word}
    (hf : ∀ t, k.task? id = some t → (f t).Recalls cfg status) :
    (k.updateTask id f).Recalls cfg (Function.update log id status) := by
  intro j u hu
  rw [task?_updateTask] at hu
  split at hu
  · rename_i hj
    obtain ⟨t, ht, rfl⟩ := Option.map_eq_some_iff.1 hu
    subst hj
    rw [Function.update_self]
    exact hf t ht
  · rename_i hj
    rw [Function.update_of_ne hj]
    exact h j u hu

/-- A task that gives up the processor by a call leaves no status. -/
theorem Recalls.saveCooperative (h : k.Recalls cfg log) (id : TaskId) (stack : StackRegion)
    (sp : Word) : (k.recordCall id stack sp).Recalls cfg log := by
  rw [← Function.update_eq_self id log]
  exact h.updateTask fun t _ hkind => by cases hkind

theorem Recalls.addTask (h : k.Recalls cfg log) (a : TaskAttributes) (stack : StackRegion)
    (sp : Word) : (k.addTask (newTask a stack sp)).Recalls cfg log := by
  intro id t ht
  rw [task?_addTask] at ht
  split at ht
  · cases ht
    intro hkind
    cases hkind
  · exact h id t ht

/-- Calls that save no task as interrupted leave the frames of interrupted tasks
alone. -/
theorem Recalls.invoke (h : k.Recalls cfg log) (hwhole : k.Whole cfg) {call : KernelCall}
    {ok : Bool} (hvoluntary : call.Voluntary)
    (hcall : (k.invoke cfg r call).result = .ok (ok, k', r')) : k'.Recalls cfg log := by
  obtain ⟨s, himpl, hvalid⟩ := hwhole.scheduled
  cases himpl.answered hvalid hwhole.framed hcall with
  | quiet hquiet hsame hrunning => exact h.of_sameContexts hsame
  | @create a stack t hframed =>
    -- a new task has a frame that looks like one of a call
    obtain ⟨answer, k₁, hresult, hcases⟩ := himpl.create cfg a stack
    rw [Kernel.invoke, Traced.result_map, hresult] at hcall
    obtain ⟨-, rfl⟩ : answer.isOk = true ∧ k₁ = k.addTask t := by simpa [reply] using hcall
    rcases hcases with ⟨e, -, hsame⟩ | ⟨id, stack', sp, -, -, -, -, hadded, -⟩
    · rw [hsame]
      exact h
    · rw [hadded]
      exact h.addTask a stack' sp
  | @save id kind t stack sp ht hsave =>
    cases kind with
    | interrupted => exact hvoluntary.elim
    | cooperative => exact h.saveCooperative id stack sp
  | switch ht hsource hsave hload hsame hrunning =>
    exact (h.saveCooperative _ _ _).of_sameContexts hsame
  | switchTo hload hsame hrunning => exact h.of_sameContexts hsame

theorem Recalls.reaches (h : k.Recalls cfg log) (hwhole : k.Whole cfg)
    (hreach : k.Reaches cfg KernelCall.Voluntary k') : k'.Recalls cfg log := by
  induction hreach with
  | refl => exact h
  | tail hreach hvoluntary hcall ih => exact ih.invoke (hwhole.reaches hreach) hvoluntary hcall

/-- The status is loaded with the other registers of an interrupted task. -/
theorem Keeps.status_eq (h : k.Keeps cfg id .interrupted r)
    (hload : (k.restoreContext cfg.layouts q id).result = .ok (.ok kind, r')) :
    r'.status = r.status := by
  obtain ⟨t, ht, hholds⟩ := h
  have hstatus : RegisterSlot.status ∈ (cfg.layouts.layout .interrupted).slots := by
    cases hfp : cfg.includeFp <;> rw [Config.layouts, hfp] <;> decide
  have hvariant := hholds.variant
  rw [restoreContext_eq ht (by rw [hvariant]; exact hholds.frame), hvariant] at hload
  cases hload
  change RegisterFile.get _ .status = r.get .status
  rw [← RegisterFile.set_sp, RegisterFile.get_set_of_ne (by decide), hholds.payload]
  exact RegisterFile.get_setAll hstatus (by decide) (by decide) r q

end Kernel

/-! ## Phases of a trap -/

namespace Machine

variable {capacity levels : Nat} {σ : Type} {cfg : Config} {handlers : Handlers σ capacity levels}
variable {m m' : Machine capacity levels} {s s' : σ} {log : StatusLog} {frame : SavedFrame}

/-- Trap entry notes the status of the task that it interrupts. -/
theorem recalls_of_interrupted {k : Kernel capacity levels} {w : Word}
    (h : m.kernel.Recalls cfg log) (hinterrupted : Interrupted cfg m k frame)
    (hstatus : m.hart.regs.status = Hart.trapStatus cfg.level w) :
    k.Recalls cfg (log.enter w frame) := by
  cases hinterrupted with
  | handler sp hnested hkernel => exact hkernel ▸ h
  | idle hnested hsp hrunning hkernel => exact hkernel ▸ h
  | task id sp hnested hsp hrunning hsave =>
    obtain ⟨t, stack, ht, hsaved, rfl⟩ := Kernel.saveContext_eq_ok hsave
    exact h.updateTask fun t _ _ => ⟨w, _, rfl, Task.holds_of_save hsaved t, hstatus⟩

/-- Patching a frame with any program counter and result keeps what it stores
otherwise. -/
theorem stores_answerCall {region : StackRegion} {sp : Word} {r : RegisterFile}
    (h : cfg.layouts.interrupted.Stores region sp r) (pc result : Word) :
    cfg.layouts.interrupted.Stores (answerCall cfg.layouts.interrupted pc result region sp).2 sp
      ((r.set .pc (pc + 4)).set .a0 result) := by
  obtain ⟨-, ha0, hpc⟩ := cfg.mem_interrupted
  have hnodup := cfg.nodup_interrupted
  obtain ⟨region₁, hfirst, h₁, -⟩ := h.writeSlot hpc hnodup (by decide) (by decide) (pc + 4)
  obtain ⟨region₂, hsecond, h₂, -⟩ := h₁.writeSlot ha0 hnodup (by decide) (by decide) result
  simp only [answerCall, hfirst, hsecond]
  exact h₂

/-- The frame of a task that has made an environment call keeps the status: only the
program counter and the result are overwritten. -/
theorem recalls_of_accessed {k k' : Kernel capacity levels} {pc result : Word}
    (h : k.Recalls cfg log) (hparks : k.Parks cfg frame)
    (haccess : Accessed (answerCall cfg.layouts.interrupted pc result) k k' frame) :
    k'.Recalls cfg log := by
  cases haccess with
  | nested sp hkernel => exact hkernel ▸ h
  | task id sp t ht hkernel =>
    rw [hkernel, ← Function.update_eq_self id log]
    refine h.updateTask fun u hu hkind => ?_
    rw [ht] at hu
    cases hu
    obtain ⟨w, r, hw, hholds, hstatus⟩ := h id t ht hkind
    -- the frame is the one at the address that the trap context has
    obtain ⟨-, r₁, ⟨t₁, ht₁, hholds₁⟩, hplace⟩ := hparks
    rw [ht] at ht₁
    cases ht₁
    obtain rfl : t.savedSp = sp := by
      have habove : t.savedSp.toNat + cfg.layouts.interrupted.frameSize = r₁.sp.toNat :=
        hholds₁.above
      exact BitVec.eq_of_toNat_eq (by omega)
    have hstores := stores_answerCall hholds.stores pc result
    refine ⟨w, _, hw, ⟨hkind, hstores.frame, hstores.payload, ?_⟩, hstatus⟩
    rw [← RegisterFile.get_sp, RegisterFile.get_set_of_ne (by decide),
      RegisterFile.get_set_of_ne (by decide), RegisterFile.get_sp]
    exact hholds.above

/-- Dispatch leaves the statuses in frames alone. -/
theorem recalls_of_dispatched {cause : TrapCause}
    (hcalling : handlers.Calling cfg KernelCall.Voluntary) (h : m.kernel.Recalls cfg log)
    (hwhole : m.kernel.Whole cfg) (hparks : m.kernel.Parks cfg frame)
    (hdispatched : Dispatched cfg handlers m m' s s' frame cause) :
    m'.kernel.Recalls cfg log := by
  cases hdispatched with
  | software hkernel hs =>
    rw [hkernel]
    exact h.of_sameContexts (.refl _)
  | timer kernel htick hkernel =>
    have hticked : m.kernel.advanceTick.Recalls cfg log := h.of_sameContexts (.refl _)
    rw [hkernel]
    exact (hticked.reaches hwhole.spares_advanceTick.whole
      (hcalling.tick _ _ _ _ _ htick)).of_sameContexts (.refl _)
  | external code hexternal => exact h.reaches hwhole (hcalling.external _ _ _ _ _ hexternal)
  | environmentCall code number argument pc result served accessed hserve haccess hkernel hs =>
    have hcall := Kernel.invoke_serve hserve cfg m.hart.regs
    have hvoluntary : (KernelCall.serve frame.owner? number argument).Voluntary := trivial
    have hserved : served.Recalls cfg log := h.invoke hwhole hvoluntary hcall
    have hparked : served.Parks cfg frame :=
      hparks.reaches hwhole (.tail (.refl _) (by trivial) hcall)
    rw [hkernel]
    exact (recalls_of_accessed hserved hparked haccess).of_sameContexts (.refl _)

/-! ## The status after an exit -/

/-- What a task is resumed with: the status that its frame holds if a trap has left
the frame, and the default status otherwise. -/
theorem status_of_resumed {k : Kernel capacity levels} {idle : Bool} {decision : Decision}
    (hrecalls : k.Recalls cfg log) (hframed : k.Framed cfg)
    (h : Resumed cfg handlers k idle m' s s' decision) {id : TaskId} {t : Task}
    (hcurrent : m'.kernel.running = some id) (ht : k.task? id = some t) :
    (t.frameKind = .interrupted → ∃ w, log id = some w ∧
        m'.hart.regs.status = Hart.trapStatus cfg.level w) ∧
      (t.frameKind = .cooperative → m'.hart.regs.status = cfg.initialStatus) := by
  -- the variant of the frame decides how the task is resumed
  have hloaded : ∀ {q r' : RegisterFile} {kind : FrameKind},
      (k.restoreContext cfg.layouts q id).result = .ok (.ok kind, r') →
      kind = t.frameKind ∧ (t.frameKind = .interrupted → ∃ w, log id = some w ∧
        r'.status = Hart.trapStatus cfg.level w) := by
    intro q r' kind hload
    refine ⟨?_, fun hkind => ?_⟩
    · rw [Kernel.restoreContext_eq ht (hframed id t ht)] at hload
      cases hload
      rfl
    · obtain ⟨w, r, hw, hholds, hstatus⟩ := hrecalls id t ht hkind
      exact ⟨w, hw, (Kernel.Keeps.status_eq ⟨t, ht, hholds⟩ hload).trans hstatus⟩
  cases h with
  | background a q hrunning hload hkernel hidle hs =>
    rw [hkernel, (Option.filter_eq_some_iff.1 hrunning).1] at hcurrent
    cases hcurrent
    obtain ⟨hkind, hstatus⟩ := hloaded hload
    refine ⟨hstatus, fun hcooperative => ?_⟩
    cases hkind.trans hcooperative
  | task a kind q loaded hload hkernel hregs hidle hs =>
    obtain rfl : a = id :=
      Option.some.inj ((Kernel.running_of_handOver hkernel).symm.trans hcurrent)
    obtain ⟨hkind, hstatus⟩ := hloaded hload
    rw [hregs]
    constructor
    · intro hinterrupted
      rw [hkind.trans hinterrupted]
      exact hstatus hinterrupted
    · intro hcooperative
      rw [hkind.trans hcooperative]
      rfl
  | idle hkernel hsp hidle hs =>
    rw [Kernel.running_of_handOver hkernel] at hcurrent
    cases hcurrent

/-- What an outermost exit that goes well leaves behind. -/
theorem resumes_of_exit (hwhole : m.kernel.Whole cfg) (hrecalls : m.kernel.Recalls cfg log)
    (hnesting : m.nesting = 1) (hexit : (m.exit cfg handlers s).result = .ok (.ok (), m', s')) :
    m'.nesting = 0 ∧ m'.kernel.Whole cfg ∧ m'.kernel.Recalls cfg log ∧
      (m'.kernel.running = none → m'.hart.regs.status = cfg.initialStatus) ∧
      ∀ id t, m'.kernel.running = some id → m'.kernel.task? id = some t →
        (t.frameKind = .interrupted → ∃ w, log id = some w ∧
          m'.hart.regs.status = Hart.trapStatus cfg.level w) ∧
        (t.frameKind = .cooperative → m'.hart.regs.status = cfg.initialStatus) := by
  obtain ⟨hwhole', hsame⟩ := whole_of_exit hwhole hexit
  have hidle : m'.kernel.running = none → m'.hart.regs.status = cfg.initialStatus := by
    rcases status_exit hnesting hexit with ⟨d, hd, -⟩ | ⟨-, hidle⟩
    · cases hd
    · exact hidle
  obtain ⟨hbefore, ⟨hpos, -⟩ | ⟨hzero, decision, -, hresumed⟩⟩ := exit_cases hexit
  · omega
  · refine ⟨hzero, hwhole', hrecalls.of_sameContexts hsame, hidle, fun id t hcurrent ht => ?_⟩
    have htaken : TaskTable.SameContexts m.kernel.takeDispatch.2.tasks m'.kernel.tasks := hsame
    obtain ⟨u, hu, hcontext⟩ := Kernel.exists_task?_of_sameContexts htaken ht
    have htakenRecalls : m.kernel.takeDispatch.2.Recalls cfg log :=
      hrecalls.of_sameContexts (.refl _)
    have hresult := status_of_resumed htakenRecalls hwhole.takeDispatch.framed hresumed hcurrent hu
    rwa [← (Task.stack_eq_of_context hcontext).2.2] at hresult

/-! ## Systems and their logs -/

/-- The states that a system can be in while no trap is being handled, with the log
of the statuses that traps have found.  Whoever holds the hart may change the hart
and make calls, but saves no task as interrupted, and stacks are written by the
kernel and the trap handler only.  A trap is handled from beginning to end. -/
inductive Attended (cfg : Config) (handlers : Handlers σ capacity levels) :
    StatusLog → Machine capacity levels → σ → Prop where
  | initial {interruptStack : StackRegion} {m : Machine capacity levels} (s : σ)
    (hinitial : initial cfg capacity levels interruptStack = .ok m) :
    Attended cfg handlers (fun _ => none) m s
  | call {log : StatusLog} {m : Machine capacity levels} {s : σ} {r r' : RegisterFile}
    {c : KernelCall} {ok : Bool} {k : Kernel capacity levels} (h : Attended cfg handlers log m s)
    (hvoluntary : c.Voluntary) (hcall : (m.kernel.invoke cfg r c).result = .ok (ok, k, r')) :
    Attended cfg handlers log { m with kernel := k } s
  | work {log : StatusLog} {m : Machine capacity levels} {s : σ} (hart : Hart)
    (h : Attended cfg handlers log m s) : Attended cfg handlers log { m with hart := hart } s
  | trap {log : StatusLog} {m m₁ m' : Machine capacity levels} {s s' : σ} {cause : TrapCause}
    {value : Word} {context : TrapContext} (h : Attended cfg handlers log m s)
    (htake : (m.take cfg cause value).result = .ok (.ok context, m₁))
    (htrap : (m.trap cfg handlers s cause value).result = .ok (.ok (), m', s')) :
    Attended cfg handlers (log.enter m.hart.regs.status context.frame) m' s'

/-- Interrupts are masked when a trap was taken, and after each of its phases, whether
the phase goes well or not. -/
def MaskedThroughout (cfg : Config) (handlers : Handlers σ capacity levels)
    (m : Machine capacity levels) (s : σ) (cause : TrapCause) (value : Word) : Prop :=
  ∀ hart, (m.hart.raise cfg cause value).result = .ok hart → hart.Masked cfg ∧
    ∀ entered m₁,
      (({ m with hart := hart } : Machine capacity levels).entry cfg).result = .ok (entered, m₁) →
      m₁.hart.Masked cfg ∧ ∀ context, entered = .ok context → ∀ dispatched m₂ s₂,
        (m₁.dispatch cfg handlers s context).result = .ok (dispatched, m₂, s₂) →
        m₂.hart.Masked cfg ∧ (dispatched = .ok () → ∀ left m₃ s₃,
          (m₂.exit cfg handlers s₂).result = .ok (left, m₃, s₃) → m₃.hart.Masked cfg)

/-- What a trap that has returned left of the interrupt mask.  A task that goes on from
the frame of a trap has the status of the log back.  A task that starts from the
frame of a call, and the idle loop, can be interrupted. -/
structure Unmasks (cfg : Config) (log : StatusLog) (m : Machine capacity levels) : Prop where
  interrupted : ∀ id t, m.kernel.running = some id → m.kernel.task? id = some t →
    t.frameKind = .interrupted →
      ∃ w, log id = some w ∧ Status.Restored cfg.level w m.hart.regs.status
  cooperative : ∀ id t, m.kernel.running = some id → m.kernel.task? id = some t →
    t.frameKind = .cooperative → ¬m.hart.Masked cfg
  idle : m.kernel.running = none → ¬m.hart.Masked cfg

/-- The kernel and the log after entry and dispatch of a trap. -/
theorem recalls_of_phases {cause : TrapCause} {value : Word} {hart : Hart}
    {context : TrapContext} {m₁ m₂ : Machine capacity levels} {s₂ : σ}
    (hcalling : handlers.Calling cfg KernelCall.Voluntary) (hwhole : m.kernel.Whole cfg)
    (hnesting : m.nesting = 0) (hrecalls : m.kernel.Recalls cfg log)
    (hraise : (m.hart.raise cfg cause value).result = .ok hart)
    (hentry : (({ m with hart := hart } : Machine capacity levels).entry cfg).result =
      .ok (.ok context, m₁))
    (hdispatch : (m₁.dispatch cfg handlers s context).result = .ok (.ok (), m₂, s₂)) :
    m₂.kernel.Whole cfg ∧ m₂.nesting = 1 ∧
      m₂.kernel.Recalls cfg (log.enter m.hart.regs.status context.frame) := by
  obtain ⟨-, hinterrupted, hnesting₁, -⟩ := entry_cases hentry
  obtain ⟨hdispatched, hnesting₂, -⟩ := dispatch_cases hdispatch
  have hwhole₁ : m₁.kernel.Whole cfg := whole_of_entry (m := { m with hart := hart }) hwhole hentry
  have hstatus : hart.regs.status = Hart.trapStatus cfg.level m.hart.regs.status := by
    rw [(Hart.raise_cases hraise).2.2.2]
  have hrecalls₁ := recalls_of_interrupted (m := { m with hart := hart }) hrecalls hinterrupted
    hstatus
  have hparks := hinterrupted.parks hnesting
  refine ⟨whole_of_dispatched hcalling hwhole₁ (hinterrupted.aligned hwhole) hdispatched, ?_,
    recalls_of_dispatched hcalling hrecalls₁ hwhole₁ hparks hdispatched⟩
  dsimp only at hnesting₁
  omega

/-- An outermost exit leaves interrupts masked, whether it goes well or not. -/
theorem masked_of_exit (hlevel : cfg.level = 1 ∨ cfg.level = 3)
    (hinitial : cfg.initialStatus = Status.initial cfg.level cfg.includeFp)
    (hwhole : m.kernel.Whole cfg) (hrecalls : m.kernel.Recalls cfg log) (hnesting : m.nesting = 1)
    (hmasked : m.hart.Masked cfg) {answer : Except FatalTrap Unit}
    (hexit : (m.exit cfg handlers s).result = .ok (answer, m', s')) : m'.hart.Masked cfg := by
  have hdefault := (Hart.initial_and_enable hlevel cfg.includeFp).1
  rw [← hinitial] at hdefault
  cases answer with
  | error d =>
    rcases status_exit hnesting hexit with ⟨d', -, hstatus⟩ | ⟨hok, -⟩
    · exact hmasked.of_status hstatus
    · cases hok
  | ok u =>
    obtain ⟨-, hwhole', -, hidle, hresumed⟩ := resumes_of_exit hwhole hrecalls hnesting hexit
    rw [Hart.Masked]
    cases hrunning : m'.kernel.running with
    | none =>
      rw [hidle hrunning]
      exact hdefault
    | some id =>
      obtain ⟨t, ht, -⟩ := hwhole'.wellFormed.current id hrunning
      obtain ⟨hinterrupted, hcooperative⟩ := hresumed id t hrunning ht
      cases hkind : t.frameKind with
      | interrupted =>
        obtain ⟨w, -, hstatus⟩ := hinterrupted hkind
        rw [hstatus]
        exact Hart.trapStatus_and_enable hlevel w
      | cooperative =>
        rw [hcooperative hkind]
        exact hdefault

/-- The exception return after an outermost exit brings back what the log says, or
enables interrupts. -/
theorem unmasks_of_exit (hlevel : cfg.level = 1 ∨ cfg.level = 3)
    (hinitial : cfg.initialStatus = Status.initial cfg.level cfg.includeFp)
    (hwhole : m.kernel.Whole cfg) (hrecalls : m.kernel.Recalls cfg log) (hnesting : m.nesting = 1)
    (hexit : (m.exit cfg handlers s).result = .ok (.ok (), m', s')) :
    Unmasks cfg log { m' with hart := m'.hart.exceptionReturn cfg } := by
  obtain ⟨-, -, -, hidle, hresumed⟩ := resumes_of_exit hwhole hrecalls hnesting hexit
  have hdefault : m'.hart.regs.status = cfg.initialStatus →
      ¬(m'.hart.exceptionReturn cfg).Masked cfg := by
    intro hstatus
    change Hart.returnStatus cfg.level m'.hart.regs.status &&& _ ≠ 0
    rw [hstatus, hinitial]
    exact (Hart.initial_and_enable hlevel cfg.includeFp).2
  constructor
  · intro id t hrunning ht hkind
    obtain ⟨w, hw, hstatus⟩ := (hresumed id t hrunning ht).1 hkind
    refine ⟨w, hw, ?_⟩
    change Status.Restored cfg.level w (Hart.returnStatus cfg.level m'.hart.regs.status)
    rw [hstatus]
    exact Hart.restored_returnStatus hlevel w
  · exact fun id t hrunning ht hkind => hdefault ((hresumed id t hrunning ht).2 hkind)
  · exact fun hnone => hdefault (hidle hnone)

end Machine

/-- The moves of a system in which a trap is handled from beginning to end. -/
def Move.Attended : Move → Prop
  | .call c => c.Voluntary
  | .work _ | .trap _ _ => True
  | .write .. | .writeInterrupt .. | .enter .. | .dispatch _ | .exit => False

instance : DecidablePred Move.Attended
  | .call c => inferInstanceAs (Decidable c.Voluntary)
  | .work _ | .trap _ _ => isTrue trivial
  | .write .. | .writeInterrupt .. | .enter .. | .dispatch _ | .exit => isFalse not_false

namespace Machine.Attended

variable {capacity levels : Nat} {σ : Type} {cfg : Config} {handlers : Handlers σ capacity levels}
variable {m m' : Machine capacity levels} {s s' : σ} {log : StatusLog}

/-- No trap is being handled, and the frames that traps have left hold the statuses
of the log. -/
theorem invariant (hcalling : handlers.Calling cfg KernelCall.Voluntary)
    (h : Attended cfg handlers log m s) :
    m.kernel.Whole cfg ∧ m.nesting = 0 ∧ m.kernel.Recalls cfg log := by
  induction h with
  | @initial interruptStack m s hinitial =>
    obtain ⟨k, -, hm⟩ := bind_eq_ok_iff.1 hinitial
    refine ⟨whole_initial hinitial, by cases hm; rfl, fun id t ht => ?_⟩
    have hlookup := (implements_initial hinitial).lookup?_of_task? ht
    cases hlookup
  | call h hvoluntary hcall ih =>
    obtain ⟨hwhole, hnesting, hrecalls⟩ := ih
    exact ⟨(hwhole.spares_invoke hcall).whole, hnesting, hrecalls.invoke hwhole hvoluntary hcall⟩
  | work hart h ih => exact ih
  | trap h htake htrap ih =>
    obtain ⟨hwhole, hnesting, hrecalls⟩ := ih
    obtain ⟨hart, context', m₂, m₃, s₃, m₄, hraise, hentry, hdispatch, hexit, rfl⟩ :=
      trap_cases htrap
    rw [take, Traced.result_bind, hraise, ok_bind, hentry] at htake
    cases htake
    obtain ⟨hwhole₃, hnesting₃, hrecalls₃⟩ :=
      recalls_of_phases hcalling hwhole hnesting hrecalls hraise hentry hdispatch
    obtain ⟨hnesting₄, hwhole₄, hrecalls₄, -⟩ :=
      resumes_of_exit hwhole₃ hrecalls₃ hnesting₃ hexit
    exact ⟨hwhole₄, hnesting₄, hrecalls₄⟩

theorem move (h : Attended cfg handlers log m s) {mv : Move} {ok : Bool}
    (hattended : mv.Attended)
    (hmove : (m.move cfg handlers s mv).result = .ok (.ok ok, m', s')) :
    ∃ log', Attended cfg handlers log' m' s' := by
  cases move_cases hmove with
  | call hcall => exact ⟨log, (h.call hattended hcall).work _⟩
  | work hart => exact ⟨log, h.work hart⟩
  | @trap cause value ok m' s' htrap =>
    obtain ⟨hart, context, m₁, m₂, s₂, m₃, hraise, hentry, -⟩ := trap_cases htrap
    have htake : (m.take cfg cause value).result = .ok (.ok context, m₁) := by
      rw [take, Traced.result_bind, hraise, ok_bind, hentry]
    exact ⟨_, h.trap htake htrap⟩
  | _ => exact hattended.elim

/-- A run of such moves has a log. -/
theorem play (h : Attended cfg handlers log m s) {moves : List Move}
    (hattended : ∀ mv ∈ moves, mv.Attended)
    (hplay : (m.play cfg handlers s moves).result = .ok (.ok (), m', s')) :
    ∃ log', Attended cfg handlers log' m' s' := by
  refine play_induction (P := fun _ m s => ∃ log, Attended cfg handlers log m s) [] ?_ ⟨log, h⟩
    hplay
  rintro done mv m s ok m' s' hmem ⟨log, h⟩ hmove
  exact h.move (hattended mv hmem) hmove

/-- Interrupts stay masked from taking a trap to the exception return.  After that a
task that goes on from the frame of a trap has the interrupt enable that it had just
before this trap, and the rest of its status up to the values from before the trap;
a task that starts from the frame of a call, and the idle loop, have interrupts
enabled. -/
theorem mask_discipline (hlevel : cfg.level = 1 ∨ cfg.level = 3)
    (hinitial : cfg.initialStatus = Status.initial cfg.level cfg.includeFp)
    (hcalling : handlers.Calling cfg KernelCall.Voluntary) (h : Attended cfg handlers log m s)
    (cause : TrapCause) (value : Word) :
    m.MaskedThroughout cfg handlers s cause value ∧
      ∀ context m₁ m' s', (m.take cfg cause value).result = .ok (.ok context, m₁) →
        (m.trap cfg handlers s cause value).result = .ok (.ok (), m', s') →
        m'.Unmasks cfg (log.enter m.hart.regs.status context.frame) := by
  obtain ⟨hwhole, hnesting, hrecalls⟩ := h.invariant hcalling
  constructor
  · intro hart hraise
    have hmasked : hart.Masked cfg := Hart.masked_raise (by omega) hraise
    refine ⟨hmasked, fun entered m₁ hentry => ?_⟩
    have hmasked₁ : m₁.hart.Masked cfg :=
      hmasked.of_status (status_entry (m := { m with hart := hart }) hentry)
    refine ⟨hmasked₁, ?_⟩
    rintro context rfl dispatched m₂ s₂ hdispatch
    have hwhole₁ : m₁.kernel.Whole cfg :=
      whole_of_entry (m := { m with hart := hart }) hwhole hentry
    have hmasked₂ : m₂.hart.Masked cfg :=
      hmasked₁.of_status (congrArg RegisterFile.status (regs_dispatch hwhole₁.scheduled hdispatch))
    refine ⟨hmasked₂, ?_⟩
    rintro rfl left m₃ s₃ hexit
    obtain ⟨hwhole₂, hnesting₂, hrecalls₂⟩ :=
      recalls_of_phases hcalling hwhole hnesting hrecalls hraise hentry hdispatch
    exact masked_of_exit hlevel hinitial hwhole₂ hrecalls₂ hnesting₂ hmasked₂ hexit
  · intro context m₁ m' s' htake htrap
    obtain ⟨hart, context', m₂, m₃, s₃, m₄, hraise, hentry, hdispatch, hexit, rfl⟩ :=
      trap_cases htrap
    rw [take, Traced.result_bind, hraise, ok_bind, hentry] at htake
    cases htake
    obtain ⟨hwhole₃, hnesting₃, hrecalls₃⟩ :=
      recalls_of_phases hcalling hwhole hnesting hrecalls hraise hentry hdispatch
    exact unmasks_of_exit hlevel hinitial hwhole₃ hrecalls₃ hnesting₃ hexit

/-- The first task is interrupted while it has interrupts disabled, and goes on after
the other one had the processor. -/
theorem mask_discipline_disabled :
    ∃ (log : StatusLog) (m m' : Machine 4 4),
      Attended (Config.machine false) (Handlers.default : Handlers Unit 4 4) log m () ∧
      (m.trap (Config.machine false) Handlers.default () .software 0).result =
        .ok (.ok (), m', ()) ∧
      m'.kernel.running = some ⟨0⟩ ∧ log ⟨0⟩ = some 0x6000 ∧
      Status.Restored 3 0x6000 m'.hart.regs.status ∧
      m.MaskedThroughout (Config.machine false) Handlers.default () .software 0 := by
  obtain ⟨⟨m₀, u₀⟩, hplay, hm⟩ := exists_of_returns
    (x := small.play (Config.machine false) (Handlers.default : Handlers Unit 4 4) ()
      (Move.launchTwo ++ [.work ((small.hart.setSp 0x40010200).setStatus 0x6000)]))
    (p := fun b => decide (b.1.hart.regs.status = 0x6000) &&
      (ends (b.1.take (Config.machine false) .software 0) (fun a =>
        decide (a.1 = .ok ⟨.software, .task ⟨0⟩ 0x400100f0⟩)) &&
      returns (b.1.trap (Config.machine false) Handlers.default () .software 0) fun b =>
        ends (Machine.take (Config.machine false) { b.1 with hart := small.hart.setSp 0x40020200 }
          .software 0) (fun a => decide (a.1 = .ok ⟨.software, .task ⟨1⟩ 0x400200f0⟩)) &&
        returns (Machine.trap (Config.machine false) Handlers.default
          { b.1 with hart := small.hart.setSp 0x40020200 } () .software 0) fun b =>
            decide (b.1.kernel.running = some ⟨0⟩ ∧
              (b.1.kernel.task? ⟨0⟩).map Task.frameKind = some .interrupted)))
    (by decide +kernel)
  obtain ⟨hstatus, hm⟩ := Bool.and_eq_true_iff.1 hm
  obtain ⟨htake₁, hm⟩ := Bool.and_eq_true_iff.1 hm
  obtain ⟨⟨context₁, n₁⟩, htake₁, hcontext₁⟩ := exists_of_ends htake₁
  cases of_decide_eq_true hcontext₁
  obtain ⟨⟨m₁, u₁⟩, htrap₁, hm⟩ := exists_of_returns hm
  obtain ⟨htake₂, hm⟩ := Bool.and_eq_true_iff.1 hm
  obtain ⟨⟨context₂, n₂⟩, htake₂, hcontext₂⟩ := exists_of_ends htake₂
  cases of_decide_eq_true hcontext₂
  obtain ⟨⟨m₂, u₂⟩, htrap₂, hm⟩ := exists_of_returns hm
  obtain ⟨hrunning, hkind⟩ := of_decide_eq_true hm
  obtain ⟨t, ht, hkind⟩ := Option.map_eq_some_iff.1 hkind
  obtain ⟨log, h₀⟩ := (Attended.initial () initial_small).play (by decide) hplay
  have h₁ := (h₀.trap htake₁ htrap₁).work (small.hart.setSp 0x40020200)
  rw [of_decide_eq_true hstatus] at h₁
  obtain ⟨hmasked, hunmasks⟩ :=
    mask_discipline (.inr rfl) rfl (Handlers.calling_default _ _) h₁ .software 0
  obtain ⟨w, hw, hrestored⟩ :=
    (hunmasks _ _ _ _ htake₂ htrap₂).interrupted ⟨0⟩ t hrunning ht hkind
  cases hw
  exact ⟨_, _, m₂, h₁, htrap₂, hrunning, rfl, hrestored, hmasked⟩

end Machine.Attended

end HartKernel
