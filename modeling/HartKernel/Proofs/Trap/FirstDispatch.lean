import HartKernel.Proofs.Trap.Absence

/-!
# The first dispatch of a task

A task is created with a frame on its stack that looks as if the task had made a
call at its entry point.  Until the task gets the processor for the first time
nobody touches that frame: the task is not interrupted, it does not switch away,
and no trap that is being handled is its trap.  So it starts where it was told
to, whatever happens in between.

Main definitions:

- `Kernel.Creates` says that a task was created on the way from one kernel to
  another.
- `Hart.Starts` says that a hart starts a task.
- `FirstDispatch` is a run in which a task is created and gets the processor for
  the first time when an outermost trap is left.

Main results:

- `Kernel.Creates.keeps`: what the frame of a new task holds.
- `Session.waits_of_play`: a task that has not run yet keeps its frame.
- `FirstDispatch.task_starts`: the hart starts the task.
-/

namespace HartKernel

/-! ## Starting a task -/

/-- The numbers of the registers that a call preserves, for both files. -/
def RegisterFile.preserved : List Nat := 8 :: 9 :: List.range' 18 10

/-- A hart starts a task: it is at the entry point of the task with the parameter
of the task as argument, it returns to the exit address, the registers that a call
preserves are zero, and the stack is empty.  The status is the initial one, as an
exception return leaves it. -/
structure Hart.Starts (cfg : Config) (a : TaskAttributes) (stack : StackRegion) (h : Hart) :
    Prop where
  pc : h.regs.pc = a.entryPoint
  argument : h.regs.get .a0 = a.entryParam
  link : h.regs.get .ra = cfg.exitAddress
  sp : h.regs.sp.toNat = stack.alignedTop
  int : ∀ n ∈ RegisterFile.preserved, h.regs.get (.int n) = 0
  float : cfg.includeFp = true →
    (∀ n ∈ RegisterFile.preserved, h.regs.get (.float n) = 0) ∧ h.regs.fcsr = 0
  status : h.regs.status = Hart.returnStatus cfg.level cfg.initialStatus

namespace Kernel

variable {capacity levels : Nat} {k k' : Kernel capacity levels} {cfg : Config}
variable {a : TaskAttributes} {stack : StackRegion} {id : TaskId}

/-- The registers with which a new task starts, as its frame holds them. -/
def entryRegisters (cfg : Config) (a : TaskAttributes) (stack : StackRegion) : RegisterFile :=
  (startRegisters cfg a).setSp (BitVec.ofNat 64 stack.alignedTop)

theorem get_entryRegisters {s : RegisterSlot} (hra : s ≠ .ra) (ha0 : s ≠ .a0) (hsp : s ≠ .sp)
    (hpc : s ≠ .pc) : (entryRegisters cfg a stack).get s = 0 := by
  rw [entryRegisters, ← RegisterFile.set_sp, RegisterFile.get_set_of_ne hsp, startRegisters,
    RegisterFile.get_set_of_ne hra, RegisterFile.get_set_of_ne ha0]
  rw [← RegisterFile.get_zero s]
  cases s with
  | pc => exact absurd rfl hpc
  | _ => rfl

/-- Registers that agree with those of a new task start the task. -/
theorem starts_of_agree {h : Hart}
    (hagree : RegisterFile.Agree (cfg.layouts.layout .cooperative) (entryRegisters cfg a stack)
      h.regs)
    (hstatus : h.regs.status = cfg.initialStatus) :
    (h.exceptionReturn cfg).Starts cfg a stack := by
  obtain ⟨hsp, hslots⟩ := hagree
  have hint : ∀ n ∈ 1 :: 10 :: RegisterFile.preserved,
      .int n ∈ (cfg.layouts.layout .cooperative).slots := by
    cases hfp : cfg.includeFp <;> rw [Config.layouts, hfp] <;> decide
  have hpc : .pc ∈ (cfg.layouts.layout .cooperative).slots := by
    cases hfp : cfg.includeFp <;> rw [Config.layouts, hfp] <;> decide
  have hfloat : cfg.includeFp = true → ∀ s ∈ RegisterSlot.floatStatus ::
      RegisterFile.preserved.map .float, s ∈ (cfg.layouts.layout .cooperative).slots := by
    intro hfp
    rw [Config.layouts, hfp]
    decide
  have hzero : ∀ n ∈ RegisterFile.preserved, n ≠ 1 ∧ n ≠ 10 ∧ n ≠ 2 := by decide
  constructor
  · exact hslots .pc hpc (by decide)
  · exact hslots .a0 (hint 10 (by decide)) (by decide)
  · exact hslots .ra (hint 1 (by decide)) (by decide)
  · change h.regs.sp.toNat = _
    rw [hsp, entryRegisters, RegisterFile.sp_setSp, BitVec.toNat_ofNat]
    exact Nat.mod_eq_of_lt ((alignDown_le 16 stack.top).trans_lt stack.top_lt)
  · intro n hn
    obtain ⟨h1, h10, h2⟩ := hzero n hn
    have hmem := hint n (List.mem_cons_of_mem _ (List.mem_cons_of_mem _ hn))
    refine (hslots (.int n) hmem (by simp)).trans (get_entryRegisters ?_ ?_ ?_ (by simp))
    · simpa [RegisterSlot.ra] using h1
    · simpa [RegisterSlot.a0] using h10
    · simpa [RegisterSlot.sp] using h2
  · intro hfp
    refine ⟨fun n hn => ?_, ?_⟩
    · have hmem := hfloat hfp (.float n) (List.mem_cons_of_mem _ (List.mem_map_of_mem hn))
      refine (hslots (.float n) hmem (by simp)).trans (get_entryRegisters ?_ ?_ ?_ (by simp))
      · simp [RegisterSlot.ra]
      · simp [RegisterSlot.a0]
      · simp [RegisterSlot.sp]
    · have hmem := hfloat hfp .floatStatus List.mem_cons_self
      exact (hslots .floatStatus hmem (by decide)).trans
        (get_entryRegisters (by decide) (by decide) (by decide) (by decide))
  · change Hart.returnStatus cfg.level h.regs.status = _
    rw [hstatus]

/-! ## Creating a task -/

/-- Calls that need no registers lead from one kernel to another, and one of them
has created a task. -/
def Creates (cfg : Config) (k : Kernel capacity levels) (a : TaskAttributes)
    (stack : StackRegion) (id : TaskId) (k' : Kernel capacity levels) : Prop :=
  ∃ k₁ k₂ : Kernel capacity levels, k.Reaches cfg KernelCall.Plain k₁ ∧
    (k₁.create cfg a stack).result = .ok (.ok id, k₂) ∧ k₂.Reaches cfg KernelCall.Plain k'

theorem size_of_sameContexts (h : TaskTable.SameContexts k.tasks k'.tasks) :
    k'.tasks.size = k.tasks.size := by
  simpa using congrArg Array.size h

/-- A call removes no task. -/
theorem Answered.size_le {call : KernelCall} {ok : Bool} {r r' : RegisterFile}
    (h : Answered cfg k r call ok k' r') : k.tasks.size ≤ k'.tasks.size := by
  cases h with
  | quiet hquiet hsame hrunning => exact (size_of_sameContexts hsame).ge
  | create ht => simp [addTask]
  | save ht hsave => simp [updateTask]
  | switch ht hsource hsave hload hsame hrunning =>
    rw [size_of_sameContexts hsame]
    simp [recordCall, updateTask]
  | switchTo hload hsame hrunning => exact (size_of_sameContexts hsame).ge

theorem Whole.size_le_of_invoke (h : k.Whole cfg) {call : KernelCall} {ok : Bool}
    {r r' : RegisterFile} (hcall : (k.invoke cfg r call).result = .ok (ok, k', r')) :
    k.tasks.size ≤ k'.tasks.size := by
  obtain ⟨s, himpl, hvalid⟩ := h.scheduled
  exact (himpl.answered hvalid h.framed hcall).size_le

theorem Whole.size_le_of_reaches (h : k.Whole cfg) (hreach : k.Reaches cfg KernelCall.Plain k') :
    k.tasks.size ≤ k'.tasks.size := by
  induction hreach with
  | refl => exact le_rfl
  | @tail k₁ k₂ r r' call ok hreach hplain hcall ih =>
    exact ih.trans ((h.spares_reaches hreach).whole.size_le_of_invoke hcall)

/-- A task is created by pushing its first frame on its stack, and put at the end of
the table. -/
theorem Creates.cases (h : k.Whole cfg) (hcreates : k.Creates cfg a stack id k') :
    ∃ (k₁ : Kernel capacity levels) (stack' : StackRegion) (savedSp : Word), k₁.Whole cfg ∧
      k.tasks.size ≤ k₁.tasks.size ∧ id.index = k₁.tasks.size ∧
      (cfg.layouts.cooperative.save (startRegisters cfg a) stack
        (BitVec.ofNat 64 stack.alignedTop)).result = .ok (.ok savedSp, stack') ∧
      k₁.Spares cfg (k₁.addTask (newTask a stack' savedSp)) (fun _ => True) ∧
      (k₁.addTask (newTask a stack' savedSp)).Reaches cfg KernelCall.Plain k' := by
  obtain ⟨k₁, k₂, hbefore, hcreate, hafter⟩ := hcreates
  have hwhole₁ := (h.spares_reaches hbefore).whole
  have hcall : (k₁.invoke cfg .zero (.create a stack)).result = .ok (true, k₂, .zero) := by
    rw [invoke, Traced.result_map, hcreate]
    rfl
  have hspares : k₁.Spares cfg k₂ fun _ => True :=
    (hwhole₁.spares_invoke hcall).mono fun _ _ _ => by simp [KernelCall.saved?, KernelCall.target?]
  obtain ⟨s, himpl, hvalid⟩ := hwhole₁.scheduled
  obtain ⟨answer, k₃, hresult, hcases⟩ := himpl.create cfg a stack
  rw [hresult] at hcreate
  cases hcreate
  rcases hcases with ⟨e, he, -⟩ | ⟨id', stack', savedSp, hid, -, hindex, hsave, rfl, -⟩
  · cases he
  · cases hid
    exact ⟨k₁, stack', savedSp, hwhole₁, h.size_le_of_reaches hbefore, hindex, hsave, hspares,
      hafter⟩

/-- A task that was created is new, it is not the current one, and its frame holds
the registers that it starts with. -/
theorem Creates.keeps (h : k.Whole cfg) (hcreates : k.Creates cfg a stack id k') :
    k.tasks.size ≤ id.index ∧ k'.running ≠ some id ∧
      k'.Keeps cfg id .cooperative (entryRegisters cfg a stack) := by
  obtain ⟨k₁, stack', savedSp, hwhole₁, hsize, hindex, hsave, hspares, hafter⟩ := hcreates.cases h
  have hspares' := hspares.whole.spares_reaches hafter
  refine ⟨hindex ▸ hsize, fun hrunning => ?_, ?_⟩
  · -- the current task exists, and the new one did not when it was created
    have hbefore := hspares.running id trivial (hspares'.running id trivial hrunning)
    obtain ⟨t, ht, -⟩ := hwhole₁.wellFormed.current id hbefore
    have hlt : id.index < k₁.tasks.size := (Array.getElem?_eq_some_iff.1 ht).1
    exact hlt.ne hindex
  · refine hspares'.keeps id trivial _ _ ⟨newTask a stack' savedSp, ?_, ?_⟩
    · rw [task?_addTask, if_pos hindex]
    · obtain ⟨hframe, hpayload, habove, -⟩ :=
        FrameLayout.frameAt_of_save cfg.valid_cooperative hsave
      refine ⟨rfl, hframe, hpayload.trans (List.map_congr_left fun s hs => ?_), ?_⟩
      · obtain ⟨-, hsp⟩ := FrameLayouts.notMem_standard cfg.includeFp .cooperative
        have hne : s ≠ .sp := fun e => hsp (e ▸ hs)
        rw [entryRegisters, ← RegisterFile.set_sp, RegisterFile.get_set_of_ne hne]
      · rw [entryRegisters, RegisterFile.sp_setSp]
        exact habove

/-- A call that is meant to give the processor to a task does so if it goes well. -/
theorem Answered.running_of_target {call : KernelCall} {r r' : RegisterFile}
    (h : Answered cfg k r call true k' r') (htarget : call.target? = some id) :
    k'.running = some id := by
  cases h with
  | quiet hquiet hsame hrunning =>
    have hcall := hquiet rfl
    cases call <;> first | exact hcall.elim | cases htarget
  | create ht => cases htarget
  | save ht hsave => cases htarget
  | switch ht hsource hsave hload hsame hrunning => exact hrunning.trans htarget
  | switchTo hload hsame hrunning => exact hrunning.trans htarget

end Kernel

namespace Machine

variable {capacity levels : Nat} {σ : Type} {cfg : Config} {handlers : Handlers σ capacity levels}
variable {m m' : Machine capacity levels} {s s' : σ} {frame : SavedFrame}

/-- Trap entry removes no task. -/
theorem size_le_of_interrupted {k : Kernel capacity levels} (h : m.kernel.Whole cfg)
    (hinterrupted : Interrupted cfg m k frame) : m.kernel.tasks.size ≤ k.tasks.size := by
  cases hinterrupted with
  | handler sp hnested hkernel => exact hkernel ▸ le_rfl
  | idle hnested hsp hrunning hkernel => exact hkernel ▸ le_rfl
  | task id sp hnested hsp hrunning hsave =>
    have hcall : (m.kernel.invoke cfg m.hart.regs (.save id .interrupted)).result =
        .ok (true, k, m.hart.regs) := by
      rw [Kernel.invoke, Traced.result_map, hsave]
      rfl
    exact h.size_le_of_invoke hcall

/-- Dispatch removes no task. -/
theorem size_le_of_dispatched {cause : TrapCause} (hcalling : handlers.Calling cfg KernelCall.Plain)
    (h : m.kernel.Whole cfg) (hdispatched : Dispatched cfg handlers m m' s s' frame cause) :
    m.kernel.tasks.size ≤ m'.kernel.tasks.size := by
  cases hdispatched with
  | software hkernel hs => exact hkernel ▸ le_rfl
  | timer kernel htick hkernel =>
    have hticked : m.kernel.tasks.size ≤ kernel.tasks.size :=
      h.spares_advanceTick.whole.size_le_of_reaches (hcalling.tick _ _ _ _ _ htick)
    exact hkernel ▸ hticked
  | external code hexternal =>
    exact h.size_le_of_reaches (hcalling.external _ _ _ _ _ hexternal)
  | environmentCall code number argument pc result served accessed hserve haccess hkernel hs =>
    have hserved := h.size_le_of_invoke (Kernel.invoke_serve hserve cfg m.hart.regs)
    have haccessed : accessed.tasks.size = served.tasks.size := by
      cases haccess with
      | nested sp hsame => rw [hsame]
      | task id sp t ht hsame => simp [hsame, Kernel.updateTask]
    rw [hkernel]
    exact hserved.trans haccessed.ge

end Machine

namespace Session

variable {capacity levels : Nat} {σ : Type} {cfg : Config} {handlers : Handlers σ capacity levels}
variable {u v : Session σ capacity levels} {id : TaskId} {mv : Move} {ok : Bool}

/-! ## Tasks that traps belong to -/

/-- Every trap that is being handled belongs to an existing task, if to any. -/
def Owned (u : Session σ capacity levels) : Prop :=
  ∀ c ∈ u.traps, ∀ a, c.frame.owner? = some a → a.index < u.machine.kernel.tasks.size

/-- A move removes no task. -/
theorem size_le_of_next (hcalling : handlers.Calling cfg KernelCall.Plain) (h : u.Tidy cfg)
    (hnext : u.next cfg handlers mv = some (ok, v)) :
    u.machine.kernel.tasks.size ≤ v.machine.kernel.tasks.size := by
  cases next_cases hnext with
  | call hcall => exact h.whole.size_le_of_invoke hcall
  | work hart => exact le_rfl
  | @enter cause value hart context m hraise hentry =>
    obtain ⟨-, hinterrupted, -, -⟩ := Machine.entry_cases hentry
    exact Machine.size_le_of_interrupted (m := { u.machine with hart := hart }) h.whole hinterrupted
  | @dispatch context ok m s hmem hdispatch =>
    exact Machine.size_le_of_dispatched hcalling h.whole (Machine.dispatch_cases hdispatch).1
  | @exit ok m s hexit =>
    exact (Kernel.size_of_sameContexts (Machine.whole_of_exit h.whole hexit).2).ge

/-- The tasks that traps belong to after a move existed before it. -/
theorem index_lt_of_next (h : u.Tidy cfg) (howned : u.Owned)
    (hnext : u.next cfg handlers mv = some (ok, v)) :
    ∀ c ∈ v.traps, ∀ a, c.frame.owner? = some a → a.index < u.machine.kernel.tasks.size := by
  cases next_cases hnext with
  | call hcall => exact howned
  | work hart => exact howned
  | @enter cause value hart context m hraise hentry =>
    obtain ⟨-, hinterrupted, -, -⟩ := Machine.entry_cases hentry
    intro c hc a howner
    rcases List.mem_cons.1 hc with rfl | hc
    · obtain ⟨sp, hframe⟩ := SavedFrame.owner?_eq_some.1 howner
      obtain ⟨-, hrunning, -⟩ := hinterrupted.of_task hframe
      obtain ⟨t, ht, -⟩ := h.whole.wellFormed.current a hrunning
      exact (Array.getElem?_eq_some_iff.1 ht).1
    · exact howned c hc a howner
  | dispatch hmem hdispatch => exact howned
  | exit hexit => exact fun c hc => howned c (List.mem_of_mem_tail hc)

/-- In every session traps belong to existing tasks. -/
theorem play_owned
    {permits : Session σ capacity levels → Move → Bool → Session σ capacity levels → Prop}
    [∀ u mv ok v, Decidable (permits u mv ok v)] {moves : List Move}
    (hcalling : handlers.Calling cfg KernelCall.Plain) (h : u.Tidy cfg) (howned : u.Owned)
    (hplay : u.play cfg handlers permits moves = some v) : v.Owned := by
  refine (play_induction hcalling ?_ h howned hplay).2
  intro u mv ok v h howned _ hnext c hc a howner
  exact (index_lt_of_next h howned hnext c hc a howner).trans_le
    (size_le_of_next hcalling h hnext)

/-! ## Waiting for the first dispatch -/

/-- A task has not been the current one yet, and its frame is as it was created. -/
structure Waits (cfg : Config) (id : TaskId) (r : RegisterFile) (u : Session σ capacity levels) :
    Prop where
  away : u.Away cfg id .cooperative r
  idle : u.machine.kernel.running ≠ some id

/-- A task that does not become the current one goes on waiting. -/
theorem next_waits {r : RegisterFile} (hcalling : handlers.Calling cfg KernelCall.Plain)
    (h : u.Tidy cfg) (hwaits : u.Waits cfg id r) (hnext : u.next cfg handlers mv = some (ok, v))
    (hsaves : mv.savedTask? ≠ some id) (hidle : v.machine.kernel.running ≠ some id) :
    v.Waits cfg id r := by
  refine ⟨next_away hcalling h hwaits.away hnext hsaves ?_ ?_, hidle⟩
  · -- only the current task can switch away
    rintro ⟨rfl, hsource, -⟩
    cases next_cases hnext with
    | @call c ok k q hcall =>
      cases c with
      | switch source target =>
        cases hsource
        exact hwaits.idle (h.whole.keeps_of_switch hcall).1
      | _ => cases hsource
    | _ => cases hsource
  · intro hresumes
    cases next_cases hnext with
    | call hcall =>
      obtain ⟨rfl, htarget⟩ := hresumes
      obtain ⟨s, himpl, hvalid⟩ := h.whole.scheduled
      exact hidle ((himpl.answered hvalid h.whole.framed hcall).running_of_target htarget)
    | exit hexit => exact hidle hresumes.2
    | _ => exact hresumes.elim

/-- A task that has not run yet keeps its frame, if nobody saves another context
there. -/
theorem waits_of_play {r : RegisterFile}
    {permits : Session σ capacity levels → Move → Bool → Session σ capacity levels → Prop}
    [∀ u mv ok v, Decidable (permits u mv ok v)] {moves : List Move}
    (hcalling : handlers.Calling cfg KernelCall.Plain)
    (hpermits : ∀ {u mv ok v}, permits u mv ok v →
      mv.savedTask? ≠ some id ∧ v.machine.kernel.running ≠ some id)
    (h : u.Tidy cfg) (hwaits : u.Waits cfg id r)
    (hplay : u.play cfg handlers permits moves = some v) : v.Waits cfg id r := by
  refine (play_induction hcalling ?_ h hwaits hplay).2
  intro u mv ok v h hwaits hpermitted hnext
  obtain ⟨hsaves, hidle⟩ := hpermits hpermitted
  exact next_waits hcalling h hwaits hnext hsaves hidle

theorem play_waits {r : RegisterFile} {moves : List Move}
    (hcalling : handlers.Calling cfg KernelCall.Plain) (h : u.Tidy cfg)
    (hwaits : u.Waits cfg id r)
    (hplay : u.play cfg handlers
      (fun _ mv _ v => ¬mv.saves ∧ v.machine.kernel.running ≠ some id) moves = some v) :
    v.Waits cfg id r :=
  waits_of_play hcalling (fun hpermits => ⟨Move.savedTask?_ne hpermits.1 id, hpermits.2⟩) h hwaits
    hplay

/-- A task that was just created waits. -/
theorem waits_of_creates {a : TaskAttributes} {stack : StackRegion} (h : u.Tidy cfg)
    (howned : u.Owned) (hnext : u.next cfg handlers mv = some (ok, v))
    (hcreates : u.machine.kernel.Creates cfg a stack id v.machine.kernel) :
    v.Waits cfg id (Kernel.entryRegisters cfg a stack) := by
  obtain ⟨hnew, hidle, hkeeps⟩ := hcreates.keeps h.whole
  refine ⟨⟨hkeeps, fun hrunning => absurd hrunning hidle, fun c hc howner => ?_⟩, hidle⟩
  exact absurd (index_lt_of_next h howned hnext c hc id howner) (not_lt.2 hnew)

end Session

/-- An outermost exit that makes a waiting task the current one starts it. -/
theorem Machine.Resumed.starts {capacity levels : Nat} {σ : Type} {cfg : Config}
    {handlers : Handlers σ capacity levels} {k : Kernel capacity levels} {idle : Bool}
    {m' : Machine capacity levels} {s s' : σ} {decision : Decision} {id : TaskId}
    {a : TaskAttributes} {stack : StackRegion}
    (h : Resumed cfg handlers k idle m' s s' decision)
    (hkeeps : k.Keeps cfg id .cooperative (Kernel.entryRegisters cfg a stack))
    (hidle : k.running ≠ some id) (hcurrent : m'.kernel.running = some id) :
    (m'.hart.exceptionReturn cfg).Starts cfg a stack := by
  refine Kernel.starts_of_agree (h.agree hkeeps hcurrent) ?_
  cases h with
  | background id' q hrunning hload hkernel hidle' hs =>
    rw [hkernel] at hcurrent
    exact absurd hcurrent hidle
  | task id' kind q loaded hload hkernel hregs hidle' hs =>
    have hid : id' = id :=
      Option.some.inj ((Kernel.running_of_handOver hkernel).symm.trans hcurrent)
    obtain ⟨rfl, -⟩ := hkeeps.agree (hid ▸ hload)
    rw [hregs]
    rfl
  | idle hkernel hsp hidle' hs =>
    rw [Kernel.running_of_handOver hkernel] at hcurrent
    cases hcurrent

/-- A run in which a task is created, by whoever holds the hart or by a handler, and
gets the processor for the first time when an outermost trap is left.  The hart is
the one after the exception return. -/
inductive FirstDispatch {capacity levels : Nat} {σ : Type} (cfg : Config)
    (handlers : Handlers σ capacity levels) (a : TaskAttributes) (stack : StackRegion) :
    Hart → Prop where
  | intro {interruptStack : StackRegion} {m₀ : Machine capacity levels} {s₀ : σ}
    {before between : List Move} {u v w x : Session σ capacity levels} {mv : Move} {ok ok' : Bool}
    {id : TaskId} (hinitial : Machine.initial cfg capacity levels interruptStack = .ok m₀)
    (hbefore : (Session.start m₀ s₀).play cfg handlers (fun _ _ _ _ => True) before = some u)
    (hcreation : u.next cfg handlers mv = some (ok, v))
    (hcreates : u.machine.kernel.Creates cfg a stack id v.machine.kernel)
    (hbetween : v.play cfg handlers
      (fun _ mv _ y => ¬mv.saves ∧ y.machine.kernel.running ≠ some id) between = some w)
    (hexit : w.next cfg handlers .exit = some (ok', x)) (houtermost : x.machine.nesting = 0)
    (hcurrent : x.machine.kernel.running = some id) :
    FirstDispatch cfg handlers a stack (x.machine.hart.exceptionReturn cfg)

namespace FirstDispatch

variable {capacity levels : Nat} {σ : Type} {cfg : Config} {handlers : Handlers σ capacity levels}
variable {a : TaskAttributes} {stack : StackRegion} {hart : Hart}

/-- The first dispatch of a task starts it.  With the default status it starts with
interrupts enabled. -/
theorem task_starts (hcalling : handlers.Calling cfg KernelCall.Plain)
    (h : FirstDispatch cfg handlers a stack hart) :
    hart.Starts cfg a stack ∧
      (cfg.level = 1 ∨ cfg.level = 3 → cfg.initialStatus = Status.initial cfg.level cfg.includeFp →
        ¬hart.Masked cfg) := by
  have hstarts : hart.Starts cfg a stack := by
    cases h with
    | @intro interruptStack m₀ s₀ before between u v w x mv ok ok' id hinitial hbefore hcreation
        hcreates hbetween hexit houtermost hcurrent =>
      have htidy₀ := Session.tidy_start hinitial s₀
      have htidy₁ := Session.play_tidy hcalling htidy₀ hbefore
      have howned : u.Owned := Session.play_owned hcalling htidy₀
        (fun c hc => absurd hc List.not_mem_nil) hbefore
      have hwaits := Session.play_waits hcalling (Session.next_tidy hcalling htidy₁ hcreation)
        (Session.waits_of_creates htidy₁ howned hcreation hcreates) hbetween
      cases Session.next_cases hexit with
      | exit hleave =>
        obtain ⟨-, ⟨hpos, -⟩ | ⟨-, decision, -, hresumed⟩⟩ := Machine.exit_cases hleave
        · exact absurd houtermost hpos.ne'
        · exact hresumed.starts (hwaits.away.keeps.of_sameContexts (.refl _)) hwaits.idle hcurrent
  refine ⟨hstarts, fun hlevel hinitial hmasked => ?_⟩
  rw [Hart.Masked, hstarts.status, hinitial] at hmasked
  revert hmasked
  rcases hlevel with hlevel | hlevel <;> rw [hlevel] <;> cases cfg.includeFp <;> decide

/-- Make the moves of a run up to a first dispatch.  Answers the sessions before and
after the task is created, and the one in which it has the processor. -/
def attempt (cfg : Config) (handlers : Handlers σ capacity levels) (id : TaskId)
    (m₀ : Machine capacity levels) (s₀ : σ) (before : List Move) (a : TaskAttributes)
    (stack : StackRegion) (between : List Move) :
    Option (Session σ capacity levels × Session σ capacity levels × Session σ capacity levels) := do
  let u ← (Session.start m₀ s₀).play cfg handlers (fun _ _ _ _ => True) before
  let (_, v) ← u.next cfg handlers (.call (.create a stack))
  let w ← v.play cfg handlers
    (fun _ mv _ y => ¬mv.saves ∧ y.machine.kernel.running ≠ some id) between
  let (_, x) ← w.next cfg handlers .exit
  return (u, v, x)

theorem of_attempt {id : TaskId} {interruptStack : StackRegion} {m₀ : Machine capacity levels}
    {s₀ : σ} {before between : List Move} {u v x : Session σ capacity levels}
    (hinitial : Machine.initial cfg capacity levels interruptStack = .ok m₀)
    (h : attempt cfg handlers id m₀ s₀ before a stack between = some (u, v, x))
    (hcreate : (u.machine.kernel.create cfg a stack).result = .ok (.ok id, v.machine.kernel))
    (houtermost : x.machine.nesting = 0) (hcurrent : x.machine.kernel.running = some id) :
    FirstDispatch cfg handlers a stack (x.machine.hart.exceptionReturn cfg) := by
  unfold attempt at h
  obtain ⟨u₁, hbefore, h⟩ := Option.bind_eq_some_iff.1 h
  obtain ⟨⟨ok, v₁⟩, hcreation, h⟩ := Option.bind_eq_some_iff.1 h
  obtain ⟨w, hbetween, h⟩ := Option.bind_eq_some_iff.1 h
  obtain ⟨⟨ok', x₁⟩, hexit, h⟩ := Option.bind_eq_some_iff.1 h
  cases h
  exact .intro hinitial hbefore hcreation ⟨_, _, .refl _, hcreate, .refl _⟩ hbetween hexit
    houtermost hcurrent

/-- The second task is created with a parameter and activated while the first one
runs, and gets the processor when it is more urgent and a timer interrupt comes. -/
theorem task_starts_second :
    ∃ hart, FirstDispatch (Config.machine false) (Handlers.default : Handlers Unit 4 4)
        ⟨"b", 0x80001000, 7, 1⟩ ⟨0x40020000, .replicate 64 0, by decide, by decide⟩ hart ∧
      hart.Starts (Config.machine false) ⟨"b", 0x80001000, 7, 1⟩
        ⟨0x40020000, .replicate 64 0, by decide, by decide⟩ ∧
      ¬hart.Masked (Config.machine false) := by
  have hrun : (attempt (Config.machine false) (Handlers.default : Handlers Unit 4 4) ⟨1⟩
      Machine.small () (Move.startTwo.take 1) ⟨"b", 0x80001000, 7, 1⟩
      ⟨0x40020000, .replicate 64 0, by decide, by decide⟩
      [.call (.activate ⟨0⟩), .enter .software 0, .dispatch ⟨.software, .idle⟩, .exit,
        .work (Absence.registers 0x40010200 0x1111), .call (.activate ⟨1⟩),
        .call (.setPriority ⟨1⟩ 0), .enter .timer 0,
        .dispatch ⟨.timer, .task ⟨0⟩ 0x400100f0⟩]).any (fun p => Decidable.decide (
      (p.1.machine.kernel.create (Config.machine false) ⟨"b", 0x80001000, 7, 1⟩
        ⟨0x40020000, .replicate 64 0, by decide, by decide⟩).result =
          .ok (.ok ⟨1⟩, p.2.1.machine.kernel) ∧
      p.2.2.machine.nesting = 0 ∧ p.2.2.machine.kernel.running = some ⟨1⟩)) = true := by
    decide +kernel
  obtain ⟨⟨u, v, x⟩, hattempt, hp⟩ := (Option.any_eq_true _ _).1 hrun
  obtain ⟨hcreate, houtermost, hcurrent⟩ := of_decide_eq_true hp
  have hfirst := of_attempt Machine.initial_small hattempt hcreate houtermost hcurrent
  obtain ⟨hstarts, hmasked⟩ := task_starts (Handlers.calling_default _ _) hfirst
  exact ⟨_, hfirst, hstarts, hmasked (.inr rfl) rfl⟩

end FirstDispatch

end HartKernel
