import HartKernel.Proofs.Frame.Footprint
import HartKernel.Proofs.Kernel.Frames
import HartKernel.Proofs.Kernel.Services
import HartKernel.Proofs.Trap.Phases

/-!
# Environment calls

An environment call reads the frame of its caller, executes one service, and
patches the frame.  It goes well as soon as the frame can be read: the service
never fails a check, and leaves stacks alone, and patching one slot leaves the
tag of the frame alone.  The patched frame is the one that saving the answered
registers would have left.

Main definitions:

- `RegisterFile.answered` are the registers with which a caller goes on.
- `Machine.frameCall` is what an environment call reads.

Main results:

- `Machine.environmentCall_of_error` and `Machine.environmentCall_of_ok`: if the
  frame cannot be read nothing happens, and otherwise the service is executed
  and its result is left in the frame.
- `Machine.environmentCall_task` and `Machine.environmentCall_nested`: what the
  frame of a task and the frame of a handler hold afterwards.
-/

namespace HartKernel

/-! ## Answered registers -/

namespace RegisterFile

/-- The registers of a caller that goes on with a result after the instruction
that made the call. -/
def answered (r : RegisterFile) (result : Word) : RegisterFile :=
  (r.set .pc (r.pc + 4)).set .a0 result

variable {r : RegisterFile} {result : Word} {s : RegisterSlot}

@[simp] theorem pc_answered : (r.answered result).pc = r.pc + 4 := rfl

@[simp] theorem a0_answered : (r.answered result).get .a0 = result :=
  get_set_self (by decide) (by decide)

theorem get_answered_of_ne (hpc : s ≠ .pc) (ha0 : s ≠ .a0) :
    (r.answered result).get s = r.get s := by
  rw [answered, get_set_of_ne ha0, get_set_of_ne hpc]

@[simp] theorem sp_answered : (r.answered result).sp = r.sp := by
  rw [← get_sp, ← get_sp, get_answered_of_ne (by decide) (by decide)]

end RegisterFile

/-! ## Slots of an interrupted context -/

namespace Config

variable (cfg : Config)

/-- The registers that an environment call is made of are in the frames of
interrupted contexts. -/
theorem mem_interrupted : .a7 ∈ cfg.layouts.interrupted.slots ∧
    .a0 ∈ cfg.layouts.interrupted.slots ∧ .pc ∈ cfg.layouts.interrupted.slots := by
  unfold layouts
  cases cfg.includeFp <;> decide

theorem nodup_interrupted : cfg.layouts.interrupted.slots.Nodup :=
  FrameLayouts.nodup_standard cfg.includeFp .interrupted

end Config

namespace FrameLayout

variable {l : FrameLayout} {region : StackRegion} {sp : Word} {s : RegisterSlot} {v : Word}

theorem exists_slotIndex_of_readSlot (h : l.readSlot region sp s = .ok v) :
    ∃ i, l.slotIndex region sp s = .ok i := by
  unfold readSlot at h
  cases hi : l.slotIndex region sp s with
  | error e => simp [hi, Except.map] at h
  | ok i => exact ⟨i, rfl⟩

end FrameLayout

namespace Task

variable {cfg : Config} {kind : FrameKind} {r : RegisterFile} {t : Task}

theorem Holds.stores (h : t.Holds cfg kind r) :
    (cfg.layouts.layout kind).Stores t.stack t.savedSp r :=
  ⟨h.frame, h.payload⟩

end Task

namespace Machine

variable {capacity levels : Nat} {cfg : Config} {m m' : Machine capacity levels}
variable {region : StackRegion} {sp : Word} {r : RegisterFile} {frame : SavedFrame}

/-! ## Reading and patching a frame -/

theorem readCall_of_stores (h : cfg.layouts.interrupted.Stores region sp r) :
    readCall cfg.layouts.interrupted region sp = .ok ⟨r.get .a7, r.get .a0, r.pc⟩ := by
  obtain ⟨ha7, ha0, hpc⟩ := cfg.mem_interrupted
  rw [readCall, h.readSlot ha7, ok_bind, h.readSlot ha0, ok_bind, h.readSlot hpc, ok_bind]
  rfl

/-- Patching a frame gives the frame of the answered registers. -/
theorem answerCall_of_stores (h : cfg.layouts.interrupted.Stores region sp r) (result : Word) :
    ∃ region', answerCall cfg.layouts.interrupted r.pc result region sp = (.ok (), region') ∧
      cfg.layouts.interrupted.Stores region' sp (r.answered result) ∧
      StackRegion.AgreeFrom (sp.toNat + cfg.layouts.interrupted.frameSize) region region' := by
  obtain ⟨-, ha0, hpc⟩ := cfg.mem_interrupted
  have hnodup := cfg.nodup_interrupted
  obtain ⟨region₁, hfirst, h₁, hagree₁⟩ :=
    h.writeSlot hpc hnodup (by decide) (by decide) (r.pc + 4)
  obtain ⟨region₂, hsecond, h₂, hagree₂⟩ :=
    h₁.writeSlot ha0 hnodup (by decide) (by decide) result
  refine ⟨region₂, ?_, h₂, hagree₁.trans hagree₂⟩
  simp only [answerCall, hfirst, hsecond]

/-- A frame that could be read can be patched. -/
theorem exists_answerCall {l : FrameLayout} {call : CallArguments}
    (h : readCall l region sp = .ok call) (pc result : Word) :
    ∃ region', answerCall l pc result region sp = (.ok (), region') := by
  obtain ⟨number, -, h⟩ := bind_eq_ok_iff.1 h
  obtain ⟨argument, hargument, h⟩ := bind_eq_ok_iff.1 h
  obtain ⟨origin, horigin, -⟩ := bind_eq_ok_iff.1 h
  obtain ⟨i, hi⟩ := FrameLayout.exists_slotIndex_of_readSlot horigin
  obtain ⟨j, hj⟩ := FrameLayout.exists_slotIndex_of_readSlot hargument
  have hj' := FrameLayout.slotIndex_put hi .a0 (pc + 4)
  rw [hj] at hj'
  simp only [answerCall, FrameLayout.writeSlot, hi, hj']
  exact ⟨_, rfl⟩

/-- Leaving a result in a frame, wherever it lies, does not move the region. -/
theorem samePlace_answerCall (l : FrameLayout) (pc result : Word) (region : StackRegion)
    (sp : Word) : region.SamePlace (answerCall l pc result region sp).2 := by
  have hpc := l.samePlace_writeSlot region sp .pc (pc + 4)
  unfold answerCall
  split
  · rename_i hwrite
    rwa [hwrite] at hpc
  · rename_i hwrite
    rw [hwrite] at hpc
    exact hpc.trans (l.samePlace_writeSlot _ sp .a0 result)

/-- Read an environment call from a saved frame of a machine. -/
def frameCall (cfg : Config) (m : Machine capacity levels) (frame : SavedFrame) :
    Except FrameError CallArguments :=
  (m.withFrame frame fun region sp => (readCall cfg.layouts.interrupted region sp, region)).1

theorem withFrame_readCall (cfg : Config) (m : Machine capacity levels) (frame : SavedFrame) :
    (m.withFrame frame fun region sp => (readCall cfg.layouts.interrupted region sp, region)) =
      (m.frameCall cfg frame, m) :=
  Prod.ext rfl (m.withFrame_read frame (readCall cfg.layouts.interrupted))

/-- If the frame cannot be read nothing is executed, and nothing is changed. -/
theorem environmentCall_of_error {e : FrameError} (h : m.frameCall cfg frame = .error e) :
    m.environmentCall cfg frame = pure (.error e, m) := by
  unfold environmentCall
  simp only [withFrame_readCall, h]

/-- If the frame can be read the service is executed, and its result is left in
the frame. -/
theorem environmentCall_eq {call : CallArguments} (h : m.frameCall cfg frame = .ok call) :
    m.environmentCall cfg frame = (do
      let (result, kernel) ← m.kernel.serve frame.owner? call.number call.argument
      return { m with kernel := kernel }.withFrame frame
        (answerCall cfg.layouts.interrupted call.pc result.toRegister)) := by
  unfold environmentCall
  simp only [withFrame_readCall, h]

theorem environmentCall_eq_ok {call : CallArguments} {code : ResultCode}
    {served : Kernel capacity levels} (h : m.frameCall cfg frame = .ok call)
    (hserve : (m.kernel.serve frame.owner? call.number call.argument).result = .ok (code, served)) :
    (m.environmentCall cfg frame).result = .ok ({ m with kernel := served }.withFrame frame
      (answerCall cfg.layouts.interrupted call.pc code.toRegister)) := by
  rw [environmentCall_eq h, Traced.result_bind, hserve]
  rfl

/-- The stack of a task after a service is the one before. -/
theorem exists_stack_of_sameContexts {k k' : Kernel capacity levels} {id : TaskId} {t : Task}
    (ht : k.task? id = some t) (hsame : TaskTable.SameContexts k.tasks k'.tasks) :
    ∃ u, k'.task? id = some u ∧ u.context = t.context ∧ u.stack = t.stack := by
  obtain ⟨u, hu, hcontext⟩ := Kernel.exists_task?_of_sameContexts hsame.symm ht
  exact ⟨u, hu, hcontext.symm, (Task.stack_eq_of_context hcontext.symm).1⟩

/-- If the frame can be read the environment call goes well. -/
theorem environmentCall_of_ok {s : Schedule} (himpl : m.kernel.Implements s)
    (hv : s.Valid levels) {call : CallArguments} (h : m.frameCall cfg frame = .ok call) :
    ∃ code served m', (m.kernel.serve frame.owner? call.number call.argument).result =
        .ok (code, served) ∧ (m.environmentCall cfg frame).result = .ok (.ok (), m') := by
  obtain ⟨served, hserve, -, hsame⟩ := himpl.exists_serve hv frame.owner? call.number call.argument
  have hcall := environmentCall_eq_ok h hserve
  cases frame with
  | idle => cases h
  | nested sp =>
    have hread : readCall cfg.layouts.interrupted m.interruptStack sp = .ok call := h
    obtain ⟨region, hanswer⟩ := exists_answerCall hread call.pc
      (s.serveCode none call.number call.argument).toRegister
    refine ⟨_, served, { m with kernel := served, interruptStack := region }, hserve, ?_⟩
    rw [hcall]
    simp only [withFrame, SavedFrame.owner?, hanswer]
  | task id sp =>
    cases ht : m.kernel.task? id with
    | none => simp [frameCall, withFrame, ht] at h
    | some t =>
      simp only [frameCall, withFrame, ht] at h
      obtain ⟨u, hu, -, hstack⟩ := exists_stack_of_sameContexts ht hsame
      obtain ⟨region, hanswer⟩ := exists_answerCall h call.pc
        (s.serveCode (some id) call.number call.argument).toRegister
      refine ⟨_, served, { m with
        kernel := served.updateTask id fun u => { u with stack := region } }, hserve, ?_⟩
      rw [hcall]
      simp only [withFrame, SavedFrame.owner?, hu, hstack, hanswer]

/-- An environment call either answers or leaves the machine as it is. -/
theorem environmentCall_refused {s : Schedule} (himpl : m.kernel.Implements s)
    (hv : s.Valid levels) {e : FrameError}
    (h : (m.environmentCall cfg frame).result = .ok (.error e, m')) : m' = m := by
  cases hcall : m.frameCall cfg frame with
  | error e' =>
    rw [environmentCall_of_error hcall] at h
    cases h
    rfl
  | ok call =>
    obtain ⟨code, served, m₁, -, hok⟩ := environmentCall_of_ok himpl hv hcall
    rw [hok] at h
    cases h

/-- Dispatching an environment call executes it and asks for a dispatch. -/
theorem dispatch_environmentCall_cases {σ : Type} {handlers : Handlers σ capacity levels}
    {s s' : σ} {code : Word}
    (h : (m.dispatch cfg handlers s ⟨.environmentCall code, frame⟩).result =
      .ok (.ok (), m', s')) :
    ∃ m₁, ((m.updateStats fun s => { s with
        environmentCalls := s.environmentCalls + 1 }).environmentCall cfg frame).result =
          .ok (.ok (), m₁) ∧
      m' = { m₁ with kernel := m₁.kernel.requestDispatch } ∧ s' = s := by
  obtain ⟨⟨answer, m₁⟩, hcall, h⟩ := Traced.bind_eq_ok.1 h
  cases answer with
  | error e => cases h
  | ok u =>
    cases h
    exact ⟨m₁, hcall, rfl, rfl⟩

/-! ## The frames of tasks and of handlers -/

/-- A task that has made an environment call is left with the answered
registers. -/
theorem environmentCall_task {s : Schedule} {id : TaskId} (himpl : m.kernel.Implements s)
    (hv : s.Valid levels) (hkeeps : m.kernel.Keeps cfg id .interrupted r)
    (hsp : sp.toNat + cfg.layouts.interrupted.frameSize = r.sp.toNat) :
    ∃ m', (m.environmentCall cfg (.task id sp)).result = .ok (.ok (), m') ∧
      m'.kernel.Implements (s.serve levels (some id) (r.get .a7) (r.get .a0)) ∧
      m'.kernel.Keeps cfg id .interrupted
        (r.answered (s.serveCode (some id) (r.get .a7) (r.get .a0)).toRegister) ∧
      m'.hart = m.hart ∧ m'.nesting = m.nesting ∧ m'.interruptStack = m.interruptStack := by
  obtain ⟨t, ht, hholds⟩ := hkeeps
  obtain rfl : t.savedSp = sp := by
    have habove : t.savedSp.toNat + cfg.layouts.interrupted.frameSize = r.sp.toNat := hholds.above
    exact BitVec.eq_of_toNat_eq (by omega)
  have hcall : m.frameCall cfg (.task id t.savedSp) = .ok ⟨r.get .a7, r.get .a0, r.pc⟩ := by
    simp only [frameCall, withFrame, ht]
    exact readCall_of_stores hholds.stores
  obtain ⟨served, hserve, himpl₁, hsame⟩ :=
    himpl.exists_serve hv (some id) (r.get .a7) (r.get .a0)
  obtain ⟨u, hu, hcontext, hstack⟩ := exists_stack_of_sameContexts ht hsame
  have hu' := hholds.of_context hcontext
  obtain ⟨region, hanswer, hstores, -⟩ := answerCall_of_stores hholds.stores
    (s.serveCode (some id) (r.get .a7) (r.get .a0)).toRegister
  have hsaved : u.savedSp = t.savedSp := (Task.stack_eq_of_context hcontext).2.1
  refine ⟨{ m with kernel := served.updateTask id fun u => { u with stack := region } }, ?_,
    himpl₁.updateContext id (fun _ => rfl) (fun _ => rfl), ?_, rfl, rfl, rfl⟩
  · rw [environmentCall_eq_ok hcall hserve]
    simp only [withFrame, hu, hstack, hanswer]
  · refine ⟨{ u with stack := region }, ?_, hu'.variant, ?_, ?_, ?_⟩
    · rw [Kernel.task?_updateTask, if_pos rfl, hu]
      rfl
    · rw [hsaved]
      exact hstores.frame
    · rw [hsaved]
      exact hstores.payload
    · rw [RegisterFile.sp_answered]
      exact hu'.above

/-- A handler that has made an environment call is left with the answered
registers, and nothing above its frame is touched. -/
theorem environmentCall_nested {answer : Except FrameError Unit}
    (h : cfg.layouts.interrupted.Stores m.interruptStack sp r)
    (hcall : (m.environmentCall cfg (.nested sp)).result = .ok (answer, m')) :
    ∃ code, (m.kernel.serve none (r.get .a7) (r.get .a0)).result = .ok (code, m'.kernel) ∧
      cfg.layouts.interrupted.Stores m'.interruptStack sp (r.answered code.toRegister) ∧
      StackRegion.AgreeFrom (sp.toNat + cfg.layouts.interrupted.frameSize) m.interruptStack
        m'.interruptStack := by
  have hframe : m.frameCall cfg (.nested sp) = .ok ⟨r.get .a7, r.get .a0, r.pc⟩ :=
    readCall_of_stores h
  rw [environmentCall_eq hframe] at hcall
  obtain ⟨⟨code, served⟩, hserve, hcall⟩ := Traced.bind_eq_ok.1 hcall
  obtain ⟨region, hanswer, hstores, hagree⟩ := answerCall_of_stores h code.toRegister
  simp only [withFrame, hanswer] at hcall
  cases hcall
  exact ⟨code, hserve, hstores, hagree⟩

end Machine

end HartKernel
