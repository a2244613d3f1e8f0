import HartKernel.Proofs.Trap.Absence
import HartKernel.Proofs.Trap.Outermost

/-!
# System calls of tasks

A task that makes an environment call has its service executed once, and finds
the result when it is next resumed.  The service may take the processor from the
task; then the result waits in the frame of the task, and nobody else touches it.

Main definitions:

- `Kernel.conclude` is what the outermost exit does to the kernel.
- `RegisterFile.Returned` compares the registers before a call and after it.
- `Session.GoesOn` says with which registers a task is next resumed.

Main results:

- `Session.play_elsewhere`: a task that is not the current one stays away until it
  is resumed.
- `Machine.Reached.call_once`: what an environment call does, and what the task
  finds afterwards.
-/

namespace HartKernel

/-! ## What the scheduler sees -/

namespace Kernel

variable {capacity levels : Nat} {k : Kernel capacity levels} {s : Schedule}

/-- What the outermost exit does to the kernel: it takes the request for a dispatch,
decides, and hands the processor over if it has to. -/
def conclude (k : Kernel capacity levels) : Except Panic (Kernel capacity levels) := do
  let decision ← Machine.exitDecision k.takeDispatch.2 k.dispatchPending
  k.takeDispatch.2.obey decision

theorem Implements.exists_conclude (h : k.Implements s) (hv : s.Valid levels) :
    ∃ k', k.conclude = .ok k' ∧ k'.Implements (s.conclude levels) := by
  obtain ⟨decision, k', hdecision, hobey, himpl', -⟩ := h.exists_exitDecision hv
  refine ⟨k', ?_, himpl'⟩
  rw [Kernel.conclude, hdecision]
  exact hobey

end Kernel

/-! ## What the task sees -/

namespace RegisterFile

/-- The registers of a caller after its call: it goes on after the instruction that
made the call and has the number of the result code, sign-extended.  Other registers
that a frame preserves are the same. -/
structure Returned (l : FrameLayout) (r : RegisterFile) (result : ResultCode)
    (r' : RegisterFile) : Prop where
  pc : r'.pc = r.pc + 4
  code : r'.get .a0 = BitVec.ofInt 64 result.value
  sp : r'.sp = r.sp
  others : ∀ s ∈ l.slots, s ≠ .status → s ≠ .pc → s ≠ .a0 → r'.get s = r.get s

theorem Agree.returned {cfg : Config} {r r' : RegisterFile} {result : ResultCode}
    (h : Agree cfg.layouts.interrupted (r.answered result.toRegister) r') :
    Returned cfg.layouts.interrupted r result r' := by
  obtain ⟨-, ha0, hpc⟩ := cfg.mem_interrupted
  refine ⟨?_, ?_, h.1.trans sp_answered, fun s hs hstatus hnpc hna0 => ?_⟩
  · exact (h.2 .pc hpc (by decide)).trans pc_answered
  · exact (h.2 .a0 ha0 (by decide)).trans a0_answered
  · exact (h.2 s hs hstatus).trans (get_answered_of_ne hnpc hna0)

end RegisterFile

namespace Session

variable {capacity levels : Nat} {σ : Type} {cfg : Config} {handlers : Handlers σ capacity levels}
variable {u v w x : Session σ capacity levels} {a : TaskId} {kind : FrameKind} {r q : RegisterFile}
variable {mv : Move} {ok : Bool}

/-- The registers with which a task is next resumed: it is the current task already,
or gets the processor by a move.  Until then registers are saved by the trap
handler and by switches only. -/
inductive GoesOn (cfg : Config) (handlers : Handlers σ capacity levels) (a : TaskId)
    (u : Session σ capacity levels) : RegisterFile → Prop where
  | atOnce (hcurrent : u.machine.kernel.running = some a) :
    GoesOn cfg handlers a u u.machine.hart.regs
  | later {between : List Move} {w x : Session σ capacity levels} {mv : Move} {ok : Bool}
    (hcurrent : u.machine.kernel.running ≠ some a)
    (hbetween : u.play cfg handlers (fun _ mv ok x => ¬mv.saves ∧ ¬x.Resumes a ok mv) between =
      some w)
    (hreturn : w.next cfg handlers mv = some (ok, x)) (hsaves : ¬mv.saves)
    (hresumes : x.Resumes a ok mv) : GoesOn cfg handlers a u x.machine.hart.regs

/-- Only the current task can be switched away from. -/
theorem not_switchesAway (h : u.Tidy cfg) (hnext : u.next cfg handlers mv = some (ok, v))
    (hcurrent : u.machine.kernel.running ≠ some a) : ¬u.SwitchesAway a ok mv := by
  rintro ⟨rfl, hsource, -⟩
  cases next_cases hnext with
  | @call c ok k r hcall =>
    cases c with
    | switch source target =>
      cases hsource
      exact hcurrent (h.whole.keeps_of_switch hcall).1
    | _ => cases hsource
  | _ => cases hsource

/-- A task that is away does not become the current one unless it is resumed. -/
theorem running_of_next (hcalling : handlers.Calling cfg KernelCall.Plain) (h : u.Tidy cfg)
    (haway : u.Away cfg a kind r) (hnext : u.next cfg handlers mv = some (ok, v))
    (hresumes : ¬v.Resumes a ok mv) (hcurrent : v.machine.kernel.running = some a) :
    u.machine.kernel.running = some a := by
  cases next_cases hnext with
  | call hcall =>
    obtain ⟨s, himpl, hvalid⟩ := h.whole.scheduled
    rcases (himpl.answered hvalid h.whole.framed hcall).running hcurrent with hbefore | hback
    · exact hbefore
    · exact absurd hback hresumes
  | work hart => exact hcurrent
  | @enter cause value hart context m hraise hentry =>
    obtain ⟨-, hinterrupted, -⟩ := Machine.entry_cases hentry
    by_cases howner : context.frame.owner? = some a
    · obtain ⟨sp, hframe⟩ := SavedFrame.owner?_eq_some.1 howner
      exact (hinterrupted.of_task hframe).2.1
    · exact (Machine.spares_of_interrupted (m := { u.machine with hart := hart }) h.whole
        hinterrupted).running a howner hcurrent
  | @dispatch context ok m s hmem hdispatch =>
    obtain ⟨hdispatched, -⟩ := Machine.dispatch_cases hdispatch
    exact (Machine.spares_of_dispatched hcalling h.whole (h.aligned context hmem)
      hdispatched).running a (haway.untouched context hmem) hcurrent
  | exit hexit =>
    obtain ⟨-, ⟨-, hkernel, -⟩ | ⟨hzero, -⟩⟩ := Machine.exit_cases hexit
    · rwa [hkernel] at hcurrent
    · exact absurd ⟨hzero, hcurrent⟩ hresumes

/-- A task that is not the current one stays away until it is resumed. -/
theorem play_elsewhere {moves : List Move} (hcalling : handlers.Calling cfg KernelCall.Plain)
    (h : u.Tidy cfg) (haway : u.Away cfg a kind r)
    (hcurrent : u.machine.kernel.running ≠ some a)
    (hplay : u.play cfg handlers (fun _ mv ok x => ¬mv.saves ∧ ¬x.Resumes a ok mv) moves =
      some v) :
    v.Away cfg a kind r ∧ v.machine.kernel.running ≠ some a := by
  refine (play_induction
    (P := fun w => w.Away cfg a kind r ∧ w.machine.kernel.running ≠ some a) hcalling ?_ h
    ⟨haway, hcurrent⟩ hplay).2
  rintro u mv ok w h ⟨haway, hcurrent⟩ ⟨hsaves, hresumes⟩ hnext
  have hstays := not_switchesAway h hnext hcurrent
  refine ⟨next_away hcalling h haway hnext (Move.savedTask?_ne hsaves a) hstays hresumes, ?_⟩
  exact fun hback => hcurrent (running_of_next hcalling h haway hnext hresumes hback)

/-- A task whose frame holds its registers goes on with them, if it has them at
hand when it is the current task. -/
theorem GoesOn.agree (hcalling : handlers.Calling cfg KernelCall.Plain) (h : u.Tidy cfg)
    (hkeeps : u.machine.kernel.Keeps cfg a kind r) (htraps : u.traps = [])
    (hlive : u.machine.kernel.running = some a →
      RegisterFile.Agree (cfg.layouts.layout kind) r u.machine.hart.regs)
    (hgoes : u.GoesOn cfg handlers a q) : RegisterFile.Agree (cfg.layouts.layout kind) r q := by
  cases hgoes with
  | atOnce hcurrent => exact hlive hcurrent
  | later hcurrent hbetween hreturn hsaves hresumes =>
    have haway : u.Away cfg a kind r := by
      refine ⟨hkeeps, fun hback => absurd hback hcurrent, fun c hc => ?_⟩
      rw [htraps] at hc
      exact absurd hc List.not_mem_nil
    obtain ⟨haway', hcurrent'⟩ := play_elsewhere hcalling h haway hcurrent hbetween
    have htidy := play_tidy hcalling h hbetween
    exact agree_of_resumes htidy haway' hreturn hsaves (not_switchesAway htidy hreturn hcurrent')
      hresumes

end Session

namespace Machine

variable {capacity levels : Nat} {σ : Type} {cfg : Config} {handlers : Handlers σ capacity levels}
variable {m m' : Machine capacity levels} {s s' : σ} {a : TaskId}

/-- An environment call of the current task interrupts the task and serves it. -/
theorem dispatch_of_current {sch : Schedule} {m₁ m₂ : Machine capacity levels}
    {context : TrapContext} {code : Word} (himpl : m.kernel.Implements sch)
    (hvalid : sch.Valid levels) (hnesting : m.nesting = 0)
    (hcurrent : m.kernel.running = some a) (hsp : m.hart.regs.sp ≠ 0)
    (hentry : (m.entry cfg).result = .ok (.ok context, m₁))
    (hcause : context.cause = .environmentCall code)
    (hdispatch : (m₁.dispatch cfg handlers s context).result = .ok (.ok (), m₂, s')) :
    m₂.kernel.Implements
        (sch.serve levels (some a) (m.hart.regs.get .a7) (m.hart.regs.get .a0)).requestDispatch ∧
      m₂.kernel.Keeps cfg a .interrupted (m.hart.regs.answered
        (sch.serveCode (some a) (m.hart.regs.get .a7) (m.hart.regs.get .a0)).toRegister) := by
  obtain ⟨-, hinterrupted, -⟩ := entry_cases hentry
  obtain ⟨cause, frame⟩ := context
  obtain ⟨fsp, rfl⟩ := hinterrupted.exists_task hnesting hsp hcurrent
  cases hcause
  obtain ⟨-, hkeeps, hplace⟩ := hinterrupted.keeps
  obtain ⟨m₃, hcall, rfl, -⟩ := dispatch_environmentCall_cases hdispatch
  obtain ⟨m₄, hcall', himpl₄, hkeeps₄, -⟩ := environmentCall_task (m := m₁.updateStats _)
    (hinterrupted.implements himpl) hvalid hkeeps hplace
  rw [hcall] at hcall'
  cases hcall'
  exact ⟨himpl₄.requestDispatch, hkeeps₄.of_sameContexts (.refl _)⟩

/-- What an environment call of the current task does to the kernel, and what the
frame of the task and, if it goes on, the hart hold afterwards. -/
theorem trap_environmentCall {sch : Schedule} (himpl : m.kernel.Implements sch)
    (hvalid : sch.Valid levels) (hnesting : m.nesting = 0)
    (hcurrent : m.kernel.running = some a) (hsp : m.hart.regs.sp ≠ 0) {code value : Word}
    (htrap : (m.trap cfg handlers s (.environmentCall code) value).result =
      .ok (.ok (), m', s')) :
    m'.nesting = 0 ∧
      m'.kernel.Implements ((sch.serve levels (some a) (m.hart.regs.get .a7)
        (m.hart.regs.get .a0)).requestDispatch.conclude levels) ∧
      ∃ q, RegisterFile.Agree cfg.layouts.interrupted (m.hart.regs.answered
          (sch.serveCode (some a) (m.hart.regs.get .a7) (m.hart.regs.get .a0)).toRegister) q ∧
        m'.kernel.Keeps cfg a .interrupted q ∧
        (m'.kernel.running = some a →
          RegisterFile.Agree cfg.layouts.interrupted q m'.hart.regs) := by
  obtain ⟨hart, context, m₁, m₂, s₂, m₃, hraise, hentry, hdispatch, hexit, rfl⟩ :=
    trap_cases htrap
  obtain ⟨hcause, -, hnesting₁, -⟩ := entry_cases hentry
  obtain ⟨-, hnesting₂, -⟩ := dispatch_cases hdispatch
  obtain ⟨-, -, -, hregs⟩ := Hart.raise_cases hraise
  have hsame := Hart.sp_raise hraise
  obtain ⟨himpl₂, hkeeps₂⟩ := dispatch_of_current (m := { m with hart := hart }) himpl hvalid
    hnesting hcurrent (hsame ▸ hsp) hentry (hcause.trans (Hart.decode_raise hraise)) hdispatch
  have hvalid₂ :=
    (hvalid.serve (some a) (m.hart.regs.get .a7) (m.hart.regs.get .a0)).requestDispatch
  dsimp only at hnesting₁ himpl₂ hkeeps₂
  obtain ⟨hbefore, ⟨hpos, -⟩ | ⟨hzero, decision, hdecision, hresumed⟩⟩ := exit_cases hexit
  · omega
  · rw [hregs] at himpl₂ hkeeps₂
    obtain ⟨himpl₃, hcontexts⟩ := himpl₂.conclude hvalid₂ hdecision (obey_of_resumed hresumed)
    refine ⟨hzero, himpl₃, _, RegisterFile.agree_status _ _ _,
      hkeeps₂.of_sameContexts hcontexts, fun hback => ?_⟩
    have hagree := hresumed.agree (hkeeps₂.of_sameContexts (.refl _)) hback
    exact hagree.trans (RegisterFile.agree_status _ _ _)

/-- Whether or not the frame can be read is settled before anything is executed;
once a service was executed its result can be left in the frame.  An environment
call of the current task that is not fatal does to the scheduler what the service
and the decision of the exit do, and when the task is next resumed it finds the
result of that one execution. -/
theorem Reached.call_once (hcalling : handlers.Calling cfg KernelCall.Plain)
    (h : Reached cfg handlers m s) :
    (∀ frame, (∀ e, m.frameCall cfg frame = .error e →
        m.environmentCall cfg frame = pure (.error e, m)) ∧
      ∀ call, m.frameCall cfg frame = .ok call → ∃ result served m',
        (m.kernel.serve frame.owner? call.number call.argument).result = .ok (result, served) ∧
        (m.environmentCall cfg frame).result = .ok (.ok (), m')) ∧
    ∀ a code value m' s', m.nesting = 0 → m.kernel.running = some a → m.hart.regs.sp ≠ 0 →
      (m.trap cfg handlers s (.environmentCall code) value).result = .ok (.ok (), m', s') →
      ∃ result served concluded,
        (m.kernel.serve (some a) (m.hart.regs.get .a7) (m.hart.regs.get .a0)).result =
          .ok (result, served) ∧
        served.requestDispatch.conclude = .ok concluded ∧ concluded.SameSchedule m'.kernel ∧
        ∀ q, (Session.start m' s').GoesOn cfg handlers a q →
          RegisterFile.Returned cfg.layouts.interrupted m.hart.regs result q := by
  have hwhole : m.kernel.Whole cfg := h.whole hcalling
  obtain ⟨sch, himpl, hvalid⟩ := hwhole.scheduled
  refine ⟨fun frame => ⟨fun e he => environmentCall_of_error he,
    fun call hcall => environmentCall_of_ok himpl hvalid hcall⟩, ?_⟩
  intro a code value m' s' hnesting hcurrent hsp htrap
  obtain ⟨hzero, himpl', q, hanswered, hkeeps, hlive⟩ :=
    trap_environmentCall himpl hvalid hnesting hcurrent hsp htrap
  obtain ⟨served, hserve, hserved, -⟩ :=
    himpl.exists_serve hvalid (some a) (m.hart.regs.get .a7) (m.hart.regs.get .a0)
  obtain ⟨concluded, hconclude, himpl₁⟩ := hserved.requestDispatch.exists_conclude
    (hvalid.serve (some a) (m.hart.regs.get .a7) (m.hart.regs.get .a0)).requestDispatch
  refine ⟨_, served, concluded, hserve, hconclude, himpl₁.sameSchedule himpl', fun q' hgoes => ?_⟩
  have htidy : (Session.start m' s').Tidy cfg :=
    ⟨(h.trap htrap).whole hcalling, hzero.symm, fun c hc => absurd hc List.not_mem_nil⟩
  have hagree := hgoes.agree hcalling htidy hkeeps rfl hlive
  exact (hanswered.trans hagree).returned

/-- The task wakes one that does not exist, and loses the processor to the other one.
That one blocks it, wakes it and makes it more urgent before a timer interrupt comes.
Only then the task finds the number -18 of the refusal. -/
theorem Reached.call_once_badId :
    ∃ (m m' : Machine 4 4) (q : RegisterFile),
      Reached (Config.machine false) (Handlers.default : Handlers Unit 4 4) m () ∧
      m.nesting = 0 ∧ m.kernel.running = some ⟨0⟩ ∧ m.hart.regs.sp ≠ 0 ∧
      m.hart.regs.get .a7 = 2 ∧ m.hart.regs.get .a0 = 7 ∧
      (m.trap (Config.machine false) Handlers.default () (.environmentCall 11) 0).result =
        .ok (.ok (), m', ()) ∧
      m'.kernel.running = some ⟨1⟩ ∧
      (Session.start m' ()).GoesOn (Config.machine false) Handlers.default ⟨0⟩ q ∧
      q.get .a0 = 0xffffffffffffffee ∧
      RegisterFile.Returned (Config.machine false).layouts.interrupted m.hart.regs .badId q := by
  obtain ⟨⟨m, u⟩, hplay, hm⟩ := exists_of_returns
    (x := small.play (Config.machine false) Handlers.default ()
      (Move.launchTwo ++ [.work (small.hart.updateRegs fun r =>
        ((r.setSp 0x40010200).set .a7 2).set .a0 7)]))
    (p := fun b => decide (b.1.nesting = 0 ∧ b.1.kernel.running = some ⟨0⟩ ∧
        b.1.hart.regs.sp ≠ 0 ∧ b.1.hart.regs.get .a7 = 2 ∧ b.1.hart.regs.get .a0 = 7) &&
      (ends (b.1.kernel.serve (some ⟨0⟩) (b.1.hart.regs.get .a7) (b.1.hart.regs.get .a0))
        (fun answer => decide (answer.1 = .badId)) &&
      returns (b.1.trap (Config.machine false) Handlers.default () (.environmentCall 11) 0) fun b =>
        decide (b.1.kernel.running = some ⟨1⟩) &&
        ((Session.start b.1 ()).play (Config.machine false) Handlers.default
          (fun _ mv ok x => ¬mv.saves ∧ ¬x.Resumes ⟨0⟩ ok mv)
          [.call (.markBlocked ⟨0⟩), .call (.markReady ⟨0⟩), .call (.setPriority ⟨0⟩ 0),
            .enter .timer 0, .dispatch ⟨.timer, .task ⟨1⟩ 0x400200f0⟩]).any fun w =>
          (w.next (Config.machine false) Handlers.default .exit).any fun x =>
            decide (x.2.Resumes ⟨0⟩ x.1 .exit))) (by decide +kernel)
  rw [Bool.and_eq_true, Bool.and_eq_true, decide_eq_true_iff] at hm
  obtain ⟨⟨hnesting, hrunning, hsp, hnumber, hargument⟩, hserved, htrap⟩ := hm
  obtain ⟨⟨result, served⟩, hserve, hresult⟩ := exists_of_ends hserved
  obtain rfl : result = .badId := of_decide_eq_true hresult
  obtain ⟨⟨m', u'⟩, htrap, hm'⟩ := exists_of_returns htrap
  rw [Bool.and_eq_true, decide_eq_true_iff] at hm'
  have hother : m'.kernel.running = some ⟨1⟩ := hm'.1
  have haway : m'.kernel.running ≠ some ⟨0⟩ := by
    rw [hother]
    decide
  obtain ⟨w, hbetween, hreturn⟩ := (Option.any_eq_true _ _).1 hm'.2
  obtain ⟨⟨ok, x⟩, hreturn, hresumes⟩ := (Option.any_eq_true _ _).1 hreturn
  have hreached : Reached (Config.machine false) (Handlers.default : Handlers Unit 4 4) m () :=
    (Reached.initial () initial_small).play (by decide) hplay
  have hgoes : (Session.start m' ()).GoesOn (Config.machine false) Handlers.default ⟨0⟩ _ :=
    .later haway hbetween hreturn (by decide) (of_decide_eq_true hresumes)
  obtain ⟨result', served', concluded, hserve', -, -, hreturned⟩ :=
    (Reached.call_once (Handlers.calling_default _ _) hreached).2 ⟨0⟩ 11 0 m' () hnesting hrunning
      hsp htrap
  rw [hserve] at hserve'
  cases hserve'
  exact ⟨m, m', _, hreached, hnesting, hrunning, hsp, hnumber, hargument, htrap, hother, hgoes,
    (hreturned _ hgoes).code, hreturned _ hgoes⟩

end Machine

end HartKernel
