import HartKernel.Proofs.Trap.FirstDispatch
import HartKernel.Proofs.Trap.History
import HartKernel.Proofs.Trap.Outermost
import HartKernel.Simulation.Run

/-!
# Two ways to reschedule

The processor changes hands when an outermost trap is left, and outside of traps
when the decision of the scheduler is carried out by calls.  The trap saves the
current task as interrupted whether or not it loses the processor; the calls save
it as by a call, and only if it does.  Both come to the same schedule, and a task
that loses the processor goes on from the same place.

Main definitions:

- `Kernel.reschedule` carries out the decision of the scheduler by calls.
- `RegisterFile.SameContinuation` compares registers as far as both kinds of frame
  preserve them.

Main results:

- `Simulation.reschedule_eq`: this is what a simulation does.
- `Kernel.Implements.reschedule` and `Machine.software_trap`: what either way does
  to the schedule, and what it saves of the task that was current.
- `Machine.Recorded.same_choice`: the two ways in every state of a system.
-/

namespace HartKernel

/-- The scheduler is consulted if a dispatch is requested, whoever is Running. -/
theorem Schedule.conclude_requestDispatch (levels : Nat) (s : Schedule) :
    s.requestDispatch.conclude levels = s.takeDispatch.obey (s.takeDispatch.decide levels) :=
  if_pos (.inl rfl)

namespace Kernel

variable {capacity levels : Nat} {k k' : Kernel capacity levels} {s : Schedule}
variable {cfg : Config} {kind : FrameKind} {a b : TaskId} {r r' : RegisterFile}

/-! ## Rescheduling by calls -/

/-- What was done about a decision. -/
inductive Rescheduled where
  /-- Nothing. -/
  | kept
  /-- The current task was saved as by a call, and the chosen one was loaded. -/
  | switched
  /-- There was no current task to save, or no chosen one to load.  A frame of this
  variant was loaded. -/
  | handed (kind : Option FrameKind)
deriving DecidableEq, Repr

/-- Take the request for a dispatch, make a decision and carry it out by calls. -/
def reschedule (ls : FrameLayouts) (k : Kernel capacity levels) (r : RegisterFile) :
    Traced (Except SwitchError Rescheduled × Kernel capacity levels × RegisterFile) := do
  let k := k.takeDispatch.2
  match ← k.decide, k.running with
  | .keep, _ => return (.ok .kept, k, r)
  | .switchTo (some target), some source =>
    let (outcome, k, r) ← k.switch ls r source target
    return (outcome.map fun _ => .switched, k, r)
  | .switchTo target, _ =>
    let (outcome, k, r) ← k.switchTo ls r target
    return (outcome.map .handed, k, r)

/-- A task that was left by a switch keeps its registers. -/
theorem Implements.keeps_of_switch (h : k.Implements s) (hv : s.Valid levels)
    (hswitch : (k.switch cfg.layouts r a b).result = .ok (.ok (), k', r')) :
    k'.Keeps cfg a .cooperative r := by
  rcases switch_eq cfg k r a b with ⟨e, he⟩ | ⟨t, stack, sp, ht, -, -, hsave, heq⟩
  · rw [he] at hswitch
    cases hswitch
  · obtain ⟨answer, k₁, r₁, hresult, hcases⟩ :=
      (h.recordCall a stack sp).switchTo hv cfg r (some b)
    rw [heq, hresult] at hswitch
    rcases hcases with ⟨e, rfl, -⟩ | ⟨kind, rfl, -, -, -, hsame⟩
    · cases hswitch
    · cases hswitch
      have hsaved : (k.recordCall a stack sp).Keeps cfg a .cooperative r := keeps_of_save ht hsave
      exact hsaved.of_sameContexts hsame

/-- Rescheduling has an answer.  If it is not refused it does to the schedule what
leaving an outermost trap does after a request, and a task that was left by a switch
to another one keeps its registers. -/
theorem Implements.reschedule (h : k.Implements s) (hv : s.Valid levels) (cfg : Config)
    (r : RegisterFile) :
    ∃ outcome k' r', (k.reschedule cfg.layouts r).result = .ok (outcome, k', r') ∧
      ∀ done, outcome = .ok done → k'.Implements (s.requestDispatch.conclude levels) ∧
        ∀ a b, k.running = some a → k'.running = some b → b ≠ a →
          k'.Keeps cfg a .cooperative r := by
  have htaken := h.takeDispatch
  rw [Schedule.conclude_requestDispatch]
  unfold Kernel.reschedule
  simp only [Traced.result_bind, Traced.result_lift, htaken.decide_eq, ok_bind]
  cases s.takeDispatch.decide levels with
  | keep =>
    refine ⟨_, _, _, rfl, fun done _ => ⟨htaken, fun a b ha hb hne => ?_⟩⟩
    exact absurd (Option.some.inj (hb.symm.trans ha)) hne
  | switchTo target =>
    cases target with
    | none =>
      obtain ⟨outcome, k', r', hresult, hcases⟩ := htaken.switchTo hv.takeDispatch cfg r none
      simp only [Traced.result_bind, hresult, ok_bind]
      refine ⟨_, _, _, rfl, fun done hdone => ?_⟩
      rcases hcases with ⟨e, rfl, -⟩ | ⟨kind, rfl, -, -, himpl, -⟩
      · cases hdone
      · refine ⟨himpl, fun a b _ hb => ?_⟩
        rw [← himpl.running, Schedule.running_handOver] at hb
        cases hb
    | some target =>
      cases hrunning : k.takeDispatch.2.running with
      | none =>
        obtain ⟨outcome, k', r', hresult, hcases⟩ :=
          htaken.switchTo hv.takeDispatch cfg r (some target)
        simp only [Traced.result_bind, hresult, ok_bind]
        refine ⟨_, _, _, rfl, fun done hdone => ?_⟩
        rcases hcases with ⟨e, rfl, -⟩ | ⟨kind, rfl, -, -, himpl, -⟩
        · cases hdone
        · exact ⟨himpl, fun a b ha => nomatch ha.symm.trans hrunning⟩
      | some source =>
        obtain ⟨outcome, k', r', hresult, hcases⟩ :=
          htaken.switch hv.takeDispatch cfg r source target
        simp only [Traced.result_bind, hresult, ok_bind]
        refine ⟨_, _, _, rfl, fun done hdone => ?_⟩
        rcases hcases with ⟨e, rfl, -⟩ | ⟨rfl, -, himpl⟩
        · cases hdone
        · refine ⟨himpl, fun a b ha _ _ => ?_⟩
          obtain rfl : a = source := Option.some.inj (ha.symm.trans hrunning)
          exact htaken.keeps_of_switch hv.takeDispatch hresult

/-- A task with a frame has a stack below the stack pointer that it was saved with. -/
theorem Keeps.sp_ne_zero (h : k.Keeps cfg a kind r) : r.sp ≠ 0 := by
  obtain ⟨t, -, hholds⟩ := h
  intro hzero
  have habove := hholds.above
  have hpos := (cfg.layouts.layout kind).frameWords_pos
  rw [hzero, FrameLayout.frameSize] at habove
  exact absurd habove (by simp; omega)

end Kernel

/-! ## Rescheduling in a simulation -/

namespace Simulation

variable {capacity levels : Nat}

/-- What a simulation answers. -/
def answerRescheduled : Except SwitchError Kernel.Rescheduled → Answer
  | .ok .kept => .text "Keep"
  | .ok .switched => .done .nothing
  | .ok (.handed kind) => .done (.ofKind kind)
  | .error e => .ofOperation .ofKind (.error e)

/-- A simulation reschedules by calls. -/
theorem reschedule_eq (cfg : Config) (s : Simulation capacity levels) :
    s.reschedule cfg = (fun x => (answerRescheduled x.1, s.setContext x.2.1 x.2.2)) <$>
      s.machine.kernel.reschedule cfg.layouts s.machine.hart.regs := by
  unfold reschedule Kernel.reschedule
  rw [map_bind]
  refine bind_congr fun decision => ?_
  cases decision with
  | keep => rfl
  | switchTo target =>
    cases target with
    | none =>
      rw [map_bind]
      exact bind_congr fun ⟨outcome, _, _⟩ => by cases outcome <;> rfl
    | some target =>
      cases hrunning : s.machine.kernel.takeDispatch.2.running with
      | none =>
        rw [map_bind]
        exact bind_congr fun ⟨outcome, _, _⟩ => by cases outcome <;> rfl
      | some source =>
        rw [map_bind]
        exact bind_congr fun ⟨outcome, _, _⟩ => by cases outcome <;> rfl

end Simulation

namespace RegisterFile

variable {r r' : RegisterFile} {cfg : Config}

/-! ## Registers that both kinds of frame preserve -/

/-- A task goes on from the same place: the return address, the first argument, the
registers that a call preserves, the program counter and the stack pointer are the
same. -/
structure SameContinuation (cfg : Config) (r r' : RegisterFile) : Prop where
  link : r'.get .ra = r.get .ra
  argument : r'.get .a0 = r.get .a0
  int : ∀ n ∈ preserved, r'.get (.int n) = r.get (.int n)
  pc : r'.pc = r.pc
  sp : r'.sp = r.sp
  float : cfg.includeFp = true →
    (∀ n ∈ preserved, r'.get (.float n) = r.get (.float n)) ∧ r'.fcsr = r.fcsr

theorem Agree.symm {l : FrameLayout} (h : Agree l r r') : Agree l r' r :=
  ⟨h.1.symm, fun s hs hne => (h.2 s hs hne).symm⟩

/-- A frame saved by a trap has every slot of one saved by a call. -/
theorem Agree.cooperative (h : Agree cfg.layouts.interrupted r r') :
    Agree cfg.layouts.cooperative r r' := by
  refine ⟨h.1, fun s hs => h.2 s ?_⟩
  revert s
  unfold Config.layouts
  cases cfg.includeFp <;> decide

theorem Agree.sameContinuation (h : Agree cfg.layouts.cooperative r r') :
    SameContinuation cfg r r' := by
  obtain ⟨hsp, hslots⟩ := h
  have hint : ∀ n ∈ 1 :: 10 :: preserved, .int n ∈ cfg.layouts.cooperative.slots := by
    unfold Config.layouts
    cases cfg.includeFp <;> decide
  have hpc : .pc ∈ cfg.layouts.cooperative.slots := by
    unfold Config.layouts
    cases cfg.includeFp <;> decide
  have hfloat : cfg.includeFp = true → ∀ s ∈ RegisterSlot.floatStatus :: preserved.map .float,
      s ∈ cfg.layouts.cooperative.slots := by
    intro hfp
    unfold Config.layouts
    rw [hfp]
    decide
  constructor
  · exact hslots .ra (hint 1 (by decide)) (by decide)
  · exact hslots .a0 (hint 10 (by decide)) (by decide)
  · exact fun n hn => hslots (.int n) (hint n (.tail _ (.tail _ hn))) (by simp)
  · exact hslots .pc hpc (by decide)
  · exact hsp
  · refine fun hfp => ⟨fun n hn => ?_, ?_⟩
    · exact hslots (.float n) (hfloat hfp _ (.tail _ (List.mem_map_of_mem hn))) (by simp)
    · exact hslots .floatStatus (hfloat hfp _ (.head _)) (by decide)

end RegisterFile

namespace Machine

variable {capacity levels : Nat} {σ : Type} {cfg : Config} {handlers : Handlers σ capacity levels}
variable {m m' : Machine capacity levels} {s s' : σ}

/-! ## Rescheduling by a trap -/

/-- An outermost software interrupt that returns has made a request and concluded it,
and the task that was current has a frame with the registers that it had, as long as
it had a stack. -/
theorem software_trap {sch : Schedule} {value : Word} (himpl : m.kernel.Implements sch)
    (hvalid : sch.Valid levels) (hnesting : m.nesting = 0)
    (htrap : (m.trap cfg handlers s .software value).result = .ok (.ok (), m', s')) :
    m'.kernel.Implements (sch.requestDispatch.conclude levels) ∧
      ∀ a, m.kernel.running = some a → m.hart.regs.sp ≠ 0 → ∃ r,
        RegisterFile.Agree cfg.layouts.interrupted m.hart.regs r ∧
        m'.kernel.Keeps cfg a .interrupted r := by
  obtain ⟨hart, context, m₁, m₂, s₂, m₃, hraise, hentry, hdispatch, hexit, rfl⟩ :=
    trap_cases htrap
  obtain ⟨hcause, hinterrupted, hdeeper, -⟩ := entry_cases hentry
  obtain ⟨hdispatched, hlevel, -⟩ := dispatch_cases hdispatch
  obtain ⟨-, -, -, hregs⟩ := Hart.raise_cases hraise
  have himpl₁ : m₁.kernel.Implements sch := hinterrupted.implements himpl
  have hkernel : m₂.kernel = m₁.kernel.requestDispatch := by
    rw [hcause.trans (Hart.decode_raise hraise)] at hdispatched
    cases hdispatched with
    | software hkernel hs => exact hkernel
  dsimp only at hdeeper
  obtain ⟨hbefore, ⟨hpos, -⟩ | ⟨-, decision, hdecision, hresumed⟩⟩ := exit_cases hexit
  · omega
  · rw [hkernel] at hdecision hresumed
    obtain ⟨himpl₃, hsame⟩ := himpl₁.requestDispatch.conclude hvalid.requestDispatch hdecision
      (obey_of_resumed hresumed)
    refine ⟨himpl₃, fun a hcurrent hsp => ⟨hart.regs, ?_, ?_⟩⟩
    · rw [hregs]
      exact RegisterFile.agree_status _ _ _
    · obtain ⟨sp, hframe⟩ :=
        hinterrupted.exists_task hnesting (Hart.sp_raise hraise ▸ hsp) hcurrent
      obtain ⟨-, hsaved, -⟩ := (hframe ▸ hinterrupted).keeps
      have hasked : m₁.kernel.requestDispatch.Keeps cfg a .interrupted hart.regs :=
        hsaved.of_sameContexts (.refl _)
      exact hasked.of_sameContexts hsame

/-! ## Every state of a system -/

/-- In every state of a system outside of traps the decision of the scheduler can be
carried out by calls or by a software interrupt, whatever the handlers.  If neither is
refused the scheduler ends up with the same current task, the same state and priority
of every task, the same ready queue and no request.  A task that was left by a switch
to another one goes on from the same place either way. -/
theorem Recorded.same_choice {log : List (Option TaskId)} (h : Recorded cfg handlers log m s)
    (hnesting : m.nesting = 0) :
    ∃ outcome k r, (m.kernel.reschedule cfg.layouts m.hart.regs).result = .ok (outcome, k, r) ∧
      ∀ done, outcome = .ok done → ∀ (τ : Type) (hooks : Handlers τ capacity levels) u value m' u',
        (m.trap cfg hooks u .software value).result = .ok (.ok (), m', u') →
        k.SameSchedule m'.kernel ∧ k.dispatchPending = false ∧ m'.kernel.dispatchPending = false ∧
          ∀ a b, m.kernel.running = some a → k.running = some b → b ≠ a → ∀ q q', ∃ r r',
            (k.restoreContext cfg.layouts q a).result = .ok (.ok .cooperative, r) ∧
            (m'.kernel.restoreContext cfg.layouts q' a).result = .ok (.ok .interrupted, r') ∧
            RegisterFile.SameContinuation cfg r r' := by
  obtain ⟨sch, himpl, hvalid, -⟩ := h.arranged
  obtain ⟨outcome, k, r, hresult, hdone⟩ := himpl.reschedule hvalid cfg m.hart.regs
  refine ⟨outcome, k, r, hresult, fun done hok τ hooks u value m' u' htrap => ?_⟩
  obtain ⟨hcalls, hleft⟩ := hdone done hok
  obtain ⟨htrapped, hsaved⟩ := software_trap himpl hvalid hnesting htrap
  have hpending : k.dispatchPending = false :=
    hcalls.pending.symm.trans (Schedule.pending_conclude _)
  have hpending' : m'.kernel.dispatchPending = false :=
    htrapped.pending.symm.trans (Schedule.pending_conclude _)
  refine ⟨hcalls.sameSchedule htrapped, hpending, hpending', fun a b ha hb hne q q' => ?_⟩
  have hkeeps := hleft a b ha hb hne
  obtain ⟨r₁, hstatus, hkeeps'⟩ := hsaved a ha hkeeps.sp_ne_zero
  obtain ⟨r₂, hload, hagree⟩ := hkeeps.restore q
  obtain ⟨r₃, hload', hagree'⟩ := hkeeps'.restore q'
  have hsame : RegisterFile.Agree cfg.layouts.cooperative m.hart.regs r₃ :=
    (hstatus.trans hagree').cooperative
  exact ⟨r₂, r₃, hload, hload', (hagree.symm.trans hsame).sameContinuation⟩

/-- The running task gives way to another one of the same priority. -/
theorem Recorded.same_choice_yield :
    ∃ (log : List (Option TaskId)) (m m' : Machine 4 4) (k : Kernel 4 4) (r₀ r r' : RegisterFile),
      Recorded (Config.machine false) (Handlers.default : Handlers Unit 4 4) log m () ∧
      m.nesting = 0 ∧ m.kernel.running = some ⟨0⟩ ∧
      (m.kernel.reschedule (Config.machine false).layouts m.hart.regs).result =
        .ok (.ok .switched, k, r₀) ∧
      (m.trap (Config.machine false) (Handlers.default : Handlers Unit 4 4) () .software 0
        ).result = .ok (.ok (), m', ()) ∧
      k.running = some ⟨1⟩ ∧ k.SameSchedule m'.kernel ∧
      (k.restoreContext (Config.machine false).layouts r₀ ⟨0⟩).result =
        .ok (.ok .cooperative, r) ∧
      (m'.kernel.restoreContext (Config.machine false).layouts m'.hart.regs ⟨0⟩).result =
        .ok (.ok .interrupted, r') ∧
      RegisterFile.SameContinuation (Config.machine false) r r' := by
  obtain ⟨⟨m, u⟩, hplay, hm⟩ := exists_of_returns
    (x := small.play (Config.machine false) Handlers.default () Move.launchTwo)
    (p := fun b => decide (b.1.nesting = 0 ∧ b.1.kernel.running = some ⟨0⟩) &&
      returns (b.1.trap (Config.machine false) (Handlers.default : Handlers Unit 4 4) () .software
        0) (fun _ => true) &&
      ends (b.1.kernel.reschedule (Config.machine false).layouts b.1.hart.regs) fun answer =>
        decide (answer.1 = .ok .switched ∧ answer.2.1.running = some ⟨1⟩))
    (by decide +kernel)
  simp only [Bool.and_eq_true] at hm
  obtain ⟨⟨hstate, htrap⟩, hends⟩ := hm
  obtain ⟨hnesting, hcurrent⟩ := of_decide_eq_true hstate
  obtain ⟨⟨m', u'⟩, htrap, -⟩ := exists_of_returns htrap
  obtain ⟨⟨outcome, k, r₀⟩, hresult, hends⟩ := exists_of_ends hends
  obtain ⟨hswitched, hother⟩ := of_decide_eq_true hends
  obtain ⟨log, hrecorded⟩ := (Recorded.initial () initial_small).play
    (Handlers.calling_default _ fun _ => True) hplay
  obtain ⟨outcome', k', r₁, hresult', hsame⟩ := hrecorded.same_choice hnesting
  rw [hresult] at hresult'
  cases hresult'
  obtain ⟨hschedule, -, -, hcontinue⟩ := hsame _ hswitched _ _ _ _ _ _ htrap
  obtain ⟨r, r', hload, hload', hsame⟩ := hcontinue ⟨0⟩ ⟨1⟩ hcurrent hother (by decide) r₀
    m'.hart.regs
  exact ⟨log, m, m', k, r₀, r, r', hrecorded, hnesting, hcurrent, hswitched ▸ hresult, htrap,
    hother, hschedule, hload, hload', hsame⟩

end Machine

end HartKernel
