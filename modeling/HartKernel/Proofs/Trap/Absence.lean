import HartKernel.Proofs.Trap.Session

/-!
# Preemption is not observable

A task that loses the processor finds its registers again when it gets the
processor back, whatever happens in between: its frame is written before
anything else, nobody writes it while the task is away, and nobody but the task
itself is loaded from it.

Handlers must not switch contexts by themselves.  If one switches away from the
task that it has interrupted, the task is saved again, with the registers of the
handler.

Main definitions:

- `Absence` is a run in which a task loses the processor and gets it back.
- `Session.Away` is what holds while the task is away.

Main results:

- `Absence.registers_agree`: the task gets its stack pointer and every register that its
  frame preserves back.
- `Absence.exists_not_agree`: this fails if handlers may switch away.
-/

namespace HartKernel

/-- The move saves registers, but neither on trap entry nor in a switch. -/
def Move.saves : Move → Bool
  | .call (.save _ _) => true
  | _ => false

/-- The task whose registers the move saves, but neither on trap entry nor in a
switch. -/
def Move.savedTask? : Move → Option TaskId
  | .call (.save id _) => some id
  | _ => none

theorem Move.savedTask?_ne {mv : Move} (h : ¬mv.saves) (a : TaskId) : mv.savedTask? ≠ some a := by
  intro hsaved
  cases mv with
  | call c =>
    cases c with
    | save id kind => exact h rfl
    | _ => cases hsaved
  | _ => cases hsaved

/-- The task that is switched away from. -/
def Move.source? : Move → Option TaskId
  | .call (.switch source _) => some source
  | _ => none

namespace Session

variable {capacity levels : Nat} {σ : Type}

/-- A handler has switched away from a task. -/
def SwitchesAway (a : TaskId) (u : Session σ capacity levels) (ok : Bool) (mv : Move) : Prop :=
  ok = true ∧ mv.source? = some a ∧ 0 < u.machine.nesting

instance (a : TaskId) (u : Session σ capacity levels) (ok : Bool) :
    DecidablePred (u.SwitchesAway a ok) :=
  fun _ => inferInstanceAs (Decidable (_ ∧ _))

/-- A task has got the processor, by an outermost trap exit or by a switch. -/
def Resumes (a : TaskId) (v : Session σ capacity levels) (ok : Bool) : Move → Prop
  | .exit => v.machine.nesting = 0 ∧ v.machine.kernel.running = some a
  | .call c => ok = true ∧ c.target? = some a
  | _ => False

instance (a : TaskId) (v : Session σ capacity levels) (ok : Bool) : DecidablePred (v.Resumes a ok)
  | .exit => inferInstanceAs (Decidable (_ ∧ _))
  | .call _ => inferInstanceAs (Decidable (_ ∧ _))
  | .work _ | .write .. | .writeInterrupt .. | .enter .. | .dispatch _ | .trap .. =>
    isFalse not_false

/-- A task has lost the processor and was saved in a frame of a variant: a trap
other than an environment call has interrupted it, or it has switched to another
task. -/
inductive Loses (a : TaskId) (v : Session σ capacity levels) : Move → Bool → FrameKind → Prop where
  | trap {cause : TrapCause} {value : Word} {context : TrapContext} {rest : List TrapContext}
    (htraps : v.traps = context :: rest) (howner : context.frame.owner? = some a)
    (hcause : ∀ code, context.cause ≠ .environmentCall code) :
    Loses a v (.enter cause value) true .interrupted
  | switch {target : TaskId} (hne : target ≠ a) :
    Loses a v (.call (.switch a target)) true .cooperative

end Session

/-- A run in which a task loses the processor with registers `r` and goes on with
registers `r'`.  From then on nothing forbidden happens, and nothing in between
gives the processor to the task. -/
inductive Absence {capacity levels : Nat} {σ : Type} (cfg : Config)
    (handlers : Handlers σ capacity levels)
    (forbidden : TaskId → Session σ capacity levels → Bool → Move → Prop)
    [∀ a u ok, DecidablePred (forbidden a u ok)] (a : TaskId) (kind : FrameKind) :
    RegisterFile → RegisterFile → Prop where
  | intro {interruptStack : StackRegion} {m₀ : Machine capacity levels} {s₀ : σ}
    {before between : List Move} {u v w x : Session σ capacity levels} {mv mv' : Move}
    {ok ok' : Bool} (hinitial : Machine.initial cfg capacity levels interruptStack = .ok m₀)
    (hbefore : (Session.start m₀ s₀).play cfg handlers (fun _ _ _ _ => True) before = some u)
    (hloss : u.next cfg handlers mv = some (ok, v)) (hloses : v.Loses a mv ok kind)
    (hpermitted : ¬forbidden a u ok mv)
    (hbetween : v.play cfg handlers
      (fun w mv ok x => ¬forbidden a w ok mv ∧ ¬x.Resumes a ok mv) between = some w)
    (hreturn : w.next cfg handlers mv' = some (ok', x)) (hresumes : x.Resumes a ok' mv')
    (hpermitted' : ¬forbidden a w ok' mv') :
    Absence cfg handlers forbidden a kind u.machine.hart.regs x.machine.hart.regs

/-! ## Getting the processor back -/

/-- An outermost exit that gives the processor to a task loads what its frame
holds. -/
theorem Machine.Resumed.agree {capacity levels : Nat} {σ : Type} {cfg : Config}
    {handlers : Handlers σ capacity levels} {k : Kernel capacity levels} {idle : Bool}
    {m' : Machine capacity levels} {s s' : σ} {decision : Decision} {a : TaskId}
    {kind : FrameKind} {r : RegisterFile} (h : Resumed cfg handlers k idle m' s s' decision)
    (hkeeps : k.Keeps cfg a kind r) (hcurrent : m'.kernel.running = some a) :
    RegisterFile.Agree (cfg.layouts.layout kind) r m'.hart.regs := by
  -- what is loaded is what the scheduler wants, and that is the task
  cases h with
  | background id q hrunning hload hkernel hidle hs =>
    have hid : id = a := by
      rw [hkernel, (Option.filter_eq_some_iff.1 hrunning).1] at hcurrent
      exact Option.some.inj hcurrent
    exact (hkeeps.agree (hid ▸ hload)).2
  | task id kind' q loaded hload hkernel hregs hidle hs =>
    have hid : id = a :=
      Option.some.inj ((Kernel.running_of_handOver hkernel).symm.trans hcurrent)
    have hagree := (hkeeps.agree (hid ▸ hload)).2
    rw [hregs]
    cases kind' with
    | interrupted => exact hagree
    | cooperative => exact hagree.trans (RegisterFile.agree_status _ _ _)
  | idle hkernel hsp hidle hs =>
    rw [Kernel.running_of_handOver hkernel] at hcurrent
    cases hcurrent

namespace Session

variable {capacity levels : Nat} {σ : Type} {cfg : Config} {handlers : Handlers σ capacity levels}
variable {u v : Session σ capacity levels} {a : TaskId} {kind : FrameKind} {r : RegisterFile}
variable {mv : Move} {ok : Bool}

/-! ## While the task is away -/

/-- While a task is away its frame holds its registers, it is the current task
only while a trap is being handled, and none of these traps will patch its
frame. -/
structure Away (cfg : Config) (a : TaskId) (kind : FrameKind) (r : RegisterFile)
    (u : Session σ capacity levels) : Prop where
  keeps : u.machine.kernel.Keeps cfg a kind r
  current : u.machine.kernel.running = some a → 0 < u.machine.nesting
  untouched : ∀ c ∈ u.traps, c.frame.owner? = some a → ∀ code, c.cause ≠ .environmentCall code

/-- What a task that loses the processor leaves behind. -/
theorem away_of_loses (h : u.Tidy cfg) (hnext : u.next cfg handlers mv = some (ok, v))
    (hloses : v.Loses a mv ok kind) (hstays : ¬u.SwitchesAway a ok mv) :
    ∃ r, RegisterFile.Agree (cfg.layouts.layout kind) u.machine.hart.regs r ∧
      v.Away cfg a kind r := by
  have hnone : u.machine.nesting = 0 → u.traps = [] := by
    intro hnesting
    exact List.eq_nil_of_length_eq_zero (h.depth.trans hnesting)
  cases next_cases hnext with
  | call hcall =>
    cases hloses with
    | @switch target hne =>
      have hnesting : u.machine.nesting = 0 := by
        by_contra hpos
        exact hstays ⟨rfl, rfl, Nat.pos_of_ne_zero hpos⟩
      obtain ⟨-, hkeeps, htarget⟩ := h.whole.keeps_of_switch hcall
      refine ⟨u.machine.hart.regs, .refl _ _, hkeeps, fun hcurrent => ?_, fun c hc => ?_⟩
      · exact absurd (Option.some.inj (htarget.symm.trans hcurrent)) hne
      · rw [hnone hnesting] at hc
        exact absurd hc List.not_mem_nil
  | work hart => cases hloses
  | @enter cause value hart context m hraise hentry =>
    cases hloses with
    | trap htraps howner hcause =>
      cases htraps
      obtain ⟨-, hinterrupted, hnesting, -⟩ := Machine.entry_cases hentry
      obtain ⟨sp, hframe⟩ := SavedFrame.owner?_eq_some.1 howner
      obtain ⟨hnested, -, hsave⟩ := hinterrupted.of_task hframe
      obtain ⟨word, -, hraise⟩ := Traced.bind_eq_ok.1 hraise
      obtain ⟨x, -, hraise⟩ := Traced.bind_eq_ok.1 hraise
      refine ⟨hart.regs, ?_, (h.whole.spares_saveContext hsave).2.1, fun _ => ?_, ?_⟩
      · cases hraise
        exact RegisterFile.agree_status _ _ _
      · rw [hnesting]
        exact Nat.succ_pos _
      · intro c hc _
        rw [hnone hnested, List.mem_singleton] at hc
        rw [hc]
        exact hcause
  | dispatch hmem hdispatch => cases hloses
  | exit hexit => cases hloses

/-- A call that is not forbidden does not save the task that is away. -/
theorem Away.not_savesFor (haway : u.Away cfg a kind r) (h : u.Tidy cfg) {c : KernelCall}
    {k : Kernel capacity levels} {q : RegisterFile}
    (hcall : (u.machine.kernel.invoke cfg u.machine.hart.regs c).result = .ok (true, k, q))
    (hsaves : (Move.call c).savedTask? ≠ some a) (hstays : ¬u.SwitchesAway a true (.call c)) :
    c.saved? ≠ some a := by
  intro hsaved
  cases c with
  | save id kind => exact hsaves hsaved
  | switch source target =>
    cases hsaved
    exact hstays ⟨rfl, rfl, haway.current (h.whole.keeps_of_switch hcall).1⟩
  | _ => cases hsaved

/-- A move that is not forbidden and does not give the processor back leaves the
task away. -/
theorem next_away (hcalling : handlers.Calling cfg KernelCall.Plain) (h : u.Tidy cfg)
    (haway : u.Away cfg a kind r) (hnext : u.next cfg handlers mv = some (ok, v))
    (hsaves : mv.savedTask? ≠ some a) (hstays : ¬u.SwitchesAway a ok mv)
    (hresumes : ¬v.Resumes a ok mv) : v.Away cfg a kind r := by
  cases next_cases hnext with
  | @call c ok k q hcall =>
    have hspares := h.whole.spares_invoke hcall
    have hspared : ok = true → c.saved? ≠ some a ∧ c.target? ≠ some a := by
      rintro rfl
      exact ⟨haway.not_savesFor h hcall hsaves hstays, fun hback => hresumes ⟨rfl, hback⟩⟩
    exact ⟨hspares.keeps a hspared _ _ haway.keeps,
      fun hcurrent => haway.current (hspares.running a hspared hcurrent), haway.untouched⟩
  | work hart => exact ⟨haway.keeps, haway.current, haway.untouched⟩
  | @enter cause value hart context m hraise hentry =>
    obtain ⟨-, hinterrupted, hnesting, -⟩ := Machine.entry_cases hentry
    -- entry saves the current task, but only if no trap is being handled
    have hother : context.frame.owner? ≠ some a := by
      intro howner
      obtain ⟨sp, hframe⟩ := SavedFrame.owner?_eq_some.1 howner
      obtain ⟨hnested, hrunning, -⟩ := hinterrupted.of_task hframe
      exact absurd hnested (haway.current hrunning).ne'
    have hspares := Machine.spares_of_interrupted
      (m := { u.machine with hart := hart }) h.whole hinterrupted
    refine ⟨hspares.keeps a hother _ _ haway.keeps, fun _ => ?_, fun c hc howner => ?_⟩
    · rw [hnesting]
      exact Nat.succ_pos _
    · rcases List.mem_cons.1 hc with rfl | hc
      · exact absurd howner hother
      · exact haway.untouched c hc howner
  | @dispatch context ok m s hmem hdispatch =>
    obtain ⟨hdispatched, hnesting, -⟩ := Machine.dispatch_cases hdispatch
    have hspares := Machine.spares_of_dispatched hcalling h.whole (h.aligned context hmem)
      hdispatched
    have hspared := haway.untouched context hmem
    refine ⟨hspares.keeps a hspared _ _ haway.keeps, fun hcurrent => ?_, haway.untouched⟩
    rw [hnesting]
    exact haway.current (hspares.running a hspared hcurrent)
  | @exit ok m s hexit =>
    refine ⟨haway.keeps.of_sameContexts (Machine.whole_of_exit h.whole hexit).2,
      fun hcurrent => Nat.pos_of_ne_zero fun hzero => hresumes ⟨hzero, hcurrent⟩, ?_⟩
    exact fun c hc => haway.untouched c (List.mem_of_mem_tail hc)

/-- A task that gets the processor back gets its registers back. -/
theorem agree_of_resumes (h : u.Tidy cfg) (haway : u.Away cfg a kind r)
    (hnext : u.next cfg handlers mv = some (ok, v)) (hsaves : ¬mv.saves)
    (hstays : ¬u.SwitchesAway a ok mv) (hresumes : v.Resumes a ok mv) :
    RegisterFile.Agree (cfg.layouts.layout kind) r v.machine.hart.regs := by
  cases next_cases hnext with
  | call hcall =>
    obtain ⟨rfl, hback⟩ := hresumes
    obtain ⟨s, himpl, hvalid⟩ := h.whole.scheduled
    exact (himpl.answered hvalid h.whole.framed hcall).agree haway.keeps
      (haway.not_savesFor h hcall (Move.savedTask?_ne hsaves a) hstays) hback
  | work hart => exact hresumes.elim
  | enter hraise hentry => exact hresumes.elim
  | dispatch hmem hdispatch => exact hresumes.elim
  | @exit ok m s hexit =>
    obtain ⟨hzero, hcurrent⟩ := hresumes
    obtain ⟨-, ⟨hpos, -⟩ | ⟨-, decision, -, hresumed⟩⟩ := Machine.exit_cases hexit
    · exact absurd hzero hpos.ne'
    · have hkeeps : u.machine.kernel.takeDispatch.2.Keeps cfg a kind r :=
        haway.keeps.of_sameContexts (.refl _)
      exact hresumed.agree hkeeps hcurrent

theorem play_away
    {permits : Session σ capacity levels → Move → Bool → Session σ capacity levels → Prop}
    [∀ u mv ok v, Decidable (permits u mv ok v)] {moves : List Move}
    (hcalling : handlers.Calling cfg KernelCall.Plain)
    (hpermits : ∀ {u mv ok v}, permits u mv ok v →
      ¬mv.saves ∧ ¬u.SwitchesAway a ok mv ∧ ¬v.Resumes a ok mv)
    (h : u.Tidy cfg) (haway : u.Away cfg a kind r)
    (hplay : u.play cfg handlers permits moves = some v) : v.Away cfg a kind r := by
  refine (play_induction hcalling ?_ h haway hplay).2
  intro u mv ok v h haway hpermitted hnext
  obtain ⟨hsaves, hstays, hresumes⟩ := hpermits hpermitted
  exact next_away hcalling h haway hnext (Move.savedTask?_ne hsaves a) hstays hresumes

end Session

/-! ## The whole absence -/

namespace Absence

variable {capacity levels : Nat} {σ : Type} {cfg : Config} {handlers : Handlers σ capacity levels}
variable {a : TaskId} {kind : FrameKind} {r r' : RegisterFile}

/-- Make the moves of an absence.  Answers the sessions before and after the
task has lost the processor, and the one in which it has it back. -/
def attempt (cfg : Config) (handlers : Handlers σ capacity levels)
    (forbidden : TaskId → Session σ capacity levels → Bool → Move → Prop)
    [∀ a u ok, DecidablePred (forbidden a u ok)] (a : TaskId) (m₀ : Machine capacity levels)
    (s₀ : σ) (before : List Move) (mv : Move) (between : List Move) (mv' : Move) :
    Option (Session σ capacity levels × Session σ capacity levels × Session σ capacity levels) := do
  let u ← (Session.start m₀ s₀).play cfg handlers (fun _ _ _ _ => True) before
  let (ok, v) ← u.next cfg handlers mv
  let w ← v.play cfg handlers
    (fun w mv ok x => ¬forbidden a w ok mv ∧ ¬x.Resumes a ok mv) between
  let (ok', x) ← w.next cfg handlers mv'
  if ok = true ∧ ¬forbidden a u ok mv ∧ x.Resumes a ok' mv' ∧ ¬forbidden a w ok' mv' then
    some (u, v, x)
  else none

theorem of_attempt {forbidden : TaskId → Session σ capacity levels → Bool → Move → Prop}
    [∀ a u ok, DecidablePred (forbidden a u ok)] {interruptStack : StackRegion}
    {m₀ : Machine capacity levels} {s₀ : σ} {before between : List Move} {mv mv' : Move}
    {u v x : Session σ capacity levels}
    (hinitial : Machine.initial cfg capacity levels interruptStack = .ok m₀)
    (h : attempt cfg handlers forbidden a m₀ s₀ before mv between mv' = some (u, v, x))
    (hloses : v.Loses a mv true kind) :
    Absence cfg handlers forbidden a kind u.machine.hart.regs x.machine.hart.regs := by
  unfold attempt at h
  obtain ⟨u₁, hbefore, h⟩ := Option.bind_eq_some_iff.1 h
  obtain ⟨⟨ok, v₁⟩, hloss, h⟩ := Option.bind_eq_some_iff.1 h
  obtain ⟨w, hbetween, h⟩ := Option.bind_eq_some_iff.1 h
  obtain ⟨⟨ok', x₁⟩, hreturn, h⟩ := Option.bind_eq_some_iff.1 h
  by_cases hchecks : ok = true ∧ ¬forbidden a u₁ ok mv ∧ x₁.Resumes a ok' mv' ∧
      ¬forbidden a w ok' mv'
  · simp only [if_pos hchecks, Option.some.injEq, Prod.mk.injEq] at h
    obtain ⟨rfl, rfl, rfl⟩ := h
    obtain ⟨rfl, hpermitted, hresumes, hpermitted'⟩ := hchecks
    exact .intro hinitial hbefore hloss hloses hpermitted hbetween hreturn hresumes hpermitted'
  · simp only [if_neg hchecks] at h
    cases h

/-- A hart with a stack pointer and one more value in its registers. -/
def registers (sp v : Word) : Hart :=
  { Hart.initial (Config.machine false) with regs := (RegisterFile.zero.setSp sp).set (.int 8) v }

/-- A task that loses the processor gets its registers back with it, if
registers are saved by the trap handler and by switches only and if no handler
switches away from the task. -/
theorem registers_agree (hcalling : handlers.Calling cfg KernelCall.Plain)
    (h : Absence cfg handlers (fun a u ok mv => mv.saves ∨ u.SwitchesAway a ok mv) a kind r r') :
    RegisterFile.Agree (cfg.layouts.layout kind) r r' := by
  cases h with
  | intro hinitial hbefore hloss hloses hpermitted hbetween hreturn hresumes hpermitted' =>
    have htidy₀ := Session.play_tidy hcalling (Session.tidy_start hinitial _) hbefore
    obtain ⟨r₁, hsaved, haway⟩ :=
      Session.away_of_loses htidy₀ hloss hloses fun hstays => hpermitted (.inr hstays)
    have htidy := Session.next_tidy hcalling htidy₀ hloss
    have haway' := Session.play_away hcalling (fun hpermits =>
      ⟨fun hsaves => hpermits.1 (.inl hsaves), fun hstays => hpermits.1 (.inr hstays),
        hpermits.2⟩) htidy haway hbetween
    have htidy' := Session.play_tidy hcalling htidy hbetween
    exact hsaved.trans (Session.agree_of_resumes htidy' haway' hreturn
      (fun hsaves => hpermitted' (.inl hsaves)) (fun hstays => hpermitted' (.inr hstays)) hresumes)

/-- The other task runs and makes the interrupted one more urgent before a timer
interrupt comes. -/
theorem registers_agree_round_trip :
    ∃ r r', Absence (Config.machine false) (Handlers.default : Handlers Unit 4 4)
        (fun a u ok mv => mv.saves ∨ u.SwitchesAway a ok mv) ⟨0⟩ .interrupted r r' ∧
      r.get (.int 8) = 0x1111 ∧
      RegisterFile.Agree ((Config.machine false).layouts.layout .interrupted) r r' := by
  have hrun : (attempt (Config.machine false) (Handlers.default : Handlers Unit 4 4)
      (fun a u ok mv => mv.saves ∨ u.SwitchesAway a ok mv) ⟨0⟩ Machine.small ()
      (Move.startTwo ++ [.work (registers 0x40010200 0x1111)]) (.enter .software 0)
      [.dispatch ⟨.software, .task ⟨0⟩ 0x400100f0⟩, .exit, .work (registers 0x40020200 0x2222),
        .call (.setPriority ⟨0⟩ 0), .enter .timer 0,
        .dispatch ⟨.timer, .task ⟨1⟩ 0x400200f0⟩] .exit).any
      (fun p => p.2.1.traps = [⟨.software, .task ⟨0⟩ 0x400100f0⟩] ∧
        p.1.machine.hart.regs.get (.int 8) = 0x1111) = true := by
    decide +kernel
  obtain ⟨⟨u, v, x⟩, hattempt, hp⟩ := (Option.any_eq_true _ _).1 hrun
  obtain ⟨htraps, hvalue⟩ := of_decide_eq_true hp
  have habsence := of_attempt Machine.initial_small hattempt (.trap htraps rfl (by simp))
  exact ⟨_, _, habsence, hvalue, registers_agree (Handlers.calling_default _ _) habsence⟩

/-- While the trap that has interrupted it is being handled, a handler switches
away from the task with registers of its own. -/
theorem exists_not_agree :
    ∃ r r', Absence (Config.machine false) (Handlers.default : Handlers Unit 4 4)
        (fun _ _ _ mv => mv.saves) ⟨0⟩ .interrupted r r' ∧
      ¬RegisterFile.Agree ((Config.machine false).layouts.layout .interrupted) r r' := by
  have hrun : (attempt (Config.machine false) (Handlers.default : Handlers Unit 4 4)
      (fun _ _ _ mv => mv.saves) ⟨0⟩ Machine.small ()
      (Move.startTwo ++ [.work (registers 0x40010200 0x1111)]) (.enter .software 0)
      [.dispatch ⟨.software, .task ⟨0⟩ 0x400100f0⟩, .work (registers 0x40010200 0x2222),
        .call (.switch ⟨0⟩ ⟨1⟩), .work (registers 0x400001f0 0)] .exit).any
      (fun p => p.2.1.traps = [⟨.software, .task ⟨0⟩ 0x400100f0⟩] ∧
        ¬RegisterFile.Agree ((Config.machine false).layouts.layout .interrupted)
          p.1.machine.hart.regs p.2.2.machine.hart.regs) = true := by
    decide +kernel
  obtain ⟨⟨u, v, x⟩, hattempt, hp⟩ := (Option.any_eq_true _ _).1 hrun
  obtain ⟨htraps, hdiffer⟩ := of_decide_eq_true hp
  exact ⟨_, _, of_attempt Machine.initial_small hattempt (.trap htraps rfl (by simp)), hdiffer⟩

end Absence

end HartKernel
