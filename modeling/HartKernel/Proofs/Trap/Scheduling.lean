import HartKernel.Proofs.Trap.Run

/-!
# Who runs after a trap

The trap handler consults the scheduler only on request or when no task is
Running.  No request is lost, so the most urgent task has the processor whenever
an outermost trap returns, and the hart idles only if there is nothing to run.

Main definitions:

- `Handlers.counted` are handlers that also count how often the hart went idle.
- `Machine.Busy` and `Machine.Resting` are the two outcomes of a trap.

Main results:

- `Machine.play_prompt`: at every point of a run a dispatch is requested or none
  is needed.
- `Machine.trap_busy_or_resting`: an outermost trap that returns leaves the most
  urgent task running, or an idle hart and nothing to run.
-/

namespace HartKernel

namespace Kernel

variable {capacity levels : Nat} {k k' : Kernel capacity levels} {s : Schedule}

/-- No Ready task is more urgent than a priority. -/
def NoneAbove (k : Kernel capacity levels) (priority : Nat) : Prop :=
  ∀ id t, k.task? id = some t → t.state = .ready → priority ≤ t.priority

/-- The current task is Running and no Ready task is more urgent. -/
def RunsBest (k : Kernel capacity levels) (id : TaskId) : Prop :=
  ∃ t, k.running = some id ∧ k.task? id = some t ∧ t.state = .running ∧ k.NoneAbove t.priority

/-- There is no current task and no Ready task. -/
def RunsNone (k : Kernel capacity levels) : Prop :=
  k.running = none ∧ ∀ id t, k.task? id = some t → t.state ≠ .ready

/-- What a settled schedule means for the kernel. -/
theorem Implements.settled (h : k.Implements s) (hv : s.Valid levels) (hsettled : s.Settled) :
    (∃ id, k.RunsBest id) ∨ k.RunsNone := by
  rcases hsettled with ⟨id, e, hrun, he, hstate, hle⟩ | ⟨hnone, hempty⟩
  · left
    rw [h.lookup?_eq, Option.map_eq_some_iff] at he
    obtain ⟨t, ht, rfl⟩ := he
    refine ⟨id, t, h.running.symm.trans hrun, ht, hstate, fun j u hu hready => hle _ ?_⟩
    exact List.ne_nil_of_mem ((hv.mem_ready (h.lookup?_of_task? hu)).2 ⟨hready, rfl⟩)
  · right
    refine ⟨h.running.symm.trans hnone, fun j u hu hready => ?_⟩
    have hmem := (hv.mem_ready (h.lookup?_of_task? hu)).2 ⟨hready, rfl⟩
    rw [hempty] at hmem
    exact List.not_mem_nil hmem

/-- A task that was loaded has a stack. -/
theorem sp_ne_zero_of_restoreContext {cfg : Config} {r r' : RegisterFile} {id : TaskId}
    {kind : FrameKind} (h : (k.restoreContext cfg.layouts r id).result = .ok (.ok kind, r')) :
    r'.sp ≠ 0 := by
  obtain ⟨t, ht, rfl, hframe⟩ := frameAt_of_restoreContext h
  rw [restoreContext_eq ht hframe] at h
  cases h
  have hpos := (cfg.layouts.layout t.frameKind).frameWords_pos
  intro hzero
  rw [RegisterFile.sp_setSp, ← BitVec.toNat_inj, hframe.toNat_above, FrameLayout.frameSize] at hzero
  change _ = 0 at hzero
  omega

end Kernel

namespace Handlers

variable {capacity levels : Nat} {σ : Type} {handlers : Handlers σ capacity levels}

/-- Count how often the hart went idle. -/
def counted (handlers : Handlers σ capacity levels) : Handlers (σ × Nat) capacity levels where
  external code k s :=
    (fun answer => (answer.1, answer.2, s.2)) <$> handlers.external code k s.1
  tick count k s := (fun answer => (answer.1, answer.2, s.2)) <$> handlers.tick count k s.1
  idle s := (handlers.idle s.1, s.2 + 1)

theorem eq_ok_of_counted {x : Traced (Kernel capacity levels × σ)} {n n' : Nat}
    {k : Kernel capacity levels} {s : σ}
    (h : ((fun answer => (answer.1, answer.2, n)) <$> x).result = .ok (k, s, n')) :
    x.result = .ok (k, s) ∧ n' = n := by
  obtain ⟨answer, hx, hanswer⟩ := Traced.map_eq_ok.1 h
  cases hanswer
  exact ⟨hx, rfl⟩

theorem Calling.counted {cfg : Config} {allowed : KernelCall → Prop}
    (h : handlers.Calling cfg allowed) : handlers.counted.Calling cfg allowed where
  external _ _ _ _ _ hresult := h.external _ _ _ _ _ (eq_ok_of_counted hresult).1
  tick _ _ _ _ _ hresult := h.tick _ _ _ _ _ (eq_ok_of_counted hresult).1

end Handlers

namespace Machine

variable {capacity levels : Nat} {σ : Type} {cfg : Config} {handlers : Handlers σ capacity levels}

/-- At every point of a run a dispatch is requested, or the current task is
Running and no Ready task is more urgent, or there is nothing to run. -/
theorem play_prompt (hcalling : handlers.Calling cfg KernelCall.Local)
    {interruptStack : StackRegion} {m₀ m : Machine capacity levels} {s₀ s : σ} {moves : List Move}
    (h₀ : initial cfg capacity levels interruptStack = .ok m₀) (hlocal : ∀ mv ∈ moves, mv.Local)
    (hplay : (m₀.play cfg handlers s₀ moves).result = .ok (.ok (), m, s)) :
    m.kernel.dispatchPending = true ∨ (∃ id, m.kernel.RunsBest id) ∨ m.kernel.RunsNone := by
  obtain ⟨sch, himpl, hvalid, hprompt⟩ :=
    play_orderly hcalling (orderly_initial h₀) hlocal hplay
  rcases hprompt with hpending | hsettled
  · exact .inl (himpl.pending.symm.trans hpending)
  · exact .inr (himpl.settled hvalid hsettled)

/-- A handler blocks the task that was interrupted and makes the other one more
urgent. -/
theorem play_prompt_blocked :
    ∃ m : Machine 4 4,
      (small.play (Config.machine false) Handlers.default () (Move.startTwo ++
        [.enter (.external 5) 0, .call (.setPriority ⟨1⟩ 0), .call (.markBlocked ⟨0⟩), .exit])
        ).result = .ok (.ok (), m, ()) ∧
      (m.kernel.dispatchPending = true ∨ (∃ id, m.kernel.RunsBest id) ∨ m.kernel.RunsNone) := by
  obtain ⟨⟨m, u⟩, hplay, -⟩ := exists_of_returns
    (x := small.play (Config.machine false) Handlers.default () (Move.startTwo ++
      [.enter (.external 5) 0, .call (.setPriority ⟨1⟩ 0), .call (.markBlocked ⟨0⟩), .exit]))
    (p := fun _ => true) (by decide +kernel)
  exact ⟨m, hplay, play_prompt (Handlers.calling_default _ _) initial_small
    (by simp [Move.startTwo, Move.Local, KernelCall.Local]) hplay⟩

/-! ## The two outcomes of a trap -/

/-- Exactly one task is Running, no Ready task is more urgent, and the hart is
not idle. -/
def Busy (m : Machine capacity levels) : Prop :=
  ∃ id, m.kernel.RunsBest id ∧ (∀ j, m.kernel.IsRunning j → j = id) ∧ m.hart.idle = false ∧
    m.hart.regs.sp ≠ 0

/-- There is nothing to run, and the hart is idle. -/
def Resting (m : Machine capacity levels) : Prop :=
  m.kernel.RunsNone ∧ (∀ j, ¬m.kernel.IsRunning j) ∧ m.hart.idle = true ∧ m.hart.regs.sp = 0

variable {m m' : Machine capacity levels}

/-- Dispatch does not let the hart go idle. -/
theorem count_of_dispatched {s s' : σ × Nat} {frame : SavedFrame} {cause : TrapCause}
    (h : Dispatched cfg handlers.counted m m' s s' frame cause) : s'.2 = s.2 := by
  cases h with
  | software hkernel hs => rw [hs]
  | timer kernel htick hkernel => exact (Handlers.eq_ok_of_counted htick).2
  | external code hexternal => exact (Handlers.eq_ok_of_counted hexternal).2
  | environmentCall code number argument pc result served accessed hserve haccess hkernel hs =>
    rw [hs]

/-- The outermost exit of an orderly machine. -/
theorem busy_or_resting_of_exit {s s' : σ × Nat} (h : m.kernel.Orderly) (hnesting : m.nesting = 1)
    (hidle : m.hart.idle = false)
    (hexit : (m.exit cfg handlers.counted s).result = .ok (.ok (), m', s')) :
    m'.kernel.dispatchPending = false ∧ m'.nesting = 0 ∧
      (m'.Busy ∧ s'.2 = s.2 ∨ m'.Resting ∧ s'.2 = s.2 + 1) := by
  obtain ⟨hbefore, ⟨hpos, -⟩ | ⟨hzero, decision, hdecision, hresumed⟩⟩ := exit_cases hexit
  · omega
  · obtain ⟨sch, himpl, hvalid, hprompt⟩ := h
    obtain ⟨himpl', -⟩ := himpl.conclude hvalid hdecision (obey_of_resumed hresumed)
    have hvalid' := hvalid.conclude
    have hsettled := himpl'.settled hvalid'
      (Schedule.settled_conclude hprompt hvalid m.kernel.levels_le)
    have hholder : ∀ j, m'.kernel.IsRunning j → m'.kernel.running = some j :=
      (himpl'.wellFormed hvalid').holder
    have hbusy : ∀ id, m'.kernel.running = some id → m'.hart.idle = m.hart.idle →
        m'.hart.regs.sp ≠ 0 → m'.Busy := by
      intro id hrun hsame hsp
      rcases hsettled with ⟨a, ha⟩ | ⟨hnone, -⟩
      · obtain ⟨t, harun, hbest⟩ := ha
        refine ⟨a, ⟨t, harun, hbest⟩, fun j hj => ?_, hsame.trans hidle, hsp⟩
        have hj' := hholder j hj
        rw [harun, Option.some.injEq] at hj'
        exact hj'.symm
      · rw [hrun] at hnone
        cases hnone
    refine ⟨himpl'.pending.symm.trans sch.pending_conclude, hzero, ?_⟩
    cases hresumed with
    | background id r hrunning hload hkernel hsame hs =>
      refine .inl ⟨hbusy id ?_ hsame (Kernel.sp_ne_zero_of_restoreContext hload), by rw [hs]⟩
      rw [hkernel]
      exact (Option.filter_eq_some_iff.1 hrunning).1
    | task id kind r loaded hload hkernel hregs hsame hs =>
      refine .inl ⟨hbusy id (Kernel.running_of_handOver hkernel) hsame ?_, by rw [hs]⟩
      have hsp : loaded.sp ≠ 0 := Kernel.sp_ne_zero_of_restoreContext hload
      rw [hregs]
      cases kind with
      | interrupted => exact hsp
      | cooperative => exact hsp
    | idle hkernel hsp hrest hs =>
      have hnone := Kernel.running_of_handOver hkernel
      refine .inr ⟨⟨?_, fun j hj => ?_, hrest, hsp⟩, by rw [hs]; rfl⟩
      · rcases hsettled with ⟨a, t, harun, -⟩ | hrests
        · rw [hnone] at harun
          cases harun
        · exact hrests
      · rw [hholder j hj] at hnone
        cases hnone

/-- An outermost trap that returns leaves the most urgent task running without
having been idle, or an idle hart that went idle once and nothing to run. -/
theorem trap_busy_or_resting (hcalling : handlers.Calling cfg KernelCall.Local)
    {interruptStack : StackRegion} {m₀ : Machine capacity levels} {s₀ s s' : σ} {n n' : Nat}
    {moves : List Move} (h₀ : initial cfg capacity levels interruptStack = .ok m₀)
    (hlocal : ∀ mv ∈ moves, mv.Local)
    (hplay : (m₀.play cfg handlers.counted (s₀, 0) moves).result = .ok (.ok (), m, s, n))
    (hnesting : m.nesting = 0) {cause : TrapCause} {value : Word}
    (htrap : (m.trap cfg handlers.counted (s, n) cause value).result = .ok (.ok (), m', s', n')) :
    m'.kernel.dispatchPending = false ∧ m'.nesting = 0 ∧
      (m'.Busy ∧ n' = n ∨ m'.Resting ∧ n' = n + 1) := by
  have h := play_orderly hcalling.counted (orderly_initial h₀) hlocal hplay
  obtain ⟨hart, context, m₁, m₂, s₂, m₃, hraise, hentry, hdispatch, hexit, rfl⟩ :=
    trap_cases htrap
  obtain ⟨-, hinterrupted, hnesting₁, hidle₁⟩ := entry_cases hentry
  obtain ⟨hdispatched, hnesting₂, hidle₂, -⟩ := dispatch_cases hdispatch
  have hawake : hart.idle = false := by
    obtain ⟨word, -, hraise⟩ := Traced.bind_eq_ok.1 hraise
    obtain ⟨u, -, hraise⟩ := Traced.bind_eq_ok.1 hraise
    cases hraise
    rfl
  have h₁ := orderly_of_interrupted (m := { m with hart := hart }) h hinterrupted
  have h₂ := orderly_of_dispatched hcalling.counted h₁ hdispatched
  have hcount := count_of_dispatched hdispatched
  have houtcome := busy_or_resting_of_exit h₂ (by rw [hnesting₂, hnesting₁]; simpa using hnesting)
    ((hidle₂.trans hidle₁).trans hawake) hexit
  rw [hcount] at houtcome
  obtain ⟨hpending, hzero, ⟨⟨id, hbest, honly, hidle, hsp⟩, hn⟩ | ⟨hrest, hn⟩⟩ := houtcome
  · exact ⟨hpending, hzero, .inl ⟨⟨id, hbest, honly, hidle, hsp⟩, hn⟩⟩
  · exact ⟨hpending, hzero, .inr ⟨hrest, hn⟩⟩

/-- The running task has blocked itself when a timer interrupt comes. -/
theorem trap_busy_or_resting_blocked :
    ∃ (m m' : Machine 4 4) (n n' : Nat),
      (small.play (Config.machine false) (Handlers.default : Handlers Unit 4 4).counted ((), 0)
        (Move.startTwo ++ [.call (.markBlocked ⟨0⟩)])).result = .ok (.ok (), m, (), n) ∧
      m.nesting = 0 ∧
      (m.trap (Config.machine false) (Handlers.default : Handlers Unit 4 4).counted ((), n) .timer 0
        ).result = .ok (.ok (), m', (), n') ∧
      m'.kernel.dispatchPending = false ∧ m'.nesting = 0 ∧
        (m'.Busy ∧ n' = n ∨ m'.Resting ∧ n' = n + 1) := by
  obtain ⟨⟨m, u, n⟩, hplay, hm⟩ := exists_of_returns
    (x := small.play (Config.machine false) (Handlers.default : Handlers Unit 4 4).counted ((), 0)
      (Move.startTwo ++ [.call (.markBlocked ⟨0⟩)]))
    (p := fun b => decide (b.1.nesting = 0) && returns (b.1.trap (Config.machine false)
      (Handlers.default : Handlers Unit 4 4).counted b.2 .timer 0) fun _ => true)
    (by decide +kernel)
  rw [Bool.and_eq_true, decide_eq_true_iff] at hm
  obtain ⟨hnesting, htrap⟩ := hm
  obtain ⟨⟨m', u', n'⟩, htrap, -⟩ := exists_of_returns htrap
  have hlocal : ∀ mv ∈ Move.startTwo ++ [.call (.markBlocked ⟨0⟩)], mv.Local := by
    simp [Move.startTwo, Move.Local, KernelCall.Local]
  exact ⟨m, m', n, n', hplay, hnesting, htrap,
    trap_busy_or_resting (Handlers.calling_default _ _) initial_small hlocal hplay hnesting htrap⟩

end Machine

end HartKernel
