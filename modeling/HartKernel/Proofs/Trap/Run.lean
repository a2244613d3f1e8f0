import HartKernel.Proofs.Kernel.Invariant
import HartKernel.Proofs.Schedule.Urgency
import HartKernel.Proofs.Trap.Phases

/-!
# Runs of the machine

A run is a sequence of moves: whoever holds the hart calls the kernel, changes
registers and memory, or takes and leaves traps, in any order and at any nesting
level.

Main definitions:

- `Kernel.Reaches` says that calls lead from one kernel to another, and
  `Handlers.Calling` that handlers do nothing but make calls.
- `Move` lists the moves; `Machine.move` makes one and `Machine.play` makes
  several.
- `Machine.Moved` lists what a move can do.

Main results:

- `Kernel.Implements.conclude`: the outermost exit does to the kernel what
  `Schedule.conclude` does to the schedule.
- `Machine.move_cases`: what a move that goes well has done.
- `Machine.play_induction`: what each move of a run keeps the run keeps.
- `Machine.move_orderly` and `Machine.play_orderly`: a run that leaves the
  request for a dispatch to the trap handler keeps the scheduler invariant, and
  loses no request.
-/

namespace HartKernel

/-- Calls lead from one kernel to another. -/
inductive Kernel.Reaches {capacity levels : Nat} (cfg : Config) (allowed : KernelCall → Prop) :
    Kernel capacity levels → Kernel capacity levels → Prop where
  | refl (k : Kernel capacity levels) : Reaches cfg allowed k k
  | tail {k k₁ k₂ : Kernel capacity levels} {r r' : RegisterFile} {call : KernelCall} {ok : Bool}
    (hreach : Reaches cfg allowed k k₁) (hallowed : allowed call)
    (hcall : (k₁.invoke cfg r call).result = .ok (ok, k₂, r')) : Reaches cfg allowed k k₂

/-- Handlers change the kernel by calls only. -/
structure Handlers.Calling {σ : Type} {capacity levels : Nat} (cfg : Config)
    (allowed : KernelCall → Prop) (handlers : Handlers σ capacity levels) : Prop where
  external : ∀ code k s k' s', (handlers.external code k s).result = .ok (k', s') →
    k.Reaches cfg allowed k'
  tick : ∀ count k s k' s', (handlers.tick count k s).result = .ok (k', s') →
    k.Reaches cfg allowed k'

/-- Handlers that do nothing make no calls. -/
theorem Handlers.calling_default {σ : Type} {capacity levels : Nat} (cfg : Config)
    (allowed : KernelCall → Prop) :
    (default : Handlers σ capacity levels).Calling cfg allowed where
  external _ k _ _ _ h := by
    cases h
    exact .refl k
  tick _ k _ _ _ h := by
    cases h
    exact .refl k

/-- A step of whoever holds the hart. -/
inductive Move where
  /-- Call the kernel with the live registers. -/
  | call (c : KernelCall)
  /-- Change the hart. -/
  | work (hart : Hart)
  /-- Overwrite a word of the stack of a task. -/
  | write (id : TaskId) (index : Nat) (v : Word)
  /-- Overwrite a word of the interrupt stack. -/
  | writeInterrupt (index : Nat) (v : Word)
  /-- Take a trap and enter it. -/
  | enter (cause : TrapCause) (value : Word)
  /-- Dispatch a trap that was entered. -/
  | dispatch (context : TrapContext)
  /-- Leave a trap. -/
  | exit
  /-- Take a trap and handle it from beginning to end. -/
  | trap (cause : TrapCause) (value : Word)

/-- Two tasks of the same priority are created, and the first one gets the
processor. -/
def Move.startTwo : List Move :=
  [.call (.create ⟨"a", 0x80000000, 0, 1⟩ ⟨0x40010000, .replicate 64 0, by decide, by decide⟩),
   .call (.create ⟨"b", 0x80000000, 0, 1⟩ ⟨0x40020000, .replicate 64 0, by decide, by decide⟩),
   .call (.activate ⟨0⟩), .call (.activate ⟨1⟩), .enter .software 0,
   .dispatch ⟨.software, .idle⟩, .exit]

namespace Machine

variable {capacity levels : Nat} {σ : Type}

/-- A machine with room for four tasks, at four levels. -/
def small : Machine 4 4 where
  kernel := ⟨#[], .empty (by decide), none, false, 0⟩
  hart := Hart.initial (Config.machine false)
  interruptStack := ⟨0x40000000, .replicate 64 0, by decide, by decide⟩
  nesting := 0
  stats := {}

theorem initial_small :
    initial (Config.machine false) 4 4 small.interruptStack = .ok small := rfl

/-- Take a trap and enter it. -/
def take (cfg : Config) (m : Machine capacity levels) (cause : TrapCause) (value : Word) :
    Traced (Except FatalTrap TrapContext × Machine capacity levels) := do
  let hart ← m.hart.raise cfg cause value
  { m with hart := hart }.entry cfg

/-- Of a phase only keep whether it was fatal. -/
def silent {α β : Type} (answer : Except FatalTrap α × β) : Except FatalTrap Bool × β :=
  (answer.1.map fun _ => true, answer.2)

/-- Make a move.  Answers the diagnostic if the move is fatal, and otherwise
whether it went well. -/
def move (cfg : Config) (handlers : Handlers σ capacity levels) (m : Machine capacity levels)
    (s : σ) : Move → Traced (Except FatalTrap Bool × Machine capacity levels × σ)
  | .call c => do
    let (ok, kernel, regs) ← m.kernel.invoke cfg m.hart.regs c
    return (.ok ok, { m with kernel := kernel, hart := { m.hart with regs := regs } }, s)
  | .work hart => pure (.ok true, { m with hart := hart }, s)
  | .write id index v =>
    pure (.ok true, { m with kernel := m.kernel.updateTask id fun t =>
      { t with stack := t.stack.put index v } }, s)
  | .writeInterrupt index v =>
    pure (.ok true, { m with interruptStack := m.interruptStack.put index v }, s)
  | .enter cause value =>
    (fun answer => silent (answer.1, answer.2, s)) <$> m.take cfg cause value
  | .dispatch context => silent <$> m.dispatch cfg handlers s context
  | .exit => silent <$> m.exit cfg handlers s
  | .trap cause value => silent <$> m.trap cfg handlers s cause value

/-- Make several moves, up to a fatal trap. -/
def play (cfg : Config) (handlers : Handlers σ capacity levels) (m : Machine capacity levels)
    (s : σ) : List Move → Traced (Except FatalTrap Unit × Machine capacity levels × σ)
  | [] => pure (.ok (), m, s)
  | mv :: moves => do
    let (answer, m, s) ← m.move cfg handlers s mv
    match answer with
    | .error d => return (.error d, m, s)
    | .ok _ => m.play cfg handlers s moves

/-- A computation goes through without a fatal trap and ends in a state of a
kind. -/
def returns {β : Type} (x : Traced (Except FatalTrap Unit × β)) (p : β → Bool) : Bool :=
  match x.result with
  | .ok (.ok (), b) => p b
  | _ => false

theorem exists_of_returns {β : Type} {x : Traced (Except FatalTrap Unit × β)} {p : β → Bool}
    (h : returns x p = true) : ∃ b, x.result = .ok (.ok (), b) ∧ p b = true := by
  unfold returns at h
  split at h
  · rename_i b hb
    exact ⟨b, hb, h⟩
  · cases h

/-- What each move of a run keeps the whole run keeps.  It may speak of the moves so far,
newest first. -/
theorem play_induction {cfg : Config} {handlers : Handlers σ capacity levels}
    {P : List Move → Machine capacity levels → σ → Prop} {moves : List Move}
    {m m' : Machine capacity levels} {s s' : σ} (done : List Move)
    (hkeep : ∀ {done mv m s ok m' s'}, mv ∈ moves → P done m s →
      (m.move cfg handlers s mv).result = .ok (.ok ok, m', s') → P (mv :: done) m' s')
    (h : P done m s) (hplay : (m.play cfg handlers s moves).result = .ok (.ok (), m', s')) :
    P (moves.reverse ++ done) m' s' := by
  induction moves generalizing done m s with
  | nil =>
    cases hplay
    exact h
  | cons mv moves ih =>
    obtain ⟨⟨answer, m₁, s₁⟩, hmove, hplay⟩ := Traced.bind_eq_ok.1 hplay
    cases answer with
    | error d => cases hplay
    | ok ok =>
      rw [List.reverse_cons, List.append_assoc]
      have h₁ := hkeep List.mem_cons_self h hmove
      exact ih _ (fun hmem => hkeep (List.mem_cons_of_mem _ hmem)) h₁ hplay

theorem silent_eq_ok {α β : Type} {x : Traced (Except FatalTrap α × β)} {ok : Bool} {b : β}
    (h : (silent <$> x).result = .ok (.ok ok, b)) : ∃ a, x.result = .ok (.ok a, b) := by
  obtain ⟨⟨answer, b'⟩, hx, hanswer⟩ := Traced.map_eq_ok.1 h
  cases answer with
  | error d => cases hanswer
  | ok a =>
    cases hanswer
    exact ⟨a, hx⟩

/-- What a move that goes well has done. -/
inductive Moved (cfg : Config) (handlers : Handlers σ capacity levels) (m : Machine capacity levels)
    (s : σ) : Move → Bool → Machine capacity levels → σ → Prop where
  | call {c : KernelCall} {ok : Bool} {k : Kernel capacity levels} {r : RegisterFile}
    (hcall : (m.kernel.invoke cfg m.hart.regs c).result = .ok (ok, k, r)) :
    Moved cfg handlers m s (.call c) ok
      { m with kernel := k, hart := { m.hart with regs := r } } s
  | work (hart : Hart) : Moved cfg handlers m s (.work hart) true { m with hart := hart } s
  | write (id : TaskId) (index : Nat) (v : Word) :
    Moved cfg handlers m s (.write id index v) true { m with
      kernel := m.kernel.updateTask id fun t => { t with stack := t.stack.put index v } } s
  | writeInterrupt (index : Nat) (v : Word) :
    Moved cfg handlers m s (.writeInterrupt index v) true
      { m with interruptStack := m.interruptStack.put index v } s
  | enter {cause : TrapCause} {value : Word} {ok : Bool} {hart : Hart} {context : TrapContext}
    {m' : Machine capacity levels} (hraise : (m.hart.raise cfg cause value).result = .ok hart)
    (hentry : (({ m with hart := hart } : Machine capacity levels).entry cfg).result =
      .ok (.ok context, m')) :
    Moved cfg handlers m s (.enter cause value) ok m' s
  | dispatch {context : TrapContext} {ok : Bool} {m' : Machine capacity levels} {s' : σ}
    (hdispatch : (m.dispatch cfg handlers s context).result = .ok (.ok (), m', s')) :
    Moved cfg handlers m s (.dispatch context) ok m' s'
  | exit {ok : Bool} {m' : Machine capacity levels} {s' : σ}
    (hexit : (m.exit cfg handlers s).result = .ok (.ok (), m', s')) :
    Moved cfg handlers m s .exit ok m' s'
  | trap {cause : TrapCause} {value : Word} {ok : Bool} {m' : Machine capacity levels} {s' : σ}
    (htrap : (m.trap cfg handlers s cause value).result = .ok (.ok (), m', s')) :
    Moved cfg handlers m s (.trap cause value) ok m' s'

/-- A move that goes well is one of these. -/
theorem move_cases {cfg : Config} {handlers : Handlers σ capacity levels}
    {m m' : Machine capacity levels} {s s' : σ} {mv : Move} {ok : Bool}
    (h : (m.move cfg handlers s mv).result = .ok (.ok ok, m', s')) :
    m.Moved cfg handlers s mv ok m' s' := by
  cases mv with
  | call c =>
    obtain ⟨⟨ok₁, k, r⟩, hcall, h⟩ := Traced.bind_eq_ok.1 h
    cases h
    exact .call hcall
  | work hart =>
    cases h
    exact .work hart
  | write id index v =>
    cases h
    exact .write id index v
  | writeInterrupt index v =>
    cases h
    exact .writeInterrupt index v
  | enter cause value =>
    obtain ⟨⟨answer, m₁⟩, htake, hanswer⟩ := Traced.map_eq_ok.1 h
    obtain ⟨hart, hraise, hentry⟩ := Traced.bind_eq_ok.1 htake
    cases answer with
    | error d => cases hanswer
    | ok context =>
      cases hanswer
      exact .enter hraise hentry
  | dispatch context =>
    obtain ⟨u, hdispatch⟩ := silent_eq_ok h
    exact .dispatch hdispatch
  | exit =>
    obtain ⟨u, hexit⟩ := silent_eq_ok h
    exact .exit hexit
  | trap cause value =>
    obtain ⟨u, htrap⟩ := silent_eq_ok h
    exact .trap htrap

end Machine

/-! ## The outermost exit -/

namespace Kernel

variable {capacity levels : Nat} {k k' : Kernel capacity levels} {s : Schedule}

theorem running_of_handOver {target : Option TaskId} (h : k.handOver target = .ok k') :
    k'.running = target := by
  unfold handOver at h
  obtain ⟨k₁, -, h⟩ := bind_eq_ok_iff.1 h
  cases target with
  | none =>
    cases h
    rfl
  | some id =>
    obtain ⟨k₂, -, h⟩ := bind_eq_ok_iff.1 h
    cases h
    rfl

/-- Carry out a decision of the scheduler. -/
def obey (k : Kernel capacity levels) : Decision → Except Panic (Kernel capacity levels)
  | .keep => .ok k
  | .switchTo target => k.handOver target

namespace Implements

/-- A decision that hands over to a Ready task at most can be carried out. -/
theorem exists_obey (h : k.Implements s) (hv : s.Valid levels) {decision : Decision}
    (hready : ∀ id, decision = .switchTo (some id) → s.state? id = some .ready) :
    ∃ k', k.obey decision = .ok k' ∧ k'.Implements (s.obey decision) ∧
      TaskTable.SameContexts k.tasks k'.tasks := by
  cases decision with
  | keep => exact ⟨k, rfl, h, .refl _⟩
  | switchTo target => exact h.handOver hv fun id hid => hready id (congrArg _ hid)

/-- What the outermost exit decides can be read off the schedule. -/
theorem exitDecision_eq (h : k.Implements s) :
    Machine.exitDecision k.takeDispatch.2 k.dispatchPending =
      .ok (if s.pending ∨ s.runningTask? = none then s.decide levels else .keep) := by
  have htaken := h.takeDispatch
  have hdecide : k.takeDispatch.2.decide = .ok (s.decide levels) := htaken.decide_eq
  have htask : k.takeDispatch.2.runningTask? = s.runningTask? := htaken.runningTask?_eq.symm
  rw [Machine.exitDecision, htask, ← h.pending, hdecide]
  split <;> rfl

/-- The outermost exit makes a decision that can be carried out. -/
theorem exists_exitDecision (h : k.Implements s) (hv : s.Valid levels) : ∃ decision k',
    Machine.exitDecision k.takeDispatch.2 k.dispatchPending = .ok decision ∧
      k.takeDispatch.2.obey decision = .ok k' ∧ k'.Implements (s.conclude levels) ∧
      TaskTable.SameContexts k.tasks k'.tasks := by
  have htaken := h.takeDispatch
  rw [h.exitDecision_eq]
  unfold Schedule.conclude
  split
  · have hready : ∀ id, s.decide levels = .switchTo (some id) →
        s.takeDispatch.state? id = some .ready := fun id hid => hv.ready_of_decide hid rfl
    obtain ⟨k', hobey, himpl', hsame⟩ := htaken.exists_obey hv.takeDispatch hready
    exact ⟨_, k', rfl, hobey, himpl', hsame⟩
  · exact ⟨.keep, _, rfl, rfl, htaken, .refl _⟩

/-- The outermost exit does to the kernel what `Schedule.conclude` does to the
schedule. -/
theorem conclude (h : k.Implements s) (hv : s.Valid levels) {decision : Decision}
    (hdecision : Machine.exitDecision k.takeDispatch.2 k.dispatchPending = .ok decision)
    (hobey : k.takeDispatch.2.obey decision = .ok k') :
    k'.Implements (s.conclude levels) ∧ TaskTable.SameContexts k.tasks k'.tasks := by
  obtain ⟨decision', k₁, hdecision', hobey', himpl', hsame⟩ := h.exists_exitDecision hv
  cases hdecision.symm.trans hdecision'
  cases hobey.symm.trans hobey'
  exact ⟨himpl', hsame⟩

end Implements

/-! ## Orderly kernels -/

/-- A kernel that meets the scheduler invariant and has lost no request for a
dispatch. -/
def Orderly (k : Kernel capacity levels) : Prop :=
  ∃ s : Schedule, k.Implements s ∧ s.Valid levels ∧ s.Prompt

theorem levels_le (k : Kernel capacity levels) : levels ≤ leastUrgent :=
  k.queue.levels_le.trans (by decide)

namespace Orderly

theorem invoke (h : k.Orderly) {cfg : Config} {r r' : RegisterFile} {call : KernelCall} {ok : Bool}
    (hlocal : call.Local) (hcall : (k.invoke cfg r call).result = .ok (ok, k', r')) :
    k'.Orderly := by
  obtain ⟨s, himpl, hvalid, hprompt⟩ := h
  obtain ⟨ok₁, k₁, r₁, s₁, hresult, himpl₁, hstep, -⟩ := himpl.invoke hvalid cfg r call
  rw [hresult] at hcall
  cases hcall
  exact ⟨s₁, himpl₁, hstep.valid hvalid, hprompt.step hvalid k.levels_le hlocal hstep⟩

theorem reaches (h : k.Orderly) {cfg : Config} (hreach : k.Reaches cfg KernelCall.Local k') :
    k'.Orderly := by
  induction hreach with
  | refl => exact h
  | tail _ hlocal hcall ih => exact ih.invoke hlocal hcall

theorem updateContext (h : k.Orderly) (id : TaskId) {f : Task → Task}
    (hentry : ∀ t, (f t).entry = t.entry) (hlink : ∀ t, (f t).link = t.link) :
    (k.updateTask id f).Orderly := by
  obtain ⟨s, himpl, hvalid, hprompt⟩ := h
  exact ⟨s, himpl.updateContext id hentry hlink, hvalid, hprompt⟩

theorem requestDispatch (h : k.Orderly) : k.requestDispatch.Orderly := by
  obtain ⟨s, himpl, hvalid, -⟩ := h
  exact ⟨_, himpl.requestDispatch, hvalid.requestDispatch, .inl rfl⟩

theorem advanceTick (h : k.Orderly) : k.advanceTick.Orderly := by
  obtain ⟨s, himpl, hvalid, hprompt⟩ := h
  exact ⟨_, himpl.advanceTick, hvalid.advanceTick, hprompt⟩

end Orderly

end Kernel

/-- The moves that neither take the request for a dispatch nor hand over the
processor, other than by leaving a trap. -/
def Move.Local : Move → Prop
  | .call c => c.Local
  | _ => True

namespace Machine

variable {capacity levels : Nat} {σ : Type} {cfg : Config} {handlers : Handlers σ capacity levels}
variable {m m' : Machine capacity levels} {s s' : σ}

/-- Saving what was interrupted does not concern the scheduler. -/
theorem Interrupted.implements {k : Kernel capacity levels} {frame : SavedFrame} {sch : Schedule}
    (h : Interrupted cfg m k frame) (himpl : m.kernel.Implements sch) : k.Implements sch := by
  cases h with
  | handler sp hnested hkernel => exact hkernel ▸ himpl
  | idle hnested hsp hrunning hkernel => exact hkernel ▸ himpl
  | task id sp hnested hsp hrunning hsave => exact himpl.of_saveContext hsave

theorem orderly_of_interrupted {k : Kernel capacity levels} {frame : SavedFrame}
    (h : m.kernel.Orderly) (hinterrupted : Interrupted cfg m k frame) : k.Orderly := by
  obtain ⟨sch, himpl, hvalid, hprompt⟩ := h
  exact ⟨sch, hinterrupted.implements himpl, hvalid, hprompt⟩

theorem orderly_of_dispatched {frame : SavedFrame} {cause : TrapCause}
    (hcalling : handlers.Calling cfg KernelCall.Local) (h : m.kernel.Orderly)
    (hdispatched : Dispatched cfg handlers m m' s s' frame cause) : m'.kernel.Orderly := by
  cases hdispatched with
  | software hkernel hs =>
    rw [hkernel]
    exact h.requestDispatch
  | timer kernel htick hkernel =>
    rw [hkernel]
    exact (h.advanceTick.reaches (hcalling.tick _ _ _ _ _ htick)).requestDispatch
  | external code hexternal => exact h.reaches (hcalling.external _ _ _ _ _ hexternal)
  | environmentCall code number argument pc result served accessed hserve haccess hkernel hs =>
    have hlocal : (KernelCall.serve frame.owner? number argument).Local := trivial
    have hserved := h.invoke hlocal (Kernel.invoke_serve hserve cfg m.hart.regs)
    rw [hkernel]
    cases haccess with
    | nested sp hsame => exact hsame ▸ hserved.requestDispatch
    | task id sp t ht hsame =>
      rw [hsame]
      refine Kernel.Orderly.requestDispatch ?_
      exact hserved.updateContext id (fun _ => rfl) fun _ => rfl

theorem obey_of_resumed {k : Kernel capacity levels} {idle : Bool} {decision : Decision}
    (h : Resumed cfg handlers k idle m' s s' decision) : k.obey decision = .ok m'.kernel := by
  cases h with
  | background id r hrunning hload hkernel hidle hs => exact congrArg Except.ok hkernel.symm
  | task id kind r loaded hload hkernel hregs hidle hs => exact hkernel
  | idle hkernel hsp hidle hs => exact hkernel

theorem orderly_of_exit (h : m.kernel.Orderly)
    (hexit : (m.exit cfg handlers s).result = .ok (.ok (), m', s')) : m'.kernel.Orderly := by
  obtain ⟨-, ⟨-, hkernel, -⟩ | ⟨-, decision, hdecision, hresumed⟩⟩ := exit_cases hexit
  · exact hkernel ▸ h
  · obtain ⟨sch, himpl, hvalid, hprompt⟩ := h
    have hconclude := himpl.conclude hvalid hdecision (obey_of_resumed hresumed)
    exact ⟨_, hconclude.1, hvalid.conclude,
      .inr (Schedule.settled_conclude hprompt hvalid m.kernel.levels_le)⟩

/-- A local move loses no request for a dispatch. -/
theorem move_orderly {mv : Move} {ok : Bool} (hcalling : handlers.Calling cfg KernelCall.Local)
    (h : m.kernel.Orderly) (hlocal : mv.Local)
    (hmove : (m.move cfg handlers s mv).result = .ok (.ok ok, m', s')) : m'.kernel.Orderly := by
  cases move_cases hmove with
  | call hcall => exact h.invoke hlocal hcall
  | work hart | writeInterrupt index v => exact h
  | write id index v => exact h.updateContext id (fun _ => rfl) fun _ => rfl
  | @enter cause value ok hart context m' hraise hentry =>
    exact orderly_of_interrupted (m := { m with hart := hart }) h (entry_cases hentry).2.1
  | dispatch hdispatch =>
    exact orderly_of_dispatched hcalling h (dispatch_cases hdispatch).1
  | exit hexit => exact orderly_of_exit h hexit
  | trap htrap =>
    obtain ⟨hart, context, m₁, m₂, s₂, m₃, -, hentry, hdispatch, hexit, rfl⟩ := trap_cases htrap
    have hentered := orderly_of_interrupted (m := { m with hart := hart }) h
      (entry_cases hentry).2.1
    have hdispatched := orderly_of_dispatched hcalling hentered (dispatch_cases hdispatch).1
    have hleft : m₃.kernel.Orderly := orderly_of_exit hdispatched hexit
    exact hleft

/-- A run of local moves loses no request for a dispatch. -/
theorem play_orderly {moves : List Move} (hcalling : handlers.Calling cfg KernelCall.Local)
    (h : m.kernel.Orderly) (hlocal : ∀ mv ∈ moves, mv.Local)
    (hplay : (m.play cfg handlers s moves).result = .ok (.ok (), m', s')) :
    m'.kernel.Orderly := by
  refine play_induction (P := fun _ m _ => m.kernel.Orderly) [] ?_ h hplay
  intro done mv m s ok m' s' hmem h hmove
  exact move_orderly hcalling h (hlocal mv hmem) hmove

/-- A machine without tasks stands for the schedule without tasks. -/
theorem implements_initial {interruptStack : StackRegion} {m₀ : Machine capacity levels}
    (h : initial cfg capacity levels interruptStack = .ok m₀) :
    m₀.kernel.Implements .initial := by
  unfold initial at h
  obtain ⟨k, hk, h⟩ := bind_eq_ok_iff.1 h
  cases h
  exact Kernel.implements_of_initial hk

theorem orderly_initial {interruptStack : StackRegion} {m₀ : Machine capacity levels}
    (h : initial cfg capacity levels interruptStack = .ok m₀) : m₀.kernel.Orderly :=
  ⟨_, implements_initial h, Schedule.valid_initial, .inr (.inr ⟨rfl, fun _ => rfl⟩)⟩

end Machine

end HartKernel
