import HartKernel.Proofs.Kernel.Answers
import HartKernel.Proofs.Kernel.Characterisation
import HartKernel.Proofs.Trap.Nesting
import HartKernel.Proofs.Trap.Rotation

/-!
# Scheduling does not depend on data

Two systems that look the same to the scheduler go on looking the same, whatever is
in their registers and on their stacks, if they are asked for the same things and
no frame stands in the way.  Calls are answered alike, the scheduler decides alike,
and the handlers are called for the same things.

Main definitions:

- `Stimulus` lists what a system may be asked for, without the data.
- `Session.View` is what the scheduler and the handlers get to know.
- `Session.Responds` and `Session.Runs` say what a system does when it is asked, and
  what is observed.
- `Session.Twins` relates systems that the scheduler cannot tell apart.

Main results:

- `Session.Twins.responds`: such systems respond alike.
- `Session.Runs.observations_eq`: nobody can tell their runs apart.
-/

namespace HartKernel

/-! ## What handlers are called for -/

/-- What a handler of the embedding system is called for. -/
inductive HookCall where
  | external (code : Word)
  | tick (count : Word)
  | idle
deriving DecidableEq, Repr

/-- Handlers that write down what they are called for. -/
def Handlers.logged {σ : Type} {capacity levels : Nat} (handlers : Handlers σ capacity levels) :
    Handlers (σ × List HookCall) capacity levels where
  external code k s :=
    (fun answer => (answer.1, answer.2, s.2 ++ [.external code])) <$> handlers.external code k s.1
  tick count k s :=
    (fun answer => (answer.1, answer.2, s.2 ++ [.tick count])) <$> handlers.tick count k s.1
  idle s := (handlers.idle s.1, s.2 ++ [.idle])

namespace Handlers

variable {σ : Type} {capacity levels : Nat} {handlers : Handlers σ capacity levels}
variable {k k' : Kernel capacity levels} {s s' : σ × List HookCall} {code count : Word}

theorem hooks_of_tick (h : (handlers.logged.tick count k s).result = .ok (k', s')) :
    s'.2 = s.2 ++ [.tick count] := by
  obtain ⟨answer, -, hanswer⟩ := Traced.map_eq_ok.1 h
  cases hanswer
  rfl

theorem hooks_of_external (h : (handlers.logged.external code k s).result = .ok (k', s')) :
    s'.2 = s.2 ++ [.external code] := by
  obtain ⟨answer, -, hanswer⟩ := Traced.map_eq_ok.1 h
  cases hanswer
  rfl

/-- Writing down what handlers are called for makes no calls. -/
theorem Calling.logged {cfg : Config} {allowed : KernelCall → Prop}
    (h : handlers.Calling cfg allowed) : handlers.logged.Calling cfg allowed where
  external code k s k' s' hexternal := by
    obtain ⟨answer, hanswer, heq⟩ := Traced.map_eq_ok.1 hexternal
    cases heq
    exact h.external _ _ _ _ _ hanswer
  tick count k s k' s' htick := by
    obtain ⟨answer, hanswer, heq⟩ := Traced.map_eq_ok.1 htick
    cases heq
    exact h.tick _ _ _ _ _ hanswer

end Handlers

/-- A handler makes calls, one after another, each with some registers.  It asks for
given things and is answered, and no frame stands in the way. -/
inductive Kernel.Makes {capacity levels : Nat} (cfg : Config) :
    List KernelCall → List Outcome → Kernel capacity levels → Kernel capacity levels → Prop where
  | nil (k : Kernel capacity levels) : Makes cfg [] [] k k
  | cons {k k₁ k' : Kernel capacity levels} {call call' : KernelCall} {calls : List KernelCall}
    {outcome : Outcome} {outcomes : List Outcome} {r r' : RegisterFile} (halike : call.Alike call')
    (hask : (k.ask cfg r call').result = .ok (outcome, k₁, r'))
    (hframe : ¬k.FrameFails cfg r call') (h : Makes cfg calls outcomes k₁ k') :
    Makes cfg (call :: calls) (outcome :: outcomes) k k'

/-- What the handlers ask for while a trap is dispatched, and how they are answered. -/
inductive Handlers.Acts {σ : Type} {capacity levels : Nat} (cfg : Config)
    (handlers : Handlers σ capacity levels) (k : Kernel capacity levels) (s : σ) :
    TrapCause → List KernelCall → List Outcome → Prop where
  | software : Acts cfg handlers k s .software [] []
  | environmentCall (code : Word) : Acts cfg handlers k s (.environmentCall code) [] []
  | timer {calls : List KernelCall} {outcomes : List Outcome} {k' : Kernel capacity levels} {s' : σ}
    (htick : (handlers.tick k.advanceTick.tick k.advanceTick s).result = .ok (k', s'))
    (hmakes : k.advanceTick.Makes cfg calls outcomes k') :
    Acts cfg handlers k s .timer calls outcomes
  | external {code : Word} {calls : List KernelCall} {outcomes : List Outcome}
    {k' : Kernel capacity levels} {s' : σ}
    (hexternal : (handlers.external code k s).result = .ok (k', s'))
    (hmakes : k.Makes cfg calls outcomes k') :
    Acts cfg handlers k s (.external code) calls outcomes

/-! ## What a system is asked for and what it reports -/

/-- What a system is asked for.  Nothing is said of registers and stacks, except for
the number and the argument of an environment call. -/
inductive Stimulus where
  /-- Whoever holds the hart works with registers and memory. -/
  | work
  /-- The kernel is called. -/
  | call (call : KernelCall)
  /-- A trap is taken and entered. -/
  | enter (cause : TrapCause)
  /-- A trap that was entered is dispatched; traps are counted from the innermost.
  The handlers make the given calls. -/
  | dispatch (index : Nat) (number argument : Word) (calls : List KernelCall)
  /-- A trap is left. -/
  | exit
  /-- A trap is taken and handled from beginning to end. -/
  | trap (cause : TrapCause) (number argument : Word) (calls : List KernelCall)

/-- What comes of a stimulus. -/
structure Report where
  /-- How the call ended. -/
  outcome : Outcome := .code .success
  /-- How the calls of the handlers ended. -/
  handled : List Outcome := []
  /-- What the scheduler has decided when an outermost trap was left. -/
  decision : Option (Except Panic Decision) := none

/-- The decision with which a trap is left, if it is an outermost one. -/
def Machine.exitChoice {capacity levels : Nat} (m : Machine capacity levels) :
    Option (Except Panic Decision) :=
  if m.nesting = 1 then some (Machine.exitDecision m.kernel.takeDispatch.2 m.kernel.dispatchPending)
  else none

namespace Session

variable {capacity levels : Nat} {σ : Type}

/-- What the scheduler and the handlers get to know of a system. -/
structure View where
  /-- The state and the priorities of each task. -/
  entries : Array Entry
  /-- The Ready tasks in scheduling order. -/
  ready : Except Panic (List TaskId)
  /-- The current task. -/
  running : Option TaskId
  /-- Whether a dispatch is requested. -/
  pending : Bool
  /-- The number of timer ticks. -/
  tick : Word
  /-- How many traps are being handled. -/
  nesting : Nat
  /-- What the handlers were called for. -/
  hooks : List HookCall
deriving DecidableEq

/-- The view of a system. -/
def view (u : Session (σ × List HookCall) capacity levels) : View where
  entries := u.machine.kernel.tasks.map Task.entry
  ready := u.machine.kernel.readyTasks
  running := u.machine.kernel.running
  pending := u.machine.kernel.dispatchPending
  tick := u.machine.kernel.tick
  nesting := u.machine.nesting
  hooks := u.state.2

/-- What a system does when it is asked, if no frame stands in the way and nothing is
fatal. -/
inductive Responds (cfg : Config) (handlers : Handlers σ capacity levels)
    (u : Session (σ × List HookCall) capacity levels) :
    Stimulus → Report → Session (σ × List HookCall) capacity levels → Prop where
  | work {m : Machine capacity levels} (h : u.machine.Works m) :
    Responds cfg handlers u .work {} ⟨m, u.state, u.traps⟩
  | call {call call' : KernelCall} {outcome : Outcome} {k : Kernel capacity levels}
    {r : RegisterFile} (halike : call.Alike call')
    (hask : (u.machine.kernel.ask cfg u.machine.hart.regs call').result = .ok (outcome, k, r))
    (hframe : ¬u.machine.kernel.FrameFails cfg u.machine.hart.regs call') :
    Responds cfg handlers u (.call call) { outcome := outcome }
      ⟨{ u.machine with kernel := k, hart := { u.machine.hart with regs := r } }, u.state, u.traps⟩
  | enter {cause : TrapCause} {value : Word} {context : TrapContext} {m : Machine capacity levels}
    (htake : (u.machine.take cfg cause value).result = .ok (.ok context, m)) :
    Responds cfg handlers u (.enter cause) {} ⟨m, u.state, context :: u.traps⟩
  | dispatch {index : Nat} {number argument : Word} {calls : List KernelCall}
    {outcomes : List Outcome} {context : TrapContext} {m : Machine capacity levels}
    {s : σ × List HookCall} (hindex : u.traps[index]? = some context)
    (hcall : ∀ code, context.cause = .environmentCall code →
      ∃ pc, u.machine.frameCall cfg context.frame = .ok ⟨number, argument, pc⟩)
    (hacts : handlers.logged.Acts cfg u.machine.kernel u.state context.cause calls outcomes)
    (hdispatch : (u.machine.dispatch cfg handlers.logged u.state context).result =
      .ok (.ok (), m, s)) :
    Responds cfg handlers u (.dispatch index number argument calls) { handled := outcomes }
      ⟨m, s, u.traps⟩
  | exit {m : Machine capacity levels} {s : σ × List HookCall}
    (hexit : (u.machine.exit cfg handlers.logged u.state).result = .ok (.ok (), m, s)) :
    Responds cfg handlers u .exit { decision := u.machine.exitChoice } ⟨m, s, u.traps.tail⟩
  | trap {cause : TrapCause} {value number argument : Word} {calls : List KernelCall}
    {outcomes : List Outcome} {context : TrapContext} {m m₁ m₂ : Machine capacity levels}
    {s s₂ : σ × List HookCall}
    (htrap : (u.machine.trap cfg handlers.logged u.state cause value).result = .ok (.ok (), m, s))
    (hcall : ∀ code, cause = .environmentCall code →
      u.machine.hart.regs.get .a7 = number ∧ u.machine.hart.regs.get .a0 = argument)
    (htake : (u.machine.take cfg cause value).result = .ok (.ok context, m₁))
    (hacts : handlers.logged.Acts cfg m₁.kernel u.state cause calls outcomes)
    (hdispatch : (m₁.dispatch cfg handlers.logged u.state context).result = .ok (.ok (), m₂, s₂)) :
    Responds cfg handlers u (.trap cause number argument calls)
      { handled := outcomes, decision := m₂.exitChoice } ⟨m, s, u.traps⟩

/-- What there is to see after a stimulus. -/
structure Observation where
  /-- What came of the stimulus. -/
  report : Report
  /-- What the system looks like. -/
  view : View
  /-- What the scheduler would decide. -/
  next : Except Panic Decision

/-- A system is asked for several things, one after another, and observed after each
of them. -/
inductive Runs (cfg : Config) (handlers : Handlers σ capacity levels) :
    List Stimulus → List Observation → Session (σ × List HookCall) capacity levels →
      Session (σ × List HookCall) capacity levels → Prop where
  | nil (u : Session (σ × List HookCall) capacity levels) : Runs cfg handlers [] [] u u
  | cons {stimulus : Stimulus} {stimuli : List Stimulus} {report : Report}
    {observations : List Observation} {u v w : Session (σ × List HookCall) capacity levels}
    (hresponds : u.Responds cfg handlers stimulus report v)
    (h : Runs cfg handlers stimuli observations v w) :
    Runs cfg handlers (stimulus :: stimuli)
      (⟨report, v.view, v.machine.kernel.decide⟩ :: observations) u w

end Session

/-! ## Kernels that the scheduler cannot tell apart -/

namespace Kernel

variable {capacity levels : Nat} {k₁ k₂ k₁' k₂' : Kernel capacity levels} {cfg : Config}

/-- Two kernels stand for the same valid schedule. -/
def Twins (k₁ k₂ : Kernel capacity levels) : Prop :=
  ∃ s, k₁.Implements s ∧ k₂.Implements s ∧ s.Valid levels

namespace Twins

/-- Kernels that meet the invariant are twins if they look the same to the
scheduler. -/
theorem of_sound (h₁ : k₁.Sound) (h₂ : k₂.Sound) (hsame : k₁.SameSchedule k₂) : k₁.Twins k₂ := by
  obtain ⟨s₁, himpl₁, hv₁⟩ := sound_iff.1 h₁
  obtain ⟨s₂, himpl₂, hv₂⟩ := sound_iff.1 h₂
  obtain rfl := himpl₁.of_sameSchedule hv₁ himpl₂ hv₂ hsame
  exact ⟨s₂, himpl₁, himpl₂, hv₂⟩

theorem sameSchedule (h : k₁.Twins k₂) : k₁.SameSchedule k₂ := by
  obtain ⟨s, himpl₁, himpl₂, -⟩ := h
  exact himpl₁.sameSchedule himpl₂

theorem requestDispatch (h : k₁.Twins k₂) : k₁.requestDispatch.Twins k₂.requestDispatch := by
  obtain ⟨s, himpl₁, himpl₂, hv⟩ := h
  exact ⟨_, himpl₁.requestDispatch, himpl₂.requestDispatch, hv.requestDispatch⟩

theorem advanceTick (h : k₁.Twins k₂) : k₁.advanceTick.Twins k₂.advanceTick := by
  obtain ⟨s, himpl₁, himpl₂, hv⟩ := h
  exact ⟨_, himpl₁.advanceTick, himpl₂.advanceTick, hv.congr rfl rfl rfl⟩

/-- Twins answer a call alike and stay twins. -/
theorem ask (h : k₁.Twins k₂) {call call₁ call₂ : KernelCall} {outcome₁ outcome₂ : Outcome}
    {r₁ r₂ r₁' r₂' : RegisterFile} (halike₁ : call.Alike call₁) (halike₂ : call.Alike call₂)
    (hask₁ : (k₁.ask cfg r₁ call₁).result = .ok (outcome₁, k₁', r₁'))
    (hask₂ : (k₂.ask cfg r₂ call₂).result = .ok (outcome₂, k₂', r₂'))
    (hframe₁ : ¬k₁.FrameFails cfg r₁ call₁) (hframe₂ : ¬k₂.FrameFails cfg r₂ call₂) :
    outcome₂ = outcome₁ ∧ k₁'.Twins k₂' := by
  obtain ⟨s, himpl₁, himpl₂, hv⟩ := h
  obtain ⟨hcode₁, hfollow₁⟩ := Schedule.follow_of_alike halike₁ levels capacity s
  obtain ⟨hcode₂, hfollow₂⟩ := Schedule.follow_of_alike halike₂ levels capacity s
  obtain ⟨_, _, hresult₁, himpl₁'⟩ := himpl₁.exists_ask hv hframe₁
  obtain ⟨_, _, hresult₂, himpl₂'⟩ := himpl₂.exists_ask hv hframe₂
  rw [hask₁] at hresult₁
  rw [hask₂] at hresult₂
  cases hresult₁
  cases hresult₂
  rw [hfollow₁] at himpl₁'
  rw [hfollow₂] at himpl₂'
  exact ⟨by rw [hcode₁, hcode₂], _, himpl₁', himpl₂', hv.follow capacity call⟩

/-- Handlers that ask twins for the same things are answered alike. -/
theorem makes (h : k₁.Twins k₂) {calls : List KernelCall} {outcomes₁ outcomes₂ : List Outcome}
    (hmakes₁ : k₁.Makes cfg calls outcomes₁ k₁') (hmakes₂ : k₂.Makes cfg calls outcomes₂ k₂') :
    outcomes₂ = outcomes₁ ∧ k₁'.Twins k₂' := by
  induction hmakes₁ generalizing k₂ outcomes₂ with
  | nil k =>
    cases hmakes₂
    exact ⟨rfl, h⟩
  | cons halike₁ hask₁ hframe₁ hrest₁ ih =>
    cases hmakes₂ with
    | cons halike₂ hask₂ hframe₂ hrest₂ =>
      obtain ⟨rfl, hnext⟩ := h.ask halike₁ halike₂ hask₁ hask₂ hframe₁ hframe₂
      obtain ⟨rfl, hlast⟩ := ih hnext hrest₂
      exact ⟨rfl, hlast⟩

end Twins

end Kernel

/-! ## Machines that the scheduler cannot tell apart -/

/-- Two traps have the same cause and have interrupted the same task, or handlers, or
one of them the idle loop. -/
structure TrapContext.Alike (c₁ c₂ : TrapContext) : Prop where
  cause : c₂.cause = c₁.cause
  owner : c₁.frame = .idle ∨ c₂.frame = .idle ∨ c₂.frame.owner? = c₁.frame.owner?

namespace Machine

variable {capacity levels : Nat} {σ σ₁ σ₂ : Type} {cfg : Config} {sch : Schedule}
variable {m m' m₁ m₂ m₁' m₂' : Machine capacity levels} {frame : SavedFrame}
variable {context c₁ c₂ : TrapContext} {cause : TrapCause}

/-- The kernels of two machines are twins, and equally many traps are being
handled. -/
structure Twins (m₁ m₂ : Machine capacity levels) : Prop where
  kernel : m₁.kernel.Twins m₂.kernel
  nesting : m₂.nesting = m₁.nesting

/-! ### Entry -/

/-- Entry leaves twins as twins: whoever is interrupted, the scheduler does not
notice. -/
theorem Twins.entry (h : m₁.Twins m₂) (hentry₁ : (m₁.entry cfg).result = .ok (.ok c₁, m₁'))
    (hentry₂ : (m₂.entry cfg).result = .ok (.ok c₂, m₂')) (hcause : c₂.cause = c₁.cause) :
    m₁'.Twins m₂' ∧ c₁.Alike c₂ := by
  obtain ⟨-, hinterrupted₁, hnesting₁, -⟩ := entry_cases hentry₁
  obtain ⟨-, hinterrupted₂, hnesting₂, -⟩ := entry_cases hentry₂
  have hnesting := h.nesting
  obtain ⟨s, himpl₁, himpl₂, hv⟩ := h.kernel
  refine ⟨⟨⟨s, hinterrupted₁.implements himpl₁, hinterrupted₂.implements himpl₂, hv⟩, by omega⟩,
    hcause, ?_⟩
  have hrunning : m₂.kernel.running = m₁.kernel.running := himpl₂.running.symm.trans himpl₁.running
  generalize c₁.frame = frame₁ at hinterrupted₁
  generalize c₂.frame = frame₂ at hinterrupted₂
  cases hinterrupted₁ with
  | idle => exact .inl rfl
  | handler sp hnested =>
    cases hinterrupted₂ with
    | handler => exact .inr (.inr rfl)
    | idle => exact .inr (.inl rfl)
    | task => omega
  | task id sp hnested hsp hid =>
    cases hinterrupted₂ with
    | handler => omega
    | idle => exact .inr (.inl rfl)
    | task id' sp' hnested' hsp' hid' =>
      rw [hid', hid] at hrunning
      exact .inr (.inr hrunning)

/-- Traps with the same cause that twins take are alike. -/
theorem Twins.take (h : m₁.Twins m₂) {value₁ value₂ : Word}
    (htake₁ : (m₁.take cfg cause value₁).result = .ok (.ok c₁, m₁'))
    (htake₂ : (m₂.take cfg cause value₂).result = .ok (.ok c₂, m₂')) :
    m₁'.Twins m₂' ∧ c₁.Alike c₂ ∧ c₁.cause = cause := by
  obtain ⟨hart₁, hraise₁, hentry₁⟩ := Traced.bind_eq_ok.1 htake₁
  obtain ⟨hart₂, hraise₂, hentry₂⟩ := Traced.bind_eq_ok.1 htake₂
  have hcause₁ : c₁.cause = cause := (entry_cases hentry₁).1.trans (Hart.decode_raise hraise₁)
  have hcause₂ : c₂.cause = cause := (entry_cases hentry₂).1.trans (Hart.decode_raise hraise₂)
  have hraised : Twins { m₁ with hart := hart₁ } { m₂ with hart := hart₂ } := ⟨h.kernel, h.nesting⟩
  obtain ⟨htwins, halike⟩ := hraised.entry hentry₁ hentry₂ (hcause₂.trans hcause₁.symm)
  exact ⟨htwins, halike, hcause₁⟩

/-- The frame of a trap that was just taken holds the call that the interrupted
context has made, if it has made one. -/
theorem frameCall_of_take {value : Word}
    (htake : (m.take cfg cause value).result = .ok (.ok context, m'))
    (hframe : context.frame ≠ .idle) :
    ∃ pc, m'.frameCall cfg context.frame =
      .ok ⟨m.hart.regs.get .a7, m.hart.regs.get .a0, pc⟩ := by
  obtain ⟨hart, hraise, hentry⟩ := Traced.bind_eq_ok.1 htake
  have hregs := (Hart.raise_cases hraise).2.2.2
  have ha7 : hart.regs.get .a7 = m.hart.regs.get .a7 := by
    rw [hregs]
    rfl
  have ha0 : hart.regs.get .a0 = m.hart.regs.get .a0 := by
    rw [hregs]
    rfl
  rw [← ha7, ← ha0]
  refine ⟨hart.regs.pc, ?_⟩
  obtain ⟨-, hinterrupted, -⟩ := entry_cases hentry
  generalize hsaved : context.frame = frame at hinterrupted hframe
  cases frame with
  | idle => exact absurd rfl hframe
  | nested sp =>
    have hnested : 0 < ({ m with hart := hart } : Machine capacity levels).nesting := by
      cases hinterrupted with
      | handler sp hnested => exact hnested
    obtain ⟨hplace, hguards⟩ := guards_of_entry hnested hentry
    cases hsaved.symm.trans hplace
    exact readCall_of_stores hguards.stores
  | task id sp =>
    obtain ⟨-, ⟨t, ht, hholds⟩, hplace⟩ := hinterrupted.keeps
    obtain rfl : t.savedSp = sp := by
      have habove : t.savedSp.toNat + cfg.layouts.interrupted.frameSize = hart.regs.sp.toNat :=
        hholds.above
      have hplace' : sp.toNat + cfg.layouts.interrupted.frameSize = hart.regs.sp.toNat := hplace
      exact BitVec.eq_of_toNat_eq (by omega)
    simp only [frameCall, withFrame, ht]
    exact readCall_of_stores hholds.stores

/-! ### Dispatch -/

theorem frameCall_updateStats (cfg : Config) (m : Machine capacity levels) (frame : SavedFrame)
    (f : TrapStats → TrapStats) :
    (m.updateStats f).frameCall cfg frame = m.frameCall cfg frame := by
  cases frame with
  | idle => rfl
  | nested sp => rfl
  | task id sp =>
    simp only [frameCall, withFrame, updateStats]
    cases m.kernel.task? id <;> rfl

/-- Access to a saved frame does not concern the scheduler. -/
theorem Accessed.implements {α : Type} {k k' : Kernel capacity levels}
    {f : StackRegion → Word → Except FrameError α × StackRegion} (h : Accessed f k k' frame)
    (himpl : k.Implements sch) : k'.Implements sch := by
  cases h with
  | nested sp hkernel => exact hkernel ▸ himpl
  | task id sp t ht hkernel =>
    rw [hkernel]
    exact himpl.updateContext id (fun _ => rfl) fun _ => rfl

/-- An environment call does to the scheduler what the call in the frame asks for. -/
theorem implements_of_call {handlers : Handlers σ capacity levels} {s s' : σ}
    {code number argument pc : Word} (himpl : m.kernel.Implements sch) (hv : sch.Valid levels)
    (hcall : m.frameCall cfg frame = .ok ⟨number, argument, pc⟩)
    (hdispatch : (m.dispatch cfg handlers s ⟨.environmentCall code, frame⟩).result =
      .ok (.ok (), m', s')) :
    m'.kernel.Implements (sch.serve levels frame.owner? number argument).requestDispatch := by
  obtain ⟨m₁, hresult, rfl, -⟩ := dispatch_environmentCall_cases hdispatch
  obtain ⟨served, hserve, hserved, -⟩ := himpl.exists_serve hv frame.owner? number argument
  rw [environmentCall_eq_ok ((frameCall_updateStats cfg m frame _).trans hcall) hserve] at hresult
  obtain ⟨haccess, -⟩ := withFrame_cases (Except.ok.inj hresult)
  exact (haccess.implements hserved).requestDispatch

/-- If twins dispatch traps that are alike, and the handlers ask for the same things,
the handlers are called and answered alike and the machines stay twins. -/
theorem Twins.dispatch (h : m₁.Twins m₂) (halike : c₁.Alike c₂)
    {handlers₁ : Handlers σ₁ capacity levels} {handlers₂ : Handlers σ₂ capacity levels}
    {s₁ s₁' : σ₁ × List HookCall} {s₂ s₂' : σ₂ × List HookCall} (hhooks : s₂.2 = s₁.2)
    {number argument : Word} {calls : List KernelCall} {outcomes₁ outcomes₂ : List Outcome}
    (hcall₁ : ∀ code, c₁.cause = .environmentCall code →
      ∃ pc, m₁.frameCall cfg c₁.frame = .ok ⟨number, argument, pc⟩)
    (hcall₂ : ∀ code, c₂.cause = .environmentCall code →
      ∃ pc, m₂.frameCall cfg c₂.frame = .ok ⟨number, argument, pc⟩)
    (hacts₁ : handlers₁.logged.Acts cfg m₁.kernel s₁ c₁.cause calls outcomes₁)
    (hacts₂ : handlers₂.logged.Acts cfg m₂.kernel s₂ c₂.cause calls outcomes₂)
    (hdispatch₁ : (m₁.dispatch cfg handlers₁.logged s₁ c₁).result = .ok (.ok (), m₁', s₁'))
    (hdispatch₂ : (m₂.dispatch cfg handlers₂.logged s₂ c₂).result = .ok (.ok (), m₂', s₂')) :
    outcomes₂ = outcomes₁ ∧ m₁'.Twins m₂' ∧ s₂'.2 = s₁'.2 := by
  obtain ⟨cause, frame₁⟩ := c₁
  obtain ⟨cause₂, frame₂⟩ := c₂
  obtain rfl : cause₂ = cause := halike.cause
  obtain ⟨hdispatched₁, hnesting₁, -⟩ := dispatch_cases hdispatch₁
  obtain ⟨hdispatched₂, hnesting₂, -⟩ := dispatch_cases hdispatch₂
  have hnesting : m₂'.nesting = m₁'.nesting := by rw [hnesting₂, hnesting₁, h.nesting]
  cases hdispatched₁ with
  | software hkernel₁ hs₁ =>
    cases hdispatched₂ with
    | software hkernel₂ hs₂ =>
      cases hacts₁
      cases hacts₂
      refine ⟨rfl, ⟨?_, hnesting⟩, by rw [hs₁, hs₂, hhooks]⟩
      rw [hkernel₁, hkernel₂]
      exact h.kernel.requestDispatch
  | timer kernel₁ htick₁ hkernel₁ =>
    cases hdispatched₂ with
    | timer kernel₂ htick₂ hkernel₂ =>
      cases hacts₁ with
      | timer hsame₁ hmakes₁ =>
        cases hacts₂ with
        | timer hsame₂ hmakes₂ =>
          cases htick₁.symm.trans hsame₁
          cases htick₂.symm.trans hsame₂
          have hticked := h.kernel.advanceTick
          obtain ⟨rfl, htwins⟩ := hticked.makes hmakes₁ hmakes₂
          refine ⟨rfl, ⟨?_, hnesting⟩, ?_⟩
          · rw [hkernel₁, hkernel₂]
            exact htwins.requestDispatch
          · rw [Handlers.hooks_of_tick htick₁, Handlers.hooks_of_tick htick₂, hhooks,
              hticked.sameSchedule.tick]
  | external code hexternal₁ =>
    cases hdispatched₂ with
    | external code hexternal₂ =>
      cases hacts₁ with
      | external hsame₁ hmakes₁ =>
        cases hacts₂ with
        | external hsame₂ hmakes₂ =>
          cases hexternal₁.symm.trans hsame₁
          cases hexternal₂.symm.trans hsame₂
          obtain ⟨rfl, htwins⟩ := h.kernel.makes hmakes₁ hmakes₂
          refine ⟨rfl, ⟨htwins, hnesting⟩, ?_⟩
          rw [Handlers.hooks_of_external hexternal₁, Handlers.hooks_of_external hexternal₂, hhooks]
  | environmentCall code number₁ argument₁ pc₁ result₁ served₁ accessed₁ hserve₁ haccess₁ hkernel₁
      hs₁ =>
    cases hdispatched₂ with
    | environmentCall code number₂ argument₂ pc₂ result₂ served₂ accessed₂ hserve₂ haccess₂
        hkernel₂ hs₂ =>
      cases hacts₁
      cases hacts₂
      obtain ⟨pc₁, hcall₁⟩ := hcall₁ code rfl
      obtain ⟨pc₂, hcall₂⟩ := hcall₂ code rfl
      -- the idle loop cannot call
      have howner : frame₂.owner? = frame₁.owner? := by
        rcases halike.owner with hidle | hidle | howner
        · exact absurd hidle (not_idle_of_environmentCall rfl hdispatch₁)
        · exact absurd hidle (not_idle_of_environmentCall rfl hdispatch₂)
        · exact howner
      obtain ⟨sch, himpl₁, himpl₂, hv⟩ := h.kernel
      have himpl₁' := implements_of_call himpl₁ hv hcall₁ hdispatch₁
      have himpl₂' := implements_of_call himpl₂ hv hcall₂ hdispatch₂
      rw [howner] at himpl₂'
      have hv' := (hv.follow capacity (.serve frame₁.owner? number argument)).requestDispatch
      exact ⟨rfl, ⟨⟨_, himpl₁', himpl₂', hv'⟩, hnesting⟩, by rw [hs₁, hs₂, hhooks]⟩

/-- If a trap that was just taken is dispatched, its frame holds the call that the
live registers were making. -/
theorem frameCall_of_dispatch {handlers : Handlers σ capacity levels} {s s' : σ}
    {value number argument : Word} (htake : (m.take cfg cause value).result = .ok (.ok context, m₁))
    (hcall : ∀ code, cause = .environmentCall code →
      m.hart.regs.get .a7 = number ∧ m.hart.regs.get .a0 = argument)
    (hcause : context.cause = cause)
    (hdispatch : (m₁.dispatch cfg handlers s context).result = .ok (.ok (), m', s')) :
    ∀ code, context.cause = .environmentCall code →
      ∃ pc, m₁.frameCall cfg context.frame = .ok ⟨number, argument, pc⟩ := by
  intro code hcode
  obtain ⟨rfl, rfl⟩ := hcall code (hcause.symm.trans hcode)
  exact frameCall_of_take htake (not_idle_of_environmentCall hcode hdispatch)

/-! ### Exit -/

theorem Twins.exitChoice (h : m₁.Twins m₂) : m₂.exitChoice = m₁.exitChoice := by
  obtain ⟨s, himpl₁, himpl₂, -⟩ := h.kernel
  rw [Machine.exitChoice, Machine.exitChoice, himpl₁.exitDecision_eq, himpl₂.exitDecision_eq,
    h.nesting]

/-- The idle handler is called if the scheduler has decided that nobody runs. -/
theorem hooks_of_resumed {handlers : Handlers σ capacity levels} {k : Kernel capacity levels}
    {idle : Bool} {s s' : σ × List HookCall} {decision : Decision}
    (h : Resumed cfg handlers.logged k idle m' s s' decision) :
    s'.2 = s.2 ++ if decision = .switchTo none then [.idle] else [] := by
  cases h with
  | background id r hrunning hload hkernel hidle hs => simp [hs]
  | task id kind r loaded hload hkernel hregs hidle hs => simp [hs]
  | idle hkernel hsp hidle hs => simp [hs, Handlers.logged]

/-- Twins that leave a trap stay twins: they go on with the same task. -/
theorem Twins.exit (h : m₁.Twins m₂) {handlers₁ : Handlers σ₁ capacity levels}
    {handlers₂ : Handlers σ₂ capacity levels} {s₁ s₁' : σ₁ × List HookCall}
    {s₂ s₂' : σ₂ × List HookCall} (hhooks : s₂.2 = s₁.2)
    (hexit₁ : (m₁.exit cfg handlers₁.logged s₁).result = .ok (.ok (), m₁', s₁'))
    (hexit₂ : (m₂.exit cfg handlers₂.logged s₂).result = .ok (.ok (), m₂', s₂')) :
    m₁'.Twins m₂' ∧ s₂'.2 = s₁'.2 := by
  have hnesting := h.nesting
  obtain ⟨hbefore₁, hcases₁⟩ := exit_cases hexit₁
  obtain ⟨hbefore₂, hcases₂⟩ := exit_cases hexit₂
  have hnesting' : m₂'.nesting = m₁'.nesting := by omega
  rcases hcases₁ with ⟨hpos₁, hkernel₁, -, hs₁⟩ | ⟨hzero₁, decision₁, hdecision₁, hresumed₁⟩
  · rcases hcases₂ with ⟨hpos₂, hkernel₂, -, hs₂⟩ | ⟨hzero₂, -⟩
    · exact ⟨⟨hkernel₁ ▸ hkernel₂ ▸ h.kernel, hnesting'⟩, by rw [hs₁, hs₂, hhooks]⟩
    · omega
  · rcases hcases₂ with ⟨hpos₂, -⟩ | ⟨hzero₂, decision₂, hdecision₂, hresumed₂⟩
    · omega
    · obtain ⟨s, himpl₁, himpl₂, hv⟩ := h.kernel
      have hsame : decision₂ = decision₁ := by
        have hboth := himpl₂.exitDecision_eq.trans himpl₁.exitDecision_eq.symm
        rw [hdecision₁, hdecision₂] at hboth
        exact Except.ok.inj hboth
      have himpl₁' := (himpl₁.conclude hv hdecision₁ (obey_of_resumed hresumed₁)).1
      have himpl₂' := (himpl₂.conclude hv hdecision₂ (obey_of_resumed hresumed₂)).1
      refine ⟨⟨⟨_, himpl₁', himpl₂', hv.conclude⟩, hnesting'⟩, ?_⟩
      rw [hooks_of_resumed hresumed₁, hooks_of_resumed hresumed₂, hhooks, hsame]

/-- What is left of a trap that returns when it was entered and dispatched. -/
theorem exists_exit_of_trap {handlers : Handlers σ capacity levels} {s s₂ s' : σ} {value : Word}
    (htrap : (m.trap cfg handlers s cause value).result = .ok (.ok (), m', s'))
    (htake : (m.take cfg cause value).result = .ok (.ok context, m₁))
    (hdispatch : (m₁.dispatch cfg handlers s context).result = .ok (.ok (), m₂, s₂)) :
    ∃ m₃, (m₂.exit cfg handlers s₂).result = .ok (.ok (), m₃, s') ∧
      m' = { m₃ with hart := m₃.hart.exceptionReturn cfg } := by
  obtain ⟨hart, context', m₁', m₂', s₂', m₃, hraise, hentry, hdispatched, hexit, hreturn⟩ :=
    trap_cases htrap
  rw [take, Traced.result_bind, hraise, ok_bind, hentry] at htake
  cases htake
  cases hdispatched.symm.trans hdispatch
  exact ⟨m₃, hexit, hreturn⟩

end Machine

/-! ## Systems that the scheduler cannot tell apart -/

/-- Two tasks are created and the first one is started, as in `Move.launchTwo`, but
with other names, entry points, parameters and stacks. -/
def Move.launchOthers : List Move :=
  [.call (.create ⟨"c", 0x80004000, 7, 1⟩ ⟨0x40050000, .replicate 48 1, by decide, by decide⟩),
   .call (.create ⟨"d", 0x80008000, 8, 1⟩ ⟨0x40060000, .replicate 64 2, by decide, by decide⟩),
   .call (.activate ⟨0⟩), .call (.activate ⟨1⟩), .trap .software 0]

namespace Session

open Machine (small returns exists_of_returns ends exists_of_ends)

variable {capacity levels : Nat} {σ σ₁ σ₂ : Type} {cfg : Config}
variable {u₁ v₁ : Session (σ₁ × List HookCall) capacity levels}
variable {u₂ v₂ : Session (σ₂ × List HookCall) capacity levels}
variable {handlers₁ : Handlers σ₁ capacity levels} {handlers₂ : Handlers σ₂ capacity levels}
variable {stimulus : Stimulus} {report₁ report₂ : Report}

/-- The machines are twins, they are handling the same traps, and the handlers were
called for the same things. -/
structure Twins (u₁ : Session (σ₁ × List HookCall) capacity levels)
    (u₂ : Session (σ₂ × List HookCall) capacity levels) : Prop where
  machine : u₁.machine.Twins u₂.machine
  hooks : u₂.state.2 = u₁.state.2
  traps : List.Forall₂ TrapContext.Alike u₁.traps u₂.traps

namespace Twins

/-- Systems that meet the invariant are twins if they have the same view. -/
theorem of_view_eq (h₁ : u₁.machine.kernel.Sound) (h₂ : u₂.machine.kernel.Sound)
    (hview : u₂.view = u₁.view) (htraps : List.Forall₂ TrapContext.Alike u₁.traps u₂.traps) :
    u₁.Twins u₂ := by
  have hsame : u₁.machine.kernel.SameSchedule u₂.machine.kernel :=
    ⟨congrArg View.entries hview, congrArg View.ready hview, congrArg View.running hview,
      congrArg View.pending hview, congrArg View.tick hview⟩
  exact ⟨⟨.of_sound h₁ h₂ hsame, congrArg View.nesting hview⟩, congrArg View.hooks hview, htraps⟩

theorem view_eq (h : u₁.Twins u₂) : u₂.view = u₁.view := by
  have hsame := h.machine.kernel.sameSchedule
  rw [view, view, hsame.entries, hsame.ready, hsame.running, hsame.pending, hsame.tick,
    h.machine.nesting, h.hooks]

theorem decide_eq (h : u₁.Twins u₂) :
    u₂.machine.kernel.decide = u₁.machine.kernel.decide := by
  obtain ⟨s, himpl₁, himpl₂, -⟩ := h.machine.kernel
  rw [himpl₁.decide_eq, himpl₂.decide_eq]

/-- Twins respond alike to a stimulus, and stay twins. -/
theorem responds (h : u₁.Twins u₂) (h₁ : u₁.Responds cfg handlers₁ stimulus report₁ v₁)
    (h₂ : u₂.Responds cfg handlers₂ stimulus report₂ v₂) : report₂ = report₁ ∧ v₁.Twins v₂ := by
  cases h₁ with
  | work hworks₁ =>
    cases h₂ with
    | work hworks₂ =>
      obtain ⟨s, himpl₁, himpl₂, hv⟩ := h.machine.kernel
      obtain ⟨himpl₁', hnesting₁⟩ := hworks₁.implements himpl₁
      obtain ⟨himpl₂', hnesting₂⟩ := hworks₂.implements himpl₂
      have hnesting := hnesting₂.trans (h.machine.nesting.trans hnesting₁.symm)
      exact ⟨rfl, ⟨⟨s, himpl₁', himpl₂', hv⟩, hnesting⟩, h.hooks, h.traps⟩
  | call halike₁ hask₁ hframe₁ =>
    cases h₂ with
    | call halike₂ hask₂ hframe₂ =>
      obtain ⟨rfl, htwins⟩ :=
        h.machine.kernel.ask halike₁ halike₂ hask₁ hask₂ hframe₁ hframe₂
      exact ⟨rfl, ⟨htwins, h.machine.nesting⟩, h.hooks, h.traps⟩
  | enter htake₁ =>
    cases h₂ with
    | enter htake₂ =>
      obtain ⟨htwins, halike, -⟩ := h.machine.take htake₁ htake₂
      exact ⟨rfl, htwins, h.hooks, .cons halike h.traps⟩
  | dispatch hindex₁ hcall₁ hacts₁ hdispatch₁ =>
    cases h₂ with
    | dispatch hindex₂ hcall₂ hacts₂ hdispatch₂ =>
      obtain ⟨hlt₁, rfl⟩ := List.getElem?_eq_some_iff.1 hindex₁
      obtain ⟨hlt₂, rfl⟩ := List.getElem?_eq_some_iff.1 hindex₂
      have halike := h.traps.get hlt₁ hlt₂
      obtain ⟨rfl, htwins, hhooks⟩ := h.machine.dispatch halike h.hooks hcall₁ hcall₂ hacts₁ hacts₂
        hdispatch₁ hdispatch₂
      exact ⟨rfl, htwins, hhooks, h.traps⟩
  | exit hexit₁ =>
    cases h₂ with
    | exit hexit₂ =>
      obtain ⟨htwins, hhooks⟩ := h.machine.exit h.hooks hexit₁ hexit₂
      have htraps := List.forall₂_drop 1 h.traps
      rw [List.drop_one, List.drop_one] at htraps
      exact ⟨by rw [h.machine.exitChoice], htwins, hhooks, htraps⟩
  | trap htrap₁ hcall₁ htake₁ hacts₁ hdispatch₁ =>
    cases h₂ with
    | trap htrap₂ hcall₂ htake₂ hacts₂ hdispatch₂ =>
      obtain ⟨htaken, halike, hcause₁⟩ := h.machine.take htake₁ htake₂
      have hcause₂ := halike.cause.trans hcause₁
      have hframe₁ := Machine.frameCall_of_dispatch htake₁ hcall₁ hcause₁ hdispatch₁
      have hframe₂ := Machine.frameCall_of_dispatch htake₂ hcall₂ hcause₂ hdispatch₂
      rw [← hcause₁] at hacts₁
      rw [← hcause₂] at hacts₂
      obtain ⟨rfl, hdispatched, hhooks⟩ := htaken.dispatch halike h.hooks hframe₁ hframe₂ hacts₁
        hacts₂ hdispatch₁ hdispatch₂
      obtain ⟨m₁, hexit₁, rfl⟩ := Machine.exists_exit_of_trap htrap₁ htake₁ hdispatch₁
      obtain ⟨m₂, hexit₂, rfl⟩ := Machine.exists_exit_of_trap htrap₂ htake₂ hdispatch₂
      obtain ⟨hleft, hhooks⟩ := hdispatched.exit hhooks hexit₁ hexit₂
      exact ⟨by rw [hdispatched.exitChoice], ⟨hleft.kernel, hleft.nesting⟩, hhooks, h.traps⟩

end Twins

/-- A trap that asks nothing of handlers that do nothing is a response if it
returns. -/
theorem exists_responds_timer {u : Session (σ × List HookCall) capacity levels} {value : Word}
    {m : Machine capacity levels} {s : σ × List HookCall}
    (htrap : (u.machine.trap cfg Handlers.default.logged u.state .timer value).result =
      .ok (.ok (), m, s)) (number argument : Word) :
    ∃ report, u.Responds cfg Handlers.default (.trap .timer number argument []) report
      ⟨m, s, u.traps⟩ := by
  obtain ⟨hart, context, m₁, m₂, s₂, m₃, hraise, hentry, hdispatch, -⟩ := Machine.trap_cases htrap
  have htake : (u.machine.take cfg .timer value).result = .ok (.ok context, m₁) := by
    rw [Machine.take, Traced.result_bind, hraise, ok_bind, hentry]
  have hcall : ∀ code, TrapCause.timer = .environmentCall code →
      u.machine.hart.regs.get .a7 = number ∧ u.machine.hart.regs.get .a0 = argument := by
    intro code hcode
    cases hcode
  exact ⟨_, .trap htrap hcall htake (.timer rfl (.nil _)) hdispatch⟩

/-- Take two systems that meet the scheduler invariant, that have the same view and
that are handling the same traps.  Registers, stacks, saved contexts and attributes of
tasks may differ in any way, and whoever holds the hart may write what it likes to
registers and memory.  As long as no frame stands in the way and nothing is fatal, the
observations are the same if the two systems are asked for the same things. -/
theorem Runs.observations_eq {stimuli : List Stimulus}
    {observations₁ observations₂ : List Observation}
    (h₁ : Runs cfg handlers₁ stimuli observations₁ u₁ v₁)
    (h₂ : Runs cfg handlers₂ stimuli observations₂ u₂ v₂)
    (hsound₁ : u₁.machine.kernel.Sound) (hsound₂ : u₂.machine.kernel.Sound)
    (hview : u₂.view = u₁.view) (htraps : List.Forall₂ TrapContext.Alike u₁.traps u₂.traps) :
    observations₂ = observations₁ := by
  have htwins := Twins.of_view_eq hsound₁ hsound₂ hview htraps
  clear hsound₁ hsound₂ hview htraps
  induction h₁ generalizing u₂ observations₂ with
  | nil u =>
    cases h₂
    rfl
  | cons hresponds₁ hrest₁ ih =>
    cases h₂ with
    | cons hresponds₂ hrest₂ =>
      obtain ⟨rfl, htwins'⟩ := htwins.responds hresponds₁ hresponds₂
      obtain rfl := ih hrest₂ htwins'
      rw [htwins'.view_eq, htwins'.decide_eq]

/-- A task is made more urgent than the current one, and a timer interrupt comes. -/
def preemption : List Stimulus := [.call (.setPriority ⟨1⟩ 0), .trap .timer 0 0 []]

/-- The task gets the processor, if the handlers do nothing. -/
def preempts (m : Machine 4 4) : Bool :=
  ends (m.kernel.ask (Config.machine false) m.hart.regs (.setPriority ⟨1⟩ 0)) fun a =>
    returns (({ m with kernel := a.2.1, hart := { m.hart with regs := a.2.2 } } : Machine 4 4).trap
        (Config.machine false) (Handlers.default : Handlers Unit 4 4).logged ((), []) .timer 0)
      fun b => decide (b.1.kernel.running = some ⟨1⟩)

theorem exists_runs_preemption {m : Machine 4 4} (h : preempts m = true) :
    ∃ observations v, Runs (Config.machine false) Handlers.default preemption observations
      ⟨m, ((), []), []⟩ v ∧ v.machine.kernel.running = some ⟨1⟩ := by
  obtain ⟨⟨outcome, k, r⟩, hask, h⟩ := exists_of_ends h
  obtain ⟨⟨m', s⟩, htrap, hrunning⟩ := exists_of_returns h
  obtain ⟨report, hresponds⟩ := exists_responds_timer
    (u := ⟨{ m with kernel := k, hart := { m.hart with regs := r } }, ((), []), []⟩) htrap 0 0
  exact ⟨_, _, .cons (.call (.refl _) hask nofun) (.cons hresponds (.nil _)),
    of_decide_eq_true hrunning⟩

/-- Two systems whose tasks have different entry points, parameters and stacks. -/
theorem Runs.observations_eq_preemption :
    ∃ (observations₁ observations₂ : List Observation)
      (u₁ u₂ v₁ v₂ : Session (Unit × List HookCall) 4 4),
      Runs (Config.machine false) Handlers.default preemption observations₁ u₁ v₁ ∧
      Runs (Config.machine false) Handlers.default preemption observations₂ u₂ v₂ ∧
      u₁.machine.kernel.Sound ∧ u₂.machine.kernel.Sound ∧ u₂.view = u₁.view ∧
      List.Forall₂ TrapContext.Alike u₁.traps u₂.traps ∧
      u₁.machine.hart.regs.pc ≠ u₂.machine.hart.regs.pc ∧
      u₁.machine.kernel.running = some ⟨0⟩ ∧ v₁.machine.kernel.running = some ⟨1⟩ ∧
      observations₂ = observations₁ := by
  obtain ⟨⟨m₁, s₁⟩, hplay₁, h₁⟩ := exists_of_returns
    (x := small.play (Config.machine false) (Handlers.default : Handlers Unit 4 4) ()
      Move.launchTwo)
    (p := fun b₁ => preempts b₁.1 && decide (b₁.1.kernel.running = some ⟨0⟩) &&
      returns (small.play (Config.machine false) (Handlers.default : Handlers Unit 4 4) ()
        Move.launchOthers) fun b₂ => preempts b₂.1 &&
          decide (view ⟨b₂.1, ((), []), []⟩ = view ⟨b₁.1, ((), []), []⟩) &&
          decide (b₁.1.hart.regs.pc ≠ b₂.1.hart.regs.pc)) (by decide +kernel)
  simp only [Bool.and_eq_true] at h₁
  obtain ⟨⟨hpreempts₁, hrunning⟩, h₂⟩ := h₁
  obtain ⟨⟨m₂, s₂⟩, hplay₂, h₂⟩ := exists_of_returns h₂
  simp only [Bool.and_eq_true] at h₂
  obtain ⟨⟨hpreempts₂, hview⟩, hpc⟩ := h₂
  have hsound : ∀ {moves m s}, (∀ mv ∈ moves, mv.Local) →
      (small.play (Config.machine false) (Handlers.default : Handlers Unit 4 4) () moves).result =
        .ok (.ok (), m, s) → m.kernel.Sound := by
    intro moves m s hlocal hplay
    obtain ⟨sch, himpl, hv, -⟩ := Machine.play_orderly (Handlers.calling_default _ _)
      (Machine.orderly_initial Machine.initial_small) hlocal hplay
    exact Kernel.sound_iff.2 ⟨sch, himpl, hv⟩
  have hsound₁ := hsound (by simp [Move.launchTwo, Move.startTwo, Move.Local, KernelCall.Local])
    hplay₁
  have hsound₂ := hsound (by simp [Move.launchOthers, Move.Local, KernelCall.Local]) hplay₂
  obtain ⟨observations₁, v₁, hruns₁, hswitched⟩ := exists_runs_preemption hpreempts₁
  obtain ⟨observations₂, v₂, hruns₂, -⟩ := exists_runs_preemption hpreempts₂
  exact ⟨observations₁, observations₂, _, _, v₁, v₂, hruns₁, hruns₂, hsound₁, hsound₂,
    of_decide_eq_true hview, .nil, of_decide_eq_true hpc, of_decide_eq_true hrunning, hswitched,
    hruns₁.observations_eq hruns₂ hsound₁ hsound₂ (of_decide_eq_true hview) .nil⟩

end Session

end HartKernel
