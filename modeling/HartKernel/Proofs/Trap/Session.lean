import HartKernel.Proofs.Kernel.Frames
import HartKernel.Proofs.Trap.Run

/-!
# Sessions

A session is a run in which stack memory is written by the kernel and the trap
handler only, and in which a trap is dispatched between its entry and its exit.
Whoever holds the hart may still change registers and call the kernel at any
nesting level.

Main definitions:

- `Session` is a machine with the contexts of the traps being handled;
  `Session.next` makes one move and `Session.play` makes several.
- `Session.Tidy` is the invariant of sessions.

Main results:

- `Session.next_cases`: what a move is made of.
- `Session.exists_play_of_trap`: a whole trap is made of its phases.
- `Machine.spares_of_interrupted`, `Machine.spares_of_dispatched` and
  `Machine.whole_of_exit`: whose frames a step may touch.
- `Session.next_tidy` and `Session.play_tidy`: every session is tidy.
- `Session.play_induction`: what each move of a session keeps the session keeps.
-/

namespace HartKernel

/-- A machine with the contexts of the traps that are being handled, innermost
first, and the state of the handlers. -/
structure Session (σ : Type) (capacity levels : Nat) where
  /-- The machine. -/
  machine : Machine capacity levels
  /-- The state of the handlers. -/
  state : σ
  /-- The traps that were entered and not left. -/
  traps : List TrapContext

namespace Session

variable {capacity levels : Nat} {σ : Type}

/-- Make a move that goes through, and say which traps are being handled then. -/
def proceed (cfg : Config) (handlers : Handlers σ capacity levels)
    (u : Session σ capacity levels) (mv : Move) (traps : List TrapContext) :
    Option (Bool × Session σ capacity levels) :=
  match (u.machine.move cfg handlers u.state mv).result with
  | .ok (.ok ok, m, s) => some (ok, ⟨m, s, traps⟩)
  | _ => none

/-- Make a move of a session, which has to go through.  Stacks are not written
directly, only traps that are being handled are dispatched, and a whole trap is
made of its phases. -/
def next (cfg : Config) (handlers : Handlers σ capacity levels) (u : Session σ capacity levels) :
    Move → Option (Bool × Session σ capacity levels)
  | .call c => u.proceed cfg handlers (.call c) u.traps
  | .work hart => u.proceed cfg handlers (.work hart) u.traps
  | .enter cause value =>
    match (u.machine.take cfg cause value).result with
    | .ok (.ok context, m) => some (true, ⟨m, u.state, context :: u.traps⟩)
    | _ => none
  | .dispatch context =>
    if context ∈ u.traps then u.proceed cfg handlers (.dispatch context) u.traps else none
  | .exit => u.proceed cfg handlers .exit u.traps.tail
  | .write _ _ _ | .writeInterrupt _ _ | .trap _ _ => none

/-- Make several moves, each of which has to go through and to be permitted. -/
def play (cfg : Config) (handlers : Handlers σ capacity levels)
    (permits : Session σ capacity levels → Move → Bool → Session σ capacity levels → Prop)
    [∀ u mv ok v, Decidable (permits u mv ok v)] (u : Session σ capacity levels) :
    List Move → Option (Session σ capacity levels)
  | [] => some u
  | mv :: moves =>
    match u.next cfg handlers mv with
    | none => none
    | some (ok, v) => if permits u mv ok v then v.play cfg handlers permits moves else none

variable {cfg : Config} {handlers : Handlers σ capacity levels} {u v : Session σ capacity levels}

theorem play_cons_eq_some
    {permits : Session σ capacity levels → Move → Bool → Session σ capacity levels → Prop}
    [∀ u mv ok v, Decidable (permits u mv ok v)] {mv : Move} {moves : List Move}
    (h : u.play cfg handlers permits (mv :: moves) = some v) :
    ∃ ok w, u.next cfg handlers mv = some (ok, w) ∧ permits u mv ok w ∧
      w.play cfg handlers permits moves = some v := by
  rw [play] at h
  split at h
  · cases h
  · rename_i ok w hnext
    split at h
    · rename_i hpermits
      exact ⟨ok, w, hnext, hpermits, h⟩
    · cases h

/-- A run that is permitted is also permitted when more is. -/
theorem play_mono
    {permits permits' : Session σ capacity levels → Move → Bool → Session σ capacity levels → Prop}
    [∀ u mv ok v, Decidable (permits u mv ok v)] [∀ u mv ok v, Decidable (permits' u mv ok v)]
    (hpermits : ∀ {u mv ok v}, permits u mv ok v → permits' u mv ok v) {moves : List Move}
    (h : u.play cfg handlers permits moves = some v) :
    u.play cfg handlers permits' moves = some v := by
  induction moves generalizing u with
  | nil => exact h
  | cons mv moves ih =>
    obtain ⟨ok, w, hnext, hpermitted, hplay⟩ := play_cons_eq_some h
    simp only [play, hnext, if_pos (hpermits hpermitted)]
    exact ih hplay

/-! ## What a move is made of -/

/-- What a move of a session has done. -/
inductive Advanced (cfg : Config) (handlers : Handlers σ capacity levels)
    (u : Session σ capacity levels) : Move → Bool → Session σ capacity levels → Prop where
  | call {c : KernelCall} {ok : Bool} {k : Kernel capacity levels} {r : RegisterFile}
    (hcall : (u.machine.kernel.invoke cfg u.machine.hart.regs c).result = .ok (ok, k, r)) :
    Advanced cfg handlers u (.call c) ok
      ⟨{ u.machine with kernel := k, hart := { u.machine.hart with regs := r } }, u.state, u.traps⟩
  | work (hart : Hart) :
    Advanced cfg handlers u (.work hart) true ⟨{ u.machine with hart := hart }, u.state, u.traps⟩
  | enter {cause : TrapCause} {value : Word} {hart : Hart} {context : TrapContext}
    {m : Machine capacity levels}
    (hraise : (u.machine.hart.raise cfg cause value).result = .ok hart)
    (hentry : (({ u.machine with hart := hart } : Machine capacity levels).entry cfg).result =
      .ok (.ok context, m)) :
    Advanced cfg handlers u (.enter cause value) true ⟨m, u.state, context :: u.traps⟩
  | dispatch {context : TrapContext} {ok : Bool} {m : Machine capacity levels} {s : σ}
    (hmem : context ∈ u.traps)
    (hdispatch : (u.machine.dispatch cfg handlers u.state context).result = .ok (.ok (), m, s)) :
    Advanced cfg handlers u (.dispatch context) ok ⟨m, s, u.traps⟩
  | exit {ok : Bool} {m : Machine capacity levels} {s : σ}
    (hexit : (u.machine.exit cfg handlers u.state).result = .ok (.ok (), m, s)) :
    Advanced cfg handlers u .exit ok ⟨m, s, u.traps.tail⟩

theorem proceed_eq_some {mv : Move} {traps : List TrapContext} {ok : Bool}
    (h : u.proceed cfg handlers mv traps = some (ok, v)) :
    (u.machine.move cfg handlers u.state mv).result = .ok (.ok ok, v.machine, v.state) ∧
      v.traps = traps := by
  unfold proceed at h
  split at h
  · rename_i hmove
    cases h
    exact ⟨hmove, rfl⟩
  · cases h

/-- A move of a session is one of these. -/
theorem next_cases {mv : Move} {ok : Bool} (h : u.next cfg handlers mv = some (ok, v)) :
    Advanced cfg handlers u mv ok v := by
  obtain ⟨m, s, traps⟩ := v
  cases mv with
  | call c =>
    rw [next] at h
    obtain ⟨hmove, rfl⟩ := proceed_eq_some h
    cases Machine.move_cases hmove with
    | call hcall => exact .call hcall
  | work hart =>
    rw [next] at h
    obtain ⟨hmove, rfl⟩ := proceed_eq_some h
    cases Machine.move_cases hmove with
    | work => exact .work hart
  | write id index w => cases h
  | writeInterrupt index w => cases h
  | enter cause value =>
    rw [next] at h
    split at h
    · rename_i context m' htake
      cases h
      obtain ⟨hart, hraise, hentry⟩ := Traced.bind_eq_ok.1 htake
      exact .enter hraise hentry
    · cases h
  | dispatch context =>
    rw [next] at h
    split at h
    · rename_i hmem
      obtain ⟨hmove, rfl⟩ := proceed_eq_some h
      cases Machine.move_cases hmove with
      | dispatch hdispatch => exact .dispatch hmem hdispatch
    · cases h
  | exit =>
    rw [next] at h
    obtain ⟨hmove, rfl⟩ := proceed_eq_some h
    cases Machine.move_cases hmove with
    | exit hexit => exact .exit hexit
  | trap cause value => cases h

/-- A trap that is handled from beginning to end is an entry, a dispatch, an exit
and an exception return. -/
theorem exists_play_of_trap {cause : TrapCause} {value : Word} {m : Machine capacity levels} {s : σ}
    (h : (u.machine.trap cfg handlers u.state cause value).result = .ok (.ok (), m, s)) :
    ∃ context hart, u.play cfg handlers (fun _ _ _ _ => True)
      [.enter cause value, .dispatch context, .exit, .work hart] = some ⟨m, s, u.traps⟩ := by
  obtain ⟨hart, context, m₁, m₂, s₂, m₃, hraise, hentry, hdispatch, hexit, rfl⟩ :=
    Machine.trap_cases h
  refine ⟨context, m₃.hart.exceptionReturn cfg, ?_⟩
  have htake : (u.machine.take cfg cause value).result = .ok (.ok context, m₁) := by
    rw [Machine.take, Traced.result_bind, hraise, ok_bind, hentry]
  have hfirst : u.next cfg handlers (.enter cause value) =
      some (true, ⟨m₁, u.state, context :: u.traps⟩) := by
    simp only [next, htake]
  have hsecond : (⟨m₁, u.state, context :: u.traps⟩ : Session σ capacity levels).next cfg handlers
      (.dispatch context) = some (true, ⟨m₂, s₂, context :: u.traps⟩) := by
    simp [next, proceed, Machine.move, hdispatch, Machine.silent, Except.map]
  have hthird : (⟨m₂, s₂, context :: u.traps⟩ : Session σ capacity levels).next cfg handlers .exit =
      some (true, ⟨m₃, s, u.traps⟩) := by
    simp [next, proceed, Machine.move, hexit, Machine.silent, Except.map]
  simp only [play, hfirst, hsecond, hthird]
  rfl

end Session

/-! ## Whose frames a step may touch -/

/-- The calls that need no registers.  Handlers have none at hand. -/
def KernelCall.Plain : KernelCall → Prop
  | .save _ _ | .restore _ | .switch _ _ | .switchTo _ => False
  | _ => True

namespace Kernel

variable {capacity levels : Nat} {k k' : Kernel capacity levels} {cfg : Config}

/-- Calls that need no registers spare all frames. -/
theorem Whole.spares_reaches (h : k.Whole cfg) (hreach : k.Reaches cfg KernelCall.Plain k') :
    k.Spares cfg k' fun _ => True := by
  induction hreach with
  | refl => exact .refl h _
  | @tail k₁ k₂ r r' call ok _ hplain hcall ih =>
    refine ih.trans ((ih.whole.spares_invoke hcall).mono fun a _ _ => ?_)
    cases call <;> first | exact hplain.elim | exact ⟨nofun, nofun⟩

end Kernel

namespace Machine

variable {capacity levels : Nat} {σ : Type} {cfg : Config} {handlers : Handlers σ capacity levels}
variable {m m' : Machine capacity levels} {s s' : σ} {frame : SavedFrame}

/-- Trap entry spares the tasks that it does not interrupt. -/
theorem spares_of_interrupted {k : Kernel capacity levels} (h : m.kernel.Whole cfg)
    (hinterrupted : Interrupted cfg m k frame) :
    m.kernel.Spares cfg k fun a => frame.owner? ≠ some a := by
  cases hinterrupted with
  | handler sp hnested hkernel => exact hkernel ▸ .refl h _
  | idle hnested hsp hrunning hkernel => exact hkernel ▸ .refl h _
  | task id sp hnested hsp hrunning hsave =>
    exact (h.spares_saveContext hsave).1.mono fun a ha hid => ha (congrArg some hid.symm)

/-- Leaving a result in an aligned frame of a task spares the other tasks. -/
theorem spares_of_accessed {k k' : Kernel capacity levels} {pc result : Word}
    (h : k.Whole cfg) (haligned : ∀ id sp, frame = .task id sp → sp.toNat % 16 = 0)
    (haccess : Accessed (answerCall cfg.layouts.interrupted pc result) k k' frame) :
    k.Spares cfg k' fun a => frame.owner? ≠ some a := by
  cases haccess with
  | nested sp hkernel => exact hkernel ▸ .refl h _
  | task id sp t ht hkernel =>
    have hsp := haligned id sp rfl
    have hoffsets : cfg.layouts.interrupted.slotOffset? .pc = some 31 ∧
        cfg.layouts.interrupted.slotOffset? .a0 = some 9 :=
      FrameLayouts.slotOffset?_standard cfg.includeFp
    have hpatched : ∀ {l : FrameLayout} {region : StackRegion} {fsp : Word},
        l.FrameAt region fsp →
          l.FrameAt (answerCall cfg.layouts.interrupted pc result region sp).2 fsp := by
      -- both slots lie at odd distances from an aligned address
      intro l region fsp hframe
      have hfirst := hframe.writeSlot hoffsets.1 (by decide) hsp (pc + 4)
      unfold answerCall
      split
      · rename_i e region' hwrite
        rwa [hwrite] at hfirst
      · rename_i region' hwrite
        rw [hwrite] at hfirst
        exact hfirst.writeSlot hoffsets.2 (by decide) hsp result
    have hspares : k.Spares cfg k' fun a => a ≠ id := by
      rw [hkernel]
      refine h.spares_updateContext (fun _ => rfl) (fun _ => rfl) fun u hu => ?_
      rw [ht] at hu
      cases hu
      exact hpatched (h.framed id t ht)
    exact hspares.mono fun a ha hid => ha (congrArg some hid.symm)

/-- Dispatch spares every task but the caller of an environment call. -/
theorem spares_of_dispatched {cause : TrapCause} (hcalling : handlers.Calling cfg KernelCall.Plain)
    (h : m.kernel.Whole cfg) (haligned : ∀ id sp, frame = .task id sp → sp.toNat % 16 = 0)
    (hdispatched : Dispatched cfg handlers m m' s s' frame cause) :
    m.kernel.Spares cfg m'.kernel fun a =>
      frame.owner? = some a → ∀ code, cause ≠ .environmentCall code := by
  cases hdispatched with
  | software hkernel hs =>
    rw [hkernel]
    exact h.spares_requestDispatch.mono fun _ _ => trivial
  | timer kernel htick hkernel =>
    have hticked := h.spares_advanceTick
    have hcalled := hticked.trans (hticked.whole.spares_reaches (hcalling.tick _ _ _ _ _ htick))
    rw [hkernel]
    exact (hcalled.trans hcalled.whole.spares_requestDispatch).mono fun _ _ => trivial
  | external code hexternal =>
    exact (h.spares_reaches (hcalling.external _ _ _ _ _ hexternal)).mono fun _ _ => trivial
  | environmentCall code number argument pc result served accessed hserve haccess hkernel hs =>
    have hserved : m.kernel.Spares cfg served fun a => frame.owner? ≠ some a :=
      (h.spares_invoke (Kernel.invoke_serve hserve cfg m.hart.regs)).mono
        fun a _ _ => ⟨nofun, nofun⟩
    have haccessed := hserved.trans (spares_of_accessed hserved.whole haligned haccess)
    rw [hkernel]
    refine (haccessed.trans (haccessed.whole.spares_requestDispatch.mono fun _ _ => trivial)).mono
      fun a ha howner => ha howner code rfl

/-- Leaving a trap changes no context. -/
theorem whole_of_exit (h : m.kernel.Whole cfg)
    (hexit : (m.exit cfg handlers s).result = .ok (.ok (), m', s')) :
    m'.kernel.Whole cfg ∧ TaskTable.SameContexts m.kernel.tasks m'.kernel.tasks := by
  obtain ⟨-, ⟨-, hkernel, -⟩ | ⟨-, decision, hdecision, hresumed⟩⟩ := exit_cases hexit
  · rw [hkernel]
    exact ⟨h, .refl _⟩
  · obtain ⟨sch, himpl, hvalid⟩ := h.scheduled
    obtain ⟨himpl', hsame⟩ := himpl.conclude hvalid hdecision (obey_of_resumed hresumed)
    exact ⟨⟨⟨_, himpl', hvalid.conclude⟩, h.framed.of_sameContexts hsame⟩, hsame⟩

end Machine

namespace Session

variable {capacity levels : Nat} {σ : Type} {cfg : Config} {handlers : Handlers σ capacity levels}
variable {u v : Session σ capacity levels}

/-! ## Tidy sessions -/

/-- The kernel is whole, every level of nesting is a trap that was entered, and
the frames that were saved on entry are aligned. -/
structure Tidy (cfg : Config) (u : Session σ capacity levels) : Prop where
  whole : u.machine.kernel.Whole cfg
  depth : u.traps.length = u.machine.nesting
  aligned : ∀ c ∈ u.traps, ∀ id sp, c.frame = .task id sp → sp.toNat % 16 = 0

/-- A session that starts while no trap is being handled. -/
def start (m : Machine capacity levels) (s : σ) : Session σ capacity levels := ⟨m, s, []⟩

theorem tidy_start {interruptStack : StackRegion} {m₀ : Machine capacity levels}
    (h : Machine.initial cfg capacity levels interruptStack = .ok m₀) (s : σ) :
    (start m₀ s).Tidy cfg := by
  obtain ⟨sch, himpl, hvalid, -⟩ := Machine.orderly_initial h
  unfold Machine.initial at h
  obtain ⟨k, hk, h⟩ := bind_eq_ok_iff.1 h
  cases h
  have htasks : k.tasks = #[] := by
    unfold Kernel.initial at hk
    split at hk
    · cases hk
      rfl
    · cases hk
  refine ⟨⟨⟨sch, himpl, hvalid⟩, fun id t ht => ?_⟩, rfl, fun c hc => absurd hc List.not_mem_nil⟩
  rw [Kernel.task?, start, htasks] at ht
  cases ht

/-- A move keeps a session tidy. -/
theorem next_tidy {mv : Move} {ok : Bool} (hcalling : handlers.Calling cfg KernelCall.Plain)
    (h : u.Tidy cfg) (hnext : u.next cfg handlers mv = some (ok, v)) : v.Tidy cfg := by
  cases next_cases hnext with
  | call hcall => exact ⟨(h.whole.spares_invoke hcall).whole, h.depth, h.aligned⟩
  | work hart => exact ⟨h.whole, h.depth, h.aligned⟩
  | @enter cause value hart context m hraise hentry =>
    obtain ⟨-, hinterrupted, hnesting, -⟩ := Machine.entry_cases hentry
    have hwhole : ({ u.machine with hart := hart } : Machine capacity levels).kernel.Whole cfg :=
      h.whole
    refine ⟨(Machine.spares_of_interrupted hwhole hinterrupted).whole, ?_, ?_⟩
    · rw [List.length_cons, h.depth, hnesting]
    · intro c hc id sp hframe
      rcases List.mem_cons.1 hc with rfl | hc
      · obtain ⟨-, -, hsave⟩ := hinterrupted.of_task hframe
        exact (hwhole.spares_saveContext hsave).2.2
      · exact h.aligned c hc id sp hframe
  | @dispatch context ok m s hmem hdispatch =>
    obtain ⟨hdispatched, hnesting, -⟩ := Machine.dispatch_cases hdispatch
    refine ⟨(Machine.spares_of_dispatched hcalling h.whole (h.aligned context hmem)
      hdispatched).whole, ?_, h.aligned⟩
    rw [h.depth, hnesting]
  | @exit ok m s hexit =>
    have hnesting := (Machine.exit_cases hexit).1
    refine ⟨(Machine.whole_of_exit h.whole hexit).1, ?_, fun c hc =>
      h.aligned c (List.mem_of_mem_tail hc)⟩
    rw [List.length_tail, h.depth, hnesting]
    rfl

/-- A session stays tidy, and what each permitted move keeps the whole session keeps. -/
theorem play_induction
    {permits : Session σ capacity levels → Move → Bool → Session σ capacity levels → Prop}
    [∀ u mv ok v, Decidable (permits u mv ok v)] {P : Session σ capacity levels → Prop}
    {moves : List Move} (hcalling : handlers.Calling cfg KernelCall.Plain)
    (hkeep : ∀ {u mv ok v}, u.Tidy cfg → P u → permits u mv ok v →
      u.next cfg handlers mv = some (ok, v) → P v)
    (h : u.Tidy cfg) (hu : P u) (hplay : u.play cfg handlers permits moves = some v) :
    v.Tidy cfg ∧ P v := by
  induction moves generalizing u with
  | nil =>
    cases hplay
    exact ⟨h, hu⟩
  | cons mv moves ih =>
    obtain ⟨ok, w, hnext, hpermitted, hplay⟩ := play_cons_eq_some hplay
    exact ih (next_tidy hcalling h hnext) (hkeep h hu hpermitted hnext) hplay

/-- Every session is tidy. -/
theorem play_tidy
    {permits : Session σ capacity levels → Move → Bool → Session σ capacity levels → Prop}
    [∀ u mv ok v, Decidable (permits u mv ok v)] {moves : List Move}
    (hcalling : handlers.Calling cfg KernelCall.Plain) (h : u.Tidy cfg)
    (hplay : u.play cfg handlers permits moves = some v) : v.Tidy cfg :=
  (play_induction (P := fun _ => True) hcalling (fun _ _ _ _ => trivial) h trivial hplay).1

end Session

end HartKernel
