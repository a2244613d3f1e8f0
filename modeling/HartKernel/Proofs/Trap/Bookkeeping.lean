import HartKernel.Proofs.Trap.Capacity
import HartKernel.Proofs.Trap.DataIndependence

/-!
# The books of the trap handler

Three phases keep the counters, the nesting level and the tick counter, each with
branches of its own for nested and outermost traps.  Every phase enters one event in
these books, so whatever happens in between they agree with the events so far.

Main definitions:

- `TrapEvent` lists the events, and `TrapEvent.depths` the nesting levels so far.
- `Ledger` is what the books say, and `Ledger.post` enters an event.
- `Machine.ledger` reads the books of a machine.
- `Machine.Booked` says that a system can be in a state after some events.

Main results:

- `Ledger.Balanced.post`: an event keeps the books balanced.
- `Machine.ledger_entry`, `Machine.ledger_dispatch` and `Machine.ledger_exit`: each
  phase enters one event.
- `Machine.Booked.play`: the moves of a run are booked.
- `Machine.Booked.balance`: the books always balance.
-/

namespace HartKernel

/-! ## Events -/

/-- The classes that traps are counted by. -/
inductive TrapClass where
  | software | timer | external | environmentCall | exception
deriving DecidableEq, Repr

/-- The class of a cause. -/
def TrapCause.trapClass : TrapCause → TrapClass
  | .software => .software
  | .timer => .timer
  | .external _ => .external
  | .environmentCall _ => .environmentCall
  | .exception _ => .exception

theorem TrapCause.trapClass_eq_timer_iff {cause : TrapCause} :
    cause.trapClass = .timer ↔ cause = .timer := by
  cases cause <;> simp [trapClass]

/-- What is entered in the books: a trap was entered, dispatched or left. -/
inductive TrapEvent where
  | entered
  | dispatched (c : TrapClass)
  | left
deriving DecidableEq, Repr

namespace TrapEvent

variable {log : List TrapEvent}

/-- The event is a dispatch. -/
def isDispatch : TrapEvent → Bool
  | .dispatched _ => true
  | .entered | .left => false

/-- The nesting levels that there were, of events newest first: at any time the entries
less the exits so far. -/
def depths (log : List TrapEvent) : Set Nat :=
  {d | ∃ earlier, earlier <:+ log ∧ d + earlier.count .left = earlier.count .entered}

theorem mem_depths {d : Nat} (h : d + log.count .left = log.count .entered) : d ∈ depths log :=
  ⟨log, List.suffix_refl log, h⟩

theorem depths_nil : depths [] = {0} := by
  ext d
  constructor
  · rintro ⟨earlier, hsuffix, hd⟩
    rw [List.suffix_nil.1 hsuffix] at hd
    exact hd
  · rintro rfl
    exact mem_depths rfl

theorem depths_cons {e : TrapEvent} {d : Nat}
    (h : d + (e :: log).count .left = (e :: log).count .entered) :
    depths (e :: log) = insert d (depths log) := by
  ext d'
  constructor
  · rintro ⟨earlier, hsuffix, hd'⟩
    rcases List.suffix_cons_iff.1 hsuffix with rfl | hsuffix
    · exact .inl (Nat.add_right_cancel (hd'.trans h.symm))
    · exact .inr ⟨earlier, hsuffix, hd'⟩
  · rintro (rfl | ⟨earlier, hsuffix, hd'⟩)
    · exact mem_depths h
    · exact ⟨earlier, hsuffix.trans (List.suffix_cons e log), hd'⟩

end TrapEvent

/-- The events of a move, newest first. -/
def Move.events : Move → List TrapEvent
  | .enter _ _ => [.entered]
  | .dispatch context => [.dispatched context.cause.trapClass]
  | .exit => [.left]
  | .trap cause _ => [.left, .dispatched cause.trapClass, .entered]
  | .call _ | .work _ | .write .. | .writeInterrupt .. => []

/-! ## Ledgers -/

namespace TrapStats

variable {s : TrapStats} {c d : TrapClass}

/-- The counter of a class. -/
def handled (s : TrapStats) : TrapClass → Nat
  | .software => s.softwareInterrupts
  | .timer => s.timerInterrupts
  | .external => s.externalInterrupts
  | .environmentCall => s.environmentCalls
  | .exception => s.exceptions

/-- Count a trap of a class. -/
def count (s : TrapStats) : TrapClass → TrapStats
  | .software => { s with softwareInterrupts := s.softwareInterrupts + 1 }
  | .timer => { s with timerInterrupts := s.timerInterrupts + 1 }
  | .external => { s with externalInterrupts := s.externalInterrupts + 1 }
  | .environmentCall => { s with environmentCalls := s.environmentCalls + 1 }
  | .exception => { s with exceptions := s.exceptions + 1 }

/-- The counters of all classes together. -/
def total (s : TrapStats) : Nat :=
  s.softwareInterrupts + s.timerInterrupts + s.externalInterrupts + s.environmentCalls +
    s.exceptions

theorem handled_count (s : TrapStats) (c d : TrapClass) :
    (s.count c).handled d = s.handled d + if c = d then 1 else 0 := by
  cases c <;> cases d <;> rfl

theorem total_count (s : TrapStats) (c : TrapClass) : (s.count c).total = s.total + 1 := by
  cases c <;> simp only [count, total] <;> omega

@[simp] theorem stackSwitchesIn_count : (s.count c).stackSwitchesIn = s.stackSwitchesIn := by
  cases c <;> rfl

@[simp] theorem stackSwitchesOut_count : (s.count c).stackSwitchesOut = s.stackSwitchesOut := by
  cases c <;> rfl

@[simp] theorem maxNesting_count : (s.count c).maxNesting = s.maxNesting := by
  cases c <;> rfl

end TrapStats

/-- What the books of a machine say. -/
@[ext] structure Ledger where
  /-- How many traps are being handled. -/
  nesting : Nat
  /-- The counters. -/
  stats : TrapStats
  /-- The tick counter of the kernel. -/
  tick : Word
  /-- What the tick handler was called with. -/
  ticks : List Word

namespace Ledger

/-- Enter an event. -/
def post (l : Ledger) : TrapEvent → Ledger
  | .entered => { l with
      nesting := l.nesting + 1
      stats := { l.stats with
        stackSwitchesIn := l.stats.stackSwitchesIn + if l.nesting = 0 then 1 else 0
        maxNesting := max l.stats.maxNesting (l.nesting + 1) } }
  | .dispatched c => { l with
      stats := l.stats.count c
      tick := if c = .timer then l.tick + 1 else l.tick
      ticks := if c = .timer then l.ticks ++ [l.tick + 1] else l.ticks }
  | .left => { l with
      nesting := l.nesting - 1
      stats := { l.stats with
        stackSwitchesOut := l.stats.stackSwitchesOut + if l.nesting = 1 then 1 else 0 } }

/-- The books agree with each other and with the events so far, newest first. -/
structure Balanced (log : List TrapEvent) (l : Ledger) : Prop where
  switches : l.stats.stackSwitchesIn = l.stats.stackSwitchesOut + if 0 < l.nesting then 1 else 0
  nesting : l.nesting + log.count .left = log.count .entered
  peak : IsGreatest (TrapEvent.depths log) l.stats.maxNesting
  handled : ∀ c, l.stats.handled c = log.count (.dispatched c)
  total : l.stats.total = log.countP TrapEvent.isDispatch
  tick : l.tick = BitVec.ofNat 64 l.stats.timerInterrupts
  ticks : l.ticks = (List.range l.stats.timerInterrupts).map fun n => BitVec.ofNat 64 (n + 1)

/-- The books of a machine that has not done anything yet. -/
def opening : Ledger := ⟨0, {}, 0, []⟩

variable {log : List TrapEvent} {l : Ledger} {e : TrapEvent}

theorem balanced_opening : opening.Balanced [] where
  switches := rfl
  nesting := rfl
  peak := TrapEvent.depths_nil ▸ isGreatest_singleton
  handled c := by cases c <;> rfl
  total := rfl
  tick := rfl
  ticks := rfl

namespace Balanced

theorem nesting_le (h : l.Balanced log) : l.nesting ≤ l.stats.maxNesting :=
  h.peak.2 (TrapEvent.mem_depths h.nesting)

theorem switches_post (h : l.Balanced log) (hleft : e = .left → 0 < l.nesting) :
    (l.post e).stats.stackSwitchesIn =
      (l.post e).stats.stackSwitchesOut + if 0 < (l.post e).nesting then 1 else 0 := by
  cases e with
  | entered =>
    rcases Nat.eq_zero_or_pos l.nesting with hzero | hpos
    · simp [post, h.switches, hzero]
    · simp [post, h.switches, hpos, hpos.ne']
  | dispatched c => simpa [post] using h.switches
  | left =>
    have hpos := hleft rfl
    have hswitches := h.switches
    rw [if_pos hpos] at hswitches
    by_cases hone : l.nesting = 1
    · have houtermost : ¬0 < l.nesting - 1 := by omega
      simp only [post, hswitches, if_pos hone, if_neg houtermost, Nat.add_zero]
    · have hinner : 0 < l.nesting - 1 := by omega
      simp only [post, hswitches, if_neg hone, if_pos hinner, Nat.add_zero]

theorem nesting_post (h : l.Balanced log) (hleft : e = .left → 0 < l.nesting) :
    (l.post e).nesting + (e :: log).count .left = (e :: log).count .entered := by
  have hnesting := h.nesting
  cases e with
  | entered =>
    rw [List.count_cons_self, List.count_cons_of_ne TrapEvent.noConfusion, ← hnesting]
    exact Nat.add_right_comm _ _ _
  | dispatched c =>
    rw [List.count_cons_of_ne TrapEvent.noConfusion, List.count_cons_of_ne TrapEvent.noConfusion]
    exact hnesting
  | left =>
    have hpos := hleft rfl
    rw [List.count_cons_self, List.count_cons_of_ne TrapEvent.noConfusion]
    dsimp only [post]
    omega

/-- No event but an entry leads above the greatest level. -/
theorem maxNesting_post (h : l.Balanced log) (e : TrapEvent) :
    (l.post e).stats.maxNesting = max l.stats.maxNesting (l.post e).nesting := by
  have hle := h.nesting_le
  cases e with
  | entered => rfl
  | dispatched c => simp [post, hle]
  | left => exact (Nat.max_eq_left (Nat.le_trans (Nat.sub_le _ _) hle)).symm

theorem handled_post (h : l.Balanced log) (c : TrapClass) :
    (l.post e).stats.handled c = (e :: log).count (.dispatched c) := by
  rw [List.count_cons, ← h.handled c]
  cases e with
  | entered => cases c <;> rfl
  | dispatched d => simp [post, TrapStats.handled_count]
  | left => cases c <;> rfl

theorem total_post (h : l.Balanced log) :
    (l.post e).stats.total = (e :: log).countP TrapEvent.isDispatch := by
  cases e with
  | entered => exact h.total
  | dispatched c =>
    rw [List.countP_cons_of_pos rfl, ← h.total]
    exact TrapStats.total_count _ _
  | left => exact h.total

/-- The tick counter and the calls of the tick handler follow the counter of timer
interrupts. -/
theorem ticks_post (h : l.Balanced log) :
    (l.post e).tick = BitVec.ofNat 64 (l.post e).stats.timerInterrupts ∧
      (l.post e).ticks = (List.range (l.post e).stats.timerInterrupts).map
        fun n => BitVec.ofNat 64 (n + 1) := by
  cases e with
  | entered | left => exact ⟨h.tick, h.ticks⟩
  | dispatched c =>
    by_cases hc : c = .timer
    · subst hc
      have hnext : l.tick + 1 = BitVec.ofNat 64 (l.stats.timerInterrupts + 1) := by
        rw [h.tick, BitVec.ofNat_add]
        rfl
      refine ⟨hnext, ?_⟩
      change l.ticks ++ [l.tick + 1] = _
      rw [hnext, h.ticks]
      exact (List.range_succ ▸ List.map_append).symm
    · have hcounter : (l.stats.count c).timerInterrupts = l.stats.timerInterrupts := by
        cases c <;> first | rfl | exact absurd rfl hc
      simp only [post, if_neg hc, hcounter]
      exact ⟨h.tick, h.ticks⟩

/-- An event keeps the books balanced, if only a trap that was entered is left. -/
theorem post (h : l.Balanced log) (hleft : e = .left → 0 < l.nesting) :
    (l.post e).Balanced (e :: log) where
  switches := h.switches_post hleft
  nesting := h.nesting_post hleft
  peak := by
    rw [TrapEvent.depths_cons (h.nesting_post hleft), h.maxNesting_post, max_comm]
    exact h.peak.insert _
  handled := h.handled_post
  total := h.total_post
  tick := h.ticks_post.1
  ticks := h.ticks_post.2

end Balanced

end Ledger

/-! ## Ticks -/

/-- What the tick handler was called with. -/
def HookCall.ticks (hooks : List HookCall) : List Word :=
  hooks.filterMap fun
    | .tick count => some count
    | .external _ | .idle => none

theorem HookCall.ticks_append (hooks hooks' : List HookCall) :
    ticks (hooks ++ hooks') = ticks hooks ++ ticks hooks' :=
  List.filterMap_append

namespace Kernel.Sound

variable {capacity levels : Nat} {k k' : Kernel capacity levels} {cfg : Config}

theorem follows {placed : List (Option TaskId)} (h : k.Sound) (hfollows : k.Follows placed k') :
    k'.Sound := by
  obtain ⟨s, himpl, hv⟩ := sound_iff.1 h
  obtain ⟨s', himpl', hv', -⟩ := hfollows s himpl hv
  exact sound_iff.2 ⟨s', himpl', hv'⟩

theorem tick_invoke (h : k.Sound) {r r' : RegisterFile} {call : KernelCall} {ok : Bool}
    (hother : call ≠ .advanceTick) (hcall : (k.invoke cfg r call).result = .ok (ok, k', r')) :
    k'.tick = k.tick := by
  obtain ⟨s, himpl, hv⟩ := sound_iff.1 h
  obtain ⟨ok₁, k₁, r₁, s', hresult, himpl', hstep, -⟩ := himpl.invoke hv cfg r call
  cases hcall.symm.trans hresult
  rw [← himpl'.tick, hstep.tick_eq hother, himpl.tick]

theorem tick_reaches (h : k.Sound) (hreach : k.Reaches cfg (· ≠ .advanceTick) k') :
    k'.Sound ∧ k'.tick = k.tick := by
  induction hreach with
  | refl => exact ⟨h, rfl⟩
  | tail _ hother hcall ih =>
    obtain ⟨hsound, htick⟩ := ih
    exact ⟨hsound.follows (follows_invoke hcall), (hsound.tick_invoke hother hcall).trans htick⟩

end Kernel.Sound

/-! ## The books of a machine -/

namespace Machine

variable {capacity levels : Nat} {σ : Type} {cfg : Config} {handlers : Handlers σ capacity levels}
variable {m m' : Machine capacity levels} {s s' : σ × List HookCall} {hooks : List HookCall}
variable {context : TrapContext} {frame : SavedFrame} {cause : TrapCause}
variable {log : List TrapEvent}

/-- Read the books, if the handlers were called for given things. -/
def ledger (m : Machine capacity levels) (hooks : List HookCall) : Ledger where
  nesting := m.nesting
  stats := m.stats
  tick := m.kernel.tick
  ticks := HookCall.ticks hooks

/-- Entering a trap is entered in the books. -/
theorem ledger_entry (h : (m.entry cfg).result = .ok (.ok context, m')) :
    m'.ledger hooks = (m.ledger hooks).post .entered := by
  cases enters_of_entry h with
  | entered hsaves hinstalls =>
    have htick := hsaves.undisturbed.schedule.tick
    have hnesting := hsaves.nesting
    have hstats := hsaves.stats
    cases hinstalls with
    | nested hnested =>
      have hne : m.nesting ≠ 0 := hnesting ▸ hnested.ne'
      refine Ledger.ext (congrArg (· + 1) hnesting) ?_ htick rfl
      simp [ledger, deepen, Ledger.post, hnesting, hstats, hne]
    | outermost slot stack hzero hslot hwrite =>
      have hnone : m.nesting = 0 := hnesting ▸ hzero
      refine Ledger.ext (congrArg (· + 1) hnesting) ?_ htick rfl
      simp [ledger, deepen, updateStats, setSp, Ledger.post, hnesting, hstats, hnone]

/-! ### Dispatch -/

theorem stats_withFrame {α : Type} (m : Machine capacity levels) (frame : SavedFrame)
    (f : StackRegion → Word → Except FrameError α × StackRegion) :
    (m.withFrame frame f).2.stats = m.stats := by
  cases frame with
  | idle | nested sp => rfl
  | task id sp =>
    simp only [withFrame]
    cases m.kernel.task? id <;> rfl

theorem stats_environmentCall {answer : Except FrameError Unit}
    (h : (m.environmentCall cfg frame).result = .ok (answer, m')) : m'.stats = m.stats := by
  have hread := m.withFrame_read frame (readCall cfg.layouts.interrupted)
  unfold environmentCall at h
  dsimp only at h
  split at h
  · rename_i e m₁ hcall
    cases h
    rw [hcall] at hread
    exact congrArg stats hread
  · rename_i call m₁ hcall
    rw [hcall] at hread
    obtain ⟨⟨result, kernel⟩, -, h⟩ := Traced.bind_eq_ok.1 h
    have hm : m' = (({ m₁ with kernel := kernel } : Machine capacity levels).withFrame frame
      (answerCall cfg.layouts.interrupted call.pc result.toRegister)).2 :=
      congrArg Prod.snd (Except.ok.inj h).symm
    have hm₁ : m₁ = m := hread
    rw [hm, stats_withFrame, hm₁]

/-- Dispatch counts the trap by its class, also if it is refused. -/
theorem stats_dispatch {σ : Type} {handlers : Handlers σ capacity levels} {s s' : σ}
    {answer : Except FatalTrap Unit}
    (h : (m.dispatch cfg handlers s context).result = .ok (answer, m', s')) :
    m'.stats = m.stats.count context.cause.trapClass := by
  obtain ⟨cause, frame⟩ := context
  cases cause with
  | software | exception code =>
    cases h
    rfl
  | timer | external code =>
    obtain ⟨⟨kernel, s₁⟩, -, h⟩ := Traced.bind_eq_ok.1 h
    cases h
    rfl
  | environmentCall code =>
    obtain ⟨⟨answered, m₁⟩, hcall, h⟩ := Traced.bind_eq_ok.1 h
    have hstats := stats_environmentCall hcall
    cases answered <;> cases h <;> exact hstats

/-- A timer interrupt counts a tick and calls the tick handler with the new count.
Nothing else does, if handlers do not count ticks. -/
theorem ticks_of_dispatched (hcalling : handlers.Calling cfg (· ≠ .advanceTick))
    (hsound : m.kernel.Sound) (h : Dispatched cfg handlers.logged m m' s s' frame cause) :
    m'.kernel.tick = (if cause.trapClass = .timer then m.kernel.tick + 1 else m.kernel.tick) ∧
      HookCall.ticks s'.2 =
        if cause.trapClass = .timer then HookCall.ticks s.2 ++ [m.kernel.tick + 1]
        else HookCall.ticks s.2 := by
  cases h with
  | software hkernel hs => exact ⟨hkernel ▸ rfl, hs ▸ rfl⟩
  | timer kernel htick hkernel =>
    have hreach := hcalling.logged.tick _ _ _ _ _ htick
    have hcounted : m.kernel.advanceTick.Sound := by
      obtain ⟨sch, himpl, hv⟩ := Kernel.sound_iff.1 hsound
      exact Kernel.sound_iff.2 ⟨_, himpl.advanceTick, hv.advanceTick⟩
    refine ⟨?_, ?_⟩
    · rw [hkernel]
      exact (hcounted.tick_reaches hreach).2
    · rw [Handlers.hooks_of_tick htick, HookCall.ticks_append]
      rfl
  | external code hexternal =>
    have hreach := hcalling.logged.external _ _ _ _ _ hexternal
    refine ⟨(hsound.tick_reaches hreach).2, ?_⟩
    rw [Handlers.hooks_of_external hexternal, HookCall.ticks_append]
    exact List.append_nil _
  | environmentCall code number argument pc result served accessed hserve haccess hkernel hs =>
    have hserved := hsound.tick_invoke KernelCall.noConfusion
      (Kernel.invoke_serve hserve cfg m.hart.regs)
    refine ⟨?_, hs ▸ rfl⟩
    rw [hkernel]
    cases haccess with
    | nested sp hsame => exact (congrArg Kernel.tick hsame).trans hserved
    | task id sp t ht hsame => exact (congrArg Kernel.tick hsame).trans hserved

/-- Dispatching a trap is entered in the books, also if it is refused. -/
theorem ledger_dispatch (hcalling : handlers.Calling cfg (· ≠ .advanceTick))
    (hsound : m.kernel.Sound) {answer : Except FatalTrap Unit}
    (h : (m.dispatch cfg handlers.logged s context).result = .ok (answer, m', s')) :
    m'.ledger s'.2 = (m.ledger s.2).post (.dispatched context.cause.trapClass) := by
  have hnesting := (samePlace_dispatch h).2
  have hstats := stats_dispatch h
  cases answer with
  | ok u =>
    obtain ⟨htick, hhooks⟩ := ticks_of_dispatched hcalling hsound (dispatch_cases h).1
    exact Ledger.ext hnesting hstats htick hhooks
  | error d =>
    obtain ⟨hkernel, -, -, rfl, hother⟩ := dispatch_refused (Kernel.sound_iff.1 hsound) h
    have hclass := mt TrapCause.trapClass_eq_timer_iff.1 hother
    refine Ledger.ext hnesting hstats ?_ (if_neg hclass).symm
    exact (congrArg Kernel.tick hkernel).trans (if_neg hclass).symm

/-! ### Exit -/

theorem ticks_of_exit (hsound : m.kernel.Sound)
    (h : (m.exit cfg handlers.logged s).result = .ok (.ok (), m', s')) :
    m'.kernel.tick = m.kernel.tick ∧ HookCall.ticks s'.2 = HookCall.ticks s.2 := by
  obtain ⟨-, ⟨-, hkernel, -, rfl⟩ | ⟨-, decision, hdecision, hresumed⟩⟩ := exit_cases h
  · exact ⟨congrArg Kernel.tick hkernel, rfl⟩
  · obtain ⟨sch, himpl, hv⟩ := Kernel.sound_iff.1 hsound
    obtain ⟨himpl', -⟩ := himpl.conclude hv hdecision (obey_of_resumed hresumed)
    refine ⟨by rw [← himpl'.tick, sch.tick_conclude, himpl.tick], ?_⟩
    rw [hooks_of_resumed hresumed, HookCall.ticks_append]
    split <;> exact List.append_nil _

/-- Leaving a trap is entered in the books. -/
theorem ledger_exit (hsound : m.kernel.Sound)
    (h : (m.exit cfg handlers.logged s).result = .ok (.ok (), m', s')) :
    0 < m.nesting ∧ m'.ledger s'.2 = (m.ledger s.2).post .left := by
  obtain ⟨htick, hhooks⟩ := ticks_of_exit hsound h
  cases exits_of_exit h with
  | nested sp r hnesting hload =>
    refine ⟨Nat.zero_lt_of_lt hnesting, Ledger.ext rfl ?_ rfl rfl⟩
    simp [ledger, outward, setSp, Ledger.post, hnesting.ne']
  | @outermost m₁ m' s' decision answer hnesting hleaves hdecision hacts =>
    refine ⟨hnesting ▸ Nat.one_pos, ?_⟩
    have hdepth : m'.nesting = m.nesting - 1 := hacts.nesting.trans hleaves.nesting
    have hstats : m'.stats = m₁.stats := hacts.stats
    have hout : m₁.stats =
        { m.stats with stackSwitchesOut := m.stats.stackSwitchesOut + 1 } := by
      cases hleaves with
      | left background hslot hread => rfl
    refine Ledger.ext hdepth ?_ htick hhooks
    simp [ledger, Ledger.post, hnesting, hstats, hout]

/-! ## All states -/

/-- The states that a system can be in after some events, newest first.  Whoever holds
the hart may change it, for instance take a trap or return from one, may write to any
stack and call the kernel for anything but a tick.  Traps are entered, dispatched and left
in any order.  An entry and a dispatch may also be refused. -/
inductive Booked (cfg : Config) (handlers : Handlers σ capacity levels) :
    List TrapEvent → Machine capacity levels → σ × List HookCall → Prop where
  | initial {interruptStack : StackRegion} {m : Machine capacity levels} (s : σ)
    (hinitial : initial cfg capacity levels interruptStack = .ok m) :
    Booked cfg handlers [] m (s, [])
  | call {log : List TrapEvent} {m : Machine capacity levels} {s : σ × List HookCall}
    {r r' : RegisterFile} {c : KernelCall} {ok : Bool} {k : Kernel capacity levels}
    (h : Booked cfg handlers log m s) (hother : c ≠ .advanceTick)
    (hcall : (m.kernel.invoke cfg r c).result = .ok (ok, k, r')) :
    Booked cfg handlers log { m with kernel := k } s
  | work {log : List TrapEvent} {m : Machine capacity levels} {s : σ × List HookCall}
    (h : Booked cfg handlers log m s) (hart : Hart) :
    Booked cfg handlers log { m with hart := hart } s
  | write {log : List TrapEvent} {m : Machine capacity levels} {s : σ × List HookCall}
    (h : Booked cfg handlers log m s) (id : TaskId) (index : Nat) (v : Word) :
    Booked cfg handlers log { m with kernel := m.kernel.updateTask id fun t =>
      { t with stack := t.stack.put index v } } s
  | writeInterrupt {log : List TrapEvent} {m : Machine capacity levels}
    {s : σ × List HookCall} (h : Booked cfg handlers log m s) (index : Nat) (v : Word) :
    Booked cfg handlers log { m with interruptStack := m.interruptStack.put index v } s
  | enter {log : List TrapEvent} {m m' : Machine capacity levels} {s : σ × List HookCall}
    {context : TrapContext} (h : Booked cfg handlers log m s)
    (hentry : (m.entry cfg).result = .ok (.ok context, m')) :
    Booked cfg handlers (.entered :: log) m' s
  | refused {log : List TrapEvent} {m m' : Machine capacity levels} {s : σ × List HookCall}
    {d : FatalTrap} (h : Booked cfg handlers log m s)
    (hentry : (m.entry cfg).result = .ok (.error d, m')) : Booked cfg handlers log m' s
  | dispatch {log : List TrapEvent} {m m' : Machine capacity levels}
    {s s' : σ × List HookCall} {context : TrapContext} {answer : Except FatalTrap Unit}
    (h : Booked cfg handlers log m s)
    (hdispatch : (m.dispatch cfg handlers.logged s context).result = .ok (answer, m', s')) :
    Booked cfg handlers (.dispatched context.cause.trapClass :: log) m' s'
  | exit {log : List TrapEvent} {m m' : Machine capacity levels} {s s' : σ × List HookCall}
    (h : Booked cfg handlers log m s)
    (hexit : (m.exit cfg handlers.logged s).result = .ok (.ok (), m', s')) :
    Booked cfg handlers (.left :: log) m' s'

namespace Booked

/-- The kernel meets its invariant at any time, if handlers make calls only. -/
theorem sound {allowed : KernelCall → Prop} (hcalling : handlers.Calling cfg allowed)
    (h : Booked cfg handlers log m s) : m.kernel.Sound := by
  induction h with
  | initial s hinitial =>
    exact Kernel.sound_iff.2 ⟨_, implements_initial hinitial, Schedule.valid_initial⟩
  | call _ _ hcall ih => exact ih.follows (Kernel.follows_invoke hcall)
  | work | writeInterrupt => assumption
  | write _ id index v ih =>
    exact ih.follows (Kernel.follows_setStack id fun t => t.stack.put index v)
  | enter _ hentry ih | refused _ hentry ih => exact ih.follows (follows_entry hentry)
  | @dispatch log m m' s s' context answer _ hdispatch ih =>
    cases answer with
    | ok u =>
      obtain ⟨placed, hcalls⟩ :=
        exists_calls_of_dispatched hcalling.logged (dispatch_cases hdispatch).1
      exact ih.follows hcalls.follows
    | error d => exact (dispatch_refused (Kernel.sound_iff.1 ih) hdispatch).1 ▸ ih
  | exit _ hexit ih => exact ih.follows (follows_exit hexit)

/-- Each event is entered in the books, so they stay balanced. -/
theorem balanced (hcalling : handlers.Calling cfg (· ≠ .advanceTick))
    (h : Booked cfg handlers log m s) : (m.ledger s.2).Balanced log := by
  induction h with
  | @initial interruptStack m s hinitial =>
    have hledger : m.ledger [] = .opening := by
      obtain ⟨k, hkernel, hinitial⟩ := bind_eq_ok_iff.1 hinitial
      cases hinitial
      exact Ledger.ext rfl rfl (Kernel.implements_of_initial hkernel).tick.symm rfl
    exact hledger ▸ Ledger.balanced_opening
  | @call log m s r r' c ok k h hother hcall ih =>
    have htick := (h.sound hcalling).tick_invoke hother hcall
    have hledger : ({ m with kernel := k } : Machine capacity levels).ledger s.2 = m.ledger s.2 :=
      Ledger.ext rfl rfl htick rfl
    exact hledger ▸ ih
  | work _ hart ih => exact ih
  | write _ id index v ih => exact ih
  | writeInterrupt _ index v ih => exact ih
  | enter _ hentry ih =>
    rw [ledger_entry hentry]
    exact ih.post nofun
  | @refused log m m' s d _ hentry ih =>
    obtain ⟨hnesting, hstats, -, -, hkernel⟩ := unchanged_of_entry_error hentry
    have hledger : m'.ledger s.2 = m.ledger s.2 :=
      Ledger.ext hnesting hstats hkernel.schedule.tick rfl
    exact hledger ▸ ih
  | dispatch h hdispatch ih =>
    rw [ledger_dispatch hcalling (h.sound hcalling) hdispatch]
    exact ih.post nofun
  | exit h hexit ih =>
    obtain ⟨hpos, hledger⟩ := ledger_exit (h.sound hcalling) hexit
    rw [hledger]
    exact ih.post fun _ => hpos

/-- A move that goes well is booked. -/
theorem move (h : Booked cfg handlers log m s) {mv : Move} {ok : Bool}
    (hother : mv ≠ .call .advanceTick)
    (hmove : (m.move cfg handlers.logged s mv).result = .ok (.ok ok, m', s')) :
    Booked cfg handlers (mv.events ++ log) m' s' := by
  cases move_cases hmove with
  | call hcall => exact (h.call (fun hc => hother (congrArg Move.call hc)) hcall).work _
  | work hart => exact h.work hart
  | write id index v => exact h.write id index v
  | writeInterrupt index v => exact h.writeInterrupt index v
  | enter hraise hentry => exact (h.work _).enter hentry
  | dispatch hdispatch => exact h.dispatch hdispatch
  | exit hexit => exact h.exit hexit
  | trap htrap =>
    obtain ⟨hart, context, m₁, m₂, s₂, m₃, hraise, hentry, hdispatch, hexit, rfl⟩ :=
      trap_cases htrap
    have hcause : context.cause = _ := (entry_cases hentry).1.trans (Hart.decode_raise hraise)
    subst hcause
    exact ((((h.work hart).enter hentry).dispatch hdispatch).exit hexit).work _

/-- The moves of a run that goes well are booked. -/
theorem play (h : Booked cfg handlers log m s) {moves : List Move}
    (hother : ∀ mv ∈ moves, mv ≠ .call .advanceTick)
    (hplay : (m.play cfg handlers.logged s moves).result = .ok (.ok (), m', s')) :
    Booked cfg handlers (moves.reverse.flatMap Move.events ++ log) m' s' := by
  have hbooked := play_induction
    (P := fun done m s => Booked cfg handlers (done.flatMap Move.events ++ log) m s) [] ?_ h hplay
  · rwa [List.append_nil] at hbooked
  · intro done mv m s ok m' s' hmem h hmove
    rw [List.flatMap_cons, List.append_assoc]
    exact h.move (hother mv hmem) hmove

/-- The books of the trap handler balance at any time.  Take any sequence of steps: traps
are taken, entered, dispatched, left and returned from in any order and at any nesting
level, and in between the kernel is called for anything but a tick, also by the
handlers.  The interrupt stack was installed as often as it was left, and once more
while a trap is being handled.  The nesting level is the number of entries less the
number of exits, and the greatest level on record is the greatest that there was.  The
counter of each class is the number of its dispatches, and all of them together count
the dispatches.  The tick counter is the number of timer interrupts as a word, and the
tick handler was called with 1, 2 and so on up to this number, in this order. -/
theorem balance (hcalling : handlers.Calling cfg (· ≠ .advanceTick))
    (h : Booked cfg handlers log m s) :
    m.stats.stackSwitchesIn = m.stats.stackSwitchesOut + (if 0 < m.nesting then 1 else 0) ∧
      m.nesting + log.count .left = log.count .entered ∧
      IsGreatest (TrapEvent.depths log) m.stats.maxNesting ∧
      (∀ c, m.stats.handled c = log.count (.dispatched c)) ∧
      m.stats.total = log.countP TrapEvent.isDispatch ∧
      m.kernel.tick = BitVec.ofNat 64 m.stats.timerInterrupts ∧
      HookCall.ticks s.2 =
        (List.range m.stats.timerInterrupts).map fun n => BitVec.ofNat 64 (n + 1) := by
  have hbalanced := h.balanced hcalling
  exact ⟨hbalanced.switches, hbalanced.nesting, hbalanced.peak, hbalanced.handled,
    hbalanced.total, hbalanced.tick, hbalanced.ticks⟩

/-- A timer interrupt interrupts the handler of another one and is left again. -/
theorem balance_nested :
    ∃ (m : Machine 4 4) (s : Unit × List HookCall) (log : List TrapEvent),
      (Handlers.default : Handlers Unit 4 4).Calling (Config.machine false) (· ≠ .advanceTick) ∧
      log = [.left, .dispatched .timer, .entered, .dispatched .timer, .entered] ∧
      Booked (Config.machine false) Handlers.default log m s ∧ m.nesting = 1 ∧
      m.stats.stackSwitchesIn = m.stats.stackSwitchesOut + 1 ∧
      IsGreatest (TrapEvent.depths log) m.stats.maxNesting ∧ m.stats.maxNesting = 2 ∧
      m.stats.timerInterrupts = 2 ∧ m.stats.total = 2 ∧ m.kernel.tick = 2 ∧
      HookCall.ticks s.2 = [1, 2] := by
  obtain ⟨⟨m, s⟩, hplay, hm⟩ := exists_of_returns
    (x := small.play (Config.machine false) (Handlers.default : Handlers Unit 4 4).logged ((), [])
      [.enter .timer 0, .dispatch ⟨.timer, .idle⟩, .enter .timer 0,
        .dispatch ⟨.timer, .nested 0x400000e0⟩, .exit])
    (p := fun b => decide (b.1.nesting = 1 ∧ b.1.stats.maxNesting = 2)) (by decide +kernel)
  obtain ⟨hnesting, hmax⟩ := of_decide_eq_true hm
  have hcalling : (Handlers.default : Handlers Unit 4 4).Calling (Config.machine false)
      (· ≠ .advanceTick) := Handlers.calling_default _ _
  have hbooked := (Booked.initial () initial_small).play (by simp) hplay
  obtain ⟨hswitches, -, hpeak, hhandled, htotal, htick, hticks⟩ := balance hcalling hbooked
  have htimer : m.stats.timerInterrupts = 2 := hhandled .timer
  rw [hnesting] at hswitches
  rw [htimer] at htick hticks
  exact ⟨m, s, _, hcalling, rfl, hbooked, hnesting, hswitches, hpeak, hmax, htimer, htotal, htick,
    hticks⟩

end Booked

end Machine

end HartKernel
