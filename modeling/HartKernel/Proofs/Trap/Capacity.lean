import HartKernel.Proofs.Kernel.Exposure
import HartKernel.Proofs.Trap.Interruption
import HartKernel.Proofs.Trap.Nesting

/-!
# How many traps can be nested

The outermost trap takes one word of the interrupt stack and every nested one a frame
below.  As long as handlers leave the stack pointer where entry has put it, the frames
follow each other without gaps, so the number of levels is the room below the first
word divided by the size of a frame.  An entry that finds no room changes nothing that
anybody relies on.

Main definitions:

- `Machine.Open` lists the traps that are being handled, with the stack pointers before
  and after their entry, and `Machine.Unmoved` says that every handler is where entry
  has put it.
- `Machine.enterMore` enters several traps one after the other.
- `Kernel.Undisturbed` compares what the scheduler uses in two kernels.

Main results:

- `Machine.Open.layered` and `Machine.Reached.exists_open`: in every state of a system
  the traps that are being handled lie below each other.
- `Machine.Layered.sp_add` and `Machine.Layered.exists_enterMore`: where the stack
  pointer is at a nesting level, and how many more levels fit.
- `Machine.unchanged_of_entry_error`: what an entry that is refused leaves alone.
- `Machine.nesting_capacity`: all of it.
-/

namespace HartKernel

/-! ## What the scheduler uses -/

namespace Kernel

variable {capacity levels : Nat} {k k' k'' : Kernel capacity levels} {id : TaskId}

/-- Nothing that the scheduler uses is different: the states and priorities of the
tasks, the ready queue, the current task, the request for a dispatch and the ticks. -/
structure Undisturbed (k k' : Kernel capacity levels) : Prop where
  places : k.SamePlaces k'
  schedule : k.SameSchedule k'

theorem Undisturbed.refl (k : Kernel capacity levels) : k.Undisturbed k :=
  ⟨.refl k, rfl, rfl, rfl, rfl, rfl⟩

theorem undisturbed_updateTask (k : Kernel capacity levels) (id : TaskId) {f : Task → Task}
    (hplace : ∀ t, (f t).place = t.place) (hentry : ∀ t, (f t).entry = t.entry) :
    k.Undisturbed (k.updateTask id f) := by
  have hplaces := k.samePlaces_updateTask id hplace
  have hentries := TaskTable.map_update_of_eq k.tasks id hentry
  exact ⟨hplaces, hentries, hplaces.readyTasks_eq, rfl, rfl, rfl⟩

/-- Saving a context does not disturb the scheduler, whether it goes well or not. -/
theorem undisturbed_saveContext {ls : FrameLayouts} {r : RegisterFile} {kind : FrameKind}
    {answer : Except ContextError Word}
    (h : (k.saveContext ls r id kind).result = .ok (answer, k')) : k.Undisturbed k' := by
  rcases saveContext_cases h with ⟨e, -, rfl⟩ | ⟨t, stack, sp, -, -, -, rfl⟩
  · exact .refl k'
  · exact k.undisturbed_updateTask id (fun _ => rfl) fun _ => rfl

end Kernel

namespace Machine

variable {capacity levels : Nat} {σ : Type} {cfg : Config} {handlers : Handlers σ capacity levels}
variable {m m' : Machine capacity levels} {s s' : σ} {d : FatalTrap}

/-! ## Entries that are refused -/

/-- Saving the interrupted context does not disturb the scheduler. -/
theorem Saves.undisturbed {answer : Except FatalTrap SavedFrame} (h : m.Saves cfg answer m') :
    m.kernel.Undisturbed m'.kernel := by
  cases h with
  | refused | handler | idle => exact .refl _
  | task id sp k hnested hsp hrunning hsave => exact Kernel.undisturbed_saveContext hsave

/-- An entry that is refused leaves the nesting level, the counters, the interrupt
stack, the hart and everything that the scheduler uses as they are. -/
theorem unchanged_of_entry_error (h : (m.entry cfg).result = .ok (.error d, m')) :
    m'.nesting = m.nesting ∧ m'.stats = m.stats ∧ m'.interruptStack = m.interruptStack ∧
      m'.hart = m.hart ∧ m.kernel.Undisturbed m'.kernel := by
  cases enters_of_entry h with
  | unsaved e => exact ⟨rfl, rfl, rfl, rfl, .refl _⟩
  | uninstalled e hnested hsaves =>
    obtain ⟨hhart, hstack⟩ := hsaves.outermost hnested
    exact ⟨hsaves.nesting, hsaves.stats, hstack, hhart, hsaves.undisturbed⟩

end Machine

/-! ## Traps that are being handled -/

/-- The stack pointers around the entry of a trap. -/
structure OpenTrap where
  /-- The stack pointer that entry has found. -/
  found : Word
  /-- The stack pointer that entry has left to the handler. -/
  put : Word

namespace Machine

variable {capacity levels : Nat} {σ : Type} {cfg : Config} {handlers : Handlers σ capacity levels}
variable {m m' : Machine capacity levels} {s s' : σ} {d : FatalTrap}
variable {traps : List OpenTrap} {slot sp : Word} {frameSize base : Nat}
variable {answer : Except FatalTrap Unit}

/-- The traps that are being handled, innermost first.  The outermost one was taken in
any state.  Handlers may make any moves of their own, so they may move their stack
pointers and overwrite any memory; traps may be dispatched at any time, and entry,
dispatch and exit may be refused. -/
inductive Open (cfg : Config) (handlers : Handlers σ capacity levels) :
    List OpenTrap → Machine capacity levels → σ → Prop where
  | outermost {m m' : Machine capacity levels} {context : TrapContext} (s : σ)
    (hnesting : m.nesting = 0) (hentry : (m.entry cfg).result = .ok (.ok context, m')) :
    Open cfg handlers [⟨m.hart.regs.sp, m'.hart.regs.sp⟩] m' s
  | nested {traps : List OpenTrap} {m m' : Machine capacity levels} {s : σ} {context : TrapContext}
    (h : Open cfg handlers traps m s) (hentry : (m.entry cfg).result = .ok (.ok context, m')) :
    Open cfg handlers (⟨m.hart.regs.sp, m'.hart.regs.sp⟩ :: traps) m' s
  | refused {traps : List OpenTrap} {m m' : Machine capacity levels} {s : σ} {d : FatalTrap}
    (h : Open cfg handlers traps m s) (hentry : (m.entry cfg).result = .ok (.error d, m')) :
    Open cfg handlers traps m' s
  | dispatch {traps : List OpenTrap} {m m' : Machine capacity levels} {s s' : σ}
    {context : TrapContext} {answer : Except FatalTrap Unit} (h : Open cfg handlers traps m s)
    (hdispatch : (m.dispatch cfg handlers s context).result = .ok (answer, m', s')) :
    Open cfg handlers traps m' s'
  | own {traps : List OpenTrap} {m m' : Machine capacity levels} {s s' : σ} {mv : Move}
    {floor : Nat} {ok : Bool} (h : Open cfg handlers traps m s)
    (hown : mv.Own floor m.interruptStack.base)
    (hmove : (m.move cfg handlers s mv).result = .ok (.ok ok, m', s')) :
    Open cfg handlers traps m' s'
  | exit {t t' : OpenTrap} {traps : List OpenTrap} {m m' : Machine capacity levels} {s s' : σ}
    {answer : Except FatalTrap Unit} (h : Open cfg handlers (t :: t' :: traps) m s)
    (hexit : (m.exit cfg handlers s).result = .ok (answer, m', s')) :
    Open cfg handlers (t' :: traps) m' s'

/-- Every handler has its stack pointer where entry has put it: the innermost one now,
and the others when the next trap interrupted them. -/
def Unmoved : List OpenTrap → Word → Prop
  | [], _ => True
  | t :: traps, sp => sp = t.put ∧ Unmoved traps t.found

/-- The outermost trap has got the word of the background stack pointer, and every
other one a frame just below the stack pointer that entry has found. -/
inductive Stacked (frameSize base : Nat) (slot : Word) : List OpenTrap → Prop where
  | outermost (found : Word) : Stacked frameSize base slot [⟨found, slot⟩]
  | nested {t : OpenTrap} {traps : List OpenTrap} (h : Stacked frameSize base slot traps)
    (hbelow : t.put.toNat + frameSize = t.found.toNat) (hbase : base ≤ t.put.toNat) :
    Stacked frameSize base slot (t :: traps)

/-- Unmoved stack pointers follow each other at the distance of a frame. -/
theorem Stacked.sp_add (h : Stacked frameSize base slot traps) (hbase : base ≤ slot.toNat)
    (hsp : Unmoved traps sp) :
    sp.toNat + traps.length * frameSize = slot.toNat + frameSize ∧ base ≤ sp.toNat := by
  induction h generalizing sp with
  | outermost found =>
    obtain ⟨rfl, -⟩ := hsp
    exact ⟨by rw [List.length_singleton, Nat.one_mul], hbase⟩
  | nested h hbelow hlow ih =>
    obtain ⟨rfl, hfound⟩ := hsp
    obtain ⟨hadd, -⟩ := ih hfound
    refine ⟨?_, hlow⟩
    rw [List.length_cons, Nat.add_mul, Nat.one_mul]
    omega

/-- The traps that are being handled lie below each other on the interrupt stack. -/
structure Layered (cfg : Config) (slot : Word) (traps : List OpenTrap)
    (m : Machine capacity levels) : Prop where
  place : m.backgroundSlot = .ok slot
  room : m.interruptStack.base ≤ slot.toNat
  depth : m.nesting = traps.length
  stacked : Stacked cfg.layouts.interrupted.frameSize m.interruptStack.base slot traps

/-- What neither moves the interrupt stack nor enters or leaves a trap. -/
theorem Layered.of_samePlace (h : m.Layered cfg slot traps) (hdepth : m'.nesting = m.nesting)
    (hplace : m.interruptStack.SamePlace m'.interruptStack) : m'.Layered cfg slot traps where
  place := by
    rw [backgroundSlot, hplace.alignedTop]
    exact h.place
  room := hplace.base ▸ h.room
  depth := hdepth.trans h.depth
  stacked := hplace.base ▸ h.stacked

/-! ## One step -/

/-- An outermost entry installs the interrupt stack. -/
theorem installed_of_entry {context : TrapContext} (hnesting : m.nesting = 0)
    (h : (m.entry cfg).result = .ok (.ok context, m')) : m'.Installed m'.hart.regs.sp := by
  cases enters_of_entry h with
  | entered hsaves hinstalls =>
    have hinstalled := hinstalls.installed (hsaves.nesting.trans hnesting)
    exact ⟨hinstalled.place, rfl, hinstalled.readable⟩

theorem layered_outermost {context : TrapContext} (hnesting : m.nesting = 0)
    (h : (m.entry cfg).result = .ok (.ok context, m')) :
    m'.Layered cfg m'.hart.regs.sp [⟨m.hart.regs.sp, m'.hart.regs.sp⟩] := by
  have hinstalled := installed_of_entry hnesting h
  obtain ⟨w, hread⟩ := hinstalled.readable
  obtain ⟨-, ⟨hlow, -⟩, -⟩ := StackRegion.read_eq_ok_iff.1 hread
  refine ⟨hinstalled.place, hlow, ?_, .outermost _⟩
  rw [(entry_cases h).2.2.1, hnesting]
  rfl

/-- A nested entry adds a frame below the stack pointer. -/
theorem Layered.nested (h : m.Layered cfg slot traps) (hpos : 0 < m.nesting)
    {context : TrapContext} (hentry : (m.entry cfg).result = .ok (.ok context, m')) :
    m'.Layered cfg slot (⟨m.hart.regs.sp, m'.hart.regs.sp⟩ :: traps) := by
  obtain ⟨-, hguards⟩ := guards_of_entry hpos hentry
  have hbase := hguards.above.base
  have hlow := hguards.stores.frame.inside.1
  rw [hbase] at hlow
  refine ⟨?_, hbase ▸ h.room, ?_, ?_⟩
  · rw [backgroundSlot, hguards.above.alignedTop]
    exact h.place
  · rw [hguards.depth, h.depth, List.length_cons]
  · rw [hbase]
    exact .nested h.stacked hguards.place hlow

/-- Leaving a nested trap, well or not, moves one level up and leaves the interrupt
stack alone. -/
theorem exit_inner (hnesting : 1 < m.nesting)
    (h : (m.exit cfg handlers s).result = .ok (answer, m', s')) :
    m'.nesting + 1 = m.nesting ∧ m'.interruptStack = m.interruptStack := by
  cases exits_of_exit h with
  | refused | nested => exact ⟨Nat.sub_add_cancel (Nat.zero_lt_of_lt hnesting), rfl⟩
  | outermost hone => omega

theorem Stacked.of_cons {t t' : OpenTrap}
    (h : Stacked frameSize base slot (t :: t' :: traps)) :
    Stacked frameSize base slot (t' :: traps) := by
  cases h with
  | nested h hbelow hbase => exact h

theorem Layered.exit {t t' : OpenTrap} (h : m.Layered cfg slot (t :: t' :: traps))
    (hexit : (m.exit cfg handlers s).result = .ok (answer, m', s')) :
    m'.Layered cfg slot (t' :: traps) := by
  have hdepth := h.depth
  rw [List.length_cons, List.length_cons] at hdepth
  obtain ⟨hleft, hstack⟩ := exit_inner (by omega) hexit
  refine ⟨?_, hstack ▸ h.room, by rw [List.length_cons]; omega, hstack ▸ h.stacked.of_cons⟩
  rw [backgroundSlot, hstack]
  exact h.place

/-! ## All states -/

theorem Open.length_pos (h : Open cfg handlers traps m s) : 0 < traps.length := by
  induction h with
  | outermost | nested | exit => exact Nat.zero_lt_succ _
  | refused h hentry ih | dispatch h hdispatch ih | own h hown hmove ih => exact ih

/-- At any time the traps that are being handled lie below each other. -/
theorem Open.layered (h : Open cfg handlers traps m s) : ∃ slot, m.Layered cfg slot traps := by
  induction h with
  | outermost s hnesting hentry => exact ⟨_, layered_outermost hnesting hentry⟩
  | nested h hentry ih =>
    obtain ⟨slot, hlayered⟩ := ih
    exact ⟨slot, hlayered.nested (hlayered.depth ▸ h.length_pos) hentry⟩
  | refused h hentry ih =>
    obtain ⟨slot, hlayered⟩ := ih
    obtain ⟨hdepth, -, hstack, -⟩ := unchanged_of_entry_error hentry
    exact ⟨slot, hlayered.of_samePlace hdepth (hstack ▸ .refl _ _)⟩
  | dispatch h hdispatch ih =>
    obtain ⟨slot, hlayered⟩ := ih
    obtain ⟨hplace, hdepth⟩ := samePlace_dispatch hdispatch
    exact ⟨slot, hlayered.of_samePlace hdepth hplace⟩
  | own h hown hmove ih =>
    obtain ⟨slot, hlayered⟩ := ih
    obtain ⟨hdepth, hagree⟩ := move_own hown hmove
    exact ⟨slot, hlayered.of_samePlace hdepth
      ⟨hagree.base, hagree.size, fun _ hnot => absurd trivial hnot⟩⟩
  | exit h hexit ih =>
    obtain ⟨slot, hlayered⟩ := ih
    exact ⟨slot, hlayered.exit hexit⟩

/-- Leaving a trap, well or not, leaves one level. -/
theorem depth_of_exit (h : (m.exit cfg handlers s).result = .ok (answer, m', s')) :
    m'.nesting + 1 = m.nesting := by
  cases answer with
  | ok u => exact (exit_cases h).1.symm
  | error d => exact (exit_refused h).2

theorem exists_open_of_entry {context : TrapContext}
    (h : m.nesting = 0 ∨ ∃ traps, Open cfg handlers traps m s)
    (hentry : (m.entry cfg).result = .ok (.ok context, m')) :
    ∃ traps, Open cfg handlers traps m' s := by
  rcases h with hzero | ⟨traps, hopen⟩
  · exact ⟨_, .outermost s hzero hentry⟩
  · exact ⟨_, hopen.nested hentry⟩

/-- A handler may change the hart, and a trap that is taken does. -/
theorem Open.work (h : Open cfg handlers traps m s) (hart : Hart) :
    Open cfg handlers traps { m with hart := hart } s := by
  have hown : (Move.work hart).Own 0 m.interruptStack.base := trivial
  exact h.own hown rfl

/-- In every state of a system either no trap is being handled or the traps that are
being handled can be listed. -/
theorem Reached.exists_open (h : Reached cfg handlers m s) :
    m.nesting = 0 ∨ ∃ traps, Open cfg handlers traps m s := by
  induction h with
  | initial s hinitial =>
    obtain ⟨k, -, hinitial⟩ := bind_eq_ok_iff.1 hinitial
    cases hinitial
    exact .inl rfl
  | @call m s r r' c ok k h hcall ih =>
    refine ih.imp_right fun ⟨traps, hopen⟩ => ⟨traps, ?_⟩
    -- the registers that the call is made with are loaded before and put away after it
    have hloaded := hopen.work { m.hart with regs := r }
    have hmove : (({ m with hart := { m.hart with regs := r } } : Machine capacity levels).move cfg
        handlers s (.call c)).result =
          .ok (.ok ok, { m with kernel := k, hart := { m.hart with regs := r' } }, s) := by
      rw [Machine.move, Traced.result_bind, hcall]
      rfl
    have hown : (Move.call c).Own 0 m.interruptStack.base := trivial
    exact (hloaded.own hown hmove).work m.hart
  | work hart h ih =>
    exact ih.imp_right fun ⟨traps, hopen⟩ => ⟨traps, hopen.work hart⟩
  | @enter m m' s entered h hentry ih =>
    cases entered with
    | ok context => exact .inr (exists_open_of_entry ih hentry)
    | error d =>
      refine ih.imp (fun hzero => ?_) fun ⟨traps, hopen⟩ => ⟨traps, hopen.refused hentry⟩
      exact (unchanged_of_entry_error hentry).1.trans hzero
  | dispatch h hentry hdispatch ih =>
    obtain ⟨traps, hopen⟩ := exists_open_of_entry ih hentry
    exact .inr ⟨traps, hopen.dispatch hdispatch⟩
  | @exit m m' s s' answer h hexit ih =>
    have hdepth := depth_of_exit hexit
    rcases ih with hzero | ⟨traps, hopen⟩
    · omega
    · obtain ⟨slot, hlayered⟩ := hopen.layered
      have hlength := hlayered.depth
      have hpos := hopen.length_pos
      cases traps with
      | nil => exact absurd hpos (Nat.lt_irrefl 0)
      | cons t rest =>
        cases rest with
        | nil =>
          rw [List.length_singleton] at hlength
          exact .inl (by omega)
        | cons t' rest => exact .inr ⟨t' :: rest, hopen.exit hexit⟩

/-! ## How many levels fit -/

variable (cfg) in
/-- A nested entry always answers, and goes well exactly if its frame fits. -/
theorem exists_entry_nested (hpos : 0 < m.nesting) :
    ∃ entered m', (m.entry cfg).result = .ok (entered, m') ∧
      ((∃ context, entered = .ok context) ↔
        cfg.layouts.interrupted.Fits m.interruptStack m.hart.regs.sp) := by
  have hvalid : cfg.layouts.interrupted.Valid := cfg.valid_layout .interrupted
  by_cases hfits : cfg.layouts.interrupted.Fits m.interruptStack m.hart.regs.sp
  · obtain ⟨fsp, stack, hsave⟩ := FrameLayout.save_of_fits hvalid hfits m.hart.regs
    have hsaved : (m.saveInterrupted cfg).result =
        .ok (.ok (.nested fsp), { m with interruptStack := stack }.setSp fsp) := by
      unfold saveInterrupted saveHandler
      rw [if_pos hpos, Traced.result_bind, hsave]
      rfl
    have hentered : (m.entry cfg).result =
        .ok (.ok ⟨TrapCause.decode m.hart.cause cfg.level, .nested fsp⟩,
          ({ m with interruptStack := stack }.setSp fsp).deepen) := by
      unfold entry installStack
      rw [Traced.result_bind, hsaved, ok_bind]
      dsimp only [setSp]
      rw [if_pos hpos]
      rfl
    exact ⟨_, _, hentered, iff_of_true ⟨_, rfl⟩ hfits⟩
  · obtain ⟨e, hsave⟩ := FrameLayout.refuses_of_not_fits hfits m.hart.regs
    refine ⟨.error (m.diagnose (some e)), m, ?_, ?_⟩
    · unfold entry saveInterrupted saveHandler
      rw [if_pos hpos, Traced.result_bind, Traced.result_bind, hsave]
      rfl
    · exact iff_of_false (fun ⟨context, hcontext⟩ => nomatch hcontext) hfits

/-- At a nesting level where every handler is where entry has put it, a frame fits
exactly if there is room for one more frame than there are already. -/
theorem Layered.fits_iff (h : m.Layered cfg slot traps) (hpos : 0 < m.nesting)
    (hsp : Unmoved traps m.hart.regs.sp) :
    cfg.layouts.interrupted.Fits m.interruptStack m.hart.regs.sp ↔
      m.interruptStack.base + m.nesting * cfg.layouts.interrupted.frameSize ≤ slot.toNat := by
  obtain ⟨hadd, hlow⟩ := h.stacked.sp_add h.room hsp
  obtain ⟨haligned, htop⟩ := slot_le_top h.place
  rw [← h.depth] at hadd
  have hmod : m.nesting * cfg.layouts.interrupted.frameSize % 16 = 0 := by
    rw [Nat.mul_mod, cfg.layouts.interrupted.frameSize_mod, Nat.mul_zero, Nat.zero_mod]
  have hframe := cfg.layouts.interrupted.frameSize_mod
  have hone : cfg.layouts.interrupted.frameSize ≤
      m.nesting * cfg.layouts.interrupted.frameSize := Nat.le_mul_of_pos_left _ hpos
  unfold FrameLayout.Fits
  omega

/-- The next entry answers; it goes well exactly if there is room, and then the stack
pointer is one frame further down. -/
theorem Layered.exists_entry (h : m.Layered cfg slot traps) (hpos : 0 < m.nesting)
    (hsp : Unmoved traps m.hart.regs.sp) :
    ∃ entered m', (m.entry cfg).result = .ok (entered, m') ∧
      ((∃ context, entered = .ok context) ↔
        m.interruptStack.base + m.nesting * cfg.layouts.interrupted.frameSize ≤ slot.toNat) ∧
      ∀ context, entered = .ok context → m'.nesting = m.nesting + 1 ∧
        m'.hart.regs.sp.toNat + m.nesting * cfg.layouts.interrupted.frameSize = slot.toNat := by
  obtain ⟨entered, m', hentry, hfits⟩ := exists_entry_nested cfg hpos
  refine ⟨entered, m', hentry, hfits.trans (h.fits_iff hpos hsp), ?_⟩
  rintro context rfl
  have hlayered := h.nested hpos hentry
  have hunmoved : Unmoved (⟨m.hart.regs.sp, m'.hart.regs.sp⟩ :: traps) m'.hart.regs.sp :=
    ⟨rfl, hsp⟩
  obtain ⟨hadd, -⟩ := hlayered.stacked.sp_add hlayered.room hunmoved
  rw [List.length_cons, ← h.depth, Nat.add_mul, Nat.one_mul] at hadd
  exact ⟨(entry_cases hentry).2.2.1, by omega⟩

/-- Enter several traps one after the other, as far as they are not refused. -/
def enterMore (cfg : Config) (m : Machine capacity levels) :
    Nat → Traced (Except FatalTrap Unit × Machine capacity levels)
  | 0 => pure (.ok (), m)
  | k + 1 => do
    let (entered, m) ← m.entry cfg
    match entered with
    | .error d => return (.error d, m)
    | .ok _ => m.enterMore cfg k

/-- Several entries go well exactly if there is room for all their frames. -/
theorem Layered.exists_enterMore (h : m.Layered cfg slot traps) (hpos : 0 < m.nesting)
    (hsp : Unmoved traps m.hart.regs.sp) (k : Nat) :
    ∃ entered m', (m.enterMore cfg k).result = .ok (entered, m') ∧
      (entered = .ok () ↔ m.interruptStack.base +
        (m.nesting + k) * cfg.layouts.interrupted.frameSize ≤
          slot.toNat + cfg.layouts.interrupted.frameSize) := by
  induction k generalizing m traps with
  | zero =>
    obtain ⟨hadd, hlow⟩ := h.stacked.sp_add h.room hsp
    rw [← h.depth] at hadd
    refine ⟨.ok (), m, rfl, iff_of_true rfl ?_⟩
    rw [Nat.add_zero]
    omega
  | succ k ih =>
    obtain ⟨entered, m₁, hentry, hgranted, hdeeper⟩ := h.exists_entry hpos hsp
    cases entered with
    | ok context =>
      have hlayered := h.nested hpos hentry
      have hbase : m₁.interruptStack.base = m.interruptStack.base :=
        (guards_of_entry hpos hentry).2.above.base
      have hdepth := (hdeeper context rfl).1
      obtain ⟨answer, m', hmore, hroom⟩ := ih hlayered (by omega) ⟨rfl, hsp⟩
      refine ⟨answer, m', ?_, ?_⟩
      · rw [enterMore, Traced.result_bind, hentry, ok_bind]
        exact hmore
      · rw [hroom, hbase, hdepth, Nat.add_assoc, Nat.add_comm 1 k]
    | error d =>
      have hfull := mt hgranted.2 fun ⟨context, hcontext⟩ => nomatch hcontext
      refine ⟨.error d, m₁, ?_, iff_of_false (fun hok => nomatch hok) ?_⟩
      · rw [enterMore, Traced.result_bind, hentry]
        rfl
      · rw [Nat.add_mul, Nat.succ_mul]
        omega

/-- Room for frames, counted in levels. -/
theorem add_mul_le_iff {n : Nat} (hframe : 0 < frameSize) (hroom : base ≤ slot.toNat)
    (hn : 0 < n) : base + n * frameSize ≤ slot.toNat + frameSize ↔
      n ≤ 1 + (slot.toNat - base) / frameSize := by
  obtain ⟨n, rfl⟩ : ∃ j, n = j + 1 := ⟨n - 1, by omega⟩
  have hlevels : n ≤ (slot.toNat - base) / frameSize ↔ n * frameSize ≤ slot.toNat - base :=
    Nat.le_div_iff_mul_le hframe
  rw [Nat.add_mul, Nat.one_mul, Nat.add_comm 1, Nat.succ_le_succ_iff, hlevels]
  omega

/-- The nesting capacity of an interrupt stack.  In every state of a system the traps
that are being handled can be listed.  If every handler has its stack pointer where
entry has put it, the next entry answers; it goes well exactly if the word of the
background stack pointer is at least as many frames above the base as there are levels,
and then the stack pointer is that many frames below this word.  So at any level exactly
those further levels can be entered that make one more than the number of frames between
the base and this word.  An entry that is refused, at any level and with any registers,
leaves everything but the context of the interrupted task as it is. -/
theorem nesting_capacity (cfg : Config) (handlers : Handlers σ capacity levels) :
    (∀ (m : Machine capacity levels) (s : σ), Reached cfg handlers m s → 0 < m.nesting →
      ∃ traps, Open cfg handlers traps m s) ∧
    (∀ (traps : List OpenTrap) (m : Machine capacity levels) (s : σ),
      Open cfg handlers traps m s → Unmoved traps m.hart.regs.sp →
      ∃ slot, m.backgroundSlot = .ok slot ∧ m.interruptStack.base ≤ slot.toNat ∧
        m.nesting = traps.length ∧ 0 < m.nesting ∧
        (∃ entered m', (m.entry cfg).result = .ok (entered, m') ∧
          ((∃ context, entered = .ok context) ↔
            m.interruptStack.base + m.nesting * cfg.layouts.interrupted.frameSize ≤ slot.toNat) ∧
          ∀ context, entered = .ok context → m'.nesting = m.nesting + 1 ∧
            m'.hart.regs.sp.toNat + m.nesting * cfg.layouts.interrupted.frameSize =
              slot.toNat) ∧
        ∀ k, ∃ entered m', (m.enterMore cfg k).result = .ok (entered, m') ∧
          (entered = .ok () ↔ m.nesting + k ≤ 1 + (slot.toNat - m.interruptStack.base) /
            cfg.layouts.interrupted.frameSize)) ∧
    ∀ (m m' : Machine capacity levels) (d : FatalTrap), (m.entry cfg).result = .ok (.error d, m') →
      m'.nesting = m.nesting ∧ m'.stats = m.stats ∧ m'.interruptStack = m.interruptStack ∧
        m'.hart = m.hart ∧ m.kernel.Undisturbed m'.kernel := by
  refine ⟨fun m s h hpos => ?_, fun traps m s h hsp => ?_,
    fun m m' d h => unchanged_of_entry_error h⟩
  · exact h.exists_open.resolve_left hpos.ne'
  · obtain ⟨slot, hlayered⟩ := h.layered
    have hpos : 0 < m.nesting := hlayered.depth ▸ h.length_pos
    have hframe : 0 < cfg.layouts.interrupted.frameSize :=
      Nat.mul_pos (FrameLayout.frameWords_pos _) (by decide)
    refine ⟨slot, hlayered.place, hlayered.room, hlayered.depth, hpos,
      hlayered.exists_entry hpos hsp, fun k => ?_⟩
    obtain ⟨entered, m', hmore, hroom⟩ := hlayered.exists_enterMore hpos hsp k
    exact ⟨entered, m', hmore, hroom.trans (add_mul_le_iff hframe hlayered.room (by omega))⟩

/-- On an interrupt stack of 64 words two levels fit.  The third entry is refused. -/
theorem nesting_capacity_small :
    ∃ (m m₁ m₂ : Machine 4 4) (context : TrapContext) (d : FatalTrap),
      Reached (Config.machine false) (Handlers.default : Handlers Unit 4 4) m () ∧
      m.nesting = 1 ∧ m.hart.regs.sp = 0x400001f0 ∧
      (m.entry (Config.machine false)).result = .ok (.ok context, m₁) ∧
      m₁.hart.regs.sp.toNat + 272 = 0x400001f0 ∧
      (m.enterMore (Config.machine false) 2).result = .ok (.error d, m₂) ∧
      (m₁.entry (Config.machine false)).result = .ok (.error d, m₂) ∧
      m₂.interruptStack = m₁.interruptStack ∧ m₁.kernel.Undisturbed m₂.kernel := by
  obtain ⟨⟨entered, m⟩, hentry, hm⟩ := exists_of_ends (x := small.entry (Config.machine false))
    (p := fun b => b.1.isOk && decide (b.2.nesting = 1 ∧ b.2.hart.regs.sp = 0x400001f0 ∧
      b.2.backgroundSlot = .ok 0x400001f0 ∧ b.2.interruptStack.base = 0x40000000))
    (by decide +kernel)
  obtain ⟨hok, hstate⟩ := Bool.and_eq_true_iff.1 hm
  obtain ⟨hdepth, hsp, hslot, hbase⟩ := of_decide_eq_true hstate
  have hreached : Reached (Config.machine false) (Handlers.default : Handlers Unit 4 4) m () :=
    (Reached.initial () initial_small).enter hentry
  cases entered with
  | error d => cases hok
  | ok context₀ =>
    have hopen : Open (Config.machine false) (Handlers.default : Handlers Unit 4 4)
        [⟨small.hart.regs.sp, m.hart.regs.sp⟩] m () := .outermost () rfl hentry
    obtain ⟨-, hcapacity, hrefused⟩ :=
      nesting_capacity (Config.machine false) (Handlers.default : Handlers Unit 4 4)
    obtain ⟨slot, hplace, -, -, -, ⟨entered, m₁, hentry₁, hgranted, hdeeper⟩, hmore⟩ :=
      hcapacity _ m () hopen ⟨rfl, trivial⟩
    obtain rfl : slot = 0x400001f0 := Except.ok.inj (hplace.symm.trans hslot)
    rw [hbase, hdepth] at hgranted
    obtain ⟨context, rfl⟩ := hgranted.2 (by decide)
    have hsp₁ := (hdeeper context rfl).2
    rw [hdepth] at hsp₁
    -- two more levels do not fit, so the second of them is refused
    obtain ⟨answer, m₂, hentered, hroom⟩ := hmore 2
    rw [hbase, hdepth] at hroom
    have hfull : answer ≠ .ok () := fun h => absurd (hroom.1 h) (by decide)
    obtain ⟨⟨first, m₁'⟩, hfirst, hsecond⟩ := Traced.bind_eq_ok.1 hentered
    cases hentry₁.symm.trans hfirst
    obtain ⟨⟨second, m₂'⟩, hentry₂, hsecond⟩ := Traced.bind_eq_ok.1 hsecond
    cases second with
    | ok context₁ =>
      cases hsecond
      exact absurd rfl hfull
    | error d =>
      cases hsecond
      obtain ⟨-, -, hstack, -, hkernel⟩ := hrefused m₁ m₂ d hentry₂
      exact ⟨m, m₁, m₂, context, d, hreached, hdepth, hsp, hentry₁, hsp₁, hentered, hentry₂, hstack,
        hkernel⟩

end Machine

end HartKernel
