import HartKernel.Proofs.Kernel.Characterisation
import HartKernel.Proofs.Kernel.Grades
import HartKernel.Simulation.Action

/-!
# Grades that anybody can write

Who holds the record of a task can write its grade, the priority that it is activated
with, and nobody checks what is written.  A grade that is no level does no harm until
the task is activated: then the kernel stops, and it does so in no other case.

Main definitions:

- `Kernel.Exposed` are the states that a kernel can be in if grades are written
  between calls.
- `Kernel.Overreaches` says that a call activates a task whose grade is no level.
- `Kernel.SamePlaces` compares kernels up to what the scheduler does not know.

Main results:

- `Kernel.WellFormed.of_samePlaces`: the scheduler invariant does not depend on
  grades.
- `Kernel.WellFormed.invoke`: a call that does not overreach goes well and keeps the
  invariant.
- `Kernel.Exposed.stops_iff_overreaches`: the invariant holds in every such state, and
  exactly the calls that overreach stop the kernel.
-/

namespace HartKernel

/-- What the scheduler knows of a task at every moment. -/
def Task.place (t : Task) : Nat × TaskState × Option Link := (t.priority, t.state, t.link)

namespace Kernel

variable {capacity levels : Nat} {k k' : Kernel capacity levels} {cfg : Config}
variable {id : TaskId} {t : Task} {r : RegisterFile} {call : KernelCall}

/-! ## The invariant does not depend on grades -/

/-- Two kernels have the same queue and the same current task, and every task is in
the same place. -/
structure SamePlaces (k k' : Kernel capacity levels) : Prop where
  places : k'.tasks.map Task.place = k.tasks.map Task.place
  queue : k'.queue = k.queue
  running : k'.running = k.running

namespace SamePlaces

theorem refl (k : Kernel capacity levels) : k.SamePlaces k := ⟨rfl, rfl, rfl⟩

theorem symm (h : k.SamePlaces k') : k'.SamePlaces k :=
  ⟨h.places.symm, h.queue.symm, h.running.symm⟩

theorem place_eq (h : k.SamePlaces k') (id : TaskId) :
    (k'.task? id).map Task.place = (k.task? id).map Task.place := by
  rw [task?, task?, ← Array.getElem?_map, ← Array.getElem?_map, h.places]

/-- A task has the same priority, the same state and the same neighbours. -/
theorem exists_task? (h : k.SamePlaces k') (ht : k'.task? id = some t) :
    ∃ u, k.task? id = some u ∧ t.priority = u.priority ∧ t.state = u.state ∧ t.link = u.link := by
  have hplace := h.place_eq id
  rw [ht, Option.map_some] at hplace
  obtain ⟨u, hu, heq⟩ := Option.map_eq_some_iff.1 hplace.symm
  have hpriority := congrArg Prod.fst heq.symm
  have hrest := Prod.mk.inj (congrArg Prod.snd heq.symm)
  exact ⟨u, hu, hpriority, hrest.1, hrest.2⟩

theorem size_eq (h : k.SamePlaces k') : k'.tasks.size = k.tasks.size := by
  simpa using congrArg Array.size h.places

theorem link_eq (h : k.SamePlaces k') (id : TaskId) : k'.tasks.link id = k.tasks.link id := by
  have hplace := h.place_eq id
  have htask : ∀ k : Kernel capacity levels, k.tasks[id.index]? = k.task? id := fun _ => rfl
  unfold TaskTable.link TaskTable.fetch
  rw [htask, htask]
  cases ht : k'.task? id with
  | none =>
    rw [ht] at hplace
    rw [Option.map_eq_none_iff.1 hplace.symm]
  | some t =>
    obtain ⟨u, hu, -, -, hlink⟩ := h.exists_task? ht
    rw [hu, ok_bind, ok_bind, hlink]

theorem links_eq (h : k.SamePlaces k') : k'.tasks.links = k.tasks.links := by
  funext id
  have hplace := congrArg (Option.bind · fun place => place.2.2) (h.place_eq id)
  rwa [Option.bind_map, Option.bind_map] at hplace

theorem levelList_eq (h : k.SamePlaces k') (p : Nat) :
    k'.queue.levelList k'.tasks p = k.queue.levelList k.tasks p := by
  have hwalk : ∀ first count id, ReadyQueue.walk k'.tasks first count id =
      ReadyQueue.walk k.tasks first count id := by
    intro first count
    induction count with
    | zero => exact fun _ => rfl
    | succ count ih =>
      intro id
      simp only [ReadyQueue.walk, h.link_eq, ih]
  simp only [ReadyQueue.levelList, hwalk, h.size_eq, h.queue]

theorem readyTasks_eq (h : k.SamePlaces k') : k'.readyTasks = k.readyTasks := by
  unfold readyTasks ReadyQueue.toList
  simp only [h.levelList_eq]
  rw [h.queue]

end SamePlaces

/-- Kernels whose tasks are in the same places meet the invariant together. -/
theorem WellFormed.of_samePlaces (h : k.WellFormed) (hsame : k.SamePlaces k') :
    k'.WellFormed where
  occurs := by
    obtain ⟨ready, hready, hcount⟩ := h.occurs
    refine ⟨ready, hsame.readyTasks_eq.trans hready, fun id t ht => ?_⟩
    obtain ⟨u, hu, -, hstate, -⟩ := hsame.exists_task? ht
    rw [hcount id u hu, hstate]
  linked id t ht := by
    obtain ⟨u, hu, -, hstate, hlink⟩ := hsame.exists_task? ht
    rw [hlink, hstate]
    exact h.linked id u hu
  level id t ht := by
    obtain ⟨u, hu, hpriority, hstate, -⟩ := hsame.exists_task? ht
    rw [hpriority, hstate, hsame.levelList_eq]
    exact h.level id u hu
  circle p hp := by
    obtain ⟨l, hl, hhead, hnodup, hring, hcreated⟩ := h.circle p hp
    refine ⟨l, (hsame.levelList_eq p).trans hl, ?_, hnodup, ?_, fun id hid => ?_⟩
    · rw [hsame.queue]
      exact hhead
    · rw [hsame.links_eq]
      exact hring
    · obtain ⟨u, hu⟩ := Option.isSome_iff_exists.1 (hcreated id hid)
      obtain ⟨t, ht, -⟩ := hsame.symm.exists_task? hu
      rw [ht]
      rfl
  bitmap := by
    rw [hsame.queue]
    exact h.bitmap
  summary := by
    rw [hsame.queue]
    exact h.summary
  holder id hid := by
    obtain ⟨t, ht, hstate⟩ := Option.map_eq_some_iff.1 hid
    obtain ⟨u, hu, -, hsameState, -⟩ := hsame.exists_task? ht
    rw [hsame.running]
    refine h.holder id ?_
    rw [IsRunning, hu, Option.map_some, ← hsameState, hstate]
  current id hid := by
    rw [hsame.running] at hid
    obtain ⟨u, hu, hstate⟩ := h.current id hid
    obtain ⟨t, ht, -, hsameState, -⟩ := hsame.symm.exists_task? hu
    exact ⟨t, ht, hsameState ▸ hstate⟩

theorem samePlaces_regrade (k : Kernel capacity levels) (h : Nat → Nat) :
    k.SamePlaces (k.regrade h) := by
  refine ⟨?_, rfl, rfl⟩
  change (k.tasks.map (Task.regrade h)).map Task.place = _
  rw [Array.map_map]
  rfl

/-! ## Writing grades -/

/-- A change of a record that leaves the task in its place. -/
theorem samePlaces_updateTask (k : Kernel capacity levels) (id : TaskId) {f : Task → Task}
    (hf : ∀ t, (f t).place = t.place) : k.SamePlaces (k.updateTask id f) :=
  ⟨TaskTable.map_update_of_eq k.tasks id hf, rfl, rfl⟩

theorem samePlaces_assignPriority {ls : FrameLayouts} {grade : Nat} {answer : Answer}
    (hact : (k.act ls (.assignPriority id grade)).result = .ok (answer, k')) :
    k.SamePlaces k' := by
  dsimp only [act] at hact
  cases ht : k.task? id with
  | none =>
    rw [ht] at hact
    cases hact
    exact .refl k
  | some t =>
    rw [ht] at hact
    cases hact
    exact k.samePlaces_updateTask id fun _ => rfl

/-- The states that a kernel can be in if calls are made and grades are written in any
order. -/
inductive Exposed (cfg : Config) : Kernel capacity levels → Prop where
  | initial {k : Kernel capacity levels} (h : Kernel.initial capacity levels = .ok k) :
    Exposed cfg k
  | call {k k' : Kernel capacity levels} {r r' : RegisterFile} {call : KernelCall} {ok : Bool}
    (h : Exposed cfg k) (hcall : (k.invoke cfg r call).result = .ok (ok, k', r')) : Exposed cfg k'
  | assign {k k' : Kernel capacity levels} {id : TaskId} {grade : Nat} {answer : Answer}
    (h : Exposed cfg k)
    (hact : (k.act cfg.layouts (.assignPriority id grade)).result = .ok (answer, k')) :
    Exposed cfg k'

/-! ## Calls that overreach -/

/-- A call activates a Dormant task whose grade is no level. -/
def Overreaches (k : Kernel capacity levels) : KernelCall → Prop
  | .activate id => ∃ t, k.task? id = some t ∧ t.state = .dormant ∧ levels ≤ t.attributes.priority
  | _ => False

/-- There is no list to put a task in whose priority is no level. -/
theorem makeReady_of_not_lt (ht : k.task? id = some t) (hlink : t.link = none)
    (hpriority : ¬t.priority < levels) : k.makeReady id = .error .outOfBounds := by
  have hready : (k.updateTask id fun t => { t with state := .ready }).task? id =
      some { t with state := .ready } := by
    rw [task?_updateTask, if_pos rfl, ht]
    rfl
  have hpush : k.queue.pushBack (k.updateTask id fun t => { t with state := .ready }).tasks id =
      .error .outOfBounds := by
    unfold ReadyQueue.pushBack
    rw [TaskTable.fetch_eq_ok hready, ok_bind, Panic.require_of hlink, ok_bind]
    exact dif_neg hpriority
  unfold makeReady withQueue
  exact congrArg (· >>= _) hpush

/-- Such a call stops the kernel: the queue has no list to put the task in. -/
theorem WellFormed.invoke_of_overreaches (h : k.WellFormed) (cfg : Config) (r : RegisterFile)
    (hcall : k.Overreaches call) : (k.invoke cfg r call).result = .error .outOfBounds := by
  cases call with
  | activate id =>
    obtain ⟨t, ht, hstate, hgrade⟩ := hcall
    have hlink : t.link = none := by
      cases hl : t.link with
      | none => rfl
      | some l =>
        have hready := (h.linked id t ht).1 (by rw [hl]; rfl)
        rw [hready] at hstate
        cases hstate
    have hrestarted : (k.updateTask id fun t => { t with priority := t.attributes.priority }).task?
        id = some { t with priority := t.attributes.priority } := by
      rw [task?_updateTask, if_pos rfl, ht]
      rfl
    have hready := makeReady_of_not_lt hrestarted hlink (not_lt.2 hgrade)
    unfold Kernel.invoke activate
    simp only [ht, hstate, ne_eq, not_true_eq_false, if_false, Traced.result_map,
      Traced.result_bind, Traced.result_note, Traced.result_lift, hready]
    rfl
  | _ => exact hcall.elim

/-- A grade that is no level is as good as the most urgent one to the other calls. -/
def capGrade (levels grade : Nat) : Nat := if grade < levels then grade else 0

/-- Any other call goes well and keeps the invariant. -/
theorem WellFormed.invoke (h : k.WellFormed) (cfg : Config) (r : RegisterFile)
    (hcall : ¬k.Overreaches call) :
    ∃ ok k' r', (k.invoke cfg r call).result = .ok (ok, k', r') ∧ k'.WellFormed := by
  have hfix : call.FixedBy (capGrade levels) k := by
    cases call with
    | create a stack => exact fun hgrade => if_pos hgrade
    | activate id =>
      exact fun t ht hstate => if_pos (not_le.1 fun hgrade => hcall ⟨t, ht, hstate, hgrade⟩)
    | _ => trivial
  have hsound : (k.regrade (capGrade levels)).Sound := by
    refine ⟨h.of_samePlaces (k.samePlaces_regrade _), fun id t ht => ?_⟩
    rw [task?_regrade] at ht
    obtain ⟨u, hu, rfl⟩ := Option.map_eq_some_iff.1 ht
    -- there is a level, since the task has a priority
    have hpriority := (h.level id u hu).1
    change capGrade levels u.attributes.priority < levels
    unfold capGrade
    split <;> omega
  obtain ⟨s, himpl, hvalid⟩ := sound_iff.1 hsound
  obtain ⟨ok, k₁, r₁, s₁, hresult, himpl₁, hstep, -⟩ := himpl.invoke hvalid cfg r call
  rw [invoke_regrade cfg r hfix] at hresult
  obtain ⟨⟨ok', k', r'⟩, hresult', heq⟩ := Traced.map_eq_ok.1 hresult
  cases heq
  exact ⟨_, _, _, hresult',
    (himpl₁.wellFormed (hstep.valid hvalid)).of_samePlaces (k'.samePlaces_regrade _).symm⟩

/-! ## Every state -/

/-- The invariant holds in every state that can be reached, whatever grades are
written. -/
theorem Exposed.wellFormed (h : k.Exposed cfg) : k.WellFormed := by
  induction h with
  | initial h => exact (implements_of_initial h).wellFormed Schedule.valid_initial
  | @call k k' r r' call ok h hcall ih =>
    have hnot : ¬k.Overreaches call := by
      intro hover
      rw [ih.invoke_of_overreaches cfg r hover] at hcall
      cases hcall
    obtain ⟨ok', k₁, r₁, hresult, hformed⟩ := ih.invoke cfg r hnot
    rw [hresult] at hcall
    cases hcall
    exact hformed
  | assign _ hact ih => exact ih.of_samePlaces (samePlaces_assignPriority hact)

/-- If calls are made and grades are written in any order, then at any time the
priority of every task is a level, and the Ready tasks are those that are linked in
the queue.  A call stops the kernel exactly if it activates a Dormant task whose grade
is no level. -/
theorem Exposed.stops_iff_overreaches (h : k.Exposed cfg) :
    k.WellFormed ∧ ∀ r call,
      (k.Overreaches call → (k.invoke cfg r call).result = .error .outOfBounds) ∧
      (¬k.Overreaches call → ∃ ok k' r', (k.invoke cfg r call).result = .ok (ok, k', r')) := by
  refine ⟨h.wellFormed, fun r call => ⟨h.wellFormed.invoke_of_overreaches cfg r, fun hcall => ?_⟩⟩
  obtain ⟨ok, k', r', hresult, -⟩ := h.wellFormed.invoke cfg r hcall
  exact ⟨ok, k', r', hresult⟩

/-- With four levels, a task is created at level 1 and the grade 7 is written. -/
def overgraded : Traced (Kernel 4 4) := do
  let k ← Kernel.initial 4 4
  let (_, k, _) ← k.invoke (Config.machine false) .zero
    (.create ⟨"a", 0x80000000, 0, 1⟩
      ⟨0x40000000 + 0x10000, .replicate 64 0, by decide, by decide⟩)
  let (_, k) ← k.act (Config.machine false).layouts (.assignPriority ⟨0⟩ 7)
  return k

theorem exposed_overgraded {k : Kernel 4 4} (h : overgraded.result = .ok k) :
    k.Exposed (Config.machine false) := by
  obtain ⟨k₀, hk₀, h⟩ := Traced.bind_eq_ok.1 h
  obtain ⟨⟨ok, k₁, r₁⟩, hk₁, h⟩ := Traced.bind_eq_ok.1 h
  obtain ⟨⟨answer, k₂⟩, hk₂, h⟩ := Traced.bind_eq_ok.1 h
  cases h
  exact .assign (.call (.initial hk₀) hk₁) hk₂

theorem exists_overgraded :
    ∃ k, overgraded.result = .ok k ∧ k.Overreaches (.activate ⟨0⟩) := by
  have hgrade : (match overgraded.result with
      | .error _ => false
      | .ok k => (k.task? ⟨0⟩).any fun t =>
        Decidable.decide (t.state = .dormant ∧ 4 ≤ t.attributes.priority)) = true := by
    decide +kernel
  split at hgrade
  · cases hgrade
  · rename_i k hk
    obtain ⟨t, ht, hdecide⟩ := (Option.any_eq_true _ _).1 hgrade
    exact ⟨k, hk, t, ht, of_decide_eq_true hdecide⟩

/-- The task can be suspended, but its activation stops the kernel. -/
theorem Exposed.stops_iff_overreaches_seven :
    ∃ k : Kernel 4 4, k.Exposed (Config.machine false) ∧ k.WellFormed ∧
      (k.invoke (Config.machine false) .zero (.activate ⟨0⟩)).result = .error .outOfBounds ∧
      ∃ ok k' r',
        (k.invoke (Config.machine false) .zero (.suspend ⟨0⟩)).result = .ok (ok, k', r') := by
  obtain ⟨k, hk, hover⟩ := exists_overgraded
  obtain ⟨hformed, hcalls⟩ := stops_iff_overreaches (exposed_overgraded hk)
  exact ⟨k, exposed_overgraded hk, hformed, (hcalls .zero (.activate ⟨0⟩)).1 hover,
    (hcalls .zero (.suspend ⟨0⟩)).2 id⟩

/-- Some grades that can be written make an activation stop the kernel, with no answer. -/
theorem Exposed.exists_activate_stops :
    ∃ k : Kernel 4 4, overgraded.result = .ok k ∧ k.Exposed (Config.machine false) ∧
      ∀ answer, (k.activate ⟨0⟩).result ≠ .ok answer := by
  obtain ⟨k, hk, hover⟩ := exists_overgraded
  have hexposed := exposed_overgraded hk
  refine ⟨k, hk, hexposed, fun answer hanswer => ?_⟩
  have hstop := hexposed.wellFormed.invoke_of_overreaches (Config.machine false) .zero hover
  rw [Kernel.invoke, Traced.result_map, hanswer] at hstop
  cases hstop

end Kernel

end HartKernel
