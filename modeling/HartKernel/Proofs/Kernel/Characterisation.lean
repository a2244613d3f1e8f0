import HartKernel.Proofs.Kernel.Invariant
import HartKernel.Proofs.Kernel.Services

/-!
# The scheduler invariant and schedules

A kernel meets the scheduler invariant exactly if it stands for a valid schedule.
What the scheduler knows of the kernel determines this schedule.

Main definitions:

- `Kernel.Sound` is the scheduler invariant, said of the parts of the kernel.
- `Kernel.waiting` reads the lists of Ready tasks off the queue.

Main results:

- `Kernel.sound_iff`: the invariant holds exactly if the kernel stands for a valid
  schedule.
- `Kernel.Implements.of_sameSchedule`: kernels that look the same to the scheduler
  stand for the same schedule.
-/

namespace HartKernel

/-- The tasks that wait at a level are those of the queue that have its priority. -/
theorem Schedule.Valid.filter_toList {levels : Nat} {s : Schedule} (h : s.Valid levels) {p : Nat}
    (hp : p < levels) :
    (s.ready.toList levels).filter (fun id => (s.lookup? id).map Entry.priority = some p) =
      s.ready p := by
  have hlevel : ∀ q, (s.ready q).filter (fun id => (s.lookup? id).map Entry.priority = some p) =
      if q = p then s.ready p else [] := by
    intro q
    have hpriority : ∀ id ∈ s.ready q, (s.lookup? id).map Entry.priority = some q := by
      intro id hid
      obtain ⟨e, he, -, hq⟩ := (h.ready id q).1 hid
      rw [he, Option.map_some, hq]
    split
    · rename_i hq
      subst hq
      exact List.filter_eq_self.2 fun id hid => decide_eq_true (hpriority id hid)
    · rename_i hq
      refine List.filter_eq_nil_iff.2 fun id hid hmem => hq ?_
      exact Option.some.inj ((hpriority id hid).symm.trans (of_decide_eq_true hmem))
  have hnone : ∀ l : List Nat, p ∉ l → (l.flatMap fun q => if q = p then s.ready p else []) = [] :=
    fun l hnot => List.flatMap_eq_nil_iff.2 fun q hq => if_neg fun heq : q = p => hnot (heq ▸ hq)
  -- the level occurs once among all levels
  obtain ⟨before, after, hsplit⟩ := List.append_of_mem (List.mem_range.2 hp)
  have hnodup := List.nodup_middle.1 (hsplit ▸ List.nodup_range)
  obtain ⟨hbefore, hafter⟩ := not_or.1 (List.mem_append.not.1 (List.nodup_cons.1 hnodup).1)
  rw [Waiting.toList, List.filter_flatMap]
  simp only [hlevel]
  rw [hsplit, List.flatMap_append, List.flatMap_cons, if_pos rfl, hnone before hbefore,
    hnone after hafter, List.nil_append, List.append_nil]

namespace Kernel

variable {capacity levels : Nat} {k k' : Kernel capacity levels} {s s' : Schedule}

/-- Kernels that look the same to the scheduler stand for the same schedule. -/
theorem Implements.of_sameSchedule (h : k.Implements s) (hv : s.Valid levels)
    (h' : k'.Implements s') (hv' : s'.Valid levels) (hsame : k.SameSchedule k') : s' = s := by
  have hentries : s'.entries = s.entries := by rw [h'.entries, hsame.entries, h.entries]
  have hlists : s'.ready.toList levels = s.ready.toList levels :=
    Except.ok.inj (h'.queue.toList_eq.symm.trans (hsame.ready.trans h.queue.toList_eq))
  have hready : s'.ready = s.ready := by
    funext p
    by_cases hp : p < levels
    · have hlookup : ∀ id, s'.lookup? id = s.lookup? id := fun id => by
        rw [Schedule.lookup?, hentries, Schedule.lookup?]
      rw [← hv'.filter_toList hp, ← hv.filter_toList hp, hlists]
      simp only [hlookup]
    · rw [h'.queue.outside p (not_lt.1 hp), h.queue.outside p (not_lt.1 hp)]
  obtain ⟨entries, ready, running, pending, tick⟩ := s
  obtain ⟨entries', ready', running', pending', tick'⟩ := s'
  cases hentries
  cases hready
  cases h'.running.trans (hsame.running.trans h.running.symm)
  cases h'.pending.trans (hsame.pending.trans h.pending.symm)
  cases h'.tick.trans (hsame.tick.trans h.tick.symm)
  rfl

/-! ## The invariant -/

/-- The scheduler invariant: the parts of the kernel agree, and each task was created
with a priority that is a level. -/
structure Sound (k : Kernel capacity levels) : Prop where
  wellFormed : k.WellFormed
  initial : ∀ id t, k.task? id = some t → t.attributes.priority < levels

/-- The lists of Ready tasks that can be read off the queue. -/
def waiting (k : Kernel capacity levels) : Waiting := fun p =>
  (k.queue.levelList k.tasks p).toOption.getD []

/-- The schedule that can be read off a kernel. -/
def schedule (k : Kernel capacity levels) : Schedule where
  entries := k.tasks.map Task.entry
  ready := k.waiting
  running := k.running
  pending := k.dispatchPending
  tick := k.tick

namespace WellFormed

variable {p q : Nat} {id : TaskId} {t : Task}

/-- The list of a level can be read. -/
theorem levelList_eq (h : k.WellFormed) (hp : p < levels) :
    k.queue.levelList k.tasks p = .ok (k.waiting p) := by
  obtain ⟨l, hl, -⟩ := h.circle p hp
  rw [waiting, hl]
  rfl

theorem circle_waiting (h : k.WellFormed) (hp : p < levels) :
    k.queue.head p = .ok (k.waiting p).head? ∧ (k.waiting p).Nodup ∧
      k.tasks.links.Ring (k.waiting p) ∧
      ∀ id ∈ k.waiting p, (k.task? id).isSome = true := by
  obtain ⟨l, hl, hrest⟩ := h.circle p hp
  rw [h.levelList_eq hp] at hl
  cases hl
  exact hrest

/-- Nobody waits at a priority that is no level. -/
theorem waiting_outside (hp : levels ≤ p) : k.waiting p = [] := by
  have hhead : k.queue.head p = .error .outOfBounds := dif_neg (not_lt.2 hp)
  unfold waiting ReadyQueue.levelList
  rw [hhead]
  rfl

/-- The bitmap knows the levels where somebody waits. -/
theorem contains_iff (h : k.WellFormed) (i : Position) :
    k.queue.bitmap.contains i = true ↔ k.waiting i.val ≠ [] := by
  rw [h.bitmap]
  constructor
  · rintro ⟨hi, hhead⟩ hempty
    have hcircle := (h.circle_waiting hi).1
    rw [ReadyQueue.head, dif_pos hi, hempty] at hcircle
    rw [Except.ok.inj hcircle] at hhead
    cases hhead
  · intro hne
    have hi : i.val < levels := by
      by_contra hge
      exact hne (waiting_outside (not_lt.1 hge))
    refine ⟨hi, ?_⟩
    have hcircle := (h.circle_waiting hi).1
    rw [ReadyQueue.head, dif_pos hi] at hcircle
    rw [Except.ok.inj hcircle, List.isSome_head?]
    exact hne

theorem lt_levels_of_mem_waiting (hid : id ∈ k.waiting p) : p < levels := by
  by_contra hge
  rw [waiting_outside (not_lt.1 hge)] at hid
  exact List.not_mem_nil hid

theorem isSome_of_mem_waiting (h : k.WellFormed) (hid : id ∈ k.waiting p) :
    (k.task? id).isSome = true :=
  (h.circle_waiting (lt_levels_of_mem_waiting hid)).2.2.2 id hid

/-- A level where somebody waits has its bit set. -/
theorem exists_position (h : k.WellFormed) (hid : id ∈ k.waiting p) :
    ∃ i : Position, i.val = p ∧ i ∈ k.queue.bitmap.toList := by
  have hp := (lt_levels_of_mem_waiting hid).trans_le k.queue.levels_le
  refine ⟨⟨p, hp⟩, rfl, ?_⟩
  rw [PriorityBitmap.mem_toList, h.contains_iff]
  exact List.ne_nil_of_mem hid

/-- The queue is listed level by level. -/
theorem readyTasks_eq (h : k.WellFormed) :
    k.readyTasks = .ok (k.queue.bitmap.toList.map fun i => k.waiting i.val).flatten := by
  have hlevels : ∀ i ∈ k.queue.bitmap.toList,
      k.queue.levelList k.tasks i.val = .ok (k.waiting i.val) := by
    intro i hi
    refine h.levelList_eq ?_
    by_contra hge
    rw [PriorityBitmap.mem_toList, h.contains_iff] at hi
    exact hi (waiting_outside (not_lt.1 hge))
  rw [readyTasks, ReadyQueue.toList, mapM_eq_ok hlevels]
  rfl

/-- No task is listed twice, at one level or at two. -/
theorem eq_of_mem_waiting (h : k.WellFormed) (hp : id ∈ k.waiting p) (hq : id ∈ k.waiting q) :
    p = q := by
  obtain ⟨ready, hready, hoccurs⟩ := h.occurs
  rw [h.readyTasks_eq, Except.ok.injEq] at hready
  have hnodup : (k.queue.bitmap.toList.map fun i => k.waiting i.val).flatten.Nodup := by
    refine List.nodup_iff_count_le_one.2 fun j => ?_
    by_cases hj : j ∈ (k.queue.bitmap.toList.map fun i => k.waiting i.val).flatten
    · obtain ⟨l, hl, hmem⟩ := List.mem_flatten.1 hj
      obtain ⟨i, -, rfl⟩ := List.mem_map.1 hl
      obtain ⟨t, ht⟩ := Option.isSome_iff_exists.1 (h.isSome_of_mem_waiting hmem)
      rw [hready, hoccurs j t ht]
      split <;> omega
    · rw [List.count_eq_zero.2 hj]
      omega
  have hdisjoint := List.pairwise_map.1 (List.nodup_flatten.1 hnodup).2
  obtain ⟨i, rfl, hi⟩ := h.exists_position hp
  obtain ⟨j, rfl, hj⟩ := h.exists_position hq
  have hsymm : Std.Symm fun i j : Position => (k.waiting i.val).Disjoint (k.waiting j.val) :=
    ⟨fun _ _ hij _ hj hi => hij hi hj⟩
  by_contra hne
  exact hdisjoint.forall hi hj (fun heq => hne (congrArg Fin.val heq)) hp hq

/-- A Ready task waits at the level of its priority, and nobody else waits. -/
theorem mem_waiting (h : k.WellFormed) :
    id ∈ k.waiting p ↔ ∃ t, k.task? id = some t ∧ t.state = .ready ∧ t.priority = p := by
  obtain ⟨ready, hready, hoccurs⟩ := h.occurs
  rw [h.readyTasks_eq, Except.ok.injEq] at hready
  constructor
  · intro hid
    obtain ⟨t, ht⟩ := Option.isSome_iff_exists.1 (h.isSome_of_mem_waiting hid)
    obtain ⟨i, rfl, hi⟩ := h.exists_position hid
    have hlisted : id ∈ ready := by
      rw [← hready]
      exact List.mem_flatten.2 ⟨_, List.mem_map.2 ⟨i, hi, rfl⟩, hid⟩
    have hstate : t.state = .ready := by
      by_contra hne
      have hcount := hoccurs id t ht
      rw [if_neg hne] at hcount
      exact List.count_eq_zero.1 hcount hlisted
    obtain ⟨hp, hlevel⟩ := h.level id t ht
    obtain ⟨l, hl, hmem⟩ := hlevel hstate
    rw [h.levelList_eq hp] at hl
    cases hl
    exact ⟨t, ht, hstate, h.eq_of_mem_waiting hmem hid⟩
  · rintro ⟨t, ht, hstate, rfl⟩
    obtain ⟨hp, hlevel⟩ := h.level id t ht
    obtain ⟨l, hl, hid⟩ := hlevel hstate
    rw [h.levelList_eq hp] at hl
    cases hl
    exact hid

/-- The queue holds the tasks that can be read off it. -/
theorem represents (h : k.WellFormed) : k.queue.Represents k.tasks k.waiting where
  heads p hp := by
    have hcircle := (h.circle_waiting hp).1
    rw [ReadyQueue.head, dif_pos hp] at hcircle
    exact Except.ok.inj hcircle
  ring p := by
    by_cases hp : p < levels
    · exact (h.circle_waiting hp).2.2.1
    · rw [waiting_outside (not_lt.1 hp)]
      exact Links.ring_nil
  nodup p := by
    by_cases hp : p < levels
    · exact (h.circle_waiting hp).2.1
    · rw [waiting_outside (not_lt.1 hp)]
      exact List.nodup_nil
  outside p hp := waiting_outside hp
  level p id hid := by
    obtain ⟨t, ht, -, hp⟩ := h.mem_waiting.1 hid
    exact ⟨t, ht, hp⟩
  linked id hlink := by
    cases ht : k.task? id with
    | none =>
      have hnone : k.tasks[id.index]? = none := ht
      rw [TaskTable.links, hnone] at hlink
      cases hlink
    | some t =>
      rw [TaskTable.links_of_getElem? ht] at hlink
      exact ⟨t.priority, h.mem_waiting.2 ⟨t, ht, (h.linked id t ht).1 hlink, rfl⟩⟩
  bitmap := h.contains_iff
  sound := h.summary

end WellFormed

/-- A kernel that meets the invariant stands for the schedule that can be read off
it. -/
theorem WellFormed.implements (h : k.WellFormed) : k.Implements k.schedule :=
  ⟨rfl, rfl, rfl, rfl, h.represents⟩

/-- This schedule is valid. -/
theorem Sound.valid (h : k.Sound) : k.schedule.Valid levels := by
  have himpl := h.wellFormed.implements
  have hentry : ∀ {id e}, k.schedule.lookup? id = some e →
      ∃ t, k.task? id = some t ∧ t.entry = e := by
    intro id e he
    rwa [himpl.lookup?_eq, Option.map_eq_some_iff] at he
  exact {
    bounded := fun id e he => by
      obtain ⟨t, ht, rfl⟩ := hentry he
      exact ⟨(h.wellFormed.level id t ht).1, h.initial id t ht⟩
    holder := fun id hid => h.wellFormed.holder id (by rwa [himpl.state?_eq] at hid)
    current := fun id hid => by
      obtain ⟨t, ht, hstate⟩ := h.wellFormed.current id hid
      exact ⟨t.entry, himpl.lookup?_of_task? ht, hstate⟩
    ready := fun id p => by
      refine h.wellFormed.mem_waiting.trans ⟨?_, ?_⟩
      · rintro ⟨t, ht, hready, hp⟩
        exact ⟨t.entry, himpl.lookup?_of_task? ht, hready, hp⟩
      · rintro ⟨e, he, hready, hp⟩
        obtain ⟨t, ht, rfl⟩ := hentry he
        exact ⟨t, ht, hready, hp⟩
    nodup := h.wellFormed.represents.nodup }

/-- The invariant holds exactly if the kernel stands for a valid schedule. -/
theorem sound_iff : k.Sound ↔ ∃ s, k.Implements s ∧ s.Valid levels := by
  constructor
  · intro h
    exact ⟨_, h.wellFormed.implements, h.valid⟩
  · rintro ⟨s, himpl, hv⟩
    refine ⟨himpl.wellFormed hv, fun id t ht => ?_⟩
    exact (hv.bounded id t.entry (himpl.lookup?_of_task? ht)).2

end Kernel

end HartKernel
