import HartKernel.Proofs.Schedule.Refinement

/-!
# One kernel for each schedule

The lists of Ready tasks determine how they are held: the links of the circles, the
first task of each level and the bitmap.  So what a kernel does beside its schedule
is what it keeps in the contexts of its tasks.

Main results:

- `PriorityBitmap.eq_of_contains`: a bitmap that keeps its promise is determined by
  its positions.
- `Links.Ring.link_first`: a circle tells the neighbours of its first task, and, as it
  can be read from any task, those of all of them.
- `ReadyQueue.Represents.queue_eq` and `ReadyQueue.Represents.links_eq`: queues that
  hold the same lists are equal, and so are the links of their tasks.
- `Kernel.Implements.eq_of_sameContexts`: kernels that stand for the same schedule and
  have the same contexts are equal.
-/

namespace HartKernel

/-- A bitmap that keeps its promise is determined by its positions. -/
theorem PriorityBitmap.eq_of_contains {b b' : PriorityBitmap} (hb : b.Sound) (hb' : b'.Sound)
    (h : ∀ i, b.contains i = b'.contains i) : b = b' := by
  have hgroup : ∀ g : Fin 64, b.groups.get g = b'.groups.get g := by
    intro g
    apply BitVec.eq_of_getLsbD_eq
    intro j hj
    have hbit := h (.ofGroup g ⟨j, hj⟩)
    rwa [contains_ofGroup, contains_ofGroup] at hbit
  have hgroups : b.groups = b'.groups := Vector.ext fun g hg => hgroup ⟨g, hg⟩
  have hsummary : b.summary = b'.summary := by
    apply BitVec.eq_of_getLsbD_eq
    intro g hg
    rw [Bool.eq_iff_iff]
    exact (hb ⟨g, hg⟩).trans (hgroup ⟨g, hg⟩ ▸ (hb' ⟨g, hg⟩).symm)
  cases b
  cases b'
  exact congrArg₂ _ hsummary hgroups

namespace Links

variable {links links' : Links} {a first : TaskId} {l rest : List TaskId}

/-- A circle tells the neighbours of its first task. -/
theorem Ring.link_first (h : links.Ring (first :: rest)) :
    links first = some ⟨(first :: rest).getLast (List.cons_ne_nil _ _),
      (rest ++ [first]).head (List.append_ne_nil_of_right_ne_nil _ (List.cons_ne_nil _ _))⟩ := by
  have hprev := h.follows_last.2
  have hnext : (links first).map Link.next = (rest ++ [first]).head? := by
    cases rest with
    | nil => exact h.follows_last.1
    | cons second rest => exact (List.isChain_cons_cons.1 h.isChain).1.1
  rw [List.head?_eq_some_head (List.append_ne_nil_of_right_ne_nil _ (List.cons_ne_nil _ _))]
    at hnext
  obtain ⟨link, hlink, hlinkPrev⟩ := Option.map_eq_some_iff.1 hprev
  rw [hlink, Option.map_some, Option.some.injEq] at hnext
  rw [hlink, ← hlinkPrev, ← hnext]

/-- A task has the same neighbours in every table where its circle is the same. -/
theorem Ring.link_eq (h : links.Ring l) (h' : links'.Ring l) (ha : a ∈ l) :
    links a = links' a := by
  obtain ⟨before, after, rfl⟩ := List.append_of_mem ha
  rw [h.rotate.link_first, h'.rotate.link_first]

end Links

namespace ReadyQueue.Represents

variable {levels : Nat} {q q' : ReadyQueue levels} {tasks tasks' : TaskTable} {w : Waiting}

/-- Queues that hold the same lists are equal. -/
theorem queue_eq (h : q.Represents tasks w) (h' : q'.Represents tasks' w) : q = q' := by
  have hheads : q.heads = q'.heads :=
    Vector.ext fun p hp => (h.heads p hp).trans (h'.heads p hp).symm
  have hbitmap : q.bitmap = q'.bitmap := by
    refine PriorityBitmap.eq_of_contains h.sound h'.sound fun i => ?_
    rw [Bool.eq_iff_iff, h.bitmap, h'.bitmap]
  cases q
  cases q'
  cases hheads
  cases hbitmap
  rfl

/-- Tasks that wait in the same lists have the same links. -/
theorem links_eq (h : q.Represents tasks w) (h' : q'.Represents tasks' w) (id : TaskId) :
    tasks.links id = tasks'.links id := by
  by_cases hwaits : ∃ p, id ∈ w p
  · obtain ⟨p, hp⟩ := hwaits
    exact (h.ring p).link_eq (h'.ring p) hp
  · -- a task outside the lists is not linked in either table
    have hnone : ∀ {q : ReadyQueue levels} {tasks : TaskTable}, q.Represents tasks w →
        tasks.links id = none := fun h =>
      Option.not_isSome_iff_eq_none.1 fun hsome => hwaits (h.linked id hsome)
    rw [hnone h, hnone h']

end ReadyQueue.Represents

/-- A task record is what the scheduler knows of it, its link and the rest. -/
theorem Task.eq_of_parts {t t' : Task} (hcontext : t.context = t'.context)
    (hentry : t.entry = t'.entry) (hlink : t.link = t'.link) : t = t' := by
  obtain ⟨attributes, stack, savedSp, frameKind, priority, state, link⟩ := t
  obtain ⟨attributes', stack', savedSp', frameKind', priority', state', link'⟩ := t'
  simp only [context, entry, Task.mk.injEq, Entry.mk.injEq] at hcontext hentry hlink ⊢
  exact ⟨hcontext.1, hcontext.2.1, hcontext.2.2.1, hcontext.2.2.2.1, hentry.2.1, hentry.1, hlink⟩

theorem TaskTable.SameContexts.symm {tasks tasks' : TaskTable} (h : tasks.SameContexts tasks') :
    tasks'.SameContexts tasks :=
  Eq.symm h

theorem TaskTable.eq_of_parts {tasks tasks' : TaskTable} (hcontexts : tasks.SameContexts tasks')
    (hentries : tasks.map Task.entry = tasks'.map Task.entry)
    (hlinks : ∀ id, tasks.links id = tasks'.links id) : tasks = tasks' := by
  apply Array.ext_getElem?
  intro i
  have hcontext : tasks'[i]?.map Task.context = tasks[i]?.map Task.context := by
    rw [← Array.getElem?_map, ← Array.getElem?_map, hcontexts]
  have hentry : tasks[i]?.map Task.entry = tasks'[i]?.map Task.entry := by
    rw [← Array.getElem?_map, ← Array.getElem?_map, hentries]
  have hlink : tasks[i]?.bind Task.link = tasks'[i]?.bind Task.link := hlinks ⟨i⟩
  cases ht : tasks[i]? with
  | none =>
    rw [ht, Option.map_none, Option.map_eq_none_iff] at hcontext
    exact hcontext.symm
  | some t =>
    rw [ht, Option.map_some] at hcontext
    obtain ⟨t', ht', hsame⟩ := Option.map_eq_some_iff.1 hcontext
    rw [ht, ht'] at hentry hlink
    rw [ht', Task.eq_of_parts hsame.symm (Option.some.inj hentry) hlink]

namespace Kernel

variable {capacity levels : Nat} {k k' : Kernel capacity levels} {s : Schedule}

/-- Kernels that stand for the same schedule and have the same contexts are equal. -/
theorem Implements.eq_of_sameContexts (h : k.Implements s) (h' : k'.Implements s)
    (hcontexts : k.tasks.SameContexts k'.tasks) : k = k' := by
  have htasks : k.tasks = k'.tasks :=
    TaskTable.eq_of_parts hcontexts (h.entries.symm.trans h'.entries) (h.queue.links_eq h'.queue)
  have hqueue : k.queue = k'.queue := h.queue.queue_eq h'.queue
  have hrunning : k.running = k'.running := h.running.symm.trans h'.running
  have hpending : k.dispatchPending = k'.dispatchPending := h.pending.symm.trans h'.pending
  have htick : k.tick = k'.tick := h.tick.symm.trans h'.tick
  cases k
  cases k'
  cases htasks
  cases hqueue
  cases hrunning
  cases hpending
  cases htick
  rfl

end Kernel

end HartKernel
