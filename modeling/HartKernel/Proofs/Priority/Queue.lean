import HartKernel.Priority.ReadyQueue
import HartKernel.Proofs.Priority.Bitmap
import HartKernel.Proofs.Task.Table

/-!
# The ready queue as one list for each level

Seen from outside the ready queue is a list of tasks for each priority level: a
task enters at the back of its level and leaves from wherever it is.  The links,
the first tasks and the bitmap are one way to hold such lists.

Main definitions:

- `Waiting` is a list for each level, `Waiting.push` and `Waiting.drop` move
  tasks, `Waiting.decide` weighs a running task against them.
- `ReadyQueue.Represents` says that a queue holds given lists.

Main results:

- `ReadyQueue.Represents.pushBack`, `ReadyQueue.Represents.remove` and
  `ReadyQueue.Represents.reorder`: the operations go well, change links only and
  do to the lists what they are meant to do.
- `ReadyQueue.Represents.decide_eq`, `ReadyQueue.Represents.levelList_eq` and
  `ReadyQueue.Represents.toList_eq`: what is read off the queue is read off the
  lists.
-/

namespace HartKernel

/-- The tasks that wait at each level, front first. -/
abbrev Waiting := Nat → List TaskId

namespace Waiting

/-- A task joins the back of a level. -/
def push (w : Waiting) (priority : Nat) (id : TaskId) : Waiting :=
  Function.update w priority (w priority ++ [id])

/-- A task leaves a level. -/
def drop (w : Waiting) (priority : Nat) (id : TaskId) : Waiting :=
  Function.update w priority ((w priority).erase id)

/-- The most urgent level where a task waits. -/
def highest? (w : Waiting) (levels : Nat) : Option Nat :=
  (List.range levels).find? fun p => !(w p).isEmpty

/-- The running task goes on only if it is more urgent than every waiting task;
otherwise the first task of the most urgent level takes over. -/
def decide (w : Waiting) (levels current : Nat) : Decision :=
  if current < (w.highest? levels).getD leastUrgent then .keep
  else .switchTo ((w.highest? levels).bind fun p => (w p).head?)

/-- All waiting tasks, most urgent level first. -/
def toList (w : Waiting) (levels : Nat) : List TaskId := (List.range levels).flatMap w

theorem highest?_eq_some_iff {w : Waiting} {levels p : Nat} :
    w.highest? levels = some p ↔ p < levels ∧ w p ≠ [] ∧ ∀ p' < p, w p' = [] := by
  rw [highest?, List.find?_range_eq_some]
  simp only [List.mem_range, Bool.not_eq_true', List.isEmpty_eq_false_iff, Bool.not_not,
    List.isEmpty_iff]
  exact and_left_comm

theorem highest?_eq_none_iff {w : Waiting} {levels : Nat} :
    w.highest? levels = none ↔ ∀ p < levels, w p = [] := by
  simp [highest?]

/-- The first of all waiting tasks is the first one of the most urgent level. -/
theorem head?_toList (w : Waiting) (levels : Nat) :
    (w.toList levels).head? = (w.highest? levels).bind fun p => (w p).head? := by
  unfold toList highest?
  induction List.range levels with
  | nil => rfl
  | cons p ps ih =>
    cases hw : w p with
    | nil => simpa [hw] using ih
    | cons a rest => simp [hw]

/-- No task waits if no level is the most urgent one. -/
theorem isEmpty_toList (w : Waiting) (levels : Nat) :
    (w.toList levels).isEmpty = (w.highest? levels).isNone := by
  rw [Bool.eq_iff_iff, List.isEmpty_iff, Option.isNone_iff_eq_none, highest?_eq_none_iff, toList,
    List.flatMap_eq_nil_iff]
  simp only [List.mem_range]

theorem mem_push {w : Waiting} {p p' : Nat} {id a : TaskId} :
    a ∈ w.push p id p' ↔ a ∈ w p' ∨ p' = p ∧ a = id := by
  unfold push
  by_cases hp : p' = p
  · subst hp
    simp
  · simp [hp]

theorem mem_drop {w : Waiting} {p p' : Nat} {id a : TaskId} (h : (w p).Nodup) :
    a ∈ w.drop p id p' ↔ a ∈ w p' ∧ ¬(p' = p ∧ a = id) := by
  unfold drop
  by_cases hp : p' = p
  · subst hp
    rw [Function.update_self, h.mem_erase_iff]
    simp [and_comm]
  · simp [hp]

theorem drop_eq_nil {w : Waiting} {p' : Nat} (h : w p' = []) (p : Nat) (id : TaskId) :
    w.drop p id p' = [] := by
  unfold drop
  by_cases hp : p' = p
  · subst hp
    rw [Function.update_self, h]
    rfl
  · rw [Function.update_of_ne hp]
    exact h

theorem nodup_push {w : Waiting} {p : Nat} {id : TaskId} (h : ∀ p', (w p').Nodup)
    (hid : id ∉ w p) (p' : Nat) : (w.push p id p').Nodup := by
  unfold push
  by_cases hp : p' = p
  · subst hp
    rw [Function.update_self]
    exact List.nodup_append_comm.1 (List.nodup_cons.2 ⟨hid, h p'⟩)
  · rw [Function.update_of_ne hp]
    exact h p'

theorem nodup_drop {w : Waiting} (h : ∀ p', (w p').Nodup) (p : Nat) (id : TaskId) (p' : Nat) :
    (w.drop p id p').Nodup := by
  unfold drop
  by_cases hp : p' = p
  · subst hp
    rw [Function.update_self]
    exact (h p').erase id
  · rw [Function.update_of_ne hp]
    exact h p'

end Waiting

namespace ReadyQueue

variable {levels : Nat} {q q' : ReadyQueue levels} {tasks tasks' : TaskTable} {w : Waiting}
variable {id : TaskId} {t : Task}

/-- A queue holds given lists: they are the circles of links in the task table,
level by level, and the queue knows the first task of each and which are empty. -/
structure Represents (q : ReadyQueue levels) (tasks : TaskTable) (w : Waiting) : Prop where
  heads : ∀ p (h : p < levels), q.heads[p] = (w p).head?
  ring : ∀ p, tasks.links.Ring (w p)
  nodup : ∀ p, (w p).Nodup
  outside : ∀ p, levels ≤ p → w p = []
  level : ∀ p, ∀ id ∈ w p, ∃ t, tasks[id.index]? = some t ∧ t.priority = p
  linked : ∀ id, (tasks.links id).isSome = true → ∃ p, id ∈ w p
  bitmap : ∀ i : Position, q.bitmap.contains i = true ↔ w i.val ≠ []
  sound : q.bitmap.Sound

/-- The empty queue goes with every table without links. -/
theorem represents_empty (h : levels ≤ 4096) (hlinks : ∀ id, tasks.links id = none) :
    (empty h).Represents tasks fun _ => [] where
  heads p hp := by simp [empty]
  ring _ := Links.ring_nil
  nodup _ := List.nodup_nil
  outside _ _ := rfl
  level _ _ hid := absurd hid List.not_mem_nil
  linked id hid := by simp [hlinks id] at hid
  bitmap i := by simp [empty]
  sound := PriorityBitmap.sound_empty

namespace Represents

theorem lt_levels (h : q.Represents tasks w) {p : Nat} (hid : id ∈ w p) : p < levels := by
  by_contra hp
  rw [h.outside p (not_lt.1 hp)] at hid
  exact List.not_mem_nil hid

/-- A linked task waits at the level of its priority. -/
theorem mem_of_link (h : q.Represents tasks w) (ht : tasks[id.index]? = some t) {l : Link}
    (hlink : t.link = some l) : id ∈ w t.priority := by
  have hsome : (tasks.links id).isSome = true := by
    rw [TaskTable.links_of_getElem? ht, hlink]
    rfl
  obtain ⟨p, hp⟩ := h.linked id hsome
  obtain ⟨t', ht', rfl⟩ := h.level p id hp
  rw [ht, Option.some.injEq] at ht'
  exact ht' ▸ hp

/-- A task without a link does not wait. -/
theorem not_mem_of_link (h : q.Represents tasks w) (ht : tasks[id.index]? = some t)
    (hlink : t.link = none) (p : Nat) : id ∉ w p := by
  intro hid
  have hsome := (h.ring p).isSome hid
  rw [TaskTable.links_of_getElem? ht, hlink] at hsome
  exact Bool.false_ne_true hsome

theorem eq_of_mem (h : q.Represents tasks w) {p p' : Nat} (hp : id ∈ w p) (hp' : id ∈ w p') :
    p = p' := by
  obtain ⟨t, ht, rfl⟩ := h.level p id hp
  obtain ⟨t', ht', rfl⟩ := h.level p' id hp'
  rw [ht, Option.some.injEq] at ht'
  rw [ht']

/-- The queue depends on links and priorities only. -/
theorem congr_tasks (h : q.Represents tasks w) (hlinks : ∀ id, tasks'.links id = tasks.links id)
    (hlevel : ∀ p, ∀ id ∈ w p, ∃ t, tasks'[id.index]? = some t ∧ t.priority = p) :
    q.Represents tasks' w where
  heads := h.heads
  ring p := (h.ring p).congr fun a _ => hlinks a
  nodup := h.nodup
  outside := h.outside
  level := hlevel
  linked id hid := h.linked id (by rwa [hlinks] at hid)
  bitmap := h.bitmap
  sound := h.sound

/-- One level gets another list.  What has to be shown is about that level. -/
theorem change_level (h : q.Represents tasks w) {p : Nat} {l : List TaskId} (hp : p < levels)
    (hrecords : TaskTable.SameRecords tasks tasks')
    (hhead : ∀ p' (h' : p' < levels), q'.heads[p'] = if p' = p then l.head? else q.heads[p'])
    (hbitmap : ∀ i : Position, q'.bitmap.contains i = true ↔
      if i.val = p then l ≠ [] else q.bitmap.contains i = true)
    (hsound : q'.bitmap.Sound) (hring : tasks'.links.Ring l) (hnodup : l.Nodup)
    (hlevel : ∀ id ∈ l, ∃ t, tasks[id.index]? = some t ∧ t.priority = p)
    (hleft : ∀ id ∈ w p, id ∉ l → tasks'.links id = none)
    (hothers : ∀ id, id ∉ w p → id ∉ l → tasks'.links id = tasks.links id) :
    q'.Represents tasks' (Function.update w p l) := by
  have hkeep : ∀ p' ≠ p, ∀ id ∈ w p', tasks'.links id = tasks.links id := by
    intro p' hne id hid
    refine hothers id (fun hid' => hne (h.eq_of_mem hid hid')) (fun hl => hne ?_)
    obtain ⟨t, ht, hpri⟩ := hlevel id hl
    obtain ⟨t', ht', hpri'⟩ := h.level p' id hid
    rw [ht, Option.some.injEq] at ht'
    rw [← hpri, ← hpri', ht']
  have hrecord : ∀ id : TaskId, ∀ p', (∃ t, tasks[id.index]? = some t ∧ t.priority = p') →
      ∃ t, tasks'[id.index]? = some t ∧ t.priority = p' := by
    rintro id p' ⟨t, ht, rfl⟩
    obtain ⟨t', ht', heq⟩ := hrecords.exists_of_getElem? ht
    have hpriority : t'.unlinked.priority = t.unlinked.priority := congrArg Task.priority heq
    exact ⟨t', ht', hpriority⟩
  constructor
  · intro p' hp'
    rw [hhead]
    by_cases hpp : p' = p
    · subst hpp
      simp
    · rw [if_neg hpp, Function.update_of_ne hpp]
      exact h.heads p' hp'
  · intro p'
    by_cases hpp : p' = p
    · subst hpp
      simpa using hring
    · rw [Function.update_of_ne hpp]
      exact (h.ring p').congr (hkeep p' hpp)
  · intro p'
    by_cases hpp : p' = p
    · subst hpp
      simpa using hnodup
    · rw [Function.update_of_ne hpp]
      exact h.nodup p'
  · intro p' hp'
    have hpp : p' ≠ p := by omega
    rw [Function.update_of_ne hpp]
    exact h.outside p' hp'
  · intro p' id hid
    by_cases hpp : p' = p
    · subst hpp
      rw [Function.update_self] at hid
      exact hrecord id p' (hlevel id hid)
    · rw [Function.update_of_ne hpp] at hid
      exact hrecord id p' (h.level p' id hid)
  · intro id hid
    by_cases hl : id ∈ l
    · exact ⟨p, by simpa using hl⟩
    · by_cases hw : id ∈ w p
      · rw [hleft id hw hl] at hid
        exact absurd hid Bool.false_ne_true
      · rw [hothers id hw hl] at hid
        obtain ⟨p', hp'⟩ := h.linked id hid
        have hpp : p' ≠ p := fun e => hw (e ▸ hp')
        exact ⟨p', by rwa [Function.update_of_ne hpp]⟩
  · intro i
    rw [hbitmap]
    by_cases hpp : i.val = p
    · rw [if_pos hpp, hpp, Function.update_self]
    · rw [if_neg hpp, Function.update_of_ne hpp]
      exact h.bitmap i
  · exact hsound

end Represents

/-! ## The first tasks and the bitmap -/

theorem heads_setHead {p : Nat} (h : p < levels) (id : Option TaskId) (p' : Nat)
    (h' : p' < levels) : (q.setHead p h id).heads[p'] = if p' = p then id else q.heads[p'] := by
  by_cases hpp : p' = p
  · subst hpp
    simp [setHead]
  · rw [if_neg hpp]
    exact Vector.getElem_set_ne h h' (Ne.symm hpp)

theorem contains_setHead {p : Nat} (h : p < levels) (id : Option TaskId) (i : Position) :
    (q.setHead p h id).bitmap.contains i = true ↔
      if i.val = p then id.isSome = true else q.bitmap.contains i = true := by
  have heq : ∀ hp : p < 4096, (⟨p, hp⟩ : Position) = i ↔ i.val = p := by
    intro hp
    rw [Fin.ext_iff, eq_comm]
  simp only [setHead]
  by_cases hid : id.isSome = true
  · rw [if_pos hid, PriorityBitmap.contains_insert, Bool.or_eq_true, decide_eq_true_iff, heq]
    split <;> simp_all
  · rw [if_neg hid, PriorityBitmap.contains_erase, Bool.and_eq_true, Bool.not_eq_true',
      decide_eq_false_iff_not, heq]
    split <;> simp_all

theorem sound_setHead (hq : q.bitmap.Sound) {p : Nat} (h : p < levels) (id : Option TaskId) :
    (q.setHead p h id).bitmap.Sound := by
  simp only [setHead]
  split
  · exact PriorityBitmap.sound_insert hq _
  · exact PriorityBitmap.sound_erase hq _

/-! ## Moving tasks -/

namespace Represents

/-- An unlinked task joins the back of its level. -/
theorem pushBack (h : q.Represents tasks w) (ht : tasks[id.index]? = some t)
    (hlink : t.link = none) (hp : t.priority < levels) :
    ∃ q' tasks', q.pushBack tasks id = .ok (q', tasks') ∧ TaskTable.SameRecords tasks tasks' ∧
      q'.Represents tasks' (w.push t.priority id) := by
  have hsize : id.index < tasks.size := (Array.getElem?_eq_some_iff.1 ht).1
  have hid : id ∉ w t.priority := h.not_mem_of_link ht hlink _
  have hlevel : ∀ a ∈ w t.priority ++ [id],
      ∃ t', tasks[a.index]? = some t' ∧ t'.priority = t.priority := by
    intro a ha
    rcases List.mem_append.1 ha with ha | ha
    · exact h.level _ a ha
    · rw [List.mem_singleton.1 ha]
      exact ⟨t, ht, rfl⟩
  unfold ReadyQueue.pushBack
  rw [TaskTable.fetch_eq_ok ht, ok_bind, Panic.require_of hlink, ok_bind, dif_pos hp,
    h.heads _ hp]
  unfold Waiting.push
  cases hw : w t.priority with
  | nil =>
    rw [hw] at hlevel
    have hlinks := TaskTable.links_setLink hsize (some ⟨id, id⟩)
    have hrecords := TaskTable.sameRecords_setLink tasks id (some ⟨id, id⟩)
    refine ⟨_, _, rfl, hrecords, ?_⟩
    refine h.change_level hp hrecords (heads_setHead hp _) (fun i => ?_)
      (sound_setHead h.sound hp _) ?_ (List.nodup_singleton _) hlevel ?_ ?_
    · rw [contains_setHead]
      simp
    · exact Links.ring_singleton ((hlinks id).trans (if_pos rfl))
    · simp [hw]
    · intro a _ ha
      exact (hlinks a).trans (if_neg fun e => ha (by simp [e]))
  | cons first rest =>
    have hring := h.ring t.priority
    have hnodup := h.nodup t.priority
    rw [hw] at hlevel hid hring hnodup
    obtain ⟨⟨last, second⟩, hfirst⟩ :=
      Option.isSome_iff_exists.1 (hring.isSome List.mem_cons_self)
    obtain ⟨tasks₁, tasks₂, hout, hinto, hrecords, hring', hothers⟩ :=
      TaskTable.exists_link_behind hring hnodup hfirst hsize hid
    rw [TaskTable.setLink] at hout
    simp only [List.head?_cons]
    rw [TaskTable.link_eq_ok hfirst, ok_bind, hout, ok_bind, hinto, ok_bind]
    refine ⟨_, _, rfl, hrecords, ?_⟩
    refine h.change_level hp hrecords (heads_setHead hp _) (fun i => ?_)
      (sound_setHead h.sound hp _) hring' ?_ hlevel ?_ ?_
    · rw [contains_setHead]
      simp
    · refine List.nodup_append.2 ⟨hnodup, List.nodup_singleton _, fun a ha b hb e => ?_⟩
      rw [List.mem_singleton.1 hb] at e
      exact hid (e ▸ ha)
    · intro a ha hna
      rw [hw] at ha
      exact absurd (List.mem_append_left _ ha) hna
    · intro a ha hna
      rw [hw] at ha
      exact hothers a ha fun e => hna (e ▸ List.mem_append_right _ List.mem_cons_self)

/-- A level loses a task.  What has to be shown is about the other tasks. -/
theorem drop_level (h : q.Represents tasks w) {p : Nat} (hid : id ∈ w p)
    (hrecords : TaskTable.SameRecords tasks tasks')
    (hheads : ∀ p' (h' : p' < levels), q'.heads[p'] =
      if p' = p then ((w p).erase id).head? else q.heads[p'])
    (hbitmap : ∀ i : Position, q'.bitmap.contains i = true ↔
      if i.val = p then (w p).erase id ≠ [] else q.bitmap.contains i = true)
    (hsound : q'.bitmap.Sound) (hring : tasks'.links.Ring ((w p).erase id))
    (hnone : tasks'.links id = none)
    (hothers : ∀ a, a ∉ w p → tasks'.links a = tasks.links a) :
    q'.Represents tasks' (w.drop p id) := by
  refine h.change_level (h.lt_levels hid) hrecords hheads hbitmap hsound hring
    ((h.nodup p).erase id) (fun a ha => ?_) (fun a ha hna => ?_) (fun a ha _ => hothers a ha)
  · exact h.level p a (List.mem_of_mem_erase ha)
  · have hgone : a = id := by
      by_contra hne
      exact hna ((List.mem_erase_of_ne hne).2 ha)
    rw [hgone]
    exact hnone

/-- A task that waits leaves its level. -/
theorem remove (h : q.Represents tasks w) (ht : tasks[id.index]? = some t)
    (hid : id ∈ w t.priority) :
    ∃ q' tasks', q.remove tasks id = .ok (q', tasks') ∧ TaskTable.SameRecords tasks tasks' ∧
      tasks'.links id = none ∧ q'.Represents tasks' (w.drop t.priority id) := by
  have hp : t.priority < levels := h.lt_levels hid
  have hring := h.ring t.priority
  have hnodup := h.nodup t.priority
  obtain ⟨⟨prev, next⟩, hlink⟩ := Option.isSome_iff_exists.1 (hring.isSome hid)
  obtain ⟨-, hnextmem, hsingle⟩ := hring.neighbours hnodup hid hlink
  unfold ReadyQueue.remove
  rw [TaskTable.fetch_eq_ok ht, ok_bind, TaskTable.link_eq_ok hlink, ok_bind]
  simp only
  by_cases hself : next = id
  · have hw : w t.priority = [id] := hsingle (.inr hself)
    have herase : (w t.priority).erase id = [] := by simp [hw]
    have hhead : q.heads[t.priority] = some id := by rw [h.heads _ hp, hw]; rfl
    have hlinks := TaskTable.links_setLink (TaskTable.index_lt_of_links hlink) none
    have hnone : (tasks.setLink id none).links id = none := (hlinks id).trans (if_pos rfl)
    have hrecords := TaskTable.sameRecords_setLink tasks id none
    rw [if_pos hself, dif_pos hp, Panic.require_of hhead, ok_bind]
    refine ⟨_, _, rfl, hrecords, hnone, ?_⟩
    refine h.drop_level hid hrecords (fun p' hp' => ?_) (fun i => ?_)
      (sound_setHead h.sound hp _) ?_ hnone (fun a ha => ?_)
    · rw [heads_setHead, herase]
      rfl
    · rw [contains_setHead, herase]
      simp
    · rw [herase]
      exact Links.ring_nil
    · have hne : a ≠ id := fun e => ha (e ▸ hid)
      exact (hlinks a).trans (if_neg hne)
  · obtain ⟨tasks₁, tasks₂, hout, hinto, hrecords, hring', hnone, hothers⟩ :=
      TaskTable.exists_unlink hring hnodup hid hlink hself
    rw [TaskTable.setLink] at hout
    rw [if_neg hself, hout, ok_bind, hinto, ok_bind, dif_pos hp]
    have hmark : ∀ i : Position, q.bitmap.contains i = true ↔
        if i.val = t.priority then (w t.priority).erase id ≠ []
        else q.bitmap.contains i = true := by
      intro i
      split
      · rename_i hi
        rw [h.bitmap, hi]
        exact iff_of_true (List.ne_nil_of_mem hid)
          (List.ne_nil_of_mem ((List.mem_erase_of_ne hself).2 hnextmem))
      · rfl
    by_cases hhead : q.heads[t.priority] = some id
    · rw [if_pos hhead]
      refine ⟨_, _, rfl, hrecords, hnone, ?_⟩
      refine h.drop_level hid hrecords (fun p' hp' => ?_) hmark h.sound hring' hnone hothers
      rw [h.heads _ hp] at hhead
      obtain ⟨rest, hw⟩ := List.head?_eq_some_iff.1 hhead
      rw [hw] at hring
      rw [hw, List.erase_cons_head, hring.head_erase hlink hself]
      exact heads_setHead hp _ p' hp'
    · rw [if_neg hhead]
      refine ⟨_, _, rfl, hrecords, hnone, ?_⟩
      refine h.drop_level hid hrecords (fun p' hp' => ?_) hmark h.sound hring' hnone hothers
      split
      · rename_i hpp
        subst hpp
        rw [h.heads _ hp] at hhead ⊢
        cases hw : w t.priority with
        | nil => rfl
        | cons first rest =>
          rw [hw, List.head?_cons, Option.some.injEq] at hhead
          rw [List.erase_cons_tail (by simpa using hhead)]
          rfl
      · rfl

/-- A task that waits gets a new priority and joins the back of the new level. -/
theorem reorder (h : q.Represents tasks w) (ht : tasks[id.index]? = some t)
    (hid : id ∈ w t.priority) {p : Nat} (hp : p < levels) :
    ∃ q' tasks', q.reorder tasks id p = .ok (q', tasks') ∧
      TaskTable.SameRecords (tasks.update id fun t => { t with priority := p }) tasks' ∧
      q'.Represents tasks' ((w.drop t.priority id).push p id) := by
  obtain ⟨q₁, tasks₁, hremove, hrecords, hnone, hq₁⟩ := h.remove ht hid
  obtain ⟨t₁, ht₁, hsame⟩ := hrecords.exists_of_getElem? ht
  have hlink₁ : t₁.link = none := by rwa [TaskTable.links_of_getElem? ht₁] at hnone
  have hgone : ∀ p', id ∉ (w.drop t.priority id) p' := hq₁.not_mem_of_link ht₁ hlink₁
  have hupdate := TaskTable.getElem?_update tasks₁ id fun t => { t with priority := p }
  have hq₂ : q₁.Represents (tasks₁.update id fun t => { t with priority := p })
      (w.drop t.priority id) := by
    refine hq₁.congr_tasks (fun a => ?_) (fun p' a ha => ?_)
    · simp only [TaskTable.links, hupdate]
      split
      · cases tasks₁[a.index]? <;> rfl
      · rfl
    · obtain ⟨t', ht', hpri⟩ := hq₁.level p' a ha
      have hne : id.index ≠ a.index := by
        intro e
        have haid : a = id := TaskId.index_injective e.symm
        exact hgone p' (haid ▸ ha)
      rw [hupdate, if_neg hne]
      exact ⟨t', ht', hpri⟩
  have ht₂ : (tasks₁.update id fun t => { t with priority := p })[id.index]? =
      some { t₁ with priority := p } := by
    rw [hupdate, if_pos rfl, ht₁]
    rfl
  obtain ⟨q', tasks', hpush, hrecords', hq'⟩ := hq₂.pushBack ht₂ hlink₁ hp
  unfold ReadyQueue.reorder
  rw [hremove, ok_bind]
  exact ⟨q', tasks', hpush, (hrecords.update id fun t t' e =>
    congrArg (fun t => { t with priority := p }) e).trans hrecords', hq'⟩

/-! ## Reading the queue -/

theorem highest?_eq (h : q.Represents tasks w) : q.highest? = .ok (w.highest? levels) := by
  unfold ReadyQueue.highest?
  cases hw : w.highest? levels with
  | none =>
    rw [Waiting.highest?_eq_none_iff] at hw
    have hempty : ∀ i, q.bitmap.contains i = false := by
      intro i
      rw [← Bool.not_eq_true, h.bitmap, not_not]
      by_cases hi : i.val < levels
      · exact hw _ hi
      · exact h.outside _ (not_lt.1 hi)
    rw [PriorityBitmap.lowest?_eq_none h.sound hempty]
    rfl
  | some p =>
    obtain ⟨hp, hne, hlow⟩ := Waiting.highest?_eq_some_iff.1 hw
    let i : Position := ⟨p, hp.trans_le q.levels_le⟩
    have hlowest : ∀ j, q.bitmap.contains j = true → i ≤ j := by
      intro j hj
      by_contra hlt
      exact (h.bitmap j).1 hj (hlow _ (not_le.1 hlt))
    rw [PriorityBitmap.lowest?_eq_some h.sound ((h.bitmap i).2 hne) hlowest]
    rfl

theorem decide_eq (h : q.Represents tasks w) (current : Nat) :
    q.decide current = .ok (w.decide levels current) := by
  unfold ReadyQueue.decide Waiting.decide
  rw [h.highest?_eq, ok_bind]
  by_cases hlt : current < (w.highest? levels).getD leastUrgent
  · simp only [hlt, if_true]
    rfl
  · simp only [hlt, if_false]
    cases hw : w.highest? levels with
    | none =>
      have hle : levels ≤ leastUrgent := q.levels_le.trans (by decide)
      rw [Option.getD_none, dif_neg (not_lt.2 hle)]
      rfl
    | some p =>
      have hp := (Waiting.highest?_eq_some_iff.1 hw).1
      rw [Option.getD_some, dif_pos hp, h.heads p hp]
      rfl

theorem front?_eq (h : q.Represents tasks w) : q.front? = .ok (w.toList levels).head? := by
  unfold front?
  rw [h.highest?_eq, ok_bind, Waiting.head?_toList]
  cases hw : w.highest? levels with
  | none => rfl
  | some p =>
    have hp := (Waiting.highest?_eq_some_iff.1 hw).1
    rw [Option.bind_some, ← h.heads p hp]
    exact dif_pos hp

theorem isEmpty_eq (h : q.Represents tasks w) : q.isEmpty = .ok (w.toList levels).isEmpty := by
  unfold isEmpty
  rw [h.highest?_eq, ok_bind, Waiting.isEmpty_toList]
  rfl

/-- Following a circle from one of its tasks on lists the tasks up to the last. -/
theorem walk_eq {first a : TaskId} {rest : List TaskId} {count : Nat}
    (h : (a :: (rest ++ [first])).IsChain tasks.links.Follows) (hfirst : first ∉ rest)
    (hcount : rest.length < count) : walk tasks first count a = .ok (a :: rest) := by
  induction rest generalizing a count with
  | nil =>
    obtain ⟨count, rfl⟩ := Nat.exists_eq_add_one.2 hcount
    have hnext := (List.isChain_cons_cons.1 h).1.1
    obtain ⟨l, hl, rfl⟩ := Option.map_eq_some_iff.1 hnext
    rw [walk, TaskTable.link_eq_ok hl, ok_bind, if_pos rfl]
    rfl
  | cons b rest ih =>
    obtain ⟨count, rfl⟩ := Nat.exists_eq_add_one.2 (Nat.zero_lt_of_lt hcount)
    obtain ⟨hfollows, hrest⟩ := List.isChain_cons_cons.1 h
    obtain ⟨l, hl, rfl⟩ := Option.map_eq_some_iff.1 hfollows.1
    have hne : l.next ≠ first := fun e => hfirst (e ▸ List.mem_cons_self)
    have hlater := ih hrest (fun hmem => hfirst (List.mem_cons_of_mem _ hmem))
      (Nat.lt_of_succ_lt_succ hcount)
    rw [walk, TaskTable.link_eq_ok hl, ok_bind, if_neg hne, hlater]
    rfl

theorem mem_toList (h : q.Represents tasks w) : id ∈ w.toList levels ↔ ∃ p, id ∈ w p := by
  rw [Waiting.toList, List.mem_flatMap]
  constructor
  · rintro ⟨p, -, hp⟩
    exact ⟨p, hp⟩
  · rintro ⟨p, hp⟩
    exact ⟨p, List.mem_range.2 (h.lt_levels hp), hp⟩

/-- No level has more tasks than the task table. -/
theorem length_le (h : q.Represents tasks w) (p : Nat) : (w p).length ≤ tasks.size := by
  have hnodup := (h.nodup p).map TaskId.index_injective
  have hsub : (w p).map TaskId.index ⊆ List.range tasks.size := by
    intro i hi
    obtain ⟨id, hid, rfl⟩ := List.mem_map.1 hi
    obtain ⟨t, ht, -⟩ := h.level p id hid
    exact List.mem_range.2 (Array.getElem?_eq_some_iff.1 ht).1
  have hle := (List.subperm_of_subset hnodup hsub).length_le
  rwa [List.length_map, List.length_range] at hle

theorem levelList_eq (h : q.Represents tasks w) {p : Nat} (hp : p < levels) :
    q.levelList tasks p = .ok (w p) := by
  unfold levelList head
  rw [dif_pos hp, ok_bind, h.heads p hp]
  cases hw : w p with
  | nil => rfl
  | cons first rest =>
    have hring := h.ring p
    have hnodup := h.nodup p
    have hle := h.length_le p
    rw [hw] at hring hnodup hle
    exact walk_eq hring (List.nodup_cons.1 hnodup).1 hle

theorem toList_eq (h : q.Represents tasks w) : q.toList tasks = .ok (w.toList levels) := by
  have hlt : ∀ i ∈ q.bitmap.toList, i.val < levels := by
    intro i hi
    rw [PriorityBitmap.mem_toList, h.bitmap] at hi
    by_contra hge
    exact hi (h.outside _ (not_lt.1 hge))
  have hlevels : ∀ i ∈ q.bitmap.toList, q.levelList tasks i.val = .ok (w i.val) :=
    fun i hi => h.levelList_eq (hlt i hi)
  have hfilter : q.bitmap.toList = (List.finRange 4096).filter fun i => !(w i.val).isEmpty := by
    rw [PriorityBitmap.toList_eq_filter]
    refine List.filter_congr fun i _ => ?_
    rw [Bool.eq_iff_iff, h.bitmap]
    simp
  have hall : (List.range levels).flatMap w = (List.range 4096).flatMap w := by
    rw [show 4096 = levels + (4096 - levels) from (Nat.add_sub_of_le q.levels_le).symm,
      List.range_add, List.flatMap_append, List.self_eq_append_right, List.flatMap_map]
    exact List.flatMap_eq_nil_iff.2 fun p _ => h.outside _ (Nat.le_add_right _ _)
  unfold ReadyQueue.toList Waiting.toList
  rw [mapM_eq_ok hlevels, ok_bind, hall, hfilter]
  have hmap : (List.finRange 4096).map (fun i => w i.val) = (List.range 4096).map w := by
    rw [← List.map_coe_finRange_eq_range, List.map_map, Function.comp_def]
  have hflat : (((List.finRange 4096).filter fun i => !(w i.val).isEmpty).map
      fun i => w i.val).flatten = (List.range 4096).flatMap w := by
    have hnonempty := List.flatten_filter_not_isEmpty (L := (List.range 4096).map w)
    rw [← hmap, List.filter_map, Function.comp_def] at hnonempty
    rw [hnonempty, hmap, List.flatMap_def]
  exact congrArg Except.ok hflat

end Represents

end ReadyQueue

end HartKernel
