import HartKernel.Proofs.Outcome
import HartKernel.Proofs.Priority.Ring

/-!
# Links in the task table

The ready queue reads and writes the task table through the links of tasks only.

Main definitions:

- `TaskTable.links` are the links of all tasks, `TaskTable.setLink` replaces one.
- `TaskTable.SameRecords` says that two tables differ in links at most.

Main results:

- `TaskTable.links_setLink`: replacing the link of a task changes that link only.
- `TaskTable.exists_link_behind` and `TaskTable.exists_unlink`: the two changes
  that append a task to a circle and take one out.
-/

namespace HartKernel

theorem TaskId.index_injective : Function.Injective TaskId.index := by
  rintro ⟨i⟩ ⟨j⟩ hij
  exact congrArg _ hij

/-- A task record without its link. -/
def Task.unlinked (t : Task) : Task := { t with link := none }

namespace TaskTable

variable {tasks tasks' : TaskTable} {id : TaskId}

/-- The links of all tasks. -/
def links (tasks : TaskTable) : Links := fun id => tasks[id.index]?.bind Task.link

/-- Replace the link of a task. -/
def setLink (tasks : TaskTable) (id : TaskId) (l : Option Link) : TaskTable :=
  tasks.update id fun t => { t with link := l }

theorem links_of_getElem? {t : Task} (h : tasks[id.index]? = some t) :
    tasks.links id = t.link := by
  simp [links, h]

theorem index_lt_of_links {l : Link} (h : tasks.links id = some l) :
    id.index < tasks.size := by
  obtain ⟨t, ht, -⟩ := Option.bind_eq_some_iff.1 h
  exact (Array.getElem?_eq_some_iff.1 ht).1

/-- Replacing the link of a task changes that link only. -/
theorem links_setLink (h : id.index < tasks.size) (l : Option Link) (j : TaskId) :
    (tasks.setLink id l).links j = if j = id then l else tasks.links j := by
  unfold links setLink
  rw [getElem?_update]
  by_cases hj : j = id
  · subst hj
    simp [h]
  · have hne : id.index ≠ j.index := fun e => hj (TaskId.index_injective e.symm)
    rw [if_neg hne, if_neg hj]

/-- A change that does not change the task does not change the table. -/
theorem update_eq_self {t : Task} (ht : tasks[id.index]? = some t) {f : Task → Task}
    (hf : f t = t) : tasks.update id f = tasks := by
  apply Array.ext_getElem?
  intro i
  rw [getElem?_update]
  split
  · rename_i hi
    rw [← hi, ht, Option.map_some, hf]
  · rfl

/-! ## Checked access -/

theorem fetch_eq_ok {t : Task} (h : tasks[id.index]? = some t) : tasks.fetch id = .ok t := by
  simp [fetch, h]

theorem link_eq_ok {l : Link} (h : tasks.links id = some l) : tasks.link id = .ok l := by
  obtain ⟨t, ht, hl⟩ := Option.bind_eq_some_iff.1 h
  rw [link, fetch_eq_ok ht, ok_bind, hl]

theorem relink_eq_ok {l : Link} (f : Link → Link) (h : tasks.links id = some l) :
    tasks.relink id f = .ok (tasks.setLink id (some (f l))) := by
  rw [relink, link_eq_ok h]
  rfl

/-! ## Tables that differ in links at most -/

/-- Two tables differ in links at most. -/
def SameRecords (tasks tasks' : TaskTable) : Prop :=
  tasks'.map Task.unlinked = tasks.map Task.unlinked

theorem SameRecords.refl (tasks : TaskTable) : SameRecords tasks tasks := rfl

theorem SameRecords.trans {tasks'' : TaskTable} (h : SameRecords tasks tasks')
    (h' : SameRecords tasks' tasks'') : SameRecords tasks tasks'' :=
  Eq.trans h' h

theorem sameRecords_setLink (tasks : TaskTable) (id : TaskId) (l : Option Link) :
    SameRecords tasks (tasks.setLink id l) := by
  apply Array.ext_getElem?
  intro i
  rw [Array.getElem?_map, Array.getElem?_map, setLink, getElem?_update]
  split
  · cases tasks[i]? <;> rfl
  · rfl

/-- Each task of the one table is in the other, with another link at most. -/
theorem SameRecords.getElem? (h : SameRecords tasks tasks') (i : Nat) :
    tasks'[i]?.map Task.unlinked = tasks[i]?.map Task.unlinked := by
  have := congrArg (fun a => a[i]?) h
  simpa using this

theorem SameRecords.exists_of_getElem? {i : Nat} {t : Task} (h : SameRecords tasks tasks')
    (ht : tasks[i]? = some t) : ∃ t', tasks'[i]? = some t' ∧ t'.unlinked = t.unlinked := by
  have heq := h.getElem? i
  rw [ht, Option.map_some] at heq
  exact Option.map_eq_some_iff.1 heq

theorem SameRecords.size (h : SameRecords tasks tasks') : tasks'.size = tasks.size := by
  simpa using congrArg Array.size h

/-- Whatever is read off a record without its link is the same in both tables. -/
theorem SameRecords.map_eq {α : Type} {f : Task → α} (h : SameRecords tasks tasks')
    (hf : ∀ t, f t.unlinked = f t) : tasks'.map f = tasks.map f := by
  have hcomp : ∀ a : TaskTable, a.map f = (a.map Task.unlinked).map f := by
    intro a
    rw [Array.map_map]
    exact congrArg (fun g => a.map g) (funext fun t => (hf t).symm)
  rw [hcomp, hcomp tasks]
  exact congrArg _ h

/-- A change that neither reads nor writes links keeps two tables the same. -/
theorem SameRecords.update (h : SameRecords tasks tasks') (id : TaskId) {f : Task → Task}
    (hf : ∀ t t' : Task, t'.unlinked = t.unlinked → (f t').unlinked = (f t).unlinked) :
    SameRecords (tasks.update id f) (tasks'.update id f) := by
  apply Array.ext_getElem?
  intro i
  have hi := h.getElem? i
  rw [Array.getElem?_map, Array.getElem?_map, getElem?_update, getElem?_update]
  split
  · cases ht : tasks[i]? with
    | none =>
      rw [ht, Option.map_none, Option.map_eq_none_iff] at hi
      rw [hi]
    | some t =>
      rw [ht, Option.map_some, Option.map_eq_some_iff] at hi
      obtain ⟨t', ht', hsame⟩ := hi
      rw [ht']
      exact congrArg some (hf t t' hsame)
  · exact hi

/-! ## Joining two tasks -/

/-- Changing the link out of one task and the link into another changes these
two halves only. -/
theorem exists_join {a b x y : TaskId} (ha : (tasks.links a).isSome = true)
    (hb : (tasks.links b).isSome = true) :
    ∃ tasks₁ tasks₂, tasks.relink a (fun l => { l with next := x }) = .ok tasks₁ ∧
      tasks₁.relink b (fun l => { l with prev := y }) = .ok tasks₂ ∧
      SameRecords tasks tasks₂ ∧
      (∀ c, (tasks₂.links c).map Link.next =
        if c = a then some x else (tasks.links c).map Link.next) ∧
      (∀ c, (tasks₂.links c).map Link.prev =
        if c = b then some y else (tasks.links c).map Link.prev) ∧
      ∀ c, c ≠ a → c ≠ b → tasks₂.links c = tasks.links c := by
  obtain ⟨la, hla⟩ := Option.isSome_iff_exists.1 ha
  obtain ⟨lb, hlb⟩ := Option.isSome_iff_exists.1 hb
  have hfirst := links_setLink (index_lt_of_links hla) (some { la with next := x })
  have hb₁ : (tasks.setLink a (some { la with next := x })).links b =
      some (if b = a then { la with next := x } else lb) := by
    rw [hfirst]
    split
    · rfl
    · exact hlb
  have hsecond := links_setLink (index_lt_of_links hb₁)
    (some { (if b = a then { la with next := x } else lb) with prev := y })
  refine ⟨_, _, relink_eq_ok _ hla, relink_eq_ok _ hb₁,
    (sameRecords_setLink _ _ _).trans (sameRecords_setLink _ _ _), fun c => ?_, fun c => ?_,
    fun c hca hcb => ?_⟩
  · rw [hsecond, hfirst]
    by_cases hcb : c = b
    · subst hcb
      by_cases hca : c = a
      · simp [hca]
      · simp [hca, hlb]
    · rw [if_neg hcb]
      split <;> rfl
  · rw [hsecond, hfirst]
    by_cases hcb : c = b
    · simp [hcb]
    · rw [if_neg hcb, if_neg hcb]
      split
      · rename_i hca
        rw [hca, hla]
        rfl
      · rfl
  · rw [hsecond, if_neg hcb, hfirst, if_neg hca]

/-! ## Circles of tasks -/

/-- A task is linked into a circle behind its last task. -/
theorem exists_link_behind {first last second : TaskId} {rest : List TaskId}
    (hring : tasks.links.Ring (first :: rest)) (hnodup : (first :: rest).Nodup)
    (hfirst : tasks.links first = some ⟨last, second⟩) (hsize : id.index < tasks.size)
    (hid : id ∉ first :: rest) :
    ∃ tasks₁ tasks₂,
      (tasks.setLink id (some ⟨last, first⟩)).relink last (fun l => { l with next := id }) =
        .ok tasks₁ ∧
      tasks₁.relink first (fun l => { l with prev := id }) = .ok tasks₂ ∧
      SameRecords tasks tasks₂ ∧ tasks₂.links.Ring (first :: rest ++ [id]) ∧
      ∀ a, a ∉ first :: rest → a ≠ id → tasks₂.links a = tasks.links a := by
  have hmem : last ∈ first :: rest := (hring.neighbours hnodup List.mem_cons_self hfirst).1
  have hne : ∀ a ∈ first :: rest, a ≠ id := fun a ha e => hid (e ▸ ha)
  have hlinks := links_setLink hsize (some ⟨last, first⟩)
  have hkeep : ∀ a ∈ first :: rest,
      (tasks.setLink id (some ⟨last, first⟩)).links a = tasks.links a :=
    fun a ha => (hlinks a).trans (if_neg (hne a ha))
  have hsome : ∀ a ∈ first :: rest,
      ((tasks.setLink id (some ⟨last, first⟩)).links a).isSome = true :=
    fun a ha => hkeep a ha ▸ hring.isSome ha
  obtain ⟨tasks₁, tasks₂, hout, hinto, hsame, hnext, hprev, hothers⟩ :=
    exists_join (x := id) (y := id) (hsome last hmem) (hsome first List.mem_cons_self)
  refine ⟨tasks₁, tasks₂, hout, hinto, (sameRecords_setLink _ _ _).trans hsame, ?_, ?_⟩
  · have hlast : (tasks.links first).map Link.prev = some last := by rw [hfirst]; rfl
    have hself : tasks₂.links id = some ⟨last, first⟩ := by
      rw [hothers id (hne last hmem).symm (hne first List.mem_cons_self).symm]
      exact (hlinks id).trans (if_pos rfl)
    refine hring.push hnodup hlast hself (fun a ha => ?_) (fun a ha => ?_)
    · rw [hnext, hkeep a ha]
    · rw [hprev, hkeep a ha]
  · intro a ha hna
    have hlast' : a ≠ last := fun e => ha (e ▸ hmem)
    have hfirst' : a ≠ first := fun e => ha (e ▸ List.mem_cons_self)
    rw [hothers a hlast' hfirst', hlinks, if_neg hna]

/-- A task is taken out of a circle with other tasks. -/
theorem exists_unlink {prev next : TaskId} {l : List TaskId} (hring : tasks.links.Ring l)
    (hnodup : l.Nodup) (hid : id ∈ l) (hlink : tasks.links id = some ⟨prev, next⟩)
    (hother : next ≠ id) :
    ∃ tasks₁ tasks₂,
      (tasks.setLink id none).relink prev (fun l => { l with next := next }) = .ok tasks₁ ∧
      tasks₁.relink next (fun l => { l with prev := prev }) = .ok tasks₂ ∧
      SameRecords tasks tasks₂ ∧ tasks₂.links.Ring (l.erase id) ∧ tasks₂.links id = none ∧
      ∀ a, a ∉ l → tasks₂.links a = tasks.links a := by
  obtain ⟨hprevmem, hnextmem, hsingle⟩ := hring.neighbours hnodup hid hlink
  have hprevne : prev ≠ id := by
    intro e
    rw [hsingle (.inl e), List.mem_singleton] at hnextmem
    exact hother hnextmem
  have hlinks := links_setLink (index_lt_of_links hlink) none
  have hkeep : ∀ a, a ≠ id → (tasks.setLink id none).links a = tasks.links a :=
    fun a ha => (hlinks a).trans (if_neg ha)
  obtain ⟨tasks₁, tasks₂, hout, hinto, hsame, hnext, hprev, hothers⟩ :=
    exists_join (x := next) (y := prev) (hkeep prev hprevne ▸ hring.isSome hprevmem)
      (hkeep next hother ▸ hring.isSome hnextmem)
  refine ⟨tasks₁, tasks₂, hout, hinto, (sameRecords_setLink _ _ _).trans hsame, ?_, ?_, ?_⟩
  · refine hring.unlink hnodup hid hlink hother (fun a _ ha => ?_) (fun a _ ha => ?_)
    · rw [hnext, hkeep a ha]
    · rw [hprev, hkeep a ha]
  · rw [hothers id hprevne.symm hother.symm]
    exact (hlinks id).trans (if_pos rfl)
  · intro a ha
    have hap : a ≠ prev := fun e => ha (e ▸ hprevmem)
    have han : a ≠ next := fun e => ha (e ▸ hnextmem)
    rw [hothers a hap han, hkeep a fun e => ha (e ▸ hid)]

end TaskTable

end HartKernel
