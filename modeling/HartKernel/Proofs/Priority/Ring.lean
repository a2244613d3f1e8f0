import HartKernel.Task.Control
import Mathlib.Data.List.Chain
import Mathlib.Tactic.Common

/-!
# Circular lists of tasks

The tasks of a priority level form a circular, doubly linked list through their
records.  Here the list is looked at from outside: which sequence of tasks it
stands for, and what linking and unlinking a task does to the sequence.

Main definitions:

- `Links.Ring` says that a sequence of tasks is linked into a circle.

Main results:

- `Links.Ring.rotate`: a circle can be read from any of its tasks.
- `Links.Ring.push` and `Links.Ring.unlink`: linking a task between the last one
  and the first one appends it, and joining the neighbours of a task removes it.
-/

namespace HartKernel

/-- The neighbours of every linked task. -/
abbrev Links := TaskId → Option Link

namespace Links

variable {links links' : Links} {a b first last id : TaskId} {l rest : List TaskId}

/-- Task `b` comes right after task `a`, and both know. -/
def Follows (links : Links) (a b : TaskId) : Prop :=
  (links a).map Link.next = some b ∧ (links b).map Link.prev = some a

/-- The tasks of a sequence are linked into a circle. -/
def Ring (links : Links) : List TaskId → Prop
  | [] => True
  | first :: rest => (first :: (rest ++ [first])).IsChain links.Follows

theorem ring_nil : links.Ring [] := trivial

theorem ring_cons :
    links.Ring (first :: rest) ↔ (first :: (rest ++ [first])).IsChain links.Follows :=
  Iff.rfl

/-- A task alone in its circle is its own neighbour. -/
theorem ring_singleton (h : links id = some ⟨id, id⟩) : links.Ring [id] := by
  have hself : links.Follows id id := by simp [Follows, h]
  simpa [ring_cons] using hself

/-! ## Reading a circle from another task -/

theorem ring_cons_iff_append : links.Ring (a :: l) ↔ links.Ring (l ++ [a]) := by
  cases l with
  | nil => exact Iff.rfl
  | cons b l =>
    have hsplit : b :: (l ++ [a] ++ [b]) = (b :: l) ++ a :: [b] := by simp
    rw [ring_cons, List.cons_append, List.isChain_cons_cons, ring_cons, hsplit,
      List.isChain_split, List.isChain_pair, List.cons_append, and_comm]

/-- A circle can be read from any of its tasks. -/
theorem Ring.rotate {l₁ l₂ : List TaskId} (h : links.Ring (l₁ ++ l₂)) :
    links.Ring (l₂ ++ l₁) := by
  induction l₁ generalizing l₂ with
  | nil => simpa using h
  | cons a l₁ ih =>
    have hmoved : links.Ring (l₁ ++ (l₂ ++ [a])) := by
      rw [← List.append_assoc, ← ring_cons_iff_append]
      exact h
    have := ih hmoved
    rwa [List.append_assoc, List.singleton_append] at this

/-! ## What a circle knows of its tasks -/

/-- The last task of a circle comes right before the first one. -/
theorem Ring.follows_last (h : links.Ring (first :: rest)) :
    links.Follows ((first :: rest).getLast (List.cons_ne_nil _ _)) first := by
  rw [ring_cons, ← List.cons_append] at h
  exact (List.isChain_append.1 h).2.2 _ (List.getLast?_eq_some_getLast _) _ rfl

/-- The tasks of a circle from the first to the last follow each other. -/
theorem Ring.isChain (h : links.Ring (first :: rest)) :
    (first :: rest).IsChain links.Follows := by
  rw [ring_cons, ← List.cons_append] at h
  exact (List.isChain_append.1 h).1

/-- Every task of a circle is linked. -/
theorem Ring.isSome (h : links.Ring l) (ha : a ∈ l) : (links a).isSome = true := by
  obtain ⟨l₁, l₂, rfl⟩ := List.append_of_mem ha
  have hrot := (h.rotate).follows_last.2
  cases hl : links a with
  | none => simp [hl] at hrot
  | some _ => rfl

/-- Circles do not depend on the links of other tasks. -/
theorem Ring.congr (h : links.Ring l) (heq : ∀ a ∈ l, links' a = links a) : links'.Ring l := by
  cases l with
  | nil => exact ring_nil
  | cons first rest =>
    rw [ring_cons] at h ⊢
    refine List.IsChain.imp_of_mem_imp (fun a b ha hb hab => ?_) h
    have hmem : ∀ c ∈ first :: (rest ++ [first]), c ∈ first :: rest := by
      intro c hc
      rw [← List.cons_append, List.mem_append, List.mem_singleton] at hc
      exact hc.elim id (fun e => e ▸ List.mem_cons_self)
    exact ⟨by rw [heq a (hmem a ha)]; exact hab.1, by rw [heq b (hmem b hb)]; exact hab.2⟩

/-- As long as only the link out of one task changes, and the link into the
first one, the tasks of a sequence stay in sequence. -/
theorem isChain_of_half_links (h : l.IsChain links.Follows)
    (hout : (links last).map Link.next = some b) (hb : b ∉ l.tail)
    (hnext : ∀ a ∈ l, a ≠ last → (links' a).map Link.next = (links a).map Link.next)
    (hprev : ∀ a ∈ l.tail, (links' a).map Link.prev = (links a).map Link.prev) :
    l.IsChain links'.Follows := by
  refine List.IsChain.imp_of_mem_tail_imp (fun a c ha hc hac => ?_) h
  have hne : a ≠ last := by
    rintro rfl
    exact hb (Option.some.inj (hac.1.symm.trans hout) ▸ hc)
  exact ⟨by rw [hnext a ha hne]; exact hac.1, by rw [hprev c hc]; exact hac.2⟩

/-! ## Linking and unlinking a task -/

/-- Linking a task between the last one and the first one appends it. -/
theorem Ring.push (h : links.Ring (first :: rest)) (hnodup : (first :: rest).Nodup)
    (hlast : (links first).map Link.prev = some last) (hid : links' id = some ⟨last, first⟩)
    (hnext : ∀ a ∈ first :: rest, (links' a).map Link.next =
      if a = last then some id else (links a).map Link.next)
    (hprev : ∀ a ∈ first :: rest, (links' a).map Link.prev =
      if a = first then some id else (links a).map Link.prev) :
    links'.Ring (first :: rest ++ [id]) := by
  have hclose := h.follows_last
  have heq : (first :: rest).getLast (List.cons_ne_nil _ _) = last :=
    Option.some.inj (hclose.2.symm.trans hlast)
  rw [heq] at hclose
  have hmem : last ∈ first :: rest := heq ▸ List.getLast_mem _
  have hfirst : first ∉ rest := (List.nodup_cons.1 hnodup).1
  have hmiddle : (first :: rest).IsChain links'.Follows := by
    refine isChain_of_half_links h.isChain hclose.1 hfirst (fun a ha hne => ?_) (fun a ha => ?_)
    · rw [hnext a ha, if_neg hne]
    · have hne : a ≠ first := fun e => hfirst (e ▸ ha)
      rw [hprev a (List.mem_cons_of_mem _ ha), if_neg hne]
  have hinto : links'.Follows last id := by
    refine ⟨?_, by simp [hid]⟩
    rw [hnext last hmem, if_pos rfl]
  have hback : links'.Follows id first := by
    refine ⟨by simp [hid], ?_⟩
    rw [hprev first List.mem_cons_self, if_pos rfl]
  rw [List.cons_append, ring_cons, List.append_assoc, ← List.cons_append, List.isChain_append]
  refine ⟨hmiddle, by simpa using hback, fun x hx y hy => ?_⟩
  rw [List.getLast?_eq_some_getLast (List.cons_ne_nil _ _), heq] at hx
  cases hx
  cases hy
  exact hinto

/-- Joining the neighbours of the first task removes it from the circle. -/
theorem Ring.unlink_first (h : links.Ring (id :: first :: rest))
    (hnodup : (id :: first :: rest).Nodup) (hlast : (links id).map Link.prev = some last)
    (hnext : ∀ a ∈ first :: rest, (links' a).map Link.next =
      if a = last then some first else (links a).map Link.next)
    (hprev : ∀ a ∈ first :: rest, (links' a).map Link.prev =
      if a = first then some last else (links a).map Link.prev) :
    links'.Ring (first :: rest) := by
  have hclose := h.follows_last
  have heq : (id :: first :: rest).getLast (List.cons_ne_nil _ _) = last :=
    Option.some.inj (hclose.2.symm.trans hlast)
  rw [heq] at hclose
  rw [List.getLast_cons (List.cons_ne_nil _ _)] at heq
  have hmem : last ∈ first :: rest := heq ▸ List.getLast_mem _
  have hid : id ∉ rest := fun e => (List.nodup_cons.1 hnodup).1 (List.mem_cons_of_mem _ e)
  have hfirst : first ∉ rest := (List.nodup_cons.1 (List.nodup_cons.1 hnodup).2).1
  have hmiddle : (first :: rest).IsChain links'.Follows := by
    refine isChain_of_half_links h.isChain.tail hclose.1 hid (fun a ha hne => ?_)
      (fun a ha => ?_)
    · rw [hnext a ha, if_neg hne]
    · have hne : a ≠ first := fun e => hfirst (e ▸ ha)
      rw [hprev a (List.mem_cons_of_mem _ ha), if_neg hne]
  have hjoin : links'.Follows last first := by
    refine ⟨?_, ?_⟩
    · rw [hnext last hmem, if_pos rfl]
    · rw [hprev first List.mem_cons_self, if_pos rfl]
  rw [ring_cons, ← List.cons_append, List.isChain_append]
  refine ⟨hmiddle, List.isChain_singleton _, fun x hx y hy => ?_⟩
  rw [List.getLast?_eq_some_getLast (List.cons_ne_nil _ _), heq] at hx
  cases hx
  cases hy
  exact hjoin

/-- Joining the neighbours of a task removes it from the circle. -/
theorem Ring.unlink {prev next : TaskId} (h : links.Ring l) (hnodup : l.Nodup) (hid : id ∈ l)
    (hlink : links id = some ⟨prev, next⟩) (hother : next ≠ id)
    (hnext : ∀ a ∈ l, a ≠ id → (links' a).map Link.next =
      if a = prev then some next else (links a).map Link.next)
    (hprev : ∀ a ∈ l, a ≠ id → (links' a).map Link.prev =
      if a = next then some prev else (links a).map Link.prev) :
    links'.Ring (l.erase id) := by
  obtain ⟨l₁, l₂, rfl⟩ := List.append_of_mem hid
  have hperm : (l₁ ++ id :: l₂).Perm (id :: (l₂ ++ l₁)) := List.perm_append_comm
  have hnodup' : (id :: (l₂ ++ l₁)).Nodup := hperm.nodup_iff.1 hnodup
  have hnot : id ∉ l₂ ++ l₁ := (List.nodup_cons.1 hnodup').1
  have hnot₁ : id ∉ l₁ := fun e => hnot (List.mem_append_right _ e)
  rw [List.erase_append_right _ hnot₁, List.erase_cons_head]
  apply Ring.rotate
  -- read from the task that leaves, the circle loses its first task
  have hrot : links.Ring (id :: (l₂ ++ l₁)) := h.rotate
  cases hrest : l₂ ++ l₁ with
  | nil => exact ring_nil
  | cons first rest =>
    rw [hrest] at hrot hnodup' hnot
    have hfirst : first = next := by
      have hstart := (List.isChain_cons_cons.1 hrot.isChain).1.1
      simpa [hlink] using hstart.symm
    subst hfirst
    have hmem : ∀ a ∈ first :: rest, a ∈ l₁ ++ id :: l₂ ∧ a ≠ id := by
      intro a ha
      refine ⟨hperm.mem_iff.2 (List.mem_cons_of_mem _ (hrest ▸ ha)), ?_⟩
      rintro rfl
      exact hnot ha
    have hlast : (links id).map Link.prev = some prev := by simp [hlink]
    refine hrot.unlink_first hnodup' hlast (fun a ha => ?_) (fun a ha => ?_)
    · exact hnext a (hmem a ha).1 (hmem a ha).2
    · exact hprev a (hmem a ha).1 (hmem a ha).2

/-- The neighbours of a task are in its circle, and only a task alone in its
circle comes after itself. -/
theorem Ring.neighbours {prev next : TaskId} (h : links.Ring l) (hnodup : l.Nodup)
    (hid : id ∈ l) (hlink : links id = some ⟨prev, next⟩) :
    prev ∈ l ∧ next ∈ l ∧ (prev = id ∨ next = id → l = [id]) := by
  obtain ⟨l₁, l₂, rfl⟩ := List.append_of_mem hid
  have hrot : links.Ring (id :: (l₂ ++ l₁)) := h.rotate
  have hperm : (l₁ ++ id :: l₂).Perm (id :: (l₂ ++ l₁)) := List.perm_append_comm
  have hnot : id ∉ l₂ ++ l₁ := (List.nodup_cons.1 (hperm.nodup_iff.1 hnodup)).1
  rw [hperm.mem_iff, hperm.mem_iff]
  cases hrest : l₂ ++ l₁ with
  | nil =>
    obtain ⟨rfl, rfl⟩ := List.append_eq_nil_iff.1 hrest
    have hself : links.Follows id id := by simpa using hrot.follows_last
    simp only [Follows, hlink, Option.map_some, Option.some.injEq] at hself
    simp [hself.1, hself.2]
  | cons first rest =>
    rw [hrest] at hrot hnot
    have hstart := (List.isChain_cons_cons.1 hrot.isChain).1.1
    have hend := hrot.follows_last.2
    rw [List.getLast_cons (List.cons_ne_nil _ _)] at hend
    simp only [hlink, Option.map_some, Option.some.injEq] at hstart hend
    have hprev : prev ∈ first :: rest := hend ▸ List.getLast_mem _
    have hnext : next ∈ first :: rest := hstart ▸ List.mem_cons_self
    refine ⟨List.mem_cons_of_mem _ hprev, List.mem_cons_of_mem _ hnext, ?_⟩
    rintro (rfl | rfl)
    · exact absurd hprev hnot
    · exact absurd hnext hnot

/-- The task after the first one is the second one. -/
theorem Ring.head_erase {prev next : TaskId} (h : links.Ring (id :: rest))
    (hlink : links id = some ⟨prev, next⟩) (hother : next ≠ id) : rest.head? = some next := by
  cases rest with
  | nil =>
    have hself := h.follows_last.1
    simp [hlink, hother] at hself
  | cons first rest =>
    have hstart := (List.isChain_cons_cons.1 h.isChain).1.1
    simpa [hlink] using hstart.symm

end Links

end HartKernel
