import HartKernel.Proofs.Schedule.Urgency

/-!
# Who waits longer

A task joins its level at the back and leaves it from wherever it is, so the
tasks of a level wait in the order in which they joined it.  A record of who
joined when is enough to tell that order.

Main definitions:

- `lastPlaced` is the time of the last entry of a record that names a task.
- `Waiting.Requeues` says that at most one task has joined a level, at its back.
- `Waiting.Arranged` says that the tasks of each level wait in the order of a
  record, `Waiting.Keeps` that tasks outside a record have not moved to a level.
- `Schedule.lost?` is the task that has lost the processor while Running.

Main results:

- `Waiting.Requeues.arranged` and `Waiting.Requeues.keeps`: an operation that
  appends at most one task keeps to the record.
- One lemma for each operation, such as `Schedule.Valid.requeues_activate` and
  `Schedule.Valid.requeues_handOver`: which task it appends.
- `Schedule.Valid.requeues_conclude`: which task the outermost exit appends.
-/

namespace HartKernel

/-- The time, counted from one, of the last entry of a record that names a task.
The newest entry of a record comes first. -/
def lastPlaced (a : TaskId) : List (Option TaskId) → Nat
  | [] => 0
  | placed :: log => if placed = some a then log.length + 1 else lastPlaced a log

theorem lastPlaced_le (a : TaskId) (log : List (Option TaskId)) :
    lastPlaced a log ≤ log.length := by
  induction log with
  | nil => exact Nat.le_refl 0
  | cons placed log ih =>
    rw [lastPlaced, List.length_cons]
    split <;> omega

theorem lastPlaced_cons_self (a : TaskId) (log : List (Option TaskId)) :
    lastPlaced a (some a :: log) = log.length + 1 :=
  if_pos rfl

theorem lastPlaced_cons_of_ne {a : TaskId} {placed : Option TaskId} (h : placed ≠ some a)
    (log : List (Option TaskId)) : lastPlaced a (placed :: log) = lastPlaced a log :=
  if_neg h

/-- Entries that do not name a task do not change its time. -/
theorem lastPlaced_append {a : TaskId} {placed : List (Option TaskId)} (h : some a ∉ placed)
    (log : List (Option TaskId)) : lastPlaced a (placed ++ log) = lastPlaced a log := by
  induction placed with
  | nil => rfl
  | cons p placed ih =>
    rw [List.mem_cons, not_or] at h
    rw [List.cons_append, lastPlaced_cons_of_ne (Ne.symm h.1), ih h.2]

namespace Waiting

variable {w w' w'' : Waiting} {placed : Option TaskId} {log log' : List (Option TaskId)}

/-- At most one task has joined a level, at its back; the others have kept their
order, or left. -/
def Requeues (placed : Option TaskId) (w w' : Waiting) : Prop :=
  ∀ p, ∃ kept, kept.Sublist (w p) ∧ (∀ a, placed = some a → a ∉ kept) ∧
    (w' p = kept ∨ ∃ a, placed = some a ∧ w' p = kept ++ [a])

/-- The tasks of each level are in a record, and wait in its order. -/
structure Arranged (w : Waiting) (log : List (Option TaskId)) : Prop where
  placed : ∀ p, ∀ a ∈ w p, some a ∈ log
  order : ∀ p, (w p).Pairwise fun a b => lastPlaced a log < lastPlaced b log

/-- The tasks outside a record that wait at a level have waited there before. -/
def Keeps (placed : List (Option TaskId)) (w w' : Waiting) : Prop :=
  ∀ p, ∀ a ∈ w' p, some a ∉ placed → a ∈ w p

theorem arranged_empty : Arranged (fun _ => []) [] :=
  ⟨fun _ _ ha => absurd ha List.not_mem_nil, fun _ => List.Pairwise.nil⟩

theorem Keeps.refl (w : Waiting) : Keeps [] w w := fun _ _ hmem _ => hmem

theorem Keeps.trans (h : Keeps log w w') (h' : Keeps log' w' w'') : Keeps (log' ++ log) w w'' := by
  intro p a hmem hnot
  rw [List.mem_append, not_or] at hnot
  exact h p a (h' p a hmem hnot.1) hnot.2

namespace Requeues

theorem refl (w : Waiting) : Requeues none w w :=
  fun p => ⟨w p, .refl _, fun _ => nofun, .inl rfl⟩

/-- An operation after which tasks may leave. -/
theorem trans_none (h : Requeues placed w w') (h' : Requeues none w' w'') :
    Requeues placed w w'' := by
  intro p
  obtain ⟨kept, hsub, hnot, hback⟩ := h p
  obtain ⟨left, hleft, -, rfl | ⟨a, ha, -⟩⟩ := h' p
  · rcases hback with hkept | ⟨a, rfl, hkept⟩
    · rw [hkept] at hleft
      exact ⟨_, hleft.trans hsub, fun a ha hmem => hnot a ha (hleft.subset hmem), .inl rfl⟩
    · -- the task that was appended may leave again, or stay behind those that have stayed
      rw [hkept, List.sublist_append_iff] at hleft
      obtain ⟨front, back, heq, hfront, hlast⟩ := hleft
      refine ⟨front, hfront.trans hsub, fun b hb hmem => hnot b hb (hfront.subset hmem), ?_⟩
      rw [heq]
      rcases List.sublist_singleton.1 hlast with rfl | rfl
      · exact .inl (List.append_nil front)
      · exact .inr ⟨a, rfl, rfl⟩
  · cases ha

/-- An operation before which tasks may leave. -/
theorem none_trans (h : Requeues none w w') (h' : Requeues placed w' w'') :
    Requeues placed w w'' := by
  intro p
  obtain ⟨kept, hsub, -, hw' | ⟨a, ha, -⟩⟩ := h p
  · obtain ⟨left, hleft, hnot, hback⟩ := h' p
    rw [hw'] at hleft
    exact ⟨left, hleft.trans hsub, hnot, hback⟩
  · cases ha

/-- The tasks of each level wait in the order of the record and its new entry. -/
theorem arranged (h : Requeues placed w w') (ha : w.Arranged log) :
    w'.Arranged (placed :: log) := by
  have hcount : ∀ (p : Nat) (kept : List TaskId), kept.Sublist (w p) →
      (∀ a, placed = some a → a ∉ kept) →
      kept.Pairwise fun a b => lastPlaced a (placed :: log) < lastPlaced b (placed :: log) := by
    intro p kept hsub hnot
    refine ((ha.order p).sublist hsub).imp_of_mem fun {a b} hmem hmem' hlt => ?_
    rwa [lastPlaced_cons_of_ne fun e => hnot a e hmem,
      lastPlaced_cons_of_ne fun e => hnot b e hmem']
  constructor
  · intro p a hmem
    obtain ⟨kept, hsub, -, hw' | ⟨b, rfl, hw'⟩⟩ := h p
    · rw [hw'] at hmem
      exact List.mem_cons_of_mem _ (ha.placed p a (hsub.subset hmem))
    · rw [hw', List.mem_append, List.mem_singleton] at hmem
      rcases hmem with hmem | rfl
      · exact List.mem_cons_of_mem _ (ha.placed p a (hsub.subset hmem))
      · exact List.mem_cons_self
  · intro p
    obtain ⟨kept, hsub, hnot, hw' | ⟨b, rfl, hw'⟩⟩ := h p
    · rw [hw']
      exact hcount p kept hsub hnot
    · rw [hw', List.pairwise_append]
      refine ⟨hcount p kept hsub hnot, List.pairwise_singleton _ _, fun a hmem c hc => ?_⟩
      rw [List.mem_singleton] at hc
      subst hc
      rw [lastPlaced_cons_self, lastPlaced_cons_of_ne fun e => hnot a e hmem]
      exact Nat.lt_succ_of_le (lastPlaced_le a log)

/-- The tasks that were not appended have waited before. -/
theorem keeps (h : Requeues placed w w') : Keeps [placed] w w' := by
  intro p a hmem hnot
  obtain ⟨kept, hsub, -, hw' | ⟨b, rfl, hw'⟩⟩ := h p
  · exact hsub.subset (hw' ▸ hmem)
  · rw [hw', List.mem_append, List.mem_singleton] at hmem
    rcases hmem with hmem | rfl
    · exact hsub.subset hmem
    · exact absurd List.mem_cons_self hnot

end Requeues

theorem requeues_push {p : Nat} {id : TaskId} (hid : ∀ p, id ∉ w p) :
    Requeues (some id) w (w.push p id) := by
  intro p'
  refine ⟨w p', .refl _, fun a ha => ?_, ?_⟩
  · cases ha
    exact hid p'
  · unfold push
    by_cases hp : p' = p
    · subst hp
      exact .inr ⟨id, rfl, Function.update_self ..⟩
    · exact .inl (Function.update_of_ne hp ..)

theorem requeues_drop (w : Waiting) (p : Nat) (id : TaskId) : Requeues none w (w.drop p id) := by
  intro p'
  unfold drop
  by_cases hp : p' = p
  · subst hp
    rw [Function.update_self]
    exact ⟨_, List.erase_sublist, fun _ => nofun, .inl rfl⟩
  · rw [Function.update_of_ne hp]
    exact ⟨_, .refl _, fun _ => nofun, .inl rfl⟩

end Waiting

namespace Schedule

variable {levels : Nat} {s s' : Schedule} {id : TaskId}

/-! ## Operations on one task -/

theorem Valid.requeues_makeReady (h : s.Valid levels) (hid : s.state? id ≠ some .ready) :
    s.ready.Requeues (some id) (s.makeReady id).ready := by
  have hnot := h.not_mem_of_state hid
  unfold Schedule.makeReady
  split
  · exact fun p => ⟨_, .refl _, fun a ha => by cases ha; exact hnot p, .inl rfl⟩
  · exact Waiting.requeues_push hnot

theorem requeues_dequeue (s : Schedule) (id : TaskId) :
    s.ready.Requeues none (s.dequeue id).ready := by
  unfold dequeue
  split
  · exact .refl _
  · exact s.ready.requeues_drop _ _

theorem ready_checkPreemption (s : Schedule) : (s.checkPreemption levels).ready = s.ready := by
  unfold checkPreemption
  split
  · rfl
  · split <;> rfl

theorem requeues_withdraw (s : Schedule) (id : TaskId) :
    s.ready.Requeues none (s.withdraw id).ready := by
  unfold withdraw
  split
  · exact .refl _
  · exact s.requeues_dequeue id
  · exact .refl _

/-- A task that becomes Ready joins its level. -/
theorem Valid.requeues_wake (h : s.Valid levels) (hid : s.state? id ≠ some .ready) :
    s.ready.Requeues (some id) ((s.makeReady id).checkPreemption levels).ready := by
  rw [ready_checkPreemption]
  exact h.requeues_makeReady hid

theorem Valid.requeues_activate (h : s.Valid levels) (hid : s.state? id = some .dormant) :
    s.ready.Requeues (some id) (s.activate levels id).ready := by
  obtain ⟨e, he, hstate⟩ := exists_of_state? hid
  rw [Schedule.activate, if_pos hid]
  refine (h.restart hid).requeues_wake ?_
  rw [state?, lookup?_update_of he, if_pos rfl]
  simp [hstate]

theorem Valid.requeues_markReady (h : s.Valid levels)
    (hid : s.state? id = some .blocked ∨ s.state? id = some .suspended) :
    s.ready.Requeues (some id) (s.markReady levels id).ready := by
  rw [Schedule.markReady, if_pos hid]
  refine h.requeues_wake fun hready => ?_
  rw [hready] at hid
  simp at hid

theorem Valid.requeues_resume (h : s.Valid levels) (hid : s.state? id = some .suspended) :
    s.ready.Requeues (some id) (s.resume levels id).ready := by
  rw [Schedule.resume, if_pos hid]
  refine h.requeues_wake ?_
  rw [hid]
  simp

theorem requeues_markBlocked (s : Schedule) (id : TaskId) :
    s.ready.Requeues none (s.markBlocked id).ready := by
  unfold markBlocked
  split
  · exact s.requeues_withdraw id
  · exact .refl _

theorem requeues_suspend (s : Schedule) (id : TaskId) :
    s.ready.Requeues none (s.suspend id).ready := by
  unfold suspend
  split
  · exact s.requeues_withdraw id
  · exact .refl _

/-- A Ready task that gets another priority joins the back of its new level. -/
theorem Valid.requeues_setPriority (h : s.Valid levels) {priority : Nat}
    (hid : s.state? id = some .ready) (hp : priority < levels) :
    s.ready.Requeues (some id) (s.setPriority levels id priority).ready := by
  obtain ⟨e, he, hready⟩ := exists_of_state? hid
  -- between leaving the old level and joining the new one the task is in no list, so that
  -- it is appended like any other, also if the two levels are the same
  have hchanged : (s.setPriority levels id priority).ready =
      (s.ready.drop e.priority id).push priority id := by
    simp only [Schedule.setPriority, hid, if_neg (not_le.2 hp), ready_checkPreemption,
      Schedule.reprioritise, if_true, ready_withReady, dequeue, he]
  rw [hchanged]
  refine (s.ready.requeues_drop e.priority id).none_trans (Waiting.requeues_push fun p hmem => ?_)
  obtain ⟨hin, hnot⟩ := (Waiting.mem_drop (h.nodup _)).1 hmem
  exact hnot ⟨((h.mem_ready he).1 hin).2.symm, rfl⟩

theorem ready_setPriority_of_not_ready {priority : Nat} (hid : s.state? id ≠ some .ready) :
    (s.setPriority levels id priority).ready = s.ready := by
  unfold setPriority
  split
  · rfl
  · rfl
  · split
    · rfl
    · rw [ready_checkPreemption, reprioritise, if_neg hid]
      rfl

/-! ## Handing over the processor -/

/-- The task that was Running and is not the current one afterwards. -/
def lost? (s s' : Schedule) : Option TaskId :=
  s.runningTask?.filter fun id => s'.running ≠ some id

theorem lost?_of_running (h : s'.running = s.running) : s.lost? s' = none := by
  rw [lost?, Option.filter_eq_none_iff]
  intro id hid
  simp [h, (runningTask?_eq_some.1 hid).1]

theorem Valid.requeues_releaseCurrent (h : s.Valid levels) (target : Option TaskId) :
    s.ready.Requeues (s.runningTask?.filter fun id => target ≠ some id)
      (s.releaseCurrent target).ready := by
  cases hrun : s.runningTask? with
  | none =>
    rw [releaseCurrent_of_none hrun]
    exact .refl _
  | some id =>
    obtain ⟨hrunning, hstate⟩ := runningTask?_eq_some.1 hrun
    unfold Schedule.releaseCurrent
    simp only [hrunning]
    by_cases htarget : some id = target
    · have hkept : (some id).filter (fun a => target ≠ some a) = none := by simp [← htarget]
      rw [if_pos htarget, hkept]
      exact .refl _
    · have hleft : (some id).filter (fun a => target ≠ some a) = some id := by
        simp [Ne.symm htarget]
      rw [if_neg htarget, if_pos hstate, hleft]
      refine h.requeues_makeReady ?_
      rw [hstate]
      simp

/-- The processor changes hands: whoever loses it while Running joins its level. -/
theorem Valid.requeues_handOver (h : s.Valid levels) (target : Option TaskId) :
    s.ready.Requeues (s.lost? (s.handOver target)) (s.handOver target).ready := by
  have hrelease := h.requeues_releaseCurrent target
  rw [lost?, running_handOver]
  cases target with
  | none => exact hrelease
  | some id => exact hrelease.trans_none (requeues_dequeue _ id)

/-- The outermost exit puts whoever loses the processor while Running at the back
of its level. -/
theorem Valid.requeues_conclude (h : s.Valid levels) :
    s.ready.Requeues (s.lost? (s.conclude levels)) (s.conclude levels).ready := by
  have hkeep : s.ready.Requeues (s.lost? s.takeDispatch) s.takeDispatch.ready := by
    have hnone : s.lost? s.takeDispatch = none := lost?_of_running rfl
    rw [hnone]
    exact .refl _
  unfold Schedule.conclude
  split
  · cases s.decide levels with
    | keep => exact hkeep
    | switchTo target => exact h.takeDispatch.requeues_handOver target
  · exact hkeep

end Schedule

end HartKernel
