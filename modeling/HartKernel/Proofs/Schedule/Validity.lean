import HartKernel.Proofs.Schedule.Basic

/-!
# The scheduler invariant

The lists hold exactly the Ready tasks, each at the level of its priority; only
the current task can be Running, and the current task is activated.

Main definitions:

- `Schedule.Valid` is the invariant.

Main results:

- `Schedule.Valid.change`: changing one task keeps the invariant if the task is
  in the right list afterwards.
- One lemma for each operation, such as `Schedule.Valid.activate` and
  `Schedule.Valid.handOver`: it keeps the invariant.
-/

namespace HartKernel

namespace Schedule

variable {levels : Nat} {s s' : Schedule} {id : TaskId} {e e' : Entry}

/-- The scheduler invariant. -/
structure Valid (levels : Nat) (s : Schedule) : Prop where
  bounded : ∀ id e, s.lookup? id = some e → e.priority < levels ∧ e.initial < levels
  holder : ∀ id, s.state? id = some .running → s.running = some id
  current : ∀ id, s.running = some id → ∃ e, s.lookup? id = some e ∧ e.state ≠ .dormant
  ready : ∀ id p, id ∈ s.ready p ↔
    ∃ e, s.lookup? id = some e ∧ e.state = .ready ∧ e.priority = p
  nodup : ∀ p, (s.ready p).Nodup

theorem valid_initial : initial.Valid levels where
  bounded id e h := by simp [initial, lookup?] at h
  holder id h := by simp [initial, state?, lookup?] at h
  current id h := by simp [initial] at h
  ready id p := by simp [initial, lookup?]
  nodup _ := List.nodup_nil

namespace Valid

theorem mem_ready (h : s.Valid levels) (he : s.lookup? id = some e) {p : Nat} :
    id ∈ s.ready p ↔ e.state = .ready ∧ e.priority = p := by
  rw [h.ready]
  constructor
  · rintro ⟨e', he', hready⟩
    rw [he, Option.some.injEq] at he'
    rwa [he']
  · exact fun hready => ⟨e, he, hready⟩

/-- A task that is not Ready does not wait. -/
theorem not_mem_of_state (h : s.Valid levels) (hid : s.state? id ≠ some .ready) (p : Nat) :
    id ∉ s.ready p := by
  intro hmem
  obtain ⟨e, he, hready, -⟩ := (h.ready id p).1 hmem
  exact hid (by rw [state?_of_lookup? he, hready])

theorem holder_of_lookup? (h : s.Valid levels) (he : s.lookup? id = some e)
    (hrun : e.state = .running) : s.running = some id :=
  h.holder id (by rw [state?_of_lookup? he, hrun])

theorem current_of_lookup? (h : s.Valid levels) (he : s.lookup? id = some e)
    (hrun : s.running = some id) : e.state ≠ .dormant := by
  obtain ⟨e', he', hne⟩ := h.current id hrun
  rw [he, Option.some.injEq] at he'
  rwa [he']

/-- A level where a task waits is not more urgent than the most urgent one. -/
theorem exists_highest? (h : s.Valid levels) {p : Nat} (hp : s.ready p ≠ []) :
    ∃ p', s.ready.highest? levels = some p' ∧ p' ≤ p := by
  obtain ⟨id, hid⟩ := List.exists_mem_of_ne_nil _ hp
  obtain ⟨e, he, -, rfl⟩ := (h.ready id p).1 hid
  have hlt := (h.bounded id e he).1
  cases hw : s.ready.highest? levels with
  | none => exact absurd (Waiting.highest?_eq_none_iff.1 hw _ hlt) hp
  | some p' =>
    refine ⟨p', rfl, ?_⟩
    by_contra hgt
    exact hp ((Waiting.highest?_eq_some_iff.1 hw).2.2 _ (not_le.1 hgt))

theorem eq_nil_of_highest? (h : s.Valid levels) (hw : s.ready.highest? levels = none) (p : Nat) :
    s.ready p = [] := by
  by_contra hne
  obtain ⟨p', hp', -⟩ := h.exists_highest? hne
  rw [hw] at hp'
  cases hp'

/-- The lists together hold the Ready tasks. -/
theorem mem_toList (h : s.Valid levels) :
    id ∈ s.ready.toList levels ↔ s.state? id = some .ready := by
  rw [Waiting.toList, List.mem_flatMap]
  constructor
  · rintro ⟨p, -, hp⟩
    obtain ⟨e, he, hready, -⟩ := (h.ready id p).1 hp
    rw [state?_of_lookup? he, hready]
  · intro hid
    obtain ⟨e, he, hready⟩ := exists_of_state? hid
    exact ⟨e.priority, List.mem_range.2 (h.bounded id e he).1, (h.mem_ready he).2 ⟨hready, rfl⟩⟩

/-- No task waits twice. -/
theorem nodup_toList (h : s.Valid levels) : (s.ready.toList levels).Nodup := by
  rw [Waiting.toList, List.nodup_flatMap]
  refine ⟨fun p _ => h.nodup p, List.nodup_range.imp fun {p p'} hne => ?_⟩
  intro id hp hp'
  obtain ⟨e, he, -, rfl⟩ := (h.ready id p).1 hp
  exact hne ((h.mem_ready he).1 hp').2

/-- The request and the tick counter do not matter. -/
theorem congr (h : s.Valid levels) (hentries : s'.entries = s.entries)
    (hready : s'.ready = s.ready) (hrunning : s'.running = s.running) : s'.Valid levels := by
  have hentry : ∀ id, s'.lookup? id = s.lookup? id := by
    intro id
    rw [lookup?, hentries, lookup?]
  have hstate : ∀ id, s'.state? id = s.state? id := by
    intro id
    rw [state?, hentry, state?]
  constructor
  · simpa only [hentry] using h.bounded
  · simpa only [hstate, hrunning] using h.holder
  · simpa only [hentry, hrunning] using h.current
  · simpa only [hentry, hready] using h.ready
  · simpa only [hready] using h.nodup

/-- Changing one task keeps the invariant if the task is in the right list
afterwards, and still holds the processor if it is Running. -/
theorem change (h : s.Valid levels)
    (hentry : ∀ a, s'.lookup? a = if a = id then some e else s.lookup? a)
    (hrunning : s'.running = s.running)
    (hbounded : e.priority < levels ∧ e.initial < levels)
    (hholder : e.state = .running → s.running = some id)
    (hcurrent : s.running = some id → e.state ≠ .dormant)
    (hothers : ∀ a p, a ≠ id → (a ∈ s'.ready p ↔ a ∈ s.ready p))
    (hself : ∀ p, id ∈ s'.ready p ↔ e.state = .ready ∧ e.priority = p)
    (hnodup : ∀ p, (s'.ready p).Nodup) : s'.Valid levels := by
  have hid : s'.lookup? id = some e := (hentry id).trans (if_pos rfl)
  have hne : ∀ a, a ≠ id → s'.lookup? a = s.lookup? a := fun a ha => (hentry a).trans (if_neg ha)
  constructor
  · intro a e' he'
    by_cases ha : a = id
    · rw [ha, hid, Option.some.injEq] at he'
      exact he' ▸ hbounded
    · rw [hne a ha] at he'
      exact h.bounded a e' he'
  · intro a hstate
    rw [hrunning]
    by_cases ha : a = id
    · rw [ha, state?_of_lookup? hid, Option.some.injEq] at hstate
      rw [ha]
      exact hholder hstate
    · rw [state?, hne a ha] at hstate
      exact h.holder a hstate
  · intro a ha'
    rw [hrunning] at ha'
    by_cases ha : a = id
    · rw [ha]
      exact ⟨e, hid, hcurrent (ha ▸ ha')⟩
    · rw [hne a ha]
      exact h.current a ha'
  · intro a p
    by_cases ha : a = id
    · rw [ha, hself, hid]
      simp
    · rw [hothers a p ha, hne a ha]
      exact h.ready a p
  · exact hnodup

/-! ## Operations on one task -/

theorem requestDispatch (h : s.Valid levels) : s.requestDispatch.Valid levels :=
  h.congr rfl rfl rfl

theorem takeDispatch (h : s.Valid levels) : s.takeDispatch.Valid levels := h.congr rfl rfl rfl

theorem advanceTick (h : s.Valid levels) : s.advanceTick.Valid levels := h.congr rfl rfl rfl

theorem checkPreemption (h : s.Valid levels) : (s.checkPreemption levels).Valid levels := by
  unfold Schedule.checkPreemption
  split
  · exact h
  · split
    · exact h.requestDispatch
    · exact h

/-- A task that does not wait gets another state and priority and does not wait
afterwards either. -/
theorem update (h : s.Valid levels) (he : s.lookup? id = some e) {f : Entry → Entry}
    (hstate : e.state ≠ .ready) (hstate' : (f e).state ≠ .ready)
    (hbounded : (f e).priority < levels ∧ (f e).initial < levels)
    (hholder : (f e).state = .running → s.running = some id)
    (hcurrent : s.running = some id → (f e).state ≠ .dormant) :
    (s.update id f).Valid levels := by
  refine h.change (lookup?_update_of he f) rfl hbounded hholder hcurrent
    (fun _ _ _ => Iff.rfl) (fun p => ?_) h.nodup
  exact iff_of_false (fun hmem => hstate ((h.mem_ready he).1 hmem).1)
    (fun hready => hstate' hready.1)

theorem makeReady (h : s.Valid levels) (hid : s.state? id ≠ some .ready) :
    (s.makeReady id).Valid levels := by
  unfold Schedule.makeReady
  split
  · exact h
  · rename_i e he
    have hnot : ∀ p, id ∉ s.ready p := h.not_mem_of_state hid
    refine h.change (lookup?_update_of he fun e => { e with state := .ready }) rfl
      (h.bounded id e he) TaskState.noConfusion (fun _ => TaskState.noConfusion)
      (fun a p ha => ?_) (fun p => ?_) (Waiting.nodup_push h.nodup (hnot _))
    · rw [ready_withReady, Waiting.mem_push]
      simp [ha]
    · rw [ready_withReady, Waiting.mem_push]
      simp [hnot p, eq_comm]

/-- A task leaves its list while it gets another state. -/
theorem leave (h : s.Valid levels) (he : s.lookup? id = some e) {f : Entry → Entry}
    (hstate : (f e).state ≠ .ready)
    (hbounded : (f e).priority < levels ∧ (f e).initial < levels)
    (hholder : (f e).state = .running → s.running = some id)
    (hcurrent : s.running = some id → (f e).state ≠ .dormant) :
    ((s.dequeue id).update id f).Valid levels := by
  have hqueue : s.dequeue id = s.withReady (s.ready.drop e.priority id) := by
    simp [dequeue, he]
  rw [hqueue]
  have he' : (s.withReady (s.ready.drop e.priority id)).lookup? id = some e := he
  refine h.change (lookup?_update_of he' f) rfl hbounded hholder hcurrent
    (fun a p ha => ?_) (fun p => ?_) (Waiting.nodup_drop h.nodup _ _)
  · rw [ready_update, ready_withReady, Waiting.mem_drop (h.nodup _)]
    simp [ha]
  · rw [ready_update, ready_withReady, Waiting.mem_drop (h.nodup _), h.mem_ready he]
    refine iff_of_false ?_ (fun hready => hstate hready.1)
    rintro ⟨⟨-, hp⟩, hnot⟩
    exact hnot ⟨hp.symm, rfl⟩

/-! ## The operations -/

theorem create (h : s.Valid levels) {priority : Nat} (hp : priority < levels) :
    (s.create priority).Valid levels := by
  have hentry : ∀ id e, (s.create priority).lookup? id = some e →
      s.lookup? id = some e ∨ e = ⟨.dormant, priority, priority⟩ := by
    intro id e he
    rw [lookup?, Schedule.create, Array.getElem?_push] at he
    split at he
    · exact .inr (Option.some.inj he).symm
    · exact .inl he
  have hold : ∀ id e, s.lookup? id = some e → (s.create priority).lookup? id = some e := by
    intro id e he
    have hlt : id.index < s.entries.size := (Array.getElem?_eq_some_iff.1 he).1
    rw [lookup?, Schedule.create, Array.getElem?_push, if_neg hlt.ne]
    exact he
  constructor
  · intro id e he
    rcases hentry id e he with he | rfl
    · exact h.bounded id e he
    · exact ⟨hp, hp⟩
  · intro id hid
    obtain ⟨e, he, hstate⟩ := exists_of_state? hid
    rcases hentry id e he with he | rfl
    · exact h.holder id (by rw [state?_of_lookup? he, hstate])
    · exact absurd hstate TaskState.noConfusion
  · intro id hid
    obtain ⟨e, he, hstate⟩ := h.current id hid
    exact ⟨e, hold id e he, hstate⟩
  · intro id p
    change id ∈ s.ready p ↔ _
    rw [h.ready]
    constructor
    · rintro ⟨e, he, hready⟩
      exact ⟨e, hold id e he, hready⟩
    · rintro ⟨e, he, hready, hpriority⟩
      rcases hentry id e he with he | rfl
      · exact ⟨e, he, hready, hpriority⟩
      · exact absurd hready TaskState.noConfusion
  · exact h.nodup

/-- A Dormant task goes back to its initial priority. -/
theorem restart (h : s.Valid levels) (hid : s.state? id = some .dormant) :
    (s.update id fun e => { e with priority := e.initial }).Valid levels := by
  obtain ⟨e, he, hstate⟩ := exists_of_state? hid
  have hcurrent : s.running = some id → e.state ≠ .dormant := h.current_of_lookup? he
  have hinitial := (h.bounded id e he).2
  have hready : e.state ≠ .ready := by rw [hstate]; exact TaskState.noConfusion
  have hrunning : e.state ≠ .running := by rw [hstate]; exact TaskState.noConfusion
  exact h.update he hready hready ⟨hinitial, hinitial⟩ (fun hrun => absurd hrun hrunning) hcurrent

theorem activate (h : s.Valid levels) (id : TaskId) : (s.activate levels id).Valid levels := by
  unfold Schedule.activate
  split
  · rename_i hid
    obtain ⟨e, he, hstate⟩ := exists_of_state? hid
    refine ((h.restart hid).makeReady ?_).checkPreemption
    rw [state?, lookup?_update_of he, if_pos rfl]
    simp [hstate]
  · exact h

theorem markReady (h : s.Valid levels) (id : TaskId) : (s.markReady levels id).Valid levels := by
  unfold Schedule.markReady
  split
  · rename_i hid
    refine (h.makeReady fun hready => ?_).checkPreemption
    rw [hready] at hid
    simp at hid
  · exact h

theorem resume (h : s.Valid levels) (id : TaskId) : (s.resume levels id).Valid levels := by
  unfold Schedule.resume
  split
  · rename_i hid
    refine (h.makeReady fun hready => ?_).checkPreemption
    rw [hready] at hid
    simp at hid
  · exact h

/-- Taking a task off the processor or out of its list and giving it a state in
which it neither runs nor waits. -/
theorem hold (h : s.Valid levels) (id : TaskId) {state : TaskState}
    (hstate : state = .blocked ∨ state = .suspended) :
    ((s.withdraw id).setState id state).Valid levels := by
  have hready : state ≠ .ready := by rintro rfl; simp at hstate
  have hrunning : state ≠ .running := by rintro rfl; simp at hstate
  have hdormant : state ≠ .dormant := by rintro rfl; simp at hstate
  have hother : ∀ s' : Schedule, s'.Valid levels → s'.state? id ≠ some .ready →
      (s'.setState id state).Valid levels := by
    intro s' h' hnot
    cases he : s'.lookup? id with
    | none =>
      rw [setState, update_of_none he]
      exact h'
    | some e =>
      refine h'.update he (fun hr => hnot ?_) hready (h'.bounded id e he)
        (fun hrun => absurd hrun hrunning) (fun _ => hdormant)
      rw [state?_of_lookup? he, hr]
  unfold withdraw
  split
  · rename_i hrun
    refine hother _ h.requestDispatch ?_
    change s.state? id ≠ _
    rw [hrun]
    simp
  · rename_i hwait
    obtain ⟨e, he, -⟩ := exists_of_state? hwait
    exact h.leave he hready (h.bounded id e he) (fun hrun => absurd hrun hrunning)
      (fun _ => hdormant)
  · rename_i hwait
    exact hother s h hwait

theorem markBlocked (h : s.Valid levels) (id : TaskId) : (s.markBlocked id).Valid levels := by
  unfold Schedule.markBlocked
  split
  · exact h.hold id (.inl rfl)
  · exact h

theorem suspend (h : s.Valid levels) (id : TaskId) : (s.suspend id).Valid levels := by
  unfold Schedule.suspend
  split
  · exact h.hold id (.inr rfl)
  · exact h

theorem reprioritise (h : s.Valid levels) (id : TaskId) {priority : Nat}
    (hp : priority < levels) : (s.reprioritise id priority).Valid levels := by
  unfold Schedule.reprioritise
  cases he : s.lookup? id with
  | none =>
    have hstate : s.state? id ≠ some .ready := by simp [state?, he]
    rw [if_neg hstate, update_of_none he]
    exact h
  | some e =>
    have hholder : e.state = .running → s.running = some id := h.holder_of_lookup? he
    have hcurrent : s.running = some id → e.state ≠ .dormant := h.current_of_lookup? he
    have hbounded : priority < levels ∧ e.initial < levels := ⟨hp, (h.bounded id e he).2⟩
    split
    · rename_i hwait
      rw [state?_of_lookup? he, Option.some.injEq] at hwait
      have hqueue : (s.dequeue id).ready = s.ready.drop e.priority id := by
        simp [dequeue, he]
      have hgone : ∀ p, id ∉ s.ready.drop e.priority id p := by
        intro p hmem
        obtain ⟨hin, hnot⟩ := (Waiting.mem_drop (h.nodup _)).1 hmem
        exact hnot ⟨((h.mem_ready he).1 hin).2.symm, rfl⟩
      rw [hqueue]
      refine h.change (lookup?_update_of he fun e => { e with priority := priority }) rfl hbounded
        hholder hcurrent (fun a p ha => ?_) (fun p => ?_)
        (Waiting.nodup_push (Waiting.nodup_drop h.nodup _ _) (hgone _))
      · rw [ready_withReady, Waiting.mem_push, Waiting.mem_drop (h.nodup _)]
        simp [ha]
      · rw [ready_withReady, Waiting.mem_push]
        simp [hgone p, hwait, eq_comm]
    · rename_i hwait
      have hready : e.state ≠ .ready := fun hr => hwait (by rw [state?_of_lookup? he, hr])
      exact h.update he hready hready hbounded hholder hcurrent

theorem setPriority (h : s.Valid levels) (id : TaskId) (priority : Nat) :
    (s.setPriority levels id priority).Valid levels := by
  unfold Schedule.setPriority
  split
  · exact h
  · exact h
  · split
    · exact h
    · rename_i hp
      exact (h.reprioritise id (not_le.1 hp)).checkPreemption

/-! ## Handing over the processor -/

theorem releaseCurrent (h : s.Valid levels) (target : Option TaskId) :
    (s.releaseCurrent target).Valid levels := by
  unfold Schedule.releaseCurrent
  split
  · exact h
  · split
    · exact h
    · split
      · rename_i hrun
        refine h.makeReady ?_
        rw [hrun]
        simp
      · exact h

/-- Once the current task is released nobody holds the processor. -/
theorem not_running_releaseCurrent (h : s.Valid levels) {target : Option TaskId}
    (htarget : ∀ id, target = some id → s.state? id = some .ready) (a : TaskId) :
    (s.releaseCurrent target).state? a ≠ some .running := by
  intro hrun
  unfold Schedule.releaseCurrent at hrun
  split at hrun
  · rename_i hnone
    rw [h.holder a hrun] at hnone
    cases hnone
  · rename_i id hid
    split at hrun
    · rename_i heq
      have ha := h.holder a hrun
      rw [hid, heq] at ha
      rw [htarget a ha] at hrun
      cases hrun
    · split at hrun
      · rename_i hstate
        rw [state?_makeReady hstate] at hrun
        split at hrun
        · cases hrun
        · rename_i ha
          rw [h.holder a hrun, Option.some.injEq] at hid
          exact ha hid
      · rename_i hstate
        have ha := h.holder a hrun
        rw [hid, Option.some.injEq] at ha
        exact hstate (ha ▸ hrun)

/-- While nobody holds the processor any activated task can become the current
task. -/
theorem withRunning (h : s.Valid levels) (hnone : ∀ a, s.state? a ≠ some .running)
    {target : Option TaskId}
    (htarget : ∀ id, target = some id → ∃ e, s.lookup? id = some e ∧ e.state ≠ .dormant) :
    { s with running := target }.Valid levels where
  bounded := h.bounded
  holder a ha := absurd ha (hnone a)
  current := htarget
  ready := h.ready
  nodup := h.nodup

theorem engage (h : s.Valid levels) (hnone : ∀ a, s.state? a ≠ some .running)
    (hid : s.state? id = some .ready) : (s.engage id).Valid levels := by
  obtain ⟨e, he, hstate⟩ := exists_of_state? hid
  have hdormant : e.state ≠ .dormant := by rw [hstate]; exact TaskState.noConfusion
  have hcurrent : { s with running := some id }.Valid levels := by
    refine h.withRunning hnone ?_
    rintro _ ⟨⟩
    exact ⟨e, he, hdormant⟩
  have hleft := hcurrent.leave he (f := fun e => { e with state := .running })
    TaskState.noConfusion (h.bounded id e he) (fun _ => rfl) (fun _ => TaskState.noConfusion)
  have hqueue : s.dequeue id = s.withReady (s.ready.drop e.priority id) := by
    simp [dequeue, he]
  have hqueue' : ({ s with running := some id } : Schedule).dequeue id =
      { s with running := some id }.withReady (s.ready.drop e.priority id) := by
    unfold dequeue
    rw [show ({ s with running := some id } : Schedule).lookup? id = some e from he]
  rw [hqueue'] at hleft
  rw [Schedule.engage, hqueue]
  exact hleft

theorem handOver (h : s.Valid levels) {target : Option TaskId}
    (htarget : ∀ id, target = some id → s.state? id = some .ready) :
    (s.handOver target).Valid levels := by
  have hnone := h.not_running_releaseCurrent htarget
  cases target with
  | none => exact (h.releaseCurrent none).withRunning hnone (fun _ hid => by cases hid)
  | some id =>
    refine (h.releaseCurrent (some id)).engage hnone ?_
    rw [state?, lookup?_releaseCurrent]
    exact htarget id rfl

/-- A task that the scheduler chooses is Ready. -/
theorem ready_of_decide (h : s.Valid levels) {target : Option TaskId}
    (hdecide : s.decide levels = .switchTo target) (hid : target = some id) :
    s.state? id = some .ready := by
  subst hid
  unfold Schedule.decide Waiting.decide at hdecide
  split at hdecide
  · cases hdecide
  · rw [Decision.switchTo.injEq] at hdecide
    obtain ⟨p, -, hp⟩ := Option.bind_eq_some_iff.1 hdecide
    obtain ⟨e, he, hready, -⟩ := (h.ready id p).1 (List.mem_of_mem_head? hp)
    rw [state?_of_lookup? he, hready]

theorem conclude (h : s.Valid levels) : (s.conclude levels).Valid levels := by
  unfold Schedule.conclude
  split
  · cases hdecide : s.decide levels with
    | keep => exact h.takeDispatch
    | switchTo target =>
      exact h.takeDispatch.handOver fun id hid => h.ready_of_decide hdecide hid
  · exact h.takeDispatch

end Valid

end Schedule

end HartKernel
