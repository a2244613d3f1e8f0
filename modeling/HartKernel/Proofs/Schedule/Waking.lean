import HartKernel.Proofs.Schedule.Basic

/-!
# Waking several tasks

Three operations wake a task: it becomes Ready behind the others of a level, and a
dispatch is requested if a Ready task is more urgent than the running one then.  What
several of them do together can be told from the schedule before them, level by level,
and it does not matter in which order tasks of different levels are woken.

Main definitions:

- `WakeUp` is an operation that wakes a task; `WakeUp.Fits` says in which states the
  task may be and `WakeUp.level` is the level that it joins.
- `Schedule.wakeAll` wakes one task after another.
- `Schedule.Wakes` says what waking tasks does to a schedule.

Main results:

- `Schedule.wakes_wake` and `Schedule.wakes_wakeAll`: what one operation does and what
  a list of them does.
- `Schedule.Wakes.unique`: what permuted operations do if they wake the tasks of each
  level in the same order.
- `filter_eq_of_nodup_map`: all permutations do if the levels are different.
-/

namespace HartKernel

/-- An operation that wakes a task. -/
inductive WakeUp where
  | activate (id : TaskId)
  | markReady (id : TaskId)
  | resume (id : TaskId)
deriving DecidableEq, Repr

namespace WakeUp

/-- The task that is woken. -/
def task : WakeUp → TaskId
  | activate id | markReady id | resume id => id

/-- The operation is legal for a task in a state. -/
def Fits : WakeUp → TaskState → Prop
  | activate _, state => state = .dormant
  | markReady _, state => state = .blocked ∨ state = .suspended
  | resume _, state => state = .suspended

/-- The level that the task joins. -/
def level : WakeUp → Entry → Nat
  | activate _, e => e.initial
  | markReady _, e | resume _, e => e.priority

variable {w v : WakeUp} {ws : List WakeUp} {state : TaskState}

theorem task_ne_of_nodup (h : ((w :: ws).map task).Nodup) (hv : v ∈ ws) : w.task ≠ v.task :=
  fun heq => (List.nodup_cons.1 h).1 (heq ▸ List.mem_map_of_mem hv)

theorem Fits.ne_running (h : w.Fits state) : state ≠ .running := by
  rintro rfl
  cases w <;> simp [Fits] at h

end WakeUp

namespace Schedule

variable {levels : Nat} {s s' s₁ s₂ : Schedule} {id : TaskId} {e e' : Entry}
variable {w : WakeUp} {ws ws' : List WakeUp}

/-- Wake a task. -/
def wake (levels : Nat) (s : Schedule) : WakeUp → Schedule
  | .activate id => s.activate levels id
  | .markReady id => s.markReady levels id
  | .resume id => s.resume levels id

/-- Wake one task after another. -/
def wakeAll (levels : Nat) (s : Schedule) (ws : List WakeUp) : Schedule := ws.foldl (wake levels) s

/-- The operation is legal for its task. -/
def Admits (s : Schedule) (w : WakeUp) : Prop :=
  ∃ e, s.lookup? w.task = some e ∧ w.Fits e.state

/-- The level that the task of an operation joins. -/
def levelOf? (s : Schedule) (w : WakeUp) : Option Nat := (s.lookup? w.task).map w.level

/-- A Ready task is more urgent than the running one. -/
def Outranked (levels : Nat) (s : Schedule) : Prop :=
  ∃ p < levels, p < s.runningPriority ∧ s.ready p ≠ []

/-! ## Comparing schedules -/

/-- A schedule is determined by what it tells. -/
theorem eq_of_lookup? (hlookup : ∀ id, s.lookup? id = s'.lookup? id)
    (hready : ∀ p, s.ready p = s'.ready p) (hrunning : s.running = s'.running)
    (hpending : s.pending = s'.pending) (htick : s.tick = s'.tick) : s = s' := by
  have hentries : s.entries = s'.entries := Array.ext_getElem? fun i => hlookup ⟨i⟩
  have hlists : s.ready = s'.ready := funext hready
  cases s
  cases s'
  cases hentries
  cases hlists
  cases hrunning
  cases hpending
  cases htick
  rfl

/-- Changing a task that is not Running, and is not Running afterwards, does not
concern the running task. -/
theorem runningPriority_of_lookup? (he : s.lookup? id = some e) (hstate : e.state ≠ .running)
    (he' : s'.lookup? id = some e') (hstate' : e'.state ≠ .running)
    (hothers : ∀ a, a ≠ id → s'.lookup? a = s.lookup? a) (hrunning : s'.running = s.running) :
    s'.runningPriority = s.runningPriority := by
  have htask : s'.runningTask? = s.runningTask? := by
    unfold runningTask?
    rw [hrunning]
    refine congrArg (fun p => s.running.filter p) (funext fun a => decide_eq_decide.2 ?_)
    by_cases ha : a = id
    · rw [ha, state?_of_lookup? he, state?_of_lookup? he', Option.some.injEq, Option.some.injEq]
      exact iff_of_false hstate' hstate
    · rw [state?, hothers a ha, state?]
  unfold runningPriority
  rw [htask]
  cases hrun : s.runningTask? with
  | none => rfl
  | some a =>
    have ha : a ≠ id := by
      rintro rfl
      have hrun := (runningTask?_eq_some.1 hrun).2
      rw [state?_of_lookup? he, Option.some.injEq] at hrun
      exact hstate hrun
    rw [Option.bind_some, Option.bind_some, hothers a ha]

theorem update_update (s : Schedule) (id : TaskId) (f g : Entry → Entry) :
    (s.update id f).update id g = s.update id fun e => g (f e) := by
  refine eq_of_lookup? (fun a => ?_) (fun _ => rfl) rfl rfl rfl
  rw [lookup?_update, lookup?_update, lookup?_update]
  split
  · rw [Option.map_map]
    rfl
  · rfl

theorem outranked_iff :
    s.Outranked levels ↔ ∃ p, s.ready.highest? levels = some p ∧ p < s.runningPriority := by
  constructor
  · rintro ⟨p, hp, hlt, hne⟩
    cases hw : s.ready.highest? levels with
    | none => exact absurd (Waiting.highest?_eq_none_iff.1 hw p hp) hne
    | some p' =>
      have hle : p' ≤ p := by
        by_contra hgt
        exact hne ((Waiting.highest?_eq_some_iff.1 hw).2.2 p (not_le.1 hgt))
      exact ⟨p', rfl, hle.trans_lt hlt⟩
  · rintro ⟨p, hw, hlt⟩
    obtain ⟨hp, hne, -⟩ := Waiting.highest?_eq_some_iff.1 hw
    exact ⟨p, hp, hlt, hne⟩

/-- The check for preemption leaves a request if a Ready task is more urgent than the
running one. -/
theorem checkPreemption_eq (levels : Nat) (s : Schedule) :
    (∃ pending, s.checkPreemption levels = { s with pending := pending } ∧
      (pending = true ↔ s.pending = true ∨ s.Outranked levels)) := by
  rw [outranked_iff]
  unfold checkPreemption
  cases hw : s.ready.highest? levels with
  | none => exact ⟨s.pending, rfl, by simp⟩
  | some p =>
    by_cases hlt : p < s.runningPriority
    · simp only [if_pos hlt]
      exact ⟨true, rfl, by simp [hlt]⟩
    · simp only [if_neg hlt]
      exact ⟨s.pending, rfl, by simp [hlt]⟩

/-! ## What waking tasks does -/

/-- What waking tasks does to a schedule: each of them is Ready at its level, those of
a level wait behind the tasks that waited there before, in the order in which they
were woken, and a dispatch is requested if that makes a task more urgent than the
running one. -/
structure Wakes (levels : Nat) (s : Schedule) (ws : List WakeUp) (s' : Schedule) : Prop where
  woken : ∀ w ∈ ws, ∃ e, s.lookup? w.task = some e ∧
    s'.lookup? w.task = some { e with state := .ready, priority := w.level e }
  others : ∀ id, (∀ w ∈ ws, w.task ≠ id) → s'.lookup? id = s.lookup? id
  ready : ∀ p, s'.ready p =
    s.ready p ++ (ws.filter fun w => s.levelOf? w = some p).map WakeUp.task
  running : s'.running = s.running
  urgency : s'.runningPriority = s.runningPriority
  pending : s'.pending = true ↔ s.pending = true ∨ ws ≠ [] ∧ s'.Outranked levels
  tick : s'.tick = s.tick

/-- A legal operation makes its task Ready, and looks whether it is the better choice. -/
theorem wake_eq (he : s.lookup? w.task = some e) (hfits : w.Fits e.state) :
    s.wake levels w = ((s.update w.task fun e =>
      { e with state := .ready, priority := w.level e }).withReady
        (s.ready.push (w.level e) w.task)).checkPreemption levels := by
  have hstate := state?_of_lookup? he
  cases w with
  | activate id =>
    have hlegal : s.state? id = some .dormant := hstate.trans (congrArg some hfits)
    have he' : (s.update id fun e => { e with priority := e.initial }).lookup? id =
        some { e with priority := e.initial } :=
      (lookup?_update_of he _ id).trans (if_pos rfl)
    rw [wake, Schedule.activate, if_pos hlegal, makeReady, he']
    dsimp only
    rw [setState, update_update]
    rfl
  | markReady id =>
    have hlegal : s.state? id = some .blocked ∨ s.state? id = some .suspended :=
      hfits.imp (fun h => hstate.trans (congrArg some h)) fun h => hstate.trans (congrArg some h)
    have he' : s.lookup? id = some e := he
    rw [wake, Schedule.markReady, if_pos hlegal, makeReady, he']
    rfl
  | resume id =>
    have hlegal : s.state? id = some .suspended := hstate.trans (congrArg some hfits)
    have he' : s.lookup? id = some e := he
    rw [wake, Schedule.resume, if_pos hlegal, makeReady, he']
    rfl

/-- What one operation does. -/
theorem wakes_wake (h : s.Admits w) : s.Wakes levels [w] (s.wake levels w) := by
  obtain ⟨e, he, hfits⟩ := h
  rw [wake_eq he hfits]
  obtain ⟨pending, heq, hpending⟩ := checkPreemption_eq levels
    ((s.update w.task fun e => { e with state := .ready, priority := w.level e }).withReady
      (s.ready.push (w.level e) w.task))
  rw [heq]
  have hlookup := lookup?_update_of he fun e =>
    { e with state := TaskState.ready, priority := w.level e }
  refine ⟨fun w' hw' => ?_, fun id hid => ?_, fun p => ?_, rfl, ?_, ?_, rfl⟩
  · rw [List.mem_singleton.1 hw']
    exact ⟨e, he, (hlookup w.task).trans (if_pos rfl)⟩
  · exact (hlookup id).trans (if_neg fun e => hid w List.mem_cons_self e.symm)
  · have hlevel : s.levelOf? w = some (w.level e) := by rw [levelOf?, he, Option.map_some]
    change s.ready.push (w.level e) w.task p = _
    unfold Waiting.push
    by_cases hp : p = w.level e
    · subst hp
      rw [Function.update_self, List.filter_cons_of_pos (by simpa using hlevel)]
      rfl
    · rw [Function.update_of_ne hp, List.filter_cons_of_neg (by simpa [hlevel] using Ne.symm hp)]
      exact (List.append_nil _).symm
  · exact runningPriority_of_lookup? he hfits.ne_running ((hlookup w.task).trans (if_pos rfl))
      TaskState.noConfusion (fun a ha => (hlookup a).trans (if_neg ha)) rfl
  · rw [and_iff_right (List.cons_ne_nil w [])]
    exact hpending

namespace Wakes

theorem lookup?_of_mem (h : s.Wakes levels ws s') (hw : w ∈ ws) (he : s.lookup? w.task = some e) :
    s'.lookup? w.task = some { e with state := .ready, priority := w.level e } := by
  obtain ⟨e', he', hwoken⟩ := h.woken w hw
  rw [he, Option.some.injEq] at he'
  rw [hwoken, he']

theorem levelOf?_eq (h : s.Wakes levels ws s') (hw : ∀ v ∈ ws, v.task ≠ w.task) :
    s'.levelOf? w = s.levelOf? w := by
  rw [levelOf?, h.others _ hw, levelOf?]

/-- Waking other tasks does not make an operation illegal. -/
theorem admits (h : s.Wakes levels ws s') (hw : ∀ v ∈ ws, v.task ≠ w.task) (hadmits : s.Admits w) :
    s'.Admits w := by
  rwa [Admits, h.others _ hw]

/-- Lists only grow, and the running task stays the same. -/
theorem outranked (h : s.Wakes levels ws s') (hout : s.Outranked levels) :
    s'.Outranked levels := by
  obtain ⟨p, hp, hlt, hne⟩ := hout
  refine ⟨p, hp, h.urgency ▸ hlt, ?_⟩
  rw [h.ready]
  exact List.append_ne_nil_of_left_ne_nil hne _

theorem outranked_of_nil (h : s.Wakes levels [] s') (hout : s'.Outranked levels) :
    s.Outranked levels := by
  obtain ⟨p, hp, hlt, hne⟩ := hout
  rw [h.ready, List.filter_nil, List.map_nil, List.append_nil] at hne
  exact ⟨p, hp, h.urgency ▸ hlt, hne⟩

/-- Waking tasks, and other tasks afterwards. -/
theorem append (h : s.Wakes levels ws s₁) (h' : s₁.Wakes levels ws' s₂)
    (hdisjoint : ∀ w ∈ ws, ∀ w' ∈ ws', w.task ≠ w'.task) : s.Wakes levels (ws ++ ws') s₂ where
  woken w hw := by
    rcases List.mem_append.1 hw with hw | hw
    · obtain ⟨e, he, hwoken⟩ := h.woken w hw
      exact ⟨e, he, (h'.others _ fun w' hw' => (hdisjoint w hw w' hw').symm).trans hwoken⟩
    · obtain ⟨e, he, hwoken⟩ := h'.woken w hw
      exact ⟨e, (h.others _ fun v hv => hdisjoint v hv w hw).symm.trans he, hwoken⟩
  others id hid :=
    (h'.others id fun w hw => hid w (List.mem_append_right _ hw)).trans
      (h.others id fun w hw => hid w (List.mem_append_left _ hw))
  ready p := by
    have hlevels : (ws'.filter fun w => s₁.levelOf? w = some p) =
        ws'.filter fun w => s.levelOf? w = some p :=
      List.filter_congr fun w hw => by rw [h.levelOf?_eq fun v hv => hdisjoint v hv w hw]
    rw [h'.ready, h.ready, hlevels, List.filter_append, List.map_append, List.append_assoc]
  running := h'.running.trans h.running
  urgency := h'.urgency.trans h.urgency
  pending := by
    rw [h'.pending, h.pending]
    constructor
    · rintro ((hpending | ⟨hne, hout⟩) | ⟨hne, hout⟩)
      · exact .inl hpending
      · exact .inr ⟨List.append_ne_nil_of_left_ne_nil hne _, h'.outranked hout⟩
      · exact .inr ⟨List.append_ne_nil_of_right_ne_nil _ hne, hout⟩
    · rintro (hpending | ⟨hne, hout⟩)
      · exact .inl (.inl hpending)
      · by_cases hnil : ws' = []
        · -- the check after the last of the first tasks has seen all that there is to see
          subst hnil
          rw [List.append_nil] at hne
          exact .inl (.inr ⟨hne, h'.outranked_of_nil hout⟩)
        · exact .inr ⟨hnil, hout⟩
  tick := h'.tick.trans h.tick

/-- Permuted operations have the same effect if they wake the tasks of each level in
the same order. -/
theorem unique (h : s.Wakes levels ws s₁) (h' : s.Wakes levels ws' s₂) (hperm : ws'.Perm ws)
    (halike : ∀ p, (ws'.filter fun w => s.levelOf? w = some p) =
      ws.filter fun w => s.levelOf? w = some p) : s₂ = s₁ := by
  have hready : ∀ p, s₂.ready p = s₁.ready p := fun p => by rw [h.ready, h'.ready, halike]
  have hempty : ws' = [] ↔ ws = [] := by
    rw [← List.length_eq_zero_iff, hperm.length_eq, List.length_eq_zero_iff]
  have hout : s₂.Outranked levels ↔ s₁.Outranked levels := by
    simp only [Outranked, hready, h.urgency, h'.urgency]
  refine eq_of_lookup? (fun id => ?_) hready (h'.running.trans h.running.symm) ?_
    (h'.tick.trans h.tick.symm)
  · by_cases hid : ∃ w ∈ ws, w.task = id
    · obtain ⟨w, hw, rfl⟩ := hid
      obtain ⟨e, he, hwoken⟩ := h.woken w hw
      rw [h'.lookup?_of_mem (hperm.mem_iff.2 hw) he, hwoken]
    · have hother : ∀ w ∈ ws, w.task ≠ id := fun w hw heq => hid ⟨w, hw, heq⟩
      rw [h.others id hother, h'.others id fun w hw => hother w (hperm.mem_iff.1 hw)]
  · rw [Bool.eq_iff_iff, h.pending, h'.pending, hout, ne_eq, hempty]

end Wakes

theorem wakes_nil (s : Schedule) : s.Wakes levels [] s where
  woken _ hw := absurd hw List.not_mem_nil
  others _ _ := rfl
  ready _ := (List.append_nil _).symm
  running := rfl
  urgency := rfl
  pending := by simp
  tick := rfl

/-- A legal operation leaves operations on other tasks legal. -/
theorem admits_wake (hnodup : ((w :: ws).map WakeUp.task).Nodup)
    (hadmits : ∀ v ∈ w :: ws, s.Admits v) : ∀ v ∈ ws, (s.wake levels w).Admits v := by
  intro v hv
  have hne := WakeUp.task_ne_of_nodup hnodup hv
  exact (wakes_wake (hadmits w List.mem_cons_self)).admits (by simpa using hne)
    (hadmits v (List.mem_cons_of_mem _ hv))

/-- What a list of operations on different tasks does. -/
theorem wakes_wakeAll (hnodup : (ws.map WakeUp.task).Nodup) (hadmits : ∀ w ∈ ws, s.Admits w) :
    s.Wakes levels ws (s.wakeAll levels ws) := by
  induction ws generalizing s with
  | nil => exact wakes_nil s
  | cons w ws ih =>
    have hfirst : s.Wakes levels [w] (s.wake levels w) := wakes_wake (hadmits w List.mem_cons_self)
    have hrest : (s.wake levels w).Wakes levels ws ((s.wake levels w).wakeAll levels ws) :=
      ih hnodup.of_cons (admits_wake hnodup hadmits)
    refine hfirst.append hrest fun v hv v' hv' => ?_
    rw [List.mem_singleton.1 hv]
    exact WakeUp.task_ne_of_nodup hnodup hv'

end Schedule

/-- Elements with different images are alone in their classes, so permutations do not
change the classes. -/
theorem filter_eq_of_nodup_map {α β : Type} [DecidableEq β] {f : α → β} {l l' : List α}
    (hperm : l'.Perm l) (hnodup : (l.map f).Nodup) (b : β) :
    (l'.filter fun a => f a = b) = l.filter fun a => f a = b := by
  have hfilter : (l'.filter fun a => f a = b).Perm (l.filter fun a => f a = b) := hperm.filter _
  have himages : ((l.filter fun a => f a = b).map f).Nodup :=
    hnodup.sublist (List.filter_sublist.map f)
  have himage : ∀ a ∈ l.filter fun a => f a = b, f a = b := fun a ha =>
    of_decide_eq_true (List.mem_filter.1 ha).2
  match hclass : l.filter fun a => f a = b with
  | [] => exact (hclass ▸ hfilter).eq_nil
  | [a] => exact List.perm_singleton.1 (hclass ▸ hfilter)
  | a :: a' :: _ =>
    rw [hclass] at himages himage
    have hsame : f a = f a' := (himage a (by simp)).trans (himage a' (by simp)).symm
    simp [hsame] at himages

end HartKernel
