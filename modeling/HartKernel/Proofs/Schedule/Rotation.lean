import HartKernel.Proofs.Schedule.Urgency
import Mathlib.Data.List.Rotate

/-!
# Taking turns

When the scheduler is asked to decide, the tasks of the most urgent level take
turns: the first one gets the processor, and the one that loses the processor
goes to the back.  So the tasks that wait at that level, followed by the one that
runs there, are rotated by one place, and nothing happens at the other levels.

Main definitions:

- `Schedule.cycle` are the tasks that take turns at a level, in turn.
- `Schedule.Rotated` says that the tasks of the most urgent level have taken a
  number of turns.

Main results:

- `Schedule.Valid.ready_conclude` and `Schedule.Valid.runningAt?_conclude`: what one
  turn does.
- `Schedule.lookup?_handOver` and `Schedule.Valid.level_handOver`: what handing the
  processor to a Ready task does to the tasks and to the lists.
- `Schedule.Rotated.conclude`: turns add up.
- `Schedule.Rotated.runningTask?_eq` and `Schedule.Rotated.ready_eq`: who runs and who
  waits after a number of turns.
-/

namespace HartKernel

namespace Schedule

variable {levels p q n : Nat} {s s' s'' : Schedule} {id : TaskId} {e : Entry}

/-- The running task, if it is Running at a level. -/
def runningAt? (s : Schedule) (p : Nat) : Option TaskId :=
  s.runningTask?.filter fun id => (s.lookup? id).map Entry.priority = some p

/-- The tasks that take turns at a level: those that wait, in their order, and
then the one that is Running. -/
def cycle (s : Schedule) : Waiting := fun p => s.ready p ++ (s.runningAt? p).toList

/-- A level is the most urgent one where there is a task to run. -/
structure Leads (s : Schedule) (p : Nat) : Prop where
  occupied : s.cycle p ≠ []
  vacant : ∀ q < p, s.cycle q = []

theorem runningAt?_eq_some : s.runningAt? p = some id ↔
    s.runningTask? = some id ∧ ∃ e, s.lookup? id = some e ∧ e.priority = p := by
  rw [runningAt?, Option.filter_eq_some_iff, decide_eq_true_iff, Option.map_eq_some_iff]

theorem runningAt?_of_none (h : s.runningTask? = none) (p : Nat) : s.runningAt? p = none := by
  rw [runningAt?, h, Option.filter_none]

theorem runningAt?_of_some (h : s.runningTask? = some id) (he : s.lookup? id = some e) (p : Nat) :
    s.runningAt? p = if p = e.priority then some id else none := by
  rw [runningAt?, h, Option.filter_some, he, Option.map_some]
  simp [eq_comm]

theorem Leads.eq (h : s.Leads p) (h' : s.Leads q) : p = q := by
  rcases Nat.lt_trichotomy p q with hlt | heq | hgt
  · exact absurd (h'.vacant p hlt) h.occupied
  · exact heq
  · exact absurd (h.vacant q hgt) h'.occupied

/-- The tasks that take turns at a level are its Running and Ready tasks. -/
theorem Valid.mem_cycle (h : s.Valid levels) : id ∈ s.cycle p ↔
    ∃ e, s.lookup? id = some e ∧ (e.state = .running ∨ e.state = .ready) ∧ e.priority = p := by
  rw [cycle, List.mem_append, Option.mem_toList, runningAt?_eq_some, h.ready]
  constructor
  · rintro (⟨e, he, hready, hp⟩ | ⟨hrunning, e, he, hp⟩)
    · exact ⟨e, he, .inr hready, hp⟩
    · have hstate := (runningTask?_eq_some.1 hrunning).2
      rw [state?_of_lookup? he, Option.some.injEq] at hstate
      exact ⟨e, he, .inl hstate, hp⟩
  · rintro ⟨e, he, hrunning | hready, hp⟩
    · have hstate : s.state? id = some .running := by rw [state?_of_lookup? he, hrunning]
      exact .inr ⟨runningTask?_eq_some.2 ⟨h.holder id hstate, hstate⟩, e, he, hp⟩
    · exact .inl ⟨e, he, hready, hp⟩

/-! ## One turn -/

/-- Once the current task is released those that take turns at a level wait
there. -/
theorem ready_releaseCurrent (hid : s.state? id = some .ready) :
    (s.releaseCurrent (some id)).ready = s.cycle := by
  funext q
  rw [cycle]
  cases hrun : s.runningTask? with
  | none =>
    rw [releaseCurrent_of_none hrun, runningAt?_of_none hrun, Option.toList_none, List.append_nil]
  | some a =>
    obtain ⟨hrunning, hstate⟩ := runningTask?_eq_some.1 hrun
    obtain ⟨e, he, -⟩ := exists_of_state? hstate
    have hne : some a ≠ some id := by
      rintro heq
      cases heq
      rw [hid] at hstate
      cases hstate
    have hrelease : (s.releaseCurrent (some id)).ready = s.ready.push e.priority a := by
      simp only [Schedule.releaseCurrent, hrunning, if_neg hne, if_pos hstate, Schedule.makeReady,
        he, ready_withReady]
    rw [hrelease, runningAt?_of_some hrun he, Waiting.push]
    by_cases hq : q = e.priority
    · subst hq
      rw [Function.update_self, if_pos rfl, Option.toList_some]
    · rw [Function.update_of_ne hq, if_neg hq, Option.toList_none, List.append_nil]

/-- A task that gets the processor leaves the lists and is Running. -/
theorem handOver_eq (he : s.lookup? id = some e) :
    s.handOver (some id) = { ((s.releaseCurrent (some id)).withReady
      ((s.releaseCurrent (some id)).ready.drop e.priority id)).setState id .running with
        running := some id } := by
  rw [← lookup?_releaseCurrent] at he
  simp only [handOver, engage, dequeue, he]

/-- A Ready task gets the processor: it leaves its level, and whoever was Running
waits. -/
theorem ready_handOver (he : s.lookup? id = some e) (hready : e.state = .ready) :
    (s.handOver (some id)).ready = s.cycle.drop e.priority id := by
  have hid : s.state? id = some .ready := by rw [state?_of_lookup? he, hready]
  rw [handOver_eq he, ← ready_releaseCurrent hid]
  rfl

/-- The target is Running, whoever was Running is Ready, and nothing else is
different. -/
theorem lookup?_handOver (he : s.lookup? id = some e) (hready : e.state = .ready) (a : TaskId) :
    (s.handOver (some id)).lookup? a = if a = id then some { e with state := .running }
      else if s.runningTask? = some a then (s.lookup? a).map fun e => { e with state := .ready }
      else s.lookup? a := by
  have he' : (s.releaseCurrent (some id)).lookup? id = some e := by rw [lookup?_releaseCurrent, he]
  have hengaged : (s.handOver (some id)).lookup? a =
      if a = id then some { e with state := .running }
      else (s.releaseCurrent (some id)).lookup? a := by
    rw [handOver_eq he]
    exact lookup?_update_of he' _ a
  rw [hengaged]
  refine if_congr Iff.rfl rfl ?_
  cases hrun : s.runningTask? with
  | none =>
    rw [releaseCurrent_of_none hrun]
    exact (if_neg nofun).symm
  | some b =>
    obtain ⟨hrunning, hstate⟩ := runningTask?_eq_some.1 hrun
    obtain ⟨e₁, he₁, -⟩ := exists_of_state? hstate
    have hne : some b ≠ some id := by
      rintro heq
      cases heq
      rw [state?_of_lookup? he, hready] at hstate
      cases hstate
    have hrelease : s.releaseCurrent (some id) =
        (s.setState b .ready).withReady (s.ready.push e₁.priority b) := by
      simp only [Schedule.releaseCurrent, hrunning, if_neg hne, if_pos hstate, Schedule.makeReady,
        he₁]
    rw [hrelease, lookup?_withReady, setState, lookup?_update]
    simp only [Option.some.injEq, eq_comm]

/-- At each level the target leaves its place, whoever was Running joins the back, and
the others keep their order. -/
theorem Valid.level_handOver (h : s.Valid levels) (he : s.lookup? id = some e)
    (hready : e.state = .ready) (p : Nat) :
    (s.handOver (some id)).ready p = (s.ready p).erase id ++ (s.runningAt? p).toList := by
  rw [ready_handOver he hready, Waiting.drop]
  by_cases hp : p = e.priority
  · subst hp
    rw [Function.update_self, cycle, List.erase_append_left _ ((h.mem_ready he).2 ⟨hready, rfl⟩)]
  · have hnot : id ∉ s.ready p := fun hmem => hp ((h.mem_ready he).1 hmem).2.symm
    rw [Function.update_of_ne hp, cycle, List.erase_of_not_mem hnot]

theorem runningAt?_handOver (he : s.lookup? id = some e) (q : Nat) :
    (s.handOver (some id)).runningAt? q = if q = e.priority then some id else none := by
  have he' : (s.releaseCurrent (some id)).lookup? id = some e := by rw [lookup?_releaseCurrent, he]
  have hengaged : (s.handOver (some id)).lookup? id = some { e with state := .running } := by
    rw [handOver_eq he]
    exact (lookup?_update_of he' _ id).trans (if_pos rfl)
  have hrun : (s.handOver (some id)).runningTask? = some id :=
    runningTask?_eq_some.2 ⟨running_handOver s _, state?_of_lookup? hengaged⟩
  exact runningAt?_of_some hrun hengaged q

/-- What the scheduler decides: a task that is alone at the most urgent level and
runs there goes on, and otherwise the first task that waits there takes over. -/
theorem Valid.decide_of_leads (h : s.Valid levels) (hlevels : levels ≤ leastUrgent)
    (hp : s.Leads p) :
    (s.decide levels = .keep ∧ s.ready p = [] ∧ ∃ id, s.runningAt? p = some id) ∨
      ∃ id rest, s.decide levels = .switchTo (some id) ∧ s.ready p = id :: rest := by
  have hvacant : ∀ q, s.ready q = [] → s.runningAt? q = none → s.cycle q = [] := by
    intro q hready hrunning
    rw [cycle, hready, hrunning]
    rfl
  have hoccupied : s.ready p = [] → ∃ id, s.runningAt? p = some id := by
    intro hnil
    rw [← Option.ne_none_iff_exists']
    exact fun hnone => hp.occupied (hvacant p hnil hnone)
  unfold Schedule.decide Waiting.decide
  cases hw : s.ready.highest? levels with
  | none =>
    have hnil := h.eq_nil_of_highest? hw p
    obtain ⟨id, hid⟩ := hoccupied hnil
    obtain ⟨hrun, e, he, -⟩ := runningAt?_eq_some.1 hid
    have hlt : s.runningPriority < leastUrgent := by
      rw [runningPriority_of_running hrun he]
      exact (h.bounded id e he).1.trans_le hlevels
    exact .inl ⟨if_pos hlt, hnil, id, hid⟩
  | some p₀ =>
    obtain ⟨hp₀, hne, hlow⟩ := Waiting.highest?_eq_some_iff.1 hw
    rw [Option.getD_some, Option.bind_some]
    by_cases hlt : s.runningPriority < p₀
    · -- nobody waits where the running task runs, nor at a more urgent level
      rw [if_pos hlt]
      have hnil : s.ready p = [] := by
        by_contra hwaits
        have hle : p₀ ≤ p := not_lt.1 fun hgt => hwaits (hlow p hgt)
        cases hrun : s.runningTask? with
        | none =>
          rw [runningPriority_of_none hrun] at hlt
          omega
        | some id =>
          obtain ⟨e, he, -⟩ := exists_of_state? (runningTask?_eq_some.1 hrun).2
          rw [runningPriority_of_running hrun he] at hlt
          have hmem : s.runningAt? e.priority = some id := runningAt?_eq_some.2 ⟨hrun, e, he, rfl⟩
          have hcycle := hp.vacant e.priority (hlt.trans_le hle)
          rw [cycle, hmem] at hcycle
          exact List.append_ne_nil_of_right_ne_nil _ (List.cons_ne_nil _ _) hcycle
      exact .inl ⟨rfl, hnil, hoccupied hnil⟩
    · rw [if_neg hlt]
      have hleads : s.Leads p₀ := by
        refine ⟨List.append_ne_nil_of_left_ne_nil hne _, fun q hq => hvacant q (hlow q hq) ?_⟩
        by_contra hsome
        obtain ⟨id, hid⟩ := Option.ne_none_iff_exists'.1 hsome
        obtain ⟨hrun, e, he, rfl⟩ := runningAt?_eq_some.1 hid
        rw [runningPriority_of_running hrun he] at hlt
        exact hlt hq
      obtain rfl := hp.eq hleads
      obtain ⟨id, rest, hready⟩ := List.exists_cons_of_ne_nil hne
      refine .inr ⟨id, rest, ?_, hready⟩
      rw [hready, List.head?_cons]

/-- One turn: the first task that takes turns at the most urgent level runs, the
others wait behind it, and so do the tasks of all other levels. -/
theorem Valid.conclude_of_leads (h : s.Valid levels) (hlevels : levels ≤ leastUrgent)
    (hp : s.Leads p) (hpending : s.pending = true) (q : Nat) :
    (s.conclude levels).ready q = (if q = p then (s.cycle p).tail else s.cycle q) ∧
      (s.conclude levels).runningAt? q = if q = p then (s.cycle p).head? else none := by
  rw [Schedule.conclude, if_pos (.inl hpending)]
  rcases h.decide_of_leads hlevels hp with
    ⟨hkeep, hnil, id, hid⟩ | ⟨id, rest, hswitch, hready⟩
  · obtain ⟨hrun, e, he, rfl⟩ := runningAt?_eq_some.1 hid
    have hat := runningAt?_of_some hrun he
    rw [hkeep]
    change s.ready q = _ ∧ s.runningAt? q = _
    rw [hat, cycle, hnil, hid]
    by_cases hq : q = e.priority
    · rw [if_pos hq, if_pos hq, if_pos hq, hq, hnil]
      exact ⟨rfl, rfl⟩
    · rw [if_neg hq, if_neg hq, if_neg hq, cycle, hat, if_neg hq, Option.toList_none,
        List.append_nil]
      exact ⟨rfl, rfl⟩
  · obtain ⟨e, he, hstate, rfl⟩ := (h.ready id p).1 (hready ▸ List.mem_cons_self)
    rw [hswitch]
    change (s.takeDispatch.handOver (some id)).ready q = _ ∧
      (s.takeDispatch.handOver (some id)).runningAt? q = _
    have he' : s.takeDispatch.lookup? id = some e := he
    have hcycle : s.cycle e.priority = id :: (rest ++ (s.runningAt? e.priority).toList) := by
      rw [cycle, hready, List.cons_append]
    rw [ready_handOver he' hstate, runningAt?_handOver he', hcycle, List.tail_cons, List.head?_cons]
    refine ⟨?_, rfl⟩
    change s.cycle.drop e.priority id q = _
    by_cases hq : q = e.priority
    · rw [hq, if_pos rfl, Waiting.drop, Function.update_self, hcycle, List.erase_cons_head]
    · rw [if_neg hq, Waiting.drop, Function.update_of_ne hq]

/-! ## Several turns -/

/-- The tasks of a level have taken a number of turns. -/
structure Rotated (p n : Nat) (s s' : Schedule) : Prop where
  cycle : ∀ q, s'.cycle q = if q = p then (s.cycle p).rotate n else s.cycle q
  running : 0 < n → ∀ q, s'.runningAt? q = if q = p then ((s.cycle p).rotate n).getLast? else none

theorem Rotated.refl (s : Schedule) (p : Nat) : Rotated p 0 s s where
  cycle q := by
    split
    · subst q
      rw [List.rotate_zero]
    · rfl
  running h := absurd h (Nat.lt_irrefl 0)

namespace Rotated

theorem congr (h : Rotated p n s s') (hentries : s''.entries = s'.entries)
    (hready : s''.ready = s'.ready) (hrunning : s''.running = s'.running) :
    Rotated p n s s'' := by
  have hat : ∀ q, s''.runningAt? q = s'.runningAt? q := by
    intro q
    cases s''
    cases hentries
    cases hrunning
    rfl
  constructor
  · intro q
    rw [← h.cycle q, Schedule.cycle, Schedule.cycle, hat, hready]
  · intro hn q
    rw [hat, h.running hn q]

theorem leads (h : Rotated p n s s') (hp : s.Leads p) : s'.Leads p := by
  constructor
  · rw [h.cycle, if_pos rfl, Ne, List.rotate_eq_nil_iff]
    exact hp.occupied
  · intro q hq
    rw [h.cycle, if_neg hq.ne]
    exact hp.vacant q hq

/-- One more turn. -/
theorem conclude (h : Rotated p n s s') (hv : s'.Valid levels) (hlevels : levels ≤ leastUrgent)
    (hp : s.Leads p) (hpending : s'.pending = true) :
    Rotated p (n + 1) s (s'.conclude levels) := by
  have hturn := hv.conclude_of_leads hlevels (h.leads hp) hpending
  obtain ⟨id, rest, hcycle⟩ := List.exists_cons_of_ne_nil (h.leads hp).occupied
  have hrotate : (s.cycle p).rotate (n + 1) = rest ++ [id] := by
    rw [← List.rotate_rotate, ← (h.cycle p).trans (if_pos rfl), hcycle, List.rotate_cons_succ,
      List.rotate_zero]
  constructor
  · intro q
    obtain ⟨hready, hrunning⟩ := hturn q
    rw [Schedule.cycle, hready, hrunning, hrotate]
    by_cases hq : q = p
    · rw [if_pos hq, if_pos hq, if_pos hq, hcycle]
      rfl
    · rw [if_neg hq, if_neg hq, if_neg hq, h.cycle, if_neg hq, Option.toList_none,
        List.append_nil]
  · intro _ q
    rw [(hturn q).2, hrotate, List.getLast?_concat, hcycle, List.head?_cons]

/-- After some turns the running task is the one whose turn was last. -/
theorem runningTask?_eq (h : Rotated p n s s') (hp : s.Leads p) (hn : 0 < n) :
    s'.runningTask? = (s.cycle p)[(n - 1) % (s.cycle p).length]? := by
  have hlength : 0 < (s.cycle p).length := List.length_pos_iff.2 hp.occupied
  have hlast : ((s.cycle p).rotate n).getLast? = (s.cycle p)[(n - 1) % (s.cycle p).length]? := by
    have hindex : (s.cycle p).length - 1 + n = n - 1 + (s.cycle p).length := by omega
    rw [List.getLast?_eq_getElem?, List.length_rotate, List.getElem?_rotate (by omega), hindex,
      Nat.add_mod_right]
  have hrunning := (h.running hn p).trans (if_pos rfl)
  rw [hlast, List.getElem?_eq_getElem (Nat.mod_lt _ hlength)] at hrunning
  rw [(runningAt?_eq_some.1 hrunning).1, List.getElem?_eq_getElem (Nat.mod_lt _ hlength)]

/-- After some turns the tasks of all other levels wait. -/
theorem ready_of_ne (h : Rotated p n s s') (hn : 0 < n) (hq : q ≠ p) : s'.ready q = s.cycle q := by
  have hcycle := h.cycle q
  rwa [Schedule.cycle, h.running hn, if_neg hq, if_neg hq, Option.toList_none,
    List.append_nil] at hcycle

/-- As many turns as there are tasks lead back. -/
theorem again (h : Rotated p n s s') (h' : Rotated p (n + (s.cycle p).length) s s'')
    (hp : s.Leads p) (hn : 0 < n) :
    s''.ready = s'.ready ∧ s''.runningTask? = s'.runningTask? := by
  have hrotate : (s.cycle p).rotate (n + (s.cycle p).length) = (s.cycle p).rotate n := by
    rw [← List.rotate_mod, Nat.add_mod_right, List.rotate_mod]
  constructor
  · funext q
    have hcycle : s''.cycle q = s'.cycle q := by rw [h'.cycle, h.cycle, hrotate]
    have hat : s''.runningAt? q = s'.runningAt? q := by
      rw [h'.running (by omega), h.running hn, hrotate]
    rwa [Schedule.cycle, Schedule.cycle, hat, List.append_cancel_right_eq] at hcycle
  · have hindex : n + (s.cycle p).length - 1 = n - 1 + (s.cycle p).length := by omega
    rw [h'.runningTask?_eq hp (by omega), h.runningTask?_eq hp hn, hindex, Nat.add_mod_right]

end Rotated

end Schedule

end HartKernel
