import HartKernel.Proofs.Kernel.Calls

/-!
# The kernel invariant

The parts of the kernel that describe the same thing (the states of tasks, the
links in their records, the first tasks of the levels, the bitmap and the
current task) agree after every history of calls.

Main definitions:

- `Kernel.WellFormed` says so.
- `Kernel.run` makes the calls of a history.

Main results:

- `Kernel.Implements.wellFormed`: a kernel that stands for a valid schedule is
  well-formed.
- `Kernel.run_wellFormed`: no history fails a check of the kernel, and every
  history ends in a well-formed kernel.
-/

namespace HartKernel

namespace Kernel

variable {capacity levels : Nat} {k : Kernel capacity levels} {s : Schedule}

/-- The parts of a kernel agree. -/
structure WellFormed (k : Kernel capacity levels) : Prop where
  /-- A Ready task is in the queue exactly once, another task is not. -/
  occurs : ∃ ready, k.readyTasks = .ok ready ∧ ∀ id t, k.task? id = some t →
    ready.count id = if t.state = .ready then 1 else 0
  /-- A task is linked if it is Ready. -/
  linked : ∀ id t, k.task? id = some t → (t.link.isSome = true ↔ t.state = .ready)
  /-- A Ready task is in the list of its priority, and every priority is a level. -/
  level : ∀ id t, k.task? id = some t → t.priority < levels ∧
    (t.state = .ready → ∃ l, k.queue.levelList k.tasks t.priority = .ok l ∧ id ∈ l)
  /-- The list of a level is a circle of created tasks that starts at its head. -/
  circle : ∀ p < levels, ∃ l, k.queue.levelList k.tasks p = .ok l ∧
    k.queue.head p = .ok l.head? ∧ l.Nodup ∧ k.tasks.links.Ring l ∧
    ∀ id ∈ l, (k.task? id).isSome = true
  /-- The bitmap knows the levels that have a head. -/
  bitmap : ∀ i : Position, k.queue.bitmap.contains i = true ↔
    ∃ h : i.val < levels, k.queue.heads[i.val].isSome = true
  /-- The summary of the bitmap knows the groups that are not empty. -/
  summary : k.queue.bitmap.Sound
  /-- Only the current task is Running. -/
  holder : ∀ id, k.IsRunning id → k.running = some id
  /-- The current task is created and not Dormant. -/
  current : ∀ id, k.running = some id → ∃ t, k.task? id = some t ∧ t.state ≠ .dormant

/-- A kernel that stands for a valid schedule is well-formed. -/
theorem Implements.wellFormed (h : k.Implements s) (hv : s.Valid levels) : k.WellFormed where
  occurs := by
    refine ⟨_, h.queue.toList_eq, fun id t ht => ?_⟩
    have hstate := h.state?_of_task? ht
    split
    · rename_i hready
      refine List.count_eq_one_of_mem hv.nodup_toList (hv.mem_toList.2 ?_)
      rw [hstate, hready]
    · rename_i hready
      refine List.count_eq_zero.2 fun hmem => hready ?_
      have := hv.mem_toList.1 hmem
      rwa [hstate, Option.some.injEq] at this
  linked id t ht := by
    have he := h.lookup?_of_task? ht
    constructor
    · intro hlink
      obtain ⟨l, hl⟩ := Option.isSome_iff_exists.1 hlink
      exact ((hv.mem_ready he).1 (h.queue.mem_of_link ht hl)).1
    · intro hready
      have hsome := (h.queue.ring t.priority).isSome ((hv.mem_ready he).2 ⟨hready, rfl⟩)
      rwa [TaskTable.links_of_getElem? ht] at hsome
  level id t ht := by
    have he := h.lookup?_of_task? ht
    have hp : t.priority < levels := (hv.bounded id _ he).1
    exact ⟨hp, fun hready =>
      ⟨_, h.queue.levelList_eq hp, (hv.mem_ready he).2 ⟨hready, rfl⟩⟩⟩
  circle p hp := by
    refine ⟨_, h.queue.levelList_eq hp, ?_, h.queue.nodup p, h.queue.ring p, fun id hid => ?_⟩
    · rw [ReadyQueue.head, dif_pos hp, h.queue.heads p hp]
    · obtain ⟨t, ht, -⟩ := h.queue.level p id hid
      rw [task?, ht]
      rfl
  bitmap i := by
    rw [h.queue.bitmap]
    constructor
    · intro hne
      have hi : i.val < levels := by
        by_contra hge
        exact hne (h.queue.outside _ (not_lt.1 hge))
      refine ⟨hi, ?_⟩
      rwa [h.queue.heads _ hi, List.isSome_head?]
    · rintro ⟨hi, hsome⟩
      rwa [h.queue.heads _ hi, List.isSome_head?] at hsome
  summary := h.queue.sound
  holder id hid := by
    rw [← h.running]
    exact hv.holder id (by rwa [h.state?_eq])
  current id hid := by
    obtain ⟨e, he, hstate⟩ := hv.current id (h.running.trans hid)
    rw [h.lookup?_eq, Option.map_eq_some_iff] at he
    obtain ⟨t, ht, rfl⟩ := he
    exact ⟨t, ht, hstate⟩

/-! ## Histories -/

/-- Make the calls of a history, each with the live registers of its moment. -/
def run (cfg : Config) (k : Kernel capacity levels) :
    List (RegisterFile × KernelCall) → Traced (Kernel capacity levels)
  | [] => pure k
  | (r, call) :: history => do
    let (_, k, _) ← k.invoke cfg r call
    k.run cfg history

/-- The kernel without tasks stands for the schedule without tasks. -/
theorem implements_initial (capacity : Nat) (h : 0 < levels ∧ levels ≤ 4096) :
    ∃ k : Kernel capacity levels, initial capacity levels = .ok k ∧
      k.Implements Schedule.initial := by
  refine ⟨⟨#[], .empty h.2, none, false, 0⟩, dif_pos h, ?_⟩
  exact ⟨by simp [Schedule.initial], rfl, rfl, rfl,
    ReadyQueue.represents_empty h.2 fun id => by simp [TaskTable.links]⟩

/-- A kernel that was made has a number of levels that is supported. -/
theorem implements_of_initial (h : initial capacity levels = .ok k) :
    k.Implements Schedule.initial := by
  have hlevels : 0 < levels ∧ levels ≤ 4096 := by
    by_contra hnot
    rw [initial, dif_neg hnot] at h
    cases h
  obtain ⟨k₀, hk₀, himpl⟩ := implements_initial capacity hlevels
  rw [h] at hk₀
  cases hk₀
  exact himpl

/-- A history goes well and keeps the scheduler invariant. -/
theorem Implements.run (h : k.Implements s) (hv : s.Valid levels) (cfg : Config)
    (history : List (RegisterFile × KernelCall)) :
    ∃ k' s', (k.run cfg history).result = .ok k' ∧ k'.Implements s' ∧ s'.Valid levels := by
  induction history generalizing k s with
  | nil => exact ⟨k, s, rfl, h, hv⟩
  | cons step history ih =>
    obtain ⟨r, call⟩ := step
    obtain ⟨ok, k₁, r₁, s₁, hresult, h₁, hstep, -⟩ := h.invoke hv cfg r call
    obtain ⟨k', s', hrest, h', hv'⟩ := ih h₁ (hstep.valid hv)
    refine ⟨k', s', ?_, h', hv'⟩
    rw [Kernel.run, Traced.result_bind, hresult, ok_bind]
    exact hrest

/-- No history of calls fails a check of the kernel, and every history ends in a
well-formed kernel. -/
theorem run_wellFormed (cfg : Config) (capacity : Nat) (hlevels : 0 < levels ∧ levels ≤ 4096)
    (history : List (RegisterFile × KernelCall)) :
    ∃ k₀ k : Kernel capacity levels, initial capacity levels = .ok k₀ ∧
      (k₀.run cfg history).result = .ok k ∧ k.WellFormed := by
  obtain ⟨k₀, hk₀, h₀⟩ := implements_initial capacity hlevels
  obtain ⟨k, s, hk, h, hv⟩ := h₀.run Schedule.valid_initial cfg history
  exact ⟨k₀, k, hk₀, hk, h.wellFormed hv⟩

/-- The current task is blocked and woken again before it leaves the processor,
and then switches to itself. -/
theorem run_wellFormed_woken_current :
    (0 < 2 ∧ 2 ≤ 4096) ∧ ∃ k₀ k : Kernel 2 2, initial 2 2 = .ok k₀ ∧
      (k₀.run (Config.machine false)
        [(.zero, .create ⟨"a", 0x80000000, 0, 1⟩
          ⟨0x40010000, .replicate 64 0, by decide, by decide⟩),
         (.zero, .activate ⟨0⟩), (.zero, .switchTo (some ⟨0⟩)), (.zero, .markBlocked ⟨0⟩),
         (.zero, .markReady ⟨0⟩), (.zero, .setPriority ⟨0⟩ 2),
         (RegisterFile.zero.setSp 0x40010200, .switch ⟨0⟩ ⟨0⟩)]).result = .ok k ∧
      k.WellFormed :=
  ⟨by decide, run_wellFormed (Config.machine false) 2 (by decide) _⟩

end Kernel

end HartKernel
