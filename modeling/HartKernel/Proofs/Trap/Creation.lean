import HartKernel.Proofs.Frame.Exact
import HartKernel.Proofs.Trap.History

/-!
# Creating a task

What the creation of a task answers depends on the priority, on the number of tasks
and on the extent of the stack, and on nothing else.  A stack that has no room for the
first frame is refused for want of memory, with one exception: if the stack is empty
and begins at an odd word, its highest aligned address lies below it, and then it is
the parameter that is found to be bad.

Main definitions:

- `Kernel.creationAnswer` is what a creation answers.
- `Kernel.Enlists` says that one more task has been created.

Main results:

- `StackRegion.alignedTop_lt_base_iff`: when rounding leaves a region.
- `Kernel.create_answer`: every creation answers so, in any state.
- `Machine.Recorded.create_classified`: the same for every state of a system, and what
  has happened to the tasks and to the ready queue.
- `Machine.Recorded.exists_badParam`: an empty stack that is refused with the wrong
  error.
-/

namespace HartKernel

/-! ## Rounding the top of a region -/

namespace StackRegion

/-- The highest aligned address lies below the region if the region is empty and not
aligned, and otherwise it does not. -/
theorem alignedTop_lt_base_iff (region : StackRegion) :
    region.alignedTop < region.base ↔ region.size = 0 ∧ region.base % 16 = 8 := by
  have hbase := region.base_aligned
  rw [alignedTop, alignDown, top, byteSize]
  omega

/-- The highest aligned address is one. -/
theorem toNat_alignedTop (region : StackRegion) :
    (BitVec.ofNat 64 region.alignedTop).toNat = region.alignedTop := by
  have hle := alignDown_le 16 region.top
  have hlt : region.top < 0x10000000000000000 := region.top_lt
  rw [BitVec.toNat_ofNat, Nat.mod_eq_of_lt]
  rw [alignedTop]
  omega

end StackRegion

namespace Kernel

variable {capacity levels : Nat} {k k' : Kernel capacity levels} {s : Schedule} {cfg : Config}
variable {a : TaskAttributes} {stack : StackRegion} {id : TaskId}

/-! ## The answer -/

/-- What a creation answers: the first check that fails, or the next identifier.  The
last check is about the room for the first frame, and names an empty stack that is not
aligned a bad parameter. -/
def creationAnswer (cfg : Config) (k : Kernel capacity levels) (priority : Nat)
    (stack : StackRegion) : Except CreateError TaskId :=
  if levels ≤ priority then .error .badParam
  else if k.tasks.size = capacity then .error .queueOverflow
  else if stack.alignedTop < stack.base + cfg.layouts.cooperative.frameSize then
    .error (if stack.size = 0 ∧ stack.base % 16 = 8 then .badParam else .noMemory)
  else .ok ⟨k.tasks.size⟩

/-- One more task has been created, and nothing else has changed. -/
structure Enlists (k : Kernel capacity levels) (a : TaskAttributes) (id : TaskId)
    (k' : Kernel capacity levels) : Prop where
  number : id.raw = k.tasks.size + 1
  created : ∃ t, k'.task? id = some t ∧ t.state = .dormant ∧ t.attributes = a ∧
    t.priority = a.priority ∧ t.link = none
  earlier : ∀ j ≠ id, k'.task? j = k.task? j
  fresh : k.task? id = none
  queue : k'.queue = k.queue
  running : k'.running = k.running
  pending : k'.dispatchPending = k.dispatchPending
  tick : k'.tick = k.tick

theorem enlists_addTask (k : Kernel capacity levels) (a : TaskAttributes) (stack : StackRegion)
    (savedSp : Word) : k.Enlists a ⟨k.tasks.size⟩ (k.addTask (newTask a stack savedSp)) where
  number := rfl
  created := ⟨newTask a stack savedSp, by rw [task?_addTask, if_pos rfl], rfl, rfl, rfl, rfl⟩
  earlier j hj := by
    rw [task?_addTask, if_neg]
    intro hindex
    exact hj (by cases j; exact congrArg TaskId.mk hindex)
  fresh := by simp [task?]
  queue := rfl
  running := rfl
  pending := rfl
  tick := rfl

/-- The first check that fails decides on the answer. -/
theorem answer_of_create {answer : Except CreateError TaskId}
    (h : (k.create cfg a stack).result = .ok (answer, k')) :
    answer = k.creationAnswer cfg a.priority stack := by
  unfold create at h
  unfold creationAnswer
  by_cases hp : levels ≤ a.priority
  · rw [if_pos hp] at h ⊢
    cases h
    rfl
  · rw [if_neg hp] at h ⊢
    by_cases hfull : k.tasks.size = capacity
    · rw [if_pos hfull] at h ⊢
      cases h
      rfl
    · rw [if_neg hfull] at h ⊢
      obtain ⟨⟨saved, stack'⟩, hsave, h⟩ := Traced.bind_eq_ok.1 h
      obtain ⟨saved', stack'', hsave', hsaved, -⟩ := FrameLayout.save_answer cfg.valid_cooperative
        (startRegisters cfg a) stack (BitVec.ofNat 64 stack.alignedTop)
      cases hsave.symm.trans hsave'
      have haligned : stack.alignedTop % 16 = 0 := alignDown_mod 16 stack.top
      have htop : stack.alignedTop ≤ stack.top := alignDown_le 16 stack.top
      rw [stack.toNat_alignedTop, if_neg (not_not.2 haligned)] at hsaved
      by_cases hbelow : stack.alignedTop < stack.base
      · -- rounding has left the region, which is reported as a bad parameter
        rw [if_pos (.inl hbelow)] at hsaved
        subst hsaved
        cases h
        rw [if_pos (by omega), if_pos (stack.alignedTop_lt_base_iff.1 hbelow)]
      · rw [if_neg (by omega)] at hsaved
        by_cases hroom : stack.alignedTop - stack.base < cfg.layouts.cooperative.frameSize
        · rw [if_pos hroom] at hsaved
          subst hsaved
          cases h
          rw [if_pos (by omega), if_neg (mt stack.alignedTop_lt_base_iff.2 hbelow)]
        · rw [if_neg hroom] at hsaved
          subst hsaved
          cases h
          rw [if_neg (by omega)]

/-- A creation always answers, in any state.  If it is refused nothing has changed. -/
theorem create_answer (cfg : Config) (k : Kernel capacity levels) (a : TaskAttributes)
    (stack : StackRegion) :
    ∃ answer k', (k.create cfg a stack).result = .ok (answer, k') ∧
      answer = k.creationAnswer cfg a.priority stack ∧ (∀ e, answer = .error e → k' = k) ∧
      ∀ id, answer = .ok id → k.Enlists a id k' ∧
        ∃ stack' savedSp, k' = k.addTask (newTask a stack' savedSp) := by
  obtain ⟨answer, k', hcreate, hcases⟩ := exists_create cfg k a stack
  refine ⟨answer, k', hcreate, answer_of_create hcreate, ?_⟩
  rcases hcases with ⟨e, rfl, rfl⟩ | ⟨⟨i⟩, stack', savedSp, rfl, -, hindex, -, rfl⟩
  · exact ⟨fun _ _ => rfl, nofun⟩
  · obtain rfl : i = k.tasks.size := hindex
    refine ⟨nofun, fun id hid => ?_⟩
    cases hid
    exact ⟨k.enlists_addTask a stack' savedSp, stack', savedSp, rfl⟩

/-! ## The ready queue -/

/-- A new task waits nowhere. -/
theorem Implements.readyTasks_addTask (h : k.Implements s) (hv : s.Valid levels)
    (a : TaskAttributes) (stack : StackRegion) (savedSp : Word) :
    ∃ ready, k.readyTasks = .ok ready ∧
      (k.addTask (newTask a stack savedSp)).readyTasks = .ok ready ∧ ⟨k.tasks.size⟩ ∉ ready := by
  have hnew := (h.addTask a stack savedSp).queue.toList_eq
  refine ⟨s.ready.toList levels, h.queue.toList_eq, hnew, fun hmem => ?_⟩
  rw [hv.mem_toList, h.state?_eq, task?, Array.getElem?_size] at hmem
  cases hmem

end Kernel

/-! ## Creations in a system -/

namespace Machine

variable {capacity levels : Nat} {σ : Type} {cfg : Config} {handlers : Handlers σ capacity levels}
variable {m : Machine capacity levels} {s : σ}

/-- In every state of a system a creation answers by the priority, the number of tasks
and the room for the first frame.  A refused creation changes nothing.  Otherwise there
is one more task, which is Dormant and waits nowhere, and nothing else has changed. -/
theorem Recorded.create_classified {log : List (Option TaskId)} (h : Recorded cfg handlers log m s)
    (a : TaskAttributes) (stack : StackRegion) :
    ∃ answer k', (m.kernel.create cfg a stack).result = .ok (answer, k') ∧
      answer = m.kernel.creationAnswer cfg a.priority stack ∧
      (∀ e, answer = .error e → k' = m.kernel) ∧
      ∀ id, answer = .ok id → m.kernel.Enlists a id k' ∧
        ∃ ready, m.kernel.readyTasks = .ok ready ∧ k'.readyTasks = .ok ready ∧ id ∉ ready := by
  obtain ⟨sch, himpl, hvalid, -⟩ := h.arranged
  obtain ⟨answer, k', hcreate, hanswer, hrefused, haccepted⟩ := m.kernel.create_answer cfg a stack
  refine ⟨answer, k', hcreate, hanswer, hrefused, fun id hid => ?_⟩
  obtain ⟨henlists, stack', savedSp, rfl⟩ := haccepted id hid
  obtain ⟨ready, hbefore, hafter, hnew⟩ := himpl.readyTasks_addTask hvalid a stack' savedSp
  have hindex : id = ⟨m.kernel.tasks.size⟩ := by
    cases id
    exact congrArg TaskId.mk (Nat.succ.inj henlists.number)
  exact ⟨henlists, ready, hbefore, hafter, hindex ▸ hnew⟩

/-- Above an odd word a frame of 16 words takes up 17, since it cannot begin there. -/
theorem Recorded.create_classified_odd :
    ∃ k', (small.kernel.create (Config.machine false) ⟨"a", 0x80000000, 0, 1⟩
        ⟨0x40010008, .replicate 17 0, by decide, by decide⟩).result = .ok (.ok ⟨0⟩, k') ∧
      small.kernel.Enlists ⟨"a", 0x80000000, 0, 1⟩ ⟨0⟩ k' ∧ k'.readyTasks = .ok [] ∧
      (small.kernel.create (Config.machine false) ⟨"a", 0x80000000, 0, 1⟩
        ⟨0x40010008, .replicate 16 0, by decide, by decide⟩).result =
          .ok (.error .noMemory, small.kernel) := by
  have hsmall : Recorded (Config.machine false) (Handlers.default : Handlers Unit 4 4) []
      small () := .initial () initial_small
  obtain ⟨answer, k', hcreate, hanswer, -, haccepted⟩ :=
    Recorded.create_classified hsmall ⟨"a", 0x80000000, 0, 1⟩
      ⟨0x40010008, .replicate 17 0, by decide, by decide⟩
  obtain ⟨answer', k'', hcreate', hanswer', hrefused, -⟩ :=
    Recorded.create_classified hsmall ⟨"a", 0x80000000, 0, 1⟩
      ⟨0x40010008, .replicate 16 0, by decide, by decide⟩
  have hanswer₁ : answer = .ok ⟨0⟩ := hanswer.trans (by decide)
  have hanswer₂ : answer' = .error .noMemory := hanswer'.trans (by decide)
  obtain ⟨henlists, ready, hbefore, hafter, -⟩ := haccepted ⟨0⟩ hanswer₁
  have hready : ready = [] := Except.ok.inj (hbefore.symm.trans (by decide))
  refine ⟨k', hanswer₁ ▸ hcreate, henlists, hready ▸ hafter, ?_⟩
  rw [hcreate', hanswer₂, hrefused _ hanswer₂]

/-- A stack without any room that is refused for a bad parameter, while the priority is
in range and the table has room. -/
theorem Recorded.exists_badParam :
    ∃ (m : Machine 4 4) (a : TaskAttributes) (stack : StackRegion),
      Recorded (Config.machine false) (Handlers.default : Handlers Unit 4 4) [] m () ∧
      a.priority < 4 ∧ m.kernel.tasks.size < 4 ∧
      stack.alignedTop < stack.base + (Config.machine false).layouts.cooperative.frameSize ∧
      (m.kernel.create (Config.machine false) a stack).result =
        .ok (.error .badParam, m.kernel) :=
  ⟨small, ⟨"a", 0x80000000, 0, 1⟩, ⟨0x40010008, #[], by decide, by decide⟩,
    .initial () initial_small, by decide, by decide, by decide, by rfl⟩

end Machine

end HartKernel
