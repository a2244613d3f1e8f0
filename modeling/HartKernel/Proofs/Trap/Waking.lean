import HartKernel.Proofs.Kernel.Answers
import HartKernel.Proofs.Kernel.Uniqueness
import HartKernel.Proofs.Schedule.Waking
import HartKernel.Proofs.Trap.History

/-!
# The order of wake-ups

Several interrupt handlers may each wake a task, and nothing fixes the order in which
they come.  Tasks of different levels can be woken in any order: the links, the first
tasks, the bitmap and the dispatch request are the same in the end.

Main definitions:

- `Kernel.wake` carries out a `WakeUp`, and `Kernel.wakeAll` a list of them.
- `Kernel.Admits` says that an operation is legal for its task, and `Kernel.levelOf?`
  tells the level that the task joins.

Main results:

- `Kernel.Implements.exists_wake` and `Kernel.Implements.exists_wakeAll`: legal
  operations go well and do to the schedule what they should.
- `Machine.Recorded.wake_order`: whatever happened to a system, permuted operations
  end in the same kernel if they wake the tasks of each level in the same order.
-/

namespace HartKernel

theorem Schedule.Valid.wake {levels : Nat} {s : Schedule} (h : s.Valid levels) (w : WakeUp) :
    (s.wake levels w).Valid levels := by
  cases w with
  | activate id => exact h.activate id
  | markReady id => exact h.markReady id
  | resume id => exact h.resume id

namespace Kernel

variable {capacity levels : Nat} {k : Kernel capacity levels} {s : Schedule}
variable {w : WakeUp} {ws : List WakeUp}

/-- Wake a task, and answer with the result code. -/
def wake (k : Kernel capacity levels) : WakeUp → Traced (ResultCode × Kernel capacity levels)
  | .activate id => coded <$> k.activate id
  | .markReady id => coded <$> k.markReady id
  | .resume id => coded <$> k.resume id

/-- Wake one task after another, and answer with all result codes. -/
def wakeAll (k : Kernel capacity levels) :
    List WakeUp → Traced (List ResultCode × Kernel capacity levels)
  | [] => pure ([], k)
  | w :: ws => do
    let (code, k) ← k.wake w
    let (codes, k) ← k.wakeAll ws
    return (code :: codes, k)

/-- The operation is legal for its task. -/
def Admits (k : Kernel capacity levels) (w : WakeUp) : Prop :=
  ∃ t, k.task? w.task = some t ∧ w.Fits t.state

/-- The level that the task of an operation joins. -/
def levelOf? (k : Kernel capacity levels) (w : WakeUp) : Option Nat :=
  (k.task? w.task).map fun t => w.level t.entry

/-- An operation that realises a schedule is realised with a result code. -/
theorem Realises.exists_coded {ε : Type} [OperationError ε]
    {x : Traced (Except ε Unit × Kernel capacity levels)} {code : ResultCode}
    (h : k.Realises (after x) s)
    (hcode : ∀ {answer k'}, x.result = .ok (answer, k') → ResultCode.ofOutcome answer = code) :
    ∃ k', (coded <$> x).result = .ok (code, k') ∧ k'.Implements s ∧
      k.tasks.SameContexts k'.tasks := by
  obtain ⟨k', hafter, h', hcontexts⟩ := h
  obtain ⟨answer, hresult⟩ := exists_of_after hafter
  exact ⟨k', Traced.map_eq_ok.2 ⟨_, hresult, Prod.ext (hcode hresult) rfl⟩, h', hcontexts⟩

namespace Implements

theorem admits (h : k.Implements s) (hadmits : k.Admits w) : s.Admits w := by
  obtain ⟨t, ht, hfits⟩ := hadmits
  exact ⟨t.entry, h.lookup?_of_task? ht, hfits⟩

theorem levelOf?_eq (h : k.Implements s) (w : WakeUp) : s.levelOf? w = k.levelOf? w := by
  rw [Schedule.levelOf?, h.lookup?_eq, Option.map_map]
  rfl

/-- A legal operation goes well, and does to the schedule what it should. -/
theorem exists_wake (h : k.Implements s) (hv : s.Valid levels) (hadmits : s.Admits w) :
    ∃ k', (k.wake w).result = .ok (.success, k') ∧ k'.Implements (s.wake levels w) ∧
      k.tasks.SameContexts k'.tasks := by
  obtain ⟨e, he, hfits⟩ := hadmits
  cases w with
  | activate id =>
    have hstate : s.state? id = some e.state := Schedule.state?_of_lookup? he
    refine (h.activate hv id).exists_coded fun hresult => (h.code_activate hresult).trans ?_
    rw [Schedule.code, hstate]
    exact if_pos hfits
  | markReady id =>
    have hstate : s.state? id = some e.state := Schedule.state?_of_lookup? he
    refine (h.markReady hv id).exists_coded fun hresult => (h.code_markReady hresult).trans ?_
    rw [Schedule.codeIn, hstate]
    exact if_pos (by simpa [WakeUp.Fits] using hfits)
  | resume id =>
    have hstate : s.state? id = some e.state := Schedule.state?_of_lookup? he
    refine (h.resume hv id).exists_coded fun hresult => (h.code_resume hresult).trans ?_
    rw [Schedule.codeIn, hstate]
    exact if_pos (by simpa [WakeUp.Fits] using hfits)

/-- Legal operations on different tasks all go well, one after another. -/
theorem exists_wakeAll (h : k.Implements s) (hv : s.Valid levels)
    (hnodup : (ws.map WakeUp.task).Nodup) (hadmits : ∀ w ∈ ws, s.Admits w) :
    ∃ k', (k.wakeAll ws).result = .ok (ws.map fun _ => .success, k') ∧
      k'.Implements (s.wakeAll levels ws) ∧ k.tasks.SameContexts k'.tasks := by
  induction ws generalizing k s with
  | nil => exact ⟨k, rfl, h, .refl _⟩
  | cons w ws ih =>
    obtain ⟨k₁, hwake, h₁, hcontexts₁⟩ := h.exists_wake hv (hadmits w List.mem_cons_self)
    obtain ⟨k₂, hwakes, h₂, hcontexts₂⟩ :=
      ih h₁ (hv.wake w) hnodup.of_cons (Schedule.admits_wake hnodup hadmits)
    refine ⟨k₂, ?_, h₂, hcontexts₁.trans hcontexts₂⟩
    rw [wakeAll, Traced.result_bind, hwake, ok_bind, Traced.result_bind, hwakes]
    rfl

end Implements

end Kernel

namespace Machine

variable {capacity levels : Nat} {σ : Type} {cfg : Config} {handlers : Handlers σ capacity levels}
variable {m : Machine capacity levels} {s : σ} {log : List (Option TaskId)} {wakes : List WakeUp}

/-- Legal operations that wake different tasks all go well.  Any permutation of them
that wakes the tasks of each level in the same order ends in the same kernel, and if
the tasks join different levels, all permutations do. -/
theorem Recorded.wake_order (h : Recorded cfg handlers log m s)
    (hnodup : (wakes.map WakeUp.task).Nodup) (hadmits : ∀ w ∈ wakes, m.kernel.Admits w) :
    ∃ k', (m.kernel.wakeAll wakes).result = .ok (wakes.map fun _ => .success, k') ∧
      (∀ w ∈ wakes, ∃ t, k'.task? w.task = some t ∧ t.state = .ready ∧
        m.kernel.levelOf? w = some t.priority) ∧
      (∀ wakes' : List WakeUp, wakes'.Perm wakes →
        (∀ p, (wakes'.filter fun w => m.kernel.levelOf? w = some p) =
          wakes.filter fun w => m.kernel.levelOf? w = some p) →
        (m.kernel.wakeAll wakes').result = .ok (wakes'.map fun _ => .success, k')) ∧
      ((wakes.map m.kernel.levelOf?).Nodup → ∀ wakes' : List WakeUp, wakes'.Perm wakes →
        (m.kernel.wakeAll wakes').result = .ok (wakes'.map fun _ => .success, k')) := by
  obtain ⟨sch, himpl, hv, -⟩ := h.arranged
  have hlegal : ∀ w ∈ wakes, sch.Admits w := fun w hw => himpl.admits (hadmits w hw)
  have hwakes : sch.Wakes levels wakes (sch.wakeAll levels wakes) :=
    Schedule.wakes_wakeAll hnodup hlegal
  obtain ⟨k', hresult, himpl', hcontexts⟩ := himpl.exists_wakeAll hv hnodup hlegal
  have hsame : ∀ wakes' : List WakeUp, wakes'.Perm wakes →
      (∀ p, (wakes'.filter fun w => m.kernel.levelOf? w = some p) =
        wakes.filter fun w => m.kernel.levelOf? w = some p) →
      (m.kernel.wakeAll wakes').result = .ok (wakes'.map fun _ => .success, k') := by
    intro wakes' hperm halike
    have hnodup' : (wakes'.map WakeUp.task).Nodup := (hperm.map _).nodup_iff.2 hnodup
    have hlegal' : ∀ w ∈ wakes', sch.Admits w := fun w hw => hlegal w (hperm.mem_iff.1 hw)
    have hschedule : sch.wakeAll levels wakes' = sch.wakeAll levels wakes :=
      hwakes.unique (Schedule.wakes_wakeAll hnodup' hlegal') hperm
        (by simpa only [himpl.levelOf?_eq] using halike)
    obtain ⟨k'', hresult', himpl'', hcontexts'⟩ := himpl.exists_wakeAll hv hnodup' hlegal'
    -- both kernels stand for the same schedule and have the contexts of the first one
    rw [hschedule] at himpl''
    rw [hresult', himpl''.eq_of_sameContexts himpl' (hcontexts'.symm.trans hcontexts)]
  refine ⟨k', hresult, fun w hw => ?_, hsame, fun hlevels wakes' hperm => ?_⟩
  · obtain ⟨e, he, hwoken⟩ := hwakes.woken w hw
    rw [himpl'.lookup?_eq] at hwoken
    obtain ⟨t, ht, hentry⟩ := Option.map_eq_some_iff.1 hwoken
    have hpriority : t.priority = w.level e := congrArg Entry.priority hentry
    refine ⟨t, ht, congrArg Entry.state hentry, ?_⟩
    rw [← himpl.levelOf?_eq, Schedule.levelOf?, he, hpriority]
    rfl
  · exact hsame wakes' hperm fun p => filter_eq_of_nodup_map hperm hlevels (some p)

/-- An urgent task is Blocked, a second one Suspended and a third one Dormant.  The
urgent one can be woken first or last, and a dispatch is requested either way. -/
theorem Recorded.wake_order_three :
    ∃ (log : List (Option TaskId)) (m : Machine 4 4) (k' : Kernel 4 4),
      Recorded (Config.machine false) (Handlers.default : Handlers Unit 4 4) log m () ∧
      m.kernel.dispatchPending = false ∧ k'.dispatchPending = true ∧
      (m.kernel.wakeAll [.markReady ⟨0⟩, .resume ⟨1⟩, .activate ⟨2⟩]).result =
        .ok ([.success, .success, .success], k') ∧
      (m.kernel.wakeAll [.resume ⟨1⟩, .activate ⟨2⟩, .markReady ⟨0⟩]).result =
        .ok ([.success, .success, .success], k') := by
  obtain ⟨⟨m, u⟩, hplay, hm⟩ := exists_of_returns
    (x := small.play (Config.machine false) (Handlers.default : Handlers Unit 4 4) ()
      (activateThree.take 4 ++ [.call (.setPriority ⟨0⟩ 0), .call (.activate ⟨1⟩),
        .trap .software 0, .call (.suspend ⟨1⟩), .call (.markBlocked ⟨0⟩), .trap .software 0]))
    (p := fun b => decide (b.1.kernel.dispatchPending = false ∧
      (b.1.kernel.task? ⟨0⟩).map Task.entry = some ⟨.blocked, 0, 1⟩ ∧
      (b.1.kernel.task? ⟨1⟩).map Task.entry = some ⟨.suspended, 1, 1⟩ ∧
      (b.1.kernel.task? ⟨2⟩).map Task.entry = some ⟨.dormant, 1, 1⟩) &&
      ends (b.1.kernel.wakeAll [.markReady ⟨0⟩, .resume ⟨1⟩, .activate ⟨2⟩])
        fun answer => answer.2.dispatchPending)
    (by decide +kernel)
  obtain ⟨hm, hends⟩ := Bool.and_eq_true_iff.1 hm
  obtain ⟨hpending, hblocked, hsuspended, hdormant⟩ := of_decide_eq_true hm
  obtain ⟨⟨codes, k⟩, hcodes, hrequest⟩ := exists_of_ends hends
  obtain ⟨log, hrecorded⟩ := (Recorded.initial () initial_small).play
    (Handlers.calling_default _ fun _ => True) hplay
  obtain ⟨t₀, ht₀, he₀⟩ := Option.map_eq_some_iff.1 hblocked
  obtain ⟨t₁, ht₁, he₁⟩ := Option.map_eq_some_iff.1 hsuspended
  obtain ⟨t₂, ht₂, he₂⟩ := Option.map_eq_some_iff.1 hdormant
  have hadmits : ∀ w ∈ [WakeUp.markReady ⟨0⟩, .resume ⟨1⟩, .activate ⟨2⟩], m.kernel.Admits w := by
    simp only [List.mem_cons, List.not_mem_nil, or_false, forall_eq_or_imp, forall_eq]
    exact ⟨⟨t₀, ht₀, .inl (congrArg Entry.state he₀)⟩, ⟨t₁, ht₁, congrArg Entry.state he₁⟩,
      ⟨t₂, ht₂, congrArg Entry.state he₂⟩⟩
  have hurgent : m.kernel.levelOf? (.markReady ⟨0⟩) = some 0 :=
    (congrArg (Option.map _) ht₀).trans (congrArg (fun e : Entry => some e.priority) he₀)
  have hsecond : m.kernel.levelOf? (.resume ⟨1⟩) = some 1 :=
    (congrArg (Option.map _) ht₁).trans (congrArg (fun e : Entry => some e.priority) he₁)
  have hthird : m.kernel.levelOf? (.activate ⟨2⟩) = some 1 :=
    (congrArg (Option.map _) ht₂).trans (congrArg (fun e : Entry => some e.initial) he₂)
  obtain ⟨k', hresult, -, hpermuted, -⟩ := hrecorded.wake_order (by decide) hadmits
  have hlast := hpermuted [.resume ⟨1⟩, .activate ⟨2⟩, .markReady ⟨0⟩] (by decide) fun p => by
    by_cases hp : p = 0
    · simp [List.filter, hurgent, hsecond, hthird, hp]
    · simp [List.filter, hurgent, hsecond, hthird, Ne.symm hp]
  rw [hresult, Except.ok.injEq, Prod.mk.injEq] at hcodes
  exact ⟨log, m, k', hrecorded, hpending, hcodes.2 ▸ hrequest, hresult, hlast⟩

end Machine

end HartKernel
