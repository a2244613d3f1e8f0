import HartKernel.Proofs.Kernel.Atomicity

/-!
# Calls that are refused

A call that is refused leaves no trace: the tasks with their stacks, the queue,
the current task, the request, the tick counter and the live registers are what
they were.  No assumption about the kernel is needed, and none about the memory
that contexts are loaded from.  The one call that may leave a trace is a switch,
which saves the current task first.

Main definitions:

- `Kernel.Refuses` says that an operation leaves the kernel as it is unless it
  goes well.

Main results:

- One lemma for each operation that saves or loads a context or serves a caller,
  such as `Kernel.refuses_create`.
- `Kernel.invoke_refused`: a call that is refused and is no switch leaves the
  kernel and the registers as they are.
-/

namespace HartKernel

namespace Kernel

variable {capacity levels : Nat} {k k' : Kernel capacity levels} {id : TaskId}
variable {cfg : Config} {r r' : RegisterFile}

/-- An operation leaves the kernel as it is unless it goes well. -/
def Refuses {ε α : Type} (k : Kernel capacity levels)
    (x : Traced (Except ε α × Kernel capacity levels)) : Prop :=
  ∀ e k', x.result = .ok (.error e, k') → k' = k

/-! ## Operations on the schedule -/

/-- An operation that is guarded refuses without a trace. -/
theorem Guarded.refuses {ε α : Type} {guard : Prop}
    {x : Traced (Except ε α × Kernel capacity levels)} (h : k.Guarded guard x) : k.Refuses x := by
  intro e k' hx
  rcases h _ k' hx with ⟨hok, -⟩ | ⟨-, -, hsame⟩
  · cases hok
  · exact hsame

/-- A task is blocked if it is Running or Ready. -/
theorem guarded_markBlocked (k : Kernel capacity levels) (id : TaskId) :
    k.Guarded (k.InState id [.running, .ready]) (k.markBlocked id) := by
  unfold markBlocked
  refine guarded_of_task? (fun ht => ?_) (fun t ht hstate => ?_) (fun t ht hstate => ?_)
  · simp only [ht]
    exact ⟨_, rfl⟩
  · have hguard : t.state ≠ .running ∧ t.state ≠ .ready := by simpa using hstate
    simp only [ht, if_pos hguard]
    exact ⟨_, rfl⟩
  · have hguard : ¬(t.state ≠ .running ∧ t.state ≠ .ready) := by
      simpa [imp_iff_not_or] using hstate
    simp only [ht, if_neg hguard]
    intro answer k' h
    obtain ⟨k₁, -, h⟩ := Traced.bind_eq_ok.1 h
    obtain ⟨u, -, h⟩ := Traced.bind_eq_ok.1 h
    cases h
    rfl

/-- A task is suspended if it is Running, Ready or Blocked. -/
theorem guarded_suspend (k : Kernel capacity levels) (id : TaskId) :
    k.Guarded (k.InState id [.running, .ready, .blocked]) (k.suspend id) := by
  unfold suspend
  refine guarded_of_task? (fun ht => ?_) (fun t ht hstate => ?_) (fun t ht hstate => ?_)
  · simp only [ht]
    exact ⟨_, rfl⟩
  · have hguard : t.state = .dormant ∨ t.state = .suspended := by
      revert hstate
      cases t.state <;> simp
    simp only [ht, if_pos hguard]
    exact ⟨_, rfl⟩
  · have hguard : ¬(t.state = .dormant ∨ t.state = .suspended) := by
      revert hstate
      cases t.state <;> simp
    simp only [ht, if_neg hguard]
    intro answer k' h
    obtain ⟨k₁, -, h⟩ := Traced.bind_eq_ok.1 h
    obtain ⟨u, -, h⟩ := Traced.bind_eq_ok.1 h
    cases h
    rfl

/-! ## Services -/

/-- The code of an operation that refuses without a trace tells whether there is
one. -/
theorem Refuses.coded {ε : Type} [OperationError ε]
    {x : Traced (Except ε Unit × Kernel capacity levels)} (hx : k.Refuses x) {code : ResultCode}
    (h : (Kernel.coded <$> x).result = .ok (code, k')) (hcode : code.isErr = true) : k' = k := by
  obtain ⟨⟨outcome, k₁⟩, hresult, hanswer⟩ := Traced.map_eq_ok.1 h
  cases hanswer
  cases outcome with
  | error e => exact hx e _ hresult
  | ok u => exact absurd rfl ((ResultCode.isErr_iff _).1 hcode)

/-- A known service that is refused leaves the kernel as it is. -/
theorem perform_refused {caller : Option TaskId} {service : Service} {argument : Word}
    {code : ResultCode} (h : (k.perform caller service argument).result = .ok (code, k'))
    (hcode : code.isErr = true) : k' = k := by
  unfold perform at h
  split at h
  · cases h
    rfl
  · exact (guarded_markBlocked k _).refuses.coded h hcode
  · split at h
    · cases h
      rfl
    · exact (guarded_markReady k _).refuses.coded h hcode
  · exact (guarded_suspend k _).refuses.coded h hcode
  · cases h
    rfl
  · cases h
    rfl

/-- A service that is refused leaves the kernel as it is. -/
theorem serve_refused {caller : Option TaskId} {number argument : Word} {code : ResultCode}
    (h : (k.serve caller number argument).result = .ok (code, k')) (hcode : code.isErr = true) :
    k' = k := by
  unfold serve at h
  split at h
  · obtain ⟨u, -, h⟩ := Traced.bind_eq_ok.1 h
    cases h
    rfl
  · obtain ⟨u, -, h⟩ := Traced.bind_eq_ok.1 h
    obtain ⟨⟨code₁, k₁⟩, hperform, h⟩ := Traced.bind_eq_ok.1 h
    have hanswer : code₁ = code ∧ k₁ = k' := by
      dsimp only at h
      split at h <;> cases h <;> exact ⟨rfl, rfl⟩
    obtain ⟨rfl, rfl⟩ := hanswer
    exact perform_refused hperform hcode

/-! ## Contexts -/

/-- A task that is refused is not created, whatever its stack holds. -/
theorem refuses_create (cfg : Config) (k : Kernel capacity levels) (a : TaskAttributes)
    (stack : StackRegion) : k.Refuses (k.create cfg a stack) := by
  intro e k' h
  obtain ⟨answer, k₁, hresult, ⟨e', -, hsame⟩ | ⟨id, stack', sp, rfl, -⟩⟩ :=
    exists_create cfg k a stack
  · rw [hresult] at h
    cases h
    exact hsame
  · rw [hresult] at h
    cases h

/-- A context that cannot be saved is not saved in part. -/
theorem refuses_saveContext (ls : FrameLayouts) (k : Kernel capacity levels) (r : RegisterFile)
    (id : TaskId) (kind : FrameKind) : k.Refuses (k.saveContext ls r id kind) := by
  intro e k' h
  rcases saveContext_cases h with ⟨e', -, hsame⟩ | ⟨t, stack, sp, hsp, -⟩
  · exact hsame
  · cases hsp

/-- A switch from a saved task that is refused leaves everything as it is. -/
theorem switchTo_refused {ls : FrameLayouts} {target : Option TaskId} {e : SwitchError}
    (h : (k.switchTo ls r target).result = .ok (.error e, k', r')) : k' = k ∧ r' = r := by
  cases target with
  | none =>
    unfold switchTo at h
    obtain ⟨⟨loaded, r₁⟩, hload, h⟩ := Traced.bind_eq_ok.1 h
    cases hload
    obtain ⟨k₁, -, h⟩ := Traced.bind_eq_ok.1 h
    obtain ⟨u, -, h⟩ := Traced.bind_eq_ok.1 h
    cases h
  | some id =>
    cases hcheck : k.checkTarget id with
    | ok u =>
      obtain ⟨hkernel, hregs, -⟩ := switchTo_unchanged hcheck h
      exact ⟨hkernel, hregs⟩
    | error e' =>
      unfold switchTo loadTarget at h
      simp only [hcheck] at h
      cases h
      exact ⟨rfl, rfl⟩

/-! ## Calls -/

theorem Refuses.reply {ε α : Type} {x : Traced (Except ε α × Kernel capacity levels)}
    (hx : k.Refuses x) (h : (Kernel.reply r <$> x).result = .ok (false, k', r')) :
    k' = k ∧ r' = r := by
  obtain ⟨answer, hresult, hok, hregs⟩ := eq_ok_of_reply h
  cases answer with
  | error e => exact ⟨hx e k' hresult, hregs⟩
  | ok a => cases hok

/-- A call that is refused and is no switch leaves the kernel and the registers as
they are. -/
theorem invoke_refused {call : KernelCall}
    (hcall : ∀ source target, call ≠ .switch source target)
    (h : (k.invoke cfg r call).result = .ok (false, k', r')) : k' = k ∧ r' = r := by
  cases call with
  | create a stack => exact (refuses_create cfg k a stack).reply h
  | activate id => exact (guarded_activate k id).refuses.reply h
  | markReady id => exact (guarded_markReady k id).refuses.reply h
  | markBlocked id => exact (guarded_markBlocked k id).refuses.reply h
  | suspend id => exact (guarded_suspend k id).refuses.reply h
  | resume id => exact (guarded_resume k id).refuses.reply h
  | setPriority id priority => exact (guarded_setPriority k id priority).refuses.reply h
  | requestDispatch => cases h
  | takeDispatch => cases h
  | advanceTick => cases h
  | save id kind => exact (refuses_saveContext cfg.layouts k r id kind).reply h
  | restore id =>
    obtain ⟨⟨restored, r₁⟩, hresult, hanswer⟩ := Traced.map_eq_ok.1 h
    cases restored with
    | ok kind => cases hanswer
    | error e =>
      cases hanswer
      exact ⟨rfl, regs_of_restoreContext_error hresult⟩
  | switch source target => exact absurd rfl (hcall source target)
  | switchTo target =>
    obtain ⟨⟨outcome, k₁, r₁⟩, hresult, hanswer⟩ := Traced.map_eq_ok.1 h
    cases outcome with
    | ok kind => cases hanswer
    | error e =>
      cases hanswer
      exact switchTo_refused hresult
  | serve caller number argument =>
    obtain ⟨⟨code, k₁⟩, hresult, hanswer⟩ := Traced.map_eq_ok.1 h
    simp only [Prod.mk.injEq, Bool.not_eq_false'] at hanswer
    obtain ⟨hcode, rfl, rfl⟩ := hanswer
    exact ⟨serve_refused hresult hcode, rfl⟩

/-- The second task has a damaged frame, so the processor is not handed to it. -/
theorem invoke_refused_damaged :
    ∃ (k k' : Kernel 4 4) (r' : RegisterFile), damaged.result = .ok k ∧
      (k.invoke (Config.machine false) saving (.switchTo (some ⟨1⟩))).result =
        .ok (false, k', r') ∧ k' = k ∧ r' = saving := by
  have hrefused : (do
      let k ← damaged
      Prod.fst <$> k.invoke (Config.machine false) saving (.switchTo (some ⟨1⟩))).result =
        .ok false := by decide +kernel
  obtain ⟨k, hk, hcall⟩ := Traced.bind_eq_ok.1 hrefused
  obtain ⟨⟨ok, k', r'⟩, hresult, hok⟩ := Traced.map_eq_ok.1 hcall
  obtain rfl : ok = false := hok
  obtain ⟨hkernel, hregs⟩ := invoke_refused (fun _ _ h => by cases h) hresult
  exact ⟨k, k', r', hk, hresult, hkernel, hregs⟩

end Kernel

end HartKernel
