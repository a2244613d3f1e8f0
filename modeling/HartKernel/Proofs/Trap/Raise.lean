import HartKernel.Hart.Basic
import HartKernel.Proofs.Outcome
import HartKernel.Proofs.Trap.Cause

/-!
# Taking a trap

A trap with a canonical cause can always be taken.  The cause that the handler
decodes is the one that was raised, and interrupts are masked.

Main results:

- `Hart.raise_cases` and `Hart.exists_raise`: what taking a trap does, and when it
  can be done.
- `Hart.decode_raise` and `Hart.masked_raise`: the handler finds the cause that was
  raised, and interrupts masked.
-/

namespace HartKernel

namespace Word

/-- Cleared bits are clear. -/
theorem and_not_or_and (w mask mask' : Word) : w &&& ~~~(mask ||| mask') &&& mask = 0 := by
  ext i hi
  rw [BitVec.getElem_and, BitVec.getElem_and, BitVec.getElem_not, BitVec.getElem_or]
  cases mask[i] with
  | false => rw [Bool.and_false]; exact (BitVec.getElem_zero hi).symm
  | true => rw [Bool.true_or, Bool.not_true, Bool.and_false]; exact (BitVec.getElem_zero hi).symm

end Word

namespace Status

/-- The interrupt enable of a level is neither its own previous value nor a part
of the previous level.  There is no level 8, where it would be. -/
theorem enable_disjoint {level : Nat} (h : level < 56) (hne : level ≠ 8) :
    previousLevel level &&& enable level = 0 ∧ previousEnable level &&& enable level = 0 := by
  have hall : ∀ level : Fin 56, level.val ≠ 8 →
      previousLevel level &&& enable level = 0 ∧ previousEnable level &&& enable level = 0 := by
    decide +kernel
  exact hall ⟨level, h⟩ hne

end Status

namespace Hart

variable {cfg : Config} {h h' : Hart} {cause : TrapCause} {value : Word}

/-- What taking a trap does. -/
theorem raise_cases (hraise : (h.raise cfg cause value).result = .ok h') :
    cause.Canonical cfg.level ∧ h'.cause = cause.word cfg.level ∧ h'.trapValue = value ∧
      h'.regs = { h.regs with status := trapStatus cfg.level h.regs.status } := by
  obtain ⟨word, hword, hraise⟩ := Traced.bind_eq_ok.1 hraise
  obtain ⟨u, -, hraise⟩ := Traced.bind_eq_ok.1 hraise
  have hencode : cause.encode cfg.level = .ok word := hword
  unfold TrapCause.encode at hencode
  split at hencode
  · rename_i hcanonical
    cases hencode
    cases hraise
    exact ⟨hcanonical, rfl, rfl, rfl⟩
  · cases hencode

theorem sp_raise (hraise : (h.raise cfg cause value).result = .ok h') :
    h'.regs.sp = h.regs.sp := by
  rw [(raise_cases hraise).2.2.2]
  rfl

/-- A trap with a canonical cause can be taken. -/
theorem exists_raise (hcanonical : cause.Canonical cfg.level) (h : Hart) (value : Word) :
    ∃ h', (h.raise cfg cause value).result = .ok h' := by
  have hencode : cause.encode cfg.level = .ok (cause.word cfg.level) := if_pos hcanonical
  unfold raise
  rw [Traced.result_bind]
  change ∃ h', cause.encode cfg.level >>= _ = _
  rw [hencode]
  exact ⟨_, rfl⟩

/-- The cause that is decoded is the one that was raised. -/
theorem decode_raise (hraise : (h.raise cfg cause value).result = .ok h') :
    TrapCause.decode h'.cause cfg.level = cause := by
  obtain ⟨hcanonical, hcause, -⟩ := raise_cases hraise
  rw [hcause, TrapCause.decode_word (Nat.lt_trans cfg.level_lt (by decide)) hcanonical]

/-- Interrupts are masked while a trap is handled. -/
theorem masked_raise (hlevel : cfg.level ≠ 8)
    (hraise : (h.raise cfg cause value).result = .ok h') : h'.Masked cfg := by
  obtain ⟨hprevious, henable⟩ := Status.enable_disjoint cfg.level_lt hlevel
  obtain ⟨-, -, -, hregs⟩ := raise_cases hraise
  unfold Masked
  rw [hregs]
  simp only [trapStatus]
  rw [BitVec.and_or_distrib_right, BitVec.and_or_distrib_right, Word.and_not_or_and, hprevious]
  split <;> simp [henable]

end Hart

end HartKernel
