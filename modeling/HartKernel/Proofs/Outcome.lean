import HartKernel.Traced
import Mathlib.Tactic.Common

/-!
# Outcomes of checked computations

Steps of the kernel run one after another until a check fails.  The lemmas here
take such sequences apart, both ways: from the first outcome to the whole, and
from a whole that went well to its parts.

Main results:

- `bind_eq_ok_iff`: a sequence goes well exactly if both parts do.
- `mapM_eq_ok`: a list of steps goes well if every step does.
-/

namespace HartKernel

variable {ε α β : Type}

@[simp] theorem ok_bind (a : α) (f : α → Except ε β) : (Except.ok a >>= f) = f a := rfl

@[simp] theorem error_bind (e : ε) (f : α → Except ε β) :
    (Except.error e >>= f) = .error e := rfl

/-- A sequence goes well exactly if both parts do. -/
theorem bind_eq_ok_iff {x : Except ε α} {f : α → Except ε β} {b : β} :
    (x >>= f) = .ok b ↔ ∃ a, x = .ok a ∧ f a = .ok b := by
  cases x with
  | error e => simp
  | ok a => simp

/-- A list of steps goes well if every step does. -/
theorem mapM_eq_ok {f : α → Except ε β} {g : α → β} {l : List α}
    (h : ∀ a ∈ l, f a = .ok (g a)) : l.mapM f = .ok (l.map g) := by
  induction l with
  | nil => rfl
  | cons a l ih =>
    have htail := ih fun b hb => h b (List.mem_cons_of_mem _ hb)
    rw [List.mapM_cons, h a List.mem_cons_self, ok_bind, htail]
    rfl

namespace Panic

/-- A check that holds does not stop anything. -/
theorem require_of {p : Prop} [Decidable p] {panic : Panic} (h : p) :
    require p panic = .ok () := if_pos h

/-- A check goes well exactly if it holds. -/
theorem require_eq_ok_iff {p : Prop} [Decidable p] {panic : Panic} {u : Unit} :
    require p panic = .ok u ↔ p := by
  unfold require
  split <;> rename_i h
  · exact iff_of_true rfl h
  · exact iff_of_false (by simp) h

end Panic

/-- A computation with a changed result goes well exactly if the computation does. -/
theorem Traced.map_eq_ok {α β : Type} {f : α → β} {x : Traced α} {b : β} :
    (f <$> x).result = .ok b ↔ ∃ a, x.result = .ok a ∧ f a = b := by
  rw [result_map]
  cases x.result with
  | error p => simp
  | ok a => simp

/-- A sequence of traced computations goes well exactly if both parts do. -/
theorem Traced.bind_eq_ok {α β : Type} {x : Traced α} {f : α → Traced β} {b : β} :
    (x >>= f).result = .ok b ↔ ∃ a, x.result = .ok a ∧ (f a).result = .ok b := by
  rw [result_bind, bind_eq_ok_iff]

/-- A check with a changed outcome is the same check, changed. -/
theorem Traced.lift_map {α β : Type} (f : α → β) (x : Except Panic α) :
    (liftM (f <$> x) : Traced β) = f <$> (liftM x : Traced α) := by
  cases x <;> rfl

end HartKernel
