import HartKernel.Proofs.Priority.Bitmap
import Mathlib.Data.Finset.Max

/-!
# Priority bitmaps as sets of positions

Whatever positions are added to a bitmap and removed from it, in any order and
repeatedly, the bitmap stands for the set that the same changes make of the empty set.
All questions to the bitmap are answered from that set.

Main definitions:

- `PriorityBitmap.Represents` says that a bitmap stands for a set of positions.
- `PriorityBitmap.Edit` is a change; `PriorityBitmap.edited` makes a list of changes to
  the empty bitmap, and `PriorityBitmap.positions` to the empty set.

Main results:

- `PriorityBitmap.Represents.apply`: a change does the same to the bitmap and to the set.
- `PriorityBitmap.Represents.exists_lowest?`: the search always answers, with the least
  member if there is one.
- `PriorityBitmap.edited_answers`: what an edited bitmap answers.
-/

namespace HartKernel

namespace PriorityBitmap

variable {b : PriorityBitmap} {S : Finset Position}

/-- A bitmap stands for a set of positions: it holds the members of the set, and its
summary word keeps its promise. -/
structure Represents (b : PriorityBitmap) (S : Finset Position) : Prop where
  mem : ∀ i, b.contains i = true ↔ i ∈ S
  sound : b.Sound

/-- A change of a bitmap.  Positions that are there may be added, and positions that are
not there may be removed. -/
inductive Edit where
  | insert (i : Position)
  | erase (i : Position)
deriving DecidableEq, Repr

/-- Make a change to a bitmap. -/
def Edit.apply (b : PriorityBitmap) : Edit → PriorityBitmap
  | insert i => b.insert i
  | erase i => b.erase i

/-- Make a change to a set. -/
def Edit.applySet (S : Finset Position) : Edit → Finset Position
  | insert i => Insert.insert i S
  | erase i => S.erase i

/-- What changes make of the empty bitmap. -/
def edited (edits : List Edit) : PriorityBitmap := edits.foldl Edit.apply empty

/-- What changes make of the empty set. -/
def positions (edits : List Edit) : Finset Position := edits.foldl Edit.applySet ∅

namespace Represents

theorem empty : PriorityBitmap.empty.Represents ∅ where
  mem i := by simp
  sound := sound_empty

theorem insert (h : b.Represents S) (i : Position) :
    (b.insert i).Represents (Insert.insert i S) where
  mem j := by
    rw [contains_insert, Bool.or_eq_true, decide_eq_true_eq, h.mem, Finset.mem_insert, eq_comm]
  sound := sound_insert h.sound i

theorem erase (h : b.Represents S) (i : Position) : (b.erase i).Represents (S.erase i) where
  mem j := by
    rw [contains_erase, Bool.and_eq_true, Bool.not_eq_true', decide_eq_false_iff_not, h.mem,
      Finset.mem_erase, ne_comm]
  sound := sound_erase h.sound i

/-- A change does the same to a bitmap and to the set that it stands for. -/
theorem apply (h : b.Represents S) (e : Edit) : (e.apply b).Represents (e.applySet S) := by
  cases e with
  | insert i => exact h.insert i
  | erase i => exact h.erase i

theorem foldl (h : b.Represents S) (edits : List Edit) :
    (edits.foldl Edit.apply b).Represents (edits.foldl Edit.applySet S) := by
  induction edits generalizing b S with
  | nil => exact h
  | cons e edits ih => exact ih (h.apply e)

/-- The search always answers: with none if there is no position, and with the least one
otherwise. -/
theorem exists_lowest? (h : b.Represents S) :
    ∃ answer, b.lowest? = .ok answer ∧ (answer = none ↔ S = ∅) ∧
      ∀ i, answer = some i ↔ IsLeast (S : Set Position) i := by
  rcases S.eq_empty_or_nonempty with rfl | hne
  · have hnone : ∀ i, b.contains i = false := by
      intro i
      rw [← Bool.not_eq_true, h.mem]
      exact Finset.notMem_empty i
    refine ⟨none, lowest?_eq_none h.sound hnone, iff_of_true rfl rfl, fun i => ?_⟩
    exact iff_of_false (fun hsome => nomatch hsome) fun hleast => Finset.notMem_empty i hleast.1
  · have hleast := S.isLeast_min' hne
    have hlowest : b.lowest? = .ok (some (S.min' hne)) :=
      lowest?_eq_some h.sound ((h.mem _).2 hleast.1) fun j hj => hleast.2 ((h.mem j).1 hj)
    refine ⟨_, hlowest, iff_of_false (fun hnone => nomatch hnone) hne.ne_empty, fun i => ?_⟩
    rw [Option.some.injEq]
    exact ⟨fun hi => hi ▸ hleast, fun hi => hleast.unique hi⟩

end Represents

theorem represents_edited (edits : List Edit) : (edited edits).Represents (positions edits) :=
  Represents.empty.foldl edits

/-- Whatever changes are made to the empty bitmap, it answers for the set that the same
changes make of the empty set: a position is in it exactly if it is a member; the search
always answers, with none exactly if there is no member and with a position exactly if it
is the least member; the list of positions ascends strictly and has exactly the members;
and the summary word has a bit for exactly the groups that are not empty. -/
theorem edited_answers (edits : List Edit) :
    (∀ i, (edited edits).contains i = true ↔ i ∈ positions edits) ∧
    (∃ answer, (edited edits).lowest? = .ok answer ∧
      (answer = none ↔ positions edits = ∅) ∧
      ∀ i, answer = some i ↔ IsLeast (positions edits : Set Position) i) ∧
    ((edited edits).toList.SortedLT ∧
      ∀ i, i ∈ (edited edits).toList ↔ i ∈ positions edits) ∧
    ∀ g : Fin 64,
      (edited edits).summary.getLsbD g = true ↔ (edited edits).groups.get g ≠ 0 := by
  have h := represents_edited edits
  exact ⟨h.mem, h.exists_lowest?, ⟨sortedLT_toList _, fun i => mem_toList.trans (h.mem i)⟩,
    h.sound⟩

/-- A group leaves the summary word with its last position, however often a position
was added before. -/
example : edited [.insert 70, .insert 70, .insert 65, .erase 65, .erase 70, .erase 3] = empty := by
  decide +kernel

end PriorityBitmap

end HartKernel
