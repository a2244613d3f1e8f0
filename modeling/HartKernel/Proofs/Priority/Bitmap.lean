import HartKernel.Priority.Bitmap
import Mathlib.Data.List.Sort
import Mathlib.Tactic.Common

/-!
# Priority bitmaps as ordered sets

The summary word of a bitmap promises which groups have a position.  As long as
the promise holds, the two-word search finds the lowest position, and listing
the groups one after another lists the positions in ascending order.

Main results:

- `PriorityBitmap.Sound` is the promise; `sound_insert` and `sound_erase`: adding
  and removing positions keep it.
- `PriorityBitmap.lowest?_eq_some` and `PriorityBitmap.lowest?_eq_none`: the
  search answers with the lowest position, and with none only if there is none.
- `PriorityBitmap.toList_eq_filter`: the list of positions is ascending and
  complete.
-/

namespace HartKernel

/-! ## The lowest bit of a word -/

/-- The lowest bit of a word is set, and no lower bit is. -/
theorem lowestBit?_eq_some_iff {w : Word} {i : Fin 64} :
    lowestBit? w = some i ↔
      w.getLsbD i = true ∧ ∀ j : Fin 64, j < i → w.getLsbD j = false := by
  rw [lowestBit?, List.find?_eq_some_iff_getElem]
  constructor
  · rintro ⟨hi, n, hn, rfl, hlow⟩
    refine ⟨hi, fun j hj => ?_⟩
    have hjn : j.val < n := by
      rw [List.getElem_finRange, Fin.lt_def] at hj
      exact hj
    simpa using hlow j.val hjn
  · rintro ⟨hi, hlow⟩
    refine ⟨hi, i.val, by simp, by simp, fun j hj => ?_⟩
    have hj64 : j < 64 := by omega
    simpa using hlow ⟨j, hj64⟩ hj

/-- A word that is not zero has a bit. -/
theorem exists_bit_of_ne_zero {w : Word} (h : w ≠ 0) : ∃ i : Fin 64, w.getLsbD i = true := by
  by_contra hnone
  apply h
  apply BitVec.eq_of_getLsbD_eq
  intro i hi
  have hbit : ¬ w.getLsbD i = true := fun e => hnone ⟨⟨i, hi⟩, e⟩
  rw [Bool.not_eq_true] at hbit
  rw [hbit]
  exact BitVec.getLsbD_zero.symm

namespace Position

/-- Positions are ordered by group first. -/
theorem lt_of_group_lt {i j : Position} (h : i.group < j.group) : i < j := by
  rw [Fin.lt_def] at h ⊢
  simp only [group] at h
  omega

/-- Within a group, positions are ordered by place. -/
theorem lt_of_bit_lt {i j : Position} (hg : i.group = j.group) (h : i.bit < j.bit) :
    i < j := by
  have hgv : i.val / 64 = j.val / 64 := congrArg Fin.val hg
  rw [Fin.lt_def] at h ⊢
  simp only [bit] at h
  omega

end Position

namespace PriorityBitmap

theorem contains_ofGroup (b : PriorityBitmap) (g j : Fin 64) :
    b.contains (.ofGroup g j) = (b.groups.get g).getLsbD j := by
  change (b.groups.get (Position.ofGroup g j).group).getLsbD (Position.ofGroup g j).bit = _
  rw [Position.group_ofGroup, Position.bit_ofGroup]

/-! ## The promise of the summary word -/

/-- The summary word has a bit for exactly the groups that are not empty. -/
def Sound (b : PriorityBitmap) : Prop :=
  ∀ g : Fin 64, b.summary.getLsbD g = true ↔ b.groups.get g ≠ 0

theorem sound_empty : empty.Sound := by
  intro g
  change _ ↔ empty.groups[g] ≠ 0
  simp [empty]

/-- A group with a position is not empty. -/
theorem group_ne_zero_of_contains {b : PriorityBitmap} {i : Position}
    (h : b.contains i = true) : b.groups.get i.group ≠ 0 := by
  intro hzero
  change b.groups[i.group] = 0 at hzero
  rw [contains, hzero] at h
  exact Bool.false_ne_true (BitVec.getLsbD_zero.symm.trans h)

theorem sound_insert {b : PriorityBitmap} (hb : b.Sound) (i : Position) :
    (b.insert i).Sound := by
  intro g
  by_cases hg : i.group = g
  · subst hg
    have hset : (b.insert i).contains i = true := by simp [contains_insert]
    refine iff_of_true ?_ (group_ne_zero_of_contains hset)
    simp [insert]
  · have hv : i.group.val ≠ g.val := fun e => hg (Fin.ext e)
    have hgroup : (b.insert i).groups[g] = b.groups[g] := by
      simp only [insert, Fin.getElem_fin, Vector.getElem_set_ne _ _ hv]
    have hsummary : (b.insert i).summary.getLsbD g = b.summary.getLsbD g := by
      simp [insert, Ne.symm hv]
    change _ ↔ (b.insert i).groups[g] ≠ 0
    rw [hgroup, hsummary]
    exact hb g

theorem sound_erase {b : PriorityBitmap} (hb : b.Sound) (i : Position) :
    (b.erase i).Sound := by
  intro g
  by_cases hg : i.group = g
  · subst hg
    have hgroup : (b.erase i).groups[i.group] =
        b.groups[i.group] &&& ~~~(BitVec.twoPow 64 i.bit) := by
      simp [erase]
    change _ ↔ (b.erase i).groups[i.group] ≠ 0
    rw [hgroup]
    by_cases hzero : b.groups[i.group] &&& ~~~(BitVec.twoPow 64 i.bit) = 0
    · have hsummary : (b.erase i).summary =
          b.summary &&& ~~~(BitVec.twoPow 64 i.group) := if_pos hzero
      rw [hsummary]
      exact iff_of_false (by simp) (fun h => h hzero)
    · have hold : b.groups[i.group] ≠ 0 := by
        intro h0
        exact hzero (by simp [h0])
      have hsummary : (b.erase i).summary = b.summary := if_neg hzero
      rw [hsummary]
      exact iff_of_true ((hb i.group).2 hold) hzero
  · have hv : i.group.val ≠ g.val := fun e => hg (Fin.ext e)
    have hgroup : (b.erase i).groups[g] = b.groups[g] := by
      simp only [erase, Fin.getElem_fin, Vector.getElem_set_ne _ _ hv]
    have hsummary : (b.erase i).summary.getLsbD g = b.summary.getLsbD g := by
      simp only [erase]
      split <;> simp [Ne.symm hv]
    change _ ↔ (b.erase i).groups[g] ≠ 0
    rw [hgroup, hsummary]
    exact hb g

/-! ## The lowest position -/

/-- The search finds the lowest position. -/
theorem lowest?_eq_some {b : PriorityBitmap} (hb : b.Sound) {i : Position}
    (hi : b.contains i = true) (hlow : ∀ j, b.contains j = true → i ≤ j) :
    b.lowest? = .ok (some i) := by
  have hsummary : lowestBit? b.summary = some i.group := by
    refine lowestBit?_eq_some_iff.2 ⟨(hb _).2 (group_ne_zero_of_contains hi), fun g hg => ?_⟩
    by_contra hbit
    rw [Bool.not_eq_false] at hbit
    -- a lower group would hold a lower position
    obtain ⟨j, hj⟩ := exists_bit_of_ne_zero ((hb g).1 hbit)
    have hmem : b.contains (.ofGroup g j) = true := (b.contains_ofGroup g j).trans hj
    have hlt : Position.ofGroup g j < i := Position.lt_of_group_lt (by simpa using hg)
    exact absurd (hlow _ hmem) (not_le.2 hlt)
  have hgroup : lowestBit? b.groups[i.group] = some i.bit := by
    refine lowestBit?_eq_some_iff.2 ⟨hi, fun j hj => ?_⟩
    by_contra hbit
    rw [Bool.not_eq_false] at hbit
    have hmem : b.contains (.ofGroup i.group j) = true :=
      (b.contains_ofGroup i.group j).trans hbit
    have hlt : Position.ofGroup i.group j < i :=
      Position.lt_of_bit_lt (by simp) (by simpa using hj)
    exact absurd (hlow _ hmem) (not_le.2 hlt)
  simp only [lowest?, hsummary, hgroup, Position.ofGroup_group_bit]

/-- The search answers with none if there is no position. -/
theorem lowest?_eq_none {b : PriorityBitmap} (hb : b.Sound)
    (hnone : ∀ i, b.contains i = false) : b.lowest? = .ok none := by
  have hzero : b.summary = 0 := by
    by_contra hne
    obtain ⟨g, hg⟩ := exists_bit_of_ne_zero hne
    obtain ⟨j, hj⟩ := exists_bit_of_ne_zero ((hb g).1 hg)
    have hmem : b.contains (.ofGroup g j) = true := (b.contains_ofGroup g j).trans hj
    rw [hnone] at hmem
    exact Bool.false_ne_true hmem
  simp only [lowest?, lowestBit?_eq_none_iff.2 hzero]

/-! ## Listing the positions -/

theorem mem_groupList {b : PriorityBitmap} {g : Fin 64} {i : Position} :
    i ∈ b.groupList g ↔ i.group = g ∧ b.contains i = true := by
  unfold groupList
  constructor
  · intro h
    split at h
    · exact absurd h List.not_mem_nil
    · obtain ⟨j, hj, rfl⟩ := List.mem_map.1 h
      rw [List.mem_filter] at hj
      exact ⟨by simp, by simpa [contains] using hj.2⟩
  · rintro ⟨rfl, hi⟩
    have hne : b.groups[i.group] ≠ 0 := group_ne_zero_of_contains hi
    rw [if_neg hne]
    refine List.mem_map.2 ⟨i.bit, List.mem_filter.2 ⟨List.mem_finRange _, hi⟩, by simp⟩

/-- The list of positions has exactly the positions of the bitmap. -/
theorem mem_toList {b : PriorityBitmap} {i : Position} :
    i ∈ b.toList ↔ b.contains i = true := by
  rw [toList, List.mem_flatMap]
  constructor
  · rintro ⟨g, -, hi⟩
    exact (mem_groupList.1 hi).2
  · intro hi
    exact ⟨i.group, List.mem_finRange _, mem_groupList.2 ⟨rfl, hi⟩⟩

theorem sortedLT_toList (b : PriorityBitmap) : b.toList.SortedLT := by
  apply List.Pairwise.sortedLT
  rw [toList, List.pairwise_flatMap]
  constructor
  · intro g _
    unfold groupList
    split
    · exact List.Pairwise.nil
    · rw [List.pairwise_map]
      refine List.Pairwise.imp (fun h => ?_)
        ((List.pairwise_lt_finRange 64).sublist List.filter_sublist)
      exact Position.lt_of_bit_lt (by simp) (by simpa using h)
  · refine List.Pairwise.imp (fun hg i hi j hj => ?_) (List.pairwise_lt_finRange 64)
    apply Position.lt_of_group_lt
    rw [(mem_groupList.1 hi).1, (mem_groupList.1 hj).1]
    exact hg

/-- The list of positions is ascending and complete. -/
theorem toList_eq_filter (b : PriorityBitmap) :
    b.toList = (List.finRange 4096).filter b.contains := by
  apply (sortedLT_toList b).eq_of_mem_iff
  · exact ((List.pairwise_lt_finRange 4096).sublist List.filter_sublist).sortedLT
  · intro i
    rw [mem_toList, List.mem_filter]
    exact ⟨fun h => ⟨List.mem_finRange i, h⟩, fun h => h.2⟩

end PriorityBitmap

end HartKernel
