import HartKernel.Panic

/-!
# Priority bitmaps

A bitmap of 4096 positions in two levels: 64 groups of 64 positions, and a
summary word with one bit for each group that is not empty.  The lowest
position is found by looking at two words only.

Main definitions:

- `Position` is a position, `PriorityBitmap` the bitmap.
- `PriorityBitmap.insert`, `PriorityBitmap.erase` and `PriorityBitmap.contains`
  treat the bitmap as a set.
- `PriorityBitmap.lowest?` is the lowest position and
  `PriorityBitmap.toList` lists all of them in ascending order.

Main results:

- `PriorityBitmap.contains_insert` and `PriorityBitmap.contains_erase`: adding
  and removing a position changes the membership of that position only.
-/

namespace HartKernel

/-- A position in a priority bitmap. -/
abbrev Position := Fin 4096

namespace Position

/-- A number as a position, which has to be in range. -/
def ofNat (n : Nat) : Except Panic Position :=
  if h : n < 4096 then .ok ⟨n, h⟩ else .error .outOfBounds

/-- The group that a position belongs to. -/
def group (i : Position) : Fin 64 := ⟨i.val / 64, by omega⟩

/-- The place of a position in its group. -/
def bit (i : Position) : Fin 64 := ⟨i.val % 64, by omega⟩

/-- The position at a place of a group. -/
def ofGroup (g b : Fin 64) : Position := ⟨b.val + g.val * 64, by omega⟩

@[simp] theorem ofGroup_group_bit (i : Position) : ofGroup i.group i.bit = i := by
  apply Fin.ext
  simp only [ofGroup, group, bit]
  omega

@[simp] theorem group_ofGroup (g b : Fin 64) : (ofGroup g b).group = g := by
  apply Fin.ext
  simp only [ofGroup, group]
  omega

@[simp] theorem bit_ofGroup (g b : Fin 64) : (ofGroup g b).bit = b := by
  apply Fin.ext
  simp only [ofGroup, bit]
  omega

end Position

/-- The lowest bit that is set in a word. -/
def lowestBit? (w : Word) : Option (Fin 64) :=
  (List.finRange 64).find? fun (i : Fin 64) => w.getLsbD i

/-- Only zero has no lowest bit. -/
theorem lowestBit?_eq_none_iff {w : Word} : lowestBit? w = none ↔ w = 0 := by
  rw [lowestBit?, List.find?_eq_none]
  constructor
  · intro h
    apply BitVec.eq_of_getLsbD_eq
    intro i hi
    have hbit := h ⟨i, hi⟩ (List.mem_finRange _)
    rw [Bool.not_eq_true] at hbit
    rw [hbit]
    exact BitVec.getLsbD_zero.symm
  · intro h i _
    rw [h]
    exact Bool.not_eq_true _ ▸ BitVec.getLsbD_zero

/-- A two-level bitmap of positions. -/
structure PriorityBitmap where
  /-- One bit for each group that is not empty. -/
  summary : Word
  /-- The groups. -/
  groups : Vector Word 64
deriving DecidableEq

namespace PriorityBitmap

/-- The bitmap without positions. -/
def empty : PriorityBitmap := ⟨0, Vector.replicate 64 0⟩

/-- Whether a position is in the bitmap. -/
def contains (b : PriorityBitmap) (i : Position) : Bool := b.groups[i.group].getLsbD i.bit

/-- Add a position. -/
def insert (b : PriorityBitmap) (i : Position) : PriorityBitmap where
  summary := b.summary ||| BitVec.twoPow 64 i.group
  groups := b.groups.set i.group (b.groups[i.group] ||| BitVec.twoPow 64 i.bit)

/-- Remove a position.  The group leaves the summary with its last position. -/
def erase (b : PriorityBitmap) (i : Position) : PriorityBitmap :=
  let group := b.groups[i.group] &&& ~~~(BitVec.twoPow 64 i.bit)
  { summary := if group = 0 then b.summary &&& ~~~(BitVec.twoPow 64 i.group) else b.summary
    groups := b.groups.set i.group group }

@[simp] theorem contains_empty (i : Position) : empty.contains i = false := by
  simp [contains, empty]

/-- Setting a bit changes the membership of that position only. -/
theorem contains_insert (b : PriorityBitmap) (i j : Position) :
    (b.insert i).contains j = (decide (i = j) || b.contains j) := by
  by_cases hg : i.group = j.group
  · by_cases hb : i.bit = j.bit
    · have hij : i = j := by
        rw [← Position.ofGroup_group_bit i, hg, hb, Position.ofGroup_group_bit]
      subst hij
      simp [contains, insert]
    · have hij : i ≠ j := fun e => hb (by rw [e])
      have hv : j.bit.val ≠ i.bit.val := fun e => hb (Fin.ext e.symm)
      simp [contains, insert, hg, hij, hv]
  · have hij : i ≠ j := fun e => hg (by rw [e])
    have hv : i.group.val ≠ j.group.val := fun e => hg (Fin.ext e)
    simp only [contains, insert, Fin.getElem_fin, Vector.getElem_set_ne _ _ hv]
    simp [hij]

/-- Clearing a bit changes the membership of that position only. -/
theorem contains_erase (b : PriorityBitmap) (i j : Position) :
    (b.erase i).contains j = (!decide (i = j) && b.contains j) := by
  by_cases hg : i.group = j.group
  · by_cases hb : i.bit = j.bit
    · have hij : i = j := by
        rw [← Position.ofGroup_group_bit i, hg, hb, Position.ofGroup_group_bit]
      subst hij
      simp [contains, erase]
    · have hij : i ≠ j := fun e => hb (by rw [e])
      have hv : j.bit.val ≠ i.bit.val := fun e => hb (Fin.ext e.symm)
      simp [contains, erase, hg, hij, hv]
  · have hij : i ≠ j := fun e => hg (by rw [e])
    have hv : i.group.val ≠ j.group.val := fun e => hg (Fin.ext e)
    simp only [contains, erase, Fin.getElem_fin, Vector.getElem_set_ne _ _ hv]
    simp [hij]

/-- The lowest position.  A group that the summary promises has to hold one. -/
def lowest? (b : PriorityBitmap) : Except Panic (Option Position) :=
  match lowestBit? b.summary with
  | none => .ok none
  | some g =>
    match lowestBit? b.groups[g] with
    | none => .error .inconsistent
    | some i => .ok (some (.ofGroup g i))

/-- The positions of one group in ascending order. -/
def groupList (b : PriorityBitmap) (g : Fin 64) : List Position :=
  if b.groups[g] = 0 then []
  else ((List.finRange 64).filter fun (i : Fin 64) => b.groups[g].getLsbD i).map
    (.ofGroup g)

/-- All positions in ascending order. -/
def toList (b : PriorityBitmap) : List Position := (List.finRange 64).flatMap b.groupList

end PriorityBitmap

instance : Describe PriorityBitmap where
  form b := .list (b.toList.map fun i => form i.val)

end HartKernel
