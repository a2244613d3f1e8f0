import HartKernel.Proofs.Frame.Slots

/-!
# Footprints

Which words of a stack region an operation may change.  The stack pointer that a
frame is pushed below can be any word: the words that change are those between
the new stack pointer and the old one, or none.

Main definitions:

- `StackRegion.ChangesOnly` compares a region before and after an operation that
  may change words at given addresses.
- `StackRegion.SamePlace` only says that a region has not moved.
- `FrameLayout.Below` are the addresses of a frame pushed below a stack pointer,
  `FrameLayout.Pushed` says that such a frame was pushed.

Main results:

- `StackRegion.ChangesOnly.eq`: an operation that may change no word leaves the
  region as it is.
- `FrameLayout.changesOnly_save` and `FrameLayout.changesOnly_writeSlot`: neither
  saving a frame nor patching it changes a word outside the frame.
-/

namespace HartKernel

namespace StackRegion

variable {p q : Nat → Prop} {region region' region'' : StackRegion}

/-- Two regions lie at the same place, and differ at addresses with a property at
most. -/
structure ChangesOnly (p : Nat → Prop) (region region' : StackRegion) : Prop where
  base : region'.base = region.base
  size : region'.size = region.size
  cell : ∀ i, ¬p (region.base + 8 * i) → region'.cell i = region.cell i

namespace ChangesOnly

theorem refl (p : Nat → Prop) (region : StackRegion) : ChangesOnly p region region :=
  ⟨rfl, rfl, fun _ _ => rfl⟩

theorem trans (h : ChangesOnly p region region') (h' : ChangesOnly p region' region'') :
    ChangesOnly p region region'' := by
  refine ⟨h'.base.trans h.base, h'.size.trans h.size, fun i hi => ?_⟩
  exact (h'.cell i (by rwa [h.base])).trans (h.cell i hi)

theorem mono (h : ChangesOnly p region region') (hpq : ∀ a, p a → q a) :
    ChangesOnly q region region' :=
  ⟨h.base, h.size, fun i hi => h.cell i (mt (hpq _) hi)⟩

theorem alignedTop (h : ChangesOnly p region region') : region'.alignedTop = region.alignedTop := by
  rw [StackRegion.alignedTop, top, byteSize, h.base, h.size]
  rfl

/-- A region of which no word may change is left as it is. -/
theorem eq (h : ChangesOnly p region region') (hp : ∀ a, ¬p a) : region' = region := by
  obtain ⟨base, words, haligned, htop⟩ := region
  obtain ⟨base', words', haligned', htop'⟩ := region'
  have hbase : base' = base := h.base
  have hsize : words'.size = words.size := h.size
  have hwords : words' = words := by
    refine Array.ext hsize fun i hi' hi => ?_
    have hcell := h.cell i (hp _)
    simpa [StackRegion.cell, hi, hi'] using hcell
  subst hbase hwords
  rfl

end ChangesOnly

theorem changesOnly_put (i : Nat) (v : Word) (hi : p (region.base + 8 * i)) :
    ChangesOnly p region (region.put i v) := by
  refine ⟨base_put .., size_put .., fun j hj => ?_⟩
  rw [cell_put, if_neg]
  rintro ⟨rfl, -⟩
  exact hj hi

theorem changesOnly_putAll {i : Nat} {vs : List Word}
    (hp : ∀ j < vs.length, p (region.base + 8 * (i + j))) :
    ChangesOnly p region (region.putAll i vs) := by
  induction vs generalizing region i with
  | nil => exact .refl p region
  | cons v vs ih =>
    refine (changesOnly_put i v (hp 0 (Nat.zero_lt_succ _))).trans (ih fun j hj => ?_)
    have hnext := hp (j + 1) (Nat.succ_lt_succ hj)
    rwa [base_put, Nat.add_assoc, Nat.add_comm 1 j]

/-- A region has stayed where it is, with whatever contents. -/
abbrev SamePlace (region region' : StackRegion) : Prop :=
  region.ChangesOnly (fun _ => True) region'

/-- Writing a word changes no other one, also if it is refused. -/
theorem changesOnly_write (region : StackRegion) (addr v : Word) :
    ChangesOnly (· = addr.toNat) region (region.write addr v).2 := by
  unfold write writeAll
  split
  · rename_i i hi
    obtain ⟨h8, ⟨hlow, -⟩, rfl⟩ := index_eq_ok_iff.1 hi
    have hbase := region.base_aligned
    refine changesOnly_putAll fun j hj => ?_
    rw [List.length_singleton] at hj
    omega
  · exact .refl _ region

end StackRegion

namespace FrameLayout

variable {l : FrameLayout} {region region' : StackRegion} {r : RegisterFile} {sp fsp : Word}

/-- The addresses of a frame that is pushed below a stack pointer. -/
def Below (l : FrameLayout) (sp : Word) (a : Nat) : Prop :=
  sp.toNat ≤ a + l.frameSize ∧ a < sp.toNat

instance (l : FrameLayout) (sp : Word) : DecidablePred (l.Below sp) :=
  fun _ => inferInstanceAs (Decidable (_ ∧ _))

/-- Saving changes words below the stack pointer only, also if it is refused. -/
theorem changesOnly_save (hl : l.Valid) {answer : Except FrameError Word}
    (h : (l.save r region sp).result = .ok (answer, region')) :
    region.ChangesOnly (l.Below sp) region' := by
  rcases save_eq hl r region sp with ⟨e, he⟩ | ⟨haligned, ⟨hlow, -⟩, hle, hok⟩
  · rw [he] at h
    cases h
    exact .refl _ region
  · rw [hok] at h
    cases h
    have hsize : l.frameSize = 8 * l.frameWords := Nat.mul_comm _ _
    have hmod := l.frameSize_mod
    have hbase := region.base_aligned
    -- the frame is a range of words; its addresses are counted from the base of the region
    refine StackRegion.changesOnly_putAll fun j hj => ?_
    rw [length_image] at hj
    rw [StackRegion.place, Below]
    omega

/-- Registers were pushed as a frame: it lies just below their stack pointer and
holds them, and no word outside it has changed. -/
structure Pushed (l : FrameLayout) (r : RegisterFile) (region region' : StackRegion)
    (fsp : Word) : Prop where
  below : fsp.toNat + l.frameSize = r.sp.toNat
  stores : l.Stores region' fsp r
  changes : region.ChangesOnly (l.Below r.sp) region'

theorem pushed_of_save (hl : l.Valid)
    (h : (l.save r region r.sp).result = .ok (.ok fsp, region')) : l.Pushed r region region' fsp :=
  ⟨(frameAt_of_save hl h).2.2.1, stores_of_save hl h, changesOnly_save hl h⟩

/-- Patching a slot changes words of the frame only, also if it is refused. -/
theorem changesOnly_writeSlot (hsp : fsp.toNat + l.frameSize = sp.toNat) (region : StackRegion)
    (slot : RegisterSlot) (v : Word) :
    region.ChangesOnly (l.Below sp) (l.writeSlot region fsp slot v).2 := by
  unfold writeSlot
  cases hindex : l.slotIndex region fsp slot with
  | error e => exact .refl _ region
  | ok i =>
    refine StackRegion.changesOnly_put i v ?_
    unfold slotIndex at hindex
    cases hoffset : l.slotOffset? slot with
    | none => simp [hoffset] at hindex
    | some offset =>
      obtain ⟨j, hj, rfl⟩ := Option.map_eq_some_iff.1 hoffset
      obtain ⟨hlt, -⟩ := List.idxOf?_eq_some_iff.1 hj
      simp only [hoffset] at hindex
      obtain ⟨u, -, hindex⟩ := bind_eq_ok_iff.1 hindex
      obtain ⟨h8, ⟨hlow, -⟩, rfl⟩ := StackRegion.index_eq_ok_iff.1 hindex
      have hsize : l.frameSize = 8 * l.frameWords := Nat.mul_comm _ _
      have hslots := l.length_slots_lt_frameWords
      have hbase := region.base_aligned
      rw [Below]
      omega

theorem samePlace_save (hl : l.Valid) {answer : Except FrameError Word}
    (h : (l.save r region sp).result = .ok (answer, region')) : region.SamePlace region' :=
  (changesOnly_save hl h).mono fun _ _ => trivial

theorem samePlace_writeSlot (l : FrameLayout) (region : StackRegion) (sp : Word)
    (slot : RegisterSlot) (v : Word) : region.SamePlace (l.writeSlot region sp slot v).2 := by
  unfold writeSlot
  cases l.slotIndex region sp slot with
  | error e => exact .refl _ region
  | ok i => exact StackRegion.changesOnly_put i v trivial

end FrameLayout

end HartKernel
