import HartKernel.Proofs.Frame.RoundTrip

/-!
# Patching saved registers

The answer of a service and the address to go on at are written into the frame of a
task while it is suspended.  Whoever patches a slot looks for its place by a walk over
the slots of the layout that neither saving nor restoring makes.  All three agree on
where a slot lies: what is read from a slot is what restoring loads into it, and what
is written to a slot is what a later restore loads.

Main definitions:

- `FrameLayout.held` is the word that a frame holds for a slot.
- `FrameLayout.findSlot`, `FrameLayout.readSlotInPlace` and
  `FrameLayout.writeSlotInPlace` walk to the words of a slot and access them there.
- `FrameLayout.Patched` says what overwriting a slot has done.
- `FrameLayout.RefusesSlot` says that a slot can be neither read nor overwritten.

Main results:

- `FrameLayout.FrameAt.restore_held` and `FrameLayout.FrameAt.readSlot`: restoring
  loads, and reading answers, what the frame holds.
- `FrameLayout.FrameAt.patched`: what overwriting a slot does.
- `FrameLayout.slot_patching`: patching commutes with restoring.
-/

namespace HartKernel

namespace RegisterFile

variable {slots : List RegisterSlot} {s t : RegisterSlot}

/-- What registers hold after some of them were assigned the values of a function. -/
theorem get_setAll_map (hs : s.Exists) (f : RegisterSlot → Word) (q : RegisterFile) :
    (q.setAll (slots.map fun u => (u, f u))).get s =
      if s ∈ slots ∧ s ≠ .int 0 then f s else q.get s := by
  induction slots generalizing q with
  | nil => simp [setAll]
  | cons a slots ih =>
    rw [List.map_cons, setAll, List.foldl_cons, ← setAll, ih]
    dsimp only
    by_cases hlater : s ∈ slots ∧ s ≠ .int 0
    · rw [if_pos hlater, if_pos ⟨List.mem_cons_of_mem _ hlater.1, hlater.2⟩]
    · rw [if_neg hlater]
      by_cases hsa : s = a
      · subst hsa
        by_cases h0 : s = .int 0
        · rw [if_neg (not_and_not_right.2 fun _ => h0), h0, set]
        · rw [if_pos ⟨List.mem_cons_self, h0⟩, get_set_self hs h0]
      · have hnot : ¬(s ∈ a :: slots ∧ s ≠ .int 0) := by
          rw [List.mem_cons]
          tauto
        rw [if_neg hnot, get_set_of_ne hsa]

/-- Changing one of the values that registers are assigned is assigning that register
once more. -/
theorem setAll_map_update (ht : t ∈ slots) (f : RegisterSlot → Word) (v : Word)
    (q : RegisterFile) :
    q.setAll (slots.map fun u => (u, if u = t then v else f u)) =
      (q.setAll (slots.map fun u => (u, f u))).set t v := by
  refine ext_get fun s hs => ?_
  rw [get_setAll_map hs]
  by_cases hst : s = t
  · subst hst
    by_cases h0 : s = .int 0
    · rw [if_neg (not_and_not_right.2 fun _ => h0), h0, set, get_zero_setAll]
    · rw [if_pos ⟨ht, h0⟩, if_pos rfl, get_set_self hs h0]
  · rw [if_neg hst, get_set_of_ne hst, get_setAll_map hs]

end RegisterFile

namespace FrameLayout

variable {l : FrameLayout} {region region' : StackRegion} {q q' : RegisterFile}
variable {s sp v w : Word} {t u : RegisterSlot} {e : FrameError}

/-! ## Walking to a slot -/

/-- Walk over slots to one of them, counting the words of those before it. -/
def walkTo (t : RegisterSlot) : List RegisterSlot → Nat → Option Nat
  | [], _ => none
  | a :: slots, offset => if a = t then some offset else walkTo t slots (offset + a.words)

/-- Find the words of a slot of the frame at `sp`.  Their address has to be one that
fits in a word. -/
def findSlot (l : FrameLayout) (region : StackRegion) (sp : Word) (t : RegisterSlot) :
    Except Panic (Except FrameError Nat) :=
  match walkTo t l.slots 1 with
  | none => .ok (.error .noSuchSlot)
  | some offset =>
    match l.checkTag region sp with
    | .error e => .ok (.error e)
    | .ok () => do
      Panic.require (sp.toNat + 8 * offset < 0x10000000000000000) .overflow
      return region.index (sp.toNat + 8 * offset) t.words

/-- Read the words of one slot of the frame at `sp`. -/
def readSlotInPlace (l : FrameLayout) (region : StackRegion) (sp : Word) (t : RegisterSlot) :
    Except Panic (Except FrameError Word) := do
  match ← l.findSlot region sp t with
  | .error e => return .error e
  | .ok i =>
    let cell ← region.borrow i t.words
    return .ok (decode cell)

/-- Overwrite the words of one slot of the frame at `sp`. -/
def writeSlotInPlace (l : FrameLayout) (region : StackRegion) (sp : Word) (t : RegisterSlot)
    (v : Word) : Except Panic (Except FrameError Unit × StackRegion) := do
  match ← l.findSlot region sp t with
  | .error e => return (.error e, region)
  | .ok i =>
    let cell ← region.borrow i t.words
    return (.ok (), region.putAll i (encode v cell))

/-- The walk ends at the place of the slot among all slots. -/
theorem walkTo_eq (t : RegisterSlot) (slots : List RegisterSlot) (offset : Nat) :
    walkTo t slots offset = (slots.idxOf? t).map (offset + ·) := by
  induction slots generalizing offset with
  | nil => rfl
  | cons a slots ih =>
    rw [walkTo, List.idxOf?_cons]
    by_cases ha : a = t
    · simp [ha]
    · rw [if_neg ha, if_neg (by simpa using ha), ih, Option.map_map]
      congr 1
      funext n
      simp only [Function.comp_apply, RegisterSlot.words]
      omega

/-- If the address of a slot is looked at, it fits in a word. -/
def Addressable (l : FrameLayout) (region : StackRegion) (sp : Word) (t : RegisterSlot) : Prop :=
  ∀ offset, l.slotOffset? t = some offset → l.checkTag region sp = .ok () →
    sp.toNat + 8 * offset < 0x10000000000000000

theorem findSlot_eq (h : l.Addressable region sp t) :
    l.findSlot region sp t = .ok (l.slotIndex region sp t) := by
  unfold findSlot slotIndex
  rw [walkTo_eq]
  change (match l.slotOffset? t with | none => _ | some offset => _) = _
  cases hoffset : l.slotOffset? t with
  | none => rfl
  | some offset =>
    dsimp only
    cases htag : l.checkTag region sp with
    | error e => rfl
    | ok _ =>
      dsimp only
      rw [Panic.require_of (h offset hoffset htag)]
      rfl

/-- The words of a slot that was found can be borrowed. -/
theorem borrow_of_slotIndex {i : Nat} (h : l.slotIndex region sp t = .ok i) :
    region.borrow i t.words = .ok [region.cell i] := by
  unfold slotIndex at h
  cases hoffset : l.slotOffset? t with
  | none => simp [hoffset] at h
  | some offset =>
    simp only [hoffset] at h
    obtain ⟨_, -, hindex⟩ := bind_eq_ok_iff.1 h
    rw [StackRegion.borrow_of_index hindex]
    rfl

/-- Walking to a slot reads what looking its place up does. -/
theorem readSlotInPlace_eq (h : l.Addressable region sp t) :
    l.readSlotInPlace region sp t = .ok (l.readSlot region sp t) := by
  unfold readSlotInPlace readSlot
  rw [findSlot_eq h, ok_bind]
  cases hindex : l.slotIndex region sp t with
  | error e => rfl
  | ok i =>
    dsimp only
    rw [borrow_of_slotIndex hindex, ok_bind, decode_singleton]
    rfl

/-- Walking to a slot overwrites what looking its place up does. -/
theorem writeSlotInPlace_eq (h : l.Addressable region sp t) (v : Word) :
    l.writeSlotInPlace region sp t v = .ok (l.writeSlot region sp t v) := by
  unfold writeSlotInPlace writeSlot
  rw [findSlot_eq h, ok_bind]
  cases hindex : l.slotIndex region sp t with
  | error e => rfl
  | ok i =>
    dsimp only
    rw [borrow_of_slotIndex hindex, ok_bind, encode_singleton]
    rfl

/-! ## Refusals -/

/-- A slot can be neither read nor overwritten, also if the walk to it is checked, and
nothing changes. -/
structure RefusesSlot (l : FrameLayout) (region : StackRegion) (sp : Word) (t : RegisterSlot)
    (e : FrameError) : Prop where
  read : l.readSlot region sp t = .error e
  write : ∀ v, l.writeSlot region sp t v = (.error e, region)
  readInPlace : l.readSlotInPlace region sp t = .ok (.error e)
  writeInPlace : ∀ v, l.writeSlotInPlace region sp t v = .ok (.error e, region)

theorem refusesSlot_of_slotIndex (h : l.slotIndex region sp t = .error e)
    (haddr : l.Addressable region sp t) : l.RefusesSlot region sp t e := by
  have hread : l.readSlot region sp t = .error e := by
    rw [readSlot, h]
    rfl
  have hwrite : ∀ v, l.writeSlot region sp t v = (.error e, region) := fun v => by
    rw [writeSlot, h]
  exact ⟨hread, hwrite, (readSlotInPlace_eq haddr).trans (congrArg _ hread),
    fun v => (writeSlotInPlace_eq haddr v).trans (congrArg _ (hwrite v))⟩

/-- A slot that is not in the layout is refused at any address. -/
theorem refusesSlot_of_notMem (ht : t ∉ l.slots) (region : StackRegion) (sp : Word) :
    l.RefusesSlot region sp t .noSuchSlot := by
  have hoffset : l.slotOffset? t = none := by
    rw [slotOffset?, List.idxOf?_eq_none_iff.2 ht, Option.map_none]
  refine refusesSlot_of_slotIndex ?_ fun offset hsome => ?_
  · rw [slotIndex, hoffset]
  · rw [hoffset] at hsome
    cases hsome

/-- A word that is not the tag of the layout fails the check of the tag. -/
theorem checkTag_of_ne (hread : region.read sp = .ok w) (hw : w ≠ l.tag) :
    l.checkTag region sp = .error .kindMismatch := by
  rw [checkTag, hread, ok_bind, if_neg hw]

/-- Where there is no tag of the layout, all its slots are refused. -/
theorem refusesSlot_of_ne (ht : t ∈ l.slots) (hread : region.read sp = .ok w)
    (hw : w ≠ l.tag) : l.RefusesSlot region sp t .kindMismatch := by
  obtain ⟨j, -, -, hoffset⟩ := exists_slotOffset? ht
  have htag := checkTag_of_ne hread hw
  refine refusesSlot_of_slotIndex ?_ fun offset _ hok => ?_
  · rw [slotIndex, hoffset]
    dsimp only
    rw [htag]
    rfl
  · rw [htag] at hok
    cases hok

/-! ## What a frame holds -/

/-- The word that the frame at an address holds for a slot. -/
def held (l : FrameLayout) (region : StackRegion) (sp : Word) (t : RegisterSlot) : Word :=
  region.cell (region.place sp.toNat + (1 + l.slots.idxOf t))

theorem slotOffset?_of_mem (ht : t ∈ l.slots) :
    l.slotOffset? t = some (1 + l.slots.idxOf t) := by
  obtain ⟨j, hindex⟩ := Option.isSome_iff_exists.1 (List.isSome_idxOf?.2 ht)
  rw [slotOffset?, List.idxOf_eq_getD_idxOf?, hindex]
  rfl

/-- The words behind the tag are those of the slots, in their order. -/
theorem payload_eq_map (hnodup : l.slots.Nodup) (region : StackRegion) (sp : Word) :
    l.payload region sp = l.slots.map (l.held region sp) := by
  apply List.ext_getElem
  · simp [payload]
  · intro j hj _
    have hj' : j < l.slots.length := by simpa [payload] using hj
    rw [List.getElem_map, held, hnodup.idxOf_getElem j hj']
    simp only [payload, StackRegion.getElem_cells, Nat.add_assoc]

/-- Restoring loads what the frame holds. -/
theorem FrameAt.restore_held (h : l.FrameAt region s) (hl : l.Valid) (hnodup : l.slots.Nodup)
    (q : RegisterFile) :
    (l.restore region s q).result = .ok (.ok (BitVec.ofNat 64 (s.toNat + l.frameSize)),
      q.setAll (l.slots.map fun t => (t, l.held region s t))) := by
  rw [restore_eq hl h, payload_eq_map hnodup, List.map_prod_left_eq_zip]

theorem FrameAt.slotIndex_held (h : l.FrameAt region s) (ht : t ∈ l.slots) :
    l.slotIndex region s t = .ok (region.place s.toNat + (1 + l.slots.idxOf t)) := by
  have hslots := l.length_slots_lt_frameWords
  have hj := List.idxOf_lt_length_iff.2 ht
  exact h.slotIndex (slotOffset?_of_mem ht) (by omega)

/-- Reading a slot answers what the frame holds. -/
theorem FrameAt.readSlot (h : l.FrameAt region s) (ht : t ∈ l.slots) :
    l.readSlot region s t = .ok (l.held region s t) := by
  rw [FrameLayout.readSlot, h.slotIndex_held ht]
  rfl

/-- The slots of a frame lie inside its region, so their addresses fit in a word. -/
theorem FrameAt.addressable (h : l.FrameAt region s) (ht : t ∈ l.slots) :
    l.Addressable region s t := by
  intro offset hoffset _
  rw [slotOffset?_of_mem ht, Option.some.injEq] at hoffset
  have hslots := l.length_slots_lt_frameWords
  have hj := List.idxOf_lt_length_iff.2 ht
  have hsize : l.frameSize = 8 * l.frameWords := Nat.mul_comm _ _
  have hhigh := h.inside.2
  have htop := region.top_lt
  rw [StackRegion.top, StackRegion.byteSize, StackRegion.size] at hhigh
  omega

/-! ## Overwriting a slot -/

/-- The slot `t` of the frame at `s` was overwritten with `v`: no other word has
changed, every other slot reads as before, and restoring ends at the same stack
pointer and loads the same registers, but `v` into `t`.  General register zero stays
as it is, also if it is a slot. -/
structure Patched (l : FrameLayout) (region : StackRegion) (s : Word) (t : RegisterSlot)
    (v : Word) (region' : StackRegion) : Prop where
  changes : region.ChangesOnly (· = s.toNat + 8 * (1 + l.slots.idxOf t)) region'
  slot : l.readSlot region' s t = .ok v
  others : ∀ u ≠ t, l.readSlot region' s u = l.readSlot region s u
  restored : ∀ q q' sp, (l.restore region s q).result = .ok (.ok sp, q') →
    (l.restore region' s q).result = .ok (.ok sp, q'.set t v)

/-- What the frame holds after one of its slots was overwritten. -/
theorem FrameAt.held_put (h : l.FrameAt region s) (ht : t ∈ l.slots) (hu : u ∈ l.slots) :
    l.held (region.put (region.place s.toNat + (1 + l.slots.idxOf t)) v) s u =
      if u = t then v else l.held region s u := by
  have hslots := l.length_slots_lt_frameWords
  have hj := List.idxOf_lt_length_iff.2 ht
  have hsame : (region.put (region.place s.toNat + (1 + l.slots.idxOf t)) v).place s.toNat =
      region.place s.toNat := rfl
  rw [held, held, hsame, StackRegion.cell_put]
  by_cases hut : u = t
  · rw [if_pos hut, if_pos ⟨by rw [hut], by rw [hut]; exact (h.place_add_lt (by omega)).2⟩]
  · have hne : l.slots.idxOf t ≠ l.slots.idxOf u := fun he => hut ((List.idxOf_inj hu).1 he.symm)
    rw [if_neg hut, if_neg (by omega)]

/-- What overwriting a slot of a frame does. -/
theorem FrameAt.patched (h : l.FrameAt region s) (hl : l.Valid) (hnodup : l.slots.Nodup)
    (ht : t ∈ l.slots) (v : Word) :
    ∃ region', l.writeSlot region s t v = (.ok (), region') ∧ l.Patched region s t v region' := by
  have hslots := l.length_slots_lt_frameWords
  have hj := List.idxOf_lt_length_iff.2 ht
  have hindex := h.slotIndex_held ht
  have hplace := (h.place_add_lt (show 1 + l.slots.idxOf t < l.frameWords by omega)).1
  have hframe : l.FrameAt (region.put (region.place s.toNat + (1 + l.slots.idxOf t)) v) s := by
    refine h.congr (StackRegion.base_put ..) (StackRegion.size_put ..) ?_
    rw [StackRegion.cell_put, if_neg (by omega)]
  refine ⟨_, by rw [FrameLayout.writeSlot, hindex], StackRegion.changesOnly_put _ v hplace, ?_,
    fun u hne => ?_, fun q q' sp hrestore => ?_⟩
  · rw [hframe.readSlot ht, h.held_put ht ht, if_pos rfl]
  · by_cases hu : u ∈ l.slots
    · rw [hframe.readSlot hu, h.held_put ht hu, if_neg hne, h.readSlot hu]
    · rw [(refusesSlot_of_notMem hu _ s).read, (refusesSlot_of_notMem hu _ s).read]
  · rw [h.restore_held hl hnodup, Except.ok.injEq, Prod.mk.injEq] at hrestore
    obtain ⟨hsp, rfl⟩ := hrestore
    have hheld : (l.slots.map fun u => (u, l.held (region.put
        (region.place s.toNat + (1 + l.slots.idxOf t)) v) s u)) =
        l.slots.map fun u => (u, if u = t then v else l.held region s u) :=
      List.map_congr_left fun u hu => by rw [h.held_put ht hu]
    rw [hframe.restore_held hl hnodup, hsp, hheld, RegisterFile.setAll_map_update ht]

/-- Patching commutes with restoring.  Where a frame of a layout can be restored, each
slot of the layout reads as the word that restoring loads into it, and overwriting it
goes well, changes no other word, and changes what is read and restored afterwards in
this slot only.  The walk over the slots comes to the same words, and all its checks
pass.  A slot that is not in the layout is refused at any address, and a slot of the
layout where the word at the address is there and is not the tag. -/
theorem slot_patching :
    (∀ (l : FrameLayout) (region : StackRegion) (s sp : Word) (q q' : RegisterFile),
      l.slots.Nodup → (l.restore region s q).result = .ok (.ok sp, q') →
      (∀ p, (l.restore region s p).result =
        .ok (.ok sp, p.setAll (l.slots.map fun t => (t, l.held region s t)))) ∧
      ∀ t ∈ l.slots, l.readSlot region s t = .ok (l.held region s t) ∧
        l.readSlotInPlace region s t = .ok (.ok (l.held region s t)) ∧
        (t ≠ .int 0 → q'.get t = l.held region s t) ∧
        ∀ v, ∃ region', l.writeSlot region s t v = (.ok (), region') ∧
          l.writeSlotInPlace region s t v = .ok (.ok (), region') ∧
          l.Patched region s t v region') ∧
    (∀ (l : FrameLayout) (region : StackRegion) (s : Word) (t : RegisterSlot),
      t ∉ l.slots → l.RefusesSlot region s t .noSuchSlot) ∧
    ∀ (l : FrameLayout) (region : StackRegion) (s w : Word) (t : RegisterSlot),
      t ∈ l.slots → region.read s = .ok w → w ≠ l.tag →
      l.RefusesSlot region s t .kindMismatch := by
  refine ⟨fun l region s sp q q' hnodup hrestore => ?_,
    fun l region s t ht => refusesSlot_of_notMem ht region s,
    fun l region s w t ht hread hw => refusesSlot_of_ne ht hread hw⟩
  have hl := valid_of_restore hrestore
  have hframe := frameAt_of_restore hrestore
  rw [hframe.restore_held hl hnodup, Except.ok.injEq, Prod.mk.injEq, Except.ok.injEq] at hrestore
  obtain ⟨rfl, rfl⟩ := hrestore
  refine ⟨fun p => hframe.restore_held hl hnodup p, fun t ht => ?_⟩
  have hread := hframe.readSlot ht
  have haddr := hframe.addressable ht
  refine ⟨hread, (readSlotInPlace_eq haddr).trans (congrArg _ hread), fun h0 => ?_, fun v => ?_⟩
  · rw [RegisterFile.get_setAll_map (hl t ht), if_pos ⟨ht, h0⟩]
  · obtain ⟨region', hwrite, hpatched⟩ := hframe.patched hl hnodup ht v
    exact ⟨region', hwrite, (writeSlotInPlace_eq haddr v).trans (congrArg _ hwrite), hpatched⟩

/-- A layout with general register zero among its slots. -/
def zeroed : FrameLayout := ⟨.interrupted, [.int 0, .a0, .pc], [.float 3], true⟩

/-- A floating-point register and general register zero are patched in a frame that
holds sevens: the first is restored as patched, the second stays zero. -/
theorem slot_patching_zeroed :
    ∃ region₁ region₂ q', zeroed.readSlot (oddRegion.put 25 zeroed.tag) 0x10d0 (.float 3) = .ok 7 ∧
      zeroed.writeSlot (oddRegion.put 25 zeroed.tag) 0x10d0 (.float 3) 9 = (.ok (), region₁) ∧
      zeroed.writeSlot region₁ 0x10d0 (.int 0) 5 = (.ok (), region₂) ∧
      zeroed.readSlot region₂ 0x10d0 (.int 0) = .ok 5 ∧
      zeroed.readSlot region₂ 0x10d0 (.float 3) = .ok 9 ∧
      (zeroed.restore region₂ 0x10d0 .zero).result = .ok (.ok 0x1100, q') ∧
      q'.get (.float 3) = 9 ∧ q'.get .pc = 7 ∧ q'.get (.int 0) = 0 ∧
      zeroed.RefusesSlot region₂ 0x10d0 (.int 8) .noSuchSlot ∧
      zeroed.RefusesSlot oddRegion 0x10d0 .pc .kindMismatch := by
  have hframe : zeroed.FrameAt (oddRegion.put 25 zeroed.tag) 0x10d0 :=
    ⟨by decide, by decide, by decide⟩
  have hrestore := restore_eq (by decide) hframe .zero
  obtain ⟨-, hslots⟩ := slot_patching.1 zeroed _ 0x10d0 _ .zero _ (by decide) hrestore
  obtain ⟨hread, -, -, hwrite⟩ := hslots (.float 3) (by decide)
  obtain ⟨region₁, hwrite₁, -, hpatched₁⟩ := hwrite 9
  have hrestore₁ := hpatched₁.restored _ _ _ hrestore
  obtain ⟨-, hslots₁⟩ := slot_patching.1 zeroed region₁ 0x10d0 _ .zero _ (by decide) hrestore₁
  obtain ⟨-, -, -, hwrite⟩ := hslots₁ (.int 0) (by decide)
  obtain ⟨region₂, hwrite₂, -, hpatched₂⟩ := hwrite 5
  have hrestore₂ := hpatched₂.restored _ _ _ hrestore₁
  refine ⟨region₁, region₂, _, hread, hwrite₁, hwrite₂, hpatched₂.slot, ?_, hrestore₂,
    by decide, by decide, by decide, slot_patching.2.1 _ _ _ _ (by decide),
    slot_patching.2.2 _ _ _ 7 _ (by decide) (by decide) (by decide)⟩
  exact (hpatched₂.others _ (by decide)).trans hpatched₁.slot

end FrameLayout

end HartKernel
