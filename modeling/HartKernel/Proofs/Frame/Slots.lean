import HartKernel.Proofs.Frame.Codec

/-!
# Slots of a saved frame

A saved frame holds one word for each slot.  Reading a slot gives the register
that was saved, and overwriting a slot gives the frame that saving the changed
registers would have left.  Neither a frame pushed further down nor a slot
overwritten further down touches the words above.

Main definitions:

- `StackRegion.AgreeFrom` compares two regions from an address upward.
- `FrameLayout.Stores` says that a frame holds given registers.
- `FrameLayout.Fits` says that a frame can be pushed below a stack pointer.
- `FrameLayout.Loaded` compares registers before and after a frame is loaded.

Main results:

- `FrameLayout.save_of_fits` and `FrameLayout.refuses_of_not_fits`: saving goes
  well exactly if the frame fits.
- `FrameLayout.Stores.readSlot` and `FrameLayout.Stores.writeSlot`: what is read
  from a slot, and what overwriting it means.
- `FrameLayout.Stores.of_agreeFrom`: a frame depends on the words above its
  address only.
- `FrameLayout.FrameAt.loaded`: which registers loading a frame changes.
-/

namespace HartKernel

namespace StackRegion

variable {a b i : Nat} {region region' region'' : StackRegion} {addr v : Word}

/-! ## Words above an address -/

/-- Two regions lie at the same place and agree from an address upward. -/
structure AgreeFrom (a : Nat) (region region' : StackRegion) : Prop where
  base : region'.base = region.base
  size : region'.size = region.size
  cell : ∀ i, a ≤ region.base + 8 * i → region'.cell i = region.cell i

theorem AgreeFrom.refl (a : Nat) (region : StackRegion) : AgreeFrom a region region :=
  ⟨rfl, rfl, fun _ _ => rfl⟩

theorem AgreeFrom.trans (h : AgreeFrom a region region') (h' : AgreeFrom a region' region'') :
    AgreeFrom a region region'' := by
  refine ⟨h'.base.trans h.base, h'.size.trans h.size, fun i hi => ?_⟩
  exact (h'.cell i (by rw [h.base]; exact hi)).trans (h.cell i hi)

theorem AgreeFrom.mono (h : AgreeFrom a region region') (hle : a ≤ b) :
    AgreeFrom b region region' :=
  ⟨h.base, h.size, fun i hi => h.cell i (Nat.le_trans hle hi)⟩

/-- Whether a range is accepted depends on the extent of the region only. -/
theorem index_congr (hbase : region'.base = region.base) (hsize : region'.size = region.size)
    (addr count : Nat) : region'.index addr count = region.index addr count := by
  have hcontains : region'.Contains addr (8 * count) ↔ region.Contains addr (8 * count) := by
    simp only [Contains, top, byteSize, hbase, hsize]
  simp only [index, hbase, hcontains]

theorem AgreeFrom.alignedTop (h : AgreeFrom a region region') :
    region'.alignedTop = region.alignedTop := by
  rw [StackRegion.alignedTop, top, byteSize, h.base, h.size]
  rfl

/-- Reading at the address or above it gives the same. -/
theorem AgreeFrom.read (h : AgreeFrom a region region') (ha : a ≤ addr.toNat) :
    region'.read addr = region.read addr := by
  unfold StackRegion.read
  rw [index_congr h.base h.size]
  cases hindex : region.index addr.toNat 1 with
  | error e => rfl
  | ok i =>
    obtain ⟨h8, ⟨hlow, -⟩, rfl⟩ := index_eq_ok_iff.1 hindex
    have hbase := region.base_aligned
    exact congrArg Except.ok (h.cell _ (by omega))

/-- Overwriting a word changes nothing above it. -/
theorem agreeFrom_put (v : Word) (hi : region.base + 8 * i < a) :
    AgreeFrom a region (region.put i v) := by
  refine ⟨base_put .., size_put .., fun j hj => ?_⟩
  rw [cell_put, if_neg]
  rintro ⟨rfl, -⟩
  omega

/-- Writing does not move a region. -/
theorem alignedTop_write (region : StackRegion) (addr v : Word) :
    (region.write addr v).2.alignedTop = region.alignedTop := by
  unfold write writeAll
  split
  · rw [alignedTop, top_putAll, alignedTop]
  · rfl

/-- A word that is there can be written, and read afterwards. -/
theorem exists_write (h : region.index addr.toNat 1 = .ok i) (v : Word) :
    ∃ region', region.write addr v = (.ok (), region') ∧
      region'.alignedTop = region.alignedTop ∧ region'.read addr = .ok v := by
  have hin := add_le_size_of_index h
  refine ⟨region.putAll i [v], ?_, ?_, ?_⟩
  · simp [write, writeAll, h]
  · rw [alignedTop, top_putAll, alignedTop]
  · rw [read, index_congr (base_putAll ..) (size_putAll ..), h]
    refine congrArg Except.ok ?_
    rw [cell_putAll _ _ _ _ (by simpa using hin), if_pos (by simp)]
    simp

end StackRegion

namespace FrameLayout

variable {l : FrameLayout} {region region' : StackRegion} {r : RegisterFile} {sp fsp v : Word}
variable {s : RegisterSlot} {offset j : Nat}

/-! ## Pushing a frame -/

/-- A frame can be pushed below a stack pointer. -/
def Fits (l : FrameLayout) (region : StackRegion) (sp : Word) : Prop :=
  sp.toNat % 16 = 0 ∧ region.base ≤ sp.toNat ∧ sp.toNat ≤ region.top ∧
    l.frameSize ≤ sp.toNat - region.base

instance (l : FrameLayout) (region : StackRegion) (sp : Word) : Decidable (l.Fits region sp) :=
  inferInstanceAs (Decidable (_ ∧ _))

/-- A frame that fits is saved. -/
theorem save_of_fits (hl : l.Valid) (h : l.Fits region sp) (r : RegisterFile) :
    ∃ fsp region', (l.save r region sp).result = .ok (.ok fsp, region') := by
  obtain ⟨haligned, hlow, hhigh, hroom⟩ := h
  have hmod := l.frameSize_mod
  have hindex : region.index (sp.toNat - l.frameSize) l.frameWords =
      .ok (region.place (sp.toNat - l.frameSize)) := by
    refine StackRegion.index_eq_place (by omega) ⟨by omega, ?_⟩
    have hsize : l.frameSize = 8 * l.frameWords := Nat.mul_comm _ _
    omega
  unfold save
  rw [if_neg (by omega), if_neg (by omega), if_neg (by omega)]
  simp only [hindex]
  simp [Panic.require_of hl]

/-- A frame that does not fit is refused, and the region stays as it is. -/
theorem refuses_of_not_fits (h : ¬l.Fits region sp) (r : RegisterFile) :
    ∃ e, (l.save r region sp).result = .ok (.error e, region) := by
  unfold save
  by_cases haligned : sp.toNat % 16 ≠ 0
  · rw [if_pos haligned]
    exact ⟨_, rfl⟩
  · rw [if_neg haligned]
    by_cases hregion : region.top < sp.toNat ∨ sp.toNat < region.base
    · rw [if_pos hregion]
      exact ⟨_, rfl⟩
    · rw [if_neg hregion]
      by_cases hroom : sp.toNat < region.base + l.frameSize
      · rw [if_pos hroom]
        exact ⟨_, rfl⟩
      · exact absurd ⟨by omega, by omega, by omega, by omega⟩ h

/-- Saving changes nothing at the old stack pointer and above it. -/
theorem agreeFrom_of_save (hl : l.Valid)
    (h : (l.save r region sp).result = .ok (.ok fsp, region')) :
    StackRegion.AgreeFrom sp.toNat region region' := by
  rcases save_eq hl r region sp with ⟨e, he⟩ | ⟨haligned, hinside, hle, hok⟩
  · rw [he] at h
    cases h
  · rw [hok] at h
    cases h
    have hsize : l.frameSize = 8 * l.frameWords := Nat.mul_comm _ _
    have hmod := l.frameSize_mod
    have hbase := region.base_aligned
    have hfit : region.place (sp.toNat - l.frameSize) + (l.image r).length ≤ region.size := by
      rw [length_image]
      exact place_add_frameWords_le (by omega) hinside
    refine ⟨StackRegion.base_putAll .., StackRegion.size_putAll .., fun i hi => ?_⟩
    rw [StackRegion.cell_putAll _ _ _ _ hfit, if_neg]
    rw [length_image, StackRegion.place]
    obtain ⟨hlow, -⟩ := hinside
    omega

/-! ## Frames that hold registers -/

/-- A frame at an address holds given registers. -/
structure Stores (l : FrameLayout) (region : StackRegion) (sp : Word) (r : RegisterFile) :
    Prop where
  frame : l.FrameAt region sp
  payload : l.payload region sp = l.slots.map r.get

theorem stores_of_save (hl : l.Valid)
    (h : (l.save r region sp).result = .ok (.ok fsp, region')) : l.Stores region' fsp r := by
  obtain ⟨hframe, hpayload, -⟩ := frameAt_of_save hl h
  exact ⟨hframe, hpayload⟩

/-- The payload is the registers if each of its words is. -/
theorem payload_eq_iff :
    l.payload region sp = l.slots.map r.get ↔ ∀ j (hj : j < l.slots.length),
      region.cell (region.place sp.toNat + (1 + j)) = r.get l.slots[j] := by
  constructor
  · intro h j hj
    have hword := congrArg (fun ws => ws[j]?) h
    simpa [payload, StackRegion.cells, hj, Nat.add_assoc] using hword
  · intro h
    apply List.ext_getElem
    · simp [payload, StackRegion.cells]
    · intro j hj _
      have hj' : j < l.slots.length := by simpa [payload, StackRegion.cells] using hj
      simpa [payload, StackRegion.cells, Nat.add_assoc] using h j hj'

/-- The words of a frame lie inside the region. -/
theorem FrameAt.place_add_lt (h : l.FrameAt region sp) (hoffset : offset < l.frameWords) :
    region.base + 8 * (region.place sp.toNat + offset) = sp.toNat + 8 * offset ∧
      region.place sp.toNat + offset < region.size := by
  have hfit := StackRegion.add_le_size_of_index h.index_frame
  have haligned := h.aligned
  have hlow := h.inside.1
  have hbase := region.base_aligned
  rw [StackRegion.place] at hfit ⊢
  omega

/-- A frame depends on the words from its address upward only. -/
theorem Stores.of_agreeFrom {a : Nat} (h : l.Stores region sp r)
    (hagree : StackRegion.AgreeFrom a region region') (ha : a ≤ sp.toNat) :
    l.Stores region' sp r := by
  have hplace : region'.place sp.toNat = region.place sp.toNat := by
    rw [StackRegion.place, hagree.base, StackRegion.place]
  have hcell : ∀ k < l.frameWords, region'.cell (region.place sp.toNat + k) =
      region.cell (region.place sp.toNat + k) := by
    intro k hk
    refine hagree.cell _ ?_
    rw [(h.frame.place_add_lt hk).1]
    omega
  have hslots := l.length_slots_lt_frameWords
  refine ⟨h.frame.congr hagree.base hagree.size (hcell 0 l.frameWords_pos), ?_⟩
  rw [payload_eq_iff]
  intro j hj
  rw [hplace, hcell _ (by omega)]
  exact payload_eq_iff.1 h.payload j hj

/-! ## Slots -/

/-- A slot of a layout has a place in its frames. -/
theorem exists_slotOffset? (hs : s ∈ l.slots) :
    ∃ j, ∃ hj : j < l.slots.length, l.slots[j] = s ∧ l.slotOffset? s = some (1 + j) := by
  obtain ⟨j, hindex⟩ := Option.isSome_iff_exists.1 (List.isSome_idxOf?.2 hs)
  obtain ⟨hj, hslot, -⟩ := List.idxOf?_eq_some_iff.1 hindex
  exact ⟨j, hj, hslot, by rw [slotOffset?, hindex, Option.map_some]⟩

/-- The word of a slot of a frame. -/
theorem FrameAt.slotIndex (h : l.FrameAt region sp) (hoffset : l.slotOffset? s = some offset)
    (hlt : offset < l.frameWords) :
    l.slotIndex region sp s = .ok (region.place sp.toNat + offset) := by
  have htag : l.checkTag region sp = .ok () := by
    rw [checkTag, h.read_tag, ok_bind, if_pos rfl]
  have haligned := h.aligned
  obtain ⟨hplace, hin⟩ := h.place_add_lt hlt
  simp only [FrameLayout.slotIndex, hoffset, htag, ok_bind, RegisterSlot.words]
  rw [StackRegion.index_eq_ok_iff]
  have hbase := region.base_aligned
  refine ⟨by omega, ⟨by omega, ?_⟩, by omega⟩
  rw [StackRegion.top, StackRegion.byteSize]
  omega

/-- Reading a slot gives the register that the frame holds. -/
theorem Stores.readSlot (h : l.Stores region sp r) (hs : s ∈ l.slots) :
    l.readSlot region sp s = .ok (r.get s) := by
  obtain ⟨j, hj, rfl, hoffset⟩ := exists_slotOffset? hs
  have hslots := l.length_slots_lt_frameWords
  rw [FrameLayout.readSlot, h.frame.slotIndex hoffset (by omega)]
  exact congrArg Except.ok (payload_eq_iff.1 h.payload j hj)

/-- Overwriting a slot leaves a frame that holds the changed registers, and
nothing above the frame is changed. -/
theorem Stores.writeSlot (h : l.Stores region sp r) (hs : s ∈ l.slots) (hnodup : l.slots.Nodup)
    (hexists : s.Exists) (h0 : s ≠ .int 0) (v : Word) :
    ∃ region', l.writeSlot region sp s v = (.ok (), region') ∧ l.Stores region' sp (r.set s v) ∧
      StackRegion.AgreeFrom (sp.toNat + l.frameSize) region region' := by
  obtain ⟨j, hj, rfl, hoffset⟩ := exists_slotOffset? hs
  have hslots := l.length_slots_lt_frameWords
  have hinside : 1 + j < l.frameWords := by omega
  obtain ⟨hplace, hin⟩ := h.frame.place_add_lt hinside
  have hsize : l.frameSize = 8 * l.frameWords := Nat.mul_comm _ _
  have hsame : (region.put (region.place sp.toNat + (1 + j)) v).place sp.toNat =
      region.place sp.toNat := rfl
  refine ⟨region.put (region.place sp.toNat + (1 + j)) v, ?_, ⟨?_, ?_⟩, ?_⟩
  · rw [FrameLayout.writeSlot, h.frame.slotIndex hoffset (by omega)]
  · refine h.frame.congr (StackRegion.base_put ..) (StackRegion.size_put ..) ?_
    rw [StackRegion.cell_put, if_neg (by omega)]
  · rw [payload_eq_iff]
    intro k hk
    rw [hsame, StackRegion.cell_put]
    by_cases hjk : j = k
    · subst hjk
      rw [if_pos ⟨rfl, hin⟩, RegisterFile.get_set_self hexists h0]
    · have hne : l.slots[k] ≠ l.slots[j] := fun he => hjk (hnodup.getElem_inj_iff.1 he).symm
      rw [if_neg (by omega), RegisterFile.get_set_of_ne hne]
      exact payload_eq_iff.1 h.payload k hk
  · exact StackRegion.agreeFrom_put v (by omega)

/-- Overwriting a slot leaves the places of all slots, because it leaves the tag
alone. -/
theorem slotIndex_put (h : l.slotIndex region sp s = .ok j) (s' : RegisterSlot) (v : Word) :
    l.slotIndex (region.put j v) sp s' = l.slotIndex region sp s' := by
  have htag : l.checkTag (region.put j v) sp = l.checkTag region sp := by
    unfold slotIndex at h
    cases hoffset : l.slotOffset? s with
    | none => simp [hoffset] at h
    | some offset =>
      obtain ⟨k, -, rfl⟩ := Option.map_eq_some_iff.1 hoffset
      simp only [hoffset] at h
      obtain ⟨u, -, hj⟩ := bind_eq_ok_iff.1 h
      obtain ⟨-, -, rfl⟩ := StackRegion.index_eq_ok_iff.1 hj
      unfold checkTag StackRegion.read
      rw [StackRegion.index_congr (StackRegion.base_put ..) (StackRegion.size_put ..)]
      cases hindex : region.index sp.toNat 1 with
      | error e => rfl
      | ok i =>
        obtain ⟨h8, ⟨hlow, -⟩, rfl⟩ := StackRegion.index_eq_ok_iff.1 hindex
        have hbase := region.base_aligned
        have hcell : (region.put ((sp.toNat + 8 * (1 + k) - region.base) / 8) v).cell
            ((sp.toNat - region.base) / 8) = region.cell ((sp.toNat - region.base) / 8) := by
          rw [StackRegion.cell_put, if_neg (by omega)]
        simp only [Except.map, hcell]
  unfold slotIndex
  rw [htag]
  cases l.slotOffset? s' with
  | none => rfl
  | some offset =>
    simp only [StackRegion.index_congr (StackRegion.base_put ..) (StackRegion.size_put ..)]

/-- Restoring a frame gives the registers that it holds. -/
theorem Stores.restore (h : l.Stores region sp r) (hl : l.Valid) (hzero : .int 0 ∉ l.slots)
    (q : RegisterFile) :
    ∃ q', (l.restore region sp q).result =
        .ok (.ok (BitVec.ofNat 64 (sp.toNat + l.frameSize)), q') ∧
      ∀ s ∈ l.slots, q'.get s = r.get s := by
  refine ⟨_, restore_eq hl h.frame q, fun s hs => ?_⟩
  rw [h.payload]
  exact RegisterFile.get_setAll hs (hl s hs) (fun e => hzero (e ▸ hs)) r q

/-- Registers were loaded from a frame: they hold what the slots of the frame hold,
the stack pointer is just above the frame, and all other registers are as before. -/
structure Loaded (l : FrameLayout) (region : StackRegion) (fsp : Word) (r r' : RegisterFile) :
    Prop where
  frame : l.FrameAt region fsp
  above : r'.sp.toNat = fsp.toNat + l.frameSize
  slots : ∀ s ∈ l.slots, l.readSlot region fsp s = .ok (r'.get s)
  others : ∀ s, s ∉ l.slots → s ≠ .sp → r'.get s = r.get s

/-- What restoring a frame and moving the stack pointer above it do. -/
theorem FrameAt.loaded (h : l.FrameAt region fsp) (hl : l.Valid) (hnodup : l.slots.Nodup)
    (hzero : .int 0 ∉ l.slots) (hsp : .sp ∉ l.slots) (r : RegisterFile) :
    l.Loaded region fsp r ((r.setAll (l.slots.zip (l.payload region fsp))).setSp
      (BitVec.ofNat 64 (fsp.toNat + l.frameSize))) := by
  have hlength : l.slots.length = (l.payload region fsp).length := by
    simp [payload, StackRegion.cells]
  have hstores : l.Stores region fsp (r.setAll (l.slots.zip (l.payload region fsp))) :=
    ⟨h, (RegisterFile.map_get_setAll hnodup hl hzero hlength r).symm⟩
  refine ⟨h, ?_, fun s hs => ?_, fun s hs hne => ?_⟩
  · rw [RegisterFile.sp_setSp, h.toNat_above]
  · have hne : s ≠ .sp := fun e => hsp (e ▸ hs)
    rw [← RegisterFile.set_sp, RegisterFile.get_set_of_ne hne]
    exact hstores.readSlot hs
  · rw [← RegisterFile.set_sp, RegisterFile.get_set_of_ne hne, RegisterFile.get_setAll_of_notMem]
    rwa [List.map_fst_zip (Nat.le_of_eq hlength)]

end FrameLayout

end HartKernel
