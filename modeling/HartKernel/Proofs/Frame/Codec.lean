import HartKernel.Frame.Codec
import HartKernel.Hart.Config
import HartKernel.Proofs.Outcome
import Mathlib.Data.List.Nodup

/-!
# Frames in memory

A frame that was saved lies below the old stack pointer with its tag and its
payload, and restoring it gives the saved registers back as long as its words
are left alone.

Main definitions:

- `FrameLayout.FrameAt` says that a frame of a layout lies at an address.
- `FrameLayout.payload` is what the slots of a frame hold.

Main results:

- `FrameLayout.save_eq` and `FrameLayout.frameAt_of_save`: saving is refused or
  leaves a frame with the saved registers, and changes no word outside it.
- `FrameLayout.restore_eq` and `FrameLayout.frameAt_of_restore`: frames can be
  restored, and nothing else can.
- `FrameLayout.FrameAt.writeSlot`: where a frame may be patched without damage to
  another one.
- `RegisterFile.get_setAll` and `RegisterFile.map_get_setAll`: registers that were
  restored hold what the frame held.
-/

namespace HartKernel

namespace StackRegion

variable {r : StackRegion} {a : Nat}

/-- The word index of an address. -/
def place (r : StackRegion) (a : Nat) : Nat := (a - r.base) / 8

theorem index_eq_place {count : Nat} (h8 : a % 8 = 0) (h : r.Contains a (8 * count)) :
    r.index a count = .ok (r.place a) :=
  index_eq_ok_iff.2 ⟨h8, h, rfl⟩

/-- A word can be read exactly if its address is aligned and lies inside the region. -/
theorem read_eq_ok_iff {addr w : Word} : r.read addr = .ok w ↔
    addr.toNat % 8 = 0 ∧ r.Contains addr.toNat 8 ∧ r.cell (r.place addr.toNat) = w := by
  unfold read
  cases hindex : r.index addr.toNat 1 with
  | error e =>
    refine ⟨nofun, fun ⟨h8, hinside, _⟩ => ?_⟩
    rw [index_eq_place h8 hinside] at hindex
    cases hindex
  | ok i =>
    obtain ⟨h8, hinside, rfl⟩ := index_eq_ok_iff.1 hindex
    exact ⟨fun h => ⟨h8, hinside, Except.ok.inj h⟩, fun ⟨_, _, h⟩ => congrArg Except.ok h⟩

/-- A word that cannot be overwritten is left alone. -/
theorem eq_of_write_error {r' : StackRegion} {addr v : Word} {e : FrameError}
    (h : r.write addr v = (.error e, r')) : r' = r := by
  unfold write writeAll at h
  split at h
  · cases h
  · exact (Prod.mk.inj h).2.symm

end StackRegion

namespace FrameLayout

variable {l : FrameLayout} {region region' : StackRegion} {r : RegisterFile} {sp fsp : Word}

/-- A frame of a layout lies at an address. -/
structure FrameAt (l : FrameLayout) (region : StackRegion) (sp : Word) : Prop where
  aligned : sp.toNat % 16 = 0
  inside : region.Contains sp.toNat l.frameSize
  tag : region.cell (region.place sp.toNat) = l.tag

/-- What the slots of the frame at an address hold. -/
def payload (l : FrameLayout) (region : StackRegion) (sp : Word) : List Word :=
  region.cells (region.place sp.toNat + 1) l.slots.length

theorem frameWords_pos (l : FrameLayout) : 0 < l.frameWords :=
  Nat.zero_lt_of_lt l.length_slots_lt_frameWords

namespace FrameAt

theorem index_frame (h : l.FrameAt region sp) :
    region.index sp.toNat l.frameWords = .ok (region.place sp.toNat) := by
  have haligned := h.aligned
  have hinside := h.inside
  rw [frameSize, Nat.mul_comm] at hinside
  exact StackRegion.index_eq_place (by omega) hinside

theorem read_tag (h : l.FrameAt region sp) : region.read sp = .ok l.tag := by
  have haligned := h.aligned
  obtain ⟨hbase, htop⟩ := h.inside
  have hpos := l.frameWords_pos
  rw [frameSize] at htop
  rw [StackRegion.read, StackRegion.index_eq_place (by omega) ⟨hbase, by omega⟩]
  exact congrArg Except.ok h.tag

/-- Whether a frame lies at an address depends on the words of the frame only. -/
theorem congr (h : l.FrameAt region sp) (hbase : region'.base = region.base)
    (hsize : region'.size = region.size)
    (hcell : region'.cell (region.place sp.toNat) = region.cell (region.place sp.toNat)) :
    l.FrameAt region' sp := by
  have hplace : region'.place sp.toNat = region.place sp.toNat := by
    rw [StackRegion.place, hbase, StackRegion.place]
  obtain ⟨hlow, hhigh⟩ := h.inside
  refine ⟨h.aligned, ⟨hbase ▸ hlow, ?_⟩, ?_⟩
  · rw [StackRegion.top, StackRegion.byteSize, hbase, hsize]
    exact hhigh
  · rw [hplace, hcell]
    exact h.tag

end FrameAt

/-! ## Saving -/

/-- The words of a frame that lies inside the region do. -/
theorem place_add_frameWords_le {a : Nat} (h8 : a % 8 = 0)
    (h : region.Contains a l.frameSize) : region.place a + l.frameWords ≤ region.size := by
  rw [frameSize, Nat.mul_comm] at h
  exact StackRegion.add_le_size_of_index (StackRegion.index_eq_place h8 h)

/-- Saving is refused without a trace, or overwrites the words of the frame. -/
theorem save_eq (hl : l.Valid) (r : RegisterFile) (region : StackRegion) (sp : Word) :
    (∃ e, (l.save r region sp).result = .ok (.error e, region)) ∨
      sp.toNat % 16 = 0 ∧ region.Contains (sp.toNat - l.frameSize) l.frameSize ∧
      l.frameSize ≤ sp.toNat ∧
      (l.save r region sp).result = .ok (.ok (BitVec.ofNat 64 (sp.toNat - l.frameSize)),
        region.putAll (region.place (sp.toNat - l.frameSize)) (l.image r)) := by
  have hmod := l.frameSize_mod
  have hsize : l.frameSize = 8 * l.frameWords := Nat.mul_comm _ _
  unfold save
  by_cases haligned : sp.toNat % 16 ≠ 0
  · rw [if_pos haligned]
    exact .inl ⟨_, rfl⟩
  · rw [if_neg haligned]
    by_cases hregion : region.top < sp.toNat ∨ sp.toNat < region.base
    · rw [if_pos hregion]
      exact .inl ⟨_, rfl⟩
    · rw [if_neg hregion]
      by_cases hroom : sp.toNat < region.base + l.frameSize
      · rw [if_pos hroom]
        exact .inl ⟨_, rfl⟩
      · rw [if_neg hroom]
        have hinside : region.Contains (sp.toNat - l.frameSize) l.frameSize :=
          ⟨by omega, by omega⟩
        have hindex : region.index (sp.toNat - l.frameSize) l.frameWords =
            .ok (region.place (sp.toNat - l.frameSize)) :=
          StackRegion.index_eq_place (by omega) (hsize ▸ hinside)
        refine .inr ⟨by omega, hinside, by omega, ?_⟩
        simp only [hindex]
        simp [Panic.require_of hl]

/-- Saving a frame that is refused leaves the region as it is. -/
theorem region_of_save_error {e : FrameError}
    (h : (l.save r region sp).result = .ok (.error e, region')) : region' = region := by
  unfold save at h
  split at h
  · cases h
    rfl
  · split at h
    · cases h
      rfl
    · split at h
      · cases h
        rfl
      · dsimp only at h
        split at h
        · cases h
          rfl
        · obtain ⟨u, -, h⟩ := Traced.bind_eq_ok.1 h
          obtain ⟨v, -, h⟩ := Traced.bind_eq_ok.1 h
          cases h

/-- A saved frame lies below the old stack pointer and holds the registers. -/
theorem frameAt_of_save (hl : l.Valid)
    (h : (l.save r region sp).result = .ok (.ok fsp, region')) :
    l.FrameAt region' fsp ∧ l.payload region' fsp = l.slots.map r.get ∧
      fsp.toNat + l.frameSize = sp.toNat ∧ region'.base = region.base ∧
      region'.size = region.size := by
  rcases save_eq hl r region sp with ⟨e, he⟩ | ⟨haligned, hinside, hle, hok⟩
  · rw [he] at h
    cases h
  · rw [hok] at h
    obtain ⟨hfsp, hregion'⟩ : BitVec.ofNat 64 (sp.toNat - l.frameSize) = fsp ∧
        region.putAll (region.place (sp.toNat - l.frameSize)) (l.image r) = region' := by
      simpa using h
    have hmod := l.frameSize_mod
    have hslots := l.length_slots_lt_frameWords
    have hnat : fsp.toNat = sp.toNat - l.frameSize := by
      rw [← hfsp, BitVec.toNat_ofNat, Nat.mod_eq_of_lt]
      exact Nat.lt_of_le_of_lt (Nat.sub_le _ _) sp.isLt
    have hbase : region'.base = region.base := by rw [← hregion', StackRegion.base_putAll]
    have hsize : region'.size = region.size := by rw [← hregion', StackRegion.size_putAll]
    have hplace : region'.place fsp.toNat = region.place (sp.toNat - l.frameSize) := by
      rw [StackRegion.place, hbase, hnat, StackRegion.place]
    have hfit : region.place (sp.toNat - l.frameSize) + (l.image r).length ≤ region.size := by
      rw [length_image]
      exact place_add_frameWords_le (by omega) hinside
    have hcell : ∀ j < l.frameWords, region'.cell (region'.place fsp.toNat + j) =
        (l.image r)[j]?.getD 0 := by
      intro j hj
      rw [hplace, ← hregion', StackRegion.cell_putAll _ _ _ _ hfit, length_image,
        if_pos ⟨Nat.le_add_right _ _, Nat.add_lt_add_left hj _⟩, Nat.add_sub_cancel_left]
    refine ⟨⟨by omega, ?_, ?_⟩, ?_, by omega, hbase, hsize⟩
    · rw [hnat]
      obtain ⟨hlow, hhigh⟩ := hinside
      refine ⟨hbase ▸ hlow, ?_⟩
      rw [StackRegion.top, StackRegion.byteSize, hbase, hsize]
      exact hhigh
    · exact hcell 0 l.frameWords_pos
    · apply List.ext_getElem
      · simp [payload, StackRegion.cells]
      · intro j hj _
        have hj' : j < l.slots.length := by simpa [payload, StackRegion.cells] using hj
        have hword := hcell (1 + j) (by omega)
        rw [← Nat.add_assoc, image, Nat.add_comm 1 j, List.getElem?_cons_succ,
          List.getElem?_append_left (by simpa using hj')] at hword
        simpa [payload, StackRegion.cells, hj'] using hword

/-! ## Restoring -/

/-- A frame can always be restored. -/
theorem restore_eq (hl : l.Valid) (h : l.FrameAt region sp) (r : RegisterFile) :
    (l.restore region sp r).result = .ok (.ok (BitVec.ofNat 64 (sp.toNat + l.frameSize)),
      r.setAll (l.slots.zip (l.payload region sp))) := by
  have htag : l.checkTag region sp = .ok () := by
    rw [checkTag, h.read_tag, ok_bind, if_pos rfl]
  unfold restore
  rw [if_neg (not_not.2 h.aligned), htag]
  simp only [h.index_frame]
  simp [Panic.require_of hl, payload]

/-- Loading a frame that is refused leaves the registers as they are. -/
theorem regs_of_restore_error {r r' : RegisterFile} {e : FrameError}
    (h : (l.restore region sp r).result = .ok (.error e, r')) : r' = r := by
  unfold restore at h
  split at h
  · cases h
    rfl
  · split at h
    · cases h
      rfl
    · split at h
      · cases h
        rfl
      · obtain ⟨u, -, h⟩ := Traced.bind_eq_ok.1 h
        obtain ⟨v, -, h⟩ := Traced.bind_eq_ok.1 h
        cases h

/-- Restoring is refused or goes well. -/
theorem exists_restore (hl : l.Valid) (region : StackRegion) (sp : Word) (r : RegisterFile) :
    ∃ answer r', (l.restore region sp r).result = .ok (answer, r') := by
  unfold restore
  split
  · exact ⟨_, _, rfl⟩
  · split
    · exact ⟨_, _, rfl⟩
    · split
      · exact ⟨_, _, rfl⟩
      · simp [Panic.require_of hl]

/-- What was restored was a frame of the layout. -/
theorem frameAt_of_restore {q r' : RegisterFile} {sp' : Word}
    (h : (l.restore region sp q).result = .ok (.ok sp', r')) : l.FrameAt region sp := by
  unfold restore at h
  split at h
  · cases h
  · rename_i haligned
    split at h
    · cases h
    · rename_i hcheck
      split at h
      · cases h
      · rename_i i hindex
        obtain ⟨-, hinside, -⟩ := StackRegion.index_eq_ok_iff.1 hindex
        refine ⟨not_not.1 haligned, ?_, ?_⟩
        · rwa [frameSize, Nat.mul_comm]
        · -- the tag was read from the first word of the frame
          obtain ⟨word, hread, htag⟩ := bind_eq_ok_iff.1 hcheck
          split at htag
          · rename_i hword
            exact (StackRegion.read_eq_ok_iff.1 hread).2.2.trans hword
          · cases htag

/-- A frame lies inside its region, so the addresses above it are addresses. -/
theorem FrameAt.toNat_above (h : l.FrameAt region sp) :
    (BitVec.ofNat 64 (sp.toNat + l.frameSize)).toNat = sp.toNat + l.frameSize := by
  have hlt : region.top < 0x10000000000000000 := region.top_lt
  rw [BitVec.toNat_ofNat, Nat.mod_eq_of_lt (Nat.lt_of_le_of_lt h.inside.2 hlt)]

/-! ## Patching -/

/-- Patching a slot at an odd distance from an aligned address damages no frame:
frames are aligned, and so are their tags. -/
theorem FrameAt.writeSlot (h : l.FrameAt region fsp) {l' : FrameLayout} {slot : RegisterSlot}
    {offset : Nat} (hoffset : l'.slotOffset? slot = some offset) (hodd : offset % 2 = 1)
    (haligned : sp.toNat % 16 = 0) (v : Word) :
    l.FrameAt (l'.writeSlot region sp slot v).2 fsp := by
  unfold FrameLayout.writeSlot
  split
  · exact h
  · rename_i i hi
    rw [slotIndex, hoffset] at hi
    obtain ⟨u, -, hi⟩ := bind_eq_ok_iff.1 hi
    obtain ⟨-, ⟨hlow, -⟩, hplace⟩ := StackRegion.index_eq_ok_iff.1 hi
    refine h.congr (StackRegion.base_put ..) (StackRegion.size_put ..) ?_
    rw [StackRegion.cell_put, if_neg]
    rintro ⟨hsame, -⟩
    have hframe := h.aligned
    have hbelow := h.inside.1
    have hbase := region.base_aligned
    rw [StackRegion.place] at hsame
    omega

end FrameLayout

/-! ## Registers that were restored -/

namespace RegisterFile

/-- A register that is not assigned keeps its value. -/
theorem get_setAll_of_notMem {values : List (RegisterSlot × Word)} {s : RegisterSlot}
    (hs : s ∉ values.map Prod.fst) (q : RegisterFile) : (q.setAll values).get s = q.get s := by
  induction values generalizing q with
  | nil => rfl
  | cons a values ih =>
    rw [List.map_cons, List.mem_cons, not_or] at hs
    have hlater := ih hs.2 (q.set a.1 a.2)
    rw [setAll, List.foldl_cons, ← setAll, hlater]
    exact get_set_of_ne hs.1

/-- Registers that are assigned the values of another file hold them. -/
theorem get_setAll {slots : List RegisterSlot} {s : RegisterSlot} (hs : s ∈ slots)
    (hexists : s.Exists) (h0 : s ≠ .int 0) (r q : RegisterFile) :
    (q.setAll (slots.zip (slots.map r.get))).get s = r.get s := by
  induction slots generalizing q with
  | nil => exact absurd hs List.not_mem_nil
  | cons a slots ih =>
    rw [List.map_cons, List.zip_cons_cons, setAll, List.foldl_cons, ← setAll]
    by_cases hlater : s ∈ slots
    · exact ih hlater (q.set a (r.get a))
    · obtain rfl : s = a := (List.mem_cons.1 hs).resolve_right hlater
      rw [get_setAll_of_notMem]
      · exact get_set_self hexists h0
      · rwa [List.map_fst_zip (by simp)]

/-- Distinct registers hold the words that they are assigned. -/
theorem map_get_setAll {slots : List RegisterSlot} {words : List Word} (hnodup : slots.Nodup)
    (hexists : ∀ s ∈ slots, s.Exists) (h0 : .int 0 ∉ slots) (hlength : slots.length = words.length)
    (q : RegisterFile) : slots.map (q.setAll (slots.zip words)).get = words := by
  induction slots generalizing words q with
  | nil => exact (List.length_eq_zero_iff.1 hlength.symm).symm
  | cons a slots ih =>
    obtain ⟨v, words, rfl⟩ := List.exists_cons_of_length_eq_add_one hlength.symm
    obtain ⟨ha, hnodup'⟩ := List.nodup_cons.1 hnodup
    have hlater := ih hnodup' (fun s hs => hexists s (List.mem_cons_of_mem _ hs))
      (fun hs => h0 (List.mem_cons_of_mem _ hs)) (Nat.succ.inj hlength) (q.set a v)
    have hfirst : ((q.set a v).setAll (slots.zip words)).get a = v := by
      rw [get_setAll_of_notMem]
      · exact get_set_self (hexists a List.mem_cons_self) fun e => h0 (e ▸ List.mem_cons_self)
      · rwa [List.map_fst_zip (Nat.le_of_eq (Nat.succ.inj hlength))]
    rw [List.zip_cons_cons, setAll, List.foldl_cons, ← setAll, List.map_cons, hfirst, hlater]

end RegisterFile

/-! ## The standard layouts -/

namespace FrameLayouts

variable {region : StackRegion} {sp : Word}

theorem valid_standard (fp : Bool) (kind : FrameKind) : ((standard fp).layout kind).Valid := by
  cases fp <;> cases kind <;> decide

theorem nodup_standard (fp : Bool) (kind : FrameKind) :
    ((standard fp).layout kind).slots.Nodup := by
  cases fp <;> cases kind <;> decide

/-- The zero register and the stack pointer are in no frame. -/
theorem notMem_standard (fp : Bool) (kind : FrameKind) :
    .int 0 ∉ ((standard fp).layout kind).slots ∧ .sp ∉ ((standard fp).layout kind).slots := by
  cases fp <;> cases kind <;> decide

/-- Where the program counter and the first argument of an interrupted thread
lie. -/
theorem slotOffset?_standard (fp : Bool) :
    (standard fp).interrupted.slotOffset? .pc = some 31 ∧
      (standard fp).interrupted.slotOffset? .a0 = some 9 := by
  cases fp <;> decide

/-- The tag of a frame tells its variant. -/
theorem peekKind_eq {fp : Bool} {kind : FrameKind}
    (h : ((standard fp).layout kind).FrameAt region sp) :
    (standard fp).peekKind region sp = .ok kind := by
  have hne : (standard fp).cooperative.tag ≠ (standard fp).interrupted.tag := by
    cases fp <;> decide
  unfold peekKind
  rw [h.read_tag, ok_bind]
  cases kind with
  | interrupted => exact if_pos rfl
  | cooperative => exact (if_neg hne).trans (if_pos rfl)

end FrameLayouts

namespace Config

theorem valid_layout (cfg : Config) (kind : FrameKind) : (cfg.layouts.layout kind).Valid :=
  FrameLayouts.valid_standard cfg.includeFp kind

theorem valid_cooperative (cfg : Config) : cfg.layouts.cooperative.Valid :=
  cfg.valid_layout .cooperative

end Config

end HartKernel
