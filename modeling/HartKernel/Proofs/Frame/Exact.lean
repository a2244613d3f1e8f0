import HartKernel.Proofs.Frame.Footprint
import HartKernel.Proofs.Frame.InPlace

/-!
# What saving does, exactly

A trap can find any value in the stack pointer.  Saving a frame checks it first, and
its answer tells which check has failed; after the checks nothing can go wrong any
more.  Then the words between the new stack pointer and the old one are overwritten,
and no other ones.

Main definitions:

- `FrameLayout.Written` says that a frame was written below a stack pointer.

Main results:

- `FrameLayout.written_of_save`: what a save that went well has done.
- `FrameLayout.save_answer`: what a save answers.
- `FrameLayout.save_exact`: for any stack pointer and any region, saving answers,
  refuses without a trace, and writes exactly what it should.
-/

namespace HartKernel

namespace FrameLayout

variable {l : FrameLayout} {region region' : StackRegion} {r : RegisterFile} {sp fsp a : Word}
variable {answer : Except FrameError Word}

/-! ## What was written -/

/-- A frame was written below a stack pointer: it takes the words from its own address
up to the stack pointer, and no other word has changed. -/
structure Written (l : FrameLayout) (r : RegisterFile) (region : StackRegion) (sp fsp : Word)
    (region' : StackRegion) : Prop where
  below : fsp.toNat + l.frameSize = sp.toNat
  aligned : fsp.toNat % 16 = 0
  inside : region.Contains fsp.toNat l.frameSize
  words : region'.cells (region.place fsp.toNat) l.frameWords = l.image r
  changes : region.ChangesOnly (fun a => fsp.toNat ≤ a ∧ a < sp.toNat) region'

/-- All slots of a saved frame name registers. -/
theorem valid_of_save (h : (l.save r region sp).result = .ok (.ok fsp, region')) : l.Valid := by
  unfold save at h
  split at h
  · cases h
  · split at h
    · cases h
    · split at h
      · cases h
      · dsimp only at h
        split at h
        · cases h
        · obtain ⟨u, hvalid, -⟩ := Traced.bind_eq_ok.1 h
          exact Panic.require_eq_ok_iff.1 hvalid

/-- What a save that went well has done. -/
theorem written_of_save (h : (l.save r region sp).result = .ok (.ok fsp, region')) :
    l.Written r region sp fsp region' := by
  have hl := valid_of_save h
  have hsize : l.frameSize = 8 * l.frameWords := Nat.mul_comm _ _
  have hmod := l.frameSize_mod
  obtain ⟨hframe, -, hbelow, -⟩ := frameAt_of_save hl h
  have hchanges := changesOnly_save hl h
  rcases save_eq hl r region sp with ⟨e, he⟩ | ⟨haligned, hinside, hle, hok⟩
  · rw [he] at h
    cases h
  · rw [hok, Except.ok.injEq, Prod.mk.injEq] at h
    obtain ⟨-, rfl⟩ := h
    have hnat : sp.toNat - l.frameSize = fsp.toNat := by omega
    rw [hnat] at hinside
    have hfit : region.place fsp.toNat + (l.image r).length ≤ region.size := by
      rw [length_image]
      exact place_add_frameWords_le (by omega) hinside
    refine ⟨hbelow, hframe.aligned, hinside, ?_, hchanges.mono fun a ha => ?_⟩
    · rw [hnat]
      simpa using region.cells_putAll _ hfit
    · rw [Below] at ha
      omega

namespace Written

theorem cell (h : l.Written r region sp fsp region') {j : Nat} (hj : j < l.frameWords) :
    region'.cell (region.place fsp.toNat + j) = (l.image r)[j]?.getD 0 := by
  have hlength : j < (region'.cells (region.place fsp.toNat) l.frameWords).length := by
    rwa [StackRegion.length_cells]
  rw [← h.words, List.getElem?_eq_getElem hlength, StackRegion.getElem_cells, Option.getD_some]

/-- What is read from a frame that was written. -/
theorem read (h : l.Written r region sp fsp region') (h8 : a.toNat % 8 = 0)
    (hlow : fsp.toNat ≤ a.toNat) (hhigh : a.toNat < sp.toNat) :
    region'.read a = .ok ((l.image r)[(a.toNat - fsp.toNat) / 8]?.getD 0) := by
  have hbelow := h.below
  have haligned := h.aligned
  have hsize : l.frameSize = 8 * l.frameWords := Nat.mul_comm _ _
  obtain ⟨hbase, htop⟩ := h.inside
  have hbase8 := region.base_aligned
  have hindex : region'.index a.toNat 1 = .ok (region.place a.toNat) := by
    rw [StackRegion.index_congr h.changes.base h.changes.size]
    exact StackRegion.index_eq_place h8 ⟨by omega, by omega⟩
  have hplace : region.place a.toNat = region.place fsp.toNat + (a.toNat - fsp.toNat) / 8 := by
    unfold StackRegion.place
    omega
  rw [StackRegion.read, hindex, ← h.cell (by omega), ← hplace]
  rfl

end Written

/-- The words behind the slots are padding. -/
theorem getElem?_image_of_lt {j : Nat} (hj : l.slots.length < j) :
    (l.image r)[j]?.getD 0 = 0 := by
  obtain ⟨n, rfl⟩ := Nat.exists_eq_add_of_lt hj
  have hlater : (l.slots.map r.get).length ≤ l.slots.length + n := by simp
  rw [image, List.getElem?_cons_succ, List.getElem?_append_right hlater, List.getElem?_replicate]
  split <;> rfl

/-! ## What is answered -/

/-- The first check that fails is the answer, and if none does the answer is the
address of the frame. -/
theorem save_answer (hl : l.Valid) (r : RegisterFile) (region : StackRegion) (sp : Word) :
    ∃ answer region', (l.save r region sp).result = .ok (answer, region') ∧
      answer = (if sp.toNat % 16 ≠ 0 then .error .misaligned
        else if sp.toNat < region.base ∨ region.top < sp.toNat then .error .outOfRegion
        else if sp.toNat - region.base < l.frameSize then .error .stackOverflow
        else .ok (sp - BitVec.ofNat 64 l.frameSize)) ∧
      ∀ e, answer = .error e → region' = region := by
  by_cases haligned : sp.toNat % 16 ≠ 0
  · refine ⟨_, region, by rw [save, if_pos haligned]; rfl, by rw [if_pos haligned], fun _ _ => rfl⟩
  · by_cases hregion : sp.toNat < region.base ∨ region.top < sp.toNat
    · refine ⟨_, region, ?_, by rw [if_neg haligned, if_pos hregion], fun _ _ => rfl⟩
      rw [save, if_neg haligned, if_pos hregion.symm]
      rfl
    · by_cases hroom : sp.toNat - region.base < l.frameSize
      · refine ⟨_, region, ?_, by rw [if_neg haligned, if_neg hregion, if_pos hroom],
          fun _ _ => rfl⟩
        rw [save, if_neg haligned, if_neg (mt Or.symm hregion), if_pos (by omega)]
        rfl
      · have hfits : l.Fits region sp := ⟨by omega, by omega, by omega, by omega⟩
        obtain ⟨fsp, region', hsave⟩ := save_of_fits hl hfits r
        have hbelow := (written_of_save hsave).below
        have hsize : l.frameSize < 2 ^ 64 := by omega
        have hfsp : fsp = sp - BitVec.ofNat 64 l.frameSize := by
          apply BitVec.eq_of_toNat_eq
          rw [BitVec.toNat_sub_of_le] <;>
          simp only [BitVec.le_def, BitVec.toNat_ofNat, Nat.mod_eq_of_lt hsize] <;> omega
        refine ⟨_, region', hsave, ?_, nofun⟩
        rw [if_neg haligned, if_neg hregion, if_neg hroom, hfsp]

/-- For any stack pointer, saving answers, also if every split and every access is
checked on the way.  The answer is the first of the three checks that fails, in this
order: the alignment, the extent of the region, and the room for the frame, which is
too small exactly if the frame would begin before the region does.  Then nothing has
changed.  Otherwise the answer is the address of the frame.  It is aligned, and
exactly the words from there up to the old stack pointer are written: the tag, the
registers, and zeros. -/
theorem save_exact (hl : l.Valid) (r : RegisterFile) (region : StackRegion) (sp : Word) :
    ∃ answer region', (l.save r region sp).result = .ok (answer, region') ∧
      l.saveInPlace r region sp = .ok (answer, region') ∧
      answer = (if sp.toNat % 16 ≠ 0 then .error .misaligned
        else if sp.toNat < region.base ∨ region.top < sp.toNat then .error .outOfRegion
        else if sp.toNat - region.base < l.frameSize then .error .stackOverflow
        else .ok (sp - BitVec.ofNat 64 l.frameSize)) ∧
      (region.base ≤ sp.toNat → (sp.toNat - region.base < l.frameSize ↔
        (sp.toNat : Int) - l.frameSize < region.base)) ∧
      (∀ e, answer = .error e → region' = region) ∧
      ∀ fsp, answer = .ok fsp → l.Written r region sp fsp region' ∧
        region'.read fsp = .ok l.tag ∧
        ∀ a : Word, a.toNat % 8 = 0 → fsp.toNat + 8 * (1 + l.slots.length) ≤ a.toNat →
          a.toNat < sp.toNat → region'.read a = .ok 0 := by
  obtain ⟨answer, region', hsave, hanswer, hrefused⟩ := save_answer hl r region sp
  refine ⟨answer, region', hsave, (saveInPlace_eq l r region sp).trans hsave, hanswer,
    fun _ => by omega, hrefused, fun fsp hok => ?_⟩
  rw [hok] at hsave
  have hwritten := written_of_save hsave
  refine ⟨hwritten, (frameAt_of_save hl hsave).1.read_tag, fun a h8 hlow hhigh => ?_⟩
  rw [hwritten.read h8 (by omega) hhigh, getElem?_image_of_lt (by omega)]

/-- A layout with two slots, whose frames end in a word of padding. -/
def padded : FrameLayout := ⟨.cooperative, [.int 10, .pc], [.float 0], false⟩

/-- A region that begins at an odd word, with something in it. -/
def oddRegion : StackRegion := ⟨0x1008, .replicate 32 7, by decide, by decide⟩

/-- There is room for one frame below the highest aligned address. -/
theorem save_exact_padded :
    ∃ region', (padded.save .zero oddRegion 0x1100).result = .ok (.ok 0x10e0, region') ∧
      region'.read 0x10e0 = .ok padded.tag ∧ region'.read 0x10f8 = .ok 0 ∧
      oddRegion.ChangesOnly (fun a => 0x10e0 ≤ a ∧ a < 0x1100) region' := by
  obtain ⟨answer, region', hsave, -, hanswer, -, -, hok⟩ :=
    save_exact (by decide : padded.Valid) .zero oddRegion 0x1100
  have hfsp : answer = .ok 0x10e0 := hanswer.trans (by decide)
  subst hfsp
  obtain ⟨hwritten, htag, hpadding⟩ := hok _ rfl
  exact ⟨region', hsave, htag, hpadding 0x10f8 (by decide) (by decide) (by decide),
    hwritten.changes⟩

end FrameLayout

end HartKernel
