import HartKernel.Proofs.Frame.Exact

/-!
# Saving and restoring

Restoring undoes saving, also after other frames have come and gone further down, and
saving undoes restoring, whatever the memory holds that was taken for a frame.

Main definitions:

- `FrameLayout.Recovered` says that registers were loaded from a frame.
- `FrameLayout.SavesBelow` says that any number of frames may have been pushed below
  an address.
- `StackedFrame` is a frame to be pushed and popped again, `pushAll` and `popAll` push
  and pop many.

Main results:

- `FrameLayout.Stores.recovered`: what restoring a frame does.
- `StackedFrame.popAll_reverse`: frames pushed one below another are popped in the
  opposite order.
- `FrameLayout.round_trip`: saved registers are recovered.
- `FrameLayout.save_restored`: restored registers are saved as the frame that they
  were restored from.
-/

namespace HartKernel

theorem RegisterFile.get_zero_setAll (values : List (RegisterSlot × Word)) (q : RegisterFile) :
    (q.setAll values).get (.int 0) = q.get (.int 0) := by
  induction values generalizing q with
  | nil => rfl
  | cons a values ih =>
    rw [setAll, List.foldl_cons, ← setAll, ih]
    by_cases ha : a.1 = .int 0
    · rw [ha, set]
    · exact get_set_of_ne (Ne.symm ha)

namespace FrameLayout

variable {l : FrameLayout} {region region' region'' : StackRegion} {r q q' q'' : RegisterFile}
variable {s sp sp' fsp : Word}

/-! ## Restoring what was saved -/

/-- The registers `r` were loaded into `q`: the slots of the layout hold what they hold
in `r`, and no other register has changed.  General register zero never changes. -/
structure Recovered (l : FrameLayout) (r q q' : RegisterFile) : Prop where
  slots : ∀ slot ∈ l.slots, slot ≠ .int 0 → q'.get slot = r.get slot
  others : ∀ slot, slot ∉ l.slots ∨ slot = .int 0 → q'.get slot = q.get slot

theorem Recovered.eq (h : l.Recovered r q q') (h' : l.Recovered r q q'') : q' = q'' := by
  refine RegisterFile.ext_get fun slot _ => ?_
  by_cases hslot : slot ∈ l.slots ∧ slot ≠ .int 0
  · rw [h.slots slot hslot.1 hslot.2, h'.slots slot hslot.1 hslot.2]
  · have hother : slot ∉ l.slots ∨ slot = .int 0 := by tauto
    rw [h.others slot hother, h'.others slot hother]

/-- Loading the registers once more changes nothing. -/
theorem Recovered.again (h : l.Recovered r q q') : l.Recovered r q' q' :=
  ⟨h.slots, fun _ _ => rfl⟩

/-- What restoring a frame does. -/
theorem Stores.recovered (h : l.Stores region fsp r) (hl : l.Valid)
    (hbelow : fsp.toNat + l.frameSize = sp.toNat) (q : RegisterFile) :
    ∃ q', (l.restore region fsp q).result = .ok (.ok sp, q') ∧ l.Recovered r q q' := by
  have hlength : l.slots.length = (l.slots.map r.get).length := by simp
  refine ⟨_, ?_, fun slot hslot hne => RegisterFile.get_setAll hslot (hl slot hslot) hne r q,
    fun slot hslot => ?_⟩
  · rw [restore_eq hl h.frame, hbelow, BitVec.ofNat_toNat, BitVec.setWidth_eq, h.payload]
  · rcases hslot with hnot | rfl
    · rw [RegisterFile.get_setAll_of_notMem]
      rwa [List.map_fst_zip (Nat.le_of_eq hlength)]
    · exact RegisterFile.get_zero_setAll _ q

/-! ## Frames further down -/

/-- Any number of frames of any layouts may have been pushed, or refused, at stack
pointers up to an address. -/
inductive SavesBelow (s : Word) : StackRegion → StackRegion → Prop where
  | refl (region : StackRegion) : SavesBelow s region region
  | save {region region' region'' : StackRegion} {l : FrameLayout} {r : RegisterFile} {sp : Word}
    {answer : Except FrameError Word} (h : SavesBelow s region region')
    (hsp : sp.toNat ≤ s.toNat) (hsave : (l.save r region' sp).result = .ok (answer, region'')) :
    SavesBelow s region region''

/-- Saving changes nothing at the stack pointer and above it, also if it is refused. -/
theorem agreeFrom_of_answer {answer : Except FrameError Word}
    (h : (l.save r region sp).result = .ok (answer, region')) :
    region.AgreeFrom sp.toNat region' := by
  cases answer with
  | ok fsp => exact agreeFrom_of_save (valid_of_save h) h
  | error e =>
    obtain rfl := region_of_save_error h
    exact .refl _ _

theorem SavesBelow.agreeFrom (h : SavesBelow s region region') :
    region.AgreeFrom s.toNat region' := by
  induction h with
  | refl => exact .refl _ _
  | save _ hsp hsave ih => exact ih.trans ((agreeFrom_of_answer hsave).mono hsp)

end FrameLayout

/-! ## Frames one below another -/

/-- A frame that is to be pushed and popped again. -/
structure StackedFrame where
  /-- The layout of the frame. -/
  layout : FrameLayout
  /-- The registers that are saved in the frame. -/
  saved : RegisterFile
  /-- The registers that the frame is restored into. -/
  target : RegisterFile

namespace StackedFrame

variable {f : StackedFrame} {frames frames' : List StackedFrame} {region region' : StackRegion}
variable {sp sp' sp'' bottom : Word} {files files' : List RegisterFile}

/-- The registers of a frame were loaded into its target. -/
def RecoveredAs (f : StackedFrame) (q : RegisterFile) : Prop :=
  f.layout.Recovered f.saved f.target q

/-- Push frames one below another, as far as they fit. -/
def pushAll : List StackedFrame → StackRegion → Word →
    Traced (Except FrameError Word × StackRegion)
  | [], region, sp => pure (.ok sp, region)
  | f :: frames, region, sp => do
    let (answer, region) ← f.layout.save f.saved region sp
    match answer with
    | .error e => return (.error e, region)
    | .ok sp => pushAll frames region sp

/-- Pop frames one above another, as long as they are frames. -/
def popAll (region : StackRegion) : List StackedFrame → Word →
    Traced (Except FrameError Word × List RegisterFile)
  | [], sp => pure (.ok sp, [])
  | f :: frames, sp => do
    let (answer, q) ← f.layout.restore region sp f.target
    match answer with
    | .error e => return (.error e, [q])
    | .ok sp =>
      let (answer, files) ← popAll region frames sp
      return (answer, q :: files)

theorem pushAll_cons_eq_ok (h : (pushAll (f :: frames) region sp).result =
    .ok (.ok bottom, region')) :
    ∃ sp' region₁, (f.layout.save f.saved region sp).result = .ok (.ok sp', region₁) ∧
      (pushAll frames region₁ sp').result = .ok (.ok bottom, region') := by
  obtain ⟨⟨answer, region₁⟩, hsave, h⟩ := Traced.bind_eq_ok.1 h
  cases answer with
  | error e => cases h
  | ok sp' => exact ⟨sp', region₁, hsave, h⟩

theorem popAll_append (h : (popAll region frames sp).result = .ok (.ok sp', files))
    (h' : (popAll region frames' sp').result = .ok (.ok sp'', files')) :
    (popAll region (frames ++ frames') sp).result = .ok (.ok sp'', files ++ files') := by
  induction frames generalizing sp files with
  | nil =>
    cases h
    exact h'
  | cons f frames ih =>
    obtain ⟨⟨answer, q⟩, hrestore, h⟩ := Traced.bind_eq_ok.1 h
    cases answer with
    | error e => cases h
    | ok sp₁ =>
      obtain ⟨⟨answer, rest⟩, hrest, h⟩ := Traced.bind_eq_ok.1 h
      cases h
      rw [List.cons_append, popAll, Traced.result_bind, hrestore, ok_bind]
      dsimp only
      rw [Traced.result_bind, ih hrest, ok_bind]
      rfl

/-- Pushing frames changes nothing at the first stack pointer and above it. -/
theorem agreeFrom_of_pushAll
    (h : (pushAll frames region sp).result = .ok (.ok bottom, region')) :
    region.AgreeFrom sp.toNat region' := by
  induction frames generalizing region sp with
  | nil =>
    cases h
    exact .refl _ _
  | cons f frames ih =>
    obtain ⟨sp', region₁, hsave, hrest⟩ := pushAll_cons_eq_ok h
    have hbelow := (FrameLayout.written_of_save hsave).below
    exact (FrameLayout.agreeFrom_of_answer hsave).trans ((ih hrest).mono (by omega))

/-- Frames pushed one below another are popped in the opposite order. -/
theorem popAll_reverse (h : (pushAll frames region sp).result = .ok (.ok bottom, region')) :
    ∃ files, (popAll region' frames.reverse bottom).result = .ok (.ok sp, files) ∧
      List.Forall₂ RecoveredAs frames.reverse files := by
  induction frames generalizing region sp with
  | nil =>
    cases h
    exact ⟨[], rfl, .nil⟩
  | cons f frames ih =>
    obtain ⟨sp', region₁, hsave, hrest⟩ := pushAll_cons_eq_ok h
    obtain ⟨files, hpop, hfiles⟩ := ih hrest
    have hl := FrameLayout.valid_of_save hsave
    -- the frames further down have left this one alone
    have hstores := (FrameLayout.stores_of_save hl hsave).of_agreeFrom
      (agreeFrom_of_pushAll hrest) (Nat.le_refl _)
    obtain ⟨q, hrestore, hrecovered⟩ :=
      hstores.recovered hl (FrameLayout.written_of_save hsave).below f.target
    have hlast : (popAll region' [f] sp').result = .ok (.ok sp, [q]) := by
      rw [popAll, Traced.result_bind, hrestore]
      rfl
    rw [List.reverse_cons]
    exact ⟨files ++ [q], popAll_append hpop hlast,
      List.rel_append hfiles (.cons hrecovered .nil)⟩

end StackedFrame

namespace FrameLayout

variable {l : FrameLayout} {region region' : StackRegion} {r q q' : RegisterFile} {s sp : Word}

/-- Registers that were saved are recovered.  Any number of frames may have been pushed
below the frame since; then restoring it goes well into any registers, also if every
split and every access is checked.  It ends at the stack pointer that the frame was
pushed below, loads all slots of the layout but general register zero, and leaves all
other registers alone, and so does restoring it once more.  Frames pushed one below
another can be popped in the opposite order, and all of them are recovered. -/
theorem round_trip :
    (∀ (l : FrameLayout) (r : RegisterFile) (region region₁ region₂ : StackRegion) (sp s : Word),
      (l.save r region sp).result = .ok (.ok s, region₁) → SavesBelow s region₁ region₂ →
      ∀ q, ∃ q', (l.restore region₂ s q).result = .ok (.ok sp, q') ∧
        l.restoreInPlace region₂ s q = .ok (.ok sp, q') ∧ l.Recovered r q q' ∧
        (l.restore region₂ s q').result = .ok (.ok sp, q')) ∧
    ∀ (frames : List StackedFrame) (region region' : StackRegion) (sp bottom : Word),
      (StackedFrame.pushAll frames region sp).result = .ok (.ok bottom, region') →
      ∃ files, (StackedFrame.popAll region' frames.reverse bottom).result = .ok (.ok sp, files) ∧
        List.Forall₂ StackedFrame.RecoveredAs frames.reverse files := by
  refine ⟨fun l r region region₁ region₂ sp s hsave hlater q => ?_,
    fun frames region region' sp bottom hpush => StackedFrame.popAll_reverse hpush⟩
  have hl := valid_of_save hsave
  have hstores := (stores_of_save hl hsave).of_agreeFrom hlater.agreeFrom (Nat.le_refl _)
  have hbelow := (written_of_save hsave).below
  obtain ⟨q', hrestore, hrecovered⟩ := hstores.recovered hl hbelow q
  obtain ⟨q'', hrestore', hrecovered'⟩ := hstores.recovered hl hbelow q'
  rw [hrecovered'.eq hrecovered.again] at hrestore'
  exact ⟨q', hrestore, (restoreInPlace_eq l region₂ s q).trans hrestore, hrecovered, hrestore'⟩

/-- A layout that names a register twice, general register zero and the stack pointer. -/
def crowded : FrameLayout := ⟨.interrupted, [.int 0, .a0, .sp, .a0], [.float 3], true⟩

/-- A frame of the crowded layout is recovered after another frame was pushed below it,
and the two can be popped one after the other. -/
theorem round_trip_crowded :
    ∃ region₁ region₂ q' region' files answer,
      (crowded.save (RegisterFile.zero.set .a0 5) oddRegion 0x1100).result =
        .ok (.ok 0x10d0, region₁) ∧
      (padded.save .zero region₁ 0x10d0).result = .ok (answer, region₂) ∧
      (crowded.restore region₂ 0x10d0 .zero).result = .ok (.ok 0x1100, q') ∧ q'.get .a0 = 5 ∧
      (StackedFrame.pushAll [⟨crowded, .zero, .zero⟩, ⟨padded, .zero, .zero⟩] oddRegion
        0x1100).result = .ok (.ok 0x10b0, region') ∧
      (StackedFrame.popAll region' [⟨padded, .zero, .zero⟩, ⟨crowded, .zero, .zero⟩]
        0x10b0).result = .ok (.ok 0x1100, files) := by
  obtain ⟨answer₁, region₁, hsave, hanswer, -⟩ :=
    save_answer (by decide : crowded.Valid) (RegisterFile.zero.set .a0 5) oddRegion 0x1100
  have hfsp : answer₁ = .ok 0x10d0 := hanswer.trans (by decide)
  subst hfsp
  obtain ⟨answer₂, region₂, hlater, -⟩ :=
    save_answer (by decide : padded.Valid) .zero region₁ 0x10d0
  have hpush : (match (StackedFrame.pushAll [⟨crowded, .zero, .zero⟩, ⟨padded, .zero, .zero⟩]
      oddRegion 0x1100).result with
      | .ok (.ok bottom, _) => decide (bottom = 0x10b0)
      | _ => false) = true := by
    decide +kernel
  split at hpush
  · rename_i bottom region' hpushed
    obtain rfl := of_decide_eq_true hpush
    obtain ⟨q', hrestore, -, hrecovered, -⟩ := round_trip.1 crowded _ oddRegion region₁ region₂ 0x1100
      0x10d0 hsave (.save (.refl _) (Nat.le_refl _) hlater) .zero
    obtain ⟨files, hpop, -⟩ := round_trip.2 _ _ _ _ _ hpushed
    exact ⟨region₁, region₂, q', region', files, answer₂, hsave, hlater, hrestore,
      (hrecovered.slots .a0 (by decide) (by decide)).trans (by decide), hpushed, hpop⟩
  · cases hpush

/-! ## Saving what was restored -/

/-- All slots of a frame that was restored name registers. -/
theorem valid_of_restore (h : (l.restore region s q).result = .ok (.ok sp, q')) : l.Valid := by
  unfold restore at h
  split at h
  · cases h
  · split at h
    · cases h
    · split at h
      · cases h
      · obtain ⟨u, hvalid, -⟩ := Traced.bind_eq_ok.1 h
        exact Panic.require_eq_ok_iff.1 hvalid

/-- Restored registers have the image of the frame that they were restored from, up to
its padding. -/
theorem image_of_restore (hnodup : l.slots.Nodup) (hzero : .int 0 ∉ l.slots)
    (h : (l.restore region s q).result = .ok (.ok sp, q')) {j : Nat} (hj : j ≤ l.slots.length) :
    (l.image q')[j]?.getD 0 = region.cell (region.place s.toNat + j) := by
  have hl := valid_of_restore h
  have hframe := frameAt_of_restore h
  rw [restore_eq hl hframe, Except.ok.injEq, Prod.mk.injEq] at h
  obtain ⟨-, rfl⟩ := h
  have hlength : l.slots.length = (l.payload region s).length := by simp [payload]
  rw [image, RegisterFile.map_get_setAll hnodup hl hzero hlength]
  cases j with
  | zero => exact hframe.tag.symm
  | succ j =>
    have hj' : j < (l.payload region s).length := hlength ▸ hj
    rw [List.getElem?_cons_succ, List.getElem?_append_left hj', List.getElem?_eq_getElem hj',
      Option.getD_some]
    simp only [payload, StackRegion.getElem_cells]
    rw [Nat.add_assoc, Nat.add_comm 1 j]

/-- At most one word of a frame is padding. -/
theorem frameWords_le (l : FrameLayout) : l.frameWords ≤ l.slots.length + 2 := by
  simp only [frameWords, alignUp, payloadWords_eq]
  omega

/-- The padding of a frame that was written and left alone is zero. -/
theorem Written.padding {region₁ : StackRegion} {i : Nat} (h : l.Written r region sp s region₁)
    (hkept : region₁.ChangesOnly (fun a => a < s.toNat ∨ sp.toNat ≤ a) region')
    (hi : region'.base + 8 * i = s.toNat + 8 * (1 + l.slots.length))
    (hlt : region'.base + 8 * i < sp.toNat) : region'.cell i = 0 := by
  have hbelow := h.below
  have hsize : l.frameSize = 8 * l.frameWords := Nat.mul_comm _ _
  have hbase : region'.base = region.base := hkept.base.trans h.changes.base
  have hlow := h.inside.1
  have hplace : i = region.place s.toNat + (1 + l.slots.length) := by
    unfold StackRegion.place
    omega
  have hbase₁ := hkept.base
  rw [hkept.cell i (by omega), hplace, h.cell (by omega), getElem?_image_of_lt (by omega)]

/-- Saving registers where they were restored from goes well, and ends where restoring
began.  At most the word behind the slots changes, if the frame has one: it is padding,
and zero afterwards.  Nothing changes if the frame was written by saving any registers
and its words were left alone since. -/
theorem save_restored (hnodup : l.slots.Nodup) (hzero : .int 0 ∉ l.slots)
    (hrestore : (l.restore region s q).result = .ok (.ok sp, q')) :
    ∃ region', (l.save q' region sp).result = .ok (.ok s, region') ∧
      region.ChangesOnly (fun a => a = s.toNat + 8 * (1 + l.slots.length) ∧ a < sp.toNat) region' ∧
      (∀ a : Word, a.toNat = s.toNat + 8 * (1 + l.slots.length) → a.toNat < sp.toNat →
        region'.read a = .ok 0) ∧
      ∀ r₀ region₀ sp₀ region₁, (l.save r₀ region₀ sp₀).result = .ok (.ok s, region₁) →
        region₁.ChangesOnly (fun a => a < s.toNat ∨ sp.toNat ≤ a) region → region' = region := by
  have hl := valid_of_restore hrestore
  have hframe := frameAt_of_restore hrestore
  have himage : ∀ j ≤ l.slots.length, (l.image q')[j]?.getD 0 =
      region.cell (region.place s.toNat + j) := fun j hj =>
    image_of_restore hnodup hzero hrestore hj
  have hsp : sp.toNat = s.toNat + l.frameSize := by
    rw [restore_eq hl hframe, Except.ok.injEq, Prod.mk.injEq, Except.ok.injEq] at hrestore
    rw [← hrestore.1, hframe.toNat_above]
  have haligned := hframe.aligned
  obtain ⟨hlow, hhigh⟩ := hframe.inside
  have hmod := l.frameSize_mod
  have hfits : l.Fits region sp := ⟨by omega, by omega, by omega, by omega⟩
  obtain ⟨fsp, region', hsave⟩ := save_of_fits hl hfits q'
  have hwritten := written_of_save hsave
  obtain rfl : fsp = s := BitVec.eq_of_toNat_eq (by have := hwritten.below; omega)
  have hchanges : region.ChangesOnly
      (fun a => a = fsp.toNat + 8 * (1 + l.slots.length) ∧ a < sp.toNat) region' := by
    refine ⟨hwritten.changes.base, hwritten.changes.size, fun i hi => ?_⟩
    by_cases hin : fsp.toNat ≤ region.base + 8 * i ∧ region.base + 8 * i < sp.toNat
    · -- a word of the frame that is no padding
      obtain ⟨j, rfl⟩ : ∃ j, i = region.place fsp.toNat + j :=
        ⟨i - region.place fsp.toNat, by unfold StackRegion.place; omega⟩
      have hplace := (hframe.place_add_lt l.frameWords_pos).1
      have hsize : l.frameSize = 8 * l.frameWords := Nat.mul_comm _ _
      have hpadding := l.frameWords_le
      rw [hwritten.cell (by omega), himage j (by omega)]
    · exact hwritten.changes.cell i hin
  refine ⟨region', hsave, hchanges, fun a ha hlt => ?_, fun r₀ region₀ sp₀ region₁ hsave₀ hkept => ?_⟩
  · rw [hwritten.read (by omega) (by omega) hlt, getElem?_image_of_lt (by omega)]
  · have hwritten₀ := written_of_save hsave₀
    obtain rfl : sp₀ = sp := BitVec.eq_of_toNat_eq (by have := hwritten₀.below; omega)
    have hsame : region.ChangesOnly (fun _ => False) region' := by
      refine ⟨hchanges.base, hchanges.size, fun i _ => ?_⟩
      by_cases hpadding : region.base + 8 * i = fsp.toNat + 8 * (1 + l.slots.length) ∧
          region.base + 8 * i < sp₀.toNat
      · obtain ⟨hi, hlt⟩ := hpadding
        have hnew : region'.cell i = 0 := by
          refine hwritten.padding (.refl _ _) ?_ ?_ <;> rwa [hchanges.base]
        rw [hnew, hwritten₀.padding hkept hi hlt]
      · exact hchanges.cell i hpadding
    exact hsame.eq fun _ => id

/-- Memory that nobody has saved can look like a frame.  Its padding is cleared. -/
theorem save_restored_foreign :
    ∃ q' region', (padded.restore (oddRegion.put 27 padded.tag) 0x10e0 .zero).result =
        .ok (.ok 0x1100, q') ∧
      (padded.save q' (oddRegion.put 27 padded.tag) 0x1100).result = .ok (.ok 0x10e0, region') ∧
      (oddRegion.put 27 padded.tag).read 0x10f8 = .ok 7 ∧ region'.read 0x10f8 = .ok 0 := by
  have hframe : padded.FrameAt (oddRegion.put 27 padded.tag) 0x10e0 :=
    ⟨by decide, by decide, by decide⟩
  have hrestore := restore_eq (by decide) hframe .zero
  obtain ⟨region', hsave, -, hpadding, -⟩ := save_restored (by decide) (by decide) hrestore
  exact ⟨_, region', hrestore, hsave, by decide, hpadding 0x10f8 (by decide) (by decide)⟩

end FrameLayout

end HartKernel
