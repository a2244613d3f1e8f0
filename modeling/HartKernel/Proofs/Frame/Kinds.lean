import HartKernel.Proofs.Frame.Patching

/-!
# Frames of different kinds

The first word of a frame tells the layout that it was saved with.  A restore looks at
this word before it looks at the extent of the frame, so a frame is never taken for one
of another layout, even if it lies so high that no frame of that layout has room there.

Main definitions:

- `FrameLayout.Foreign` says that what lies at an address is refused by a layout.

Main results:

- `FrameLayout.foreign_of_ne`: what has another tag is refused.
- `FrameLayout.restore_of_tag`: what has the tag is restored exactly if it lies inside
  the region.
- `FrameLayouts.tag_standard_inj`: no two of the standard layouts have the same tag.
- `FrameLayouts.kinds_apart`: frames of the standard layouts are told apart.
-/

namespace HartKernel

theorem StackRegion.read_ne_kindMismatch (region : StackRegion) (addr : Word) :
    region.read addr ≠ .error .kindMismatch := by
  unfold read index
  split
  · nofun
  · split <;> nofun

namespace FrameLayout

variable {l : FrameLayout} {region : StackRegion} {q q' : RegisterFile} {s w : Word}
variable {e : FrameError}

/-- What lies at an address is no frame of the layout: it can be neither restored nor
read nor patched, and the registers and the region stay as they are. -/
structure Foreign (l : FrameLayout) (region : StackRegion) (s : Word) : Prop where
  restore : ∀ q, (l.restore region s q).result = .ok (.error .kindMismatch, q)
  slots : ∀ t ∈ l.slots, l.RefusesSlot region s t .kindMismatch

/-- What does not begin with the tag of the layout is no frame of it. -/
theorem foreign_of_ne (haligned : s.toNat % 16 = 0) (hread : region.read s = .ok w)
    (hw : w ≠ l.tag) : l.Foreign region s := by
  refine ⟨fun q => ?_, fun t ht => refusesSlot_of_ne ht hread hw⟩
  unfold FrameLayout.restore
  rw [if_neg (not_not.2 haligned), checkTag_of_ne hread hw]
  rfl

/-- What begins with the tag of the layout is restored if all of it lies inside the
region. -/
theorem restore_of_tag (hl : l.Valid) (haligned : s.toNat % 16 = 0)
    (hread : region.read s = .ok l.tag) (q : RegisterFile) :
    ∃ answer q', (l.restore region s q).result = .ok (answer, q') ∧
      answer = if s.toNat + l.frameSize ≤ region.top then
        .ok (BitVec.ofNat 64 (s.toNat + l.frameSize)) else .error .outOfRegion := by
  obtain ⟨h8, ⟨hlow, -⟩, htag⟩ := StackRegion.read_eq_ok_iff.1 hread
  by_cases hroom : s.toNat + l.frameSize ≤ region.top
  · have hframe : l.FrameAt region s := ⟨haligned, ⟨hlow, hroom⟩, htag⟩
    exact ⟨_, _, restore_eq hl hframe q, by rw [if_pos hroom]⟩
  · have hcheck : l.checkTag region s = .ok () := by
      rw [checkTag, hread, ok_bind, if_pos rfl]
    have hindex : region.index s.toNat l.frameWords = .error .outOfRegion := by
      rw [StackRegion.index, if_neg (not_not.2 h8), if_neg]
      rintro ⟨-, hhigh⟩
      exact hroom (by rwa [frameSize, Nat.mul_comm])
    refine ⟨.error .outOfRegion, q, ?_, by rw [if_neg hroom]⟩
    unfold FrameLayout.restore
    rw [if_neg (not_not.2 haligned), hcheck]
    dsimp only
    rw [hindex]
    rfl

end FrameLayout

namespace FrameLayouts

variable {ls : FrameLayouts} {region : StackRegion} {s : Word} {kind : FrameKind}

/-- No two of the four standard layouts have the same tag. -/
theorem tag_standard_inj {fp fp' : Bool} {kind kind' : FrameKind}
    (h : ((standard fp).layout kind).tag = ((standard fp').layout kind').tag) :
    fp = fp' ∧ kind = kind' := by
  revert h
  cases fp <;> cases fp' <;> cases kind <;> cases kind' <;> decide

/-- The answer on the kind of a frame was read from its first word. -/
theorem read_of_peekKind (h : ls.peekKind region s = .ok kind) :
    region.read s = .ok (ls.layout kind).tag := by
  obtain ⟨word, hread, htag⟩ := bind_eq_ok_iff.1 h
  split at htag
  · rename_i hword
    cases htag
    exact hread.trans (congrArg _ hword)
  · split at htag
    · rename_i hword
      cases htag
      exact hread.trans (congrArg _ hword)
    · cases htag

/-- What is of neither kind begins with a word that is none of the two tags. -/
theorem read_of_peekKind_error (h : ls.peekKind region s = .error .kindMismatch) :
    ∃ word, region.read s = .ok word ∧ ∀ kind, word ≠ (ls.layout kind).tag := by
  unfold peekKind at h
  cases hread : region.read s with
  | error e =>
    rw [hread] at h
    cases h
    exact absurd hread (region.read_ne_kindMismatch s)
  | ok word =>
    rw [hread, ok_bind] at h
    split at h
    · cases h
    · rename_i hinterrupted
      split at h
      · cases h
      · rename_i hcooperative
        refine ⟨word, rfl, fun kind => ?_⟩
        cases kind with
        | interrupted => exact hinterrupted
        | cooperative => exact hcooperative

/-- Frames of the four standard layouts are never taken for each other.  A frame saved
with one of them is refused by each of the other three, wherever it lies.  Whatever the
memory holds, at an aligned address at most one of the two layouts in use can be
restored: the one that is told by the first word, and it can be restored exactly if all
of the frame lies inside the region.  If the first word tells none, neither can.
Restoring always answers, and the registers stay as they are if it is refused. -/
theorem kinds_apart :
    (∀ (fp : Bool) (kind : FrameKind) (r : RegisterFile) (region region' : StackRegion)
      (sp s : Word),
      (((standard fp).layout kind).save r region sp).result = .ok (.ok s, region') →
      ∀ (fp' : Bool) (kind' : FrameKind), (fp', kind') ≠ (fp, kind) →
        ((standard fp').layout kind').Foreign region' s) ∧
    (∀ (fp : Bool) (region : StackRegion) (s : Word), s.toNat % 16 = 0 →
      (∀ kind, (standard fp).peekKind region s = .ok kind →
        (∀ kind' ≠ kind, ((standard fp).layout kind').Foreign region s) ∧
        ∀ q, ∃ answer q',
          (((standard fp).layout kind).restore region s q).result = .ok (answer, q') ∧
          answer = if s.toNat + ((standard fp).layout kind).frameSize ≤ region.top then
            .ok (BitVec.ofNat 64 (s.toNat + ((standard fp).layout kind).frameSize))
            else .error .outOfRegion) ∧
      ((standard fp).peekKind region s = .error .kindMismatch →
        ∀ kind, ((standard fp).layout kind).Foreign region s)) ∧
    ∀ (fp : Bool) (kind : FrameKind) (region : StackRegion) (s : Word) (q : RegisterFile),
      ∃ answer q', (((standard fp).layout kind).restore region s q).result = .ok (answer, q') ∧
        ∀ e, answer = .error e → q' = q := by
  refine ⟨fun fp kind r region region' sp s hsave fp' kind' hne => ?_,
    fun fp region s haligned => ⟨fun kind hpeek => ⟨fun kind' hne => ?_, fun q => ?_⟩,
      fun hpeek kind => ?_⟩, fun fp kind region s q => ?_⟩
  · obtain ⟨hframe, -⟩ := FrameLayout.frameAt_of_save (valid_standard fp kind) hsave
    refine FrameLayout.foreign_of_ne hframe.aligned hframe.read_tag fun htag => hne ?_
    obtain ⟨rfl, rfl⟩ := tag_standard_inj htag
    rfl
  · refine FrameLayout.foreign_of_ne haligned (read_of_peekKind hpeek) fun htag => hne ?_
    exact (tag_standard_inj htag).2.symm
  · exact FrameLayout.restore_of_tag (valid_standard fp kind) haligned (read_of_peekKind hpeek) q
  · obtain ⟨word, hread, hother⟩ := read_of_peekKind_error hpeek
    exact FrameLayout.foreign_of_ne haligned hread (hother kind)
  · obtain ⟨answer, q', hrestore⟩ :=
      FrameLayout.exists_restore (valid_standard fp kind) region s q
    refine ⟨answer, q', hrestore, fun e he => ?_⟩
    subst he
    exact FrameLayout.regs_of_restore_error hrestore

/-- A small frame at the top of a region is refused by the layout that has no room
there, and by a build with floating point, and can be restored.  What holds no tag is
refused by both layouts. -/
theorem kinds_apart_top :
    ∃ region' q', ((standard false).cooperative.save .zero FrameLayout.oddRegion 0x1100).result =
        .ok (.ok 0x1080, region') ∧
      ¬FrameLayout.oddRegion.Contains 0x1080 (standard false).interrupted.frameSize ∧
      (standard false).interrupted.Foreign region' 0x1080 ∧
      (standard true).cooperative.Foreign region' 0x1080 ∧
      (standard false).peekKind region' 0x1080 = .ok .cooperative ∧
      ((standard false).cooperative.restore region' 0x1080 .zero).result =
        .ok (.ok 0x1100, q') ∧
      (standard false).peekKind FrameLayout.oddRegion 0x1080 = .error .kindMismatch ∧
      (standard false).cooperative.Foreign FrameLayout.oddRegion 0x1080 := by
  have hl := valid_standard false .cooperative
  obtain ⟨answer, region', hsave, hanswer, -⟩ :=
    FrameLayout.save_answer hl .zero FrameLayout.oddRegion 0x1100
  have hfsp : answer = .ok 0x1080 := hanswer.trans (by decide)
  subst hfsp
  have hpeek : (standard false).peekKind region' 0x1080 = .ok .cooperative :=
    peekKind_eq (FrameLayout.frameAt_of_save hl hsave).1
  have hwritten := FrameLayout.written_of_save hsave
  have htop : region'.top = 0x1108 := by
    rw [StackRegion.top, StackRegion.byteSize, hwritten.changes.base, hwritten.changes.size]
    rfl
  obtain ⟨-, hrestore⟩ := (kinds_apart.2.1 false region' 0x1080 (by decide)).1 _ hpeek
  obtain ⟨answer, q', hrestore, hanswer⟩ := hrestore .zero
  have hsp : answer = .ok 0x1100 := by
    rw [hanswer, htop]
    decide
  subst hsp
  exact ⟨region', q', hsave, by decide,
    kinds_apart.1 false .cooperative _ _ _ _ _ hsave false .interrupted (by decide),
    kinds_apart.1 false .cooperative _ _ _ _ _ hsave true .cooperative (by decide), hpeek,
    hrestore, by decide,
    (kinds_apart.2.1 false FrameLayout.oddRegion 0x1080 (by decide)).2 (by decide) .cooperative⟩

end FrameLayouts

end HartKernel
