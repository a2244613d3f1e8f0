import HartKernel.Frame.Layout
import HartKernel.Register.File
import HartKernel.Stack.Region
import HartKernel.Traced

/-!
# The frame codec

Registers are saved as a frame below the stack pointer and restored from it
later.  Both directions check everything (alignment, room in the region, the
tag) before they change anything.  A single slot of a saved frame can be read
and overwritten in place.

Main definitions:

- `FrameLayout.image` is the list of words that a frame consists of.
- `FrameLayout.save` pushes a frame and `FrameLayout.restore` pops one.
- `FrameLayout.readSlot` and `FrameLayout.writeSlot` access one slot.
- `FrameLayouts.peekKind` tells which layout a frame was saved with.

Main results:

- `FrameLayout.length_image`: a frame image has the size of a frame.
-/

namespace HartKernel

namespace FrameLayout

/-- The words of a frame, from the lowest address upward: the tag, the slots
and padding. -/
def image (l : FrameLayout) (r : RegisterFile) : List Word :=
  l.tag :: (l.slots.map r.get ++ List.replicate (l.frameWords - 1 - l.slots.length) 0)

/-- A frame image has the size of a frame. -/
@[simp] theorem length_image (l : FrameLayout) (r : RegisterFile) :
    (l.image r).length = l.frameWords := by
  have := l.length_slots_lt_frameWords
  simp [image]
  omega

/-- Push a frame with the contents of `r` below `sp`.  Answers the new stack
pointer, which is the address of the tag. -/
def save (l : FrameLayout) (r : RegisterFile) (region : StackRegion) (sp : Word) :
    Traced (Except FrameError Word × StackRegion) :=
  if sp.toNat % 16 ≠ 0 then pure (.error .misaligned, region)
  else if region.top < sp.toNat ∨ sp.toNat < region.base then pure (.error .outOfRegion, region)
  else if sp.toNat < region.base + l.frameSize then pure (.error .stackOverflow, region)
  else
    let frameSp := sp.toNat - l.frameSize
    match region.index frameSp l.frameWords with
    | .error e => pure (.error e, region)
    | .ok i => do
      Panic.require l.Valid .outOfBounds
      .note (.frameSaved l.kind (BitVec.ofNat 64 frameSp) l.frameWords)
      return (.ok (BitVec.ofNat 64 frameSp), region.putAll i (l.image r))

/-- Check the tag of the frame at `sp`. -/
def checkTag (l : FrameLayout) (region : StackRegion) (sp : Word) : Except FrameError Unit := do
  let word ← region.read sp
  if word = l.tag then .ok () else .error .kindMismatch

/-- Pop the frame at `sp` into `r`.  Answers the stack pointer from before the
frame was pushed; the stack pointer in `r` is assigned only if it is a slot. -/
def restore (l : FrameLayout) (region : StackRegion) (sp : Word) (r : RegisterFile) :
    Traced (Except FrameError Word × RegisterFile) :=
  if sp.toNat % 16 ≠ 0 then pure (.error .misaligned, r)
  else
    match l.checkTag region sp with
    | .error e => pure (.error e, r)
    | .ok () =>
      match region.index sp.toNat l.frameWords with
      | .error e => pure (.error e, r)
      | .ok i => do
        Panic.require l.Valid .outOfBounds
        .note (.frameRestored l.kind sp)
        return (.ok (BitVec.ofNat 64 (sp.toNat + l.frameSize)),
          r.setAll (l.slots.zip (region.cells (i + 1) l.slots.length)))

/-- The word index of a slot of the frame at `sp`. -/
def slotIndex (l : FrameLayout) (region : StackRegion) (sp : Word) (s : RegisterSlot) :
    Except FrameError Nat :=
  match l.slotOffset? s with
  | none => .error .noSuchSlot
  | some offset => do
    l.checkTag region sp
    region.index (sp.toNat + 8 * offset) s.words

/-- Read one slot of the frame at `sp`. -/
def readSlot (l : FrameLayout) (region : StackRegion) (sp : Word) (s : RegisterSlot) :
    Except FrameError Word :=
  (l.slotIndex region sp s).map region.cell

/-- Overwrite one slot of the frame at `sp`. -/
def writeSlot (l : FrameLayout) (region : StackRegion) (sp : Word) (s : RegisterSlot) (v : Word) :
    Except FrameError Unit × StackRegion :=
  match l.slotIndex region sp s with
  | .error e => (.error e, region)
  | .ok i => (.ok (), region.put i v)

end FrameLayout

/-- Which of the two layouts the frame at `sp` was saved with. -/
def FrameLayouts.peekKind (ls : FrameLayouts) (region : StackRegion) (sp : Word) :
    Except FrameError FrameKind := do
  let word ← region.read sp
  if word = ls.interrupted.tag then .ok .interrupted
  else if word = ls.cooperative.tag then .ok .cooperative
  else .error .kindMismatch

end HartKernel
