import HartKernel.Register.Slot

/-!
# Frame layouts

A frame is the snapshot of a thread's registers on its stack while the thread
is not running.  A layout fixes which registers it holds, in which order.  From
the lowest address upward a frame consists of a tag word, the payload (one word
for each slot) and padding to the alignment of stack pointers.

Main definitions:

- `FrameKind` tells a frame saved by a trap from one saved by a call.
- `FrameLayout` is the ordered list of slots; `FrameLayout.tag`,
  `FrameLayout.frameSize` and `FrameLayout.slotOffset?` are read off it.
- `FrameLayouts` is the pair of layouts in use; `FrameLayouts.standard` is the
  pair for the standard calling convention.
-/

namespace HartKernel

/-- The frame variant. -/
inductive FrameKind where
  /-- Saved on trap entry, with every register that the interrupted code might
  be using. -/
  | interrupted
  /-- Saved by a switch that looks like a call, with the registers that survive
  a call. -/
  | cooperative
deriving DecidableEq, Repr

/-- The name of a frame variant. -/
def FrameKind.name : FrameKind → String
  | interrupted => "Interrupted"
  | cooperative => "Cooperative"

instance : Describe FrameKind := ⟨fun k => .atom k.name⟩

/-- The layout of one frame variant. -/
structure FrameLayout where
  /-- The variant. -/
  kind : FrameKind
  /-- Integer and control slots, from the lowest address upward. -/
  intSlots : List RegisterSlot
  /-- Floating-point slots, above the integer slots. -/
  fpSlots : List RegisterSlot
  /-- Whether the floating-point slots are part of the frame. -/
  includeFp : Bool
deriving DecidableEq, Repr

namespace FrameLayout

/-- The slots stored in a frame, in storage order. -/
def slots (l : FrameLayout) : List RegisterSlot :=
  l.intSlots ++ if l.includeFp then l.fpSlots else []

/-- The header word that identifies frames of the layout. -/
def tag (l : FrameLayout) : Word :=
  let base : Word := match l.kind with
    | .interrupted => 0x6b690000#64
    | .cooperative => 0x6b630000#64
  if l.includeFp then base ||| 1 else base

/-- The number of words taken by slots. -/
def payloadWords (l : FrameLayout) : Nat := l.slots.foldr (fun s n => s.words + n) 0

/-- The size of a frame in words, with tag and padding. -/
def frameWords (l : FrameLayout) : Nat := alignUp 2 (1 + l.payloadWords)

/-- The size of a frame in bytes. -/
def frameSize (l : FrameLayout) : Nat := l.frameWords * 8

/-- The distance in words from the start of a frame to a slot. -/
def slotOffset? (l : FrameLayout) (s : RegisterSlot) : Option Nat :=
  (l.slots.idxOf? s).map (1 + ·)

/-- All slots of the layout name registers. -/
def Valid (l : FrameLayout) : Prop := ∀ s ∈ l.slots, s.Exists

instance (l : FrameLayout) : Decidable l.Valid :=
  inferInstanceAs (Decidable (∀ s ∈ l.slots, s.Exists))

@[simp] theorem payloadWords_eq (l : FrameLayout) : l.payloadWords = l.slots.length := by
  unfold payloadWords
  induction l.slots with
  | nil => rfl
  | cons s ss ih =>
    rw [List.foldr_cons, ih, List.length_cons, RegisterSlot.words]
    omega

/-- A frame holds its tag and its payload. -/
theorem length_slots_lt_frameWords (l : FrameLayout) : l.slots.length < l.frameWords := by
  simp only [frameWords, alignUp, payloadWords_eq]
  omega

/-- A frame takes a multiple of the alignment of stack pointers. -/
theorem frameSize_mod (l : FrameLayout) : l.frameSize % 16 = 0 := by
  simp only [frameSize, frameWords, alignUp]
  omega

end FrameLayout

instance : Describe FrameLayout where
  form l := .record "FrameLayout"
    [("kind", form l.kind), ("int_slots", .list (l.intSlots.map form)),
     ("fp_slots", .list (l.fpSlots.map form)), ("include_fp", form l.includeFp)]

/-- The pair of layouts in use. -/
structure FrameLayouts where
  /-- The layout of frames saved on trap entry. -/
  interrupted : FrameLayout
  /-- The layout of frames saved by a call. -/
  cooperative : FrameLayout

namespace FrameLayouts

/-- The layout of a variant. -/
def layout (ls : FrameLayouts) : FrameKind → FrameLayout
  | .interrupted => ls.interrupted
  | .cooperative => ls.cooperative

/-- The slots `s lo`, ..., `s (hi - 1)`. -/
def numbered (s : Nat → RegisterSlot) (lo hi : Nat) : List RegisterSlot :=
  (List.range' lo (hi - lo)).map s

/-- The layouts of the standard calling convention.  A trap can come at any
instruction, so it saves every general register but zero and the stack pointer;
a call preserves only the return address, the saved registers and the first
argument, where a new task finds its parameter. -/
def standard (includeFp : Bool) : FrameLayouts where
  interrupted :=
    { kind := .interrupted
      intSlots := .int 1 :: numbered .int 3 32 ++ [.pc, .status]
      fpSlots := numbered .float 0 32 ++ [.floatStatus]
      includeFp }
  cooperative :=
    { kind := .cooperative
      intSlots := .int 1 :: .int 8 :: .int 9 :: numbered .int 18 28 ++ [.int 10, .pc]
      fpSlots := .float 8 :: .float 9 :: numbered .float 18 28 ++ [.floatStatus]
      includeFp }

end FrameLayouts

end HartKernel
