import HartKernel.Frame.Error
import HartKernel.Panic

/-!
# Stack regions

A stack region is a contiguous, word-aligned piece of memory that a stack grows
down in.  All accesses take absolute byte addresses, the same values that end
up in the stack pointer, and are checked: first the alignment, then the range.

Main definitions:

- `StackRegion` is a base address and the words from there upward.
- `StackRegion.index` checks an address range and turns it into a word index.
- `StackRegion.read`, `StackRegion.slice`, `StackRegion.write` and
  `StackRegion.fill` access memory by address.

Main results:

- `StackRegion.index_eq_ok_iff`: a range is accepted exactly if it is aligned
  and lies inside the region.
- `StackRegion.cell_putAll`: overwriting words changes those words only.
-/

namespace HartKernel

/-- A contiguous, word-aligned memory region. -/
structure StackRegion where
  /-- The lowest address. -/
  base : Nat
  /-- The contents, from the lowest address upward. -/
  words : Array Word
  /-- The region starts on a word boundary. -/
  base_aligned : base % 8 = 0
  /-- The region ends before the end of memory. -/
  top_lt : base + 8 * words.size < 0x10000000000000000
deriving DecidableEq

namespace StackRegion

/-- A region of `count` words at `base`, each holding `value`, if memory has
room for it. -/
def make? (base count : Nat) (value : Word) : Option StackRegion :=
  if h : base % 8 = 0 ∧ base + 8 * count < 0x10000000000000000 then
    some ⟨base, Array.replicate count value, h.1, by simpa using h.2⟩
  else none

/-- The number of words. -/
def size (r : StackRegion) : Nat := r.words.size

/-- The number of bytes. -/
def byteSize (r : StackRegion) : Nat := 8 * r.size

/-- One past the highest address. -/
def top (r : StackRegion) : Nat := r.base + r.byteSize

/-- The initial stack pointer of a thread that uses the region: the top,
rounded down to the alignment of stack pointers. -/
def alignedTop (r : StackRegion) : Nat := alignDown 16 r.top

/-- The `bytes` bytes from `addr` upward lie inside the region. -/
def Contains (r : StackRegion) (addr bytes : Nat) : Prop :=
  r.base ≤ addr ∧ addr + bytes ≤ r.top

instance (r : StackRegion) (addr bytes : Nat) : Decidable (r.Contains addr bytes) :=
  inferInstanceAs (Decidable (_ ∧ _))

/-- The word index of `addr`, if `count` words from there upward may be
accessed. -/
def index (r : StackRegion) (addr count : Nat) : Except FrameError Nat :=
  if addr % 8 ≠ 0 then .error .misaligned
  else if r.Contains addr (8 * count) then .ok ((addr - r.base) / 8)
  else .error .outOfRegion

/-! ## Words by index -/

/-- The word at an index; outside the region there are zeros. -/
def cell (r : StackRegion) (i : Nat) : Word := r.words[i]?.getD 0

/-- The `count` words from index `i` upward. -/
def cells (r : StackRegion) (i count : Nat) : List Word :=
  (List.range count).map fun k => r.cell (i + k)

/-- Overwrite the word at an index. -/
def put (r : StackRegion) (i : Nat) (v : Word) : StackRegion where
  base := r.base
  words := r.words.setIfInBounds i v
  base_aligned := r.base_aligned
  top_lt := by simpa using r.top_lt

/-- Overwrite the words from index `i` upward. -/
def putAll (r : StackRegion) (i : Nat) : List Word → StackRegion
  | [] => r
  | v :: vs => (r.put i v).putAll (i + 1) vs

@[simp] theorem base_put (r : StackRegion) (i : Nat) (v : Word) : (r.put i v).base = r.base :=
  rfl

@[simp] theorem size_put (r : StackRegion) (i : Nat) (v : Word) : (r.put i v).size = r.size := by
  simp [size, put]

@[simp] theorem base_putAll (r : StackRegion) (i : Nat) (vs : List Word) :
    (r.putAll i vs).base = r.base := by
  induction vs generalizing r i with
  | nil => rfl
  | cons v vs ih => rw [putAll, ih, base_put]

@[simp] theorem size_putAll (r : StackRegion) (i : Nat) (vs : List Word) :
    (r.putAll i vs).size = r.size := by
  induction vs generalizing r i with
  | nil => rfl
  | cons v vs ih => rw [putAll, ih, size_put]

@[simp] theorem top_putAll (r : StackRegion) (i : Nat) (vs : List Word) :
    (r.putAll i vs).top = r.top := by
  simp [top, byteSize]

/-- Overwriting one word changes that word only. -/
theorem cell_put (r : StackRegion) (i j : Nat) (v : Word) :
    (r.put i v).cell j = if i = j ∧ j < r.size then v else r.cell j := by
  simp only [cell, put, size, Array.getElem?_setIfInBounds]
  split <;> rename_i h
  · subst h
    split <;> rename_i h'
    · simp [h']
    · simp [h']
  · simp [h]

/-- Overwriting words changes those words only. -/
theorem cell_putAll (r : StackRegion) (i j : Nat) (vs : List Word) (h : i + vs.length ≤ r.size) :
    (r.putAll i vs).cell j =
      if i ≤ j ∧ j < i + vs.length then vs[j - i]?.getD 0 else r.cell j := by
  induction vs generalizing r i with
  | nil =>
    have hj : ¬ (i ≤ j ∧ j < i + ([] : List Word).length) := by
      simp only [List.length_nil]
      omega
    rw [if_neg hj, putAll]
  | cons v vs ih =>
    simp only [List.length_cons] at h
    rw [putAll, ih _ _ (by rw [size_put]; omega), cell_put]
    simp only [List.length_cons]
    by_cases hj : i = j
    · subst hj
      rw [if_neg (by omega), if_pos ⟨rfl, by omega⟩, if_pos (by omega)]
      simp
    · by_cases hi : i + 1 ≤ j ∧ j < i + 1 + vs.length
      · have hk : j - i = (j - (i + 1)) + 1 := by omega
        rw [if_pos hi, if_pos (by omega), hk, List.getElem?_cons_succ]
      · rw [if_neg hi, if_neg (fun e => hj e.1), if_neg (by omega)]

/-! ## Words by address -/

/-- Read a word. -/
def read (r : StackRegion) (addr : Word) : Except FrameError Word :=
  (r.index addr.toNat 1).map r.cell

/-- A number of words has to be one whose bytes can be counted in a word. -/
def checkCount (count : Nat) : Except Panic Unit :=
  Panic.require (8 * count < 0x10000000000000000) .overflow

/-- Read `count` words from `addr` upward. -/
def slice (r : StackRegion) (addr : Word) (count : Nat) :
    Except Panic (Except FrameError (List Word)) := do
  checkCount count
  return (r.index addr.toNat count).map fun i => r.cells i count

/-- Overwrite the words from `addr` upward.  The region stays as it is if the
range is refused. -/
def writeAll (r : StackRegion) (addr : Word) (vs : List Word) :
    Except FrameError Unit × StackRegion :=
  match r.index addr.toNat vs.length with
  | .ok i => (.ok (), r.putAll i vs)
  | .error e => (.error e, r)

/-- Overwrite a word. -/
def write (r : StackRegion) (addr v : Word) : Except FrameError Unit × StackRegion :=
  r.writeAll addr [v]

/-- Assign `v` to `count` words from `addr` upward; answers how many there were. -/
def fill (r : StackRegion) (addr : Word) (count : Nat) (v : Word) :
    Except Panic (Except FrameError Nat × StackRegion) := do
  checkCount count
  match r.index addr.toNat count with
  | .ok i => return (.ok count, r.putAll i (List.replicate count v))
  | .error e => return (.error e, r)

/-- The words that are not zero, with their indices in ascending order. -/
def nonzeroCells (r : StackRegion) : List (Nat × Word) :=
  (List.range r.size).filterMap fun i => if r.cell i = 0 then none else some (i, r.cell i)

/-- A range is accepted exactly if it is aligned and lies inside the region. -/
theorem index_eq_ok_iff {r : StackRegion} {addr count i : Nat} :
    r.index addr count = .ok i ↔
      addr % 8 = 0 ∧ r.Contains addr (8 * count) ∧ i = (addr - r.base) / 8 := by
  unfold index
  by_cases h8 : addr % 8 = 0 <;> by_cases hc : r.Contains addr (8 * count) <;>
    simp [h8, hc, eq_comm]

/-- An accepted range gives an index with all its words inside the region. -/
theorem add_le_size_of_index {r : StackRegion} {addr count i : Nat}
    (h : r.index addr count = .ok i) : i + count ≤ r.size := by
  obtain ⟨h8, ⟨hb, ht⟩, rfl⟩ := index_eq_ok_iff.1 h
  have := r.base_aligned
  simp only [top, byteSize] at ht
  omega

/-- The spelling of an extent. -/
def extentText (base top : Nat) : String :=
  s!"StackRegion(0x{hexDigits base}..0x{hexDigits top})"

end StackRegion

/-- A region is shown by its first and last addresses. -/
instance : Describe StackRegion where
  form r := .atom (StackRegion.extentText r.base r.top)

end HartKernel
