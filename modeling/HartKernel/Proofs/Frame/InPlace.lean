import HartKernel.Proofs.Frame.Codec

/-!
# Frames in place

Memory sees a frame being written and read slot by slot: the words of the frame are
borrowed, and each slot splits its words off what is left.  Here every split and every
access is checked.  Written down this way, saving and restoring are what they are when
the words of a frame are looked at as one list, so none of the checks fails.

Main definitions:

- `FrameLayout.storeSlots` writes registers slot by slot and zeros behind them,
  `FrameLayout.loadSlots` reads them.
- `FrameLayout.saveInPlace` and `FrameLayout.restoreInPlace` push and pop a frame.

Main results:

- `FrameLayout.saveInPlace_eq` and `FrameLayout.restoreInPlace_eq`: they do what
  `FrameLayout.save` and `FrameLayout.restore` do, panics included.
-/

namespace HartKernel

namespace StackRegion

/-- The `count` words from index `i` upward, which have to be inside. -/
def borrow (region : StackRegion) (i count : Nat) : Except Panic (List Word) := do
  Panic.require (i + count ≤ region.size) .outOfBounds
  return region.cells i count

@[simp] theorem length_cells (region : StackRegion) (i count : Nat) :
    (region.cells i count).length = count := by
  simp [cells]

theorem getElem_cells (region : StackRegion) (i : Nat) {count j : Nat}
    (hj : j < (region.cells i count).length) : (region.cells i count)[j] = region.cell (i + j) := by
  simp [cells]

theorem drop_cells (region : StackRegion) (i count n : Nat) :
    (region.cells i count).drop n = region.cells (i + n) (count - n) := by
  apply List.ext_getElem
  · simp
  · intro j hj hj'
    rw [List.getElem_drop, getElem_cells, getElem_cells, Nat.add_assoc]

theorem take_cells (region : StackRegion) (i : Nat) {count n : Nat} (hn : n ≤ count) :
    (region.cells i count).take n = region.cells i n := by
  apply List.ext_getElem
  · rw [List.length_take, length_cells, length_cells, Nat.min_eq_left hn]
  · intro j hj hj'
    rw [List.getElem_take, getElem_cells, getElem_cells]

/-- Words that were overwritten are the words that they were overwritten with. -/
theorem cells_putAll (region : StackRegion) (i : Nat) {vs : List Word}
    (h : i + vs.length ≤ region.size) : (region.putAll i vs).cells i vs.length = vs := by
  apply List.ext_getElem
  · rw [length_cells]
  · intro j hj hj'
    rw [getElem_cells, cell_putAll _ _ _ _ h, if_pos (by omega), Nat.add_sub_cancel_left,
      List.getElem?_eq_getElem hj', Option.getD_some]

/-- An accepted range can be borrowed. -/
theorem borrow_of_index {region : StackRegion} {addr count i : Nat}
    (h : region.index addr count = .ok i) : region.borrow i count = .ok (region.cells i count) := by
  rw [borrow, Panic.require_of (add_le_size_of_index h)]
  rfl

end StackRegion

namespace FrameLayout

variable {l : FrameLayout} {region : StackRegion} {r q : RegisterFile} {sp : Word}
variable {slots : List RegisterSlot} {ws : List Word} {n : Nat}

/-! ## Words of one slot -/

/-- Split the first `n` words off, which have to be there. -/
def splitOff (n : Nat) (ws : List Word) : Except Panic (List Word × List Word) := do
  Panic.require (n ≤ ws.length) .outOfBounds
  return (ws.take n, ws.drop n)

/-- Write a value to the words of a slot, lowest part first. -/
def encode (v : Word) (cell : List Word) : List Word := cell.mapIdx fun i _ => v >>> (64 * i)

/-- Read a value from the words of a slot. -/
def decode (cell : List Word) : Word :=
  cell.zipIdx.foldl (fun (v : Word) (a : Word × Nat) => v ||| a.1 <<< (64 * a.2)) 0

theorem splitOff_of_le (h : n ≤ ws.length) : splitOff n ws = .ok (ws.take n, ws.drop n) := by
  rw [splitOff, Panic.require_of h]
  rfl

@[simp] theorem encode_singleton (v w : Word) : encode v [w] = [v] := by simp [encode]

@[simp] theorem decode_singleton (w : Word) : decode [w] = w := by simp [decode]

/-! ## All slots of a frame -/

/-- Write registers to the words of a frame, slot by slot.  What is left is padding. -/
def storeSlots (r : RegisterFile) : List RegisterSlot → List Word → Except Panic (List Word)
  | [], rest => return rest.map fun _ => 0
  | s :: slots, ws => do
    let (cell, rest) ← splitOff s.words ws
    let v ← r.fetch s
    let stored ← storeSlots r slots rest
    return encode v cell ++ stored

/-- Assign the words of a frame to registers, slot by slot. -/
def loadSlots : List RegisterSlot → List Word → RegisterFile → Except Panic RegisterFile
  | [], _, q => return q
  | s :: slots, ws, q => do
    let (cell, rest) ← splitOff s.words ws
    let q ← q.assign s (decode cell)
    loadSlots slots rest q

/-- Writing goes well if all slots name registers, and no split fails. -/
theorem storeSlots_eq (h : slots.length ≤ ws.length) :
    storeSlots r slots ws = if ∀ s ∈ slots, s.Exists then
      .ok (slots.map r.get ++ List.replicate (ws.length - slots.length) 0)
    else .error .outOfBounds := by
  induction slots generalizing ws with
  | nil =>
    rw [if_pos (by simp), storeSlots, List.map_const']
    rfl
  | cons s slots ih =>
    obtain ⟨w, rest, rfl⟩ := List.exists_cons_of_length_pos (Nat.zero_lt_of_lt h)
    have hrest : slots.length ≤ rest.length := Nat.le_of_succ_le_succ h
    rw [storeSlots, RegisterSlot.words, splitOff_of_le (by simp), ok_bind]
    dsimp only
    rw [RegisterFile.fetch, RegisterFile.checkSlot]
    by_cases hs : s.Exists
    · rw [Panic.require_of hs, ok_bind, pure_bind, List.drop_one, List.tail_cons, ih hrest]
      by_cases hslots : ∀ s ∈ slots, s.Exists
      · rw [if_pos hslots, if_pos (List.forall_mem_cons.2 ⟨hs, hslots⟩)]
        simp
      · rw [if_neg hslots, if_neg fun h => hslots (List.forall_mem_cons.1 h).2]
        rfl
    · rw [Panic.require, if_neg hs, if_neg fun h => hs (List.forall_mem_cons.1 h).1]
      rfl

/-- Reading goes well if all slots name registers, and no split fails. -/
theorem loadSlots_eq (h : slots.length ≤ ws.length) :
    loadSlots slots ws q = if ∀ s ∈ slots, s.Exists then
      .ok (q.setAll (slots.zip (ws.take slots.length)))
    else .error .outOfBounds := by
  induction slots generalizing ws q with
  | nil =>
    rw [if_pos (by simp)]
    rfl
  | cons s slots ih =>
    obtain ⟨w, rest, rfl⟩ := List.exists_cons_of_length_pos (Nat.zero_lt_of_lt h)
    have hrest : slots.length ≤ rest.length := Nat.le_of_succ_le_succ h
    rw [loadSlots, RegisterSlot.words, splitOff_of_le (by simp), ok_bind]
    dsimp only
    rw [RegisterFile.assign, RegisterFile.checkSlot]
    by_cases hs : s.Exists
    · rw [Panic.require_of hs, ok_bind, pure_bind, List.take_one, List.head?_cons,
        Option.toList_some, decode_singleton]
      rw [List.drop_one, List.tail_cons, ih hrest]
      by_cases hslots : ∀ s ∈ slots, s.Exists
      · rw [if_pos hslots, if_pos (List.forall_mem_cons.2 ⟨hs, hslots⟩)]
        rfl
      · rw [if_neg hslots, if_neg fun h => hslots (List.forall_mem_cons.1 h).2]
    · rw [Panic.require, if_neg hs, if_neg fun h => hs (List.forall_mem_cons.1 h).1]
      rfl

/-! ## Whole frames -/

/-- Write the tag to the first word of a frame and registers to the others. -/
def storeFrame (l : FrameLayout) (r : RegisterFile) (ws : List Word) :
    Except Panic (List Word) := do
  let (header, payload) ← splitOff 1 ws
  Panic.require (0 < header.length) .outOfBounds
  let stored ← storeSlots r l.slots payload
  return header.set 0 l.tag ++ stored

/-- Push a frame with the contents of `r` below `sp`, slot by slot. -/
def saveInPlace (l : FrameLayout) (r : RegisterFile) (region : StackRegion) (sp : Word) :
    Except Panic (Except FrameError Word × StackRegion) :=
  if sp.toNat % 16 ≠ 0 then .ok (.error .misaligned, region)
  else if region.top < sp.toNat ∨ sp.toNat < region.base then .ok (.error .outOfRegion, region)
  else
    -- the subtraction is checked as well: nothing lies below address zero
    match (if l.frameSize ≤ sp.toNat then some (sp.toNat - l.frameSize) else none).filter
        fun frameSp => region.base ≤ frameSp with
    | none => .ok (.error .stackOverflow, region)
    | some frameSp =>
      match region.index frameSp l.frameWords with
      | .error e => .ok (.error e, region)
      | .ok i => do
        let ws ← region.borrow i l.frameWords
        let stored ← l.storeFrame r ws
        return (.ok (BitVec.ofNat 64 frameSp), region.putAll i stored)

/-- Pop the frame at `sp` into `q`, slot by slot. -/
def restoreInPlace (l : FrameLayout) (region : StackRegion) (sp : Word) (q : RegisterFile) :
    Except Panic (Except FrameError Word × RegisterFile) :=
  if sp.toNat % 16 ≠ 0 then .ok (.error .misaligned, q)
  else
    match l.checkTag region sp with
    | .error e => .ok (.error e, q)
    | .ok () =>
      match region.index sp.toNat l.frameWords with
      | .error e => .ok (.error e, q)
      | .ok i => do
        let ws ← region.borrow i l.frameWords
        let (_, payload) ← splitOff 1 ws
        let q ← loadSlots l.slots payload q
        return (.ok (BitVec.ofNat 64 (sp.toNat + l.frameSize)), q)

theorem storeFrame_eq (h : ws.length = l.frameWords) :
    l.storeFrame r ws = if l.Valid then .ok (l.image r) else .error .outOfBounds := by
  have hslots := l.length_slots_lt_frameWords
  obtain ⟨w, rest, rfl⟩ := List.exists_cons_of_length_pos (h ▸ l.frameWords_pos)
  rw [List.length_cons] at h
  rw [storeFrame, splitOff_of_le (by simp), ok_bind]
  dsimp only
  rw [Panic.require_of (by simp), ok_bind, List.drop_one, List.tail_cons,
    storeSlots_eq (by omega)]
  change ((if l.Valid then _ else _) >>= _) = _
  split
  · rw [ok_bind, image, ← h, Nat.add_sub_cancel]
    rfl
  · rfl

/-- Saving slot by slot does what saving the words of a frame at once does. -/
theorem saveInPlace_eq (l : FrameLayout) (r : RegisterFile) (region : StackRegion) (sp : Word) :
    l.saveInPlace r region sp = (l.save r region sp).result := by
  unfold saveInPlace save
  split
  · rfl
  · split
    · rfl
    · by_cases hroom : sp.toNat < region.base + l.frameSize
      · have hnone : (if l.frameSize ≤ sp.toNat then some (sp.toNat - l.frameSize) else none).filter
            (fun frameSp => decide (region.base ≤ frameSp)) = none := by
          rw [Option.filter_eq_none_iff]
          intro frameSp hsome
          split at hsome
          · cases hsome
            simp only [decide_eq_true_eq]
            omega
          · cases hsome
        rw [hnone, if_pos hroom]
        rfl
      · have hsome : (if l.frameSize ≤ sp.toNat then some (sp.toNat - l.frameSize) else none).filter
            (fun frameSp => decide (region.base ≤ frameSp)) = some (sp.toNat - l.frameSize) := by
          rw [if_pos (by omega), Option.filter_some, if_pos (decide_eq_true (by omega))]
        rw [hsome, if_neg hroom]
        dsimp only
        cases hindex : region.index (sp.toNat - l.frameSize) l.frameWords with
        | error e => rfl
        | ok i =>
          dsimp only
          rw [StackRegion.borrow_of_index hindex, ok_bind,
            storeFrame_eq (StackRegion.length_cells ..)]
          by_cases hl : l.Valid
          · simp [hl, Panic.require_of]
          · simp [hl, Panic.require]

/-- Restoring slot by slot does what assigning the words of a frame at once does. -/
theorem restoreInPlace_eq (l : FrameLayout) (region : StackRegion) (sp : Word) (q : RegisterFile) :
    l.restoreInPlace region sp q = (l.restore region sp q).result := by
  have hslots := l.length_slots_lt_frameWords
  unfold restoreInPlace restore
  split
  · rfl
  · cases l.checkTag region sp with
    | error e => rfl
    | ok u =>
      dsimp only
      cases hindex : region.index sp.toNat l.frameWords with
      | error e => rfl
      | ok i =>
        dsimp only
        rw [StackRegion.borrow_of_index hindex, ok_bind,
          splitOff_of_le (by rw [StackRegion.length_cells]; exact l.frameWords_pos), ok_bind]
        dsimp only
        rw [StackRegion.drop_cells, loadSlots_eq (by rw [StackRegion.length_cells]; omega),
          StackRegion.take_cells _ _ (by omega)]
        change ((if l.Valid then _ else _) >>= _) = _
        by_cases hl : l.Valid
        · simp [hl, Panic.require_of]
        · simp [hl, Panic.require]

end FrameLayout

end HartKernel
