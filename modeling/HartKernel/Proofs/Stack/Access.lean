import HartKernel.Proofs.Frame.Slots
import HartKernel.Proofs.Frame.InPlace
import Mathlib.Order.Bounds.Basic

/-!
# Accesses to stack regions

A stack pointer can be any word, so every access checks its range first.  The machine
computes with words: the end of a range is the result of an addition that can overflow,
and the index of a word that of a subtraction that can wrap around.  Here these
computations are written down with all their checks.  They come to what plain numbers
come to, and no check but those of the alignment and of the range ever fails.

Main definitions:

- `StackRegion.locate` finds the place of a range, computed with words.
- `StackRegion.sliceInPlace` and `StackRegion.overwriteInPlace` read and overwrite a
  range, with the bounds of the memory checked once more.

Main results:

- `StackRegion.locate_eq`: computing with words accepts the same ranges.
- `StackRegion.sliceInPlace_eq` and `StackRegion.overwriteInPlace_eq`: the accesses do
  what `StackRegion.slice` and `StackRegion.writeAll` do.
- `StackRegion.read_write`: what is read after a word was overwritten.
- `StackRegion.accesses_exact`: all of it.
-/

namespace HartKernel

namespace Word

/-- Clearing the lowest four bits is shifting them out. -/
theorem and_not_fifteen (w : Word) : w &&& ~~~15#64 = (w >>> 4) <<< 4 := by
  ext i hi
  have hmask : (15#64)[i] = decide (i < 4) := by
    rw [← BitVec.getLsbD_eq_getElem, BitVec.getLsbD_ofNat, decide_eq_true hi, Bool.true_and]
    exact Nat.testBit_two_pow_sub_one 4 i
  rw [BitVec.getElem_and, BitVec.getElem_not, BitVec.getElem_shiftLeft, hmask]
  by_cases h : i < 4
  · simp [h]
  · have hback : 4 + (i - 4) = i := by omega
    simp [h, BitVec.getElem_ushiftRight, hback, hi]

theorem toNat_and_not_fifteen (w : Word) : (w &&& ~~~15#64).toNat = alignDown 16 w.toNat := by
  have hlt := w.isLt
  rw [and_not_fifteen, BitVec.toNat_shiftLeft, BitVec.toNat_ushiftRight, Nat.shiftLeft_eq,
    Nat.shiftRight_eq_div_pow, alignDown]
  omega

end Word

/-- The largest multiple that is not larger than a number. -/
theorem isGreatest_alignDown (unit n : Nat) :
    IsGreatest {a | unit ∣ a ∧ a ≤ n} (alignDown unit n) := by
  refine ⟨⟨Nat.dvd_of_mod_eq_zero (alignDown_mod unit n), alignDown_le unit n⟩, ?_⟩
  rintro a ⟨⟨k, rfl⟩, hle⟩
  have hdiv : alignDown unit n = unit * (n / unit) := by
    have hsum := Nat.div_add_mod n unit
    rw [alignDown]
    omega
  rw [hdiv]
  rcases Nat.eq_zero_or_pos unit with rfl | hpos
  · rw [Nat.zero_mul, Nat.zero_mul]
  · exact Nat.mul_le_mul_left unit ((Nat.le_div_iff_mul_le hpos).2 (by rwa [Nat.mul_comm]))

namespace StackRegion

variable {r r' : StackRegion} {addr addr' count bytes v : Word} {vs : List Word} {i n : Nat}

/-! ## Computing with words -/

/-- The lowest address, as a word. -/
def baseWord (r : StackRegion) : Word := BitVec.ofNat 64 r.base

/-- One past the highest address, as a word. -/
def topWord (r : StackRegion) : Word := r.baseWord + BitVec.ofNat 64 r.size * 8

/-- The top with the lowest bits cleared. -/
def alignedTopWord (r : StackRegion) : Word := r.topWord &&& ~~~15

/-- The `bytes` bytes from `addr` upward lie inside, if their end is a word at all. -/
def containsWords (r : StackRegion) (addr bytes : Word) : Bool :=
  decide (r.baseWord ≤ addr) && !addr.uaddOverflow bytes && decide (addr + bytes ≤ r.topWord)

/-- The word index of `addr`, if `bytes` bytes from there upward may be accessed. -/
def indexWords (r : StackRegion) (addr bytes : Word) : Except FrameError Word :=
  if addr % 8 ≠ 0 then .error .misaligned
  else if r.containsWords addr bytes then .ok ((addr - r.baseWord) / 8)
  else .error .outOfRegion

/-- The place of `count` words from `addr` upward.  The number of bytes has to be a word,
and so has the index after the last word. -/
def locate (r : StackRegion) (addr count : Word) : Except Panic (Except FrameError Nat) := do
  Panic.require (¬count.umulOverflow 8) .overflow
  match r.indexWords addr (count * 8) with
  | .error e => return .error e
  | .ok i =>
    Panic.require (¬i.uaddOverflow count) .overflow
    return .ok i.toNat

/-- Read `count` words from `addr` upward, which have to be there. -/
def sliceInPlace (r : StackRegion) (addr count : Word) :
    Except Panic (Except FrameError (List Word)) := do
  match ← r.locate addr count with
  | .error e => return .error e
  | .ok i =>
    let ws ← r.borrow i count.toNat
    return .ok ws

/-- Overwrite the words from `addr` upward, which have to be there. -/
def overwriteInPlace (r : StackRegion) (addr : Word) (vs : List Word) :
    Except Panic (Except FrameError Unit × StackRegion) := do
  match ← r.locate addr (BitVec.ofNat 64 vs.length) with
  | .error e => return (.error e, r)
  | .ok i =>
    let _ ← r.borrow i vs.length
    return (.ok (), r.putAll i vs)

theorem toNat_baseWord (r : StackRegion) : r.baseWord.toNat = r.base := by
  have htop := r.top_lt
  rw [baseWord, BitVec.toNat_ofNat]
  omega

theorem toNat_topWord (r : StackRegion) : r.topWord.toNat = r.top := by
  have htop := r.top_lt
  change r.base + 8 * r.size < _ at htop
  rw [topWord, BitVec.toNat_add, BitVec.toNat_mul, toNat_baseWord, BitVec.toNat_ofNat, top,
    byteSize]
  change (r.base + r.size % 2 ^ 64 * 8 % 2 ^ 64) % 2 ^ 64 = _
  omega

theorem toNat_alignedTopWord (r : StackRegion) : r.alignedTopWord.toNat = r.alignedTop :=
  (Word.toNat_and_not_fifteen r.topWord).trans (congrArg (alignDown 16) r.toNat_topWord)

/-- A range whose end is no word is not inside. -/
theorem containsWords_iff :
    r.containsWords addr bytes = true ↔ r.Contains addr.toNat bytes.toNat := by
  have htop : r.top < 2 ^ 64 := by
    have := r.top_lt
    exact this
  unfold containsWords Contains
  rw [Bool.and_eq_true, Bool.and_eq_true, decide_eq_true_eq, decide_eq_true_eq, BitVec.le_def,
    BitVec.le_def, toNat_baseWord, toNat_topWord, Bool.not_eq_true', BitVec.uaddOverflow,
    decide_eq_false_iff_not, and_assoc]
  refine and_congr_right fun _ => ?_
  by_cases hover : addr.toNat + bytes.toNat < 2 ^ 64
  · rw [BitVec.toNat_add_of_lt hover]
    exact and_iff_right (Nat.not_le.2 hover)
  · exact iff_of_false (fun h => hover (Nat.not_le.1 h.1)) (by omega)

theorem toNat_mul_eight (h : 8 * count.toNat < 0x10000000000000000) :
    (count * 8).toNat = 8 * count.toNat := by
  rw [BitVec.toNat_mul]
  change count.toNat * 8 % 2 ^ 64 = _
  omega

/-- Computing with words accepts the same ranges, and gives the same place. -/
theorem indexWords_eq (h : 8 * count.toNat < 0x10000000000000000) :
    (r.indexWords addr (count * 8)).map BitVec.toNat = r.index addr.toNat count.toNat := by
  have haligned : addr % 8 ≠ 0 ↔ addr.toNat % 8 ≠ 0 := by
    rw [Ne, ← BitVec.toNat_inj, BitVec.toNat_umod]
    rfl
  unfold indexWords index
  by_cases h8 : addr.toNat % 8 = 0
  · rw [if_neg (mt haligned.1 (not_not_intro h8)), if_neg (not_not_intro h8)]
    by_cases hinside : r.Contains addr.toNat (8 * count.toNat)
    · have hwords : r.containsWords addr (count * 8) = true :=
        containsWords_iff.2 (toNat_mul_eight h ▸ hinside)
      have hbase : r.baseWord ≤ addr := by
        rw [BitVec.le_def, toNat_baseWord]
        exact hinside.1
      rw [if_pos hwords, if_pos hinside]
      refine congrArg Except.ok ?_
      rw [BitVec.toNat_udiv, BitVec.toNat_sub_of_le hbase, toNat_baseWord]
      rfl
    · have hwords : ¬r.containsWords addr (count * 8) = true := fun hc =>
        hinside (toNat_mul_eight h ▸ containsWords_iff.1 hc)
      rw [if_neg hwords, if_neg hinside]
      rfl
  · rw [if_pos (haligned.2 h8), if_pos h8]
    rfl

/-! ## Accesses with all checks -/

/-- The number of bytes is a word exactly if the multiplication does not overflow. -/
theorem locate_eq (r : StackRegion) (addr count : Word) :
    r.locate addr count = do
      checkCount count.toNat
      return r.index addr.toNat count.toNat := by
  have hcount : ¬count.umulOverflow 8 ↔ 8 * count.toNat < 0x10000000000000000 := by
    rw [BitVec.umulOverflow, decide_eq_true_eq, Nat.not_le, Nat.mul_comm]
    rfl
  unfold locate checkCount
  by_cases h : 8 * count.toNat < 0x10000000000000000
  · have hindex : (r.indexWords addr (count * 8)).map BitVec.toNat =
        r.index addr.toNat count.toNat := indexWords_eq h
    rw [Panic.require_of (hcount.2 h), Panic.require_of h, ok_bind, ok_bind]
    cases hwords : r.indexWords addr (count * 8) with
    | error e =>
      rw [hwords] at hindex
      exact congrArg Except.ok hindex
    | ok i =>
      rw [hwords] at hindex
      -- the index after the last word is not larger than the size of the region
      have hsize := add_le_size_of_index hindex.symm
      have htop := r.top_lt
      change r.base + 8 * r.size < _ at htop
      have hsum : ¬i.uaddOverflow count := by
        rw [BitVec.uaddOverflow, decide_eq_true_eq]
        omega
      dsimp only
      rw [Panic.require_of hsum]
      exact congrArg Except.ok hindex
  · rw [Panic.require, if_neg (mt hcount.1 h), Panic.require, if_neg h]
    rfl

/-- Reading with all checks is reading. -/
theorem sliceInPlace_eq (r : StackRegion) (addr count : Word) :
    r.sliceInPlace addr count = r.slice addr count.toNat := by
  unfold sliceInPlace slice
  rw [locate_eq, bind_assoc]
  refine congrArg _ (funext fun _ => ?_)
  rw [pure_bind]
  cases hindex : r.index addr.toNat count.toNat with
  | error e => rfl
  | ok i =>
    dsimp only
    rw [borrow_of_index hindex]
    rfl

/-- Overwriting with all checks is overwriting. -/
theorem overwriteInPlace_eq (r : StackRegion) (addr : Word)
    (h : 8 * vs.length < 0x10000000000000000) :
    r.overwriteInPlace addr vs = .ok (r.writeAll addr vs) := by
  have hlength : (BitVec.ofNat 64 vs.length).toNat = vs.length := by
    rw [BitVec.toNat_ofNat]
    omega
  unfold overwriteInPlace writeAll
  rw [locate_eq, hlength, checkCount, Panic.require_of h, ok_bind, pure_bind]
  cases hindex : r.index addr.toNat vs.length with
  | error e => rfl
  | ok i =>
    dsimp only
    rw [borrow_of_index hindex]
    rfl

/-! ## How an access is answered -/

/-- How an access to `n` words from `addr` upward has to be answered.  It is refused
exactly if the address is not aligned, or if it is and the range leaves the region.  If
it is granted the words are those from an index upward that belongs to the address, and
something holds of the index and the answer. -/
structure Access {α : Type} (r : StackRegion) (addr : Word) (n : Nat)
    (answer : Except FrameError α) (done : Nat → α → Prop) : Prop where
  misaligned : answer = .error .misaligned ↔ addr.toNat % 8 ≠ 0
  outOfRegion : answer = .error .outOfRegion ↔
    addr.toNat % 8 = 0 ∧ ¬(r.base ≤ addr.toNat ∧ addr.toNat + 8 * n ≤ r.top)
  granted : addr.toNat % 8 = 0 → r.base ≤ addr.toNat → addr.toNat + 8 * n ≤ r.top →
    ∃ i a, answer = .ok a ∧ addr.toNat = r.base + 8 * i ∧ i + n ≤ r.size ∧ done i a

/-- What an access answers is read off the check of its range. -/
theorem access_of_index {α : Type} {f : Nat → α} {done : Nat → α → Prop}
    (hdone : ∀ i, r.index addr.toNat n = .ok i → done i (f i)) :
    r.Access addr n ((r.index addr.toNat n).map f) done := by
  by_cases h8 : addr.toNat % 8 = 0
  · by_cases hinside : r.Contains addr.toNat (8 * n)
    · have hindex := index_eq_place h8 hinside
      have hbase := r.base_aligned
      rw [hindex]
      constructor
      · simp [Except.map, h8]
      · simp only [Except.map, reduceCtorEq, false_iff]
        exact fun hrefused => hrefused.2 hinside
      · intro _ hlow _
        refine ⟨_, _, rfl, ?_, add_le_size_of_index hindex, hdone _ hindex⟩
        rw [place]
        omega
    · have hindex : r.index addr.toNat n = .error .outOfRegion := by
        rw [index, if_neg (not_not_intro h8), if_neg hinside]
      rw [hindex]
      constructor
      · simp [Except.map, h8]
      · exact iff_of_true rfl ⟨h8, hinside⟩
      · intro _ hlow hhigh
        exact absurd ⟨hlow, hhigh⟩ hinside
  · have hindex : r.index addr.toNat n = .error .misaligned := by
      rw [index, if_pos h8]
    rw [hindex]
    constructor
    · exact iff_of_true rfl h8
    · simp [Except.map, h8]
    · intro haligned
      exact absurd haligned h8

/-- The words of a range that lies inside. -/
theorem cells_eq_extract (h : i + n ≤ r.size) :
    r.cells i n = (r.words.extract i (i + n)).toList := by
  have hsize : i + n ≤ r.words.size := h
  apply List.ext_getElem
  · rw [length_cells, Array.length_toList, Array.size_extract]
    omega
  · intro j hj hj'
    rw [length_cells] at hj
    have hlt : i + j < r.words.size := by omega
    rw [getElem_cells, Array.getElem_toList, Array.getElem_extract, cell,
      Array.getElem?_eq_getElem hlt, Option.getD_some]

/-- Overwriting leaves the words before and after. -/
theorem toList_words_putAll (h : i + vs.length ≤ r.size) :
    (r.putAll i vs).words.toList =
      r.words.toList.take i ++ vs ++ r.words.toList.drop (i + vs.length) := by
  induction vs generalizing r i with
  | nil => rw [putAll, List.append_nil, List.length_nil, Nat.add_zero, List.take_append_drop]
  | cons v vs ih =>
    rw [List.length_cons] at h
    have hlt : i < r.words.toList.length := by
      rw [Array.length_toList]
      exact Nat.lt_of_lt_of_le (by omega) h
    have hset : (r.put i v).words.toList =
        r.words.toList.take i ++ v :: r.words.toList.drop (i + 1) := by
      rw [put, Array.toList_setIfInBounds, List.set_eq_take_append_cons_drop, if_pos hlt]
    have htake : (r.words.toList.take i).length = i := List.length_take_of_le hlt.le
    have hfront : (r.words.toList.take i ++ v :: r.words.toList.drop (i + 1)).take (i + 1) =
        r.words.toList.take i ++ [v] := by
      rw [List.take_append, htake, List.take_of_length_le (by omega), Nat.add_sub_cancel_left]
      rfl
    have hback : (r.words.toList.take i ++ v :: r.words.toList.drop (i + 1)).drop
        (i + 1 + vs.length) = r.words.toList.drop (i + (vs.length + 1)) := by
      rw [List.drop_append, htake, List.drop_of_length_le (by omega), List.nil_append,
        show i + 1 + vs.length - i = vs.length + 1 by omega, List.drop_succ_cons, List.drop_drop]
      congr 1
      omega
    rw [putAll, ih (by rw [size_put]; omega), hset, hfront, hback, List.length_cons,
      List.append_assoc, List.append_assoc, List.append_assoc]
    rfl

theorem fst_writeAll (r : StackRegion) (addr : Word) (vs : List Word) :
    (r.writeAll addr vs).1 = (r.index addr.toNat vs.length).map fun _ => () := by
  unfold writeAll
  cases r.index addr.toNat vs.length <;> rfl

theorem writeAll_of_index (h : r.index addr.toNat vs.length = .ok i) :
    r.writeAll addr vs = (.ok (), r.putAll i vs) := by
  rw [writeAll, h]

/-- A range that cannot be overwritten is left alone. -/
theorem writeAll_refused (h : (r.writeAll addr vs).1 ≠ .ok ()) : (r.writeAll addr vs).2 = r := by
  rw [fst_writeAll] at h
  unfold writeAll
  cases hindex : r.index addr.toNat vs.length with
  | error e => rfl
  | ok i => exact absurd (congrArg _ hindex) h

theorem base_writeAll (r : StackRegion) (addr : Word) (vs : List Word) :
    (r.writeAll addr vs).2.base = r.base := by
  unfold writeAll
  cases r.index addr.toNat vs.length with
  | error e => rfl
  | ok i => exact base_putAll ..

/-- What is read after a word was overwritten: the new word at its address, and what was
read before anywhere else. -/
theorem read_write (h : r.write addr v = (.ok (), r')) (addr' : Word) :
    r'.read addr' = if addr' = addr then .ok v else r.read addr' := by
  unfold write writeAll at h
  split at h
  · rename_i i hindex
    obtain ⟨-, rfl⟩ := Prod.mk.inj h
    have hin := add_le_size_of_index hindex
    obtain ⟨h8, ⟨hlow, -⟩, hi⟩ := index_eq_ok_iff.1 hindex
    have hbase := r.base_aligned
    have hcell : ∀ j, (r.putAll i [v]).cell j = if i = j ∧ j < r.size then v else r.cell j :=
      fun j => r.cell_put i j v
    rw [read, index_congr (base_putAll ..) (size_putAll ..), read]
    split
    · rename_i haddr
      rw [haddr, show r.index addr.toNat 1 = .ok i from hindex]
      exact congrArg Except.ok ((hcell i).trans (if_pos ⟨rfl, hin⟩))
    · rename_i haddr
      cases hindex' : r.index addr'.toNat 1 with
      | error e => rfl
      | ok j =>
        obtain ⟨h8', ⟨hlow', -⟩, hj⟩ := index_eq_ok_iff.1 hindex'
        -- aligned addresses in the region are told apart by their indices
        have hne : i ≠ j := by
          intro hij
          exact haddr (BitVec.eq_of_toNat_eq (by omega))
        exact congrArg Except.ok ((hcell j).trans (if_neg fun hboth => hne hboth.1))
  · cases (Prod.mk.inj h).1

/-- Reading a word is reading a range of one word. -/
theorem slice_one (r : StackRegion) (addr : Word) :
    r.slice addr 1 = .ok ((r.read addr).map fun w => [w]) := by
  unfold slice read
  rw [checkCount, Panic.require_of (by decide), ok_bind]
  cases r.index addr.toNat 1 <;> rfl

/-- All accesses to a region are exact.  A range of words that can be counted in bytes
is read or overwritten with all checks passed, unless its address is not aligned or the
range, counted in plain numbers, leaves the region; what is read are the words of the
range, and overwriting replaces these words and no others.  Accesses to a single word are
the accesses to a range of one word: a word is overwritten exactly if its address is
aligned and it lies inside, and then it reads as the new word, and all other reads answer
as before.  The initial stack pointer is the largest aligned address up to the top. -/
theorem accesses_exact (r : StackRegion) :
    (∀ addr count : Word, 8 * count.toNat < 0x10000000000000000 →
      ∃ answer, r.slice addr count.toNat = .ok answer ∧
        r.sliceInPlace addr count = .ok answer ∧
        r.Access addr count.toNat answer fun i ws =>
          ws = (r.words.extract i (i + count.toNat)).toList) ∧
    (∀ (addr : Word) (vs : List Word), 8 * vs.length < 0x10000000000000000 →
      ∃ answer r', r.writeAll addr vs = (answer, r') ∧
        r.overwriteInPlace addr vs = .ok (answer, r') ∧ r'.base = r.base ∧
        (answer ≠ .ok () → r' = r) ∧
        r.Access addr vs.length answer fun i _ => r'.words.toList =
          r.words.toList.take i ++ vs ++ r.words.toList.drop (i + vs.length)) ∧
    (∀ addr v : Word, ∃ answer r', r.write addr v = (answer, r') ∧
      r.overwriteInPlace addr [v] = .ok (answer, r') ∧ (answer ≠ .ok () → r' = r) ∧
      r.Access addr 1 answer fun _ _ =>
        ∀ addr', r'.read addr' = if addr' = addr then .ok v else r.read addr') ∧
    (∀ addr : Word, r.slice addr 1 = .ok ((r.read addr).map fun w => [w])) ∧
    IsGreatest {a | 16 ∣ a ∧ a ≤ r.top} r.alignedTop ∧
    r.alignedTopWord.toNat = r.alignedTop := by
  refine ⟨fun addr count h => ?_, fun addr vs h => ?_, fun addr v => ?_, r.slice_one,
    isGreatest_alignDown 16 r.top, r.toNat_alignedTopWord⟩
  · have hslice : r.slice addr count.toNat =
        .ok ((r.index addr.toNat count.toNat).map fun i => r.cells i count.toNat) := by
      rw [slice, checkCount, Panic.require_of h]
      rfl
    refine ⟨_, hslice, (r.sliceInPlace_eq addr count).trans hslice, access_of_index fun i hi => ?_⟩
    exact cells_eq_extract (add_le_size_of_index hi)
  · refine ⟨(r.writeAll addr vs).1, (r.writeAll addr vs).2, rfl, r.overwriteInPlace_eq addr h,
      r.base_writeAll addr vs, writeAll_refused, ?_⟩
    rw [fst_writeAll]
    refine access_of_index fun i hi => ?_
    rw [writeAll_of_index hi]
    exact toList_words_putAll (add_le_size_of_index hi)
  · refine ⟨(r.write addr v).1, (r.write addr v).2, rfl,
      r.overwriteInPlace_eq addr (by simp), writeAll_refused, ?_⟩
    have hanswer : (r.write addr v).1 = (r.index addr.toNat 1).map fun _ => () :=
      r.fst_writeAll addr [v]
    rw [hanswer]
    refine access_of_index fun i hi => ?_
    have hwrite : r.write addr v = (.ok (), r.putAll i [v]) := writeAll_of_index hi
    rw [hwrite]
    exact read_write hwrite

/-- In a region of three words whose base is no multiple of 16, a range at the end of
memory is outside although its end would wrap around into the region, the empty range at
the top is inside, and overwriting the last two words leaves the first.  The last word can
be overwritten alone, which leaves the one before it, and the one at the top cannot. -/
theorem accesses_exact_three : ∃ r : StackRegion, r.base = 0x40000008 ∧
    r.sliceInPlace 0xfffffffffffffff8 0x8000003 = .ok (.error .outOfRegion) ∧
    r.sliceInPlace 0x40000020 0 = .ok (.ok []) ∧
    (∃ r', r.overwriteInPlace 0x40000010 [8, 9] = .ok (.ok (), r') ∧
      r'.words.toList = [1, 8, 9]) ∧
    (∃ r', r.write 0x40000018 7 = (.ok (), r') ∧ r'.read 0x40000018 = .ok 7 ∧
      r'.read 0x40000010 = .ok 2) ∧
    r.write 0x40000020 7 = (.error .outOfRegion, r) ∧
    IsGreatest {a | 16 ∣ a ∧ a ≤ 0x40000020} r.alignedTop := by
  have hbefore : (⟨0x40000008, #[1, 2, 3], by decide, by decide⟩ : StackRegion).read 0x40000010 =
      .ok 2 := by decide
  let r : StackRegion := ⟨0x40000008, #[1, 2, 3], by decide, by decide⟩
  obtain ⟨hslice, hwrite, hword, -, htop, -⟩ := accesses_exact r
  obtain ⟨outside, -, houtside, haccess⟩ := hslice 0xfffffffffffffff8 0x8000003 (by decide)
  obtain ⟨none, -, hnone, hnothing⟩ := hslice 0x40000020 0 (by decide)
  obtain ⟨i, ws, rfl, -, -, hws⟩ := hnothing.granted (by decide) (by decide) (by decide)
  obtain ⟨done, r', -, hdone, -, -, hlast⟩ := hwrite 0x40000010 [8, 9] (by decide)
  obtain ⟨j, u, rfl, hplace, -, hwords⟩ := hlast.granted (by decide) (by decide) (by decide)
  obtain ⟨alone, q, halone, -, -, hlastWord⟩ := hword 0x40000018 7
  obtain ⟨k, v, rfl, -, -, hreads⟩ := hlastWord.granted (by decide) (by decide) (by decide)
  obtain ⟨above, q', habove, -, hkept, hnoWord⟩ := hword 0x40000020 7
  have hrefused : above = .error .outOfRegion := hnoWord.outOfRegion.2 (by decide)
  have hsame : q' = r := hkept (by rw [hrefused]; decide)
  refine ⟨r, rfl, ?_, ?_, ⟨r', hdone, ?_⟩,
    ⟨q, halone, hreads 0x40000018, (hreads 0x40000010).trans hbefore⟩, ?_, htop⟩
  · rw [houtside, haccess.outOfRegion.2 (by decide)]
  · rw [hnone, hws]
    simp
  · have hj : j = 1 := by
      change 0x40000010 = 0x40000008 + 8 * j at hplace
      omega
    rw [hwords, hj]
    rfl
  · rw [habove, hrefused, hsame]

end StackRegion

end HartKernel
