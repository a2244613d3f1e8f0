import HartKernel.Trap.Cause
import Mathlib.Tactic.Common

/-!
# Cause words

A cause word and a canonical cause say the same thing: reading the word and writing
the cause are inverse to each other at every privilege level.  The codes of a level lie
below the top bit, so they are never mistaken for the mark of an interrupt.

Main results:

- `TrapCause.word_decode` and `TrapCause.decode_word`: the two round trips.
- `TrapCause.isInterrupt_decode`: the top bit marks interrupts.
- `TrapCause.decode_encode_inverse`: words and canonical causes are in bijection, and
  no other cause can be written.
-/

namespace HartKernel

namespace Word

variable {w mask : Word}

theorem and_not_eq_self (h : w &&& mask = 0) : w &&& ~~~mask = w := by
  ext i hi
  have hbit : (w &&& mask)[i] = false := by
    rw [h]
    exact BitVec.getElem_zero hi
  rw [BitVec.getElem_and] at hbit
  rw [BitVec.getElem_and, BitVec.getElem_not]
  cases hw : w[i] with
  | false => rfl
  | true =>
    rw [hw, Bool.true_and] at hbit
    rw [hbit]
    rfl

theorem topBit_eq_twoPow : topBit = BitVec.twoPow 64 63 := by decide

/-- The top bit of a word is clear or set. -/
theorem and_topBit (w : Word) : w &&& topBit = if w.msb then topBit else 0 := by
  rw [topBit_eq_twoPow, BitVec.and_twoPow, BitVec.msb_eq_getLsbD_last]
  rfl

theorem and_topBit_eq_zero_iff : w &&& topBit = 0 ↔ w.msb = false := by
  rw [and_topBit]
  cases w.msb with
  | false => exact iff_of_true rfl rfl
  | true => exact iff_of_false (by decide) (by decide)

theorem and_topBit_ne_zero_iff : w &&& topBit ≠ 0 ↔ w.msb = true := by
  rw [Ne, and_topBit_eq_zero_iff, Bool.not_eq_false]

/-- A word is its top bit and the bits below. -/
theorem or_and_not_topBit (h : w.msb = true) : topBit ||| w &&& ~~~topBit = w := by
  have htop : w &&& topBit = topBit := (and_topBit w).trans (if_pos h)
  calc topBit ||| w &&& ~~~topBit
      = w &&& topBit ||| w &&& ~~~topBit := by rw [htop]
    _ = w &&& (topBit ||| ~~~topBit) := BitVec.and_or_distrib_left.symm
    _ = w := by rw [BitVec.or_not_self, BitVec.and_allOnes]

end Word

namespace TrapCause

variable {level : Nat} {cause : TrapCause} {w code : Word}

/-! ## Codes -/

/-- The code of an interrupt is found behind the top bit. -/
theorem code_of_interrupt (h : code &&& Word.topBit = 0) :
    (Word.topBit ||| code) &&& ~~~Word.topBit = code ∧
      (Word.topBit ||| code) &&& Word.topBit ≠ 0 := by
  constructor
  · rw [BitVec.and_or_distrib_right, BitVec.and_not_self, Word.and_not_eq_self h]
    exact BitVec.zero_or
  · rw [BitVec.and_or_distrib_right, h, BitVec.and_self]
    decide

/-- The codes of a level lie below the top bit. -/
theorem levelCode_and_topBit {n : Nat} (h : n < 0x8000000000000000) :
    BitVec.ofNat 64 n &&& Word.topBit = 0 := by
  rw [Word.and_topBit_eq_zero_iff, BitVec.msb_eq_decide, BitVec.toNat_ofNat,
    decide_eq_false_iff_not]
  omega

theorem timerCode_ne_softwareCode (level : Nat) : timerCode level ≠ softwareCode level := by
  intro heq
  have hnat := congrArg BitVec.toNat heq
  simp only [timerCode, softwareCode, BitVec.toNat_ofNat] at hnat
  omega

/-! ## Reading a word -/

theorem decode_of_exception (h : w &&& Word.topBit = 0) :
    decode w level = if w ∈ environmentCodes then environmentCall w else exception w := by
  unfold decode
  simp only [h, if_true, Word.and_not_eq_self h]

theorem decode_of_interrupt (h : w &&& Word.topBit ≠ 0) :
    decode w level =
      if w &&& ~~~Word.topBit = softwareCode level then software
      else if w &&& ~~~Word.topBit = timerCode level then timer
      else external (w &&& ~~~Word.topBit) := by
  unfold decode
  simp only [if_neg h]

/-- The top bit marks interrupts. -/
theorem isInterrupt_decode (w : Word) (level : Nat) : (decode w level).isInterrupt = w.msb := by
  cases hmsb : w.msb with
  | false =>
    rw [decode_of_exception (Word.and_topBit_eq_zero_iff.2 hmsb)]
    split <;> rfl
  | true =>
    rw [decode_of_interrupt (Word.and_topBit_ne_zero_iff.2 hmsb)]
    split
    · rfl
    · split <;> rfl

/-- The cause of a word is written as the word. -/
theorem word_decode (w : Word) (level : Nat) : (decode w level).word level = w := by
  cases hmsb : w.msb with
  | false =>
    rw [decode_of_exception (Word.and_topBit_eq_zero_iff.2 hmsb)]
    split <;> rfl
  | true =>
    have hword := Word.or_and_not_topBit hmsb
    rw [decode_of_interrupt (Word.and_topBit_ne_zero_iff.2 hmsb)]
    -- whichever code it is, the top bit was taken off and is put back
    split
    · rename_i hsoftware
      rw [word, ← hsoftware, hword]
    · split
      · rename_i htimer
        rw [word, ← htimer, hword]
      · exact hword

/-! ## Writing a cause -/

/-- The word of a canonical cause is decoded to the cause. -/
theorem decode_word (hlevel : level < 256) (h : cause.Canonical level) :
    decode (cause.word level) level = cause := by
  have hinterrupt : ∀ {code : Word}, code &&& Word.topBit = 0 →
      decode (Word.topBit ||| code) level =
        if code = softwareCode level then software
        else if code = timerCode level then timer else external code := by
    intro code htop
    obtain ⟨hcode, hset⟩ := code_of_interrupt htop
    rw [decode_of_interrupt hset, hcode]
  cases cause with
  | software => exact (hinterrupt (levelCode_and_topBit (by omega))).trans (if_pos rfl)
  | timer =>
    have htop : timerCode level &&& Word.topBit = 0 := levelCode_and_topBit (by omega)
    rw [word, hinterrupt htop, if_neg (timerCode_ne_softwareCode level), if_pos rfl]
  | external code =>
    obtain ⟨htop, hsoftware, htimer⟩ := h
    rw [word, hinterrupt htop, if_neg hsoftware, if_neg htimer]
  | environmentCall code =>
    have hmem : code ∈ environmentCodes := h
    have htop : code &&& Word.topBit = 0 := by
      simp only [environmentCodes, List.mem_cons, List.not_mem_nil, or_false] at hmem
      rcases hmem with rfl | rfl | rfl <;> decide
    rw [word, decode_of_exception htop, if_pos hmem]
  | exception code => exact (decode_of_exception h.1).trans (if_neg h.2)

/-- Writing a canonical cause gives its word. -/
theorem encode_of_canonical (h : cause.Canonical level) :
    cause.encode level = .ok (cause.word level) := if_pos h

/-- A cause can be written exactly if it is canonical. -/
theorem encode_eq_error_iff :
    cause.encode level = .error .unencodableCause ↔ ¬cause.Canonical level := by
  unfold encode
  split
  · rename_i h
    exact iff_of_false (fun herror => nomatch herror) (not_not_intro h)
  · rename_i h
    exact iff_of_true rfl h

/-- Cause words and canonical causes are in bijection at every privilege level, which is
a byte.  Every word is read as a canonical cause that is written as the same word, and
its top bit tells whether the cause is an interrupt.  A cause is canonical exactly if it
is what some word is read as, and exactly if it is written as a word that is read as the
same cause.  All other causes cannot be written. -/
theorem decode_encode_inverse (privilege : UInt8) :
    (∀ w : Word,
      (decode w privilege.toNat).Canonical privilege.toNat ∧
      (decode w privilege.toNat).encode privilege.toNat = .ok w ∧
      (decode w privilege.toNat).isInterrupt = w.msb) ∧
    ∀ cause : TrapCause,
      (cause.Canonical privilege.toNat ↔ ∃ w, cause = decode w privilege.toNat) ∧
      (cause.Canonical privilege.toNat ↔
        ∃ w, cause.encode privilege.toNat = .ok w ∧ decode w privilege.toNat = cause) ∧
      (¬cause.Canonical privilege.toNat ↔
        cause.encode privilege.toNat = .error .unencodableCause) := by
  have hlevel : privilege.toNat < 256 := privilege.toNat_lt
  refine ⟨fun w => ?_, fun cause => ⟨⟨fun h => ?_, ?_⟩, ⟨fun h => ?_, ?_⟩, ?_⟩⟩
  · have hcanonical := canonical_decode w privilege.toNat
    exact ⟨hcanonical, (encode_of_canonical hcanonical).trans (congrArg _ (word_decode w _)),
      isInterrupt_decode w _⟩
  · exact ⟨_, (decode_word hlevel h).symm⟩
  · rintro ⟨w, rfl⟩
    exact canonical_decode w _
  · exact ⟨_, encode_of_canonical h, decode_word hlevel h⟩
  · rintro ⟨w, -, rfl⟩
    exact canonical_decode w _
  · exact encode_eq_error_iff.symm

end TrapCause

end HartKernel
