import HartKernel.Panic

/-!
# Trap causes

The hart reports why it took a trap in one word: the top bit tells interrupts
from exceptions and the other bits hold a code.  The codes of the software and
the timer interrupt move with the privilege level of the kernel.

Main definitions:

- `TrapCause` is a decoded cause; `TrapCause.decode` reads the word.
- `TrapCause.Canonical` says that a cause can be the result of decoding, and
  `TrapCause.encode` writes a canonical cause back.

Main results:

- `TrapCause.canonical_decode`: decoding gives a canonical cause.
-/

namespace HartKernel

/-- Why a trap was taken. -/
inductive TrapCause where
  /-- The software interrupt of the kernel's level. -/
  | software
  /-- The timer interrupt of the kernel's level. -/
  | timer
  /-- Any other interrupt, with its code. -/
  | external (code : Word)
  /-- A call of the environment from any level, with its code. -/
  | environmentCall (code : Word)
  /-- Any other exception, with its code. -/
  | exception (code : Word)
deriving DecidableEq, Repr

namespace TrapCause

/-- The exception codes of environment calls from the three levels. -/
def environmentCodes : List Word := [8#64, 9#64, 11#64]

/-- The code of the software interrupt of a level. -/
def softwareCode (level : Nat) : Word := BitVec.ofNat 64 level

/-- The code of the timer interrupt of a level. -/
def timerCode (level : Nat) : Word := BitVec.ofNat 64 (4 + level)

/-- Read a cause word. -/
def decode (cause : Word) (level : Nat) : TrapCause :=
  let code := cause &&& ~~~Word.topBit
  if cause &&& Word.topBit = 0 then
    if code ∈ environmentCodes then environmentCall code else exception code
  else if code = softwareCode level then software
  else if code = timerCode level then timer
  else external code

/-- Whether a cause can be the result of decoding. -/
def Canonical (level : Nat) : TrapCause → Prop
  | software | timer => True
  | external code =>
    code &&& Word.topBit = 0 ∧ code ≠ softwareCode level ∧ code ≠ timerCode level
  | environmentCall code => code ∈ environmentCodes
  | exception code => code &&& Word.topBit = 0 ∧ code ∉ environmentCodes

instance (level : Nat) : DecidablePred (Canonical level) := fun c => by
  cases c <;> unfold Canonical <;> infer_instance

/-- The cause word of a canonical cause. -/
def word (level : Nat) : TrapCause → Word
  | software => Word.topBit ||| softwareCode level
  | timer => Word.topBit ||| timerCode level
  | external code => Word.topBit ||| code
  | environmentCall code => code
  | exception code => code

/-- Write a cause, which has to be canonical. -/
def encode (cause : TrapCause) (level : Nat) : Except Panic Word :=
  if cause.Canonical level then .ok (cause.word level) else .error .unencodableCause

/-- Whether a cause is an interrupt. -/
def isInterrupt : TrapCause → Bool
  | software | timer | external _ => true
  | environmentCall _ | exception _ => false

/-! ## Decoding gives canonical causes -/

theorem and_not_topBit_and_topBit (w : Word) : w &&& ~~~Word.topBit &&& Word.topBit = 0 := by
  rw [BitVec.and_assoc, BitVec.and_comm (~~~Word.topBit), BitVec.and_not_self]
  exact BitVec.and_zero

/-- Decoding gives a canonical cause. -/
theorem canonical_decode (cause : Word) (level : Nat) : (decode cause level).Canonical level := by
  have htop := and_not_topBit_and_topBit cause
  unfold decode
  simp only
  split
  · split
    · assumption
    · exact ⟨htop, by assumption⟩
  · split
    · trivial
    · split
      · trivial
      · exact ⟨htop, by assumption, by assumption⟩

/-- The spelling of a cause. -/
def text : TrapCause → String
  | software => "SoftwareInterrupt"
  | timer => "TimerInterrupt"
  | external code => s!"ExternalInterrupt({code.toNat})"
  | environmentCall code => s!"EnvironmentCall({code.toNat})"
  | exception code => s!"Exception({code.toNat})"

end TrapCause

instance : Describe TrapCause where
  form
    | .software => .atom "SoftwareInterrupt"
    | .timer => .atom "TimerInterrupt"
    | .external code => .variant "ExternalInterrupt" [form code.toNat]
    | .environmentCall code => .variant "EnvironmentCall" [form code.toNat]
    | .exception code => .variant "Exception" [form code.toNat]

end HartKernel
