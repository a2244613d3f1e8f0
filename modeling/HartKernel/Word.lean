/-!
# Machine words

Addresses, register values and memory cells are 64-bit words of eight bytes.
Address arithmetic is done on natural numbers, so that no range test can wrap
around; words wrap only where the machine's registers do.

Main definitions:

- `Word` is a 64-bit word, `Word.hex` its usual spelling.
- `alignDown` and `alignUp` round a number to a multiple.
- `leastUrgent` is the priority that no task has and every task beats.
-/

namespace HartKernel

/-- A 64-bit machine word: an address, a register value or a memory cell. -/
abbrev Word := BitVec 64

/-- The priority value that stands for "nothing is running": every priority
level is more urgent. -/
def leastUrgent : Nat := 0xffffffffffffffff

/-- Round `n` down to a multiple of `unit`. -/
def alignDown (unit n : Nat) : Nat := n - n % unit

/-- Round `n` up to a multiple of `unit`. -/
def alignUp (unit n : Nat) : Nat := (n + unit - 1) / unit * unit

theorem alignDown_le (unit n : Nat) : alignDown unit n ≤ n := Nat.sub_le _ _

theorem alignDown_mod (unit n : Nat) : alignDown unit n % unit = 0 := by
  rw [alignDown, Nat.sub_mod_eq_zero_of_mod_eq (by simp)]

/-- Lower-case hexadecimal digits, without leading zeros. -/
def hexDigits (n : Nat) : String := String.ofList (Nat.toDigits 16 n)

namespace Word

/-- A word as a hexadecimal number, such as `0x1f`. -/
def hex (w : Word) : String := "0x" ++ hexDigits w.toNat

/-- A word as a hexadecimal number of full width. -/
def fullHex (w : Word) : String :=
  let digits := hexDigits w.toNat
  "0x" ++ String.ofList (List.replicate (16 - digits.length) '0') ++ digits

/-- The most significant bit. -/
def topBit : Word := 0x8000000000000000#64

end Word

end HartKernel
