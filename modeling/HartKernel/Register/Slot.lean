import HartKernel.Text.Form

/-!
# Register slots

A slot names one architectural register that a frame can hold.  General and
floating-point registers are numbered; the machine has 32 of each, and a slot
with a larger number names no register.

Main definitions:

- `RegisterSlot` is the name, `RegisterSlot.Exists` says that there is such a
  register.
- `RegisterSlot.name?` is the name used by the calling convention.
-/

namespace HartKernel

/-- The name of one architectural register. -/
inductive RegisterSlot where
  /-- A general-purpose register. -/
  | int (n : Nat)
  /-- A floating-point register. -/
  | float (n : Nat)
  /-- The program counter. -/
  | pc
  /-- The processor status word. -/
  | status
  /-- The floating-point control and status register. -/
  | floatStatus
deriving DecidableEq, Repr, Inhabited

/-- The number of registers in each numbered file. -/
def registerCount : Nat := 32

namespace RegisterSlot

/-- The return address register. -/
def ra : RegisterSlot := .int 1

/-- The stack pointer. -/
def sp : RegisterSlot := .int 2

/-- The first argument and return value register. -/
def a0 : RegisterSlot := .int 10

/-- The register that holds the number of a system service. -/
def a7 : RegisterSlot := .int 17

/-- There is a register of this name. -/
def Exists : RegisterSlot → Prop
  | .int n => n < registerCount
  | .float n => n < registerCount
  | .pc | .status | .floatStatus => True

instance : DecidablePred Exists := fun s => by
  cases s <;> unfold Exists <;> infer_instance

/-- Names of the general-purpose registers in the calling convention. -/
def intNames : List String :=
  ["zero", "ra", "sp", "gp", "tp", "t0", "t1", "t2", "s0", "s1", "a0", "a1", "a2", "a3", "a4",
   "a5", "a6", "a7", "s2", "s3", "s4", "s5", "s6", "s7", "s8", "s9", "s10", "s11", "t3", "t4",
   "t5", "t6"]

/-- Names of the floating-point registers in the calling convention. -/
def floatNames : List String :=
  ["ft0", "ft1", "ft2", "ft3", "ft4", "ft5", "ft6", "ft7", "fs0", "fs1", "fa0", "fa1", "fa2",
   "fa3", "fa4", "fa5", "fa6", "fa7", "fs2", "fs3", "fs4", "fs5", "fs6", "fs7", "fs8", "fs9",
   "fs10", "fs11", "ft8", "ft9", "ft10", "ft11"]

/-- The name of a register in the calling convention. -/
def name? : RegisterSlot → Option String
  | .int n => intNames[n]?
  | .float n => floatNames[n]?
  | .pc => some "pc"
  | .status => some "status"
  | .floatStatus => some "fcsr"

/-- Exactly the existing registers have names. -/
theorem isSome_name?_iff (s : RegisterSlot) : s.name?.isSome = true ↔ s.Exists := by
  cases s <;> simp [name?, Exists, registerCount, intNames, floatNames]

/-- The number of stack words that a slot takes: every register is one word wide. -/
def words (_ : RegisterSlot) : Nat := 1

end RegisterSlot

instance : Describe RegisterSlot where
  form
    | .int n => .variant "Int" [form n]
    | .float n => .variant "Float" [form n]
    | .pc => .atom "Pc"
    | .status => .atom "Status"
    | .floatStatus => .atom "FloatStatus"

end HartKernel
