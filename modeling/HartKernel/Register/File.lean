import HartKernel.Panic
import HartKernel.Register.Slot

/-!
# The register file

The registers of a hart that matter for switching contexts.  General register
zero reads as zero and ignores writes.

Main definitions:

- `RegisterFile` holds the registers; `RegisterFile.get` and
  `RegisterFile.set` access them by slot, and `RegisterFile.fetch` and
  `RegisterFile.assign` insist that the register exists.

Main results:

- `RegisterFile.get_set_self` and `RegisterFile.get_set_of_ne`: a register
  holds what was last written to it.
- `RegisterFile.ext_get`: a register file is determined by its existing slots.
-/

namespace HartKernel

/-- The registers of a hart that matter for switching contexts. -/
@[ext]
structure RegisterFile where
  /-- General-purpose registers. -/
  x : Vector Word 32
  /-- The program counter; while a trap is handled, where the trap was taken. -/
  pc : Word
  /-- The processor status word. -/
  status : Word
  /-- The floating-point control and status register. -/
  fcsr : Word
  /-- Floating-point registers. -/
  f : Vector Word 32
deriving DecidableEq

namespace RegisterFile

/-- All registers are zero. -/
def zero : RegisterFile :=
  ⟨Vector.replicate 32 0, 0, 0, 0, Vector.replicate 32 0⟩

/-- The stack pointer. -/
def sp (r : RegisterFile) : Word := r.x[2]

/-- Assign the stack pointer. -/
def setSp (r : RegisterFile) (sp : Word) : RegisterFile :=
  { r with x := r.x.setIfInBounds 2 sp }

/-- The value of a slot; a slot that names no register reads as zero. -/
def get (r : RegisterFile) : RegisterSlot → Word
  | .int n => r.x[n]?.getD 0
  | .float n => r.f[n]?.getD 0
  | .pc => r.pc
  | .status => r.status
  | .floatStatus => r.fcsr

/-- Assign a slot.  General register zero and slots that name no register stay
as they are. -/
def set (r : RegisterFile) : RegisterSlot → Word → RegisterFile
  | .int 0, _ => r
  | .int (n + 1), v => { r with x := r.x.setIfInBounds (n + 1) v }
  | .float n, v => { r with f := r.f.setIfInBounds n v }
  | .pc, v => { r with pc := v }
  | .status, v => { r with status := v }
  | .floatStatus, v => { r with fcsr := v }

/-- Assign several slots, first to last. -/
def setAll (r : RegisterFile) (values : List (RegisterSlot × Word)) : RegisterFile :=
  values.foldl (fun r a => r.set a.1 a.2) r

/-- A slot has to name a register. -/
def checkSlot (s : RegisterSlot) : Except Panic Unit := Panic.require s.Exists .outOfBounds

/-- The value of a register that has to exist. -/
def fetch (r : RegisterFile) (s : RegisterSlot) : Except Panic Word := do
  checkSlot s
  return r.get s

/-- Assign a register that has to exist. -/
def assign (r : RegisterFile) (s : RegisterSlot) (v : Word) : Except Panic RegisterFile := do
  checkSlot s
  return r.set s v

/-- Assign several registers that have to exist, first to last. -/
def assignAll (r : RegisterFile) (values : List (RegisterSlot × Word)) :
    Except Panic RegisterFile :=
  values.foldlM (fun r a => r.assign a.1 a.2) r

/-! ## Reading what was written -/

@[simp] theorem get_zero (s : RegisterSlot) : zero.get s = 0 := by
  cases s with
  | int n => simp only [get, zero, Vector.getElem?_replicate]; split <;> rfl
  | float n => simp only [get, zero, Vector.getElem?_replicate]; split <;> rfl
  | _ => rfl

@[simp] theorem get_sp (r : RegisterFile) : r.get .sp = r.sp := by
  simp [get, RegisterSlot.sp, sp]

@[simp] theorem set_sp (r : RegisterFile) (v : Word) : r.set .sp v = r.setSp v := rfl

@[simp] theorem sp_setSp (r : RegisterFile) (v : Word) : (r.setSp v).sp = v := by
  simp [setSp, sp]

/-- An existing register other than general register zero holds what was
written to it. -/
theorem get_set_self {r : RegisterFile} {s : RegisterSlot} {v : Word} (hs : s.Exists)
    (h0 : s ≠ .int 0) : (r.set s v).get s = v := by
  cases s with
  | int n =>
    cases n with
    | zero => exact absurd rfl h0
    | succ n =>
      simp only [RegisterSlot.Exists, registerCount] at hs
      simp [get, set, hs]
  | float n =>
    simp only [RegisterSlot.Exists, registerCount] at hs
    simp [get, set, hs]
  | _ => rfl

/-- Writing one register leaves every other one alone. -/
theorem get_set_of_ne {r : RegisterFile} {s t : RegisterSlot} {v : Word} (h : t ≠ s) :
    (r.set s v).get t = r.get t := by
  cases s with
  | int n =>
    cases n with
    | zero => rfl
    | succ n =>
      cases t with
      | int m =>
        have hm : n + 1 ≠ m := fun e => h (by rw [e])
        simp [get, set, hm]
      | _ => rfl
  | float n =>
    cases t with
    | float m =>
      have hm : n ≠ m := fun e => h (by rw [e])
      simp [get, set, hm]
    | _ => rfl
  | pc => cases t with
    | pc => exact absurd rfl h
    | _ => rfl
  | status => cases t with
    | status => exact absurd rfl h
    | _ => rfl
  | floatStatus => cases t with
    | floatStatus => exact absurd rfl h
    | _ => rfl

/-- Two register files that agree on every existing slot are equal. -/
theorem ext_get {r q : RegisterFile} (h : ∀ s : RegisterSlot, s.Exists → r.get s = q.get s) :
    r = q := by
  apply RegisterFile.ext
  · apply Vector.ext
    intro i hi
    simpa [get, hi] using h (.int i) hi
  · exact h .pc trivial
  · exact h .status trivial
  · exact h .floatStatus trivial
  · apply Vector.ext
    intro i hi
    simpa [get, hi] using h (.float i) hi

end RegisterFile

/-! ## Description -/

/-- The entries for the registers of a numbered file that are worth showing. -/
def RegisterFile.shown (r : RegisterFile) (slots : List RegisterSlot) : List (String × Form) :=
  slots.filterMap fun s =>
    if r.get s = 0 then none else s.name?.map fun name => (name, Form.hex (r.get s))

/-- Program counter, status and stack pointer are always shown, other registers
only if they are not zero. -/
instance : Describe RegisterFile where
  form r := .record "RegisterFile" <|
    [("pc", .hex r.pc), ("status", .hex r.status), ("sp", .hex r.sp)]
      ++ r.shown (((List.range 32).drop 1).filterMap fun n =>
          if n = 2 then none else some (.int n))
      ++ r.shown ((List.range 32).map .float)
      ++ r.shown [.floatStatus]

end HartKernel
