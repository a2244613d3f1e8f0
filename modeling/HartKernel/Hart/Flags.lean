import HartKernel.Panic

/-!
# Status and interrupt flags

Control registers are words whose bits have names.  The kernel runs at one of
several privilege levels, and the bits that matter to it move with the level:
the level is added to the position that the bit has for level zero.

Main definitions:

- `FlagSet` is a list of named masks; `FlagSet.truncate` drops the bits that
  have no name and `FlagSet.text` lists the names in a word.
- `Status` holds the flags of the status register, `Interrupts` those of the
  pending interrupts.
- `FlagSet.levelBit?` is the flag of a level, if its position is in the word.
-/

namespace HartKernel

/-- The named bits of a control register, in the order of their declaration. -/
abbrev FlagSet := List (String × Word)

namespace FlagSet

/-- All bits that have a name. -/
def mask (flags : FlagSet) : Word := flags.foldr (fun flag acc => flag.2 ||| acc) 0

/-- Drop the bits that have no name. -/
def truncate (flags : FlagSet) (w : Word) : Word := w &&& flags.mask

/-- Whether every bit of a word has a name. -/
def Covers (flags : FlagSet) (w : Word) : Prop := flags.truncate w = w

instance (flags : FlagSet) (w : Word) : Decidable (flags.Covers w) :=
  inferInstanceAs (Decidable (_ = _))

/-- The names of the flags whose bits are all in the word, or a remark that
there are none. -/
def text (flags : FlagSet) (w : Word) : String :=
  match (flags.filter fun flag => w &&& flag.2 = flag.2).map Prod.fst with
  | [] => "(empty)"
  | names => " | ".intercalate names

/-- The flag at position `offset` for level zero, moved to a privilege level. -/
def levelBit (flags : FlagSet) (offset level : Nat) : Word :=
  flags.truncate (1#64 <<< (offset + level))

/-- The flag of a privilege level.  Its position must lie in a word. -/
def levelBit? (flags : FlagSet) (offset level : Nat) : Except Panic Word :=
  if offset + level < 64 then .ok (flags.levelBit offset level) else .error .overflow

end FlagSet

namespace Status

/-- The flags of the status register: interrupt enables, their values before
the last trap, the levels before the last trap, and the floating-point state. -/
def flags : FlagSet :=
  [("SIE", 0x2#64), ("MIE", 0x8#64), ("SPIE", 0x20#64), ("MPIE", 0x80#64), ("SPP", 0x100#64),
   ("MPP", 0x1800#64), ("FS", 0x6000#64)]

/-- The interrupt enable of a level. -/
def enable (level : Nat) : Word := flags.levelBit 0 level

/-- The interrupt enable of a level as it was before the last trap. -/
def previousEnable (level : Nat) : Word := flags.levelBit 4 level

/-- The bits which say that the last trap came from the level of the kernel. -/
def previousLevel (level : Nat) : Word := if level = 3 then 0x1800#64 else 0x100#64

/-- The status in which a context without a saved status starts: an exception
return stays at the level and enables interrupts.  The floating-point unit is
switched on if it is used. -/
def initial (level : Nat) (includeFp : Bool) : Word :=
  previousEnable level ||| previousLevel level ||| if includeFp then 0x2000#64 else 0

/-- The initial status of a level whose flags have a place in a word. -/
def initial? (level : Nat) (includeFp : Bool) : Except Panic Word :=
  (flags.levelBit? 4 level).map fun _ => initial level includeFp

end Status

namespace Interrupts

/-- The flags of the pending interrupts. -/
def flags : FlagSet :=
  [("SSI", 0x2#64), ("MSI", 0x8#64), ("STI", 0x20#64), ("MTI", 0x80#64), ("SEI", 0x200#64),
   ("MEI", 0x800#64)]

/-- The software interrupt of a level. -/
def software (level : Nat) : Word := flags.levelBit 0 level

/-- The timer interrupt of a level. -/
def timer (level : Nat) : Word := flags.levelBit 4 level

/-- The interrupt with a given code; only codes inside a word have a flag. -/
def coded (code : Word) : Word :=
  if code.toNat < 64 then flags.truncate (1#64 <<< code.toNat) else 0

end Interrupts

end HartKernel
