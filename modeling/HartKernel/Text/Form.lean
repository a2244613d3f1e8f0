import HartKernel.Word

/-!
# Structured text

Values are shown as records, variants, lists and tables of smaller values.  A
`Form` is such a description; it is written either inline, on one line, or as a
block, with one entry a line, four spaces of indentation and a comma after
every entry.

Main definitions:

- `Form` is the description, `Form.inline` and `Form.block` its two spellings.
- `Describe` is the class of types whose values have a form.
-/

namespace HartKernel

/-- The description of a value as structured text. -/
inductive Form where
  /-- A text that is the same in both spellings. -/
  | atom (text : String)
  /-- A code address, padded to full width in block form. -/
  | address (word : Word)
  /-- A record with named entries. -/
  | record (name : String) (entries : List (String × Form))
  /-- A constructor applied to arguments. -/
  | variant (name : String) (arguments : List Form)
  /-- A list. -/
  | list (items : List Form)
  /-- A table of keys and values behind a label. -/
  | table (label : String) (rows : List (String × Form))

namespace Form

mutual

/-- The spelling on one line. -/
def inline : Form → String
  | .atom text => text
  | .address word => word.hex
  | .record name [] => name
  | .record name (e :: es) => name ++ " \x7b " ++ ", ".intercalate (inlineEntries (e :: es)) ++ " \x7d"
  | .variant name [] => name
  | .variant name (a :: as) => name ++ "(" ++ ", ".intercalate (inlineItems (a :: as)) ++ ")"
  | .list items => "[" ++ ", ".intercalate (inlineItems items) ++ "]"
  | .table label rows => label ++ "\x7b" ++ ", ".intercalate (inlineEntries rows) ++ "\x7d"

/-- The spellings of the elements of a list. -/
def inlineItems : List Form → List String
  | [] => []
  | a :: as => inline a :: inlineItems as

/-- The spellings of named entries. -/
def inlineEntries : List (String × Form) → List String
  | [] => []
  | (name, value) :: es => (name ++ ": " ++ inline value) :: inlineEntries es

end

/-- The indentation of a nesting depth. -/
def indent (depth : Nat) : String := String.ofList (List.replicate (4 * depth) ' ')

mutual

/-- The spelling with one entry a line, inside `depth` enclosing blocks. -/
def blockAt (depth : Nat) : Form → String
  | .atom text => text
  | .address word => word.fullHex
  | .record name [] => name
  | .record name (e :: es) =>
    name ++ " \x7b\n" ++ blockEntries (depth + 1) (e :: es) ++ indent depth ++ "\x7d"
  | .variant name [] => name
  | .variant name (a :: as) =>
    name ++ "(\n" ++ blockItems (depth + 1) (a :: as) ++ indent depth ++ ")"
  | .list [] => "[]"
  | .list (a :: as) => "[\n" ++ blockItems (depth + 1) (a :: as) ++ indent depth ++ "]"
  | .table label [] => label ++ "\x7b\x7d"
  | .table label (r :: rs) =>
    label ++ "\x7b\n" ++ blockEntries (depth + 1) (r :: rs) ++ indent depth ++ "\x7d"

/-- The lines of the elements of a list. -/
def blockItems (depth : Nat) : List Form → String
  | [] => ""
  | a :: as => indent depth ++ blockAt depth a ++ ",\n" ++ blockItems depth as

/-- The lines of named entries. -/
def blockEntries (depth : Nat) : List (String × Form) → String
  | [] => ""
  | (name, value) :: es =>
    indent depth ++ name ++ ": " ++ blockAt depth value ++ ",\n" ++ blockEntries depth es

end

/-- The spelling with one entry a line. -/
def block (form : Form) : String := form.blockAt 0

/-- The spelling asked for: as a block or on one line. -/
def render (form : Form) (asBlock : Bool) : String :=
  if asBlock then form.block else form.inline

/-- A word as a hexadecimal number. -/
def hex (w : Word) : Form := .atom w.hex

end Form

/-- Types whose values have a form. -/
class Describe (α : Type) where
  /-- The description of a value. -/
  form : α → Form

export Describe (form)

instance : Describe Nat := ⟨fun n => .atom (toString n)⟩

instance : Describe Bool := ⟨fun b => .atom (if b then "true" else "false")⟩

instance {α : Type} [Describe α] : Describe (Option α) where
  form
    | none => .atom "None"
    | some a => .variant "Some" [form a]

end HartKernel
