import HartKernel.Text.Unprinted

/-!
# Quoted text

A text between double quotes stands for itself except for quotes, backslashes
and characters that have no shape of their own, which are written as escapes.

Main definitions:

- `Quoted.escape` writes one character.
- `Quoted.quote` writes a whole text.
-/

namespace HartKernel.Quoted

/-- One character of a quoted text. -/
def escape (c : Char) : String :=
  match c with
  | '\x00' => "\\0"
  | '\t' => "\\t"
  | '\n' => "\\n"
  | '\r' => "\\r"
  | '"' => "\\\""
  | '\\' => "\\\\"
  | c =>
    if isUnprinted c then "\\u\x7b" ++ String.ofList (Nat.toDigits 16 c.toNat) ++ "\x7d"
    else String.singleton c

/-- A text between double quotes. -/
def quote (s : String) : String :=
  "\"" ++ String.join (s.toList.map escape) ++ "\""

end HartKernel.Quoted
