import CatalogSync.Text.Printable

/-!
# Literal text

A text written as a literal: between single quotes, or between double quotes when it holds
a single quote and no double quote. The backslash and the chosen quote are escaped, tab, line
feed and carriage return get their short escapes, and every other character that is not
printable is written by its code in hexadecimal: two digits below 256, else four, else eight.
-/

namespace CatalogSync.Text

def hex (width n : Nat) : String :=
  let ds := Nat.toDigits 16 n
  String.ofList (List.replicate (width - ds.length) '0' ++ ds)

def escapeIn (quote : Char) (c : Char) : String :=
  if c = quote ∨ c = '\\' then String.ofList ['\\', c]
  else if c = '\t' then "\\t"
  else if c = '\n' then "\\n"
  else if c = '\r' then "\\r"
  else if isPrintable c then String.singleton c
  else if c.toNat < 0x100 then "\\x" ++ hex 2 c.toNat
  else if c.toNat < 0x10000 then "\\u" ++ hex 4 c.toNat
  else "\\U" ++ hex 8 c.toNat

def literal (s : String) : String :=
  let quote := if s.toList.contains '\'' && !s.toList.contains '"' then '"' else '\''
  String.singleton quote ++ String.join (s.toList.map (escapeIn quote)) ++ String.singleton quote

example : literal "a'b" = "\"a'b\"" ∧ literal "x" = "'x'" ∧ literal "\n" = "'\\n'" := by
  decide +kernel

end CatalogSync.Text
