import CatalogSync.Data.Value

/-!
# Writing JSON documents

`write` turns a `Value` into JSON text with `", "` between items and `": "` after keys, in
the order of the value; `writeCompact` leaves the blanks out. Doubles take their shortest text, with `NaN` and `Infinity` for the
values without a number. A tuple is written as a list; a date, stamp, byte string or set,
which JSON has no form for, is written as the string of its display text. `Escapes.ascii` writes every character outside the printable
ASCII range as `\uXXXX` (two of them, a surrogate pair, above the first plane);
`Escapes.controls` escapes only the control characters.
-/

namespace CatalogSync.Json

/-- Which characters of a text are escaped. -/
inductive Escapes where
  /-- Only quotes, backslashes and control characters. -/
  | controls
  /-- Also everything outside the printable ASCII range. -/
  | ascii
  deriving DecidableEq

def unicodeEscape (n : Nat) : String := "\\u" ++ Text.hex 4 n

def escapeChar (e : Escapes) (c : Char) : String :=
  if c = '"' then "\\\""
  else if c = '\\' then "\\\\"
  else if c = '\n' then "\\n"
  else if c = '\r' then "\\r"
  else if c = '\t' then "\\t"
  else if c = '\x08' then "\\b"
  else if c = '\x0c' then "\\f"
  else if c.toNat < 0x20 then unicodeEscape c.toNat
  else if e = .ascii ∧ c.toNat > 0x7E then
    if c.toNat < 0x10000 then unicodeEscape c.toNat
    else
      let v := c.toNat - 0x10000
      unicodeEscape (0xD800 + v / 0x400) ++ unicodeEscape (0xDC00 + v % 0x400)
  else String.singleton c

def quote (e : Escapes) (s : String) : String :=
  "\"" ++ String.join (s.toList.map (escapeChar e)) ++ "\""

/-- How a document is laid out: which characters are escaped, and what stands between
items and after keys. -/
structure Style where
  escapes : Escapes
  itemSep : String
  keySep : String

mutual
def render (st : Style) : Value → String
  | .null => "null"
  | .bool b => if b then "true" else "false"
  | .int n => toString n
  | .float x => NumberText.Layout.json.float x
  | .str s => quote st.escapes s
  | .list xs => "[" ++ st.itemSep.intercalate (renderItems st xs) ++ "]"
  | .obj fs => "\x7b" ++ st.itemSep.intercalate (renderFields st fs) ++ "\x7d"
  | .tuple xs => "[" ++ st.itemSep.intercalate (renderItems st xs) ++ "]"
  | v@(.date ..) | v@(.stamp _) | v@(.bytes _) | v@(.set _) => quote st.escapes v.display

def renderItems (st : Style) : List Value → List String
  | [] => []
  | x :: xs => render st x :: renderItems st xs

def renderFields (st : Style) : List (String × Value) → List String
  | [] => []
  | (k, x) :: fs => (quote st.escapes k ++ st.keySep ++ render st x) :: renderFields st fs
end

def lineAt (depth : Nat) : String := "\n" ++ String.ofList (List.replicate (2 * depth) ' ')

mutual
/-- A value as JSON text over lines, each nested item on a line of its own indented two
spaces deeper than its container, which is at depth `depth`; empty containers stay on one
line. -/
def renderIndented (e : Escapes) (depth : Nat) : Value → String
  | .list [] => "[]"
  | .obj [] => "\x7b\x7d"
  | .list xs =>
    "[" ++ lineAt (depth + 1) ++ ("," ++ lineAt (depth + 1)).intercalate (indentedItems e depth xs) ++
      lineAt depth ++ "]"
  | .obj fs =>
    "\x7b" ++ lineAt (depth + 1) ++
      ("," ++ lineAt (depth + 1)).intercalate (indentedFields e depth fs) ++ lineAt depth ++ "\x7d"
  | v => render ⟨e, ", ", ": "⟩ v

def indentedItems (e : Escapes) (depth : Nat) : List Value → List String
  | [] => []
  | x :: xs => renderIndented e (depth + 1) x :: indentedItems e depth xs

def indentedFields (e : Escapes) (depth : Nat) : List (String × Value) → List String
  | [] => []
  | (k, x) :: fs => (quote e k ++ ": " ++ renderIndented e (depth + 1) x) :: indentedFields e depth fs
end

/-- A value as JSON text with `", "` between items and `": "` after keys. -/
def write (e : Escapes) (v : Value) : String := render ⟨e, ", ", ": "⟩ v

/-- A value as JSON text without blanks between items and after keys. -/
def writeCompact (e : Escapes) (v : Value) : String := render ⟨e, ",", ":"⟩ v

def writeIndented (e : Escapes) (v : Value) : String := renderIndented e 0 v

end CatalogSync.Json
