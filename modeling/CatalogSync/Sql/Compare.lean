import CatalogSync.Sql.Convert

/-!
# Comparing values

`compareValues` orders two values the way the database does: null first, then numbers
(integers and doubles compared exactly, whatever their kinds), then texts under a
collation, then byte strings byte by byte. The collations are `BINARY` (UTF-8 bytes),
`NOCASE` (ASCII letters folded to small) and `RTRIM` (trailing spaces ignored).

A comparison operator first converts its operands under the affinity of the comparison:
under a numeric one a text that spells a number becomes that number, under `TEXT` a number
becomes its text (`convertOperands`).
-/

namespace CatalogSync.Sql

/-- A collation. -/
inductive Collation where
  | binary
  | nocase
  | rtrim
  deriving DecidableEq, Repr, Inhabited

def Collation.ofName : Option String → Collation
  | some n =>
    if sameName n "NOCASE" then .nocase else if sameName n "RTRIM" then .rtrim else .binary
  | none => .binary

def compareLists {α : Type} [Ord α] : List α → List α → Ordering
  | [], [] => .eq
  | [], _ :: _ => .lt
  | _ :: _, [] => .gt
  | a :: as, b :: bs =>
    match compare a b with
    | .eq => compareLists as bs
    | o => o

def foldCase (c : Char) : Char := if 'A' ≤ c && c ≤ 'Z' then Char.ofNat (c.toNat + 32) else c

def compareTexts (coll : Collation) (a b : String) : Ordering :=
  match coll with
  | .binary => compareLists a.toList b.toList
  | .nocase => compareLists (a.toList.map foldCase) (b.toList.map foldCase)
  | .rtrim =>
    let trim (s : String) := (s.toList.reverse.dropWhile (· = ' ')).reverse
    compareLists (trim a) (trim b)

def compareBytes (a b : List UInt8) : Ordering := compareLists a b

def compareIntReal (i : Int) (x : Float) : Ordering :=
  match Binary64.compareInt x i with
  | some .lt => .gt
  | some .gt => .lt
  | _ => .eq

/-- Orders two values: null, numbers, texts, byte strings. -/
def compareValues (coll : Collation) : Datum → Datum → Ordering
  | .null, .null => .eq
  | .null, _ => .lt
  | _, .null => .gt
  | .int a, .int b => compare a b
  | .int a, .real y => compareIntReal a y
  | .real x, .int b => (compareIntReal b x).swap
  | .real x, .real y =>
    match Binary64.compareFloat x y with
    | some o => o
    | none => .eq
  | .int _, _ | .real _, _ => .lt
  | _, .int _ | _, .real _ => .gt
  | .text a, .text b => compareTexts coll a b
  | .text _, .blob _ => .lt
  | .blob _, .text _ => .gt
  | .blob a, .blob b => compareBytes a b

/-- Converts the operands of a comparison under its affinity. -/
def convertOperands (aff : Option Affinity) (a b : Datum) : Datum × Datum :=
  match aff with
  | some af =>
    if af.isNumeric then (a.comparedAsNumber, b.comparedAsNumber)
    else if af == .text && (a.isText || b.isText) then (a.comparedAsText, b.comparedAsText)
    else (a, b)
  | none => (a, b)

def sameValue (coll : Collation) (a b : Datum) : Bool := compareValues coll a b == .eq

example : compareValues .binary (.int 1) (.real 1.0) = .eq ∧
    compareValues .nocase (.text "ABC") (.text "abd") = .lt := by decide

end CatalogSync.Sql
