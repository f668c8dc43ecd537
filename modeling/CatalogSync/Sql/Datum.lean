import CatalogSync.Failure

/-!
# Database values

A `Datum` is what a database cell holds or an expression computes: null, a 64-bit integer,
a double, a text or a byte string.

Each column has an `Affinity`, read from its declared type by `Affinity.ofType`, which
scans the type name from left to right: a name containing `INT` is an integer column; then
`CHAR`, `CLOB` and `TEXT` make a text column, `BLOB` a blob column unless a text marker came
first, `REAL`, `FLOA` and `DOUB` a real column unless another marker came first; anything
else is numeric. A column declared without a type has blob affinity.
-/

namespace CatalogSync.Sql

def sqlError (message : String) : Failure := .database .operational message

/-- A value held in a cell or computed by an expression. -/
inductive Datum where
  | null
  | int (n : Int)
  | real (x : Float)
  | text (s : String)
  | blob (bytes : List UInt8)
  deriving Inhabited

/-- How a column converts the values stored in it. -/
inductive Affinity where
  | blob
  | text
  | numeric
  | integer
  | real
  deriving DecidableEq, Repr, Inhabited

def Affinity.isNumeric : Affinity → Bool
  | .numeric | .integer | .real => true
  | _ => false

def asciiUpper (s : String) : String := String.ofList (s.toList.map Char.toUpper)

def asciiLower (s : String) : String := String.ofList (s.toList.map Char.toLower)

def sameName (a b : String) : Bool := asciiLower a == asciiLower b

def affinityScan : Affinity → List Char → List Char → Affinity
  | aff, _, [] => aff
  | aff, window, c :: rest =>
    let window := (window ++ [c.toLower]).drop (if window.length ≥ 4 then 1 else 0)
    if window.drop (window.length - 3) == ['i', 'n', 't'] then .integer
    else
      let aff :=
        if window == ['c', 'h', 'a', 'r'] || window == ['c', 'l', 'o', 'b'] ||
            window == ['t', 'e', 'x', 't'] then .text
        else if window == ['b', 'l', 'o', 'b'] && (aff == .numeric || aff == .real) then .blob
        else if (window == ['r', 'e', 'a', 'l'] || window == ['f', 'l', 'o', 'a'] ||
            window == ['d', 'o', 'u', 'b']) && aff == .numeric then .real
        else aff
      affinityScan aff window rest

/-- The affinity of a type name, as a cast and a typed column read it. -/
def Affinity.ofType (decl : String) : Affinity := affinityScan .numeric [] decl.toList

def Affinity.ofColumnType (decl : String) : Affinity :=
  if decl.isEmpty then .blob else Affinity.ofType decl

def minInt : Int := -9223372036854775808

def maxInt : Int := 9223372036854775807

def fitsInt (n : Int) : Bool := minInt ≤ n && n ≤ maxInt

def wrapInt (n : Int) : Int :=
  let m := n % 18446744073709551616
  if m ≥ 9223372036854775808 then m - 18446744073709551616 else m

def textOfBytes (b : List UInt8) : String :=
  match String.fromUTF8? (ByteArray.mk b.toArray) with
  | some s => s
  | none => String.ofList (b.map fun x => Char.ofNat x.toNat)

def bytesOfText (s : String) : List UInt8 := s.toUTF8.toList

namespace Datum

def typeName : Datum → String
  | .null => "null"
  | .int _ => "integer"
  | .real _ => "real"
  | .text _ => "text"
  | .blob _ => "blob"

def isNull : Datum → Bool
  | .null => true
  | _ => false

def isText : Datum → Bool
  | .text _ => true
  | _ => false

def isNumber : Datum → Bool
  | .int _ | .real _ => true
  | _ => false

end Datum

example : Affinity.ofType "FLOATING POINT" = .integer ∧ Affinity.ofType "CHARINT" = .integer ∧
    Affinity.ofType "BLOBBY" = .blob ∧ Affinity.ofType "VARCHAR(10)" = .text := by decide

end CatalogSync.Sql
