import CatalogSync.Number.Shortest

/-!
# Number text

How numbers are written: integers in decimal, doubles by their shortest decimal that reads
back (`Shortest.ofDyadic`) laid out by a `Layout` record, and fixed-point text with a given
number of places, rounded half to even on the exact binary value.
-/

namespace CatalogSync.NumberText

open Binary64 Shortest

/-- The decisions of a shortest-decimal printer. -/
structure Layout where
  /-- Positional notation is used when the point position lies in `[lowPoint, highPoint]`. -/
  lowPoint : Int
  highPoint : Int
  /-- The least number of exponent digits. -/
  exponentDigits : Nat
  /-- Text of not-a-number. -/
  nanText : String
  /-- Text of a positive infinity. -/
  infinityText : String
  /-- Whether a one-digit mantissa keeps a `.0` in exponent notation. -/
  pointInMantissa : Bool := false

def Layout.display : Layout :=
  { lowPoint := -3, highPoint := 16, exponentDigits := 2, nanText := "nan", infinityText := "inf" }

def Layout.json : Layout := { Layout.display with nanText := "NaN", infinityText := "Infinity" }

def zeros (n : Nat) : String := String.ofList (List.replicate n '0')

def padded (width n : Nat) : String :=
  let s := toString n
  zeros (width - s.length) ++ s

def Layout.decimal (l : Layout) (d : Decimal) : String :=
  let s := toString d.digits
  let n := s.length
  let p := d.point
  if l.lowPoint ≤ p ∧ p ≤ l.highPoint then
    if p ≤ 0 then "0." ++ zeros (-p).toNat ++ s
    else if Int.ofNat n ≤ p then s ++ zeros (p.toNat - n) ++ ".0"
    else String.ofList (s.toList.take p.toNat) ++ "." ++ String.ofList (s.toList.drop p.toNat)
  else
    let exp := p - 1
    let mantissa :=
      if n > 1 then String.ofList (s.toList.take 1) ++ "." ++ String.ofList (s.toList.drop 1)
      else if l.pointInMantissa then s ++ ".0"
      else s
    mantissa ++ "e" ++ (if exp < 0 then "-" else "+") ++ padded l.exponentDigits exp.natAbs

def Layout.float (l : Layout) (x : Float) : String :=
  match decode x with
  | .nan => l.nanText
  | .infinite negative => (if negative then "-" else "") ++ l.infinityText
  | .finite negative m e =>
    let sign := if negative then "-" else ""
    if m = 0 then sign ++ "0.0" else sign ++ l.decimal (ofDyadic m e)

def float (x : Float) : String := Layout.display.float x

def fixed (places : Nat) (x : Float) : String :=
  match decode x with
  | .nan => "nan"
  | .infinite negative => if negative then "-inf" else "inf"
  | .finite negative m e =>
    let scaled :=
      if 0 ≤ e then m * Nat.pow 2 e.toNat * Nat.pow 10 places
      else roundHalfEven (m * Nat.pow 10 places) (Nat.pow 2 (-e).toNat)
    let s := padded (places + 1) scaled
    let body :=
      if places = 0 then s
      else
        let whole := s.length - places
        String.ofList (s.toList.take whole) ++ "." ++ String.ofList (s.toList.drop whole)
    (if negative then "-" else "") ++ body

def percent (places : Nat) (x : Float) : String :=
  fixed places (x * ofInt 100) ++ "%"

end CatalogSync.NumberText
