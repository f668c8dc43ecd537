/-!
# Doubles as exact dyadic numbers

A double is read off its bits as a sign and a magnitude `m · 2^e`, and a ratio of natural
numbers is rounded to the nearest double, a tie going to the even mantissa. Everything here
is exact arithmetic on `Nat` and `Int`; `Float` only carries the bits.

* `decode` splits a double into finite, infinite and not-a-number values.
* `ofRatio` is the correctly rounded quotient, the rule every conversion of a decimal or
  integer quotient into a double follows.
* `compareInt` and `compareFloat` order doubles against integers and doubles exactly.
-/

namespace CatalogSync.Binary64

/-- What the bits of a double denote. -/
inductive Decoded where
  /-- `(-1)^negative · mantissa · 2^exponent`. -/
  | finite (negative : Bool) (mantissa : Nat) (exponent : Int)
  /-- An infinity of the given sign. -/
  | infinite (negative : Bool)
  /-- Not a number. -/
  | nan
  deriving Repr, DecidableEq

def fractionBits : Nat := 52

/-- Reads the sign, exponent field and fraction of a double. -/
def decode (x : Float) : Decoded :=
  let bits := x.toBits.toNat
  let negative := bits / Nat.pow 2 63 == 1
  let field := (bits / Nat.pow 2 fractionBits) % 2048
  let fraction := bits % Nat.pow 2 fractionBits
  if field == 2047 then
    if fraction == 0 then .infinite negative else .nan
  else if field == 0 then .finite negative fraction (-1074)
  else .finite negative (fraction + Nat.pow 2 fractionBits) (Int.ofNat field - 1075)

def assemble (negative : Bool) (field fraction : Nat) : Float :=
  Float.ofBits (UInt64.ofNat ((if negative then Nat.pow 2 63 else 0) + field * Nat.pow 2 fractionBits + fraction))

def infinity (negative : Bool) : Float := assemble negative 2047 0

def floorLog2 (n d : Nat) : Int :=
  let k : Int := Int.ofNat n.log2 - Int.ofNat d.log2
  -- `k` is exact or one too large: compare `n` with `d · 2^k`
  let fits : Bool :=
    if 0 ≤ k then decide (d * Nat.pow 2 k.toNat ≤ n) else decide (d ≤ n * Nat.pow 2 (-k).toNat)
  if fits then k else k - 1

def roundHalfEven (num den : Nat) : Nat :=
  let q := num / den
  let r := num % den
  if 2 * r > den then q + 1
  else if 2 * r < den then q
  else if q % 2 == 0 then q else q + 1

/-- The double nearest to `± n / d`; a tie goes to the even mantissa, and a quotient beyond
the largest double becomes an infinity. A zero denominator gives zero. -/
def ofRatio (negative : Bool) (n d : Nat) : Float :=
  if n = 0 ∨ d = 0 then assemble negative 0 0
  else
    -- the exponent of the last mantissa bit, held at the least exponent of the format
    let e : Int := max (floorLog2 n d - 52) (-1074)
    let q :=
      if 0 ≤ e then roundHalfEven n (d * Nat.pow 2 e.toNat)
      else roundHalfEven (n * Nat.pow 2 (-e).toNat) d
    -- rounding may carry into a new bit
    let (q, e) := if q = Nat.pow 2 53 then (Nat.pow 2 52, e + 1) else (q, e)
    if q < Nat.pow 2 52 then assemble negative 0 q
    else if e > 971 then infinity negative
    else assemble negative (e + 1075).toNat (q - Nat.pow 2 52)

def ofInt (i : Int) : Float := ofRatio (i < 0) i.natAbs 1

def Decoded.fraction (negative : Bool) (m : Nat) (e : Int) : Int × Nat :=
  let sign : Int := if negative then -1 else 1
  if 0 ≤ e then (sign * Int.ofNat (m * Nat.pow 2 e.toNat), 1) else (sign * Int.ofNat m, Nat.pow 2 (-e).toNat)

def compareFractions (a : Int × Nat) (b : Int × Nat) : Ordering :=
  compare (a.1 * Int.ofNat b.2) (b.1 * Int.ofNat a.2)

/-- Orders a double against an integer exactly; `none` for not a number. -/
def compareInt (x : Float) (i : Int) : Option Ordering :=
  match decode x with
  | .nan => none
  | .infinite negative => some (if negative then .lt else .gt)
  | .finite negative m e => some (compareFractions (Decoded.fraction negative m e) (i, 1))

/-- Orders two doubles exactly; `none` when either is not a number. -/
def compareFloat (x y : Float) : Option Ordering :=
  match decode x, decode y with
  | .nan, _ => none
  | _, .nan => none
  | .infinite a, .infinite b =>
    some (if a == b then .eq else if a then .lt else .gt)
  | .infinite a, _ => some (if a then .lt else .gt)
  | _, .infinite b => some (if b then .gt else .lt)
  | .finite a m e, .finite b n f =>
    some (compareFractions (Decoded.fraction a m e) (Decoded.fraction b n f))

def truncate (negative : Bool) (m : Nat) (e : Int) : Int :=
  let magnitude : Nat := if 0 ≤ e then m * Nat.pow 2 e.toNat else m / Nat.pow 2 (-e).toNat
  if negative then -Int.ofNat magnitude else Int.ofNat magnitude

def isZero (x : Float) : Bool :=
  match decode x with
  | .finite _ m _ => m == 0
  | _ => false

end CatalogSync.Binary64
