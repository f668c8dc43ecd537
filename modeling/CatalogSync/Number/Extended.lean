import CatalogSync.Number.Binary64

/-!
# The 80-bit extended format

Some conversions between text and doubles are computed in the 80-bit extended format of
the x87 unit: a sign, a 64-bit mantissa whose top bit is set, and a wide exponent. Every
operation here rounds the exact result to 64 significant bits, a tie going to the even
mantissa, which is what the unit does in its default precision. The exponent range is wide
enough for every value met here, so it is not bounded.

A value is kept as an exact dyadic number; `toFloat` rounds it once more to the nearest
double, the way storing an extended value into a double does.
-/

namespace CatalogSync

/-- A value of the extended format. -/
inductive Extended where
  /-- `(-1)^negative · mantissa · 2^exponent`, the mantissa below `2^64`. -/
  | finite (negative : Bool) (mantissa : Nat) (exponent : Int)
  /-- An infinity of the given sign. -/
  | infinite (negative : Bool)
  /-- Not a number. -/
  | nan
  deriving Repr, Inhabited

namespace Extended

def precision : Nat := 64

def scaled (n d : Nat) (k : Int) : Nat × Nat :=
  if 0 ≤ k then (n * Nat.pow 2 k.toNat, d) else (n, d * Nat.pow 2 (-k).toNat)

def ofRatio (negative : Bool) (n d : Nat) : Extended :=
  if n = 0 ∨ d = 0 then .finite negative 0 0
  else
    let e : Int := Binary64.floorLog2 n d - (Int.ofNat precision - 1)
    let (a, b) := scaled n d (-e)
    let q := Binary64.roundHalfEven a b
    if q = Nat.pow 2 precision then .finite negative (Nat.pow 2 (precision - 1)) (e + 1)
    else .finite negative q e

def ofDyadic (negative : Bool) (m : Nat) (e : Int) : Extended :=
  let (n, d) := scaled m 1 e
  ofRatio negative n d

def ofFloat (x : Float) : Extended :=
  match Binary64.decode x with
  | .finite negative m e => ofDyadic negative m e
  | .infinite negative => .infinite negative
  | .nan => .nan

def ofInt (i : Int) : Extended := ofRatio (i < 0) i.natAbs 1

/-- The double nearest to a value. -/
def toFloat : Extended → Float
  | .finite negative m e =>
    let (n, d) := scaled m 1 e
    Binary64.ofRatio negative n d
  | .infinite negative => Binary64.infinity negative
  | .nan => 0.0 / 0.0

def neg : Extended → Extended
  | .finite negative m e => .finite (!negative) m e
  | .infinite negative => .infinite (!negative)
  | .nan => .nan

def signed (negative : Bool) (m : Nat) : Int := if negative then -Int.ofNat m else Int.ofNat m

def add : Extended → Extended → Extended
  | .nan, _ => .nan
  | _, .nan => .nan
  | .infinite a, .infinite b => if a == b then .infinite a else .nan
  | .infinite a, _ => .infinite a
  | _, .infinite b => .infinite b
  | .finite a m e, .finite b n f =>
    let low := min e f
    let total := signed a m * Int.pow 2 (e - low).toNat + signed b n * Int.pow 2 (f - low).toNat
    if total = 0 then .finite (a && b) 0 0
    else ofDyadic (total < 0) total.natAbs low

def sub (x y : Extended) : Extended := add x (neg y)

def mul : Extended → Extended → Extended
  | .nan, _ => .nan
  | _, .nan => .nan
  | .infinite a, .finite b n _ => if n = 0 then .nan else .infinite (a != b)
  | .finite a m _, .infinite b => if m = 0 then .nan else .infinite (a != b)
  | .infinite a, .infinite b => .infinite (a != b)
  | .finite a m e, .finite b n f => ofDyadic (a != b) (m * n) (e + f)

def div : Extended → Extended → Extended
  | .nan, _ => .nan
  | _, .nan => .nan
  | .infinite _, .infinite _ => .nan
  | .infinite a, .finite b _ _ => .infinite (a != b)
  | .finite a _ _, .infinite b => .finite (a != b) 0 0
  | .finite a m e, .finite b n f =>
    if n = 0 then (if m = 0 then .nan else .infinite (a != b))
    else
      let (p, q) := scaled m n (e - f)
      ofRatio (a != b) p q

def fraction (negative : Bool) (m : Nat) (e : Int) : Int × Nat :=
  if 0 ≤ e then (signed negative (m * Nat.pow 2 e.toNat), 1)
  else (signed negative m, Nat.pow 2 (-e).toNat)

def order : Extended → Extended → Option Ordering
  | .nan, _ => none
  | _, .nan => none
  | .infinite a, .infinite b => some (if a == b then .eq else if a then .lt else .gt)
  | .infinite a, _ => some (if a then .lt else .gt)
  | _, .infinite b => some (if b then .gt else .lt)
  | .finite a m e, .finite b n f =>
    let (p, q) := fraction a m e
    let (r, s) := fraction b n f
    some (compare (p * Int.ofNat s) (r * Int.ofNat q))

def lt (x y : Extended) : Bool := order x y == some .lt

def ge (x y : Extended) : Bool :=
  match order x y with
  | some .gt | some .eq => true
  | _ => false

def truncate : Extended → Int
  | .finite negative m e =>
    let magnitude := if 0 ≤ e then m * Nat.pow 2 e.toNat else m / Nat.pow 2 (-e).toNat
    signed negative magnitude
  | _ => 0

example : (mul (ofInt 3) (ofInt 5)).truncate = 15 := by decide

end Extended

end CatalogSync
