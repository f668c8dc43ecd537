import CatalogSync.Number.Binary64

/-!
# The shortest decimal that reads back

For a positive finite double `v` the reals that round to it form an interval, whose ends are
halfway to the neighbouring doubles and belong to it exactly when the mantissa is even. The
shortest decimal of `v` is found on the grids `10^E` of 1, 2, … 17 significant digits: on
each grid only the two grid points around `v` can lie in the interval, so the first grid
with a hit gives the fewest digits, and of two hits the nearer one is kept (a tie keeps the
even last digit). Seventeen digits always hit, so the search ends.

All comparisons are exact: values are natural numbers times powers of two and ten.
-/

namespace CatalogSync.Shortest

/-- A positive decimal `0.d₁d₂…dₙ · 10^point`, held as the digit string `d₁…dₙ` read as a
number without trailing zeros. -/
structure Decimal where
  /-- The significant digits as one number. -/
  digits : Nat
  /-- Position of the decimal point relative to the first digit. -/
  point : Int
  deriving Repr, DecidableEq

def digitCount (n : Nat) : Nat := (Nat.toDigits 10 n).length

def compareScaled (c : Nat) (E : Int) (x : Nat) (f : Int) : Ordering :=
  let lhs := c * Nat.pow 10 E.toNat * Nat.pow 2 (-f).toNat
  let rhs := x * Nat.pow 2 f.toNat * Nat.pow 10 (-E).toNat
  compare lhs rhs

def floorScaled (x : Nat) (f : Int) (E : Int) : Nat :=
  (x * Nat.pow 2 f.toNat * Nat.pow 10 (-E).toNat) / (Nat.pow 10 E.toNat * Nat.pow 2 (-f).toNat)

def floorLog10 (x : Nat) (f : Int) : Int :=
  let num := x * Nat.pow 2 f.toNat
  let den := Nat.pow 2 (-f).toNat
  if den ≤ num then Int.ofNat (digitCount (num / den)) - 1
  else
    -- the least `j` with `num · 10^j ≥ den`
    let j0 := digitCount den - digitCount num
    let j := if den ≤ num * Nat.pow 10 j0 then j0 else j0 + 1
    Int.neg (Int.ofNat j)

def normalize (c : Nat) (E : Int) : Decimal :=
  let rec strip (fuel : Nat) (c : Nat) (E : Int) : Nat × Int :=
    match fuel with
    | 0 => (c, E)
    | fuel + 1 => if c ≠ 0 ∧ c % 10 = 0 then strip fuel (c / 10) (E + 1) else (c, E)
  let (c, E) := strip (digitCount c) c E
  ⟨c, E + Int.ofNat (digitCount c)⟩

/-- The rounding interval of `m · 2^e` in units of `2^(e-2)`: its centre, lower and upper
ends, and whether the ends belong to it. The lower gap is half as wide at a power of two,
where the exponent drops. -/
structure Interval where
  centre : Nat
  low : Nat
  high : Nat
  unit : Int
  closed : Bool

def interval (m : Nat) (e : Int) : Interval :=
  let tight := m = Nat.pow 2 52 ∧ e > -1074
  { centre := 4 * m
    low := 4 * m - (if tight then 1 else 2)
    high := 4 * m + 2
    unit := e - 2
    closed := m % 2 == 0 }

def Interval.contains (i : Interval) (c : Nat) (E : Int) : Bool :=
  let lo := compareScaled c E i.low i.unit
  let hi := compareScaled c E i.high i.unit
  if i.closed then lo != .lt && hi != .gt else lo == .gt && hi == .lt

def Interval.nearer (i : Interval) (a b : Nat) (E : Int) : Nat :=
  -- distances in units of `10^E · 2^unit`, scaled to natural numbers
  let centre := i.centre * Nat.pow 2 i.unit.toNat * Nat.pow 10 (-E).toNat
  let scale := Nat.pow 10 E.toNat * Nat.pow 2 (-i.unit).toNat
  let da := centre - a * scale
  let db := b * scale - centre
  if da < db then a else if db < da then b else if a % 2 == 0 then a else b

def Interval.onGrid (i : Interval) (k : Int) (p : Nat) : Option (Nat × Int) :=
  let E := k - Int.ofNat p + 1
  let a := floorScaled i.centre i.unit E
  let b := a + 1
  let inA := i.contains a E
  let inB := i.contains b E
  if inA && inB then some (i.nearer a b E, E)
  else if inA then some (a, E)
  else if inB then some (b, E)
  else none

def ofDyadic (m : Nat) (e : Int) : Decimal :=
  let i := interval m e
  let k := floorLog10 i.centre i.unit
  let found := (List.range 17).findSome? fun p => i.onGrid k (p + 1)
  match found with
  | some (c, E) => normalize c E
  -- seventeen digits always hit
  | none => normalize (floorScaled i.centre i.unit (k - 16)) (k - 16)

end CatalogSync.Shortest
