import CatalogSync.Number.Binary64

/-!
# Sums, means and percentiles of doubles

The report sums doubles pairwise, the way array libraries do to keep the rounding error
small: fewer than eight values are added in turn; up to 128 values go round eight running
sums, combined as a balanced tree, and the rest is added in turn; a longer list is cut in
two at a multiple of eight below its middle and the halves are summed apart. The mean is
that sum divided by the count.

`percentile` interpolates linearly between the two sorted values around the position
`(n - 1) · q`, taking the upper value minus the gap when the position lies past the middle,
so that the end points come out exactly.
-/

namespace CatalogSync.Numeric

def sumInTurn (xs : List Float) : Float := xs.foldl (· + ·) 0

def sumBlocked (xs : List Float) : Float :=
  let n := xs.length
  let whole := n - n % 8
  let lanes := (List.range 8).map fun j =>
    let column := ((List.range (whole / 8)).map fun k => xs.getD (8 * k + j) 0)
    match column with
    | [] => 0
    | x :: rest => rest.foldl (· + ·) x
  let r (j : Nat) : Float := lanes.getD j 0
  let combined := ((r 0 + r 1) + (r 2 + r 3)) + ((r 4 + r 5) + (r 6 + r 7))
  (xs.drop whole).foldl (· + ·) combined

def pairwiseSum : Nat → List Float → Float
  | 0, xs => sumInTurn xs
  | fuel + 1, xs =>
    let n := xs.length
    if n < 8 then sumInTurn xs
    else if n ≤ 128 then sumBlocked xs
    else
      let half := n / 2 - n / 2 % 8
      pairwiseSum fuel (xs.take half) + pairwiseSum fuel (xs.drop half)

def sum (xs : List Float) : Float := pairwiseSum xs.length xs

def mean (xs : List Float) : Float := sum xs / Binary64.ofInt xs.length

def below (x y : Float) : Bool :=
  match Binary64.compareFloat x y with
  | some .lt => true
  | none => !x.isNaN && y.isNaN
  | _ => false

def sorted (xs : List Float) : List Float := xs.mergeSort fun a b => !below b a

def floorOf (x : Float) : Int :=
  match Binary64.decode x with
  | .finite negative m e =>
    let t := Binary64.truncate negative m e
    let (num, den) := Binary64.Decoded.fraction negative m e
    if num < t * Int.ofNat den then t - 1 else t
  | _ => 0

def lerp (a b t : Float) : Float :=
  let gap := b - a
  if t ≥ 0.5 then b - gap * (1 - t) else a + gap * t

/-- The `q`-quantile (for `q` between 0 and 1) of a non-empty list, by linear interpolation
between sorted values. -/
def percentile (xs : List Float) (q : Float) : Float :=
  let s := sorted xs
  let n := s.length
  let position := Binary64.ofInt (n - 1) * q
  let below := floorOf position
  let last : Int := n - 1
  let (i, j) := if position ≥ Binary64.ofInt last then (last, last) else (below, below + 1)
  let at_ (k : Int) : Float := s.getD k.toNat 0
  lerp (at_ i) (at_ j) (position - Binary64.ofInt i)

end CatalogSync.Numeric
