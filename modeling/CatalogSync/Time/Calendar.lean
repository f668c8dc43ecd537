/-!
# The proleptic Gregorian calendar

Days are numbered by their ordinal, day 1 being 0001-01-01. `ordinal` and `ofOrdinal`
convert between dates and ordinals for every year, and `weekday` counts from Monday as 0.
-/

namespace CatalogSync.Calendar

def isLeap (y : Int) : Bool := y % 4 == 0 && (y % 100 != 0 || y % 400 == 0)

def daysInMonth (y : Int) (m : Nat) : Nat :=
  match m with
  | 1 => 31 | 2 => if isLeap y then 29 else 28 | 3 => 31 | 4 => 30 | 5 => 31 | 6 => 30
  | 7 => 31 | 8 => 31 | 9 => 30 | 10 => 31 | 11 => 30 | 12 => 31
  | _ => 0

def daysBeforeMonth (y : Int) (m : Nat) : Nat :=
  ((List.range (m - 1)).map fun i => daysInMonth y (i + 1)).foldl (· + ·) 0

def daysBeforeYear (y : Int) : Int :=
  let p := y - 1
  p * 365 + p.fdiv 4 - p.fdiv 100 + p.fdiv 400

/-- The ordinal of a date. -/
def ordinal (y : Int) (m d : Nat) : Int :=
  daysBeforeYear y + Int.ofNat (daysBeforeMonth y m) + Int.ofNat d

/-- The date of an ordinal. -/
def ofOrdinal (n : Int) : Int × Nat × Nat :=
  -- 400 years hold 146097 days
  let n0 := n - 1
  let q400 := n0.fdiv 146097
  let r := n0 - q400 * 146097
  let q100 := min (r / 36524) 3
  let r := r - q100 * 36524
  let q4 := r / 1461
  let r := r - q4 * 1461
  let q1 := min (r / 365) 3
  let r := (r - q1 * 365).toNat
  let y := q400 * 400 + q100 * 100 + q4 * 4 + q1 + 1
  let rec month (fuel : Nat) (m : Nat) (left : Nat) : Nat × Nat :=
    match fuel with
    | 0 => (m, left + 1)
    | fuel + 1 =>
      if left < daysInMonth y m then (m, left + 1) else month fuel (m + 1) (left - daysInMonth y m)
  let (m, d) := month 12 1 r
  (y, m, d)

def weekdayOf (n : Int) : Nat := ((n + 6) % 7).toNat

/-- The day of the week of a date, Monday being 0. -/
def weekday (y : Int) (m d : Nat) : Nat := weekdayOf (ordinal y m d)

def isoWeekOneMonday (y : Int) : Int :=
  let first := ordinal y 1 1
  let wd := weekdayOf first
  let monday := first - Int.ofNat wd
  if wd > 3 then monday + 7 else monday

example : ofOrdinal (ordinal 2024 2 29) = (2024, 2, 29) := by decide
example : weekday 2024 6 1 = 5 := by decide

end CatalogSync.Calendar
