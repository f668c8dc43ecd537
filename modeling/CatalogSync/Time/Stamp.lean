import CatalogSync.Failure
import CatalogSync.Number.Binary64
import CatalogSync.Time.Calendar

/-!
# Time stamps

A `Stamp` is a wall-clock time between the years 1 and 9999 to the microsecond, with an
offset from UTC or without one. Stamps with offsets are ordered by the instant they denote;
stamps without offsets by their clock fields; the two kinds cannot be ordered against each
other, and are never equal.

* `Stamp.ofFields` checks each field in turn, year first.
* `Stamp.iso` writes `YYYY-MM-DDTHH:MM:SS`, then `.ffffff` when the microseconds are not
  zero, then the offset as `+HH:MM`, with seconds and microseconds when it has them.
* `Stamp.toUtc` moves a stamp to the UTC clock, a stamp without an offset read as UTC.
-/

namespace CatalogSync

def microsPerDay : Int := 86400000000

def lastOrdinal : Int := 3652059

/-- A wall-clock time with an optional offset from UTC. -/
structure Stamp where
  /-- Microseconds since 0001-01-01T00:00 on the stamp's clock. -/
  wall : Int
  /-- Microseconds east of UTC; `none` for a clock time without an offset. -/
  offset : Option Int
  deriving Repr, DecidableEq, Inhabited

/-- The broken-down fields of a stamp. -/
structure Stamp.Fields where
  year : Int
  month : Nat
  day : Nat
  hour : Nat
  minute : Nat
  second : Nat
  micro : Nat
  deriving Repr, DecidableEq

namespace Stamp

def wallInRange (wall : Int) : Bool := 0 ≤ wall && wall < lastOrdinal * microsPerDay

def fields (s : Stamp) : Fields :=
  let days := s.wall.fdiv microsPerDay
  let rest := (s.wall - days * microsPerDay).toNat
  let (y, m, d) := Calendar.ofOrdinal (days + 1)
  { year := y, month := m, day := d,
    hour := rest / 3600000000, minute := rest / 60000000 % 60,
    second := rest / 1000000 % 60, micro := rest % 1000000 }

/-- Builds a stamp from its fields, checking each against its range. -/
def ofFields (y : Int) (mo d h mi s us : Int) (offset : Option Int) : Except Failure Stamp :=
  if y < 1 ∨ y > 9999 then .error (.invalid ("year " ++ toString y ++ " is out of range"))
  else if mo < 1 ∨ mo > 12 then .error (.invalid "month must be in 1..12")
  else if d < 1 ∨ d > Int.ofNat (Calendar.daysInMonth y mo.toNat) then
    .error (.invalid "day is out of range for month")
  else if h < 0 ∨ h > 23 then .error (.invalid "hour must be in 0..23")
  else if mi < 0 ∨ mi > 59 then .error (.invalid "minute must be in 0..59")
  else if s < 0 ∨ s > 59 then .error (.invalid "second must be in 0..59")
  else if us < 0 ∨ us > 999999 then .error (.invalid "microsecond must be in 0..999999")
  else
    let days := Calendar.ordinal y mo.toNat d.toNat - 1
    .ok ⟨days * microsPerDay + ((h * 60 + mi) * 60 + s) * 1000000 + us, offset⟩

def instant (s : Stamp) : Int := s.wall - s.offset.getD 0

def isAware (s : Stamp) : Bool := s.offset.isSome

/-- The same instant on the UTC clock. -/
def toUtc (s : Stamp) : Except Failure Stamp :=
  if wallInRange s.instant then .ok ⟨s.instant, some 0⟩
  else .error (.overflow "date value out of range")

def compare? (a b : Stamp) : Except Failure Ordering :=
  match a.offset, b.offset with
  | none, none => .ok (compare a.wall b.wall)
  | some _, some _ => .ok (compare a.instant b.instant)
  | _, _ => .error (.wrongKind "can't compare offset-naive and offset-aware datetimes")

def same (a b : Stamp) : Bool :=
  match a.offset, b.offset with
  | none, none => a.wall == b.wall
  | some _, some _ => a.instant == b.instant
  | _, _ => false

def after (a b : Stamp) : Except Failure Bool := do
  return (← compare? a b) == .gt

def since (a b : Stamp) : Except Failure Int :=
  match a.offset, b.offset with
  | none, none => .ok (a.wall - b.wall)
  | some _, some _ => .ok (a.instant - b.instant)
  | _, _ => .error (.wrongKind "can't subtract offset-naive and offset-aware datetimes")

def latest : List Stamp → Except Failure (Option Stamp)
  | [] => .ok none
  | s :: rest => do
    let best ← rest.foldlM (fun (best : Stamp) x => do
      if (← compare? x best) == .gt then pure x else pure best) s
    return some best

def pad (width : Nat) (n : Nat) : String :=
  let s := toString n
  String.ofList (List.replicate (width - s.length) '0') ++ s

def offsetText (off : Int) : String :=
  let sign := if off < 0 then "-" else "+"
  let a := off.natAbs
  let micro := a % 1000000
  let secs := a / 1000000
  let hh := secs / 3600
  let mm := secs / 60 % 60
  let ss := secs % 60
  let base := sign ++ pad 2 hh ++ ":" ++ pad 2 mm
  if micro ≠ 0 then base ++ ":" ++ pad 2 ss ++ "." ++ pad 6 micro
  else if ss ≠ 0 then base ++ ":" ++ pad 2 ss
  else base

def clockText (s : Stamp) (sep : String) (alwaysMicros : Bool) : String :=
  let f := s.fields
  let date := pad 4 f.year.toNat ++ "-" ++ pad 2 f.month ++ "-" ++ pad 2 f.day
  let time := pad 2 f.hour ++ ":" ++ pad 2 f.minute ++ ":" ++ pad 2 f.second
  let frac := if alwaysMicros ∨ f.micro ≠ 0 then "." ++ pad 6 f.micro else ""
  date ++ sep ++ time ++ frac ++ (match s.offset with | some o => offsetText o | none => "")

/-- The ISO text of a stamp. -/
def iso (s : Stamp) : String := clockText s "T" false

def isoMicros (s : Stamp) : String := clockText s "T" true

def epochWall : Int := (Calendar.ordinal 1970 1 1 - 1) * microsPerDay

def epochSeconds (s : Stamp) : Float :=
  let d := s.instant - epochWall
  Binary64.ofRatio (d < 0) d.natAbs 1000000

end Stamp

def spanSeconds (micros : Int) : Float :=
  Binary64.ofRatio (micros < 0) micros.natAbs 1000000

end CatalogSync
