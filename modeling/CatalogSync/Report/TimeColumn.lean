import CatalogSync.Failure
import CatalogSync.Number.Text
import CatalogSync.Sql.Datum
import CatalogSync.Time.Calendar

/-!
# Columns of times

The report reads the start and end columns of the run history the way a data-frame
library converts a column of ISO 8601 texts to UTC times.

A text is read by `readColumnTime`, which is more lenient than ISO 8601 in some ways and
stricter in others:

* blanks may stand around the whole text and before the offset;
* a year of four digits may stand alone; month and day may have one digit when a
  separator (`-`, `.`, `/`, `\`, or a space) stands between the parts, the same one both
  times; the time follows a `T` or a space;
* hours, minutes and seconds may have one digit when `:` separates them, and two digits
  each when nothing does; hours stop at 23;
* up to eighteen fraction digits are read, of which the first nine count;
* the offset is `Z` or a sign, one or two digits of hours below 24, and optionally `:` and
  one or two digits of minutes.

A column is counted in microseconds, or in nanoseconds once one of its texts has more
than six fraction digits. The conversion goes through the column in order, raising the
unit as it meets finer texts; a time that does not fit in 64 bits of nanoseconds fails,
and when the unit was raised part way the column is read again in the final unit. A
null is a missing time. A number stands for its decimal text; in a column of numbers with
a double among them every value is first cut to a whole number.
-/

namespace CatalogSync.Report

open Sql

/-- The unit a column of times is counted in. -/
inductive TimeUnit where
  | micro
  | nano
  deriving DecidableEq, Inhabited, Repr

def TimeUnit.perSecond : TimeUnit → Int
  | .micro => 1000000
  | .nano => 1000000000

def TimeUnit.finer (a b : TimeUnit) : TimeUnit :=
  if a == .nano || b == .nano then .nano else .micro

/-- A time as a text of a column writes it. -/
structure ColumnTime where
  year : Int
  month : Nat
  day : Nat
  /-- Seconds into the day. -/
  seconds : Nat
  /-- Nanoseconds into the second. -/
  nanos : Nat
  /-- Minutes east of UTC, when an offset was written. -/
  offset : Option Int
  /-- Whether more than six fraction digits were written. -/
  fine : Bool
  deriving Repr

def isBlankChar (c : Char) : Bool := c == ' ' || ('\t' ≤ c && c ≤ '\r')

def digitOf (c : Char) : Nat := c.toNat - 48

def oneOrTwo (two : Bool) (cs : List Char) : Option (Nat × Bool × List Char) :=
  match cs with
  | a :: rest =>
    if !a.isDigit then none
    else
      match rest with
      | b :: more =>
        if b.isDigit then some (digitOf a * 10 + digitOf b, true, more)
        else if two then none else some (digitOf a, false, rest)
      | [] => if two then none else some (digitOf a, false, [])
  | [] => none

def fractionPlaces : Nat → List Char → Nat × Nat × List Char
  | 0, cs => (0, 0, cs)
  | k + 1, c :: rest =>
    if c.isDigit then
      let (v, n, r) := fractionPlaces k rest
      (digitOf c * 10 ^ k + v, n + 1, r)
    else (0, 0, c :: rest)
  | _ + 1, [] => (0, 0, [])

def onlyBlanks {α : Type} (cs : List Char) (v : α) : Option α :=
  if (cs.dropWhile isBlankChar).isEmpty then some v else none

def readColumnOffset (cs : List Char) : Option (Option Int) :=
  match cs.dropWhile isBlankChar with
  | [] => some none
  | c :: rest =>
    if c == 'Z' then onlyBlanks rest (some 0)
    else if c == '-' || c == '+' then do
      let (h, cs) ← match rest with
        | a :: b :: more =>
          if a.isDigit && b.isDigit then
            let h := digitOf a * 10 + digitOf b
            if h ≥ 24 then none else some (h, more)
          else if a.isDigit then some (digitOf a, b :: more) else none
        | [a] => if a.isDigit then some (digitOf a, []) else none
        | [] => none
      let (m, cs) ← match cs with
        | [] => some (0, [])
        | _ =>
          let cs := match cs with
            | ':' :: more => more
            | _ => cs
          match cs with
          | a :: b :: more =>
            if a.isDigit && b.isDigit then
              let m := digitOf a * 10 + digitOf b
              if m ≥ 60 then none else some (m, more)
            else if a.isDigit then some (digitOf a, b :: more) else none
          | [a] => if a.isDigit then some (digitOf a, []) else none
          | [] => none
      let minutes : Int := Int.ofNat (60 * h + m)
      onlyBlanks cs (some (if c == '-' then -minutes else minutes))
    else none

def readFractionAndOffset (cs : List Char) : Option (Nat × Bool × Option Int) := do
  let (us, _, cs) := fractionPlaces 6 cs
  match cs with
  | c :: _ =>
    if c.isDigit then
      let (ps, _, cs) := fractionPlaces 6 cs
      let cs := match cs with
        | d :: _ => if d.isDigit then (fractionPlaces 6 cs).2.2 else cs
        | [] => cs
      let offset ← readColumnOffset cs
      pure (us * 1000 + ps / 1000, true, offset)
    else
      let offset ← readColumnOffset cs
      pure (us * 1000, false, offset)
  | [] => pure (us * 1000, false, none)

def readSecondsPart (base : Nat) (separated : Bool) (cs : List Char) :
    Option (Nat × Nat × Bool × Option Int) := do
  let (s, secondTwo, cs) ← oneOrTwo (!separated) cs
  if secondTwo && s ≥ 60 then none
  match cs with
  | '.' :: rest =>
    let (nanos, fine, offset) ← readFractionAndOffset rest
    pure (base + s, nanos, fine, offset)
  | _ =>
    let offset ← readColumnOffset cs
    pure (base + s, 0, false, offset)

def readMinutesPart (base : Nat) (separated : Bool) (cs : List Char) :
    Option (Nat × Nat × Bool × Option Int) := do
  let (m, minuteTwo, cs) ← oneOrTwo (!separated) cs
  if minuteTwo && m ≥ 60 then none
  let base := base + m * 60
  match cs with
  | [] => pure (base, 0, false, none)
  | c :: rest =>
    if separated && c == ':' then
      match rest with
      | d :: _ => if d.isDigit then readSecondsPart base separated rest else none
      | [] => none
    else if !separated && c.isDigit then readSecondsPart base separated cs
    else (fun offset => (base, 0, false, offset)) <$> readColumnOffset cs

/-- Reads the time of day after the date: hours, then minutes and seconds with or without
`:` between them, a fraction, and the offset. The seconds into the day, the nanoseconds
into the second, whether the fraction was finer than a microsecond, and the offset. -/
def readClockPart (cs : List Char) : Option (Nat × Nat × Bool × Option Int) := do
  let (h, hourTwo, cs) ← oneOrTwo false cs
  if hourTwo && h ≥ 24 then none
  let base := h * 3600
  match cs with
  | [] => if hourTwo then pure (base, 0, false, none) else none
  | c :: rest =>
    if c == ':' then
      match rest with
      | d :: _ => if d.isDigit then readMinutesPart base true rest else none
      | [] => none
    else if c.isDigit then readMinutesPart base false cs
    else if hourTwo then (fun offset => (base, 0, false, offset)) <$> readColumnOffset cs
    else none

/-- Reads a text of a time column; none when it is not one. -/
def readColumnTime (text : String) : Option ColumnTime := do
  let all := text.toList
  let cs := all.dropWhile isBlankChar
  let cs := match cs with
    | '-' :: r => r
    | _ => cs
  if cs.isEmpty then none
  let (year, cs) : Nat × List Char := match cs with
    | a :: b :: c :: d :: rest =>
      if a.isDigit && b.isDigit && c.isDigit && d.isDigit then
        (((digitOf a * 10 + digitOf b) * 10 + digitOf c) * 10 + digitOf d, rest)
      else (0, cs)
    | _ => (0, cs)
  let year : Int := if all.head? == some '-' then -Int.ofNat year else Int.ofNat year
  let dateOnly (m d : Nat) : ColumnTime :=
    { year, month := m, day := d, seconds := 0, nanos := 0, offset := none, fine := false }
  match cs with
  | [] => pure (dateOnly 1 1)
  | c :: rest =>
    let (sep, cs) ←
      if c.isDigit then pure (none, cs)
      else if ['-', '.', '/', '\\', ' '].contains c then
        match rest with
        | d :: _ => if d.isDigit then pure (some c, rest) else none
        | [] => none
      else none
    let (month, _, cs) ← oneOrTwo sep.isNone cs
    if month < 1 || month > 12 then none
    match cs with
    | [] => if sep.isNone then none else pure (dateOnly month 1)
    | c :: rest =>
      let cs ← match sep with
        | some s => if c == s && !rest.isEmpty then pure rest else none
        | none => pure cs
      let (day, _, cs) ← oneOrTwo sep.isNone cs
      if day < 1 || day > Calendar.daysInMonth year month then none
      match cs with
      | [] => pure (dateOnly month day)
      | c :: rest =>
        if (c != 'T' && c != ' ') || rest.isEmpty then none
        let (seconds, nanos, fine, offset) ← readClockPart rest
        pure { year, month, day, seconds, nanos, offset, fine }

def wholePart (x : Float) : Int :=
  match Binary64.decode x with
  | .finite negative m e => Binary64.truncate negative m e
  | _ => 0

def epochDays (y : Int) (m d : Nat) : Int := Calendar.ordinal y m d - Calendar.ordinal 1970 1 1

def ColumnTime.wall (t : ColumnTime) (u : TimeUnit) : Int :=
  (epochDays t.year t.month t.day * 86400 + t.seconds) * u.perSecond +
    (if u == .nano then t.nanos else t.nanos / 1000)

def ColumnTime.utc (t : ColumnTime) (u : TimeUnit) : Int :=
  t.wall u - t.offset.getD 0 * 60 * u.perSecond

def fits64 (n : Int) : Bool := -9223372036854775808 ≤ n && n ≤ 9223372036854775807

def conversionAdvice : String :=
  ". You might want to try:\n    - passing `format` if your strings have a consistent format;" ++
  "\n    - passing `format='ISO8601'` if your strings are all ISO8601 but not necessarily " ++
  "in exactly the same format;\n    - passing `format='mixed'`, and the format will be " ++
  "inferred for each element individually. You might want to use `dayfirst` alongside this."

def columnTexts (ds : List Datum) : List (Option String) :=
  let numeric := ds.all fun d => match d with
    | .int _ | .real _ => true
    | _ => false
  let hasReal := ds.any fun d => match d with
    | .real _ => true
    | _ => false
  ds.map fun d =>
    match d with
    | .null => none
    | .text s => some s
    | .int n =>
      if numeric && hasReal then some (toString (wholePart (Binary64.ofInt n)))
      else some (toString n)
    | .real x =>
      if numeric then
        if x.isNaN then none else some (toString (wholePart x))
      else some (NumberText.float x)
    | .blob b => some ("b'" ++ String.ofList (b.map fun c => Char.ofNat c.toNat) ++ "'")

def countsIn (u : TimeUnit) : List (Option (String × ColumnTime)) → Except Failure (List (Option Int))
  | [] => .ok []
  | none :: rest => do return none :: (← countsIn u rest)
  | some (text, t) :: rest => do
    if u == .nano && !fits64 (t.wall .nano) then
      throw (.outOfBoundsTime ("Out of bounds nanosecond timestamp: " ++ text ++ conversionAdvice))
    return some (t.utc u) :: (← countsIn u rest)

def firstPass : List (Option (String × ColumnTime)) → Option TimeUnit → Bool →
    Except Failure (Option TimeUnit × Bool)
  | [], u, raised => .ok (u, raised)
  | none :: rest, u, raised => firstPass rest u raised
  | some (text, t) :: rest, u, raised => do
    let item : TimeUnit := if t.fine then .nano else .micro
    let (u', raised) : TimeUnit × Bool := match u with
      | none => (item, raised)
      | some v => (v.finer item, raised || (v == TimeUnit.micro && item == TimeUnit.nano))
    if u' == TimeUnit.nano && !fits64 (t.wall TimeUnit.nano) then
      throw (Failure.outOfBoundsTime
        ("Out of bounds nanosecond timestamp: " ++ text ++ conversionAdvice))
    firstPass rest (some u') raised

def readTimeColumn (ds : List Datum) : Except Failure (TimeUnit × List (Option Int)) := do
  let read ← (columnTexts ds).mapM fun text? =>
    match text? with
    | none => .ok none
    | some text =>
      match readColumnTime text with
      | some t => .ok (some (text, t))
      | none => .error (.invalid ("Time data " ++ text ++ " is not ISO8601 format" ++
          conversionAdvice))
  let (u, _) ← firstPass read none false
  let u := u.getD .micro
  return (u, ← countsIn u read)

def columnIso (u : TimeUnit) (count : Int) : String :=
  let perDay := 86400 * u.perSecond
  let days := count.fdiv perDay
  let rest := (count - days * perDay).toNat
  let (y, m, d) := Calendar.ofOrdinal (days + Calendar.ordinal 1970 1 1)
  let pad (w n : Nat) : String :=
    let s := toString n
    String.ofList (List.replicate (w - s.length) '0') ++ s
  let perSecond := u.perSecond.toNat
  let secs := rest / perSecond
  let sub := rest % perSecond
  let (micro, nano) := if u == .nano then (sub / 1000, sub % 1000) else (sub, 0)
  let yearText := if y < 0 then "-" ++ pad 3 y.natAbs else pad 4 y.toNat
  let base := yearText ++ "-" ++ pad 2 m ++ "-" ++ pad 2 d ++ "T" ++ pad 2 (secs / 3600) ++
    ":" ++ pad 2 (secs / 60 % 60) ++ ":" ++ pad 2 (secs % 60)
  let frac :=
    if micro != 0 then "." ++ pad 6 micro ++ (if nano != 0 then pad 3 nano else "")
    else if nano != 0 then "." ++ pad 9 nano else ""
  base ++ frac ++ "+00:00"

end CatalogSync.Report
