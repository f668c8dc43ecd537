import CatalogSync.Sql.Scalar

/-!
# Date and time functions

`date`, `time`, `datetime`, `julianday`, `unixepoch` and `strftime` read a time value and
a list of modifiers into a `Moment`, then write it out.

A moment is held in up to three ways at once, each with a flag saying whether it is
current: a Julian day number in milliseconds (`jd`); a year, month and day; and an hour,
minute and second, with an offset from UTC in minutes. Each way is computed from another
when it is asked for, so a modifier that changes one way clears the others.

A time value is one of:

* `YYYY-MM-DD`, optionally with a leading `-`, followed by spaces or `T` and a time;
* a time `HH:MM`, `HH:MM:SS` or `HH:MM:SS.FFF…`, optionally followed by `Z` or an offset
  `±HH:MM`; a time without a date falls on 2000-01-01;
* `now`, the database's clock;
* a number: a Julian day number when it is one, and otherwise seconds that a later
  `unixepoch` or `auto` modifier can read.

The calendar is the proleptic Gregorian one, from 4713 BC to 9999 AD. A day may run past
the end of its month: a date written so is written back as it was (`2024-02-31`), and one
computed from the day number falls in the next month (`2024-01-31` plus a month is
`2024-03-02`). Local time is UTC, so `localtime` and `utc` change nothing but the flags.
Any error makes the result null.
-/

namespace CatalogSync.Sql

/-- A moment while a date function reads it. -/
structure Moment where
  /-- The Julian day number times 86400000. -/
  jd : Int := 0
  year : Int := 0
  month : Int := 0
  day : Int := 0
  hour : Int := 0
  minute : Int := 0
  /-- The offset from UTC in minutes. -/
  offset : Int := 0
  second : Float := 0.0
  hasJd : Bool := false
  /-- The time value was a number, kept in `second` for a later modifier. -/
  raw : Bool := false
  hasDate : Bool := false
  hasTime : Bool := false
  hasOffset : Bool := false
  /-- An offset or `Z` was written, or `utc` applied. -/
  offsetSet : Bool := false
  deriving Inhabited

def msPerDay : Int := 86400000

def lastJd : Int := 464269060799999

def unixEpochJd : Int := 210866760000000

def clockJd : Int := 212570827200000

def validJd (jd : Int) : Bool := 0 ≤ jd && jd ≤ lastJd

def castToInt32 (x : Float) : Int :=
  let n := castToInt x
  if -2147483648 ≤ n && n < 2147483648 then n else -2147483648

namespace Moment

def cleared (p : Moment) : Moment :=
  { p with hasDate := false, hasTime := false, hasOffset := false }

/-- The moment with its Julian day number computed, from 2000-01-01 when no date is
current; none when the year is out of range or the moment is an unread number. A
current offset is taken out, leaving only the day number current. -/
def withJd (p : Moment) : Option Moment :=
  if p.hasJd then some p
  else
    let (y, m, d) := if p.hasDate then (p.year, p.month, p.day) else (2000, 1, 1)
    if y < -4713 || y > 9999 || p.raw then none
    else
      let (y, m) := if m ≤ 2 then (y - 1, m + 12) else (y, m)
      let a := y.tdiv 100
      let b := 2 - a + a.tdiv 4
      let x1 := (36525 * (y + 4716)).tdiv 100
      let x2 := (306001 * (m + 1)).tdiv 10000
      let jd := castToInt ((Binary64.ofInt (x1 + x2 + d + b) - 1524.5) * 86400000.0)
      let p := { p with jd, hasJd := true }
      if p.hasTime then
        let jd := p.jd + p.hour * 3600000 + p.minute * 60000 +
          castToInt (p.second * 1000.0 + 0.5)
        if p.hasOffset then
          some { p with jd := jd - p.offset * 60000, hasDate := false, hasTime := false,
                        hasOffset := false }
        else some { p with jd }
      else some p

def withDate (p : Moment) : Option Moment :=
  if p.hasDate then some p
  else if !p.hasJd then some { p with year := 2000, month := 1, day := 1, hasDate := true }
  else if !validJd p.jd then none
  else
    let z := (p.jd + 43200000).tdiv msPerDay
    let a := castToInt32 ((Binary64.ofInt z - 1867216.25) / 36524.25)
    let a := z + 1 + a - a.tdiv 4
    let b := a + 1524
    let c := castToInt32 ((Binary64.ofInt b - 122.1) / 365.25)
    let d := (36525 * (c % 32768)).tdiv 100
    let e := castToInt32 (Binary64.ofInt (b - d) / 30.6001)
    let x1 := castToInt32 (30.6001 * Binary64.ofInt e)
    let month := if e < 14 then e - 1 else e - 13
    some { p with day := b - d - x1, month, year := if month > 2 then c - 4716 else c - 4715,
                  hasDate := true }

def withTime (p : Moment) : Option Moment :=
  if p.hasTime then some p
  else do
    let p ← p.withJd
    let ms := (p.jd + 43200000).tmod msPerDay
    let seconds := Binary64.ofInt ms / 1000.0
    let whole := castToInt32 seconds
    let hour := whole.tdiv 3600
    let rest := whole - hour * 3600
    let minute := rest.tdiv 60
    some { p with hour, minute, second := (seconds - Binary64.ofInt whole) +
                    Binary64.ofInt (rest - minute * 60),
                  raw := false, hasTime := true }

def withAll (p : Moment) : Option Moment := do
  let p ← p.withDate
  p.withTime

end Moment

def digitField (width least most : Nat) (cs : List Char) : Option Nat :=
  let ds := cs.take width
  if ds.length == width && ds.all Char.isDigit then
    let v := ds.foldl (fun acc c => acc * 10 + digitValue c) 0
    if least ≤ v && v ≤ most then some v else none
  else none

def secondFraction : List Char → Float → Float → Float × List Char
  | c :: rest, value, scale =>
    if c.isDigit then
      secondFraction rest (value * 10.0 + Float.ofNat c.toNat - 48.0) (scale * 10.0)
    else (value / scale, c :: rest)
  | [], value, scale => (value / scale, [])

def readZone (cs : List Char) (p : Moment) : Option Moment :=
  let cs := cs.dropWhile isSpace
  let p := { p with offset := 0 }
  let finish (rest : List Char) (p : Moment) : Option Moment :=
    if (rest.dropWhile isSpace).isEmpty then some { p with offsetSet := true } else none
  match cs with
  | [] => some p
  | c :: rest =>
    if c == 'Z' || c == 'z' then finish rest p
    else if c == '-' || c == '+' then do
      let h ← digitField 2 0 14 rest
      if (rest.drop 2).head? != some ':' then none
      let m ← digitField 2 0 59 (rest.drop 3)
      let sign : Int := if c == '-' then -1 else 1
      finish (rest.drop 5) { p with offset := sign * (Int.ofNat m + Int.ofNat h * 60) }
    else none

def readTime (cs : List Char) (p : Moment) : Option Moment := do
  let h ← digitField 2 0 24 cs
  if (cs.drop 2).head? != some ':' then none
  let m ← digitField 2 0 59 (cs.drop 3)
  let rest := cs.drop 5
  let (s, fraction, rest) ← match rest with
    | ':' :: more => do
      let s ← digitField 2 0 59 more
      let more := more.drop 2
      match more with
      | '.' :: d :: tail =>
        if d.isDigit then
          let (f, after) := secondFraction (d :: tail) 0.0 1.0
          pure (s, f, after)
        else pure (s, 0.0, more)
      | _ => pure (s, 0.0, more)
    | _ => pure (0, 0.0, rest)
  let p := { p with hasJd := false, raw := false, hasTime := true, hour := Int.ofNat h,
                    minute := Int.ofNat m, second := Float.ofNat s + fraction }
  let p ← readZone rest p
  pure { p with hasOffset := p.offset != 0 }

def readDate (cs : List Char) (p : Moment) : Option Moment := do
  let (negative, cs) := match cs with
    | '-' :: r => (true, r)
    | _ => (false, cs)
  let y ← digitField 4 0 9999 cs
  if (cs.drop 4).head? != some '-' then none
  let mo ← digitField 2 1 12 (cs.drop 5)
  if (cs.drop 7).head? != some '-' then none
  let d ← digitField 2 1 31 (cs.drop 8)
  let rest := (cs.drop 10).dropWhile fun c => isSpace c || c == 'T'
  let p ← match readTime rest p with
    | some q => pure q
    | none => if rest.isEmpty then pure { p with hasTime := false } else none
  let p := { p with hasJd := false, hasDate := true,
                    year := if negative then -Int.ofNat y else Int.ofNat y,
                    month := Int.ofNat mo, day := Int.ofNat d }
  if p.hasOffset then p.withJd else pure p

def rawMoment (r : Float) : Moment :=
  let p : Moment := { second := r, raw := true }
  if r ≥ 0.0 && r < 5373484.5 then
    { p with jd := castToInt (r * 86400000.0 + 0.5), hasJd := true }
  else p

def readMoment (now : Int) (cs : List Char) : Option Moment :=
  match readDate cs {} with
  | some p => some p
  | none =>
    match readTime cs {} with
    | some p => some p
    | none =>
      if cs.map Char.toLower == ['n', 'o', 'w'] then some { jd := now, hasJd := true }
      else
        let scan := readReal (String.ofList cs)
        if scan.kind > 0 then some (rawMoment scan.value) else none

def unitScale (unit : List Char) : Option (Float × Float) :=
  match String.ofList unit with
  | "second" => some (464269992787968.0, 1.0)
  | "minute" => some (7737900007424.0, 60.0)
  | "hour" => some (128969998336.0, 3600.0)
  | "day" => some (5373485.0, 86400.0)
  | "month" => some (176546.0, 2592000.0)
  | "year" => some (14713.0, 31536000.0)
  | _ => none

def shiftByClock (text : List Char) (p : Moment) : Option Moment := do
  let written := if (text.head?.map Char.isDigit).getD false then text else text.drop 1
  let tx ← readTime written {}
  let tx ← tx.withJd
  let j := tx.jd - 43200000
  let j := j - j.tdiv msPerDay * msPerDay
  let j := if text.head? == some '-' then -j else j
  let p ← p.withJd
  pure { p.cleared with jd := p.jd + j }

def shiftByUnits (r : Float) (unit : List Char) (p : Moment) : Option Moment := do
  let len := unit.length
  if len > 10 || len < 3 then none
  let len := if unit.getLast?.map Char.toLower == some 's' then len - 1 else len
  let p ← p.withJd
  let (limit, scale) ← unitScale ((unit.take len).map Char.toLower)
  if !(r > -limit && r < limit) then none
  let rounder := if r < 0.0 then -0.5 else 0.5
  let name := String.ofList ((unit.take len).map Char.toLower)
  let (p, r) ←
    if name == "month" then do
      let p ← p.withAll
      let whole := castToInt32 r
      let mo := p.month + whole
      let x := if mo > 0 then (mo - 1).tdiv 12 else (mo - 12).tdiv 12
      pure ({ p with year := p.year + x, month := mo - x * 12, hasJd := false },
        r - Binary64.ofInt whole)
    else if name == "year" then do
      let p ← p.withAll
      let whole := castToInt32 r
      pure ({ p with year := p.year + whole, hasJd := false }, r - Binary64.ofInt whole)
    else pure (p, r)
  let p ← p.withJd
  pure { p.cleared with jd := p.jd + castToInt (r * 1000.0 * scale + rounder) }

def applyModifier (first : Bool) (text : List Char) (p : Moment) : Option Moment :=
  let lower := text.map Char.toLower
  let lowerText := String.ofList lower
  match lower with
  | [] => none
  | c :: _ =>
    if c == 'a' then
      if lowerText != "auto" || !first then none
      else if !p.raw || p.hasJd then some { p with raw := false }
      else if p.second ≥ -210866760000.0 && p.second ≤ 253402300799.0 then
        let r := p.second * 1000.0 + 210866760000000.0
        some { p.cleared with jd := castToInt (r + 0.5), hasJd := true, raw := false }
      else none
    else if c == 'j' then
      if lowerText != "julianday" || !first then none
      else if p.hasJd && p.raw then some { p with raw := false }
      else none
    else if c == 'l' then
      if lowerText == "localtime" then (fun q => q.cleared) <$> p.withJd else none
    else if c == 'u' then
      if lowerText == "unixepoch" && p.raw then
        if !first then none
        else
          let r := p.second * 1000.0 + 210866760000000.0
          if r ≥ 0.0 && r < 464269060800000.0 then
            some { p.cleared with jd := castToInt (r + 0.5), hasJd := true, raw := false }
          else none
      else if lowerText == "utc" then
        if p.offsetSet then some p
        else (fun q => { q.cleared with offsetSet := true }) <$> p.withJd
      else none
    else if c == 'w' then
      if lower.take 8 != "weekday ".toList then none
      else
        let scan := readReal (String.ofList (text.drop 8))
        let n := castToInt32 scan.value
        if scan.kind > 0 && Binary64.ofInt n == scan.value && n ≥ 0 && scan.value < 7.0 then do
          let p ← p.withAll
          let p ← { p with hasOffset := false, hasJd := false }.withJd
          let z := ((p.jd + 129600000).tdiv msPerDay).tmod 7
          let z := if z > n then z - 7 else z
          pure { p.cleared with jd := p.jd + (n - z) * msPerDay }
        else none
    else if c == 's' then
      if lower.take 9 != "start of ".toList then none
      else if !p.hasJd && !p.hasDate && !p.hasTime then none
      else do
        let p ← p.withDate
        let p := { p with hasTime := true, hour := 0, minute := 0, second := 0.0, raw := false,
                          hasOffset := false, hasJd := false }
        match String.ofList (lower.drop 9) with
        | "month" => pure { p with day := 1 }
        | "year" => pure { p with month := 1, day := 1 }
        | "day" => pure p
        | _ => none
    else if c == '+' || c == '-' || c.isDigit then
      let n := 1 + ((text.drop 1).takeWhile fun ch => ch != ':' && !isSpace ch).length
      let scan := readReal (String.ofList (text.take n))
      if scan.kind ≤ 0 then none
      else
        match text.drop n with
        | ':' :: _ => shiftByClock text p
        | rest => shiftByUnits scan.value (rest.dropWhile isSpace) p
    else none

def applyModifiers (first : Bool) : List Datum → Moment → Option Moment
  | [], p => some p
  | m :: rest, p =>
    match m.text? with
    | none => none
    | some text => do
      let p ← applyModifier first (charsToNul text) p
      applyModifiers false rest p

def momentOf (now : Int) (args : List Datum) : Option Moment :=
  match args with
  | [] => some { jd := now, hasJd := true }
  | value :: modifiers => do
    let p ← match value with
      | .null => none
      | .int n => some (rawMoment (Binary64.ofInt n))
      | .real x => some (rawMoment x)
      | d => readMoment now (charsToNul d.asText)
    let p ← applyModifiers true modifiers p
    let p ← p.withJd
    if validJd p.jd then some p else none

def twoDigits (n : Int) : String :=
  String.ofList [Char.ofNat (48 + ((n.tdiv 10).tmod 10).toNat), Char.ofNat (48 + (n.tmod 10).toNat)]

def zeroPadded (width : Nat) (n : Int) : String :=
  let digits := toString n.natAbs
  let room := if n < 0 then width - 1 else width
  (if n < 0 then "-" else "") ++ String.ofList (List.replicate (room - digits.length) '0') ++
    digits

def dateText (p : Moment) : String :=
  let y := p.year.natAbs
  (if p.year < 0 then "-" else "") ++ twoDigits (y / 100) ++ twoDigits (y % 100) ++ "-" ++
    twoDigits p.month ++ "-" ++ twoDigits p.day

def timeText (p : Moment) : String :=
  twoDigits p.hour ++ ":" ++ twoDigits p.minute ++ ":" ++ twoDigits (castToInt32 p.second)

def dayOfYear (p : Moment) : Int :=
  let start := ((Moment.withJd { p with hasJd := false, month := 1, day := 1 }).map Moment.jd).getD p.jd
  (p.jd - start + 43200000).tdiv msPerDay

def weekday (p : Moment) : Int := ((p.jd + 129600000).tdiv msPerDay).tmod 7

def strftimeText (p : Moment) : List Char → String → Option String
  | [], out => some out
  | '%' :: c :: rest, out =>
    let piece : Option String :=
      match c with
      | 'd' => some (zeroPadded 2 p.day)
      | 'f' =>
        let s := if p.second > 59.999 then 59.999 else p.second
        let text := (renderReal s { style := .fixed, precision := 3 }).1
        some (String.ofList (List.replicate (6 - text.length) '0') ++ text)
      | 'H' => some (zeroPadded 2 p.hour)
      | 'W' =>
        let wd := ((p.jd + 43200000).tdiv msPerDay).tmod 7
        some (zeroPadded 2 ((dayOfYear p + 7 - wd).tdiv 7))
      | 'j' => some (zeroPadded 3 (dayOfYear p + 1))
      | 'J' =>
        some (renderReal (Binary64.ofInt p.jd / 86400000.0) { style := .general, precision := 16 }).1
      | 'm' => some (zeroPadded 2 p.month)
      | 'M' => some (zeroPadded 2 p.minute)
      | 's' => some (toString (p.jd.tdiv 1000 - 210866760000))
      | 'S' => some (zeroPadded 2 (castToInt32 p.second))
      | 'w' => some (toString (weekday p))
      | 'Y' => some (zeroPadded 4 p.year)
      | '%' => some "%"
      | _ => none
    match piece with
    | some s => strftimeText p rest (out ++ s)
    | none => none
  | ['%'], _ => none
  | c :: rest, out => strftimeText p rest (out.push c)

def isDateFunction (name : String) : Bool :=
  ["date", "time", "datetime", "julianday", "unixepoch", "strftime", "current_date",
    "current_time", "current_timestamp"].contains name

def callDateFunction (name : String) (now : Int) (args : List Datum) : Datum :=
  let withMoment (args : List Datum) (f : Moment → Option Datum) : Datum :=
    ((momentOf now args).bind fun p => (p.withAll).bind f).getD .null
  match name with
  | "julianday" => withMoment args fun p => some (.real (Binary64.ofInt p.jd / 86400000.0))
  | "unixepoch" => withMoment args fun p => some (.int (p.jd.tdiv 1000 - 210866760000))
  | "date" => withMoment args fun p => some (.text (dateText p))
  | "time" => withMoment args fun p => some (.text (timeText p))
  | "datetime" => withMoment args fun p => some (.text (dateText p ++ " " ++ timeText p))
  | "current_date" => withMoment [] fun p => some (.text (dateText p))
  | "current_time" => withMoment [] fun p => some (.text (timeText p))
  | "current_timestamp" => withMoment [] fun p => some (.text (dateText p ++ " " ++ timeText p))
  | "strftime" =>
    match args with
    | format :: rest =>
      match format.text? with
      | some f => withMoment rest fun p => (strftimeText p (charsToNul f) "").map .text
      | none => .null
    | [] => .null
  | _ => .null

end CatalogSync.Sql
