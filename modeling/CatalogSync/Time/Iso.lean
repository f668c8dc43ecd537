import CatalogSync.Time.Stamp
import CatalogSync.Text.Literal

/-!
# Reading ISO 8601 time stamps

`Stamp.ofIso` reads the ISO forms of a date and time. The text is read as UTF-8 bytes.

* The date is `YYYY-MM-DD`, `YYYYMMDD`, or an ISO week date `YYYY-Www[-D]`, `YYYYWww[D]`;
  where the date ends is decided from its fifth and sixth characters alone.
* Any one character may separate date and time; the whole of its UTF-8 sequence is
  skipped. The time is `HH[:MM[:SS]]` or `HH[MM[SS]]`, then optionally `.` or `,` and
  fraction digits, of which the first six count; the fraction may follow the hours or
  minutes too.
* The offset is `Z` at the very end, or a sign followed by a clock time of the same form.

A text that does not fit fails as `Invalid isoformat string: '...'`; a field out of range
fails with the message of `Stamp.ofFields`.
-/

namespace CatalogSync.Iso

def bytes (s : String) : Array Nat := s.toUTF8.toList.toArray.map (·.toNat)

def at? (b : Array Nat) (i : Nat) : Nat := b.getD i 0

def isDigitByte (c : Nat) : Bool := 48 ≤ c && c ≤ 57

def digits (b : Array Nat) (i n : Nat) : Option Nat :=
  (List.range n).foldlM (fun acc k =>
    let c := at? b (i + k)
    if isDigitByte c then some (acc * 10 + (c - 48)) else none) 0

def sequenceLength (lead : Nat) : Nat :=
  if lead < 0x80 then 1
  else if lead / 16 = 0xE then 3
  else if lead / 16 = 0xF then 4
  else 2

def dateEnd (b : Array Nat) : Option Nat :=
  let len := b.size
  let dash := 45
  let week := 87
  if len = 7 then some 7
  else if at? b 4 = dash then
    if at? b 5 = week then
      if len < 8 then none
      else if len > 8 ∧ at? b 8 = dash then
        if len = 9 then none
        else if len > 10 ∧ isDigitByte (at? b 10) then some 8
        else some 10
      else some 8
    else some 10
  else if at? b 4 = week then
    let run := ((List.range (len - min len 7)).map (· + 7)).takeWhile (fun i => isDigitByte (at? b i))
    let idx := 7 + run.length
    if idx < 9 then some idx else if idx % 2 = 0 then some 7 else some 8
  else some 8

def ofIsoWeek (y : Int) (week day : Nat) : Option (Int × Nat × Nat) :=
  let weekOk :=
    if week = 0 ∨ week ≥ 53 then
      week = 53 ∧ (let wd := Calendar.weekday y 1 1; wd = 3 ∨ (wd = 2 ∧ Calendar.isLeap y))
    else true
  if !weekOk then none
  else if day = 0 ∨ day ≥ 8 then none
  else some (Calendar.ofOrdinal (Calendar.isoWeekOneMonday y + Int.ofNat ((week - 1) * 7 + day - 1)))

def readDate (b : Array Nat) (len : Nat) : Option (Int × Nat × Nat) := do
  let y ← digits b 0 4
  let sep := at? b 4 = 45
  let p := if sep then 5 else 4
  if at? b p = 87 then
    let week ← digits b (p + 1) 2
    let p := p + 3
    let day ←
      if p < len then
        if sep ∧ at? b p ≠ 45 then none
        else digits b (if sep then p + 1 else p) 1
      else some 1
    ofIsoWeek (Int.ofNat y) week day
  else
    let m ← digits b p 2
    let p := p + 2
    if sep ∧ at? b p ≠ 45 then none
    let d ← digits b (if sep then p + 1 else p) 2
    pure (Int.ofNat y, m, d)

/-- A clock time read from `[HH[:?MM[:?SS]]][.fff…]`, and whether the reading stopped
before the end of the text. -/
structure Clock where
  hour : Nat := 0
  minute : Nat := 0
  second : Nat := 0
  micro : Nat := 0
  trailing : Bool := false

def readFraction (b : Array Nat) (p stop : Nat) (c : Clock) : Option Clock := do
  let remains := stop - p
  let take := min remains 6
  let v ← digits b p take
  let micro := v * Nat.pow 10 (6 - take)
  let rest := ((List.range (b.size + 1 - min (b.size + 1) (p + take))).map (· + p + take)).dropWhile
    (fun i => isDigitByte (at? b i))
  let q := rest.head?.getD (b.size + 1)
  pure { c with micro := micro, trailing := at? b q ≠ 0 }

def readClock (b : Array Nat) (start stop : Nat) : Option Clock :=
  let set (c : Clock) (i v : Nat) : Clock :=
    if i = 0 then { c with hour := v } else if i = 1 then { c with minute := v }
    else { c with second := v }
  let rec go (fuel : Nat) (i p : Nat) (hasSep : Bool) (c : Clock) : Option Clock :=
    match fuel with
    | 0 => none
    | fuel + 1 => do
      let v ← digits b p 2
      let c := set c i v
      let ch := at? b (p + 2)
      let p' := p + 3
      let hasSep := if i = 0 then ch = 58 else hasSep
      if p' ≥ stop then pure { c with trailing := ch ≠ 0 }
      else if hasSep ∧ ch = 58 then
        if i < 2 then go fuel (i + 1) p' hasSep c else readFraction b p' stop c
      else if ch = 46 ∨ ch = 44 then readFraction b p' stop c
      else if !hasSep then
        if i < 2 then go fuel (i + 1) (p' - 1) hasSep c else readFraction b (p' - 1) stop c
      else none
  go 3 0 start true {}

def readTime (b : Array Nat) (start : Nat) : Option (Clock × Option (Int × Int)) := do
  let stop := b.size
  let isZone (c : Nat) : Bool := c = 90 ∨ c = 43 ∨ c = 45
  let zonePos :=
    if isZone (at? b start) then start
    else ((List.range (stop - min stop (start + 1))).map (· + start + 1)).find? (fun i => isZone (at? b i))
      |>.getD (max stop (start + 1))
  let c ← readClock b start zonePos
  if zonePos = stop then
    if c.trailing then none else pure (c, none)
  else if zonePos > stop then none
  else if at? b zonePos = 90 then
    if at? b (zonePos + 1) ≠ 0 then none else pure (c, some (0, 0))
  else
    let sign : Int := if at? b zonePos = 45 then -1 else 1
    let z ← readClock b (zonePos + 1) stop
    if z.trailing then none
    else pure (c, some (sign * Int.ofNat (z.hour * 3600 + z.minute * 60 + z.second),
      sign * Int.ofNat z.micro))

def spanText (micros : Int) : String :=
  let days := micros.fdiv microsPerDay
  let rest := micros - days * microsPerDay
  let secs := rest / 1000000
  let us := rest % 1000000
  let parts :=
    (if days ≠ 0 then ["days=" ++ toString days] else []) ++
    (if secs ≠ 0 then ["seconds=" ++ toString secs] else []) ++
    (if us ≠ 0 then ["microseconds=" ++ toString us] else [])
  "datetime.timedelta(" ++ (if parts.isEmpty then "0" else ", ".intercalate parts) ++ ")"

end Iso

namespace Stamp

/-- Reads an ISO time stamp. -/
def ofIso (s : String) : Except Failure Stamp :=
  let b := Iso.bytes s
  let bad : Except Failure Stamp := .error (.invalid ("Invalid isoformat string: " ++ Text.literal s))
  match Iso.dateEnd b with
  | none => bad
  | some sepAt =>
    match Iso.readDate b sepAt with
    | none => bad
    | some (y, m, d) =>
      let time := if b.size > sepAt then Iso.readTime b (sepAt + Iso.sequenceLength (Iso.at? b sepAt))
        else some ({}, none)
      match time with
      | none => bad
      | some (c, zone) =>
        let offset : Except Failure (Option Int) :=
          match zone with
          | none => .ok none
          | some (secs, micros) =>
            if secs = 0 then .ok (some 0)
            else
              let total := secs * 1000000 + micros
              if -microsPerDay < total ∧ total < microsPerDay then .ok (some total)
              else .error (.invalid ("offset must be a timedelta strictly between " ++
                "-timedelta(hours=24) and timedelta(hours=24), not " ++ Iso.spanText total ++ "."))
        match offset with
        | .error e => .error e
        | .ok off => Stamp.ofFields y m d c.hour c.minute c.second c.micro off

end Stamp

end CatalogSync
