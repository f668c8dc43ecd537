import CatalogSync.Time.Stamp

/-!
# Times as seconds since the epoch

`Stamp.ofEpochSeconds` reads a double count of seconds since 1970-01-01T00:00 UTC as a UTC
stamp. The fraction of a second is scaled to microseconds as a double, then rounded to the
nearest integer, a tie going to the even one; so a count that is not exactly representable
can land a microsecond away from its decimal spelling. A count beyond the 64-bit range of
seconds overflows, a year beyond what the broken-down calendar holds fails as the operating
system does, and a year outside 1 to 9999 is out of range.

`Stamp.epochMillis` is the other way: the stamp's seconds since the epoch as a double, times
a thousand as a double, cut toward zero.
-/

namespace CatalogSync.Stamp

def epochOrdinal : Int := Calendar.ordinal 1970 1 1

def roundFraction (num : Int) (den : Nat) : Int :=
  let r := Int.ofNat (Binary64.roundHalfEven num.natAbs den)
  if num < 0 then -r else r

def roundDouble (x : Float) : Int :=
  match Binary64.decode x with
  | .finite negative m e =>
    let (num, den) := Binary64.Decoded.fraction negative m e
    roundFraction num den
  | _ => 0

def wallOfEpochSeconds (x : Float) : Except Failure Int :=
  match Binary64.decode x with
  | .nan => .error (.invalid "Invalid value NaN (not a number)")
  | .infinite _ => .error (.overflow "timestamp out of range for platform time_t")
  | .finite negative m e =>
    let (num, den) := Binary64.Decoded.fraction negative m e
    let whole := Binary64.truncate negative m e
    let fraction := num - whole * Int.ofNat den
    let scaled := Binary64.ofRatio (fraction < 0) (fraction.natAbs * 1000000) den
    let micro := roundDouble scaled
    let (whole, micro) :=
      if micro ≥ 1000000 then (whole + 1, micro - 1000000)
      else if micro < 0 then (whole - 1, micro + 1000000)
      else (whole, micro)
    if whole < -Int.pow 2 63 || whole > Int.pow 2 63 then
      .error (.overflow "timestamp out of range for platform time_t")
    else
      let days := whole.fdiv 86400
      let seconds := whole - days * 86400
      let ordinal := days + epochOrdinal
      let (year, _, _) := Calendar.ofOrdinal ordinal
      if year - 1900 < -Int.pow 2 31 || year - 1900 ≥ Int.pow 2 31 then
        .error (.system .other "[Errno 75] Value too large for defined data type")
      else if year < 1 || year > 9999 then
        .error (.invalid ("year " ++ toString year ++ " is out of range"))
      else .ok ((ordinal - 1) * microsPerDay + seconds * 1000000 + micro)

/-- The UTC stamp a double count of seconds since the epoch denotes. -/
def ofEpochSeconds (x : Float) : Except Failure Stamp :=
  (wallOfEpochSeconds x).map fun wall => ⟨wall, some 0⟩

/-- The stamp's seconds since the epoch, as a double times a thousand as a double, cut toward
zero; a stamp without an offset counts as UTC. -/
def epochMillis (s : Stamp) : Int :=
  match Binary64.decode s.epochSeconds with
  | .finite negative m e =>
    let (num, den) := Binary64.Decoded.fraction negative m e
    match Binary64.decode (Binary64.ofRatio negative (num.natAbs * 1000) den) with
    | .finite negative' m' e' => Binary64.truncate negative' m' e'
    | _ => 0
  | _ => 0

end CatalogSync.Stamp
