import CatalogSync.Json.Reader
import CatalogSync.Number.Whole

/-!
# YAML: what a plain scalar means

A plain scalar's tag is decided by its text, by the YAML 1.1 rules:

* `null`: `~`, `null`, `Null`, `NULL` or nothing;
* `bool`: `yes`, `no`, `true`, `false`, `on`, `off`, each in lower, capitalised or upper case;
* `int`: an optional sign, then `0b` and binary digits, `0x` and hexadecimal digits, `0` and
  octal digits, decimal digits not starting with `0`, or base 60 groups (`1:30`);
  underscores may stand among the digits;
* `float`: digits with a decimal point and an optional signed exponent (`1.5`, `1.e+3`,
  `.5`), base 60 groups with a decimal point, `.inf` or `.nan`. Without a decimal point or
  with an unsigned exponent a text such as `1e5` is not a number;
* `timestamp`: a date `YYYY-MM-DD`, or a date with one- or two-digit month and day, then
  `T`, `t` or blanks, a time `H:MM:SS` with an optional fraction, and an optional zone: `Z`
  or a signed hour with optional minutes, blanks allowed before it;
* `merge` for `<<` and `value` for `=`;
* `str` for everything else.

Quoted scalars are always `str`.
-/

namespace CatalogSync.Yaml

def typeTag (name : String) : String := "tag:yaml.org,2002:" ++ name

def boolWords : List String :=
  ["yes", "Yes", "YES", "no", "No", "NO", "true", "True", "TRUE", "false", "False", "FALSE",
   "on", "On", "ON", "off", "Off", "OFF"]

def nullWords : List String := ["~", "null", "Null", "NULL", ""]

def unsign (cs : List Char) : Bool × List Char :=
  match cs with
  | '-' :: r | '+' :: r => (true, r)
  | _ => (false, cs)

def isDigitMark (c : Char) : Bool := c.isDigit || c == '_'

def colonParts (cs : List Char) : List (List Char) :=
  ((String.ofList cs).splitOn ":").map String.toList

def isSexagesimalGroup : List Char → Bool
  | [d] => d.isDigit
  | [a, b] => '0' ≤ a && a ≤ '5' && b.isDigit
  | _ => false

def isSexagesimal (cs : List Char) : Bool :=
  match colonParts cs with
  | head :: groups@(_ :: _) => head.all isDigitMark && groups.all isSexagesimalGroup
  | _ => false

def isIntText (cs : List Char) : Bool :=
  match (unsign cs).2 with
  | '0' :: 'b' :: r => !r.isEmpty && r.all (fun c => c == '0' || c == '1' || c == '_')
  | '0' :: 'x' :: r =>
    !r.isEmpty && r.all (fun c => c.isDigit || ('a' ≤ c && c ≤ 'f') || ('A' ≤ c && c ≤ 'F') || c == '_')
  | '0' :: r => r.all (fun c => ('0' ≤ c && c ≤ '7') || c == '_')
  | c :: r => '1' ≤ c && c ≤ '9' && (r.all isDigitMark || isSexagesimal (c :: r))
  | [] => false

def isExponent : List Char → Bool
  | [] => true
  | e :: s :: ds => (e == 'e' || e == 'E') && (s == '-' || s == '+') && !ds.isEmpty && ds.all Char.isDigit
  | _ => false

def isFloatText (cs : List Char) : Bool :=
  let (signed, body) := unsign cs
  let text := String.ofList body
  if text == ".inf" || text == ".Inf" || text == ".INF" then true
  else if !signed && (text == ".nan" || text == ".NaN" || text == ".NAN") then true
  else match body with
    | '.' :: d :: r => !signed && d.isDigit && isExponent (r.dropWhile isDigitMark)
    | d :: r =>
      d.isDigit &&
        match r.dropWhile isDigitMark with
        | '.' :: r2 => isExponent (r2.dropWhile isDigitMark)
        | ':' :: _ =>
          match (d :: r).span (· != '.') with
          | (whole, '.' :: fraction) => isSexagesimal whole && fraction.all isDigitMark
          | _ => false
        | _ => false
    | [] => false

def digitsNat (ds : List Char) : Nat := ds.foldl (fun acc c => acc * 10 + (c.toNat - 48)) 0

def fixedDigits (n : Nat) (cs : List Char) : Option (Nat × List Char) :=
  let ds := cs.take n
  if ds.length == n && ds.all Char.isDigit then some (digitsNat ds, cs.drop n) else none

def shortDigits : List Char → Option (Nat × List Char)
  | a :: b :: rest =>
    if !a.isDigit then none
    else if b.isDigit then some (digitsNat [a, b], rest)
    else some (digitsNat [a], b :: rest)
  | [a] => if a.isDigit then some (digitsNat [a], []) else none
  | [] => none

/-- The zone of a timestamp text. -/
inductive Zone where
  /-- `Z`: UTC. -/
  | utc
  /-- A sign, hours and minutes. -/
  | offset (negative : Bool) (hours minutes : Nat)

/-- The fields of a timestamp text. -/
structure TimestampText where
  year : Nat
  month : Nat
  day : Nat
  /-- Hour, minute, second and the digits of the fraction, when a time of day is given. -/
  time : Option (Nat × Nat × Nat × List Char)
  zone : Option Zone

def isSpaceOrTab (c : Char) : Bool := c == ' ' || c == '\t'

def readZone (cs : List Char) : Option Zone :=
  match cs.dropWhile isSpaceOrTab with
  | ['Z'] => some .utc
  | s :: rest =>
    if s != '-' && s != '+' then none
    else do
      let (h, rest) ← shortDigits rest
      match rest with
      | [] => some (.offset (s == '-') h 0)
      | ':' :: rest =>
        let (m, rest) ← fixedDigits 2 rest
        if rest.isEmpty then some (.offset (s == '-') h m) else none
      | _ => none
  | [] => none

def readClock (cs : List Char) :
    Option ((Nat × Nat × Nat × List Char) × Option Zone) := do
  let cs ← match cs with
    | 'T' :: rest | 't' :: rest => some rest
    | c :: _ => if isSpaceOrTab c then some (cs.dropWhile isSpaceOrTab) else none
    | [] => none
  let (h, cs) ← shortDigits cs
  let cs ← match cs with | ':' :: rest => some rest | _ => none
  let (m, cs) ← fixedDigits 2 cs
  let cs ← match cs with | ':' :: rest => some rest | _ => none
  let (s, cs) ← fixedDigits 2 cs
  let (fraction, cs) := match cs with
    | '.' :: rest => rest.span Char.isDigit
    | _ => ([], cs)
  let zone ← if cs.isEmpty then some none else some <$> readZone cs
  return ((h, m, s, fraction), zone)

def readTimestamp (text : String) : Option TimestampText := do
  let cs := text.toList
  let cs := if cs.getLast? == some '\n' then cs.dropLast else cs
  let (year, cs) ← fixedDigits 4 cs
  let cs ← match cs with | '-' :: rest => some rest | _ => none
  let (month, cs) ← shortDigits cs
  let cs ← match cs with | '-' :: rest => some rest | _ => none
  let (day, cs) ← shortDigits cs
  if cs.isEmpty then return { year, month, day, time := none, zone := none }
  let (time, zone) ← readClock cs
  return { year, month, day, time := some time, zone }

def isTimestampText (text : String) : Bool :=
  match readTimestamp text with
  | some t => t.time.isSome || text.length == 10
  | none => false

def resolve (text : String) : String :=
  let cs := text.toList
  if boolWords.contains text then typeTag "bool"
  else if isFloatText cs then typeTag "float"
  else if isIntText cs then typeTag "int"
  else if isTimestampText text then typeTag "timestamp"
  else if text == "<<" then typeTag "merge"
  else if nullWords.contains text then typeTag "null"
  else if text == "=" then typeTag "value"
  else typeTag "str"

def digitsIn (base : Nat) (cs : List Char) : Option Nat :=
  cs.foldlM (fun acc c =>
    let d := if c.isDigit then c.toNat - 48
      else if 'a' ≤ c ∧ c ≤ 'z' then c.toNat - 87
      else if 'A' ≤ c ∧ c ≤ 'Z' then c.toNat - 55
      else base
    if d < base then some (acc * base + d) else none) 0

def wholeIn (base : Nat) (cs : List Char) : Except String Int :=
  match Number.readWhole base (String.ofList cs) with
  | some n => .ok n
  | none => .error (Number.wholeMessage base (String.ofList cs))

/-- The value of an integer text, or the message of its failure: underscores dropped, a
sign, then `0b`, `0x` or a leading `0` giving the base, colons separating base 60 groups.
Each part is read as the integer constructor reads a text in its base, so an empty part
fails as an invalid literal; an empty text has no first character to look at. -/
def intValue (text : String) : Except String Int := do
  let cs := text.toList.filter (· != '_')
  let noFirst : Except String Int := .error "string index out of range"
  let some first := cs.head? | noFirst
  let body := if first == '-' || first == '+' then cs.drop 1 else cs
  let n ← match body with
    | ['0'] => pure 0
    | '0' :: 'b' :: ds => wholeIn 2 ds
    | '0' :: 'x' :: ds => wholeIn 16 ds
    | '0' :: _ => wholeIn 8 body
    | [] => noFirst
    | ds =>
      if ds.contains ':' then
        (colonParts ds).foldlM (fun acc part => do return acc * 60 + (← wholeIn 10 part)) 0
      else wholeIn 10 ds
  return if first == '-' then -n else n

def decimalValue (negative : Bool) (cs : List Char) : Option Float := do
  let (whole, rest) := cs.span Char.isDigit
  let (fraction, rest) := match rest with
    | '.' :: r => r.span Char.isDigit
    | _ => ([], rest)
  if whole.isEmpty && fraction.isEmpty then none
  let exponent : Int ← match rest with
    | [] => some 0
    | 'e' :: r =>
      let (expNegative, ds) := match r with
        | '-' :: d => (true, d)
        | '+' :: d => (false, d)
        | d => (false, d)
      if ds.isEmpty || !ds.all Char.isDigit then none
      else
        let e := Int.ofNat (Json.digitsValue ds)
        some (if expNegative then -e else e)
    | _ => none
  return Json.decimalToFloat negative (Json.digitsValue (whole ++ fraction))
    (exponent - Int.ofNat fraction.length)

def floatValue (text : String) : Option Float := do
  let cs := (text.toList.filter (· != '_')).map Char.toLower
  let (negative, body) := match cs with
    | '-' :: r => (true, r)
    | '+' :: r => (false, r)
    | _ => (false, cs)
  let sign : Float := if negative then -1 else 1
  if String.ofList body == ".inf" then return sign * Binary64.infinity false
  if String.ofList body == ".nan" then return Json.notANumber
  if body.contains ':' then
    let parts ← (colonParts body).mapM (decimalValue false)
    let (sum, _) := parts.reverse.foldl (fun (acc : Float × Nat) d =>
      (acc.1 + d * Float.ofNat acc.2, acc.2 * 60)) (0, 1)
    return sign * sum
  decimalValue negative body

def boolValue (text : String) : Option Bool :=
  match String.ofList (text.toList.map Char.toLower) with
  | "yes" | "true" | "on" => some true
  | "no" | "false" | "off" => some false
  | _ => none

end CatalogSync.Yaml
