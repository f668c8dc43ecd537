import CatalogSync.Number.Extended
import CatalogSync.Sql.Datum

/-!
# Reading and writing numbers

The database reads numbers out of text in two ways.

* `readReal` scans `[blanks][sign]digits[.digits][e[sign]digits][blanks]` and computes the
  double: the digits are gathered into a 64-bit significand (digits past its capacity only
  move the decimal exponent), the exponent is reduced while the significand can absorb
  powers of ten, and what remains is applied as a power of ten built up in the extended
  format, so the result can differ from the correctly rounded double in the last place.
  Its `kind` says what the text was: `1` a whole-text integer, `2` or `3` a whole-text
  number with a point or an exponent (`3` with both), `-1` such a number followed by other
  text, `0` anything else.
* `readInteger` reads `[blanks][sign]digits[blanks]` into a 64-bit integer, saturating,
  and reports trailing text (`1`), overflow (`2`), exactly `2^63` without a minus (`3`) or no
  digits at all (`-1`).

A double is written as text by `realText`, the `%!.15g` rendering of `RealFormat`: fifteen
significant digits, the last one rounded by adding half a unit in the extended format and
the digits then read off one at a time, positional between `1e-4` and `1e15` and with an
exponent otherwise, a whole number keeping `.0`.
-/

namespace CatalogSync.Sql

def isSpace (c : Char) : Bool := c = ' ' || ('\t' ≤ c && c ≤ '\r')

def digitValue (c : Char) : Nat := c.toNat - 48

/-! ## Reading doubles -/

/-- What `readReal` found. -/
structure RealScan where
  /-- The double read, from as much of the text as reads as a number. -/
  value : Float
  /-- What the text was, as the module documentation lists. -/
  kind : Int
  deriving Inhabited

def significandLimit : Nat := 922337203685477579

def integerDigits : List Char → Nat → Int → Nat → Nat × Int × Nat × List Char
  | [], s, d, n => (s, d, n, [])
  | c :: rest, s, d, n =>
    if c.isDigit then
      let s := s * 10 + digitValue c
      if s ≥ significandLimit then
        let skipped := rest.takeWhile Char.isDigit
        (s, d + Int.ofNat skipped.length, n + 1, rest.drop skipped.length)
      else integerDigits rest s d (n + 1)
    else (s, d, n, c :: rest)

def fractionDigits : List Char → Nat → Int → Nat → Nat × Int × Nat × List Char
  | [], s, d, n => (s, d, n, [])
  | c :: rest, s, d, n =>
    if c.isDigit then
      if s < significandLimit then fractionDigits rest (s * 10 + digitValue c) (d - 1) (n + 1)
      else fractionDigits rest s d n
    else (s, d, n, c :: rest)

def exponentDigits : List Char → Nat → Bool → Nat × Bool × List Char
  | [], e, seen => (e, seen, [])
  | c :: rest, e, seen =>
    if c.isDigit then
      exponentDigits rest (if e < 10000 then e * 10 + digitValue c else 10000) true
    else (e, seen, c :: rest)

def timesTen : Nat → Extended → Extended
  | 0, x => x
  | k + 1, x => timesTen k (Extended.mul x (Extended.ofFloat 10.0))

def tenPower (e : Nat) : Extended :=
  let rec big : Nat → Extended → Extended
    | 0, x => x
    | k + 1, x => big k (Extended.mul x (Extended.ofFloat 1.0e22))
  big (e / 22) (timesTen (e % 22) (Extended.ofInt 1))

def absorb : Nat → Bool → Nat → Nat → Nat × Nat
  | 0, _, s, e => (s, e)
  | fuel + 1, up, s, e =>
    if e = 0 then (s, e)
    else if up then
      if s ≥ 922337203685477580 then (s, e) else absorb fuel up (s * 10) (e - 1)
    else
      if s % 10 != 0 then (s, e) else absorb fuel up (s / 10) (e - 1)

def scaledValue (negative : Bool) (s : Nat) (e : Int) : Float :=
  if s = 0 then (if negative then -0.0 else 0.0)
  else
    let up := e ≥ 0
    let (s, e) := absorb (e.natAbs + 1) up s e.natAbs
    let signed : Int := if negative then -Int.ofNat s else Int.ofNat s
    if e = 0 then Binary64.ofInt signed
    else if e > 307 then
      if e < 342 then
        let scale := timesTen (e - 308) (Extended.ofInt 1)
        if up then (Extended.mul (Extended.ofInt signed) scale).toFloat * 1.0e308
        else (Extended.div (Extended.ofInt signed) scale).toFloat / 1.0e308
      else if up then Binary64.infinity negative
      else (if negative then -0.0 else 0.0)
    else
      let scale := tenPower e
      if up then (Extended.mul (Extended.ofInt signed) scale).toFloat
      else (Extended.div (Extended.ofInt signed) scale).toFloat

/-- Reads a number the way the database reads a double out of text. -/
def readReal (text : String) : RealScan :=
  let cs := text.toList.dropWhile isSpace
  if cs.isEmpty then ⟨0.0, 0⟩
  else
    let (negative, cs) := match cs with
      | '-' :: r => (true, r)
      | '+' :: r => (false, r)
      | _ => (false, cs)
    let (s, d, n, cs) := integerDigits cs 0 0 0
    -- `kind` counts a point and an exponent; `valid` is false for an exponent without digits
    let (s, d, n, pointKind, cs) := match cs with
      | '.' :: r => let (s, d, n, r) := fractionDigits r s d n; (s, d, n, 1, r)
      | _ => (s, d, n, 0, cs)
    let (e, expKind, valid, cs) := match cs with
      | c :: r =>
        if c = 'e' ∨ c = 'E' then
          let (eneg, r) := match r with
            | '-' :: q => (true, q)
            | '+' :: q => (false, q)
            | _ => (false, r)
          let (e, seen, r) := exponentDigits r 0 false
          ((if eneg then -Int.ofNat e else Int.ofNat e), 1, seen, r.dropWhile isSpace)
        else (0, 0, true, cs.dropWhile isSpace)
      | [] => (0, 0, true, [])
    let eType : Int := 1 + pointKind + expKind
    let value := scaledValue negative s (e + d)
    let kind : Int :=
      if cs.isEmpty && n > 0 && valid then eType
      else if eType ≥ 2 && (eType == 3 || valid) && n > 0 then -1
      else 0
    ⟨value, kind⟩

/-! ## Reading integers -/

/-- What `readInteger` found. -/
structure IntegerScan where
  /-- The integer read, saturated at the 64-bit bounds. -/
  value : Int
  /-- What the text was, as the module documentation lists. -/
  status : Int
  deriving Inhabited

/-- Reads an integer the way the database reads a 64-bit integer out of text. -/
def readInteger (text : String) : IntegerScan :=
  let cs := text.toList.dropWhile isSpace
  let (negative, cs) := match cs with
    | '-' :: r => (true, r)
    | '+' :: r => (false, r)
    | _ => (false, cs)
  let afterZeros := cs.dropWhile (· = '0')
  let skippedZeros := afterZeros.length < cs.length
  let digits := afterZeros.takeWhile Char.isDigit
  let rest := afterZeros.drop digits.length
  let u := digits.foldl (fun acc c => acc * 10 + digitValue c) 0
  let value : Int :=
    if u > 9223372036854775807 then (if negative then minInt else maxInt)
    else if negative then -Int.ofNat u else Int.ofNat u
  let status : Int :=
    if digits.isEmpty && !skippedZeros then -1
    else if rest.any (fun c => !isSpace c) then 1
    else 0
  if digits.length < 19 then ⟨value, status⟩
  else
    let c : Ordering :=
      if digits.length > 19 then .gt else compare u 9223372036854775808
    match c with
    | .lt => ⟨value, status⟩
    | .gt => ⟨if negative then minInt else maxInt, 2⟩
    | .eq => ⟨if negative then minInt else maxInt, if negative then status else 3⟩

/-- Reads a decimal or `0x` hexadecimal integer literal: the value and the status of
`readInteger`, where a hexadecimal literal of more than sixteen significant digits gives
`2`. -/
def readLiteralInteger (text : String) : IntegerScan :=
  match text.toList with
  | '0' :: x :: digits =>
    if x = 'x' ∨ x = 'X' then
      let significant := digits.dropWhile (· = '0')
      let v := significant.foldl (fun acc c =>
        acc * 16 + (if c.isDigit then digitValue c else c.toLower.toNat - 87)) (0 : Nat)
      ⟨wrapInt v, if significant.length ≤ 16 then 0 else 2⟩
    else readInteger text
  | _ => readInteger text

/-! ## Doubles and integers -/

def castToInt (x : Float) : Int :=
  match Binary64.decode x with
  | .finite negative m e =>
    let n := Binary64.truncate negative m e
    if fitsInt n then n else minInt
  | _ => minInt

def realToInt (x : Float) : Int :=
  match Binary64.compareInt x minInt, Binary64.compareInt x maxInt with
  | some .lt, _ | some .eq, _ => minInt
  | _, some .gt | _, some .eq => maxInt
  | none, _ => minInt
  | _, _ => castToInt x

def realSameAsInt (x : Float) (i : Int) : Bool :=
  Binary64.isZero x ||
    (x.toBits == (Binary64.ofInt i).toBits && -2251799813685248 ≤ i && i < 2251799813685248)

/-! ## Writing doubles -/

/-- How a double is laid out. -/
inductive RealStyle where
  /-- Digits with a point, `%f`. -/
  | fixed
  /-- One digit, a point, digits and an exponent, `%e`. -/
  | exponent
  /-- Whichever of the two suits the number, `%g`. -/
  | general
  deriving DecidableEq, Repr, Inhabited

/-- The options of a double's layout. -/
structure RealFormat where
  style : RealStyle
  /-- The precision; negative for the default of six. -/
  precision : Int := -1
  /-- The `#` flag: keep the point and trailing zeros. -/
  alternate : Bool := false
  /-- The `!` flag: more digits, and a whole number keeps `.0`. -/
  altform2 : Bool := false
  /-- The character a non-negative number starts with, `+` or a space, if any. -/
  signFlag : Option Char := none
  /-- Whether the exponent letter is a capital. -/
  upper : Bool := false
  /-- The `,` flag: the digits before the point in groups of three. -/
  thousands : Bool := false
  deriving Inhabited

def groupThousands (ds : List Char) : List Char :=
  let n := ds.length
  (ds.zipIdx.map fun (d, i) =>
    let after := n - 1 - i
    if after > 1 && after % 3 == 0 then [d, ','] else [d]).flatten

def rounderFor (precision : Nat) : Float :=
  let idx := precision % 4096
  let base := #[5.0e-01, 5.0e-02, 5.0e-03, 5.0e-04, 5.0e-05, 5.0e-06, 5.0e-07, 5.0e-08,
    5.0e-09, 5.0e-10].getD (idx % 10) 0.5
  (List.replicate (idx / 10) ()).foldl (fun r _ => r * 1.0e-10) base

def nextDigit (v : Extended) (count : Nat) : Char × Extended × Nat :=
  match count with
  | 0 => ('0', v, 0)
  | count + 1 =>
    let d := v.truncate
    (Char.ofNat (48 + d.toNat),
      Extended.mul (Extended.sub v (Extended.ofInt d)) (Extended.ofFloat 10.0), count)

def digitsOf : Nat → Extended → Nat → List Char × Extended × Nat
  | 0, v, c => ([], v, c)
  | k + 1, v, c =>
    let (d, v, c) := nextDigit v c
    let (ds, v, c) := digitsOf k v c
    (d :: ds, v, c)

def normalize (v : Extended) : Option (Extended × Int) :=
  let rec up (step : Float) (k : Int) : Nat → Extended → Int → Extended × Int
    | 0, scale, exp => (scale, exp)
    | fuel + 1, scale, exp =>
      if Extended.ge v (Extended.mul (Extended.ofFloat step) scale) && exp ≤ 350 then
        up step k fuel (Extended.mul scale (Extended.ofFloat step)) (exp + k)
      else (scale, exp)
  let (scale, exp) := up 1.0e100 100 8 (Extended.ofInt 1) 0
  let (scale, exp) := up 1.0e10 10 40 scale exp
  let (scale, exp) := up 10.0 1 40 scale exp
  let v := Extended.div v scale
  let rec down (step : Float) (bound : Float) (k : Int) : Nat → Extended → Int → Extended × Int
    | 0, v, exp => (v, exp)
    | fuel + 1, v, exp =>
      if Extended.lt v (Extended.ofFloat bound) then
        down step bound k fuel (Extended.mul v (Extended.ofFloat step)) (exp - k)
      else (v, exp)
  let (v, exp) := down 1.0e8 1.0e-8 8 700 v exp
  let (v, exp) := down 10.0 1.0 1 16 v exp
  if exp > 350 then none else some (v, exp)

def binaryExponent (x : Float) : Int := Int.ofNat ((x.toBits.toNat / Nat.pow 2 52) % 2048) - 1023

def exponentSuffix (upper : Bool) (exp : Int) : String :=
  let sign := if exp < 0 then "-" else "+"
  let e := exp.natAbs
  let hundreds := if e ≥ 100 then toString (e / 100) else ""
  let e := e % 100
  (if upper then "E" else "e") ++ sign ++ hundreds ++ toString (e / 10) ++ toString (e % 10)

def trimZeros (keepZero : Bool) (cs : List Char) : List Char :=
  let r := cs.reverse.dropWhile (· = '0')
  match r with
  | '.' :: more => if keepZero then ('0' :: '.' :: more).reverse else more.reverse
  | _ => r.reverse

def renderReal (x : Float) (f : RealFormat) : String × Bool :=
  let precision : Int := if f.precision < 0 then 6 else f.precision
  let negative := Binary64.compareFloat x 0.0 == some .lt
  let v := Extended.ofFloat (if negative then -x else x)
  let lead : String := if negative then "-" else (f.signFlag.map Char.toString).getD ""
  let precision := if f.style == .general && precision > 0 then precision - 1 else precision
  let rounder := rounderFor precision.toNat
  let (rounder, v) :=
    if f.style == .fixed then
      let ex := binaryExponent v.toFloat
      let rounder :=
        if precision + ex.tdiv 3 < 15 then
          (Extended.add (Extended.ofFloat rounder) (Extended.mul v (Extended.ofFloat 3e-16))).toFloat
        else rounder
      (rounder, Extended.add v (Extended.ofFloat rounder))
    else (rounder, v)
  if x.isNaN then ("NaN", false)
  else
    let positive := Extended.lt (Extended.ofInt 0) v
    match (if positive then normalize v else some (v, 0)) with
    | none => (lead ++ "Inf", false)
    | some (v, exp) =>
      let (v, exp) :=
        if f.style != .fixed then
          let v := Extended.add v (Extended.ofFloat rounder)
          if Extended.ge v (Extended.ofFloat 10.0) then
            (Extended.mul v (Extended.ofFloat 0.1), exp + 1)
          else (v, exp)
        else (v, exp)
      let (style, precision, rtz) :=
        if f.style == .general then
          if exp < -4 || exp > precision then (RealStyle.exponent, precision, !f.alternate)
          else (RealStyle.fixed, precision - exp, !f.alternate)
        else (f.style, precision, f.altform2)
      let e2 : Int := if style == .exponent then 0 else exp
      let count := if f.altform2 then 26 else 16
      let dp := precision > 0 || f.alternate || f.altform2
      let (whole, v, count) :=
        if e2 < 0 then (['0'], v, count) else digitsOf (e2.toNat + 1) v count
      let whole := if f.thousands && e2 ≥ 0 then groupThousands whole else whole
      let zeros := if e2 < 0 then (-(e2 + 1)).toNat else 0
      let precision := precision - Int.ofNat zeros
      let (frac, _, _) := digitsOf precision.toNat v count
      let body := whole ++ (if dp then ['.'] else []) ++ List.replicate zeros '0' ++ frac
      let body := if rtz && dp then trimZeros f.altform2 body else body
      let suffix := if style == .exponent then exponentSuffix f.upper exp else ""
      (lead ++ String.ofList body ++ suffix, true)

/-- The text of a double as the database writes it, `%!.15g`. -/
def realText (x : Float) : String :=
  (renderReal x { style := .general, precision := 15, altform2 := true }).1

end CatalogSync.Sql
