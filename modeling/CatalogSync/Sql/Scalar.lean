import CatalogSync.Sql.Compare
import CatalogSync.Sql.Pattern

/-!
# Ordinary functions on texts and numbers

The built-in functions that only look at their arguments: `length`, `lower`, `upper`,
`typeof`, `abs`, `hex`, `quote`, `char`, `unicode`, `instr`, `substr`, `trim`, `ltrim`,
`rtrim`, `replace`, `round`, `sign`, `soundex`, `zeroblob`, `min`, `max`, `nullif`, `like`,
`glob` and the mathematical functions.

Texts are measured in characters up to their first NUL; a number takes part as its text
where a text is wanted. Most functions give null for a null argument. Case mapping touches
ASCII letters only. A double that is not a number is given as null.
-/

namespace CatalogSync.Sql

def wrap32 (n : Int) : Int :=
  let m := n % 4294967296
  if m ≥ 2147483648 then m - 4294967296 else m

def charsToNul (s : String) : List Char := s.toList.takeWhile (· ≠ '\x00')

def realResult (x : Float) : Datum := if x.isNaN then .null else .real x

def lengthOf : Datum → Datum
  | .null => .null
  | .blob b => .int b.length
  | .text s => .int (charsToNul s).length
  | d => .int d.asText.length

def absOf : Datum → Except Failure Datum
  | .null => .ok .null
  | .int n => if n == minInt then .error (sqlError "integer overflow") else .ok (.int n.natAbs)
  | d => .ok (.real (Float.abs d.realValue))

def caseOf (upper : Bool) : Datum → Datum
  | .null => .null
  | d => .text (if upper then asciiUpper d.asText else asciiLower d.asText)

def hexByte (b : UInt8) : String :=
  let digit (n : Nat) : Char := if n < 10 then Char.ofNat (48 + n) else Char.ofNat (55 + n)
  String.ofList [digit (b.toNat / 16), digit (b.toNat % 16)]

def hexText (bytes : List UInt8) : String := String.join (bytes.map hexByte)

def hexOf : Datum → Datum
  | .null => .text ""
  | d => .text (hexText d.asBytes)

def quoteText (s : String) : String :=
  "'" ++ String.join (s.toList.map fun c => if c = '\'' then "''" else c.toString) ++ "'"

def quoteOf : Datum → Datum
  | .null => .text "NULL"
  | .int n => .text (toString n)
  | .real x =>
    let short := (renderReal x { style := .general, precision := 15, altform2 := true }).1
    if Binary64.compareFloat (readReal short).value x == some .eq then .text short
    else .text (renderReal x { style := .exponent, precision := 20, altform2 := true }).1
  | .text s => .text (quoteText (String.ofList (charsToNul s)))
  | .blob b => .text ("X'" ++ hexText b ++ "'")

def charOf (args : List Datum) : Datum :=
  .text (String.ofList (args.map fun d =>
    let n := d.intValue
    if n < 0 || n > 0x10FFFF || (0xD800 ≤ n && n ≤ 0xDFFF) then Char.ofNat 0xFFFD
    else Char.ofNat n.toNat))

def unicodeOf : Datum → Datum
  | .null => .null
  | d =>
    match d.asText.toList with
    | c :: _ => if c = '\x00' then .null else .int c.toNat
    | [] => .null

def position {α : Type} [BEq α] (hay needle : List α) : Nat :=
  let rec go (i : Nat) : List α → Nat
    | [] => if needle.isEmpty then i else 0
    | h :: t => if !needle.isEmpty && needle.isPrefixOf (h :: t) then i else go (i + 1) t
  go 1 hay

def instrOf (h n : Datum) : Datum :=
  match h, n with
  | .null, _ | _, .null => .null
  | .blob a, .blob b => .int (position a b)
  | a, b => .int (position (charsToNul a.asText) (charsToNul b.asText))

def substrItems {α : Type} (items : List α) (start : Int) (count : Option Int) : List α :=
  let len := Int.ofNat items.length
  let (p2, negative) := match count with
    | some c => if c < 0 then (-c, true) else (c, false)
    | none => (1000000000, false)
  let (p1, p2) :=
    if start < 0 then
      let p1 := start + len
      if p1 < 0 then (0, max 0 (p2 + p1)) else (p1, p2)
    else if start > 0 then (start - 1, p2)
    else if p2 > 0 then (0, p2 - 1) else (0, p2)
  let (p1, p2) :=
    if negative then
      let p1' := p1 - p2
      if p1' < 0 then (0, p2 + p1') else (p1', p2)
    else (p1, p2)
  (items.drop p1.toNat).take p2.toNat

def substrOf (args : List Datum) : Datum :=
  let x := args.getD 0 .null
  let s := args.getD 1 .null
  let c := args[2]?
  if s.isNull || (c.map Datum.isNull).getD false then .null
  else
    let start := wrap32 s.intValue
    let count := c.map fun d => wrap32 d.intValue
    match x with
    | .null => .null
    | .blob b => .blob (substrItems b start count)
    | d => .text (String.ofList (substrItems (charsToNul d.asText) start count))

def trimOf (front back : Bool) (args : List Datum) : Datum :=
  let x := args.getD 0 .null
  let set := args[1]?
  if x.isNull || (set.map Datum.isNull).getD false then .null
  else
    let chars := match set with
      | some d => charsToNul d.asText
      | none => [' ']
    let cs := charsToNul x.asText
    let cs := if front then cs.dropWhile (chars.contains ·) else cs
    let cs := if back then (cs.reverse.dropWhile (chars.contains ·)).reverse else cs
    .text (String.ofList cs)

def replaceAll {α : Type} [BEq α] (pat rep : List α) : Nat → List α → List α
  | 0, xs => xs
  | _, [] => []
  | fuel + 1, x :: xs =>
    if !pat.isEmpty && pat.isPrefixOf (x :: xs) then
      rep ++ replaceAll pat rep fuel ((x :: xs).drop pat.length)
    else x :: replaceAll pat rep fuel xs

def replaceOf (x y z : Datum) : Datum :=
  match x, y with
  | .null, _ | _, .null => .null
  | _, _ =>
    let pat := bytesOfText y.asText |>.takeWhile (· != 0)
    if pat.isEmpty then x
    else
      match z with
      | .null => .null
      | _ =>
        let src := bytesOfText x.asText |>.takeWhile (· != 0)
        let rep := bytesOfText z.asText |>.takeWhile (· != 0)
        .text (textOfBytes (replaceAll pat rep (src.length + 1) src))

def roundOf (args : List Datum) : Datum :=
  let x := args.getD 0 .null
  let nArg := args[1]?
  if (nArg.map Datum.isNull).getD false then .null
  else if x.isNull then .null
  else
    let n := match nArg with
      | some d => max 0 (min 30 (wrap32 d.intValue))
      | none => 0
    let r := x.realValue
    if r < -4503599627370496.0 || r > 4503599627370496.0 then .real r
    else if n == 0 then
      .real (Binary64.ofInt (castToInt (r + (if r < 0 then -0.5 else 0.5))))
    else
      let text := (renderReal r { style := .fixed, precision := n.toNat, altform2 := true }).1
      .real (readReal text).value

def numericArg : Datum → Option Datum
  | .int n => some (.int n)
  | .real x => some (.real x)
  | .text s => Datum.numberOfText s false
  | _ => none

def signOf (d : Datum) : Datum :=
  match numericArg d with
  | some v =>
    let x := v.realValue
    .int (if x < 0 then -1 else if x > 0 then 1 else 0)
  | none => .null

def soundexCode (b : UInt8) : Nat :=
  let c := Char.ofNat (b.toNat % 128)
  match c.toUpper with
  | 'B' | 'F' | 'P' | 'V' => 1
  | 'C' | 'G' | 'J' | 'K' | 'Q' | 'S' | 'X' | 'Z' => 2
  | 'D' | 'T' => 3
  | 'L' => 4
  | 'M' | 'N' => 5
  | 'R' => 6
  | _ => 0

def isAsciiLetter (b : UInt8) : Bool := (65 ≤ b && b ≤ 90) || (97 ≤ b && b ≤ 122)

def soundexOf (d : Datum) : Datum :=
  let bytes := (bytesOfText (match d with
    | .null => ""
    | _ => d.asText)).takeWhile (· != 0)
  match bytes.dropWhile (!isAsciiLetter ·) with
  | [] => .text "?000"
  | first :: rest =>
    let step (acc : List Nat × Nat) (b : UInt8) : List Nat × Nat :=
      let (codes, prev) := acc
      if codes.length ≥ 3 then acc
      else
        let code := soundexCode b
        if code > 0 then
          if code != prev then (codes ++ [code], code) else (codes, prev)
        else (codes, 0)
    let (codes, _) := rest.foldl step ([], soundexCode first)
    let digits := (codes ++ [0, 0, 0]).take 3
    .text (String.ofList ((Char.ofNat first.toNat).toUpper ::
      digits.map fun n => Char.ofNat (48 + n)))

def zeroblobOf (d : Datum) : Except Failure Datum :=
  let n := d.intValue
  if n > 1000000000 then .error (sqlError "string or blob too big")
  else .ok (.blob (List.replicate n.toNat 0))

def extremumOf (isMax : Bool) (coll : Collation) (args : List Datum) : Datum :=
  if args.any Datum.isNull then .null
  else
    match args with
    | [] => .null
    | a :: rest => rest.foldl (fun best x =>
        let o := compareValues coll best x
        if isMax then (if o == .lt then x else best) else (if o != .lt then x else best)) a

def nullifOf (coll : Collation) (a b : Datum) : Datum :=
  if !a.isNull && !b.isNull && compareValues coll a b == .eq then .null else a

def patternLimit : Nat := 50000

def patternOf (glob : Bool) (args : List Datum) : Except Failure Datum := do
  let p := args.getD 0 .null
  let t := args.getD 1 .null
  if (bytesOfText p.asText).length > patternLimit then
    throw (sqlError "LIKE or GLOB pattern too complex")
  let escape ← match args[2]? with
    | some .null => return .null
    | some e =>
      match e.asText.toList with
      | [c] => pure (some c)
      | _ => throw (sqlError "ESCAPE expression must be a single character")
    | none => pure none
  if p.isNull || t.isNull then return .null
  let hit := if glob then
      match escape with
      | some e => patternHolds globRules (some e) p.asText t.asText
      | none => globMatches p.asText t.asText
    else likeMatches p.asText t.asText escape
  return .int (if hit then 1 else 0)

/-! ## Mathematical functions -/

def floatRemainder (x y : Float) : Float :=
  if x.isNaN || y.isNaN || x.isInf || y == 0 then 0.0 / 0.0
  else if y.isInf then x
  else
    match Binary64.decode x, Binary64.decode y with
    | .finite a m e, .finite _ n f =>
      let (xn, xd) := Binary64.Decoded.fraction false m e
      let (yn, yd) := Binary64.Decoded.fraction false n f
      -- |x| mod |y| over the common denominator
      let num := xn.toNat * yd
      let den := yn.toNat * xd
      if den == 0 then 0.0 / 0.0
      else
        let r := num % den
        let v := Binary64.ofRatio a r (xd * yd)
        if r == 0 && a then -0.0 else v
    | _, _ => 0.0 / 0.0

def mathOne (f : Float → Float) (d : Datum) : Datum :=
  match numericArg d with
  | some v => realResult (f v.realValue)
  | none => .null

def roundingOf (f : Float → Float) (d : Datum) : Datum :=
  match numericArg d with
  | some (.int n) => .int n
  | some v => realResult (f v.realValue)
  | none => .null

def mathTwo (f : Float → Float → Float) (a b : Datum) : Datum :=
  match numericArg a, numericArg b with
  | some x, some y => realResult (f x.realValue y.realValue)
  | _, _ => .null

def logOf (f : Float → Float) (args : List Datum) : Datum :=
  match numericArg (args.getD 0 .null) with
  | none => .null
  | some v =>
    let x := v.realValue
    if x ≤ 0 then .null
    else
      match args[1]? with
      | none => realResult (f x)
      | some second =>
        let b := Float.log x
        if b ≤ 0 then .null
        else
          match numericArg second with
          | none => .null
          | some w =>
            let y := w.realValue
            if y ≤ 0 then .null else realResult (Float.log y / b)

def piValue : Float := 3.141592653589793

def truncFloat (x : Float) : Float := if x < 0 then Float.ceil x else Float.floor x

def mathFunction? (name : String) : Option (Float → Float) :=
  match name with
  | "acos" => some Float.acos
  | "acosh" => some Float.acosh
  | "asin" => some Float.asin
  | "asinh" => some Float.asinh
  | "atan" => some Float.atan
  | "atanh" => some Float.atanh
  | "cos" => some Float.cos
  | "cosh" => some Float.cosh
  | "sin" => some Float.sin
  | "sinh" => some Float.sinh
  | "tan" => some Float.tan
  | "tanh" => some Float.tanh
  | "exp" => some Float.exp
  | "sqrt" => some Float.sqrt
  | "degrees" => some fun x => x * (180.0 / piValue)
  | "radians" => some fun x => x * (piValue / 180.0)
  | _ => none

end CatalogSync.Sql
