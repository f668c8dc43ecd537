import CatalogSync.Sql.Scalar

/-!
# `printf` and `format`

`printfOf` lays its arguments out by a format text, as the database's `printf` (also named
`format`) does. The format is read into `Piece`s: runs of plain bytes, directives, and a
halt where a directive cannot be read. A directive is `%`, flags among `- + space # ! 0 ,`,
a width (digits or `*`), a precision (`.` then digits or `*`), `l` or `ll` (which change
nothing here), and a conversion letter:

* `d`, `i` signed decimal; `u` the same 64 bits unsigned; `r` signed decimal with an
  English ordinal suffix; `x`, `X`, `p` hexadecimal and `o` octal of the unsigned 64 bits;
* `f`, `e`, `E`, `g`, `G` doubles, laid out by `renderReal`;
* `s`, `z` texts; `c` the first character of a text; `q`, `Q`, `w` texts with quotes
  doubled, `Q` also enclosing them in quotes;
* `%` itself; `n` prints nothing and takes no argument.

Any other letter, a directive cut off by the end of the format, and the internal `T` and
`S` stop the output there, keeping what came before it.

Arguments are taken in order, a missing one counting as zero or as a null text. Widths and
precisions count bytes, except that the `!` flag makes those of texts count characters.
A field padded with zeros gets them after its sign; every other field is padded with
spaces, on the left unless the `-` flag (or a negative `*` width) asks for the right.
Output that would pass the length limit of a text makes the result null.
-/

namespace CatalogSync.Sql

/-- Where the width or the precision of a directive comes from. -/
inductive Amount where
  | unset
  | given (n : Nat)
  /-- The next argument, as a 32-bit integer. -/
  | argument
  deriving Inhabited, DecidableEq

/-- A directive of a format: its flags, width, precision and conversion letter. -/
structure Directive where
  left : Bool := false
  /-- The byte a non-negative number starts with, `+` or a space. -/
  sign : Option UInt8 := none
  alternate : Bool := false
  /-- The `!` flag. -/
  altform2 : Bool := false
  zero : Bool := false
  thousands : Bool := false
  width : Amount := .unset
  precision : Amount := .unset
  conversion : UInt8 := 0
  deriving Inhabited

/-- A piece of a format. -/
inductive Piece where
  | literal (bytes : List UInt8)
  | directive (d : Directive)
  /-- A directive that cannot be read: the output ends. -/
  | halt
  deriving Inhabited

def isDigitByte (b : UInt8) : Bool := 48 ≤ b && b ≤ 57

def counterValue (ds : List UInt8) : Nat :=
  (ds.foldl (fun acc b => (acc * 10 + (b.toNat - 48)) % 4294967296) 0) % 2147483648

def finishDirective (d : Directive) : List UInt8 → Option (Directive × List UInt8)
  | [] => none
  | c :: rest => some ({ d with conversion := c }, rest)

/-- Reads the rest of a directive after its `%`: none when the format ends first. A width
or a precision is followed by the conversion letter, or by `l`; a width also by a
precision. -/
def readDirective : Nat → Directive → List UInt8 → Option (Directive × List UInt8)
  | 0, _, _ => none
  | _, _, [] => none
  | fuel + 1, d, c :: rest =>
    match c with
    | 45 => readDirective fuel { d with left := true } rest
    | 43 => readDirective fuel { d with sign := some 43 } rest
    | 32 => readDirective fuel { d with sign := some 32 } rest
    | 35 => readDirective fuel { d with alternate := true } rest
    | 33 => readDirective fuel { d with altform2 := true } rest
    | 48 => readDirective fuel { d with zero := true } rest
    | 44 => readDirective fuel { d with thousands := true } rest
    | 108 =>
      match rest with
      | 108 :: more => finishDirective d more
      | _ => finishDirective d rest
    | 42 =>
      let d := { d with width := .argument }
      match rest with
      | 46 :: _ | 108 :: _ => readDirective fuel d rest
      | _ => finishDirective d rest
    | 46 =>
      let (precision, more) :=
        match rest with
        | 42 :: more => (Amount.argument, more)
        | _ => (Amount.given (counterValue (rest.takeWhile isDigitByte)),
            rest.dropWhile isDigitByte)
      let d := { d with precision }
      match more with
      | 108 :: _ => readDirective fuel d more
      | _ => finishDirective d more
    | _ =>
      if isDigitByte c then
        let d := { d with width := .given (counterValue (c :: rest.takeWhile isDigitByte)) }
        let more := rest.dropWhile isDigitByte
        match more with
        | 46 :: _ | 108 :: _ => readDirective fuel d more
        | _ => finishDirective d more
      else finishDirective d (c :: rest)

def formatPieces : Nat → List UInt8 → List Piece
  | 0, _ => []
  | fuel + 1, bytes =>
    let plain := bytes.takeWhile (· != 37)
    let front := if plain.isEmpty then [] else [Piece.literal plain]
    match bytes.dropWhile (· != 37) with
    | [] => front
    | [_] => front ++ [.literal [37]]
    | _ :: more =>
      match readDirective (more.length + 1) {} more with
      | none => front ++ [.halt]
      | some (d, after) => front ++ .directive d :: formatPieces fuel after

def textLimit : Nat := 1000000000

def argumentBytes : Datum → Option (List UInt8)
  | .null => none
  | .blob b => some b
  | d => some (bytesOfText d.asText)

def nextArgument : List Datum → Option Datum × List Datum
  | [] => (none, [])
  | d :: ds => (some d, ds)

def intArgument (args : List Datum) : Int × List Datum :=
  let (a, rest) := nextArgument args
  ((a.map Datum.intValue).getD 0, rest)

def realArgument (args : List Datum) : Float × List Datum :=
  let (a, rest) := nextArgument args
  ((a.map Datum.realValue).getD 0.0, rest)

def textArgument (args : List Datum) : Option (List UInt8) × List Datum :=
  let (a, rest) := nextArgument args
  ((a.bind argumentBytes).map (·.takeWhile (· != 0)), rest)

def continuationCount (bytes : List UInt8) : Nat :=
  (bytes.filter fun b => b.toNat / 64 == 2).length

def leadingCharacters : Nat → List UInt8 → List UInt8
  | 0, _ => []
  | _, [] => []
  | n + 1, b :: rest =>
    if b ≥ 0xC0 then
      let tail := rest.takeWhile fun c => c.toNat / 64 == 2
      b :: tail ++ leadingCharacters n (rest.drop tail.length)
    else b :: leadingCharacters n rest

def escapedSpan (characters : Bool) : Nat → List UInt8 → List UInt8
  | 0, _ => []
  | _, [] => []
  | n + 1, b :: rest =>
    if characters && b.toNat / 64 == 3 then
      let tail := rest.takeWhile fun c => c.toNat / 64 == 2
      b :: tail ++ escapedSpan characters n (rest.drop tail.length)
    else b :: escapedSpan characters n rest

def spaces (n : Nat) : List UInt8 := List.replicate n 32

def placeField (left : Bool) (width : Int) (body : List UInt8) : List UInt8 :=
  let pad := width - body.length
  if pad > 0 then
    if left then body ++ spaces pad.toNat else spaces pad.toNat ++ body
  else body

def ordinalSuffix (n : Nat) : List Char :=
  let x := n % 10
  if x ≥ 4 || x == 0 || (n / 10) % 10 == 1 then ['t', 'h']
  else if x == 1 then ['s', 't']
  else if x == 2 then ['n', 'd']
  else ['r', 'd']

/-- The text of an integer conversion (`d i u r x X o p`) of a value, none when it would
be too long. Zero padding raises the precision to fill the width after the sign; the
`,` flag groups the digits of `d`, `i` and `u`; the `#` flag writes `0`, `0x` or `0X`
before a nonzero octal or hexadecimal number. -/
def integerField (d : Directive) (width precision : Int) (v : Int) : Option (List Char) :=
  let c := d.conversion
  let signed := c == 100 || c == 105 || c == 114
  let (magnitude, lead) : Nat × Option Char :=
    if signed then
      if v < 0 then (v.natAbs, some '-') else (v.toNat, d.sign.map fun b => Char.ofNat b.toNat)
    else ((v % 18446744073709551616).toNat, none)
  let base := if c == 111 then 8 else if c == 120 || c == 88 || c == 112 then 16 else 10
  let leadWidth : Int := if lead.isSome then 1 else 0
  let precision := if d.zero && precision < width - leadWidth then width - leadWidth else precision
  if precision + 10 > textLimit then none
  else
    let digits := Nat.toDigits base magnitude
    let digits := if c == 88 then digits.map Char.toUpper else digits
    let body := if c == 114 then digits ++ ordinalSuffix magnitude else digits
    let body := List.replicate (precision.toNat - body.length) '0' ++ body
    let body := if d.thousands && (c == 100 || c == 105 || c == 117) then groupThousands body
      else body
    let body := (lead.map fun s => s :: body).getD body
    let marker :=
      if !d.alternate || magnitude == 0 then []
      else if c == 111 then ['0'] else if c == 120 || c == 112 then ['0', 'x']
      else if c == 88 then ['0', 'X'] else []
    some (marker ++ body)

def realField (d : Directive) (width precision : Int) (x : Float) : Option (List Char) :=
  let c := d.conversion
  let precision := if precision > 100000000 then 100000000 else precision
  if (max precision 0) + width + 15 + 350 > textLimit then none
  else
    let style := if c == 102 then RealStyle.fixed
      else if c == 101 || c == 69 then .exponent else .general
    let (text, zeroPads) := renderReal x
      { style, precision, alternate := d.alternate, altform2 := d.altform2,
        signFlag := d.sign.map fun b => Char.ofNat b.toNat, upper := c == 69 || c == 71,
        thousands := d.thousands }
    let cs := text.toList
    if d.zero && !d.left && zeroPads && cs.length < width then
      let zeros := List.replicate (width.toNat - cs.length) '0'
      match cs with
      | s :: more => if s == '-' || s == '+' || s == ' ' then some (s :: zeros ++ more)
        else some (zeros ++ cs)
      | [] => some zeros
    else some cs

def escapedField (d : Directive) (precision : Int) (text : Option (List UInt8)) :
    List UInt8 :=
  let quote : UInt8 := if d.conversion == 119 then 34 else 39
  let shown := text.getD (bytesOfText (if d.conversion == 81 then "NULL" else "(NULL)"))
  let span := if precision < 0 then shown
    else escapedSpan d.altform2 precision.toNat shown
  let body := span.flatMap fun b => if b == quote then [b, b] else [b]
  if text.isSome && d.conversion == 81 then quote :: body ++ [quote] else body

def directiveAmounts (d : Directive) (args : List Datum) :
    Bool × Int × Int × List Datum :=
  let (left, width, args) :=
    match d.width with
    | .unset => (d.left, (0 : Int), args)
    | .given n => (d.left, (n : Int), args)
    | .argument =>
      let (w, args) := intArgument args
      let w := wrap32 w
      if w < 0 then (true, (if w ≥ -2147483647 then -w else 0), args) else (d.left, w, args)
  let (precision, args) :=
    match d.precision with
    | .unset => ((-1 : Int), args)
    | .given n => ((n : Int), args)
    | .argument =>
      let (p, args) := intArgument args
      let p := wrap32 p
      if p < 0 then ((if p ≥ -2147483647 then -p else -1), args) else (p, args)
  (left, width, precision, args)

/-- What one directive makes of the arguments. -/
inductive Rendered where
  | bytes (out : List UInt8) (args : List Datum)
  /-- The directive stops the output. -/
  | halt
  /-- The output passes the length limit. -/
  | tooLong

def characterField (left : Bool) (width precision : Int) (text : Option (List UInt8)) :
    Option (List UInt8) :=
  let ch : List UInt8 :=
    match text with
    | some (b :: rest) =>
      if b.toNat / 64 == 3 then b :: (rest.takeWhile fun c => c.toNat / 64 == 2).take 3
      else [b]
    | _ => [0]
  if precision * ch.length > textLimit then none
  else
    let copies := if precision > 1 then (precision - 1).toNat else 0
    let width := width - copies
    let (front, width) :=
      if copies > 0 && width > 1 && !left then (spaces (width - 1).toNat, (0 : Int))
      else ([], width)
    let width := if width > 0 then width + continuationCount ch else width
    some (front ++ (List.replicate copies ch).flatten ++ placeField left width ch)

def renderDirective (d : Directive) (args : List Datum) : Rendered :=
  let (left, width, precision, args) := directiveAmounts d args
  if width ≥ textLimit then .tooLong
  else
  let ascii (cs : Option (List Char)) (args : List Datum) : Rendered :=
    match cs with
    | some cs => .bytes (placeField left width (cs.map fun c => c.toNat.toUInt8)) args
    | none => .tooLong
  let textual (body : List UInt8) (args : List Datum) : Rendered :=
    let width := if d.altform2 && width > 0 then width + continuationCount body else width
    .bytes (placeField left width body) args
  let c := d.conversion
  if c == 100 || c == 105 || c == 117 || c == 114 || c == 120 || c == 88 || c == 111 ||
      c == 112 then
    let (v, args) := intArgument args
    ascii (integerField d width precision v) args
  else if c == 102 || c == 101 || c == 69 || c == 103 || c == 71 then
    let (x, args) := realArgument args
    ascii (realField d width precision x) args
  else if c == 115 || c == 122 then
    let (text, args) := textArgument args
    let text := text.getD []
    let body := if precision < 0 then text
      else if d.altform2 then leadingCharacters precision.toNat text
      else text.take precision.toNat
    textual body args
  else if c == 113 || c == 81 || c == 119 then
    let (text, args) := textArgument args
    textual (escapedField d precision text) args
  else if c == 99 then
    let (text, args) := textArgument args
    match characterField left width precision text with
    | some out => .bytes out args
    | none => .tooLong
  else if c == 37 then .bytes (placeField left width [37]) args
  else if c == 110 then .bytes [] args
  else .halt

def renderPieces : List Piece → List Datum → Array UInt8 → Option (Array UInt8)
  | [], _, out => some out
  | .literal bytes :: rest, args, out => renderPieces rest args (out ++ bytes.toArray)
  | .halt :: _, _, out => some out
  | .directive d :: rest, args, out =>
    match renderDirective d args with
    | .bytes more args =>
      let out := out ++ more.toArray
      if out.size ≥ textLimit then none else renderPieces rest args out
    | .halt => some out
    | .tooLong => none

/-- `printf(format, ...)` and `format(format, ...)`: the arguments laid out by the format,
which is read up to its first NUL; null without a format or for a null one, or when the
output would be too long. -/
def printfOf (args : List Datum) : Datum :=
  match args with
  | [] => .null
  | format :: rest =>
    match argumentBytes format with
    | none => .null
    | some bytes =>
      let bytes := bytes.takeWhile (· != 0)
      match renderPieces (formatPieces (bytes.length + 1) bytes) rest #[] with
      | some out => .text (textOfBytes out.toList)
      | none => .null

end CatalogSync.Sql
