import CatalogSync.Sql.Numeric

/-!
# Converting values

The conversions the database applies to values, each the one a particular operation asks
for:

* `text?` and `asText` give the text of a value: an integer in decimal, a double by
  `realText`, a byte string read as UTF-8;
* `realValue` and `intValue` give the double and the 64-bit integer a value stands for, a
  text read by `readReal` and `readInteger` from its start, a double cut toward zero and
  held at the 64-bit bounds;
* `arithmeticValue` is the number a value takes part in arithmetic as: a text is an integer
  when it reads as one, a double when it reads as a number with a point or an exponent;
* `stored` converts a value for a column of some affinity;
* `castTo` is `CAST`.

Storing a text that spells a number into a numeric column stores the number, as an integer
when it is a whole number strictly inside the 64-bit range. Casting to `NUMERIC` keeps a
number as it is and reads a text as an integer when its digits say so or when the double
read is a small whole number.
-/

namespace CatalogSync.Sql

namespace Datum

/-- The text of a value, none for null. -/
def text? : Datum → Option String
  | .null => none
  | .int n => some (toString n)
  | .real x => some (realText x)
  | .text s => some s
  | .blob b => some (textOfBytes b)

/-- The text of a value, empty for null. -/
def asText (d : Datum) : String := d.text?.getD ""

def asBytes : Datum → List UInt8
  | .blob b => b
  | d => bytesOfText d.asText

/-- The double a value stands for. -/
def realValue : Datum → Float
  | .null => 0.0
  | .int n => Binary64.ofInt n
  | .real x => x
  | d => (readReal d.asText).value

/-- The 64-bit integer a value stands for. -/
def intValue : Datum → Int
  | .null => 0
  | .int n => n
  | .real x => realToInt x
  | d => (readInteger d.asText).value

def arithmeticOfText (s : String) : Datum :=
  let r := readReal s
  if r.kind ≤ 0 then
    let i := readInteger s
    if r.kind == 0 && i.status ≤ 1 then .int i.value else .real r.value
  else if r.kind == 1 then
    let i := readInteger s
    if i.status == 0 then .int i.value else .real r.value
  else .real r.value

/-- The number a value takes part in arithmetic as; null stays null. -/
def arithmeticValue : Datum → Datum
  | .null => .null
  | .int n => .int n
  | .real x => .real x
  | d => arithmeticOfText d.asText

def truth : Datum → Option Bool
  | .null => none
  | .int n => some (n != 0)
  | d => some (!Binary64.isZero d.realValue)

def integerOfReal (x : Float) : Datum :=
  let i := realToInt x
  if Binary64.compareInt x i == some .eq && minInt < i && i < maxInt then .int i else .real x

def numberOfText (s : String) (tryInteger : Bool) : Option Datum :=
  let r := readReal s
  if r.kind ≤ 0 then none
  else
    let i := castToInt r.value
    if r.kind == 1 && realSameAsInt r.value i then some (.int i)
    else if r.kind == 1 && (readInteger s).status == 0 then some (.int (readInteger s).value)
    else if tryInteger then some (integerOfReal r.value)
    else some (.real r.value)

def comparedAsNumber (d : Datum) : Datum :=
  match d with
  | .text s => (numberOfText s false).getD d
  | _ => d

def comparedAsText (d : Datum) : Datum :=
  match d with
  | .int _ | .real _ => .text d.asText
  | _ => d

/-- The value stored in a column of the given affinity. -/
def stored (a : Affinity) (d : Datum) : Datum :=
  match a, d with
  | .blob, _ => d
  | .text, .int _ | .text, .real _ => .text d.asText
  | .text, _ => d
  | .real, .int n => .real (Binary64.ofInt n)
  | .real, .text s =>
    match numberOfText s true with
    | some (.int n) => .real (Binary64.ofInt n)
    | some v => v
    | none => d
  | .real, _ => d
  | _, .real x => integerOfReal x
  | _, .text s => (numberOfText s true).getD d
  | _, _ => d

def numerify (d : Datum) : Datum :=
  match d with
  | .null | .int _ | .real _ => d
  | _ =>
    let s := d.asText
    let r := readReal s
    let i := readInteger s
    if (r.kind == 0 || r.kind == 1) && i.status ≤ 1 then .int i.value
    else if realSameAsInt r.value (castToInt r.value) then .int (castToInt r.value)
    else .real r.value

/-- A value cast to the affinity of a type name. -/
def castTo (a : Affinity) (d : Datum) : Datum :=
  match d with
  | .null => .null
  | _ =>
    match a with
    | .blob =>
      match d with
      | .blob _ => d
      | _ => .blob (bytesOfText d.asText)
    | .text => .text d.asText
    | .numeric => numerify d
    | .integer => .int d.intValue
    | .real => .real d.realValue

end Datum

end CatalogSync.Sql
