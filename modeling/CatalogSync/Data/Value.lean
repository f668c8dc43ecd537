import CatalogSync.Failure
import CatalogSync.Number.Text
import CatalogSync.Text.Blank
import CatalogSync.Text.Literal
import CatalogSync.Number.Whole
import CatalogSync.Time.Stamp

/-!
# Data values

Configuration documents, record attributes and listings are trees of `Value`s: null,
booleans, integers of any size, doubles, texts, lists and mappings with text keys. A mapping
lists its keys once each, in the order they first appeared. A configuration document may
also hold calendar dates, time stamps, byte strings, sets and tuples (fixed sequences such
as the pairs of an ordered map).

* `truthy` says whether a value counts as set: null, `false`, zero, and empty texts, lists
  and mappings do not.
* `same` is equality of values, where booleans, integers and doubles compare as numbers,
  sets compare as sets, and a date never equals a time stamp.
* `display` and `literal` are the two texts of a value: the display form writes a text as
  it is, the literal form quotes it; inside lists and mappings both quote texts. A date and
  a stamp display as their ISO texts, date and time joined by a space, and are written
  literally as the calls that build them.
* `unhashable?` names the kind of the part of a value that keeps it from being a set's
  member or a mapping's key: a list, mapping or set, alone or inside a tuple.
* `toInteger` converts a value to an integer: booleans count as 0 and 1, doubles are cut
  toward zero, and a text must spell a decimal integer, blanks around it allowed.
-/

namespace CatalogSync

/-- A data value. -/
inductive Value where
  | null
  | bool (b : Bool)
  | int (n : Int)
  | float (x : Float)
  | str (s : String)
  | list (items : List Value)
  | obj (fields : List (String × Value))
  /-- A calendar date. -/
  | date (year month day : Nat)
  /-- A date and time of day, with or without an offset from UTC. -/
  | stamp (s : Stamp)
  | bytes (b : List UInt8)
  /-- A set, its members in the order they were added. -/
  | set (items : List Value)
  | tuple (items : List Value)
  deriving Inhabited

namespace Value

/-- Whether a value counts as set. -/
def truthy : Value → Bool
  | .null => false
  | .bool b => b
  | .int n => n != 0
  | .float x => !Binary64.isZero x
  | .str s => !s.isEmpty
  | .list xs => !xs.isEmpty
  | .obj fs => !fs.isEmpty
  | .date .. | .stamp _ => true
  | .bytes b => !b.isEmpty
  | .set xs | .tuple xs => !xs.isEmpty

def lookup (v : Value) (key : String) : Option Value :=
  match v with
  | .obj fs => (fs.find? (·.1 == key)).map (·.2)
  | _ => none

def getD (v : Value) (key : String) (default : Value) : Value :=
  (v.lookup key).getD default

def get (v : Value) (key : String) : Value := v.getD key .null

def setField (fs : List (String × Value)) (key : String) (value : Value) :
    List (String × Value) :=
  if fs.any (·.1 == key) then fs.map fun f => if f.1 == key then (key, value) else f
  else fs ++ [(key, value)]

def isObj : Value → Bool
  | .obj _ => true
  | _ => false

/-- A number as booleans, integers and doubles are compared. -/
inductive Numeric where
  | int (n : Int)
  | float (x : Float)

def numeric? : Value → Option Numeric
  | .bool b => some (.int (if b then 1 else 0))
  | .int n => some (.int n)
  | .float x => some (.float x)
  | _ => none

def Numeric.compare? : Numeric → Numeric → Option Ordering
  | .int a, .int b => some (compare a b)
  | .float x, .int b => Binary64.compareInt x b
  | .int a, .float y => (Binary64.compareInt y a).map Ordering.swap
  | .float x, .float y => Binary64.compareFloat x y

mutual
/-- Equality of values, numbers compared by value. -/
def same : Value → Value → Bool
  | .null, .null => true
  | .str a, .str b => a == b
  | .list xs, .list ys => sameItems xs ys
  | .obj fs, .obj gs => fs.length == gs.length && sameFields fs gs
  | .date y m d, .date y' m' d' => y == y' && m == m' && d == d'
  | .stamp a, .stamp b => a.same b
  | .bytes a, .bytes b => a == b
  | .tuple xs, .tuple ys => sameItems xs ys
  | .set xs, .set ys => xs.length == ys.length && within xs ys
  | a, b =>
    match a.numeric?, b.numeric? with
    | some x, some y => x.compare? y == some .eq
    | _, _ => false
termination_by structural a _ => a

def sameItems : List Value → List Value → Bool
  | [], [] => true
  | x :: xs, y :: ys => same x y && sameItems xs ys
  | _, _ => false
termination_by structural xs _ => xs

def within : List Value → List Value → Bool
  | [], _ => true
  | x :: xs, ys => ys.any (same x) && within xs ys
termination_by structural xs _ => xs

def sameField : String × Value → List (String × Value) → Bool
  | (k, x), gs =>
    match gs.find? (·.1 == k) with
    | some (_, y) => same x y
    | none => false
termination_by structural f _ => f

def sameFields : List (String × Value) → List (String × Value) → Bool
  | [], _ => true
  | f :: fs, gs => sameField f gs && sameFields fs gs
termination_by structural fs _ => fs
end

def memberOf (x : Value) (ys : List Value) : Bool := ys.any (same x)

def dateText (y m d : Nat) : String := Stamp.pad 4 y ++ "-" ++ Stamp.pad 2 m ++ "-" ++ Stamp.pad 2 d

def dateArguments (y m d : Nat) : String := ", ".intercalate [toString y, toString m, toString d]

def spanLiteral (micros : Int) : String :=
  let days := micros.fdiv microsPerDay
  let rest := (micros - days * microsPerDay).toNat
  let parts := (if days != 0 then ["days=" ++ toString days] else []) ++
    (if rest / 1000000 != 0 then ["seconds=" ++ toString (rest / 1000000)] else []) ++
    (if rest % 1000000 != 0 then ["microseconds=" ++ toString (rest % 1000000)] else [])
  "datetime.timedelta(" ++ (if parts.isEmpty then "0" else ", ".intercalate parts) ++ ")"

def stampLiteral (s : Stamp) : String :=
  let f := s.fields
  let clock := if f.micro != 0 then [f.hour, f.minute, f.second, f.micro]
    else if f.second != 0 then [f.hour, f.minute, f.second] else [f.hour, f.minute]
  let zone := match s.offset with
    | none => ""
    | some 0 => ", tzinfo=datetime.timezone.utc"
    | some o => ", tzinfo=datetime.timezone(" ++ spanLiteral o ++ ")"
  "datetime.datetime(" ++ dateArguments f.year.toNat f.month f.day ++ ", " ++
    ", ".intercalate (clock.map toString) ++ zone ++ ")"

def byteEscape (quote : UInt8) (b : UInt8) : String :=
  if b == quote || b == 92 then String.ofList ['\\', Char.ofNat b.toNat]
  else if b == 9 then "\\t"
  else if b == 10 then "\\n"
  else if b == 13 then "\\r"
  else if b < 32 || b ≥ 127 then "\\x" ++ Text.hex 2 b.toNat
  else String.singleton (Char.ofNat b.toNat)

def bytesLiteral (b : List UInt8) : String :=
  let quote : UInt8 := if b.contains 39 && !b.contains 34 then 34 else 39
  let q := String.singleton (Char.ofNat quote.toNat)
  "b" ++ q ++ String.join (b.map (byteEscape quote)) ++ q

mutual
/-- The text of a value, literal when `lit` is set and for display otherwise. The two differ on
texts, which only the literal form quotes, and on dates and stamps, written literally as the
calls that build them and for display as their ISO texts; the items of lists, mappings, sets and
tuples are written literally in both. -/
def render (lit : Bool) : Value → String
  | .null => "None"
  | .bool b => if b then "True" else "False"
  | .int n => toString n
  | .float x => NumberText.float x
  | .str s => if lit then Text.literal s else s
  | .list xs => "[" ++ ", ".intercalate (literalItems xs) ++ "]"
  | .obj fs => "\x7b" ++ ", ".intercalate (literalFields fs) ++ "\x7d"
  | .date y m d => if lit then "datetime.date(" ++ dateArguments y m d ++ ")" else dateText y m d
  | .stamp s => if lit then stampLiteral s else s.clockText " " false
  | .bytes b => bytesLiteral b
  | .set [] => "set()"
  | .set xs => "\x7b" ++ ", ".intercalate (literalItems xs) ++ "\x7d"
  | .tuple [x] => "(" ++ render true x ++ ",)"
  | .tuple xs => "(" ++ ", ".intercalate (literalItems xs) ++ ")"

def literalItems : List Value → List String
  | [] => []
  | x :: xs => render true x :: literalItems xs

def literalFields : List (String × Value) → List String
  | [] => []
  | (k, x) :: fs => (Text.literal k ++ ": " ++ render true x) :: literalFields fs
end

/-- The literal text of a value: texts are quoted, dates and stamps are written as the
calls that build them. -/
def literal (v : Value) : String := render true v

/-- The display text of a value: a text is written as it is. -/
def display (v : Value) : String := render false v

def kindName : Value → String
  | .null => "NoneType"
  | .bool _ => "bool"
  | .int _ => "int"
  | .float _ => "float"
  | .str _ => "str"
  | .list _ => "list"
  | .obj _ => "dict"
  | .date .. => "datetime.date"
  | .stamp _ => "datetime.datetime"
  | .bytes _ => "bytes"
  | .set _ => "set"
  | .tuple _ => "tuple"

/-- The kind of the part of a value that keeps it from being hashed: a list, mapping or
set, alone or inside a tuple; `none` for a value that can be hashed. -/
def unhashable? : Value → Option String
  | .list _ => some "list"
  | .obj _ => some "dict"
  | .set _ => some "set"
  | .tuple xs => unhashableIn xs
  | _ => none
where
  /-- The first unhashable part among values. -/
  unhashableIn : List Value → Option String
    | [] => none
    | x :: xs => (unhashable? x).or (unhashableIn xs)

def lacks (v : Value) (member : String) : Failure :=
  .missingAttribute ("'" ++ v.kindName ++ "' object has no attribute '" ++ member ++ "'")

/-- Converts a value to an integer. -/
def toInteger : Value → Except Failure Int
  | .bool b => .ok (if b then 1 else 0)
  | .int n => .ok n
  | .float x =>
    match Binary64.decode x with
    | .nan => .error (.invalid "cannot convert float NaN to integer")
    | .infinite _ => .error (.overflow "cannot convert float infinity to integer")
    | .finite negative m e => .ok (Binary64.truncate negative m e)
  | .str s =>
    match Number.readWhole 10 s with
    | some n => .ok n
    | none => .error (Number.wholeFailure 10 s)
  | .bytes b =>
    let s := String.ofList (b.map fun x => Char.ofNat x.toNat)
    match Number.readWhole 10 s with
    | some n => .ok n
    | none => .error (.invalid
        ("invalid literal for int() with base 10: " ++ String.ofList ((bytesLiteral b).toList.take 200)))
  | v => .error (.wrongKind
      ("int() argument must be a string, a bytes-like object or a real number, not '" ++
        v.kindName ++ "'"))

end Value

end CatalogSync
