import CatalogSync.Yaml.Compose
import CatalogSync.Data.Value
import CatalogSync.Text.Base64
import CatalogSync.Text.Decode

/-!
# YAML: loading a document

`load` reads a YAML document into a value, the way the safe loader does.

1. The text is read as a text file is: `\r\n` and a lone `\r` become `\n`.
2. A control character other than tab and line breaks, or a non-character, refuses the text
   before anything else is read.
3. The composer reads the one document, if any, into nodes; no document is `null`.
4. Each node becomes a value by its tag: `null`, `bool`, `int`, `float` and `str` scalars,
   `seq` lists and `map` mappings. In a mapping a later key replaces the value of an earlier
   equal one and keeps its place. A `<<` key merges the pairs of the mapping, or mappings,
   it names, before the mapping's own. A key that is a list, a mapping or a set is refused.
5. A `timestamp` is a date, or a stamp when it has a time of day; a `binary` scalar is
   base64 text for a byte string; a `set` is the distinct keys of a mapping; `omap` and
   `pairs` are sequences of one-pair mappings, read as a list of key and value tuples. Any
   other tag is refused.
6. Problems show in the order the safe loader meets them: a scalar is built where it
   stands, while a collection is filled only after every collection met before it, breadth
   first.

A problem is reported as a message naming the document and the places concerned.
-/

namespace CatalogSync.Yaml

def Node.retag (tag : String) : Node → Node
  | .scalar _ text m => .scalar tag text m
  | .sequence _ items m => .sequence tag items m
  | .mapping _ pairs m => .mapping tag pairs m

def flatten : Nat → List (Node × Node) → Mark → Except Problem (List (Node × Node))
  | 0, _, _ => .error .tooDeep
  | fuel + 1, pairs, start => do
    let mut merged : List (Node × Node) := []
    let mut own : List (Node × Node) := []
    for (k, v) in pairs do
      if k.tag == typeTag "merge" then
        match v with
        | .mapping _ sub subStart => merged := merged ++ (← flatten fuel sub subStart)
        | .sequence _ subs _ =>
          let mut parts : List (List (Node × Node)) := []
          for s in subs do
            match s with
            | .mapping _ sub subStart => parts := parts ++ [← flatten fuel sub subStart]
            | _ =>
              throw (.within "while constructing a mapping" start
                ("expected a mapping for merging, but found " ++ s.id) s.start)
          for p in parts.reverse do
            merged := merged ++ p
        | _ =>
          throw (.within "while constructing a mapping" start
            ("expected a mapping or list of mappings for merging, but found " ++ v.id) v.start)
      else if k.tag == typeTag "value" then own := own ++ [(k.retag (typeTag "str"), v)]
      else own := own ++ [(k, v)]
    return merged ++ own

/-- The value of a timestamp text: a date alone, or a stamp whose fraction is cut to
microseconds and whose zone, when given, lies less than a day from UTC. The zone is checked
before the fields. -/
def timestampValue (text : String) : Except Problem Value :=
  match readTimestamp text with
  | none => .error (.plain "'NoneType' object has no attribute 'groupdict'")
  | some t =>
    let fields (h m s micro : Nat) (offset : Option Int) : Except Problem Stamp :=
      match Stamp.ofFields t.year t.month t.day h m s micro offset with
      | .ok st => .ok st
      | .error f => .error (.plain f.message)
    match t.time with
    | none => do
      let _ ← fields 0 0 0 0 none
      return .date t.year t.month t.day
    | some (h, m, s, fraction) => do
      let micro := digitsNat (fraction.take 6 ++ List.replicate (6 - fraction.length) '0')
      let offset : Option Int ← match t.zone with
        | none => pure none
        | some .utc => pure (some 0)
        | some (.offset negative hours minutes) =>
          let size : Int := Int.ofNat ((hours * 60 + minutes) * 60000000)
          let span := if negative then -size else size
          if size ≥ microsPerDay then
            throw (.plain ("offset must be a timedelta strictly between " ++
              "-timedelta(hours=24) and timedelta(hours=24), not " ++ Value.spanLiteral span ++ "."))
          else pure (some span)
      return .stamp (← fields h m s micro offset)

def binaryValue (text : String) (start : Mark) : Except Problem Value := do
  if let .error f := Text.checkAscii text then
    throw (.marked none none ("failed to convert base64 data into ascii: " ++ f.message) (some start))
  match Base64.decode text with
  | .ok b => return .bytes b
  | .error m => throw (.marked none none ("failed to decode base64 data: " ++ m) (some start))

def scalarValue (tag text : String) (start : Mark) : Except Problem Value :=
  if tag == typeTag "null" then .ok .null
  else if tag == typeTag "bool" then
    match boolValue text with
    | some b => .ok (.bool b)
    | none => .error (.plain (Text.literal (String.ofList (text.toList.map Char.toLower))))
  else if tag == typeTag "int" then
    match intValue text with
    | .ok n => .ok (.int n)
    | .error message => .error (.plain message)
  else if tag == typeTag "float" then
    match floatValue text with
    | some x => .ok (.float x)
    | none => .error (.plain ("could not convert string to float: " ++ Text.literal text))
  else if tag == typeTag "timestamp" then timestampValue text
  else if tag == typeTag "binary" then binaryValue text start
  else .ok (.str text)

def scalarTags : List String :=
  ["null", "bool", "int", "float", "str", "timestamp", "binary"].map typeTag

def pairsContext (tag : String) : String :=
  if tag == typeTag "omap" then "while constructing an ordered map" else "while constructing pairs"

def keyText : Value → String
  | .str s => s
  | v => v.display

def collectionTags : List String := ["seq", "map", "set", "omap", "pairs"].map typeTag

/-- Meets a node: a scalar is built at once and a collection is left to be filled later,
when the collections met before it have been. Gives the collection to fill, if it is one;
collections are what cannot be keys. -/
def meet (n : Node) : Except Problem (Option Node) :=
  let tag := n.tag
  if collectionTags.contains tag then .ok (some n)
  else if scalarTags.contains tag then
    match n with
    | .scalar _ text start => (fun _ => none) <$> scalarValue tag text start
    | _ => .error (.marked none none ("expected a scalar node, but found " ++ n.id) (some n.start))
  else
    .error (.marked none none ("could not determine a constructor for the tag " ++ Text.literal tag)
      (some n.start))

def fill (fuel : Nat) (n : Node) : Except Problem (List Node) := do
  let tag := n.tag
  let wrongNode (kind : String) : Except Problem (List Node) :=
    .error (.marked none none ("expected a " ++ kind ++ " node, but found " ++ n.id) (some n.start))
  if tag == typeTag "seq" then
    match n with
    | .sequence _ items _ => return (← items.mapM meet).filterMap id
    | _ => wrongNode "sequence"
  else if tag == typeTag "map" || tag == typeTag "set" then
    match n with
    | .mapping _ pairs start =>
      let mut met : List Node := []
      for (k, v) in ← flatten fuel pairs start do
        if (← meet k).isSome then
          throw (.within "while constructing a mapping" start "found unhashable key" k.start)
        met := met ++ (← meet v).toList
      return met
    | _ => wrongNode "mapping"
  else
    let context := pairsContext tag
    match n with
    | .sequence _ items start =>
      let mut met : List Node := []
      for item in items do
        match item with
        | .mapping _ [(k, v)] _ => met := met ++ (← meet k).toList ++ (← meet v).toList
        | .mapping _ kvs itemStart =>
          throw (.within context start
            ("expected a single mapping item, but found " ++ toString kvs.length ++ " items")
            itemStart)
        | other =>
          throw (.within context start
            ("expected a mapping of length 1, but found " ++ other.id) other.start)
      return met
    | _ => .error (.within context n.start ("expected a sequence, but found " ++ n.id) n.start)

/-- Fills the waiting collections in turn, each adding the collections it meets to the end of
the queue, and stops at the first problem. Collections are filled breadth first, so of two
problems in a document the one nearer the root shows. -/
def fillAll : Nat → List Node → Except Problem Unit
  | 0, _ => .ok ()
  | _, [] => .ok ()
  | fuel + 1, n :: waiting => do fillAll fuel (waiting ++ (← fill fuel n))

def build : Nat → Node → Except Problem Value
  | 0, _ => .error .tooDeep
  | fuel + 1, n =>
    let tag := n.tag
    let wrongNode (kind : String) : Except Problem Value :=
      .error (.marked none none ("expected a " ++ kind ++ " node, but found " ++ n.id) (some n.start))
    if tag == typeTag "seq" then
      match n with
      | .sequence _ items _ => do return .list (← items.mapM (build fuel))
      | _ => wrongNode "sequence"
    else if tag == typeTag "map" || tag == typeTag "set" then
      match n with
      | .mapping _ pairs start => do
        let pairs ← flatten fuel pairs start
        let mut entries : List (Value × Value) := []
        for (k, v) in pairs do
          let key ← build fuel k
          match key with
          | .list _ | .obj _ | .set _ =>
            throw (.within "while constructing a mapping" start "found unhashable key" k.start)
          | _ => pure ()
          entries := entries ++ [(key, ← build fuel v)]
        if tag == typeTag "set" then
          return .set (entries.foldl (fun members (key, _) =>
            if Value.memberOf key members then members else members ++ [key]) [])
        else
          return .obj (entries.foldl (fun fields (key, value) =>
            Value.setField fields (keyText key) value) [])
      | _ => wrongNode "mapping"
    else if tag == typeTag "omap" || tag == typeTag "pairs" then
      let context := pairsContext tag
      match n with
      | .sequence _ items start => do
        let mut pairs : List Value := []
        for item in items do
          match item with
          | .mapping _ [(k, v)] _ => pairs := pairs ++ [.tuple [← build fuel k, ← build fuel v]]
          | .mapping _ kvs itemStart =>
            throw (.within context start
              ("expected a single mapping item, but found " ++ toString kvs.length ++ " items")
              itemStart)
          | other =>
            throw (.within context start
              ("expected a mapping of length 1, but found " ++ other.id) other.start)
        return .list pairs
      | _ => .error (.within context n.start ("expected a sequence, but found " ++ n.id) n.start)
    else if scalarTags.contains tag then
      match n with
      | .scalar _ text start => scalarValue tag text start
      | _ => wrongNode "scalar"
    else
      .error (.marked none none ("could not determine a constructor for the tag " ++ Text.literal tag)
        (some n.start))

def universalNewlines : List Char → List Char
  | '\r' :: '\n' :: rest => '\n' :: universalNewlines rest
  | '\r' :: rest => '\n' :: universalNewlines rest
  | c :: rest => c :: universalNewlines rest
  | [] => []

def isAcceptable (c : Char) : Bool :=
  let n := c.toNat
  n == 0x09 || n == 0x0A || n == 0x0D || (0x20 ≤ n && n ≤ 0x7E) || n == 0x85 ||
    (0xA0 ≤ n && n ≤ 0xD7FF) || (0xE000 ≤ n && n ≤ 0xFFFD) || 0x10000 ≤ n

/-- Loads the YAML document `text` of the file `name`: its value, or the message of the
problem found. -/
def load (name text : String) : Except String Value := do
  let chars := universalNewlines text.toList
  if let some i := chars.findIdx? (fun c => !isAcceptable c) then
    throw ((Problem.unacceptable (chars.getD i ' ').toNat i).text name)
  match single.run { scanner := Scanner.start chars.toArray } with
  | .error p => throw (p.text name)
  | .ok (none, _) => return .null
  | .ok (some n, _) =>
    let bound := chars.length + 2
    let checked := do fillAll (bound * bound) (← meet n).toList
    if let .error p := checked then throw (p.text name)
    match build bound n with
    | .ok v => return v
    | .error p => throw (p.text name)

end CatalogSync.Yaml
