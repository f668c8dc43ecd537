import CatalogSync.Sql.Convert

/-!
# JSON documents in the database

The database's JSON functions read a text into a `JsonTree` that keeps every number and
every string as it was written: `json` gives back `1.50` and `"x\/y"` unchanged, with only
the blanks between tokens gone, and duplicate keys stay in order. The reader takes strict
JSON: no leading zeros, no point without digits on both sides, no control characters in
strings, escapes only of the standard kinds, and at most 2000 levels of nesting.

A path is `$` followed by steps: `.key` or `."key"` into an object, `[n]` into an array,
`[#]` or `[#-n]` counted from the end of one. A key matches a label as written, escapes
and all, and the first member with that label is the one a path reaches. A step of the
wrong kind for the value it meets reaches nothing rather than failing, and so does a step
past the end of an array; malformed steps fail with the text of the path from where they
start.

`json_set` and `json_insert` add members and array elements that a path names but that are
missing, building the objects a path of keys needs on the way; `json_replace` and
`json_set` replace what is there; `json_remove` takes it away.

A function result may carry the JSON mark: such a text, passed straight to another JSON
function, is taken as JSON rather than as a string.
-/

namespace CatalogSync.Sql

/-- The label of an object member: as a document wrote it, quotes and escapes included, or
as a path gave it to a member the path added. -/
inductive JsonLabel where
  | written (text : String)
  | given (text : String)
  deriving Inhabited

/-- A JSON value as the JSON functions hold it. -/
inductive JsonTree where
  | null
  | bool (b : Bool)
  /-- A number as written; `real` when it has a point or an exponent. -/
  | number (text : String) (real : Bool)
  /-- A string as written, quotes included; `escaped` when it has a backslash escape. -/
  | string (text : String) (escaped : Bool)
  | array (items : List JsonTree)
  | object (members : List (JsonLabel × JsonTree))
  /-- A value an edit put in, written out as the SQL value it is; `json` when it carries
  the JSON mark. -/
  | value (d : Datum) (json : Bool)
  deriving Inhabited

/-! ## Reading -/

def isJsonBlank (c : Char) : Bool := c == ' ' || c == '\t' || c == '\n' || c == '\r'

def skipJsonBlanks (cs : List Char) : List Char := cs.dropWhile isJsonBlank

def jsonDepthLimit : Nat := 2000

def isHexChar (c : Char) : Bool :=
  c.isDigit || ('a' ≤ c && c ≤ 'f') || ('A' ≤ c && c ≤ 'F')

def stringBody : List Char → List Char → Bool → Option (List Char × Bool × List Char)
  | [], _, _ => none
  | c :: rest, acc, esc =>
    if c == '"' then some (acc.reverse, esc, rest)
    else if c.toNat < 0x20 then none
    else if c == '\\' then
      match rest with
      | d :: rest' =>
        if d == '"' || d == '\\' || d == '/' || d == 'b' || d == 'f' || d == 'n' ||
            d == 'r' || d == 't' ||
            (d == 'u' && (rest'.take 4).length == 4 && (rest'.take 4).all isHexChar) then
          stringBody rest' (d :: c :: acc) true
        else none
      | [] => none
    else stringBody rest (c :: acc) esc

/-- The rest of a number after its first character `prev`: its characters reversed onto
`acc`, whether it has a point or an exponent, and what follows; none when it is
malformed. -/
def numberRest : List Char → Char → Bool → Bool → List Char →
    Option (List Char × Bool × List Char)
  | [], prev, dp, _, acc =>
    if prev.toNat < '0'.toNat then none else some (acc.reverse, dp, [])
  | c :: rest, prev, dp, e, acc =>
    if c.isDigit then numberRest rest c dp e (c :: acc)
    else if c == '.' then
      if prev == '-' || dp then none else numberRest rest c true e (c :: acc)
    else if c == 'e' || c == 'E' then
      if prev.toNat < '0'.toNat || e then none
      else
        let s := rest.headD ' '
        if s == '+' || s == '-' then
          if ((rest.drop 1).headD ' ').isDigit then
            numberRest (rest.drop 1) s true true (s :: c :: acc)
          else none
        else if s.isDigit then numberRest rest c true true (c :: acc)
        else none
    else if prev.toNat < '0'.toNat then none
    else some (acc.reverse, dp, c :: rest)
termination_by cs => cs.length
decreasing_by all_goals (simp only [List.length_drop, List.length_cons]; omega)

def numberToken (c : Char) (rest : List Char) : Option (JsonTree × List Char) :=
  let digits := if c == '-' then rest else c :: rest
  let leadingZero := match digits with
    | '0' :: d :: _ => d.isDigit
    | _ => false
  if leadingZero then none
  else
    (numberRest rest c false false [c]).map fun (text, real, after) =>
      (.number (String.ofList text) real, after)

def wordEnds : List Char → Bool
  | c :: _ => !c.isAlphanum
  | [] => true

mutual

def readValue : Nat → Nat → List Char → Option (JsonTree × List Char)
  | 0, _, _ => none
  | fuel + 1, depth, cs =>
    match skipJsonBlanks cs with
    | '{' :: rest => readMembers fuel depth rest []
    | '[' :: rest => readItems fuel depth rest []
    | '"' :: rest =>
      (stringBody rest [] false).map fun (body, esc, after) =>
        (.string (String.ofList ('"' :: body ++ ['"'])) esc, after)
    | 'n' :: 'u' :: 'l' :: 'l' :: rest => if wordEnds rest then some (.null, rest) else none
    | 't' :: 'r' :: 'u' :: 'e' :: rest => if wordEnds rest then some (.bool true, rest) else none
    | 'f' :: 'a' :: 'l' :: 's' :: 'e' :: rest =>
      if wordEnds rest then some (.bool false, rest) else none
    | c :: rest => if c == '-' || c.isDigit then numberToken c rest else none
    | [] => none

def readItems : Nat → Nat → List Char → List JsonTree → Option (JsonTree × List Char)
  | 0, _, _, _ => none
  | fuel + 1, depth, cs, acc =>
    if depth + 1 > jsonDepthLimit then none
    else
      match acc, skipJsonBlanks cs with
      | [], ']' :: rest => some (.array [], rest)
      | _, cs =>
        match readValue fuel (depth + 1) cs with
        | none => none
        | some (v, after) =>
          match skipJsonBlanks after with
          | ',' :: rest => readItems fuel depth rest (v :: acc)
          | ']' :: rest => some (.array (v :: acc).reverse, rest)
          | _ => none

def readMembers : Nat → Nat → List Char → List (JsonLabel × JsonTree) →
    Option (JsonTree × List Char)
  | 0, _, _, _ => none
  | fuel + 1, depth, cs, acc =>
    if depth + 1 > jsonDepthLimit then none
    else
      match acc, skipJsonBlanks cs with
      | [], '}' :: rest => some (.object [], rest)
      | _, '"' :: rest =>
        match stringBody rest [] false with
        | none => none
        | some (body, _, after) =>
          let label := JsonLabel.written (String.ofList ('"' :: body ++ ['"']))
          match skipJsonBlanks after with
          | ':' :: rest =>
            match readValue fuel (depth + 1) rest with
            | none => none
            | some (v, after) =>
              match skipJsonBlanks after with
              | ',' :: rest => readMembers fuel depth rest ((label, v) :: acc)
              | '}' :: rest => some (.object ((label, v) :: acc).reverse, rest)
              | _ => none
          | _ => none
      | _, _ => none

end

def readJsonDoc (s : String) : Option JsonTree :=
  let cs := s.toList.takeWhile (· ≠ '\x00')
  match readValue (2 * cs.length + 4) 0 cs with
  | some (t, rest) => if (skipJsonBlanks rest).isEmpty then some t else none
  | none => none

/-! ## Writing -/

/-- The escape of a character in a JSON string, if it needs one: the quote and the
backslash, the short escapes of control characters, `\u00XX` for the other control
characters. -/
def jsonEscape (c : Char) : String :=
  if c == '"' then "\\\"" else if c == '\\' then "\\\\"
  else if c == '\x08' then "\\b" else if c == '\t' then "\\t" else if c == '\n' then "\\n"
  else if c == '\x0c' then "\\f" else if c == '\r' then "\\r"
  else if c.toNat < 0x20 then
    "\\u00" ++ String.singleton (Char.ofNat (48 + c.toNat / 16)) ++
      String.singleton ("0123456789abcdef".toList.getD (c.toNat % 16) '0')
  else String.singleton c

def jsonQuote (s : String) : String := "\"" ++ String.join (s.toList.map jsonEscape) ++ "\""

def blobInJson : Failure := sqlError "JSON cannot hold BLOB values"

def jsonOfDatum (d : Datum) (json : Bool) : Except Failure String :=
  match d with
  | .null => .ok "null"
  | .int n => .ok (toString n)
  | .real x => .ok (realText x)
  | .text s => .ok (if json then s else jsonQuote s)
  | .blob _ => .error blobInJson

def JsonLabel.render : JsonLabel → String
  | .written t => t
  | .given t => jsonQuote t

mutual

def JsonTree.render : JsonTree → Except Failure String
  | .null => .ok "null"
  | .bool b => .ok (if b then "true" else "false")
  | .number t _ => .ok t
  | .string t _ => .ok t
  | .array items => do return "[" ++ ",".intercalate (← renderItems items) ++ "]"
  | .object members => do return "\x7b" ++ ",".intercalate (← renderMembers members) ++ "\x7d"
  | .value d json => jsonOfDatum d json

def renderItems : List JsonTree → Except Failure (List String)
  | [] => .ok []
  | t :: ts => do return (← t.render) :: (← renderItems ts)

def renderMembers : List (JsonLabel × JsonTree) → Except Failure (List String)
  | [] => .ok []
  | (l, t) :: ms => do return (l.render ++ ":" ++ (← t.render)) :: (← renderMembers ms)

end

/-! ## Values of nodes -/

def JsonTree.kindName : JsonTree → String
  | .null => "null"
  | .bool true => "true"
  | .bool false => "false"
  | .number _ false => "integer"
  | .number _ true => "real"
  | .string .. => "text"
  | .array _ => "array"
  | .object _ => "object"
  | .value d _ => d.typeName

def hex4Value (cs : List Char) : Nat :=
  cs.foldl (fun n c =>
    n * 16 + (if c.isDigit then c.toNat - 48 else (c.toLower.toNat - 'a'.toNat + 10))) 0

def unescapeJson : List Char → List Char
  | [] => []
  | '\\' :: 'u' :: a :: b :: c :: d :: rest =>
    let v := hex4Value [a, b, c, d]
    if v == 0 then []
    else if 0xD800 ≤ v && v < 0xDC00 then
      let low : Option Nat := match rest with
        | '\\' :: 'u' :: e :: f :: g :: h :: _ =>
          let w := hex4Value [e, f, g, h]
          if 0xDC00 ≤ w && w < 0xE000 then some w else none
        | _ => none
      match low with
      | some w => Char.ofNat (0x10000 + (v - 0xD800) * 1024 + (w - 0xDC00)) :: unescapeJson (rest.drop 6)
      | none => '�' :: unescapeJson rest
    else if 0xDC00 ≤ v && v < 0xE000 then '�' :: unescapeJson rest
    else Char.ofNat v :: unescapeJson rest
  | '\\' :: c :: rest =>
    (if c == 'b' then '\x08' else if c == 'f' then '\x0c' else if c == 'n' then '\n'
      else if c == 'r' then '\r' else if c == 't' then '\t' else c) :: unescapeJson rest
  | c :: rest => c :: unescapeJson rest
termination_by cs => cs.length
decreasing_by all_goals simp_all <;> omega

def jsonInteger (text : String) : Datum :=
  let (negative, digits) := match text.toList with
    | '-' :: ds => (true, ds)
    | ds => (false, ds)
  let n := digits.foldl (fun n c => n * 10 + (c.toNat - 48)) 0
  if negative && n ≤ 9223372036854775808 then .int (-Int.ofNat n)
  else if !negative && n ≤ 9223372036854775807 then .int (Int.ofNat n)
  else .real (readReal text).value

def JsonTree.sqlValue (t : JsonTree) : Except Failure (Datum × Bool) :=
  match t with
  | .null => .ok (.null, false)
  | .bool b => .ok (.int (if b then 1 else 0), false)
  | .number text false => .ok (jsonInteger text, false)
  | .number text true => .ok (.real (readReal text).value, false)
  | .string text esc =>
    let inner := (text.toList.drop 1).dropLast
    .ok (.text (String.ofList (if esc then unescapeJson inner else inner)), false)
  | .value d json => .ok (d, json)
  | _ => do return (.text (← t.render), true)

/-! ## Paths -/

/-- What following a path to its end does there. -/
inductive JsonEdit where
  /-- Replace what is there, or add it when it is missing. -/
  | set (v : JsonTree)
  /-- Add it only when it is missing. -/
  | insert (v : JsonTree)
  /-- Replace it only when it is there. -/
  | replace (v : JsonTree)
  /-- Take it away. -/
  | remove
  /-- Only look. -/
  | look

def JsonEdit.adds : JsonEdit → Bool
  | .set _ | .insert _ => true
  | _ => false

def JsonEdit.newValue : JsonEdit → Option JsonTree
  | .set v | .insert v | .replace v => some v
  | _ => none

/-- What following a path came to. -/
inductive Reached where
  /-- The path reaches nothing, and nothing was added. -/
  | miss
  /-- The path reached a node: the node, and the tree after the edit, none when the edit
  took the whole tree away. -/
  | hit (node : JsonTree) (tree : Option JsonTree)
  deriving Inhabited

def JsonLabel.isKey (l : JsonLabel) (key : String) : Bool :=
  match l with
  | .written t => String.ofList ((t.toList.drop 1).dropLast) == key
  | .given t => t == key

def keyStep (path : List Char) : Except String (String × List Char) :=
  match path with
  | '"' :: rest =>
    let key := rest.takeWhile (· ≠ '"')
    match rest.drop key.length with
    | '"' :: after =>
      if key.isEmpty then .error (String.ofList path) else .ok (String.ofList key, after)
    | _ => .error (String.ofList path)
  | _ =>
    let key := path.takeWhile fun c => c ≠ '.' && c ≠ '['
    if key.isEmpty then .error (String.ofList path)
    else .ok (String.ofList key, path.drop key.length)

def digitsValue (ds : List Char) : Nat :=
  ds.foldl (fun n c => (n * 10 + (c.toNat - 48)) % 4294967296) 0

/-- What a `[` step names in an array of `size` items: the index, or none when it counts
back past the start; and the path after the step. A step that is not `[n]`, `[#]` or
`[#-n]` fails with the path from its bracket, but a `#` step on what is not an array, or
one counting back past the start, reaches nothing before its closing bracket is looked
at. -/
def indexStep (isArray : Bool) (size : Nat) (path : List Char) :
    Except String (Option (Option Nat × List Char)) :=
  let body := path.drop 1
  let ds := body.takeWhile Char.isDigit
  match body.drop ds.length with
  | ']' :: after =>
    if !ds.isEmpty then .ok (some (some (digitsValue ds), after))
    else .error (String.ofList path)
  | _ =>
    match body with
    | '#' :: more =>
      if !isArray then .ok none
      else
        let (back, afterBack) := match more with
          | '-' :: d :: ds' =>
            if d.isDigit then
              let xs := (d :: ds').takeWhile Char.isDigit
              (some (digitsValue xs), (d :: ds').drop xs.length)
            else (none, more)
          | _ => (none, more)
        let index := match back with
          | some x => if x > size then none else some (size - x)
          | none => some size
        match index, afterBack with
        | none, _ => .ok (some (none, afterBack))
        | some i, ']' :: after => .ok (some (some i, after))
        | some _, _ => .error (String.ofList path)
    | _ => .error (String.ofList path)

mutual

def follow : Nat → JsonTree → List Char → JsonEdit → Except String Reached
  | 0, _, _, _ => .ok .miss
  | _, t, [], edit =>
    match edit with
    | .set v | .replace v => .ok (.hit t (some v))
    | .remove => .ok (.hit t none)
    | _ => .ok (.hit t (some t))
  | fuel + 1, t, c :: rest, edit =>
    let replaced := match t with
      | .value .. => true
      | _ => false
    if replaced then .ok .miss
    else if c == '.' then
      match t with
      | .object members => do
        let (key, after) ← keyStep rest
        match members.findIdx? (·.1.isKey key) with
        | some k =>
          let (label, v) := members.getD k (.given "", .null)
          match ← follow fuel v after edit with
          | .miss => return .miss
          | .hit node (some v') =>
            return .hit node (some (.object (members.set k (label, v'))))
          | .hit node none => return .hit node (some (.object (members.eraseIdx k)))
        | none =>
          if edit.adds then
            match ← grow fuel after edit with
            | some (node, sub) =>
              return .hit node (some (.object (members ++ [(.given key, sub)])))
            | none => return .miss
          else return .miss
      | _ => .ok .miss
    else if c == '[' then do
      let (isArray, items) := match t with
        | .array items => (true, items)
        | _ => (false, [])
      match ← indexStep isArray items.length (c :: rest) with
      | none => return .miss
      | some (index, after) =>
        if !isArray then return .miss
        match index with
        | none => return .miss
        | some i =>
          if h : i < items.length then
            match ← follow fuel (items.get ⟨i, h⟩) after edit with
            | .miss => return .miss
            | .hit node (some v') => return .hit node (some (.array (items.set i v')))
            | .hit node none => return .hit node (some (.array (items.eraseIdx i)))
          else if i == items.length && edit.adds then
            match ← grow fuel after edit with
            | some (node, sub) => return .hit node (some (.array (items ++ [sub])))
            | none => return .miss
          else return .miss
    else .error (String.ofList (c :: rest))

def grow : Nat → List Char → JsonEdit → Except String (Option (JsonTree × JsonTree))
  | 0, _, _ => .ok none
  | _, [], edit =>
    match edit.newValue with
    | some v => .ok (some (.null, v))
    | none => .ok none
  | fuel + 1, c :: rest, edit => do
    let start : Option JsonTree :=
      if c == '.' then some (.object [])
      else if (c :: rest).take 3 == ['[', '0', ']'] then some (.array [])
      else none
    match start with
    | none => return none
    | some s =>
      match ← follow fuel s (c :: rest) edit with
      | .hit node (some sub) => return some (node, sub)
      | _ => return none

end

/-! ## The functions -/

def malformedJson : Failure := sqlError "malformed JSON"

def jsonPathError (near : String) : Failure :=
  sqlError ("JSON path error near '" ++ String.join (near.toList.map fun c =>
    if c == '\'' then "''" else String.singleton c) ++ "'")

def documentOf (d : Datum) : Except Failure (Option JsonTree) :=
  match d.text? with
  | none => .ok none
  | some s =>
    match readJsonDoc s with
    | some t => .ok (some t)
    | none => .error malformedJson

def applyPath (t : JsonTree) (path : Datum) (edit : JsonEdit) : Except Failure Reached :=
  match path.text? with
  | none => .ok .miss
  | some p =>
    match p.toList with
    | '$' :: rest =>
      match follow (3 * rest.length + 4) t rest edit with
      | .ok r => .ok r
      | .error near => .error (jsonPathError near)
    | _ => .error (jsonPathError p)

def lookupPath (t : JsonTree) (path : Datum) : Except Failure (Option JsonTree) := do
  match ← applyPath t path .look with
  | .hit node _ => return some node
  | .miss => return none

def arrowPath (p : String) : String :=
  match p.toList with
  | '$' :: _ => p
  | c :: _ => if c.isDigit then "$[" ++ p ++ "]" else if c == '[' then "$" ++ p else "$." ++ p
  | [] => "$."

def jsonResult (t : JsonTree) : Except Failure (Datum × Bool) := do
  return (.text (← t.render), true)

def nullResult : Datum × Bool := (.null, false)

def jsonExtract (args : List Datum) : Except Failure (Datum × Bool) := do
  match args with
  | [] | [_] => return nullResult
  | doc :: paths =>
    match ← documentOf doc with
    | none => return nullResult
    | some t =>
      match paths with
      | [p] =>
        match ← lookupPath t p with
        | some node => node.sqlValue
        | none => return nullResult
      | _ =>
        let parts ← paths.mapM fun p => do
          match ← lookupPath t p with
          | some node => node.render
          | none => pure "null"
        return (.text ("[" ++ ",".intercalate parts ++ "]"), true)

def jsonArrow (asJson : Bool) (doc path : Datum) : Except Failure (Datum × Bool) := do
  match ← documentOf doc with
  | none => return nullResult
  | some t =>
    match path.text? with
    | none => return nullResult
    | some p =>
      match ← lookupPath t (.text (arrowPath p)) with
      | some node =>
        if asJson then jsonResult node
        else do return ((← node.sqlValue).1, false)
      | none => return nullResult

def jsonItems (args : List (Datum × Bool)) : Except Failure (List String) :=
  args.mapM fun (d, j) => jsonOfDatum d j

def objectMembers : List (Datum × Bool) → Option Failure → List String →
    Except Failure (List String)
  | (k, _) :: (v, j) :: rest, err, acc =>
    match k with
    | .text s =>
      match jsonOfDatum v j with
      | .ok text => objectMembers rest err ((jsonQuote s ++ ":" ++ text) :: acc)
      | .error e => objectMembers rest (err.orElse fun _ => some e) acc
    | _ => .error (sqlError "json_object() labels must be TEXT")
  | _, some e, _ => .error e
  | _, none, acc => .ok acc.reverse

def jsonObject (args : List (Datum × Bool)) : Except Failure (Datum × Bool) := do
  if args.length % 2 == 1 then
    throw (sqlError "json_object() requires an even number of arguments")
  let items ← objectMembers args none []
  return (.text ("\x7b" ++ ",".intercalate items ++ "\x7d"), true)

def editPairs (make : JsonTree → JsonEdit) : List (Datum × Bool) → JsonTree →
    Except Failure JsonTree
  | (p, _) :: (v, j) :: rest, t => do
    match ← applyPath t p (make (.value v j)) with
    | .hit _ (some t') => editPairs make rest t'
    | _ => editPairs make rest t
  | _, t => .ok t

def jsonEditPairs (name : String) (make : JsonTree → JsonEdit) (args : List (Datum × Bool)) :
    Except Failure (Datum × Bool) := do
  match args with
  | [] => return nullResult
  | (doc, _) :: pairs =>
    if pairs.length % 2 == 1 then
      throw (sqlError ("json_" ++ name ++ "() needs an odd number of arguments"))
    match ← documentOf doc with
    | none => return nullResult
    | some t =>
      match ← editPairs make pairs t with
      | .value d j => return (d, j)
      | t' => jsonResult t'

def removePaths : List Datum → JsonTree → Bool → Except Failure (Option (JsonTree × Bool))
  | [], t, rootGone => .ok (some (t, rootGone))
  | p :: rest, t, rootGone => do
    if p.text?.isNone then return none
    match ← applyPath t p .remove with
    | .hit _ (some t') => removePaths rest t' rootGone
    | .hit _ none => removePaths rest t true
    | .miss => removePaths rest t rootGone

def jsonRemove (args : List Datum) : Except Failure (Datum × Bool) := do
  match args with
  | [] => return nullResult
  | doc :: paths =>
    match ← documentOf doc with
    | none => return nullResult
    | some t =>
      match ← removePaths paths t false with
      | some (t', false) => jsonResult t'
      | _ => return nullResult

def dropNulls : JsonTree → JsonTree
  | .object members => .object (dropNullMembers members)
  | t => t
where
  dropNullMembers : List (JsonLabel × JsonTree) → List (JsonLabel × JsonTree)
    | [] => []
    | (_, .null) :: rest => dropNullMembers rest
    | (l, .object ms) :: rest => (l, .object (dropNullMembers ms)) :: dropNullMembers rest
    | m :: rest => m :: dropNullMembers rest

def JsonLabel.written? : JsonLabel → String
  | .written t => t
  | .given t => jsonQuote t

/-- A member of a target object while a patch is merged in: untouched, replaced, or taken
away. -/
inductive MergeState where
  | fresh
  | done
  | removed
  deriving DecidableEq

/-- Merges a patch into a target (RFC 7396): a patch that is not an object replaces the
target; an object patch merges member by member into an object target, a null taking the
member away, and members the target lacks are added without their nulls. The first target
member with a label is the one a patch member reaches; a member replaced or taken away is
not reached again. -/
def mergePatch : Nat → JsonTree → JsonTree → JsonTree
  | 0, _, patch => patch
  | fuel + 1, target, patch =>
    match patch with
    | .object pms =>
      match target with
      | .object tms =>
        let start : List (JsonLabel × JsonTree × MergeState) :=
          tms.map fun (l, v) => (l, v, MergeState.fresh)
        let (merged, added) := pms.foldl (fun (acc : List (JsonLabel × JsonTree × MergeState) ×
            List (JsonLabel × JsonTree)) (pl, pv) =>
          let (ms, added) := acc
          match ms.findIdx? (fun m => m.1.written? == pl.written?) with
          | some k =>
            let (l, v, st) := ms.getD k (pl, .null, .fresh)
            if st != .fresh then (ms, added)
            else
              match pv with
              | .null => (ms.set k (l, v, .removed), added)
              | _ =>
                let v' := mergePatch fuel v pv
                let inPlace := match v, pv with
                  | .object _, .object _ => true
                  | _, _ => false
                (ms.set k (l, v', if inPlace then .fresh else .done), added)
          | none =>
            match pv with
            | .null => (ms, added)
            | _ => (ms, added ++ [(pl, dropNulls pv)])) (start, [])
        .object ((merged.filter (·.2.2 != .removed)).map (fun (l, v, _) => (l, v)) ++ added)
      | _ => dropNulls patch
    | _ => patch

def JsonTree.depthBound : JsonTree → Nat
  | .array items => 1 + depthItems items
  | .object members => 1 + depthMembers members
  | _ => 1
where
  depthItems : List JsonTree → Nat
    | [] => 0
    | t :: ts => max t.depthBound (depthItems ts)
  depthMembers : List (JsonLabel × JsonTree) → Nat
    | [] => 0
    | (_, t) :: ms => max t.depthBound (depthMembers ms)

def jsonPatch (target patch : Datum) : Except Failure (Datum × Bool) := do
  match ← documentOf target with
  | none => return nullResult
  | some t =>
    match ← documentOf patch with
    | none => return nullResult
    | some p => jsonResult (mergePatch (p.depthBound + 1) t p)

def jsonNodeAt (args : List Datum) : Except Failure (Option JsonTree) := do
  match args with
  | doc :: rest =>
    match ← documentOf doc with
    | none => return none
    | some t =>
      match rest with
      | p :: _ => lookupPath t p
      | [] => return some t
  | [] => return none

def isJsonFunction (name : String) : Bool :=
  ["json", "json_valid", "json_type", "json_array_length", "json_extract", "->", "->>",
   "json_array", "json_object", "json_quote", "json_set", "json_insert", "json_replace",
   "json_remove", "json_patch"].contains (asciiLower name)

def callJson (name : String) (args : List (Datum × Bool)) : Except Failure (Datum × Bool) :=
  let plain := args.map (·.1)
  let arg (i : Nat) : Datum := plain.getD i .null
  match asciiLower name with
  | "json" => jsonRemove [arg 0]
  | "json_valid" =>
    .ok (.int (match (arg 0).text? with
      | some s => if (readJsonDoc s).isSome then 1 else 0
      | none => 0), false)
  | "json_type" => do
    match ← jsonNodeAt plain with
    | some node => return (.text node.kindName, false)
    | none => return nullResult
  | "json_array_length" => do
    match ← jsonNodeAt plain with
    | some (.array items) => return (.int items.length, false)
    | some _ => return (.int 0, false)
    | none => return nullResult
  | "json_extract" => jsonExtract plain
  | "->" => jsonArrow true (arg 0) (arg 1)
  | "->>" => jsonArrow false (arg 0) (arg 1)
  | "json_array" => do return (.text ("[" ++ ",".intercalate (← jsonItems args) ++ "]"), true)
  | "json_object" => jsonObject args
  | "json_quote" => do
    let (d, j) := args.getD 0 (.null, false)
    return (.text (← jsonOfDatum d j), true)
  | "json_set" => jsonEditPairs "set" .set args
  | "json_insert" => jsonEditPairs "insert" .insert args
  | "json_replace" => jsonEditPairs "replace" .replace args
  | "json_remove" => jsonRemove plain
  | "json_patch" => jsonPatch (arg 0) (arg 1)
  | _ => .error (sqlError ("no such function: " ++ name))

def jsonGroupArray (values : List (Datum × Bool)) : Except Failure Datum := do
  return .text ("[" ++ ",".intercalate (← jsonItems values) ++ "]")

def jsonGroupObject (pairs : List ((Datum × Bool) × (Datum × Bool))) : Except Failure Datum := do
  let items ← pairs.mapM fun ((k, _), (v, j)) => do
    let label := match k.text? with
      | some s => jsonQuote s
      | none => ""
    return label ++ ":" ++ (← jsonOfDatum v j)
  return .text ("\x7b" ++ ",".intercalate items ++ "\x7d")

end CatalogSync.Sql
