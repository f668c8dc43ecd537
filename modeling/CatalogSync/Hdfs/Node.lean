import CatalogSync.Filter.Predicate
import CatalogSync.Hash.Md5
import CatalogSync.Net.Http
import CatalogSync.Node.Record
import CatalogSync.Text.Literal
import CatalogSync.Time.Epoch

/-!
# File-system nodes

A file-system node lists the regular files of one directory of a Hadoop file system,
through its REST interface, as records; it accepts no writes. Requests go through a `Send`
function, so the same node runs against any server.

* The listing comes in pages: each page names the entries after the last one of the page
  before and says how many remain. A page that cannot be read as a listing ends it with the
  files found so far.
* A file's record id is a name-based UUID of its URL and its modification time in
  milliseconds: the MD5 UUID with its version digit rewritten to 4, so that a replaced file
  gets a new id.
* Listed entries are JSON mappings read with the access rules of mappings: a missing key
  fails with the key, a value that is no mapping fails as a value of the wrong kind.
-/

namespace CatalogSync.Hdfs

/-- A file-system node: the URL of its directory, ending in a slash. -/
structure Node where
  baseUrl : String
  deriving Inhabited

def Node.ofUrl (url : String) : Node := ⟨if url.endsWith "/" then url else url ++ "/"⟩

def systemName : String := "webHDFS"

/-- Sends a request; a failure is one of the transport. -/
abbrev Send (m : Type → Type) := Http.Request → m (Except Failure Http.Response)

def index (x : Value) (key : String) : Except Failure Value :=
  match x with
  | .obj _ =>
    match x.lookup key with
    | some v => .ok v
    | none => .error (.missingKey (Text.literal key))
  | _ => .error (.wrongKind ("'" ++ x.kindName ++ "' object is not subscriptable"))

def getKey (x : Value) (key : String) (default : Value) : Except Failure Value :=
  match x with
  | .obj _ => .ok (x.getD key default)
  | v => .error (v.lacks "get")

def items (x : Value) : Except Failure (List Value) :=
  match x with
  | .list xs => .ok xs
  | .obj fs => .ok (fs.map fun f => .str f.1)
  | .str s => .ok (s.toList.map fun c => .str c.toString)
  | _ => .error (.wrongKind ("'" ++ x.kindName ++ "' object is not iterable"))

def secondsOfMillis (v : Value) : Except Failure Float :=
  match v with
  | .int n =>
    match Binary64.decode (Binary64.ofRatio (n < 0) n.natAbs 1000) with
    | .infinite _ => .error (.overflow "integer division result too large for a float")
    | _ => .ok (Binary64.ofRatio (n < 0) n.natAbs 1000)
  | .bool b => .ok (Binary64.ofRatio false (if b then 1 else 0) 1000)
  | .float x =>
    match Binary64.decode x with
    | .finite negative m e =>
      let (num, den) := Binary64.Decoded.fraction negative m e
      .ok (Binary64.ofRatio negative num.natAbs (den * 1000))
    | _ => .ok x
  | _ => .error (.wrongKind ("unsupported operand type(s) for /: '" ++ v.kindName ++ "' and 'int'"))

def ofMillis (v : Value) : Except Failure Stamp := do
  Stamp.ofEpochSeconds (← secondsOfMillis v)

def hexByte (b : UInt8) : String := Text.hex 2 b.toNat

def versionId (fileUrl : String) (modified : Stamp) : String :=
  let millis := modified.epochMillis
  let d := Md5.digest (fileUrl ++ "_" ++ toString millis).toUTF8.toList
  let d := d.set 6 ((d.getD 6 0 &&& 0x0f) ||| 0x30)
  let d := d.set 8 ((d.getD 8 0 &&& 0x3f) ||| 0x80)
  let hex := (String.join (d.map hexByte)).toList
  let part (a b : Nat) : String := String.ofList ((hex.drop a).take (b - a))
  let text := (part 0 8 ++ "-" ++ part 8 12 ++ "-" ++ part 12 16 ++ "-" ++ part 16 20 ++ "-" ++
    part 20 32).toList
  String.ofList (text.set 14 '4')

def relevantFiles (files : Value) (filterDate : Option Stamp) : Except Failure (List Value) := do
  (← items files).filterM fun status => do
    let kind ← getKey status "type" .null
    match kind with
    | .str "FILE" =>
      match filterDate with
      | none => return true
      | some d => (← ofMillis (← index status "modificationTime")).after d
    | _ => return false

def Node.createRecord (n : Node) (status : Value) : Except Failure Record := do
  let suffix ← index status "pathSuffix"
  let fileUrl ← match suffix with
    | .str s => pure (n.baseUrl ++ s)
    | v => throw (.wrongKind ("can only concatenate str (not \"" ++ v.kindName ++ "\") to str"))
  let modified ← ofMillis (← index status "modificationTime")
  let id := versionId fileUrl modified
  let length := status.getD "length" (.int 0)
  return { id := .str id, modified := some modified,
           attributes := .obj [("id", .str id), ("title", suffix),
             ("created", .str modified.iso), ("modified", .str modified.iso),
             ("resource-uri", .str fileUrl), ("resource-size", .str length.display)],
           resourceUri := some fileUrl, resourceSize := length,
           resourceModified := some modified }

def listingOf (doc : Value) : Except Failure (Value × Int) := do
  let listing ← index doc "DirectoryListing"
  let results ← index (← index (← index listing "partialListing") "FileStatuses") "FileStatus"
  let remaining ← (listing.getD "remainingEntries" (.int 0)).toInteger
  return (results, remaining)

def readPage (body : List UInt8) : Except Failure (Option (Value × Int)) :=
  match Http.jsonOf body >>= listingOf with
  | .ok page => .ok (some page)
  | .error (.malformedJson _) | .error (.missingKey _) | .error (.wrongKind _) => .ok none
  | .error e => .error e

def paramText : Value → String
  | .str s => s
  | .bool b => if b then "true" else "false"
  | .null => ""
  | v => v.display

def paramValues : Value → Option (List String)
  | .null => none
  | .list xs => some (xs.map paramText)
  | v => some [paramText v]

def sortByTime (files : List Value) : Except Failure (List Value) := do
  let keyed ← files.mapM fun f => do return (f, ← index f "modificationTime")
  let numbers := keyed.all fun k => k.2.numeric?.isSome
  let texts := keyed.all fun k => match k.2 with | .str _ => true | _ => false
  if numbers then
    let less (a b : Value) : Bool :=
      match a.numeric?, b.numeric? with
      | some x, some y => x.compare? y == some .lt
      | _, _ => false
    return (keyed.mergeSort fun a b => !less b.2 a.2).map (·.1)
  else if texts then
    let less (a b : Value) : Bool :=
      match a, b with
      | .str x, .str y => decide (x < y)
      | _, _ => false
    return (keyed.mergeSort fun a b => !less b.2 a.2).map (·.1)
  else if keyed.length ≤ 1 then return files
  else throw (.wrongKind "'<' not supported between instances")

section Requests

variable {m : Type → Type} [Monad m]

def lift {α : Type} : Except Failure α → ExceptT Failure m α
  | .ok a => pure a
  | .error e => throw e

def sendOr (send : Send m) (context : String) (r : Http.Request) :
    ExceptT Failure m Http.Response := do
  let out : Except Failure Http.Response ← (send r : m _)
  match out with
  | .ok resp => pure resp
  | .error e =>
    if Http.isTransport e then throw (.node .link context (some e)) else throw e

def pageParams (startAfter : Option (List String)) : List (String × String) :=
  [("op", "LISTSTATUS_BATCH")] ++ ((startAfter.getD []).map fun s => ("startAfter", s))

def takePage (filterDate : Option Stamp) (found : List Value) (results : Value)
    (remaining : Int) : Except Failure (List Value × Option (Option (List String))) := do
  let found := found ++ (← relevantFiles results filterDate)
  if remaining ≤ 0 || !results.truthy then return (found, none)
  let last := match results with
    | .list xs => xs.getLastD .null
    | _ => .null
  return (found, some (paramValues (← index last "pathSuffix")))

def pageLimit : Nat := 100000

/-- The listing from an answered page on: the page's files added to `found`, then, when more
entries remain, the pages `rest` reads after it, told how many the page says remain. A body that
is no listing ends the listing with the files found so far. -/
def afterPage (filterDate : Option Stamp) (found : List Value)
    (rest : Int → Option (List String) → List Value → ExceptT Failure m (List Value)) :
    Option (Value × Int) → ExceptT Failure m (List Value)
  | none => pure found
  | some (results, remaining) => do
    match ← lift (takePage filterDate found results remaining) with
    | (found, none) => pure found
    | (found, some next) => rest remaining next found

def fetchPage (send : Send m) (n : Node) (startAfter : Option (List String)) :
    ExceptT Failure m (Option (Value × Int)) := do
  let resp ← sendOr send ("Could not list " ++ n.baseUrl)
    { url := n.baseUrl, params := pageParams startAfter }
  if resp.status != 200 then
    throw (.node .operation
      ("List Status Batch request failed with status code: " ++ toString resp.status) none)
  lift (readPage resp.body)

def listPages (send : Send m) (n : Node) (filterDate : Option Stamp) :
    Nat → Option (List String) → List Value → ExceptT Failure m (List Value)
  | 0, _, _ => throw .tooDeep
  | fuel + 1, startAfter, found => do
    afterPage filterDate found (fun _ next found => listPages send n filterDate fuel next found)
      (← fetchPage send n startAfter)

/-- The regular files of the directory, modified after the date if one is given. The listing
goes on as long as the server says entries remain, which a server that counts them honestly
does for at most one page per entry the first page says remain; `pageLimit` more pages allow for
one that miscounts. -/
def Node.files (send : Send m) (n : Node) (filterDate : Option Stamp) :
    ExceptT Failure m (List Value) := do
  afterPage filterDate []
    (fun remaining next found => listPages send n filterDate (remaining.toNat + pageLimit) next found)
    (← fetchPage send n none)

def Node.isAvailable (send : Send m) (n : Node) : m Bool := do
  let out : Except Failure Http.Response ←
    send { url := n.baseUrl, params := [("op", "CHECKACCESS"), ("fsaction", "rwx")] }
  match out with
  | .ok resp => pure (resp.status == 200)
  | .error _ => pure false

def Node.query (send : Send m) (n : Node) (p : Option Predicate) (modifiedAfter : Option Stamp) :
    ExceptT Failure m Listing := do
  let files ← n.files send modifiedAfter
  let sorted ← lift (sortByTime files)
  let records ← lift (sorted.mapM n.createRecord)
  let records := match ← lift (Predicate.restrictedIds p) with
    | some ids => records.filter fun r => ids.contains r.ident
    | none => records
  return { records, context := "Failed to query remote system" }

def redirectLimit : Nat := 20

def follow (send : Send m) (context : String) : Nat → Http.Request →
    ExceptT Failure m Http.Response
  | 0, _ => throw (.transport .tooManyRedirects "Exceeded maximum allowed redirects.")
  | fuel + 1, r => do
    let resp ← sendOr send context r
    match Http.isRedirect resp.status, resp.header? "location" with
    | true, some location => follow send context fuel { url := Http.redirectUrl r location }
    | _, _ => pure resp

def readResource (send : Send m) (r : Record) : ExceptT Failure m Resource := do
  let uri ← match r.resourceUri with
    | some u => pure u
    | none => throw (.wrongKind "Invalid type for url. Expected str or httpx.URL, got NoneType")
  let resp ← follow send ("Could not read " ++ uri) (redirectLimit + 1)
    { url := uri, params := [("op", "OPEN")] }
  if resp.status != 200 then
    throw (.node .operation
      ("Reading " ++ uri ++ " failed with status code: " ++ toString resp.status) none)
  let name ← lift r.title
  return { record := r, content := resp.body, name,
           mimeType := some ((resp.header? "content-type").getD octetStream) }

end Requests

end CatalogSync.Hdfs
