import CatalogSync.Api.Basics
import CatalogSync.Net.Http
import CatalogSync.Sync.Runner

/-!
# The web API

The web API shows the replications of a runner and starts and stops their runs:

| route | method | answer |
|---|---|---|
| `/replications` | GET | each replication with its sites, whether it is suspended or running, and its latest status |
| `/replications/<name>/status` | GET | the latest status, `404` for an unknown name |
| `/replications/<name>/sync` | POST | `202` and a run started for the subject of the request, `409` while one is going |
| `/replications/<name>/cancel` | POST | `200` when a run was asked to stop, `409` when none was going |

A route asked with another method answers `405`, any other path `404`, both without a
body. A path that names a route once pairs of slashes in a row are made one answers `308`,
sending the caller there. A run started by the API is carried out after the answer is sent; its failures are
only logged. The subject of the run is the request's `subject` when its body is a JSON
object that sets one, and otherwise the caller's address.
-/

namespace CatalogSync.Web

open Sync Api

/-- A request to the API. -/
structure Request where
  method : String := "GET"
  path : String
  /-- The body, when it is JSON. -/
  json : Option Value := none

/-- An answer of the API: the status code and the JSON body, if there is one. -/
structure Reply where
  status : Nat
  body : Option Value := none

/-- A run the API started, to be carried out once the answer is sent. -/
structure Job where
  name : Value
  subject : Value

def remoteAddress : String := "127.0.0.1"

/-- What a path asks for. -/
inductive Route where
  | list
  | status (name : String)
  | sync (name : String)
  | cancel (name : String)

def requestPath (target : String) : String :=
  let path := (target.splitOn "#").headD ""
  Http.unescape false ((path.splitOn "?").headD "")

def mergeSlashPairs : List Char → List Char
  | '/' :: '/' :: rest => '/' :: mergeSlashPairs rest
  | c :: rest => c :: mergeSlashPairs rest
  | [] => []

def route (path : String) : Option (Route × List String) :=
  match path.splitOn "/" with
  | ["", "replications"] => some (.list, ["GET", "HEAD", "OPTIONS"])
  | ["", "replications", name, "status"] =>
    if name.isEmpty then none else some (.status name, ["GET", "HEAD", "OPTIONS"])
  | ["", "replications", name, "sync"] =>
    if name.isEmpty then none else some (.sync name, ["POST", "OPTIONS"])
  | ["", "replications", name, "cancel"] =>
    if name.isEmpty then none else some (.cancel name, ["POST", "OPTIONS"])
  | _ => none

def json (status : Nat) (body : Value) : Reply := { status, body := some body }

def unknown (name : String) : Reply :=
  json 404 (obj [("error", .str ("Unknown replication: " ++ name))])

def subjectOf (body : Option Value) : Except Failure Value :=
  let given := match body with
    | some v => if v.truthy then some v else none
    | none => none
  match given with
  | none => .ok (.str remoteAddress)
  | some (.obj fs) =>
    let s := (Value.obj fs).get "subject"
    .ok (if s.truthy then s else .str remoteAddress)
  | some v => .error (v.lacks "get")

def listing (runner : Runner) (now : Except Failure Stamp) (r : Replication) :
    Except Failure Value := do
  let status ← match runner.status r.name with
    | some s => statusValue s now
    | none => pure .null
  return obj [("name", r.name), ("source", r.source), ("destination", r.destination),
    ("suspended", .bool r.suspended), ("running", .bool (runner.isRunning r.name)),
    ("status", status)]

def answer (runner : Runner) (now : Except Failure Stamp) (req : Request) :
    Route → Except Failure (Runner × Reply × Option Job)
  | .list => do
    return (runner, json 200 (.list (← runner.replications.mapM (listing runner now))), none)
  | .status name => do
    let some _ := (runner.find (.str name)).toOption | return (runner, unknown name, none)
    match runner.status (.str name) with
    | none => return (runner, json 200 (obj [("replication", .str name), ("status", .null)]), none)
    | some s => return (runner, json 200 (← statusValue s now), none)
  | .sync name => do
    let some _ := (runner.find (.str name)).toOption | return (runner, unknown name, none)
    let subject ← subjectOf req.json
    if runner.isRunning (.str name) then
      return (runner, json 409 (obj [("error", .str ("Replication " ++ name ++ " is already running"))]), none)
    return (runner, json 202 (obj [("replication", .str name), ("started", .bool true)]),
      some { name := .str name, subject })
  | .cancel name =>
    let (runner, canceled) := runner.cancel (.str name)
    return (runner, json (if canceled then 200 else 409)
      (obj [("replication", .str name), ("canceled", .bool canceled)]), none)

def handle (runner : Runner) (now : Except Failure Stamp) (req : Request) :
    Runner × Reply × Option Job :=
  let path := requestPath req.path
  match route path with
  | none =>
    match route (String.ofList (mergeSlashPairs path.toList)) with
    | some (_, methods) =>
      (runner, { status := if methods.contains req.method then 308 else 405 }, none)
    | none => (runner, { status := 404 }, none)
  | some (r, methods) =>
    if !methods.contains req.method then (runner, { status := 405 }, none)
    else if req.method == "OPTIONS" then (runner, { status := 200 }, none)
    else match answer runner now req r with
      | .ok (runner, reply, job) =>
        (runner, if req.method == "HEAD" then { reply with body := none } else reply, job)
      | .error _ => (runner, { status := 500 }, none)

end CatalogSync.Web
