import CatalogSync.Api.Basics
import CatalogSync.Api.Records
import CatalogSync.Hdfs.Node
import CatalogSync.Json.Writer

/-!
# Requests on a file-system node

`webhdfs` runs steps on a file-system node whose server answers from a script: each request
takes the next scripted response, and a request past the end of the script is not found. The
answer lists every request as the server saw it, its parameters sorted.
-/

namespace CatalogSync.Api

open Hdfs

/-- The server side of a scripted exchange: the responses still to give, and the requests
seen so far. -/
structure Script where
  responses : List Value
  seen : List Http.Target := []

def headersOf (v : Value) : List (String × String) :=
  match v with
  | .obj fs => fs.map fun (k, x) => (k, paramText x)
  | _ => []

def scriptedResponse (r : Value) : Except Failure Http.Response := do
  match r.get "raise" with
  | .str "connect" => throw (.transport .connect "")
  | .str "timeout" => throw (.transport .connectTimeout "")
  | .str "read" => throw (.transport .read "")
  | .str "read_timeout" => throw (.transport .readTimeout "")
  | _ => pure ()
  let status ← match r.get "status" with
    | .null => pure 200
    | .int n => pure n.toNat
    | _ => throw (.wrongKind "status must be an integer")
  let headers := headersOf (r.get "headers")
  headers.forM fun (k, v) => do
    Text.checkAscii k
    Text.checkAscii v
  match r.get "json", r.lookup "body" with
  | .null, some b => return { status, headers, body := ← decodeBytes b }
  | .null, none => return { status, headers }
  | doc, _ =>
    let headers := if headers.any (fun h => Text.lower h.1 == "content-type") then headers
      else headers ++ [("content-type", "application/json")]
    return { status, headers, body := (Json.writeCompact .controls doc).toUTF8.toList }

def scriptedSend (r : Http.Request) : StateM Script (Except Failure Http.Response) := do
  let s ← get
  set { s with seen := s.seen ++ [r.target], responses := s.responses.drop 1 }
  match s.responses with
  | [] => return .ok { status := 404 }
  | resp :: _ => return scriptedResponse resp

def targetValue (t : Http.Target) : Value :=
  let sorted := t.params.mergeSort fun a b => decide (a.1 < b.1) || (a.1 == b.1 && decide (a.2 ≤ b.2))
  obj [("method", .str t.method), ("host", .str t.host),
       ("port", match t.port with
         | some p => .int p
         | none => .null),
       ("path", .str t.path),
       ("params", .list (sorted.map fun (k, v) => .list [.str k, .str v]))]

def contentValue (r : Resource) : Value :=
  obj [("content", bytesValue r.content), ("size", .int r.content.length), ("name", r.name),
       ("mime_type", optStr r.mimeType)]

def liftScript {α : Type} : Except Failure α → ExceptT Failure (StateM Script) α
  | .ok a => pure a
  | .error e => throw e

def hdfsStep (n : Node) (step : Value) : ExceptT Failure (StateM Script) Value := do
  match step.get "op" with
  | .str "query" => do
    let p ← liftScript (decodePredicate 100000 (step.get "filter"))
    let after ← liftScript (asOptStamp (step.get "modified_after"))
    let l ← n.query scriptedSend p after
    return .list (l.records.map recordValue)
  | .str "files" => do
    let date ← liftScript (asOptStamp (step.get "filter_date"))
    return .list (← n.files scriptedSend date)
  | .str "relevant" => do
    let date ← liftScript (asOptStamp (step.get "filter_date"))
    return .list (← liftScript (relevantFiles (step.get "files") date))
  | .str "create_record" => return recordValue (← liftScript (n.createRecord (step.get "status")))
  | .str "version4_id" => do
    let url ← liftScript (asStr (step.get "url"))
    let modified ← liftScript (asStamp (step.get "modified"))
    return .str (versionId url modified)
  | .str "is_available" => return .bool (← (n.isAvailable scriptedSend : StateM Script Bool))
  | .str "read_resource" => do
    let r ← liftScript (decodeRecord (step.get "record"))
    return contentValue (← readResource scriptedSend r)
  | .str "writes" =>
    return .list ((List.replicate 6 (.bool false)) ++ [.str systemName, .str n.baseUrl])
  | _ => throw (.invalid "unknown webhdfs step")

def defaultDirectory : String := "http://namenode:9870/webhdfs/v1/data/"

def hdfsAnswer (req : Value) : Value :=
  let url := match req.get "url" with
    | .str s => s
    | _ => defaultDirectory
  let n := Node.ofUrl url
  let script : Script := { responses := asList (req.get "responses") }
  let (answers, script) := ((asList (req.get "ops")).foldlM (fun (acc : List Value) step => do
      let out ← (hdfsStep n step).run
      return acc ++ [resultOr out]) [] : StateM Script (List Value)).run script
  obj [("steps", .list answers), ("requests", .list (script.seen.map targetValue))]

end CatalogSync.Api
