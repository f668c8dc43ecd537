import CatalogSync.Api.Records
import CatalogSync.Json.Writer
import CatalogSync.Net.Http

/-!
# A simulated WebHDFS namenode

The namenode serves one directory of files, each given by its WebHDFS status fields plus
the file's `content` and `content_type`. It answers three operations:

* `CHECKACCESS` with its access status;
* `LISTSTATUS_BATCH` with a page of the directory: the files whose names come after the
  `startAfter` parameter, in name order, at most a page size of them, without their content,
  and the number of files left after the page; a listing status other than 200, or a body
  set by hand, replaces the page;
* `OPEN` with the content of the file named by the last segment of the path, or `404`.

An unreachable namenode answers no request: the connection fails.
-/

namespace CatalogSync.Sim

open Api

/-- The state of a simulated namenode. -/
structure Namenode where
  /-- The files of the directory, by name, in the order they were put. -/
  files : List Value := []
  pageSize : Value := .int 1000
  reachable : Bool := true
  accessStatus : Value := .int 200
  listStatus : Value := .int 200
  /-- A listing body that replaces the page. -/
  listBody : Option Value := none

def fileName (file : Value) : String :=
  match file.get "pathSuffix" with
  | .str s => s
  | v => v.display

def statusCode : Value → Nat
  | .int n => n.toNat
  | _ => 200

def statusFields (file : Value) : Value :=
  match file with
  | .obj fs => .obj (fs.filter fun f => f.1 != "content" && f.1 != "content_type")
  | v => v

namespace Namenode

def put (n : Namenode) (file : Value) : Namenode :=
  let name := fileName file
  if n.files.any (fileName · == name) then
    { n with files := n.files.map fun f => if fileName f == name then file else f }
  else { n with files := n.files ++ [file] }

def remove (n : Namenode) (name : String) : Namenode :=
  { n with files := n.files.filter (fileName · != name) }

def page (n : Namenode) (startAfter : Option String) : List Value × Nat :=
  let sorted := n.files.mergeSort fun a b => decide (fileName a ≤ fileName b)
  let after := sorted.filter fun f =>
    match startAfter with
    | some s => decide (s < fileName f)
    | none => true
  let size := match n.pageSize with
    | .int k => k.toNat
    | _ => 1000
  (after.take size, after.length - min size after.length)

def listingBody (n : Namenode) (startAfter : Option String) : Value :=
  let (files, remaining) := n.page startAfter
  .obj [("DirectoryListing", .obj [
    ("partialListing", .obj [("FileStatuses", .obj [("FileStatus", .list (files.map statusFields))])]),
    ("remainingEntries", .int remaining)])]

def documentBytes (v : Value) : List UInt8 := (Json.writeCompact .controls v).toUTF8.toList

def serve (n : Namenode) (r : Http.Request) : Except Failure Http.Response := do
  if !n.reachable then throw (.transport .connect "namenode unreachable")
  let t := r.target
  let param (key : String) : Option String := (t.params.find? (·.1 == key)).map (·.2)
  match param "op" with
  | some "CHECKACCESS" => return { status := statusCode n.accessStatus }
  | some "LISTSTATUS_BATCH" =>
    if statusCode n.listStatus != 200 then return { status := statusCode n.listStatus }
    let json := [("content-type", "application/json")]
    match n.listBody with
    | some (.str s) => return { status := 200, body := s.toUTF8.toList }
    | some v => return { status := 200, headers := json, body := documentBytes v }
    | none =>
      return { status := 200, headers := json,
               body := documentBytes (n.listingBody (param "startAfter")) }
  | some "OPEN" =>
    let name := ((t.path.splitOn "/").getLastD "")
    match n.files.find? (fileName · == name) with
    | none => return { status := 404 }
    | some file =>
      let content ← match file.get "content" with
        | .null => pure []
        | c => decodeBytes c
      let kind := match file.get "content_type" with
        | .str s => s
        | _ => "application/octet-stream"
      return { status := 200, headers := [("content-type", kind)], body := content }
  | _ => return { status := 400 }

end Namenode

end CatalogSync.Sim
