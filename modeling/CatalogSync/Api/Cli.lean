import CatalogSync.Api.Catalog
import CatalogSync.Api.Settings
import CatalogSync.Cli.Shell

/-!
# Command line requests

A `cli` request prepares a working directory, carries out a command line in it as the user
`oracle`, and answers the status, what was printed and what was written as errors, with the
failure nothing handled, if one ended the command. Before the command:

* `config` is written to `config.yaml`: text as it is, other data as a document;
* `seed` adds records to catalogs, by path;
* `sql` runs statements on database files, by path, creating the catalog table first except
  in `r.db`;
* `env` sets the environment.

Afterwards `dump` lists the records of the catalogs named that exist, and `read` the text of
the files named that exist.
-/

namespace CatalogSync.Api

open Cli Disk

def commandUser : String := "oracle"

def configFile : String := "config.yaml"

def fieldsOf : Value → List (String × Value)
  | .obj fs => fs
  | _ => []

def prepareFiles (req : Value) : DiskM Unit := do
  for (path, records) in fieldsOf (req.get "seed") do
    let n ← Catalog.Node.create path "seed"
    for r in asList records do
      n.addRecord (← liftDisk (decodeRecord r)) none none none
  for (path, statements) in fieldsOf (req.get "sql") do
    if path != "r.db" then
      let _ ← Catalog.Node.create path "catalog"
    script path ((asList statements).map fun s => match s with
      | .str t => t
      | v => v.display)

def documentText : Document → String
  | .text s => s
  | .data v => Json.writeIndented .controls v

def cliAnswer (req : Value) : Value :=
  valueOr do
    let clock ← startClock req
    let (prepared, files) := ((prepareFiles req).run {}).run
    prepared
    let documents := match req.lookup "config" with
      | some (.str s) => [(configFile, Document.text s)]
      | some v => [(configFile, Document.data v)]
      | none => []
    let machine : Machine :=
      { clock, files, documents, overrides := overridesOf (req.get "env"), user := commandUser }
    let args := (asList (req.get "args")).map fun a => match a with
      | .str s => s
      | v => v.display
    let (ending, after) := (execute args).run machine
    let base := [("exit_code", Value.int ending.code), ("stdout", .str ending.out),
                 ("stderr", .str ending.err)]
    let crash := match ending.crash with
      | some f => [("exception", Value.str f.kindName)]
      | none => []
    let dumps := match req.lookup "dump" with
      | none => []
      | some paths =>
        let present := (asList paths).filterMap fun p => match p with
          | .str path => if after.files.exists? path then some path else none
          | _ => none
        let rows := present.map fun path =>
          match ((dumpRecords path).run after.files).run.1 with
          | .ok v => (path, v)
          | .error e => (path, e.answer)
        [("files", obj rows)]
    let reads := match req.lookup "read" with
      | none => []
      | some paths =>
        let present := (asList paths).filterMap fun p => match p with
          | .str path =>
            (after.documents.find? (·.1 == Disk.fileName path)).map fun d =>
              (path, Value.str (documentText d.2))
          | _ => none
        [("read", obj present)]
    return obj (base ++ crash ++ dumps ++ reads)

end CatalogSync.Api
