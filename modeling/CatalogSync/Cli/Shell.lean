import CatalogSync.Api.Report
import CatalogSync.Cli.Parse
import CatalogSync.Config.Check
import CatalogSync.Config.Defaults
import CatalogSync.Config.Logging
import CatalogSync.Config.Overrides
import CatalogSync.Json.Writer
import CatalogSync.Report.History
import CatalogSync.Site.Adapter
import CatalogSync.Sync.Live
import CatalogSync.Sync.Runner
import CatalogSync.Yaml.Load

/-!
# Carrying out a command line

The commands work on a machine: its clock, its working directory of database files and
documents, the environment's overrides and the user it runs as.

* `run` runs the named replications, or every one not suspended, as the user, and prints a
  line for each; a run that lost its connection or was canceled makes the command end with
  status 1.
* `plan` prints what the next run of a replication would ask its source for.
* `report` prints the report on the run history, or saves it to a file: as JSON when the
  file's name ends in `.json`, as text otherwise.

Every command first loads its configuration: the file it names, or the default one. A
configuration that cannot be read or checked, an unknown replication, and a failed `run`
end the command with an error message and status 1. Any other failure ends it with status 1
and is reported as the failure it was.

A WebHDFS site cannot be reached from the machine: every request to one fails to connect.
-/

namespace CatalogSync.Cli

open Sync Disk

/-- A document of the working directory: data written as a document, or text. -/
inductive Document where
  | data (v : Value)
  | text (s : String)

/-- The state commands work on. -/
structure Machine where
  clock : Stamp
  files : Disk.Files := {}
  /-- The documents of the working directory, by file name. -/
  documents : List (String × Document) := []
  overrides : Config.Overrides := {}
  user : String
  runner : Runner := { replications := [] }
  /-- What has been printed so far. -/
  out : String := ""
  /-- What has been written to the error stream so far. -/
  errors : String := ""

abbrev Work := ExceptT Failure (StateM Machine)

/-- How a command ends early. -/
inductive Stop where
  /-- With an error message and status 1. -/
  | failed (message : String)
  /-- Quietly, with a status. -/
  | exit (code : Nat)
  /-- With a failure nothing handled, and status 1. -/
  | crash (f : Failure)

abbrev Shell := ExceptT Stop (StateM Machine)

def echo (line : String) : Shell Unit := modify fun m => { m with out := m.out ++ line ++ "\n" }

def note (text : String) : Shell Unit := modify fun m => { m with errors := m.errors ++ text }

def attempt {α : Type} (handle : Failure → Stop) (w : Work α) : Shell α := do
  let m ← get
  let (out, m) := (w.run m).run
  set m
  match out with
  | .ok a => pure a
  | .error f => throw (handle f)

def perform {α : Type} (w : Work α) : Shell α := attempt .crash w

def disk {α : Type} (act : DiskM α) : Work α := do
  let m ← get
  let (out, files) := (act.run m.files).run
  set { m with files }
  MonadExcept.ofExcept out

def now : Work Stamp := do
  MonadExcept.ofExcept (Api.utcNow (← get).clock)

def Machine.has (m : Machine) (path : String) : Bool :=
  m.files.exists? path || (Disk.opens path && m.documents.any (·.1 == Disk.fileName path))

def writeDocument (path : String) (d : Document) : Shell Unit :=
  modify fun m =>
    let name := Disk.fileName path
    { m with documents := (m.documents.filter (·.1 != name)) ++ [(name, d)] }

mutual
def sortKeys : Value → Value
  | .obj fs => .obj ((sortFields fs).mergeSort fun a b => decide (a.1 ≤ b.1))
  | .list xs => .list (sortItems xs)
  | v => v

def sortItems : List Value → List Value
  | [] => []
  | x :: xs => sortKeys x :: sortItems xs

def sortFields : List (String × Value) → List (String × Value)
  | [] => []
  | (k, v) :: fs => (k, sortKeys v) :: sortFields fs
end

def documentValue (name : String) : Document → Except Failure Value
  | .data v => .ok (sortKeys v)
  | .text s =>
    match Yaml.load name s with
    | .ok v => .ok v
    | .error message => .error (.invalid message)

def loadConfig (path : Option String) : Shell Value := do
  let m ← get
  let loaded : Except Failure Value := do
    let doc ← match path with
      | none => pure Config.defaults
      | some p =>
        match m.documents.find? (·.1 == Disk.fileName p) with
        | some (_, d) => documentValue p d
        | none => throw (.system .other ("[Errno 21] Is a directory: " ++ Text.literal p))
    let doc := if doc.truthy then doc else .obj []
    let doc := m.overrides.apply doc
    Config.validate doc
    return doc
  match loaded with
  | .error f => throw (.failed ("Could not load configuration: " ++ f.message))
  | .ok doc =>
    match Config.checkLogging (doc.get "logging") with
    | .error f => throw (.crash f)
    | .ok () => return doc

def storePath (cfg : Value) : Except Failure String :=
  match (cfg.get "storage").get "path" with
  | .str p => .ok p
  | v => .error (.wrongKind ("expected str, bytes or os.PathLike object, not " ++ v.kindName))

def sitesOf (cfg : Value) : List (Value × Value) :=
  (Api.asList (cfg.get "sites")).foldl (fun acc s => setEntry acc (s.get "name") s) []

def unreachable : Hdfs.Send (StateM Machine) :=
  fun _ => pure (.error (.transport .connect "[Errno 111] Connection refused"))

def reachSite (site : Value) (caller : Option Value) : Work (Endpoint Work) := do
  match ← MonadExcept.ofExcept (Site.adapter site) with
  | .catalog path name =>
    let n ← disk (Catalog.Node.create path name.display)
    return Live.catalog disk n caller
  | .hdfs base _ _ => return Live.hdfs unreachable (Hdfs.Node.ofUrl base)

def connect (sites : List (Value × Value)) (caller : Option Value) (config : Replication) :
    Work (Endpoint Work × Endpoint Work) := do
  let find (name : Value) : Work Value :=
    match findEntry sites name with
    | some s => pure s
    | none => throw (.missingKey name.literal)
  let source ← reachSite (← find config.source) caller
  let destination ← reachSite (← find config.destination) caller
  return (source, destination)

def runnerCell : Cell Work Runner where
  read := do return (← get).runner
  write r := modify fun m => { m with runner := r }

def buildRunner (cfg : Value) : Shell String := do
  let path ← perform (MonadExcept.ofExcept (storePath cfg))
  perform (disk (Store.initItems path))
  perform (disk (Store.initHistory path))
  let replications ← perform (MonadExcept.ofExcept ((Api.asList (cfg.get "replications")).mapM
    Replication.ofValue))
  modify fun m => { m with runner := { replications } }
  return path

def runLine (name : Value) (st : RunStatus) (clock : Stamp) : String :=
  let duration := match Api.utcNow clock with
    | .ok t => (st.duration t).toOption.getD 0
    | .error _ => 0
  name.display ++ ": " ++ st.state.text ++ " (pushed " ++ toString st.pushCount ++ ", failed " ++
    toString st.pushFailCount ++ ", " ++ toString st.pushBytes ++ " bytes, " ++
    NumberText.fixed 1 duration ++ "s)"

def failedWith (f : Failure) : Stop := if f.isOrdinary then .failed f.message else .crash f

def emptyProgress : String := "\rReplicating: 0it [00:00, ?it/s]"

/-- `run`: runs the named replications, or all active ones, and prints a line for each. With
`progress`, a progress bar is drawn on the error stream; this models it for a run of no
replications, whose bar shows no timing. -/
def runReplications (config : Option String) (names : List String) (progress : Bool) :
    Shell Unit := do
  let cfg ← loadConfig config
  let path ← buildRunner cfg
  let caller := some (Value.str (← get).user)
  let ledger := Live.ledger disk path now
  let results ← attempt failedWith
    (runAll runnerCell now (connect (sitesOf cfg) caller) ledger (names.map .str))
  if progress && results.isEmpty then note (emptyProgress ++ emptyProgress ++ "\n")
  let clock := (← get).clock
  for (name, st) in results do
    echo (runLine name st clock)
  if results.any fun r => r.2.state == .connectionLost || r.2.state == .canceled then
    throw (.exit 1)

def planReplication (config : Option String) (name : String) : Shell Unit := do
  let cfg ← loadConfig config
  let path ← buildRunner cfg
  let ledger := Live.ledger disk path now
  let runner := (← get).runner
  let p ← attempt (fun f => match f with
      | .missingKey _ => .failed f.message
      | _ => .crash f) (plan ledger runner (.str name))
  let filter ← perform (MonadExcept.ofExcept (Predicate.render p.predicate))
  echo ("Replication: " ++ p.replication.display)
  echo ("Watermark: " ++ ((p.watermark.map (·.iso)).getD "none (full sync)"))
  echo ("Failed items to retry: " ++ toString p.failedIds.length)
  echo ("Filter: " ++ filter)

def reportHistory (config : Option String) (output : Option String) : Shell Unit := do
  let cfg ← loadConfig config
  let path ← perform (MonadExcept.ofExcept (storePath cfg))
  perform (disk (Store.initHistory path))
  let r ← perform (do Report.generate path (← now) |> disk)
  match output with
  | none | some "" => echo r.text
  | some file =>
    if !Disk.opens file then
      throw (.crash (.system .missing ("[Errno 2] No such file or directory: " ++ Text.literal file)))
    let text := if file.endsWith ".json" then Json.writeIndented .ascii (Api.reportValue r) else r.text
    writeDocument file (.text text)
    echo ("Report saved to " ++ file)

def serveApi (config : Option String) : Shell Unit := do
  let cfg ← loadConfig config
  let _ ← buildRunner cfg

def lastText (values : List (String × Given)) (key : String) : Option String :=
  (values.filterMap fun (k, g) => match g with
    | .value v => if k == key then some v else none
    | _ => none).getLast?

def carryOut (c : Command) (values : List (String × Given)) : Shell Unit :=
  let config := lastText values "config"
  match c.name with
  | "run" =>
    let names := values.filterMap fun (k, g) => match g with
      | .value v => if k == "name" then some v else none
      | _ => none
    let progress := (values.filterMap fun (k, g) => match g with
      | .switch on => if k == "progress" then some on else none
      | _ => none).getLast?.getD true
    runReplications config names progress
  | "plan" => planReplication config ((lastText values "name").getD "")
  | "report" => reportHistory config (lastText values "output")
  | _ => serveApi config

/-- How a command line ended: its status, what it printed and wrote as errors, and the
failure nothing handled, if one ended it. -/
structure Ending where
  code : Nat
  out : String
  err : String
  crash : Option Failure := none

def execute (args : List String) : StateM Machine Ending := do
  let m ← get
  match read m.has args with
  | .help page => return { code := 0, out := page ++ "\n", err := "" }
  | .bare page => return { code := 2, out := "", err := page ++ "\n" }
  | .mistake e => return { code := 2, out := "", err := e.text }
  | .command c values =>
    let out ← (carryOut c values).run
    let printed := (← get).out
    let written := (← get).errors
    return match out with
      | .ok () => { code := 0, out := printed, err := written }
      | .error (.failed msg) => { code := 1, out := printed, err := written ++ "Error: " ++ msg ++ "\n" }
      | .error (.exit code) => { code, out := printed, err := written }
      | .error (.crash f) => { code := 1, out := printed, err := written, crash := some f }

end CatalogSync.Cli
