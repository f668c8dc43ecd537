import CatalogSync.Catalog.Node
import CatalogSync.Hdfs.Node
import CatalogSync.Sim.Namenode
import CatalogSync.Sync.Runner

/-!
# A simulated world of sites

The world in which replications are exercised: catalog sites on database files, WebHDFS
sites served by simulated namenodes, the item store and run history in one database file,
a runner over the replications, and a clock that moves only when it is told to.

Every call a run makes on a site is written to a call log. A site can be marked
unavailable, and faults can be laid on it: a fault replaces, precedes or spoils the site's
answer to a kind of call, a given number of times. Store hooks run a step before a kind of
store call. Both are kept here as their specifications; `Sim.Sites` applies them.
-/

namespace CatalogSync.Sim

open Sync

/-- A fault laid on a site, and how many more times it applies; a negative count never runs
out. -/
structure Fault where
  spec : Value
  times : Int

/-- What a site is. -/
inductive Kind where
  | catalog (node : Catalog.Node)
  | hdfs (node : Hdfs.Node) (namenode : Namenode)

/-- A site of the world. -/
structure Site where
  name : Value
  kind : Kind
  available : Bool := true
  faults : List Fault := []

/-- A step to run before a kind of store call, and how many more times. -/
structure Hook where
  method : String
  step : Value
  times : Int

/-- The run in progress that a request to cancel "the current run" reaches. -/
inductive Current where
  | idle
  /-- A run of one replication through the runner. -/
  | run (name : Value)
  /-- A run of several replications through the runner. -/
  | all
  /-- A run of a standing engine. -/
  | engine (name : Value)

/-- An engine kept across runs of one replication, with its cancellation request. -/
structure Standing where
  config : Replication
  slot : Slot

/-- The world. -/
structure World where
  clock : Stamp
  files : Disk.Files := {}
  sites : List Site := []
  /-- The call log since it was last read, oldest first. -/
  calls : List Value := []
  hooks : List Hook := []
  runner : Runner
  engines : List (Value × Standing) := []
  current : Current := .idle

abbrev Act := ExceptT Failure (StateM World)

def storeFile : String := "store.db"

def siteFile (i : Nat) : String := "site" ++ toString i ++ ".db"

def disk {α : Type} (act : Disk.DiskM α) : Act α := do
  let w ← get
  let (out, files) := (act.run w.files).run
  set { w with files }
  ofExcept out

def now : Act Stamp := do
  let w ← get
  ofExcept (Api.utcNow w.clock)

def log (entry : Value) : Act Unit := modify fun w => { w with calls := w.calls ++ [entry] }

def site (name : Value) : Act Site := do
  match (← get).sites.find? fun s => Value.same s.name name with
  | some s => pure s
  | none => throw (.missingKey name.literal)

def modifySite (name : Value) (f : Site → Site) : Act Unit := do
  let _ ← site name
  modify fun w => { w with sites := w.sites.map fun s => if Value.same s.name name then f s else s }

def runnerCell : Cell Act Runner where
  read := do return (← get).runner
  write r := modify fun w => { w with runner := r }

def within {α : Type} (c : Current) (act : Act α) : Act α := do
  let before := (← get).current
  modify fun w => { w with current := c }
  let out ← tryCatch (do return Except.ok (← act)) fun e => pure (Except.error e)
  modify fun w => { w with current := before }
  ofExcept out

def cancelCurrent : Act Unit := do
  let w ← get
  match w.current with
  | .idle => pure ()
  | .run name => set { w with runner := (w.runner.cancel name).1 }
  | .all => set { w with runner := w.runner.cancelAll }
  | .engine name =>
    set { w with engines := w.engines.map fun (entry : Value × Standing) =>
      if Value.same entry.1 name then
        (entry.1, { entry.2 with slot := { entry.2.slot with canceled := true } })
      else entry }

end CatalogSync.Sim
