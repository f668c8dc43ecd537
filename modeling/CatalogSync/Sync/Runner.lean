import CatalogSync.Sync.Engine

/-!
# Running replications

A `Runner` holds the replications of a configuration and what it knows of their runs: the
run in progress of each replication, at most one, with its cancellation request, and the
final status of each one's last run.

* `run` refuses a replication that is already running; otherwise the run is registered,
  carried out by the engine, and its final status kept as the replication's last, whether
  it ended or failed.
* `runAll` runs the named replications in turn, or every replication that is not
  suspended when no names are given; all names are looked up before the first run.
* `cancel` asks a running replication to stop; it answers whether one was running.
* `plan` tells what the next run would ask its source for.

Replications are known by name; a name that none has is a missing key.
-/

namespace CatalogSync.Sync

/-- A run in progress: its status and whether it was asked to stop. -/
structure Slot where
  status : RunStatus
  canceled : Bool := false

/-- The replications of a configuration and the state of their runs. -/
structure Runner where
  replications : List Replication
  /-- The runs in progress, by replication name. -/
  active : List (Value × Slot) := []
  /-- The status of each replication's last run, by name. -/
  lastStatus : List (Value × RunStatus) := []

def findEntry {α : Type} (entries : List (Value × α)) (key : Value) : Option α :=
  (entries.find? fun e => Value.same e.1 key).map (·.2)

def setEntry {α : Type} (entries : List (Value × α)) (key : Value) (a : α) : List (Value × α) :=
  if entries.any (fun e => Value.same e.1 key) then
    entries.map fun e => if Value.same e.1 key then (e.1, a) else e
  else entries ++ [(key, a)]

def dropEntry {α : Type} (entries : List (Value × α)) (key : Value) : List (Value × α) :=
  entries.filter fun e => !Value.same e.1 key

def unknownReplication (name : Value) : Failure :=
  .missingKey (Text.literal ("Unknown replication: " ++ name.display))

def alreadyRunning (name : Value) : Failure :=
  .busy ("Replication " ++ name.display ++ " is already running")

namespace Runner

def find (r : Runner) (name : Value) : Except Failure Replication :=
  match r.replications.find? fun c => Value.same c.name name with
  | some c => .ok c
  | none => .error (unknownReplication name)

def isRunning (r : Runner) (name : Value) : Bool := (findEntry r.active name).isSome

def status (r : Runner) (name : Value) : Option RunStatus :=
  match findEntry r.active name with
  | some s => some s.status
  | none => findEntry r.lastStatus name

/-- Asks the run in progress of a replication to stop; whether there was one. -/
def cancel (r : Runner) (name : Value) : Runner × Bool :=
  match findEntry r.active name with
  | some s => ({ r with active := setEntry r.active name { s with canceled := true } }, true)
  | none => (r, false)

def cancelAll (r : Runner) : Runner :=
  r.replications.foldl (fun r c => (r.cancel c.name).1) r

def register (r : Runner) (name : Value) : Runner :=
  let fresh := RunStatus.fresh name
  { r with active := setEntry r.active name { status := fresh },
           lastStatus := setEntry r.lastStatus name fresh }

def release (r : Runner) (name : Value) : Runner :=
  match findEntry r.active name with
  | some s => { r with active := dropEntry r.active name,
                       lastStatus := setEntry r.lastStatus name s.status }
  | none => r

def modifySlot (r : Runner) (name : Value) (f : Slot → Slot) : Runner :=
  match findEntry r.active name with
  | some s => { r with active := setEntry r.active name (f s) }
  | none => r

def selected (r : Runner) (names : List Value) : Except Failure (List Replication) :=
  if names.isEmpty then .ok (r.replications.filter (!·.suspended))
  else names.mapM r.find

end Runner

/-- A part of the state of a monad: how to read it and how to replace it. -/
structure Cell (m : Type → Type) (σ : Type) where
  read : m σ
  write : σ → m Unit

/-- What the next run of a replication would ask its source for. -/
structure Plan where
  replication : Value
  watermark : Option Stamp
  failedIds : List String
  predicate : Option Predicate

section Runs

variable {m : Type → Type} [Monad m] [MonadExceptOf Failure m]

def Cell.modify {σ : Type} (c : Cell m σ) (f : σ → σ) : m Unit := do c.write (f (← c.read))

def slotControl (cell : Cell m Runner) (now : m Stamp) (name : Value) : Control m where
  now := now
  isCanceled := do return ((findEntry (← cell.read).active name).map (·.canceled)).getD false
  clearCanceled := cell.modify (·.modifySlot name fun s => { s with canceled := false })
  status := do return ((← cell.read).status name).getD (RunStatus.fresh name)
  setStatus st := cell.modify (·.modifySlot name fun s => { s with status := st })

/-- Runs a replication once between the sites `connect` gives for it; the run's final
status. -/
def run (cell : Cell m Runner) (now : m Stamp) (connect : Replication → m (Endpoint m × Endpoint m))
    (ledger : Ledger m) (config : Replication) : m RunStatus := do
  let (source, destination) ← connect config
  let runner ← cell.read
  if runner.isRunning config.name then throwThe Failure (alreadyRunning config.name)
  cell.write (runner.register config.name)
  let engine : Engine m :=
    { source, destination, ledger, control := slotControl cell now config.name }
  let out ← tryCatchThe Failure (do return Except.ok (← sync engine config))
    fun f => pure (Except.error f)
  cell.modify (·.release config.name)
  ofExcept out

/-- Runs the named replications, or all that are not suspended, in turn; the final status
of each, by name, in the order the names first ran. -/
def runAll (cell : Cell m Runner) (now : m Stamp)
    (connect : Replication → m (Endpoint m × Endpoint m)) (ledger : Ledger m)
    (names : List Value) : m (List (Value × RunStatus)) := do
  let selected ← ofExcept ((← cell.read).selected names)
  selected.foldlM (fun results config => do
    return setEntry results config.name (← run cell now connect ledger config)) []

/-- What the next run of a replication would ask its source for. -/
def plan (ledger : Ledger m) (runner : Runner) (name : Value) : m Plan := do
  let r ← ofExcept (runner.find name)
  let failed ← ledger.failureList r.id r.retryLimit r.source.display r.destination.display
  let mark ← watermark ledger r.name
  let predicate ← ofExcept (do Predicate.compose (← r.baseCondition) mark failed)
  return { replication := r.name, watermark := mark, failedIds := failed, predicate }

end Runs

end CatalogSync.Sync
