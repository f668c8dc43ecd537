import CatalogSync.Api.Basics
import CatalogSync.Sim.World
import CatalogSync.Sync.Live

/-!
# Sites and stores as runs see them

A run reaches a site through an `Endpoint` that logs every call as
`[site, method, ids...]` and then looks for a fault on the site: the first one laid for
that method, not used up, and naming no record or one of the call's records. A fault used
once more may change the site's availability, and then

* `false` or `true` answers the call in the site's place;
* `raise` fails the call;
* `pass` lets the site answer;
* `cancel` asks the current run to stop, then lets the site answer;
* `step` runs a nested step, then lets the site answer.

An `iterate` fault spoils the listing of the next query: the listing breaks off before its
record number `after`, or, when it has no more records than that, at its end if the fault
says so or `after` is negative. A site marked unavailable says so without being asked.

The item store and the run history are reached through a `Ledger` that runs the first store
hook laid for a method before the method itself.
-/

namespace CatalogSync.Sim

open Sync Api

abbrev Nested := Value → Act Unit

def useFirst {α : Type} (p : α → Bool) (use : α → α) : List α → Option (α × List α)
  | [] => none
  | a :: rest =>
    if p a then some (a, use a :: rest)
    else (useFirst p use rest).map fun found => (found.1, a :: found.2)

def Fault.applies (f : Fault) (method : String) (ids : List Value) : Bool :=
  Value.same (f.spec.get "method") (.str method) && f.times != 0 &&
  match f.spec.get "id" with
  | .null => true
  | id => ids.any fun i => Value.same id i

def Fault.use (f : Fault) : Fault := if f.times > 0 then { f with times := f.times - 1 } else f

def takeFault (siteName : Value) (method : String) (ids : List Value) : Act (Option Value) := do
  let s ← site siteName
  match useFirst (·.applies method ids) Fault.use s.faults with
  | none => return none
  | some (f, faults) =>
    let available := match f.spec.get "set_available" with
      | .null => s.available
      | v => v.truthy
    modifySite siteName fun s => { s with faults, available }
    return some f.spec

def perform {α : Type} (nested : Nested) (spec : Value) (real : Act α) (answer : Bool → Act α) :
    Act α :=
  match spec.get "action" with
  | .str "false" => answer false
  | .str "true" => answer true
  | .str "raise" => throw (injectedFailure 100 (spec.get "error"))
  | .str "cancel" => do cancelCurrent; real
  | .str "step" => do nested (spec.get "step"); real
  | _ => real

def call {α : Type} (nested : Nested) (siteName : Value) (method : String) (ids : List Value)
    (real : Act α) (answer : Bool → Act α) : Act α := do
  log (.list ([siteName, .str method] ++ ids))
  match ← takeFault siteName method ids with
  | none => real
  | some spec => perform nested spec real answer

def spoil (spec : Value) (l : Listing) : Listing :=
  let e := injectedFailure 100 (spec.get "error")
  let k : Int := match spec.get "after" with
    | .int k => k
    | _ => 0
  if 0 ≤ k && k < l.records.length then
    { l with records := l.records.take k.toNat, failure := some e }
  else if l.failure.isSome then l
  else if k < 0 || (spec.get "at_end").truthy then { l with failure := some e }
  else l

def namenodeSend (siteName : Value) : Hdfs.Send (StateM World) := fun req => do
  let w ← get
  match w.sites.find? fun s => Value.same s.name siteName with
  | some { kind := .hdfs _ n, .. } => return n.serve req
  | _ => return .error (.transport .connect "no namenode")

def own (s : Site) (caller : Option Value) : Endpoint Act :=
  match s.kind with
  | .catalog n => Live.catalog disk n caller
  | .hdfs n _ => Live.hdfs (namenodeSend s.name) n

def endpoint (nested : Nested) (siteName : Value) (caller : Option Value) : Endpoint Act where
  isAvailable := do
    log (.list [siteName, .str "is_available"])
    let s ← site siteName
    if !s.available then return false
    (own s caller).isAvailable
  query p after := do
    let l ← call nested siteName "query" [] (do (own (← site siteName) caller).query p after)
      fun _ => throw (.missingAttribute "'bool' object has no attribute 'records'")
    match ← takeFault siteName "iterate" [] with
    | none => return l
    | some spec => return spoil spec l
  holds r := call nested siteName "exists" [r.id]
    (do (own (← site siteName) caller).holds r) pure
  createMetadata r := call nested siteName "create_metadata" [r.id]
    (do (own (← site siteName) caller).createMetadata r) pure
  updateMetadata r := call nested siteName "update_metadata" [r.id]
    (do (own (← site siteName) caller).updateMetadata r) pure
  deleteMetadata r := call nested siteName "delete_metadata" [r.id]
    (do (own (← site siteName) caller).deleteMetadata r) pure
  createResource res := call nested siteName "create_resource" [res.record.id]
    (do (own (← site siteName) caller).createResource res) pure
  updateResource res := call nested siteName "update_resource" [res.record.id]
    (do (own (← site siteName) caller).updateResource res) pure
  readResource r := call nested siteName "read_resource" [r.id]
    (do (own (← site siteName) caller).readResource r)
      fun _ => throw (.missingAttribute "'bool' object has no attribute 'resource'")

def connect (nested : Nested) (caller : Option Value) (config : Replication) :
    Act (Endpoint Act × Endpoint Act) := do
  let _ ← site config.source
  let _ ← site config.destination
  return (endpoint nested config.source caller, endpoint nested config.destination caller)

def takeHook (method : String) : Act (Option Value) := do
  let w ← get
  let use (h : Hook) : Hook := if h.times > 0 then { h with times := h.times - 1 } else h
  match useFirst (fun h => h.method == method && h.times != 0) use w.hooks with
  | none => return none
  | some (h, hooks) =>
    set { w with hooks }
    return some h.step

def hooked {α : Type} (nested : Nested) (method : String) (act : Act α) : Act α := do
  if let some step ← takeHook method then nested step
  act

def ledger (nested : Nested) : Ledger Act :=
  let own := Live.ledger disk storeFile now
  { getItem := fun c i s d => hooked nested "get_item" (own.getItem c i s d)
    failureList := fun c k s d => hooked nested "get_failure_list" (own.failureList c k s d)
    saveItem := fun i => hooked nested "save_item" (own.saveItem i)
    outcomes := fun name => hooked nested "get_run_outcomes" (own.outcomes name)
    addOutcome := fun o => hooked nested "add_run_outcome" (own.addOutcome o) }

end CatalogSync.Sim
