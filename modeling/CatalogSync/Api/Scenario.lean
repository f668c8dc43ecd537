import CatalogSync.Api.Catalog
import CatalogSync.Api.Hdfs
import CatalogSync.Api.Report
import CatalogSync.Sim.Sites
import CatalogSync.Web.Routes

/-!
# Scenarios

A `scenario` request sets up a world of sites, an item store and run history, and a runner
over replications, then takes its steps in turn. Each step answers `{"result": ...}` or a
failure. A step that runs replications (`run`, `run_all`, `engine_sync`) answers a failed
run as a result that tells what was raised, and is followed, unless the request asks for no
state, by a snapshot of the items, the history and the catalogs.

Faults and store hooks may run nested steps; their answers go to the call log as
`["nested", op, answer]`. Nesting is bounded by fuel.
-/

namespace CatalogSync.Api

open Sim Sync Disk

def textOf : Value → String
  | .str s => s
  | v => v.display

def statusNow (s : RunStatus) : Act Value := do
  let w ← get
  ofExcept (statusValue s (utcNow w.clock))

def optStatusNow : Option RunStatus → Act Value
  | some s => statusNow s
  | none => pure .null

def attempt {α : Type} (act : Act α) : Act (Except Failure α) :=
  tryCatch (do return Except.ok (← act)) fun e => pure (Except.error e)

def stepAnswer (act : Act Value) : Act Value := do
  match ← attempt act with
  | .ok v => return obj [("result", v)]
  | .error e => return e.answer

def nestedBy (step : Value → Act Value) : Nested := fun s => do
  let answer ← stepAnswer (step s)
  log (.list [.str "nested", s.get "op", answer])

def catalogOf (siteName : Value) : Act Catalog.Node := do
  match (← site siteName).kind with
  | .catalog n => pure n
  | .hdfs .. => throw (.missingAttribute "'WebHDFSAdapter' object has no attribute 'db_path'")

def modifyNamenode (siteName : Value) (f : Namenode → Namenode) : Act Unit := do
  let s ← site siteName
  match s.kind with
  | .hdfs node n => modifySite siteName fun s => { s with kind := .hdfs node (f n) }
  | .catalog _ => throw (.missingAttribute "'SQLiteCatalogAdapter' object has no attribute 'namenode'")

def adjustNamenode (step : Value) (n : Namenode) : Namenode :=
  let n := match step.lookup "list_status" with
    | some v => { n with listStatus := v }
    | none => n
  let n := match step.lookup "list_body" with
    | some .null => { n with listBody := none }
    | some v => { n with listBody := some v }
    | none => n
  let n := match step.lookup "reachable" with
    | some v => { n with reachable := v.truthy }
    | none => n
  let n := match step.lookup "access_status" with
    | some v => { n with accessStatus := v }
    | none => n
  match step.lookup "page_size" with
  | some v => { n with pageSize := v }
  | none => n

def storeRows (sql : String) : Act Value := do
  match ← attempt (disk (session storeFile (exec sql []))) with
  | .ok rows => return .list (rows.map fun r => .list (r.map Sql.storedValue))
  | .error e => return e.answer

def snapshot : Act Value := do
  let items ← storeRows
    ("SELECT config_id, metadata_id, source, destination, metadata_modified, " ++
     "resource_modified, failure_count, updated_at FROM replication_items " ++
     "ORDER BY config_id, metadata_id, source, destination")
  let history ← storeRows
    ("SELECT config_id, config_name, start_time, end_time, status, push_count, " ++
     "push_fail_count, push_bytes FROM run_history ORDER BY id")
  let mut catalogs : List (String × Value) := []
  for s in (← get).sites do
    if let .catalog n := s.kind then
      let dump ← match ← attempt (disk (dumpRecords n.path)) with
        | .ok rows => pure (obj [("ok", rows)])
        | .error e => pure e.answer
      catalogs := Value.setField catalogs (textOf s.name) dump
  return obj [("items", items), ("history", history), ("catalogs", obj catalogs)]

def standingControl (name : Value) : Control Act where
  now := now
  isCanceled := do return ((findEntry (← get).engines name).map (·.slot.canceled)).getD false
  clearCanceled := modify fun w =>
    { w with engines := w.engines.map fun (e : Value × Standing) =>
        if Value.same e.1 name then (e.1, { e.2 with slot := { e.2.slot with canceled := false } })
        else e }
  status := do
    return ((findEntry (← get).engines name).map (·.slot.status)).getD (RunStatus.fresh name)
  setStatus st := modify fun w =>
    { w with engines := w.engines.map fun (e : Value × Standing) =>
        if Value.same e.1 name then (e.1, { e.2 with slot := { e.2.slot with status := st } })
        else e }

def standing (name : Value) : Act Standing := do
  let w ← get
  match findEntry w.engines name with
  | some e => return e
  | none =>
    let config ← ofExcept (w.runner.find name)
    let _ ← site config.source
    let _ ← site config.destination
    let e : Standing := { config, slot := { status := RunStatus.fresh config.name } }
    modify fun w => { w with engines := setEntry w.engines name e }
    return e

def runStep (nested : Nested) (step : Value) : Act Value := do
  let name := step.get "name"
  let caller ← ofExcept (decodeCaller (step.get "context"))
  let out ← attempt (within (.run name) do
    let config ← ofExcept ((← get).runner.find name)
    Sync.run runnerCell now (connect nested caller) (ledger nested) config)
  match out with
  | .ok st => return obj [("status", ← statusNow st)]
  | .error e =>
    return obj [("raised", e.answer), ("status", ← optStatusNow ((← get).runner.status name))]

def runAllStep (nested : Nested) (step : Value) : Act Value := do
  let caller ← ofExcept (decodeCaller (step.get "context"))
  let out ← attempt (within .all
    (Sync.runAll runnerCell now (connect nested caller) (ledger nested) (asList (step.get "names"))))
  match out with
  | .ok results =>
    return obj [("results", .list (← results.mapM fun (n, st) => do
      return .list [n, ← statusNow st]))]
  | .error e => return obj [("raised", e.answer)]

def engineSyncStep (nested : Nested) (step : Value) : Act Value := do
  let name := step.get "name"
  let caller ← ofExcept (decodeCaller (step.get "context"))
  let e ← standing name
  let engine : Engine Act :=
    { source := endpoint nested e.config.source caller,
      destination := endpoint nested e.config.destination caller,
      ledger := ledger nested, control := standingControl name }
  match ← attempt (within (.engine name) (Sync.sync engine e.config)) with
  | .ok st => return obj [("status", ← statusNow st)]
  | .error f =>
    let e ← standing name
    return obj [("raised", f.answer), ("status", ← statusNow e.slot.status),
                ("canceled_flag", .bool e.slot.canceled)]

def planStep (nested : Nested) (step : Value) : Act Value := do
  let p ← Sync.plan (ledger nested) (← get).runner (step.get "name")
  return obj [("replication", p.replication), ("watermark", optStamp p.watermark),
    ("failed_ids", strs p.failedIds), ("filter", .str (← ofExcept (Predicate.render p.predicate)))]

def httpStep (nested : Nested) (step : Value) : Act Value := do
  let method := match step.get "method" with
    | .null => "GET"
    | v => textOf v
  let w ← get
  let body := match step.lookup "json", step.get "data" with
    | some v, _ => some v
    | none, .str text => (Json.read text).toOption
    | none, _ => none
  let req : Web.Request := { method, path := textOf (step.get "path"), json := body }
  let (runner, reply, job) := Web.handle w.runner (utcNow w.clock) req
  set { w with runner }
  if let some job := job then
    let _ ← attempt do
      let config ← ofExcept ((← get).runner.find job.name)
      Sync.run runnerCell now (connect nested (some job.subject)) (ledger nested) config
  return obj [("status_code", .int reply.status), ("json", reply.body.getD .null)]

def faultOf (spec : Value) : Except Failure Fault := do
  return { spec, times := ← asInt (spec.get "times") 1 }

def scenarioStep : Nat → Value → Act Value
  | 0, _ => throw .tooDeep
  | fuel + 1, step => do
    let nested := nestedBy (scenarioStep fuel)
    let l := ledger nested
    let name := step.get "name"
    match step.get "op" with
    | .str "time" => do
      let at_ ← ofExcept (asStamp (step.get "at"))
      modify fun w => { w with clock := at_ }
      return .null
    | .str "run" => runStep nested step
    | .str "run_all" => runAllStep nested step
    | .str "engine_sync" => engineSyncStep nested step
    | .str "engine_cancel" => do
      let _ ← standing name
      modify fun w =>
        { w with engines := w.engines.map fun (e : Value × Standing) =>
            if Value.same e.1 name then
              (e.1, { e.2 with slot := { e.2.slot with canceled := true } })
            else e }
      return .bool true
    | .str "cancel" => do
      let w ← get
      let (runner, canceled) := w.runner.cancel name
      set { w with runner }
      return .bool canceled
    | .str "status" => do
      let w ← get
      return obj [("status", ← optStatusNow (w.runner.status name)),
                  ("running", .bool (w.runner.isRunning name))]
    | .str "plan" => planStep nested step
    | .str "watermark" => return optStamp (← watermark l name)
    | .str "failure_list" => do
      let limit ← ofExcept (asInt (step.get "max_failures") 5)
      let ids ← l.failureList (textOf (step.get "config_id")) limit
        (textOf (step.get "source")) (textOf (step.get "destination"))
      return strs ids
    | .str "get_item" => do
      let i ← l.getItem (textOf (step.get "config_id")) (textOf (step.get "metadata_id"))
        (textOf (step.get "source")) (textOf (step.get "destination"))
      return match i with
        | some i => itemValue i
        | none => .null
    | .str "save_item" => do
      l.saveItem (← ofExcept (decodeItem (step.get "item")))
      return .null
    | .str "add_outcome" => do
      l.addOutcome (← ofExcept (decodeOutcome (step.get "outcome")))
      return .null
    | .str "outcomes" => do
      let os ← l.outcomes name
      return .list (← ofExcept (os.mapM outcomeValue))
    | .str "report" => do
      let t ← now
      return reportAnswerOf (← disk (Report.generate storeFile t))
    | .str "state" => snapshot
    | .str "calls" => do
      let w ← get
      set { w with calls := [] }
      return .list w.calls
    | .str "catalog" => do
      let n ← catalogOf (step.get "site")
      let clock := (← get).clock
      disk (catalogStep n clock (step.get "step"))
    | .str "hdfs_put" => do
      modifyNamenode (step.get "site") (·.put (step.get "file"))
      return .null
    | .str "hdfs_remove" => do
      modifyNamenode (step.get "site") (·.remove (textOf name))
      return .null
    | .str "hdfs_set" => do
      modifyNamenode (step.get "site") (adjustNamenode step)
      return .null
    | .str "set_available" => do
      modifySite (step.get "site") fun s => { s with available := (step.get "available").truthy }
      return .null
    | .str "fault" => do
      let f ← ofExcept (faultOf (step.get "fault"))
      modifySite (step.get "site") fun s => { s with faults := s.faults ++ [f] }
      return .null
    | .str "clear_faults" => do
      modifySite (step.get "site") fun s => { s with faults := [] }
      return .null
    | .str "store_hook" => do
      let h := step.get "hook"
      let times ← ofExcept (asInt (h.get "times") 1)
      modify fun w => { w with hooks := w.hooks ++ [{ method := textOf (h.get "method"),
                                                       step := h.get "step", times }] }
      return .null
    | .str "store_sql" => do
      disk (script storeFile ((asList (step.get "sql")).map textOf))
      return .null
    | .str "cleanup" => do
      disk (Store.cleanup storeFile)
      return .bool ((← get).files.exists? storeFile)
    | .str "http" => httpStep nested step
    | _ => throw (.invalid "unknown scenario step")

def nestingFuel : Nat := 40

def runsReplications (step : Value) : Bool :=
  match step.get "op" with
  | .str "run" | .str "run_all" | .str "engine_sync" => true
  | _ => false

def scenarioSteps (withState : Bool) (steps : List Value) : Act (List Value) :=
  steps.mapM fun step => do
    let answer ← stepAnswer (scenarioStep nestingFuel step)
    if withState && runsReplications step then
      match answer with
      | .obj fs => return .obj (fs ++ [("state", ← snapshot)])
      | v => return v
    else return answer

def setupSite (i : Nat) (s : Value) : Act Site := do
  let name := s.get "name"
  let faults ← ofExcept ((asList (s.get "faults")).mapM faultOf)
  let available := (s.getD "available" (.bool true)).truthy
  match s.getD "type" (.str "sqlite") with
  | .str "webhdfs" =>
    let url := match s.get "url" with
      | .str u => u
      | _ => defaultDirectory
    let namenode := (asList (s.get "files")).foldl Namenode.put
      { pageSize := s.getD "page_size" (.int 1000) }
    return { name, kind := .hdfs (Hdfs.Node.ofUrl url) namenode, available, faults }
  | _ =>
    let n ← disk (Catalog.Node.create (siteFile i) (textOf name))
    return { name, kind := .catalog n, available, faults }

def scenarioRun (req : Value) : Act (List Value) := do
  let sites ← (asList (req.get "sites")).zipIdx.mapM fun (s, i) => setupSite i s
  modify fun w => { w with sites }
  disk (Store.initItems storeFile)
  disk (Store.initHistory storeFile)
  let replications ← ofExcept ((asList (req.get "replications")).mapM Replication.ofValue)
  modify fun w => { w with runner := { replications } }
  scenarioSteps (!(req.get "no_state").truthy) (asList (req.get "ops"))

def scenarioAnswer (req : Value) : Value :=
  valueOr do
    let clock ← startClock req
    let (out, _) := (scenarioRun req).run { clock, runner := { replications := [] } } |>.run
    let answers ← out
    return obj [("steps", .list answers)]

end CatalogSync.Api
