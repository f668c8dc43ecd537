import CatalogSync.Api.Codec
import CatalogSync.Filter.Builder
import CatalogSync.Catalog.Where
import CatalogSync.Run.Status
import CatalogSync.Run.Item
import CatalogSync.Run.Replication
import CatalogSync.Node.Wrap
import CatalogSync.Text.Base64

/-!
# Requests on predicates, runs, items and settings

* `filter` builds a predicate, by the builder's collapsing forms or verbatim, and answers with
  its raw form, its text, its SQL condition and the ids it restricts to.
* `status` drives one run status through a list of steps under a clock.
* `item` applies successes and failures to an item.
* `classify` decides the operation of a push.
* `replicationConfig` reads replication settings.
* `wrapFailure` shows how a failure of a remote call is reported as a node failure.
-/

namespace CatalogSync.Api

def injectedFailure : Nat → Value → Failure
  | 0, _ => .tooDeep
  | fuel + 1, e =>
    let message := match e.get "message" with | .str s => s | .null => "" | v => v.display
    let cause := match e.get "cause" with
      | .null => none
      | c => some (injectedFailure fuel c)
    match e.get "kind" with
    | .str "AdapterError" => .node .operation message cause
    | .str "AdapterConnectionError" => .node .link message cause
    | .str "AdapterInterruptedError" => .node .interrupted message cause
    | .str "InterruptedError" => .system .interrupted message
    | .str "ConnectionError" => .system (.connection .plain) message
    | .str "ConnectionRefusedError" => .system (.connection .refused) message
    | .str "ConnectionResetError" => .system (.connection .reset) message
    | .str "ConnectionAbortedError" => .system (.connection .aborted) message
    | .str "BrokenPipeError" => .system (.connection .brokenPipe) message
    | .str "TimeoutError" => .system .timeout message
    | .str "OSError" => .system .other message
    | .str "KeyboardInterrupt" => .system (.stop false) message
    | .str "SystemExit" => .system (.stop true) message
    | .str "KeyError" => .missingKey (Text.literal message)
    | .str "TypeError" => .wrongKind message
    | .str "RuntimeError" => .busy message
    | .str "OverflowError" => .overflow message
    | .str "OperationalError" => .database .operational message
    | .str "IntegrityError" => .database .integrity message
    | _ => .invalid message

def sameFailure : Failure → Failure → Bool
  | .node k m _, .node k' m' _ => k == k' && m == m'
  | _, _ => false

/-- `wrap_exception`: the node failure reporting an injected failure. -/
def wrapFailure (req : Value) : Value :=
  let message := match req.get "message" with | .str s => s | _ => ""
  let e := injectedFailure 64 (req.get "raise")
  match e.asNodeFailure message with
  | .error raised => obj [("raised", .str raised.kindName), ("same", .bool true)]
  | .ok w =>
    let same := match e with | .node .interrupted _ _ => true | _ => false
    let causeIsOriginal := match e, w with
      | .node .., _ => false
      | _, .node _ _ (some _) => true
      | _, _ => false
    obj [("kind", .str w.kindName), ("message", .str w.message), ("cause", w.causeName),
         ("cause_is_original", .bool causeIsOriginal), ("same", .bool (same && sameFailure e w))]

def baseText : Value → Except Failure (Option String)
  | .null => .ok none
  | .str s => .ok (some s)
  | v => .error (v.lacks "strip")

def decodePredicate : Nat → Value → Except Failure (Option Predicate)
  | 0, _ => .error .tooDeep
  | _, .null => .ok none
  | fuel + 1, .obj [(key, v)] => do
    let parts (xs : Value) : Except Failure (List (Option Predicate)) :=
      (asList xs).mapM (decodePredicate fuel)
    match key with
    | "native" => return Predicate.nativeOf? (← baseText v)
    | "modified_after" => return some (.modifiedAfter (← asStamp v))
    | "id_in" => return some (← Predicate.idsOf (← asStrs v))
    | "all_of" => return Predicate.allOfParts (← parts v)
    | "any_of" => return Predicate.anyOfParts (← parts v)
    | "failed_items" => Predicate.failedItems (← baseText (v.get "base")) (← asStrs (v.get "failed_ids"))
    | "change_set" =>
      return Predicate.changeSet (← baseText (v.get "base")) (← asOptStamp (v.get "watermark"))
    | "compose" =>
      Predicate.compose (← baseText (v.get "base")) (← asOptStamp (v.get "watermark"))
        (← asStrs (v.get "failed_ids"))
    | "NativeFilter" => return some (.native (← asStr v))
    | "ModifiedAfter" => return some (.modifiedAfter (← asStamp v))
    | "IdIn" => return some (← Predicate.idsOf (← asStrs v))
    | "AllOf" => return some (.allOf (← parts v))
    | "AnyOf" => return some (.anyOf (← parts v))
    | "Filter" => return some .unknown
    | _ => throw (.invalid ("unknown filter form " ++ key))
  | _, _ => .error (.invalid "a filter form has one key")

mutual
def predicateValue : Option Predicate → Value
  | none => .null
  | some (.native e) => obj [("NativeFilter", .str e)]
  | some (.modifiedAfter t) => obj [("ModifiedAfter", stamp t)]
  | some (.idIn ids) => obj [("IdIn", strs ids)]
  | some (.allOf ps) => obj [("AllOf", .list (partValues ps))]
  | some (.anyOf ps) => obj [("AnyOf", .list (partValues ps))]
  | some .unknown => obj [("Filter", .null)]

def partValues : List (Option Predicate) → List Value
  | [] => []
  | p :: ps => predicateValue p :: partValues ps
end

def filterAnswer (req : Value) : Value :=
  match decodePredicate 100000 (req.get "filter") with
  | .error f => f.answer
  | .ok p =>
    obj [("filter", predicateValue p),
         ("render", okOr ((Predicate.render p).map .str)),
         ("sql", okOr ((Predicate.toSql p).map fun (w, ps) =>
            obj [("where", .str w), ("params", strs ps)])),
         ("requested_ids", okOr ((Predicate.restrictedIds p).map fun
            | some ids => strs ids
            | none => .null))]

def tallyValue : Tally → Value
  | .whole n => .int n
  | .real x => .float x
  | .text t => .str t
  | .bytes b => .str (Base64.encode b)

def asTally (v : Value) : Except Failure Tally :=
  match v with
  | .null => .ok (.whole 0)
  | .int n => .ok (.whole n)
  | .bool b => .ok (.whole (if b then 1 else 0))
  | .float x => .ok (.real x)
  | .str s => .ok (.text s)
  | _ => .error (.wrongKind "an integer is required")

def itemValue (i : Item) : Value :=
  obj [("config_id", .str i.configId), ("metadata_id", .str i.metadataId),
       ("source", .str i.source), ("destination", .str i.destination),
       ("metadata_modified", optStamp i.metadataModified),
       ("resource_modified", optStamp i.resourceModified),
       ("failure_count", tallyValue i.failureCount), ("updated_at", optStamp i.updatedAt)]

def asInt (v : Value) (default : Int) : Except Failure Int :=
  match v with
  | .null => .ok default
  | .int n => .ok n
  | .bool b => .ok (if b then 1 else 0)
  | _ => .error (.wrongKind "an integer is required")

def decodeItem (v : Value) : Except Failure Item := do
  return { configId := ← asStr (v.get "config_id"), metadataId := ← asStr (v.get "metadata_id"),
           source := ← asStr (v.get "source"), destination := ← asStr (v.get "destination"),
           metadataModified := ← asOptStamp (v.get "metadata_modified"),
           resourceModified := ← asOptStamp (v.get "resource_modified"),
           failureCount := ← asTally (v.get "failure_count"),
           updatedAt := ← asOptStamp (v.get "updated_at") }

def itemStep (i : Item) (step : Value) : Except Failure Item :=
  match step.lookup "succeeded", step.lookup "failed" with
  | some s, _ => do
    return i.succeeded (← asOptStamp (s.get "metadata_modified")) (← asOptStamp (s.get "resource_modified"))
  | _, some f => i.failed (f.get "restart_count").truthy
  | _, _ => .error (.invalid "unknown item step")

def itemAnswer (req : Value) : Value :=
  valueOr do
    let i ← decodeItem (req.get "item")
    let (_, steps) ← (asList (req.get "ops")).foldlM (fun (acc : Item × List Value) step => do
      let i' ← itemStep acc.1 step
      return (i', acc.2 ++ [itemValue i'])) (i, [])
    return obj [("steps", .list steps)]

def classifyAnswer (req : Value) : Value :=
  let op := Operation.classify (req.get "item_exists").truthy (req.get "deleted").truthy
  obj [("operation", .str op.text)]

def statusValue (s : RunStatus) (now : Except Failure Stamp) : Except Failure Value := do
  let duration ← match s.startTime, s.endTime with
    | none, _ => pure (Binary64.ofInt 0)
    | some _, some _ => s.duration default
    | some _, none => s.duration (← now)
  return obj [("replication", s.replication), ("status", .str s.state.text),
       ("push_count", .int s.pushCount), ("push_fail_count", .int s.pushFailCount),
       ("push_bytes", .int s.pushBytes), ("start_time", optStamp s.startTime),
       ("end_time", optStamp s.endTime), ("duration", .float duration),
       ("error", optStr s.error)]

def outcomeValue (o : RunOutcome) : Except Failure Value := do
  return obj [("config_id", o.configId), ("config_name", o.configName),
       ("start_time", stamp o.startTime), ("end_time", stamp o.endTime),
       ("status", .str o.state.text), ("push_count", o.pushCount),
       ("push_fail_count", o.pushFailCount), ("push_bytes", o.pushBytes),
       ("duration", .float (← o.duration))]

def statusStep (clock : Stamp) (s : RunStatus) (step : Value) :
    Stamp × RunStatus × Except Failure Value :=
  let now := utcNow clock
  let apply (r : Except Failure RunStatus) : Stamp × RunStatus × Except Failure Value :=
    match r with
    | .ok s' => (clock, s', .ok .null)
    | .error f => (clock, s, .error f)
  match step.get "op" with
  | .str "time" =>
    match asStamp (step.get "at") with
    | .ok t => (t, s, .ok .null)
    | .error f => (clock, s, .error f)
  | .str "start" => apply (do s.start (← now))
  | .str "finish" => apply (do
      let st ← RunState.ofText (← asStr (step.get "status"))
      if !st.isTerminal || st == .error || s.state.isTerminal then s.finish st default
      else s.finish st (← now))
  | .str "fail" => apply (do
      let m := match step.get "message" with | .str m => m | v => v.display
      if s.state.isTerminal then s.fail m default else s.fail m (← now))
  | .str "push" => apply (do return s.recordPush (← asInt (step.get "bytes") 0))
  | .str "push_failure" => apply (.ok s.recordPushFailure)
  | .str "outcome" =>
    (clock, s, (RunOutcome.ofStatus (.str "cfg") s.replication s).bind outcomeValue)
  | _ => (clock, s, .error (.invalid "unknown status step"))

def statusAnswer (req : Value) : Value :=
  valueOr do
    let clock ← startClock req
    let s := RunStatus.fresh (req.get "name")
    let (_, _, steps) ← (asList (req.get "ops")).foldlM
      (fun (acc : Stamp × RunStatus × List Value) step => do
        let (clock, s, out) := statusStep acc.1 acc.2.1 step
        let shown ← statusValue s (utcNow clock)
        let entry := obj [("result", valueOr out), ("status", shown),
          ("is_running", .bool s.isRunning), ("is_terminal", .bool s.state.isTerminal)]
        return (clock, s, acc.2.2 ++ [entry])) (clock, s, [])
    return obj [("steps", .list steps)]

def replicationValue (r : Replication) : Value :=
  obj [("id", .str r.id), ("name", r.name), ("source", r.source),
       ("destination", r.destination), ("filter", r.filter),
       ("failure_retry_count", .int r.retryLimit), ("metadata_only", .bool r.metadataOnly),
       ("suspended", .bool r.suspended)]

def replicationConfigAnswer (req : Value) : Value :=
  valueOr do return obj [("config", replicationValue (← Replication.ofValue (req.get "data")))]

end CatalogSync.Api
