import CatalogSync.Filter.Builder
import CatalogSync.Node.Record
import CatalogSync.Run.Item
import CatalogSync.Run.Replication
import CatalogSync.Run.Status

/-!
# The replication engine

One run of a replication copies what changed on its source to its destination:

1. the records whose pushes failed before, fewer times than the retry limit, are asked for
   again by id, and pushed;
2. then the records modified after the watermark, the end of the last run that completed
   its pass, are asked for and pushed, each record at most once in the run.

A record never replicated is created on the destination, a deleted one that was never
replicated is skipped; a replicated record is updated, or deleted when it is a tombstone.
Content is copied along unless the replication copies metadata only; an update copies it
only when it changed since the last push. Every push is kept in the item store: a success
resets the record's failure count, a refusal counts one more failure.

A run stops early, in order of precedence:

* `canceled` when a cancellation was asked for, checked before each record and between the
  passes;
* `connection_lost` when a site's link fails, or a failure leaves a site unavailable.

Any other failure ends the run in `error` and is raised again. A run that ends without
error leaves an outcome in the history; the cancellation request is dropped whatever the end.

The engine is written against records of operations (`Endpoint`, `Ledger`, `Control`) in
any monad that can raise failures, so that the same run can be driven by real sites or by
simulated ones.
-/

namespace CatalogSync.Sync

/-- What a run asks of a site. -/
structure Endpoint (m : Type → Type) where
  isAvailable : m Bool
  /-- The records matching a predicate, modified after a time if one is given. -/
  query : Option Predicate → Option Stamp → m Listing
  holds : Record → m Bool
  createMetadata : Record → m Bool
  updateMetadata : Record → m Bool
  deleteMetadata : Record → m Bool
  createResource : Resource → m Bool
  updateResource : Resource → m Bool
  readResource : Record → m Resource

/-- The item store and the run history, as a run uses them. -/
structure Ledger (m : Type → Type) where
  /-- The item of a record of a replication between a source and a destination. -/
  getItem : String → String → String → String → m (Option Item)
  /-- The ids of the failed records of a replication, below a failure limit, between a
  source and a destination. -/
  failureList : String → Int → String → String → m (List String)
  saveItem : Item → m Unit
  /-- The outcomes of the runs of a replication, by name. -/
  outcomes : Value → m (List RunOutcome)
  addOutcome : RunOutcome → m Unit

/-- The clock, the cancellation request and the status of the run in progress. -/
structure Control (m : Type → Type) where
  now : m Stamp
  isCanceled : m Bool
  clearCanceled : m Unit
  status : m RunStatus
  setStatus : RunStatus → m Unit

/-- Everything a run works with. -/
structure Engine (m : Type → Type) where
  source : Endpoint m
  destination : Endpoint m
  ledger : Ledger m
  control : Control m

section Run

variable {m : Type → Type} [Monad m] [MonadExceptOf Failure m]

def watermark (ledger : Ledger m) (name : Value) : m (Option Stamp) := do
  let os ← ledger.outcomes name
  ofExcept (Stamp.latest ((os.filter (·.state.countsForWatermark)).map (·.endTime)))

def resourceChanged (r : Record) (i : Item) : Except Failure Bool :=
  if !r.hasResource then .ok false
  else match r.resourceModified, i.resourceModified with
    | some a, some b => a.after b
    | _, _ => .ok true

def sourceFailure (e : Engine m) (f : Failure) : m RunState := do
  if f.isLinkLoss then return .connectionLost
  if !(← e.source.isAvailable) then return .connectionLost
  throwThe Failure f

def create (e : Engine m) (config : Replication) (r : Record) : m (Bool × Int) := do
  if config.metadataOnly || !r.hasResource then
    return (← e.destination.createMetadata r, 0)
  let res ← e.source.readResource r
  return (← e.destination.createResource res, res.content.length)

def update (e : Engine m) (config : Replication) (r : Record) (i : Item) : m (Bool × Int) := do
  if !(← e.destination.holds r) then return ← create e config r
  -- content times are compared only when content may be copied
  let changed ← ofExcept (if config.metadataOnly then .ok false else resourceChanged r i)
  if !changed then return (← e.destination.updateMetadata r, 0)
  let res ← e.source.readResource r
  return (← e.destination.updateResource res, res.content.length)

def push (e : Engine m) (config : Replication) (retry : Bool) (r : Record) :
    m (Option RunState) := do
  let source := config.source.display
  let destination := config.destination.display
  let stored ← e.ledger.getItem config.id r.ident source destination
  if stored.isNone && r.deleted then return none
  let attempt : m (Option (Bool × Int)) := tryCatchThe Failure (do
      match Operation.classify stored.isSome r.deleted, stored with
      | .update, some i => return some (← update e config r i)
      | .delete, _ => return some (← e.destination.deleteMetadata r, 0)
      | _, _ => return some (← create e config r))
    fun f =>
      if f.isLinkLoss then pure none
      else if f.isNode then pure (some (false, 0))
      else throwThe Failure f
  let some (pushed, bytes) ← attempt | return some .connectionLost
  let item := stored.getD { configId := config.id, metadataId := r.ident, source, destination }
  if pushed then
    e.control.setStatus ((← e.control.status).recordPush bytes)
    e.ledger.saveItem (item.succeeded r.modified r.resourceModified)
    return none
  e.control.setStatus (← e.control.status).recordPushFailure
  let failed : Except Failure Item := do
    let exhausted ← item.failureCount.atLeast config.retryLimit
    item.failed (exhausted && !retry)
  match failed with
  | .ok i => e.ledger.saveItem i
  | .error f => throwThe Failure f
  if !(← e.source.isAvailable) then return some .connectionLost
  if !(← e.destination.isAvailable) then return some .connectionLost
  return none

def pushAll (e : Engine m) (config : Replication) (retry : Bool) :
    List Record → List String → m (Option RunState × List String)
  | [], done => return (none, done)
  | r :: rest, done => do
    if ← e.control.isCanceled then return (some .canceled, done)
    if done.contains r.ident then pushAll e config retry rest done
    else
      let done := r.ident :: done
      match ← push e config retry r with
      | some st => return (some st, done)
      | none => pushAll e config retry rest done

def ask (e : Engine m) (p : Option Predicate) (after : Option Stamp) :
    m (Except RunState Listing) :=
  tryCatchThe Failure (do return .ok (← e.source.query p after)) fun f => do
    if f.isLinkLoss then return .error .connectionLost
    if f.isNode then return .error (← sourceFailure e f)
    throwThe Failure f

def replicate (e : Engine m) (config : Replication) (p : Option Predicate)
    (after : Option Stamp) (retry : Bool) (done : List String) :
    m (Option RunState × List String) := do
  match ← ask e p after with
  | .error st => return (some st, done)
  | .ok listing =>
    let (stopped, done) ← pushAll e config retry listing.records done
    if stopped.isSome then return (stopped, done)
    match listing.failure with
    | none => return (none, done)
    | some f => return (some (← sourceFailure e (← ofExcept (listing.wrap f))), done)

def changes (e : Engine m) (config : Replication) (done : List String) :
    m (Option RunState) := do
  let mark ← watermark e.ledger config.name
  let p := Predicate.changeSet (← ofExcept config.baseCondition) mark
  let (stopped, _) ← replicate e config p mark false done
  return stopped

def passes (e : Engine m) (config : Replication) : m (Option RunState) := do
  if ← e.control.isCanceled then return some .canceled
  let failed ← e.ledger.failureList config.id config.retryLimit config.source.display
    config.destination.display
  if ← e.control.isCanceled then return some .canceled
  let mut done := []
  if !failed.isEmpty then
    let p ← ofExcept (do Predicate.failedItems (← config.baseCondition) failed)
    let (stopped, retried) ← replicate e config p none true []
    if stopped.isSome then return stopped
    if ← e.control.isCanceled then return some .canceled
    done := retried
  changes e config done

def startRun (e : Engine m) (config : Replication) : m Unit := do
  e.control.setStatus (← ofExcept ((RunStatus.fresh config.name).start (← e.control.now)))

def failRun {α : Type} (e : Engine m) (f : Failure) : m α := do
  if f.isOrdinary then
    e.control.setStatus (← ofExcept ((← e.control.status).fail f.message (← e.control.now)))
  e.control.clearCanceled
  throwThe Failure f

def finishRun (e : Engine m) (config : Replication) (stopped : Option RunState) :
    m RunStatus := do
  let st ← e.control.status
  let final := stopped.getD (if st.pushFailCount = 0 then .success else .itemFailuresPresent)
  let st ← ofExcept (st.finish final (← e.control.now))
  e.control.setStatus st
  e.ledger.addOutcome (← ofExcept (RunOutcome.ofStatus (.str config.id) config.name st))
  return st

def sync (e : Engine m) (config : Replication) : m RunStatus := do
  startRun e config
  let stopped ← tryCatchThe Failure (passes e config) (failRun e)
  e.control.clearCanceled
  finishRun e config stopped

end Run

end CatalogSync.Sync
