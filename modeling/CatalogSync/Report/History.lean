import CatalogSync.Disk.Files
import CatalogSync.Report.Numeric
import CatalogSync.Report.TimeColumn
import CatalogSync.Run.Status
import CatalogSync.Sql.Bind

/-!
# Run history reports

A report summarises every run in the history: counts and sums over all runs, how often
each state occurred, and one summary per replication, in the order of the replications'
names.

* The start and end columns are read by `readTimeColumn`. A run's duration is the count
  from its start to its end in the finer of the two columns' units, as a double rounded
  toward zero, divided by the counts in a second; it is negative when the run ended before it started, and not
  a number when either time is missing.
* The sums of pushed records, failures and bytes are 64-bit sums that wrap around, unless
  the column holds a double, or a null beside an integer: then its values are summed as
  doubles and the sum cut to a whole number.
* The state counts are ordered by count, most frequent first, a tie keeping the order in
  which the states first occurred.
* A replication's last success is the latest end of its runs that count for the watermark.

`Overview.text` lays a report out for people to read.
-/

namespace CatalogSync.Report

open Disk Sql

/-- A run as the report reads it. -/
structure Run where
  name : String
  /-- The end on the UTC clock, counted in the end column's unit; none when missing. -/
  finish : Option Int
  duration : Float
  status : String
  pushCount : Datum
  pushFailCount : Datum
  pushBytes : Datum

/-- The summary of one replication's runs. -/
structure Summary where
  replication : String
  runs : Nat
  lastStatus : String
  /-- The ISO text of the last success; `NaT` when every such run lacks an end. -/
  lastSuccess : Option String
  recordsPushed : Int
  pushFailures : Int
  bytesPushed : Int
  successRate : Float
  averageDuration : Float

/-- Counts and sums over all runs. -/
structure Statistics where
  totalRuns : Nat
  replications : Nat
  recordsPushed : Int
  pushFailures : Int
  bytesPushed : Int
  averageDuration : Float
  p95Duration : Float

/-- A report on the run history at a time. -/
structure Overview where
  generatedAt : Stamp
  statistics : Statistics
  statusDistribution : List (String × Nat)
  replications : List Summary

def wrap64 (n : Int) : Int := (n + Int.pow 2 63) % Int.pow 2 64 - Int.pow 2 63

def summedAsReals (column : List Datum) : Bool :=
  column.any (fun d => match d with
    | .real _ => true
    | _ => false) ||
  (column.any (fun d => match d with
    | .null => true
    | _ => false) &&
   column.any (fun d => match d with
    | .int _ => true
    | _ => false))

def countOf : Datum → Int
  | .int n => n
  | .real x => wholePart x
  | _ => 0

def realCountOf : Datum → Float
  | .int n => Binary64.ofInt n
  | .real x => x
  | _ => 0.0

def sumCounts (asReals : Bool) (xs : List Datum) : Except Failure Int :=
  if asReals then
    let total := Numeric.sum (xs.map realCountOf)
    if total.isNaN then .error (.invalid "cannot convert float NaN to integer")
    else if total.isInf then .error (.overflow "cannot convert float infinity to integer")
    else .ok (wholePart total)
  else .ok (wrap64 (xs.foldl (fun acc d => acc + countOf d) 0))

def toNanos (count : Int) : Except Failure Int :=
  let n := count * 1000
  if fits64 n then .ok n
  else
    let iso := columnIso .micro count
    let text := (iso.take 10).toString ++ " " ++ ((iso.drop 11).take 8).toString
    .error (.outOfBoundsTime ("Out of bounds nanosecond timestamp: " ++ text))

def towardZeroFloat (n : Int) : Float :=
  let m := n.natAbs
  let excess := Nat.log2 m + 1 - 53
  let kept := m / Nat.pow 2 excess * Nat.pow 2 excess
  Binary64.ofInt (if n < 0 then -Int.ofNat kept else Int.ofNat kept)

def durations (startUnit endUnit : TimeUnit) (starts ends : List (Option Int)) :
    Except Failure (List Float) := do
  let unit := startUnit.finer endUnit
  let inUnit (u : TimeUnit) (c : Option Int) : Except Failure (Option Int) :=
    match c with
    | some c => if u != unit then some <$> toNanos c else .ok (some c)
    | none => .ok none
  let starts ← starts.mapM (inUnit startUnit)
  let ends ← ends.mapM (inUnit endUnit)
  (ends.zip starts).mapM fun (e, s) =>
    match e, s with
    | some e, some s =>
      let d := e - s
      if fits64 d then .ok (towardZeroFloat d / Binary64.ofInt unit.perSecond)
      else .error (.overflow "Overflow in int64 addition")
    | _, _ => .ok (0.0 / 0.0)

def runsOfRows (rows : List (List Datum)) : Except Failure (TimeUnit × List Run) := do
  let column (i : Nat) : List Datum := rows.map fun row => row.getD i .null
  let (startUnit, starts) ← readTimeColumn (column 1)
  let (endUnit, ends) ← readTimeColumn (column 2)
  let spans ← durations startUnit endUnit starts ends
  let runs := ((rows.zip ends).zip spans).map fun ((row, finish), duration) =>
    let at_ (i : Nat) : Datum := row.getD i .null
    { name := storedText (at_ 0), finish, duration, status := storedText (at_ 3),
      pushCount := at_ 4, pushFailCount := at_ 5, pushBytes := at_ 6 : Run }
  return (endUnit, runs)

def loadRuns (path : String) : DiskM (TimeUnit × List Run) := do
  let rows ← tryCatch (session path (exec
      ("SELECT config_name, start_time, end_time, status, push_count, push_fail_count, " ++
       "push_bytes FROM run_history ORDER BY id") []))
    fun e => throw (.database .reader ("Execution failed on sql: " ++ e.message))
  match runsOfRows rows with
  | .ok runs => return runs
  | .error e => throw e

def distinct (xs : List String) : List String := xs.eraseDups

def distribution (statuses : List String) : List (String × Nat) :=
  let counted := (distinct statuses).map fun s => (s, statuses.count s)
  counted.mergeSort fun a b => a.2 ≥ b.2

def meanDuration (runs : List Run) : Float :=
  if runs.isEmpty then 0 else Numeric.mean (runs.map (·.duration))

/-- Which count columns are summed as doubles. -/
structure CountKinds where
  records : Bool
  failures : Bool
  bytes : Bool

def CountKinds.ofRuns (runs : List Run) : CountKinds :=
  { records := summedAsReals (runs.map (·.pushCount)),
    failures := summedAsReals (runs.map (·.pushFailCount)),
    bytes := summedAsReals (runs.map (·.pushBytes)) }

def summarize (kinds : CountKinds) (unit : TimeUnit) (name : String) (runs : List Run) :
    Except Failure Summary := do
  let completed := runs.filter fun r =>
    r.status == RunState.success.text || r.status == RunState.itemFailuresPresent.text
  let lastSuccess :=
    if completed.isEmpty then none
    else some (((completed.filterMap (·.finish)).max?.map (columnIso unit)).getD "NaT")
  let recordsPushed ← sumCounts kinds.records (runs.map (·.pushCount))
  let pushFailures ← sumCounts kinds.failures (runs.map (·.pushFailCount))
  let bytesPushed ← sumCounts kinds.bytes (runs.map (·.pushBytes))
  let successes := (runs.filter (·.status == RunState.success.text)).length
  pure
    { replication := name, runs := runs.length,
      lastStatus := (runs.getLast?.map (·.status)).getD "",
      lastSuccess := lastSuccess, recordsPushed := recordsPushed,
      pushFailures := pushFailures, bytesPushed := bytesPushed,
      successRate := Binary64.ofRatio false successes runs.length,
      averageDuration := meanDuration runs }

def ofRuns (now : Stamp) (unit : TimeUnit) (runs : List Run) : Except Failure Overview := do
  let kinds := CountKinds.ofRuns runs
  let durations := runs.map (·.duration)
  let names := distinct (runs.map (·.name))
  let ordered := names.mergeSort fun a b => decide (a ≤ b)
  let recordsPushed ← sumCounts kinds.records (runs.map (·.pushCount))
  let pushFailures ← sumCounts kinds.failures (runs.map (·.pushFailCount))
  let bytesPushed ← sumCounts kinds.bytes (runs.map (·.pushBytes))
  let replications ← ordered.mapM fun n => summarize kinds unit n (runs.filter (·.name == n))
  pure
    { generatedAt := now,
      statistics :=
        { totalRuns := runs.length, replications := names.length,
          recordsPushed := recordsPushed, pushFailures := pushFailures,
          bytesPushed := bytesPushed,
          averageDuration := meanDuration runs,
          p95Duration :=
            if runs.isEmpty then 0
            else Numeric.percentile durations (Binary64.ofRatio false 95 100) },
      statusDistribution := distribution (runs.map (·.status)),
      replications := replications }

def generate (path : String) (now : Stamp) : DiskM Overview := do
  let (unit, runs) ← loadRuns path
  match ofRuns now unit runs with
  | .ok r => return r
  | .error e => throw e

/-- The report laid out for people to read. -/
def Overview.text (r : Overview) : String :=
  let s := r.statistics
  let head := ["Replication History Report", "Generated: " ++ r.generatedAt.iso,
    "\nOverall Statistics:", "  Runs: " ++ toString s.totalRuns,
    "  Replications: " ++ toString s.replications,
    "  Records Pushed: " ++ toString s.recordsPushed,
    "  Push Failures: " ++ toString s.pushFailures,
    "  Bytes Pushed: " ++ toString s.bytesPushed,
    "  Average Duration: " ++ NumberText.fixed 2 s.averageDuration ++ " seconds",
    "\nStatus Distribution:"]
  let states := r.statusDistribution.map fun (st, n) => "  " ++ st ++ ": " ++ toString n
  let summaries := r.replications.map fun m =>
    "  " ++ m.replication ++ ": " ++ toString m.runs ++ " runs, last status: " ++
    m.lastStatus ++ ", last success: " ++ m.lastSuccess.getD "never" ++
    ", success rate: " ++ NumberText.percent 0 m.successRate
  "\n".intercalate (head ++ states ++ ["\nReplications:"] ++ summaries)

end CatalogSync.Report
