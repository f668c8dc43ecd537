import CatalogSync.Api.Basics
import CatalogSync.Report.History
import CatalogSync.Store.History

/-!
# Requests on the run history

`report` adds run outcomes to a fresh history and answers with the report on it and the
report's text. An outcome that cannot be added ends the request with `insert_error`.
-/

namespace CatalogSync.Api

open Disk Report

def decodeOutcome (v : Value) : Except Failure RunOutcome := do
  let configName ← match v.lookup "config_name" with
    | some n => pure n
    | none => throw (.missingKey "'config_name'")
  let configId := v.getD "config_id" configName
  let startTime ← asStamp (v.get "start_time")
  let endTime ← asStamp (v.get "end_time")
  let state ← RunState.ofValue (v.get "status")
  let count (key : String) : Value := match v.get key with
    | .null => .int 0
    | x => x
  return { configId, configName, startTime, endTime, state, pushCount := count "push_count",
           pushFailCount := count "push_fail_count", pushBytes := count "push_bytes" }

def summaryValue (s : Summary) : Value :=
  obj [("replication", .str s.replication), ("runs", .int s.runs),
       ("last_status", .str s.lastStatus), ("last_success", (s.lastSuccess.map Value.str).getD .null),
       ("records_pushed", .int s.recordsPushed), ("push_failures", .int s.pushFailures),
       ("bytes_pushed", .int s.bytesPushed), ("success_rate", .float s.successRate),
       ("average_duration", .float s.averageDuration)]

def reportValue (r : Overview) : Value :=
  let s := r.statistics
  obj [("generated_at", stamp r.generatedAt),
       ("statistics", obj [("total_runs", .int s.totalRuns),
         ("replications", .int s.replications), ("records_pushed", .int s.recordsPushed),
         ("push_failures", .int s.pushFailures), ("bytes_pushed", .int s.bytesPushed),
         ("average_duration", .float s.averageDuration),
         ("p95_duration", .float s.p95Duration)]),
       ("status_distribution", obj (r.statusDistribution.map fun (st, n) => (st, .int n))),
       ("replications", .list (r.replications.map summaryValue))]

def reportAnswerOf (r : Overview) : Value :=
  obj [("report", reportValue r), ("text", .str r.text)]

def historyFile : String := "history.db"

def reportAnswer (req : Value) : Value :=
  valueOr do
    let clock ← startClock req
    let now ← utcNow clock
    let insert : DiskM Unit := do
      Store.initHistory historyFile
      for run in asList (req.get "runs") do
        match decodeOutcome run with
        | .ok o => Store.addOutcome historyFile o
        | .error e => throw e
    let (inserted, files) := (insert.run {}).run
    match inserted with
    | .error e => return obj [("insert_error", e.answer)]
    | .ok () =>
      let (made, _) := ((generate historyFile now).run files).run
      return match made with
        | .ok r => reportAnswerOf r
        | .error e => e.answer

end CatalogSync.Api
