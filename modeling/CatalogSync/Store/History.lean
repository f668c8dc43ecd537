import CatalogSync.Disk.Files
import CatalogSync.Run.Status
import CatalogSync.Sql.Bind

/-!
# The run history

The run history keeps the outcome of every completed run in the `run_history` table of a
database file, numbered in the order the runs were added. Times are stored as ISO texts and
states by name; reading an outcome back checks that its state has a name.
-/

namespace CatalogSync.Store

open Disk Sql

def historySchema : String :=
  "CREATE TABLE IF NOT EXISTS run_history (id INTEGER PRIMARY KEY AUTOINCREMENT, " ++
  "config_id TEXT NOT NULL, config_name TEXT NOT NULL, start_time TEXT NOT NULL, " ++
  "end_time TEXT NOT NULL, status TEXT NOT NULL, push_count INTEGER NOT NULL, " ++
  "push_fail_count INTEGER NOT NULL, push_bytes INTEGER NOT NULL)"

def initHistory (path : String) : DiskM Unit :=
  session path (do let _ ← exec historySchema []; pure ())

def addOutcome (path : String) (o : RunOutcome) : DiskM Unit :=
  session path do
    let _ ← exec
      ("INSERT INTO run_history (config_id, config_name, start_time, end_time, status, " ++
       "push_count, push_fail_count, push_bytes) VALUES (?, ?, ?, ?, ?, ?, ?, ?)")
      [valueParam o.configId, valueParam o.configName, .ok (.text o.startTime.iso),
       .ok (.text o.endTime.iso), .ok (.text o.state.text), valueParam o.pushCount,
       valueParam o.pushFailCount, valueParam o.pushBytes]

def requiredStamp (d : Datum) : Except Failure Stamp := do
  match ← storedStamp d with
  | some t => pure t
  | none => throw (.wrongKind "unsupported operand type(s) for -: 'NoneType' and 'NoneType'")

def outcomeOfRow (row : List Datum) : Except Failure RunOutcome := do
  let at_ (i : Nat) : Datum := row.getD i .null
  let startTime ← requiredStamp (at_ 2)
  let endTime ← requiredStamp (at_ 3)
  let state ← RunState.ofValue (storedValue (at_ 4))
  return { configId := storedValue (at_ 0), configName := storedValue (at_ 1), startTime,
           endTime, state, pushCount := storedValue (at_ 5),
           pushFailCount := storedValue (at_ 6), pushBytes := storedValue (at_ 7) }

def outcomes (path : String) (name : Value) : DiskM (List RunOutcome) := do
  let rows ← session path (exec
    ("SELECT config_id, config_name, start_time, end_time, status, push_count, " ++
     "push_fail_count, push_bytes FROM run_history WHERE config_name = ? ORDER BY id ASC")
    [valueParam name])
  match rows.mapM outcomeOfRow with
  | .ok os => return os
  | .error e => throw e

end CatalogSync.Store
