import CatalogSync.Data.Value
import CatalogSync.Time.Stamp

/-!
# The status of a replication run

A run moves from `pending` to `running` and ends in exactly one terminal state. `start`,
`finish` and `fail` refuse every other move, so a run is finished at most once; the counters
only grow while it runs.

A run that ends by `finish` is *completed*; one that ends by `fail` has the terminal state
`error`, which is kept in memory only and never recorded as an outcome.
-/

namespace CatalogSync

/-- The state of a run. -/
inductive RunState where
  | pending
  | running
  | success
  | itemFailuresPresent
  | connectionLost
  | canceled
  | error
  deriving Repr, DecidableEq, Inhabited

namespace RunState

def text : RunState → String
  | .pending => "pending"
  | .running => "running"
  | .success => "success"
  | .itemFailuresPresent => "item_failures_present"
  | .connectionLost => "connection_lost"
  | .canceled => "canceled"
  | .error => "error"

def all : List RunState :=
  [.pending, .running, .success, .itemFailuresPresent, .connectionLost, .canceled, .error]

def ofText (s : String) : Except Failure RunState :=
  match all.find? (·.text == s) with
  | some st => .ok st
  | none => .error (.invalid (Text.literal s ++ " is not a valid Status"))

def ofValue : Value → Except Failure RunState
  | .str s => ofText s
  | v => .error (.invalid (v.literal ++ " is not a valid Status"))

def isTerminal : RunState → Bool
  | .pending | .running => false
  | _ => true

def countsForWatermark : RunState → Bool
  | .success | .itemFailuresPresent => true
  | _ => false

end RunState

/-- The counters and states of one run. -/
structure RunStatus where
  /-- The replication the run belongs to. -/
  replication : Value
  pushCount : Int := 0
  pushFailCount : Int := 0
  pushBytes : Int := 0
  startTime : Option Stamp := none
  endTime : Option Stamp := none
  state : RunState := .pending
  /-- The text of the failure that stopped the run. -/
  error : Option String := none
  deriving Inhabited

namespace RunStatus

def fresh (replication : Value) : RunStatus := { replication }

def isRunning (s : RunStatus) : Bool := s.state == .running

/-- Moves a pending run into the running state at time `now`. -/
def start (s : RunStatus) (now : Stamp) : Except Failure RunStatus :=
  if s.state != .pending then
    .error (.invalid ("Run for " ++ s.replication.display ++ " already started (" ++
      s.state.text ++ ")"))
  else .ok { s with startTime := some now, state := .running }

def alreadyFinished (s : RunStatus) : Failure :=
  .invalid ("Run for " ++ s.replication.display ++ " already finished with " ++ s.state.text)

/-- Records the single terminal state of a completed run at time `now`. -/
def finish (s : RunStatus) (st : RunState) (now : Stamp) : Except Failure RunStatus :=
  if !st.isTerminal || st == .error then
    .error (.invalid (st.text ++ " is not a terminal status of a completed run"))
  else if s.state.isTerminal then .error s.alreadyFinished
  else .ok { s with endTime := some now, startTime := some (s.startTime.getD now), state := st }

/-- Marks a run stopped by a failure with text `message` at time `now`. -/
def fail (s : RunStatus) (message : String) (now : Stamp) : Except Failure RunStatus :=
  if s.state.isTerminal then .error s.alreadyFinished
  else .ok { s with endTime := some now, startTime := some (s.startTime.getD now),
                    error := some message, state := .error }

def recordPush (s : RunStatus) (bytes : Int) : RunStatus :=
  { s with pushCount := s.pushCount + 1, pushBytes := s.pushBytes + bytes }

def recordPushFailure (s : RunStatus) : RunStatus :=
  { s with pushFailCount := s.pushFailCount + 1 }

def duration (s : RunStatus) (now : Stamp) : Except Failure Float :=
  match s.startTime with
  | none => .ok (Binary64.ofInt 0)
  | some t => do return spanSeconds (← (s.endTime.getD now).since t)

end RunStatus

/-- The record of one completed run, as the run history keeps it. -/
structure RunOutcome where
  configId : Value
  configName : Value
  startTime : Stamp
  endTime : Stamp
  state : RunState
  pushCount : Value := .int 0
  pushFailCount : Value := .int 0
  pushBytes : Value := .int 0
  deriving Inhabited

namespace RunOutcome

def ofStatus (configId configName : Value) (s : RunStatus) : Except Failure RunOutcome :=
  match s.state.isTerminal && s.state != .error, s.startTime, s.endTime with
  | true, some a, some b =>
    .ok { configId, configName, startTime := a, endTime := b, state := s.state,
          pushCount := .int s.pushCount, pushFailCount := .int s.pushFailCount,
          pushBytes := .int s.pushBytes }
  | _, _, _ => .error (.invalid ("Run for " ++ configName.display ++ " has not completed"))

def duration (o : RunOutcome) : Except Failure Float := do
  return spanSeconds (← o.endTime.since o.startTime)

end RunOutcome

end CatalogSync
