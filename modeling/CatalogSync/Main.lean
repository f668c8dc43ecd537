import CatalogSync.Cli.Shell
import Std.Time

/-!
# The command line

`main` carries out a command line of the replicator: `run`, `plan`, `report` or `serve`,
with their options. The working directory the commands see starts with the text files the
arguments name, such as the configuration file, and with no database files: the catalogs,
the item store and the run history live only as long as the command. The environment's
`REPLICATOR_DB_PATH`, `LOG_LEVEL` and `REPLICATOR_WEB_PORT` override the configuration, the
commands run on behalf of the user the environment names, and the clock is the system's.

What the command prints goes to standard output, its error messages to standard error, and
the process ends with the command's status.
-/

open CatalogSync

def readText (path : String) : IO (Option String) := do
  try return some (← IO.FS.readFile path) catch _ => return none

def namedDocuments (args : List String) : IO (List (String × Cli.Document)) := do
  let mut documents := []
  for a in args do
    if Disk.opens a && !Disk.isPrivate a then
      if let some t ← readText a then
        documents := documents ++ [(Disk.fileName a, Cli.Document.text t)]
  return documents

def userName : IO String := do
  for v in ["LOGNAME", "USER", "LNAME", "USERNAME"] do
    if let some u ← IO.getEnv v then
      if !u.isEmpty then return u
  return "user"

/-- Carries out the command line. -/
def main (args : List String) : IO UInt32 := do
  let now ← Std.Time.Timestamp.now
  let clock : Stamp := ⟨Stamp.epochWall + now.toNanosecondsSinceUnixEpoch.val / 1000, some 0⟩
  let overrides : Config.Overrides :=
    { storePath := ← IO.getEnv "REPLICATOR_DB_PATH", logLevel := ← IO.getEnv "LOG_LEVEL",
      webPort := ← IO.getEnv "REPLICATOR_WEB_PORT" }
  let machine : Cli.Machine :=
    { clock, documents := ← namedDocuments args, overrides, user := ← userName }
  let (ending, _) := (Cli.execute args).run machine
  IO.print ending.out
  IO.eprint ending.err
  if let some f := ending.crash then
    IO.eprintln (f.kindName ++ ": " ++ f.message)
  (← IO.getStdout).flush
  return ending.code.toUInt32
