import CatalogSync.Disk.Path
import CatalogSync.Sql.Connection

/-!
# Database files

`Files` is the working directory: database files by name. Opening the database at a path
creates an empty file when there is none. A `Session` is one connection: statements run on
the database in turn, and `Files.session` keeps their changes only when every one of them
succeeds, the way a connection used as a context commits on success and rolls back on a
failure.

Paths are relative to the working directory; `./name` and `name` are the same file. The
private databases (`isPrivate`) start empty at every connection and keep nothing.
-/

namespace CatalogSync.Disk

/-- The database files of the working directory, by name. -/
structure Files where
  entries : List (String × Sql.Database) := []
  deriving Inhabited

def fileName (path : String) : String :=
  String.ofList ((path.toList.splitOn '/').getLastD [])

namespace Files

def find? (fs : Files) (path : String) : Option Sql.Database :=
  (fs.entries.find? (·.1 == fileName path)).map (·.2)

def exists? (fs : Files) (path : String) : Bool :=
  !isPrivate path && opens path && (fs.find? path).isSome

def put (fs : Files) (path : String) (db : Sql.Database) : Files :=
  if isPrivate path then fs
  else
    let name := fileName path
    if fs.entries.any (·.1 == name) then
      { entries := fs.entries.map fun e => if e.1 == name then (name, db) else e }
    else { entries := fs.entries ++ [(name, db)] }

def remove (fs : Files) (path : String) : Files :=
  { entries := fs.entries.filter (·.1 != fileName path) }

def connect (fs : Files) (path : String) : Except Failure (Files × Sql.Database) :=
  if isPrivate path then .ok (fs, Sql.Database.empty)
  else if !opens path then .error (.database .operational "unable to open database file")
  else
    match fs.find? path with
    | some db => .ok (fs, db)
    | none => .ok (fs.put path Sql.Database.empty, Sql.Database.empty)

end Files

abbrev DiskM := ExceptT Failure (StateM Files)

/-- One connection's statements on a database. A failing statement leaves the connection as
it left it, so that what was committed before stays. -/
abbrev Session := ExceptT Failure (StateM Sql.Connection)

def query (sql : String) (params : List (Except Failure Sql.Datum)) (want : Option Nat) :
    Session Sql.Rows :=
  ExceptT.mk fun c =>
    let (c', r) := c.execute sql params want
    (r, c')

def exec (sql : String) (params : List (Except Failure Sql.Datum)) : Session Sql.Rows :=
  query sql params none

def execOne (sql : String) (params : List (Except Failure Sql.Datum)) : Session (Option (List Sql.Datum)) := do
  return (← query sql params (some 1)).head?

/-- Runs a statement that changes rows once for each list of parameters. The statement is
read and prepared once, before any list is bound, and it must change rows rather than read
them. -/
def execMany (sql : String) (params : List (List (Except Failure Sql.Datum))) : Session Unit := do
  if !Sql.opensTransaction sql then
    throw (Sql.programmingError "executemany() can only execute DML statements.")
  ExceptT.mk fun c =>
    match (Sql.parse sql) with
    | .error f => (.error f, c)
    | .ok parsed =>
      match parsed.statement with
      | none => (.ok (), c)
      | some s =>
        match Sql.prepare c.db s with
        | .error f => (.error f, c)
        | .ok () => (.ok (), c)
  for ps in params do
    let _ ← exec sql ps

/-- Runs a session on the database at a path, as a connection used as a context does: the
open transaction is committed when the session succeeds and rolled back when it fails. The
file is created either way. -/
def session (path : String) (act : Session α) : DiskM α := do
  let fs ← get
  match fs.connect path with
  | .error e => throw e
  | .ok (fs, db) =>
    set fs
    let (r, c) := (act.run).run (Sql.Connection.start db)
    match r with
    | .ok a =>
      modify (·.put path c.commit.saved)
      return a
    | .error e =>
      modify (·.put path c.saved)
      throw e

def script (path : String) (statements : List String) : DiskM Unit :=
  session path (statements.forM fun s => do let _ ← query s [] (some 1))

end CatalogSync.Disk
