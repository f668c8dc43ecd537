import CatalogSync.Sql.Modify
import CatalogSync.Sql.Command

/-!
# Connections

A `Connection` is a program's handle on a database: the database as the file holds it (as
of the last commit), the database as the connection sees it, and the transaction and
savepoints open.

`Connection.execute` runs one statement text the way a program's `execute` call does:

* a text holding a NUL character is refused before it is read;
* the first statement is read and prepared, which reports every mistake of names and
  definitions; then the text after it may hold only spaces and comments;
* before a statement whose text starts with `INSERT`, `UPDATE`, `DELETE` or `REPLACE`, a
  transaction is opened unless one is open already, so that such changes wait for a commit;
  every other statement outside a transaction is committed as soon as it succeeds;
* the parameters are bound: their number must be the number the statement uses;
* then the statement runs. A query gives its rows; `want` asks for only the first ones, and a
  query that need not sort stops there, as stepping a statement once does.

A statement that fails leaves nothing of its changes, and a failure that rolls back (a
`ROLLBACK` conflict resolution, `RAISE(ROLLBACK)`) ends the transaction too.
-/

namespace CatalogSync.Sql

abbrev Rows := List (List Datum)

/-- A connection to a database. -/
structure Connection where
  /-- The database as the file holds it: as of the last commit. -/
  saved : Database
  /-- The database as the connection sees it. -/
  db : Database
  /-- Whether a transaction is open. -/
  inTransaction : Bool := false
  /-- The open savepoints, the latest first, with the database as it was at each. -/
  savepoints : List (String × Database) := []
  /-- Whether the transaction was opened by a savepoint. -/
  savepointOpened : Bool := false
  counters : CallContext := {}

def Connection.start (db : Database) : Connection := { saved := db, db }

def Connection.commit (c : Connection) : Connection :=
  { c with saved := c.db, inTransaction := false, savepoints := [], savepointOpened := false }

def Connection.rollback (c : Connection) : Connection :=
  { c with db := c.saved, inTransaction := false, savepoints := [], savepointOpened := false }

def programmingError (m : String) : Failure := .database .programming m

/-- Whether the text after a statement holds anything but spaces and comments, read the way
the program's check reads it: a `-` starts a line comment, a `/` a block comment, and
anything else outside a comment counts. -/
def holdsMoreSql (rest : String) : Bool :=
  -- states: 0 plain, 1 after `-`, 2 in a line comment, 3 after `/`, 4 in a block comment,
  -- 5 after `*` in a block comment
  let step (st : Option Nat) (ch : Char) : Option Nat :=
    match st with
    | none => none
    | some s =>
      if ch = '-' then
        if s == 0 then some 1 else if s == 1 then some 2
        else if s == 5 then some 4 else if s == 3 then none else some s
      else if ch = ' ' || ch = '\t' then
        if s == 5 then some 4 else if s == 3 then none else some s
      else if ch = '\n' || ch = '\r' then
        if s == 2 then some 0 else if s == 5 then some 4 else if s == 3 then none else some s
      else if ch = '/' then
        if s == 0 then some 3 else if s == 5 then some 0 else if s == 3 then none
        else if s == 1 then none else some s
      else if ch = '*' then
        if s == 0 || s == 1 then none else if s == 3 then some 4
        else if s == 4 then some 5 else some s
      else
        if s == 5 then some 4 else if s == 2 || s == 4 then some s else none
  (rest.toList.foldl step (some 0)).isNone

def opensTransaction (sql : String) : Bool :=
  let body := String.ofList (sql.toList.dropWhile fun c => c = ' ' || c = '\t' || c = '\n' || c = '\r')
  let lower := asciiLower body
  lower.startsWith "insert" || lower.startsWith "update" || lower.startsWith "delete" ||
    lower.startsWith "replace"

def pragmaInteger (v : String) : Int :=
  let cs := v.toList
  let (neg, cs) := match cs with
    | '-' :: rest => (true, rest)
    | '+' :: rest => (false, rest)
    | _ => (false, cs)
  let digits := cs.takeWhile Char.isDigit
  let n : Int := Int.ofNat (digits.foldl (fun acc c => acc * 10 + (c.toNat - 48)) 0)
  wrapInt (if neg then -n else n)

def tableInfo (db : Database) (name : String) : Rows :=
  match db.table? name with
  | some t =>
    (List.range t.columns.length).map fun j =>
      let c := t.column j
      let pk := match t.primaryKey.idxOf? j with
        | some k => Int.ofNat k + 1
        | none => 0
      [.int (Int.ofNat j), .text c.name, .text c.type, .int (if c.notNull.isSome then 1 else 0),
       .null, .int pk]
  | none => []

def runPragma (c : Connection) (name : String) (value : Option PragmaValue) :
    Connection × Rows :=
  match asciiLower name, value with
  | "user_version", some (.assign v) | "user_version", some (.call v) =>
    ({ c with db := { c.db with userVersion := pragmaInteger v } }, [])
  | "user_version", none => (c, [[.int c.db.userVersion]])
  | "table_info", some (.call t) => (c, tableInfo c.db t)
  | _, _ => (c, [])

def Halt.failure : Halt → Failure
  | .fault f _ => f
  | .ignore => sqlError "RAISE() may only be used within a trigger-program"

def Connection.runRows (c : Connection) (s : Statement) (params : List Datum)
    (want : Option Nat) : Except Halt (Connection × Rows) := do
  let r : Running := { db := c.db, counters := c.counters }
  match s with
  | .select q => do
    let (q', _) ← liftFailure (resolveTop { db := c.db } q)
    let env := r.env params { rows := [none, none, none] } []
    let rows ← runQuery evalFuel env q' want
    return (c, rows)
  | _ => do
    let (rows, r') ← (runStep runFuel {} { rows := [none, none, none] } params s).run r
    let counters := { r'.counters with changes := r'.changed }
    return ({ c with db := r'.db, counters }, rows)

def Connection.apply (c : Connection) (s : Statement) (hasParameters : Bool) :
    Except Failure (Connection × Rows) := do
  let db := c.db
  let withDb (db' : Database) : Except Failure (Connection × Rows) := .ok ({ c with db := db' }, [])
  match s with
  | .createTable _ ine schema name cols cons withoutRowid strict text =>
    withDb (← createTable db ine schema name cols cons withoutRowid strict text)
  | .createTableAs _ ine schema name q => do
    if !(← checkNewTableName db ine schema name) then return (c, [])
    let (q', shape) ← resolveTop { db } q
    let rows ← match runQuery evalFuel { db } q' none with
      | .ok rows => pure rows
      | .error h => throw h.failure
    let names := shape.map (·.1)
    let columns := (List.range shape.length).map fun i =>
      let (_, aff, _) := shape.getD i ("", none, none)
      let ty := match aff with
        | some .text => "TEXT"
        | some .numeric => "NUM"
        | some .integer => "INT"
        | some .real => "REAL"
        | _ => ""
      ({ name := names.getD i "", type := ty, affinity := aff.getD .blob } : Column)
    let text := "CREATE TABLE " ++ name ++ "(" ++
      ",".intercalate (columns.map fun col => col.name ++ (if col.type.isEmpty then "" else " " ++ col.type)) ++ ")"
    let stored := (List.range rows.length).map fun k =>
      let values := (rows.getD k []).mapIdx fun j v => Datum.stored (columns.getD j default).affinity v
      ({ rowid := Int.ofNat k + 1, values } : Row)
    let t : Table := { name, columns, text, rows := stored }
    withDb (db.addTable t)
  | .createIndex unique ine schema name table terms filter text =>
    withDb (← createIndex db unique ine schema name table terms filter text)
  | .createView _ ine schema name cols q text =>
    withDb (← createView db hasParameters ine schema name cols q text)
  | .createTrigger _ ine schema name time event table cond body text =>
    withDb (← createTrigger db ine schema name time event table cond body text)
  | .drop kind ie schema name => withDb (← dropObject db kind ie schema name)
  | .alter schema table change => withDb (← alterTable db schema table change)
  | .begin _ =>
    if c.inTransaction then .error (sqlError "cannot start a transaction within a transaction")
    else .ok ({ c with inTransaction := true }, [])
  | .commit =>
    if !c.inTransaction then .error (sqlError "cannot commit - no transaction is active")
    else .ok (c.commit, [])
  | .rollback none =>
    if !c.inTransaction then .error (sqlError "cannot rollback - no transaction is active")
    else .ok (c.rollback, [])
  | .rollback (some sp) =>
    match c.savepoints.findIdx? (sameName ·.1 sp) with
    | some k =>
      let (_, mark) := c.savepoints.getD k ("", db)
      .ok ({ c with db := mark, savepoints := c.savepoints.drop k }, [])
    | none => .error (sqlError ("no such savepoint: " ++ sp))
  | .savepoint sp =>
    if c.inTransaction then .ok ({ c with savepoints := (sp, db) :: c.savepoints }, [])
    else .ok ({ c with inTransaction := true, savepointOpened := true,
                       savepoints := [(sp, db)] }, [])
  | .release sp =>
    match c.savepoints.findIdx? (sameName ·.1 sp) with
    | some k =>
      let rest := c.savepoints.drop (k + 1)
      if rest.isEmpty && c.savepointOpened then .ok (c.commit, [])
      else .ok ({ c with savepoints := rest }, [])
    | none => .error (sqlError ("no such savepoint: " ++ sp))
  | .pragma _ name value => .ok (runPragma c name value)
  | .vacuum =>
    if c.inTransaction then .error (sqlError "cannot VACUUM from within a transaction")
    else .ok (c, [])
  | _ => .ok (c, [])

def Statement.touchesRows : Statement → Bool
  | .select _ | .insert .. | .update .. | .delete .. => true
  | _ => false

/-- What is settled before a statement runs: the statement, whether it is only explained,
the connection with the transaction the program opens before it, the parameter values, and
the outcome of a schema statement, which is applied as it is prepared. -/
structure Settled where
  statement : Statement
  explainOnly : Bool
  connection : Connection
  values : List Datum
  applied : Option (Connection × Rows)

def Connection.settle (c : Connection) (sql : String) (params : List (Except Failure Datum)) :
    Except Failure Settled := do
  if sql.toList.contains (Char.ofNat 0) then
    throw (programmingError "the query contains a null character")
  let parsed ← parse sql
  let (s, explainOnly) := match parsed.statement with
    | some (.explain inner) => (inner, true)
    | some other => (other, false)
    | none => (Statement.analyze, true)
  -- preparing reports the statement's mistakes before anything runs
  let applied ← if s.touchesRows then do prepare c.db s; pure none
    else if explainOnly then pure none
    else match s with
      | .begin _ | .commit | .rollback _ | .savepoint _ | .release _ | .vacuum => pure none
      | _ => some <$> c.apply s (parsed.parameters > 0)
  if holdsMoreSql parsed.rest then
    throw (programmingError "You can only execute one statement at a time.")
  let c := if opensTransaction sql && !c.inTransaction && parsed.statement.isSome then
      { c with inTransaction := true } else c
  if params.length != parsed.parameters then
    throw (programmingError ("Incorrect number of bindings supplied. The current statement uses " ++
      toString parsed.parameters ++ ", and there are " ++ toString params.length ++ " supplied."))
  let values ← params.mapM id
  return { statement := s, explainOnly, connection := c, values, applied }

/-- Runs one statement text with its parameters, as a program's `execute` call does. The
connection comes back as the statement left it, also when it failed. -/
def Connection.execute (c : Connection) (sql : String) (params : List (Except Failure Datum))
    (want : Option Nat) : Connection × Except Failure Rows :=
  let finish (c' : Connection) : Connection := if c'.inTransaction then c' else c'.commit
  match c.settle sql params with
  | .error f => (c, .error f)
  | .ok st =>
    let c1 := st.connection
    if st.explainOnly then (finish c1, .ok [])
    else
      match st.applied with
      | some (c', rows) => (finish { c' with inTransaction := c1.inTransaction }, .ok rows)
      | none =>
        if st.statement.touchesRows then
          match c1.runRows st.statement st.values want with
          | .ok (c', rows) => (finish c', .ok rows)
          | .error (.fault f .rollback) => (c1.rollback, .error f)
          | .error h => (c1, .error h.failure)
        else
          match c1.apply st.statement false with
          | .ok (c', rows) => (finish c', .ok rows)
          | .error f => (c1, .error f)

end CatalogSync.Sql
