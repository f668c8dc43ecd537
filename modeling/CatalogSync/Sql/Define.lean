import CatalogSync.Sql.Eval

/-!
# Defining tables, indexes, views and triggers

The statements that change the schema: `CREATE TABLE`, `CREATE INDEX`, `CREATE VIEW`,
`CREATE TRIGGER`, `DROP` and `ALTER TABLE`. Each checks its definition the way the database
does while it reads the statement, in the order the parts are written, and fails with the
first problem found.

A table's definition is read column by column into a `TableDraft`: a `PRIMARY KEY` on a
single column declared exactly `INTEGER` (and not `DESC` on the column itself) makes that
column hold the row number; any other primary key, and each `UNIQUE` constraint, makes an
index named `sqlite_autoindex_<table>_<n>`, unless an index on the same columns under the
same collations exists already. When all columns are read, a `STRICT` table's types and a
`WITHOUT ROWID` table's key are checked, then the `CHECK` constraints and generated columns
are resolved against the table.

`CHECK` constraints, defaults, generated columns and index expressions are kept as written
and resolved again when they are used, so that they follow the table through `ALTER TABLE`.
-/

namespace CatalogSync.Sql

def refuse {α : Type} (m : String) : Except Failure α := .error (sqlError m)

def standardType? (ty : String) : Option String :=
  let u := asciiUpper ty
  if ["INT", "INTEGER", "REAL", "TEXT", "BLOB", "ANY"].contains u then some u else none

def isReservedName (name : String) : Bool := (asciiLower name).startsWith "sqlite_"

def checkObjectName (name : String) : Except Failure Unit :=
  if isReservedName name then refuse ("object name reserved for internal use: " ++ name)
  else .ok ()

def checkSchema : Option String → Except Failure Unit
  | some s => if sameName s "main" || sameName s "temp" then .ok () else refuse ("unknown database " ++ s)
  | none => .ok ()

def isKnownCollation (n : String) : Bool :=
  sameName n "BINARY" || sameName n "NOCASE" || sameName n "RTRIM"

def checkCollation (n : String) : Except Failure Unit :=
  if isKnownCollation n then .ok () else refuse ("no such collation sequence: " ++ n)

def constantWithin : Nat → Expr → Bool
  | 0, _ => false
  | fuel + 1, e =>
    match e with
    | .lit _ | .num _ | .raise _ _ => true
    | .name [] n false => sameName n "true" || sameName n "false"
    | .name .. | .param _ | .column _ | .aggregate _ => false
    | .inQuery .. | .exists _ | .scalar _ => false
    | .unary _ a | .collate a _ | .cast a _ => constantWithin fuel a
    | .binary _ a b => constantWithin fuel a && constantWithin fuel b
    | .between _ a l h => constantWithin fuel a && constantWithin fuel l && constantWithin fuel h
    | .call _ _ args _ => args.all (constantWithin fuel)
    | .inList _ a items => constantWithin fuel a && items.all (constantWithin fuel)
    | .vector items => items.all (constantWithin fuel)
    | .case o arms els =>
      (o.map (constantWithin fuel)).getD true &&
      arms.all (fun (w, t) => constantWithin fuel w && constantWithin fuel t) &&
      (els.map (constantWithin fuel)).getD true

def isConstantDefault (e : Expr) : Bool := constantWithin 400 e

def selfNames (db : Database) (t : Table) (restriction : Option String)
    (deterministicOnly : Bool) : Names :=
  { db, scopes := [{ sources := [t.visible none] }], restriction, deterministicOnly }

def resolveSelf (db : Database) (t : Table) (restriction : Option String)
    (deterministicOnly : Bool) (e : Expr) : Except Failure Expr :=
  resolveStandalone (selfNames db t restriction deterministicOnly) e

def termAsName : Expr → Expr
  | .lit (.text s) => .name [] s false
  | e => e

def trimmedSpan (s : String) : String :=
  let drop (cs : List Char) := cs.dropWhile Char.isWhitespace
  String.ofList (drop (drop s.toList).reverse).reverse

/-! ## Tables -/

def columnTerm (n : String) (descending : Bool := false) : IndexedTerm :=
  { e := .name [] n false, collation := none, order := { descending } }

/-- A table while its definition is read. -/
structure TableDraft where
  table : Table
  /-- Whether a primary key has been declared. -/
  hasPrimaryKey : Bool := false

namespace TableDraft

def updateLast (d : TableDraft) (f : Column → Column) : TableDraft :=
  let t := d.table
  let n := t.columns.length
  { d with table := { t with columns := t.columns.mapIdx fun i c => if i + 1 == n then f c else c } }

def lastColumn (d : TableDraft) : Column := d.table.columns.getLastD default

/-- Adds the index a `PRIMARY KEY` or `UNIQUE` constraint asks for. An index on the same
columns under the same collations takes the constraint instead; two different explicit
conflict clauses on it are refused. -/
def addKeyIndex (d : TableDraft) (db : Database) (terms : List IndexedTerm)
    (conflict : Option Resolution) (primary : Bool) : Except Failure TableDraft := do
  let t := d.table
  let name := "sqlite_autoindex_" ++ t.name ++ "_" ++ toString (t.indexes.length + 1)
  let mut cols : List Nat := []
  let mut filled : List IndexedTerm := []
  for term in terms do
    let r ← resolveSelf db t none false (termAsName term.e)
    match stripCollate r with
    | .column { column := some c, .. } =>
      let coll := term.collation.getD ((t.column c).collation.getD "BINARY")
      if term.collation.isSome then checkCollation coll
      cols := cols ++ [c]
      filled := filled ++ [{ term with e := .name [] (t.column c).name false, collation := some coll }]
    | _ => refuse "expressions prohibited in PRIMARY KEY and UNIQUE constraints"
  let colls := filled.map fun term => asciiUpper (term.collation.getD "BINARY")
  let same (i : Index) : Bool :=
    i.columns == some cols &&
    (i.terms.map fun term => asciiUpper (term.collation.getD "BINARY")) == colls
  match t.indexes.find? same with
  | some existing =>
    if existing.conflict.isSome && conflict.isSome && existing.conflict != conflict then
      refuse "conflicting ON CONFLICT clauses specified"
    let merged := { existing with
      conflict := existing.conflict.orElse fun _ => conflict,
      origin := if primary then .primaryKey else existing.origin }
    return { d with table := { t with indexes := t.indexes.map fun i =>
      if i.name == existing.name then merged else i } }
  | none =>
    let idx : Index := { name, table := t.name, unique := true, terms := filled,
                         columns := some cols, conflict,
                         origin := if primary then .primaryKey else .unique }
    return { d with table := { t with indexes := t.indexes ++ [idx] } }

def addPrimaryKey (d : TableDraft) (db : Database) (terms : Option (List IndexedTerm))
    (conflict : Option Resolution) (auto descending : Bool) : Except Failure TableDraft := do
  let t := d.table
  if d.hasPrimaryKey then
    refuse ("table \"" ++ t.name ++ "\" has more than one primary key")
  let keyTerms : List IndexedTerm := match terms with
    | some ts => ts
    | none => [columnTerm d.lastColumn.name descending]
  let named : List Nat := keyTerms.filterMap fun term =>
    match termAsName term.e with
    | .name [] n _ => t.columnIndex? n
    | _ => none
  let mut d := { d with hasPrimaryKey := true }
  for c in named do
    if (t.column c).generated.isSome then
      refuse "generated columns cannot be part of the PRIMARY KEY"
    let tb := d.table
    d := { d with table := { tb with columns := tb.columns.mapIdx fun i col =>
      if i == c then { col with primaryKey := true } else col } }
  if terms.isNone then d := d.updateLast fun col => { col with unique := true }
  let single : Option Nat := if keyTerms.length == 1 then named.getLast? else none
  match single with
  | some c =>
    if standardType? (t.column c).type == some "INTEGER" && !descending then
      let tb := d.table
      return { d with table := { tb with rowidColumn := some c, rowidConflict := conflict,
                                         autoincrement := auto, primaryKey := [c] } }
    if auto then refuse "AUTOINCREMENT is only allowed on an INTEGER PRIMARY KEY"
    d.addKeyIndex db keyTerms conflict true
  | none =>
    if auto then refuse "AUTOINCREMENT is only allowed on an INTEGER PRIMARY KEY"
    d.addKeyIndex db keyTerms conflict true

def columnConstraint (d : TableDraft) (db : Database) (name : Option String) :
    ColumnConstraint → Except Failure TableDraft
  | .primaryKey descending conflict auto => d.addPrimaryKey db none conflict auto descending
  | .notNull conflict => return d.updateLast fun c => { c with notNull := some conflict }
  | .unique conflict => do
    let d := d.updateLast fun c => { c with unique := true }
    d.addKeyIndex db [columnTerm d.lastColumn.name] conflict false
  | .check e span =>
    let t := d.table
    return { d with table := { t with checks := t.checks ++ [(name, e, name.getD (trimmedSpan span))] } }
  | .default e => do
    let col := d.lastColumn
    if !isConstantDefault e then
      refuse ("default value of column [" ++ col.name ++ "] is not constant")
    if col.generated.isSome then refuse "cannot use DEFAULT on a generated column"
    return d.updateLast fun c => { c with default := some e }
  | .collate n => do
    checkCollation n
    let d := d.updateLast fun c => { c with collation := some n }
    let t := d.table
    let i := t.columns.length - 1
    let recollate (x : Index) : Index :=
      if (x.columns.getD []).head? == some i then
        { x with terms := x.terms.mapIdx fun k term =>
            if k == 0 then { term with collation := some n } else term }
      else x
    return { d with table := { t with indexes := t.indexes.map recollate } }
  | .references _ => return d
  | .generated e _ => do
    let col := d.lastColumn
    if col.default.isSome then refuse ("error in generated column \"" ++ col.name ++ "\"")
    if col.primaryKey then refuse "generated columns cannot be part of the PRIMARY KEY"
    let e := match e with
      | .name .. => Expr.unary .pos e
      | _ => e
    return d.updateLast fun c => { c with generated := some e }

def addColumn (d : TableDraft) (db : Database) (cd : ColumnDef) : Except Failure TableDraft := do
  let t := d.table
  if t.columns.any (sameName ·.name cd.name) then refuse ("duplicate column name: " ++ cd.name)
  let col : Column := { name := cd.name, type := cd.type,
                        affinity := Affinity.ofColumnType cd.type }
  let mut d := { d with table := { t with columns := t.columns ++ [col] } }
  for (n, c) in cd.constraints do
    d ← d.columnConstraint db n c
  return d

def tableConstraint (d : TableDraft) (db : Database) (name : Option String) :
    TableConstraint → Except Failure TableDraft
  | .primaryKey terms conflict auto => d.addPrimaryKey db (some terms) conflict auto false
  | .unique terms conflict => d.addKeyIndex db terms conflict false
  | .check e span =>
    let t := d.table
    return { d with table := { t with checks := t.checks ++ [(name, e, name.getD (trimmedSpan span))] } }
  | .foreignKey _ _ => return d

def strictTypes (t : Table) : Except Failure Table := do
  let mut cols : List Column := []
  for i in List.range t.columns.length do
    let c := t.column i
    match standardType? c.type with
    | none =>
      if c.type.isEmpty then refuse ("missing datatype for " ++ t.name ++ "." ++ c.name)
      else refuse ("unknown datatype for " ++ t.name ++ "." ++ c.name ++ ": \"" ++ c.type ++ "\"")
    | some ty =>
      let c := if ty == "ANY" then { c with affinity := .blob } else c
      let c := if c.primaryKey && t.rowidColumn != some i && c.notNull.isNone then
          { c with notNull := some none } else c
      cols := cols ++ [c]
  return { t with columns := cols, strict := true }

def keyedByPrimaryKey (d : TableDraft) (db : Database) : Except Failure TableDraft := do
  let t := d.table
  if t.autoincrement then refuse "AUTOINCREMENT not allowed on WITHOUT ROWID tables"
  if !d.hasPrimaryKey then refuse ("PRIMARY KEY missing on table " ++ t.name)
  let t := { t with columns := t.columns.map fun c =>
    if c.primaryKey && c.notNull.isNone then { c with notNull := some none } else c }
  let d := { d with table := t }
  match t.rowidColumn with
  | some c =>
    let d := { d with table := { t with rowidColumn := none } }
    let d ← d.addKeyIndex db [columnTerm (t.column c).name] t.rowidConflict true
    return { d with table := { d.table with withoutRowid := true, rowidConflict := none } }
  | none => return { d with table := { t with withoutRowid := true } }

/-- Finishes a table: the checks run once all columns are read. The `CHECK` constraints are
resolved until one fails; every generated column is resolved; the latest problem is the
one reported. -/
def finish (d : TableDraft) (db : Database) (withoutRowid strict : Bool) :
    Except Failure Table := do
  let mut d := d
  if strict then d := { d with table := ← strictTypes d.table }
  if withoutRowid then d ← d.keyedByPrimaryKey db
  let t := d.table
  let mut problem : Option Failure := none
  for (_, e, _) in t.checks do
    match resolveSelf db t (some "CHECK constraints") false e with
    | .error f => problem := some f; break
    | .ok _ => pure ()
  for c in t.columns do
    match c.generated with
    | some e =>
      match resolveSelf db t (some "generated columns") true e with
      | .error f => problem := some f
      | .ok _ => pure ()
    | none => pure ()
  if t.columns.all (·.generated.isSome) then
    problem := some (sqlError "must have at least one non-generated column")
  match problem with
  | some f => throw f
  | none =>
    let key := match t.rowidColumn with
      | some c => [c]
      | none => match t.primaryIndex? with
        | some i => i.columns.getD []
        | none => []
    return { t with primaryKey := key }

end TableDraft

def sequenceTable (entry : Nat) : Table :=
  { name := "sqlite_sequence", entry,
    columns := [{ name := "name", type := "", affinity := .blob },
                { name := "seq", type := "", affinity := .blob }],
    text := "CREATE TABLE sqlite_sequence(name,seq)" }

def Database.addTable (db : Database) (t : Table) : Database :=
  let n := db.nextEntry
  let indexes := (List.range t.indexes.length).map fun k =>
    { t.indexes.getD k default with entry := n + 1 + k }
  let t := { t with entry := n, indexes }
  let db := { db with tables := db.tables ++ [t] }
  if t.autoincrement && (db.table? "sqlite_sequence").isNone then
    { db with tables := db.tables ++ [sequenceTable db.nextEntry] }
  else db

def checkNewTableName (db : Database) (ifNotExists : Bool) (schema : Option String)
    (name : String) : Except Failure Bool := do
  checkSchema schema
  checkObjectName name
  if (db.table? name).isSome || isSchemaTable name then
    if ifNotExists then return false else refuse ("table " ++ name ++ " already exists")
  if (db.view? name).isSome then
    if ifNotExists then return false else refuse ("view " ++ name ++ " already exists")
  if (db.index? name).isSome then refuse ("there is already an index named " ++ name)
  return true

def createTable (db : Database) (ifNotExists : Bool) (schema : Option String) (name : String)
    (columns : List ColumnDef) (constraints : List (Option String × TableConstraint))
    (withoutRowid strict : Bool) (text : String) : Except Failure Database := do
  if !(← checkNewTableName db ifNotExists schema name) then return db
  let mut d : TableDraft := { table := { name, columns := [], text } }
  for c in columns do
    d ← d.addColumn db c
  for (n, c) in constraints do
    d ← d.tableConstraint db n c
  let t ← d.finish db withoutRowid strict
  return db.addTable t

/-! ## Indexes -/

def indexKey (db : Database) (t : Table) (i : Index) (row : Row) : Except Failure (Option (List Datum)) := do
  let env : Env := { db, frames := [{ rows := [some row] }, { rows := [none, none, none] }] }
  let run {α : Type} (m : EvalM α) : Except Failure α :=
    match m with
    | .ok a => .ok a
    | .error (.fault f _) => .error f
    | .error .ignore => .error (sqlError "RAISE() may only be used within a trigger-program")
  match i.filter with
  | some f =>
    let f' ← resolveSelf db t none false f
    if (← run (evalTest evalFuel env f')) != some true then return none
  | none => pure ()
  match i.columns with
  | some cs => return some (cs.map fun c => if t.rowidColumn == some c then .int row.rowid
      else row.values.getD c .null)
  | none =>
    let mut out : List Datum := []
    for term in i.terms do
      let e ← resolveSelf db t none false term.e
      out := out ++ [← run (evalExpr evalFuel env e)]
    return some out

def Index.collations (i : Index) : List Collation :=
  i.terms.map fun term => Collation.ofName term.collation

def keysClash (colls : List Collation) (a b : List Datum) : Bool :=
  a.length == b.length &&
  (List.range a.length).all fun k =>
    let x := a.getD k .null
    let y := b.getD k .null
    !x.isNull && !y.isNull && compareValues (colls.getD k .binary) x y == .eq

def uniqueMessage (t : Table) (i : Index) : String :=
  match i.columns with
  | some cs =>
    "UNIQUE constraint failed: " ++
      ", ".intercalate (cs.map fun c => t.name ++ "." ++ (t.column c).name)
  | none => "UNIQUE constraint failed: index '" ++ i.name ++ "'"

def uniqueFailure (t : Table) (i : Index) : Failure := .database .integrity (uniqueMessage t i)

def checkUniqueRows (db : Database) (t : Table) (i : Index) : Except Failure Unit := do
  let colls := i.collations
  let mut seen : List (List Datum) := []
  for r in t.rows do
    match ← indexKey db t i r with
    | some k =>
      if seen.any (keysClash colls k) then throw (uniqueFailure t i)
      seen := seen ++ [k]
    | none => pure ()

def createIndex (db : Database) (unique ifNotExists : Bool) (schema : Option String)
    (name tableName : String) (terms : List IndexedTerm) (filter : Option Expr) (text : String) :
    Except Failure Database := do
  checkSchema schema
  let t ← match db.table? tableName with
    | some t => pure t
    | none =>
      if (db.view? tableName).isSome then refuse "views may not be indexed"
      else if isSchemaTable tableName then refuse ("table sqlite_master may not be indexed")
      else refuse ("no such table: main." ++ tableName)
  if isReservedName t.name then refuse ("table " ++ t.name ++ " may not be indexed")
  checkObjectName name
  if (db.table? name).isSome || (db.view? name).isSome then
    refuse ("there is already a table named " ++ name)
  if (db.index? name).isSome then
    if ifNotExists then return db else refuse ("index " ++ name ++ " already exists")
  match filter with
  | some f => let _ ← resolveSelf db t (some "partial index WHERE clauses") true f
  | none => pure ()
  let mut cols : List Nat := []
  let mut plain := true
  let mut filled : List IndexedTerm := []
  for term in terms do
    let r ← resolveSelf db t (some "index expressions") true (termAsName term.e)
    match stripCollate r with
    | .column { column := some c, .. } =>
      cols := cols ++ [c]
      let coll := term.collation.getD ((t.column c).collation.getD "BINARY")
      filled := filled ++ [{ term with e := .name [] (t.column c).name false, collation := some coll }]
    | _ =>
      plain := false
      filled := filled ++ [{ term with collation := some (term.collation.getD ((collationOf r).getD "BINARY")) }]
    match term.collation with
    | some c => checkCollation c
    | none => pure ()
  let idx : Index := { name, table := t.name, unique, terms := filled,
                       columns := if plain then some cols else none, filter,
                       origin := .created, text := some text, entry := db.nextEntry }
  if unique then checkUniqueRows db t idx
  return db.putTable { t with indexes := t.indexes ++ [idx] }

/-! ## Views and triggers -/

def createView (db : Database) (hasParameters ifNotExists : Bool) (schema : Option String)
    (name : String) (columns : List String) (q : Query) (text : String) :
    Except Failure Database := do
  if hasParameters then refuse "parameters are not allowed in views"
  if !(← checkNewTableName db ifNotExists schema name) then return db
  return { db with views := db.views ++ [{ name, columns, q, text, entry := db.nextEntry }] }

def createTrigger (db : Database) (ifNotExists : Bool) (schema : Option String) (name : String)
    (time : TriggerTime) (event : TriggerEvent) (table : String) (condition : Option Expr)
    (body : List Statement) (text : String) : Except Failure Database := do
  checkSchema schema
  let isView := (db.view? table).isSome
  if (db.table? table).isNone && !isView && !isSchemaTable table then
    refuse ("no such table: main." ++ table)
  checkObjectName name
  if db.triggers.any (sameName ·.name name) then
    if ifNotExists then return db else refuse ("trigger " ++ name ++ " already exists")
  if isReservedName table then refuse "cannot create trigger on system table"
  if isView && time != .insteadOf then
    refuse ("cannot create " ++ (if time == .before then "BEFORE" else "AFTER") ++
      " trigger on view: " ++ table)
  if !isView && time == .insteadOf then
    refuse ("cannot create INSTEAD OF trigger on table: " ++ table)
  let tr : Trigger := { name, table, time, event, condition, body, text, entry := db.nextEntry }
  return { db with triggers := tr :: db.triggers }

/-! ## Dropping -/

def Database.withoutTable (db : Database) (name : String) : Database :=
  let db := { db with tables := db.tables.filter (!sameName ·.name name),
                      triggers := db.triggers.filter (!sameName ·.table name) }
  match db.table? "sqlite_sequence" with
  | some s => db.putTable { s with rows := s.rows.filter fun r =>
      match r.values with
      | .text n :: _ => !sameName n name
      | _ => true }
  | none => db

def dropObject (db : Database) (kind : ObjectKind) (ifExists : Bool) (schema : Option String)
    (name : String) : Except Failure Database := do
  checkSchema schema
  let shown := match schema with
    | some s => s ++ "." ++ name
    | none => name
  match kind with
  | .table | .view =>
    let isTable := (db.table? name).isSome
    let isView := (db.view? name).isSome
    if isSchemaTable name then refuse "table sqlite_master may not be dropped"
    if !isTable && !isView then
      if ifExists then return db
      refuse ((if kind == .view then "no such view: " else "no such table: ") ++ shown)
    if isTable then
      let t ← db.table name
      let lower := asciiLower t.name
      if lower.startsWith "sqlite_" && !(lower.drop 7).startsWith "stat" then
        refuse ("table " ++ t.name ++ " may not be dropped")
      if kind == .view then refuse ("use DROP TABLE to delete table " ++ t.name)
      return db.withoutTable t.name
    else
      let v := (db.view? name).getD default
      if kind == .table then refuse ("use DROP VIEW to delete view " ++ v.name)
      return { db with views := db.views.filter (!sameName ·.name name),
                       triggers := db.triggers.filter (!sameName ·.table name) }
  | .index =>
    match db.index? name with
    | none => if ifExists then return db else refuse ("no such index: " ++ shown)
    | some (t, i) =>
      if i.origin != .created then
        refuse "index associated with UNIQUE or PRIMARY KEY constraint cannot be dropped"
      return db.putTable { t with indexes := t.indexes.filter (·.name != i.name) }
  | .trigger =>
    if db.triggers.any (sameName ·.name name) then
      return { db with triggers := db.triggers.filter (!sameName ·.name name) }
    if ifExists then return db else refuse ("no such trigger: " ++ shown)

/-! ## Altering tables -/

def renameInText (text old new : String) : String :=
  let quoted := "\"" ++ String.ofList (new.toList.flatMap fun c => if c = '"' then ['"', '"'] else [c]) ++ "\""
  match text.splitOn old with
  | first :: rest =>
    if rest.isEmpty then text else first ++ quoted ++ old.intercalate rest
  | [] => text

def alterable (db : Database) (name : String) : Except Failure Table := do
  match db.table? name with
  | some t =>
    if isReservedName t.name then refuse ("table " ++ t.name ++ " may not be altered")
    return t
  | none =>
    if (db.view? name).isSome then return { name, columns := [] }
    refuse ("no such table: " ++ name)

def renameTable (db : Database) (name newName : String) : Except Failure Database := do
  let isView := (db.view? name).isSome
  let t : Table ← match db.table? name with
    | some t => pure t
    | none => if isView then pure { name, columns := [] } else refuse ("no such table: " ++ name)
  if (db.table? newName).isSome || (db.view? newName).isSome || (db.index? newName).isSome then
    refuse ("there is already another table or index with this name: " ++ newName)
  if isReservedName t.name then refuse ("table " ++ t.name ++ " may not be altered")
  checkObjectName newName
  if isView then refuse ("view " ++ name ++ " may not be altered")
  let t' := { t with name := newName, text := renameInText t.text t.name newName,
                     indexes := t.indexes.map fun (i : Index) => { i with table := newName } }
  let db := { db with tables := db.tables.map fun (u : Table) => if sameName u.name t.name then t' else u,
                      triggers := db.triggers.map fun (tr : Trigger) =>
                        if sameName tr.table t.name then { tr with table := newName } else tr }
  match db.table? "sqlite_sequence" with
  | some s => return db.putTable { s with rows := s.rows.map fun (r : Row) =>
      match r.values with
      | .text n :: more => if sameName n t.name then { r with values := .text newName :: more } else r
      | _ => r }
  | none => return db

def namesColumn : Nat → String → Expr → Bool
  | 0, _, _ => false
  | fuel + 1, c, e =>
    match e with
    | .name _ n _ => sameName n c
    | .unary _ a | .collate a _ | .cast a _ => namesColumn fuel c a
    | .binary _ a b => namesColumn fuel c a || namesColumn fuel c b
    | .between _ a l h => namesColumn fuel c a || namesColumn fuel c l || namesColumn fuel c h
    | .call _ _ args _ | .vector args => args.any (namesColumn fuel c)
    | .inList _ a items => namesColumn fuel c a || items.any (namesColumn fuel c)
    | .inQuery _ a _ => namesColumn fuel c a
    | .case o arms els =>
      (o.map (namesColumn fuel c)).getD false ||
      arms.any (fun (w, t) => namesColumn fuel c w || namesColumn fuel c t) ||
      (els.map (namesColumn fuel c)).getD false
    | _ => false

def defaultOf (db : Database) (c : Column) : Except Failure Datum :=
  match c.default with
  | some e =>
    match evalExpr evalFuel { db } e with
    | .ok v => .ok (Datum.stored c.affinity v)
    | .error (.fault f _) => .error f
    | .error .ignore => .ok .null
  | none => .ok .null

def addColumnTo (db : Database) (name : String) (cd : ColumnDef) (text : String) :
    Except Failure Database := do
  let t ← match db.table? name with
    | some t => pure t
    | none =>
      if (db.view? name).isSome then refuse "Cannot add a column to a view"
      else refuse ("no such table: " ++ name)
  if isReservedName t.name then refuse ("table " ++ t.name ++ " may not be altered")
  let d : TableDraft := { table := { t with indexes := [] }, hasPrimaryKey := !t.primaryKey.isEmpty }
  let d ← d.addColumn db cd
  let col := d.lastColumn
  if col.primaryKey then refuse "Cannot add a PRIMARY KEY column"
  if !d.table.indexes.isEmpty then refuse "Cannot add a UNIQUE column"
  let occupied := !t.rows.isEmpty
  let notEmpty (m : String) : Except Failure Unit :=
    if occupied then .error (.database .integrity m) else .ok ()
  if col.generated.isNone then
    let dflt := match col.default with
      | some (.lit .null) => none
      | other => other
    if col.notNull.isSome && dflt.isNone then
      notEmpty "Cannot add a NOT NULL column with default value NULL"
    match dflt with
    | some e =>
      if !(constantWithin 400 e && !(hasCall e)) then
        notEmpty "Cannot add a column with non-constant default"
    | none => pure ()
  let value ← defaultOf db col
  let closing := (t.text.toList.reverse.findIdx? (· = ')')).getD 0
  let cut := t.text.length - 1 - closing
  let newText := String.ofList (t.text.toList.take cut) ++ ", " ++ trimmedSpan text ++
    String.ofList (t.text.toList.drop cut)
  let t' := { t with columns := t.columns ++ [col], checks := d.table.checks, text := newText,
                     rows := t.rows.map fun r => { r with values := r.values ++ [value] } }
  return db.putTable t'
where
  /-- Whether a default calls a function, which a new column's default may not. -/
  hasCall (e : Expr) : Bool :=
    match e with
    | .call .. => true
    | .unary _ a => hasCall a
    | _ => false

def dropColumnFrom (db : Database) (name column : String) : Except Failure Database := do
  let t ← match db.table? name with
    | some t => pure t
    | none =>
      if (db.view? name).isSome then refuse ("cannot drop column from view \"" ++ name ++ "\"")
      else refuse ("no such table: " ++ name)
  if isReservedName t.name then refuse ("table " ++ t.name ++ " may not be altered")
  let some k := t.columnIndex? column | refuse ("no such column: \"" ++ column ++ "\"")
  let c := t.column k
  if c.primaryKey then refuse ("cannot drop PRIMARY KEY column: \"" ++ c.name ++ "\"")
  if c.unique then refuse ("cannot drop UNIQUE column: \"" ++ c.name ++ "\"")
  if t.columns.length ≤ 1 then
    refuse ("cannot drop column \"" ++ c.name ++ "\": no other columns exist")
  for i in t.indexes do
    if i.terms.any (fun term => namesColumn 400 c.name term.e) ||
        (i.filter.map (namesColumn 400 c.name)).getD false then
      refuse ("error in index " ++ i.name ++ " after drop column: no such column: " ++ c.name)
  for (_, e, _) in t.checks do
    if namesColumn 400 c.name e then
      refuse ("error in table " ++ t.name ++ " after drop column: no such column: " ++ c.name)
  let keep (xs : List Datum) := (List.range xs.length).filterMap fun j =>
    if j == k then none else xs[j]?
  let shift (j : Nat) := if j > k then j - 1 else j
  let t' := { t with
    columns := t.columns.eraseIdx k,
    rowidColumn := t.rowidColumn.map shift,
    primaryKey := t.primaryKey.map shift,
    indexes := t.indexes.map fun i => { i with columns := i.columns.map (·.map shift) },
    rows := t.rows.map fun r => { r with values := keep r.values } }
  return db.putTable t'

def renameColumnOf (db : Database) (name old new : String) : Except Failure Database := do
  let t ← match db.table? name with
    | some t => pure t
    | none =>
      if (db.view? name).isSome then refuse ("cannot rename columns of view \"" ++ name ++ "\"")
      else refuse ("no such table: " ++ name)
  if isReservedName t.name then refuse ("table " ++ t.name ++ " may not be altered")
  let some k := t.columnIndex? old | refuse ("no such column: \"" ++ old ++ "\"")
  if t.columns.any (sameName ·.name new) then refuse ("duplicate column name: " ++ new)
  let oldName := (t.column k).name
  let rename (e : Expr) : Expr := match e with
    | .name q n dq => if sameName n oldName then .name q new dq else e
    | _ => e
  let t' := { t with
    columns := t.columns.mapIdx fun j c => if j == k then { c with name := new } else c,
    indexes := t.indexes.map fun i => { i with terms := i.terms.map fun term =>
      { term with e := rename term.e } } }
  return db.putTable t'

def alterTable (db : Database) (schema : Option String) (name : String) (change : Alteration) :
    Except Failure Database := do
  checkSchema schema
  match change with
  | .renameTable n => renameTable db name n
  | .addColumn cd text => addColumnTo db name cd text
  | .dropColumn c => dropColumnFrom db name c
  | .renameColumn o n => renameColumnOf db name o n

end CatalogSync.Sql
