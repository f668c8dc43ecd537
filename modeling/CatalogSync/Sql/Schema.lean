import CatalogSync.Failure
import CatalogSync.Sql.Syntax

/-!
# Schemas and stored rows

A `Database` holds tables, views and triggers, and the numbers a connection keeps with the
file (`user_version`).

A table has columns, a row number for each row unless it is declared `WITHOUT ROWID`, and
its indexes in the order their uniqueness is checked: the index created last is checked
first, except that indexes that replace conflicting rows come after the others. A column
declared `INTEGER PRIMARY KEY` holds the row number itself. A table's `PRIMARY KEY` and
`UNIQUE` constraints make indexes of their own, named `sqlite_autoindex_<table>_<n>`.

Rows are kept in the order of their row numbers, or of their primary key in a table without
row numbers. Names of tables, columns, indexes and triggers are matched without regard to
ASCII case.
-/

namespace CatalogSync.Sql

/-- A column of a table. -/
structure Column where
  name : String
  /-- The type as declared. -/
  type : String
  affinity : Affinity
  /-- The collation the column compares under, when declared. -/
  collation : Option String := none
  /-- Whether the column may not hold null, and how a null is resolved. -/
  notNull : Option (Option Resolution) := none
  /-- The default value. -/
  default : Option Expr := none
  /-- The expression of a generated column. -/
  generated : Option Expr := none
  /-- Whether the column belongs to the primary key. -/
  primaryKey : Bool := false
  /-- Whether the column's own definition declares it `UNIQUE` or `PRIMARY KEY`. -/
  unique : Bool := false
  deriving Inhabited

/-- Where an index comes from. -/
inductive IndexOrigin where
  /-- `CREATE INDEX`. -/
  | created
  /-- A `UNIQUE` constraint. -/
  | unique
  /-- A `PRIMARY KEY` constraint. -/
  | primaryKey
  deriving DecidableEq, Repr, Inhabited

/-- An index of a table. -/
structure Index where
  name : String
  table : String
  unique : Bool
  /-- The indexed terms: column names or expressions. -/
  terms : List IndexedTerm
  /-- The columns of the terms that are plain column names, or none when a term is an
  expression. -/
  columns : Option (List Nat)
  conflict : Option Resolution := none
  filter : Option Expr := none
  origin : IndexOrigin
  /-- The statement that created it, for indexes that `CREATE INDEX` made. -/
  text : Option String := none
  /-- Its place in the schema, in the order objects were created. -/
  entry : Nat := 0
  deriving Inhabited

/-- A stored row: its row number and its values, one per column. -/
structure Row where
  rowid : Int
  values : List Datum
  deriving Inhabited

/-- A table. -/
structure Table where
  name : String
  columns : List Column
  /-- The column that holds the row number, if one does. -/
  rowidColumn : Option Nat := none
  withoutRowid : Bool := false
  strict : Bool := false
  autoincrement : Bool := false
  /-- How a conflict on the row number is resolved. -/
  rowidConflict : Option Resolution := none
  /-- The primary key's columns. -/
  primaryKey : List Nat := []
  /-- The `CHECK` constraints: name, expression and the expression's text. -/
  checks : List (Option String × Expr × String) := []
  indexes : List Index := []
  rows : List Row := []
  /-- The statement that created it. -/
  text : String := ""
  /-- Its place in the schema, in the order objects were created. -/
  entry : Nat := 0
  deriving Inhabited

/-- A view. -/
structure View where
  name : String
  columns : List String
  q : Query
  text : String
  entry : Nat := 0
  deriving Inhabited

/-- A trigger. -/
structure Trigger where
  name : String
  table : String
  time : TriggerTime
  event : TriggerEvent
  condition : Option Expr
  body : List Statement
  text : String
  entry : Nat := 0
  deriving Inhabited

/-- A database: its tables in the order they were created, views, triggers with the latest
first, and the user version. -/
structure Database where
  tables : List Table := []
  views : List View := []
  triggers : List Trigger := []
  userVersion : Int := 0
  deriving Inhabited

def Database.empty : Database := {}

def noSuchTable (name : String) : Failure := sqlError ("no such table: " ++ name)

def isRowidName (n : String) : Bool :=
  let u := asciiUpper n
  u == "ROWID" || u == "OID" || u == "_ROWID_"

namespace Table

def columnIndex? (t : Table) (c : String) : Option Nat := t.columns.findIdx? (sameName ·.name c)

def column (t : Table) (i : Nat) : Column := t.columns.getD i default

def maxRowid (t : Table) : Int := t.rows.foldl (fun m r => max m r.rowid) 0

def row? (t : Table) (rowid : Int) : Option Row := t.rows.find? (·.rowid == rowid)

def insertRow (t : Table) (r : Row) : Table :=
  { t with rows := t.rows.filter (·.rowid < r.rowid) ++ [r] ++ t.rows.filter (·.rowid > r.rowid) }

def deleteRow (t : Table) (rowid : Int) : Table :=
  { t with rows := t.rows.filter (·.rowid != rowid) }

def replaceRow (t : Table) (rowid : Int) (r : Row) : Table :=
  (t.deleteRow rowid).insertRow r

def isInternal (t : Table) : Bool := (asciiLower t.name).startsWith "sqlite_"

def checkOrder (t : Table) : List Index :=
  let latest := t.indexes.mergeSort fun a b => b.entry ≤ a.entry
  latest.filter (·.conflict != some .replace) ++ latest.filter (·.conflict == some .replace)

def primaryIndex? (t : Table) : Option Index := t.indexes.find? (·.origin == .primaryKey)

end Table

namespace Database

def table? (db : Database) (name : String) : Option Table :=
  db.tables.find? (sameName ·.name name)

def view? (db : Database) (name : String) : Option View :=
  db.views.find? (sameName ·.name name)

def table (db : Database) (name : String) : Except Failure Table :=
  match db.table? name with
  | some t => .ok t
  | none => .error (noSuchTable name)

def putTable (db : Database) (t : Table) : Database :=
  { db with tables := db.tables.map fun u => if sameName u.name t.name then t else u }

def index? (db : Database) (name : String) : Option (Table × Index) :=
  db.tables.findSome? fun t => (t.indexes.find? (sameName ·.name name)).map (t, ·)

def triggersOn (db : Database) (table : String) : List Trigger :=
  (db.triggers.filter (sameName ·.table table)).mergeSort fun a b => b.entry ≤ a.entry

def nextEntry (db : Database) : Nat :=
  let tables := db.tables.foldl (fun m t => t.indexes.foldl (fun m i => max m i.entry) (max m t.entry)) 0
  let views := db.views.foldl (fun m v => max m v.entry) tables
  db.triggers.foldl (fun m tr => max m tr.entry) views + 1

def nameInUse (db : Database) (name : String) : Bool :=
  (db.table? name).isSome || (db.view? name).isSome || (db.index? name).isSome ||
  db.triggers.any (sameName ·.name name)

end Database

end CatalogSync.Sql
