import CatalogSync.Sql.Datum

/-!
# Statements

The statements and expressions of the database's language, as read from text and, for
expressions, after their names are resolved.

Expressions are literals (number literals keep their text, because a minus sign in front of
one changes how it is read), parameters, names, the unary and binary operators, `COLLATE`,
`CAST`, function calls (the `LIKE`, `GLOB`, `REGEXP`, `MATCH`, `->` and `->>` operators are
calls too, under the word written), `BETWEEN`, `IN` over a list or a query, `EXISTS`, scalar
queries, `CASE`, `RAISE` and row values. Resolving a statement replaces each name by a
`ColumnRef` and each aggregate call, in a grouped query, by the slot it is computed in.

Queries are compounds of `SELECT` and `VALUES` cores with `ORDER BY` and `LIMIT`, under
common table expressions. Statements are queries, `INSERT`, `UPDATE`, `DELETE`, the
`CREATE`, `DROP` and `ALTER` statements, the transaction statements and `PRAGMA`.
-/

namespace CatalogSync.Sql

/-- Operators of one operand. -/
inductive UnaryOp where
  | neg
  | pos
  | not
  | bitNot
  /-- `IS NULL`, `ISNULL`. -/
  | isNull
  /-- `IS NOT NULL`, `NOTNULL`, `NOT NULL`. -/
  | notNull
  deriving DecidableEq, Repr, Inhabited

/-- Operators of two operands. -/
inductive BinaryOp where
  | or
  | and
  | eq
  | ne
  | lt
  | le
  | gt
  | ge
  | is
  | isNot
  | add
  | sub
  | mul
  | div
  | mod
  | concat
  | bitAnd
  | bitOr
  | shl
  | shr
  deriving DecidableEq, Repr, Inhabited

def BinaryOp.isComparison : BinaryOp → Bool
  | .eq | .ne | .lt | .le | .gt | .ge | .is | .isNot => true
  | _ => false

/-- What a `RAISE` does. -/
inductive RaiseKind where
  | ignore
  | rollback
  | abort
  | fail
  deriving DecidableEq, Repr, Inhabited

/-- A resolved column: which scope it belongs to (0 the innermost), which source of that
scope, which column (none for the row number), and how it compares. -/
structure ColumnRef where
  level : Nat
  source : Nat
  column : Option Nat
  affinity : Option Affinity
  collation : Option String
  deriving Repr, Inhabited

/-- The order of a sort key. -/
structure SortOrder where
  descending : Bool := false
  /-- `NULLS FIRST` (true) or `NULLS LAST` (false), when written. -/
  nullsFirst : Option Bool := none
  deriving Repr, Inhabited

/-- How two query cores combine. -/
inductive CompoundOp where
  | unionAll
  | union
  | intersect
  | except
  deriving DecidableEq, Repr, Inhabited

/-- How a source joins the ones before it. -/
inductive JoinKind where
  | inner
  | left
  | right
  | full
  | cross
  deriving DecidableEq, Repr, Inhabited

mutual

/-- An expression. -/
inductive Expr where
  /-- A literal value: null, a text, a byte string. -/
  | lit (d : Datum)
  /-- A number literal as written. -/
  | num (text : String)
  /-- A parameter, numbered from one. -/
  | param (index : Nat)
  /-- A name, with its qualifiers (schema, table) and whether it was in double quotes. -/
  | name (qualifiers : List String) (name : String) (doubleQuoted : Bool)
  /-- A resolved column. -/
  | column (ref : ColumnRef)
  | unary (op : UnaryOp) (e : Expr)
  | binary (op : BinaryOp) (a b : Expr)
  | collate (e : Expr) (collation : String)
  /-- `CAST(e AS type)`, with the type as written. -/
  | cast (e : Expr) (type : String)
  /-- A function call under the name written; `star` for `f(*)`. -/
  | call (name : String) (distinct : Bool) (args : List Expr) (star : Bool)
  /-- An aggregate call replaced by the slot it is computed in. -/
  | aggregate (slot : Nat)
  | between (negated : Bool) (e low high : Expr)
  | inList (negated : Bool) (e : Expr) (items : List Expr)
  | inQuery (negated : Bool) (e : Expr) (q : Query)
  | «exists» (q : Query)
  /-- A query giving one value. -/
  | scalar (q : Query)
  | case (operand : Option Expr) (arms : List (Expr × Expr)) (otherwise : Option Expr)
  | raise (kind : RaiseKind) (message : String)
  /-- A row value `(a, b, …)`. -/
  | vector (items : List Expr)

/-- A query. -/
inductive Query where
  | mk (ctes : List Cte) (first : Core) (rest : List (CompoundOp × Core))
    (orderBy : List (Expr × SortOrder)) (limit : Option Expr) (offset : Option Expr)

/-- A common table expression: its name, its column names and its query. -/
inductive Cte where
  | mk (name : String) (columns : List String) (q : Query)

/-- A core of a query. Once resolved, `aggregates` holds the aggregate calls the core
computes for each group, in the order of their slots. -/
inductive Core where
  | select (distinct : Bool) (columns : List ResultColumn) (sources : List JoinItem)
    (filter : Option Expr) (groupBy : List Expr) (having : Option Expr)
    (aggregates : List Expr)
  | values (rows : List (List Expr))

/-- A result column. -/
inductive ResultColumn where
  /-- `*`. -/
  | all
  /-- `table.*`. -/
  | allOf (table : String)
  /-- An expression, its alias, and its text as written. -/
  | expr (e : Expr) (aliasName : Option String) (span : String)

/-- A source of a query and how it joins the ones before it. -/
inductive JoinItem where
  | mk (kind : JoinKind) (natural : Bool) (source : Source) (on : Option Expr)
    (usingColumns : List String)

/-- A source of rows. -/
inductive Source where
  /-- A table or view, with its schema and alias. -/
  | table (schema : Option String) (name : String) (aliasName : Option String)
  /-- A query in brackets, with its alias. -/
  | subquery (q : Query) (aliasName : Option String)
  /-- A bracketed list of sources. -/
  | group (items : List JoinItem) (aliasName : Option String)

end

instance : Inhabited Expr := ⟨.lit .null⟩

instance : Inhabited Query := ⟨.mk [] (.values []) [] [] none none⟩

instance : Inhabited Core := ⟨.values []⟩

instance : Inhabited ResultColumn := ⟨.all⟩

instance : Inhabited Source := ⟨.table none "" none⟩

instance : Inhabited JoinItem := ⟨.mk .inner false default none []⟩

instance : Inhabited Cte := ⟨.mk "" [] default⟩

/-- How a statement resolves a constraint conflict. -/
inductive Resolution where
  | abort
  | fail
  | ignore
  | replace
  | rollback
  deriving DecidableEq, Repr, Inhabited

/-- What an insert does when a row conflicts: the conflict target (columns, with an
optional condition), and the update to make or none for `DO NOTHING`. -/
structure Upsert where
  target : Option (List Expr × Option Expr)
  update : Option (List (List String × Expr) × Option Expr)
  deriving Inhabited

/-- Where an insert's rows come from. -/
inductive InsertSource where
  | values (rows : List (List Expr))
  | query (q : Query)
  | defaults
  deriving Inhabited

/-- A column definition's constraint. -/
inductive ColumnConstraint where
  | primaryKey (descending : Bool) (conflict : Option Resolution) (autoincrement : Bool)
  | notNull (conflict : Option Resolution)
  | unique (conflict : Option Resolution)
  | check (e : Expr) (span : String)
  /-- A default: the expression and whether it was a bare literal. -/
  | default (e : Expr)
  | collate (name : String)
  | references (table : String)
  | generated (e : Expr) (stored : Bool)
  deriving Inhabited

/-- A column definition: its name, its type as written, and its constraints with their
names. -/
structure ColumnDef where
  name : String
  type : String
  constraints : List (Option String × ColumnConstraint)
  deriving Inhabited

/-- An indexed term: an expression (a column name or more), its collation and order. -/
structure IndexedTerm where
  e : Expr
  collation : Option String
  order : SortOrder
  deriving Inhabited

/-- A table constraint. -/
inductive TableConstraint where
  | primaryKey (terms : List IndexedTerm) (conflict : Option Resolution) (autoincrement : Bool)
  | unique (terms : List IndexedTerm) (conflict : Option Resolution)
  | check (e : Expr) (span : String)
  | foreignKey (columns : List String) (table : String)
  deriving Inhabited

/-- When a trigger runs. -/
inductive TriggerTime where
  | before
  | after
  | insteadOf
  deriving DecidableEq, Repr, Inhabited

/-- What a trigger runs on. -/
inductive TriggerEvent where
  | insert
  /-- An update, of any column or of the listed ones. -/
  | update (columns : Option (List String))
  | delete
  deriving Repr, Inhabited

/-- What `ALTER TABLE` does. -/
inductive Alteration where
  | renameTable (newName : String)
  | renameColumn (old new : String)
  /-- A new column, with its definition's text. -/
  | addColumn (def_ : ColumnDef) (text : String)
  | dropColumn (name : String)
  deriving Inhabited

/-- What kind of object `DROP` drops. -/
inductive ObjectKind where
  | table
  | index
  | view
  | trigger
  deriving DecidableEq, Repr, Inhabited

/-- How a transaction begins. -/
inductive BeginKind where
  | deferred
  | immediate
  | exclusive
  deriving DecidableEq, Repr, Inhabited

/-- The value given to a pragma. -/
inductive PragmaValue where
  | assign (v : String)
  | call (v : String)
  deriving Inhabited

/-- A statement. -/
inductive Statement where
  | select (q : Query)
  | insert (ctes : List Cte) (conflict : Option Resolution) (schema : Option String)
    (table : String) (aliasName : Option String) (columns : Option (List String))
    (source : InsertSource) (upserts : List Upsert) (returning : List ResultColumn)
  | update (ctes : List Cte) (conflict : Option Resolution) (schema : Option String)
    (table : String) (aliasName : Option String) (sets : List (List String × Expr))
    (sources : List JoinItem) (filter : Option Expr) (returning : List ResultColumn)
    (orderBy : List (Expr × SortOrder)) (limit : Option Expr) (offset : Option Expr)
  | delete (ctes : List Cte) (schema : Option String) (table : String) (aliasName : Option String)
    (filter : Option Expr) (returning : List ResultColumn)
    (orderBy : List (Expr × SortOrder)) (limit : Option Expr) (offset : Option Expr)
  | createTable (temp : Bool) (ifNotExists : Bool) (schema : Option String) (name : String)
    (columns : List ColumnDef) (constraints : List (Option String × TableConstraint))
    (withoutRowid strict : Bool) (text : String)
  | createTableAs (temp : Bool) (ifNotExists : Bool) (schema : Option String) (name : String)
    (q : Query)
  | createIndex (unique : Bool) (ifNotExists : Bool) (schema : Option String) (name : String)
    (table : String) (terms : List IndexedTerm) (filter : Option Expr) (text : String)
  | createView (temp : Bool) (ifNotExists : Bool) (schema : Option String) (name : String)
    (columns : List String) (q : Query) (text : String)
  | createTrigger (temp : Bool) (ifNotExists : Bool) (schema : Option String) (name : String)
    (time : TriggerTime) (event : TriggerEvent) (table : String) (condition : Option Expr)
    (body : List Statement) (text : String)
  | drop (kind : ObjectKind) (ifExists : Bool) (schema : Option String) (name : String)
  | alter (schema : Option String) (table : String) (change : Alteration)
  | begin (kind : BeginKind)
  | commit
  | rollback (savepoint : Option String)
  | savepoint (name : String)
  | release (name : String)
  | pragma (schema : Option String) (name : String) (value : Option PragmaValue)
  | vacuum
  | analyze
  | reindex
  /-- `EXPLAIN` or `EXPLAIN QUERY PLAN` of a statement: nothing is run. -/
  | explain (s : Statement)
  deriving Inhabited

end CatalogSync.Sql
