import CatalogSync.Sql.Schema
import CatalogSync.Sql.Registry
import CatalogSync.Sql.Numeric

/-!
# Resolving names

Before a statement runs, every name in it is bound to the column it means, and every check
that does not depend on the data is made. `resolveQuery` binds the names of a query:

* the sources of each core are looked up first (common table expressions, views and tables,
  `no such table` otherwise), and `*` is expanded;
* then, core by core from the last to the first, the result columns, `HAVING`, `WHERE` with
  the join conditions, `ORDER BY` and `GROUP BY`, each failing with the last error found in
  it, and a list of expressions stopping at the first expression that has one;
* a name is looked for in the sources of the innermost query first, then outward; a name
  found in two sources of one query is ambiguous; `rowid` names the row number of the only
  source; the aliases of the result columns can be named in `WHERE`, `HAVING`, `ORDER BY`
  and `GROUP BY`; an unknown name in double quotes is a text, and `true` and `false` are 1
  and 0;
* `new.x`, `old.x` in a trigger and `excluded.x` in an upsert name the rows of the
  statement (the `pseudo` rows);
* a call is checked against `lookupFunction`, and aggregate calls become the slots of the
  core that computes them.

Resolved expressions keep the shape of `Expr`, with `column` references in place of names;
`exprAffinity` and `exprCollation` give what a comparison of them converts and compares
under.
-/

namespace CatalogSync.Sql

/-! ## Affinity and collation of expressions -/

mutual

def hasCollate : Expr → Bool
  | .collate _ _ => true
  | .unary _ a => hasCollate a
  | .binary _ a b => hasCollate a || hasCollate b
  | .cast a _ => hasCollate a
  | .call _ _ args _ => anyCollate args
  | .between _ a l h => hasCollate a || hasCollate l || hasCollate h
  | .inList _ a items => hasCollate a || anyCollate items
  | .inQuery _ a _ => hasCollate a
  | .case o arms e =>
    (match o with
      | some x => hasCollate x
      | none => false) || armsCollate arms ||
    (match e with
      | some x => hasCollate x
      | none => false)
  | .vector items => anyCollate items
  | _ => false

def anyCollate : List Expr → Bool
  | [] => false
  | e :: es => hasCollate e || anyCollate es

def armsCollate : List (Expr × Expr) → Bool
  | [] => false
  | (a, b) :: rest => hasCollate a || hasCollate b || armsCollate rest

end

def firstCollated : List Expr → Option Expr
  | [] => none
  | e :: es => if hasCollate e then some e else firstCollated es

/-- The collation an expression compares under, if it has one: a column's (its declared
one or `BINARY`), an explicit `COLLATE`, or the first one found in the operands that
carry an explicit `COLLATE`. -/
def exprCollation : Nat → Expr → Option String
  | 0, _ => none
  | fuel + 1, e =>
    match e with
    | .column r => r.collation
    | .cast a _ | .unary .pos a => exprCollation fuel a
    | .vector (a :: _) => exprCollation fuel a
    | .collate _ c => some c
    | _ =>
      if !hasCollate e then none
      else
        match e with
        | .unary _ a => exprCollation fuel a
        | .binary _ a b => if hasCollate a then exprCollation fuel a else exprCollation fuel b
        | .between _ a l h =>
          if hasCollate a then exprCollation fuel a
          else (firstCollated [l, h]).bind (exprCollation fuel)
        | .inList _ a items =>
          if hasCollate a then exprCollation fuel a
          else (firstCollated items).bind (exprCollation fuel)
        | .inQuery _ a _ => exprCollation fuel a
        | .call _ _ args _ => (firstCollated args).bind (exprCollation fuel)
        | .case o arms els =>
          match o with
          | some x =>
            if hasCollate x then exprCollation fuel x
            else (firstCollated (arms.flatMap (fun (p, q) => [p, q]) ++ els.toList)).bind
              (exprCollation fuel)
          | none => (firstCollated (arms.flatMap (fun (p, q) => [p, q]) ++ els.toList)).bind
              (exprCollation fuel)
        | _ => none

def collationOf (e : Expr) : Option String := exprCollation 64 e

def compareCollation (a b : Expr) : Option String :=
  if hasCollate a then collationOf a
  else if hasCollate b then collationOf b
  else (collationOf a).orElse fun _ => collationOf b

def Query.lastFirstExpr : Query → Option Expr
  | .mk _ first rest _ _ _ =>
    let c := match rest.getLast? with
      | some (_, c) => c
      | none => first
    match c with
    | .select _ (.expr e _ _ :: _) _ _ _ _ _ => some e
    | .values ((e :: _) :: _) => some e
    | _ => none

/-- The affinity an expression has, if any: a column's, a cast's type's, a scalar query's
first column's. -/
def exprAffinity : Nat → Expr → Option Affinity
  | 0, _ => none
  | fuel + 1, e =>
    match e with
    | .column r => r.affinity
    | .collate a _ => exprAffinity fuel a
    | .cast _ ty => some (Affinity.ofType ty)
    | .scalar q => (q.lastFirstExpr).bind (exprAffinity fuel)
    | .vector (a :: _) => exprAffinity fuel a
    | _ => none

def affinityOf (e : Expr) : Option Affinity := exprAffinity 64 e

/-- The affinity a comparison of two expressions converts its operands to: numeric when
both have an affinity and one of them is numeric, none when both have one and neither is,
and otherwise the one that is there. -/
def comparisonAffinity (a b : Expr) : Option Affinity :=
  match affinityOf a, affinityOf b with
  | some x, some y => if x.isNumeric || y.isNumeric then some .numeric else some .blob
  | some x, none => some x
  | none, some y => some y
  | none, none => none

/-! ## Scopes -/

/-- A column as names see it. -/
structure VisibleColumn where
  name : String
  affinity : Option Affinity
  collation : Option String
  /-- Left out of `*` and of unqualified names: the right column of a `USING` pair. -/
  hidden : Bool := false
  deriving Inhabited

/-- A source of rows as names see it. -/
structure Visible where
  name : String
  /-- Whether the source is a table or view of the database, reachable as `main.name`. -/
  isTable : Bool
  columns : List VisibleColumn
  hasRowid : Bool
  deriving Inhabited

def Table.visible (t : Table) (aliasName : Option String) : Visible :=
  { name := aliasName.getD t.name, isTable := true, hasRowid := !t.withoutRowid,
    columns := t.columns.map fun c =>
      { name := c.name, affinity := some c.affinity,
        collation := some (c.collation.getD "BINARY") } }

def schemaColumns : List Column :=
  [{ name := "type", type := "text", affinity := .text },
   { name := "name", type := "text", affinity := .text },
   { name := "tbl_name", type := "text", affinity := .text },
   { name := "rootpage", type := "int", affinity := .integer },
   { name := "sql", type := "text", affinity := .text }]

def isSchemaTable (n : String) : Bool :=
  sameName n "sqlite_master" || sameName n "sqlite_schema"

/-- One level of names: the sources of a query, and the result columns whose aliases may
be named. -/
structure Scope where
  sources : List Visible
  /-- Explicit aliases of the result columns with their resolved expressions. -/
  results : List (Option String × Expr) := []
  useResults : Bool := false
  allowAggregates : Bool := false
  deriving Inhabited

/-- What resolution knows: the database, the scopes from the innermost out, the pseudo rows
(`old`, `new`, `excluded`, each present or not), and the common table expressions in reach. -/
structure Names where
  db : Database
  scopes : List Scope := []
  pseudo : List (Option Visible) := [none, none, none]
  ctes : List Cte := []
  /-- The part of a definition the expression belongs to, when it is one: a `CHECK`
  constraint, a generated column, an index expression. Such an expression may not hold
  subqueries or parameters. -/
  restriction : Option String := none
  /-- Whether functions whose value may change from call to call are refused. -/
  deterministicOnly : Bool := false

def pseudoNames : List String := ["old", "new", "excluded"]

/-- What resolution has found so far: the errors, the latest first, and the aggregate calls
of the core being resolved. -/
structure ResolveState where
  errors : List String := []
  aggregates : List Expr := []

abbrev ResolveM := StateT ResolveState (Except Failure)

def note (m : String) : ResolveM Unit := modify fun s => { s with errors := m :: s.errors }

def abortWith {α : Type} (m : String) : ResolveM α := throw (sqlError m)

def settled {α : Type} (act : ResolveM α) : ResolveM α := do
  let saved := (← get).errors
  modify fun s => { s with errors := [] }
  let r ← act
  match (← get).errors with
  | m :: _ => throw (sqlError m)
  | [] =>
    modify fun s => { s with errors := saved }
    return r

def recorded {α : Type} (fallback : α) (act : ResolveM α) : ResolveM α := do
  let s ← get
  match act.run s with
  | .ok (r, s') => set s'; return r
  | .error f => note f.message; return fallback

def refTo (level source : Nat) (v : Visible) (c : Nat) : Expr :=
  let col := v.columns.getD c default
  .column { level, source, column := some c, affinity := col.affinity,
            collation := col.collation }

def rowidRef (level source : Nat) : Expr :=
  .column { level, source, column := none, affinity := some .integer, collation := none }

def matchingColumns (v : Visible) (name : String) (qualified : Bool) : List Nat :=
  (List.range v.columns.length).filter fun c =>
    let col := v.columns.getD c default
    sameName col.name name && (qualified || !col.hidden)

def holdsAggregate : Expr → Bool
  | .aggregate _ => true
  | .unary _ a | .collate a _ | .cast a _ => holdsAggregate a
  | .binary _ a b => holdsAggregate a || holdsAggregate b
  | .call _ _ args _ => args.attach.any fun ⟨a, _⟩ => holdsAggregate a
  | .between _ a l h => holdsAggregate a || holdsAggregate l || holdsAggregate h
  | .inList _ a items => holdsAggregate a || items.attach.any fun ⟨x, _⟩ => holdsAggregate x
  | .inQuery _ a _ => holdsAggregate a
  | .case o arms e =>
    (o.attach.any fun ⟨x, _⟩ => holdsAggregate x) ||
    (arms.attach.any fun ⟨(p, q), _⟩ => holdsAggregate p || holdsAggregate q) ||
    (e.attach.any fun ⟨x, _⟩ => holdsAggregate x)
  | .vector items => items.attach.any fun ⟨x, _⟩ => holdsAggregate x
  | _ => false
decreasing_by
  all_goals simp_wf
  all_goals first
    | omega
    | (have h := List.sizeOf_lt_of_mem ‹_ ∈ _›; omega)
    | (have h := List.sizeOf_lt_of_mem ‹_ ∈ _›; simp_all; omega)
    | (cases o <;> simp_all <;> omega)

def searchScopes (nm : Names) (schema table : Option String) (name : String) :
    Nat → List Scope → ResolveM (Option Expr)
  | _, [] => return none
  | level, sc :: rest => do
    let schemaOk := match schema with
      | none => true
      | some s => sameName s "main"
    let cands := (List.range sc.sources.length).filter fun j =>
      let v := sc.sources.getD j default
      schemaOk && match table with
        | none => true
        | some t => sameName t v.name && (schema.isNone || v.isTable)
    let found := cands.flatMap fun j =>
      (matchingColumns (sc.sources.getD j default) name table.isSome).map (j, ·)
    match found with
    | [(j, c)] => return some (refTo level j (sc.sources.getD j default) c)
    | _ :: _ :: _ =>
      let shown := match schema, table with
        | some s, some t => s ++ "." ++ t ++ "." ++ name
        | _, some t => t ++ "." ++ name
        | _, none => name
      note ("ambiguous column name: " ++ shown)
      return some (.lit .null)
    | [] =>
      -- the rows of a trigger or an upsert, reached by their names
      let pseudoHit : Option Expr := match schema, table with
        | none, some t =>
          ((List.range 3).findSome? fun k =>
            match nm.pseudo.getD k none with
            | some v =>
              if sameName t (pseudoNames.getD k "") then
                match matchingColumns v name true with
                | c :: _ => some (refTo nm.scopes.length k v c)
                | [] => if isRowidName name && v.hasRowid then some (rowidRef nm.scopes.length k)
                        else none
              else none
            | none => none)
        | _, _ => none
      match pseudoHit with
      | some e => return some e
      | none =>
        let rowidHit : Option Expr := match cands with
          | [j] => if isRowidName name && (sc.sources.getD j default).hasRowid then
                     some (rowidRef level j) else none
          | _ => none
        match rowidHit with
        | some e => return some e
        | none =>
          let aliasHit := if table.isNone && sc.useResults && level == 0 then
              sc.results.find? fun (a, _) => match a with
                | some a => sameName a name
                | none => false
            else none
          match aliasHit with
          | some (_, e) =>
            if !sc.allowAggregates && holdsAggregate e then
              abortWith ("misuse of aliased aggregate " ++ name)
            return some e
          | none => searchScopes nm schema table name (level + 1) rest

def refuseSubquery (nm : Names) : ResolveM Unit :=
  match nm.restriction with
  | some r => note ("subqueries prohibited in " ++ r)
  | none => pure ()

def resolveName (nm : Names) (qualifiers : List String) (name : String) (doubleQuoted : Bool) :
    ResolveM Expr := do
  let (schema, table) := match qualifiers with
    | [] => (none, none)
    | [t] => (none, some t)
    | s :: t :: _ => (some s, some t)
  match ← searchScopes nm schema table name 0 nm.scopes with
  | some e => return e
  | none =>
    if table.isNone && doubleQuoted then return .lit (.text name)
    if table.isNone && sameName name "true" then return .lit (.int 1)
    if table.isNone && sameName name "false" then return .lit (.int 0)
    let shown := match schema, table with
      | some s, some t => s ++ "." ++ t ++ "." ++ name
      | _, some t => t ++ "." ++ name
      | _, none => name
    note ("no such column: " ++ shown)
    return .lit .null

def isProbability : Expr → Bool
  | .num t =>
    (t.contains '.' || t.contains 'e' || t.contains 'E') && !(t.startsWith "0x") &&
    (Binary64.compareFloat (readReal t).value 1.0 != some .gt)
  | _ => false

def Names.withAggregates (nm : Names) (allow : Bool) : Names :=
  match nm.scopes with
  | sc :: rest => { nm with scopes := { sc with allowAggregates := allow } :: rest }
  | [] => nm

def Names.aggregatesAllowed (nm : Names) : Bool :=
  match nm.scopes with
  | sc :: _ => sc.allowAggregates
  | [] => false

def resultName : ResultColumn → String
  | .expr _ (some a) _ => a
  | .expr (.name _ n _) none _ => n
  | .expr _ none span => span
  | .all => "*"
  | .allOf t => t ++ ".*"

abbrev Shape := List (String × Option Affinity × Option String)

def coreShape : Core → Shape
  | .select _ cols _ _ _ _ _ => cols.map fun c =>
    match c with
    | .expr e a span => ((a.getD span), affinityOf e, collationOf e)
    | _ => ("", none, none)
  | .values rows => match rows with
    | row :: _ => (List.range row.length).map fun i =>
      ("column" ++ toString (i + 1), affinityOf (row.getD i default), collationOf (row.getD i default))
    | [] => []

def shapeVisible (name : String) (names : List String) (s : Shape) : Visible :=
  { name, isTable := false, hasRowid := false,
    columns := (List.range s.length).map fun i =>
      let (n, a, c) := s.getD i ("", none, none)
      { name := names.getD i n, affinity := some (a.getD .blob),
        collation := some (c.getD "BINARY") } }

def hideColumns (names : List String) (v : Visible) : Visible :=
  { v with columns := v.columns.map fun col =>
      if names.any fun n => sameName n col.name then { col with hidden := true } else col }

def ordinal (n : Nat) : String :=
  let suffix := if n % 100 / 10 == 1 then "th"
    else match n % 10 with
      | 1 => "st"
      | 2 => "nd"
      | 3 => "rd"
      | _ => "th"
  toString n ++ suffix

def orderOrdinal : Expr → Option Int
  | .num t =>
    if t.all Char.isDigit && t.length ≤ 9 then some (Int.ofNat t.toNat!) else none
  | .unary .neg (.num t) =>
    if t.all Char.isDigit && t.length ≤ 9 then some (-Int.ofNat t.toNat!) else none
  | _ => none

def stripCollate : Expr → Expr
  | .collate e _ => stripCollate e
  | e => e

def sameExpr : Nat → Expr → Expr → Bool
  | 0, _, _ => false
  | fuel + 1, a, b =>
    match a, b with
    | .column r, .column s => r.level == s.level && r.source == s.source && r.column == s.column
    | .num x, .num y => x == y
    | .lit .null, .lit .null => true
    | .lit (.int x), .lit (.int y) => x == y
    | .lit (.text x), .lit (.text y) => x == y
    | .param i, .param j => i == j
    | .aggregate i, .aggregate j => i == j
    | .unary o x, .unary p y => o == p && sameExpr fuel x y
    | .binary o x1 x2, .binary p y1 y2 => o == p && sameExpr fuel x1 y1 && sameExpr fuel x2 y2
    | .collate x c, .collate y d => sameName c d && sameExpr fuel x y
    | .cast x t, .cast y u => t == u && sameExpr fuel x y
    | .call f d xs s, .call g e ys t =>
      sameName f g && d == e && s == t && xs.length == ys.length &&
      (xs.zip ys).all fun (x, y) => sameExpr fuel x y
    | _, _ => false

def outputRef (k : Nat) (s : Shape) : Expr :=
  let (_, a, c) := s.getD k ("", none, none)
  .column { level := 0, source := 0, column := some k, affinity := a, collation := c }

mutual

def resolveExpr : Nat → Names → Expr → ResolveM Expr
  | 0, _, _ => abortWith "expression tree is too large (maximum depth 1000)"
  | fuel + 1, nm, e =>
    match e with
    | .name qs n dq => resolveName nm qs n dq
    | .param i => do
      match nm.restriction with
      | some r => note ("parameters prohibited in " ++ r); return .lit .null
      | none => return .param i
    | .unary op a => return .unary op (← resolveExpr fuel nm a)
    | .binary op a b => do
      let a' ← resolveExpr fuel nm a
      let b' ← resolveExpr fuel nm b
      return .binary op a' b'
    | .collate a c => return .collate (← resolveExpr fuel nm a) c
    | .cast a ty => return .cast (← resolveExpr fuel nm a) ty
    | .call name distinct args star => resolveCall fuel nm name distinct args star
    | .between neg a l h => do
      let a' ← resolveExpr fuel nm a
      let l' ← resolveExpr fuel nm l
      let h' ← resolveExpr fuel nm h
      return .between neg a' l' h'
    | .inList neg a items => do
      let a' ← resolveExpr fuel nm a
      return .inList neg a' (← resolveEach fuel nm items)
    | .inQuery neg a q => do
      refuseSubquery nm
      let q' ← subquery fuel nm q
      let a' ← resolveExpr fuel nm a
      return .inQuery neg a' q'
    | .exists q => do refuseSubquery nm; return .exists (← subquery fuel nm q)
    | .scalar q => do refuseSubquery nm; return .scalar (← subquery fuel nm q)
    | .case o arms els => do
      let o' ← match o with
        | some x => some <$> resolveExpr fuel nm x
        | none => pure none
      let arms' ← resolveArms fuel nm arms
      let els' ← match els with
        | some x => some <$> resolveExpr fuel nm x
        | none => pure none
      return .case o' arms' els'
    | .vector items => return .vector (← resolveEach fuel nm items)
    | other => return other

def resolveEach : Nat → Names → List Expr → ResolveM (List Expr)
  | 0, _, _ => abortWith "expression tree is too large (maximum depth 1000)"
  | _, _, [] => return []
  | fuel + 1, nm, e :: es => do
    let e' ← resolveExpr fuel nm e
    return e' :: (← resolveEach fuel nm es)

def resolveArms : Nat → Names → List (Expr × Expr) → ResolveM (List (Expr × Expr))
  | 0, _, _ => abortWith "expression tree is too large (maximum depth 1000)"
  | _, _, [] => return []
  | fuel + 1, nm, (w, t) :: rest => do
    let w' ← resolveExpr fuel nm w
    let t' ← resolveExpr fuel nm t
    return (w', t') :: (← resolveArms fuel nm rest)

def resolveCall : Nat → Names → String → Bool → List Expr → Bool → ResolveM Expr
  | 0, _, _, _, _, _ => abortWith "expression tree is too large (maximum depth 1000)"
  | fuel + 1, nm, name, distinct, args, star => do
    let n := if star then 0 else args.length
    match lookupFunction name n with
    | .unknown =>
      note ("no such function: " ++ name)
      return .call name distinct (← resolveEach fuel nm args) star
    | .wrongArity =>
      note ("wrong number of arguments to function " ++ name ++ "()")
      return .call name distinct (← resolveEach fuel nm args) star
    | .window =>
      note ("misuse of window function " ++ name ++ "()")
      return .call name distinct (← resolveEach fuel nm args) star
    | .aggregate =>
      if !nm.aggregatesAllowed then
        note ("misuse of aggregate function " ++ name ++ "()")
        return .call name distinct (← resolveEach fuel nm args) star
      let args' ← resolveEach fuel (nm.withAggregates false) args
      let s ← get
      set { s with aggregates := s.aggregates ++ [Expr.call name distinct args' star] }
      return .aggregate s.aggregates.length
    | .scalar =>
      if sameName name "likelihood" && !(isProbability (args.getD 1 default)) then
        note ("second argument to " ++ name ++ "() must be a constant between 0.0 and 1.0")
      if nm.deterministicOnly && !isDeterministic name then
        note ("non-deterministic functions prohibited in " ++ (nm.restriction.getD ""))
      return .call name distinct (← resolveEach fuel nm args) star

def subquery : Nat → Names → Query → ResolveM Query
  | 0, _, _ => abortWith "expression tree is too large (maximum depth 1000)"
  | fuel + 1, nm, q => do
    let saved := (← get).aggregates
    let r ← recorded default do
      let (q', _) ← resolveQuery fuel nm q
      return q'
    modify fun s => { s with aggregates := saved }
    return r

/-- Resolves a query in the scopes of `nm`, giving it resolved with its shape. -/
def resolveQuery : Nat → Names → Query → ResolveM (Query × Shape)
  | 0, _, _ => abortWith "expression tree is too large (maximum depth 1000)"
  | fuel + 1, nm, .mk ctes first rest orderBy limit offset => do
    let nm := { nm with ctes := ctes.reverse ++ nm.ctes }
    let limit' ← match limit with
      | some l => some <$> settled (resolveExpr fuel { nm with scopes := [{ sources := [] }] } l)
      | none => pure none
    let offset' ← match offset with
      | some l => some <$> settled (resolveExpr fuel { nm with scopes := [{ sources := [] }] } l)
      | none => pure none
    let cores := first :: rest.map (·.2)
    -- sources and stars of every core, the last core first
    let expanded ← expandAll fuel nm cores.reverse
    let single := rest.isEmpty
    let resolved ← resolveCores fuel nm single orderBy expanded
    let cores' := resolved.reverse
    let shapes := cores'.map (·.2.1)
    let widths := shapes.map List.length
    -- every core of a compound gives as many columns as the one before it
    let ops := rest.map (·.1)
    let pairs := (List.range ops.length).map fun i => (ops.getD i .unionAll, widths.getD i 0,
      widths.getD (i + 1) 0, cores'.getD (i + 1) default)
    match (pairs.reverse.find? fun (_, a, b, _) => a != b) with
    | some (op, _, _, (c, _)) =>
      match c with
      | .values _ => abortWith "all VALUES must have the same number of terms"
      | _ =>
        let opName := match op with
          | .unionAll => "UNION ALL"
          | .union => "UNION"
          | .intersect => "INTERSECT"
          | .except => "EXCEPT"
        abortWith ("SELECTs to the left and right of " ++ opName ++
          " do not have the same number of result columns")
    | none => pure ()
    let firstShape := shapes.getD 0 []
    let (c0, _, order0) := cores'.getD 0 default
    let restCores := (List.range rest.length).map fun i =>
      ((rest.getD i default).1, (cores'.getD (i + 1) default).1)
    if single then
      return (.mk [] c0 [] order0 limit' offset', firstShape)
    else
      let order' ← compoundOrder nm firstShape (cores'.getD 0 default).1 orderBy
      return (.mk [] c0 restCores order' limit' offset', firstShape)

def expandAll : Nat → Names → List Core →
    ResolveM (List (Core × List Visible))
  | 0, _, _ => abortWith "expression tree is too large (maximum depth 1000)"
  | _, _, [] => return []
  | fuel + 1, nm, c :: cs => do
    let e ← expandCore fuel nm c
    return e :: (← expandAll fuel nm cs)

def expandCore : Nat → Names → Core → ResolveM (Core × List Visible)
  | 0, _, _ => abortWith "expression tree is too large (maximum depth 1000)"
  | fuel + 1, nm, c =>
    match c with
    | .values rows => return (.values rows, [])
    | .select distinct cols sources filter groupBy having aggs => do
      let items ← expandSources fuel nm sources
      let visibles := items.map (·.2)
      let joined ← joinConditions items
      let cols' ← expandStars visibles cols
      return (.select distinct cols' joined filter groupBy having aggs, visibles)

def expandSources : Nat → Names → List JoinItem → ResolveM (List (JoinItem × Visible))
  | 0, _, _ => abortWith "expression tree is too large (maximum depth 1000)"
  | _, _, [] => return []
  | fuel + 1, nm, .mk kind natural src on usingCols :: rest => do
    let here ← match src with
      | .table schema name aliasName => do
        let (s, v) ← lookupSource fuel nm schema name aliasName
        pure [(JoinItem.mk kind natural s on usingCols, v)]
      | .subquery q aliasName => do
        let (q', shape) ← resolveQuery fuel { nm with ctes := nm.ctes } q
        let v := shapeVisible (aliasName.getD "") [] shape
        pure [(JoinItem.mk kind natural (.subquery q' aliasName) on usingCols, v)]
      | .group items _ => do
        let inner ← expandSources fuel nm items
        pure (match inner with
          | (.mk _ n s o u, v) :: more => (JoinItem.mk kind (natural || n) s on (usingCols ++ u), v) ::
              more ++ (match o with
                | _ => [])
          | [] => [])
    return here ++ (← expandSources fuel nm rest)

def lookupSource : Nat → Names → Option String → String → Option String →
    ResolveM (Source × Visible)
  | 0, _, _, _, _ => abortWith "expression tree is too large (maximum depth 1000)"
  | fuel + 1, nm, schema, name, aliasName => do
    let shown := match schema with
      | some s => s ++ "." ++ name
      | none => name
    match schema with
    | some s => if !(sameName s "main" || sameName s "temp") then abortWith ("no such table: " ++ shown)
    | none => pure ()
    let cte := if schema.isNone then nm.ctes.find? fun (.mk n _ _) => sameName n name else none
    match cte with
    | some (.mk n cols q) =>
      let outer := { nm with ctes := nm.ctes.filter fun (.mk m _ _) => !sameName m n }
      let (q', shape) ← resolveQuery fuel outer q
      if !cols.isEmpty && cols.length != shape.length then
        abortWith ("table " ++ n ++ " has " ++ toString shape.length ++ " values for " ++
          toString cols.length ++ " columns")
      return (.subquery q' (some (aliasName.getD n)), shapeVisible (aliasName.getD n) cols shape)
    | none =>
      match nm.db.table? name with
      | some t => return (.table none t.name aliasName, t.visible aliasName)
      | none =>
        match nm.db.view? name with
        | some v =>
          let (q', shape) ← resolveQuery fuel { db := nm.db } v.q
          let vis := shapeVisible (aliasName.getD v.name) v.columns shape
          return (.subquery q' (some (aliasName.getD v.name)), { vis with isTable := true })
        | none =>
          if isSchemaTable name then
            let t : Table := { name := "sqlite_master", columns := schemaColumns }
            return (.table none "sqlite_master" aliasName, t.visible (some (aliasName.getD name)))
          abortWith ("no such table: " ++ shown)

def joinConditions (items : List (JoinItem × Visible)) : ResolveM (List JoinItem) := do
  let rec go (fuel : Nat) (done : List Visible) :
      List (JoinItem × Visible) → ResolveM (List JoinItem)
    | [] => return []
    | (.mk kind natural src on usingCols, v) :: rest =>
      match fuel with
      | 0 => return []
      | fuel + 1 => do
        if natural && (on.isSome || !usingCols.isEmpty) then
          abortWith "a NATURAL join may not have an ON or USING clause"
        let names := if natural then
            (v.columns.filter (!·.hidden)).map (·.name) |>.filter fun n =>
              done.any fun w => !(matchingColumns w n false).isEmpty
          else usingCols
        let level := 0
        let mut conds : List Expr := []
        for n in names do
          let rightCols := matchingColumns v n true
          let leftHit := (List.range done.length).findSome? fun j =>
            match matchingColumns (done.getD j default) n false with
            | c :: _ => some (j, c)
            | [] => none
          match rightCols, leftHit with
          | c :: _, some (j, lc) =>
            conds := conds ++ [.binary .eq (refTo level j (done.getD j default) lc)
              (refTo level done.length v c)]
          | _, _ =>
            abortWith ("cannot join using column " ++ n ++ " - column not present in both tables")
        let v' := hideColumns names v
        let cond := match on, conds with
          | some o, [] => some o
          | none, c :: cs => some (cs.foldl (fun acc x => .binary .and acc x) c)
          | some o, c :: cs => some (.binary .and (cs.foldl (fun acc x => .binary .and acc x) c) o)
          | none, [] => none
        let here := JoinItem.mk kind false src cond []
        return here :: (← go fuel (done ++ [v']) rest)
  go (items.length + 1) [] items

def expandStars (visibles : List Visible) (cols : List ResultColumn) :
    ResolveM (List ResultColumn) := do
  let mut out : List ResultColumn := []
  for c in cols do
    match c with
    | .all =>
      if visibles.isEmpty then abortWith "no tables specified"
      for v in visibles do
        for col in v.columns do
          if !col.hidden then out := out ++ [.expr (.name [v.name] col.name false) none col.name]
    | .allOf t =>
      match visibles.find? (sameName ·.name t) with
      | some v =>
        for col in v.columns do
          out := out ++ [.expr (.name [v.name] col.name false) none col.name]
      | none => abortWith ("no such table: " ++ t)
    | other => out := out ++ [other]
  return out

def resolveCores : Nat → Names → Bool → List (Expr × SortOrder) →
    List (Core × List Visible) → ResolveM (List (Core × Shape × List (Expr × SortOrder)))
  | 0, _, _, _, _ => abortWith "expression tree is too large (maximum depth 1000)"
  | _, _, _, _, [] => return []
  | fuel + 1, nm, single, orderBy, (c, vs) :: rest => do
    let r ← resolveCore fuel nm (if single then orderBy else []) c vs
    return r :: (← resolveCores fuel nm single orderBy rest)

def resolveCore : Nat → Names → List (Expr × SortOrder) → Core → List Visible →
    ResolveM (Core × Shape × List (Expr × SortOrder))
  | 0, _, _, _, _ => abortWith "expression tree is too large (maximum depth 1000)"
  | fuel + 1, nm, orderBy, c, visibles => do
    match c with
    | .values rows =>
      let inner := { nm with scopes := { sources := [], allowAggregates := false } :: nm.scopes }
      let rows' ← valuesRows fuel inner rows.reverse
      let c' := Core.values rows'.reverse
      return (c', coreShape c', [])
    | .select distinct cols sources filter groupBy having _ =>
      let saved := (← get).aggregates
      modify fun s => { s with aggregates := [] }
      let base : Scope := { sources := visibles, allowAggregates := true }
      let nm1 := { nm with scopes := base :: nm.scopes }
      let cols' ← resultList fuel nm1 cols
      let isAggregate := !groupBy.isEmpty || !(← get).aggregates.isEmpty
      let results := cols.zip cols' |>.map fun (orig, r) =>
        match orig, r with
        | .expr _ a _, .expr e _ _ => (a, e)
        | _, .expr e _ _ => (none, e)
        | _, _ => (none, .lit .null)
      let sc : Scope := { sources := visibles, results, useResults := true,
                          allowAggregates := isAggregate }
      let nm2 := { nm with scopes := sc :: nm.scopes }
      let having' ← match having with
        | some h =>
          if !isAggregate then abortWith "HAVING clause on a non-aggregate query"
          some <$> settled (resolveExpr fuel nm2 h)
        | none => pure none
      let nmWhere := nm2.withAggregates false
      -- the join conditions are resolved as part of WHERE
      let (filter', sources') ← settled do
        let f ← match filter with
          | some w => some <$> resolveExpr fuel nmWhere w
          | none => pure none
        let s ← joinExprs fuel nmWhere sources
        pure (f, s)
      let nmOrder := { nm with scopes := [{ sc with allowAggregates := true }] }
      let order' ← orderTerms fuel nmOrder results "ORDER" 1 orderBy
      let nmGroup := { nm with scopes := [{ sc with allowAggregates := false }] }
      let group' ← orderTerms fuel nmGroup results "GROUP" 1 (groupBy.map (·, {}))
      if group'.any (fun (g, _) => holdsAggregate g) then
        abortWith "aggregate functions are not allowed in the GROUP BY clause"
      let aggs := (← get).aggregates
      modify fun s => { s with aggregates := saved }
      let c' := Core.select distinct cols' sources' filter' (group'.map (·.1)) having' aggs
      return (c', coreShape c', order')

def valuesRows : Nat → Names → List (List Expr) → ResolveM (List (List Expr))
  | 0, _, _ => abortWith "expression tree is too large (maximum depth 1000)"
  | _, _, [] => return []
  | fuel + 1, nm, row :: rest => do
    let row' ← exprListStopping fuel nm row
    return row' :: (← valuesRows fuel nm rest)

def exprListStopping : Nat → Names → List Expr → ResolveM (List Expr)
  | 0, _, _ => abortWith "expression tree is too large (maximum depth 1000)"
  | _, _, [] => return []
  | fuel + 1, nm, e :: es => do
    let e' ← settled (resolveExpr fuel nm e)
    return e' :: (← exprListStopping fuel nm es)

def resultList : Nat → Names → List ResultColumn → ResolveM (List ResultColumn)
  | 0, _, _ => abortWith "expression tree is too large (maximum depth 1000)"
  | _, _, [] => return []
  | fuel + 1, nm, c :: cs => do
    let c' ← match c with
      | .expr e _ span => do
        let e' ← settled (resolveExpr fuel nm e)
        pure (ResultColumn.expr e' (some (resultName c)) span)
      | other => pure other
    return c' :: (← resultList fuel nm cs)

def joinExprs : Nat → Names → List JoinItem → ResolveM (List JoinItem)
  | 0, _, _ => abortWith "expression tree is too large (maximum depth 1000)"
  | _, _, [] => return []
  | fuel + 1, nm, .mk kind natural src on usingCols :: rest => do
    let on' ← match on with
      | some o => some <$> resolveExpr fuel nm o
      | none => pure none
    return .mk kind natural src on' usingCols :: (← joinExprs fuel nm rest)

def orderTerms : Nat → Names → List (Option String × Expr) → String → Nat →
    List (Expr × SortOrder) → ResolveM (List (Expr × SortOrder))
  | 0, _, _, _, _, _ => abortWith "expression tree is too large (maximum depth 1000)"
  | _, _, _, _, _, [] => return []
  | fuel + 1, nm, results, kind, position, (e, order) :: rest => do
    let term := stripCollate e
    let collate : Expr → Expr := fun x => match e with
      | .collate _ c => .collate x c
      | _ => x
    let byAlias := if kind == "ORDER" then
        match term with
        | .name [] n _ => results.findIdx? fun (a, _) => match a with
          | some a => sameName a n
          | none => false
        | _ => none
      else none
    let resolved ← match byAlias with
      | some i => pure (collate (results.getD i (none, .lit .null)).2)
      | none =>
        match orderOrdinal term with
        | some k =>
          if k < 1 || k > Int.ofNat results.length then
            abortWith (ordinal position ++ " " ++ kind ++ " BY term out of range - should be between 1 and " ++
              toString results.length)
          pure (collate (results.getD (k.toNat - 1) (none, .lit .null)).2)
        | none => settled (resolveExpr fuel nm e)
    return (resolved, order) :: (← orderTerms fuel nm results kind (position + 1) rest)

def compoundOrder (nm : Names) (shape : Shape) (firstCore : Core) (orderBy : List (Expr × SortOrder)) :
    ResolveM (List (Expr × SortOrder)) := do
  let _ := nm
  let aliases : List (Option String) := match firstCore with
    | .select _ cols _ _ _ _ _ => cols.map fun c => match c with
      | .expr _ a _ => a
      | _ => none
    | .values _ => []
  let mut out : List (Expr × SortOrder) := []
  let mut i := 0
  for (e, order) in orderBy do
    i := i + 1
    let term := stripCollate e
    let k : Option Nat := match orderOrdinal term with
      | some k => if 1 ≤ k && k ≤ Int.ofNat shape.length then some (k.toNat - 1) else none
      | none => match term with
        | .name [] n _ => aliases.findIdx? fun a => match a with
          | some a => sameName a n
          | none => false
        | _ => none
    match k with
    | some k =>
      let r := outputRef k shape
      out := out ++ [(match e with
        | .collate _ c => .collate r c
        | _ => r, order)]
    | none =>
      match orderOrdinal term with
      | some _ =>
        abortWith (ordinal i ++ " ORDER BY term out of range - should be between 1 and " ++
          toString shape.length)
      | none =>
        abortWith (ordinal i ++ " ORDER BY term does not match any column in the result set")
  return out

end

def resolveFuel : Nat := 4000

def resolveStandalone (nm : Names) (e : Expr) : Except Failure Expr :=
  ((settled (resolveExpr resolveFuel nm e)).run {}).map (·.1)

def resolveTop (nm : Names) (q : Query) : Except Failure (Query × Shape) :=
  ((resolveQuery resolveFuel nm q).run {}).map (·.1)

end CatalogSync.Sql
