import CatalogSync.Sql.Define

/-!
# Changing rows: `INSERT`, `UPDATE`, `DELETE` and triggers

A statement is first *prepared*: its names are resolved and its parts checked in the order
the database checks them, and the triggers it may fire are compiled too, so that a mistake
in a trigger's body stops the statement before it changes anything. Then it runs row by
row.

Inserting a row computes its values (the default for each column not given), fires the
`BEFORE` triggers, picks the row number (the next after the largest in use when none is
given), computes the generated columns and checks the constraints in this order: `NOT
NULL`, `CHECK`, the row number, then each unique index. A conflict is resolved by the
statement's `OR` clause if it has one, else by the constraint's own clause, else by
aborting; `REPLACE` removes the rows in the way, `IGNORE` skips the row, and an upsert
clause that matches the constraint does nothing or updates the row in the way instead.
Then the row is stored, the `RETURNING` values are computed and the `AFTER` triggers fire.

An update first finds the rows its `WHERE` selects, then for each computes the new values
from the old row, fires the `BEFORE` triggers, checks the constraints that the changed
columns take part in, stores the row and fires the `AFTER` triggers. A delete fires the
`BEFORE` triggers, removes the row and fires the `AFTER` triggers.

A trigger does not fire while it is already running. The statements of its body see the
row that fired it as `old` and `new`; an `OR` clause of the statement that fired it
overrides theirs. `RAISE(IGNORE)` in a trigger skips the row that fired it.
-/

namespace CatalogSync.Sql

/-! ## Where a statement runs -/

/-- Where a statement runs: on its own, or as a step of a trigger with the trigger's rows. -/
structure Within where
  /-- The pseudo rows names may reach: `old`, `new` and `excluded`. -/
  pseudo : List (Option Visible) := [none, none, none]
  /-- Whether the statement is a step of a trigger. -/
  inTrigger : Bool := false
  /-- The conflict resolution that overrides the statement's own. -/
  conflict : Option Resolution := none
  deriving Inhabited

def Within.names (w : Within) (db : Database) (ctes : List Cte) (sources : List Visible) : Names :=
  { db, scopes := [{ sources }], pseudo := w.pseudo, ctes }

def Within.shownTable (w : Within) (schema : Option String) (name : String) : String :=
  match schema with
  | some s => s ++ "." ++ name
  | none => if w.inTrigger then "main." ++ name else name

def Within.override (w : Within) (own : Option Resolution) : Option Resolution :=
  w.conflict.orElse fun _ => own

/-! ## Checks made when code is generated -/

mutual

def exprProblem : Nat → Bool → Expr → Option String
  | 0, _, _ => none
  | fuel + 1, inTrigger, e =>
    match e with
    | .raise .. =>
      if inTrigger then none else some "RAISE() may only be used within a trigger-program"
    | .num t =>
      match numberLiteral t false with
      | .error f => some f.message
      | .ok _ => none
    | .unary .neg (.num t) =>
      match numberLiteral t true with
      | .error f => some f.message
      | .ok _ => none
    | .unary _ a | .collate a _ | .cast a _ => exprProblem fuel inTrigger a
    | .binary _ a b => (exprProblem fuel inTrigger a).orElse fun _ => exprProblem fuel inTrigger b
    | .between _ a l h =>
      ((exprProblem fuel inTrigger a).orElse fun _ => exprProblem fuel inTrigger l).orElse
        fun _ => exprProblem fuel inTrigger h
    | .call _ _ args _ | .vector args => exprsProblem fuel inTrigger args
    | .inList _ a items =>
      (exprProblem fuel inTrigger a).orElse fun _ => exprsProblem fuel inTrigger items
    | .inQuery _ a q =>
      (exprProblem fuel inTrigger a).orElse fun _ => queryProblem fuel inTrigger q
    | .exists q | .scalar q => queryProblem fuel inTrigger q
    | .case o arms els =>
      let parts := o.toList ++ arms.flatMap (fun (w, t) => [w, t]) ++ els.toList
      exprsProblem fuel inTrigger parts
    | _ => none

def exprsProblem : Nat → Bool → List Expr → Option String
  | 0, _, _ => none
  | _, _, [] => none
  | fuel + 1, inTrigger, e :: es =>
    (exprProblem fuel inTrigger e).orElse fun _ => exprsProblem fuel inTrigger es

def queryProblem : Nat → Bool → Query → Option String
  | 0, _, _ => none
  | fuel + 1, inTrigger, .mk _ first rest orderBy limit offset =>
    let cores := first :: rest.map (·.2)
    (coresProblem fuel inTrigger cores).orElse fun _ =>
      exprsProblem fuel inTrigger (orderBy.map (·.1) ++ limit.toList ++ offset.toList)

def coresProblem : Nat → Bool → List Core → Option String
  | 0, _, _ => none
  | _, _, [] => none
  | fuel + 1, inTrigger, c :: cs =>
    let here := match c with
      | .values rows => exprsProblem fuel inTrigger rows.flatten
      | .select _ cols sources filter groupBy having aggs =>
        let exprs := cols.filterMap fun (rc : ResultColumn) => match rc with
          | .expr e _ _ => some e
          | _ => none
        let ons := sources.filterMap fun (j : JoinItem) => match j with
          | .mk _ _ _ on _ => on
        let subs := sources.filterMap fun (j : JoinItem) => match j with
          | .mk _ _ (.subquery q _) _ _ => some q
          | _ => none
        (exprsProblem fuel inTrigger (exprs ++ ons ++ filter.toList ++ groupBy ++ having.toList ++ aggs)).orElse
          fun _ => subqueriesProblem fuel inTrigger subs
    here.orElse fun _ => coresProblem fuel inTrigger cs

def subqueriesProblem : Nat → Bool → List Query → Option String
  | 0, _, _ => none
  | _, _, [] => none
  | fuel + 1, inTrigger, q :: qs =>
    (queryProblem fuel inTrigger q).orElse fun _ => subqueriesProblem fuel inTrigger qs

end

def checkCode (inTrigger : Bool) (exprs : List Expr) (queries : List Query) : Except Failure Unit :=
  match (exprsProblem 2000 inTrigger exprs).orElse fun _ => subqueriesProblem 2000 inTrigger queries with
  | some m => refuse m
  | none => .ok ()

def checkDefault (e : Expr) : Except Failure Unit :=
  let rec walk : Nat → Expr → Except Failure Unit
    | 0, _ => .ok ()
    | fuel + 1, e =>
      match e with
      | .call name _ args star => do
        match lookupFunction name (if star then 0 else args.length) with
        | .scalar => args.forM (walk fuel)
        | _ => refuse ("unknown function: " ++ name ++ "()")
      | .unary _ a | .collate a _ | .cast a _ => walk fuel a
      | .binary _ a b => do walk fuel a; walk fuel b
      | _ => .ok ()
  walk 400 e

/-! ## Plans -/

/-- What a conflict clause of an upsert applies to. -/
inductive ConflictTarget where
  /-- Every constraint: the clause has no target. -/
  | any
  /-- The row number. -/
  | rowid
  /-- A unique index. -/
  | index (name : String)
  deriving Inhabited, BEq

abbrev Assignment := Option Nat × Expr

/-- An upsert clause ready to run: its target, and the assignments with their condition, or
none for `DO NOTHING`. -/
structure UpsertPlan where
  target : ConflictTarget
  update : Option (List Assignment × Option Expr)
  /-- The names of the assigned columns, which decide the update triggers that fire. -/
  names : List String := []
  deriving Inhabited

/-- Where an insert's rows come from, resolved. -/
inductive RowSource where
  /-- One row of expressions. -/
  | exprs (row : List Expr)
  | query (q : Query)
  | defaults
  deriving Inhabited

/-- An insert ready to run. -/
structure InsertPlan where
  table : String
  /-- Whether the rows go to the `INSTEAD OF` triggers of a view. -/
  intoView : Bool
  conflict : Option Resolution
  /-- For each column, the place of its value in a source row. -/
  places : List (Option Nat)
  /-- The place of the row number in a source row. -/
  rowidPlace : Option Nat
  source : RowSource
  upserts : List UpsertPlan
  returning : List Expr
  deriving Inhabited

/-- An update ready to run. -/
structure UpdatePlan where
  table : String
  aliasName : Option String
  onView : Bool
  conflict : Option Resolution
  sets : List Assignment
  names : List String
  filter : Option Expr
  orderBy : List (Expr × SortOrder)
  limit : Option Expr
  offset : Option Expr
  returning : List Expr
  deriving Inhabited

/-- A delete ready to run. -/
structure DeletePlan where
  table : String
  onView : Bool
  filter : Option Expr
  orderBy : List (Expr × SortOrder)
  limit : Option Expr
  offset : Option Expr
  returning : List Expr
  deriving Inhabited

abbrev PrepareM := StateT (List String) (Except Failure)

def PrepareM.lift {α : Type} (m : Except Failure α) : PrepareM α := fun s => (·, s) <$> m

/-! ## Resolving the parts of a statement -/

def viewTable (db : Database) (v : View) : Except Failure Table := do
  let (_, shape) ← resolveTop { db } v.q
  if !v.columns.isEmpty && v.columns.length != shape.length then
    refuse ("expected " ++ toString v.columns.length ++ " columns for '" ++ v.name ++
      "' but got " ++ toString shape.length)
  let cols := (List.range shape.length).map fun i =>
    let (n, _, c) := shape.getD i ("", none, none)
    ({ name := v.columns.getD i n, type := "", affinity := .blob, collation := c } : Column)
  return { name := v.name, columns := cols }

def targetTable (db : Database) (w : Within) (schema : Option String) (name : String)
    (insteadOf : Trigger → Bool) : Except Failure (Table × Bool) := do
  checkSchema schema
  match db.table? name with
  | some t => return (t, false)
  | none =>
    match db.view? name with
    | some v =>
      let t ← viewTable db v
      if !(db.triggersOn v.name).any fun tr => tr.time == .insteadOf && insteadOf tr then
        refuse ("cannot modify " ++ v.name ++ " because it is a view")
      return (t, true)
    | none =>
      if isSchemaTable name then refuse "table sqlite_master may not be modified"
      refuse ("no such table: " ++ w.shownTable schema name)

def planReturning (db : Database) (w : Within) (t : Table) (cols : List ResultColumn) :
    Except Failure (List Expr) := do
  let v := t.visible none
  let mut exprs : List Expr := []
  for c in cols do
    match c with
    | .all => exprs := exprs ++ t.columns.map fun col => .name [t.name] col.name false
    | .allOf _ => refuse "RETURNING may not use \"TABLE.*\" wildcards"
    | .expr e _ _ => exprs := exprs ++ [e]
  let nm := w.names db [] [v]
  let mut out : List Expr := []
  for e in exprs do
    out := out ++ [← resolveStandalone nm e]
  checkCode w.inTrigger out []
  return out

def spreadAssignments (sets : List (List String × Expr)) : Except Failure (List (String × Expr)) := do
  let mut out : List (String × Expr) := []
  for (names, e) in sets do
    match names, e with
    | [n], _ => out := out ++ [(n, e)]
    | _, .vector items =>
      if items.length != names.length then
        refuse (toString names.length ++ " columns assigned " ++ toString items.length ++ " values")
      out := out ++ names.zip items
    | _, .scalar q =>
      out := out ++ names.map fun n => (n, Expr.scalar q)
    | _, _ =>
      refuse (toString names.length ++ " columns assigned 1 values")
  return out

def planAssignments (nm : Names) (t : Table) (sets : List (String × Expr)) :
    Except Failure (List Assignment) := do
  let mut out : List Assignment := []
  for (n, e) in sets do
    let e' ← resolveStandalone nm e
    match t.columnIndex? n with
    | some j =>
      if (t.column j).generated.isSome then
        refuse ("cannot UPDATE generated column \"" ++ (t.column j).name ++ "\"")
      out := out ++ [(if t.rowidColumn == some j then none else some j, e')]
    | none =>
      if isRowidName n && !t.withoutRowid then out := out ++ [(none, e')]
      else refuse ("no such column: " ++ n)
  return out

def upsertTarget (db : Database) (w : Within) (t : Table) (position : Nat) (only : Bool)
    (target : List Expr × Option Expr) : Except Failure ConflictTarget := do
  let nm := w.names db [] [t.visible none]
  let mut terms : List Expr := []
  for e in target.1 do
    terms := terms ++ [← resolveStandalone nm e]
  match target.2 with
  | some f => let _ ← resolveStandalone nm f
  | none => pure ()
  let columnOf : Expr → Option (Option Nat) := fun e =>
    match stripCollate e with
    | .column { column := c, .. } => some (if c == t.rowidColumn && c.isSome then none else c)
    | _ => none
  if !t.withoutRowid && terms.length == 1 then
    if (terms.head?.bind columnOf) == some none then return .rowid
  let fits (i : Index) : Bool :=
    i.unique && i.terms.length == terms.length && (i.filter.isNone || target.2.isSome) &&
    match i.columns with
    | some cs =>
      (List.range cs.length).all fun k =>
        let col := cs.getD k 0
        let coll := ((i.terms.getD k default).collation.getD "BINARY")
        terms.any fun term =>
          columnOf term == some (some col) &&
          match term with
          | .collate _ c => sameName c coll
          | _ => true
    | none => false
  match t.checkOrder.find? fits with
  | some i => return .index i.name
  | none =>
    let lead := if only then "" else ordinal position ++ " "
    refuse (lead ++ "ON CONFLICT clause does not match any PRIMARY KEY or UNIQUE constraint")

/-! ## Finding the triggers that fire -/

def Trigger.firesOn (tr : Trigger) (event : TriggerEvent) (assigned : List String) : Bool :=
  match tr.event, event with
  | .insert, .insert | .delete, .delete => true
  | .update cols, .update _ =>
    match cols with
    | some cs => cs.any fun c => assigned.any (sameName c ·)
    | none => true
  | _, _ => false

def Database.firing (db : Database) (table : String) (time : TriggerTime) (event : TriggerEvent)
    (assigned : List String) : List Trigger :=
  (db.triggersOn table).filter fun tr => tr.time == time && tr.firesOn event assigned

def triggerPseudo (t : Table) (event : TriggerEvent) : List (Option Visible) :=
  let v := t.visible none
  match event with
  | .insert => [none, some v, none]
  | .update _ => [some v, some v, none]
  | .delete => [some v, none, none]

/-! ## Preparing statements -/

def singleValuesRow : InsertSource → Option (List Expr)
  | .query (.mk [] (.values [row]) [] [] none none) => some row
  | _ => none

mutual

def compileTriggers : Nat → Database → Table → List Trigger → PrepareM Unit
  | 0, _, _, _ => PrepareM.lift (refuse "too many levels of trigger recursion")
  | _, _, _, [] => return
  | fuel + 1, db, t, tr :: rest => do
    if !(← get).contains tr.name then
      modify (tr.name :: ·)
      let w : Within := { pseudo := triggerPseudo t tr.event, inTrigger := true }
      match tr.condition with
      | some c =>
        let c' ← PrepareM.lift (resolveStandalone (w.names db [] []) c)
        PrepareM.lift (checkCode true [c'] [])
      | none => pure ()
      compileSteps fuel db w tr.body
    compileTriggers fuel db t rest

def compileSteps : Nat → Database → Within → List Statement → PrepareM Unit
  | 0, _, _, _ => PrepareM.lift (refuse "too many levels of trigger recursion")
  | _, _, _, [] => return
  | fuel + 1, db, w, s :: rest => do
    let _ ← prepareStep fuel db w true s
    compileSteps fuel db w rest

def prepareStep : Nat → Database → Within → Bool → Statement → PrepareM Statement
  | 0, _, _, _, _ => PrepareM.lift (refuse "too many levels of trigger recursion")
  | fuel + 1, db, w, compile, s =>
    match s with
    | .select q => do
      let (q', _) ← PrepareM.lift (resolveTop { db, pseudo := w.pseudo } q)
      PrepareM.lift (checkCode w.inTrigger [] [q'])
      return .select q'
    | .insert ctes conflict schema table aliasName columns source upserts returning => do
      let (t, isView) ← PrepareM.lift (targetTable db w schema table fun tr => tr.firesOn .insert [])
      let _ ← prepareInsert fuel db w compile ctes conflict schema t isView aliasName columns source
        upserts returning
      return s
    | .update ctes conflict schema table aliasName sets sources filter returning orderBy limit offset => do
      let (t, isView) ← PrepareM.lift (targetTable db w schema table fun tr => tr.firesOn (.update none) [])
      let _ ← prepareUpdate fuel db w compile ctes conflict t isView aliasName sets sources filter
        returning orderBy limit offset
      return s
    | .delete ctes schema table aliasName filter returning orderBy limit offset => do
      let (t, isView) ← PrepareM.lift (targetTable db w schema table fun tr => tr.firesOn .delete [])
      let _ ← prepareDelete fuel db w compile ctes t isView aliasName filter returning orderBy limit offset
      return s
    | other => return other

def prepareInsert : Nat → Database → Within → Bool → List Cte → Option Resolution →
    Option String → Table → Bool → Option String → Option (List String) → InsertSource →
    List Upsert → List ResultColumn → PrepareM InsertPlan
  | 0, _, _, _, _, _, _, _, _, _, _, _, _, _ =>
    PrepareM.lift (refuse "too many levels of trigger recursion")
  | fuel + 1, db, w, compile, ctes, conflict, schema, t, isView, aliasName, columns, source, upserts,
      returning => do
    let shown := aliasName.getD ((schema.map (· ++ ".")).getD "" ++ t.name)
    -- the named columns
    let mut places : List (Option Nat) := t.columns.map fun _ => none
    let mut rowidPlace : Option Nat := none
    match columns with
    | some names =>
      for k in List.range names.length do
        let n := names.getD k ""
        match t.columnIndex? n with
        | some j =>
          if places.getD j none == none then places := places.set j (some k)
          if t.rowidColumn == some j then rowidPlace := some k
          if (t.column j).generated.isSome then
            PrepareM.lift (refuse ("cannot INSERT into generated column \"" ++ (t.column j).name ++ "\""))
        | none =>
          if isRowidName n && !t.withoutRowid && !isView then rowidPlace := some k
          else PrepareM.lift (refuse ("table " ++ shown ++ " has no column named " ++ n))
    | none => pure ()
    -- the rows
    let nm := w.names db ctes []
    let (rows, width) ← match singleValuesRow source with
      | some row => do
        let mut out : List Expr := []
        for e in row do
          out := out ++ [← PrepareM.lift (resolveStandalone nm e)]
        pure (RowSource.exprs out, row.length)
      | none =>
        match source with
        | .query q => do
          let (q', shape) ← PrepareM.lift (resolveTop { db, pseudo := w.pseudo, ctes } q)
          pure (RowSource.query q', shape.length)
        | _ => pure (RowSource.defaults, 0)
    let generated := (t.columns.filter (·.generated.isSome)).length
    if columns.isNone && width > 0 then
      let mut k := 0
      for j in List.range t.columns.length do
        if (t.column j).generated.isNone then
          places := places.set j (some k)
          if t.rowidColumn == some j then rowidPlace := some k
          k := k + 1
      if width != t.columns.length - generated then
        PrepareM.lift (refuse ("table " ++ shown ++ " has " ++ toString (t.columns.length - generated) ++
          " columns but " ++ toString width ++ " values were supplied"))
    match columns with
    | some names =>
      if width != names.length then
        PrepareM.lift (refuse (toString width ++ " values for " ++ toString names.length ++ " columns"))
    | none => pure ()
    -- the targets of the upsert clauses
    if isView && !upserts.isEmpty then PrepareM.lift (refuse "cannot UPSERT a view")
    let mut targets : List ConflictTarget := []
    for k in List.range upserts.length do
      let u := upserts.getD k default
      match u.target with
      | some tg =>
        targets := targets ++ [← PrepareM.lift (upsertTarget db w t (k + 1) (upserts.length == 1) tg)]
      | none => targets := targets ++ [.any]
    -- the code: the values, the defaults, the triggers before
    match rows with
    | .exprs row => PrepareM.lift (checkCode w.inTrigger row [])
    | .query q => PrepareM.lift (checkCode w.inTrigger [] [q])
    | .defaults => pure ()
    for j in List.range t.columns.length do
      if places.getD j none == none then
        match (t.column j).default with
        | some d => PrepareM.lift (checkDefault d)
        | none => pure ()
    let event := TriggerEvent.insert
    if compile then
      if isView then compileTriggers fuel db t (db.firing t.name .insteadOf event [])
      else compileTriggers fuel db t (db.firing t.name .before event [])
    -- the updates of the upsert clauses
    let mut plans : List UpsertPlan := []
    for k in List.range upserts.length do
      let u := upserts.getD k default
      let target := targets.getD k .any
      match u.update with
      | some (sets, cond) =>
        let spread ← PrepareM.lift (spreadAssignments sets)
        let unm := { w.names db [] [t.visible aliasName] with
          pseudo := (w.pseudo.take 2) ++ [some (t.visible none)] }
        let assigned ← PrepareM.lift (planAssignments unm t spread)
        let cond' ← match cond with
          | some c => some <$> PrepareM.lift (resolveStandalone unm c)
          | none => pure none
        let names := spread.map (·.1)
        if compile then
          compileTriggers fuel db t (db.firing t.name .before (.update none) names)
          compileTriggers fuel db t (db.firing t.name .after (.update none) names)
        plans := plans ++ [{ target, update := some (assigned, cond'), names }]
      | none => plans := plans ++ [{ target, update := none }]
    let ret ← PrepareM.lift (planReturning db w t returning)
    if compile && !isView then compileTriggers fuel db t (db.firing t.name .after event [])
    return { table := t.name, intoView := isView, conflict := w.override conflict, places,
             rowidPlace, source := rows, upserts := plans, returning := ret }

def prepareUpdate : Nat → Database → Within → Bool → List Cte → Option Resolution → Table →
    Bool → Option String → List (List String × Expr) → List JoinItem → Option Expr →
    List ResultColumn → List (Expr × SortOrder) → Option Expr → Option Expr → PrepareM UpdatePlan
  | 0, _, _, _, _, _, _, _, _, _, _, _, _, _, _, _ =>
    PrepareM.lift (refuse "too many levels of trigger recursion")
  | fuel + 1, db, w, compile, ctes, conflict, t, isView, aliasName, sets, _, filter, returning,
      orderBy, limit, offset => do
    let spread ← PrepareM.lift (spreadAssignments sets)
    let nm := w.names db ctes [t.visible aliasName]
    let assigned ← PrepareM.lift (planAssignments nm t spread)
    let filter' ← match filter with
      | some f => some <$> PrepareM.lift (resolveStandalone nm f)
      | none => pure none
    let order' ← orderBy.mapM fun (e, o) => do
      pure (← PrepareM.lift (resolveStandalone nm e), o)
    let bare := w.names db ctes []
    let limit' ← match limit with
      | some l => some <$> PrepareM.lift (resolveStandalone bare l)
      | none => pure none
    let offset' ← match offset with
      | some l => some <$> PrepareM.lift (resolveStandalone bare l)
      | none => pure none
    PrepareM.lift (checkCode w.inTrigger (assigned.map (·.2) ++ filter'.toList) [])
    let names := spread.map (·.1)
    let event := TriggerEvent.update none
    if compile then
      if isView then compileTriggers fuel db t (db.firing t.name .insteadOf event names)
      else compileTriggers fuel db t (db.firing t.name .before event names)
    let ret ← PrepareM.lift (planReturning db w t returning)
    if compile && !isView then compileTriggers fuel db t (db.firing t.name .after event names)
    return { table := t.name, aliasName, onView := isView, conflict := w.override conflict,
             sets := assigned, names, filter := filter', orderBy := order', limit := limit',
             offset := offset', returning := ret }

def prepareDelete : Nat → Database → Within → Bool → List Cte → Table → Bool →
    Option String → Option Expr → List ResultColumn → List (Expr × SortOrder) → Option Expr →
    Option Expr → PrepareM DeletePlan
  | 0, _, _, _, _, _, _, _, _, _, _, _, _ =>
    PrepareM.lift (refuse "too many levels of trigger recursion")
  | fuel + 1, db, w, compile, ctes, t, isView, aliasName, filter, returning, orderBy, limit,
      offset => do
    let nm := w.names db ctes [t.visible aliasName]
    let filter' ← match filter with
      | some f => some <$> PrepareM.lift (resolveStandalone nm f)
      | none => pure none
    let order' ← orderBy.mapM fun (e, o) => do
      pure (← PrepareM.lift (resolveStandalone nm e), o)
    let bare := w.names db ctes []
    let limit' ← match limit with
      | some l => some <$> PrepareM.lift (resolveStandalone bare l)
      | none => pure none
    let offset' ← match offset with
      | some l => some <$> PrepareM.lift (resolveStandalone bare l)
      | none => pure none
    PrepareM.lift (checkCode w.inTrigger filter'.toList [])
    let event := TriggerEvent.delete
    if compile then
      if isView then compileTriggers fuel db t (db.firing t.name .insteadOf event [])
      else compileTriggers fuel db t (db.firing t.name .before event [])
    let ret ← PrepareM.lift (planReturning db w t returning)
    if compile && !isView then compileTriggers fuel db t (db.firing t.name .after event [])
    return { table := t.name, onView := isView, filter := filter', orderBy := order',
             limit := limit', offset := offset', returning := ret }

end

def prepareFuel : Nat := 64

def prepare (db : Database) (s : Statement) : Except Failure Unit := do
  let _ ← (prepareStep prepareFuel db {} true s).run []

/-! ## Running statements -/

/-- The state a statement changes as it runs: the database, the connection's counters, the
rows the statement has changed, and the triggers running. -/
structure Running where
  db : Database
  counters : CallContext := {}
  changed : Int := 0
  active : List String := []

abbrev ExecM := StateT Running (Except Halt)

def ExecM.eval {α : Type} (m : EvalM α) : ExecM α := fun s => (·, s) <$> m

def ExecM.lift {α : Type} (m : Except Failure α) : ExecM α := ExecM.eval (liftFailure m)

def ExecM.fail {α : Type} (f : Failure) : ExecM α := throw (.fault f .abort)

def Resolution.unwind : Resolution → Unwind
  | .rollback => .rollback
  | .fail => .fail
  | _ => .abort

def Running.env (r : Running) (params : List Datum) (pseudo : Frame) (frames : List Frame) : Env :=
  { db := r.db, params, frames := frames ++ [pseudo], counters := r.counters }

def currentTable (name : String) : ExecM Table := do
  ExecM.lift ((← get).db.table name)

def putTable (t : Table) : ExecM Unit := modify fun r => { r with db := r.db.putTable t }

def mustBeInt (d : Datum) : ExecM Int :=
  match Datum.stored .numeric d with
  | .int n => return n
  | _ => throw (.fault mismatch .abort)

def sequenceOf (db : Database) (name : String) : Int :=
  match db.table? "sqlite_sequence" with
  | some s =>
    (s.rows.findSome? fun r => match r.values with
      | .text n :: v :: _ => if sameName n name then some v.intValue else none
      | _ => none).getD 0
  | none => 0

def recordSequence (name : String) (rowid : Int) : ExecM Unit := do
  let db := (← get).db
  match db.table? "sqlite_sequence" with
  | some s =>
    if s.rows.any fun r => match r.values with
        | .text n :: _ => sameName n name
        | _ => false then
      let s' := { s with rows := s.rows.map fun r => match r.values with
        | .text n :: v :: more =>
          if sameName n name && v.intValue < rowid then { r with values := .text n :: .int rowid :: more }
          else r
        | _ => r }
      putTable s'
    else
      let next := s.maxRowid + 1
      putTable (s.insertRow { rowid := next, values := [.text name, .int rowid] })
  | none => pure ()

def newRowid (t : Table) : ExecM Int := do
  let top := t.maxRowid
  if t.autoincrement then
    let seq := sequenceOf (← get).db t.name
    let m := max top seq
    if m ≥ maxInt then ExecM.fail (sqlError "database or disk is full")
    return m + 1
  if top < maxInt then return top + 1
  let used := t.rows.map (·.rowid)
  let free := (List.range (t.rows.length + 1)).find? fun k => !used.contains (Int.ofNat k + 1)
  match free with
  | some k => return Int.ofNat k + 1
  | none => ExecM.fail (sqlError "database or disk is full")

def strictTypeWord : Datum → String
  | .int _ => "INTEGER"
  | .real _ => "REAL"
  | .text _ => "TEXT"
  | .blob _ => "BLOB"
  | .null => "NULL"

def storeValues (t : Table) (values : List Datum) : ExecM (List Datum) := do
  let mut out : List Datum := []
  for j in List.range t.columns.length do
    let c := t.column j
    let v := values.getD j .null
    let v := if t.rowidColumn == some j then v else Datum.stored c.affinity v
    if t.strict && !v.isNull then
      let ok := match standardType? c.type, v with
        | some "INT", .int _ | some "INTEGER", .int _ | some "REAL", .real _
        | some "TEXT", .text _ | some "BLOB", .blob _ | some "ANY", _ => true
        | _, _ => false
      if !ok then
        ExecM.fail (.database .integrity ("cannot store " ++ strictTypeWord v ++ " value in " ++
          ((standardType? c.type).getD c.type) ++ " column " ++ t.name ++ "." ++ c.name))
    out := out ++ [v]
  return out

def computeGenerated (t : Table) (row : Row) : ExecM Row := do
  if t.columns.all (·.generated.isNone) then return row
  let mut row := row
  for j in List.range t.columns.length do
    let c := t.column j
    match c.generated with
    | some e =>
      let e' ← ExecM.lift (resolveSelf (← get).db t (some "generated columns") true e)
      let env := (← get).env [] { rows := [none, none, none] } [{ rows := [some row] }]
      let v ← ExecM.eval (evalExpr evalFuel env e')
      row := { row with values := row.values.set j (Datum.stored c.affinity v) }
    | none => pure ()
  return row

def defaultValue (params : List Datum) (e : Expr) : ExecM Datum := do
  let env := (← get).env params { rows := [none, none, none] } [{ rows := [] }]
  ExecM.eval (evalExpr evalFuel env e)

def readsColumns (cols : List Nat) (rowid : Bool) : Nat → Expr → Bool
  | 0, _ => true
  | fuel + 1, e =>
    match e with
    | .column r => r.level == 0 && match r.column with
      | some c => cols.contains c
      | none => rowid
    | .unary _ a | .collate a _ | .cast a _ => readsColumns cols rowid fuel a
    | .binary _ a b => readsColumns cols rowid fuel a || readsColumns cols rowid fuel b
    | .between _ a l h =>
      readsColumns cols rowid fuel a || readsColumns cols rowid fuel l || readsColumns cols rowid fuel h
    | .call _ _ args _ | .vector args => args.any (readsColumns cols rowid fuel)
    | .inList _ a items => readsColumns cols rowid fuel a || items.any (readsColumns cols rowid fuel)
    | .inQuery .. | .exists _ | .scalar _ => true
    | .case o arms els =>
      (o.map (readsColumns cols rowid fuel)).getD false ||
      arms.any (fun (w, t) => readsColumns cols rowid fuel w || readsColumns cols rowid fuel t) ||
      (els.map (readsColumns cols rowid fuel)).getD false
    | _ => false

/-- What the constraint checks of a row decided. -/
inductive CheckOutcome where
  /-- The row may be written, with the values the checks settled. -/
  | write (row : Row)
  /-- The row is skipped. -/
  | skip
  /-- An upsert clause updates the row in the way instead. -/
  | upsert (clause : UpsertPlan) (existing : Row)

/-- What is being checked: a new row, or an update that changed some columns and perhaps
the row number of the row it had. -/
structure CheckScope where
  /-- The columns changed, or none for a new row. -/
  changed : Option (List Nat) := none
  /-- The row number the row had before an update. -/
  oldRowid : Option Int := none
  /-- Whether the row number is new: given by an insert, or changed by an update. -/
  rowidChanged : Bool := false

def upsertFor (upserts : List UpsertPlan) (target : ConflictTarget) : Option UpsertPlan :=
  upserts.find? fun u => u.target == target || u.target == .any

def checkNotNull (t : Table) (override : Option Resolution) (scope : CheckScope)
    (params : List Datum) (row : Row) : ExecM (Option Row) := do
  let mut row := row
  let mut replaced : List Nat := []
  let order := (List.range t.columns.length).filter (fun j => (t.column j).generated.isNone) ++
    (List.range t.columns.length).filter (fun j => (t.column j).generated.isSome)
  for j in order do
    let c := t.column j
    match c.notNull with
    | none => pure ()
    | some declared =>
      let skip := t.rowidColumn == some j ||
        (c.generated.isNone && match scope.changed with
          | some cs => !cs.contains j
          | none => false)
      if !skip && (row.values.getD j .null).isNull then
        let action := override.getD (declared.getD .abort)
        let action := if action == .replace && (c.default.isNone || c.generated.isSome) then
            Resolution.abort else action
        match action with
        | .ignore => return none
        | .replace =>
          let v ← match c.default with
            | some d => defaultValue params d
            | none => pure .null
          row := { row with values := row.values.set j v }
          replaced := replaced ++ [j]
        | a => throw (.fault (.database .integrity
            ("NOT NULL constraint failed: " ++ t.name ++ "." ++ c.name)) a.unwind)
  for j in replaced do
    if (row.values.getD j .null).isNull then
      throw (.fault (.database .integrity
        ("NOT NULL constraint failed: " ++ t.name ++ "." ++ (t.column j).name)) .abort)
  return some row

def checkChecks (t : Table) (override : Option Resolution) (scope : CheckScope) (row : Row) :
    ExecM Bool := do
  for (_, e, label) in t.checks do
    let e' ← ExecM.lift (resolveSelf (← get).db t (some "CHECK constraints") false e)
    let relevant := match scope.changed with
      | some cs => readsColumns cs scope.rowidChanged 400 e'
      | none => true
    if relevant then
      let env := (← get).env [] { rows := [none, none, none] } [{ rows := [some row] }]
      if (← ExecM.eval (evalTest evalFuel env e')) == some false then
        let action := override.getD .abort
        match action with
        | .ignore => return false
        | .replace => ExecM.fail (.database .integrity ("CHECK constraint failed: " ++ label))
        | a => throw (.fault (.database .integrity ("CHECK constraint failed: " ++ label)) a.unwind)
  return true

def rowidFailure (t : Table) : Failure :=
  .database .integrity ("UNIQUE constraint failed: " ++ t.name ++ "." ++
    match t.rowidColumn with
    | some c => (t.column c).name
    | none => "rowid")

def checkUnique (t : Table) (override : Option Resolution) (scope : CheckScope)
    (upserts : List UpsertPlan) (row : Row) : ExecM CheckOutcome := do
  let db := (← get).db
  let ownRowid := scope.oldRowid.getD row.rowid
  -- the row number
  let rowidAction : Option Resolution :=
    match upsertFor upserts .rowid with
    | some u => if u.update.isSome then none else some .ignore
    | none => some (override.getD (t.rowidConflict.getD .abort))
  let rowidUpsert := upsertFor upserts .rowid
  let checkRowid : ExecM (Option CheckOutcome) := do
    if t.withoutRowid || !scope.rowidChanged then return none
    let cur ← currentTable t.name
    match cur.row? row.rowid with
    | some existing =>
      if existing.rowid == ownRowid then return none
      match rowidAction, rowidUpsert with
      | none, some u => return some (.upsert u existing)
      | some .ignore, _ => return some .skip
      | some .replace, _ =>
        putTable (cur.deleteRow existing.rowid)
        return none
      | some a, _ => throw (.fault (rowidFailure t) a.unwind)
      | none, none => throw (.fault (rowidFailure t) .abort)
    | none => return none
  let deferRowid := rowidAction == some .replace && override != some .replace &&
    !t.indexes.isEmpty && (upsertFor upserts .rowid).isNone
  if !deferRowid then
    match ← checkRowid with
    | some o => return o
    | none => pure ()
  -- the unique indexes: upsert targets first
  let ordered := t.checkOrder.filter (·.unique)
  let targeted := upserts.filterMap fun u => match u.target with
    | .index n => ordered.find? (·.name == n)
    | _ => none
  let order := targeted ++ ordered.filter fun i => !targeted.any (·.name == i.name)
  for i in order do
    let relevant := match scope.changed with
      | some cs => scope.rowidChanged ||
        (match i.columns with
          | some ics => ics.any cs.contains
          | none => true) ||
        i.filter.isSome
      | none => true
    if relevant then
      match ← ExecM.lift (indexKey db t i row) with
      | none => pure ()
      | some key =>
        let cur ← currentTable t.name
        let colls := i.collations
        let mut clash : Option Row := none
        for r in cur.rows do
          if clash.isNone && r.rowid != ownRowid then
            match ← ExecM.lift (indexKey db cur i r) with
            | some k => if keysClash colls key k then clash := some r
            | none => pure ()
        match clash with
        | none => pure ()
        | some existing =>
          match upsertFor upserts (.index i.name) with
          | some u =>
            if u.update.isSome then return .upsert u existing else return .skip
          | none =>
            match override.getD (i.conflict.getD .abort) with
            | .ignore => return .skip
            | .replace => putTable (cur.deleteRow existing.rowid)
            | a => throw (.fault (uniqueFailure t i) a.unwind)
  if deferRowid then
    match ← checkRowid with
    | some o => return o
    | none => pure ()
  return .write row

def checkRow (t : Table) (override : Option Resolution) (scope : CheckScope)
    (upserts : List UpsertPlan) (params : List Datum) (row : Row) : ExecM CheckOutcome := do
  match ← checkNotNull t override scope params row with
  | none => return .skip
  | some row =>
    let values ← storeValues t row.values
    let row := { row with values }
    if !(← checkChecks t override scope row) then return .skip
    checkUnique t override scope upserts row

def placeRow (t : Table) (row : Row) : Table :=
  if !t.withoutRowid then t.insertRow row
  else
    match t.primaryIndex? with
    | some i =>
      let cols := i.columns.getD []
      let keys : List SortKey := (List.range cols.length).map fun k =>
        let term := i.terms.getD k default
        { collation := Collation.ofName term.collation, order := term.order }
      let keyOf (r : Row) := cols.map fun c => r.values.getD c .null
      let before := t.rows.filter fun r => compareKeys keys (keyOf r) (keyOf row) == .lt
      let after := t.rows.filter fun r => compareKeys keys (keyOf r) (keyOf row) != .lt
      { t with rows := before ++ [row] ++ after }
    | none => t.insertRow row

def countChange : ExecM Unit :=
  modify fun r =>
    let counters := { r.counters with totalChanges := r.counters.totalChanges + 1 }
    { r with changed := r.changed + 1, counters }

def returningRow (params : List Datum) (exprs : List Expr) (row : Row) : ExecM (List Datum) := do
  if exprs.isEmpty then return []
  let env := (← get).env params { rows := [none, none, none] } [{ rows := [some row] }]
  ExecM.eval (evalList evalFuel env exprs)

def runFuel : Nat := 1000

mutual

def fireTriggers : Nat → Within → Table → TriggerTime → TriggerEvent → List String →
    Option Row → Option Row → ExecM Bool
  | 0, _, _, _, _, _, _, _ => ExecM.fail (sqlError "too many levels of trigger recursion")
  | fuel + 1, w, t, time, event, assigned, old, new => do
    let active := (← get).active
    let trs := ((← get).db.firing t.name time event assigned).filter fun tr =>
      !active.contains tr.name
    for tr in trs do
      let pseudoFrame : Frame := { rows := [old, new, none] }
      let tw : Within := { pseudo := triggerPseudo t tr.event, inTrigger := true,
                           conflict := w.conflict }
      let go ← match tr.condition with
        | some c => do
          let c' ← ExecM.lift (resolveStandalone (tw.names (← get).db [] []) c)
          let env := (← get).env [] pseudoFrame [{ rows := [] }]
          pure ((← ExecM.eval (evalTest evalFuel env c')) == some true)
        | none => pure true
      if go then
        let saved ← get
        modify fun r => { r with active := tr.name :: r.active }
        let outcome ← tryCatch (do runSteps fuel tw pseudoFrame tr.body; pure true) fun h =>
          match h with
          | .ignore => pure false
          | other => throw other
        modify fun r =>
          let counters := { r.counters with changes := saved.counters.changes,
                                            lastRowid := saved.counters.lastRowid }
          { r with active := saved.active, changed := saved.changed, counters }
        if !outcome then return false
    return true

def runSteps : Nat → Within → Frame → List Statement → ExecM Unit
  | 0, _, _, _ => ExecM.fail (sqlError "too many levels of trigger recursion")
  | _, _, _, [] => return
  | fuel + 1, w, pseudo, s :: rest => do
    let before := (← get).changed
    modify fun r => { r with changed := 0 }
    let _ ← runStep fuel w pseudo [] s
    modify fun r =>
      let counters := { r.counters with changes := r.changed }
      { r with changed := before, counters }
    runSteps fuel w pseudo rest

def runStep : Nat → Within → Frame → List Datum → Statement → ExecM (List (List Datum))
  | 0, _, _, _, _ => ExecM.fail (sqlError "too many levels of trigger recursion")
  | fuel + 1, w, pseudo, params, s => do
    let db := (← get).db
    match s with
    | .select q =>
      let (q', _) ← ExecM.lift (resolveTop { db, pseudo := w.pseudo } q)
      let env := (← get).env params pseudo []
      ExecM.eval (runQuery evalFuel env q' none)
    | .insert ctes conflict schema table aliasName columns source upserts returning =>
      let (t, isView) ← ExecM.lift (targetTable db w schema table fun tr => tr.firesOn .insert [])
      let plan ← ExecM.lift ((prepareInsert prepareFuel db w false ctes conflict schema t isView
        aliasName columns source upserts returning).run' [])
      runInsert fuel w pseudo params plan
    | .update ctes conflict schema table aliasName sets sources filter returning orderBy limit offset =>
      let (t, isView) ← ExecM.lift (targetTable db w schema table fun tr => tr.firesOn (.update none) [])
      let plan ← ExecM.lift ((prepareUpdate prepareFuel db w false ctes conflict t isView aliasName
        sets sources filter returning orderBy limit offset).run' [])
      runUpdate fuel w pseudo params plan
    | .delete ctes schema table aliasName filter returning orderBy limit offset =>
      let (t, isView) ← ExecM.lift (targetTable db w schema table fun tr => tr.firesOn .delete [])
      let plan ← ExecM.lift ((prepareDelete prepareFuel db w false ctes t isView aliasName filter
        returning orderBy limit offset).run' [])
      runDelete fuel w pseudo params plan
    | _ => return []

def runInsert : Nat → Within → Frame → List Datum → InsertPlan → ExecM (List (List Datum))
  | 0, _, _, _, _ => ExecM.fail (sqlError "too many levels of trigger recursion")
  | fuel + 1, w, pseudo, params, plan => do
    let sources ← match plan.source with
      | .exprs row => pure [Sum.inl row]
      | .query q => do
        let env := (← get).env params pseudo []
        let rows ← ExecM.eval (runQuery evalFuel env q none)
        pure (rows.map Sum.inr)
      | .defaults => pure [Sum.inr []]
    let mut out : List (List Datum) := []
    for src in sources do
      let db := (← get).db
      let t ← if plan.intoView then
          ExecM.lift (match db.view? plan.table with
            | some v => viewTable db v
            | none => .error (noSuchTable plan.table))
        else currentTable plan.table
      -- the values: given, or defaults, in column order
      let env := (← get).env params pseudo [{ rows := [] }]
      let given : List (Option Datum) ← match src with
        | .inl row => do
          let mut vs : List (Option Datum) := row.map fun _ => none
          for j in List.range t.columns.length do
            match plan.places.getD j none with
            | some p =>
              if t.rowidColumn != some j then
                vs := vs.set p (some (← ExecM.eval (evalExpr evalFuel env (row.getD p default))))
            | none => pure ()
          match plan.rowidPlace with
          | some p => vs := vs.set p (some (← ExecM.eval (evalExpr evalFuel env (row.getD p default))))
          | none => pure ()
          pure vs
        | .inr values => pure (values.map some)
      let value (p : Nat) : Datum := (given.getD p none).getD .null
      let mut values : List Datum := []
      for j in List.range t.columns.length do
        let c := t.column j
        let v ← if t.rowidColumn == some j || c.generated.isSome then pure .null
          else match plan.places.getD j none with
            | some p => pure (value p)
            | none => match c.default with
              | some d => defaultValue params d
              | none => pure .null
        values := values ++ [v]
      let rowidGiven : Option Datum := plan.rowidPlace.map value
      if plan.intoView then
        let _ ← fireTriggers fuel { w with conflict := plan.conflict } t .insteadOf .insert []
          none (some { rowid := -1, values })
      else
        let tw : Within := { w with conflict := plan.conflict }
        -- the triggers before
        let beforeTriggers := (← get).db.firing t.name .before .insert []
        let mut go := true
        if !beforeTriggers.isEmpty then
          let provisional ← match rowidGiven with
            | some v => if v.isNull then pure (-1) else mustBeInt v
            | none => pure (-1)
          let vals := match t.rowidColumn with
            | some c => values.set c (.int provisional)
            | none => values
          let newRow ← computeGenerated t { rowid := provisional, values := vals }
          let stored ← storeValues t newRow.values
          go ← fireTriggers fuel tw t .before .insert [] none (some { newRow with values := stored })
        if go then
          let t ← currentTable plan.table
          let rowid ← match rowidGiven with
            | some v => if v.isNull then newRowid t else mustBeInt v
            | none => newRowid t
          let withRowid := match t.rowidColumn with
            | some c => values.set c (.int rowid)
            | none => values
          let row ← computeGenerated t { rowid, values := withRowid }
          let scope : CheckScope := { rowidChanged := rowidGiven.any (!·.isNull) }
          match ← checkRow t plan.conflict scope plan.upserts params row with
          | .skip => pure ()
          | .write row =>
            let cur ← currentTable plan.table
            putTable (placeRow cur row)
            if t.autoincrement then recordSequence t.name rowid
            countChange
            modify fun r => { r with counters := { r.counters with lastRowid := rowid } }
            if !plan.returning.isEmpty then out := out ++ [← returningRow params plan.returning row]
            let _ ← fireTriggers fuel tw t .after .insert [] none (some row)
          | .upsert u existing =>
            match u.update with
            | some (sets, cond) =>
              let excluded := row
              let upseudo : Frame := { rows := (pseudo.rows.take 2) ++ [some excluded] }
              let ok ← match cond with
                | some c => do
                  let env := (← get).env params upseudo [{ rows := [some existing] }]
                  pure ((← ExecM.eval (evalTest evalFuel env c)) == some true)
                | none => pure true
              if ok then
                match ← updateRow fuel tw upseudo params t.name (some .abort) sets u.names
                    existing.rowid [] with
                | some r' =>
                  if !plan.returning.isEmpty then out := out ++ [← returningRow params plan.returning r']
                | none => pure ()
            | none => pure ()
    return out

def updateRow : Nat → Within → Frame → List Datum → String → Option Resolution →
    List Assignment → List String → Int → List (Option Row) → ExecM (Option Row)
  | 0, _, _, _, _, _, _, _, _, _ => ExecM.fail (sqlError "too many levels of trigger recursion")
  | fuel + 1, w, pseudo, params, table, override, sets, names, rowid, extra => do
    let t ← currentTable table
    match t.row? rowid with
    | none => return none
    | some old =>
      let env := (← get).env params pseudo [{ rows := some old :: extra }]
      let rowidSet := sets.find? (·.1.isNone)
      let newRowid ← match rowidSet with
        | some (_, e) => do mustBeInt (← ExecM.eval (evalExpr evalFuel env e))
        | none => pure old.rowid
      let mut values := old.values
      for j in List.range t.columns.length do
        if t.rowidColumn == some j then values := values.set j (.int newRowid)
        else
          match sets.find? (·.1 == some j) with
          | some (_, e) => values := values.set j (← ExecM.eval (evalExpr evalFuel env e))
          | none => pure ()
      let changed := sets.filterMap (·.1)
      let tw : Within := { w with conflict := override }
      -- the triggers before
      let beforeTriggers := (← get).db.firing t.name .before (.update none) names
      if !beforeTriggers.isEmpty then
        let newRow ← computeGenerated t { rowid := newRowid, values }
        let stored ← storeValues t newRow.values
        let go ← fireTriggers fuel tw t .before (.update none) names (some old)
          (some { newRow with values := stored })
        if !go then return none
        let cur ← currentTable table
        match cur.row? rowid with
        | none => return none
        | some now =>
          values := (List.range t.columns.length).map fun j =>
            if changed.contains j || t.rowidColumn == some j then values.getD j .null
            else now.values.getD j .null
      let row ← computeGenerated t { rowid := newRowid, values }
      let scope : CheckScope := { changed := some changed, oldRowid := some old.rowid,
                                  rowidChanged := newRowid != old.rowid }
      match ← checkRow t override scope [] params row with
      | .write row =>
        let cur ← currentTable table
        putTable (placeRow (cur.deleteRow old.rowid) row)
        if t.autoincrement && newRowid != old.rowid then recordSequence t.name newRowid
        countChange
        let _ ← fireTriggers fuel tw t .after (.update none) names (some old) (some row)
        return some row
      | _ => return none

def runUpdate : Nat → Within → Frame → List Datum → UpdatePlan → ExecM (List (List Datum))
  | 0, _, _, _, _ => ExecM.fail (sqlError "too many levels of trigger recursion")
  | fuel + 1, w, pseudo, params, plan => do
    let db := (← get).db
    let t ← if plan.onView then
        ExecM.lift (match db.view? plan.table with
          | some v => viewTable db v
          | none => .error (noSuchTable plan.table))
      else currentTable plan.table
    let rows ← if plan.onView then do
        let v := ((← get).db.view? plan.table).getD default
        let (q, _) ← ExecM.lift (resolveTop { db := (← get).db } v.q)
        let env := (← get).env params pseudo []
        let vals ← ExecM.eval (runQuery evalFuel env q none)
        pure ((List.range vals.length).map fun k => ({ rowid := Int.ofNat k + 1, values := vals.getD k [] } : Row))
      else pure t.rows
    let chosen ← chooseRows fuel params pseudo rows plan.filter plan.orderBy plan.limit plan.offset
    let mut out : List (List Datum) := []
    if plan.onView then
      for old in chosen do
        let env := (← get).env params pseudo [{ rows := [some old] }]
        let mut values := old.values
        for (c, e) in plan.sets do
          match c with
          | some j => values := values.set j (← ExecM.eval (evalExpr evalFuel env e))
          | none => pure ()
        let _ ← fireTriggers fuel { w with conflict := plan.conflict } t .insteadOf
          (.update none) plan.names (some old) (some { old with values })
      return out
    for old in chosen do
      match ← updateRow fuel w pseudo params plan.table plan.conflict plan.sets plan.names
          old.rowid [] with
      | some row =>
        if !plan.returning.isEmpty then out := out ++ [← returningRow params plan.returning row]
      | none => pure ()
    return out

def runDelete : Nat → Within → Frame → List Datum → DeletePlan → ExecM (List (List Datum))
  | 0, _, _, _, _ => ExecM.fail (sqlError "too many levels of trigger recursion")
  | fuel + 1, w, pseudo, params, plan => do
    let db := (← get).db
    let t ← if plan.onView then
        ExecM.lift (match db.view? plan.table with
          | some v => viewTable db v
          | none => .error (noSuchTable plan.table))
      else currentTable plan.table
    let rows ← if plan.onView then do
        let v := ((← get).db.view? plan.table).getD default
        let (q, _) ← ExecM.lift (resolveTop { db := (← get).db } v.q)
        let env := (← get).env params pseudo []
        let vals ← ExecM.eval (runQuery evalFuel env q none)
        pure ((List.range vals.length).map fun k => ({ rowid := Int.ofNat k + 1, values := vals.getD k [] } : Row))
      else pure t.rows
    let chosen ← chooseRows fuel params pseudo rows plan.filter plan.orderBy plan.limit plan.offset
    let mut out : List (List Datum) := []
    for old in chosen do
      if plan.onView then
        let _ ← fireTriggers fuel w t .insteadOf .delete [] (some old) none
      else
        let cur ← currentTable plan.table
        match cur.row? old.rowid with
        | none => pure ()
        | some row =>
          let go ← fireTriggers fuel w t .before .delete [] (some row) none
          if go then
            let cur ← currentTable plan.table
            match cur.row? old.rowid with
            | none => pure ()
            | some row =>
              putTable (cur.deleteRow row.rowid)
              countChange
              if !plan.returning.isEmpty then out := out ++ [← returningRow params plan.returning row]
              let _ ← fireTriggers fuel w t .after .delete [] (some row) none
    return out

def chooseRows : Nat → List Datum → Frame → List Row → Option Expr → List (Expr × SortOrder) →
    Option Expr → Option Expr → ExecM (List Row)
  | 0, _, _, _, _, _, _, _ => ExecM.fail (sqlError "too many levels of trigger recursion")
  | _ + 1, params, pseudo, rows, filter, orderBy, limit, offset => do
    let mut kept : List (Row × List Datum) := []
    for r in rows do
      let env := (← get).env params pseudo [{ rows := [some r] }]
      let pass ← match filter with
        | some f => do pure ((← ExecM.eval (evalTest evalFuel env f)) == some true)
        | none => pure true
      if pass then
        let keys ← ExecM.eval (evalList evalFuel env (orderBy.map (·.1)))
        kept := kept ++ [(r, keys)]
    let bare := (← get).env params pseudo [{ rows := [] }]
    let lim ← match limit with
      | some l => do ExecM.eval (limitOf (← ExecM.eval (evalExpr evalFuel bare l)))
      | none => pure none
    let off ← match offset with
      | some o => do ExecM.eval (offsetOf (← ExecM.eval (evalExpr evalFuel bare o)))
      | none => pure 0
    let sorted := if orderBy.isEmpty then kept
      else sortByKeys (orderBy.map fun (k, o) => { collation := .ofName (collationOf k), order := o }) kept
    let rows := (sorted.map (·.1)).drop off
    return match lim with
      | some n => rows.take n
      | none => rows

end

end CatalogSync.Sql
