import CatalogSync.Sql.Resolve
import CatalogSync.Sql.Library
import CatalogSync.Sql.JsonDoc

/-!
# Evaluating expressions and queries

`evalExpr` computes a resolved expression over the rows in reach, and `runQuery` computes
a resolved query.

The rows in reach are a stack of frames, the innermost first: each query level pushes the
current row of each of its sources (none for the missing side of an outer join), and the
bottom frame holds the pseudo rows of a trigger or an upsert (`old`, `new`, `excluded`). A
column reference names its frame by how many levels out it is.

Arithmetic follows the database: two integers give an integer unless the result leaves the
64-bit range, in which case doubles are used; division or remainder by zero gives null; a
text takes part as the number it spells. A comparison converts its operands under the
affinity of the comparison and compares under its collation; null compares as unknown
except under `IS`. `AND` and `OR` compute both operands when a value is wanted, but a test
(`WHERE`, `WHEN`, `ON`, `HAVING`) stops at the first operand that decides it.

A query computes its rows from its sources, row by row; a query that sorts, groups or
removes duplicates computes all of them first, while a plain one can stop after the rows
asked for (`want`).

Evaluation stops with a `Halt`: a failure with how much of the statement's work it undoes,
or `RAISE(IGNORE)`, which skips the row that fired the trigger.
-/

namespace CatalogSync.Sql

/-- How much work a failure undoes. -/
inductive Unwind where
  /-- The failing statement's changes. -/
  | abort
  /-- Nothing: the changes the statement made before failing stay. -/
  | fail
  /-- The whole transaction. -/
  | rollback
  deriving DecidableEq, Repr, Inhabited

/-- Why evaluation stopped. -/
inductive Halt where
  | fault (f : Failure) (unwind : Unwind)
  /-- `RAISE(IGNORE)`. -/
  | ignore
  deriving Inhabited

abbrev EvalM := Except Halt

def halt {α : Type} (f : Failure) : EvalM α := throw (.fault f .abort)

def liftFailure {α : Type} : Except Failure α → EvalM α
  | .ok a => .ok a
  | .error f => .error (.fault f .abort)

def mismatch : Failure := .database .integrity "datatype mismatch"

/-- The rows of one query level, with the aggregate values of its current group. -/
structure Frame where
  rows : List (Option Row)
  aggregates : List Datum := []
  deriving Inhabited

/-- What evaluation reads: the database, the parameters, the frames and the connection's
counters. -/
structure Env where
  db : Database
  params : List Datum := []
  frames : List Frame := [{ rows := [none, none, none] }]
  counters : CallContext := {}
  /-- Whether the statement runs as part of a trigger. -/
  inTrigger : Bool := false

def Env.column (env : Env) (r : ColumnRef) : Datum :=
  match env.frames[r.level]? with
  | some fr =>
    match fr.rows.getD r.source none with
    | some row =>
      match r.column with
      | some c => row.values.getD c .null
      | none => .int row.rowid
    | none => .null
  | none => .null

def Env.aggregate (env : Env) (k : Nat) : Datum :=
  match env.frames with
  | fr :: _ => fr.aggregates.getD k .null
  | [] => .null

def Env.push (env : Env) (fr : Frame) : Env := { env with frames := fr :: env.frames }

/-! ## Literals and operators -/

def isHexLiteral (t : String) : Bool :=
  match t.toList with
  | '0' :: x :: _ => x = 'x' || x = 'X'
  | _ => false

def isRealLiteral (t : String) : Bool :=
  !isHexLiteral t && t.any fun c => c = '.' || c = 'e' || c = 'E'

def numberLiteral (t : String) (negative : Bool) : Except Failure Datum :=
  if isRealLiteral t then
    let x := (readReal t).value
    .ok (.real (if negative then -x else x))
  else
    let r := readLiteralInteger t
    if isHexLiteral t then
      if r.status == 2 || (negative && r.value == minInt) then
        .error (sqlError ("hex literal too big: " ++ (if negative then "-" else "") ++ t))
      else .ok (.int (if negative then -r.value else r.value))
    else if r.status == 2 || (r.status == 3 && !negative) then
      let x := (readReal t).value
      .ok (.real (if negative then -x else x))
    else if negative then .ok (.int (if r.status == 3 then minInt else -r.value))
    else .ok (.int r.value)

def intArithmetic (op : BinaryOp) (a b : Int) : Option Datum :=
  match op with
  | .add => let r := a + b; if fitsInt r then some (.int r) else none
  | .sub => let r := a - b; if fitsInt r then some (.int r) else none
  | .mul => let r := a * b; if fitsInt r then some (.int r) else none
  | .div =>
    if b == 0 then some .null
    else if b == -1 && a == minInt then none
    else some (.int (a.tdiv b))
  | _ =>
    if b == 0 then some .null
    else some (.int (a.tmod (if b == -1 then 1 else b)))

def realArithmetic (op : BinaryOp) (left right : Datum) : Datum :=
  match op with
  | .add => realResult (left.realValue + right.realValue)
  | .sub => realResult (left.realValue - right.realValue)
  | .mul => realResult (left.realValue * right.realValue)
  | .div =>
    let d := right.realValue
    if d == 0 then .null else realResult (left.realValue / d)
  | _ =>
    let b := right.intValue
    if b == 0 then .null
    else realResult (Binary64.ofInt (left.intValue.tmod (if b == -1 then 1 else b)))

def arithmetic (op : BinaryOp) (left right : Datum) : Datum :=
  if left.isNull || right.isNull then .null
  else
    match left.arithmeticValue, right.arithmeticValue with
    | .int a, .int b => (intArithmetic op a b).getD (realArithmetic op left right)
    | _, _ => realArithmetic op left right

def shiftInt (toLeft : Bool) (a b : Int) : Int :=
  if b == 0 then a
  else
    let (toLeft, n) := if b < 0 then (!toLeft, if b > -64 then -b else 64) else (toLeft, b)
    if n ≥ 64 then (if a ≥ 0 || toLeft then 0 else -1)
    else if toLeft then wrapInt (a * (Nat.pow 2 n.toNat : Nat))
    else Int.shiftRight a n.toNat

def bitwise (op : BinaryOp) (left right : Datum) : Datum :=
  if left.isNull || right.isNull then .null
  else
    let a := left.intValue
    let b := right.intValue
    let ua := (a % 18446744073709551616).toNat
    let ub := (b % 18446744073709551616).toNat
    match op with
    | .bitAnd => .int (wrapInt (ua &&& ub))
    | .bitOr => .int (wrapInt (ua ||| ub))
    | .shl => .int (shiftInt true a b)
    | _ => .int (shiftInt false a b)

def truthValue : Option Bool → Datum
  | some true => .int 1
  | some false => .int 0
  | none => .null

def andTruth : Option Bool → Option Bool → Option Bool
  | some false, _ | _, some false => some false
  | some true, some true => some true
  | _, _ => none

def orTruth : Option Bool → Option Bool → Option Bool
  | some true, _ | _, some true => some true
  | some false, some false => some false
  | _, _ => none

def orderHolds (op : BinaryOp) (o : Ordering) : Bool :=
  match op with
  | .eq | .is => o == .eq
  | .ne | .isNot => o != .eq
  | .lt => o == .lt
  | .le => o != .gt
  | .gt => o == .gt
  | _ => o != .lt

def compareOp (op : BinaryOp) (aff : Option Affinity) (coll : Collation) (a b : Datum) : Datum :=
  match op with
  | .is | .isNot =>
    let same := if a.isNull && b.isNull then true
      else if a.isNull || b.isNull then false
      else
        let (x, y) := convertOperands aff a b
        compareValues coll x y == .eq
    .int (if (op == .is) == same then 1 else 0)
  | _ =>
    if a.isNull || b.isNull then .null
    else
      let (x, y) := convertOperands aff a b
      .int (if orderHolds op (compareValues coll x y) then 1 else 0)

def castValue (ty : String) (d : Datum) : Datum := Datum.castTo (Affinity.ofType ty) d

def storedUnder : Option Affinity → Datum → Datum
  | some a, d => Datum.stored a d
  | none, d => d

/-! ## Sorting and grouping -/

/-- The key of a sort: its collation and order. -/
structure SortKey where
  collation : Collation
  order : SortOrder

def compareUnder (k : SortKey) (a b : Datum) : Ordering :=
  let nullsFirst := k.order.nullsFirst.getD (!k.order.descending)
  match a.isNull, b.isNull with
  | true, true => .eq
  | true, false => if nullsFirst then .lt else .gt
  | false, true => if nullsFirst then .gt else .lt
  | false, false =>
    let o := compareValues k.collation a b
    if k.order.descending then o.swap else o

def compareKeys : List SortKey → List Datum → List Datum → Ordering
  | k :: ks, a :: as, b :: bs =>
    match compareUnder k a b with
    | .eq => compareKeys ks as bs
    | o => o
  | _, _, _ => .eq

def sortByKeys {α : Type} (keys : List SortKey) (rows : List (α × List Datum)) :
    List (α × List Datum) :=
  rows.mergeSort fun a b => compareKeys keys a.2 b.2 != .gt

def sameRow (colls : List Collation) (a b : List Datum) : Bool :=
  a.length == b.length &&
  ((List.range a.length).all fun i =>
    compareValues (colls.getD i .binary) (a.getD i .null) (b.getD i .null) == .eq)

def distinctRows (colls : List Collation) (rows : List (List Datum)) : List (List Datum) :=
  rows.foldl (fun acc r => if acc.any (sameRow colls r) then acc else acc ++ [r]) []

def limitOf (d : Datum) : EvalM (Option Nat) :=
  match Datum.stored .numeric d with
  | .int n => return (if n < 0 then none else some n.toNat)
  | _ => throw (.fault mismatch .abort)

def offsetOf (d : Datum) : EvalM Nat :=
  match Datum.stored .numeric d with
  | .int n => return (if n < 0 then 0 else n.toNat)
  | _ => throw (.fault mismatch .abort)

def schemaRows (db : Database) : List Row :=
  let tables := db.tables.flatMap fun t =>
    (t.entry, [Datum.text "table", .text t.name, .text t.name, .int 2, .text t.text]) ::
    ((t.indexes.filter fun i => !(t.withoutRowid && i.origin == .primaryKey)).map fun i =>
      (i.entry, [Datum.text "index", .text i.name, .text t.name, .int 3,
       match i.text with
       | some s => .text s
       | none => .null]))
  let views := db.views.map fun v =>
    (v.entry, [Datum.text "view", .text v.name, .text v.name, .int 0, .text v.text])
  let triggers := db.triggers.map fun tr =>
    (tr.entry, [Datum.text "trigger", .text tr.name, .text tr.table, .int 0, .text tr.text])
  let all := (tables ++ views ++ triggers).mergeSort fun a b => a.1 ≤ b.1
  all.map fun (n, vs) => { rowid := Int.ofNat n, values := vs }

/-! ## Aggregates -/

/-- The state of `sum`, `total` and `avg`: the count, the integer sum while it is exact,
the double sum, whether a double took part and whether the integer sum overflowed. -/
structure SumState where
  count : Nat := 0
  intSum : Int := 0
  realSum : Float := 0.0
  approx : Bool := false
  overflow : Bool := false

def SumState.add (s : SumState) (d : Datum) : SumState :=
  match numericArg d with
  | some (.int n) =>
    let s := { s with count := s.count + 1, realSum := s.realSum + Binary64.ofInt n }
    if s.approx || s.overflow then s
    else
      let r := s.intSum + n
      if fitsInt r then { s with intSum := r } else { s with approx := true, overflow := true }
  | some v => { s with count := s.count + 1, realSum := s.realSum + v.realValue, approx := true }
  | none =>
    match d with
    | .null => s
    | _ => { s with count := s.count + 1, realSum := s.realSum + d.realValue, approx := true }

def aggregateOf (name : String) (star : Bool) (coll : Collation) (rows : List (List Datum)) :
    Except Failure (Datum × Option Nat) :=
  let first := rows.map fun r => r.getD 0 .null
  match asciiLower name with
  | "count" =>
    if star || rows.all List.isEmpty then .ok (.int rows.length, none)
    else .ok (.int (first.filter (!·.isNull)).length, none)
  | "sum" =>
    let s := first.foldl SumState.add {}
    if s.count == 0 then .ok (.null, none)
    else if s.overflow then .error (sqlError "integer overflow")
    else if s.approx then .ok (realResult s.realSum, none)
    else .ok (.int s.intSum, none)
  | "total" =>
    let s := first.foldl SumState.add {}
    .ok (realResult s.realSum, none)
  | "avg" =>
    let s := first.foldl SumState.add {}
    if s.count == 0 then .ok (.null, none)
    else .ok (realResult (s.realSum / Binary64.ofInt s.count), none)
  | "min" | "max" =>
    let isMax := asciiLower name == "max"
    let pick := (List.range first.length).foldl (fun (best : Option (Nat × Datum)) i =>
      let d := first.getD i .null
      if d.isNull then best
      else
        match best with
        | none => some (i, d)
        | some (_, b) =>
          let o := compareValues coll b d
          if (isMax && o == .lt) || (!isMax && o == .gt) then some (i, d) else best) none
    match pick with
    | some (i, d) => .ok (d, some i)
    | none => .ok (.null, none)
  | "group_concat" =>
    let parts := rows.filter fun r => !(r.getD 0 .null).isNull
    match parts with
    | [] => .ok (.null, none)
    | p :: ps =>
      let text := ps.foldl (fun acc r =>
        let sep := if r.length ≥ 2 then (r.getD 1 .null).asText else ","
        acc ++ sep ++ (r.getD 0 .null).asText) (p.getD 0 .null).asText
      .ok (.text text, none)
  | _ => .error (sqlError ("no such function: " ++ name))

/-! ## Evaluation -/

def evalFuel : Nat := 2000

abbrev Tuple := List (Option Row)

mutual

/-- Computes a resolved expression. -/
def evalExpr : Nat → Env → Expr → EvalM Datum
  | 0, _, _ => halt (sqlError "expression tree is too large (maximum depth 1000)")
  | fuel + 1, env, e =>
    match e with
    | .lit d => return d
    | .num t => liftFailure (numberLiteral t false)
    | .param i => return env.params.getD (i - 1) .null
    | .name _ n _ => halt (sqlError ("no such column: " ++ n))
    | .column r => return env.column r
    | .aggregate k => return env.aggregate k
    | .unary op a =>
      match op, a with
      | .neg, .num t => liftFailure (numberLiteral t true)
      | .neg, _ => do return arithmetic .sub (.int 0) (← evalExpr fuel env a)
      | .pos, _ => evalExpr fuel env a
      | .not, _ => do return truthValue ((← evalExpr fuel env a).truth.map (!·))
      | .bitNot, _ => do
        let v ← evalExpr fuel env a
        return (if v.isNull then .null else .int (-v.intValue - 1))
      | .isNull, _ => do return .int (if (← evalExpr fuel env a).isNull then 1 else 0)
      | .notNull, _ => do return .int (if (← evalExpr fuel env a).isNull then 0 else 1)
    | .binary op a b => do
      match op with
      | .and | .or =>
        let x ← evalExpr fuel env a
        let y ← evalExpr fuel env b
        return truthValue ((if op == .and then andTruth else orTruth) x.truth y.truth)
      | .concat =>
        let x ← evalExpr fuel env a
        let y ← evalExpr fuel env b
        return (if x.isNull || y.isNull then .null else .text (x.asText ++ y.asText))
      | .add | .sub | .mul | .div | .mod =>
        let x ← evalExpr fuel env a
        let y ← evalExpr fuel env b
        return arithmetic op x y
      | .bitAnd | .bitOr | .shl | .shr =>
        let x ← evalExpr fuel env a
        let y ← evalExpr fuel env b
        return bitwise op x y
      | _ => compareExprs fuel env op a b
    | .collate a _ => evalExpr fuel env a
    | .cast a ty => do return castValue ty (← evalExpr fuel env a)
    | .call name _ args star => evalCall fuel env name args star
    | .between neg a l h => do
      let x ← evalExpr fuel env a
      let lo ← evalExpr fuel env l
      let hi ← evalExpr fuel env h
      let ge := compareOp .ge (comparisonAffinity a l) (.ofName (compareCollation a l)) x lo
      let le := compareOp .le (comparisonAffinity a h) (.ofName (compareCollation a h)) x hi
      let r := andTruth ge.truth le.truth
      return truthValue (if neg then r.map (!·) else r)
    | .inList neg a items => do
      let x ← evalExpr fuel env a
      let aff := affinityOf a
      let coll := Collation.ofName (collationOf a)
      let r ← inItems fuel env aff coll x items false
      return truthValue (if neg then r.map (!·) else r)
    | .inQuery neg a q => do
      let x ← evalExpr fuel env a
      let rows ← runQuery fuel env q none
      let rhs := q.lastFirstExpr.getD (.lit .null)
      let aff := comparisonAffinity a rhs
      let coll := Collation.ofName (compareCollation a rhs)
      let r : Option Bool :=
        if rows.isEmpty then some false
        else if x.isNull then none
        else
          let xv := storedUnder aff x
          let values := rows.map fun row => storedUnder aff (row.getD 0 .null)
          if values.any fun v => !v.isNull && compareValues coll xv v == .eq then some true
          else if values.any Datum.isNull then none
          else some false
      return truthValue (if neg then r.map (!·) else r)
    | .exists q => do
      let rows ← runQuery fuel env q (some 1)
      return .int (if rows.isEmpty then 0 else 1)
    | .scalar q => do
      let rows ← runQuery fuel env q (some 1)
      match rows with
      | row :: _ => return row.getD 0 .null
      | [] => return .null
    | .case operand arms otherwise => do
      let x ← match operand with
        | some o => some <$> evalExpr fuel env o
        | none => pure none
      caseArms fuel env operand x arms otherwise
    | .raise kind message =>
      match kind with
      | .ignore => throw .ignore
      | .abort => throw (.fault (.database .integrity message) .abort)
      | .fail => throw (.fault (.database .integrity message) .fail)
      | .rollback => throw (.fault (.database .integrity message) .rollback)
    | .vector _ => halt (sqlError "row value misused")

def compareExprs : Nat → Env → BinaryOp → Expr → Expr → EvalM Datum
  | 0, _, _, _, _ => halt (sqlError "expression tree is too large (maximum depth 1000)")
  | fuel + 1, env, op, a, b => do
    match a, b with
    | .vector xs, .vector ys =>
      if xs.length != ys.length then halt (sqlError "row value misused")
      let mut result : Option Bool := some (op != .ne && op != .isNot)
      for (x, y) in xs.zip ys do
        let v ← compareExprs fuel env (if op == .ne then .eq else if op == .isNot then .is else op) x y
        result := andTruth result v.truth
      return truthValue (if op == .ne || op == .isNot then result.map (!·) else result)
    | _, _ =>
      let x ← evalExpr fuel env a
      let y ← evalExpr fuel env b
      return compareOp op (comparisonAffinity a b) (.ofName (compareCollation a b)) x y

def inItems : Nat → Env → Option Affinity → Collation → Datum → List Expr → Bool →
    EvalM (Option Bool)
  | 0, _, _, _, _, _, _ => halt (sqlError "expression tree is too large (maximum depth 1000)")
  | _, _, _, _, x, [], sawNull => return (if x.isNull || sawNull then none else some false)
  | fuel + 1, env, aff, coll, x, item :: rest, sawNull => do
    let v ← evalExpr fuel env item
    if v.isNull || x.isNull then inItems fuel env aff coll x rest true
    else
      let (p, q) := convertOperands aff x v
      if compareValues coll p q == .eq then return some true
      else inItems fuel env aff coll x rest sawNull

def caseArms : Nat → Env → Option Expr → Option Datum → List (Expr × Expr) → Option Expr →
    EvalM Datum
  | 0, _, _, _, _, _ => halt (sqlError "expression tree is too large (maximum depth 1000)")
  | fuel + 1, env, operand, x, arms, otherwise =>
    match arms with
    | [] =>
      match otherwise with
      | some o => evalExpr fuel env o
      | none => return .null
    | (w, t) :: rest => do
      let hit ← match operand, x with
        | some o, some xv => do
          let wv ← evalExpr fuel env w
          let c := compareOp .eq (comparisonAffinity o w) (.ofName (compareCollation o w)) xv wv
          pure (c.truth == some true)
        | _, _ => do pure ((← evalTest fuel env w) == some true)
      if hit then evalExpr fuel env t else caseArms fuel env operand x rest otherwise

def evalTest : Nat → Env → Expr → EvalM (Option Bool)
  | 0, _, _ => halt (sqlError "expression tree is too large (maximum depth 1000)")
  | fuel + 1, env, e =>
    match e with
    | .binary .and a b => do
      match ← evalTest fuel env a with
      | some false => return some false
      | l => return andTruth l (← evalTest fuel env b)
    | .binary .or a b => do
      match ← evalTest fuel env a with
      | some true => return some true
      | l => return orTruth l (← evalTest fuel env b)
    | .unary .not a => do return (← evalTest fuel env a).map (!·)
    | _ => do return (← evalExpr fuel env e).truth

def evalCall : Nat → Env → String → List Expr → Bool → EvalM Datum
  | 0, _, _, _, _ => halt (sqlError "expression tree is too large (maximum depth 1000)")
  | fuel + 1, env, name, args, _ =>
    match asciiLower name with
    | "coalesce" | "ifnull" => firstNonNull fuel env args
    | "iif" =>
      match args with
      | [c, t, f] => do
        if (← evalTest fuel env c) == some true then evalExpr fuel env t else evalExpr fuel env f
      | _ => return .null
    | "likely" | "unlikely" | "likelihood" =>
      match args with
      | a :: _ => evalExpr fuel env a
      | [] => return .null
    | _ => do
      if isJsonFunction name then return (← evalJsonCall fuel env name args).1
      let values ← evalList fuel env args
      let coll := if needsCollation name then
          Collation.ofName ((args.findSome? collationOf))
        else .binary
      liftFailure (callFunction name { env.counters with collation := coll } values)

def evalJsonCall : Nat → Env → String → List Expr → EvalM (Datum × Bool)
  | 0, _, _, _ => halt (sqlError "expression tree is too large (maximum depth 1000)")
  | fuel + 1, env, name, args => do
    liftFailure (callJson name (← evalMarked fuel env args))

def evalMarked : Nat → Env → List Expr → EvalM (List (Datum × Bool))
  | 0, _, _ => halt (sqlError "expression tree is too large (maximum depth 1000)")
  | _, _, [] => return []
  | fuel + 1, env, e :: es => do
    let v : Datum × Bool ← match e with
      | .call name _ args _ =>
        if isJsonFunction name then evalJsonCall fuel env name args
        else do
          let d ← evalExpr fuel env e
          pure (d, false)
      | _ => do
        let d ← evalExpr fuel env e
        pure (d, false)
    return v :: (← evalMarked fuel env es)

def firstNonNull : Nat → Env → List Expr → EvalM Datum
  | 0, _, _ => halt (sqlError "expression tree is too large (maximum depth 1000)")
  | _, _, [] => return .null
  | fuel + 1, env, a :: rest => do
    let v ← evalExpr fuel env a
    if v.isNull then firstNonNull fuel env rest else return v

def evalList : Nat → Env → List Expr → EvalM (List Datum)
  | 0, _, _ => halt (sqlError "expression tree is too large (maximum depth 1000)")
  | _, _, [] => return []
  | fuel + 1, env, e :: es => do
    let v ← evalExpr fuel env e
    return v :: (← evalList fuel env es)

/-- Computes a resolved query, stopping after `want` rows when it can. -/
def runQuery : Nat → Env → Query → Option Nat → EvalM (List (List Datum))
  | 0, _, _, _ => halt (sqlError "expression tree is too large (maximum depth 1000)")
  | fuel + 1, env, .mk _ first rest orderBy limit offset, want => do
    let lim ← match limit with
      | some l => do limitOf (← evalExpr fuel env l)
      | none => pure none
    let off ← match offset with
      | some o => do offsetOf (← evalExpr fuel env o)
      | none => pure 0
    let take (rows : List (List Datum)) : List (List Datum) :=
      let rows := rows.drop off
      match lim with
      | some n => rows.take n
      | none => rows
    let need : Option Nat := match want, lim with
      | some w, some n => some (off + min w n)
      | some w, none => some (off + w)
      | none, some n => some (off + n)
      | none, none => none
    if rest.isEmpty then
      let rows ← runCore fuel env first orderBy (if orderBy.isEmpty then need else none)
      let keys := orderBy.map fun (k, o) => ({ collation := .ofName (collationOf k), order := o } : SortKey)
      let sorted := if orderBy.isEmpty then rows else sortByKeys keys rows
      return take (sorted.map (·.1))
    else
      let colls := (coreShape first).map fun (_, _, c) => Collation.ofName c
      let firstRows ← runCore fuel env first [] none
      let combined ← compound fuel env colls (firstRows.map (·.1)) rest
      let keyed ← if orderBy.isEmpty then
          pure ((combined.2.map fun r => (r, r)))
        else
          orderKeys fuel env orderBy combined.2
      let keys : List SortKey := if orderBy.isEmpty then
          colls.map fun c => { collation := c, order := {} }
        else orderBy.map fun (k, o) => { collation := .ofName (collationOf k), order := o }
      let sorted := if orderBy.isEmpty && !combined.1 then keyed else sortByKeys keys keyed
      return take (sorted.map (·.1))

def orderKeys : Nat → Env → List (Expr × SortOrder) → List (List Datum) →
    EvalM (List (List Datum × List Datum))
  | 0, _, _, _ => halt (sqlError "expression tree is too large (maximum depth 1000)")
  | _, _, _, [] => return []
  | fuel + 1, env, orderBy, r :: rs => do
    let env' := env.push { rows := [some { rowid := 0, values := r }] }
    let k ← evalList fuel env' (orderBy.map (·.1))
    return (r, k) :: (← orderKeys fuel env orderBy rs)

def compound : Nat → Env → List Collation → List (List Datum) → List (CompoundOp × Core) →
    EvalM (Bool × List (List Datum))
  | 0, _, _, _, _ => halt (sqlError "expression tree is too large (maximum depth 1000)")
  | _, _, _, acc, [] => return (false, acc)
  | fuel + 1, env, colls, acc, (op, c) :: rest => do
    let rows := (← runCore fuel env c [] none).map (·.1)
    let next := match op with
      | .unionAll => acc ++ rows
      | .union => distinctRows colls (acc ++ rows)
      | .intersect => (distinctRows colls acc).filter fun r => rows.any (sameRow colls r)
      | .except => (distinctRows colls acc).filter fun r => !rows.any (sameRow colls r)
    let (isSet, out) ← compound fuel env colls next rest
    return (isSet || op != .unionAll, out)

def sourceRows : Nat → Env → Source → EvalM (List Row × Nat)
  | 0, _, _ => halt (sqlError "expression tree is too large (maximum depth 1000)")
  | fuel + 1, env, src =>
    match src with
    | .table _ name _ =>
      if isSchemaTable name then return (schemaRows env.db, 5)
      else
        match env.db.table? name with
        | some t => return (t.rows, t.columns.length)
        | none => halt (noSuchTable name)
    | .subquery q _ => do
      let rows ← runQuery fuel env q none
      let width := match q with
        | .mk _ c _ _ _ _ => (coreShape c).length
      return ((List.range rows.length).map fun i =>
          { rowid := Int.ofNat i + 1, values := rows.getD i [] },
        width)
    | .group _ _ => return ([], 0)

def joinSources : Nat → Env → List Tuple → Nat → List JoinItem → EvalM (List Tuple)
  | 0, _, _, _, _ => halt (sqlError "expression tree is too large (maximum depth 1000)")
  | _, _, acc, _, [] => return acc
  | fuel + 1, env, acc, width, .mk kind _ src on _ :: rest => do
    let (rows, _) ← sourceRows fuel env src
    let mut out : List Tuple := []
    let mut matchedRight : List Int := []
    for t in acc do
      let mut hit := false
      for r in rows do
        let t' := t ++ [some r]
        let ok ← match on with
          | some c => do pure ((← evalTest fuel (env.push { rows := t' }) c) == some true)
          | none => pure true
        if ok then
          out := out ++ [t']
          hit := true
          matchedRight := r.rowid :: matchedRight
      if !hit && (kind == .left || kind == .full) then out := out ++ [t ++ [none]]
    if kind == .right || kind == .full then
      for r in rows do
        if !matchedRight.contains r.rowid then
          out := out ++ [List.replicate width none ++ [some r]]
    joinSources fuel env out (width + 1) rest

def runCore : Nat → Env → Core → List (Expr × SortOrder) → Option Nat →
    EvalM (List (List Datum × List Datum))
  | 0, _, _, _, _ => halt (sqlError "expression tree is too large (maximum depth 1000)")
  | fuel + 1, env, c, orderBy, want =>
    match c with
    | .values rows => do
      let mut out : List (List Datum × List Datum) := []
      for row in rows do
        let vals ← evalList fuel (env.push { rows := [] }) row
        out := out ++ [(vals, [])]
      return out
    | .select distinct cols sources filter groupBy having aggs => do
      let tuples ← joinSources fuel env [[]] 0 sources
      let exprs := cols.filterMap fun rc => match rc with
        | .expr e _ _ => some e
        | _ => none
      let colls := exprs.map fun e => Collation.ofName (collationOf e)
      if groupBy.isEmpty && aggs.isEmpty then
        let mut out : List (List Datum × List Datum) := []
        for t in tuples do
          if (match want with
              | some w => Nat.ble w out.length
              | none => false) then break
          let env' := env.push { rows := t }
          let pass ← match filter with
            | some f => do pure ((← evalTest fuel env' f) == some true)
            | none => pure true
          if pass then
            let vals ← evalList fuel env' exprs
            let keys ← evalList fuel env' (orderBy.map (·.1))
            if !(distinct && out.any fun (r, _) => sameRow colls r vals) then
              out := out ++ [(vals, keys)]
        return out
      else
        let mut kept : List Tuple := []
        for t in tuples do
          let env' := env.push { rows := t }
          let pass ← match filter with
            | some f => do pure ((← evalTest fuel env' f) == some true)
            | none => pure true
          if pass then kept := kept ++ [t]
        let groups ← groupTuples fuel env groupBy kept
        let mut out : List (List Datum × List Datum) := []
        for g in groups do
          let (values, chosen) ← aggregateSlots fuel env aggs g
          let width := sources.length
          let bare : Tuple := match chosen with
            | some i => g.getD i (List.replicate width none)
            | none => g.getLast?.getD (List.replicate width none)
          let env' := env.push { rows := bare, aggregates := values }
          let pass ← match having with
            | some h => do pure ((← evalTest fuel env' h) == some true)
            | none => pure true
          if pass then
            let vals ← evalList fuel env' exprs
            let keys ← evalList fuel env' (orderBy.map (·.1))
            if !(distinct && out.any fun (r, _) => sameRow colls r vals) then
              out := out ++ [(vals, keys)]
        return out

def groupTuples : Nat → Env → List Expr → List Tuple → EvalM (List (List Tuple))
  | 0, _, _, _ => halt (sqlError "expression tree is too large (maximum depth 1000)")
  | fuel + 1, env, groupBy, tuples => do
    if groupBy.isEmpty then return [tuples]
    let keys := groupBy.map fun g => ({ collation := .ofName (collationOf g), order := {} } : SortKey)
    let mut keyed : List (Tuple × List Datum) := []
    for t in tuples do
      keyed := keyed ++ [(t, ← evalList fuel (env.push { rows := t }) groupBy)]
    let sorted := sortByKeys keys keyed
    let mut groups : List (List Datum × List Tuple) := []
    for (t, k) in sorted do
      match groups.getLast? with
      | some (gk, ts) =>
        if compareKeys keys gk k == .eq then
          groups := groups.dropLast ++ [(gk, ts ++ [t])]
        else groups := groups ++ [(k, [t])]
      | none => groups := [(k, [t])]
    return groups.map (·.2)

def aggregateSlots : Nat → Env → List Expr → List Tuple → EvalM (List Datum × Option Nat)
  | 0, _, _, _ => halt (sqlError "expression tree is too large (maximum depth 1000)")
  | fuel + 1, env, aggs, group => do
    let mut values : List Datum := []
    let mut chosen : Option Nat := none
    for a in aggs do
      match a with
      | .call name distinct args _ =>
        if sameName name "json_group_array" || sameName name "json_group_object" then
          let mut marked : List (List (Datum × Bool)) := []
          for t in group do
            let row ← evalMarked fuel (env.push { rows := t }) args
            if !(distinct && marked.any fun r => sameRow [] (r.map (·.1)) (row.map (·.1))) then
              marked := marked ++ [row]
          let v ← liftFailure (if sameName name "json_group_array" then
              jsonGroupArray (marked.map fun r => r.getD 0 (.null, false))
            else
              jsonGroupObject (marked.map fun r => (r.getD 0 (.null, false), r.getD 1 (.null, false))))
          values := values ++ [v]
          continue
      | _ => pure ()
      match a with
      | .call name distinct args star =>
        let mut argRows : List (List Datum) := []
        for t in group do
          argRows := argRows ++ [← evalList fuel (env.push { rows := t }) args]
        let coll := Collation.ofName (args.findSome? collationOf)
        let rows := if distinct then
            argRows.foldl (fun acc r =>
              if acc.any fun x => compareValues coll (x.getD 0 .null) (r.getD 0 .null) == .eq then acc
              else acc ++ [r]) []
          else argRows
        let (v, pick) ← liftFailure (aggregateOf name star coll rows)
        values := values ++ [v]
        if aggs.length == 1 && (sameName name "min" || sameName name "max") && !distinct then
          chosen := pick
      | _ => values := values ++ [.null]
    return (values, chosen)

end

end CatalogSync.Sql
