import CatalogSync.Sql.Lexer
import CatalogSync.Sql.Syntax

/-!
# Reading statements

`parse` reads the first statement of a text, with the `;` after it. Expressions bind in the
order of the database's grammar, loosest first:

`OR` · `AND` · prefix `NOT` · `= == != <> IS IN LIKE GLOB REGEXP MATCH BETWEEN ISNULL
NOTNULL` · `< <= > >=` · `ESCAPE` · `& | << >>` · `+ -` · `* / %` · `|| -> ->>` ·
`COLLATE` · prefix `- + ~`.

Many keywords also serve as names where a keyword cannot stand (`replace`, `key`, `like`, …);
`isNameWord` says which. Parameters `?` are numbered from one in the order they appear,
`?NNN` takes the number given (at most 250000), and a named parameter takes the next number
the first time it appears.

Text that stops inside a statement fails as `incomplete input`; a token that does not fit
fails as `near "token": syntax error`, and one that is no token at all as `unrecognized
token`. Besides the statement, `parse` gives the text after it, which must hold nothing but
blanks and comments for the statement to be run.
-/

namespace CatalogSync.Sql

def keywords : List String :=
  ["ABORT", "ACTION", "ADD", "AFTER", "ALL", "ALTER", "ALWAYS", "ANALYZE", "AND", "AS", "ASC",
   "ATTACH", "AUTOINCREMENT", "BEFORE", "BEGIN", "BETWEEN", "BY", "CASCADE", "CASE", "CAST",
   "CHECK", "COLLATE", "COLUMN", "COMMIT", "CONFLICT", "CONSTRAINT", "CREATE", "CROSS",
   "CURRENT", "CURRENT_DATE", "CURRENT_TIME", "CURRENT_TIMESTAMP", "DATABASE", "DEFAULT",
   "DEFERRABLE", "DEFERRED", "DELETE", "DESC", "DETACH", "DISTINCT", "DO", "DROP", "EACH",
   "ELSE", "END", "ESCAPE", "EXCEPT", "EXCLUDE", "EXCLUSIVE", "EXISTS", "EXPLAIN", "FAIL",
   "FILTER", "FIRST", "FOLLOWING", "FOR", "FOREIGN", "FROM", "FULL", "GENERATED", "GLOB",
   "GROUP", "GROUPS", "HAVING", "IF", "IGNORE", "IMMEDIATE", "IN", "INDEX", "INDEXED",
   "INITIALLY", "INNER", "INSERT", "INSTEAD", "INTERSECT", "INTO", "IS", "ISNULL", "JOIN",
   "KEY", "LAST", "LEFT", "LIKE", "LIMIT", "MATCH", "MATERIALIZED", "NATURAL", "NO", "NOT",
   "NOTHING", "NOTNULL", "NULL", "NULLS", "OF", "OFFSET", "ON", "OR", "ORDER", "OTHERS",
   "OUTER", "OVER", "PARTITION", "PLAN", "PRAGMA", "PRECEDING", "PRIMARY", "QUERY", "RAISE",
   "RANGE", "RECURSIVE", "REFERENCES", "REGEXP", "REINDEX", "RELEASE", "RENAME", "REPLACE",
   "RESTRICT", "RETURNING", "RIGHT", "ROLLBACK", "ROW", "ROWS", "SAVEPOINT", "SELECT", "SET",
   "TABLE", "TEMP", "TEMPORARY", "THEN", "TIES", "TO", "TRANSACTION", "TRIGGER", "UNBOUNDED",
   "UNION", "UNIQUE", "UPDATE", "USING", "VACUUM", "VALUES", "VIEW", "VIRTUAL", "WHEN",
   "WHERE", "WINDOW", "WITH", "WITHOUT"]

def nameKeywords : List String :=
  ["ABORT", "ACTION", "AFTER", "ANALYZE", "ASC", "ATTACH", "BEFORE", "BEGIN", "BY", "CASCADE",
   "CAST", "COLUMN", "CONFLICT", "DATABASE", "DEFERRED", "DESC", "DETACH", "DO", "EACH", "END",
   "EXCLUSIVE", "EXPLAIN", "FAIL", "FOR", "IGNORE", "IMMEDIATE", "INITIALLY", "INSTEAD",
   "LIKE", "GLOB", "REGEXP", "MATCH", "NO", "PLAN", "QUERY", "KEY", "OF", "OFFSET", "PRAGMA",
   "RAISE", "RECURSIVE", "RELEASE", "REPLACE", "RESTRICT", "ROW", "ROWS", "ROLLBACK",
   "SAVEPOINT", "TEMP", "TEMPORARY", "TRIGGER", "VACUUM", "VIEW", "VIRTUAL", "WITH", "WITHOUT",
   "NULLS", "FIRST", "LAST", "CURRENT", "FOLLOWING", "PARTITION", "PRECEDING", "RANGE",
   "UNBOUNDED", "EXCLUDE", "GROUPS", "OTHERS", "TIES", "GENERATED", "ALWAYS", "MATERIALIZED",
   "REINDEX", "RENAME", "CURRENT_DATE", "CURRENT_TIME", "CURRENT_TIMESTAMP", "IF", "INDEXED",
   "FILTER", "OVER", "WINDOW"]

def joinKeywords : List String := ["CROSS", "FULL", "INNER", "LEFT", "NATURAL", "OUTER", "RIGHT"]

def isKeyword (w : String) : Bool := keywords.contains (asciiUpper w)

/-- Whether a word can be a name: not a keyword, or a keyword that stands for a name. -/
def isNameWord (w : String) : Bool :=
  let u := asciiUpper w
  !keywords.contains u || nameKeywords.contains u

/-- The state of the reader: the tokens left, the parameter numbering and the text. -/
structure ParseState where
  tokens : List Token
  nextParam : Nat
  named : List (String × Nat)
  source : Array Char
  /-- Where the last token taken stops. -/
  lastStop : Nat := 0

abbrev Reader := StateT ParseState (Except Failure)

def parseFailure (message : String) : Failure := .database .operational message

def failureAt : Option Token → Failure
  | none => parseFailure "incomplete input"
  | some t =>
    if t.kind == .illegal then parseFailure ("unrecognized token: \"" ++ t.text ++ "\"")
    else if t.kind == .op && t.text == ";" then parseFailure "near \";\": syntax error"
    else parseFailure ("near \"" ++ t.text ++ "\": syntax error")

def syntaxError {α : Type} : Reader α := do
  throw (failureAt (← get).tokens.head?)

def peek : Reader (Option Token) := do
  return (← get).tokens.head?

def peekSecond : Reader (Option Token) := do
  return ((← get).tokens.drop 1).head?

def advance : Reader Token := do
  match (← get).tokens with
  | t :: rest =>
    modify fun s => { s with tokens := rest, lastStop := t.stop }
    return t
  | [] => syntaxError

def Token.isKw (t : Token) (k : String) : Bool := t.kind == .word && asciiUpper t.text == k

def Token.isOp (t : Token) (o : String) : Bool := t.kind == .op && t.text == o

def atKw (k : String) : Reader Bool := do
  return ((← peek).map (·.isKw k)).getD false

def atOp (o : String) : Reader Bool := do
  return ((← peek).map (·.isOp o)).getD false

def acceptKw (k : String) : Reader Bool := do
  if ← atKw k then let _ ← advance; return true else return false

def acceptOp (o : String) : Reader Bool := do
  if ← atOp o then let _ ← advance; return true else return false

def expectKw (k : String) : Reader Unit := do
  unless ← acceptKw k do syntaxError

def expectOp (o : String) : Reader Unit := do
  unless ← acceptOp o do syntaxError

def spanText (start stop : Nat) : Reader String := do
  return String.ofList (((← get).source.extract start stop).toList)

def nextStart : Reader Nat := do
  match ← peek with
  | some t => return t.start
  | none => return (← get).source.size

def Token.isId (t : Token) : Bool :=
  match t.kind with
  | .word => isNameWord t.text
  | .quoted _ => true
  | _ => false

def Token.isNm (t : Token) : Bool :=
  t.isId || t.kind == .string || (t.kind == .word && joinKeywords.contains (asciiUpper t.text))

def Token.isIds (t : Token) : Bool := t.isId || t.kind == .string

def Token.name (t : Token) : String :=
  match t.kind with
  | .quoted _ | .string => t.value
  | _ => t.text

def nm : Reader String := do
  match ← peek with
  | some t => if t.isNm then let _ ← advance; return t.name else syntaxError
  | none => syntaxError

def ident : Reader String := do
  match ← peek with
  | some t => if t.isId then let _ ← advance; return t.name else syntaxError
  | none => syntaxError

def qualifiedName : Reader (Option String × String) := do
  let a ← nm
  if ← acceptOp "." then return (some a, ← nm) else return (none, a)

def qualifiedNameAt : Reader (Option String × String × Nat) := do
  let first ← nextStart
  let a ← nm
  if ← acceptOp "." then
    let second ← nextStart
    return (some a, ← nm, second)
  else return (none, a, first)

def textToNext (start : Nat) : Reader String := do spanText start (← nextStart)

def paramIndex (t : Token) : Reader Nat := do
  let s ← get
  if t.text == "?" then
    set { s with nextParam := s.nextParam + 1 }
    return s.nextParam
  else if t.text.startsWith "?" then
    let r := t.text.toList.drop 1
    let n := r.foldl (fun n c => n * 10 + (c.toNat - 48)) 0
    if r.isEmpty || r.length > 18 || n = 0 || n > 250000 then
      throw (parseFailure "variable number must be between ?1 and ?250000")
    if n ≥ s.nextParam then set { s with nextParam := n + 1 }
    return n
  else
    match s.named.find? (·.1 == t.text) with
    | some (_, n) => return n
    | none =>
      set { s with nextParam := s.nextParam + 1, named := s.named ++ [(t.text, s.nextParam)] }
      return s.nextParam

def resolveType : Reader Resolution := do
  if ← acceptKw "ROLLBACK" then return .rollback
  else if ← acceptKw "ABORT" then return .abort
  else if ← acceptKw "FAIL" then return .fail
  else if ← acceptKw "IGNORE" then return .ignore
  else if ← acceptKw "REPLACE" then return .replace
  else syntaxError

def onConflict : Reader (Option Resolution) := do
  if ← atKw "ON" then
    let _ ← advance
    expectKw "CONFLICT"
    return some (← resolveType)
  else return none

def signedNumber : Reader Unit := do
  let _ ← (acceptOp "+") <||> (acceptOp "-")
  match ← peek with
  | some t => if t.kind == .integer || t.kind == .float then let _ ← advance else syntaxError
  | none => syntaxError

def typeToken : Reader String := do
  let start ← nextStart
  let rec words (fuel : Nat) (last : Nat) : Reader Nat := do
    match fuel with
    | 0 => return last
    | fuel + 1 =>
      match ← peek with
      | some t =>
        if t.isIds && !t.isKw "GENERATED" then let _ ← advance; words fuel t.stop
        else return last
      | none => return last
  let stop ← words ((← get).tokens.length + 1) start
  if stop == start then return ""
  let stop ← if ← atOp "(" then do
      let _ ← advance
      signedNumber
      if ← acceptOp "," then signedNumber
      let close ← peek
      expectOp ")"
      pure ((close.map (·.stop)).getD stop)
    else pure stop
  let text ← spanText start stop
  match text.toList with
  | q :: rest =>
    if q = '\'' || q = '"' || q = '`' || q = '[' then
      let q' := if q = '[' then ']' else q
      let body := rest.takeWhile (· ≠ q')
      return String.ofList body
    else return text
  | [] => return text

def tooDeep {α : Type} : Reader α :=
  throw (parseFailure "parser stack overflow")

/-- The binding level of the binary operator a token is, if it is one: the comparison
words and operators are level 4, the ordering operators 5, the bit operators 7, sums 8,
products 9, concatenation and extraction 10. -/
def binaryLevel (t : Token) : Option Nat :=
  if t.kind == .op then
    match t.text with
    | "=" | "==" | "!=" | "<>" => some 4
    | "<" | "<=" | ">" | ">=" => some 5
    | "&" | "|" | "<<" | ">>" => some 7
    | "+" | "-" => some 8
    | "*" | "/" | "%" => some 9
    | "||" | "->" | "->>" => some 10
    | _ => none
  else if t.kind == .word then
    match asciiUpper t.text with
    | "OR" => some 1
    | "AND" => some 2
    | "IS" | "IN" | "LIKE" | "GLOB" | "REGEXP" | "MATCH" | "BETWEEN" | "ISNULL" | "NOTNULL"
    | "NOT" => some 4
    | "COLLATE" => some 11
    | _ => none
  else none

def symbolOp : String → BinaryOp
  | "=" | "==" => .eq
  | "!=" | "<>" => .ne
  | "<" => .lt
  | "<=" => .le
  | ">" => .gt
  | ">=" => .ge
  | "&" => .bitAnd
  | "|" => .bitOr
  | "<<" => .shl
  | ">>" => .shr
  | "+" => .add
  | "-" => .sub
  | "*" => .mul
  | "/" => .div
  | "%" => .mod
  | _ => .concat

def aliasName : Reader (Option String) := do
  if ← acceptKw "AS" then return some (← nm)
  match ← peek with
  | some t => if t.isIds then let _ ← advance; return some t.name else return none
  | none => return none

def joinWord (w : String) : Option (JoinKind ⊕ Bool) :=
  match asciiUpper w with
  | "NATURAL" => some (.inr true)
  | "LEFT" => some (.inl .left)
  | "OUTER" => some (.inr false)
  | "RIGHT" => some (.inl .right)
  | "FULL" => some (.inl .full)
  | "INNER" => some (.inl .inner)
  | "CROSS" => some (.inl .cross)
  | _ => none

def joinOperator : Reader (Bool × JoinKind × Bool) := do
  if ← acceptKw "JOIN" then return (true, .inner, false)
  match ← peek with
  | some t =>
    if t.kind == .word && joinKeywords.contains (asciiUpper t.text) then
      let _ ← advance
      let second ← if ← atKw "JOIN" then pure none else some <$> advance
      let third ← if second.isNone || (← atKw "JOIN") then pure none else some <$> advance
      expectKw "JOIN"
      let words := [some t, second, third].filterMap id
      let codes := words.map fun w => if w.kind == .word then joinWord w.text else none
      let natural := codes.any (· == some (.inr true))
      let outer := codes.any (· == some (.inr false))
      let kinds := codes.filterMap fun c => match c with
        | some (.inl k) => some k
        | _ => none
      let left := kinds.contains .left || kinds.contains .full
      let right := kinds.contains .right || kinds.contains .full
      let inner := kinds.contains .inner || kinds.contains .cross
      let bad := codes.any (·.isNone) || (inner && (outer || left || right)) ||
        (outer && !left && !right)
      if bad then
        throw (parseFailure ("unknown join type: " ++ " ".intercalate (words.map (·.text))))
      let kind := if left && right then JoinKind.full else if left then .left
        else if right then .right else if kinds.contains .cross then .cross else .inner
      return (true, kind, natural)
    else return (false, .inner, false)
  | none => return (false, .inner, false)

mutual

def exprAt : Nat → Nat → Reader Expr
  | 0, _ => tooDeep
  | fuel + 1, level => do
    let lhs ← unary fuel
    climb fuel level lhs

def climb : Nat → Nat → Expr → Reader Expr
  | 0, _, _ => tooDeep
  | fuel + 1, level, lhs => do
    match ← peek with
    | none => return lhs
    | some t =>
      match binaryLevel t with
      | none => return lhs
      | some l =>
        if l < level then return lhs
        -- `NOT` continues an expression only before `NULL`, `IN`, `LIKE`, `BETWEEN`, …
        if t.isKw "NOT" then
          match ← peekSecond with
          | some u =>
            if !(u.isKw "NULL" || u.isKw "IN" || u.isKw "LIKE" || u.isKw "GLOB" ||
                u.isKw "REGEXP" || u.isKw "MATCH" || u.isKw "BETWEEN") then return lhs
          | none => return lhs
        let e ← binaryTail fuel lhs
        climb fuel level e

def binaryTail : Nat → Expr → Reader Expr
  | 0, _ => tooDeep
  | fuel + 1, lhs => do
    let t ← advance
    let k := if t.kind == .word then asciiUpper t.text else ""
    if k == "OR" then return .binary .or lhs (← exprAt fuel 2)
    else if k == "AND" then return .binary .and lhs (← exprAt fuel 3)
    else if k == "COLLATE" then
      match ← peek with
      | some u => if u.isIds then let _ ← advance; return .collate lhs u.name else syntaxError
      | none => syntaxError
    else if k == "ISNULL" then return .unary .isNull lhs
    else if k == "NOTNULL" then return .unary .notNull lhs
    else if k == "IS" then
      let negated ← acceptKw "NOT"
      if ← acceptKw "DISTINCT" then
        expectKw "FROM"
        return .binary (if negated then .is else .isNot) lhs (← exprAt fuel 5)
      return .binary (if negated then .isNot else .is) lhs (← exprAt fuel 5)
    else if k == "NOT" then
      if ← acceptKw "NULL" then return .unary .notNull lhs
      else test fuel true lhs
    else if k == "IN" || k == "LIKE" || k == "GLOB" || k == "REGEXP" || k == "MATCH" ||
        k == "BETWEEN" then
      modify fun s => { s with tokens := t :: s.tokens }
      test fuel false lhs
    else if t.kind == .op && (t.text == "->" || t.text == "->>") then
      return .call t.text false [lhs, ← exprAt fuel 11] false
    else
      let l := (binaryLevel t).getD 4
      return .binary (symbolOp t.text) lhs (← exprAt fuel (l + 1))

def test : Nat → Bool → Expr → Reader Expr
  | 0, _, _ => tooDeep
  | fuel + 1, negated, lhs => do
    let t ← advance
    let k := asciiUpper t.text
    let wrap (e : Expr) : Expr := if negated then .unary .not e else e
    if k == "BETWEEN" then
      let low ← exprAt fuel 3
      expectKw "AND"
      let high ← exprAt fuel 5
      return .between negated lhs low high
    else if k == "IN" then
      if ← acceptOp "(" then
        if ← acceptOp ")" then return .inList negated lhs []
        if (← atKw "SELECT") || (← atKw "VALUES") || (← atKw "WITH") then
          let q ← query fuel
          expectOp ")"
          return .inQuery negated lhs q
        let items ← exprList fuel
        expectOp ")"
        return .inList negated lhs items
      else
        let (schema, table) ← qualifiedName
        if ← acceptOp "(" then
          let args ← if ← atOp ")" then pure [] else exprList fuel
          expectOp ")"
          let _ := args
          throw (parseFailure ("no such table: " ++ table))
        let src := Source.table schema table none
        let core := Core.select false [.all] [.mk .inner false src none []] none [] none []
        return .inQuery negated lhs (.mk [] core [] [] none none)
    else
      let pattern ← exprAt fuel 5
      let escape ← if k == "LIKE" || k == "GLOB" then do
          if ← acceptKw "ESCAPE" then pure [← exprAt fuel 5] else pure []
        else pure []
      return wrap (.call t.text false ([pattern, lhs] ++ escape) false)

def unary : Nat → Reader Expr
  | 0 => tooDeep
  | fuel + 1 => do
    match ← peek with
    | none => syntaxError
    | some t =>
      if t.isKw "NOT" then let _ ← advance; return .unary .not (← exprAt fuel 3)
      else if t.isOp "-" then let _ ← advance; return .unary .neg (← unary fuel)
      else if t.isOp "+" then let _ ← advance; return .unary .pos (← unary fuel)
      else if t.isOp "~" then let _ ← advance; return .unary .bitNot (← unary fuel)
      else primary fuel

def exprList : Nat → Reader (List Expr)
  | 0 => tooDeep
  | fuel + 1 => do
    let e ← exprAt fuel 1
    if ← acceptOp "," then return e :: (← exprList fuel) else return [e]

def whenArms : Nat → Reader (List (Expr × Expr))
  | 0 => tooDeep
  | fuel + 1 => do
    if ← acceptKw "WHEN" then
      let w ← exprAt fuel 1
      expectKw "THEN"
      let t ← exprAt fuel 1
      return (w, t) :: (← whenArms fuel)
    else return []

def callArgs : Nat → String → Reader Expr
  | 0, _ => tooDeep
  | fuel + 1, fname => do
    if ← acceptOp "*" then
      expectOp ")"
      return .call fname false [] true
    if ← acceptOp ")" then return .call fname false [] false
    let distinct ← acceptKw "DISTINCT"
    if !distinct then let _ ← acceptKw "ALL"
    let args ← exprList fuel
    expectOp ")"
    return .call fname distinct args false

def primary : Nat → Reader Expr
  | 0 => tooDeep
  | fuel + 1 => do
    match ← peek with
    | none => syntaxError
    | some t =>
      match t.kind with
      | .integer | .float => let _ ← advance; return .num t.text
      | .string =>
        if ((← peekSecond).map (·.isOp ".")).getD false then nameExpr fuel
        else let _ ← advance; return .lit (.text t.value)
      | .blob =>
        let _ ← advance
        let ds := t.value.toList
        let rec bytes : List Char → List UInt8
          | a :: b :: rest =>
            let v (c : Char) : Nat := if c.isDigit then c.toNat - 48 else c.toLower.toNat - 87
            UInt8.ofNat (v a * 16 + v b) :: bytes rest
          | _ => []
        return .lit (.blob (bytes ds))
      | .variable => let _ ← advance; return .param (← paramIndex t)
      | .op =>
        if t.isOp "(" then
          let _ ← advance
          if (← atKw "SELECT") || (← atKw "VALUES") || (← atKw "WITH") then
            let q ← query fuel
            expectOp ")"
            return .scalar q
          let items ← exprList fuel
          expectOp ")"
          match items with
          | [e] => return e
          | es => return .vector es
        else syntaxError
      | .quoted _ => nameExpr fuel
      | .word =>
        let k := asciiUpper t.text
        if k == "NULL" then let _ ← advance; return .lit .null
        else if k == "CURRENT_TIMESTAMP" || k == "CURRENT_TIME" || k == "CURRENT_DATE" then
          let _ ← advance
          return .call t.text false [] false
        else if k == "CASE" then
          let _ ← advance
          let operand ← if ← atKw "WHEN" then pure none else some <$> exprAt fuel 1
          let arms ← whenArms fuel
          if arms.isEmpty then syntaxError
          let otherwise ← if ← acceptKw "ELSE" then some <$> exprAt fuel 1 else pure none
          expectKw "END"
          return .case operand arms otherwise
        else if k == "CAST" then
          let _ ← advance
          expectOp "("
          let e ← exprAt fuel 1
          expectKw "AS"
          let ty ← typeToken
          expectOp ")"
          return .cast e ty
        else if k == "EXISTS" then
          let _ ← advance
          expectOp "("
          let q ← query fuel
          expectOp ")"
          return .exists q
        else if k == "RAISE" then
          let _ ← advance
          expectOp "("
          if ← acceptKw "IGNORE" then
            expectOp ")"
            return .raise .ignore ""
          let kind ← if ← acceptKw "ROLLBACK" then pure RaiseKind.rollback
            else if ← acceptKw "ABORT" then pure RaiseKind.abort
            else if ← acceptKw "FAIL" then pure RaiseKind.fail
            else syntaxError
          expectOp ","
          let message ← nm
          expectOp ")"
          return .raise kind message
        else if t.isNm then nameExpr fuel
        else syntaxError
      | _ => syntaxError

def nameExpr : Nat → Reader Expr
  | 0 => tooDeep
  | fuel + 1 => do
    let t ← advance
    let dq := t.kind == .quoted '"'
    if ← atOp "(" then
      if t.kind == .string then syntaxError
      let _ ← advance
      callArgs fuel t.name
    else if ← acceptOp "." then
      let b ← nm
      if ← acceptOp "." then
        let c ← nm
        return .name [t.name, b] c false
      return .name [t.name] b false
    else return .name [] t.name dq

def query : Nat → Reader Query
  | 0 => tooDeep
  | fuel + 1 => do
    let ctes ← if ← acceptKw "WITH" then do
        let _ ← acceptKw "RECURSIVE"
        cteList fuel
      else pure []
    let (first, firstOrder, firstLimit) ← core fuel
    let rest ← compounds fuel firstOrder firstLimit
    match rest.getLast? with
    | none =>
      let (limit, offset) := firstLimit
      return .mk ctes first [] firstOrder limit offset
    | some (_, _, order, limit, offset) =>
      return .mk ctes first (rest.map fun (op, c, _, _, _) => (op, c)) order limit offset

def cteList : Nat → Reader (List Cte)
  | 0 => tooDeep
  | fuel + 1 => do
    let name ← nm
    let cols ← if ← acceptOp "(" then do
        let cs ← nameList fuel
        expectOp ")"
        pure cs
      else pure []
    expectKw "AS"
    let _ ← acceptKw "MATERIALIZED"
    if ← acceptKw "NOT" then expectKw "MATERIALIZED"
    expectOp "("
    let q ← query fuel
    expectOp ")"
    let c := Cte.mk name cols q
    if ← acceptOp "," then return c :: (← cteList fuel) else return [c]

def nameList : Nat → Reader (List String)
  | 0 => tooDeep
  | fuel + 1 => do
    let n ← nm
    if ← acceptOp "," then return n :: (← nameList fuel) else return [n]

def compounds : Nat → List (Expr × SortOrder) → (Option Expr × Option Expr) →
    Reader (List (CompoundOp × Core × List (Expr × SortOrder) × Option Expr × Option Expr))
  | 0, _, _ => tooDeep
  | fuel + 1, prevOrder, prevLimit => do
    let op ← if ← acceptKw "UNION" then
        if ← acceptKw "ALL" then pure (some CompoundOp.unionAll) else pure (some CompoundOp.union)
      else if ← acceptKw "INTERSECT" then pure (some CompoundOp.intersect)
      else if ← acceptKw "EXCEPT" then pure (some CompoundOp.except)
      else pure none
    match op with
    | none => return []
    | some op =>
      if !prevOrder.isEmpty || prevLimit.1.isSome then
        let opName := match op with
          | .unionAll => "UNION ALL"
          | .union => "UNION"
          | .intersect => "INTERSECT"
          | .except => "EXCEPT"
        throw (parseFailure ((if prevOrder.isEmpty then "LIMIT" else "ORDER BY") ++
          " clause should come after " ++ opName ++ " not before"))
      let (c, order, limit) ← core fuel
      return (op, c, order, limit.1, limit.2) :: (← compounds fuel order limit)

def core : Nat → Reader (Core × List (Expr × SortOrder) × (Option Expr × Option Expr))
  | 0 => tooDeep
  | fuel + 1 => do
    if ← acceptKw "VALUES" then
      let rows ← valuesList fuel
      return (.values rows, [], (none, none))
    expectKw "SELECT"
    let distinct ← acceptKw "DISTINCT"
    if !distinct then let _ ← acceptKw "ALL"
    let cols ← resultColumns fuel
    let sources ← if ← acceptKw "FROM" then joinList fuel else pure []
    let filter ← if ← acceptKw "WHERE" then some <$> exprAt fuel 1 else pure none
    let groupBy ← if ← acceptKw "GROUP" then do expectKw "BY"; exprList fuel else pure []
    let having ← if ← acceptKw "HAVING" then some <$> exprAt fuel 1 else pure none
    return (.select distinct cols sources filter groupBy having [], ← orderBy fuel,
      ← limitClause fuel)

def valuesList : Nat → Reader (List (List Expr))
  | 0 => tooDeep
  | fuel + 1 => do
    expectOp "("
    let row ← exprList fuel
    expectOp ")"
    if ← acceptOp "," then return row :: (← valuesList fuel) else return [row]

def orderBy : Nat → Reader (List (Expr × SortOrder))
  | 0 => tooDeep
  | fuel + 1 => do
    if ← acceptKw "ORDER" then
      expectKw "BY"
      sortList fuel
    else return []

def sortList : Nat → Reader (List (Expr × SortOrder))
  | 0 => tooDeep
  | fuel + 1 => do
    let e ← exprAt fuel 1
    let descending ← if ← acceptKw "DESC" then pure true
      else do let _ ← acceptKw "ASC"; pure false
    let nullsFirst ← if ← acceptKw "NULLS" then
        if ← acceptKw "FIRST" then pure (some true)
        else do expectKw "LAST"; pure (some false)
      else pure none
    let key := (e, { descending, nullsFirst : SortOrder })
    if ← acceptOp "," then return key :: (← sortList fuel) else return [key]

def limitClause : Nat → Reader (Option Expr × Option Expr)
  | 0 => tooDeep
  | fuel + 1 => do
    if ← acceptKw "LIMIT" then
      let a ← exprAt fuel 1
      if ← acceptKw "OFFSET" then return (some a, some (← exprAt fuel 1))
      else if ← acceptOp "," then return (some (← exprAt fuel 1), some a)
      else return (some a, none)
    else return (none, none)

def resultColumns : Nat → Reader (List ResultColumn)
  | 0 => tooDeep
  | fuel + 1 => do
    let col ← if ← acceptOp "*" then pure ResultColumn.all
      else
        match ← peek, ← peekSecond with
        | some t, some u =>
          if t.isNm && u.isOp "." && (((← get).tokens.drop 2).head?.map (·.isOp "*")).getD false then
            let _ ← advance
            let _ ← advance
            let _ ← advance
            pure (ResultColumn.allOf t.name)
          else resultExpr fuel
        | _, _ => resultExpr fuel
    if ← acceptOp "," then return col :: (← resultColumns fuel) else return [col]

def resultExpr : Nat → Reader ResultColumn
  | 0 => tooDeep
  | fuel + 1 => do
    let start ← nextStart
    let e ← exprAt fuel 1
    let span ← spanText start (← get).lastStop
    return .expr e (← aliasName) span

def joinList : Nat → Reader (List JoinItem)
  | 0 => tooDeep
  | fuel + 1 => do
    let first ← joinItem fuel .inner false
    let rest ← joinRest fuel
    return first :: rest

def joinRest : Nat → Reader (List JoinItem)
  | 0 => tooDeep
  | fuel + 1 => do
    if ← acceptOp "," then
      let item ← joinItem fuel .inner false
      return item :: (← joinRest fuel)
    let (isJoin, kind, natural) ← joinOperator
    if !isJoin then return []
    let item ← joinItem fuel kind natural
    return item :: (← joinRest fuel)

def joinItem : Nat → JoinKind → Bool → Reader JoinItem
  | 0, _, _ => tooDeep
  | fuel + 1, kind, natural => do
    let source ← if ← acceptOp "(" then
        if (← atKw "SELECT") || (← atKw "VALUES") || (← atKw "WITH") then
          let q ← query fuel
          expectOp ")"
          pure (Source.subquery q (← aliasName))
        else
          let items ← joinList fuel
          expectOp ")"
          pure (Source.group items (← aliasName))
      else
        let (schema, name) ← qualifiedName
        if ← atOp "(" then
          let _ ← advance
          let _ ← if ← atOp ")" then pure [] else exprList fuel
          expectOp ")"
          throw (parseFailure ("no such table: " ++ name))
        let a ← aliasName
        if ← acceptKw "INDEXED" then
          expectKw "BY"
          let _ ← nm
        else if ← atKw "NOT" then
          let _ ← advance
          expectKw "INDEXED"
        pure (Source.table schema name a)
    let on ← if ← acceptKw "ON" then some <$> exprAt fuel 1 else pure none
    let usingCols ← if on.isNone && (← acceptKw "USING") then do
        expectOp "("
        let ns ← nameList fuel
        expectOp ")"
        pure ns
      else pure []
    return .mk kind natural source on usingCols

end

end CatalogSync.Sql
