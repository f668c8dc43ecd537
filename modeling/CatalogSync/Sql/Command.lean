import CatalogSync.Sql.Parser

/-!
# Reading whole statements

`parseStatement` reads one statement of any kind after the expression and query readers of
`Sql.Parser`: the data statements with their `WITH`, `OR` conflict clause, `RETURNING`,
`ORDER BY` and `LIMIT`; `CREATE TABLE` with its column and table constraints and options;
`CREATE INDEX`, `VIEW` and `TRIGGER`; `DROP`, `ALTER TABLE`; the transaction statements;
`PRAGMA`, `VACUUM`, `ANALYZE`, `REINDEX` and `EXPLAIN`.

`parse` reads the first statement of a text: leading `;` are skipped, an empty text gives
none, and the text after the statement's `;` is returned with it.
-/

namespace CatalogSync.Sql

def ifNotExists : Reader Bool := do
  if ← atKw "IF" then
    let _ ← advance
    expectKw "NOT"
    expectKw "EXISTS"
    return true
  else return false

def ifExists : Reader Bool := do
  if ← atKw "IF" then
    let _ ← advance
    expectKw "EXISTS"
    return true
  else return false

def readerFuel : Reader Nat := do
  return 4 * (← get).tokens.length + 8

def expr : Reader Expr := do exprAt (← readerFuel) 1

def selectQuery : Reader Query := do query (← readerFuel)

def exprs : Reader (List Expr) := do exprList (← readerFuel)

def bracketedNames : Reader (List String) := do
  expectOp "("
  let ns ← nameList (← readerFuel)
  expectOp ")"
  return ns

def orConflict : Reader (Option Resolution) := do
  if ← acceptKw "OR" then return some (← resolveType) else return none

def setList : Nat → Reader (List (List String × Expr))
  | 0 => tooDeep
  | fuel + 1 => do
    let names ← if ← atOp "(" then bracketedNames else do pure [← nm]
    expectOp "="
    let e ← expr
    let item := (names, e)
    if ← acceptOp "," then return item :: (← setList fuel) else return [item]

def returning : Reader (List ResultColumn) := do
  if ← acceptKw "RETURNING" then resultColumns (← readerFuel) else return []

def upserts : Nat → Reader (List Upsert)
  | 0 => tooDeep
  | fuel + 1 => do
    if ← atKw "ON" then
      let _ ← advance
      expectKw "CONFLICT"
      let target ← if ← acceptOp "(" then do
          let terms ← sortList (← readerFuel)
          expectOp ")"
          let cond ← if ← acceptKw "WHERE" then some <$> expr else pure none
          pure (some (terms.map (·.1), cond))
        else pure none
      expectKw "DO"
      let update ← if ← acceptKw "NOTHING" then pure none
        else do
          expectKw "UPDATE"
          expectKw "SET"
          let sets ← setList (← readerFuel)
          let cond ← if ← acceptKw "WHERE" then some <$> expr else pure none
          pure (some (sets, cond))
      let this : Upsert := { target, update }
      if target.isNone then return [this]
      return this :: (← upserts fuel)
    else return []

def fullName : Reader (Option String × String × Option String) := do
  let (schema, name) ← qualifiedName
  if ← acceptKw "AS" then return (schema, name, some (← nm)) else return (schema, name, none)

def insertStatement (ctes : List Cte) : Reader Statement := do
  let conflict ← if ← acceptKw "REPLACE" then pure (some Resolution.replace)
    else do expectKw "INSERT"; orConflict
  expectKw "INTO"
  let (schema, table, aliasName) ← fullName
  let columns ← if ← atOp "(" then some <$> bracketedNames else pure none
  if ← acceptKw "DEFAULT" then
    expectKw "VALUES"
    return .insert ctes conflict schema table aliasName columns .defaults [] (← returning)
  let q ← selectQuery
  let ups ← upserts (← readerFuel)
  return .insert ctes conflict schema table aliasName columns (.query q) ups (← returning)

def indexedBy : Reader Unit := do
  if ← acceptKw "INDEXED" then
    expectKw "BY"
    let _ ← nm
  else if ← atKw "NOT" then
    let _ ← advance
    expectKw "INDEXED"

def whereReturning : Reader (Option Expr × List ResultColumn) := do
  let filter ← if ← acceptKw "WHERE" then some <$> expr else pure none
  return (filter, ← returning)

def orderNeedsLimit (verb : String) (order : List (Expr × SortOrder)) (limit : Option Expr) :
    Reader Unit := do
  if !order.isEmpty && limit.isNone then
    throw (parseFailure ("ORDER BY without LIMIT on " ++ verb))

def updateStatement (ctes : List Cte) : Reader Statement := do
  expectKw "UPDATE"
  let conflict ← orConflict
  let (schema, table, aliasName) ← fullName
  indexedBy
  expectKw "SET"
  let sets ← setList (← readerFuel)
  let sources ← if ← acceptKw "FROM" then joinList (← readerFuel) else pure []
  let (filter, ret) ← whereReturning
  let order ← orderBy (← readerFuel)
  let (limit, offset) ← limitClause (← readerFuel)
  orderNeedsLimit "UPDATE" order limit
  return .update ctes conflict schema table aliasName sets sources filter ret order limit offset

def deleteStatement (ctes : List Cte) : Reader Statement := do
  expectKw "DELETE"
  expectKw "FROM"
  let (schema, table, aliasName) ← fullName
  indexedBy
  let (filter, ret) ← whereReturning
  let order ← orderBy (← readerFuel)
  let (limit, offset) ← limitClause (← readerFuel)
  orderNeedsLimit "DELETE" order limit
  return .delete ctes schema table aliasName filter ret order limit offset

def foreignKeyActions : Nat → Reader Unit
  | 0 => tooDeep
  | fuel + 1 => do
    if ← atKw "ON" then
      match ← peekSecond with
      | some t =>
        if t.isKw "DELETE" || t.isKw "UPDATE" then
          let _ ← advance
          let _ ← advance
          if ← acceptKw "SET" then
            if !(← acceptKw "NULL") then expectKw "DEFAULT"
          else if ← acceptKw "CASCADE" then pure ()
          else if ← acceptKw "RESTRICT" then pure ()
          else do expectKw "NO"; expectKw "ACTION"
          foreignKeyActions fuel
        else syntaxError
      | none => syntaxError
    else if ← acceptKw "MATCH" then
      let _ ← nm
      foreignKeyActions fuel

def deferrable : Reader Unit := do
  expectKw "DEFERRABLE"
  if ← acceptKw "INITIALLY" then
    if !(← acceptKw "DEFERRED") then expectKw "IMMEDIATE"

def defaultClause : Reader Expr := do
  if ← acceptOp "(" then
    let e ← expr
    expectOp ")"
    return e
  let sign ← if ← acceptOp "+" then pure (some false)
    else if ← acceptOp "-" then pure (some true) else pure none
  match ← peek with
  | some t =>
    let lit ← match t.kind with
      | .integer | .float => do let _ ← advance; pure (Expr.num t.text)
      | .string => do let _ ← advance; pure (Expr.lit (.text t.value))
      | .blob => primary (← readerFuel)
      | .word =>
        if t.isKw "NULL" then do let _ ← advance; pure (Expr.lit .null)
        else if t.isKw "CURRENT_TIMESTAMP" || t.isKw "CURRENT_TIME" || t.isKw "CURRENT_DATE" then
          do let _ ← advance; pure (Expr.call t.text false [] false)
        else if sign.isNone && t.isId then do
          let _ ← advance
          let u := asciiUpper t.text
          pure (if u == "TRUE" then Expr.num "1" else if u == "FALSE" then Expr.num "0"
            else Expr.lit (.text t.text))
        else syntaxError
      | .quoted _ =>
        if sign.isNone then do let _ ← advance; pure (Expr.lit (.text t.value)) else syntaxError
      | _ => syntaxError
    match sign with
    | some true => return .unary .neg lit
    | some false => return .unary .pos lit
    | none => return lit
  | none => syntaxError

def columnConstraints : Nat → Option String → Reader (List (Option String × ColumnConstraint))
  | 0, _ => tooDeep
  | fuel + 1, pending => do
    let some t ← peek | return []
    if t.isKw "CONSTRAINT" then
      let _ ← advance
      let n ← nm
      return ← columnConstraints fuel (some n)
    let named (c : ColumnConstraint) : Reader (List (Option String × ColumnConstraint)) := do
      return (pending, c) :: (← columnConstraints fuel none)
    if t.isKw "DEFAULT" then
      let _ ← advance
      named (.default (← defaultClause))
    else if t.isKw "NULL" then
      let _ ← advance
      let _ ← onConflict
      columnConstraints fuel none
    else if t.isKw "NOT" then
      let _ ← advance
      if ← acceptKw "NULL" then named (.notNull (← onConflict))
      else do deferrable; columnConstraints fuel none
    else if t.isKw "PRIMARY" then
      let _ ← advance
      expectKw "KEY"
      let descending ← if ← acceptKw "DESC" then pure true
        else do let _ ← acceptKw "ASC"; pure false
      let conflict ← onConflict
      let auto ← acceptKw "AUTOINCREMENT"
      named (.primaryKey descending conflict auto)
    else if t.isKw "UNIQUE" then
      let _ ← advance
      named (.unique (← onConflict))
    else if t.isKw "CHECK" then
      let _ ← advance
      expectOp "("
      let start ← nextStart
      let e ← expr
      let span ← spanText start (← get).lastStop
      expectOp ")"
      named (.check e span)
    else if t.isKw "REFERENCES" then
      let _ ← advance
      let table ← nm
      if ← atOp "(" then let _ ← bracketedNames
      foreignKeyActions (← readerFuel)
      named (.references table)
    else if t.isKw "DEFERRABLE" then
      deferrable
      columnConstraints fuel none
    else if t.isKw "COLLATE" then
      let _ ← advance
      match ← peek with
      | some u => if u.isIds then let _ ← advance; named (.collate u.name) else syntaxError
      | none => syntaxError
    else if t.isKw "GENERATED" || t.isKw "AS" then
      let _ ← advance
      if t.isKw "GENERATED" then
        expectKw "ALWAYS"
        expectKw "AS"
      expectOp "("
      let e ← expr
      expectOp ")"
      let stored ← match ← peek with
        | some u =>
          if u.kind == .word && !isKeyword u.text then do
            let _ ← advance
            let w := asciiUpper u.text
            if w == "STORED" then pure true
            else if w == "VIRTUAL" then pure false
            else throw (parseFailure ("unknown datatype for " ++ u.text))
          else if u.isKw "VIRTUAL" then do let _ ← advance; pure false
          else pure false
        | none => pure false
      named (.generated e stored)
    else return []

def indexedTerms : Reader (List IndexedTerm) := do
  let keys ← sortList (← readerFuel)
  return keys.map fun (e, order) =>
    match e with
    | .collate inner c => { e := inner, collation := some c, order }
    | _ => { e, collation := none, order }

def tableConstraint (pending : Option String) : Reader (Option (Option String × TableConstraint)) := do
  if ← acceptKw "PRIMARY" then
    expectKw "KEY"
    expectOp "("
    let terms ← indexedTerms
    let auto ← acceptKw "AUTOINCREMENT"
    expectOp ")"
    return some (pending, .primaryKey terms (← onConflict) auto)
  else if ← acceptKw "UNIQUE" then
    expectOp "("
    let terms ← indexedTerms
    expectOp ")"
    return some (pending, .unique terms (← onConflict))
  else if ← acceptKw "CHECK" then
    expectOp "("
    let start ← nextStart
    let e ← expr
    let span ← spanText start (← get).lastStop
    expectOp ")"
    let _ ← onConflict
    return some (pending, .check e span)
  else if ← acceptKw "FOREIGN" then
    expectKw "KEY"
    let cols ← bracketedNames
    expectKw "REFERENCES"
    let table ← nm
    if ← atOp "(" then let _ ← bracketedNames
    foreignKeyActions (← readerFuel)
    if ← atKw "NOT" then let _ ← advance; deferrable
    else if ← atKw "DEFERRABLE" then deferrable
    return some (pending, .foreignKey cols table)
  else return none

def Token.startsTableConstraint (t : Token) : Bool :=
  t.isKw "CONSTRAINT" || t.isKw "PRIMARY" || t.isKw "UNIQUE" || t.isKw "CHECK" ||
  t.isKw "FOREIGN"

def tableConstraints : Nat → Reader (List (Option String × TableConstraint))
  | 0 => tooDeep
  | fuel + 1 => do
    let pending ← if ← acceptKw "CONSTRAINT" then some <$> nm else pure none
    match ← tableConstraint pending with
    | none => syntaxError
    | some c =>
      let _ ← acceptOp ","
      match ← peek with
      | some t =>
        if t.startsTableConstraint then return c :: (← tableConstraints fuel)
        else return [c]
      | none => return [c]

def columnDef : Reader ColumnDef := do
  let name ← nm
  let type ← typeToken
  let constraints ← columnConstraints (← readerFuel) none
  return { name, type, constraints }

def tableBody : Nat → Reader (List ColumnDef × List (Option String × TableConstraint))
  | 0 => tooDeep
  | fuel + 1 => do
    let c ← columnDef
    if ← acceptOp "," then
      match ← peek with
      | some t =>
        if t.startsTableConstraint then return ([c], ← tableConstraints (← readerFuel))
        else
          let (cs, ts) ← tableBody fuel
          return (c :: cs, ts)
      | none => syntaxError
    else return ([c], [])

def tableOptions : Nat → Bool → Bool → Reader (Bool × Bool)
  | 0, w, s => return (w, s)
  | fuel + 1, w, s => do
    let some t ← peek | return (w, s)
    if t.isKw "WITHOUT" then
      let _ ← advance
      let n ← nm
      if asciiUpper n != "ROWID" then
        throw (parseFailure ("unknown table option: " ++ n))
      if ← acceptOp "," then tableOptions fuel true s else return (true, s)
    else if t.isNm && !(t.isOp ";") then
      let _ ← advance
      if asciiUpper t.name != "STRICT" then
        throw (parseFailure ("unknown table option: " ++ t.name))
      if ← acceptOp "," then tableOptions fuel w true else return (w, true)
    else return (w, s)

def triggerBody : Nat → Reader (List Statement)
  | 0 => tooDeep
  | fuel + 1 => do
    if ← acceptKw "END" then return []
    let ctes ← if ← acceptKw "WITH" then do
        let _ ← acceptKw "RECURSIVE"
        cteList (← readerFuel)
      else pure []
    let s ← match ← peek with
      | some t =>
        if t.isKw "INSERT" || t.isKw "REPLACE" then insertStatement ctes
        else if t.isKw "UPDATE" then updateStatement ctes
        else if t.isKw "DELETE" then deleteStatement ctes
        else if t.isKw "SELECT" || t.isKw "VALUES" then do
          let q ← selectQuery
          match q with
          | .mk inner first rest order limit offset =>
            pure (Statement.select (.mk (ctes ++ inner) first rest order limit offset))
        else syntaxError
      | none => syntaxError
    expectOp ";"
    return s :: (← triggerBody fuel)

def createStatement : Reader Statement := do
  let temp ← (acceptKw "TEMP") <||> (acceptKw "TEMPORARY")
  let unique ← if temp then pure false else acceptKw "UNIQUE"
  if ← acceptKw "TABLE" then
    if unique then syntaxError
    let ine ← ifNotExists
    let (schema, name, nameAt) ← qualifiedNameAt
    if ← acceptKw "AS" then
      return .createTableAs temp ine schema name (← selectQuery)
    expectOp "("
    let (columns, constraints) ← tableBody (← readerFuel)
    expectOp ")"
    let close := (← get).lastStop
    let (withoutRowid, strict) ← tableOptions (← readerFuel) false false
    let body ← if withoutRowid || strict then textToNext nameAt else spanText nameAt close
    return .createTable temp ine schema name columns constraints withoutRowid strict
      ("CREATE TABLE " ++ body)
  else if ← acceptKw "INDEX" then
    if temp then syntaxError
    let ine ← ifNotExists
    let (schema, name, nameAt) ← qualifiedNameAt
    expectKw "ON"
    let table ← nm
    expectOp "("
    let terms ← indexedTerms
    expectOp ")"
    let filter ← if ← acceptKw "WHERE" then some <$> expr else pure none
    let body ← textToNext nameAt
    return .createIndex unique ine schema name table terms filter
      ((if unique then "CREATE UNIQUE INDEX " else "CREATE INDEX ") ++ body)
  else if ← acceptKw "VIEW" then
    if unique then syntaxError
    let ine ← ifNotExists
    let (schema, name, nameAt) ← qualifiedNameAt
    let columns ← if ← atOp "(" then bracketedNames else pure []
    expectKw "AS"
    let q ← selectQuery
    let body ← textToNext nameAt
    let trimmed := String.ofList (body.toList.reverse.dropWhile Char.isWhitespace).reverse
    return .createView temp ine schema name columns q ("CREATE VIEW " ++ trimmed)
  else if ← acceptKw "TRIGGER" then
    if unique then syntaxError
    let ine ← ifNotExists
    let (schema, name, nameAt) ← qualifiedNameAt
    let time ← if ← acceptKw "BEFORE" then pure TriggerTime.before
      else if ← acceptKw "AFTER" then pure TriggerTime.after
      else if ← acceptKw "INSTEAD" then do expectKw "OF"; pure TriggerTime.insteadOf
      else pure TriggerTime.before
    let event ← if ← acceptKw "DELETE" then pure TriggerEvent.delete
      else if ← acceptKw "INSERT" then pure TriggerEvent.insert
      else if ← acceptKw "UPDATE" then
        if ← acceptKw "OF" then pure (TriggerEvent.update (some (← nameList (← readerFuel))))
        else pure (TriggerEvent.update none)
      else syntaxError
    expectKw "ON"
    let (_, table) ← qualifiedName
    if ← acceptKw "FOR" then
      expectKw "EACH"
      expectKw "ROW"
    let condition ← if ← acceptKw "WHEN" then some <$> expr else pure none
    expectKw "BEGIN"
    let body ← triggerBody (← readerFuel)
    let text ← spanText nameAt (← get).lastStop
    return .createTrigger temp ine schema name time event table condition body
      ("CREATE TRIGGER " ++ text)
  else if ← acceptKw "VIRTUAL" then
    expectKw "TABLE"
    let _ ← ifNotExists
    let _ ← qualifiedName
    expectKw "USING"
    let m ← nm
    throw (parseFailure ("no such module: " ++ m))
  else syntaxError

def alterStatement : Reader Statement := do
  expectKw "TABLE"
  let (schema, table) ← qualifiedName
  if ← acceptKw "RENAME" then
    if ← acceptKw "TO" then return .alter schema table (.renameTable (← nm))
    let _ ← acceptKw "COLUMN"
    let old ← nm
    expectKw "TO"
    return .alter schema table (.renameColumn old (← nm))
  else if ← acceptKw "ADD" then
    let _ ← acceptKw "COLUMN"
    let start ← nextStart
    let c ← columnDef
    let text ← spanText start (← get).lastStop
    return .alter schema table (.addColumn c text)
  else if ← acceptKw "DROP" then
    let _ ← acceptKw "COLUMN"
    return .alter schema table (.dropColumn (← nm))
  else syntaxError

def pragmaValue : Reader String := do
  let sign ← if ← acceptOp "-" then pure "-" else do let _ ← acceptOp "+"; pure ""
  match ← peek with
  | some t =>
    if t.kind == .integer || t.kind == .float then let _ ← advance; return sign ++ t.text
    else if sign == "" && (t.isNm || t.kind == .word) then let _ ← advance; return t.name
    else syntaxError
  | none => syntaxError

def statement : Reader Statement := do
  let some t ← peek | syntaxError
  let k := if t.kind == .word then asciiUpper t.text else ""
  if k == "EXPLAIN" then
    let _ ← advance
    if ← acceptKw "QUERY" then expectKw "PLAN"
    if ← atKw "EXPLAIN" then syntaxError
    return .explain (← statementBody)
  statementBody
where
  /-- Reads a statement that is not `EXPLAIN`. -/
  statementBody : Reader Statement := do
    let some t ← peek | syntaxError
    let k := if t.kind == .word then asciiUpper t.text else ""
    if k == "WITH" then
      let _ ← advance
      let _ ← acceptKw "RECURSIVE"
      let ctes ← cteList (← readerFuel)
      let some u ← peek | syntaxError
      if u.isKw "INSERT" || u.isKw "REPLACE" then insertStatement ctes
      else if u.isKw "UPDATE" then updateStatement ctes
      else if u.isKw "DELETE" then deleteStatement ctes
      else
        match ← selectQuery with
        | .mk inner first rest order limit offset =>
          return .select (.mk (ctes ++ inner) first rest order limit offset)
    else if k == "SELECT" || k == "VALUES" then return .select (← selectQuery)
    else if k == "INSERT" || k == "REPLACE" then insertStatement []
    else if k == "UPDATE" then updateStatement []
    else if k == "DELETE" then deleteStatement []
    else if k == "CREATE" then
      let _ ← advance
      createStatement
    else if k == "DROP" then
      let _ ← advance
      let kind ← if ← acceptKw "TABLE" then pure ObjectKind.table
        else if ← acceptKw "INDEX" then pure ObjectKind.index
        else if ← acceptKw "VIEW" then pure ObjectKind.view
        else if ← acceptKw "TRIGGER" then pure ObjectKind.trigger
        else syntaxError
      let ie ← ifExists
      let (schema, name) ← qualifiedName
      return .drop kind ie schema name
    else if k == "ALTER" then
      let _ ← advance
      alterStatement
    else if k == "BEGIN" then
      let _ ← advance
      let kind ← if ← acceptKw "DEFERRED" then pure BeginKind.deferred
        else if ← acceptKw "IMMEDIATE" then pure BeginKind.immediate
        else if ← acceptKw "EXCLUSIVE" then pure BeginKind.exclusive
        else pure BeginKind.deferred
      if ← acceptKw "TRANSACTION" then
        match ← peek with
        | some u => if u.isNm then let _ ← advance
        | none => pure ()
      return .begin kind
    else if k == "COMMIT" || k == "END" then
      let _ ← advance
      if ← acceptKw "TRANSACTION" then
        match ← peek with
        | some u => if u.isNm then let _ ← advance
        | none => pure ()
      return .commit
    else if k == "ROLLBACK" then
      let _ ← advance
      if ← acceptKw "TRANSACTION" then
        match ← peek with
        | some u => if u.isNm && !u.isKw "TO" then let _ ← advance
        | none => pure ()
      if ← acceptKw "TO" then
        let _ ← acceptKw "SAVEPOINT"
        return .rollback (some (← nm))
      return .rollback none
    else if k == "SAVEPOINT" then
      let _ ← advance
      return .savepoint (← nm)
    else if k == "RELEASE" then
      let _ ← advance
      let _ ← acceptKw "SAVEPOINT"
      return .release (← nm)
    else if k == "PRAGMA" then
      let _ ← advance
      let (schema, name) ← qualifiedName
      if ← acceptOp "=" then return .pragma schema name (some (.assign (← pragmaValue)))
      if ← acceptOp "(" then
        let v ← pragmaValue
        expectOp ")"
        return .pragma schema name (some (.call v))
      return .pragma schema name none
    else if k == "VACUUM" then
      let _ ← advance
      match ← peek with
      | some u => if u.isNm && !u.isKw "INTO" then let _ ← advance
      | none => pure ()
      if ← acceptKw "INTO" then let _ ← expr
      return .vacuum
    else if k == "ANALYZE" then
      let _ ← advance
      match ← peek with
      | some u => if u.isNm then let _ ← qualifiedName
      | none => pure ()
      return .analyze
    else if k == "REINDEX" then
      let _ ← advance
      match ← peek with
      | some u => if u.isNm then let _ ← qualifiedName
      | none => pure ()
      return .reindex
    else syntaxError

/-- What reading a text's first statement gives: the statement (none when the text holds
none), the number of parameters it takes, and the text after it. -/
structure Parsed where
  statement : Option Statement
  parameters : Nat
  rest : String

def skipSemicolons : Nat → Reader Unit
  | 0 => return
  | fuel + 1 => do if ← acceptOp ";" then skipSemicolons fuel

/-- Reads the first statement of a text. -/
def parse (text : String) : Except Failure Parsed := do
  let source := text.toList.toArray
  let tokens := tokenize text
  let run : Reader Parsed := do
    skipSemicolons (tokens.length + 1)
    match ← peek with
    | none => return { statement := none, parameters := 0, rest := "" }
    | some _ =>
      let s ← statement
      match ← peek with
      | none => return { statement := some s, parameters := (← get).nextParam - 1, rest := "" }
      | some u =>
        if u.isOp ";" then
          let _ ← advance
          let after := String.ofList ((source.toList.drop u.stop))
          return { statement := some s, parameters := (← get).nextParam - 1, rest := after }
        else syntaxError
  let state : ParseState := { tokens, nextParam := 1, named := [], source }
  (run.run state).map (·.1)

end CatalogSync.Sql
