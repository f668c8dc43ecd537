import CatalogSync.Failure
import CatalogSync.Sql.Datum

/-!
# Reading statement text into tokens

`tokenize` cuts statement text into tokens the way the database's tokenizer does, keeping
where each token starts and stops so that the text of a constraint or a result column can
be quoted later:

* blanks and comments (`-- …` to the end of the line, `/* … */`, an unclosed one running to
  the end) are dropped, and so is a byte order mark;
* words are letters, digits, `_`, `$` and any character beyond ASCII, not starting with a
  digit or `$`;
* names in double quotes, backquotes or brackets, texts in single quotes, with a doubled
  quote standing for one;
* numbers: digits with an optional fraction and exponent, or `0x` and hexadecimal digits;
  a number run into word characters is not a token;
* byte strings `x'…'` of an even number of hexadecimal digits;
* parameters `?`, `?NNN`, `:name`, `@name`, `$name`;
* the operators, the longest first.

What is not a token becomes an `illegal` token, which the reader reports when it reaches
it; the end of the text, or a NUL character, ends the tokens.
-/

namespace CatalogSync.Sql

/-- What a token is. -/
inductive TokenKind where
  /-- A bare word: a name or a keyword. -/
  | word
  /-- A name in quotes, with the quote character that opened it. -/
  | quoted (quote : Char)
  /-- A text literal in single quotes. -/
  | string
  /-- An integer literal. -/
  | integer
  /-- A number literal with a point or an exponent. -/
  | float
  /-- A byte-string literal `x'…'`. -/
  | blob
  /-- A parameter. -/
  | variable
  /-- An operator or punctuation. -/
  | op
  /-- Text that is not a token. -/
  | illegal
  /-- Blanks, a comment or a byte order mark, which are dropped. -/
  | space
  deriving DecidableEq, Repr, Inhabited

/-- A token: its kind, its text as written, its value (a name or text without its quotes,
the digits of a byte string), and where it starts and stops in the statement text. -/
structure Token where
  kind : TokenKind
  text : String
  value : String
  start : Nat
  stop : Nat
  deriving Repr, Inhabited

def isIdChar (c : Char) : Bool := c.isAlphanum || c = '_' || c = '$' || c.toNat ≥ 0x80

def isIdStart (c : Char) : Bool := c.isAlpha || c = '_' || c.toNat ≥ 0x80

def isHexDigit (c : Char) : Bool := c.isDigit || ('a' ≤ c.toLower && c.toLower ≤ 'f')

def isBlankChar (c : Char) : Bool := c = ' ' || ('\t' ≤ c && c ≤ '\r')

/-- The number of characters of a quoted run after its opening quote `q`, up to and with
its closing quote, where a doubled quote stands for one, and its content; none when it is
not closed. -/
def quotedLength (q : Char) : List Char → Nat → List Char → Option (Nat × List Char)
  | [], _, _ => none
  | c :: rest, n, acc =>
    if c = q then
      match rest with
      | d :: more => if d = q then quotedLength q more (n + 2) (q :: acc) else some (n + 1, acc.reverse)
      | [] => some (n + 1, acc.reverse)
    else if c = '\x00' then none
    else quotedLength q rest (n + 1) (c :: acc)

def commentLength : List Char → Nat → Nat
  | [], n => n
  | '*' :: '/' :: _, n => n + 2
  | '\x00' :: _, n => n
  | _ :: rest, n => commentLength rest (n + 1)

def decimalLength (cs : List Char) : Nat × Bool :=
  let ds := (cs.takeWhile Char.isDigit).length
  let rest := cs.drop ds
  let (n, isFloat, rest) := match rest with
    | '.' :: r =>
      let f := (r.takeWhile Char.isDigit).length
      (ds + 1 + f, true, r.drop f)
    | _ => (ds, false, rest)
  match rest with
  | e :: r =>
    if e = 'e' ∨ e = 'E' then
      match r with
      | d :: r' =>
        if d.isDigit then (n + 2 + (r'.takeWhile Char.isDigit).length, true)
        else if (d = '+' ∨ d = '-') then
          match r' with
          | g :: r'' =>
            if g.isDigit then (n + 3 + (r''.takeWhile Char.isDigit).length, true)
            else (n, isFloat)
          | [] => (n, isFloat)
        else (n, isFloat)
      | [] => (n, isFloat)
    else (n, isFloat)
  | [] => (n, isFloat)

def variableLength : List Char → Nat → Nat → Nat × Bool
  | [], i, n => (i, n > 0)
  | ':' :: ':' :: rest, i, n => variableLength rest (i + 2) n
  | c :: rest, i, n =>
    if isIdChar c then variableLength rest (i + 1) (n + 1)
    else if c = '(' && n > 0 then
      let body := rest.takeWhile fun d => d ≠ '\x00' && !isBlankChar d && d ≠ ')'
      match rest.drop body.length with
      | ')' :: _ => (i + body.length + 2, true)
      | _ => (i + body.length + 1, false)
    else (i, n > 0)

def operatorTexts : List String :=
  ["->>", "==", "<=", "<>", "<<", ">=", ">>", "!=", "||", "->", "-", "(", ")", ";", "+", "*",
   "/", "%", "=", "<", ">", ",", "&", "~", "|", "."]

def nextToken (cs : List Char) : Option (TokenKind × Nat) :=
  match cs with
  | [] => none
  | c :: rest =>
    if c = '\x00' then none
    else if isBlankChar c && c ≠ '\x0b' then
      some (.space, 1 + (rest.takeWhile isBlankChar).length)
    else if c = '-' && rest.head? = some '-' then
      some (.space, 2 + (rest.drop 1 |>.takeWhile (fun d => d ≠ '\n' && d ≠ '\x00')).length)
    else if c = '/' && rest.head? = some '*' && (rest.drop 1).head?.isSome then
      some (.space, 2 + commentLength (rest.drop 1) 0)
    else if c.toNat = 0xFEFF then some (.space, 1)
    else if c = '\'' || c = '"' || c = '`' then
      match quotedLength c rest 0 [] with
      | some (n, _) => some (if c = '\'' then .string else .quoted c, n + 1)
      | none => some (.illegal, 1 + (rest.takeWhile (· ≠ '\x00')).length)
    else if c = '[' then
      let body := rest.takeWhile fun d => d ≠ ']' && d ≠ '\x00'
      match rest.drop body.length with
      | ']' :: _ => some (.quoted '[', body.length + 2)
      | _ => some (.illegal, body.length + 1)
    else if (c = 'x' ∨ c = 'X') ∧ rest.head? = some '\'' then
      let digits := (rest.drop 1).takeWhile isHexDigit
      let after := (rest.drop 1).drop digits.length
      match after with
      | '\'' :: _ =>
        if digits.length % 2 == 0 then some (.blob, digits.length + 3)
        else some (.illegal, digits.length + 3)
      | _ =>
        let more := after.takeWhile fun d => d ≠ '\'' && d ≠ '\x00'
        let closed := (after.drop more.length).head? = some '\''
        some (.illegal, 2 + digits.length + more.length + (if closed then 1 else 0))
    else if c.isDigit || (c = '.' && (rest.head?.map Char.isDigit).getD false) then
      let (n, isFloat) :=
        match cs with
        | '0' :: x :: h :: _ =>
          if (x = 'x' ∨ x = 'X') && isHexDigit h then
            (2 + ((cs.drop 2).takeWhile isHexDigit).length, false)
          else decimalLength cs
        | _ => decimalLength cs
      let hex := match cs with
        | '0' :: x :: h :: _ => (x = 'x' ∨ x = 'X') && isHexDigit h
        | _ => false
      let tail := if hex then 0 else ((cs.drop n).takeWhile isIdChar).length
      if tail > 0 then some (.illegal, n + tail)
      else some (if isFloat then .float else .integer, n)
    else if c = '?' then some (.variable, 1 + (rest.takeWhile Char.isDigit).length)
    else if c = '$' || c = '@' || c = ':' || c = '#' then
      let (n, ok) := variableLength rest 1 0
      some (if ok then .variable else .illegal, n)
    else if isIdStart c then some (.word, 1 + (rest.takeWhile isIdChar).length)
    else
      match operatorTexts.find? (fun o => o.toList.isPrefixOf cs) with
      | some o => some (.op, o.length)
      | none => some (.illegal, 1)

def tokenValue (kind : TokenKind) (text : List Char) : String :=
  match kind with
  | .string | .quoted _ =>
    match text with
    | q :: rest =>
      let q := if q = '[' then ']' else q
      if q = ']' then String.ofList (rest.take (rest.length - 1))
      else ((quotedLength q rest 0 []).map (fun r => String.ofList r.2)).getD ""
    | [] => ""
  | .blob => String.ofList ((text.drop 2).take (text.length - 3))
  | _ => String.ofList text

/-- Cuts statement text into tokens. -/
def tokenize (text : String) : List Token :=
  let rec go (fuel : Nat) (cs : List Char) (pos : Nat) (acc : List Token) : List Token :=
    match fuel with
    | 0 => acc.reverse
    | fuel + 1 =>
      match nextToken cs with
      | none => acc.reverse
      | some (kind, n) =>
        let n := max n 1
        let piece := cs.take n
        if kind == .space then go fuel (cs.drop n) (pos + n) acc
        else
          let tok : Token := { kind, text := String.ofList piece, value := tokenValue kind piece,
                               start := pos, stop := pos + n }
          go fuel (cs.drop n) (pos + n) (tok :: acc)
  go (text.length + 1) text.toList 0 []

end CatalogSync.Sql
