import CatalogSync.Text.Literal

/-!
# YAML: from characters to tokens

The scanner hands a YAML document to the parser one token at a time, and reads only as far
as the parser asks. Block structure comes from indentation. A line that starts further in
than the open block opens a new block: a mapping, when the first thing on the line turns out
to be a key, or a sequence, when it is a `- ` entry. A line that starts further out closes
the blocks it leaves, one `blockEnd` token each.

Whether a scalar, an alias or a flow collection is a key is only known when a `:` follows it.
Until then the scanner keeps the place where a key token would go, and the parser does not
get the token there. The key must be settled on the same line. A key that starts a line of a
block mapping must also be settled before the line ends, or the document is refused.

Tabs never separate tokens, and a plain scalar stops at one. Every problem is reported with
the construct being read and the places concerned, worded as the loader words them.
-/

namespace CatalogSync.Yaml

/-- A place in a document: the index of a character, with its line and column from 0. -/
structure Mark where
  index : Nat := 0
  line : Nat := 0
  column : Nat := 0
  deriving Inhabited

def Mark.text (name : String) (m : Mark) : String :=
  "  in \"" ++ name ++ "\", line " ++ toString (m.line + 1) ++ ", column " ++
    toString (m.column + 1)

/-- Why a document cannot be read. -/
inductive Problem where
  /-- A character no document may hold: its code and its index. -/
  | unacceptable (code : Nat) (position : Nat)
  /-- A problem at a place, found while reading a construct that began at another place. -/
  | marked (context : Option String) (contextMark : Option Mark) (problem : String)
      (problemMark : Option Mark)
  /-- A problem that names no place. -/
  | plain (message : String)
  /-- A document nested deeper than can be read. -/
  | tooDeep
  deriving Inhabited

def Problem.text (name : String) : Problem → String
  | .unacceptable code position =>
    "unacceptable character #x" ++ Text.hex 4 code ++ ": special characters are not allowed\n" ++
      "  in \"" ++ name ++ "\", position " ++ toString position
  | .marked context contextMark problem problemMark =>
    let contextPlace := match contextMark, problemMark with
      | some c, some p => if c.line == p.line && c.column == p.column then [] else [c.text name]
      | some c, none => [c.text name]
      | none, _ => []
    "\n".intercalate
      (context.toList ++ contextPlace ++ [problem] ++ (problemMark.map (Mark.text name)).toList)
  | .plain message => message
  | .tooDeep => "maximum recursion depth exceeded"

/-- The kinds of token. -/
inductive Kind where
  | streamStart
  | streamEnd
  | directive
  | documentStart
  | documentEnd
  | blockSequenceStart
  | blockMappingStart
  | blockEnd
  | flowSequenceStart
  | flowMappingStart
  | flowSequenceEnd
  | flowMappingEnd
  | key
  | value
  | blockEntry
  | flowEntry
  /-- An alias: `*name`, a reference to an anchored node. -/
  | reference
  | anchor
  | tag
  | scalar
  deriving DecidableEq, Inhabited

def Kind.id : Kind → String
  | .streamStart => "<stream start>"
  | .streamEnd => "<stream end>"
  | .directive => "<directive>"
  | .documentStart => "<document start>"
  | .documentEnd => "<document end>"
  | .blockSequenceStart => "<block sequence start>"
  | .blockMappingStart => "<block mapping start>"
  | .blockEnd => "<block end>"
  | .flowSequenceStart => "["
  | .flowMappingStart => "\x7b"
  | .flowSequenceEnd => "]"
  | .flowMappingEnd => "\x7d"
  | .key => "?"
  | .value => ":"
  | .blockEntry => "-"
  | .flowEntry => ","
  | .reference => "<alias>"
  | .anchor => "<anchor>"
  | .tag => "<tag>"
  | .scalar => "<scalar>"

/-- What a directive says: the version of a `%YAML` directive, the handle and prefix of a
`%TAG` directive, or nothing that is read, for any other. -/
inductive Directive where
  | version (major minor : Nat)
  | tagPrefix (handle pfx : String)
  | other
  deriving Inhabited

/-- A token and where it starts and stops. An alias or anchor carries its name in `text`, a
tag its handle and suffix, a scalar its value and whether it was written plain, a directive
its name and what it says. -/
structure Token where
  kind : Kind
  text : String := ""
  plain : Bool := false
  handle : Option String := none
  directive : Directive := .other
  start : Mark
  stop : Mark
  deriving Inhabited

/-- A place where a key token would go, if a `:` follows: the number of the token it would
come before, whether it must be a key, and where it starts. -/
structure SimpleKey where
  tokenNumber : Nat
  required : Bool
  mark : Mark

/-- The state of the scanner: the characters and the current place, how deep in flow
collections it is, the tokens read and not yet taken, the number taken, whether the stream
has ended, the open block indents, whether a key may start here, and the places where a key
may go, by flow depth. -/
structure Scanner where
  chars : Array Char
  mark : Mark := {}
  flowLevel : Nat := 0
  queue : List Token := []
  taken : Nat := 0
  done : Bool := false
  indent : Int := -1
  indents : List Int := []
  allowSimpleKey : Bool := true
  keys : List (Nat × SimpleKey) := []

def Scanner.start (chars : Array Char) : Scanner :=
  { chars, queue := [{ kind := .streamStart, start := {}, stop := {} }] }

abbrev ScanM := StateT Scanner (Except Problem)

def isBreak (c : Char) : Bool :=
  c == '\r' || c == '\n' || c == '\x85' || c == '\u2028' || c == '\u2029'

def isBreakOrEnd (c : Char) : Bool := c == '\x00' || isBreak c

def isBlankOrEnd (c : Char) : Bool := c == ' ' || c == '\t' || isBreakOrEnd c

def isWordChar (c : Char) : Bool := c.isAlphanum || c == '-' || c == '_'

def charText (c : Char) : String := Text.literal (String.singleton c)

def peekAt (k : Nat) : ScanM Char := do
  let s ← get
  return s.chars.getD (s.mark.index + k) '\x00'

def here : ScanM Mark := do
  return (← get).mark

def fuel : ScanM Nat := do
  return (← get).chars.size + 2

def Scanner.step (s : Scanner) : Scanner :=
  let c := s.chars.getD s.mark.index '\x00'
  let next := s.chars.getD (s.mark.index + 1) '\x00'
  let m := s.mark
  let m :=
    if c == '\n' || c == '\x85' || c == '\u2028' || c == '\u2029' || (c == '\r' && next != '\n') then
      { index := m.index + 1, line := m.line + 1, column := 0 }
    else if c != '\uFEFF' then { m with index := m.index + 1, column := m.column + 1 }
    else { m with index := m.index + 1 }
  { s with mark := m }

def forward (n : Nat) : ScanM Unit :=
  modify fun s => Nat.repeat Scanner.step n s

def prefixText (n : Nat) : ScanM String := do
  let s ← get
  return String.ofList (s.chars.extract s.mark.index (s.mark.index + n)).toList

def lengthWhile (p : Char → Bool) (start : Nat) : ScanM Nat := do
  let mut n := start
  for _ in [0:(← fuel)] do
    if !p (← peekAt n) then break
    n := n + 1
  return n - start

def skipWhile (p : Char → Bool) : ScanM Unit := do
  for _ in [0:(← fuel)] do
    if !p (← peekAt 0) then break
    forward 1

def refuse {α : Type} (context : Option String) (contextMark : Option Mark) (problem : String) :
    ScanM α := do
  throw (.marked context contextMark problem (some (← here)))

def allowKey (b : Bool) : ScanM Unit :=
  modify fun s => { s with allowSimpleKey := b }

def push (t : Token) : ScanM Unit :=
  modify fun s => { s with queue := s.queue ++ [t] }

def Token.bare (kind : Kind) (start stop : Mark) : Token := { kind, start, stop }

def insertAt {α : Type} (xs : List α) (i : Nat) (x : α) : List α :=
  xs.take i ++ x :: xs.drop i

def lineBreak : ScanM String := do
  let c ← peekAt 0
  if c == '\r' || c == '\n' || c == '\x85' then
    if c == '\r' && (← peekAt 1) == '\n' then forward 2 else forward 1
    return "\n"
  else if c == '\u2028' || c == '\u2029' then
    forward 1
    return String.singleton c
  else return ""

def separatorAhead : ScanM Bool := do
  let p ← prefixText 3
  return (p == "---" || p == "...") && isBlankOrEnd (← peekAt 3)

def skipToToken : ScanM Unit := do
  if (← here).index == 0 && (← peekAt 0) == '\uFEFF' then forward 1
  for _ in [0:(← fuel)] do
    skipWhile (· == ' ')
    if (← peekAt 0) == '#' then skipWhile (fun c => !isBreakOrEnd c)
    if (← lineBreak) != "" then
      if (← get).flowLevel == 0 then allowKey true
    else break

/-! ## Places where a key may go -/

def Scanner.nextKey (s : Scanner) : Option Nat :=
  s.keys.foldl (fun acc entry => match acc with
    | none => some entry.2.tokenNumber
    | some m => some (min m entry.2.tokenNumber)) none

def staleKeys : ScanM Unit := do
  let s ← get
  let mut kept : List (Nat × SimpleKey) := []
  for (level, k) in s.keys do
    if k.mark.line != s.mark.line || s.mark.index - k.mark.index > 1024 then
      if k.required then
        refuse (some "while scanning a simple key") (some k.mark) "could not find expected ':'"
    else kept := kept ++ [(level, k)]
  modify fun s => { s with keys := kept }

def removeKey : ScanM Unit := do
  let s ← get
  match s.keys.find? (·.1 == s.flowLevel) with
  | some (_, k) =>
    if k.required then
      refuse (some "while scanning a simple key") (some k.mark) "could not find expected ':'"
    set { s with keys := s.keys.filter (·.1 != s.flowLevel) }
  | none => pure ()

def saveKey : ScanM Unit := do
  let s ← get
  let required := s.flowLevel == 0 && s.indent == Int.ofNat s.mark.column
  if s.allowSimpleKey then
    removeKey
    let s ← get
    let k : SimpleKey := { tokenNumber := s.taken + s.queue.length, required, mark := s.mark }
    set { s with keys := s.keys ++ [(s.flowLevel, k)] }

/-! ## Indentation -/

def unwindIndent (column : Int) : ScanM Unit := do
  if (← get).flowLevel != 0 then return
  for _ in [0:(← get).indents.length + 1] do
    let s ← get
    match s.indents with
    | i :: rest =>
      if s.indent > column then
        set { s with indent := i, indents := rest, queue := s.queue ++ [Token.bare .blockEnd s.mark s.mark] }
      else break
    | [] => break

def addIndent (column : Int) : ScanM Bool := do
  let s ← get
  if s.indent < column then
    set { s with indents := s.indent :: s.indents, indent := column }
    return true
  return false

/-! ## Scalars -/

def escapeReplacement : Char → Option Char
  | '0' => some '\x00'
  | 'a' => some '\x07'
  | 'b' => some '\x08'
  | 't' => some '\t'
  | '\t' => some '\t'
  | 'n' => some '\n'
  | 'v' => some '\x0b'
  | 'f' => some '\x0c'
  | 'r' => some '\r'
  | 'e' => some '\x1b'
  | ' ' => some ' '
  | '"' => some '"'
  | '\\' => some '\\'
  | '/' => some '/'
  | 'N' => some '\x85'
  | '_' => some '\xa0'
  | 'L' => some '\u2028'
  | 'P' => some '\u2029'
  | _ => none

def escapeLength : Char → Option Nat
  | 'x' => some 2
  | 'u' => some 4
  | 'U' => some 8
  | _ => none

def hexValue (s : String) : Nat :=
  s.toList.foldl (fun acc c =>
    acc * 16 + (if c.isDigit then c.toNat - 48 else if 'a' ≤ c ∧ c ≤ 'f' then c.toNat - 87
      else c.toNat - 55)) 0

def isHexDigit (c : Char) : Bool :=
  c.isDigit || ('a' ≤ c && c ≤ 'f') || ('A' ≤ c && c ≤ 'F')

def quotedBreaks (start : Mark) : ScanM String := do
  let mut out := ""
  for _ in [0:(← fuel)] do
    if ← separatorAhead then
      refuse (some "while scanning a quoted scalar") (some start) "found unexpected document separator"
    skipWhile (fun c => c == ' ' || c == '\t')
    if isBreak (← peekAt 0) then out := out ++ (← lineBreak)
    else break
  return out

def quotedText (double : Bool) (start : Mark) : ScanM String := do
  let mut out := ""
  for _ in [0:(← fuel)] do
    let n ← lengthWhile (fun c => !(c == '\'' || c == '"' || c == '\\' || isBlankOrEnd c)) 0
    if n > 0 then
      out := out ++ (← prefixText n)
      forward n
    let c ← peekAt 0
    if !double && c == '\'' && (← peekAt 1) == '\'' then
      out := out.push '\''
      forward 2
    else if (double && c == '\'') || (!double && (c == '"' || c == '\\')) then
      out := out.push c
      forward 1
    else if double && c == '\\' then
      forward 1
      let e ← peekAt 0
      match escapeReplacement e, escapeLength e with
      | some r, _ =>
        out := out.push r
        forward 1
      | none, some len =>
        forward 1
        for k in [0:len] do
          let d ← peekAt k
          if !isHexDigit d then
            refuse (some "while scanning a double-quoted scalar") (some start)
              ("expected escape sequence of " ++ toString len ++
                " hexadecimal numbers, but found " ++ charText d)
        out := out.push (Char.ofNat (hexValue (← prefixText len)))
        forward len
      | none, none =>
        if isBreak e then
          let _ ← lineBreak
          out := out ++ (← quotedBreaks start)
        else
          refuse (some "while scanning a double-quoted scalar") (some start)
            ("found unknown escape character " ++ charText e)
    else break
  return out

def quotedSpaces (start : Mark) : ScanM String := do
  let n ← lengthWhile (fun c => c == ' ' || c == '\t') 0
  let blanks ← prefixText n
  forward n
  let c ← peekAt 0
  if c == '\x00' then
    refuse (some "while scanning a quoted scalar") (some start) "found unexpected end of stream"
  else if isBreak c then
    let first ← lineBreak
    let breaks ← quotedBreaks start
    if first != "\n" then return first ++ breaks
    else if breaks.isEmpty then return " "
    else return breaks
  else return blanks

def scanQuoted (double : Bool) : ScanM Token := do
  let start ← here
  let quote ← peekAt 0
  forward 1
  let mut out ← quotedText double start
  for _ in [0:(← fuel)] do
    if (← peekAt 0) == quote then break
    out := out ++ (← quotedSpaces start)
    out := out ++ (← quotedText double start)
  forward 1
  return { kind := .scalar, text := out, start, stop := ← here }

def blockIndicators (start : Mark) : ScanM (Option Bool × Option Nat) := do
  let context := some "while scanning a block scalar"
  let mut chomping : Option Bool := none
  let mut increment : Option Nat := none
  let c ← peekAt 0
  if c == '+' || c == '-' then
    chomping := some (c == '+')
    forward 1
    let d ← peekAt 0
    if d.isDigit then
      if d == '0' then
        refuse context (some start) "expected indentation indicator in the range 1-9, but found 0"
      increment := some (d.toNat - 48)
      forward 1
  else if c.isDigit then
    if c == '0' then
      refuse context (some start) "expected indentation indicator in the range 1-9, but found 0"
    increment := some (c.toNat - 48)
    forward 1
    let d ← peekAt 0
    if d == '+' || d == '-' then
      chomping := some (d == '+')
      forward 1
  let c ← peekAt 0
  if !(c == ' ' || isBreakOrEnd c) then
    refuse context (some start) ("expected chomping or indentation indicators, but found " ++ charText c)
  return (chomping, increment)

def blockHeaderEnd (start : Mark) : ScanM Unit := do
  skipWhile (· == ' ')
  if (← peekAt 0) == '#' then skipWhile (fun c => !isBreakOrEnd c)
  let c ← peekAt 0
  if !isBreakOrEnd c then
    refuse (some "while scanning a block scalar") (some start)
      ("expected a comment or a line break, but found " ++ charText c)
  let _ ← lineBreak

def blockIndentation : ScanM (String × Nat × Mark) := do
  let mut breaks := ""
  let mut deepest := 0
  let mut stop ← here
  for _ in [0:(← fuel)] do
    let c ← peekAt 0
    if !(c == ' ' || isBreak c) then break
    if c != ' ' then
      breaks := breaks ++ (← lineBreak)
      stop ← here
    else
      forward 1
      let column := (← here).column
      if column > deepest then deepest := column
  return (breaks, deepest, stop)

def skipIndent (indent : Nat) : ScanM Unit := do
  for _ in [0:(← fuel)] do
    if (← here).column < indent && (← peekAt 0) == ' ' then forward 1 else break

def blockBreaks (indent : Nat) : ScanM (String × Mark) := do
  let mut breaks := ""
  let mut stop ← here
  skipIndent indent
  for _ in [0:(← fuel)] do
    if !isBreak (← peekAt 0) then break
    breaks := breaks ++ (← lineBreak)
    stop ← here
    skipIndent indent
  return (breaks, stop)

def scanBlock (folded : Bool) : ScanM Token := do
  let start ← here
  forward 1
  let (chomping, increment) ← blockIndicators start
  blockHeaderEnd start
  let least : Nat := max 1 ((← get).indent + 1).toNat
  let (firstBreaks, firstStop, indent) ← match increment with
    | none => do
      let (b, deepest, e) ← blockIndentation
      pure (b, e, max least deepest)
    | some inc => do
      let indent := least + inc - 1
      let (b, e) ← blockBreaks indent
      pure (b, e, indent)
  let mut breaks := firstBreaks
  let mut stop := firstStop
  let mut out := ""
  let mut lastBreak := ""
  for _ in [0:(← fuel)] do
    if !((← here).column == indent && (← peekAt 0) != '\x00') then break
    out := out ++ breaks
    let first ← peekAt 0
    let leadingNonSpace := !(first == ' ' || first == '\t')
    let n ← lengthWhile (fun c => !isBreakOrEnd c) 0
    out := out ++ (← prefixText n)
    forward n
    lastBreak ← lineBreak
    let (b, e) ← blockBreaks indent
    breaks := b
    stop := e
    let next ← peekAt 0
    if (← here).column == indent && next != '\x00' then
      if folded && lastBreak == "\n" && leadingNonSpace && !(next == ' ' || next == '\t') then
        if breaks.isEmpty then out := out ++ " "
      else out := out ++ lastBreak
    else break
  if chomping != some false then out := out ++ lastBreak
  if chomping == some true then out := out ++ breaks
  return { kind := .scalar, text := out, start, stop }

def plainLength (flow : Bool) : ScanM Nat := do
  let isFlowMark (c : Char) : Bool :=
    c == ',' || c == '[' || c == ']' || c == '\x7b' || c == '\x7d'
  let mut n := 0
  for _ in [0:(← fuel)] do
    let c ← peekAt n
    let next ← peekAt (n + 1)
    if isBlankOrEnd c || (c == ':' && (isBlankOrEnd next || (flow && isFlowMark next))) ||
        (flow && (c == '?' || isFlowMark c)) then break
    n := n + 1
  return n

/-- The blanks and line breaks after a run of a plain scalar, as the scalar keeps them:
blanks stay, a single line break folds to a space and further breaks stay. Nothing when the
scalar ends here: no blank follows, or a document separator starts the next line. -/
def plainSpaces : ScanM (Option String) := do
  let n ← lengthWhile (· == ' ') 0
  let blanks ← prefixText n
  forward n
  if isBreak (← peekAt 0) then
    let first ← lineBreak
    allowKey true
    if ← separatorAhead then return none
    let mut breaks := ""
    for _ in [0:(← fuel)] do
      let c ← peekAt 0
      if c == ' ' then forward 1
      else if isBreak c then
        breaks := breaks ++ (← lineBreak)
        if ← separatorAhead then return none
      else break
    if first != "\n" then return some (first ++ breaks)
    else if breaks.isEmpty then return some " "
    else return some breaks
  else if blanks.isEmpty then return none
  else return some blanks

def scanPlain : ScanM Token := do
  let s ← get
  let start := s.mark
  let indent : Int := s.indent + 1
  let flow := s.flowLevel != 0
  let mut out := ""
  let mut spaces := ""
  let mut stop := start
  for _ in [0:(← fuel)] do
    if (← peekAt 0) == '#' then break
    let n ← plainLength flow
    if n == 0 then break
    allowKey false
    out := out ++ spaces ++ (← prefixText n)
    forward n
    stop ← here
    match ← plainSpaces with
    | none => break
    | some sp =>
      spaces := sp
      if (← peekAt 0) == '#' || (!flow && Int.ofNat (← here).column < indent) then break
  return { kind := .scalar, text := out, plain := true, start, stop }

def startsPlain : ScanM Bool := do
  let c ← peekAt 0
  let next ← peekAt 1
  let flow := (← get).flowLevel != 0
  let indicator := c == '-' || c == '?' || c == ':' || c == ',' || c == '[' || c == ']' ||
    c == '\x7b' || c == '\x7d' || c == '#' || c == '&' || c == '*' || c == '!' || c == '|' ||
    c == '>' || c == '\'' || c == '"' || c == '%' || c == '@' || c == '\x60'
  return !(isBlankOrEnd c || indicator) ||
    (!isBlankOrEnd next && (c == '-' || (!flow && (c == '?' || c == ':'))))

/-! ## Anchors, aliases and tags -/

def scanAnchor (kind : Kind) : ScanM Token := do
  let start ← here
  let context := some ("while scanning an " ++ if kind == .reference then "alias" else "anchor")
  forward 1
  let n ← lengthWhile isWordChar 0
  if n == 0 then
    refuse context (some start)
      ("expected alphabetic or numeric character, but found " ++ charText (← peekAt 0))
  let name ← prefixText n
  forward n
  let c ← peekAt 0
  if !(isBlankOrEnd c || c == '?' || c == ':' || c == ',' || c == ']' || c == '\x7d' ||
      c == '%' || c == '@' || c == '\x60') then
    refuse context (some start) ("expected alphabetic or numeric character, but found " ++ charText c)
  return { kind, text := name, start, stop := ← here }

def isUriChar (c : Char) : Bool :=
  c.isAlphanum || "-;/?:@&=+$,_.!~*()[]%".toList.contains c || c == '\''

def scanTagHandle (what : String) (start : Mark) : ScanM String := do
  let c ← peekAt 0
  if c != '!' then
    refuse (some ("while scanning a " ++ what)) (some start) ("expected '!', but found " ++ charText c)
  let mut length := 1
  if (← peekAt 1) != ' ' then
    length := 1 + (← lengthWhile isWordChar 1)
    let c ← peekAt length
    if c != '!' then
      forward length
      refuse (some ("while scanning a " ++ what)) (some start) ("expected '!', but found " ++ charText c)
    length := length + 1
  let handle ← prefixText length
  forward length
  return handle

def scanTagUri (what : String) (start : Mark) : ScanM String := do
  let mut out := ""
  let mut any := false
  for _ in [0:(← fuel)] do
    let c ← peekAt 0
    if !isUriChar c then break
    any := true
    if c == '%' then
      forward 1
      for k in [0:2] do
        let d ← peekAt k
        if !isHexDigit d then
          refuse (some ("while scanning a " ++ what)) (some start)
            ("expected URI escape sequence of 2 hexadecimal numbers, but found " ++ charText d)
      out := out.push (Char.ofNat (hexValue (← prefixText 2)))
      forward 2
    else
      out := out.push c
      forward 1
  if !any then
    refuse (some ("while parsing a " ++ what)) (some start) ("expected URI, but found " ++ charText (← peekAt 0))
  return out

def scanTag : ScanM Token := do
  let start ← here
  let c ← peekAt 1
  let (handle, suffix) ←
    if c == '<' then do
      forward 2
      let suffix ← scanTagUri "tag" start
      if (← peekAt 0) != '>' then
        refuse (some "while parsing a tag") (some start) ("expected '>', but found " ++ charText (← peekAt 0))
      forward 1
      pure (none, suffix)
    else if isBlankOrEnd c then do
      forward 1
      pure (none, "!")
    else do
      let n ← lengthWhile (fun c => !(c == '!' || c == ' ' || isBreakOrEnd c)) 1
      let handle ← if (← peekAt (n + 1)) == '!' then scanTagHandle "tag" start
        else do
          forward 1
          pure "!"
      pure (some handle, ← scanTagUri "tag" start)
  let c ← peekAt 0
  if !(c == ' ' || isBreakOrEnd c) then
    refuse (some "while scanning a tag") (some start) ("expected ' ', but found " ++ charText c)
  return { kind := .tag, text := suffix, handle, start, stop := ← here }

/-! ## Fetching tokens -/

def fetchStreamEnd : ScanM Unit := do
  unwindIndent (-1)
  removeKey
  let m ← here
  modify fun s => { s with allowSimpleKey := false, keys := [], done := true,
                           queue := s.queue ++ [Token.bare .streamEnd m m] }

def directiveContext : Option String := some "while scanning a directive"

def scanVersionNumber (start : Mark) : ScanM Nat := do
  let c ← peekAt 0
  if !c.isDigit then
    refuse directiveContext (some start) ("expected a digit, but found " ++ charText c)
  let n ← lengthWhile Char.isDigit 0
  let digits ← prefixText n
  forward n
  return digits.foldl (fun acc d => acc * 10 + (d.toNat - 48)) 0

def scanVersion (start : Mark) : ScanM Directive := do
  skipWhile (· == ' ')
  let major ← scanVersionNumber start
  if (← peekAt 0) != '.' then
    refuse directiveContext (some start) ("expected a digit or '.', but found " ++ charText (← peekAt 0))
  forward 1
  let minor ← scanVersionNumber start
  let c ← peekAt 0
  if !(c == ' ' || isBreakOrEnd c) then
    refuse directiveContext (some start) ("expected a digit or ' ', but found " ++ charText c)
  return .version major minor

def scanTagPrefix (start : Mark) : ScanM Directive := do
  skipWhile (· == ' ')
  let handle ← scanTagHandle "directive" start
  if (← peekAt 0) != ' ' then
    refuse directiveContext (some start) ("expected ' ', but found " ++ charText (← peekAt 0))
  skipWhile (· == ' ')
  let pfx ← scanTagUri "directive" start
  let c ← peekAt 0
  if !(c == ' ' || isBreakOrEnd c) then
    refuse directiveContext (some start) ("expected ' ', but found " ++ charText c)
  return .tagPrefix handle pfx

def fetchDirective : ScanM Unit := do
  unwindIndent (-1)
  removeKey
  allowKey false
  let start ← here
  forward 1
  let n ← lengthWhile isWordChar 0
  if n == 0 then
    refuse directiveContext (some start)
      ("expected alphabetic or numeric character, but found " ++ charText (← peekAt 0))
  let name ← prefixText n
  forward n
  let c ← peekAt 0
  if !(c == ' ' || isBreakOrEnd c) then
    refuse directiveContext (some start) ("expected alphabetic or numeric character, but found " ++ charText c)
  let directive ← if name == "YAML" then scanVersion start
    else if name == "TAG" then scanTagPrefix start
    else pure .other
  let stop ← here
  if name != "YAML" && name != "TAG" then skipWhile (fun c => !isBreakOrEnd c)
  skipWhile (· == ' ')
  if (← peekAt 0) == '#' then skipWhile (fun c => !isBreakOrEnd c)
  let c ← peekAt 0
  if !isBreakOrEnd c then
    refuse directiveContext (some start) ("expected a comment or a line break, but found " ++ charText c)
  let _ ← lineBreak
  push { kind := .directive, text := name, directive, start, stop }

def fetchDocumentIndicator (kind : Kind) : ScanM Unit := do
  unwindIndent (-1)
  removeKey
  allowKey false
  let start ← here
  forward 3
  push (Token.bare kind start (← here))

def fetchFlowStart (kind : Kind) : ScanM Unit := do
  saveKey
  modify fun s => { s with flowLevel := s.flowLevel + 1, allowSimpleKey := true }
  let start ← here
  forward 1
  push (Token.bare kind start (← here))

def fetchFlowEnd (kind : Kind) : ScanM Unit := do
  removeKey
  modify fun s => { s with flowLevel := s.flowLevel - 1, allowSimpleKey := false }
  let start ← here
  forward 1
  push (Token.bare kind start (← here))

def fetchFlowEntry : ScanM Unit := do
  allowKey true
  removeKey
  let start ← here
  forward 1
  push (Token.bare .flowEntry start (← here))

def fetchBlockEntry : ScanM Unit := do
  let s ← get
  if s.flowLevel == 0 then
    if !s.allowSimpleKey then refuse none none "sequence entries are not allowed here"
    if ← addIndent s.mark.column then
      let m ← here
      push (Token.bare .blockSequenceStart m m)
  allowKey true
  removeKey
  let start ← here
  forward 1
  push (Token.bare .blockEntry start (← here))

def fetchKey : ScanM Unit := do
  let s ← get
  if s.flowLevel == 0 then
    if !s.allowSimpleKey then refuse none none "mapping keys are not allowed here"
    if ← addIndent s.mark.column then
      let m ← here
      push (Token.bare .blockMappingStart m m)
  allowKey (s.flowLevel == 0)
  removeKey
  let start ← here
  forward 1
  push (Token.bare .key start (← here))

def fetchValue : ScanM Unit := do
  let s ← get
  match s.keys.find? (·.1 == s.flowLevel) with
  | some (_, k) =>
    let pos := k.tokenNumber - s.taken
    set { s with keys := s.keys.filter (·.1 != s.flowLevel),
                 queue := insertAt s.queue pos (Token.bare .key k.mark k.mark) }
    if s.flowLevel == 0 then
      if ← addIndent k.mark.column then
        modify fun s => { s with queue := insertAt s.queue pos (Token.bare .blockMappingStart k.mark k.mark) }
    allowKey false
  | none =>
    if s.flowLevel == 0 then
      if !s.allowSimpleKey then refuse none none "mapping values are not allowed here"
      if ← addIndent s.mark.column then
        let m ← here
        push (Token.bare .blockMappingStart m m)
    allowKey (s.flowLevel == 0)
    removeKey
  let start ← here
  forward 1
  push (Token.bare .value start (← here))

def fetchMore : ScanM Unit := do
  skipToToken
  staleKeys
  unwindIndent (Int.ofNat (← here).column)
  let c ← peekAt 0
  let next ← peekAt 1
  let s ← get
  let atLineStart := s.mark.column == 0
  let flow := s.flowLevel != 0
  if c == '\x00' then fetchStreamEnd
  else if c == '%' && atLineStart then fetchDirective
  else if c == '-' && atLineStart && (← prefixText 3) == "---" && isBlankOrEnd (← peekAt 3) then
    fetchDocumentIndicator .documentStart
  else if c == '.' && atLineStart && (← prefixText 3) == "..." && isBlankOrEnd (← peekAt 3) then
    fetchDocumentIndicator .documentEnd
  else if c == '[' then fetchFlowStart .flowSequenceStart
  else if c == '\x7b' then fetchFlowStart .flowMappingStart
  else if c == ']' then fetchFlowEnd .flowSequenceEnd
  else if c == '\x7d' then fetchFlowEnd .flowMappingEnd
  else if c == ',' then fetchFlowEntry
  else if c == '-' && isBlankOrEnd next then fetchBlockEntry
  else if c == '?' && (flow || isBlankOrEnd next) then fetchKey
  else if c == ':' && (flow || isBlankOrEnd next) then fetchValue
  else if c == '*' then
    saveKey
    allowKey false
    push (← scanAnchor .reference)
  else if c == '&' then
    saveKey
    allowKey false
    push (← scanAnchor .anchor)
  else if c == '!' then
    saveKey
    allowKey false
    push (← scanTag)
  else if (c == '|' || c == '>') && !flow then
    allowKey true
    removeKey
    push (← scanBlock (c == '>'))
  else if c == '\'' || c == '"' then
    saveKey
    allowKey false
    push (← scanQuoted (c == '"'))
  else if ← startsPlain then
    saveKey
    allowKey false
    push (← scanPlain)
  else
    refuse (some "while scanning for the next token") none
      ("found character " ++ charText c ++ " that cannot start any token")

def needMore : ScanM Bool := do
  let s ← get
  if s.done then return false
  if s.queue.isEmpty then return true
  staleKeys
  let s ← get
  return s.nextKey == some s.taken

def settle : ScanM Unit := do
  for _ in [0:(← fuel)] do
    if !(← needMore) then break
    fetchMore

def peekToken : ScanM Token := do
  settle
  match (← get).queue with
  | t :: _ => return t
  | [] => return Token.bare .streamEnd (← here) (← here)

def takeToken : ScanM Token := do
  settle
  let s ← get
  match s.queue with
  | t :: rest =>
    set { s with queue := rest, taken := s.taken + 1 }
    return t
  | [] => return Token.bare .streamEnd s.mark s.mark

end CatalogSync.Yaml
