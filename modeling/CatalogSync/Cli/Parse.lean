import CatalogSync.Cli.Command
import CatalogSync.Text.Close
import CatalogSync.Text.Blank

/-!
# Reading a command line

A command line is read as the group reads it, then as its command does:

1. With no arguments at all the group answers its help page, as a mistake.
2. The group's options come before the command's name; only `--help` is one.
3. The command reads its options in any order among other arguments: `--name value`,
   `--name=value`, `-n value` and `-nvalue` give a value, `--` ends the options. An
   unknown long option is reported with the known ones that look like it.
4. The options given are then settled in the order they were first given, `--help` first and
   those not given last: paths that must exist are checked, numbers read, and a required
   option that was not given is a mistake. `--help` answers the help page.
5. Arguments left over are a mistake.

Every mistake ends the command line with status 2. It comes with the usage of the command
it concerns, except a missing or unwanted option value, which the option reader reports on
its own. An unknown option or command is reported with the known ones that look like it.
-/

namespace CatalogSync.Cli

/-- A value given to an option. -/
inductive Given where
  | value (text : String)
  | switch (on : Bool)
  | help

/-- A mistake on the command line: the command path it concerns, what is wrong, and whether
the usage of the command is shown with it. A missing or unwanted option value is reported
by the option reader alone, without the usage. -/
structure Mistake where
  path : String
  message : String
  withUsage : Bool := true

/-- What a command line asks for, once read. -/
inductive Reading where
  /-- A help page to print. -/
  | help (page : String)
  /-- A mistake to report. -/
  | mistake (m : Mistake)
  /-- The group was given nothing: its help page, reported as a mistake. -/
  | bare (page : String)
  /-- A command with the values its options were given, by key, in the order given. -/
  | command (c : Command) (values : List (String × Given))

def usageOf (path : String) : String :=
  if path == groupName then usageLine groupName "[OPTIONS] COMMAND [ARGS]..."
  else usageLine path "[OPTIONS]"

def Mistake.text (m : Mistake) : String :=
  (if m.withUsage then
    usageOf m.path ++ "\nTry " ++ Text.literal (m.path ++ " --help") ++ " for help.\n\n"
  else "") ++ "Error: " ++ m.message ++ "\n"

def suggestion (kind : String) (close : List String) : String :=
  match close with
  | [] => ""
  | [one] => " Did you mean " ++ Text.literal one ++ "?"
  | many => " (Possible " ++ kind ++ ": " ++ ", ".intercalate (many.map Text.literal) ++ ")"

/-- A refusal of the option reader: its message, and whether the usage is shown with it. -/
structure Refusal where
  message : String
  withUsage : Bool := true

def noSuchOption (name : String) (longs : List String) : String :=
  let base := "No such option " ++ Text.literal name ++ "."
  if !name.startsWith "--" then base
  else
    base ++ suggestion "options"
      ((Text.closeMatches name longs).mergeSort (fun a b => decide (a ≤ b)))

def noSuchCommand (name : String) : String :=
  "No such command " ++ Text.literal name ++ "." ++
    suggestion "commands" (Text.closeMatches name (commands.map (·.name)))

def findLong (opts : List Opt) (name : String) : Option Opt :=
  opts.find? fun o => o.long == name || (match o.takes with
    | .switch off => off == name
    | _ => false)

def findShort (opts : List Opt) (name : String) : Option Opt :=
  opts.find? fun o => o.short == some name

def Opt.takesValue (o : Opt) : Bool :=
  match o.takes with
  | .switch _ | .help => false
  | _ => true

def Opt.flagValue (o : Opt) (name : String) : Given :=
  match o.takes with
  | .switch off => .switch (name != off)
  | _ => .help

/-- The state of reading options: the values given, in order, the other arguments, and the
arguments still to read. -/
structure Scan where
  given : List (Opt × Given) := []
  others : List String := []
  rest : List String

def takeValue (name : String) (s : Scan) : Except Refusal (String × Scan) :=
  match s.rest with
  | v :: more => .ok (v, { s with rest := more })
  | [] => .error { message := "Option " ++ Text.literal name ++ " requires an argument.",
                   withUsage := false }

def readShorts (opts : List Opt) (arg : List Char) :
    Nat → List Char → Scan → Except Refusal Scan
  | 0, _, s => .ok s
  | _, [], s => .ok s
  | fuel + 1, c :: more, s =>
    let name := "-" ++ String.ofList [c]
    match findShort opts name with
    | none => .error { message := noSuchOption name [] }
    | some o =>
      if o.takesValue then
        let s := if more.isEmpty then s else { s with rest := String.ofList more :: s.rest }
        match takeValue name s with
        | .ok (v, s) => .ok { s with given := s.given ++ [(o, .value v)] }
        | .error e => .error e
      else readShorts opts arg fuel more { s with given := s.given ++ [(o, o.flagValue name)] }

def readOption (opts : List Opt) (arg : String) (s : Scan) : Except Refusal Scan :=
  let (name, explicit) := match arg.splitOn "=" with
    | [n] => (n, none)
    | n :: vs => (n, some ("=".intercalate vs))
    | [] => (arg, none)
  match findLong opts name with
  | some o =>
    if o.takesValue then
      let s := match explicit with
        | some v => { s with rest := v :: s.rest }
        | none => s
      match takeValue name s with
      | .ok (v, s) => .ok { s with given := s.given ++ [(o, .value v)] }
      | .error e => .error e
    else match explicit with
      | some _ => .error { message := "Option " ++ Text.literal name ++ " does not take a value.",
                           withUsage := false }
      | none => .ok { s with given := s.given ++ [(o, o.flagValue name)] }
  | none =>
    if arg.startsWith "--" then
      .error { message :=
        noSuchOption name (opts.flatMap fun o => o.names.filter (·.startsWith "--")) }
    else
      let chars := (arg.toList.drop 1)
      readShorts opts chars (chars.length + 1) chars s

def scan (opts : List Opt) (interspersed : Bool) : Nat → Scan → Except Refusal Scan
  | 0, s => .ok s
  | fuel + 1, s =>
    match s.rest with
    | [] => .ok s
    | arg :: more =>
      let s := { s with rest := more }
      if arg == "--" then .ok { s with others := s.others ++ more, rest := [] }
      else if arg.startsWith "-" && arg.length > 1 then
        match readOption opts arg s with
        | .ok s => scan opts interspersed fuel s
        | .error e => .error e
      else if interspersed then scan opts interspersed fuel { s with others := s.others ++ [arg] }
      else .ok { s with others := s.others ++ (arg :: more), rest := [] }

def readsAsInteger (text : String) : Bool :=
  let t := Text.trim text
  let body := if t.startsWith "-" || t.startsWith "+" then (t.drop 1).toString else t
  let parts := body.splitOn "_"
  !body.isEmpty && parts.all fun p => !p.isEmpty && p.all Char.isDigit

def settle (exists? : String → Bool) (c : Command) (given : List (Opt × Given)) :
    Except String (Option (List (String × Given))) := do
  let firstAt (o : Opt) : Nat :=
    (given.findIdx? (·.1.key == o.key)).getD given.length
  let key (o : Opt) : Nat × Nat := (if o.takes == .help then 0 else 1, firstAt o)
  let ordered := c.options.mergeSort fun a b =>
    decide ((key a).1 < (key b).1 ∨ ((key a).1 = (key b).1 ∧ (key a).2 ≤ (key b).2))
  let mut values : List (String × Given) := []
  for o in ordered do
    let mine : List Given := (given.filter (·.1.key == o.key)).map (·.2)
    match o.takes, mine.getLast? with
    | .help, some .help => return none
    | .path true, some (.value v) =>
      if !exists? v then
        throw ("Invalid value for " ++ o.hint ++ ": Path " ++ Text.literal v ++ " does not exist.")
    | .integer, some (.value v) =>
      if !readsAsInteger v then
        throw ("Invalid value for " ++ o.hint ++ ": " ++ Text.literal v ++ " is not a valid integer.")
    | _, _ => pure ()
    if o.required && mine.isEmpty then
      throw ("Missing option " ++ o.hint ++ ".")
    values := values ++ mine.map fun g => (o.key, g)
  return some values

def readCommand (exists? : String → Bool) (c : Command) (args : List String) : Reading :=
  let path := groupName ++ " " ++ c.name
  match scan c.options true (args.length + 1) { rest := args } with
  | .error e => .mistake { path, message := e.message, withUsage := e.withUsage }
  | .ok s =>
    match settle exists? c s.given with
    | .error e => .mistake { path, message := e }
    | .ok none => .help c.page
    | .ok (some values) =>
      match s.others with
      | [] => .command c values
      | [one] => .mistake { path, message := "Got unexpected extra argument (" ++ one ++ ")" }
      | many =>
        .mistake { path, message := "Got unexpected extra arguments (" ++ " ".intercalate many ++ ")" }

def read (exists? : String → Bool) (args : List String) : Reading :=
  if args.isEmpty then .bare groupPage
  else
    match scan [helpOpt] false (args.length + 1) { rest := args } with
    | .error e => .mistake { path := groupName, message := e.message, withUsage := e.withUsage }
    | .ok s =>
      if s.given.any (fun g => match g.2 with | .help => true | _ => false) then .help groupPage
      else match s.others with
        | [] => .mistake { path := groupName, message := "Missing command." }
        | name :: rest =>
          match commands.find? (·.name == name) with
          | some c => readCommand exists? c rest
          | none =>
            if name.startsWith "-" && name.length > 1 then
              match scan [helpOpt] false (rest.length + 2) { rest := name :: rest } with
              | .error e => .mistake { path := groupName, message := e.message,
                                       withUsage := e.withUsage }
              | .ok _ => .mistake { path := groupName, message := noSuchCommand name }
            else .mistake { path := groupName, message := noSuchCommand name }

end CatalogSync.Cli
