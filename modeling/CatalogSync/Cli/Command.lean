import CatalogSync.Text.Literal

/-!
# The commands of the command line

The command line `cli` groups four commands, each with its options:

| command | options |
|---|---|
| `run` | `-c, --config PATH`; `-n, --name TEXT` (repeatable); `--progress` or `--no-progress` |
| `plan` | `-c, --config PATH`; `-n, --name TEXT` (required) |
| `report` | `-c, --config PATH`; `-o, --output PATH` |
| `serve` | `-c, --config PATH`; `--host TEXT`; `-p, --port INTEGER` |

Every command and the group itself also take `--help`. The help pages lay options and
commands out as two columns 78 characters wide: the first column is as wide as its widest
entry, up to 30 characters, and the second is wrapped at word boundaries.
-/

namespace CatalogSync.Cli

/-- What an option's value is. -/
inductive Takes where
  /-- Any text. -/
  | text
  /-- A path; one that must name an existing file when `mustExist`. -/
  | path (mustExist : Bool)
  /-- A whole number. -/
  | integer
  /-- No value: the option is a switch, turned off by its second name. -/
  | switch (off : String)
  /-- No value: the option asks for the help page. -/
  | help
  deriving DecidableEq

/-- An option of a command. -/
structure Opt where
  /-- The name the command knows the option's value by. -/
  key : String
  /-- The long name, with its dashes. -/
  long : String
  /-- The short name, with its dash. -/
  short : Option String := none
  takes : Takes
  help : String
  multiple : Bool := false
  required : Bool := false

/-- A command of the group. -/
structure Command where
  name : String
  help : String
  options : List Opt

def helpOpt : Opt :=
  { key := "help", long := "--help", takes := .help, help := "Show this message and exit." }

def configOpt : Opt :=
  { key := "config", long := "--config", short := some "-c", takes := .path true,
    help := "Path to configuration file" }

def runCommand : Command :=
  { name := "run", help := "Run replications once",
    options := [configOpt,
      { key := "name", long := "--name", short := some "-n", takes := .text, multiple := true,
        help := "Replication to run (repeatable, default: all active)" },
      { key := "progress", long := "--progress", takes := .switch "--no-progress",
        help := "Show a progress bar" },
      helpOpt] }

def planCommand : Command :=
  { name := "plan", help := "Show what the next run of a replication would request",
    options := [configOpt,
      { key := "name", long := "--name", short := some "-n", takes := .text, required := true,
        help := "Replication to inspect" },
      helpOpt] }

def reportCommand : Command :=
  { name := "report", help := "Generate run history report",
    options := [configOpt,
      { key := "output", long := "--output", short := some "-o", takes := .path false,
        help := "Output file path" },
      helpOpt] }

def serveCommand : Command :=
  { name := "serve", help := "Serve the replication status API",
    options := [configOpt,
      { key := "host", long := "--host", takes := .text, help := "Interface to bind" },
      { key := "port", long := "--port", short := some "-p", takes := .integer,
        help := "Port to listen on" },
      helpOpt] }

def groupName : String := "cli"

def groupHelp : String := "Metadata Replication System"

def commands : List Command := [planCommand, reportCommand, runCommand, serveCommand]

def Opt.names (o : Opt) : List String :=
  [o.long] ++ o.short.toList ++
    match o.takes with
    | .switch off => [off]
    | _ => []

def Opt.hint (o : Opt) : String :=
  " / ".intercalate ((([o.long] ++ o.short.toList).map Text.literal))

def Takes.metavar : Takes → Option String
  | .text => some "TEXT"
  | .path _ => some "PATH"
  | .integer => some "INTEGER"
  | _ => none

def Opt.label (o : Opt) : String :=
  let names := ", ".intercalate (o.short.toList ++ [o.long])
  match o.takes with
  | .switch off => names ++ " / " ++ off
  | t => match t.metavar with
    | some m => names ++ " " ++ m
    | none => names

def Opt.description (o : Opt) : String :=
  if o.required then o.help ++ "  [required]" else o.help

def pageWidth : Nat := 78

def runsOf (text : String) : List String :=
  let step (acc : List (List Char)) (c : Char) : List (List Char) :=
    match acc with
    | (d :: run) :: rest => if (c == ' ') == (d == ' ') then (c :: d :: run) :: rest
      else [c] :: (d :: run) :: rest
    | _ => [c] :: acc
  ((text.toList.foldl step []).map fun run => String.ofList run.reverse).reverse

def isBlankRun (run : String) : Bool := run.all (· == ' ')

def wrapText (width : Nat) (text : String) : List String :=
  go (text.length + 1) (runsOf text) []
where
  /-- Fills the lines after `done` from the runs left; `fuel` bounds the lines. -/
  go : Nat → List String → List String → List String
    | 0, _, done => done
    | _, [], done => done
    | fuel + 1, runs, done =>
      let runs := match runs with
        | r :: rest => if isBlankRun r && !done.isEmpty then rest else runs
        | [] => []
      let (line, rest) := take runs [] 0
      let line := match line with
        | r :: more => if isBlankRun r then more else line
        | [] => []
      let (line, rest) := match line, rest with
        | [], r :: more => ([r], more)
        | _, _ => (line, rest)
      let done := if line.isEmpty then done else done ++ [String.join line.reverse]
      go fuel rest done
  /-- Takes runs while they fit; the runs taken, last first, and the rest. -/
  take : List String → List String → Nat → List String × List String
    | [], taken, _ => (taken, [])
    | r :: rest, taken, used =>
      if used + r.length ≤ width then take rest (r :: taken) (used + r.length)
      else (taken, r :: rest)

def wordsOf (text : String) : List String :=
  (text.splitOn " ").filter (!·.isEmpty)

def definitionList (rows : List (String × String)) : List String :=
  let widest := rows.foldl (fun w r => max w r.1.length) 0
  let first := min widest 30 + 2
  let textWidth := max (pageWidth - first - 2) 10
  let pad (n : Nat) : String := String.ofList (List.replicate n ' ')
  rows.flatMap fun (term, text) =>
    match wrapText textWidth text with
    | [] => ["  " ++ term]
    | line :: more =>
      let head :=
        if term.length ≤ first - 2 then ["  " ++ term ++ pad (first - term.length) ++ line]
        else ["  " ++ term, pad (first + 2) ++ line]
      head ++ more.map (pad (first + 2) ++ ·)

def usageLine (path pieces : String) : String := "Usage: " ++ path ++ " " ++ pieces

def shortHelp (limit : Nat) (help : String) : String :=
  let words := wordsOf help
  let rec go : List String → Nat → List String → String
    | [], _, taken => " ".intercalate taken.reverse
    | w :: rest, total, taken =>
      let total := total + w.length + (if taken.isEmpty then 0 else 1)
      if total > limit then cut (w :: taken) (total + 3)
      else if w.endsWith "." then " ".intercalate (w :: taken).reverse
      else if total == limit && !rest.isEmpty then cut (w :: taken) (total + 3)
      else go rest total (w :: taken)
  go words 0 []
where
  /-- Drops words, last first, until the text and `...` fit. -/
  cut (taken : List String) (total : Nat) : String :=
    let rec drop : List String → Nat → List String
      | [], _ => []
      | [_], _ => []
      | w :: rest, total =>
        let total := total - (w.length + 1)
        if total ≤ limit then rest else drop rest total
    " ".intercalate (drop taken total).reverse ++ "..."

def Command.page (c : Command) : String :=
  let lines := [usageLine (groupName ++ " " ++ c.name) "[OPTIONS]", ""] ++
    (wrapText (pageWidth - 2) c.help).map ("  " ++ ·) ++
    ["", "Options:"] ++ definitionList (c.options.map fun o => (o.label, o.description))
  "\n".intercalate lines

def groupPage : String :=
  let widest := commands.foldl (fun w c => max w c.name.length) 0
  let limit := pageWidth - 6 - widest
  let lines := [usageLine groupName "[OPTIONS] COMMAND [ARGS]...", ""] ++
    (wrapText (pageWidth - 2) groupHelp).map ("  " ++ ·) ++
    ["", "Options:"] ++ definitionList [(helpOpt.label, helpOpt.description)] ++
    ["", "Commands:"] ++ definitionList (commands.map fun c => (c.name, shortHelp limit c.help))
  "\n".intercalate lines

end CatalogSync.Cli
