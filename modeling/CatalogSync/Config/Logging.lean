import CatalogSync.Data.Value

/-!
# Checking the logging section

`checkLogging` decides whether setting up logging from the `logging` section of a
configuration succeeds, the way the standard dictionary configuration sets it up:

1. the section is a mapping whose `version` is 1;
2. with `incremental` set, only levels change: a named handler would have to exist already,
   and the levels of the loggers and of the root must be valid;
3. otherwise the formatters, the filters, the handlers (in the order of their names), the
   loggers and the root are set up in turn.

Each part is a mapping from names to settings. A part that cannot be looped over fails with
a type error of its own; every failure while setting up one entry is reported as a value
error naming the entry.

## Main definitions

* `levelValid` — a level is a number or a known level name.
* `Factory` — the classes a setting may name, with the arguments each takes.
* `checkFormatter`, `checkFilter`, `checkHandler`, `checkLogger` — one entry of each part.
-/

namespace CatalogSync.Config

/-! ## Levels, names and arguments -/

def logLevels : List String :=
  ["CRITICAL", "FATAL", "ERROR", "WARN", "WARNING", "INFO", "DEBUG", "NOTSET"]

/-- Whether a value is a valid level: a whole number, a boolean, or a level name. -/
def levelValid : Value → Bool
  | .int _ | .bool _ => true
  | .str s => logLevels.contains s
  | _ => false

def isIdentifier (s : String) : Bool :=
  match s.toList with
  | c :: rest => (c.isAlpha || c == '_' || c.toNat ≥ 0x80) &&
      rest.all fun d => d.isAlphanum || d == '_' || d.toNat ≥ 0x80
  | [] => false

/-- The classes settings may name. -/
inductive Factory where
  | formatter
  | filter
  | handler
  | nullHandler
  | streamHandler
  | fileHandler
  | rotatingFileHandler
  | timedRotatingFileHandler
  | watchedFileHandler
  | memoryHandler
  | stream
  deriving DecidableEq

def resolve (name : String) : Option Factory :=
  match name with
  | "logging.Formatter" => some .formatter
  | "logging.Filter" => some .filter
  | "logging.Handler" => some .handler
  | "logging.NullHandler" => some .nullHandler
  | "logging.StreamHandler" => some .streamHandler
  | "logging.FileHandler" => some .fileHandler
  | "logging.handlers.RotatingFileHandler" => some .rotatingFileHandler
  | "logging.handlers.TimedRotatingFileHandler" => some .timedRotatingFileHandler
  | "logging.handlers.WatchedFileHandler" => some .watchedFileHandler
  | "logging.handlers.MemoryHandler" => some .memoryHandler
  | "sys.stdout" | "sys.stderr" => some .stream
  | _ => none

def Factory.arguments : Factory → List String × List String
  | .formatter => (["fmt", "datefmt", "style", "validate", "defaults"], [])
  | .filter => (["name"], [])
  | .handler | .nullHandler => (["level"], [])
  | .streamHandler => (["stream"], [])
  | .fileHandler | .watchedFileHandler =>
    (["filename", "mode", "encoding", "delay", "errors"], ["filename"])
  | .rotatingFileHandler =>
    (["filename", "mode", "maxBytes", "backupCount", "encoding", "delay", "errors"], ["filename"])
  | .timedRotatingFileHandler =>
    (["filename", "when", "interval", "backupCount", "encoding", "delay", "utc", "atTime",
      "errors"], ["filename"])
  | .memoryHandler => (["capacity", "flushLevel", "target", "flushOnClose"], ["capacity"])
  | .stream => ([], [])

def Factory.isHandler (f : Factory) : Bool :=
  !([Factory.formatter, .filter, .stream].contains f)

def entryFailure (part : String) (name : String) : Failure :=
  .invalid ("Unable to configure " ++ part ++ " " ++ Text.literal name)

def converted (v : Value) : Option Value :=
  match v with
  | .str s => if s.startsWith "ext://" then (resolve (s.drop 6).toString).map fun _ => v else some v
  | _ => some v

def accepts (f : Factory) (given : List (String × Value)) : Bool :=
  let (takes, needs) := f.arguments
  given.all (fun (k, v) =>
      k == "." || (isIdentifier k && takes.contains k && (converted v).isSome)) &&
    needs.all fun n => given.any (·.1 == n)

/-! ## Formats -/

def hasPercentField : List Char → Bool
  | '%' :: '(' :: rest =>
    let name := rest.takeWhile fun c => c.isAlphanum || c == '_'
    match rest.drop name.length with
    | ')' :: more =>
      let flags := more.dropWhile fun c => "#0+ -".toList.contains c
      let width := if flags.head? == some '*' then flags.drop 1 else flags.dropWhile Char.isDigit
      let precision := match width with
        | '.' :: p => if p.head? == some '*' then p.drop 1 else p.dropWhile Char.isDigit
        | _ => width
      (!name.isEmpty && (match precision with
        | c :: _ => "diouxefgcrsa%".toList.contains c.toLower
        | [] => false)) || hasPercentField rest
    | _ => hasPercentField rest
  | _ :: rest => hasPercentField rest
  | [] => false

def hasDollarField (cs : List Char) : Bool :=
  let rec fields : Nat → List Char → Option Bool
    | 0, _ => none
    | _ + 1, [] => some false
    | fuel + 1, '$' :: '$' :: rest => fields fuel rest
    | fuel + 1, '$' :: '\x7b' :: rest =>
      let name := rest.takeWhile fun c => c.isAlphanum || c == '_'
      match rest.drop name.length with
      | '\x7d' :: more => if name.isEmpty then none else (fields fuel more).map fun _ => true
      | _ => none
    | fuel + 1, '$' :: c :: rest =>
      if c.isAlpha || c == '_' then (fields fuel rest).map fun _ => true else none
    | _ + 1, ['$'] => none
    | fuel + 1, _ :: rest => fields fuel rest
  (fields (cs.length + 1) cs).getD false

def hasBraceField (cs : List Char) : Bool :=
  let rec fields : Nat → List Char → Option Bool
    | 0, _ => none
    | _ + 1, [] => some false
    | fuel + 1, '\x7b' :: '\x7b' :: rest => fields fuel rest
    | fuel + 1, '\x7d' :: '\x7d' :: rest => fields fuel rest
    | fuel + 1, '\x7b' :: rest =>
      let inside := rest.takeWhile (· != '\x7d')
      match rest.drop inside.length with
      | '\x7d' :: more =>
        let name := inside.takeWhile fun c => c != '!' && c != ':'
        if name.isEmpty || !(name.head?.map (fun c => c.isAlpha || c == '_')).getD false then none
        else (fields fuel more).map fun _ => true
      | _ => none
    | _ + 1, '\x7d' :: _ => none
    | fuel + 1, _ :: rest => fields fuel rest
  (fields (cs.length + 1) cs).getD false

def formatValid (format style : Value) : Bool :=
  match style with
  | .str "%" =>
    match format with
    | .str s => s.isEmpty || hasPercentField s.toList
    | v => !v.truthy
  | .str "\x7b" =>
    match format with
    | .str s => s.isEmpty || hasBraceField s.toList
    | v => !v.truthy
  | .str "$" =>
    match format with
    | .str s => s.isEmpty || hasDollarField s.toList
    | v => !v.truthy
  | _ => false

/-! ## Entries -/

def without (keys : List String) (fs : List (String × Value)) : List (String × Value) :=
  fs.filter fun f => !keys.contains f.1

/-- Whether a formatter's settings set one up. -/
def checkFormatter (settings : Value) : Bool :=
  match settings with
  | .obj fs =>
    match settings.lookup "()" with
    | some (.str factory) =>
      resolve factory == some .formatter &&
        let given := (without ["()"] fs).map fun (k, v) => (if k == "format" then "fmt" else k, v)
        accepts .formatter given &&
          (!(given.lookup "validate" |>.getD (.bool true)).truthy ||
            formatValid (given.lookup "fmt" |>.getD .null)
              (given.lookup "style" |>.getD (.str "%")))
    | some _ => false
    | none =>
      let classOk := match settings.get "class" with
        | .str c => c.isEmpty || resolve c == some .formatter
        | v => !v.truthy
      classOk &&
        (!(settings.getD "validate" (.bool true)).truthy ||
          formatValid (settings.get "format") (settings.getD "style" (.str "%")))
  | _ => false

/-- Whether a filter's settings set one up. -/
def checkFilter (settings : Value) : Bool :=
  match settings with
  | .obj fs =>
    match settings.lookup "()" with
    | some (.str factory) => resolve factory == some .filter && accepts .filter (without ["()"] fs)
    | some _ => false
    | none => true
  | _ => false

def keyOf (part : Value) (name : Value) : Bool :=
  match part, name with
  | .obj fs, .str n => fs.any (·.1 == n)
  | _, _ => false

def loopMembers (v : Value) : Except Failure (List Value) :=
  match v with
  | .list xs => .ok xs
  | .obj fs => .ok (fs.map fun f => .str f.1)
  | .str s => .ok (s.toList.map fun c => .str (String.singleton c))
  | v => .error (.wrongKind ("'" ++ v.kindName ++ "' object is not iterable"))

def allDefined (part : Value) (names : Value) : Bool :=
  if !names.truthy then true
  else match loopMembers names with
    | .ok ns => ns.all (keyOf part)
    | .error _ => false

/-- Whether a handler's settings set one up, given the logging section `conf`. -/
def checkHandler (conf : Value) (settings : Value) : Bool :=
  match settings with
  | .obj fs =>
    let formatterOk :=
      let f := settings.get "formatter"
      !f.truthy || keyOf (conf.get "formatters") f
    let levelOk := match settings.get "level" with
      | .null => true
      | l => levelValid l
    let filtersOk := allDefined (conf.get "filters") (settings.get "filters")
    let rest := without ["formatter", "level", "filters", "()", "class"] fs
    let factory := match settings.lookup "()", settings.lookup "class" with
      | some (.str f), _ => resolve f
      | some _, _ => none
      | none, some (.str c) => resolve c
      | none, _ => none
    let made := match factory with
      | some f => f.isHandler && accepts f rest
      | none => false
    formatterOk && made && levelOk && filtersOk
  | _ => false

/-- Whether a logger's settings set one up, given the logging section `conf`; incremental set-up
only changes the level. -/
def checkLogger (conf : Value) (incremental : Bool) (settings : Value) : Bool :=
  match settings with
  | .obj _ =>
    let levelOk := match settings.get "level" with
      | .null => true
      | l => levelValid l
    levelOk && (incremental ||
      (allDefined (conf.get "handlers") (settings.get "handlers") &&
        allDefined (conf.get "filters") (settings.get "filters")))
  | _ => false

def checkPart (conf : Value) (key part : String) (sorted : Bool) (check : Value → Bool) :
    Except Failure Unit := do
  let container := conf.getD key (.obj [])
  let names ← loopMembers container
  let names := if sorted then
      names.mergeSort fun a b => match a, b with
        | .str x, .str y => decide (x ≤ y)
        | _, _ => true
    else names
  for n in names do
    let entry := match container, n with
      | .obj _, .str k => some (container.get k)
      | _, _ => none
    match entry with
    | some e => unless check e do throw (entryFailure part n.display)
    | none => throw (entryFailure part n.display)

/-! ## The section -/

/-- Checks the logging section of a configuration the way setting up logging from it
would. -/
def checkLogging (v : Value) : Except Failure Unit := do
  match v with
  | .obj _ => pure ()
  | .null | .bool _ | .int _ | .float _ => throw (.wrongKind "logging settings are not a mapping")
  | _ => throw (.invalid "logging settings are not a mapping")
  match v.lookup "version" with
  | none => throw (.invalid "dictionary doesn't specify a version")
  | some ver =>
    unless Value.same ver (.int 1) do
      throw (.invalid ("Unsupported version: " ++ ver.display))
  let incremental := (v.get "incremental").truthy
  if incremental then
    let handlers ← loopMembers (v.getD "handlers" (.obj []))
    match handlers.head? with
    | some h => throw (.invalid ("No handler found with name " ++ h.literal))
    | none => pure ()
    checkPart v "loggers" "logger" false (checkLogger v true)
  else
    checkPart v "formatters" "formatter" false checkFormatter
    checkPart v "filters" "filter" false checkFilter
    checkPart v "handlers" "handler" true (checkHandler v)
    checkPart v "loggers" "logger" false (checkLogger v false)
  let root := v.get "root"
  if root.truthy && !checkLogger v incremental root then
    throw (.invalid "Unable to configure root logger")

end CatalogSync.Config
