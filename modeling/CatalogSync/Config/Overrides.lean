import CatalogSync.Data.Value
import CatalogSync.Text.Case

/-!
# Settings from the environment

Three environment variables override a configuration document:

* `REPLICATOR_DB_PATH` sets `storage.path`;
* `LOG_LEVEL` sets `logging.root.level`, in capitals;
* `REPLICATOR_WEB_PORT` sets `web.port` to the integer it spells.

A section that is missing is added. An override that cannot be applied, because the
document or one of its sections is not a mapping, or because the port is not an integer,
is skipped and leaves the document as it was.
-/

namespace CatalogSync.Config

/-- The environment variables that override settings, when they are set. -/
structure Overrides where
  /-- The store path, `REPLICATOR_DB_PATH`. -/
  storePath : Option String := none
  /-- The root log level, `LOG_LEVEL`. -/
  logLevel : Option String := none
  /-- The web port, `REPLICATOR_WEB_PORT`. -/
  webPort : Option String := none

def setIn (doc : Value) (part key : String) (v : Value) : Value :=
  match doc with
  | .obj fs =>
    match doc.lookup part with
    | none => .obj (fs ++ [(part, .obj [(key, v)])])
    | some (.obj gs) => .obj (Value.setField fs part (.obj (Value.setField gs key v)))
    | some _ => doc
  | _ => doc

def setLogLevel (doc : Value) (level : String) : Value :=
  match doc with
  | .obj fs =>
    match doc.lookup "logging" with
    | none => .obj (fs ++ [("logging", .obj [("root", .obj [("level", .str level)])])])
    | some (.obj gs) => .obj (Value.setField fs "logging" (setIn (.obj gs) "root" "level" (.str level)))
    | some _ => doc
  | _ => doc

def Overrides.apply (o : Overrides) (doc : Value) : Value :=
  let doc := match o.storePath with
    | some p => setIn doc "storage" "path" (.str p)
    | none => doc
  let doc := match o.logLevel with
    | some l => setLogLevel doc (Text.upper l)
    | none => doc
  match o.webPort with
  | some p =>
    match Number.readWhole 10 p with
    | some n => setIn doc "web" "port" (.int n)
    | none => doc
  | none => doc

end CatalogSync.Config
