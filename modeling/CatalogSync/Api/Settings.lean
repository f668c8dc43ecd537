import CatalogSync.Api.Codec
import CatalogSync.Config.Overrides
import CatalogSync.Config.Check
import CatalogSync.Config.Defaults

/-!
# Configuration requests

A `config` request checks a configuration document, its own or the default one, after the
environment it names has overridden its settings, and answers the document as it then is.
-/

namespace CatalogSync.Api

def envText (env : Value) (name : String) : Option String :=
  match env.lookup name with
  | some (.str s) => some s
  | _ => none

def overridesOf (env : Value) : Config.Overrides :=
  { storePath := envText env "REPLICATOR_DB_PATH",
    logLevel := envText env "LOG_LEVEL",
    webPort := envText env "REPLICATOR_WEB_PORT" }

def configAnswer (req : Value) : Value :=
  let doc := if (req.get "default").truthy then Config.defaults else req.get "config"
  let doc := (overridesOf (req.get "env")).apply doc
  match Config.validate doc with
  | .ok () => obj [("config", doc)]
  | .error f => f.answer

end CatalogSync.Api
