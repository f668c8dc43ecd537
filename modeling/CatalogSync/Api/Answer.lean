import CatalogSync.Api.Basics
import CatalogSync.Api.Catalog
import CatalogSync.Api.Hdfs
import CatalogSync.Api.Report
import CatalogSync.Api.Scenario
import CatalogSync.Api.Cli
import CatalogSync.Api.Settings
import CatalogSync.Api.Sites
import CatalogSync.Json.Reader
import CatalogSync.Json.Writer

/-!
# Answering requests

`answer` dispatches a request on its `op` field; `answerLine` reads one request from a line
of JSON text and writes its answer as one line.
-/

namespace CatalogSync.Api

/-- The answer to one request. -/
def answer (req : Value) : Value :=
  match req.get "op" with
  | .str "filter" => filterAnswer req
  | .str "item" => itemAnswer req
  | .str "classify" => classifyAnswer req
  | .str "status" => statusAnswer req
  | .str "replication_config" => replicationConfigAnswer req
  | .str "wrap_exception" => wrapFailure req
  | .str "config" => configAnswer req
  | .str "factory" => factoryAnswer req
  | .str "catalog" => catalogAnswer req
  | .str "webhdfs" => hdfsAnswer req
  | .str "report" => reportAnswer req
  | .str "scenario" => scenarioAnswer req
  | .str "cli" => cliAnswer req
  | _ => malformed "unknown op"

/-- The answer to a request given as a line of JSON text. -/
def answerLine (line : String) : String :=
  match Json.read line with
  | .ok req => Json.write .controls (answer req)
  | .error f => Json.write .controls (malformed f.message)

end CatalogSync.Api
