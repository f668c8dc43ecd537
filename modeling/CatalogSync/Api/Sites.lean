import CatalogSync.Api.Codec
import CatalogSync.Site.Adapter

/-!
# Site requests

A `factory` request reads what an adapter for a site is built from.
-/

namespace CatalogSync.Api

def adapterValue : AdapterSpec → Value
  | .catalog path name =>
    obj [("kind", .str "sqlite"), ("path", .str path), ("system_name", name)]
  | .hdfs url connect read =>
    obj [("kind", .str "webhdfs"), ("url", .str url), ("connect", .float connect),
      ("read", .float read), ("system_name", .str "webHDFS")]

def factoryAnswer (req : Value) : Value :=
  match Site.adapter (req.get "site") with
  | .ok spec => adapterValue spec
  | .error f => f.bareAnswer

end CatalogSync.Api
