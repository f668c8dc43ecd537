import CatalogSync.Data.Value

/-!
# The default configuration

The configuration a replicator starts from when it is given none of its own: a store file,
two SQLite catalogs and a WebHDFS node, one replication from the local catalog to the remote
one and a suspended, metadata-only one from the node to the local catalog, the web service
on the loopback address, and logging to the console and a rotating file.
-/

namespace CatalogSync.Config

def defaults : Value :=
  .obj [
    ("storage", .obj [("path", .str "replication.db")]),
    ("sites", .list [
      .obj [("name", .str "local"), ("type", .str "sqlite"), ("url", .str "catalog.db")],
      .obj [("name", .str "remote"), ("type", .str "sqlite"), ("url", .str "remote_catalog.db")],
      .obj [("name", .str "hadoop"), ("type", .str "webhdfs"),
            ("url", .str "http://localhost:9870/webhdfs/v1/data/"),
            ("connection_timeout", .int 30000), ("receive_timeout", .int 60000)]]),
    ("replications", .list [
      .obj [("id", .str "1"), ("name", .str "local-to-remote"), ("source", .str "local"),
            ("destination", .str "remote"), ("filter", .str ""),
            ("failure_retry_count", .int 5), ("metadata_only", .bool false)],
      .obj [("id", .str "2"), ("name", .str "hadoop-ingest"), ("source", .str "hadoop"),
            ("destination", .str "local"), ("failure_retry_count", .int 3),
            ("metadata_only", .bool true), ("suspended", .bool true)]]),
    ("web", .obj [("host", .str "127.0.0.1"), ("port", .int 8080)]),
    ("logging", .obj [
      ("version", .int 1),
      ("disable_existing_loggers", .bool false),
      ("formatters", .obj [
        ("standard", .obj [("format", .str "%(asctime)s - %(name)s - %(levelname)s - %(message)s")]),
        ("console", .obj [("format", .str "%(message)s")])]),
      ("handlers", .obj [
        ("console", .obj [("class", .str "logging.StreamHandler"), ("level", .str "INFO"),
          ("formatter", .str "console"), ("stream", .str "ext://sys.stderr")]),
        ("file", .obj [("class", .str "logging.handlers.RotatingFileHandler"),
          ("level", .str "DEBUG"), ("formatter", .str "standard"),
          ("filename", .str "replicator.log"), ("maxBytes", .int 10485760),
          ("backupCount", .int 3)])]),
      ("root", .obj [("level", .str "INFO"),
        ("handlers", .list [.str "console", .str "file"])])])]

end CatalogSync.Config
