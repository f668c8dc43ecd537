import CatalogSync.Catalog.Node
import CatalogSync.Hdfs.Node
import CatalogSync.Store.History
import CatalogSync.Store.Items
import CatalogSync.Sync.Engine

/-!
# Sites and stores for runs

The operations a run needs, carried out by the sites and stores themselves:

* a catalog site answers from its database file;
* a WebHDFS site lists and reads its directory through its namenode and refuses every write,
  holding no record;
* the item store and the run history share one database file, and an item saved without a
  time is stamped with the clock.

Each works in any monad that can raise failures and reach the database files.
-/

namespace CatalogSync.Live

open Sync

section Operations

variable {m : Type → Type} [Monad m] [MonadExceptOf Failure m]

def catalog (disk : {α : Type} → Disk.DiskM α → m α) (n : Catalog.Node) (caller : Option Value) :
    Endpoint m where
  isAvailable := disk n.isAvailable
  query p _ := disk (n.query p)
  holds r := disk (n.«exists» r)
  createMetadata r := disk (n.createMetadata [r] caller)
  updateMetadata r := disk (n.updateMetadata [r] caller)
  deleteMetadata r := disk (n.deleteMetadata [r])
  createResource res := disk (n.createResource [res] caller)
  updateResource res := disk (n.updateResource [res] caller)
  readResource r := disk (n.readResource r)

def ledger (disk : {α : Type} → Disk.DiskM α → m α) (path : String) (now : m Stamp) :
    Ledger m where
  getItem c i s d := disk (Store.getItem path c i s d)
  failureList c k s d := disk (Store.failureList path c k s d)
  saveItem i := do disk (Store.saveItem path (← now) i)
  outcomes name := disk (Store.outcomes path name)
  addOutcome o := disk (Store.addOutcome path o)

end Operations

def hdfs {m : Type → Type} [Monad m] (send : Hdfs.Send m) (n : Hdfs.Node) :
    Endpoint (ExceptT Failure m) where
  isAvailable := (n.isAvailable send : m Bool)
  query p after := n.query send p after
  holds _ := pure false
  createMetadata _ := pure false
  updateMetadata _ := pure false
  deleteMetadata _ := pure false
  createResource _ := pure false
  updateResource _ := pure false
  readResource r := Hdfs.readResource send r

end CatalogSync.Live
