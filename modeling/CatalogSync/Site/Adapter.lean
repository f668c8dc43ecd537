import CatalogSync.Data.Value
import CatalogSync.Disk.Path
import CatalogSync.Net.Url
import CatalogSync.Number.Binary64

/-!
# Adapters for sites

A site of the configuration names its kind, a URL and a name. `Site.adapter` reads what an
adapter for it is built from:

* a `sqlite` site is a catalog in the file its URL names, after an optional `sqlite://`;
* a `webhdfs` site is a node reached at `http://host:port/path/`, or `https://` when the
  port is 443. The port is the URL's, or the scheme's usual one when the URL gives none or
  port 0. The connect and read timeouts are given in milliseconds and kept in seconds.

A site of another kind, a URL without a host, a bad port or timeout, and a catalog file that
cannot be opened all fail.
-/

namespace CatalogSync

/-- What an adapter is built from. -/
inductive AdapterSpec where
  /-- A catalog in a database file, and the name it reports. -/
  | catalog (path : String) (name : Value)
  /-- A WebHDFS node at a base URL ending in `/`, with its connect and read timeouts in
  seconds. -/
  | hdfs (baseUrl : String) (connectSeconds readSeconds : Float)
  deriving Inhabited

namespace Site

def httpsPort : Nat := 443

def field (site : Value) (key : String) : Except Failure Value :=
  match site.lookup key with
  | some v => .ok v
  | none => .error (.missingKey (Text.literal key))

def seconds (millis : Int) : Except Failure Float :=
  let x := Binary64.ofRatio (millis < 0) millis.natAbs 1000
  match Binary64.decode x with
  | .infinite _ => .error (.overflow "integer division result too large for a float")
  | _ => .ok x

def urlText (url : Value) : Except Failure String :=
  match url, url.unhashable? with
  | .str s, _ => .ok s
  | _, some kind => .error (.wrongKind ("unhashable type: '" ++ kind ++ "'"))
  | v, none => if v.truthy then .error (v.lacks "decode") else .ok ""

def nodeUrl (url : Value) : Except Failure String := do
  let parts ← Url.split (← urlText url)
  let some host := parts.hostname
    | throw (.node .operation ("Failed to create adapter, invalid url: " ++ url.display) none)
  let port := match ← parts.port with
    | some p => if p ≠ 0 then p else if parts.scheme == "https" then httpsPort else 80
    | none => if parts.scheme == "https" then httpsPort else 80
  let protocol := if port = httpsPort then "https://" else "http://"
  let base := protocol ++ host ++ ":" ++ toString port ++ parts.path
  return if base.endsWith "/" then base else base ++ "/"

/-- What an adapter for a site is built from. -/
def adapter (site : Value) : Except Failure AdapterSpec := do
  unless site.isObj do throw (site.lacks "get")
  let kind := site.get "type"
  if Value.same kind (.str "sqlite") then
    let url ← field site "url"
    let name ← field site "name"
    let .str text := url | throw (url.lacks "startswith")
    let path := if text.startsWith "sqlite://" then text.drop 9 |>.toString else text
    unless Disk.opens path do throw (.database .operational "unable to open database file")
    return .catalog path name
  else if Value.same kind (.str "webhdfs") then
    let connect ← Value.toInteger (site.getD "connection_timeout" (.int 30000))
    let receive ← Value.toInteger (site.getD "receive_timeout" (.int 60000))
    let url ← field site "url"
    let _ ← field site "name"
    let base ← nodeUrl url
    let readSeconds ← seconds receive
    let connectSeconds ← seconds connect
    return .hdfs base connectSeconds readSeconds
  else
    throw (.invalid ("Unknown site type for " ++ (site.get "name").display ++ ": " ++ kind.display))

end Site

end CatalogSync
