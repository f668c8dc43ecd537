import CatalogSync.Data.Value

/-!
# Checking a configuration document

A configuration document is a mapping with the sections `storage`, `sites`, `replications`
and `logging`. `validate` checks, in this order:

* every section is present, and `storage` has a `path`;
* every site has a set `name`, `type` and `url`, and its type is `sqlite` or `webhdfs`;
* every replication has a set name not used before, its `source` and `destination` name
  sites, two different ones, and its `failure_retry_count` (5 when missing) converts to an
  integer of at least 1.

The sections are looked at the way a loop over them would: a list gives its items, a
mapping its keys and a text its characters, and an unset section counts as empty. Names are
compared as values, so the site `1` and the site `1.0` are the same site.
-/

namespace CatalogSync.Config

def requiredSections : List String := ["storage", "sites", "replications", "logging"]

def siteKinds : List String := ["sqlite", "webhdfs"]

def siteKeys : List String := ["name", "type", "url"]

def occursIn (key : List Char) : List Char → Bool
  | [] => key.isEmpty
  | c :: cs => key.isPrefixOf (c :: cs) || occursIn key cs

def hasMember (container : Value) (key : String) : Except Failure Bool :=
  match container with
  | .obj fs => .ok (fs.any (·.1 == key))
  | .list xs => .ok (xs.any (Value.same (.str key)))
  | .str s => .ok (occursIn key.toList s.toList)
  | v => .error (.wrongKind ("argument of type '" ++ v.kindName ++ "' is not iterable"))

def sectionOf (doc : Value) (key : String) : Except Failure Value :=
  match doc with
  | .obj _ => .ok (doc.get key)
  | .list _ => .error (.wrongKind "list indices must be integers or slices, not str")
  | .str _ => .error (.wrongKind "string indices must be integers, not 'str'")
  | v => .error (.wrongKind ("'" ++ v.kindName ++ "' object is not subscriptable"))

def members (v : Value) : Except Failure (List Value) :=
  if !v.truthy then .ok []
  else match v with
    | .list xs => .ok xs
    | .obj fs => .ok (fs.map fun f => .str f.1)
    | .str s => .ok (s.toList.map fun c => .str (String.singleton c))
    | v => .error (.wrongKind ("'" ++ v.kindName ++ "' object is not iterable"))

def needHashable (v : Value) : Except Failure Unit :=
  match v.unhashable? with
  | none => .ok ()
  | some kind => .error (.wrongKind ("unhashable type: '" ++ kind ++ "'"))

def checkSite (names : List Value) (site : Value) : Except Failure (List Value) := do
  unless site.isObj do throw (site.lacks "get")
  for key in siteKeys do
    unless (site.get key).truthy do
      throw (.invalid ("Site definition is missing '" ++ key ++ "': " ++ site.display))
  let kind := site.get "type"
  unless siteKinds.any (fun k => Value.same (.str k) kind) do
    throw (.invalid ("Unknown type for site " ++ (site.get "name").display ++ ": " ++ kind.display))
  let name := site.get "name"
  needHashable name
  return names ++ [name]

def checkReplication (sites : List Value) (seen : List Value) (r : Value) :
    Except Failure (List Value) := do
  unless r.isObj do throw (r.lacks "get")
  let name := r.get "name"
  unless name.truthy do throw (.invalid "Every replication needs a name")
  needHashable name
  if seen.any (Value.same name) then
    throw (.invalid ("Duplicate replication name: " ++ name.display))
  for role in ["source", "destination"] do
    let v := r.get role
    needHashable v
    unless sites.any (Value.same v) do
      throw (.invalid ("Replication " ++ name.display ++ " refers to unknown " ++ role ++
        " site: " ++ v.display))
  if Value.same (r.get "source") (r.get "destination") then
    throw (.invalid ("Replication " ++ name.display ++ " uses the same site on both ends"))
  let retry ← Value.toInteger (r.getD "failure_retry_count" (.int 5))
  if retry < 1 then
    throw (.invalid ("Replication " ++ name.display ++ " needs a failure_retry_count of at least 1"))
  return seen ++ [name]

/-- Checks a configuration document. -/
def validate (doc : Value) : Except Failure Unit := do
  for part in requiredSections do
    unless ← hasMember doc part do
      throw (.invalid ("Missing required config section: " ++ part))
  unless ← hasMember (← sectionOf doc "storage") "path" do
    throw (.invalid "Missing required storage path")
  let names ← (← members (← sectionOf doc "sites")).foldlM checkSite []
  let _ ← (← members (← sectionOf doc "replications")).foldlM (checkReplication names) []
  return ()

end CatalogSync.Config
