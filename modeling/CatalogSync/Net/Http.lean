import CatalogSync.Net.Url
import CatalogSync.Json.Reader
import CatalogSync.Text.Case
import CatalogSync.Text.Decode

/-!
# HTTP exchanges

A `Request` is a `GET` of a URL with query parameters; a `Response` has a status, headers
and a body of bytes. `Request.target` is what the server sees of a request: the host in
small letters, the port unless it is the scheme's default, the path with its escapes
decoded, and the query parameters of the URL with the request's own laid over them.

A client that follows redirects asks again for the `location` of a `301`, `302`, `303`,
`307` or `308` response, a path being taken on the same server.
-/

namespace CatalogSync.Http

/-- A request: a URL and query parameters. -/
structure Request where
  method : String := "GET"
  url : String
  params : List (String × String) := []
  deriving Inhabited

/-- A response: status, headers and body. -/
structure Response where
  status : Nat
  headers : List (String × String) := []
  body : List UInt8 := []
  deriving Inhabited

/-- What the server sees of a request. -/
structure Target where
  method : String
  host : String
  port : Option Nat
  path : String
  params : List (String × String)
  deriving Inhabited

def Response.header? (r : Response) (name : String) : Option String :=
  (r.headers.find? (fun h => Text.lower h.1 == Text.lower name)).map (·.2)

def hexValue (c : Char) : Option Nat :=
  if '0' ≤ c ∧ c ≤ '9' then some (c.toNat - 48)
  else if 'a' ≤ c ∧ c ≤ 'f' then some (c.toNat - 87)
  else if 'A' ≤ c ∧ c ≤ 'F' then some (c.toNat - 55)
  else none

def unescapeBytes (plus : Bool) : List Char → List UInt8
  | '%' :: a :: b :: rest =>
    match hexValue a, hexValue b with
    | some x, some y => UInt8.ofNat (16 * x + y) :: unescapeBytes plus rest
    | _, _ => '%'.toString.toUTF8.toList ++ unescapeBytes plus (a :: b :: rest)
  | c :: rest =>
    (if plus && c = '+' then [32] else c.toString.toUTF8.toList) ++ unescapeBytes plus rest
  | [] => []

def unescape (plus : Bool) (s : String) : String :=
  match String.fromUTF8? (ByteArray.mk (unescapeBytes plus s.toList).toArray) with
  | some t => t
  | none => s

def parseQuery (q : String) : List (String × String) :=
  ((q.toList.splitOn '&').filter (!·.isEmpty)).map fun piece =>
    let (k, _, v) := Url.partitionAt '=' piece
    (unescape true (String.ofList k), unescape true (String.ofList v))

def mergeParams (base extra : List (String × String)) : List (String × String) :=
  base.filter (fun p => !extra.any (·.1 == p.1)) ++ extra

def defaultPort : String → Option Nat
  | "http" => some 80
  | "https" => some 443
  | "ws" => some 80
  | "wss" => some 443
  | "ftp" => some 21
  | _ => none

/-- What the server sees of a request. -/
def Request.target (r : Request) : Target :=
  match Url.split r.url with
  | .error _ => { method := r.method, host := "", port := none, path := r.url, params := r.params }
  | .ok u =>
    let port := match u.port with
      | .ok (some p) => if defaultPort u.scheme == some p then none else some p
      | _ => none
    { method := r.method, host := (u.hostname.getD ""), port,
      path := unescape false (if u.path.isEmpty then "/" else Url.normalizePath u.path),
      params := mergeParams (parseQuery u.query) r.params }

def isRedirect (status : Nat) : Bool := [301, 302, 303, 307, 308].contains status

def formEscape (s : String) : String :=
  String.join (s.toUTF8.toList.map fun b =>
    let c := Char.ofNat b.toNat
    if c.isAlphanum || c == '_' || c == '.' || c == '-' || c == '~' then c.toString
    else if c == ' ' then "+"
    else "%" ++ String.ofList ((Nat.toDigits 16 (b.toNat / 16) ++ Nat.toDigits 16 (b.toNat % 16)).map Char.toUpper))

def Request.fullUrl (r : Request) : String :=
  if r.params.isEmpty then r.url
  else
    match Url.split r.url with
    | .ok u =>
      let query := "&".intercalate ((mergeParams (parseQuery u.query) r.params).map fun (k, v) =>
        formEscape k ++ "=" ++ formEscape v)
      { u with query }.unsplit
    | .error _ => r.url

def redirectUrl (r : Request) (location : String) : String :=
  match Url.split location with
  | .ok u => if u.scheme.isEmpty then Url.join r.fullUrl location else location
  | .error _ => location

def jsonOf (body : List UInt8) : Except Failure Value :=
  match Text.decodeJsonBytes body with
  | .ok s => Json.read s
  | .error e => .error e.failure

def isTransport : Failure → Bool
  | .transport .tooManyRedirects _ => false
  | .transport .. => true
  | _ => false

end CatalogSync.Http
