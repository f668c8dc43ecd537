import CatalogSync.Failure
import CatalogSync.Text.Case
import CatalogSync.Text.Literal

/-!
# Splitting URLs

`Url.split` cuts a URL into scheme, network location, path, query and fragment, the way
the generic URL syntax reads them without knowing the scheme:

* leading control characters and spaces are dropped, and tabs and line breaks removed;
* the scheme is what comes before the first colon, when it starts with a letter and has
  only letters, digits, `+`, `-` and `.`; it is kept in small letters;
* the network location follows `//` and runs to the first `/`, `?` or `#`;
* the fragment follows the first `#`, the query the first `?` before it.

A network location with one square bracket but not the other fails, and a bracketed host
must be an IPv6 address or an `IPvFuture` literal. A location whose characters turn into
delimiters under compatibility normalisation (a full-width solidus, say) fails too.

`UrlParts.hostname` and `UrlParts.port` read the host and the port from the network
location: the host in small letters, without brackets and user information, and the port
as a number from 0 to 65535.
-/

namespace CatalogSync.Url

/-- The parts of a URL. -/
structure UrlParts where
  scheme : String
  netloc : String
  path : String
  query : String
  fragment : String
  deriving Repr, DecidableEq

def partitionAt (c : Char) : List Char → List Char × Bool × List Char
  | [] => ([], false, [])
  | x :: xs =>
    if x = c then ([], true, xs)
    else
      let (a, found, b) := partitionAt c xs
      (x :: a, found, b)

def partitionAtLast (c : Char) (cs : List Char) : List Char × Bool × List Char :=
  let (b, found, a) := partitionAt c cs.reverse
  if found then (a.reverse, true, b.reverse) else ([], false, cs)

def splitOn (c : Char) (cs : List Char) : List (List Char) :=
  cs.splitOn c

def isSchemeChar (c : Char) : Bool := c.isAlphanum || c = '+' || c = '-' || c = '.'

def isAsciiLetter (c : Char) : Bool := c.isAlpha

def isHexDigit (c : Char) : Bool :=
  c.isDigit || ('a' ≤ c && c ≤ 'f') || ('A' ≤ c && c ≤ 'F')

def delimiterLookalikes : List Nat :=
  [0x2047, 0x2048, 0x2049, 0x2100, 0x2101, 0x2105, 0x2106, 0x2A74, 0xFE13, 0xFE16, 0xFE55,
   0xFE56, 0xFE5F, 0xFE6B, 0xFF03, 0xFF0F, 0xFF1A, 0xFF1F, 0xFF20]

def isIpv4 (cs : List Char) : Bool :=
  let octets := splitOn '.' cs
  octets.length = 4 && octets.all fun o =>
    !o.isEmpty && o.all Char.isDigit && o.length ≤ 3 && (o = ['0'] || o.head? ≠ some '0') &&
      o.foldl (fun n d => n * 10 + (d.toNat - '0'.toNat)) 0 ≤ 255

def isHextet (cs : List Char) : Bool := !cs.isEmpty && cs.all isHexDigit && cs.length ≤ 4

def isIpv6 (cs : List Char) : Bool :=
  let (addr, hasZone, zone) := partitionAt '%' cs
  if hasZone && (zone.isEmpty || zone.contains '%') then false
  else if addr.isEmpty then false
  else
    let parts := splitOn ':' addr
    if parts.length < 3 then false
    else
      let last := parts.getLastD []
      let parts? : Option (List (List Char)) :=
        if last.contains '.' then
          if isIpv4 last then some (parts.dropLast ++ [['0'], ['0']]) else none
        else some parts
      match parts? with
      | none => false
      | some parts =>
        if parts.length > 9 then false
        else
          let n := parts.length
          let inner := (List.range n).filter fun i => 0 < i && i + 1 < n && (parts.getD i []).isEmpty
          match inner with
          | [] =>
            n = 8 && parts.all isHextet
          | [k] =>
            let hi := if (parts.getD 0 []).isEmpty then k - 1 else k
            let lo := if (parts.getLastD []).isEmpty then n - k - 2 else n - k - 1
            if (parts.getD 0 []).isEmpty && k - 1 ≠ 0 then false
            else if (parts.getLastD []).isEmpty && n - k - 2 ≠ 0 then false
            else if hi + lo ≥ 8 then false
            else ((parts.take k).drop (k - hi)).all isHextet && ((parts.drop (k + 1)).take lo).all isHextet
          | _ => false

def checkBracketedHost (host : List Char) : Except Failure Unit :=
  match host with
  | 'v' :: rest =>
    let hex := rest.takeWhile isHexDigit
    match rest.drop hex.length with
    | '.' :: _ :: _ => if hex.isEmpty then .error (.invalid "IPvFuture address is invalid") else .ok ()
    | _ => .error (.invalid "IPvFuture address is invalid")
  | _ =>
    if isIpv4 host then .error (.invalid "An IPv4 address cannot be in brackets")
    else if isIpv6 host then .ok ()
    else .error (.invalid (Text.literal (String.ofList host) ++
      " does not appear to be an IPv4 or IPv6 address"))

def checkNetloc (netloc : List Char) : Except Failure Unit :=
  let n := netloc.filter fun c => !(c = '@' || c = ':' || c = '#' || c = '?')
  if n.any fun c => delimiterLookalikes.contains c.toNat then
    .error (.invalid ("netloc '" ++ String.ofList netloc ++
      "' contains invalid characters under NFKC normalization"))
  else .ok ()

/-- Splits a URL into its parts. -/
def split (url : String) : Except Failure UrlParts := do
  let cs := url.toList.dropWhile (fun c => c.toNat ≤ 0x20)
  let cs := cs.filter fun c => !(c = '\t' || c = '\r' || c = '\n')
  let (scheme, rest) :=
    match partitionAt ':' cs with
    | (head, true, tail) =>
      match head with
      | c :: _ =>
        if isAsciiLetter c && head.all isSchemeChar then
          ((head.map Char.toLower), tail)
        else ([], cs)
      | [] => ([], cs)
    | _ => ([], cs)
  let (netloc, rest) :=
    match rest with
    | '/' :: '/' :: more =>
      let loc := more.takeWhile fun c => !(c = '/' || c = '?' || c = '#')
      (loc, more.drop loc.length)
    | _ => ([], rest)
  let opens := netloc.contains '['
  let closes := netloc.contains ']'
  if opens != closes then throw (.invalid "Invalid IPv6 URL")
  if opens && closes then
    let (_, _, after) := partitionAt '[' netloc
    let (host, _, _) := partitionAt ']' after
    checkBracketedHost host
  let (rest, fragment) :=
    match partitionAt '#' rest with
    | (a, true, b) => (a, b)
    | _ => (rest, [])
  let (path, query) :=
    match partitionAt '?' rest with
    | (a, true, b) => (a, b)
    | _ => (rest, [])
  checkNetloc netloc
  return { scheme := String.ofList scheme, netloc := String.ofList netloc,
           path := String.ofList path, query := String.ofList query,
           fragment := String.ofList fragment }

def hostInfo (netloc : String) : List Char × List Char :=
  let (_, _, info) := partitionAtLast '@' netloc.toList
  match partitionAt '[' info with
  | (_, true, bracketed) =>
    let (host, _, after) := partitionAt ']' bracketed
    let (_, _, port) := partitionAt ':' after
    (host, port)
  | _ =>
    let (host, _, port) := partitionAt ':' info
    (host, port)

/-- The host, in small letters but its zone as written; `none` when it is empty. -/
def UrlParts.hostname (u : UrlParts) : Option String :=
  let (host, _) := hostInfo u.netloc
  if host.isEmpty then none
  else
    let (name, hasZone, zone) := partitionAt '%' host
    some (Text.lower (String.ofList name) ++ (if hasZone then "%" else "") ++ String.ofList zone)

/-- The port, when one is given; it must be decimal digits naming a number up to 65535. -/
def UrlParts.port (u : UrlParts) : Except Failure (Option Nat) :=
  let (_, port) := hostInfo u.netloc
  if port.isEmpty then .ok none
  else if port.all Char.isDigit then
    let n := port.foldl (fun n d => n * 10 + (d.toNat - '0'.toNat)) 0
    if n ≤ 65535 then .ok (some n) else .error (.invalid "Port out of range 0-65535")
  else .error (.invalid ("Port could not be cast to integer value as " ++
    Text.literal (String.ofList port)))

def relativeSchemes : List String :=
  ["", "ftp", "http", "gopher", "nntp", "imap", "wais", "file", "https", "shttp", "mms",
   "prospero", "rtsp", "rtsps", "rtspu", "sftp", "svn", "svn+ssh", "ws", "wss"]

def netlocSchemes : List String :=
  ["", "ftp", "http", "gopher", "nntp", "telnet", "imap", "wais", "file", "mms", "https",
   "shttp", "snews", "prospero", "rtsp", "rtsps", "rtspu", "rsync", "svn", "svn+ssh", "sftp",
   "nfs", "git", "git+ssh", "ws", "wss", "itms-services"]

def UrlParts.unsplit (u : UrlParts) : String :=
  let path :=
    if !u.netloc.isEmpty || (!u.scheme.isEmpty && netlocSchemes.contains u.scheme &&
        !u.path.startsWith "//") then
      "//" ++ u.netloc ++ (if !u.path.isEmpty && !u.path.startsWith "/" then "/" else "") ++ u.path
    else u.path
  (if u.scheme.isEmpty then "" else u.scheme ++ ":") ++ path ++
    (if u.query.isEmpty then "" else "?" ++ u.query) ++
    (if u.fragment.isEmpty then "" else "#" ++ u.fragment)

def resolveDots (segments : List String) : List String :=
  let kept := segments.foldl (fun (out : List String) seg =>
    if seg == ".." then out.drop 1 else if seg == "." then out else seg :: out) []
  let kept := kept.reverse
  if segments.getLastD "" == "." || segments.getLastD "" == ".." then kept ++ [""] else kept

def normalizePath (path : String) : String :=
  let segments := path.splitOn "/"
  if !(segments.contains "." || segments.contains "..") then path
  else
    let out := segments.foldl (fun (out : List String) seg =>
      if seg == "." then out
      else if seg == ".." then (if out.isEmpty || out == [""] then out else out.drop 1)
      else seg :: out) []
    "/".intercalate out.reverse

/-- A reference resolved against a base URL. A reference with a scheme of its own, or of a
scheme that does not resolve, stands as it is; one with a network location keeps only the
base's scheme; one without a path keeps the base's path, and its query unless it has one; a
relative path replaces the last segment of the base's path. -/
def join (base ref : String) : String :=
  if base.isEmpty then ref
  else if ref.isEmpty then base
  else
    match split base, split ref with
    | .ok b, .ok r =>
      let scheme := if r.scheme.isEmpty then b.scheme else r.scheme
      if scheme != b.scheme || !relativeSchemes.contains scheme then ref
      else if netlocSchemes.contains scheme && !r.netloc.isEmpty then
        { r with scheme }.unsplit
      else
        let netloc := if netlocSchemes.contains scheme then b.netloc else r.netloc
        if r.path.isEmpty then
          { scheme, netloc, path := b.path, query := if r.query.isEmpty then b.query else r.query,
            fragment := r.fragment : UrlParts }.unsplit
        else
          let segments :=
            if r.path.startsWith "/" then r.path.splitOn "/"
            else
              let baseParts := b.path.splitOn "/"
              let baseParts := if baseParts.getLastD "" != "" then baseParts.dropLast else baseParts
              let all := baseParts ++ r.path.splitOn "/"
              match all with
              | first :: more =>
                if more.isEmpty then all
                else first :: ((more.dropLast.filter (!·.isEmpty)) ++ [more.getLastD ""])
              | [] => all
          let path := "/".intercalate (resolveDots segments)
          { scheme, netloc, path := if path.isEmpty then "/" else path, query := r.query,
            fragment := r.fragment : UrlParts }.unsplit
    | _, _ => ref

example : isIpv6 "::1".toList = true := by decide

example : isIpv6 "1:2:3:4:5:6:7:8".toList = true := by decide

example : isIpv6 "1::2::3".toList = false := by decide

example : isIpv4 "127.0.0.1".toList = true := by decide

end CatalogSync.Url
