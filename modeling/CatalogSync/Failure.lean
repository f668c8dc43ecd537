/-!
# Failures

Every operation of the library that can fail returns a `Failure`, a cause rather than a
text. Callers tell failures apart by their constructor: a node failure (`node`) is one the
synchronisation engine reacts to, a lost connection (`NodeFault.link` and
`NodeFault.interrupted`) ends a run as a lost connection, and a stop request
(`SystemFault.stop`) is not an ordinary failure at all and passes every handler.

`Failure.message` is the text a failure reports.
-/

namespace CatalogSync

/-- How seriously a node failed. -/
inductive NodeFault where
  /-- The node could not complete one operation. -/
  | operation
  /-- The node is unreachable or stopped answering. -/
  | link
  /-- A call to the node was interrupted; it counts as a lost link. -/
  | interrupted
  deriving Repr, DecidableEq

/-- How a database statement failed. -/
inductive DatabaseFault where
  /-- The database could not run the statement: a missing table or column, a syntax
  error, a file that cannot be opened. -/
  | operational
  /-- A constraint refused the change. -/
  | integrity
  /-- A value cannot be bound to a statement parameter. -/
  | programming
  /-- A failure reported by the tabular reader on top of the database. -/
  | reader
  deriving Repr, DecidableEq

/-- Transport failures of an HTTP client. -/
inductive TransportFault where
  | connect
  | connectTimeout
  | read
  | readTimeout
  /-- Redirects went on longer than a client follows them; not a failure of the transport
  itself. -/
  | tooManyRedirects
  deriving Repr, DecidableEq

/-- The variants of a refused or broken connection reported by the operating system. -/
inductive ConnectionFault where
  | plain
  | refused
  | reset
  | aborted
  | brokenPipe
  deriving Repr, DecidableEq

/-- Failures of the operating system around a call, and requests to stop. -/
inductive SystemFault where
  /-- A system call was interrupted. -/
  | interrupted
  /-- A connection failed. -/
  | connection (variant : ConnectionFault)
  /-- A system call timed out. -/
  | timeout
  /-- A file to open is not there. -/
  | missing
  /-- Another operating-system failure. -/
  | other
  /-- A request to stop the whole program; `exit` tells an exit request from an interrupt. -/
  | stop (exit : Bool)
  deriving Repr, DecidableEq

/-- What went wrong. -/
inductive Failure where
  /-- A value lies outside what an operation accepts. -/
  | invalid (message : String)
  /-- An operation got a value of a kind it does not take. -/
  | wrongKind (message : String)
  /-- A mapping lacks a key; the text is the key as a literal. -/
  | missingKey (key : String)
  /-- A value lacks a field or operation. -/
  | missingAttribute (message : String)
  /-- A number lies outside the range of its target. -/
  | overflow (message : String)
  /-- A text is not a JSON document. -/
  | malformedJson (message : String)
  /-- Bytes are not text in the encoding they are read in. -/
  | undecodable (message : String)
  /-- A text has characters that the encoding it is written in lacks. -/
  | unencodable (message : String)
  /-- A time lies outside the range of the unit it is counted in. -/
  | outOfBoundsTime (message : String)
  /-- A request conflicts with work in progress. -/
  | busy (message : String)
  /-- A database statement failed. -/
  | database (fault : DatabaseFault) (message : String)
  /-- A node failed; `cause` is the failure it reports, if any. -/
  | node (fault : NodeFault) (message : String) (cause : Option Failure)
  /-- An HTTP transport failed. -/
  | transport (fault : TransportFault) (message : String)
  /-- The operating system failed, or asked to stop. -/
  | system (fault : SystemFault) (message : String)
  /-- Nesting went deeper than the work allows. -/
  | tooDeep
  /-- Nesting went deeper than the work allows while reading something; the text says
  what. -/
  | tooDeepWhile (context : String)
  deriving Repr, Inhabited

namespace Failure

/-- The text a failure reports. -/
def message : Failure → String
  | .invalid m | .wrongKind m | .overflow m | .malformedJson m | .busy m => m
  | .undecodable m | .unencodable m | .outOfBoundsTime m => m
  | .missingKey k => k
  | .missingAttribute m => m
  | .database _ m | .node _ m _ | .transport _ m | .system _ m => m
  | .tooDeep => "maximum recursion depth exceeded"
  | .tooDeepWhile c => "maximum recursion depth exceeded" ++ c

def isNode : Failure → Bool
  | .node .. => true
  | _ => false

def isLinkLoss : Failure → Bool
  | .node .link .. | .node .interrupted .. => true
  | _ => false

def isDatabase : Failure → Bool
  | .database .reader _ => false
  | .database .. => true
  | _ => false

def isOrdinary : Failure → Bool
  | .system (.stop _) _ => false
  | _ => true

end Failure

end CatalogSync
