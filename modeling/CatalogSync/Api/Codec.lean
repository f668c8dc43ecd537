import CatalogSync.Data.Value
import CatalogSync.Time.Iso

/-!
# Reading requests and writing answers

The JSON interface of the library takes requests and gives answers as `Value`s. This module
holds the pieces every part of it uses: field access with defaults, time stamps as ISO texts,
and failures as answers.

A failure answers `{"error": kind, "message": text}`, where the kind is the name its callers
know the failure by. Failures whose text is not the library's own (a value of the wrong kind,
a missing field, a statement the database cannot bind, a tabular reader failure) answer with
a null message; a node failure adds the kind of the failure it reports as `cause`.
-/

namespace CatalogSync

namespace Api

def obj (fs : List (String × Value)) : Value := .obj fs

def optStr : Option String → Value
  | some s => .str s
  | none => .null

def strs (xs : List String) : Value := .list (xs.map .str)

def stamp (t : Stamp) : Value := .str t.iso

def optStamp : Option Stamp → Value
  | some t => stamp t
  | none => .null

end Api

def ConnectionFault.name : ConnectionFault → String
  | .plain => "ConnectionError"
  | .refused => "ConnectionRefusedError"
  | .reset => "ConnectionResetError"
  | .aborted => "ConnectionAbortedError"
  | .brokenPipe => "BrokenPipeError"

def Failure.kindName : Failure → String
  | .invalid _ => "ValueError"
  | .wrongKind _ => "TypeError"
  | .missingKey _ => "KeyError"
  | .missingAttribute _ => "AttributeError"
  | .overflow _ => "OverflowError"
  | .malformedJson _ => "JSONDecodeError"
  | .undecodable _ => "UnicodeDecodeError"
  | .outOfBoundsTime _ => "OutOfBoundsDatetime"
  | .unencodable _ => "UnicodeEncodeError"
  | .busy _ => "RuntimeError"
  | .database .operational _ => "OperationalError"
  | .database .integrity _ => "IntegrityError"
  | .database .programming _ => "ProgrammingError"
  | .database .reader _ => "DatabaseError"
  | .node .operation _ _ => "AdapterError"
  | .node .link _ _ => "AdapterConnectionError"
  | .node .interrupted _ _ => "AdapterInterruptedError"
  | .transport .connect _ => "ConnectError"
  | .transport .connectTimeout _ => "ConnectTimeout"
  | .transport .read _ => "ReadError"
  | .transport .readTimeout _ => "ReadTimeout"
  | .transport .tooManyRedirects _ => "TooManyRedirects"
  | .system .interrupted _ => "InterruptedError"
  | .system (.connection c) _ => c.name
  | .system .timeout _ => "TimeoutError"
  | .system .missing _ => "FileNotFoundError"
  | .system .other _ => "OSError"
  | .system (.stop true) _ => "SystemExit"
  | .system (.stop false) _ => "KeyboardInterrupt"
  | .tooDeep | .tooDeepWhile _ => "RecursionError"

def Failure.showsMessage : Failure → Bool
  | .wrongKind m => m.startsWith "Unknown predicate type"
  | .missingAttribute _ | .database .programming _ | .database .reader _ => false
  | _ => true

def Failure.causeName : Failure → Value
  | .node _ _ (some c) => .str c.kindName
  | _ => .null

def Failure.baseFields (f : Failure) : List (String × Value) :=
  [("error", Value.str f.kindName), ("message", if f.showsMessage then .str f.message else .null)]

def Failure.fields (f : Failure) : List (String × Value) :=
  if f.isNode then f.baseFields ++ [("cause", f.causeName)] else f.baseFields

def Failure.bareAnswer (f : Failure) : Value := .obj f.baseFields

def Failure.answer (f : Failure) : Value := .obj f.fields

namespace Api

def okOr : Except Failure Value → Value
  | .ok v => obj [("ok", v)]
  | .error f => f.answer

def resultOr : Except Failure Value → Value
  | .ok v => obj [("result", v)]
  | .error f => f.answer

def valueOr : Except Failure Value → Value
  | .ok v => v
  | .error f => f.answer

def asStr (v : Value) (what : String := "argument") : Except Failure String :=
  match v with
  | .str s => .ok s
  | _ => .error (.wrongKind (what ++ " must be str"))

def asStamp (v : Value) : Except Failure Stamp :=
  match v with
  | .str s => Stamp.ofIso s
  | _ => .error (.wrongKind "fromisoformat: argument must be str")

def asOptStamp : Value → Except Failure (Option Stamp)
  | .null => .ok none
  | v => (asStamp v).map some

def asList : Value → List Value
  | .list xs => xs
  | _ => []

def asStrs (v : Value) : Except Failure (List String) :=
  (asList v).mapM (asStr · "id")

def malformed (what : String) : Value :=
  obj [("error", .str "DriverError"), ("message", .str what)]

def utcNow (clock : Stamp) : Except Failure Stamp :=
  (if clock.isAware then clock else { clock with offset := some 0 }).toUtc

def startClock (req : Value) : Except Failure Stamp :=
  match req.get "now" with
  | .null => Stamp.ofIso "2024-01-01T00:00:00+00:00"
  | v => asStamp v

end Api

end CatalogSync
