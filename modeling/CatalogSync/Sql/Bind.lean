import CatalogSync.Data.Value
import CatalogSync.Sql.Datum
import CatalogSync.Text.Base64
import CatalogSync.Time.Iso

/-!
# Binding values to statement parameters

The database holds 64-bit integers, doubles, texts and byte strings. A boolean binds as the
integer 0 or 1 and a double that is not a number as null; a date or stamp binds as its ISO
text, date and time joined by a space, and a byte string as itself; an integer beyond 64
bits, a list, a mapping, a set and a tuple cannot be bound.

Values read back are taken the way a program reads them: `truthOf` says whether a value
counts as set, and a stored time is parsed from its ISO text when it is set.
-/

namespace CatalogSync.Sql

def intParam (n : Int) : Except Failure Datum :=
  if fitsInt n then .ok (.int n)
  else .error (.overflow "Python int too large to convert to SQLite INTEGER")

def textParam : Option String → Except Failure Datum
  | some s => .ok (.text s)
  | none => .ok .null

def valueParam : Value → Except Failure Datum
  | .null => .ok .null
  | .bool b => .ok (.int (if b then 1 else 0))
  | .int n => intParam n
  | .float x => .ok (if x.isNaN then .null else .real x)
  | .str s => .ok (.text s)
  | v@(.date ..) | v@(.stamp _) => .ok (.text v.display)
  | .bytes b => .ok (.blob b)
  | v@(.list _) | v@(.obj _) | v@(.set _) | v@(.tuple _) =>
    .error (.database .programming ("type '" ++ v.kindName ++ "' is not supported"))

/-- Whether a stored value counts as set. -/
def truthOf : Datum → Bool
  | .null => false
  | .int n => n != 0
  | .real x => x != 0
  | .text s => !s.isEmpty
  | .blob b => !b.isEmpty

def storedStamp (d : Datum) : Except Failure (Option Stamp) :=
  if !truthOf d then .ok none
  else
    match d with
    | .text s => some <$> Stamp.ofIso s
    | _ => .error (.wrongKind "fromisoformat: argument must be str")

def storedText : Datum → String
  | .text s => s
  | .int n => toString n
  | .real x => NumberText.float x
  | .null => "None"
  | .blob _ => ""

def storedOptText : Datum → Option String
  | .null => none
  | d => some (storedText d)

def storedValue : Datum → Value
  | .null => .null
  | .int n => .int n
  | .real x => .float x
  | .text s => .str s
  | .blob b => .str (Base64.encode b)

end CatalogSync.Sql
