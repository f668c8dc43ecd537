import CatalogSync.Failure

/-!
# Node failures from any failure

A node reports every failure of a remote call as a node failure carrying the message of the
node's own operation. An interrupted call stays as it is; a node failure keeps its kind and
cause and takes the new message; an interrupted system call becomes an interrupted call; a
refused or broken connection or a timeout becomes a lost link; any other ordinary failure
becomes a failed operation. A request to stop the program passes through unchanged.
-/

namespace CatalogSync.Failure

def asNodeFailure (message : String) (e : Failure) : Except Failure Failure :=
  match e with
  | .node .interrupted _ _ => .ok e
  | .node k _ cause => .ok (.node k message cause)
  | .system (.stop _) _ => .error e
  | .system .interrupted _ => .ok (.node .interrupted message (some e))
  | .system (.connection _) _ | .system .timeout _ => .ok (.node .link message (some e))
  | _ => .ok (.node .operation message (some e))

end CatalogSync.Failure
