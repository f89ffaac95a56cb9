import Outliner.Session.Gesture

/-!
Log events: what is noted while snapshots are read and shown and gestures are answered.
-/
set_option autoImplicit false

namespace Outliner

inductive LogLevel where
  | debug
  | warn
  | error
  deriving DecidableEq

inductive LogEvent where
  | parsed (roots groups nodes : Nat)
  | noRenderer (id : NodeId) (kind : String)
  | projected (roots unknown : Nat)
  | discarded (complaint : String)
  | badStructure (complaint : String)
  | noSnapshot (id : NodeId)
  | staleReference (id : NodeId) (complaint : String)
  | channelClosed (dropped : Navigation)
  deriving DecidableEq

namespace LogEvent

def level : LogEvent → LogLevel
  | .parsed .. | .noRenderer .. | .projected .. => .debug
  | .discarded _ | .badStructure _ => .error
  | .noSnapshot _ | .staleReference .. | .channelClosed _ => .warn

def message : LogEvent → String
  | .parsed .. => "parsed AST snapshot"
  | .noRenderer .. => "no renderer for node kind"
  | .projected .. => "projected AST snapshot"
  | .discarded _ => "discarding malformed AST snapshot"
  | .badStructure _ => "AST snapshot violates its structure"
  | .noSnapshot _ => "ignoring interaction, no snapshot is loaded"
  | .staleReference .. => "ignoring interaction with a stale node reference"
  | .channelClosed _ => "host channel closed, dropping navigation message"

/-- The details, by ascending name. -/
def fields : LogEvent → List (String × String)
  | .parsed roots groups nodes =>
    [("groups", groups.repr), ("modules", roots.repr), ("nodes", nodes.repr)]
  | .noRenderer id kind => [("id", id.text), ("kind", kind)]
  | .projected roots unknown => [("roots", roots.repr), ("unknown", unknown.repr)]
  | .discarded complaint | .badStructure complaint => [("error", complaint)]
  | .noSnapshot id => [("id", id.text)]
  | .staleReference id complaint => [("error", complaint), ("id", id.text)]
  -- What was dropped is noted under the name of the message itself, so it is no detail of its own.
  | .channelClosed _ => []

end LogEvent

end Outliner
