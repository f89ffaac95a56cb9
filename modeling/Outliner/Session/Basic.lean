import Outliner.Outline.Projection
import Outliner.Session.Gesture
import Outliner.Session.Log

/-!
Sessions: one snapshot at a time with its outline, and the gestures that are answered with
navigation over a channel.

Every operation gives the events that it notes. A snapshot that cannot be read or shown leaves the
session without snapshot and with an empty outline.
-/
set_option autoImplicit false

namespace Outliner

/-- The channel to the editor. Messages that wait in it are in reverse. -/
inductive Channel where
  | listening (waiting : List Navigation)
  | closed

structure Session where
  snapshot : Option Snapshot
  tree : List Entry
  channel : Channel

def Snapshot.parse (text : String) : Except Json.Fault Snapshot × List LogEvent :=
  match Snapshot.ofText text with
  | .error fault => (.error fault, [])
  | .ok snapshot =>
    (.ok snapshot, [.parsed snapshot.roots.length snapshot.groups.size snapshot.nodeCount])

def Projection.Outcome.events (outcome : Projection.Outcome) : List LogEvent :=
  let unshown := outcome.unshown.map fun node => LogEvent.noRenderer node.id node.kind
  match outcome.result with
  | .ok trees => unshown ++ [.projected trees.length outcome.unshown.length]
  | .error _ => unshown

namespace Session

def new : Session :=
  ⟨none, [], .listening []⟩

def clear (session : Session) : Session :=
  { session with snapshot := none, tree := [] }

/-- Shows a snapshot in the place of the current one. -/
def replace (session : Session) (snapshot : Snapshot) : Session × List LogEvent :=
  let outcome := snapshot.project
  match outcome.result with
  | .ok tree => ({ session with snapshot := some snapshot, tree }, outcome.events)
  | .error fault => (session.clear, outcome.events ++ [.badStructure fault.message])

def load (session : Session) (text : String) : Session × List LogEvent :=
  match Snapshot.parse text with
  | (.error fault, events) =>
    (session.clear, events ++ [.discarded (Snapshot.malformed fault)])
  | (.ok snapshot, events) =>
    let (session, shown) := session.replace snapshot
    (session, events ++ shown)

def resolve (session : Session) (id : NodeId) : Except LogEvent Node :=
  match session.snapshot with
  | none => .error (.noSnapshot id)
  | some snapshot =>
    match snapshot.resolve id with
    | .error fault => .error (.staleReference id fault.message)
    | .ok node => .ok node

end Session

/-- Where a gesture on a node leads: selecting and opening lead to the file of a source file,
highlighting to the site of anything that has one. -/
def Node.navigation? (node : Node) : Gesture → Option Navigation
  | .selected _ | .invoked _ .openSourceFile =>
    match node with
    | .translationUnit decl => some (.openSourceFile decl.site.fileUrl)
    | _ => none
  | .invoked _ .highlightDeclaration => node.site?.map .highlightFullDeclaration

namespace Session

def navigation? (session : Session) (gesture : Gesture) : Option Navigation × List LogEvent :=
  match session.resolve gesture.node with
  | .error event => (none, [event])
  | .ok node => (node.navigation? gesture, [])

/-- Answers a gesture: what it leads to is given back and sent over the channel. -/
def handle (session : Session) (gesture : Gesture) :
    Session × Option Navigation × List LogEvent :=
  match session.navigation? gesture with
  | (none, events) => (session, none, events)
  | (some navigation, events) =>
    match session.channel with
    | .listening waiting =>
      ({ session with channel := .listening (navigation :: waiting) }, some navigation, events)
    | .closed => (session, some navigation, events ++ [.channelClosed navigation])

def drain (session : Session) : Session × List Navigation :=
  match session.channel with
  | .listening waiting => ({ session with channel := .listening [] }, waiting.reverse)
  | .closed => (session, [])

/-- Stops listening; what was not received is lost. -/
def close (session : Session) : Session :=
  { session with channel := .closed }

end Session

end Outliner
