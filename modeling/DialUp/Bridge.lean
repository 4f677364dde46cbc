import DialUp.Line
import DialUp.Notice

/-!
# Bridges

A bridge owns one line and turns what happens on it into signals for the session: a chunk
that arrived, or the end of the connection. A bridge is used for one connection only.

* `connect`, `send`, `disconnect` are the operations of `UpstreamBridge`; what its transport factory
  does is an `Answer`: it makes a line, it refuses, or it breaks down with something that a connect
  does not handle, such as a host name that cannot be encoded.
* `pump` is its reader loop, `_reader_loop`. The reader is taken to have caught up whenever
  something has happened on the line or to the session, so that all that can be read has become a
  signal, and the bridge of a cancelled session has ended its connection, before the next thing
  happens.

Out of scope: `disconnect` is one step, so nobody sees a bridge that is not connected any more while
its line is still to be closed; the reader's thread always starts and always ends in time; lines
exist in memory only (`Line`).
-/

namespace DialUp

/-- What a bridge reports. -/
inductive Signal
  | data (chunk : Bytes)
  | closed
  deriving DecidableEq, Repr

/-- What goes wrong when a connect can neither be made nor is refused. -/
inductive Breakdown
  /-- A value that cannot be used, such as a host name that cannot be encoded. -/
  | badValue (reason : String)
  /-- Anything else, by its kind. -/
  | other (kind : String)
  deriving DecidableEq, Repr

/-- What the network says to a connect. -/
inductive Answer
  | refused (reason : String)
  | accepted (plan : Line.Plan)
  /-- The connect is not answered at all: it breaks down. -/
  | broken (breakdown : Breakdown)
  deriving DecidableEq, Repr

/-- A bridge to one remote endpoint. -/
structure Bridge where
  used : Bool := false
  /-- The endpoint, once a connect was asked for. -/
  remote : Option String := none
  /-- The line that the connect made. -/
  line : Option Line := none
  /-- Whether the connection is live. -/
  connected : Bool := false
  deriving DecidableEq, Repr, Inhabited

namespace Bridge

/-- What an operation on a bridge comes to. -/
structure Turn where
  bridge : Bridge
  signals : List Signal := []
  notices : List Notice := []
  /-- What the operation raises. -/
  raised : Option Breakdown := none

/-- The endpoint as messages show it. -/
def remoteText (b : Bridge) : String := b.remote.getD "None"

/-- A one-line description of the bridge. -/
def text (b : Bridge) : String :=
  "<UpstreamBridge remote=" ++ b.remoteText ++ " status="
    ++ (if b.connected then "connected" else "disconnected") ++ ">"

/-- Closes the connection. Only the call that ends a live connection reports its end. -/
def disconnect (b : Bridge) : Turn :=
  if b.connected then
    { bridge := { b with connected := false, line := b.line.map Line.close }, signals := [.closed] }
  else { bridge := b }

/-- The signals for chunks that were read; an empty chunk makes none. -/
def dataSignals (chunks : List Bytes) : List Signal :=
  (chunks.filter fun chunk => !chunk.isEmpty).map .data

/-- What the operator is told when reading ends. -/
def readNotices (b : Bridge) : Line.Fault → List Notice
  | .remoteClosed => []
  | fault => [.error ("Error reading from " ++ b.remoteText ++ ": " ++ fault.failure.text)]

/-- The reader catches up with the line. A bridge of a cancelled session disconnects itself. -/
def pump (cancelled : Bool) (b : Bridge) : Turn :=
  if !b.connected then { bridge := b }
  else if cancelled then b.disconnect
  else match b.line with
    | none => { bridge := b }
    | some line =>
      let drained := line.drain
      let b := { b with line := some drained.line }
      let signals := dataSignals drained.chunks
      match drained.fault with
      | none => { bridge := b, signals }
      | some fault =>
        let ended := b.disconnect
        { ended with signals := signals ++ ended.signals, notices := b.readNotices fault }

/-- The bridge connects to an endpoint, which answers as given; the flag tells whether the
connection is live. At most one attempt is ever made. A refusal is reported, but a breakdown is not
handled. -/
def connect (cancelled : Bool) (b : Bridge) (endpoint : String) (answer : Answer) : Bool × Turn :=
  if b.used then
    (b.connected,
      { bridge := b, notices := [.warning "UpstreamBridge already used for a connection"] })
  else
    let b := { b with used := true, remote := some endpoint }
    match answer with
    | .refused reason =>
      (false,
        { bridge := b
          notices := [.error ("Error connecting to " ++ endpoint ++ ": " ++ reason)] })
    | .accepted plan =>
      let line := Line.started plan
      if cancelled then (false, { bridge := { b with line := some line.close } })
      else (true, pump false { b with line := some line, connected := true })
    | .broken breakdown => (false, { bridge := b, raised := some breakdown })

/-- Forwards bytes to the remote end. Nothing is sent unless the connection is live, and a write
that fails ends it. -/
def send (cancelled : Bool) (b : Bridge) (data : Bytes) : Turn :=
  match b.connected, b.line with
  | true, some line =>
    match line.write data with
    | .ok line => pump cancelled { b with line := some line }
    | .error fault =>
      let ended := b.disconnect
      { ended with
        notices :=
          [.error ("Error sending data to " ++ b.remoteText ++ ": " ++ fault.failure.text)] }
  | _, _ => { bridge := b }

/-- The remote end of the line acts. -/
def act (cancelled : Bool) (b : Bridge) (actions : List Line.Action) : Turn :=
  pump cancelled { b with line := b.line.map (·.performAll actions) }

end Bridge

end DialUp
