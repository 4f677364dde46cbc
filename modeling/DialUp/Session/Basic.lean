import DialUp.Audio.Sounds
import DialUp.Bridge
import DialUp.Command
import DialUp.Configuration
import DialUp.Route

/-!
# Sessions: state and single effects

A session (`ModemSession`) is a modem as one client sees it. Its state holds the mode, the line
being typed, the bridge to the current line, the remote data held back while the client is in
command mode, and the signals that wait to be handled. All it does to the world is in its log.

The world around a session is given by what it will do: which answer each connect gets, which
write to the client fails, and when the session is closed from outside. It can be closed between
any two operations (`close`), and in the middle of a dial: during a cue (`play`), while a connect is
under way, and when the connection is live and the session has yet to record its bridge
(`Script`).

An operation that fails keeps what it has done so far: its result carries the state in which it
stopped.

Out of scope: how a client is shut down before it is closed, and what an audio player does when it
is asked for a cue, to stop or to close (`Audio.Player` is about that; here the operator is told if
there is no file for a cue).
-/

namespace DialUp

/-- The modes of a session. -/
inductive Mode
  | command
  | dialing
  | connected
  | busy
  deriving DecidableEq, Repr

/-- The mode as messages name it. -/
def Mode.text : Mode → String
  | .command => "command"
  | .dialing => "dialing"
  | .connected => "connected"
  | .busy => "busy"

namespace Session

/-- What the network does with one connect. -/
structure Script where
  answer : Answer
  /-- The session is closed from outside while it connects. -/
  closesSession : Bool := false
  /-- The session is closed from outside when the connection is live, but not yet recorded. -/
  closesUnrecorded : Bool := false

/-- What the world around a session does. -/
structure Surroundings where
  /-- What happens to the `n`-th connect of the session, by its endpoint. -/
  network : Nat → Route → Script
  /-- Why the `n`-th write to the client fails, if it does. -/
  clientFault : Nat → Option String := fun _ => none
  /-- Whether the session is closed from outside during its `n`-th cue, by the cue's name. -/
  interrupts : Nat → String → Bool := fun _ _ => false

/-- What plays cues. -/
inductive Speaker.Player
  /-- Plays nothing, or leaves no trace of what it plays. -/
  | quiet
  /-- Plays sound files, of which `isFile` tells whether they exist. -/
  | files (table : Audio.Sounds) (isFile : String → Bool)

/-- What plays the cues of a session. -/
structure Speaker where
  player : Speaker.Player
  /-- The session has made it itself, and so has to close it. -/
  owned : Bool

/-- The speaker that a session makes for itself under a configuration. -/
def Speaker.of (config : Configuration) (isFile : String → Bool) : Speaker where
  player :=
    if config.audioEnabled then
      .files { files := config.sounds, basePath := config.basePath } isFile
    else .quiet
  owned := true

/-- A speaker that was given to the session and leaves no trace. -/
def Speaker.quiet : Speaker := { player := .quiet, owned := false }

/-- What the operator is told when a cue is not played. -/
def Speaker.complaint? (speaker : Speaker) (name : String) : Option Notice :=
  match speaker.player with
  | .quiet => none
  | .files table isFile =>
    match table.resolve isFile name with
    | .ok _ => none
    | .error failure => some (.warning failure.text)

/-- The most remote bytes that a session keeps unless it is told otherwise. -/
def usualHeldLimit : Nat := 65536

/-- What a session is set up with. -/
structure Settings where
  phonebook : Phonebook := []
  connectTimeout : Numeral.Double
  greeting : Bool := true
  /-- The most remote bytes kept while the client is in command mode. -/
  heldLimit : Nat := usualHeldLimit
  speaker : Speaker := .quiet

/-- The settings of a session under a configuration. A phonebook or a deadline given for the
session itself replaces the configured one, unless it is empty or zero. -/
def Settings.of (config : Configuration) (phonebook : Option Phonebook)
    (connectTimeout : Option Numeral.Double) (heldLimit : Nat) (speaker : Speaker) : Settings where
  phonebook := (phonebook.filter fun book => !book.isEmpty).getD config.phonebook
  connectTimeout := (connectTimeout.filter (·.nonzero)).getD config.connectTimeout
  greeting := config.greeting
  heldLimit
  speaker

/-- Whose bytes the client gets. -/
inductive Origin
  /-- The modem's own: echo, responses and result codes. -/
  | modem
  /-- Those of the remote end of a line, by the number of its bridge. -/
  | line (number : Nat)
  deriving DecidableEq, Repr

/-- What a session does to the world. -/
inductive Effect
  /-- Bytes for the client. -/
  | output (origin : Origin) (data : Bytes)
  /-- Remote bytes of a bridge that the client never gets, since too many were held back. -/
  | dropped (number : Nat) (data : Bytes)
  | cue (name : String) (mode : Mode)
  /-- A connect, with the lines that are open at that time. -/
  | connect (route : Route) (timeout : Numeral.Double) (busy : List Nat)
  | audioStopped
  | clientClosed
  /-- The audio that the session has made itself is closed for good. A player that is closed stops
  once more, by itself. -/
  | audioClosed
  | notice (notice : Notice)
  deriving DecidableEq, Repr

/-- Why an operation of a session stops. -/
inductive Fault
  /-- The client does not take what is written to it. -/
  | clientLost (reason : String)
  /-- The client cannot be read. -/
  | clientUnreadable (reason : String)
  /-- There is no bridge to send online data to. -/
  | bridgeMissing
  /-- A connect breaks down. -/
  | broken (breakdown : Breakdown)
  deriving DecidableEq, Repr

end Session

/-- A modem as one client sees it. -/
structure Session where
  settings : Session.Settings
  around : Session.Surroundings
  mode : Mode := .command
  echo : Bool := true
  verbose : Bool := true
  /-- The characters of the line being typed, the last one first. -/
  typed : List Char := []
  /-- The current bridge, by its number. -/
  current : Option Nat := none
  /-- All bridges that made a line, in the order of their connects. -/
  bridges : List Bridge := []
  /-- Remote chunks held back for the client, the oldest first. -/
  held : List Bytes := []
  heldSize : Nat := 0
  /-- Signals not handled yet, each with the number of its bridge. -/
  queue : List (Nat × Signal) := []
  closed : Bool := false
  /-- How many connects, writes and cues there were so far. -/
  connects : Nat := 0
  writes : Nat := 0
  cues : Nat := 0
  /-- What the session did so far, the last effect first. -/
  log : List Session.Effect := []

namespace Session

/-- A step of a session. If it fails, the state is the one in which it stopped. -/
abbrev Act := EStateM Fault Session Unit

/-- The session as it is when the client has connected. -/
def start (settings : Settings) (around : Surroundings) : Session := { settings, around }

/-- The current bridge. -/
def bridge? (s : Session) : Option Bridge := s.current.bind (s.bridges[·]?)

/-- The numbers of the bridges whose lines are open. -/
def openLines (s : Session) : List Nat :=
  (List.range s.bridges.length).filter fun i => (s.bridges[i]?.bind (·.line)).any (·.isOpen)

/-- A one-line description of the session with a client. -/
def text (s : Session) (peer : String) : String :=
  "<ModemSession peer=" ++ peer ++ " state=" ++ s.mode.text ++ ">"

/-- The client's name: the first two parts of its address. -/
def peerName : List String → String
  | host :: port :: _ => host ++ ":" ++ port
  | _ => "unknown"

/-- Notes an effect. -/
def emit (s : Session) (e : Effect) : Session := { s with log := e :: s.log }

/-- Notes several effects. -/
def emitAll (s : Session) (es : List Effect) : Session := es.foldl emit s

/-- Takes over what an operation on bridge `i` came to. -/
def absorb (s : Session) (i : Nat) (turn : Bridge.Turn) : Session :=
  emitAll
    { s with
      bridges := s.bridges.set i turn.bridge
      queue := s.queue ++ turn.signals.map (i, ·) }
    (turn.notices.map .notice)

/-- Does an operation on bridge `i`. -/
def onBridge (s : Session) (i : Nat) (op : Bridge → Bridge.Turn) : Session :=
  match s.bridges[i]? with
  | some bridge => s.absorb i (op bridge)
  | none => s

/-- The remote end of line `i` acts. -/
def remote (s : Session) (i : Nat) (actions : List Line.Action) : Session :=
  s.onBridge i (·.act s.closed actions)

/-- Ends the connection of a bridge, if there is one. -/
def endConnection (s : Session) : (bridge : Option Nat) → Session
  | some i => s.onBridge i Bridge.disconnect
  | none => s

/-- Closes the audio if the session has made it itself. -/
def closeAudio (s : Session) : Session :=
  if s.settings.speaker.owned then s.emit .audioClosed else s

/-- Closes the session: stops the audio, ends the current connection, closes the client and then the
audio, unless that was given to the session. Only the first call does anything. -/
def close (s : Session) : Session :=
  if s.closed then s
  else
    ((({ s with closed := true }.emit .audioStopped).endConnection s.current).emit
      .clientClosed).closeAudio

/-- Why the next write to the client fails, if it does. -/
def refusal? (s : Session) : Option String :=
  if s.closed then some "client closed" else s.around.clientFault s.writes

/-- Writes to the client. -/
def write (origin : Origin) (data : Bytes) : Act := do
  let s ← get
  set { s with writes := s.writes + 1 }
  match s.refusal? with
  | some reason => throw (.clientLost reason)
  | none => modify (·.emit (.output origin data))

/-- Writes a text of the modem's own to the client. -/
def writeText (text : String) : Act := write .modem (Bytes.ofText text)

/-- Notes a message to the operator. -/
def tell (notice : Notice) : Act := modify (·.emit (.notice notice))

/-- Changes the mode. -/
def enter (mode : Mode) : Act := modify fun s => { s with mode }

/-- Tells the operator if a cue cannot be played. A closed session plays nothing. -/
def complain (name : String) : Act := do
  let s ← get
  if !s.closed then
    match s.settings.speaker.complaint? name with
    | some notice => tell notice
    | none => pure ()

/-- Plays a cue. The session may be closed from outside meanwhile. -/
def play (name : String) : Act := do
  let s ← get
  set ({ s with cues := s.cues + 1 }.emit (.cue name s.mode))
  complain name
  if s.around.interrupts s.cues name then modify close

/-- Drops what is held back. -/
def clearHeld (s : Session) : Session := { s with held := [], heldSize := 0 }

/-- Ends and discards the connection and returns to command mode. -/
def dropConnection (s : Session) : Session :=
  { ({ s with current := none }.clearHeld).endConnection s.current with mode := .command }

end Session

end DialUp
