import DialUp.Address
import DialUp.Server.Reception
import DialUp.Session.Run

/-!
# The server

The server (`ModemServer`) listens on one address and serves one client at a time; whoever comes
meanwhile is told that the line is busy. When it stops, it closes the session that is running.

Clients are accepted, sessions run, and the server is stopped beside each other, so what happens is
given by the events at the server, in any order (`Event`, `run`). A stop asks for the desk to be
closed and waits for that, but not for ever; then it looks which session there is, and closes it.

The operations `start`, `stop`, `welcome` and those on clients take these steps without anything
between. There the parts of a session's run are done as soon as what they wait for is there: what a
client sends is handled to its end, with all signals that it leads to, before anything else happens.

Out of scope: a session that cannot be made or whose thread cannot be started, the waits for threads
that a stop makes after it has closed the session, and a second desk beside one that a stop did not
wait for.
-/

namespace DialUp

/-- The port that is bound if any will do. -/
def Server.anyPort : Int := 49152

/-- How far a stop has got. -/
inductive Server.Halt
  | no
  /-- The desk is to be closed. -/
  | called
  /-- The session to close is known, or that there is none. -/
  | found (target : Option Nat)
  | done
  deriving DecidableEq, Repr

/-- A listener for clients. -/
structure Server where
  settings : Session.Settings
  around : Session.Surroundings
  /-- The address to listen on. -/
  host : String
  port : Int
  running : Bool := false
  halt : Server.Halt := .no
  reception : Server.Reception := {}
  /-- The sessions of all clients that were admitted, by their numbers. -/
  sessions : List Session := []

namespace Server

/-- A server under a configuration. An address given for the server itself replaces the configured
one. -/
def create (config : Configuration) (settings : Session.Settings) (around : Session.Surroundings)
    (host : Option String) (port : Option Int) : Server where
  settings
  around
  host := host.getD config.host
  port := port.getD config.port

/-- The address as others see it: while the server runs, the port is the one that was bound. -/
def address (s : Server) : String × Int :=
  (s.host, if s.running && s.port == 0 then anyPort else s.port)

/-- A one-line description of the server. -/
def text (s : Server) : String :=
  let (host, port) := s.address
  "<ModemServer address=(" ++ Text.quoted host ++ ", " ++ Numeral.integerText port ++ ") status="
    ++ (if s.running then "running" else "stopped") ++ ">"

/-- Whether clients are accepted. -/
def accepting (s : Server) : Bool := s.reception.desk != .closed

/-! ## Start and stop -/

/-- Starts listening. It fails, for the given reason, if the address cannot be bound. -/
def start (s : Server) (bindFault : Option String) : Except String (Server × List Notice) :=
  if s.running then .ok (s, [.warning "ModemServer already started"])
  else match bindFault with
    | some reason => .error reason
    | none =>
      let notices :=
        if Address.isLoopback s.host then []
        else [.warning ("Listening on non-loopback address " ++ s.host
          ++ ", the emulator is reachable from the network")]
      .ok ({ s with running := true, halt := .no, reception := s.reception.openDesk }, notices)

/-- Starts listening unless the server runs already. -/
def ensureStarted (s : Server) (bindFault : Option String) : Except String (Server × List Notice) :=
  if s.running then .ok (s, []) else s.start bindFault

/-- A stop begins: the desk is to be closed. -/
def beginStop (s : Server) : Server :=
  if s.running && s.halt == .no then { s with halt := .called } else s

/-- The desk is closed because of a stop. -/
def endAccepting (s : Server) : Server :=
  if s.halt == .no then s else { s with reception := s.reception.closeDesk }

/-- The stop looks which session there is. -/
def seek (s : Server) : Server :=
  match s.halt with
  | .called => { s with halt := .found s.reception.current }
  | _ => s

/-- Something happens to a session. -/
def work (s : Server) (number : Nat) (change : Session → Session) : Server :=
  { s with sessions := s.sessions.modify number change }

/-- The stop closes the session that it has found, and is over. -/
def conclude (s : Server) : Server :=
  match s.halt with
  | .found (some number) => { s.work number Session.close with running := false, halt := .done }
  | .found none => { s with running := false, halt := .done }
  | _ => s

/-- Accepting a client fails, and ends the accepting of clients. -/
def failAccepting (s : Server) (reason : String) : Server × List Notice :=
  ({ s with reception := s.reception.closeDesk },
    if s.halt == .no then [.error ("Error accepting connection: " ++ reason)] else [])

/-! ## Step by step -/

/-- The session of the client that has the slot begins. -/
def seat (s : Server) : Server :=
  match s.reception.desk with
  | .admitting =>
    { s with
      reception := s.reception.seat
      sessions := s.sessions ++ [Session.start s.settings s.around] }
  | _ => s

/-- What happens at a server. -/
inductive Event
  | start (bindFault : Option String)
  | arrive (peer : String)
  | seat
  /-- A client is turned away, whether or not it can be reached. -/
  | refuse (reached : Bool)
  | failAccepting (reason : String)
  /-- A session does something, or something is done to it. -/
  | work (session : Nat) (change : Session → Session)
  /-- The run of a session is over, normally or by a fault. -/
  | finish (session : Nat)
  | withdraw (session : Nat)
  | release (session : Nat)
  | beginStop
  | endAccepting
  | seek
  | conclude

/-- One event. -/
def step (s : Server) : Event → Except Guard.Fault Server
  | .start bindFault =>
    match s.start bindFault with
    | .ok (s, _) => .ok s
    | .error _ => .ok s
  | .arrive peer => .ok { s with reception := s.reception.arrive peer }
  | .seat => .ok s.seat
  | .refuse reached => .ok { s with reception := s.reception.refuse reached }
  | .failAccepting reason => .ok (s.failAccepting reason).1
  | .work session change => .ok (s.work session change)
  | .finish session => .ok { s with reception := s.reception.finish session }
  | .withdraw session => .ok { s with reception := s.reception.withdraw session }
  | .release session => do return { s with reception := (← s.reception.release session) }
  | .beginStop => .ok s.beginStop
  | .endAccepting => .ok s.endAccepting
  | .seek => .ok s.seek
  | .conclude => .ok s.conclude

/-- Events one after the other. -/
def run (s : Server) (events : List Event) : Except Guard.Fault Server := events.foldlM step s

/-! ## Sessions -/

/-- A session that has ended leaves. -/
def discharge (s : Server) (number : Nat) : Server :=
  match s.sessions[number]? with
  | some session =>
    if session.closed then
      match s.reception.leave number with
      | .ok reception => { s with reception }
      | .error _ => s
    else s
  | none => s

/-- Changes a session; if that ends it, it leaves. -/
def onSession (s : Server) (number : Nat) (change : Session → Session) : Server :=
  (s.work number change).discharge number

/-- Stops listening and closes the session that is running. -/
def stop (s : Server) : Server :=
  if !s.running then s
  else
    let s := s.beginStop.endAccepting.seek.conclude
    match s.reception.current with
    | some number => s.discharge number
    | none => s

/-! ## Clients -/

/-- What becomes of a client that arrives. -/
inductive Admission
  | admitted (number : Nat)
  | busy
  | notAccepting
  deriving DecidableEq, Repr

/-- A part of a session's run: a fault in it ends the session. -/
def proceed (part : Session.Act) (session : Session) : Session :=
  match part session with
  | .ok _ session => session
  | .error fault session =>
    match session.report fault with
    | .ok session => session.close
    | .error _ => session.close

/-- The beginning of a session: the greeting. A client that is gone already cannot be greeted, and
its session ends at once. -/
def opened (gone : Bool) (session : Session) : Session :=
  let session :=
    if gone then
      { session with around := { session.around with clientFault := fun _ => some "Broken pipe" } }
    else session
  let session := proceed (do Session.greet; Session.converse none []) session
  if gone then session.close else session

/-- A client arrives from an address. -/
def welcome (s : Server) (peer : String) (gone : Bool) : Admission × Server × List Notice :=
  if !s.accepting then (.notAccepting, s, [])
  else
    let s := { s with reception := s.reception.arrive peer }
    match s.reception.desk with
    | .admitting =>
      let number := s.sessions.length
      (.admitted number, s.seat.onSession number (opened gone), [])
    | _ => (.busy, { s with reception := s.reception.refuse true }, [rejection peer])

/-- The most bytes of a client that are read at a time. -/
def readSize : Nat := 4096

/-- The client of a session sends bytes. -/
def receive (s : Server) (number : Nat) (data : Bytes) : Server :=
  s.onSession number (proceed (Session.converse none (Session.chunksOf readSize data)))

/-- The client of a session is gone. -/
def hangUp (s : Server) (number : Nat) : Server := s.onSession number Session.close

/-- The number of the session that made the newest line. -/
def newestLine? (s : Server) : Option Nat :=
  (List.range s.sessions.length).reverse.find? fun number =>
    (s.sessions[number]?.map fun session => !session.bridges.isEmpty).getD false

/-- The remote end of the newest line acts. -/
def remote (s : Server) (actions : List Line.Action) : Server :=
  match s.newestLine? with
  | none => s
  | some number =>
    s.onSession number fun session =>
      let session := session.remote (session.bridges.length - 1) actions
      proceed (Session.converse none []) session

end Server

end DialUp
