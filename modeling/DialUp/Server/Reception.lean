import DialUp.Notice
import DialUp.Server.Guard

/-!
# The reception of clients

Clients are accepted at a desk, one after the other (`_accept_loop`). Whoever arrives gets the slot
if it is free, and then a session with the next number (`_start_session`); otherwise the client is
told that the line is busy, and is hung up on (`_reject`). The server keeps the number of the
session that it may have to close. A session that has ended first loses that place and then gives
the slot back (`_run_session`).

Each of these is a step of its own, and other steps may come between any two. A step that cannot be
taken in a state changes nothing.
-/

namespace DialUp.Server

/-- What a client is told that cannot be served. -/
def busyMessage : String := "BUSY - Another session is active\r\n"

/-- What the operator is told about a client that cannot be served. -/
def rejection (peer : String) : Notice :=
  .warning ("Rejected connection from " ++ peer ++ " - session already active")

/-- Where the accepting of clients has got to. -/
inductive Desk
  /-- No client is accepted. -/
  | closed
  | waiting
  /-- A client has the slot, and its session is about to begin. -/
  | admitting
  /-- A client is turned away, which is given by its number and its address. -/
  | refusing (client : Nat) (peer : String)
  deriving DecidableEq, Repr

/-- Where a session has got to. -/
inductive Stage
  | running
  /-- Its run is over, normally or by a fault. -/
  | ended
  /-- It has lost its place, but still has the slot. -/
  | leaving
  | left
  deriving DecidableEq, Repr

/-- What is done at the reception. -/
inductive Deed
  /-- The slot is taken for a session. -/
  | took (session : Nat)
  /-- A session gives the slot back. -/
  | gave (session : Nat)
  | told (client : Nat) (text : String)
  | hungUp (client : Nat)
  | notice (notice : Notice)
  deriving DecidableEq, Repr

/-- Who is served, and who was. -/
structure Reception where
  guard : Guard := {}
  desk : Desk := .closed
  /-- The session that the server may have to close. -/
  current : Option Nat := none
  /-- The stages of the sessions, by their numbers. -/
  stages : List Stage := []
  /-- How many clients have arrived. -/
  clients : Nat := 0
  /-- What was done so far, the last deed first. -/
  log : List Deed := []
  deriving DecidableEq, Repr

namespace Reception

/-- Notes a deed. -/
def note (r : Reception) (deed : Deed) : Reception := { r with log := deed :: r.log }

/-! ## The desk -/

/-- The desk opens, unless it is open. -/
def openDesk (r : Reception) : Reception :=
  match r.desk with
  | .closed => { r with desk := .waiting }
  | _ => r

/-- The desk closes when no client is there. -/
def closeDesk (r : Reception) : Reception :=
  match r.desk with
  | .waiting => { r with desk := .closed }
  | _ => r

/-- A client arrives from an address, and gets the slot if it is free. -/
def arrive (r : Reception) (peer : String) : Reception :=
  match r.desk with
  | .waiting =>
    match r.guard.tryAcquire with
    | (true, guard) =>
      { r with guard, desk := .admitting, clients := r.clients + 1 }.note (.took r.stages.length)
    | (false, guard) => { r with guard, desk := .refusing r.clients peer, clients := r.clients + 1 }
  | _ => r

/-- The session of the client that has the slot begins. -/
def seat (r : Reception) : Reception :=
  match r.desk with
  | .admitting =>
    { r with
      desk := .waiting
      current := some r.stages.length
      stages := r.stages ++ [.running] }
  | _ => r

/-- The client that has not got the slot is told so, if it can be reached, and is hung up on. -/
def refuse (r : Reception) (reached : Bool) : Reception :=
  match r.desk with
  | .refusing client peer =>
    let warned := { r with desk := .waiting }.note (.notice (rejection peer))
    let told := if reached then warned.note (.told client busyMessage) else warned
    told.note (.hungUp client)
  | _ => r

/-! ## The way out of a session -/

/-- The run of a session is over. -/
def finish (r : Reception) (session : Nat) : Reception :=
  if r.stages[session]? = some .running then { r with stages := r.stages.set session .ended } else r

/-- A session whose run is over loses its place, whosever place it is. -/
def withdraw (r : Reception) (session : Nat) : Reception :=
  if r.stages[session]? = some .ended then
    { r with current := none, stages := r.stages.set session .leaving }
  else r

/-- A session that has lost its place gives the slot back. -/
def release (r : Reception) (session : Nat) : Except Guard.Fault Reception :=
  if r.stages[session]? = some .leaving then do
    let guard ← r.guard.release
    return { r with guard, stages := r.stages.set session .left }.note (.gave session)
  else .ok r

/-- The whole way. -/
def leave (r : Reception) (session : Nat) : Except Guard.Fault Reception :=
  ((r.finish session).withdraw session).release session

end Reception

end DialUp.Server
