import DialUp.Bytes
import DialUp.Failure
import DialUp.Notice
import DialUp.Numeral.Double
import DialUp.Numeral.Integer

/-!
# Lines over a socket

An outgoing connection over a TCP socket (`SocketTransport`). What the socket does in answer to each
call is given with the call, and what is asked of the socket is a list of requests, in order. A
close from another thread may fall into a read, while it waits and while it receives (`Reading`).

Out of scope: a write that the socket takes in part before it fails, and real time.
-/

namespace DialUp.Line.Socket

open DialUp (Bytes Failure Notice)
open DialUp.Numeral (Double)

/-- What is asked of the socket. -/
inductive Request
  | connect (host : String) (port : Int) (timeout : Double)
  | noDelay
  | sendAll (data : Bytes)
  | select (seconds : Double)
  | receive (size : Int)
  | shutDown
  | close
  deriving DecidableEq, Repr

/-- An open or closed socket line. -/
structure State where
  host : String
  port : Int
  pollInterval : Double
  closed : Bool := false
  deriving DecidableEq, Repr

/-- What a call comes to. -/
structure Outcome (α : Type) where
  result : Except Failure α
  state : State
  requests : List Request := []
  notices : List Notice := []

/-- The endpoint as messages name it. -/
def endpoint (host : String) (port : Int) : String := host ++ ":" ++ Numeral.integerText port

/-- The failure of a call. -/
def transportFailure (message : String) : Failure := { kind := .transport, message }

/-- Opens a line. `refusal` is the socket's reason if it cannot connect. -/
def opening (host : String) (port : Int) (timeout pollInterval : Double)
    (refusal : Option String) : Outcome Unit :=
  let state : State := { host, port, pollInterval }
  let connect : Request := .connect host port timeout
  match refusal with
  | some reason =>
    let message := "Failed to connect to " ++ endpoint host port ++ ": " ++ reason
    { result := .error (transportFailure message), state, requests := [connect]
      notices := [.error message] }
  | none => { result := .ok (), state, requests := [connect, .noDelay] }

/-- Writes a chunk. `refusal` is the socket's reason if it does not take the chunk. -/
def write (s : State) (data : Bytes) (refusal : Option String) : Outcome Nat :=
  match refusal with
  | some reason =>
    let message := "Socket write failed: " ++ reason
    { result := .error (transportFailure message), state := s, notices := [.error message] }
  | none => { result := .ok data.length, state := s, requests := [.sendAll data] }

/-- Closes the line. A shutdown that the socket refuses does not matter. -/
def close (s : State) : Outcome Unit :=
  if s.closed then { result := .ok (), state := s }
  else { result := .ok (), state := { s with closed := true }, requests := [.shutDown, .close] }

/-- Closes the line from this end, or leaves it as it is. -/
def closeIf (s : State) (closing : Bool) : Outcome Unit :=
  if closing then close s else { result := .ok (), state := s }

/-- What the socket does while a read waits, and what it hands over after that. -/
structure Reading where
  /-- The line is closed from this end while the read waits. -/
  closedMeanwhile : Bool := false
  /-- The wait itself fails. -/
  selectFault : Option String := none
  /-- Nothing arrives during the wait. -/
  idle : Bool := false
  /-- The line is closed from this end while the read receives. -/
  closedReceiving : Bool := false
  /-- What arrives, or why receiving fails. -/
  received : Except String Bytes := .ok []

/-- The failure of a read on a line that was closed from this end. -/
def closedFailure : Failure := transportFailure "Socket transport is closed"

/-- The failure of a read on a line that the remote end closed. -/
def remoteFailure (s : State) : Failure :=
  { kind := .remoteClosed, message := "Connection closed by " ++ endpoint s.host s.port }

/-- The answer to a wait or a receive that failed. -/
def readFault (s : State) (reason : String) : Except Failure Bytes × List Notice :=
  if s.closed then (.error closedFailure, [])
  else
    let message := "Socket read failed: " ++ reason
    (.error (transportFailure message), [.error message])

/-- What a receive of up to `size` bytes hands over. No socket takes a negative size. -/
def receive (size : Int) (received : Except String Bytes) : Except String Bytes :=
  if size < 0 then .error "negative buffersize in recv"
  else received.map (·.take size.toNat)

/-- Reads up to `size` bytes, waiting at most one poll interval. -/
def read (s : State) (size : Int) (r : Reading) : Outcome Bytes :=
  if s.closed then { result := .error closedFailure, state := s }
  else
    let waited := closeIf s r.closedMeanwhile
    let requests := .select s.pollInterval :: waited.requests
    match r.selectFault with
    | some reason =>
      let (result, notices) := readFault waited.state reason
      { result, state := waited.state, requests, notices }
    | none =>
      if r.idle then { result := .ok [], state := waited.state, requests }
      else
        let received := closeIf waited.state r.closedReceiving
        let requests := requests ++ .receive size :: received.requests
        match receive size r.received with
        | .error reason =>
          let (result, notices) := readFault received.state reason
          { result, state := received.state, requests, notices }
        | .ok [] => { result := .error (remoteFailure s), state := received.state, requests }
        | .ok data => { result := .ok data, state := received.state, requests }

end DialUp.Line.Socket
