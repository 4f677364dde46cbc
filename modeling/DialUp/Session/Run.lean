import DialUp.Session.Typing

/-!
# Sessions: from greeting to close

`runOver` is a whole session (`ModemSession.run`). A client is read when it has sent something, and
what one read gives is any part of that, so a run is given by its waits (`Wait`): what others do to
the session in each, and the chunk that is read in the end, if there is one. `run` is the case of a
client that has sent all it will ever send before the first read, and of nobody else acting.
-/

namespace DialUp.Session

/-- The greeting of a session. -/
def greeting : String := bannerText ++ "\r\nReady\r\n"

/-- A byte string cut into chunks of a size, the last one perhaps shorter. -/
def chunksOf (size : Nat) (data : Bytes) : List Bytes :=
  if _h : size = 0 ∨ data = [] then []
  else data.take size :: chunksOf size (data.drop size)
termination_by data.length
decreasing_by
  have : data.length ≠ 0 := fun h0 => _h (.inr (List.eq_nil_of_length_eq_zero h0))
  simp only [List.length_drop]
  omega

/-- What others do to a session while it runs. -/
inductive Outside
  /-- The remote end of line `i` acts. -/
  | remote (i : Nat) (actions : List Line.Action)
  | close
  deriving DecidableEq, Repr

/-- What such a deed does. -/
def Outside.act (s : Session) : Outside → Session
  | .remote i actions => s.remote i actions
  | .close => s.close

/-- What happens while a session waits for its client: others act, and then the client has sent a
chunk, or nothing yet. -/
structure Wait where
  acts : List Outside := []
  chunk : Option Bytes := none
  deriving DecidableEq, Repr

/-- Takes what the client has sent. -/
def Wait.take (wait : Wait) : Act := do
  modify fun s => wait.acts.foldl Outside.act s
  match wait.chunk with
  | some chunk => feed chunk
  | none => pure ()

/-- Waits for the client again and again, handling the signals before each time. What ends the
client's input is either its end or a reason why it cannot be read any more. -/
def attend (ending : Option String) : (waits : List Wait) → Act
  | [] => do
    if !(← get).closed then
      processEvents
      match ending with
      | none => pure ()
      | some reason => throw (.clientUnreadable reason)
  | wait :: rest => do
    if !(← get).closed then
      processEvents
      wait.take
      attend ending rest

/-- The chunks of a client that come one right after the other. -/
def waitsOf (chunks : List Bytes) : List Wait := chunks.map fun chunk => { chunk := some chunk }

/-- Takes the client's chunks one by one. -/
def converse (ending : Option String) (chunks : List Bytes) : Act := attend ending (waitsOf chunks)

/-- Greets the client, if it is to be greeted. -/
def greet : Act := do
  if (← get).settings.greeting then writeText greeting

/-- What the operator is told of an error that ends the session, unless it was closed. -/
def reportError (s : Session) (reason : String) : Session :=
  if s.closed then s else s.emit (.notice (.error ("Error in modem session: " ++ reason)))

/-- The answer of `run` to a fault: a lost client ends the session quietly; a client that cannot be
read and a value that cannot be used are errors. Any other fault is not handled. -/
def report (s : Session) : Fault → Except Fault Session
  | .clientLost _ => .ok s
  | .clientUnreadable reason | .broken (.badValue reason) => .ok (s.reportError reason)
  | .broken (.other kind) => .error (.broken (.other kind))
  | .bridgeMissing => .error .bridgeMissing

/-- Runs a session over the given waits. However it ends, the session is closed. -/
def runOver (waits : List Wait) (ending : Option String) : Act := fun s =>
  match (do greet; attend ending waits : Act) s with
  | .ok _ s => .ok () s.close
  | .error fault s =>
    match s.report fault with
    | .ok s => .ok () s.close
    | .error fault => .error fault s.close

/-- Runs a session over the client's input, read in chunks of the given size. -/
def run (input : Bytes) (readSize : Nat) (ending : Option String) : Act :=
  runOver (waitsOf (chunksOf readSize input)) ending

end DialUp.Session
