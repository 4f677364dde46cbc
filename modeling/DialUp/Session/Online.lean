import DialUp.Session.Basic

/-!
# Sessions: online

In online mode the client's bytes go to the remote end, a chunk that is exactly the escape sequence
apart (`_handle_online_data`), and remote data goes to the client (`_handle_bridge_event`). While
the client is back in command mode, remote data is held back, up to a limit beyond which the oldest
bytes are dropped (`_hold`).
-/

namespace DialUp.Session

/-- The escape sequence as bytes. -/
def escapeBytes : Bytes := [0x2B, 0x2B, 0x2B]

/-- One chunk from the client while online. -/
def forward (data : Bytes) : Act := do
  if data == escapeBytes then
    enter .command
    writeText "OK\r\n"
  else
    let s ← get
    match s.current with
    | none => throw .bridgeMissing
    | some i => set (s.onBridge i (·.send s.closed data))

/-- The chunks without their first `excess` bytes. -/
def dropOldest : (excess : Nat) → List Bytes → List Bytes
  | 0, chunks => chunks
  | _, [] => []
  | excess + 1, chunk :: rest =>
    if chunk.length ≤ excess + 1 then dropOldest (excess + 1 - chunk.length) rest
    else chunk.drop (excess + 1) :: rest

/-- What the operator is told when held bytes are dropped. -/
def overflowNotice (limit : Nat) : Notice :=
  .warning ("Held upstream data over " ++ Numeral.integerText limit ++ " bytes, dropping oldest")

/-- Holds a chunk of bridge `number` back for the client. -/
def hold (s : Session) (number : Nat) (data : Bytes) : Session :=
  let held := s.held ++ [data]
  let size := s.heldSize + data.length
  let limit := s.settings.heldLimit
  if limit < size then
    ({ s with held := dropOldest (size - limit) held, heldSize := limit }.emit
      (.dropped number (held.flatten.take (size - limit)))).emit (.notice (overflowNotice limit))
  else { s with held, heldSize := size }

/-- Takes the first held chunk out. -/
def unhold (s : Session) (chunk : Bytes) (rest : List Bytes) : Session :=
  { s with held := rest, heldSize := s.heldSize - chunk.length }

/-- Hands the client what was held back from bridge `number`. -/
def flush (number : Nat) : (chunks : List Bytes) → Act
  | [] => pure ()
  | chunk :: rest => do
    modify (·.unhold chunk rest)
    write (.line number) chunk
    flush number rest

/-- Goes back online, if the connection is still there. -/
def goOnline : Act := do
  let s ← get
  match s.current with
  | none => pure ()
  | some i =>
    if s.bridges[i]?.any (·.connected) then
      enter .connected
      flush i s.held

/-- The result code of a dial that came to nothing, and of a connection that is lost. -/
def noCarrier : Act := writeText "NO CARRIER\r\n"

/-- Discards the current bridge, whose line has ended, and tells the client if it is online. -/
def loseConnection : Act := do
  let s ← get
  set { s with current := none }.clearHeld
  if s.mode = .connected then
    enter .command
    noCarrier

/-- Handles one signal. Signals of bridges that are not the current one are ignored. -/
def handle (event : Nat × Signal) : Act := do
  let s ← get
  if s.current == some event.1 then
    match event.2 with
    | .data chunk =>
      if s.mode = .connected then write (.line event.1) chunk
      else modify (·.hold event.1 chunk)
    | .closed => loseConnection

/-- Takes the first signal, which is the given one, out of the queue and handles it. -/
def handleFirst (event : Nat × Signal) : Act := do
  modify fun s => { s with queue := s.queue.drop 1 }
  handle event

/-- Handles the given signals, which are those at the front of the queue. -/
def handleAll : (events : List (Nat × Signal)) → Act
  | [] => pure ()
  | event :: rest => do
    handleFirst event
    handleAll rest

/-- Handles every signal queued so far. -/
def processEvents : Act := do
  handleAll (← get).queue

end DialUp.Session
