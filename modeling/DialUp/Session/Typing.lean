import DialUp.Session.Dial

/-!
# Sessions: command mode

Bytes typed in command mode build up a line, which a carriage return or a line feed ends
(`_handle_command_byte`). The line is answered first (`_handle_line`); its intent is carried out
after that (`_execute`), and only if the answer was delivered.
-/

namespace DialUp.Session

/-- Carries out an intent. -/
def execute : Intent → Act
  | .reset => modify dropConnection
  | .hangUp => modify dropConnection
  | .setEcho enabled => modify fun s => { s with echo := enabled }
  | .setVerbose enabled => modify fun s => { s with verbose := enabled }
  | .escape => modify fun s => if s.mode = .connected then { s with mode := .command } else s
  | .goOnline => goOnline
  | .dial number => dial number
  | .acknowledge => pure ()

/-- Writes a response to the client. -/
def respond (response : Response) : Act :=
  if response = .silence then pure () else writeText response.text

/-- Answers a line and carries out its intent. -/
def handleLine (line : String) : Act := do
  let reply := Command.interpret line
  respond reply.response
  match reply.intent with
  | some intent => execute intent
  | none => pure ()

/-- Writes to the client if it wants its typing echoed. -/
def echoBack (data : Bytes) : Act := do
  if (← get).echo then write .modem data

/-- One byte typed in command mode. -/
def typeByte (byte : UInt8) : Act := do
  let s ← get
  if byte == 0x0D || byte == 0x0A then
    if !s.typed.isEmpty then
      set { s with typed := [] }
      echoBack [0x0D, 0x0A]
      handleLine (String.ofList s.typed.reverse)
  else if byte == 0x08 || byte == 0x7F then
    if !s.typed.isEmpty then
      set { s with typed := s.typed.tail }
      echoBack [0x08, 0x20, 0x08]
  else if 0x20 ≤ byte && byte < 0x7F then
    set { s with typed := Char.ofNat byte.toNat :: s.typed }
    echoBack [byte]

/-- Bytes of a chunk that began in command mode. As soon as a byte has put the line online, the
rest of the chunk is online data. -/
def feedBytes : Bytes → Act
  | [] => pure ()
  | byte :: rest => do
    if (← get).mode = .connected then forward (byte :: rest)
    else
      typeByte byte
      feedBytes rest

/-- One chunk from the client. -/
def feed (data : Bytes) : Act := do
  if (← get).mode = .connected then forward data else feedBytes data

end DialUp.Session
